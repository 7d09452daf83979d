import ListenerPorts.Yaml.Lexer
import ListenerPorts.Yaml.Resolve

set_option autoImplicit false

/-! # From tokens to nodes

A document is a tree of nodes, each with its type. An alias is replaced by the node that it stands
for, which has to be complete before it. A text holds at most one document.
-/

namespace ListenerPorts.Yaml

inductive Node where
  | scalar (tag : Tag) (text : String)
  | sequence (tag : Tag) (items : List Node)
  | mapping (tag : Tag) (entries : List (Node × Node))

def Node.tag : Node → Tag
  | scalar t _ | sequence t _ | mapping t _ => t

/-- What reading nodes works on: the tokens left, the anchored nodes, and the tag handles. -/
structure Outline where
  tokens : List Token
  anchors : List (String × Node)
  handles : List (String × String)

/-- A step of reading nodes. -/
abbrev Read (α : Type) := StateT Outline (Except Stop) α

namespace Read

/-- Fails because the text is no YAML. -/
def failWith {α : Type} (c : Complaint) : Read α := fun _ => malformed c

/-- The next token. A text that is broken there fails. -/
def peek : Read Token := fun s =>
  match s.tokens with
  | [] => .ok (.streamEnd, s)
  | .broken f :: _ => .error f
  | t :: _ => .ok (t, s)

def advance : Read Unit := modify fun s => { s with tokens := s.tokens.tail }

/-- The node without content that stands where one is left out. -/
def empty : Node := .scalar .null ""

/-- The name of a tag with its handle expanded. -/
def tagName (handle : Option String) (suffix : String) : Read String := do
  match handle with
  | none => return suffix
  | some h =>
    match (← get).handles.lookup h with
    | some expansion => return expansion ++ suffix
    | none => failWith .handleUndefined

/-- The anchor and the tag in front of a node, in either order. -/
structure Properties where
  anchor : Option String
  tag : Option String

def tag? : Read (Option (Option String × String)) := do
  match ← peek with
  | .tag handle suffix => advance; return some (handle, suffix)
  | _ => return none

def anchor? : Read (Option String) := do
  match ← peek with
  | .anchor name => advance; return some name
  | _ => return none

def properties : Read Properties := do
  let first ← anchor?
  let written ← tag?
  let second ← if first.isNone && written.isSome then anchor? else pure none
  let tag ← match written with
    | some (handle, suffix) => some <$> tagName handle suffix
    | none => pure none
  return ⟨first.or second, tag⟩

/-- Fails if the anchor has a node already. -/
def checkAnchor (anchor : Option String) : Read Unit := do
  if let some name := anchor then
    if ((← get).anchors.lookup name).isSome then failWith .anchorRepeated

def define (anchor : Option String) (n : Node) : Read Node := do
  checkAnchor anchor
  if let some name := anchor then
    modify fun s => { s with anchors := (name, n) :: s.anchors }
  return n

/-- The type of a scalar: as its tag states, or as its text shows if it is plain or asks for it. -/
def scalarTag (tag : Option String) (text : String) (plain : Bool) : Tag :=
  match tag with
  | none => if plain then .ofPlain text else .text
  | some "!" => .ofPlain text
  | some name => .ofName name

/-- The type of a collection: as its tag states, or the one of its kind. -/
def collectionTag (tag : Option String) (kind : Tag) : Tag :=
  match tag with
  | none | some "!" => kind
  | some name => .ofName name

/-- Whether the token is one of a few that nothing stands in front of. -/
def endsEntry (stops : List Token) (t : Token) : Bool :=
  stops.any fun s =>
    match s, t with
    | .blockEntry, .blockEntry | .blockEnd, .blockEnd | .key, .key | .value, .value
    | .flowEntry, .flowEntry | .flowSequenceEnd, .flowSequenceEnd
    | .flowMappingEnd, .flowMappingEnd => true
    | _, _ => false

mutual

/-- Reads a node. A block collection is allowed only inside a block, and a sequence without
indentation of its own only as the part of an entry. -/
def node : (fuel : Nat) → (inBlock bareEntries : Bool) → Read Node
  | 0, _, _ => failWith .tooDeep
  | fuel + 1, inBlock, bareEntries => do
    match ← peek with
    | .alias name =>
      advance
      match (← get).anchors.lookup name with
      | some n => return n
      | none => failWith .aliasUndefined
    | _ =>
      let p ← properties
      checkAnchor p.anchor
      let sequence (items : Read (List Node)) : Read Node := do
        define p.anchor (.sequence (collectionTag p.tag .sequence) (← items))
      let mapping (entries : Read (List (Node × Node))) : Read Node := do
        define p.anchor (.mapping (collectionTag p.tag .mapping) (← entries))
      match ← peek, inBlock, bareEntries with
      | .blockEntry, _, true => sequence (bareItems fuel)
      | .scalar text plain, _, _ =>
        advance
        define p.anchor (.scalar (scalarTag p.tag text plain) text)
      | .flowSequenceStart, _, _ => advance; sequence (flowItems fuel true)
      | .flowMappingStart, _, _ => advance; mapping (flowEntries fuel true)
      | .blockSequenceStart, true, _ => advance; sequence (blockItems fuel)
      | .blockMappingStart, true, _ => advance; mapping (blockEntries fuel)
      | _, _, _ =>
        if p.anchor.isSome || p.tag.isSome then
          define p.anchor (.scalar (scalarTag p.tag "" true) "")
        else failWith .nodeExpected

/-- Reads a node, or none where one of the stops follows. -/
def nodeUnless : (fuel : Nat) → (stops : List Token) → (inBlock bareEntries : Bool) → Read Node
  | 0, _, _, _ => failWith .tooDeep
  | fuel + 1, stops, inBlock, bareEntries => do
    if endsEntry stops (← peek) then return empty else node fuel inBlock bareEntries

/-- Reads the items of a block sequence up to its end. -/
def blockItems : (fuel : Nat) → Read (List Node)
  | 0 => failWith .tooDeep
  | fuel + 1 => do
    match ← peek with
    | .blockEntry =>
      advance
      let item ← nodeUnless fuel [.blockEntry, .blockEnd] true false
      return item :: (← blockItems fuel)
    | .blockEnd => advance; return []
    | _ => failWith .blockEndExpected

/-- Reads the items of a sequence without indentation of its own. -/
def bareItems : (fuel : Nat) → Read (List Node)
  | 0 => failWith .tooDeep
  | fuel + 1 => do
    match ← peek with
    | .blockEntry =>
      advance
      let item ← nodeUnless fuel [.blockEntry, .key, .value, .blockEnd] true false
      return item :: (← bareItems fuel)
    | _ => return []

/-- Reads the entries of a block mapping up to its end. A key may stand without a value, but not a
value without a key. -/
def blockEntries : (fuel : Nat) → Read (List (Node × Node))
  | 0 => failWith .tooDeep
  | fuel + 1 => do
    match ← peek with
    | .key =>
      advance
      let key ← nodeUnless fuel [.key, .value, .blockEnd] true true
      let value ← valueAfter fuel [.key, .value, .blockEnd] true
      return (key, value) :: (← blockEntries fuel)
    | .blockEnd => advance; return []
    | _ => failWith .blockEndExpected

/-- Reads the value of an entry, which may be left out. -/
def valueAfter : (fuel : Nat) → (stops : List Token) → (inBlock : Bool) → Read Node
  | 0, _, _ => failWith .tooDeep
  | fuel + 1, stops, inBlock => do
    match ← peek with
    | .value => advance; nodeUnless fuel stops inBlock inBlock
    | _ => return empty

/-- Reads the items of a flow sequence up to its bracket. A key among them is a mapping of one
entry. -/
def flowItems : (fuel : Nat) → (first : Bool) → Read (List Node)
  | 0, _ => failWith .tooDeep
  | fuel + 1, first => do
    match ← peek with
    | .flowSequenceEnd => advance; return []
    | t =>
      if !first then
        match t with
        | .flowEntry => advance
        | _ => failWith .commaExpected
      match ← peek with
      | .flowSequenceEnd => advance; return []
      | .key =>
        advance
        let key ← nodeUnless fuel [.value, .flowEntry, .flowSequenceEnd] false false
        let value ← valueAfter fuel [.flowEntry, .flowSequenceEnd] false
        return .mapping .mapping [(key, value)] :: (← flowItems fuel false)
      | _ =>
        let item ← node fuel false false
        return item :: (← flowItems fuel false)

/-- Reads the entries of a flow mapping up to its brace. A node alone is a key without a value. -/
def flowEntries : (fuel : Nat) → (first : Bool) → Read (List (Node × Node))
  | 0, _ => failWith .tooDeep
  | fuel + 1, first => do
    match ← peek with
    | .flowMappingEnd => advance; return []
    | t =>
      if !first then
        match t with
        | .flowEntry => advance
        | _ => failWith .commaExpected
      match ← peek with
      | .flowMappingEnd => advance; return []
      | .key =>
        advance
        let key ← nodeUnless fuel [.value, .flowEntry, .flowMappingEnd] false false
        let value ← valueAfter fuel [.flowEntry, .flowMappingEnd] false
        return (key, value) :: (← flowEntries fuel false)
      | _ =>
        let key ← node fuel false false
        return (key, empty) :: (← flowEntries fuel false)

end

/-! ## Documents -/

/-- The handles that are defined without a directive. -/
def defaultHandles : List (String × String) := [("!", "!"), ("!!", "tag:yaml.org,2002:")]

/-- Takes in the directives in front of a document; `versioned` tells whether a version was
given. -/
def directives : (fuel : Nat) → (versioned : Bool) → (handles : List (String × String)) → Read Unit
  | 0, _, _ => failWith .tooDeep
  | fuel + 1, versioned, handles => do
    match ← peek with
    | .directive d =>
      advance
      match d with
      | .version major =>
        if versioned then failWith .handleRepeated
        else if major ≠ 1 then failWith .versionUnknown
        else directives fuel true handles
      | .handle name expansion =>
        if (handles.lookup name).isSome then failWith .handleRepeated
        else directives fuel versioned ((name, expansion) :: handles)
      | .other => directives fuel versioned handles
    | _ => modify fun s => { s with handles := handles ++ defaultHandles }

def skipEnds : (fuel : Nat) → Read Unit
  | 0 => failWith .tooDeep
  | fuel + 1 => do
    match ← peek with
    | .documentEnd => advance; skipEnds fuel
    | _ => pure ()

def markedDocument (fuel : Nat) : Read Node := do
  directives fuel false []
  match ← peek with
  | .documentStart =>
    advance
    match ← peek with
    | .directive _ | .documentStart | .documentEnd | .streamEnd => return empty
    | _ => node fuel true false
  | _ => failWith .startExpected

/-- Reads the only document of a text, if it has one. -/
def document (fuel : Nat) : Read (Option Node) := do
  match ← peek with
  | .streamEnd => return none
  | first =>
    let n ← match first with
      | .directive _ | .documentStart => markedDocument fuel
      | _ => node fuel true false
    skipEnds fuel
    match ← peek with
    | .streamEnd => return some n
    | .directive _ | .documentStart => failWith .secondDocument
    | _ => failWith .startExpected

end Read

/-- The document that tokens make up. Each node takes at least one token or ends at one. -/
def Node.ofTokens (ts : List Token) : Except Stop (Option Node) := do
  let fuel := 4 * ts.length + 4
  let (n, _) ← (Read.document fuel).run ⟨ts, [], Read.defaultHandles⟩
  return n

end ListenerPorts.Yaml
