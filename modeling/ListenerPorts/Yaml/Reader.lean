import ListenerPorts.Yaml.Node
import ListenerPorts.Yaml.Typed

set_option autoImplicit false

/-! # Reading YAML

Reads a value from a YAML text. The values of a document are made level by level: all scalars of a
collection are read before any collection inside it is entered. When several parts of a document
have no value, reading stops at the shallowest one, and at the first among those of one level.

A mapping may merge others, whose entries come before its own. An own entry wins over a merged one,
and an entry of an earlier mapping in a list over one of a later mapping.
-/

namespace ListenerPorts.Yaml

/-- What becomes of a part of a document: a result, or why reading stops and how many levels below the
part. -/
abbrev Built (α : Type) := Except (Nat × Stop) α

namespace Built

variable {α β : Type}

/-- The same, seen from one level above. -/
def below : Built α → Built α
  | .ok a => .ok a
  | .error (depth, f) => .error (depth + 1, f)

/-- A result at this level. -/
def here : Except Stop α → Built α
  | .ok a => .ok a
  | .error f => .error (0, f)

/-- Two parts of one level, one behind the other. -/
def both (x : Built α) (y : Built β) : Built (α × β) :=
  match x, y with
  | .ok a, .ok b => .ok (a, b)
  | .error e, .ok _ => .error e
  | .ok _, .error e => .error e
  | .error e, .error e' => if e'.1 < e.1 then .error e' else .error e

/-- All parts of one level, in order. -/
def all : List (Built α) → Built (List α)
  | [] => .ok []
  | x :: xs =>
    match both x (all xs) with
    | .ok (a, as) => .ok (a :: as)
    | .error e => .error e

end Built

/-- Stops with a complaint about the level itself. -/
def malformedHere {α : Type} (c : Complaint) : Built α := .here (malformed c)

/-- The text of a scalar, or of the value under the key that stands for a mapping itself. -/
def Node.scalarText? : Node → Option String
  | .scalar _ text => some text
  | .sequence _ _ => none
  | .mapping _ entries => standing entries
where
  /-- The text under the key that stands for a mapping itself. -/
  standing : List (Node × Node) → Option String
    | [] => none
    | (k, v) :: es => if k.tag = .equals then v.scalarText? else standing es

/-- The value of a collection that a tag declares to be a scalar. -/
def scalarInstead (tag : Tag) (n : Node) : Built Value :=
  match n.scalarText? with
  | some text => .here (Typed.value tag text)
  | none => malformedHere .tagNotUsable

mutual

def valueOf : Node → Built Value
  | .scalar tag text =>
    match tag with
    | .sequence | .mapping => Built.below (malformedHere .tagNotUsable)
    | _ => .here (Typed.value tag text)
  | .sequence tag items =>
    match tag with
    | .sequence => (.list <$> Built.all (valuesOf items)).below
    | .mapping => Built.below (malformedHere .tagNotUsable)
    | _ => malformedHere .tagNotUsable
  | .mapping tag entries =>
    match tag with
    | .mapping =>
      Built.below <|
        match pairsOf entries with
        | .ok (merged, own) => (fun es => .map (Entries.ofList es)) <$> Built.all (merged ++ own)
        | .error f => .error (0, f)
    | .sequence => Built.below (malformedHere .tagNotUsable)
    | _ => scalarInstead tag (.mapping tag entries)

def valuesOf : List Node → List (Built Value)
  | [] => []
  | n :: ns => valueOf n :: valuesOf ns

/-- The key of an entry. The key that stands for a mapping itself is a text here. -/
def keyOf : Node → Built Value
  | .scalar tag text =>
    match tag with
    | .sequence | .mapping => malformedHere .keyNotScalar
    | .equals => .ok (.text text)
    | _ => .here (Typed.value tag text)
  | .sequence _ _ => malformedHere .keyNotScalar
  | .mapping tag entries =>
    match tag with
    | .sequence | .mapping => malformedHere .keyNotScalar
    | _ => scalarInstead tag (.mapping tag entries)

/-- The entries of a mapping: those it merges, and its own. -/
def pairsOf : List (Node × Node) →
    Except Stop (List (Built (Value × Value)) × List (Built (Value × Value)))
  | [] => .ok ([], [])
  | (k, v) :: es =>
    match k.tag with
    | .merge => do
      let entries ← mergedOf v
      let (merged, own) ← pairsOf es
      return (entries ++ merged, own)
    | _ => do
      let (merged, own) ← pairsOf es
      return (merged, Built.both (keyOf k) (valueOf v) :: own)

/-- The entries that merging a node brings: those of a mapping, or of the mappings in a list, the
last one first. -/
def mergedOf : Node → Except Stop (List (Built (Value × Value)))
  | .scalar _ _ => malformed .mergeNotMapping
  | .mapping _ entries => do
    let (merged, own) ← pairsOf entries
    return merged ++ own
  | .sequence _ items => mergedItems items

/-- The entries of the mappings in a list, those of the last one first. -/
def mergedItems : List Node → Except Stop (List (Built (Value × Value)))
  | [] => .ok []
  | n :: ns =>
    match n with
    | .mapping _ entries => do
      let (merged, own) ← pairsOf entries
      let later ← mergedItems ns
      return later ++ (merged ++ own)
    | _ => malformed .mergeNotMapping

end

/-- Reads the value of the document that makes up the whole text; a text without a document stands
for null. -/
def readAll (cs : List Char) : Except Stop Value :=
  if cs.all isAllowed then do
    match ← Node.ofTokens (tokens cs) with
    | none => return .null
    | some n =>
      match valueOf n with
      | .ok v => return v
      | .error (_, s) => throw s
  else malformed .unprintable

/-- The value that a text stands for. -/
def read : Reader := fun text => (readAll text.toList).mapError Stop.rejection

end ListenerPorts.Yaml
