import ListenerPorts.Yaml.Scalar

set_option autoImplicit false

/-! # Tokens

The parts that a YAML text falls into. Indentation and the keys that are only known for such by the
colon behind them are made explicit, so that the grammar of tokens needs neither columns nor
lookahead.
-/

namespace ListenerPorts.Yaml

/-- A directive in front of a document; one that is not known says nothing. -/
inductive Directive where
  | version (major : Nat)
  | handle (name expansion : String)
  | other
deriving DecidableEq

inductive Token where
  | directive (d : Directive)
  | documentStart
  | documentEnd
  | blockSequenceStart
  | blockMappingStart
  | blockEnd
  | flowSequenceStart
  | flowSequenceEnd
  | flowMappingStart
  | flowMappingEnd
  | blockEntry
  | flowEntry
  | key
  | value
  | alias (name : String)
  | anchor (name : String)
  | tag (handle : Option String) (suffix : String)
  | scalar (text : String) (plain : Bool)
  | streamEnd
  /-- the text is broken from here on -/
  | broken (stop : Stop)

/-! ## Names and tags -/

/-- Reads the name of an anchor or alias behind its mark. -/
def readName (c : Cursor) : Except Stop (String × Cursor) :=
  let (name, c) := c.next.span isNameChar
  let ends := wordEnds c.peek ||
    c.peek.any ['?', ':', ',', ']', '\x7d', '%', '@', Char.ofNat 0x60].contains
  if name.isEmpty || !ends then malformed .badName else .ok (String.ofList name, c)

/-- Whether the character may stand in a tag as it is. -/
def isTagChar (c : Char) : Bool := c.isAlphanum || "-;/?:@&=+$,_.!~*'()[]%".toList.contains c

/-- The bytes that percent escapes at the front stand for, and how many characters they take. -/
def percentBytes : List Char → Except Stop (List UInt8 × Nat)
  | '%' :: a :: b :: cs =>
    match hexNumber? 2 [a, b] with
    | none => malformed .badTag
    | some n => do
      let (bytes, size) ← percentBytes cs
      return (n.toUInt8 :: bytes, size + 3)
  | '%' :: _ => malformed .badTag
  | _ => .ok ([], 0)

/-- Reads the characters of a tag; those read before are in `acc`, the last one first. -/
def tagChars : (fuel : Nat) → (acc : List Char) → Cursor → Except Stop (List Char × Cursor)
  | 0, acc, c => .ok (acc.reverse, c)
  | fuel + 1, acc, c =>
    match c.peek with
    | none => .ok (acc.reverse, c)
    | some x =>
      if x = '%' then do
        let (bytes, size) ← percentBytes c.rest
        match String.fromUTF8? (ByteArray.mk bytes.toArray) with
        | none => malformed .badTag
        | some s => tagChars fuel (s.toList.reverse ++ acc) (c.skip size)
      else if isTagChar x then tagChars fuel (x :: acc) c.next
      else .ok (acc.reverse, c)

/-- Reads a part of a tag, which may not be empty. -/
def tagPart (c : Cursor) : Except Stop (String × Cursor) := do
  let (cs, after) ← tagChars (c.rest.length + 1) [] c
  if c.index = after.index then malformed .badTag else return (String.ofList cs, after)

/-- Reads a handle: an exclamation mark, alone or with a name and a second mark behind it. -/
def tagHandle (c : Cursor) : Except Stop (String × Cursor) :=
  if c.peek = some '!' then
    if c.next.peek = some ' ' then .ok ("!", c.next)
    else
      let (name, after) := c.next.span isNameChar
      if after.peek = some '!' then .ok (String.ofList ('!' :: name ++ ['!']), after.next)
      else malformed .badTag
  else malformed .badTag

/-- Reads a tag: its handle, if it has one, and the rest. -/
def readTag (c : Cursor) : Except Stop (Option String × String × Cursor) := do
  let (handle, suffix, after) ←
    if c.next.peek = some '<' then do
      let (suffix, after) ← tagPart (c.skip 2)
      if after.peek = some '>' then pure (none, suffix, after.next) else malformed .badTag
    else if wordEnds c.next.peek then pure (none, "!", c.next)
    else do
      let word := c.next.rest.takeWhile fun x => !(isBreak x || x == ' ')
      let (handle, after) ←
        if word.contains '!' then tagHandle c else pure ("!", c.next)
      let (suffix, after) ← tagPart after
      pure (some handle, suffix, after)
  if spaceOrLineEnds after.peek then return (handle, suffix, after) else malformed .badTag

/-! ## Directives -/

def versionNumber (c : Cursor) : Except Stop (Nat × Cursor) :=
  let (digits, after) := c.span Char.isDigit
  if digits.isEmpty then malformed .badDirective
  else .ok (Numeral.ofDigits 10 (digits.map fun d => d.toNat - 48), after)

/-- Reads the version behind the name of its directive. -/
def versionDirective (c : Cursor) : Except Stop (Directive × Cursor) := do
  let (major, c) ← versionNumber c.skipSpaces
  if c.peek = some '.' then
    let (_, c) ← versionNumber c.next
    if spaceOrLineEnds c.peek then return (.version major, c) else malformed .badDirective
  else malformed .badDirective

/-- Reads the handle and its expansion behind the name of their directive. -/
def handleDirective (c : Cursor) : Except Stop (Directive × Cursor) := do
  let (name, c) ← tagHandle c.skipSpaces
  if c.peek = some ' ' then
    let (expansion, c) ← tagPart c.skipSpaces
    if spaceOrLineEnds c.peek then return (.handle name expansion, c) else malformed .badDirective
  else malformed .badDirective

/-- Reads a directive with the rest of its line. -/
def readDirective (c : Cursor) : Except Stop (Directive × Cursor) := do
  let (name, c) := c.next.span isNameChar
  if name.isEmpty || !spaceOrLineEnds c.peek then malformed .badDirective
  else
    let (directive, c) ← match String.ofList name with
      | "YAML" => versionDirective c
      | "TAG" => handleDirective c
      | _ => pure (.other, c.skipWhile fun x => !isBreak x)
    return (directive, ← c.nextLine .badDirective)

end ListenerPorts.Yaml
