import ListenerPorts.Fault

set_option autoImplicit false

/-! # Places in a text

A cursor is a place in a text: the characters that are left, and how many characters, lines and
columns lie before them. The line breaks are those of YAML, to which the next-line, line-separator
and paragraph-separator characters belong.
-/

namespace ListenerPorts.Yaml

/-- What is wrong with a text that is no YAML. -/
inductive Complaint where
  | unprintable
  | keyUnfinished
  | noToken
  | entryNotAllowed
  | keyNotAllowed
  | valueNotAllowed
  | unopened
  | badName
  | badTag
  | badDirective
  | badBlockHeader
  | unterminated
  | badEscape
  | markerInScalar
  | versionUnknown
  | handleRepeated
  | handleUndefined
  | startExpected
  | nodeExpected
  | blockEndExpected
  | commaExpected
  | aliasUndefined
  | anchorRepeated
  | secondDocument
  | keyNotScalar
  | mergeNotMapping
  | tagNotUsable
  | tooDeep

def Complaint.text : Complaint → String
  | unprintable => "a character is not allowed in a text"
  | keyUnfinished => "a key is not followed by ':'"
  | noToken => "a character cannot start anything"
  | entryNotAllowed => "a sequence entry is not allowed here"
  | keyNotAllowed => "a mapping key is not allowed here"
  | valueNotAllowed => "a mapping value is not allowed here"
  | unopened => "a bracket is closed that was not opened"
  | badName => "an anchor or alias has no proper name"
  | badTag => "a tag is not well-formed"
  | badDirective => "a directive is not well-formed"
  | badBlockHeader => "the header of a block scalar is not well-formed"
  | unterminated => "a quoted scalar is not closed"
  | badEscape => "an escape is not known"
  | markerInScalar => "a quoted scalar holds a document marker"
  | versionUnknown => "the version is not supported"
  | handleRepeated => "a directive is repeated"
  | handleUndefined => "a tag handle is not defined"
  | startExpected => "the start of a document was expected"
  | nodeExpected => "a node was expected"
  | blockEndExpected => "the end of a block was expected"
  | commaExpected => "a comma or a closing bracket was expected"
  | aliasUndefined => "an alias is not defined"
  | anchorRepeated => "an anchor is defined twice"
  | secondDocument => "there is a second document"
  | keyNotScalar => "a mapping key is a collection"
  | mergeNotMapping => "what is merged is no mapping"
  | tagNotUsable => "a tag does not fit its node"
  | tooDeep => "the text is nested too deeply"

inductive Stop where
  | malformed (complaint : Complaint)
  /-- a scalar has the form of a type but stands for no value of it -/
  | scalarUnreadable
  | integerEmpty
  | notTruthWord
  /-- a number is larger than a step can take -/
  | overflow
  /-- an escape stands for half of a character -/
  | halfCharacter

/-- What is answered for a text at which reading stops. -/
def Stop.rejection : Stop → Rejection
  | malformed complaint => .malformed complaint.text
  | scalarUnreadable => .failed .scalarUnreadable
  | integerEmpty => .failed .integerEmpty
  | notTruthWord => .failed .notTruthWord
  | overflow => .failed .overflow
  | halfCharacter => .failed .halfCharacter

def malformed {α : Type} (c : Complaint) : Except Stop α := .error (.malformed c)

/-! ## Characters -/

def isBreak (c : Char) : Bool :=
  c == '\n' || c == '\r' || c == '\u0085' || c == '\u2028' || c == '\u2029'

/-- Whether a line ends before the next character, or the text does. -/
def lineEnds (next : Option Char) : Bool := next.all isBreak

/-- Whether a word ends before the next character. -/
def wordEnds (next : Option Char) : Bool := next.all fun c => isBreak c || c == ' ' || c == '\t'

/-- Whether the next character ends a line or is a space. -/
def spaceOrLineEnds (next : Option Char) : Bool := next.all fun c => isBreak c || c == ' '

/-- Whether the character may stand in the name of an anchor, a handle or a directive. -/
def isNameChar (c : Char) : Bool := c.isAlphanum || c == '-' || c == '_'

/-- Whether a text may hold the character. -/
def isAllowed (c : Char) : Bool :=
  let n := c.toNat
  n == 0x09 || n == 0x0A || n == 0x0D || (0x20 ≤ n && n ≤ 0x7E) || n == 0x85 ||
    (0xA0 ≤ n && n ≤ 0xD7FF) || (0xE000 ≤ n && n ≤ 0xFFFD) || 0x10000 ≤ n

/-! ## Cursors -/

structure Cursor where
  rest : List Char
  index : Nat
  line : Nat
  column : Nat

namespace Cursor

def start (text : List Char) : Cursor := ⟨text, 0, 0, 0⟩

def peek (c : Cursor) : Option Char := c.rest.head?

/-- The place behind the next character. A carriage return breaks a line unless a line feed, which
does, follows it. A byte order mark takes no column. -/
def next (c : Cursor) : Cursor :=
  match c.rest with
  | [] => c
  | x :: xs =>
    if isBreak x && !(x == '\r' && xs.head? == some '\n') then ⟨xs, c.index + 1, c.line + 1, 0⟩
    else if x == '\uFEFF' then ⟨xs, c.index + 1, c.line, c.column⟩
    else ⟨xs, c.index + 1, c.line, c.column + 1⟩

def skip : Nat → Cursor → Cursor
  | 0, c => c
  | n + 1, c => skip n c.next

/-- The characters at the front that have a property, taken from the characters left. -/
def spanFrom (p : Char → Bool) : List Char → Cursor → List Char × Cursor
  | [], c => ([], c)
  | x :: xs, c =>
    if p x then
      let (taken, left) := spanFrom p xs c.next
      (x :: taken, left)
    else ([], c)

/-- The characters at the front that have a property, and the place behind them. -/
def span (p : Char → Bool) (c : Cursor) : List Char × Cursor := spanFrom p c.rest c

/-- The place behind the characters at the front that have a property. -/
def skipWhile (p : Char → Bool) (c : Cursor) : Cursor := (c.span p).2

def skipSpaces (c : Cursor) : Cursor := c.skipWhile (· == ' ')

/-- The line break at the front, as the character that stands for it, and the place behind it. The
breaks of the common systems are one and the same. -/
def lineBreak? (c : Cursor) : Option (Char × Cursor) :=
  match c.rest with
  | '\r' :: '\n' :: _ => some ('\n', c.skip 2)
  | '\u2028' :: _ => some ('\u2028', c.next)
  | '\u2029' :: _ => some ('\u2029', c.next)
  | x :: _ => if isBreak x then some ('\n', c.next) else none
  | [] => none

/-- The place behind the comment at the front, if there is one. -/
def skipComment (c : Cursor) : Cursor :=
  if c.peek = some '#' then c.skipWhile fun x => !isBreak x else c

/-- Whether three of the characters stand alone at the front, as document markers do. -/
def atMarker (m : Char) (c : Cursor) : Bool :=
  match c.rest with
  | x :: y :: z :: more => x == m && y == m && z == m && wordEnds more.head?
  | _ => false

def atDocumentMarker (c : Cursor) : Bool := c.atMarker '-' || c.atMarker '.'

/-- The place in the next line, if nothing but spaces and a comment is left in this one. -/
def nextLine (c : Cursor) (complaint : Complaint) : Except Stop Cursor :=
  let c := c.skipSpaces.skipComment
  if lineEnds c.peek then
    match c.lineBreak? with
    | some (_, after) => .ok after
    | none => .ok c
  else malformed complaint

end Cursor

end ListenerPorts.Yaml
