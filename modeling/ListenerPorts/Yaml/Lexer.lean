import ListenerPorts.Yaml.Token

set_option autoImplicit false

/-! # From text to tokens

The lexer keeps the indentations of the open blocks, and for the block and every open bracket the
place where a simple key may have started. When a colon shows that one had, the key is marked
before the tokens that it consists of. A simple key is one line of at most 1024 characters.
-/

namespace ListenerPorts.Yaml

/-- A place where a simple key may have started. -/
structure SimpleKey where
  /-- how many tokens lie before it -/
  position : Nat
  /-- nothing but a key can stand there -/
  required : Bool
  index : Nat
  line : Nat
  column : Nat

/-- The state of the lexer: the tokens are kept with the last one first. -/
structure Lexer where
  cursor : Cursor
  tokens : List Token
  count : Nat
  /-- the column of the innermost open block, -1 outside of all blocks -/
  indent : Int
  /-- the columns of the blocks around it, from the inside out -/
  indents : List Int
  /-- the keys that may have started in the innermost open bracket -/
  key : Option SimpleKey
  /-- those around it, from the inside out, the block last -/
  outerKeys : List (Option SimpleKey)
  /-- whether a simple key may start at the next token -/
  keyAllowed : Bool
  finished : Bool

namespace Lexer

/-- The lexer in front of a text. A byte order mark there is skipped. -/
def start (text : List Char) : Lexer :=
  let c := Cursor.start text
  let c := if c.peek = some '\uFEFF' then c.next else c
  ⟨c, [], 0, -1, [], none, [], true, false⟩

def inFlow (s : Lexer) : Bool := !s.outerKeys.isEmpty

def push (s : Lexer) (t : Token) : Lexer := { s with tokens := t :: s.tokens, count := s.count + 1 }

/-- The lexer with a token in front of all but the first `position` tokens. -/
def insert (s : Lexer) (position : Nat) (t : Token) : Lexer :=
  let behind := s.count - position
  { s with tokens := s.tokens.take behind ++ t :: s.tokens.drop behind, count := s.count + 1 }

/-- Skips spaces, comments and line breaks. Behind a line break a simple key may start. -/
def skipToToken : (fuel : Nat) → Lexer → Lexer
  | 0, s => s
  | fuel + 1, s =>
    let c := s.cursor.skipSpaces.skipComment
    match c.lineBreak? with
    | some (_, after) =>
      skipToToken fuel { s with cursor := after, keyAllowed := s.keyAllowed || !s.inFlow }
    | none => { s with cursor := c }

/-- Whether a key that started at a place can still end at the cursor. -/
def canEnd (k : SimpleKey) (c : Cursor) : Bool := k.line == c.line && c.index - k.index ≤ 1024

/-- Gives up a key, which fails if nothing but a key could stand there. -/
def giveUp : Option SimpleKey → Except Stop (Option SimpleKey)
  | some k => if k.required then malformed .keyUnfinished else .ok none
  | none => .ok none

/-- Gives up the keys that cannot end at the cursor any more. -/
def dropStale (s : Lexer) : Except Stop Lexer := do
  let check (k? : Option SimpleKey) : Except Stop (Option SimpleKey) :=
    if k?.all (canEnd · s.cursor) then .ok k? else giveUp k?
  let key ← check s.key
  let outerKeys ← s.outerKeys.mapM check
  return { s with key, outerKeys }

/-- Notes that a simple key may start at the cursor. -/
def noteKey (s : Lexer) : Except Stop Lexer :=
  if s.keyAllowed then do
    discard (giveUp s.key)
    let c := s.cursor
    let required := !s.inFlow && s.indent == c.column
    return { s with key := some ⟨s.count, required, c.index, c.line, c.column⟩ }
  else .ok s

/-- Gives up the key that may have started last. -/
def dropKey (s : Lexer) : Except Stop Lexer := do
  let key ← giveUp s.key
  return { s with key }

/-- Closes the blocks that are indented further than a column. -/
def closeBlocks (column : Int) : (indents : List Int) → Lexer → Lexer
  | [], s => s
  | outer :: indents, s =>
    if column < s.indent then
      closeBlocks column indents { s.push .blockEnd with indent := outer, indents := indents }
    else s

/-- Closes the blocks that end at a column. Between brackets indentation does not count. -/
def unindent (s : Lexer) (column : Int) : Lexer :=
  if s.inFlow then s else closeBlocks column s.indents s

/-- Whether a block at the column lies deeper than the innermost open one. -/
def opensBlock (s : Lexer) (column : Nat) : Bool := s.indent < column

/-- The lexer with a block open at the column. -/
def openBlock (s : Lexer) (column : Nat) : Lexer :=
  { s with indent := column, indents := s.indent :: s.indents }

/-- Opens a block at the cursor, with its token, if it lies deeper than the innermost open one. -/
def openBlockHere (s : Lexer) (t : Token) : Lexer :=
  let column := s.cursor.column
  if s.opensBlock column then (s.push t).openBlock column else s

/-- Steps over one character that is a token. -/
def pushMark (s : Lexer) (t : Token) : Lexer := { s.push t with cursor := s.cursor.next }

def finish (s : Lexer) : Except Stop Lexer := do
  let s ← (s.unindent (-1)).dropKey
  return { s.push .streamEnd with finished := true }

def directive (s : Lexer) : Except Stop Lexer := do
  let s ← (s.unindent (-1)).dropKey
  let (d, after) ← readDirective s.cursor
  return { s.push (.directive d) with cursor := after, keyAllowed := false }

def documentMarker (s : Lexer) (t : Token) : Except Stop Lexer := do
  let s ← (s.unindent (-1)).dropKey
  return { s.push t with cursor := s.cursor.skip 3, keyAllowed := false }

def openBracket (s : Lexer) (t : Token) : Except Stop Lexer := do
  let s ← s.noteKey
  return { s.pushMark t with key := none, outerKeys := s.key :: s.outerKeys, keyAllowed := true }

def closeBracket (s : Lexer) (t : Token) : Except Stop Lexer := do
  let s ← s.dropKey
  match s.outerKeys with
  | [] => malformed .unopened
  | key :: outerKeys => return { s.pushMark t with key, outerKeys, keyAllowed := false }

def comma (s : Lexer) : Except Stop Lexer := do
  let s ← s.dropKey
  return { s.pushMark .flowEntry with keyAllowed := true }

def dash (s : Lexer) : Except Stop Lexer := do
  if !s.inFlow && !s.keyAllowed then malformed .entryNotAllowed
  else
    let s := if s.inFlow then s else s.openBlockHere .blockSequenceStart
    let s ← s.dropKey
    return { s.pushMark .blockEntry with keyAllowed := true }

def questionMark (s : Lexer) : Except Stop Lexer := do
  if !s.inFlow && !s.keyAllowed then malformed .keyNotAllowed
  else
    let s := if s.inFlow then s else s.openBlockHere .blockMappingStart
    let s ← s.dropKey
    return { s.pushMark .key with keyAllowed := !s.inFlow }

/-- Steps over the colon of a value. If a simple key may have started, it had. -/
def colon (s : Lexer) : Except Stop Lexer := do
  match s.key with
  | some k =>
    let s := s.insert k.position .key
    let s := if !s.inFlow && s.opensBlock k.column then
        (s.insert k.position .blockMappingStart).openBlock k.column
      else s
    return { s.pushMark .value with key := none, keyAllowed := false }
  | none =>
    if !s.inFlow && !s.keyAllowed then malformed .valueNotAllowed
    else
      let s := if s.inFlow then s else s.openBlockHere .blockMappingStart
      return { s.pushMark .value with keyAllowed := !s.inFlow }

def named (s : Lexer) (token : String → Token) : Except Stop Lexer := do
  let s ← s.noteKey
  let (name, after) ← readName s.cursor
  return { s.push (token name) with cursor := after, keyAllowed := false }

def tag (s : Lexer) : Except Stop Lexer := do
  let s ← s.noteKey
  let (handle, suffix, after) ← readTag s.cursor
  return { s.push (.tag handle suffix) with cursor := after, keyAllowed := false }

def block (s : Lexer) (fold : Bool) : Except Stop Lexer := do
  let s ← s.dropKey
  let (text, after) ← blockScalar fold s.indent s.cursor
  return { s.push (.scalar text false) with cursor := after, keyAllowed := true }

def quoted (s : Lexer) (double : Bool) : Except Stop Lexer := do
  let s ← s.noteKey
  let (text, after) ← quotedScalar double s.cursor
  return { s.push (.scalar text false) with cursor := after, keyAllowed := false }

/-- Reads a plain scalar. Behind a line break a simple key may start. -/
def plain (s : Lexer) : Except Stop Lexer := do
  let s ← s.noteKey
  let (text, after, broken) := plainScalar s.inFlow (s.indent + 1) s.cursor
  return { s.push (.scalar text true) with cursor := after, keyAllowed := broken }

/-- Whether a plain scalar may start with the character. -/
def startsPlain (inFlow : Bool) (c : Char) (next : Option Char) : Bool :=
  !("-?:,[]#&*!|>'\"%@".toList ++ ['\x7b', '\x7d', Char.ofNat 0x60, ' ', '\t']).contains c &&
      !isBreak c ||
    (!wordEnds next && (c == '-' || (!inFlow && (c == '?' || c == ':'))))

def token (s : Lexer) : Except Stop Lexer :=
  let c := s.cursor
  match c.rest with
  | [] => s.finish
  | x :: more =>
    let next := more.head?
    let free := s.inFlow || wordEnds next
    if c.column = 0 && x == '%' then s.directive
    else if c.column = 0 && c.atMarker '-' then s.documentMarker .documentStart
    else if c.column = 0 && c.atMarker '.' then s.documentMarker .documentEnd
    else if x == '[' then s.openBracket .flowSequenceStart
    else if x == '\x7b' then s.openBracket .flowMappingStart
    else if x == ']' then s.closeBracket .flowSequenceEnd
    else if x == '\x7d' then s.closeBracket .flowMappingEnd
    else if x == ',' then s.comma
    else if x == '-' && wordEnds next then s.dash
    else if x == '?' && free then s.questionMark
    else if x == ':' && free then s.colon
    else if x == '*' then s.named .alias
    else if x == '&' then s.named .anchor
    else if x == '!' then s.tag
    else if x == '|' && !s.inFlow then s.block false
    else if x == '>' && !s.inFlow then s.block true
    else if x == '\'' then s.quoted false
    else if x == '"' then s.quoted true
    else if startsPlain s.inFlow x next then s.plain
    else malformed .noToken

/-- Reads the next token and those that its place implies. -/
def step (s : Lexer) : Except Stop Lexer := do
  let s ← (s.skipToToken (s.cursor.rest.length + 1)).dropStale
  (s.unindent s.cursor.column).token

/-- Reads all tokens. What breaks the text comes behind the tokens in front of it. -/
def run : (fuel : Nat) → Lexer → List Token
  | 0, s => (Token.streamEnd :: s.tokens).reverse
  | fuel + 1, s =>
    if s.finished then s.tokens.reverse
    else match s.step with
      | .ok s => run fuel s
      | .error f => (.broken f :: s.tokens).reverse

end Lexer

/-- The tokens of a text. Each step but the last takes at least one character. -/
def tokens (text : List Char) : List Token := (Lexer.start text).run (text.length + 2)

end ListenerPorts.Yaml
