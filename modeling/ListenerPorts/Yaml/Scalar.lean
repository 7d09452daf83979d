import ListenerPorts.Text.Quoted
import ListenerPorts.Yaml.Cursor

set_option autoImplicit false

/-! # Scalars

How the texts of scalars are read: plain ones, which end where something else begins; quoted ones,
in which a double quote allows escapes; and block scalars, whose lines are kept or folded. In all of
them a single line break is folded into a space, and of more than one the first is dropped.
-/

namespace ListenerPorts.Yaml

/-- What a folded line break leaves, given the break itself and those behind it. -/
def folded (first : Char) (others : List Char) : List Char :=
  if first ≠ '\n' then first :: others
  else if others.isEmpty then [' ']
  else others

/-! ## Plain scalars -/

/-- Whether a plain scalar ends in front of a character. -/
def plainEnds (inFlow : Bool) (c : Char) (next : Option Char) : Bool :=
  isBreak c || c == ' ' || c == '\t' ||
  (c == ':' && (wordEnds next || (inFlow && next.any [',', '[', ']', '\x7b', '\x7d'].contains))) ||
  (inFlow && [',', '?', '[', ']', '\x7b', '\x7d'].contains c)

/-- The characters at the front that belong to a plain scalar. -/
def plainRun (inFlow : Bool) : List Char → List Char
  | [] => []
  | c :: cs => if plainEnds inFlow c cs.head? then [] else c :: plainRun inFlow cs

/-- The line breaks and spaces at the front, up to a document marker; the breaks are kept, the last
one first in `acc`. There is no result if a marker is met. -/
def plainBreaks : (fuel : Nat) → (acc : List Char) → Cursor → Option (List Char) × Cursor
  | 0, acc, c => (some acc.reverse, c)
  | fuel + 1, acc, c =>
    if c.peek = some ' ' then plainBreaks fuel acc c.skipSpaces
    else match c.lineBreak? with
      | some (b, after) =>
        if after.atDocumentMarker then (none, after) else plainBreaks fuel (b :: acc) after
      | none => (some acc.reverse, c)

/-- What stands between two parts of a plain scalar: its text, the place behind it, and whether a
line was broken. -/
def plainGap (c : Cursor) : List Char × Cursor × Bool :=
  let (spaces, c) := c.span (· == ' ')
  match c.lineBreak? with
  | none => (spaces, c, false)
  | some (first, c) =>
    if c.atDocumentMarker then ([], c, true)
    else match plainBreaks (c.rest.length + 1) [] c with
      | (none, c) => ([], c, true)
      | (some others, c) => (folded first others, c, true)

/-- Reads the parts of a plain scalar. `acc` holds the characters read before and `gap` what stands
between them and the next part, both the last one first. -/
def plainParts (inFlow : Bool) (indent : Int) :
    (fuel : Nat) → (acc gap : List Char) → (broken : Bool) → Cursor → List Char × Cursor × Bool
  | 0, acc, _, broken, c => (acc, c, broken)
  | fuel + 1, acc, gap, broken, c =>
    if c.peek = some '#' then (acc, c, broken)
    else
      let run := plainRun inFlow c.rest
      if run.isEmpty then (acc, c, broken)
      else
        let acc := run.reverse ++ gap ++ acc
        let (between, c, broken) := plainGap (c.skip run.length)
        if between.isEmpty || c.peek = some '#' || (!inFlow && c.column < indent) then
          (acc, c, broken)
        else plainParts inFlow indent fuel acc between.reverse broken c

/-- Reads a plain scalar: its text, the place behind it, and whether a line was broken after its
last part. -/
def plainScalar (inFlow : Bool) (indent : Int) (c : Cursor) : String × Cursor × Bool :=
  let (acc, c, broken) := plainParts inFlow indent (c.rest.length + 1) [] [] false c
  (String.ofList acc.reverse, c, broken)

/-! ## Quoted scalars -/

/-- The line breaks at the front of lines inside a quoted scalar, with the blanks around them
dropped. A document marker may not stand there. -/
def quotedBreaks : (fuel : Nat) → (acc : List Char) → Cursor → Except Stop (List Char × Cursor)
  | 0, acc, c => .ok (acc.reverse, c)
  | fuel + 1, acc, c =>
    if c.atDocumentMarker then malformed .markerInScalar
    else
      let c := c.skipWhile fun x => x == ' ' || x == '\t'
      match c.lineBreak? with
      | some (b, after) => quotedBreaks fuel (b :: acc) after
      | none => .ok (acc.reverse, c)

/-- The text of the blanks at the front of the rest of a quoted scalar, and the place behind it. -/
def quotedGap (c : Cursor) : Except Stop (List Char × Cursor) :=
  let (blanks, c) := c.span fun x => x == ' ' || x == '\t'
  match c.lineBreak? with
  | some (first, c) => do
    let (others, c) ← quotedBreaks (c.rest.length + 1) [] c
    return (folded first others, c)
  | none => if c.rest.isEmpty then malformed .unterminated else .ok (blanks, c)

/-- The character that a letter stands for behind a backslash. -/
def escapeLetter? : Char → Option Char
  | '0' => some '\x00'
  | 'a' => some '\x07'
  | 'b' => some '\x08'
  | 't' | '\t' => some '\t'
  | 'n' => some '\n'
  | 'v' => some '\x0b'
  | 'f' => some '\x0c'
  | 'r' => some '\r'
  | 'e' => some '\x1b'
  | ' ' => some ' '
  | '"' => some '"'
  | '\\' => some '\\'
  | '/' => some '/'
  | 'N' => some '\u0085'
  | '_' => some '\u00a0'
  | 'L' => some '\u2028'
  | 'P' => some '\u2029'
  | _ => none

/-- How many hexadecimal digits follow the letter of a code escape. -/
def escapeWidth? : Char → Option Nat
  | 'x' => some 2
  | 'u' => some 4
  | 'U' => some 8
  | _ => none

def hexDigit? (c : Char) : Option Nat :=
  if c.toNat < 0x80 then Numeral.digit? 16 c else none

/-- The number that hexadecimal digits at the front stand for. -/
def hexNumber? (width : Nat) (cs : List Char) : Option Nat :=
  if cs.length < width then none
  else ((cs.take width).mapM hexDigit?).map (Numeral.ofDigits 16)

/-- The character with a code point, if it is that of a character. -/
def charOfCode (n : Nat) : Except Stop Char :=
  if n.isValidChar then .ok (Char.ofNat n)
  else if n < 0x110000 then .error .halfCharacter
  else if n < 0x80000000 then .error .scalarUnreadable
  else .error .overflow

/-- The text of the escape whose backslash lies before the cursor, and the place behind it. A broken
line is continued. -/
def escape (c : Cursor) : Except Stop (List Char × Cursor) :=
  match c.peek with
  | none => malformed .badEscape
  | some e =>
    match escapeLetter? e, escapeWidth? e with
    | some x, _ => .ok ([x], c.next)
    | none, some width =>
      match hexNumber? width c.next.rest with
      | none => malformed .badEscape
      | some n => do return ([← charOfCode n], c.next.skip width)
    | none, none =>
      match c.lineBreak? with
      | some (_, c) => quotedBreaks (c.rest.length + 1) [] c
      | none => malformed .badEscape

/-- Reads the rest of a quoted scalar; the characters read before are in `acc`, the last one
first. -/
def quotedParts (double : Bool) :
    (fuel : Nat) → (acc : List Char) → Cursor → Except Stop (String × Cursor)
  | 0, _, _ => malformed .unterminated
  | fuel + 1, acc, c =>
    match c.rest with
    | [] => malformed .unterminated
    | x :: more =>
      if x = '\'' && !double then
        if more.head? = some '\'' then quotedParts double fuel ('\'' :: acc) (c.skip 2)
        else .ok (String.ofList acc.reverse, c.next)
      else if x = '"' && double then .ok (String.ofList acc.reverse, c.next)
      else if x = '\\' && double then do
        let (text, c) ← escape c.next
        quotedParts double fuel (text.reverse ++ acc) c
      else if isBreak x || x = ' ' || x = '\t' then do
        let (text, c) ← quotedGap c
        quotedParts double fuel (text.reverse ++ acc) c
      else quotedParts double fuel (x :: acc) c.next

/-- Reads a quoted scalar that starts at the cursor. -/
def quotedScalar (double : Bool) (c : Cursor) : Except Stop (String × Cursor) :=
  quotedParts double (c.rest.length + 1) [] c.next

/-! ## Block scalars -/

/-- What becomes of the line breaks at the end of a block scalar. -/
inductive Chomping where
  | strip
  | clip
  | keep
deriving DecidableEq

def chomping? : Option Char → Option Chomping
  | some '-' => some .strip
  | some '+' => some .keep
  | _ => none

/-- The indentation that an indicator asks for, which may not be zero. -/
def indentation? (next : Option Char) : Except Stop (Option Nat) :=
  match next with
  | some d =>
    if d = '0' then malformed .badBlockHeader
    else if d.isDigit then .ok (some (d.toNat - 48))
    else .ok none
  | none => .ok none

/-- Reads the indicators of a block scalar, which may come in either order. -/
def blockHeader (c : Cursor) : Except Stop (Chomping × Option Nat × Cursor) := do
  let (chomping, indentation, c) ←
    match chomping? c.peek with
    | some chomping => do
      let indentation ← indentation? c.next.peek
      pure (chomping, indentation, if indentation.isSome then c.skip 2 else c.next)
    | none => do
      match ← indentation? c.peek with
      | none => pure (.clip, none, c)
      | some n =>
        match chomping? c.next.peek with
        | some chomping => pure (chomping, some n, c.skip 2)
        | none => pure (.clip, some n, c.next)
  if spaceOrLineEnds c.peek then return (chomping, indentation, c)
  else malformed .badBlockHeader

/-- The line breaks in front of the first line with text, and the widest column that spaces reach
there. -/
def blockLead :
    (fuel : Nat) → (acc : List Char) → (widest : Nat) → Cursor → List Char × Nat × Cursor
  | 0, acc, widest, c => (acc.reverse, widest, c)
  | fuel + 1, acc, widest, c =>
    if c.peek = some ' ' then
      let c := c.skipSpaces
      blockLead fuel acc (max widest c.column) c
    else match c.lineBreak? with
      | some (b, after) => blockLead fuel (b :: acc) widest after
      | none => (acc.reverse, widest, c)

/-- The place behind the spaces at the front, at most in the column of the indentation. -/
def indentTo (indent : Nat) (c : Cursor) : Cursor :=
  let spaces := (c.rest.takeWhile (· == ' ')).length
  c.skip (min spaces (indent - c.column))

/-- The line breaks in front of the next line with text, and the place in its indentation. -/
def blockBreaks (indent : Nat) : (fuel : Nat) → (acc : List Char) → Cursor → List Char × Cursor
  | 0, acc, c => (acc.reverse, c)
  | fuel + 1, acc, c =>
    let c := indentTo indent c
    match c.lineBreak? with
    | some (b, after) => blockBreaks indent fuel (b :: acc) after
    | none => (acc.reverse, c)

def blankNext (c : Cursor) : Bool := c.peek.any fun x => x == ' ' || x == '\t'

/-- Reads the lines of a block scalar. `acc` holds the text read before, the last character first,
and `breaks` the line breaks behind it; the result holds the last line break and those behind it
apart. -/
def blockLines (fold : Bool) (indent : Nat) :
    (fuel : Nat) → (acc breaks : List Char) → (last : List Char) → Cursor →
      List Char × List Char × List Char × Cursor
  | 0, acc, breaks, last, c => (acc, last, breaks, c)
  | fuel + 1, acc, breaks, last, c =>
    if c.column ≠ indent || c.rest.isEmpty then (acc, last, breaks, c)
    else
      let startsBlank := blankNext c
      let (line, c) := c.span fun x => !isBreak x
      let acc := line.reverse ++ breaks.reverse ++ acc
      let (last, c) := match c.lineBreak? with
        | some (b, after) => ([b], after)
        | none => ([], c)
      let (breaks, c) := blockBreaks indent (c.rest.length + 1) [] c
      if c.column = indent && !c.rest.isEmpty then
        let joint :=
          if fold && last = ['\n'] && !startsBlank && !blankNext c then
            if breaks.isEmpty then [' '] else []
          else last
        blockLines fold indent fuel (joint ++ acc) breaks [] c
      else (acc, last, breaks, c)

/-- Reads a block scalar that starts at the cursor, inside the indentation of its parent. -/
def blockScalar (fold : Bool) (parent : Int) (c : Cursor) : Except Stop (String × Cursor) := do
  let (chomping, indentation, c) ← blockHeader c.next
  let c ← c.nextLine .badBlockHeader
  let least := (max (parent + 1) 1).toNat
  let fuel := c.rest.length + 1
  let (breaks, indent, c) := match indentation with
    | some n =>
      let indent := least + n - 1
      let (breaks, c) := blockBreaks indent fuel [] c
      (breaks, indent, c)
    | none =>
      let (breaks, widest, c) := blockLead fuel [] 0 c
      (breaks, max least widest, c)
  let (acc, last, breaks, c) := blockLines fold indent fuel [] breaks [] c
  let acc := if chomping = .strip then acc else last ++ acc
  let acc := if chomping = .keep then breaks.reverse ++ acc else acc
  return (String.ofList acc.reverse, c)

end ListenerPorts.Yaml
