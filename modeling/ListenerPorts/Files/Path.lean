set_option autoImplicit false

/-! # Paths

A path in its normal form: what it starts from, and the names that lead on from there. Empty names
and the name `.` say nothing and are left out; the name `..` is kept, since what it leads to depends
on the files.
-/

namespace ListenerPorts

inductive Path.Start where
  /-- the current directory -/
  | here
  /-- the root directory -/
  | root
  /-- the root that exactly two slashes stand for -/
  | twoSlashes
deriving DecidableEq, Repr

structure Path where
  start : Path.Start
  names : List String
deriving DecidableEq, Repr

namespace Path

/-- What a text that is read as a path starts from: more than two slashes are as good as one. -/
def Start.ofChars : List Char → Start
  | '/' :: '/' :: '/' :: _ => root
  | '/' :: '/' :: _ => twoSlashes
  | '/' :: _ => root
  | _ => here

/-- The text before the names. -/
def Start.text : Start → String
  | here => ""
  | root => "/"
  | twoSlashes => "//"

/-- The texts between the slashes, the one before the first slash being `current` so far, in
reverse. -/
def splitSlashes : List Char → List Char → List String
  | current, [] => [.ofList current.reverse]
  | current, c :: cs =>
    if c = '/' then .ofList current.reverse :: splitSlashes [] cs
    else splitSlashes (c :: current) cs

/-- Whether a text between slashes leads anywhere. -/
def isName (s : String) : Bool := s ≠ "" && s ≠ "."

def ofText (s : String) : Path :=
  ⟨.ofChars s.toList, (splitSlashes [] s.toList).filter isName⟩

/-- The text of a path. The path without any names is the current directory. -/
def text (p : Path) : String :=
  match p.start, p.names with
  | .here, [] => "."
  | start, names => start.text ++ "/".intercalate names

/-- A path as seen from another one: a path with a start of its own stays as it is. -/
def append (p q : Path) : Path :=
  match q.start with
  | .here => ⟨p.start, p.names ++ q.names⟩
  | _ => q

instance : Append Path := ⟨append⟩

theorem append_of_here (p : Path) {q : Path} (h : q.start = .here) :
    p ++ q = ⟨p.start, p.names ++ q.names⟩ := by
  show p.append q = _
  rw [append, h]

theorem append_of_ne_here (p : Path) {q : Path} (h : q.start ≠ .here) : p ++ q = q := by
  show p.append q = q
  rw [append]
  split
  · contradiction
  · rfl

def fileName (p : Path) : String := p.names.getLastD ""

/-- A text from its last dot on, with what stands before that dot. -/
def cutLastDot (cs : List Char) : List Char × List Char :=
  let after := cs.reverse.takeWhile (· ≠ '.')
  let before := cs.reverse.dropWhile (· ≠ '.')
  (before.tail.reverse, before.take 1 ++ after.reverse)

/-- The suffix of the last name: the text from its last dot on, if that is neither the first nor the
last character. -/
def suffix (p : Path) : String :=
  match cutLastDot p.fileName.toList with
  | (_ :: _, '.' :: c :: cs) => .ofList ('.' :: c :: cs)
  | _ => ""

end Path

end ListenerPorts
