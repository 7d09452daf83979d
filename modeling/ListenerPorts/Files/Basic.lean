import ListenerPorts.Fault
import ListenerPorts.Files.Path

set_option autoImplicit false

/-! # Files

What the file system shows at each path. A look at a path can be refused, and so can be the reading
of a file that is there. The bytes of a text file are UTF-8, and its lines may end in any of the usual
ways.
-/

namespace ListenerPorts

inductive Sight where
  | file (bytes : ByteArray)
  /-- a file that cannot be read -/
  | locked
  /-- no file -/
  | nothing
  /-- the operating system refuses to look -/
  | refused

/-- The files there are, as far as the operating system shows them. They do not change while they are
looked at. -/
abbrev Files := Path → Sight

namespace Files

/-- Whether a path is a file. -/
def has (files : Files) (p : Path) : Except Fault Bool :=
  match files p with
  | .file _ | .locked => .ok true
  | .nothing => .ok false
  | .refused => .error .fileRefused

def bytes (files : Files) (p : Path) : Except Fault ByteArray :=
  match files p with
  | .file bytes => .ok bytes
  | _ => .error .fileRefused

/-- The characters of a text with every line end made a line feed. -/
def unifyLineEnds : List Char → List Char
  | [] => []
  | '\r' :: '\n' :: cs => '\n' :: unifyLineEnds cs
  | '\r' :: cs => '\n' :: unifyLineEnds cs
  | c :: cs => c :: unifyLineEnds cs

/-- The text that bytes stand for. -/
def decodeText (bytes : ByteArray) : Except Fault String :=
  match String.fromUTF8? bytes with
  | some s => .ok (.ofList (unifyLineEnds s.toList))
  | none => .error .notUnicode

end Files

end ListenerPorts
