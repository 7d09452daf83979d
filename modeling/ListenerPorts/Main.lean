import ListenerPorts.CommandLine.Run
import ListenerPorts.Config.Readers
import Std.Data.HashMap
import Std.Internal.UV.TCP
import Std.Time.Zoned

set_option autoImplicit false

/-! # The program

Runs the command line on the machine at hand. A run is a pure computation, so it cannot bind a port
while it goes on. Whenever it asks about a port on which nothing is known yet, it is given up, the
port is bound, and the run begins anew with one more answer.
-/

namespace ListenerPorts.Main

open CommandLine

/-- A question to the machine: an address and a port. -/
abbrev Question := String × Int

/-- The answers of the machine so far, and the question that a run was given up for. -/
structure Answers where
  known : Std.HashMap Question (Option SocketFailure) := ∅
  wanted : Option Question := none

/-- A socket layer that repeats the known answers. -/
def knownLayer : SocketLayer Answers where
  create := fun m => (none, m)
  bind := fun address port m =>
    match port with
    | .int n =>
      match m.known[(address, n)]? with
      | some answer => (answer, m)
      | none => (some ⟨.other, ""⟩, { m with wanted := some (address, n) })
    | _ => (some ⟨.other, ""⟩, m)

/-- A stream of numbers that look random: the counter, from a seed on, with its bits mixed. -/
def mixed (seed : UInt64) (i : Nat) : Int :=
  let x := seed + (i.toUInt64 + 1) * 0x9E3779B97F4A7C15
  let x := (x ^^^ (x >>> 30)) * 0xBF58476D1CE4E5B9
  let x := (x ^^^ (x >>> 27)) * 0x94D049BB133111EB
  ((x ^^^ (x >>> 31)).toNat : Int)

def bindPort (q : Question) : IO (Option SocketFailure) := do
  let text := if q.1 = "" then "0.0.0.0" else q.1
  match Std.Net.IPv4Addr.ofString text with
  | none => return some ⟨.system, "Unknown address: " ++ text⟩
  | some address =>
    try
      let socket ← Std.Internal.UV.TCP.Socket.new
      socket.bind (.v4 ⟨address, q.2.toNat.toUInt16⟩)
      socket.listen 1
      return none
    catch e => return some ⟨.system, toString e⟩

def look (p : Path) : IO Sight := do
  if p.text.toList.contains '\x00' then return .nothing
  try return .file (← IO.FS.readBinFile p.text)
  catch
    | .noFileOrDirectory _ _ _ | .inappropriateType _ _ _ => return .nothing
    | _ => return .refused

/-- The local time, as log lines show it. -/
def timeText : IO String := do
  let t ← Std.Time.PlainDateTime.now
  let date := "-".intercalate
    [padded 4 t.date.year.toInt.toNat, padded 2 t.date.month.toInt.toNat,
     padded 2 t.date.day.toInt.toNat]
  let time := ":".intercalate
    [padded 2 t.time.hour.toInt.toNat, padded 2 t.time.minute.toInt.toNat,
     padded 2 t.time.second.toInt.toNat]
  return date ++ " " ++ time ++ "," ++ padded 3 (t.time.nanosecond.toInt.toNat / 1000000)

/-- A run with all the answers that it needs. -/
partial def settle (env : Environment Answers) (words : List String) (known : Answers) :
    IO (Except Fault Nat × List Event) := do
  match run env words (World.fresh known) with
  | .ok status w => return (.ok status, w.events.toList)
  | .error f w =>
    match w.memory.wanted with
    | none => return (.error f, w.events.toList)
    | some q => settle env words { known := known.known.insert q (← bindPort q) }

end ListenerPorts.Main

open ListenerPorts ListenerPorts.Main in
/-- Runs the program on the words of its command line. -/
def main (words : List String) : IO UInt32 := do
  let loader : Loader := {}
  let sights ← (CommandLine.places loader words).mapM fun p => return (p, ← look p)
  let seed := (← IO.getRandomBytes 8).foldl (fun n b => n * 256 + b.toUInt64) 0
  let files : Files := fun p => (sights.lookup p).getD .nothing
  let env := ⟨loader, .standard, files, ⟨none, knownLayer, mixed seed⟩⟩
  let (result, events) ← settle env words {}
  IO.print (CommandLine.outputText events)
  let level := (CommandLine.levelOf? words).getD .warning
  IO.eprint (CommandLine.errorText (← timeText) level events)
  match result with
  | .ok status => return status.toUInt32
  | .error _ =>
    IO.eprintln "The configuration cannot be handled."
    return 1
