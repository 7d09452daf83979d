import ListenerPorts.Fault
import ListenerPorts.World.Event

set_option autoImplicit false

/-! # The world of an operation

An operation runs against a world: the memory of the probe that it asks, the position in the stream
of random numbers, and the record of what it has done. It ends with a result or with a fault, and
the world stays what it has become in either case.
-/

namespace ListenerPorts

variable {σ : Type}

/-- The state that an operation finds and leaves behind. -/
structure World (σ : Type) where
  memory : σ
  drawn : Nat
  events : Array Event

namespace World

def fresh (memory : σ) : World σ := ⟨memory, 0, #[]⟩

def record (w : World σ) (e : Event) : World σ := { w with events := w.events.push e }

@[simp] theorem events_record (w : World σ) (e : Event) :
    (w.record e).events.toList = w.events.toList ++ [e] := by
  simp [record]

@[simp] theorem memory_record (w : World σ) (e : Event) : (w.record e).memory = w.memory := rfl

@[simp] theorem drawn_record (w : World σ) (e : Event) : (w.record e).drawn = w.drawn := rfl

end World

abbrev Run (σ α : Type) := EStateM Fault (World σ) α

namespace Run

def emit (e : Event) : Run σ Unit := modify (·.record e)

def log (logger : Logger) (level : Level) (message : String) : Run σ Unit :=
  emit (.logged ⟨logger, level, message⟩)

/-- Fails unless all values have a text, which a message that shows them needs. -/
def requireTexts (shown : List Value) : Run σ Unit :=
  if shown.all Value.writable then pure () else throw .tooManyDigits

def printLine (line : String) : Run σ Unit := emit (.printed (line ++ "\n"))

/-- The result of a computation that touches no world. -/
def lift {α : Type} : Except Fault α → Run σ α
  | .ok a => pure a
  | .error f => throw f

@[simp] theorem run_emit (e : Event) (w : World σ) :
    EStateM.run (emit e) w = .ok () (w.record e) := rfl

@[simp] theorem run_log (logger : Logger) (level : Level) (message : String) (w : World σ) :
    EStateM.run (log logger level message) w =
      .ok () (w.record (.logged ⟨logger, level, message⟩)) := rfl

@[simp] theorem run_lift_ok {α : Type} (a : α) (w : World σ) :
    EStateM.run (lift (.ok a)) w = .ok a w := rfl

@[simp] theorem run_lift_error {α : Type} (f : Fault) (w : World σ) :
    EStateM.run (lift (.error f) : Run σ α) w = .error f w := rfl

end Run

end ListenerPorts
