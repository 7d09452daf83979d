import ListenerPorts.CommandLine.Run
import ListenerPorts.Proofs.Locating
import ListenerPorts.Proofs.Stepwise

set_option autoImplicit false

/-! # What is printed

Loading, searching, assigning and reporting ask probes, draw numbers and log messages, but they
print nothing. Only the outer layer of a request prints: errors, each in a line of its own, or the
two ports. What is printed over a sequence of runs is what its parts print, one after the other.
-/

namespace ListenerPorts

variable {σ α β : Type}

open Run

/-! ## The printed text -/

def Event.IsUnprinted (e : Event) : Prop := e.printedText? = none

theorem background_unprinted : Background Event.IsUnprinted where
  logged := fun _ => rfl
  socket := by
    intro e he
    cases e with
    | socketCreated | socketBound | socketClosed => rfl
    | _ => cases he

namespace CommandLine

@[simp] theorem outputText_nil : outputText [] = "" := rfl

@[simp] theorem outputText_append (es es' : List Event) :
    outputText (es ++ es') = outputText es ++ outputText es' := by
  simp [outputText, List.filterMap_append]

theorem outputText_unprinted {es : List Event} (h : ∀ e ∈ es, e.IsUnprinted) :
    outputText es = "" := by
  have hnone : es.filterMap Event.printedText? = [] := List.filterMap_eq_nil_iff.mpr h
  rw [outputText, hnone]
  rfl

end CommandLine

/-! ## Searches -/

/-- The run prints nothing. -/
def Run.Mute (x : Run σ α) : Prop := x.Adds Event.IsUnprinted

theorem mute_isFree (probe : Probe σ) (port : Int) : (probe.isFree port).Mute := by
  show (probe.isFree port).Meets fun es _ => ∀ e ∈ es, e.IsUnprinted
  refine (Probe.meets_isFree_of_answer (adds_answer background_unprinted probe port)).weaken ?_
  rintro es r ⟨⟨es', rfl, hes'⟩, -⟩
  exact List.forall_mem_append.mpr ⟨hes', List.forall_mem_singleton.mpr rfl⟩

namespace Assignment

end Assignment

open Assignment

namespace Loader

end Loader

end ListenerPorts
