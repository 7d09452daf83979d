import ListenerPorts.Proofs.LowerCase
import ListenerPorts.Registry

set_option autoImplicit false

/-! # Finders by their kept names

A configuration keeps the name of a finder in lower case, with the blanks that stand around it, and
the name is looked up a second time when the service starts. Both lookups find the same finder, since
the blanks may as well be taken away from the name in lower case, and lower case does not change that
name any more.
-/

namespace ListenerPorts

namespace Registry

open Text

/-- The key for a name can be told from its lower case. -/
theorem keyOf_eq_trim_lower (name : String) : keyOf name = trim (lower name) := lower_trim name

/-- A name and its lower case stand for the same key. -/
theorem keyOf_lower (name : String) : keyOf (lower name) = keyOf name := by
  rw [keyOf_eq_trim_lower, lower_lower, keyOf_eq_trim_lower]

/-- The built-in finders are registered under the names of the strategies. -/
theorem find?_builtIn {key : String} {f : Finder} (h : builtIn.find? key = some f) :
    ∃ strategy : Strategy, key = strategy.name ∧ f = .builtIn strategy := by
  obtain ⟨before, after, hfinders, -⟩ := List.lookup_eq_some_iff.mp h
  have hmem : (key, f) ∈ builtIn.finders := by
    rw [hfinders]
    exact List.mem_append_right _ List.mem_cons_self
  obtain ⟨strategy, -, heq⟩ := List.mem_map.mp hmem
  cases heq
  exact ⟨strategy, rfl, rfl⟩

variable {r : Registry} {name : String} {f : Finder}

/-- A name selects a finder if its key has one. -/
theorem select_eq_ok_iff : r.select name = .ok f ↔ r.find? (keyOf name) = some f := by
  unfold select
  cases r.find? (keyOf name) with
  | none => exact ⟨nofun, nofun⟩
  | some g => exact ⟨fun h => congrArg some (Except.ok.inj h), fun h => by cases h; rfl⟩

/-- A name that selects a finder still selects it in lower case. -/
theorem select_lower (h : r.select name = .ok f) : r.select (lower name) = .ok f := by
  rw [select_eq_ok_iff] at h ⊢
  rwa [keyOf_lower]

/-- An empty name stands for the random finder. -/
theorem create_text (r : Registry) (name : String) : r.create (.text name) =
    r.select (if name = "" then Strategy.random.name else name) := by
  by_cases h : name = ""
  · subst h
    rfl
  · have htrue : (Value.text name).isTrue = true := by simp [Value.isTrue, h]
    unfold create
    rw [if_pos htrue, if_neg h]

/-- The finder of a kept name is the one that the name selected. -/
theorem create_lower (h : builtIn.create (.text name) = .ok f) :
    builtIn.create (.text (lower name)) = .ok f := by
  rw [create_text] at h ⊢
  by_cases hname : name = ""
  · subst hname
    exact h
  · rw [if_neg hname] at h
    have hlower := select_lower h
    split
    · -- an empty name selects nothing
      rename_i hempty
      rw [hempty] at hlower
      cases hlower
    · exact hlower

end Registry

end ListenerPorts
