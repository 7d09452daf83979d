import ListenerPorts.Proofs.History

set_option autoImplicit false

/-! # Drawing with and without a finder

An assigner without a finder draws its ports itself, and the random finder draws them in its place.
Both ways are the same run: `Assigner.named` spells out the finder that is meant, and an assigner
does the same before and after. So two sessions that differ in nothing else stay in lockstep, however
often they assign: they answer the same, and they leave the same server, the same used ports and the
same world, which holds the memory of the probe, the position in the stream of random numbers and the
record of what was asked and drawn.
-/

namespace ListenerPorts

variable {σ : Type}

/-! ## One assignment -/

namespace Assigner

def withFinder (a : Assigner) (finder : Option Strategy) : Assigner := { a with finder }

/-- The assigner with the finder spelled out by which it searches. -/
def named (a : Assigner) : Assigner := a.withFinder (some a.strategy)

/-- An assigner without a finder searches as the random finder does. -/
theorem findPorts_named (a : Assigner) (host : Host σ) :
    a.named.findPorts host = a.findPorts host := by
  obtain ⟨mode, security, range, tls, finder⟩ := a
  cases range with
  | none => rfl
  | some range =>
      cases finder with
      -- two searches for one port each, of which the second may not take what the first has found
      | none => rfl
      | some strategy => rfl

theorem assign_named (a : Assigner) (host : Host σ) : a.named.assign host = a.assign host := by
  have hsecure : a.named.assignSecure host = a.assignSecure host := by
    unfold assignSecure
    rw [findPorts_named]
    rfl
  have hplain : a.named.assignPlain host = a.assignPlain host := by
    unfold assignPlain
    rw [findPorts_named]
  unfold assign
  rw [hsecure, hplain]
  rfl

/-- Assigners for which the same finder is spelled out do the same. -/
theorem assign_eq_of_named {a b : Assigner} (h : a.named = b.named) (host : Host σ) :
    a.assign host = b.assign host := by
  rw [← assign_named a, h, assign_named]

end Assigner

/-! ## Two sessions -/

namespace Session

def withFinder (s : Session σ) (finder : Option Strategy) : Session σ :=
  { s with assigner := s.assigner.withFinder finder }

/-- Two sessions are in lockstep: they are the same, except that one may leave out the random finder
that the other names. -/
structure Lockstep (s t : Session σ) : Prop where
  assigner : s.assigner.named = t.assigner.named
  host : s.host = t.host
  server : s.server = t.server
  used : s.used = t.used
  world : s.world = t.world

variable {s t : Session σ}

/-- Assignments in lockstep answer the same and leave sessions in lockstep. -/
theorem Lockstep.assign (h : s.Lockstep t) :
    (s.step .assign).1 = (t.step .assign).1 ∧ (s.step .assign).2.Lockstep (t.step .assign).2 := by
  have hsame : (s.assigner.assign s.host).run ⟨s.server, s.world⟩ =
      (t.assigner.assign t.host).run ⟨t.server, t.world⟩ := by
    rw [Assigner.assign_eq_of_named h.assigner, h.host, h.server, h.world]
  cases hrun : (t.assigner.assign t.host).run ⟨t.server, t.world⟩ with
  | ok ports site =>
      rw [step_assign_ok hrun, step_assign_ok (hsame.trans hrun)]
      exact ⟨rfl, h.assigner, h.host, rfl, h.used, rfl⟩
  | error f site =>
      rw [step_assign_error hrun, step_assign_error (hsame.trans hrun)]
      exact ⟨rfl, h.assigner, h.host, rfl, h.used, rfl⟩

/-! ## Sequences of assignments -/

def answers (s : Session σ) : List (Step σ) → List (Except Fault Answer)
  | [] => []
  | u :: us => (s.step u).1 :: (s.step u).2.answers us

def assignments (n : Nat) : List (Step σ) := List.replicate n .assign

/-- Sessions in lockstep stay in it along assignments, whether or not these fail. -/
theorem Lockstep.assignments (h : s.Lockstep t) (n : Nat) :
    s.answers (assignments n) = t.answers (assignments n) ∧
      (s.steps (assignments n)).Lockstep (t.steps (assignments n)) := by
  induction n generalizing s t with
  | zero => exact ⟨rfl, h⟩
  | succ n ih =>
      obtain ⟨hanswer, hnext⟩ := h.assign
      obtain ⟨hanswers, hlast⟩ := ih hnext
      exact ⟨congrArg₂ List.cons hanswer hanswers, hlast⟩

/-- A session without a finder is in lockstep with the one that names the random finder. -/
theorem lockstep_withFinder (s : Session σ) :
    (s.withFinder none).Lockstep (s.withFinder (some .random)) :=
  ⟨rfl, rfl, rfl, rfl, rfl⟩

/-- **No finder is the random finder.** Whatever the assigner, the machine, the server and the world
are, an assignment without a finder and one with the random finder end with the same ports or the
same fault, and leave the same server and the same world, with the same questions and draws on
record. The same holds along any number of assignments: all answers are the same, and so are the
server, the used ports, the machine and the world in the end. -/
theorem steps_random_finder (s : Session σ) (site : Site σ) (n : Nat) :
    let without := s.withFinder none
    let random := s.withFinder (some .random)
    (without.assigner.assign s.host).run site = (random.assigner.assign s.host).run site ∧
    without.answers (assignments n) = random.answers (assignments n) ∧
    (without.steps (assignments n)).server = (random.steps (assignments n)).server ∧
    (without.steps (assignments n)).used = (random.steps (assignments n)).used ∧
    (without.steps (assignments n)).host = (random.steps (assignments n)).host ∧
    (without.steps (assignments n)).world = (random.steps (assignments n)).world := by
  intro without random
  have hstart : without.Lockstep random := lockstep_withFinder s
  obtain ⟨hanswers, hend⟩ := hstart.assignments n
  refine ⟨?_, hanswers, hend.server, hend.used, hend.host, hend.world⟩
  rw [Assigner.assign_eq_of_named hstart.assigner]

end Session

end ListenerPorts
