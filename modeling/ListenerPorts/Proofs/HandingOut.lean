import ListenerPorts.Proofs.Assigning

set_option autoImplicit false

/-! # Ports that are handed out

A session that searches for one more port hands it out and counts it among the used ones, which the
next search may not take. So no port is handed out twice, whatever is used by hand in between and
however the settings change. When all ports of the range are used, a search draws as often as it may
and gives up, even if the probe finds every port free.
-/

namespace ListenerPorts

variable {σ : Type}

open Run

/-! ## How often a search draws -/

namespace Search

variable {range : PortRange} {attempts : Nat} {es es' : List Event} {r : Except Fault Nat}

/-- What a search spends: it draws once for every question, and if it ends without a port it has
used up its attempts, unless the probe has failed. -/
structure Spends (range : PortRange) (attempts : Nat) (es : List Event) (r : Except Fault Nat) :
    Prop where
  paired : stops es = List.replicate (asked es).length range.portCount
  spent : ∀ f, r = .error f → (∃ q ∈ asked es, q.answer = none) ∨
    (f = .exhausted .random range ∧ (asked es).length = attempts)

theorem Spends.exhausted : Spends range 0 [] (.error (.exhausted .random range)) where
  paired := rfl
  spent := by
    intro f hf
    cases hf
    exact Or.inr ⟨rfl, rfl⟩

/-- A search that ends with its first question has found a port, or the probe has failed. -/
theorem Spends.first {q : Question} (hasked : asked es = [q])
    (hstops : stops es = [range.portCount]) (hr : ∀ f, r = .error f → q.answer = none) :
    Spends range (attempts + 1) es r where
  paired := by
    rw [hstops, hasked]
    rfl
  spent := fun f hf => Or.inl ⟨q, by simp [hasked], hr f hf⟩

/-- One more attempt in front of a search. -/
theorem Spends.cons {q : Question} (hasked : asked es = [q]) (hstops : stops es = [range.portCount])
    (h : Spends range attempts es' r) : Spends range (attempts + 1) (es ++ es') r where
  paired := by
    have hlength : (asked (es ++ es')).length = (asked es').length + 1 := by simp [hasked]
    rw [hlength, List.replicate_succ, stops_append, hstops, h.paired, List.singleton_append]
  spent := by
    intro f hf
    rw [asked_append, hasked, List.singleton_append]
    rcases h.spent f hf with ⟨p, hp, hnone⟩ | ⟨hgiven, hlength⟩
    · exact Or.inl ⟨p, List.mem_cons_of_mem _ hp, hnone⟩
    · exact Or.inr ⟨hgiven, by simp [hlength]⟩

theorem spends_drawFree (host : Host σ) (range : PortRange) (used : List Int) (attempts : Nat) :
    (drawFree host range used attempts).Meets (Spends range attempts) := by
  induction attempts with
  | zero =>
      refine (meets_throw _).weaken ?_
      rintro es r ⟨rfl, rfl⟩
      exact Spends.exhausted
  | succ attempts ih =>
      apply meets_drawFree_succ
      · intro es port f _ hasked hstops _
        exact Spends.first hasked hstops fun _ _ => rfl
      · intro es port _ hasked hstops _
        exact Spends.first hasked hstops fun _ hf => nomatch hf
      · intro es port free _ hasked hstops _
        exact ih.weaken fun es' r h => h.cons hasked hstops

end Search

/-! ## One step of a session -/

theorem mem_addPort {used : List Int} {port p : Int} :
    p ∈ addPort used port ↔ p ∈ used ∨ p = port := by
  unfold addPort
  by_cases h : port ∈ used
  · have hsame : p = port → p ∈ used := by
      rintro rfl
      exact h
    simpa [h] using hsame
  · simp [h]

theorem mem_foldl_addPort {ports used : List Int} {p : Int} :
    p ∈ ports.foldl addPort used ↔ p ∈ used ∨ p ∈ ports := by
  induction ports generalizing used with
  | nil => simp
  | cons port ports ih => rw [List.foldl_cons, ih, mem_addPort, List.mem_cons, or_assoc]

def Step.usedByHand : Step σ → List Int
  | .use ports => ports
  | _ => []

namespace Session

variable {s : Session σ} {t : Step σ} {range : PortRange} {port : Int}

/-- The port that a step hands out, if it searches a range for one and finds it. -/
def handedOut? (s : Session σ) (t : Step σ) : Option Int :=
  match t, s.assigner.range, (s.step t).1 with
  | .findFreePort, some _, .ok (.port port) => some port
  | _, _, _ => none

/-- Without a range there is nothing to search, and nothing is used. -/
theorem step_findFreePort_rangeless (hrange : s.assigner.range = none) :
    s.step .findFreePort = (.ok (.port 0), s) := by
  show s.findFreePort = _
  unfold findFreePort Assigner.findFreePort
  rw [hrange]
  rfl

/-- With a range, a step that searches for one more port answers as its search does, and uses what
the search has found. -/
theorem step_findFreePort (hrange : s.assigner.range = some range) :
    ∃ es r, (s.step .findFreePort).2.world.events.toList = s.world.events.toList ++ es ∧
      Search.Draws s.host.probe range s.used range.maxAttempts es r ∧
      Search.Spends range range.maxAttempts es r ∧
      (s.step .findFreePort).1 = r.map .port ∧
      (s.step .findFreePort).2.used = match r with
        | .ok p => addPort s.used p
        | .error _ => s.used := by
  obtain ⟨es, hes, hdraws, hspends⟩ :=
    (Search.meets_drawFree s.host range s.used range.maxAttempts).and
      (Search.spends_drawFree s.host range s.used range.maxAttempts) s.world
  have hsearch : s.assigner.findFreePort s.host s.used =
      Search.drawFree s.host range s.used range.maxAttempts := by
    unfold Assigner.findFreePort
    rw [hrange]
    rfl
  have hstep : s.step .findFreePort = s.findFreePort := rfl
  rw [← hsearch] at hes hdraws hspends
  rw [hstep]
  unfold findFreePort
  cases hrun : (s.assigner.findFreePort s.host s.used).run s.world with
  | ok p w =>
      rw [leaves, hrun] at hes
      rw [ends, hrun] at hdraws hspends
      exact ⟨es, .ok p, hes, hdraws, hspends, rfl, by simp [hrange]⟩
  | error f w =>
      rw [leaves, hrun] at hes
      rw [ends, hrun] at hdraws hspends
      exact ⟨es, .error f, hes, hdraws, hspends, rfl, rfl⟩

/-- An assignment keeps to itself which ports it has used. -/
theorem used_assign (s : Session σ) : (s.step .assign).2.used = s.used := by
  show s.assign.2.used = s.used
  unfold assign
  cases (s.assigner.assign s.host).run ⟨s.server, s.world⟩ <;> rfl

/-- A step that fails uses nothing. -/
theorem used_of_error {f : Fault} (h : (s.step t).1 = .error f) : (s.step t).2.used = s.used := by
  cases t with
  | assign => exact used_assign s
  | findFreePort =>
      cases hrange : s.assigner.range with
      | none => rw [step_findFreePort_rangeless hrange]
      | some range =>
          obtain ⟨es, r, -, -, -, hanswer, hused⟩ := step_findFreePort hrange
          rw [h] at hanswer
          cases r with
          | ok p => cases hanswer
          | error g => exact hused
  | _ => cases h

theorem handedOut?_of_ok {p : Nat} (hrange : s.assigner.range = some range)
    (h : (s.step .findFreePort).1 = .ok (.port p)) :
    s.handedOut? .findFreePort = some (p : Int) := by
  unfold handedOut?
  rw [hrange, h]

/-- A port that is handed out lies in the range and was not used before. -/
theorem of_handedOut? (h : s.handedOut? t = some port) :
    port ∉ s.used ∧
      ∃ range p, s.assigner.range = some range ∧ p ∈ range.ports ∧ port = (p : Int) := by
  cases t with
  | findFreePort =>
      cases hrange : s.assigner.range with
      | none =>
          unfold handedOut? at h
          rw [hrange] at h
          cases h
      | some range =>
          obtain ⟨es, r, -, hdraws, -, hanswer, -⟩ := step_findFreePort hrange
          unfold handedOut? at h
          rw [hrange, hanswer] at h
          cases r with
          | error f => cases h
          | ok p =>
              cases h
              obtain ⟨hmem, hnew, -⟩ := hdraws.found p rfl
              exact ⟨hnew, range, p, rfl, hmem, rfl⟩
  | _ => cases h

/-- After a step, those ports are used that were used before, that it uses by hand, or that it hands
out. -/
theorem mem_used_step (s : Session σ) (t : Step σ) (port : Int) :
    port ∈ (s.step t).2.used ↔
      port ∈ s.used ∨ port ∈ t.usedByHand ∨ s.handedOut? t = some port := by
  have hquiet : (s.step t).2.used = s.used → t.usedByHand = [] → s.handedOut? t = none →
      (port ∈ (s.step t).2.used ↔
        port ∈ s.used ∨ port ∈ t.usedByHand ∨ s.handedOut? t = some port) := by
    intro hused hhand hnone
    simp [hused, hhand, hnone]
  cases t with
  | use ports =>
      have hnone : s.handedOut? (.use ports) = none := rfl
      show port ∈ ports.foldl addPort s.used ↔ port ∈ s.used ∨ port ∈ ports ∨ _
      rw [mem_foldl_addPort, hnone]
      simp
  | findFreePort =>
      cases hrange : s.assigner.range with
      | none =>
          refine hquiet ?_ rfl ?_
          · rw [step_findFreePort_rangeless hrange]
          · unfold handedOut?
            rw [hrange]
      | some range =>
          obtain ⟨es, r, -, -, -, hanswer, hused⟩ := step_findFreePort hrange
          cases r with
          | error f => exact hquiet hused rfl (by unfold handedOut?; rw [hrange, hanswer]; rfl)
          | ok p =>
              have hhanded := handedOut?_of_ok hrange hanswer
              rw [hused, hhanded]
              show port ∈ addPort s.used p ↔ port ∈ s.used ∨ port ∈ [] ∨ some (p : Int) = some port
              rw [mem_addPort]
              simp [eq_comm]
  | assign => exact hquiet (used_assign s) rfl rfl
  | _ => exact hquiet rfl rfl rfl

/-! ## Ports along a session -/

/-- The ports that are handed out along the steps, in order. -/
def handedOut (s : Session σ) : List (Step σ) → List Int
  | [] => []
  | t :: ts => (s.handedOut? t).toList ++ (s.step t).2.handedOut ts

theorem mem_used_steps (s : Session σ) (ts : List (Step σ)) (port : Int) :
    port ∈ (s.steps ts).used ↔
      port ∈ s.used ∨ port ∈ ts.flatMap Step.usedByHand ∨ port ∈ s.handedOut ts := by
  induction ts generalizing s with
  | nil => simp [handedOut]
  | cons t ts ih =>
      rw [steps_cons, ih, mem_used_step, handedOut, List.flatMap_cons, List.mem_append,
        List.mem_append, Option.mem_toList]
      tauto

/-- No port is handed out that was used before, nor one twice. -/
theorem nodup_handedOut (s : Session σ) (ts : List (Step σ)) :
    (s.handedOut ts).Nodup ∧ ∀ port ∈ s.handedOut ts, port ∉ s.used := by
  induction ts generalizing s with
  | nil => simp [handedOut]
  | cons t ts ih =>
      obtain ⟨hnodup, hnew⟩ := ih (s.step t).2
      -- what is handed out later was not used when this step was over
      have hlater : ∀ port ∈ (s.step t).2.handedOut ts,
          port ∉ s.used ∧ s.handedOut? t ≠ some port := by
        intro port hport
        have hunused := hnew port hport
        rw [mem_used_step] at hunused
        exact ⟨fun h => hunused (Or.inl h), fun h => hunused (Or.inr (Or.inr h))⟩
      rw [handedOut]
      cases hhanded : s.handedOut? t with
      | none =>
          rw [Option.toList_none, List.nil_append]
          exact ⟨hnodup, fun port hport => (hlater port hport).1⟩
      | some p =>
          rw [Option.toList_some, List.singleton_append, List.nodup_cons, List.forall_mem_cons]
          have hfirst := (of_handedOut? hhanded).1
          refine ⟨⟨fun hagain => (hlater p hagain).2 hhanded, hnodup⟩, hfirst, ?_⟩
          exact fun port hport => (hlater port hport).1

/-! ## No port twice -/

/-- What a search for one more port of a range answers and adds to the record, given the ports that
are used. -/
structure OneMore (range : PortRange) (used : List Int) (es : List Event)
    (answer : Except Fault Answer) : Prop where
  /-- it draws once for every question -/
  paired : stops es = List.replicate (asked es).length range.portCount
  /-- it answers with a port of the range that was not used -/
  found : ∀ given, answer = .ok given → ∃ p ∈ range.ports, given = .port p ∧ (p : Int) ∉ used
  /-- if there is no such port, it asks three times for every port of the range and gives up,
  unless the probe fails -/
  full : (∀ p ∈ range.ports, (p : Int) ∈ used) → ∃ f, answer = .error f ∧
    ((∃ q ∈ asked es, q.answer = none) ∨
      (f = .exhausted .random range ∧ (asked es).length = 3 * range.portCount))

/-- A step that searches a range answers with one more port, or with none. -/
theorem step_findFreePort_oneMore (hrange : s.assigner.range = some range) :
    ∃ es, (s.step .findFreePort).2.world.events.toList = s.world.events.toList ++ es ∧
      OneMore range s.used es (s.step .findFreePort).1 := by
  obtain ⟨es, r, hes, hdraws, hspends, hanswer, -⟩ := step_findFreePort hrange
  refine ⟨es, hes, hspends.paired, ?_, ?_⟩
  · rw [hanswer]
    intro given hgiven
    cases r with
    | error f => cases hgiven
    | ok p =>
        cases hgiven
        obtain ⟨hmem, hnew, -⟩ := hdraws.found p rfl
        exact ⟨p, hmem, rfl, hnew⟩
  · rw [hanswer]
    intro hfull
    cases r with
    | error f => exact ⟨f, rfl, hspends.spent f rfl⟩
    | ok p =>
        obtain ⟨hmem, hnew, -⟩ := hdraws.found p rfl
        exact absurd (hfull p hmem) hnew

/-- A port that is handed out lies in a range, so it is not zero. -/
theorem handedOut_ne_zero (s : Session σ) (ts : List (Step σ)) :
    ∀ port ∈ s.handedOut ts, port ≠ 0 := by
  induction ts generalizing s with
  | nil =>
      intro port hport
      cases hport
  | cons t ts ih =>
      rw [handedOut, List.forall_mem_append]
      refine ⟨?_, ih (s.step t).2⟩
      intro port hport
      obtain ⟨-, range, p, -, hmem, rfl⟩ := of_handedOut? (Option.mem_toList.mp hport)
      have hmin := range.one_le_min
      have hp := (PortRange.mem_ports.mp hmem).1
      omega

/-- **No port is handed out twice.** At any point of a session those ports are used that were used
at its start, that were used by hand, or that were handed out, and no port is handed out that was
used at the start, nor one twice. From there a step that fails and an assignment use nothing; a
search without a range answers zero and does nothing; and a search of a range hands out a port of
the range that was not used, or gives up when there is none. -/
theorem steps_hand_out_once (s : Session σ) (ts : List (Step σ)) :
    (∀ port, port ∈ (s.steps ts).used ↔
      port ∈ s.used ∨ port ∈ ts.flatMap Step.usedByHand ∨ port ∈ s.handedOut ts) ∧
    ((s.handedOut ts).Nodup ∧ ∀ port ∈ s.handedOut ts, port ≠ 0 ∧ port ∉ s.used) ∧
    (∀ t f, ((s.steps ts).step t).1 = .error f → ((s.steps ts).step t).2.used = (s.steps ts).used) ∧
    ((s.steps ts).step .assign).2.used = (s.steps ts).used ∧
    ((s.steps ts).assigner.range = none →
      (s.steps ts).step .findFreePort = (.ok (.port 0), s.steps ts)) ∧
    ∀ range, (s.steps ts).assigner.range = some range → ∃ es,
      ((s.steps ts).step .findFreePort).2.world.events.toList =
        (s.steps ts).world.events.toList ++ es ∧
      OneMore range (s.steps ts).used es ((s.steps ts).step .findFreePort).1 := by
  obtain ⟨hnodup, hnew⟩ := nodup_handedOut s ts
  refine ⟨mem_used_steps s ts, ⟨hnodup, ?_⟩, ?_, used_assign _, ?_, ?_⟩
  · intro port hport
    exact ⟨handedOut_ne_zero s ts port hport, hnew port hport⟩
  · intro t f hfailed
    exact used_of_error hfailed
  · intro hrange
    exact step_findFreePort_rangeless hrange
  · intro range hrange
    exact step_findFreePort_oneMore hrange

/-- Both ports of a range are handed out, with an assignment and a change of the probe in between.
Then the range is used up, and a third search fails although every port is free. -/
theorem steps_hand_out_once_both :
    let range : PortRange := ⟨1, 2, by decide, by decide, by decide⟩
    let host : Host Unit := ⟨.answering fun _ _ => (.ok true, ()), fun n => n⟩
    let s : Session Unit := ⟨⟨.dynamic, .secure, some range, none, none⟩, host, Server.default, [],
      World.fresh ()⟩
    let ts : List (Step Unit) := [.findFreePort, .assign, .setProbe host.probe (), .findFreePort]
    s.handedOut ts = [1, 2] ∧
      ∃ f, ((s.steps ts).step .findFreePort).1 = .error f := by
  intro range host s ts
  have hhanded : s.handedOut ts = [1, 2] := rfl
  obtain ⟨hused, -, -, -, -, hsearch⟩ := steps_hand_out_once s ts
  obtain ⟨es, -, hone⟩ := hsearch range rfl
  have hfull : ∀ p ∈ range.ports, (p : Int) ∈ (s.steps ts).used := by
    intro p hp
    rw [hused, hhanded]
    have hbounds : 1 ≤ p ∧ p ≤ 2 := PortRange.mem_ports.mp hp
    obtain rfl | rfl : p = 1 ∨ p = 2 := by omega
    · simp
    · simp
  obtain ⟨f, hfailed, -⟩ := hone.full hfull
  exact ⟨hhanded, f, hfailed⟩

end Session

end ListenerPorts
