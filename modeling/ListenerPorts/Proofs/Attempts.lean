import ListenerPorts.Proofs.HandingOut

set_option autoImplicit false

/-! # The attempts of a random search

An attempt of a random search draws a port and asks the probe about it, whatever the search is
looking for. So the attempts from a world on can be followed without a search (`Course`): in each of
them a port comes up, the probe says something about it, and the next attempt starts in the world
that is left. A search is a walk along this course. It ends with the first port that is free and not
used, with the first failure of the probe, or when it has used up its attempts; and a search for two
ports is two such walks, of which the second goes on where the first has ended.
-/

namespace ListenerPorts

variable {σ : Type}

open Run

namespace Search

/-! ## One attempt -/

/-- Draws a port of the range, leaves a message about it, and asks the probe. -/
def attempt (host : Host σ) (range : PortRange) : Run σ Bool := do
  let port ← drawPort host range
  Run.log .freePortFinders .debug ("Checking if port " ++ toString port ++ " is available")
  host.probe.isFree port

/-- The number that is drawn at a position of the stream of random numbers. -/
def drawAt (host : Host σ) (range : PortRange) (position : Nat) : Nat :=
  (host.random position % range.portCount).toNat

theorem drawAt_lt (host : Host σ) (range : PortRange) (position : Nat) :
    drawAt host range position < range.portCount := by
  have hcount := range.two_le_portCount
  have hlow := Int.emod_nonneg (host.random position) (b := range.portCount) (by omega)
  have hhigh := Int.emod_lt_of_pos (host.random position) (b := range.portCount) (by omega)
  unfold drawAt
  omega

/-- The port that comes up at a position of the stream. -/
def portAt (host : Host σ) (range : PortRange) (position : Nat) : Nat :=
  range.min + drawAt host range position

def checking (port : Nat) : Event :=
  .logged ⟨.freePortFinders, .debug, "Checking if port " ++ toString port ++ " is available"⟩

/-- The world in which an attempt asks the probe. -/
def asking (host : Host σ) (range : PortRange) (w : World σ) : World σ :=
  { w.record (.drew range.portCount) with drawn := w.drawn + 1 }.record
    (checking (portAt host range w.drawn))

theorem run_attempt (host : Host σ) (range : PortRange) (w : World σ) :
    (attempt host range).run w =
      (host.probe.isFree (portAt host range w.drawn)).run (asking host range w) := rfl

/-- An attempt draws one number. -/
theorem drawn_attempt (host : Host σ) (range : PortRange) (w : World σ) :
    (leaves (attempt host range) w).drawn = w.drawn + 1 :=
  host.probe.drawn_isFree (portAt host range w.drawn) (asking host range w)

/-- An attempt leaves one draw and one question, about the port that has come up. -/
theorem events_attempt (host : Host σ) (range : PortRange) (w : World σ) :
    ∃ es, (leaves (attempt host range) w).events.toList = w.events.toList ++ es ∧
      stops es = [range.portCount] ∧
      asked es = [⟨portAt host range w.drawn, (ends (attempt host range) w).toOption⟩] := by
  obtain ⟨es, hes, hasked, hstops, -⟩ :=
    host.probe.meets_isFree (portAt host range w.drawn) (asking host range w)
  refine ⟨.drew range.portCount :: checking (portAt host range w.drawn) :: es, ?_, ?_, hasked⟩
  · refine hes.trans ?_
    simp [asking]
  · show range.portCount :: stops es = _
    rw [hstops]

/-- A search that may try once more goes on as the attempt tells. -/
theorem run_drawFree_succ (host : Host σ) (range : PortRange) (used : List Int) (attempts : Nat)
    (w : World σ) :
    (drawFree host range used (attempts + 1)).run w = match (attempt host range).run w with
      | .error f w' => .error f w'
      | .ok free w' =>
        if (free && !used.contains (portAt host range w.drawn : Int)) = true then
          .ok (portAt host range w.drawn) w'
        else (drawFree host range used attempts).run w' := by
  -- the draw and the message succeed, so it is the probe that tells
  rw [run_attempt]
  show EStateM.run (host.probe.isFree (portAt host range w.drawn) >>= _) (asking host range w) = _
  rw [EStateM.run_bind]
  cases (host.probe.isFree (portAt host range w.drawn)).run (asking host range w) with
  | error f w' => rfl
  | ok free w' =>
      show EStateM.run (if (free && !used.contains (portAt host range w.drawn : Int)) = true then
        pure (portAt host range w.drawn) else drawFree host range used attempts) w' = ite _ _ _
      split_ifs <;> rfl

/-! ## The course of the attempts -/

/-- The attempts that follow each other from a world on. -/
structure Course (σ : Type) where
  host : Host σ
  range : PortRange
  start : World σ

namespace Course

def world (c : Course σ) (i : Nat) : World σ := (leaves (attempt c.host c.range))^[i] c.start

def draw (c : Course σ) (i : Nat) : Nat := drawAt c.host c.range (c.start.drawn + i)

def port (c : Course σ) (i : Nat) : Nat := c.range.min + c.draw i

def answer (c : Course σ) (i : Nat) : Except Fault Bool :=
  ends (attempt c.host c.range) (c.world i)

/-- The course from a later attempt on. -/
def later (c : Course σ) (i : Nat) : Course σ := { c with start := c.world i }

variable {c : Course σ} {used : List Int} {attempts i k : Nat}

theorem world_succ (c : Course σ) (i : Nat) :
    c.world (i + 1) = leaves (attempt c.host c.range) (c.world i) :=
  Function.iterate_succ_apply' _ _ _

theorem world_later (c : Course σ) (i j : Nat) : (c.later i).world j = c.world (i + j) := by
  rw [Nat.add_comm]
  exact (Function.iterate_add_apply _ j i c.start).symm

theorem drawn_world (c : Course σ) (i : Nat) : (c.world i).drawn = c.start.drawn + i := by
  induction i with
  | zero => rfl
  | succ i ih => rw [world_succ, drawn_attempt, ih, Nat.add_assoc]

theorem port_later (c : Course σ) (i j : Nat) : (c.later i).port j = c.port (i + j) := by
  show portAt c.host c.range ((c.world i).drawn + j) = _
  rw [drawn_world, Nat.add_assoc]
  rfl

theorem answer_later (c : Course σ) (i j : Nat) : (c.later i).answer j = c.answer (i + j) := by
  unfold answer
  rw [world_later]
  rfl

theorem run_attempt_world (c : Course σ) (i : Nat) :
    (attempt c.host c.range).run (c.world i) = match c.answer i with
      | .ok free => .ok free (c.world (i + 1))
      | .error f => .error f (c.world (i + 1)) := by
  rw [world_succ]
  cases hend : c.answer i with
  | ok free => exact run_of_ends_ok hend
  | error f => exact run_of_ends_error hend

def question (c : Course σ) (i : Nat) : Question := ⟨c.port i, (c.answer i).toOption⟩

/-- So many attempts leave so many draws and questions, in turn. -/
theorem events_world (c : Course σ) (k : Nat) :
    ∃ es, (c.world k).events.toList = c.start.events.toList ++ es ∧
      stops es = List.replicate k c.range.portCount ∧ asked es = (List.range k).map c.question := by
  induction k with
  | zero => exact ⟨[], (List.append_nil _).symm, rfl, rfl⟩
  | succ k ih =>
      obtain ⟨es, hes, hstops, hasked⟩ := ih
      obtain ⟨es', hes', hstops', hasked'⟩ := events_attempt c.host c.range (c.world k)
      refine ⟨es ++ es', ?_, ?_, ?_⟩
      · rw [world_succ, hes', hes, List.append_assoc]
      · rw [stops_append, hstops, hstops', List.replicate_succ']
      · rw [asked_append, hasked, hasked', List.range_succ, List.map_append, drawn_world]
        rfl

/-! ## Searches along the course -/

/-- A search goes on behind an attempt: the port was busy, or it was used. -/
def PassesOver (c : Course σ) (used : List Int) (i : Nat) : Prop :=
  ∃ free, c.answer i = .ok free ∧ (free = true → (c.port i : Int) ∈ used)

/-- A search that has come to an attempt goes on as the attempt tells. -/
theorem run_drawFree_world (c : Course σ) (used : List Int) (attempts i : Nat) :
    (drawFree c.host c.range used (attempts + 1)).run (c.world i) = match c.answer i with
      | .error f => .error f (c.world (i + 1))
      | .ok free =>
        if (free && !used.contains (c.port i : Int)) = true then .ok (c.port i) (c.world (i + 1))
        else (drawFree c.host c.range used attempts).run (c.world (i + 1)) := by
  rw [run_drawFree_succ, run_attempt_world, drawn_world]
  cases c.answer i <;> rfl

/-- A search comes to an attempt if it passes over those before it. -/
theorem run_drawFree_of_passed (hpassed : ∀ j < i, c.PassesOver used j) (attempts : Nat) :
    (drawFree c.host c.range used (i + attempts)).run c.start =
      (drawFree c.host c.range used attempts).run (c.world i) := by
  -- the last of the attempts that are passed over takes one from those that are left
  induction i generalizing attempts with
  | zero =>
      rw [Nat.zero_add]
      rfl
  | succ i ih =>
      obtain ⟨free, hanswer, hused⟩ := hpassed i (by omega)
      have hrefused : ¬ (free && !used.contains (c.port i : Int)) = true := by simpa using hused
      have hcount : i + 1 + attempts = i + (attempts + 1) := by omega
      rw [hcount, ih (fun j hj => hpassed j (by omega)), run_drawFree_world, hanswer]
      exact if_neg hrefused

/-- All that a search with so many attempts can come to. -/
inductive Settles (c : Course σ) (used : List Int) (attempts : Nat) :
    EStateM.Result Fault (World σ) Nat → Prop where
  /-- the first port that is free and not used -/
  | found {i : Nat} (hi : i < attempts) (hpassed : ∀ j < i, c.PassesOver used j)
      (hfree : c.answer i = .ok true) (hnew : (c.port i : Int) ∉ used) :
      Settles c used attempts (.ok (c.port i) (c.world (i + 1)))
  /-- the probe fails before there is one -/
  | failed {i : Nat} {f : Fault} (hi : i < attempts) (hpassed : ∀ j < i, c.PassesOver used j)
      (hfails : c.answer i = .error f) : Settles c used attempts (.error f (c.world (i + 1)))
  /-- there is none, and all attempts are made -/
  | exhausted (hpassed : ∀ j < attempts, c.PassesOver used j) :
      Settles c used attempts (.error (.exhausted .random c.range) (c.world attempts))

/-- The attempt at which a search ends that passes over those before it. -/
theorem run_drawFree_at (hi : i < attempts) (hpassed : ∀ j < i, c.PassesOver used j) :
    (drawFree c.host c.range used attempts).run c.start = match c.answer i with
      | .error f => .error f (c.world (i + 1))
      | .ok free =>
        if (free && !used.contains (c.port i : Int)) = true then .ok (c.port i) (c.world (i + 1))
        else (drawFree c.host c.range used (attempts - i - 1)).run (c.world (i + 1)) := by
  have hcount : attempts = i + (attempts - i - 1 + 1) := by omega
  rw [hcount, run_drawFree_of_passed hpassed, run_drawFree_world, ← hcount]

theorem run_drawFree_exhausted (hpassed : ∀ j < attempts, c.PassesOver used j) :
    (drawFree c.host c.range used attempts).run c.start =
      .error (.exhausted .random c.range) (c.world attempts) := by
  have hrun := run_drawFree_of_passed hpassed 0
  rw [Nat.add_zero] at hrun
  rw [hrun]
  rfl

theorem settles_drawFree (c : Course σ) (used : List Int) (attempts : Nat) :
    c.Settles used attempts ((drawFree c.host c.range used attempts).run c.start) := by
  by_cases hall : ∀ j < attempts, c.PassesOver used j
  · rw [run_drawFree_exhausted hall]
    exact .exhausted hall
  · -- the search ends at the first attempt that it does not pass over
    push Not at hall
    classical
    obtain ⟨i, ⟨hi, hstop⟩, hleast⟩ := Nat.findX hall
    have hpassed : ∀ j < i, c.PassesOver used j := by
      intro j hj
      by_contra hnot
      exact hleast j hj ⟨by omega, hnot⟩
    rw [run_drawFree_at hi hpassed]
    cases hanswer : c.answer i with
    | error f => exact .failed hi hpassed hanswer
    | ok free =>
        have haccept : free = true ∧ (c.port i : Int) ∉ used := by
          by_contra hnot
          refine hstop ⟨free, hanswer, fun hfree => ?_⟩
          by_contra hnew
          exact hnot ⟨hfree, hnew⟩
        obtain ⟨rfl, hnew⟩ := haccept
        dsimp only
        rw [if_pos (by simpa using hnew)]
        exact .found hi hpassed hanswer hnew

/-- A search comes to what the course settles, and to nothing else. -/
theorem run_drawFree_iff {r : EStateM.Result Fault (World σ) Nat} :
    (drawFree c.host c.range used attempts).run c.start = r ↔ c.Settles used attempts r := by
  refine ⟨fun hrun => hrun ▸ settles_drawFree c used attempts, fun h => ?_⟩
  cases h with
  | found hi hpassed hfree hnew =>
      rw [run_drawFree_at hi hpassed, hfree]
      exact if_pos (by simpa using hnew)
  | failed hi hpassed hfails => rw [run_drawFree_at hi hpassed, hfails]
  | exhausted hpassed => exact run_drawFree_exhausted hpassed

/-! ## Two searches, one behind the other -/

theorem passesOver_nil : c.PassesOver [] i ↔ c.answer i = .ok false := by
  constructor
  · rintro ⟨free, hanswer, hused⟩
    cases free with
    | false => exact hanswer
    | true => exact absurd (hused rfl) List.not_mem_nil
  · intro hanswer
    exact ⟨false, hanswer, fun h => nomatch h⟩

theorem passesOver_singleton {p : Nat} : c.PassesOver [(p : Int)] i ↔
    ∃ free, c.answer i = .ok free ∧ (free = true → c.port i = p) := by
  unfold PassesOver
  simp only [List.mem_singleton, Nat.cast_inj]

theorem passesOver_later (c : Course σ) (used : List Int) (i j : Nat) :
    (c.later i).PassesOver used j ↔ c.PassesOver used (i + j) := by
  unfold PassesOver
  rw [answer_later, port_later]

/-- A search that begins behind other attempts finds the first port there that is free and not
used. -/
theorem run_drawFree_later_iff (i : Nat) {p : Nat} {w : World σ} :
    (drawFree c.host c.range used attempts).run (c.world i) = .ok p w ↔
      ∃ k, i ≤ k ∧ k < i + attempts ∧ (∀ j, i ≤ j → j < k → c.PassesOver used j) ∧
        c.answer k = .ok true ∧ (c.port k : Int) ∉ used ∧ p = c.port k ∧ w = c.world (k + 1) := by
  -- the course from there on counts its attempts from zero
  constructor
  · intro hrun
    have hsettles : (c.later i).Settles used attempts (.ok p w) := run_drawFree_iff.mp hrun
    cases hsettles with
    | @found m hm hpassed hfree hnew =>
        rw [answer_later] at hfree
        rw [port_later] at hnew
        refine ⟨i + m, by omega, by omega, ?_, hfree, hnew, port_later c i m, ?_⟩
        · intro j hij hjk
          have hcount : i + (j - i) = j := by omega
          have hover := hpassed (j - i) (by omega)
          rwa [passesOver_later, hcount] at hover
        · rw [world_later, Nat.add_assoc]
  · rintro ⟨k, hle, hlt, hpassed, hfree, hnew, rfl, rfl⟩
    obtain ⟨m, rfl⟩ := Nat.exists_eq_add_of_le hle
    rw [← answer_later] at hfree
    rw [← port_later] at hnew ⊢
    rw [Nat.add_assoc, ← world_later]
    refine run_drawFree_iff.mpr (.found (by omega) (fun j hj => ?_) hfree hnew)
    rw [passesOver_later]
    exact hpassed _ (by omega) (by omega)

/-- A search for two ports finds them in these attempts: in the first attempt in which a port is
free, and in the first one behind it in which another port is free. Each of the ports must come up
within the attempts that a search may make. -/
structure FindsAt (c : Course σ) (i k : Nat) : Prop where
  application_lt : i < 3 * c.range.portCount
  application_free : c.answer i = .ok true
  before : ∀ j < i, c.answer j = .ok false
  lt_admin : i < k
  admin_le : k ≤ i + 3 * c.range.portCount
  admin_free : c.answer k = .ok true
  distinct : c.port k ≠ c.port i
  between : ∀ j, i < j → j < k →
    ∃ free, c.answer j = .ok free ∧ (free = true → c.port j = c.port i)

theorem run_randomPair_iff {found : ByRole Nat} {w : World σ} :
    (randomPair c.host c.range).run c.start = .ok found w ↔
      ∃ i k, c.FindsAt i k ∧ found = ⟨c.port i, c.port k⟩ ∧ w = c.world (k + 1) := by
  have hattempts : c.range.maxAttempts = 3 * c.range.portCount := rfl
  constructor
  · intro hrun
    obtain ⟨application, w', happlication, hrest⟩ := of_run_bind_ok hrun
    obtain ⟨admin, w'', hadmin, hpure⟩ := of_run_bind_ok hrest
    cases hpure
    -- the second search begins behind the attempt in which the first one has ended
    obtain ⟨i, -, hi, hbefore, hfree, -, rfl, rfl⟩ := (run_drawFree_later_iff 0).mp happlication
    obtain ⟨k, hlt, hk, hbetween, hfree', hnew, rfl, rfl⟩ :=
      (run_drawFree_later_iff (i + 1)).mp hadmin
    rw [List.mem_singleton, Nat.cast_inj] at hnew
    refine ⟨i, k, ⟨by omega, hfree, ?_, hlt, by omega, hfree', hnew, ?_⟩, rfl, rfl⟩
    · exact fun j hj => passesOver_nil.mp (hbefore j j.zero_le hj)
    · exact fun j hij hjk => passesOver_singleton.mp (hbetween j hij hjk)
  · rintro ⟨i, k, h, rfl, rfl⟩
    have hi := h.application_lt
    have hk := h.admin_le
    have happlication : (randomPort c.host c.range []).run c.start =
        .ok (c.port i) (c.world (i + 1)) :=
      (run_drawFree_later_iff 0).mpr ⟨i, i.zero_le, by omega,
        fun j _ hj => passesOver_nil.mpr (h.before j hj), h.application_free, List.not_mem_nil,
        rfl, rfl⟩
    have hadmin : (randomPort c.host c.range [(c.port i : Int)]).run (c.world (i + 1)) =
        .ok (c.port k) (c.world (k + 1)) :=
      (run_drawFree_later_iff (i + 1)).mpr ⟨k, h.lt_admin, by omega,
        fun j hij hjk => passesOver_singleton.mpr (h.between j hij hjk), h.admin_free,
        by simpa using h.distinct, rfl, rfl⟩
    unfold randomPair
    rw [EStateM.run_bind, happlication]
    show EStateM.run (randomPort c.host c.range [(c.port i : Int)] >>= _) _ = _
    rw [EStateM.run_bind, hadmin]
    rfl

/-! ## The search of a session -/

/-- A session whose next search for one more port follows the course. -/
def session (c : Course σ) (assigner : Assigner) (server : Server) (used : List Int) : Session σ :=
  ⟨{ assigner with range := some c.range }, c.host, server, used, c.start⟩

/-- A session uses the port that its search has found. If it has found none, the same ports are used
as before. -/
theorem step_session (c : Course σ) (assigner : Assigner) (server : Server) (used : List Int) :
    (c.session assigner server used).step .findFreePort =
      match (randomPort c.host c.range used).run c.start with
      | .ok port w => (.ok (.port port),
          { c.session assigner server used with used := addPort used port, world := w })
      | .error f w => (.error f, { c.session assigner server used with world := w }) := by
  show (c.session assigner server used).findFreePort = _
  unfold Session.findFreePort
  rfl

/-- **A random search takes the first free port that is not used.** The ports that come up are the
lowest port of the range plus a number that is drawn below its size. So many attempts draw so many
numbers and ask about the ports that come up, about used ones too. A search for one port ends with
the first of them that is free and not used, and that port is used from then on; it ends as the probe
does if that fails before, and it gives up after three times as many attempts as the range has ports,
and then nothing else is used than before. A search for two ports finds them if a first free one and
another one behind it come up, each within the attempts of its own search. -/
theorem randomPort_first_free (c : Course σ) (used : List Int) :
    (∀ i, c.port i = c.range.min + c.draw i ∧ c.draw i < c.range.portCount) ∧
    (∀ k, (c.world k).drawn = c.start.drawn + k ∧
      ∃ es, (c.world k).events.toList = c.start.events.toList ++ es ∧
        stops es = List.replicate k c.range.portCount ∧ asked es = (List.range k).map c.question) ∧
    (∀ r, (randomPort c.host c.range used).run c.start = r ↔
      c.Settles used (3 * c.range.portCount) r) ∧
    Fault.attempts? .random c.range = some (3 * c.range.portCount) ∧
    (∀ assigner server, (c.session assigner server used).step .findFreePort =
      match (randomPort c.host c.range used).run c.start with
      | .ok port w => (.ok (.port port),
          { c.session assigner server used with used := addPort used port, world := w })
      | .error f w => (.error f, { c.session assigner server used with world := w })) ∧
    (∀ port p, p ∈ addPort used port ↔ p ∈ used ∨ p = port) ∧
    ∀ found w, (Strategy.random.find c.host (some c.range)).run c.start = .ok found w ↔
      ∃ i k, c.FindsAt i k ∧ found = ⟨c.port i, c.port k⟩ ∧ w = c.world (k + 1) := by
  refine ⟨fun i => ⟨rfl, drawAt_lt _ _ _⟩, fun k => ⟨c.drawn_world k, c.events_world k⟩, ?_, rfl,
    fun assigner server => c.step_session assigner server used, fun port p => mem_addPort, ?_⟩
  · intro r
    exact run_drawFree_iff
  · intro found w
    exact run_randomPair_iff

/-- A used port that comes up first is asked about, and passed over. -/
example :
    let range : PortRange := ⟨1, 4, by decide, by decide, by decide⟩
    let host : Host Unit := ⟨.answering fun _ memory => (.ok true, memory), fun n => n⟩
    ends (randomPort host range [1]) (World.fresh ()) = .ok 2 ∧
      (leaves (randomPort host range [1]) (World.fresh ())).drawn = 2 :=
  ⟨rfl, rfl⟩

end Course

end Search

end ListenerPorts
