import ListenerPorts.Proofs.Freeing

set_option autoImplicit false

/-! # What a search can come to

With fixed answers, a search of a range by any strategy finds two different free ports of the range,
or it gives up. Which of these pairs a random search finds is up to the numbers that are drawn, and
none of them is out of its reach: there are numbers that make the two ports come up in the first two
attempts. It may always give up, too, since one and the same port may come up in all attempts. An
incrementing search does not depend on numbers and finds the two lowest free ports, so it finds ports
wherever any other search does.
-/

namespace ListenerPorts

variable {σ τ : Type}

open Run

/-- The free ports of a range, in ascending order. -/
def PortRange.freePorts (range : PortRange) (free : Int → Bool) : List Nat :=
  range.ports.filter fun p : Nat => free p

namespace PortRange

variable {range : PortRange} {free : Int → Bool} {p q : Nat}

theorem mem_freePorts : p ∈ range.freePorts free ↔ p ∈ range.ports ∧ free p = true :=
  List.mem_filter

theorem freePorts_ascending (range : PortRange) (free : Int → Bool) :
    (range.freePorts free).Pairwise (· < ·) :=
  List.Pairwise.filter _ List.pairwise_lt_range'

theorem pair_sublist_freePorts (hp : p ∈ range.freePorts free) (hq : q ∈ range.freePorts free)
    (hlt : p < q) : [p, q].Sublist (range.freePorts free) := by
  -- both lists ascend, so it is enough that one holds the ports of the other
  have hpair : [p, q].Pairwise (· < ·) := List.pairwise_pair.mpr hlt
  have hsubset : [p, q] ⊆ range.freePorts free := by
    rw [List.cons_subset, List.cons_subset]
    exact ⟨hp, hq, List.nil_subset _⟩
  exact List.sublist_of_subperm_of_pairwise (hpair.nodup.subperm hsubset) hpair
    (range.freePorts_ascending free)

end PortRange

namespace Search

variable {probe : Probe σ} {host : Host σ} {range : PortRange} {free : Int → Bool}
  {found : ByRole Nat} {w : World σ}

/-! ## Pairs of free ports -/

/-- Two different free ports of a range. -/
structure FreePair (range : PortRange) (free : Int → Bool) (found : ByRole Nat) : Prop where
  distinct : found.application ≠ found.admin
  application_mem : found.application ∈ range.freePorts free
  admin_mem : found.admin ∈ range.freePorts free

theorem FreePair.sublist (h : FreePair range free found) :
    [min found.application found.admin, max found.application found.admin].Sublist
      (range.freePorts free) := by
  rcases Nat.lt_or_gt_of_ne h.distinct with hlt | hlt
  · rw [min_eq_left hlt.le, max_eq_right hlt.le]
    exact PortRange.pair_sublist_freePorts h.application_mem h.admin_mem hlt
  · rw [min_eq_right hlt.le, max_eq_left hlt.le]
    exact PortRange.pair_sublist_freePorts h.admin_mem h.application_mem hlt

theorem exists_freePair_iff :
    (∃ found, FreePair range free found) ↔ 2 ≤ (range.freePorts free).length := by
  constructor
  · rintro ⟨found, hpair⟩
    exact hpair.sublist.length_le
  · intro hlength
    have hascending := range.freePorts_ascending free
    match hports : range.freePorts free, hlength with
    | p :: q :: ports, _ =>
        rw [hports] at hascending
        have hlt := List.rel_of_pairwise_cons hascending List.mem_cons_self
        exact ⟨⟨p, q⟩, hlt.ne, by simp [hports], by simp [hports]⟩

/-- With fixed answers, the ports that are found are free. -/
theorem free_of_find (strategy : Strategy) (hfixed : host.probe.Fixed free)
    (h : ends (strategy.find host (some range)) w = .ok found) (role : Role) :
    free (found.get role) = true := by
  cases strategy with
  | random =>
      have hrun := run_of_ends_ok h
      obtain ⟨i, k, hfinds, rfl, -⟩ := (Course.run_randomPair_iff (c := ⟨host, range, w⟩)).mp hrun
      obtain ⟨happlication, hadmin, -⟩ := hfinds.free_of_fixed hfixed
      cases role with
      | application => exact happlication
      | admin => exact hadmin
  | incrementing =>
      obtain ⟨es, -, -, hscan⟩ := Strategy.meets_find_incrementing host range w
      obtain ⟨before, between, hqs, -, -⟩ := hscan.foundTwo h
      simp only [Option.toList_none, List.map_nil, List.nil_append] at hqs
      refine hscan.upward.free_of_fixed hfixed ?_
      cases role <;> simp [hqs, ByRole.get]
  | adjacent =>
      obtain ⟨es, -, -, hscan⟩ := Strategy.meets_find_adjacent host range w
      obtain ⟨before, hqs⟩ := hscan.foundPair h
      refine hscan.upward.free_of_fixed hfixed ?_
      cases role <;> simp [hqs, ByRole.get]

/-- With fixed answers, a search finds two different free ports of the range, or it gives up. -/
theorem find_of_fixed (strategy : Strategy) (host : Host σ) (range : PortRange)
    (hfixed : host.probe.Fixed free) (w : World σ) :
    (∃ found, ends (strategy.find host (some range)) w = .ok found ∧ FreePair range free found) ∨
      ends (strategy.find host (some range)) w = .error (.exhausted strategy range) := by
  obtain ⟨es, -, hsound⟩ := strategy.find_sound host range w
  cases hend : ends (strategy.find host (some range)) w with
  | error f =>
      rcases hsound.fault f hend with rfl | ⟨p, -, hmay⟩
      · exact Or.inr rfl
      · cases hfixed.of_mayEnd hmay
  | ok found =>
      have hchosen := hsound.chosen found hend
      have hfree := free_of_find strategy hfixed hend
      exact Or.inl ⟨found, rfl, hchosen.distinct,
        PortRange.mem_freePorts.mpr ⟨hchosen.application_mem, hfree .application⟩,
        PortRange.mem_freePorts.mpr ⟨hchosen.admin_mem, hfree .admin⟩⟩

/-! ## Random searches -/

/-- A machine on which the numbers of a stream are drawn. -/
def streaming {n : Nat} (probe : Probe σ) (stream : Nat → Fin n) : Host σ :=
  ⟨probe, fun position => ((stream position).val : Int)⟩

theorem drawAt_streaming (probe : Probe σ) (stream : Nat → Fin range.portCount) (position : Nat) :
    drawAt (streaming probe stream) range position = stream position := by
  have hlt := (stream position).isLt
  unfold drawAt streaming
  dsimp only
  rw [Int.emod_eq_of_lt (by omega) (by omega), Int.toNat_natCast]

/-- All that a random search of a range can come to in a world, whatever numbers are drawn. -/
def outcomes (probe : Probe σ) (range : PortRange) (w : World σ) :
    Set (Except Fault (ByRole Nat)) :=
  Set.range fun stream : Nat → Fin range.portCount =>
    ends (Strategy.random.find (streaming probe stream) (some range)) w

theorem outcomes_of_fixed (hfixed : probe.Fixed free) {r : Except Fault (ByRole Nat)}
    (hr : r ∈ outcomes probe range w) :
    (∃ found, r = .ok found ∧ FreePair range free found) ∨
      r = .error (.exhausted .random range) := by
  obtain ⟨stream, rfl⟩ := hr
  exact find_of_fixed .random (streaming probe stream) range hfixed w

/-- The two ports of a pair are found if they come up in the first two attempts. -/
theorem ok_mem_outcomes (hfixed : probe.Fixed free) (hpair : FreePair range free found)
    (w : World σ) : .ok found ∈ outcomes probe range w := by
  obtain ⟨happlication, happlicationFree⟩ := PortRange.mem_freePorts.mp hpair.application_mem
  obtain ⟨hadmin, hadminFree⟩ := PortRange.mem_freePorts.mp hpair.admin_mem
  rw [PortRange.ports, List.mem_range'_1] at happlication hadmin
  -- the application port is drawn first, and the admin port ever after
  let stream : Nat → Fin range.portCount := fun position =>
    if position = w.drawn then ⟨found.application - range.min, by omega⟩
    else ⟨found.admin - range.min, by omega⟩
  let c : Course σ := ⟨streaming probe stream, range, w⟩
  have hfirst : c.port 0 = found.application := by
    show range.min + drawAt (streaming probe stream) range w.drawn = _
    rw [drawAt_streaming]
    simp only [stream, if_pos]
    omega
  have hsecond : c.port 1 = found.admin := by
    show range.min + drawAt (streaming probe stream) range (w.drawn + 1) = _
    rw [drawAt_streaming]
    simp only [stream, if_neg (Nat.succ_ne_self w.drawn)]
    omega
  have hcount : c.range.portCount = range.portCount := rfl
  have hanswer := Course.answer_of_fixed (c := c) hfixed
  have hfinds : c.FindsAt 0 1 := by
    refine ⟨by omega, ?_, by omega, by omega, by omega, ?_, ?_, by omega⟩
    · rw [hanswer, hfirst, happlicationFree]
    · rw [hanswer, hsecond, hadminFree]
    · rw [hfirst, hsecond]
      exact hpair.distinct.symm
  have hrun := Course.run_randomPair_iff.mpr ⟨0, 1, hfinds, rfl, rfl⟩
  refine ⟨stream, ?_⟩
  show ends (randomPair c.host c.range) c.start = _
  rw [ends, hrun, hfirst, hsecond]

/-- A search gives up if the same port comes up in all attempts. -/
theorem exhausted_mem_outcomes (hfixed : probe.Fixed free) (range : PortRange) (w : World σ) :
    .error (.exhausted .random range) ∈ outcomes probe range w := by
  have hcount := range.two_le_portCount
  let stream : Nat → Fin range.portCount := fun _ => ⟨0, by omega⟩
  let c : Course σ := ⟨streaming probe stream, range, w⟩
  have hport : ∀ i, c.port i = range.min := by
    intro i
    show range.min + drawAt (streaming probe stream) range (w.drawn + i) = _
    rw [drawAt_streaming, Nat.add_zero]
  refine ⟨stream, ?_⟩
  rcases find_of_fixed .random (streaming probe stream) range hfixed w with
    ⟨found, hfound, -⟩ | hend
  · -- two different ports would have come up
    obtain ⟨i, k, hfinds, -⟩ := (Course.run_randomPair_iff (c := c)).mp (run_of_ends_ok hfound)
    exact absurd ((hport k).trans (hport i).symm) hfinds.distinct
  · exact hend

end Search

open Search

/-- **What a random search can come to.** With fixed answers, a random search of a range can find a
pair of ports if and only if these are different free ports of the range, in either order. It fails
only by giving up, and this it can always do. It gives up whatever numbers are drawn if and only if
fewer than two ports of the range are free. -/
theorem Strategy.find_random_outcomes {probe : Probe σ} {free : Int → Bool} (range : PortRange)
    (hfixed : probe.Fixed free) (w : World σ) :
    (∀ found, .ok found ∈ outcomes probe range w ↔ FreePair range free found) ∧
    (∀ f, .error f ∈ outcomes probe range w ↔ f = .exhausted .random range) ∧
    ((∀ stream : Nat → Fin range.portCount,
        ends (Strategy.random.find (streaming probe stream) (some range)) w =
          .error (.exhausted .random range)) ↔
      (range.freePorts free).length < 2) := by
  refine ⟨fun found => ⟨fun hmem => ?_, fun hpair => ok_mem_outcomes hfixed hpair w⟩,
    fun f => ⟨fun hmem => ?_, ?_⟩, ?_, fun hlength stream => ?_⟩
  · rcases outcomes_of_fixed hfixed hmem with ⟨found', hfound, hpair⟩ | hend
    · cases hfound
      exact hpair
    · cases hend
  · rcases outcomes_of_fixed hfixed hmem with ⟨found, hfound, -⟩ | hend
    · cases hfound
    · cases hend
      rfl
  · rintro rfl
    exact exhausted_mem_outcomes hfixed range w
  · intro hall
    by_contra hlength
    obtain ⟨found, hpair⟩ := exists_freePair_iff.mpr (Nat.le_of_not_lt hlength)
    obtain ⟨stream, hfound⟩ := ok_mem_outcomes hfixed hpair w
    cases hfound.symm.trans (hall stream)
  · rcases outcomes_of_fixed hfixed ⟨stream, rfl⟩ with ⟨found, -, hpair⟩ | hend
    · exact absurd (exists_freePair_iff.mp ⟨found, hpair⟩) (Nat.not_le_of_lt hlength)
    · exact hend

/-- Both ends of a range can be found, in either order, if they are free. -/
theorem Strategy.find_random_outcomes_ends :
    let free : Int → Bool := fun port => port != 2
    let range : PortRange := ⟨1, 3, by decide, by decide, by decide⟩
    let probe : Probe Unit := .answering fun port memory => (.ok (free port), memory)
    .ok ⟨1, 3⟩ ∈ outcomes probe range (World.fresh ()) ∧
      .ok ⟨3, 1⟩ ∈ outcomes probe range (World.fresh ()) ∧
      .ok ⟨1, 2⟩ ∉ outcomes probe range (World.fresh ()) := by
  intro free range probe
  have hfixed : probe.Fixed free := Probe.fixed_answering free
  obtain ⟨hpairs, -, -⟩ := Strategy.find_random_outcomes range hfixed (World.fresh ())
  refine ⟨(hpairs _).mpr ⟨by decide, by decide, by decide⟩,
    (hpairs _).mpr ⟨by decide, by decide, by decide⟩, fun hmem => ?_⟩
  exact absurd ((hpairs _).mp hmem).admin_mem (by decide)

/-! ## Incrementing searches -/

/-- With fixed answers, an incrementing search finds two ports if any search does, and the lower one
and the higher one of them are no higher than those of the other search. -/
theorem Search.find_incrementing_of_freePair {host : Host σ} {range : PortRange} {free : Int → Bool}
    {found : ByRole Nat} (hfixed : host.probe.Fixed free) (hpair : FreePair range free found)
    (w : World σ) :
    ∃ first, ends (Strategy.incrementing.find host (some range)) w = .ok first ∧
      first.application ≤ min found.application found.admin ∧
      first.admin ≤ max found.application found.admin := by
  obtain ⟨es, -, -, hscan⟩ := Strategy.meets_find_incrementing host range w
  rw [hscan.eq_of_fixed hfixed]
  exact firstTwoOf_sublist hpair.sublist (range.freePorts_ascending free) rfl

/-- **An incrementing search takes the first two free ports.** It draws nothing and asks about the
ports of its range in ascending order, about each at most once, whatever the probe answers. It stops
at the second port that was found free, and ends with the two in ascending order. It gives up if fewer
than two ports were found free, without a number of attempts, and has then asked about all ports of
the range. With fixed answers, it finds two ports wherever a search by any strategy does, on any
machine and from any world, and none of them is higher than what the other search has found. -/
theorem Strategy.find_incrementing_first (host : Host σ) (range : PortRange) (w : World σ) :
    (∃ es, (leaves (Strategy.incrementing.find host (some range)) w).events.toList =
        w.events.toList ++ es ∧ stops es = [] ∧
      FindsTwo host.probe range (asked es)
        (ends (Strategy.incrementing.find host (some range)) w)) ∧
    Fault.attempts? .incrementing range = none ∧
    ∀ free, host.probe.Fixed free →
      ∀ (strategy : Strategy) (host' : Host τ) (w' : World τ) (found : ByRole Nat),
        host'.probe.Fixed free → ends (strategy.find host' (some range)) w' = .ok found →
          ∃ first, ends (Strategy.incrementing.find host (some range)) w = .ok first ∧
            first.application ≤ min found.application found.admin ∧
            first.admin ≤ max found.application found.admin := by
  refine ⟨?_, rfl, ?_⟩
  · obtain ⟨es, hes, hstops, hscan⟩ := Strategy.meets_find_incrementing host range w
    exact ⟨es, hes, hstops, hscan.findsTwo⟩
  · intro free hfixed strategy host' w' found hfixed' hfound
    rcases find_of_fixed strategy host' range hfixed' w' with ⟨found', hfound', hpair⟩ | hend
    · cases hfound.symm.trans hfound'
      exact find_incrementing_of_freePair hfixed hpair w
    · cases hfound.symm.trans hend

/-- Where a random search has found the higher port first, an incrementing search finds no higher
ports, in ascending order. -/
theorem Strategy.find_incrementing_first_descending :
    let free : Int → Bool := fun port => port == 2 || port == 4 || port == 5
    let range : PortRange := ⟨1, 6, by decide, by decide, by decide⟩
    let host : Host Unit :=
      ⟨.answering fun port memory => (.ok (free port), memory), fun n => if n = 0 then 4 else 1⟩
    ends (Strategy.random.find host (some range)) (World.fresh ()) = .ok ⟨5, 2⟩ ∧
      ∃ first, ends (Strategy.incrementing.find host (some range)) (World.fresh ()) = .ok first ∧
        first.application ≤ 2 ∧ first.admin ≤ 5 := by
  intro free range host
  have hfixed : host.probe.Fixed free := Probe.fixed_answering free
  have hfound : ends (Strategy.random.find host (some range)) (World.fresh ()) = .ok ⟨5, 2⟩ := rfl
  obtain ⟨-, -, hbest⟩ := Strategy.find_incrementing_first host range (World.fresh ())
  exact ⟨hfound, hbest free hfixed .random host (World.fresh ()) ⟨5, 2⟩ hfixed hfound⟩

end ListenerPorts
