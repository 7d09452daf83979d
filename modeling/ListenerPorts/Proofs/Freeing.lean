import ListenerPorts.Proofs.Attempts
import ListenerPorts.Proofs.Scanning

set_option autoImplicit false

/-! # Freeing ports

Two searches of the same range are compared, by the same strategy, with probes that have fixed
answers. All ports that are free for the first probe are free for the second one, and for random
searches the same numbers are drawn. If the first search finds two ports, then the second one finds
two ports as well, and for no more questions and draws.

For searches in ascending order this can be told from the ports alone. Of two random searches, the
second one may take its application port earlier than the first, and then it looks for another port
for the admin role from there on, with as many attempts as ever. The application port of the first
search comes up within these attempts, and it is another port: if it were the same, the first search
would have taken it earlier, too.
-/

namespace ListenerPorts

variable {σ τ : Type}

open Run

namespace Search

variable {probe : Probe σ} {probe' : Probe τ} {range : PortRange} {free free' : Int → Bool}
  {start count : Nat} {qs qs' : List Question} {r' : Except Fault (ByRole Nat)}
  {found found' : ByRole Nat}

/-- A search comes off no worse than another one that has found two ports: it asks no more questions
and draws no more numbers, and in ascending order it finds no higher ports. -/
structure NoWorse (strategy : Strategy) (es es' : List Event) (found found' : ByRole Nat) :
    Prop where
  questions : (asked es').length ≤ (asked es).length
  draws : (stops es').length ≤ (stops es).length
  incrementing : strategy = .incrementing →
    found'.application ≤ found.application ∧ found'.admin ≤ found.admin
  adjacent : strategy = .adjacent → found'.application ≤ found.application

/-! ## Searches in ascending order -/

theorem of_firstTwoOf {ports : List Nat} (h : firstTwoOf range ports = .ok found) :
    ∃ others, ports = found.application :: found.admin :: others := by
  match ports, h with
  | application :: admin :: others, h =>
      cases h
      exact ⟨others, rfl⟩

/-- With more ports to choose from, both of the first two ports are lower or the same. -/
theorem firstTwoOf_sublist {ports ports' : List Nat} (h : ports.Sublist ports')
    (hascending : ports'.Pairwise (· < ·)) (hfound : firstTwoOf range ports = .ok found) :
    ∃ found', firstTwoOf range ports' = .ok found' ∧
      found'.application ≤ found.application ∧ found'.admin ≤ found.admin := by
  obtain ⟨others, rfl⟩ := of_firstTwoOf hfound
  have horder := (List.pairwise_cons.mp (hascending.sublist h)).1 found.admin (by simp)
  have hlength := h.length_le
  match ports', hlength with
  | application' :: admin' :: others', _ =>
      simp only [List.pairwise_cons, List.mem_cons, forall_eq_or_imp] at hascending
      obtain ⟨⟨hfirst, -⟩, hsecond, -⟩ := hascending
      -- a port of the longer list is the first one, or not below the second one
      have hplace : ∀ p ∈ application' :: admin' :: others', p = application' ∨ admin' ≤ p := by
        intro p hp
        rcases List.mem_cons.mp hp with rfl | hp
        · exact Or.inl rfl
        rcases List.mem_cons.mp hp with rfl | hp
        · exact Or.inr le_rfl
        · exact Or.inr (hsecond p hp).le
      have happlication := hplace found.application (h.subset (by simp))
      have hadmin := hplace found.admin (h.subset (by simp))
      exact ⟨⟨application', admin'⟩, rfl, by dsimp only; omega, by dsimp only; omega⟩

theorem TwoScan.freer (h : TwoScan probe range none start count qs (.ok found))
    (h' : TwoScan probe' range none start count qs' r') (hfixed : probe.Fixed free)
    (hfixed' : probe'.Fixed free') (hfreer : ∀ p, free p = true → free' p = true) :
    ∃ found', r' = .ok found' ∧ found'.application ≤ found.application ∧
      found'.admin ≤ found.admin ∧ qs'.length ≤ qs.length := by
  have hsublist := List.monotone_filter_right (List.range' start count)
    (p := fun p : Nat => free p) (q := fun p : Nat => free' p) fun p => hfreer p
  have hascending : ((List.range' start count).filter fun p : Nat => free' p).Pairwise (· < ·) :=
    List.Pairwise.filter _ List.pairwise_lt_range'
  obtain ⟨found', hfound', happlication, hadmin⟩ :=
    firstTwoOf_sublist hsublist hascending (h.eq_of_fixed hfixed).symm
  obtain rfl : r' = .ok found' := (h'.eq_of_fixed hfixed').trans hfound'
  -- a scan asks up to its second port, so it ends earlier if that one is lower
  have hlength := h.length_eq
  have hlength' := h'.length_eq
  exact ⟨found', rfl, happlication, hadmin, by omega⟩

/-- The lowest pair is lower or the same if more ports are free. -/
theorem lowestPair?_freer (hfreer : ∀ p, free p = true → free' p = true) {p : Nat}
    (hp : lowestPair? free start count = some p) :
    ∃ p', lowestPair? free' start count = some p' ∧ p' ≤ p := by
  unfold lowestPair? at hp ⊢
  obtain ⟨hpair, hmem, -⟩ := List.find?_range'_eq_some.mp hp
  have hpair' : (free' p && free' (p + 1 : Nat)) = true := by
    rw [Bool.and_eq_true] at hpair ⊢
    exact ⟨hfreer _ hpair.1, hfreer _ hpair.2⟩
  cases hfind : (List.range' start (count - 1)).find?
      fun p : Nat => free' p && free' (p + 1 : Nat) with
  | none => exact absurd hpair' (List.find?_eq_none.mp hfind p hmem)
  | some p' =>
      refine ⟨p', rfl, ?_⟩
      obtain ⟨-, hmem', hleast⟩ := List.find?_range'_eq_some.mp hfind
      by_contra hlt
      have hbusy := hleast p (List.mem_range'_1.mp hmem).1 (by omega)
      rw [hpair'] at hbusy
      cases hbusy

theorem of_pairOf {lowest? : Option Nat} (h : pairOf range lowest? = .ok found) :
    lowest? = some found.application ∧ found.admin = found.application + 1 := by
  cases lowest? with
  | none => cases h
  | some p =>
      cases h
      exact ⟨rfl, rfl⟩

theorem PairScan.freer (h : PairScan probe range start count qs (.ok found))
    (h' : PairScan probe' range start count qs' r') (hfixed : probe.Fixed free)
    (hfixed' : probe'.Fixed free') (hfreer : ∀ p, free p = true → free' p = true) :
    ∃ found', r' = .ok found' ∧ found'.application ≤ found.application ∧
      qs'.length ≤ qs.length := by
  obtain ⟨hlowest, hadmin⟩ := of_pairOf (h.eq_of_fixed hfixed).symm
  obtain ⟨p', hlowest', hle⟩ := lowestPair?_freer hfreer hlowest
  obtain rfl : r' = .ok ⟨p', p' + 1⟩ := by rw [h'.eq_of_fixed hfixed', hlowest', pairOf]
  have hlength := h.length_eq
  have hlength' : start + qs'.length = p' + 1 + 1 := h'.length_eq
  exact ⟨⟨p', p' + 1⟩, rfl, hle, by omega⟩

/-! ## Random searches -/

namespace Course

variable {c : Course σ} {c' : Course τ} {i k : Nat}

theorem answer_of_fixed (hfixed : c.host.probe.Fixed free) (i : Nat) :
    c.answer i = .ok (free (c.port i)) := by
  unfold answer port draw
  rw [← drawn_world]
  exact hfixed _ (asking c.host c.range (c.world i))

/-- With fixed answers, a search for two ports finds them by an attempt in which there is a second
free port, if it has a first one. -/
theorem exists_findsAt (hfixed : c.host.probe.Fixed free) (hi : i < 3 * c.range.portCount)
    (hfree : free (c.port i) = true) (hbefore : ∀ j < i, free (c.port j) = false) {m : Nat}
    (hlt : i < m) (hm : m ≤ i + 3 * c.range.portCount) (hfree' : free (c.port m) = true)
    (hother : c.port m ≠ c.port i) : ∃ k ≤ m, c.FindsAt i k := by
  have hexists : ∃ k, i < k ∧ free (c.port k) = true ∧ c.port k ≠ c.port i :=
    ⟨m, hlt, hfree', hother⟩
  obtain ⟨hik, hkfree, hkother⟩ := Nat.find_spec hexists
  -- the search ends with the first such attempt, which lies no later than this one
  have hkm : Nat.find hexists ≤ m := Nat.find_min' hexists ⟨hlt, hfree', hother⟩
  refine ⟨Nat.find hexists, hkm, hi, ?_, ?_, hik, by omega, ?_, hkother, ?_⟩
  · rw [answer_of_fixed hfixed, hfree]
  · intro j hj
    rw [answer_of_fixed hfixed, hbefore j hj]
  · rw [answer_of_fixed hfixed, hkfree]
  · intro j hij hjk
    refine ⟨_, answer_of_fixed hfixed j, fun hjfree => ?_⟩
    by_contra hjother
    exact Nat.find_min hexists hjk ⟨hij, hjfree, hjother⟩

theorem FindsAt.free_of_fixed (h : c.FindsAt i k) (hfixed : c.host.probe.Fixed free) :
    free (c.port i) = true ∧ free (c.port k) = true ∧ ∀ j < i, free (c.port j) = false := by
  have hanswer := answer_of_fixed hfixed
  refine ⟨?_, ?_, fun j hj => ?_⟩
  · simpa [hanswer] using h.application_free
  · simpa [hanswer] using h.admin_free
  · simpa [hanswer] using h.before j hj

/-- A search that takes its application port earlier finds another free port behind it, by the
attempt in which this search ends and within its own attempts. -/
theorem FindsAt.exists_other (h : c.FindsAt i k) (hfixed : c.host.probe.Fixed free) {i' : Nat}
    (hle : i' ≤ i) : ∃ m, i' < m ∧ m ≤ k ∧ m ≤ i' + 3 * c.range.portCount ∧
      free (c.port m) = true ∧ c.port m ≠ c.port i' := by
  obtain ⟨hi, hk, hbefore⟩ := h.free_of_fixed hfixed
  have hlt := h.lt_admin
  have hcount := h.application_lt
  rcases hle.eq_or_lt with rfl | hearlier
  · exact ⟨k, hlt, le_rfl, h.admin_le, hk, h.distinct⟩
  · -- the application port of this search is another one, or it would have been taken earlier
    refine ⟨i, hearlier, hlt.le, by omega, hi, ?_⟩
    intro hsame
    have hbusy := hbefore i' hearlier
    rw [← hsame, hi] at hbusy
    cases hbusy

/-- Where more ports are free, a search for two ports ends no later. -/
theorem FindsAt.freer (h : c.FindsAt i k) (hfixed : c.host.probe.Fixed free)
    (hfixed' : c'.host.probe.Fixed free') (hfreer : ∀ p, free p = true → free' p = true)
    (hrange : c'.range = c.range) (hports : ∀ j, c'.port j = c.port j) :
    ∃ i' k', c'.FindsAt i' k' ∧ k' ≤ k := by
  have hfree : free' (c'.port i) = true := by
    rw [hports]
    exact hfreer _ (h.free_of_fixed hfixed).1
  have hexists : ∃ j, free' (c'.port j) = true := ⟨i, hfree⟩
  have hle : Nat.find hexists ≤ i := Nat.find_min' hexists hfree
  have hcount := h.application_lt
  obtain ⟨m, hlt, hmk, hm, hmfree, hother⟩ := h.exists_other hfixed hle
  obtain ⟨k', hk', hfinds⟩ : ∃ k' ≤ m, c'.FindsAt (Nat.find hexists) k' := by
    refine exists_findsAt hfixed' ?_ (Nat.find_spec hexists) ?_ hlt ?_ ?_ ?_
    · rw [hrange]
      omega
    · intro j hj
      simpa using Nat.find_min hexists hj
    · rwa [hrange]
    · rw [hports]
      exact hfreer _ hmfree
    · rwa [hports, hports]
  exact ⟨Nat.find hexists, k', hfinds, hk'.trans hmk⟩

theorem randomPair_freer (c : Course σ) (c' : Course τ) (hfixed : c.host.probe.Fixed free)
    (hfixed' : c'.host.probe.Fixed free') (hfreer : ∀ p, free p = true → free' p = true)
    (hrange : c'.range = c.range) (hports : ∀ j, c'.port j = c.port j)
    (hfound : ends (randomPair c.host c.range) c.start = .ok found) :
    ∃ found' es es', ends (randomPair c'.host c'.range) c'.start = .ok found' ∧
      (leaves (randomPair c.host c.range) c.start).events.toList = c.start.events.toList ++ es ∧
      (leaves (randomPair c'.host c'.range) c'.start).events.toList =
        c'.start.events.toList ++ es' ∧
      NoWorse .random es es' found found' := by
  obtain ⟨i, k, hfinds, -, hend⟩ := run_randomPair_iff.mp (run_of_ends_ok hfound)
  obtain ⟨i', k', hfinds', hle⟩ := hfinds.freer hfixed hfixed' hfreer hrange hports
  have hrun' := run_randomPair_iff.mpr ⟨i', k', hfinds', rfl, rfl⟩
  obtain ⟨es, hes, hstops, hasked⟩ := c.events_world (k + 1)
  obtain ⟨es', hes', hstops', hasked'⟩ := c'.events_world (k' + 1)
  refine ⟨⟨c'.port i', c'.port k'⟩, es, es', ?_, ?_, ?_, ?_, ?_, nofun, nofun⟩
  · rw [ends, hrun']
  · rw [hend, hes]
  · rw [leaves, hrun']
    exact hes'
  · simp only [hasked, hasked', List.length_map, List.length_range]
    omega
  · simp only [hstops, hstops', List.length_replicate]
    omega

end Course

end Search

open Search

/-- **Freeing ports never hurts.** Of two searches of a range by the same strategy, with probes that
have fixed answers and, for random searches, with the same numbers drawn, let all ports that are free
for the first one be free for the second one, too. If the first one finds two ports, then so does the
second one. It asks no more questions and draws no more numbers, an incrementing search finds no
higher port for either role, and an adjacent search none for the application role. -/
theorem Strategy.find_freer (strategy : Strategy) (range : PortRange) {host : Host σ}
    {host' : Host τ} {w : World σ} {w' : World τ} {free free' : Int → Bool} {found : ByRole Nat}
    (hfixed : host.probe.Fixed free) (hfixed' : host'.probe.Fixed free')
    (hfreer : ∀ p, free p = true → free' p = true)
    (hstream : strategy = .random →
      ∀ i, host'.random (w'.drawn + i) = host.random (w.drawn + i))
    (hfound : ends (strategy.find host (some range)) w = .ok found) :
    ∃ found' es es', ends (strategy.find host' (some range)) w' = .ok found' ∧
      (leaves (strategy.find host (some range)) w).events.toList = w.events.toList ++ es ∧
      (leaves (strategy.find host' (some range)) w').events.toList = w'.events.toList ++ es' ∧
      NoWorse strategy es es' found found' := by
  cases strategy with
  | random =>
      have hports : ∀ i, Course.port ⟨host', range, w'⟩ i = Course.port ⟨host, range, w⟩ i := by
        intro i
        unfold Course.port Course.draw drawAt
        rw [hstream rfl i]
      exact Course.randomPair_freer ⟨host, range, w⟩ ⟨host', range, w'⟩ hfixed hfixed' hfreer rfl
        hports hfound
  | incrementing =>
      obtain ⟨es, hes, hstops, hscan⟩ := Strategy.meets_find_incrementing host range w
      obtain ⟨es', hes', hstops', hscan'⟩ := Strategy.meets_find_incrementing host' range w'
      rw [hfound] at hscan
      obtain ⟨found', hfound', happlication, hadmin, hlength⟩ :=
        hscan.freer hscan' hfixed hfixed' hfreer
      have hdraws : (stops es').length ≤ (stops es).length := by rw [hstops, hstops']
      exact ⟨found', es, es', hfound', hes, hes', hlength, hdraws,
        fun _ => ⟨happlication, hadmin⟩, nofun⟩
  | adjacent =>
      obtain ⟨es, hes, hstops, hscan⟩ := Strategy.meets_find_adjacent host range w
      obtain ⟨es', hes', hstops', hscan'⟩ := Strategy.meets_find_adjacent host' range w'
      rw [hfound] at hscan
      obtain ⟨found', hfound', happlication, hlength⟩ :=
        hscan.freer hscan' hfixed hfixed' hfreer
      have hdraws : (stops es').length ≤ (stops es).length := by rw [hstops, hstops']
      exact ⟨found', es, es', hfound', hes, hes', hlength, hdraws, nofun, fun _ => happlication⟩

/-- Among the ports from 1 to 4, which come up in ascending order, a random search finds 3 and 4 if
2 is busy. If it is free, the application port is found earlier, and the one that was found for the
application before is now the admin port. -/
theorem Strategy.find_freer_random_earlier :
    let free : Int → Bool := fun port => port == 3 || port == 4
    let free' : Int → Bool := fun port => port == 2 || free port
    let range : PortRange := ⟨1, 4, by decide, by decide, by decide⟩
    let host (free : Int → Bool) : Host Unit :=
      ⟨.answering fun port memory => (.ok (free port), memory), fun n => n⟩
    ends (Strategy.random.find (host free) (some range)) (World.fresh ()) = .ok ⟨3, 4⟩ ∧
      ends (Strategy.random.find (host free') (some range)) (World.fresh ()) = .ok ⟨2, 3⟩ ∧
      ∃ found' es es',
        ends (Strategy.random.find (host free') (some range)) (World.fresh ()) = .ok found' ∧
        NoWorse .random es es' ⟨3, 4⟩ found' := by
  intro free free' range host
  have hfreer : ∀ port, free port = true → free' port = true := by
    intro port hfree
    show (port == 2 || free port) = true
    rw [hfree, Bool.or_true]
  have hfixed : (host free).probe.Fixed free := Probe.fixed_answering free
  have hfixed' : (host free').probe.Fixed free' := Probe.fixed_answering free'
  have hfound : ends (Strategy.random.find (host free) (some range)) (World.fresh ()) =
      .ok ⟨3, 4⟩ := rfl
  have hstream : Strategy.random = .random → ∀ i, (host free').random ((World.fresh ()).drawn + i) =
      (host free).random ((World.fresh ()).drawn + i) := fun _ _ => rfl
  obtain ⟨found', es, es', hfound', -, -, hworse⟩ :=
    Strategy.find_freer .random range hfixed hfixed' hfreer hstream hfound
  exact ⟨hfound, rfl, found', es, es', hfound', hworse⟩

end ListenerPorts
