import ListenerPorts.Proofs.Searching

set_option autoImplicit false

/-! # What a search in ascending order finds

A search in ascending order asks about the first so many ports of its range, each once. So its
questions tell exactly what it finds: an incrementing search the first two ports that were found
free, an adjacent search the lowest port that was found free together with its upper neighbour. The
adjacent search leaves out pairs that cannot be free, and finds the same pair as a search that tries
all of them (`lowestPair?`).

The questions are read off `TwoScan` and `PairScan`, which follow the two scans step by step, so that
the proofs here are inductions on what was asked and have nothing to do with how a run goes.
-/

namespace ListenerPorts

variable {σ : Type}

open Run

/-! ## Probes with fixed answers -/

/-- The probe always answers, and about each port it always answers the same. -/
def Probe.Fixed (probe : Probe σ) (free : Int → Bool) : Prop :=
  ∀ port w, ends (probe.isFree port) w = .ok (free port)

theorem Probe.fixed_answering (free : Int → Bool) :
    Probe.Fixed (.answering fun port (memory : σ) => (.ok (free port), memory)) free :=
  fun _ _ => rfl

theorem Probe.Fixed.of_mayEnd {probe : Probe σ} {free : Int → Bool} (hfixed : probe.Fixed free)
    {port : Int} {r : Except Fault Bool} (hmay : probe.MayEnd port r) : r = .ok (free port) := by
  obtain ⟨w, hw⟩ := hmay
  rw [← hw, hfixed]

theorem Probe.Fixed.answer_eq {probe : Probe σ} {free : Int → Bool} (hfixed : probe.Fixed free)
    {port : Int} {answer : Bool} (hmay : probe.MayEnd port (.ok answer)) : free port = answer :=
  (Except.ok.inj (hfixed.of_mayEnd hmay)).symm

namespace Search

variable {probe : Probe σ} {range : PortRange} {strategy : Strategy} {start count : Nat}
  {qs : List Question} {r : Except Fault (ByRole Nat)} {found : ByRole Nat} {free : Int → Bool}

/-! ## Where the questions lie -/

theorem Upward.bounds (h : Upward probe range strategy start count qs r) {q : Question}
    (hq : q ∈ qs) : (start : Int) ≤ q.port ∧ q.port < (start + count : Nat) := by
  have hmem : q.port ∈ (List.range' start qs.length).map Nat.cast := by
    rw [← h.ports]
    exact List.mem_map_of_mem hq
  obtain ⟨p, hp, hport⟩ := List.mem_map.mp hmem
  have hfew := h.few
  rw [List.mem_range'_1] at hp
  rw [← hport]
  omega

theorem Upward.ascending (h : Upward probe range strategy start count qs r) :
    (qs.map (·.port)).Pairwise (· < ·) := by
  rw [h.ports, List.pairwise_map]
  exact List.Pairwise.imp Int.ofNat_lt.mpr List.pairwise_lt_range'

/-- With fixed answers, a port that was found free is free. -/
theorem Upward.free_of_fixed (h : Upward probe range strategy start count qs r)
    (hfixed : probe.Fixed free) {p : Nat} (hp : .free p ∈ qs) : free p = true := by
  obtain ⟨a, hmay, hanswer⟩ := h.genuine _ hp
  rw [hfixed.of_mayEnd hmay] at hanswer
  exact (Option.some_inj.mp hanswer).symm

theorem Upward.of_unanswered (h : Upward probe range strategy start count qs r)
    (hunanswered : ¬ Answered qs) :
    ∃ f before p, r = .error f ∧ qs = before ++ [⟨p, none⟩] ∧ probe.MayEnd p (.error f) := by
  rcases h.ending with ⟨hanswered, -⟩ | hfailed
  · exact absurd hanswered hunanswered
  · exact hfailed

/-- The last question tells how many there were. -/
theorem Upward.length_of_last (h : Upward probe range strategy start count qs r)
    {before : List Question} {p : Nat} (hqs : qs = before ++ [.free p]) :
    start + qs.length = p + 1 := by
  have hlength : qs.length = before.length + 1 := by simp [hqs]
  have hports := h.ports
  rw [hlength, List.range'_1_concat, hqs] at hports
  simp only [List.map_append, List.map_cons, List.map_nil] at hports
  obtain ⟨-, hlast⟩ := List.append_inj' hports rfl
  have hp : (p : Int) = (start + before.length : Nat) := by simpa [Question.free] using hlast
  omega

/-! ## The first two free ports -/

/-- What an incrementing search makes of the free ports in front of it. -/
def firstTwoOf (range : PortRange) : List Nat → Except Fault (ByRole Nat)
  | application :: admin :: _ => .ok ⟨application, admin⟩
  | _ => .error (.exhausted .incrementing range)

/-- With fixed answers, an incrementing scan finds the first two free ports. -/
theorem TwoScan.eq_of_fixed {first : Option Nat} (h : TwoScan probe range first start count qs r)
    (hfixed : probe.Fixed free) :
    r = firstTwoOf range
      (first.toList ++ (List.range' start count).filter fun p : Nat => free p) := by
  -- each question settles whether the filter keeps the lowest port that is left
  induction h with
  | @exhausted first start => cases first <;> rfl
  | failed hmay => cases hfixed.of_mayEnd hmay
  | busy hmay hrest ih =>
      have hbusy := hfixed.answer_eq hmay
      simp [ih, List.range'_succ, hbusy]
  | first hmay hrest ih =>
      have hfree := hfixed.answer_eq hmay
      simp [ih, List.range'_succ, hfree]
  | second hmay =>
      have hfree := hfixed.answer_eq hmay
      simp [List.range'_succ, hfree, firstTwoOf]

/-- An incrementing scan asks about no port behind the second free one. -/
theorem TwoScan.length_eq (h : TwoScan probe range none start count qs (.ok found)) :
    start + qs.length = found.admin + 1 := by
  obtain ⟨before, between, hqs, -, -⟩ := h.foundTwo rfl
  have hlast : qs = (before ++ .free found.application :: between) ++ [.free found.admin] := by
    simpa using hqs
  exact h.upward.length_of_last hlast

/-- The questions about ports that were found free. -/
def accepted (qs : List Question) : List Question := qs.filter (·.answer = some true)

/-- An incrementing scan finds two ports just when these are the ports that were found free,
together with the one that was found before. -/
theorem TwoScan.eq_ok_iff {first : Option Nat} (h : TwoScan probe range first start count qs r) :
    r = .ok found ↔ first.toList.map Question.free ++ accepted qs =
      [.free found.application, .free found.admin] := by
  -- the first free port goes over from the questions to what was found before
  induction h with
  | @exhausted first => cases first <;> simp [accepted]
  | @failed first => cases first <;> simp [accepted]
  | busy hmay hrest ih => simpa [accepted] using ih
  | first hmay hrest ih => simpa [accepted, Question.free] using ih
  | @second application start =>
      obtain ⟨application', admin'⟩ := found
      simp [accepted, Question.free]

/-- A scan whose questions were all answered gives up just when fewer than two ports were found
free. -/
theorem TwoScan.eq_exhausted_iff {first : Option Nat}
    (h : TwoScan probe range first start count qs r) (hanswered : Answered qs) :
    r = .error (.exhausted .incrementing range) ↔
      (first.toList.map Question.free ++ accepted qs).length < 2 := by
  induction h with
  | @exhausted first => cases first <;> simp [accepted]
  | @failed first start => exact absurd rfl (hanswered ⟨start, none⟩ (by simp))
  | busy hmay hrest ih =>
      simpa [accepted] using ih fun q hq => hanswered q (List.mem_cons_of_mem _ hq)
  | first hmay hrest ih =>
      simpa [accepted, Question.free] using ih fun q hq => hanswered q (List.mem_cons_of_mem _ hq)
  | second => simp [accepted, Question.free]

/-- By then it has asked about all ports. -/
theorem TwoScan.length_of_exhausted {first : Option Nat}
    (h : TwoScan probe range first start count qs r) (hanswered : Answered qs)
    (hr : r = .error (.exhausted .incrementing range)) : qs.length = count := by
  induction h with
  | exhausted => rfl
  | @failed first start => exact absurd rfl (hanswered ⟨start, none⟩ (by simp))
  | busy hmay hrest ih =>
      rw [List.length_cons, ih (fun q hq => hanswered q (List.mem_cons_of_mem _ hq)) hr]
  | first hmay hrest ih =>
      rw [List.length_cons, ih (fun q hq => hanswered q (List.mem_cons_of_mem _ hq)) hr]
  | second => cases hr

/-- What an incrementing search of a range asks, and how it ends. -/
structure FindsTwo (probe : Probe σ) (range : PortRange) (qs : List Question)
    (r : Except Fault (ByRole Nat)) : Prop where
  /-- it asks about the ports of the range in ascending order, about each at most once -/
  few : qs.length ≤ range.portCount
  ports : qs.map (·.port) = (List.range' range.min qs.length).map Nat.cast
  /-- it ends with the two ports that were found free -/
  found : ∀ found, r = .ok found ↔ accepted qs = [.free found.application, .free found.admin]
  /-- these ascend and lie in the range, and nothing is asked behind the second one -/
  last : ∀ found, r = .ok found → found.application < found.admin ∧
    found.application ∈ range.ports ∧ found.admin ∈ range.ports ∧
    ∃ before, qs = before ++ [.free found.admin]
  /-- if all questions were answered, it gives up just when fewer than two ports were free -/
  exhausted : Answered qs →
    (r = .error (.exhausted .incrementing range) ↔ (accepted qs).length < 2)
  /-- by then it has asked about all ports of the range, about each once -/
  all : Answered qs → r = .error (.exhausted .incrementing range) →
    qs.map (·.port) = range.ports.map Nat.cast
  /-- a question that is not answered is the last one, and the search ends as the probe does -/
  failed : ¬ Answered qs →
    ∃ f before p, r = .error f ∧ qs = before ++ [⟨p, none⟩] ∧ probe.MayEnd p (.error f)

/-- A scan of the whole range is a search for two ports. -/
theorem TwoScan.findsTwo (h : TwoScan probe range none range.min range.portCount qs r) :
    FindsTwo probe range qs r where
  few := h.upward.few
  ports := h.upward.ports
  found := fun _ => h.eq_ok_iff
  last := by
    intro found hr
    have haccepted : accepted qs = [.free found.application, .free found.admin] :=
      h.eq_ok_iff.mp hr
    have hsublist : [Question.free found.application, .free found.admin].Sublist qs := by
      rw [← haccepted]
      exact List.filter_sublist
    have hmem : ∀ p, .free p ∈ qs → p ∈ range.ports := by
      intro p hp
      have hbounds := h.upward.bounds hp
      simp only [Question.free] at hbounds
      exact List.mem_range'_1.mpr (by omega)
    have horder := h.upward.ascending.sublist (hsublist.map (·.port))
    obtain ⟨before, between, hqs, -, -⟩ := h.foundTwo hr
    refine ⟨?_, hmem _ (hsublist.subset (by simp)), hmem _ (hsublist.subset (by simp)),
      before ++ .free found.application :: between, by simpa using hqs⟩
    simpa [Question.free] using horder
  exhausted := h.eq_exhausted_iff
  all := by
    intro hanswered hr
    rw [h.upward.ports, h.length_of_exhausted hanswered hr]
    rfl
  failed := h.upward.of_unanswered

/-! ## The first two free neighbours -/

/-- The port and its upper neighbour were both found free. -/
def Neighbours (qs : List Question) (p : Nat) : Prop :=
  .free p ∈ qs ∧ .free (p + 1) ∈ qs

theorem free_mem_cons_free {m p : Nat} : .free p ∈ Question.free m :: qs ↔ p = m ∨ .free p ∈ qs := by
  simp [Question.free]

theorem free_mem_cons_busy {port : Int} {p : Nat} :
    .free p ∈ (⟨port, some false⟩ :: qs : List Question) ↔ .free p ∈ qs := by
  simp [Question.free]

theorem neighbours_cons_busy {port : Int} {p : Nat} :
    Neighbours (⟨port, some false⟩ :: qs) p ↔ Neighbours qs p :=
  and_congr free_mem_cons_busy free_mem_cons_busy

/-- A free port with a busy neighbour is in no pair, neither with the neighbour nor with a port that
was asked about behind it. -/
theorem neighbours_cons_upperBusy (hqs : ∀ q ∈ qs, ((start + 2 : Nat) : Int) ≤ q.port) {p : Nat} :
    Neighbours (.free start :: ⟨(start + 1 : Nat), some false⟩ :: qs) p ↔ Neighbours qs p := by
  have hbehind : ∀ {m : Nat}, .free m ∈ qs → start + 2 ≤ m := by
    intro m hm
    have hlow := hqs _ hm
    simp only [Question.free] at hlow
    omega
  simp only [Neighbours, free_mem_cons_free, free_mem_cons_busy]
  constructor
  · rintro ⟨hp | hp, hnext | hnext⟩
    · omega
    · have := hbehind hnext
      omega
    · have := hbehind hp
      omega
    · exact ⟨hp, hnext⟩
  · rintro ⟨hp, hnext⟩
    exact ⟨Or.inr hp, Or.inr hnext⟩

/-- An adjacent scan finds the lowest port that was found free together with its neighbour. -/
theorem PairScan.least (h : PairScan probe range start count qs r) (hr : r = .ok found) :
    found.admin = found.application + 1 ∧ Neighbours qs found.application ∧
      ∀ p, Neighbours qs p → found.application ≤ p := by
  induction h with
  | exhausted => cases hr
  | failed => cases hr
  | busy hmay hrest ih =>
      simp only [neighbours_cons_busy]
      exact ih hr
  | upperFailed => cases hr
  | upperBusy hmay hupper hrest ih =>
      have hbehind := fun q hq => (hrest.upward.bounds (q := q) hq).1
      simp only [neighbours_cons_upperBusy hbehind]
      exact ih hr
  | found =>
      cases hr
      refine ⟨rfl, by simp [Neighbours], ?_⟩
      -- the pair was asked about last, and the ports below it were passed over
      rintro p ⟨hp, -⟩
      simp only [free_mem_cons_free, List.not_mem_nil, or_false] at hp
      show _ + 0 ≤ p
      omega

/-- An adjacent scan asks about no port behind the pair that it finds. -/
theorem PairScan.length_eq (h : PairScan probe range start count qs (.ok found)) :
    start + qs.length = found.admin + 1 := by
  obtain ⟨before, hqs⟩ := h.foundPair rfl
  have hlast : qs = (before ++ [.free found.application]) ++ [.free found.admin] := by
    simpa using hqs
  exact h.upward.length_of_last hlast

/-- An adjacent scan that fails has found no two neighbours free. -/
theorem PairScan.not_neighbours {f : Fault} (h : PairScan probe range start count qs r)
    (hr : r = .error f) (p : Nat) : ¬ Neighbours qs p := by
  induction h with
  | exhausted => simp [Neighbours]
  | failed => simp [Neighbours, Question.free]
  | busy hmay hrest ih =>
      rw [neighbours_cons_busy]
      exact ih hr
  | upperFailed =>
      simp only [Neighbours, Question.free, List.mem_cons, Question.mk.injEq, List.not_mem_nil,
        reduceCtorEq, and_true, and_false, or_false]
      omega
  | upperBusy hmay hupper hrest ih =>
      rw [neighbours_cons_upperBusy fun q hq => (hrest.upward.bounds hq).1]
      exact ih hr
  | found => cases hr

/-- How many questions an adjacent scan asks that finds nothing: it asks about the last port only if
it has found the last but one free. -/
theorem PairScan.length_of_exhausted (h : PairScan probe range start count qs r)
    (hr : r = .error (.exhausted .adjacent range)) (hanswered : Answered qs) :
    qs.length = if .free (start + count - 2) ∈ qs then count else count - 1 := by
  induction h with
  | exhausted hcount =>
      rw [if_neg List.not_mem_nil, List.length_nil]
      omega
  | @failed start count f hmay => exact absurd rfl (hanswered ⟨start, none⟩ (by simp))
  | @busy start count qs r hmay hrest ih =>
      have hrestlength := ih hr fun q hq => hanswered q (List.mem_cons_of_mem _ hq)
      have hlast : start + 1 + (count + 1) - 2 = start + (count + 2) - 2 := by omega
      simp only [List.length_cons, free_mem_cons_busy, hrestlength, hlast]
      split_ifs <;> omega
  | @upperFailed start count f hmay hupper =>
      exact absurd rfl (hanswered ⟨(start + 1 : Nat), none⟩ (by simp))
  | @upperBusy start count qs r hmay hupper hrest ih =>
      have hrestlength := ih hr fun q hq =>
        hanswered q (List.mem_cons_of_mem _ (List.mem_cons_of_mem _ hq))
      have hlast : start + 2 + count - 2 = start + (count + 2) - 2 := by omega
      have hfew := hrest.upward.few
      -- if nothing is left behind the busy neighbour, the free port is the last but one
      have hhead : start + (count + 2) - 2 = start ↔ count = 0 := by omega
      rw [hlast] at hrestlength
      simp only [List.length_cons, free_mem_cons_free, free_mem_cons_busy, hhead]
      by_cases hlastFree : .free (start + (count + 2) - 2) ∈ qs
      · rw [if_pos hlastFree] at hrestlength
        rw [if_pos (Or.inr hlastFree)]
        omega
      · rw [if_neg hlastFree] at hrestlength
        simp only [hlastFree, or_false]
        split_ifs <;> omega
  | found => cases hr

/-- The lowest port that is free together with its upper neighbour, found by trying all pairs of
neighbours in ascending order. -/
def lowestPair? (free : Int → Bool) (start count : Nat) : Option Nat :=
  (List.range' start (count - 1)).find? fun p => free p && free (p + 1 : Nat)

/-- What an adjacent search makes of the lowest pair. -/
def pairOf (range : PortRange) : Option Nat → Except Fault (ByRole Nat)
  | some p => .ok ⟨p, p + 1⟩
  | none => .error (.exhausted .adjacent range)

/-- With fixed answers, an adjacent scan finds the pair that is found by trying all pairs. -/
theorem PairScan.eq_of_fixed (h : PairScan probe range start count qs r)
    (hfixed : probe.Fixed free) : r = pairOf range (lowestPair? free start count) := by
  unfold lowestPair?
  induction h with
  | @exhausted start count hcount =>
      rw [Nat.sub_eq_zero_of_le hcount]
      rfl
  | failed hmay => cases hfixed.of_mayEnd hmay
  | @busy start count qs r hmay hrest ih =>
      have hpair : (free start && free (start + 1 : Nat)) = false := by
        rw [hfixed.answer_eq hmay, Bool.false_and]
      show r = pairOf range ((List.range' start (count + 1)).find? _)
      simp only [List.range'_succ, List.find?_cons, hpair]
      exact ih
  | upperFailed hmay hupper => cases hfixed.of_mayEnd hupper
  | @upperBusy start count qs r hmay hupper hrest ih =>
      -- neither the pair of the free port nor the pair of its busy neighbour is free
      have hbusy := hfixed.answer_eq hupper
      have hpair : (free start && free (start + 1 : Nat)) = false := by
        rw [hbusy, Bool.and_false]
      have hpair' : (free (start + 1 : Nat) && free (start + 1 + 1 : Nat)) = false := by
        rw [hbusy, Bool.false_and]
      show r = pairOf range ((List.range' start (count + 1)).find? _)
      simp only [List.range'_succ, List.find?_cons, hpair]
      cases count with
      | zero => exact ih
      | succ count =>
          simp only [List.range'_succ, List.find?_cons, hpair']
          exact ih
  | @found start count hmay hupper =>
      have hpair : (free start && free (start + 1 : Nat)) = true := by
        rw [hfixed.answer_eq hmay, hfixed.answer_eq hupper, Bool.and_true]
      show _ = pairOf range ((List.range' start (count + 1)).find? _)
      simp only [List.range'_succ, List.find?_cons, hpair]
      rfl

/-- What an adjacent search of a range asks, and how it ends. -/
structure FindsPair (probe : Probe σ) (range : PortRange) (qs : List Question)
    (r : Except Fault (ByRole Nat)) : Prop where
  /-- it asks about the ports of the range in ascending order, about each at most once -/
  few : qs.length ≤ range.portCount
  ports : qs.map (·.port) = (List.range' range.min qs.length).map Nat.cast
  /-- it ends with the lowest port that was found free together with its upper neighbour -/
  lowest : ∀ found, r = .ok found ↔ found.admin = found.application + 1 ∧
    Neighbours qs found.application ∧ ∀ p, Neighbours qs p → found.application ≤ p
  /-- the found ports lie in the range, and nothing is asked behind them -/
  last : ∀ found, r = .ok found → range.min ≤ found.application ∧ found.application < range.max ∧
    ∃ before, qs = before ++ [.free found.application, .free found.admin]
  /-- if all questions were answered, it gives up just when there are no such ports -/
  exhausted : Answered qs →
    (r = .error (.exhausted .adjacent range) ↔ ∀ p, ¬ Neighbours qs p)
  /-- by then it has asked about all ports but the last one, and about that one if the last but one
  was free -/
  all : Answered qs → r = .error (.exhausted .adjacent range) →
    qs.map (·.port) = (List.range' range.min (range.max - range.min) ++
      if .free (range.max - 1) ∈ qs then [range.max] else []).map Nat.cast
  /-- a question that is not answered is the last one, and the search ends as the probe does -/
  failed : ¬ Answered qs →
    ∃ f before p, r = .error f ∧ qs = before ++ [⟨p, none⟩] ∧ probe.MayEnd p (.error f)

/-- A scan of the whole range is a search for a pair. -/
theorem PairScan.findsPair (h : PairScan probe range range.min range.portCount qs r) :
    FindsPair probe range qs r where
  few := h.upward.few
  ports := h.upward.ports
  lowest := by
    intro found
    refine ⟨h.least, ?_⟩
    rintro ⟨hadmin, hpair, hleast⟩
    cases r with
    | error f => exact absurd hpair (h.not_neighbours rfl _)
    | ok found' =>
        -- both are the lowest pair of neighbours that was found free
        obtain ⟨hadmin', hpair', hleast'⟩ := h.least rfl
        have happlication : found'.application = found.application :=
          Nat.le_antisymm (hleast' _ hpair) (hleast _ hpair')
        obtain ⟨application, admin⟩ := found
        obtain ⟨application', admin'⟩ := found'
        dsimp only at *
        rw [hadmin, hadmin', happlication]
  last := by
    intro found hr
    obtain ⟨hadmin, ⟨hlower, hupper⟩, -⟩ := h.least hr
    have hlow := (h.upward.bounds hlower).1
    have hhigh := (h.upward.bounds hupper).2
    have hrange := range.min_lt_max
    simp only [Question.free, PortRange.portCount] at hlow hhigh
    exact ⟨by omega, by omega, h.foundPair hr⟩
  exhausted := by
    intro hanswered
    refine ⟨fun hr => h.not_neighbours hr, fun hnone => ?_⟩
    cases r with
    | ok found =>
        obtain ⟨-, hpair, -⟩ := h.least rfl
        exact absurd hpair (hnone _)
    | error f =>
        rcases h.upward.ending with ⟨-, hfault⟩ | ⟨g, before, p, -, hqs, -⟩
        · rw [hfault f rfl]
        · exact absurd rfl (hanswered ⟨p, none⟩ (by simp [hqs]))
  all := by
    intro hanswered hr
    have hlength := h.length_of_exhausted hr hanswered
    have hrange := range.min_lt_max
    have hlast : range.min + range.portCount - 2 = range.max - 1 := by
      unfold PortRange.portCount
      omega
    rw [hlast] at hlength
    rw [h.upward.ports, hlength]
    split_ifs with hfree
    · have hsplit : List.range' range.min range.portCount =
          List.range' range.min (range.max - range.min) ++ [range.max] := by
        have hmax : range.min + (range.max - range.min) = range.max := by omega
        rw [PortRange.portCount, List.range'_1_concat, hmax]
      rw [hsplit]
    · rw [List.append_nil]
      rfl
  failed := h.upward.of_unanswered

end Search

open Search

/-- An incrementing search is a scan of the whole range for two free ports. -/
theorem Strategy.meets_find_incrementing (host : Host σ) (range : PortRange) :
    (Strategy.incrementing.find host (some range)).Meets fun es r =>
      stops es = [] ∧ TwoScan host.probe range none range.min range.portCount (asked es) r :=
  meets_firstTwo host range none range.min range.portCount

/-- An adjacent search is a scan of the whole range for two free neighbours. -/
theorem Strategy.meets_find_adjacent (host : Host σ) (range : PortRange) :
    (Strategy.adjacent.find host (some range)).Meets fun es r =>
      stops es = [] ∧ PairScan host.probe range range.min range.portCount (asked es) r :=
  meets_firstNeighbours host range range.min range.portCount

/-- **An adjacent search finds the lowest free pair.** It draws nothing and asks about the ports of
its range in ascending order, about each at most once, whatever the probe answers. It ends with the
lowest port that was found free together with its upper neighbour, right behind the question about
the neighbour. It gives up if there is no such port, without a number of attempts, and has then asked
about all ports of the range, about the highest one only if the port below it was free. With fixed
answers it finds the pair that a search finds which tries all pairs from scratch. -/
theorem Strategy.find_adjacent_lowest (host : Host σ) (range : PortRange) (w : World σ) :
    ∃ es, (leaves (Strategy.adjacent.find host (some range)) w).events.toList =
        w.events.toList ++ es ∧ stops es = [] ∧
      FindsPair host.probe range (asked es) (ends (Strategy.adjacent.find host (some range)) w) ∧
      Fault.attempts? .adjacent range = none ∧
      ∀ free, host.probe.Fixed free →
        ends (Strategy.adjacent.find host (some range)) w =
          pairOf range (lowestPair? free range.min range.portCount) := by
  obtain ⟨es, hes, hstops, hscan⟩ := Strategy.meets_find_adjacent host range w
  exact ⟨es, hes, hstops, hscan.findsPair, rfl, fun free hfixed => hscan.eq_of_fixed hfixed⟩

/-- Among the ports from 1 to 6 of which 2, 4 and 5 are free, the lowest pair is behind the busy
neighbour of a free port. -/
theorem Strategy.find_adjacent_lowest_behind_busy :
    let free : Int → Bool := fun port => port == 2 || port == 4 || port == 5
    let range : PortRange := ⟨1, 6, by decide, by decide, by decide⟩
    let host : Host Unit := ⟨.answering fun port memory => (.ok (free port), memory), fun _ => 0⟩
    host.probe.Fixed free ∧
      ends (Strategy.adjacent.find host (some range)) (World.fresh ()) = .ok ⟨4, 5⟩ := by
  intro free range host
  have hfixed : host.probe.Fixed free := Probe.fixed_answering free
  obtain ⟨-, -, -, -, -, hpair⟩ := Strategy.find_adjacent_lowest host range (World.fresh ())
  refine ⟨hfixed, ?_⟩
  rw [hpair free hfixed]
  rfl

end ListenerPorts
