import ListenerPorts.Proofs.Attempts
import ListenerPorts.Proofs.Building
import Mathlib.Data.Int.Interval
import Mathlib.Data.Set.Card

set_option autoImplicit false

/-! # Which values make a range

Two values make a range if they meet four demands, which are looked at one after the other; the
first one that they do not meet is what the message is about. Together the demands say no more than
that the values are integers in ascending order from one to the highest port. An end that lies above
an end of at least one is at least two, so the lower bound of the upper end decides nothing.

A range in turn contains as many integers as it counts ports, and the offsets that a random search
may draw are just those that lead to them.
-/

namespace ListenerPorts

variable {min max : Value}

/-! ## Integers among the values -/

/-- The integer that a value is, if it is one. Truth values and floating-point numbers are none. -/
def Value.asInt? : Value → Option Int
  | .int n => some n
  | _ => none

theorem Value.asInt?_eq_some_iff {v : Value} {n : Int} : v.asInt? = some n ↔ v = .int n := by
  cases v <;> simp [asInt?]

theorem Value.quoted_int (n : Int) : (Value.int n).quoted = toString n := rfl

/-! ## Demands on the ends of a range -/

/-- The values are the ends of a range: integers in ascending order from one to the highest port. -/
def PortRange.LegalEnds (min max : Value) : Prop :=
  ∃ m n : Int, min = .int m ∧ max = .int n ∧ 1 ≤ m ∧ m < n ∧ n ≤ 65535

/-- What is demanded of the two ends of a range. -/
inductive Demand where
  | integers
  | ascending
  | minBounds
  | maxBounds
deriving DecidableEq, Repr

namespace Demand

/-- All demands, in the order in which they are looked at. -/
def all : List Demand := [integers, ascending, minBounds, maxBounds]

def met (min max : Value) : Demand → Bool
  | integers => min.asInt?.isSome && max.asInt?.isSome
  | ascending => min.asInt?.any fun m => max.asInt?.any fun n => m < n
  | minBounds => min.asInt?.any fun m => 1 ≤ m && m ≤ 65534
  | maxBounds => max.asInt?.any fun n => 2 ≤ n && n ≤ 65535

/-- The first demand that two values do not meet. -/
def firstUnmet? (min max : Value) : Option Demand := all.find? fun d => !d.met min max

def wording : Demand → String
  | integers => "min_port and max_port must be integers"
  | ascending => "min_port must be less than max_port"
  | minBounds => "min_port must be between 1 and 65534"
  | maxBounds => "max_port must be between 2 and 65535"

/-- What a message about the demand shows of the two values. -/
def shown (min max : Value) : Demand → String
  | integers | ascending => min.quoted ++ " -> " ++ max.quoted
  | minBounds => min.quoted
  | maxBounds => max.quoted

/-- The message about a demand that is not met. -/
def message (min max : Value) (d : Demand) : String :=
  d.wording ++ " (was: " ++ d.shown min max ++ ")"

theorem met_integers_iff : integers.met min max = true ↔ ∃ m n, min = .int m ∧ max = .int n := by
  simp [met, Option.isSome_iff_exists, Value.asInt?_eq_some_iff]

theorem met_ascending_iff {m n : Int} : ascending.met (.int m) (.int n) = true ↔ m < n := by
  simp [met, Value.asInt?]

theorem met_minBounds_iff {m : Int} : minBounds.met (.int m) max = true ↔ 1 ≤ m ∧ m ≤ 65534 := by
  simp [met, Value.asInt?]

theorem met_maxBounds_iff {n : Int} : maxBounds.met min (.int n) = true ↔ 2 ≤ n ∧ n ≤ 65535 := by
  simp [met, Value.asInt?]

/-- The demands together say that the values are the ends of a range. Two of the four bounds follow
from the others. -/
theorem forall_met_iff : (∀ d : Demand, d.met min max = true) ↔ PortRange.LegalEnds min max := by
  constructor
  · intro hall
    obtain ⟨m, n, rfl, rfl⟩ := met_integers_iff.mp (hall integers)
    have horder := met_ascending_iff.mp (hall ascending)
    have hmin := met_minBounds_iff.mp (hall minBounds)
    have hmax := met_maxBounds_iff.mp (hall maxBounds)
    exact ⟨m, n, rfl, rfl, hmin.1, horder, hmax.2⟩
  · rintro ⟨m, n, rfl, rfl, hlow, hlt, hhigh⟩ d
    cases d with
    | integers => rfl
    | ascending => exact met_ascending_iff.mpr hlt
    | minBounds => exact met_minBounds_iff.mpr ⟨hlow, by omega⟩
    | maxBounds => exact met_maxBounds_iff.mpr ⟨by omega, hhigh⟩

/-- A demand is the first one that is not met if it is not met and those before it are. -/
theorem firstUnmet?_eq_some_iff {d : Demand} (before after : List Demand)
    (hall : all = before ++ d :: after) :
    firstUnmet? min max = some d ↔
      (∀ e ∈ before, e.met min max = true) ∧ ¬ d.met min max = true := by
  have hnodup : (before ++ d :: after).Nodup := by
    rw [← hall]
    decide
  have hnotMem : d ∉ before ∧ d ∉ after := by
    rw [← not_or, ← List.mem_append]
    exact (List.nodup_middle.mp hnodup).notMem
  unfold firstUnmet?
  rw [List.find?_eq_some_iff_append, Bool.not_eq_true', ← Bool.not_eq_true, and_comm]
  simp only [Bool.not_not]
  refine and_congr_left fun _ => ⟨?_, fun hbefore => ⟨before, after, hall, hbefore⟩⟩
  -- no demand stands twice among all, so there is one place where they can be split
  rintro ⟨before', after', hall', hbefore⟩
  rw [hall, List.append_cons_inj_of_notMem hnotMem.1 hnotMem.2] at hall'
  rwa [hall'.1]

/-- An upper end out of its bounds is too large if nothing else is wrong. -/
theorem of_firstUnmet?_maxBounds (h : firstUnmet? min max = some maxBounds) :
    ∃ n, max = .int n ∧ 65535 < n := by
  obtain ⟨hbefore, hunmet⟩ :=
    (firstUnmet?_eq_some_iff [integers, ascending, minBounds] [] rfl).mp h
  obtain ⟨m, n, rfl, rfl⟩ := met_integers_iff.mp (hbefore integers (by decide))
  have horder := met_ascending_iff.mp (hbefore ascending (by decide))
  have hmin := met_minBounds_iff.mp (hbefore minBounds (by decide))
  rw [met_maxBounds_iff] at hunmet
  exact ⟨n, rfl, by omega⟩

/-- The problem is what is told about the demand: it has the message of the demand, and shows
nothing but the two values. -/
structure Tells (min max : Value) (d : Demand) (p : Problem) : Prop where
  message : p.message = d.message min max
  shown : ∀ v ∈ p.shown, v = min ∨ v = max

theorem tells_integers : integers.Tells min max (.rangeNotIntegers min max) where
  message := by
    -- the same text, with its parts put together in another way
    show "min_port and max_port must be integers (was: " ++ min.quoted ++ " -> " ++ max.quoted ++
      ")" = _
    simp only [message, wording, shown, ← String.append_assoc, String.reduceAppend]
  shown := by simp [Problem.shown]

theorem tells_ascending {m n : Int} :
    ascending.Tells (.int m) (.int n) (.rangeNotAscending m n) where
  message := by
    show "min_port must be less than max_port (was: " ++ toString m ++ " -> " ++ toString n ++
      ")" = _
    simp only [message, wording, shown, Value.quoted_int, ← String.append_assoc,
      String.reduceAppend]
  shown := by simp [Problem.shown]

theorem tells_minBounds {m : Int} : minBounds.Tells (.int m) max (.minOutOfBounds m) where
  message := by
    show "min_port must be between 1 and 65534 (was: " ++ toString m ++ ")" = _
    simp only [message, wording, shown, Value.quoted_int, String.reduceAppend]
  shown := by simp [Problem.shown]

theorem tells_maxBounds {n : Int} : maxBounds.Tells min (.int n) (.maxOutOfBounds n) where
  message := by
    show "max_port must be between 2 and 65535 (was: " ++ toString n ++ ")" = _
    simp only [message, wording, shown, Value.quoted_int, String.reduceAppend]
  shown := by simp [Problem.shown]

end Demand

/-! ## The integers that a range contains -/

namespace PortRange

/-- The integers that the range contains. -/
def members (range : PortRange) : Set Int := {p | range.contains (.int p) = .ok true}

theorem members_eq (range : PortRange) : range.members = Set.Icc (range.min : Int) range.max := by
  ext p
  simp [members, contains, Value.between]

theorem ncard_members (range : PortRange) : range.members.ncard = range.portCount := by
  have := range.min_lt_max
  rw [members_eq, Set.ncard_eq_toFinset_card', Set.toFinset_Icc, Int.card_Icc, portCount]
  omega

/-- An offset below the number of ports leads to an integer of the range, and each of these is
reached by one offset. -/
theorem bijOn_offsets (range : PortRange) :
    Set.BijOn (fun k : Nat => (range.min + k : Int)) (Set.Iio range.portCount) range.members := by
  have hlt := range.min_lt_max
  rw [members_eq]
  refine ⟨?mapsTo, ?injOn, ?surjOn⟩
  case mapsTo =>
    intro k hk
    rw [Set.mem_Iio, portCount] at hk
    show (range.min + k : Int) ∈ Set.Icc _ _
    rw [Set.mem_Icc]
    omega
  case injOn =>
    intro k _ l _ hkl
    dsimp only at hkl
    omega
  case surjOn =>
    rintro p ⟨hlow, hhigh⟩
    refine ⟨(p - range.min).toNat, ?_, ?_⟩
    · rw [Set.mem_Iio, portCount]
      omega
    · dsimp only
      omega

/-- Beside any integer there is another one in the range. -/
theorem exists_other (range : PortRange) (p : Int) : ∃ q ∈ range.members, q ≠ p := by
  have := range.min_lt_max
  simp only [members_eq, Set.mem_Icc]
  by_cases hmin : p = range.min
  · exact ⟨range.max, by omega, by omega⟩
  · exact ⟨range.min, by omega, by omega⟩

/-- The numbers of a range fit the integers that it contains. -/
structure Measured (range : PortRange) : Prop where
  count : range.members.ncard = range.portCount
  two_le : 2 ≤ range.portCount
  other : ∀ p : Int, ∃ q ∈ range.members, q ≠ p
  attempts : range.maxAttempts = 3 * range.portCount
  offsets :
    Set.BijOn (fun k : Nat => (range.min + k : Int)) (Set.Iio range.portCount) range.members
  draws : ∀ {σ : Type} (host : Host σ), (Search.drawPort host range).Meets fun es r =>
    stops es = [range.portCount] ∧ ∃ k < range.portCount, r = .ok (range.min + k)

theorem measured (range : PortRange) : range.Measured where
  count := range.ncard_members
  two_le := range.two_le_portCount
  other := range.exists_other
  attempts := rfl
  offsets := range.bijOn_offsets
  draws := by
    intro σ host
    refine (Search.meets_drawPort host range).weaken ?_
    rintro es r ⟨-, hstops, p, hp, rfl⟩
    have hmem := mem_ports.mp hp
    refine ⟨hstops, p - range.min, ?_, ?_⟩
    · rw [portCount]
      omega
    · rw [Nat.add_sub_cancel' hmem.1]

/-! ## Ranges from values -/

/-- What can come of two values: the range whose ends they are, or what is told about the first
demand that they do not meet. -/
inductive Judged (min max : Value) : Except Fault PortRange → Prop where
  | made (range : PortRange) (hmin : min = .int range.min) (hmax : max = .int range.max) :
      Judged min max (.ok range)
  | refused (d : Demand) (p : Problem) (hfirst : Demand.firstUnmet? min max = some d)
      (htells : d.Tells min max p) : Judged min max (fail p)

/-- Two integers are looked at in order, and what was met before is at hand when a demand is not. -/
theorem judged_ofInts (m n : Int) : Judged (.int m) (.int n) (ofInts m n) := by
  have hintegers : Demand.integers.met (.int m) (.int n) = true := rfl
  unfold ofInts
  split
  · refine .refused .ascending _ ?_ Demand.tells_ascending
    rw [Demand.firstUnmet?_eq_some_iff [.integers] [.minBounds, .maxBounds] rfl,
      List.forall_mem_singleton, Demand.met_ascending_iff]
    exact ⟨hintegers, by omega⟩
  · have hascending : Demand.ascending.met (.int m) (.int n) = true := by
      rw [Demand.met_ascending_iff]
      omega
    split
    · refine .refused .minBounds _ ?_ Demand.tells_minBounds
      rw [Demand.firstUnmet?_eq_some_iff [.integers, .ascending] [.maxBounds] rfl,
        List.forall_mem_cons, List.forall_mem_singleton, Demand.met_minBounds_iff]
      exact ⟨⟨hintegers, hascending⟩, by omega⟩
    · have hminBounds : Demand.minBounds.met (.int m) (.int n) = true := by
        rw [Demand.met_minBounds_iff]
        omega
      split
      · refine .refused .maxBounds _ ?_ Demand.tells_maxBounds
        rw [Demand.firstUnmet?_eq_some_iff [.integers, .ascending, .minBounds] [] rfl,
          List.forall_mem_cons, List.forall_mem_cons, List.forall_mem_singleton,
          Demand.met_maxBounds_iff]
        exact ⟨⟨hintegers, hascending, hminBounds⟩, by omega⟩
      · refine .made _ (congrArg Value.int ?_) (congrArg Value.int ?_)
        · exact (Int.toNat_of_nonneg (by omega)).symm
        · exact (Int.toNat_of_nonneg (by omega)).symm

theorem judged_ofValues (min max : Value) : Judged min max (ofValues min max) := by
  unfold ofValues
  split
  · exact judged_ofInts _ _
  · rename_i hnot
    refine .refused .integers _ ?_ Demand.tells_integers
    rw [Demand.firstUnmet?_eq_some_iff [] [.ascending, .minBounds, .maxBounds] rfl,
      Demand.met_integers_iff]
    refine ⟨List.forall_mem_nil _, ?_⟩
    rintro ⟨m, n, hm, hn⟩
    exact hnot m n hm hn

theorem legalEnds_ends (range : PortRange) : LegalEnds (.int range.min) (.int range.max) := by
  have hmin := range.one_le_min
  have hlt := range.min_lt_max
  have hmax : range.max ≤ 65535 := range.max_le
  exact ⟨range.min, range.max, rfl, rfl, by omega, by omega, by omega⟩

/-- **What makes a range.** Two values make a range if and only if they are integers in ascending
order from one to the highest port; these are then its ends, and the numbers of the range fit the
integers that it contains. Otherwise a problem of the configuration is told, with the message about
the first demand that the values do not meet; and if that is the one on the bounds of the upper end,
this end is too large. All integers have a text here. -/
theorem ofValues_accepts (hmin : min.writable = true) (hmax : max.writable = true) :
    ((∃ range, ofValues min max = .ok range) ↔ LegalEnds min max) ∧
    (∀ range, ofValues min max = .ok range →
      min = .int range.min ∧ max = .int range.max ∧ range.Measured) ∧
    (¬ LegalEnds min max → ∃ d p, Demand.firstUnmet? min max = some d ∧
      ofValues min max = .error (.configuration p) ∧ p.message = d.message min max ∧
      (d = .maxBounds → ∃ n, max = .int n ∧ 65535 < n)) := by
  have hjudged := judged_ofValues min max
  generalize ofValues min max = x at hjudged ⊢
  cases hjudged with
  | made range hlow hhigh =>
      subst hlow hhigh
      refine ⟨⟨fun _ => legalEnds_ends range, fun _ => ⟨range, rfl⟩⟩, ?_,
        fun hillegal => absurd (legalEnds_ends range) hillegal⟩
      rintro range' ⟨⟩
      exact ⟨rfl, rfl, range.measured⟩
  | refused d p hfirst htells =>
      have htold : (fail p : Except Fault PortRange) = .error (.configuration p) :=
        fail_eq fun v hv => (htells.shown v hv).elim (fun h => h ▸ hmin) fun h => h ▸ hmax
      have hillegal : ¬ LegalEnds min max := by
        intro hlegal
        have hunmet := List.find?_some hfirst
        rw [Demand.forall_met_iff.mpr hlegal d] at hunmet
        cases hunmet
      rw [htold]
      refine ⟨⟨?_, fun hlegal => absurd hlegal hillegal⟩, ?_, fun _ => ?_⟩
      · rintro ⟨range, ⟨⟩⟩
      · rintro range ⟨⟩
      · refine ⟨d, p, hfirst, rfl, htells.message, ?_⟩
        rintro rfl
        exact Demand.of_firstUnmet?_maxBounds hfirst

/-- Of an upper end and a lower end that are both out of their bounds it is the lower one that the
message is about. -/
theorem ofValues_accepts_both_bounds :
    (Value.int 65535).writable = true ∧ (Value.int 65536).writable = true ∧
      ∃ p, ofValues (.int 65535) (.int 65536) = .error (.configuration p) ∧
        p.message = "min_port must be between 1 and 65534 (was: 65535)" := by
  have hmin : (Value.int 65535).writable = true := Value.writable_port (p := 65535) (by decide)
  have hmax : (Value.int 65536).writable = true := by decide +kernel
  obtain ⟨-, -, htold⟩ := ofValues_accepts hmin hmax
  have hillegal : ¬ LegalEnds (.int 65535) (.int 65536) := by
    rintro ⟨m, n, hm, hn, -, -, hhigh⟩
    cases hm
    cases hn
    omega
  obtain ⟨d, p, hfirst, hp, hmessage, -⟩ := htold hillegal
  cases hfirst
  exact ⟨hmin, hmax, p, hp, hmessage⟩

end PortRange

end ListenerPorts
