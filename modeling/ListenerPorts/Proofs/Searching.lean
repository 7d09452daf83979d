import ListenerPorts.Proofs.Recording
import ListenerPorts.Search.Pair

set_option autoImplicit false

/-! # What a search asks and finds

The two searches in ascending order share what they ask: the first so many of the ports they go
through, each once, and they draw nothing. A random search asks about as many ports as it draws. A
search that ends with a fault has either used up its ports or its draws, or the probe has failed.

`Chosen` says what the found ports have to do with the questions: the last question accepted the
admin port, and between it and the question that accepted the application port no other port was
found free.
-/

namespace ListenerPorts

variable {σ : Type}

open Run

namespace Search

/-! ## Searches in ascending order -/

/-- What a search in ascending order does with the ports it is to go through. -/
structure Scan (probe : Probe σ) (range : PortRange) (strategy : Strategy) (ports : List Nat)
    (es : List Event) (r : Except Fault (ByRole Nat)) : Prop where
  draws : stops es = []
  order : (asked es).map (·.port) <+: ports.map Nat.cast
  fault : ∀ f, r = .error f →
    f = .exhausted strategy range ∨ ∃ p ∈ ports, probe.MayEnd p (.error f)

variable {probe : Probe σ} {range : PortRange} {strategy : Strategy} {ports : List Nat}
  {es es' : List Event} {r : Except Fault (ByRole Nat)} {start count : Nat} {qs : List Question}

/-- All questions were answered. -/
def Answered (qs : List Question) : Prop := ∀ q ∈ qs, q.answer ≠ none

/-- The questions of a search that goes through `count` ports from `start` on, one port after the
other, and that ends at once when the probe fails. -/
structure Upward (probe : Probe σ) (range : PortRange) (strategy : Strategy) (start count : Nat)
    (qs : List Question) (r : Except Fault (ByRole Nat)) : Prop where
  few : qs.length ≤ count
  ports : qs.map (·.port) = (List.range' start qs.length).map Nat.cast
  genuine : ∀ q ∈ qs, ∃ a, probe.MayEnd q.port a ∧ q.answer = a.toOption
  ending : (Answered qs ∧ ∀ f, r = .error f → f = .exhausted strategy range) ∨
    ∃ f before p, r = .error f ∧ qs = before ++ [⟨p, none⟩] ∧ probe.MayEnd p (.error f)

/-- A search that asks nothing more. -/
theorem Upward.done (hr : ∀ f, r = .error f → f = .exhausted strategy range) :
    Upward probe range strategy start count [] r where
  few := Nat.zero_le _
  ports := rfl
  genuine := fun _ h => nomatch h
  ending := Or.inl ⟨List.forall_mem_nil _, hr⟩

/-- A search that ends because the probe fails. -/
theorem Upward.failed {f : Fault} (hmay : probe.MayEnd start (.error f)) :
    Upward probe range strategy start (count + 1) [⟨start, none⟩] (.error f) where
  few := by simp
  ports := rfl
  genuine := by
    rw [List.forall_mem_singleton]
    exact ⟨_, hmay, rfl⟩
  ending := Or.inr ⟨f, [], start, rfl, rfl, hmay⟩

/-- A search that goes on after its first question. -/
theorem Upward.cons {free : Bool} (hmay : probe.MayEnd start (.ok free))
    (h : Upward probe range strategy (start + 1) count qs r) :
    Upward probe range strategy start (count + 1) (⟨start, some free⟩ :: qs) r where
  few := Nat.succ_le_succ h.few
  ports := by simp [h.ports, List.range'_succ]
  genuine := by
    rw [List.forall_mem_cons]
    exact ⟨⟨_, hmay, rfl⟩, h.genuine⟩
  ending := by
    rcases h.ending with ⟨hanswered, hfault⟩ | ⟨f, before, p, hr, rfl, hp⟩
    · refine Or.inl ⟨?_, hfault⟩
      rw [Answered, List.forall_mem_cons]
      exact ⟨Option.some_ne_none free, hanswered⟩
    · exact Or.inr ⟨f, _ :: before, p, hr, rfl, hp⟩

theorem Upward.scan (h : Upward probe range strategy start count (asked es) r)
    (hstops : stops es = []) : Scan probe range strategy (List.range' start count) es r where
  draws := hstops
  order := by
    have hsplit : List.range' start (asked es).length ++
        List.range' (start + (asked es).length) (count - (asked es).length) =
        List.range' start count := by
      rw [List.range'_append_1, Nat.add_sub_cancel' h.few]
    rw [h.ports, ← hsplit, List.map_append]
    exact List.prefix_append _ _
  fault := by
    intro f hf
    rcases h.ending with ⟨-, hfault⟩ | ⟨g, before, p, hg, hqs, hmay⟩
    · exact Or.inl (hfault f hf)
    · rw [hf] at hg
      cases hg
      have hp : p ∈ (List.range' start (asked es).length).map Nat.cast := by
        rw [← h.ports, hqs]
        simp
      obtain ⟨q, hq, rfl⟩ := List.mem_map.mp hp
      have hfew := h.few
      rw [List.mem_range'_1] at hq
      exact Or.inr ⟨q, List.mem_range'_1.mpr (by omega), hmay⟩

/-! ### The first two free ports -/

/-- How an incrementing scan goes through `count` ports from `start` on; `first` is the free port
that was found before. -/
inductive TwoScan (probe : Probe σ) (range : PortRange) :
    Option Nat → Nat → Nat → List Question → Except Fault (ByRole Nat) → Prop where
  | exhausted {first : Option Nat} {start : Nat} :
      TwoScan probe range first start 0 [] (.error (.exhausted .incrementing range))
  | failed {first : Option Nat} {start count : Nat} {f : Fault}
      (hmay : probe.MayEnd start (.error f)) :
      TwoScan probe range first start (count + 1) [⟨start, none⟩] (.error f)
  | busy {first : Option Nat} {start count : Nat} {qs : List Question}
      {r : Except Fault (ByRole Nat)} (hmay : probe.MayEnd start (.ok false))
      (hrest : TwoScan probe range first (start + 1) count qs r) :
      TwoScan probe range first start (count + 1) (⟨start, some false⟩ :: qs) r
  | first {start count : Nat} {qs : List Question} {r : Except Fault (ByRole Nat)}
      (hmay : probe.MayEnd start (.ok true))
      (hrest : TwoScan probe range (some start) (start + 1) count qs r) :
      TwoScan probe range none start (count + 1) (.free start :: qs) r
  | second {application start count : Nat} (hmay : probe.MayEnd start (.ok true)) :
      TwoScan probe range (some application) start (count + 1) [.free start]
        (.ok ⟨application, start⟩)

theorem meets_firstTwo (host : Host σ) (range : PortRange) (first : Option Nat)
    (start count : Nat) :
    (firstTwo host range first (List.range' start count)).Meets fun es r =>
      stops es = [] ∧ TwoScan host.probe range first start count (asked es) r := by
  -- the first free port is carried along, so it is general in the induction on the ports
  induction count generalizing first start with
  | zero =>
      refine (meets_throw _).weaken ?_
      rintro es r ⟨rfl, rfl⟩
      exact ⟨rfl, .exhausted⟩
  | succ count ih =>
      rw [List.range'_succ]
      unfold firstTwo
      refine (host.probe.meets_isFree start).bind ?_ ?_
      · rintro es f ⟨hasked, hstops, hmay⟩
        rw [hasked]
        exact ⟨hstops, .failed hmay⟩
      · rintro es free ⟨hasked, hstops, hmay⟩
        cases free with
        | false =>
            refine (ih first (start + 1)).weaken ?_
            rintro es' r ⟨hstops', hscan⟩
            rw [stops_append, hstops, hstops', asked_append, hasked]
            exact ⟨rfl, .busy hmay hscan⟩
        | true =>
            cases first with
            | none =>
                refine (ih (some start) (start + 1)).weaken ?_
                rintro es' r ⟨hstops', hscan⟩
                rw [stops_append, hstops, hstops', asked_append, hasked]
                exact ⟨rfl, .first hmay hscan⟩
            | some application =>
                refine (meets_pure _).weaken ?_
                rintro es' r ⟨rfl, rfl⟩
                rw [List.append_nil, hasked]
                exact ⟨hstops, .second hmay⟩

theorem TwoScan.upward {first : Option Nat} (h : TwoScan probe range first start count qs r) :
    Upward probe range .incrementing start count qs r := by
  induction h with
  | exhausted =>
      refine Upward.done fun f hf => ?_
      cases hf
      rfl
  | failed hmay => exact Upward.failed hmay
  | busy hmay hrest ih => exact ih.cons hmay
  | first hmay hrest ih => exact ih.cons hmay
  | second hmay => exact Upward.cons hmay (Upward.done fun f hf => nomatch hf)

/-- All of the questions were answered, and none of the ports was free. -/
def Busy (qs : List Question) : Prop := ∀ q ∈ qs, q.answer = some false

theorem busy_nil : Busy [] := fun _ hq => nomatch hq

theorem Busy.cons {q : Question} {qs : List Question} (hq : q.answer = some false) (h : Busy qs) :
    Busy (q :: qs) := by
  intro p hp
  rcases List.mem_cons.mp hp with rfl | hp
  · exact hq
  · exact h p hp

/-- An incrementing scan that found one port before: together with the question about that port, its
questions name two free ports, the second at the very end, and all others are busy. -/
def FoundTwo (first : Option Nat) (qs : List Question) (found : ByRole Nat) : Prop :=
  ∃ before between, first.toList.map Question.free ++ qs =
    before ++ .free found.application :: (between ++ [.free found.admin]) ∧
    Busy before ∧ Busy between

/-- A busy port in front of the questions belongs either to the ports before the first free one or
to those between the two. -/
theorem FoundTwo.cons_busy {first : Option Nat} {qs : List Question} {found : ByRole Nat}
    {port : Int} (h : FoundTwo first qs found) :
    FoundTwo first (⟨port, some false⟩ :: qs) found := by
  obtain ⟨before, between, hqs, hbefore, hbetween⟩ := h
  cases first with
  | none =>
      simp only [Option.toList_none, List.map_nil, List.nil_append] at hqs
      refine ⟨⟨port, some false⟩ :: before, between, ?_, hbefore.cons rfl, hbetween⟩
      simp [hqs]
  | some c =>
      simp only [Option.toList_some, List.map_cons, List.map_nil, List.singleton_append] at hqs
      cases before with
      | nil =>
          obtain ⟨hc, hqs⟩ := List.cons_eq_cons.mp hqs
          refine ⟨[], ⟨port, some false⟩ :: between, ?_, hbefore, hbetween.cons rfl⟩
          simp [hc, hqs]
      | cons q before =>
          -- the port found before was free, so it is not among the busy ones
          obtain ⟨hc, -⟩ := List.cons_eq_cons.mp hqs
          have hbusy := hbefore q List.mem_cons_self
          rw [← hc] at hbusy
          cases hbusy

/-- An incrementing scan stops at the second free port. -/
theorem TwoScan.foundTwo {first : Option Nat} (h : TwoScan probe range first start count qs r)
    {found : ByRole Nat} (hr : r = .ok found) : FoundTwo first qs found := by
  induction h with
  | exhausted => cases hr
  | failed => cases hr
  | busy hmay hrest ih => exact (ih hr).cons_busy
  | first hmay hrest ih => exact ih hr
  | second hmay =>
      cases hr
      exact ⟨[], [], rfl, busy_nil, busy_nil⟩

/-! ### The first two free neighbours -/

/-- How an adjacent scan goes through `count` ports from `start` on. Behind a busy port it goes on
with the next one, and behind a free port with a busy neighbour it goes on behind the neighbour. -/
inductive PairScan (probe : Probe σ) (range : PortRange) :
    Nat → Nat → List Question → Except Fault (ByRole Nat) → Prop where
  | exhausted {start count : Nat} (hcount : count ≤ 1) :
      PairScan probe range start count [] (.error (.exhausted .adjacent range))
  | failed {start count : Nat} {f : Fault} (hmay : probe.MayEnd start (.error f)) :
      PairScan probe range start (count + 2) [⟨start, none⟩] (.error f)
  | busy {start count : Nat} {qs : List Question} {r : Except Fault (ByRole Nat)}
      (hmay : probe.MayEnd start (.ok false))
      (hrest : PairScan probe range (start + 1) (count + 1) qs r) :
      PairScan probe range start (count + 2) (⟨start, some false⟩ :: qs) r
  | upperFailed {start count : Nat} {f : Fault} (hmay : probe.MayEnd start (.ok true))
      (hupper : probe.MayEnd (start + 1 : Nat) (.error f)) :
      PairScan probe range start (count + 2) [.free start, ⟨(start + 1 : Nat), none⟩] (.error f)
  | upperBusy {start count : Nat} {qs : List Question} {r : Except Fault (ByRole Nat)}
      (hmay : probe.MayEnd start (.ok true)) (hupper : probe.MayEnd (start + 1 : Nat) (.ok false))
      (hrest : PairScan probe range (start + 2) count qs r) :
      PairScan probe range start (count + 2)
        (.free start :: ⟨(start + 1 : Nat), some false⟩ :: qs) r
  | found {start count : Nat} (hmay : probe.MayEnd start (.ok true))
      (hupper : probe.MayEnd (start + 1 : Nat) (.ok true)) :
      PairScan probe range start (count + 2) [.free start, .free (start + 1)]
        (.ok ⟨start, start + 1⟩)

theorem meets_firstNeighbours (host : Host σ) (range : PortRange) (start count : Nat) :
    (firstNeighbours host range (List.range' start count)).Meets fun es r =>
      stops es = [] ∧ PairScan host.probe range start count (asked es) r := by
  -- the scan resumes behind one port or behind two, so the induction is on two ports at once
  induction count using Nat.twoStepInduction generalizing start with
  | zero =>
      refine (meets_throw _).weaken ?_
      rintro es r ⟨rfl, rfl⟩
      exact ⟨rfl, .exhausted (by omega)⟩
  | one =>
      refine (meets_throw _).weaken ?_
      rintro es r ⟨rfl, rfl⟩
      exact ⟨rfl, .exhausted (by omega)⟩
  | more count ihbehind ihnext =>
      rw [List.range'_succ, List.range'_succ]
      unfold firstNeighbours
      refine (host.probe.meets_isFree start).bind ?_ ?_
      · rintro es f ⟨hasked, hstops, hmay⟩
        rw [hasked]
        exact ⟨hstops, .failed hmay⟩
      · rintro es free ⟨hasked, hstops, hmay⟩
        cases free with
        | false =>
            refine Meets.weaken (ihnext (start + 1)) ?_
            rintro es' r ⟨hstops', hscan⟩
            rw [stops_append, hstops, hstops', asked_append, hasked]
            exact ⟨rfl, .busy hmay hscan⟩
        | true =>
            refine (host.probe.meets_isFree (start + 1 : Nat)).bind ?_ ?_
            · rintro es' f ⟨hasked', hstops', hupper⟩
              rw [stops_append, hstops, hstops', asked_append, hasked, hasked']
              exact ⟨rfl, .upperFailed hmay hupper⟩
            · rintro es' free' ⟨hasked', hstops', hupper⟩
              cases free' with
              | true =>
                  refine (meets_pure _).weaken ?_
                  rintro es'' r ⟨rfl, rfl⟩
                  rw [List.append_nil, stops_append, hstops, hstops', asked_append, hasked, hasked']
                  exact ⟨rfl, .found hmay hupper⟩
              | false =>
                  refine (meets_log _ _ _).bind ?_ ?_
                  · rintro message f ⟨-, hf⟩
                    cases hf
                  · rintro message u ⟨hmessage, -⟩
                    refine (ihbehind (start + 2)).weaken ?_
                    rintro es'' r ⟨hstops'', hscan⟩
                    simp only [stops_append, asked_append, hstops, hstops', hstops'', hasked,
                      hasked', hmessage.1, hmessage.2]
                    exact ⟨rfl, .upperBusy hmay hupper hscan⟩

theorem PairScan.upward (h : PairScan probe range start count qs r) :
    Upward probe range .adjacent start count qs r := by
  induction h with
  | exhausted =>
      refine Upward.done fun f hf => ?_
      cases hf
      rfl
  | failed hmay => exact Upward.failed hmay
  | busy hmay hrest ih => exact ih.cons hmay
  | upperFailed hmay hupper => exact Upward.cons hmay (Upward.failed hupper)
  | upperBusy hmay hupper hrest ih => exact Upward.cons hmay (ih.cons hupper)
  | found hmay hupper =>
      exact Upward.cons hmay (Upward.cons hupper (Upward.done fun f hf => nomatch hf))

/-- The last two questions are about the found ports, and both were free. -/
def FoundPair (qs : List Question) (found : ByRole Nat) : Prop :=
  ∃ before, qs = before ++ [.free found.application, .free found.admin]

theorem FoundPair.cons {q : Question} {qs : List Question} {found : ByRole Nat}
    (h : FoundPair qs found) : FoundPair (q :: qs) found := by
  obtain ⟨before, hqs⟩ := h
  exact ⟨q :: before, by rw [hqs, List.cons_append]⟩

/-- An adjacent scan stops behind two neighbours that are both free. -/
theorem PairScan.foundPair (h : PairScan probe range start count qs r) {found : ByRole Nat}
    (hr : r = .ok found) : FoundPair qs found := by
  induction h with
  | exhausted => cases hr
  | failed => cases hr
  | busy hmay hrest ih => exact (ih hr).cons
  | upperFailed => cases hr
  | upperBusy hmay hupper hrest ih => exact (ih hr).cons.cons
  | found =>
      cases hr
      exact ⟨[], rfl⟩

/-! ## Random searches -/

/-- What drawing for a port that is not used does, with so many attempts. -/
structure Draws (probe : Probe σ) (range : PortRange) (used : List Int) (attempts : Nat)
    (es : List Event) (r : Except Fault Nat) : Prop where
  bounds : ∀ stop ∈ stops es, stop = range.portCount
  inside : ∀ q ∈ asked es, ∃ p ∈ range.ports, q.port = (p : Int)
  few : (asked es).length ≤ attempts
  found : ∀ p, r = .ok p → p ∈ range.ports ∧ (p : Int) ∉ used ∧
    ∃ before, asked es = before ++ [.free p] ∧
      ∀ q ∈ before, q.answer = some true → q.port ∈ used
  fault : ∀ f, r = .error f →
    f = .exhausted .random range ∨ ∃ p ∈ range.ports, probe.MayEnd p (.error f)

/-- A drawn port lies in the range. -/
theorem meets_drawPort (host : Host σ) (range : PortRange) :
    (drawPort host range).Meets fun es r =>
      asked es = [] ∧ stops es = [range.portCount] ∧ ∃ p ∈ range.ports, r = .ok p := by
  have hcount : 0 < range.portCount := by
    have := range.two_le_portCount
    omega
  refine (host.meets_draw hcount).bind ?_ ?_
  · rintro es f ⟨-, -, n, -, hn⟩
    cases hn
  · rintro es n ⟨hasked, hstops, m, hm, hn⟩
    cases hn
    refine (meets_pure (range.min + n)).weaken ?_
    rintro es' r ⟨rfl, rfl⟩
    have hmin := range.min_lt_max
    rw [List.append_nil]
    refine ⟨hasked, hstops, range.min + n, ?_, rfl⟩
    rw [PortRange.mem_ports]
    unfold PortRange.portCount at hm
    omega

theorem Draws.exhausted (used : List Int) :
    Draws probe range used 0 [] (.error (.exhausted .random range)) where
  bounds := fun _ h => nomatch h
  inside := fun _ h => nomatch h
  few := Nat.le_refl 0
  found := fun _ h => nomatch h
  fault := by
    intro f hf
    cases hf
    exact Or.inl rfl

/-- One more attempt in front of a search that found its first port used or busy. -/
theorem Draws.cons {used : List Int} {attempts : Nat} {port : Nat} {answer : Bool}
    {r : Except Fault Nat} (hport : port ∈ range.ports) (hasked : asked es = [⟨port, some answer⟩])
    (hstops : stops es = [range.portCount]) (hused : answer = true → (port : Int) ∈ used)
    (h : Draws probe range used attempts es' r) :
    Draws probe range used (attempts + 1) (es ++ es') r where
  bounds := by
    rw [stops_append, hstops, List.singleton_append, List.forall_mem_cons]
    exact ⟨rfl, h.bounds⟩
  inside := by
    rw [asked_append, hasked, List.singleton_append, List.forall_mem_cons]
    exact ⟨⟨port, hport, rfl⟩, h.inside⟩
  few := by
    rw [asked_append, hasked, List.singleton_append, List.length_cons]
    exact Nat.succ_le_succ h.few
  found := by
    intro p hp
    obtain ⟨hmem, hnew, before, hqs, hbefore⟩ := h.found p hp
    refine ⟨hmem, hnew, ⟨port, some answer⟩ :: before, ?_, ?_⟩
    · rw [asked_append, hasked, hqs]
      rfl
    · rw [List.forall_mem_cons]
      exact ⟨fun ha => hused (Option.some.inj ha), hbefore⟩
  fault := h.fault

/-- A search that ends with its first question: it has found a port, or the probe has failed. -/
theorem Draws.first {used : List Int} {attempts : Nat} {port : Nat} {r : Except Fault Nat}
    {answer : Option Bool} (hport : port ∈ range.ports) (hasked : asked es = [⟨port, answer⟩])
    (hstops : stops es = [range.portCount])
    (hr : (r = .ok port ∧ answer = some true ∧ (port : Int) ∉ used) ∨
      ∃ f, r = .error f ∧ probe.MayEnd port (.error f)) :
    Draws probe range used (attempts + 1) es r where
  bounds := by
    rw [hstops, List.forall_mem_singleton]
  inside := by
    rw [hasked, List.forall_mem_singleton]
    exact ⟨port, hport, rfl⟩
  few := by
    rw [hasked, List.length_singleton]
    omega
  found := by
    intro p hp
    rcases hr with ⟨hr, hanswer, hnew⟩ | ⟨f, hr, -⟩
    · rw [hr] at hp
      cases hp
      refine ⟨hport, hnew, [], ?_, fun _ h => nomatch h⟩
      rw [hasked, hanswer]
      rfl
    · rw [hr] at hp
      cases hp
  fault := by
    intro f hf
    rcases hr with ⟨hr, -⟩ | ⟨g, hr, hmay⟩
    · rw [hr] at hf
      cases hf
    · rw [hr] at hf
      cases hf
      exact Or.inr ⟨port, hport, hmay⟩

/-- One attempt draws a port of the range and asks about it. The search ends with the attempt if the
probe fails or the port is free and not used, and otherwise goes on with the attempts that are
left. -/
theorem meets_drawFree_succ {host : Host σ} {used : List Int} {attempts : Nat}
    {R : List Event → Except Fault Nat → Prop}
    (hfail : ∀ es port f, port ∈ range.ports → asked es = [⟨port, none⟩] →
      stops es = [range.portCount] → host.probe.MayEnd port (.error f) → R es (.error f))
    (hfound : ∀ es port, port ∈ range.ports → asked es = [.free port] →
      stops es = [range.portCount] → (port : Int) ∉ used → R es (.ok port))
    (hnext : ∀ (es : List Event) (port : Nat) (free : Bool), port ∈ range.ports →
      asked es = [⟨port, some free⟩] → stops es = [range.portCount] →
      (free = true → (port : Int) ∈ used) →
      (drawFree host range used attempts).Meets fun es' r => R (es ++ es') r) :
    (drawFree host range used (attempts + 1)).Meets R := by
  refine (meets_drawPort host range).bind ?_ ?_
  · rintro es f ⟨-, -, p, -, hp⟩
    cases hp
  · rintro draw port ⟨hdraw, hstop, p, hport, hp⟩
    cases hp
    refine (meets_log _ _ _).bind ?_ ?_
    · rintro es f ⟨-, hf⟩
      cases hf
    · rintro message u ⟨hmessage, -⟩
      -- the draw and the message show as the bound of the draw and nothing else
      have hqs : ∀ es, asked (draw ++ (message ++ es)) = asked es := by
        intro es
        simp [hdraw, hmessage.1]
      have hbounds : ∀ es, stops (draw ++ (message ++ es)) = range.portCount :: stops es := by
        intro es
        simp [hstop, hmessage.2]
      refine (host.probe.meets_isFree port).bind ?_ ?_
      · rintro es f ⟨hasked, hstops, hmay⟩
        exact hfail _ port f hport ((hqs es).trans hasked) (by rw [hbounds, hstops]) hmay
      · rintro es free ⟨hasked, hstops, -⟩
        have hassoc : ∀ es', draw ++ (message ++ (es ++ es')) = draw ++ (message ++ es) ++ es' :=
          fun es' => by simp only [List.append_assoc]
        have hone := (hqs es).trans hasked
        have hbound : stops (draw ++ (message ++ es)) = [range.portCount] := by rw [hbounds, hstops]
        by_cases haccept : (free && !used.contains (port : Int)) = true
        · rw [if_pos haccept]
          obtain ⟨rfl, hnew⟩ : free = true ∧ (port : Int) ∉ used := by simpa using haccept
          refine (meets_pure port).weaken ?_
          rintro es' r ⟨rfl, rfl⟩
          rw [hassoc, List.append_nil]
          exact hfound _ port hport hone hbound hnew
        · rw [if_neg haccept]
          have hused : free = true → (port : Int) ∈ used := by
            rintro rfl
            by_contra hnew
            exact haccept (by simpa using hnew)
          refine (hnext _ port free hport hone hbound hused).weaken fun es' r hr => ?_
          rw [hassoc]
          exact hr

/-- A random search asks about every port it draws, also about a used one. -/
theorem meets_drawFree (host : Host σ) (range : PortRange) (used : List Int) (attempts : Nat) :
    (drawFree host range used attempts).Meets (Draws host.probe range used attempts) := by
  induction attempts with
  | zero =>
      refine (meets_throw _).weaken ?_
      rintro es r ⟨rfl, rfl⟩
      exact Draws.exhausted used
  | succ attempts ih =>
      apply meets_drawFree_succ
      · intro es port f hport hasked hstops hmay
        exact Draws.first hport hasked hstops (Or.inr ⟨f, rfl, hmay⟩)
      · intro es port hport hasked hstops hnew
        exact Draws.first hport hasked hstops (Or.inl ⟨rfl, rfl, hnew⟩)
      · intro es port free hport hasked hstops hused
        exact ih.weaken fun es' r h => h.cons hport hasked hstops hused

/-! ## What is found -/

/-- What found ports have to do with the questions of the search. -/
structure Chosen (range : PortRange) (qs : List Question) (found : ByRole Nat) : Prop where
  distinct : found.application ≠ found.admin
  application_mem : found.application ∈ range.ports
  admin_mem : found.admin ∈ range.ports
  /-- the admin port was accepted last, and no other port was found free since the application
  port was accepted -/
  answered : ∃ before between,
    qs = before ++ .free found.application :: (between ++ [.free found.admin]) ∧
      ∀ q ∈ between, q.answer = some true → q.port = (found.application : Int)

theorem Chosen.mem {qs : List Question} {found : ByRole Nat} (h : Chosen range qs found)
    (role : Role) : found.get role ∈ range.ports := by
  cases role with
  | application => exact h.application_mem
  | admin => exact h.admin_mem

/-- How a search of a range behaves, whatever it finds. -/
structure Conduct (range : PortRange) (strategy : Strategy) (es : List Event) : Prop where
  inside : ∀ q ∈ asked es, ∃ p ∈ range.ports, q.port = (p : Int)
  bounds : ∀ stop ∈ stops es, stop = range.portCount
  random : strategy = .random → (asked es).length ≤ 2 * range.maxAttempts
  scanning : strategy ≠ .random → (asked es).length ≤ range.portCount ∧ stops es = []

/-- A search of a range behaves, its ports are well chosen, and it ends with a fault only if nothing
was found or the probe has failed. -/
structure Sound (probe : Probe σ) (range : PortRange) (strategy : Strategy) (es : List Event)
    (r : Except Fault (ByRole Nat)) : Prop where
  conduct : Conduct range strategy es
  chosen : ∀ found, r = .ok found → Chosen range (asked es) found
  fault : ∀ f, r = .error f →
    f = .exhausted strategy range ∨ ∃ p ∈ range.ports, probe.MayEnd p (.error f)

/-- Only the two views of the events count. -/
theorem Conduct.congr (h : Conduct range strategy es) (hasked : asked es' = asked es)
    (hstops : stops es' = stops es) : Conduct range strategy es' where
  inside := by rw [hasked]; exact h.inside
  bounds := by rw [hstops]; exact h.bounds
  random := by rw [hasked]; exact h.random
  scanning := by rw [hasked, hstops]; exact h.scanning

/-- What neither asks nor draws behaves like any search. -/
theorem Conduct.of_quiet (h : Quiet es) : Conduct range strategy es where
  inside := by rw [h.1]; exact fun q hq => nomatch hq
  bounds := by rw [h.2]; exact fun stop hstop => nomatch hstop
  random := by rw [h.1]; exact fun _ => Nat.zero_le _
  scanning := by rw [h.1]; exact fun _ => ⟨Nat.zero_le _, h.2⟩

/-- A scan of the whole range asks about ports of the range, each at most once. -/
theorem Scan.conduct (h : Scan probe range strategy range.ports es r)
    (hscanning : strategy ≠ .random) : Conduct range strategy es where
  inside := by
    intro q hq
    have hmem := h.order.subset (List.mem_map_of_mem hq)
    obtain ⟨p, hp, hcast⟩ := List.mem_map.mp hmem
    exact ⟨p, hp, hcast.symm⟩
  bounds := by
    rw [h.draws]
    intro stop hstop
    cases hstop
  random := fun hrandom => absurd hrandom hscanning
  scanning := by
    intro _
    have hlen : (asked es).length ≤ range.portCount :=
      calc (asked es).length = ((asked es).map (·.port)).length := (List.length_map _).symm
        _ ≤ (range.ports.map (Nat.cast : Nat → Int)).length := h.order.length_le
        _ = range.portCount := by rw [List.length_map, PortRange.length_ports]
    exact ⟨hlen, h.draws⟩

/-- Two ports that a scan was told to be free, one after the other, are well chosen. -/
theorem Scan.chosen (h : Scan probe range strategy range.ports es r)
    (before between : List Question) (hscanning : strategy ≠ .random) {found : ByRole Nat}
    (hqs : asked es = before ++ .free found.application :: (between ++ [.free found.admin]))
    (hbetween : ∀ q ∈ between, q.answer = some true → q.port = (found.application : Int)) :
    Chosen range (asked es) found := by
  have hmem : ∀ port : Nat, Question.free port ∈ asked es → port ∈ range.ports := by
    intro port hport
    obtain ⟨p, hp, hcast⟩ := (h.conduct hscanning).inside _ hport
    have hp' : port = p := Int.ofNat.inj hcast
    rw [hp']
    exact hp
  refine ⟨?_, hmem _ (by simp [hqs]), hmem _ (by simp [hqs]), before, between, hqs, hbetween⟩
  -- a scan asks about no port twice
  have hnodup : ((asked es).map (·.port)).Nodup := by
    refine h.order.sublist.nodup (List.Nodup.map ?_ ?_)
    · exact fun m n hmn => Int.ofNat.inj hmn
    · exact List.nodup_range'
  rw [hqs, List.map_append, List.map_cons, List.nodup_append] at hnodup
  have hlater := (List.nodup_cons.mp hnodup.2.1).1
  intro hsame
  refine hlater (List.mem_map.mpr ⟨.free found.admin, by simp, ?_⟩)
  rw [hsame]

theorem incrementingPair_sound (host : Host σ) (range : PortRange) :
    (incrementingPair host range).Meets (Sound host.probe range .incrementing) := by
  refine (meets_firstTwo host range none range.min range.portCount).weaken ?_
  rintro es r ⟨hstops, htwo⟩
  have hscan := htwo.upward.scan hstops
  refine ⟨hscan.conduct (by decide), fun found hr => ?_, hscan.fault⟩
  obtain ⟨before, between, hqs, -, hbusy⟩ := htwo.foundTwo hr
  refine hscan.chosen before between (by decide) hqs fun q hq hfree => ?_
  rw [hbusy q hq] at hfree
  cases hfree

theorem adjacentPair_sound (host : Host σ) (range : PortRange) :
    (adjacentPair host range).Meets (Sound host.probe range .adjacent) := by
  refine (meets_firstNeighbours host range range.min range.portCount).weaken ?_
  rintro es r ⟨hstops, hpair⟩
  have hscan := hpair.upward.scan hstops
  refine ⟨hscan.conduct (by decide), fun found hr => ?_, hscan.fault⟩
  obtain ⟨before, hqs⟩ := hpair.foundPair hr
  exact hscan.chosen before [] (by decide) hqs fun q hq => nomatch hq

theorem Sound.failed {f : Fault} (hconduct : Conduct range strategy es)
    (hfault : f = .exhausted strategy range ∨ ∃ p ∈ range.ports, probe.MayEnd p (.error f)) :
    Sound probe range strategy es (.error f) where
  conduct := hconduct
  chosen := fun _ h => nomatch h
  fault := by
    intro g hg
    cases hg
    exact hfault

/-- Two random searches one after the other ask at most as often as both may draw. -/
theorem Draws.conduct_append {used used' : List Int} {r r' : Except Fault Nat}
    (h : Draws probe range used range.maxAttempts es r)
    (h' : Draws probe range used' range.maxAttempts es' r') : Conduct range .random (es ++ es') where
  inside := by
    rw [asked_append, List.forall_mem_append]
    exact ⟨h.inside, h'.inside⟩
  bounds := by
    rw [stops_append, List.forall_mem_append]
    exact ⟨h.bounds, h'.bounds⟩
  random := by
    intro _
    have hfew := h.few
    have hfew' := h'.few
    rw [asked_append, List.length_append]
    omega
  scanning := fun hscanning => absurd rfl hscanning

theorem Draws.conduct {used : List Int} {r : Except Fault Nat}
    (h : Draws probe range used range.maxAttempts es r) : Conduct range .random es where
  inside := h.inside
  bounds := h.bounds
  random := by
    intro _
    have hfew := h.few
    omega
  scanning := fun hscanning => absurd rfl hscanning

/-- The second of two random searches may not take what the first has found. -/
theorem randomPair_sound (host : Host σ) (range : PortRange) :
    (randomPair host range).Meets (Sound host.probe range .random) := by
  refine (meets_drawFree host range [] range.maxAttempts).bind ?_ ?_
  · intro es f h
    exact Sound.failed h.conduct (h.fault f rfl)
  · intro es application h
    obtain ⟨happlication, -, before, hbefore, -⟩ := h.found application rfl
    refine (meets_drawFree host range [(application : Int)] range.maxAttempts).bind ?_ ?_
    · intro es' f h'
      exact Sound.failed (h.conduct_append h') (h'.fault f rfl)
    · intro es' admin h'
      obtain ⟨hadmin, hnew, between, hbetween, hused⟩ := h'.found admin rfl
      refine (meets_pure _).weaken ?_
      rintro es'' r ⟨rfl, rfl⟩
      rw [List.append_nil]
      refine ⟨h.conduct_append h', fun found hr => ?_, fun f hf => nomatch hf⟩
      cases hr
      refine ⟨?_, happlication, hadmin, before, between, ?_, ?_⟩
      · intro hsame
        exact hnew (List.mem_singleton.mpr (congrArg Nat.cast hsame.symm))
      · rw [asked_append, hbefore, hbetween, List.append_assoc, List.singleton_append]
      · -- only the application port was used when the second search began
        intro q hq hfree
        exact List.mem_singleton.mp (hused q hq hfree)

end Search

/-- Every strategy searches a range soundly. -/
theorem Strategy.find_sound (strategy : Strategy) (host : Host σ) (range : PortRange) :
    (strategy.find host (some range)).Meets (Search.Sound host.probe range strategy) := by
  cases strategy with
  | random => exact Search.randomPair_sound host range
  | incrementing => exact Search.incrementingPair_sound host range
  | adjacent => exact Search.adjacentPair_sound host range

end ListenerPorts
