import ListenerPorts.Text.Blank
import ListenerPorts.Text.Lowercase
import Mathlib.Data.List.DropRight
import Mathlib.Tactic

set_option autoImplicit false

/-! # Lower case and blanks

Two laws of lower case. A text in lower case has no capitals left, so it is its own lower case
(`lower_lower`). And it makes no difference whether the blanks around a text are taken away before or
after the text is turned into lower case (`lower_trim`): blanks have no case of their own, and a sigma
ends a word in front of a blank just as it does at the end of the text.
-/

namespace ListenerPorts.Text

/-! ## Capitals -/

/-- Lower case changes the character. -/
def IsCapital (c : Char) : Prop := c = 'Σ' ∨ c = 'İ' ∨ ∃ s ∈ shifts, s.covers c.toNat = true

instance (c : Char) : Decidable (IsCapital c) := inferInstanceAs (Decidable (_ ∨ _ ∨ _))

/-- The code point of the small letter to which the shift takes a capital. -/
def Shift.target (s : Shift) (n : Nat) : Nat := (n + s.distance).toNat

/-- No small letter of the first shift is a capital of the second one: they lie apart, or the
capitals of the second one lie in the gaps between the small letters. -/
def Shift.misses (s t : Shift) : Bool :=
  (s.target s.last).blt t.first || (t.last.blt (s.target s.first) ||
    (t.step.beq 2 && ((s.step.beq 2 || s.first.beq s.last) &&
      ((s.target s.first + t.first) % 2).beq 1)))

theorem misses_of_mem {s t : Shift} (hs : s ∈ shifts) (ht : t ∈ shifts) : s.misses t = true := by
  have hall : (shifts.all fun s => shifts.all fun t => s.misses t) = true := by decide +kernel
  exact List.all_eq_true.mp (List.all_eq_true.mp hall s hs) t ht

/-- The code points that no shift leads to: the zero, the two capitals that no shift covers, the
surrogates, and the blanks. -/
def avoidedRanges : List (Nat × Nat) :=
  (0, 0) :: (0x130, 0x130) :: (0x3A3, 0x3A3) :: (0xD800, 0xDFFF) :: blankRanges

theorem avoids_of_mem {s : Shift} (hs : s ∈ shifts) {r : Nat × Nat} (hr : r ∈ avoidedRanges) :
    s.target s.last < r.1 ∨ r.2 < s.target s.first := by
  have hall : ∀ s ∈ shifts, ∀ r ∈ avoidedRanges,
      s.target s.last < r.1 ∨ r.2 < s.target s.first := by decide +kernel
  exact hall s hs r hr

theorem target_last_lt {s : Shift} (hs : s ∈ shifts) : s.target s.last < 0x110000 := by
  have hall : ∀ s ∈ shifts, s.target s.last < 0x110000 := by decide +kernel
  exact hall s hs

theorem Shift.covers_iff {s : Shift} {n : Nat} :
    s.covers n = true ↔ s.first ≤ n ∧ n ≤ s.last ∧ (n - s.first) % s.step = 0 := by
  simp only [covers, Bool.and_eq_true, decide_eq_true_eq, beq_iff_eq, and_assoc]

/-- A shift leads no capital to a code point that is avoided. -/
theorem avoids_target {s : Shift} (hs : s ∈ shifts) {n : Nat} (hn : s.covers n = true)
    {r : Nat × Nat} (hr : r ∈ avoidedRanges) : s.target n < r.1 ∨ r.2 < s.target n := by
  have havoids := avoids_of_mem hs hr
  rw [Shift.covers_iff] at hn
  unfold Shift.target at *
  omega

/-- A shift leads to code points that belong to characters. -/
theorem toNat_target {s : Shift} (hs : s ∈ shifts) {n : Nat} (hn : s.covers n = true) :
    (Char.ofNat (s.target n)).toNat = s.target n := by
  have hsurrogate := avoids_target hs hn (r := (0xD800, 0xDFFF)) (by decide)
  have hlast := target_last_lt hs
  rw [Shift.covers_iff] at hn
  have hvalid : (s.target n).isValidChar := by
    unfold Shift.target Nat.isValidChar at *
    omega
  unfold Char.ofNat
  rw [dif_pos hvalid]
  rfl

/-- No small letter is a capital of any shift. -/
theorem covers_target {s t : Shift} (hs : s ∈ shifts) (ht : t ∈ shifts) {n : Nat}
    (hn : s.covers n = true) : t.covers (s.target n) = false := by
  rw [← Bool.not_eq_true, Shift.covers_iff]
  have hzero := avoids_of_mem hs (r := (0, 0)) (by decide)
  have hmisses := misses_of_mem hs ht
  rw [Shift.covers_iff] at hn
  rintro ⟨hlow, hhigh, hstep⟩
  simp only [Shift.misses, Bool.or_eq_true, Bool.and_eq_true, Nat.blt_eq, Nat.beq_eq] at hmisses
  unfold Shift.target at *
  -- if the two do not lie apart, then the small letter has the other parity
  rcases hmisses with happart | happart | ⟨htwo, hstep', hparity⟩
  · omega
  · omega
  · rw [htwo] at hstep
    rcases hstep' with htwo' | hone
    · rw [htwo'] at hn
      omega
    · omega

/-- A capital of ASCII is covered by the first shift, and no other character of ASCII by any. -/
theorem covers_ascii {s : Shift} (hs : s ∈ shifts) {n : Nat} (hn : n < 0x80)
    (hcovers : s.covers n = true) : s = ⟨0x41, 0x5A, 1, 32⟩ := by
  have hall : ∀ s ∈ shifts.tail, 0x80 ≤ s.first := by decide +kernel
  have hmem : s = ⟨0x41, 0x5A, 1, 32⟩ ∨ s ∈ shifts.tail := List.mem_cons.mp hs
  rcases hmem with hfirst | hrest
  · exact hfirst
  · have hlow := hall s hrest
    rw [Shift.covers_iff] at hcovers
    omega

theorem toLower_of_not_covered {c : Char}
    (h : (⟨0x41, 0x5A, 1, 32⟩ : Shift).covers c.toNat = false) : c.toLower = c := by
  rw [← Bool.not_eq_true, Shift.covers_iff] at h
  unfold Char.toLower
  refine dif_neg ?_
  rintro ⟨hlow, hhigh⟩
  rw [ge_iff_le, UInt32.le_iff_toNat_le] at hlow
  rw [UInt32.le_iff_toNat_le] at hhigh
  exact h ⟨hlow, hhigh, Nat.mod_one _⟩

theorem toLower_of_covered {n : Nat} (h : (⟨0x41, 0x5A, 1, 32⟩ : Shift).covers n = true) :
    (Char.ofNat n).toLower = Char.ofNat ((⟨0x41, 0x5A, 1, 32⟩ : Shift).target n) := by
  have hall : ∀ n ∈ List.range' 0x41 26,
      (Char.ofNat n).toLower = Char.ofNat ((⟨0x41, 0x5A, 1, 32⟩ : Shift).target n) := by decide
  obtain ⟨hlow, hhigh, -⟩ := Shift.covers_iff.mp h
  dsimp only at hlow hhigh
  exact hall n (List.mem_range'_1.mpr (by omega))

/-- Lower case takes a character along a shift that covers it, and leaves it if there is none. -/
theorem lowerChar_cases (c : Char) :
    (lowerChar c = c ∧ ∀ s ∈ shifts, s.covers c.toNat = false) ∨
      ∃ s ∈ shifts, s.covers c.toNat = true ∧ lowerChar c = Char.ofNat (s.target c.toNat) := by
  unfold lowerChar
  split
  · rename_i hascii
    cases hcovers : (⟨0x41, 0x5A, 1, 32⟩ : Shift).covers c.toNat with
    | true =>
        refine Or.inr ⟨⟨0x41, 0x5A, 1, 32⟩, List.mem_cons_self, hcovers, ?_⟩
        have hlower := toLower_of_covered hcovers
        rwa [Char.ofNat_toNat] at hlower
    | false =>
        refine Or.inl ⟨toLower_of_not_covered hcovers, fun s hs => ?_⟩
        rw [← Bool.not_eq_true]
        intro hother
        rw [covers_ascii hs hascii hother, hcovers] at hother
        cases hother
  · split
    · rename_i s hfind
      have hcovers : s.covers c.toNat = true := by simpa using List.find?_some hfind
      exact Or.inr ⟨s, List.mem_of_find?_eq_some hfind, hcovers, rfl⟩
    · rename_i hfind
      refine Or.inl ⟨rfl, fun s hs => ?_⟩
      simpa using List.find?_eq_none.mp hfind s hs

theorem lowerChar_of_not_capital {c : Char} (h : ¬ IsCapital c) : lowerChar c = c := by
  rcases lowerChar_cases c with ⟨hsame, -⟩ | ⟨s, hs, hcovers, -⟩
  · exact hsame
  · exact absurd (Or.inr (Or.inr ⟨s, hs, hcovers⟩)) h

theorem not_capital_lowerChar {c : Char} (hsigma : c ≠ 'Σ') (hdotted : c ≠ 'İ') :
    ¬ IsCapital (lowerChar c) := by
  rcases lowerChar_cases c with ⟨hsame, hnone⟩ | ⟨s, hs, hcovers, htarget⟩
  · rw [hsame]
    rintro (h | h | ⟨s, hs, hcovers⟩)
    · exact hsigma h
    · exact hdotted h
    · rw [hnone s hs] at hcovers
      cases hcovers
  · have htoNat := toNat_target hs hcovers
    rw [htarget]
    rintro (h | h | ⟨t, ht, hagain⟩)
    · have havoids := avoids_target hs hcovers (r := (0x3A3, 0x3A3)) (by decide)
      rw [h] at htoNat
      have hcode : 'Σ'.toNat = 0x3A3 := rfl
      omega
    · have havoids := avoids_target hs hcovers (r := (0x130, 0x130)) (by decide)
      rw [h] at htoNat
      have hcode : 'İ'.toNat = 0x130 := rfl
      omega
    · rw [htoNat, covers_target hs ht hcovers] at hagain
      cases hagain

/-! ## Blanks have no case -/

/-- A character of one class is in no class whose ranges lie apart from it. -/
theorem inRanges_eq_false_of_apart {rs rs' : List (Nat × Nat)}
    (hapart : ∀ r ∈ rs, ∀ r' ∈ rs', r.2 < r'.1 ∨ r'.2 < r.1) {c : Char}
    (h : inRanges rs c = true) : inRanges rs' c = false := by
  obtain ⟨r, hr, hlow, hhigh⟩ := (inRanges_iff rs c).mp h
  rw [← Bool.not_eq_true, inRanges_iff]
  rintro ⟨r', hr', hlow', hhigh'⟩
  have := hapart r hr r' hr'
  omega

/-- A blank has no case, and no word goes on across it. -/
theorem caseless_of_blank {c : Char} (h : isBlank c = true) :
    isCased c = false ∧ isSkipped c = false :=
  ⟨inRanges_eq_false_of_apart (by decide +kernel) h,
    inRanges_eq_false_of_apart (by decide +kernel) h⟩

theorem not_capital_of_blank {c : Char} (h : isBlank c = true) : ¬ IsCapital c := by
  have hall : ∀ r ∈ blankRanges, ∀ s ∈ shifts, r.2 < s.first ∨ s.last < r.1 := by decide +kernel
  rintro (rfl | rfl | ⟨s, hs, hcovers⟩)
  · exact absurd h (by decide)
  · exact absurd h (by decide)
  · obtain ⟨r, hr, hlow, hhigh⟩ := (inRanges_iff blankRanges c).mp h
    have happart := hall r hr s hs
    rw [Shift.covers_iff] at hcovers
    omega

theorem isBlank_lowerChar {c : Char} (h : isBlank c = false) : isBlank (lowerChar c) = false := by
  rcases lowerChar_cases c with ⟨hsame, -⟩ | ⟨s, hs, hcovers, htarget⟩
  · rw [hsame]
    exact h
  · rw [← Bool.not_eq_true, htarget, isBlank, inRanges_iff, toNat_target hs hcovers]
    rintro ⟨r, hr, hlow, hhigh⟩
    have hmem : r ∈ avoidedRanges := by simp [avoidedRanges, hr]
    have havoids := avoids_target hs hcovers hmem
    omega

/-! ## A character at its place -/

/-- The lower case of a character that stands between others. Only the sigma looks at them. -/
def lowerAt (before : List Char) (c : Char) (after : List Char) : List Char :=
  if c = 'Σ' then [if endsWord before after then 'ς' else 'σ']
  else if c = 'İ' then ['i', '\u0307']
  else [lowerChar c]

theorem lowerChars_cons (before : List Char) (c : Char) (cs : List Char) :
    lowerChars before (c :: cs) = lowerAt before c cs ++ lowerChars (c :: before) cs := by
  rw [lowerChars, lowerAt]
  split_ifs <;> rfl

variable {before after cs : List Char} {c d : Char}

theorem lowerAt_of_not_capital (h : ¬ IsCapital c) : lowerAt before c after = [c] := by
  unfold lowerAt
  rw [if_neg fun hsigma => h (Or.inl hsigma), if_neg fun hdotted => h (Or.inr (Or.inl hdotted)),
    lowerChar_of_not_capital h]

/-- What the two capitals with a rule of their own are turned into. -/
def specialLower : List Char := ['ς', 'σ', 'i', '\u0307']

theorem mem_lowerAt (h : d ∈ lowerAt before c after) :
    d ∈ specialLower ∨ (c ≠ 'Σ' ∧ c ≠ 'İ' ∧ d = lowerChar c) := by
  unfold lowerAt at h
  unfold specialLower
  split_ifs at h with hsigma hends hdotted
  · exact Or.inl (by simp_all)
  · exact Or.inl (by simp_all)
  · exact Or.inl (by simp_all)
  · exact Or.inr ⟨hsigma, hdotted, List.mem_singleton.mp h⟩

theorem not_capital_of_mem_lowerAt (h : d ∈ lowerAt before c after) : ¬ IsCapital d := by
  rcases mem_lowerAt h with hspecial | ⟨hsigma, hdotted, rfl⟩
  · have hall : (specialLower.all fun d => ¬ IsCapital d) = true := by decide +kernel
    exact of_decide_eq_true (List.all_eq_true.mp hall d hspecial)
  · exact not_capital_lowerChar hsigma hdotted

theorem isBlank_of_mem_lowerAt (hc : isBlank c = false) (h : d ∈ lowerAt before c after) :
    isBlank d = false := by
  rcases mem_lowerAt h with hspecial | ⟨-, -, rfl⟩
  · have hall : (specialLower.all fun d => isBlank d = false) = true := by decide
    exact of_decide_eq_true (List.all_eq_true.mp hall d hspecial)
  · exact isBlank_lowerChar hc

theorem lowerAt_ne_nil : lowerAt before c after ≠ [] := by
  unfold lowerAt
  split_ifs <;> exact List.cons_ne_nil _ _

/-! ## Lower case leaves no capitals -/

theorem not_capital_of_mem_lowerChars (h : d ∈ lowerChars before cs) : ¬ IsCapital d := by
  induction cs generalizing before with
  | nil => cases h
  | cons c cs ih =>
      rw [lowerChars_cons, List.mem_append] at h
      rcases h with h | h
      · exact not_capital_of_mem_lowerAt h
      · exact ih h

theorem lowerChars_of_no_capital (h : ∀ c ∈ cs, ¬ IsCapital c) : lowerChars before cs = cs := by
  induction cs generalizing before with
  | nil => rfl
  | cons c cs ih =>
      rw [List.forall_mem_cons] at h
      rw [lowerChars_cons, lowerAt_of_not_capital h.1, ih h.2, List.singleton_append]

/-- A text in lower case is its own lower case. -/
@[simp] theorem lower_lower (s : String) : lower (lower s) = lower s := by
  refine String.toList_injective ?_
  simp only [lower, String.toList_ofList]
  exact lowerChars_of_no_capital fun c hc => not_capital_of_mem_lowerChars hc

/-! ## Lower case between blanks -/

variable {front core back blanks : List Char}

/-- Blanks do not carry on a word. -/
theorem find?_append_blanks (hblanks : ∀ c ∈ blanks, isBlank c = true) (cs : List Char) :
    ((cs ++ blanks).find? (!isSkipped ·)).any isCased = (cs.find? (!isSkipped ·)).any isCased := by
  rw [List.find?_append]
  cases cs.find? (!isSkipped ·) with
  | some c => rfl
  | none =>
      cases blanks with
      | nil => rfl
      | cons b bs =>
          obtain ⟨hcased, hskipped⟩ := caseless_of_blank (hblanks b List.mem_cons_self)
          simp [hskipped, hcased]

theorem lowerAt_append_blanks (hblanks : ∀ c ∈ blanks, isBlank c = true) :
    lowerAt before c (after ++ blanks) = lowerAt before c after := by
  unfold lowerAt endsWord
  rw [find?_append_blanks hblanks]

theorem lowerAt_behind_blanks (hblanks : ∀ c ∈ blanks, isBlank c = true) :
    lowerAt (before ++ blanks) c after = lowerAt before c after := by
  unfold lowerAt endsWord
  rw [find?_append_blanks hblanks]

theorem lowerChars_behind_blanks (hblanks : ∀ c ∈ blanks, isBlank c = true) :
    lowerChars (before ++ blanks) cs = lowerChars before cs := by
  induction cs generalizing before with
  | nil => rfl
  | cons c cs ih =>
      have hrest : lowerChars (c :: before ++ blanks) cs = lowerChars (c :: before) cs := ih
      rw [lowerChars_cons, lowerChars_cons, lowerAt_behind_blanks hblanks, ← hrest,
        List.cons_append]

theorem lowerChars_of_blanks (hblanks : ∀ c ∈ blanks, isBlank c = true) :
    lowerChars before blanks = blanks :=
  lowerChars_of_no_capital fun c hc => not_capital_of_blank (hblanks c hc)

theorem lowerChars_append_blanks (hblanks : ∀ c ∈ blanks, isBlank c = true) :
    lowerChars before (cs ++ blanks) = lowerChars before cs ++ blanks := by
  induction cs generalizing before with
  | nil => exact lowerChars_of_blanks hblanks
  | cons c cs ih =>
      rw [List.cons_append, lowerChars_cons, lowerChars_cons, lowerAt_append_blanks hblanks, ih,
        List.append_assoc]

theorem lowerChars_blanks_append (hblanks : ∀ c ∈ blanks, isBlank c = true) :
    lowerChars before (blanks ++ cs) = blanks ++ lowerChars (blanks.reverse ++ before) cs := by
  induction blanks generalizing before with
  | nil => rfl
  | cons b blanks ih =>
      rw [List.forall_mem_cons] at hblanks
      rw [List.cons_append, lowerChars_cons, lowerAt_of_not_capital (not_capital_of_blank hblanks.1),
        ih hblanks.2]
      simp

/-- Blanks around characters stay, and the lower case of what stands between them is the same as
without them. -/
theorem lowerChars_between (hfront : ∀ c ∈ front, isBlank c = true)
    (hback : ∀ c ∈ back, isBlank c = true) :
    lowerChars [] (front ++ (core ++ back)) = front ++ (lowerChars [] core ++ back) := by
  have hreverse : ∀ c ∈ front.reverse, isBlank c = true := by simpa using hfront
  calc lowerChars [] (front ++ (core ++ back))
      = front ++ lowerChars (front.reverse ++ []) (core ++ back) := lowerChars_blanks_append hfront
    _ = front ++ (lowerChars ([] ++ front.reverse) core ++ back) := by
        rw [lowerChars_append_blanks hback, List.append_nil, List.nil_append]
    _ = front ++ (lowerChars [] core ++ back) := by rw [lowerChars_behind_blanks hreverse]

/-! ## Trimming -/

/-- Neither the first nor the last character is blank. -/
def Trimmed (cs : List Char) : Prop :=
  (∀ c ∈ cs.head?, isBlank c = false) ∧ ∀ c ∈ cs.getLast?, isBlank c = false

theorem trimFront_append (hfront : ∀ c ∈ front, isBlank c = true) (cs : List Char) :
    trimFront (front ++ cs) = trimFront cs :=
  List.dropWhile_append_of_pos hfront

theorem trimFront_of_head (h : ∀ c ∈ cs.head?, isBlank c = false) : trimFront cs = cs := by
  cases cs with
  | nil => rfl
  | cons c cs =>
      refine List.dropWhile_cons_of_neg ?_
      rw [h c rfl]
      exact Bool.false_ne_true

/-- Trimming takes away blanks, in front and behind. -/
theorem eq_append_trimChars (cs : List Char) :
    ∃ front back : List Char, (∀ c ∈ front, isBlank c = true) ∧ (∀ c ∈ back, isBlank c = true) ∧
      cs = front ++ (trimChars cs ++ back) := by
  refine ⟨cs.takeWhile isBlank, (trimFront cs).rtakeWhile isBlank, ?_, ?_, ?_⟩
  · exact fun c hc => List.mem_takeWhile_imp hc
  · exact fun c hc => List.mem_rtakeWhile_imp hc
  · have hback : trimChars cs ++ (trimFront cs).rtakeWhile isBlank = trimFront cs :=
      List.rdropWhile_append_rtakeWhile
    rw [hback]
    exact (List.takeWhile_append_dropWhile).symm

theorem trimmed_trimChars (cs : List Char) : Trimmed (trimChars cs) := by
  constructor
  · intro c hc
    -- what is left begins as it did before the blanks behind were taken away
    obtain ⟨back, hback⟩ : trimChars cs <+: trimFront cs := List.rdropWhile_prefix _ _
    refine trimFront_head cs c ?_
    rw [Option.mem_def] at hc
    rw [← hback, List.head?_append, hc]
    rfl
  · intro c hc
    refine trimFront_head (trimFront cs).reverse c ?_
    rwa [trimChars, List.getLast?_reverse] at hc

/-- Trimming leaves what stands between blanks, if it is trimmed itself. -/
theorem trimChars_between (hfront : ∀ c ∈ front, isBlank c = true)
    (hback : ∀ c ∈ back, isBlank c = true) (hcore : Trimmed core) :
    trimChars (front ++ (core ++ back)) = core := by
  have hreverse : ∀ c ∈ back.reverse, isBlank c = true := by simpa using hback
  unfold trimChars
  rw [trimFront_append hfront]
  cases core with
  | nil =>
      have hnil : trimFront back = [] := by
        rw [trimFront_eq_nil, List.all_eq_true]
        exact hback
      rw [List.nil_append, hnil]
      rfl
  | cons a as =>
      have hfirst : ∀ c ∈ (a :: as ++ back).head?, isBlank c = false := hcore.1
      have hlast : ∀ c ∈ (a :: as).reverse.head?, isBlank c = false := by
        rw [List.head?_reverse]
        exact hcore.2
      rw [trimFront_of_head hfirst, List.reverse_append, trimFront_append hreverse,
        trimFront_of_head hlast, List.reverse_reverse]

theorem lowerChars_ne_nil (h : cs ≠ []) : lowerChars before cs ≠ [] := by
  obtain ⟨c, cs, rfl⟩ := List.exists_cons_of_ne_nil h
  rw [lowerChars_cons]
  exact List.append_ne_nil_of_left_ne_nil lowerAt_ne_nil _

theorem Trimmed.lowerChars (h : Trimmed cs) : Trimmed (lowerChars before cs) := by
  constructor
  · cases cs with
    | nil => exact nofun
    | cons c cs =>
        intro d hd
        rw [lowerChars_cons, List.head?_append_of_ne_nil _ lowerAt_ne_nil] at hd
        exact isBlank_of_mem_lowerAt (h.1 c rfl) (List.mem_of_mem_head? hd)
  · -- the last character is turned into lower case behind all others, so `before` is general
    obtain ⟨-, hlast⟩ := h
    induction cs generalizing before with
    | nil => exact nofun
    | cons c cs ih =>
        intro d hd
        rw [lowerChars_cons] at hd
        by_cases hcs : cs = []
        · subst hcs
          rw [Text.lowerChars, List.append_nil] at hd
          exact isBlank_of_mem_lowerAt (hlast c rfl) (List.mem_of_mem_getLast? hd)
        · rw [List.getLast?_append_of_ne_nil _ (lowerChars_ne_nil hcs)] at hd
          rw [List.getLast?_cons_of_ne_nil hcs] at hlast
          exact ih hlast d hd

/-- It makes no difference whether the blanks around a text are taken away before or after it is
turned into lower case. -/
theorem lower_trim (s : String) : lower (trim s) = trim (lower s) := by
  obtain ⟨front, back, hfront, hback, hs⟩ := eq_append_trimChars s.toList
  have hlower : lowerChars [] s.toList =
      front ++ (lowerChars [] (trimChars s.toList) ++ back) := by
    conv_lhs => rw [hs]
    exact lowerChars_between hfront hback
  refine String.toList_injective ?_
  simp only [lower, trim, String.toList_ofList]
  rw [hlower, trimChars_between hfront hback (trimmed_trimChars _).lowerChars]

end ListenerPorts.Text
