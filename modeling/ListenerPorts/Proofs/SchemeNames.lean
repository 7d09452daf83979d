import ListenerPorts.Connector
import Mathlib.Tactic

set_option autoImplicit false

/-! # Values that name a scheme

A connector gives its type by any value, and the lower case of its plain form is looked up. Only a
text can name a scheme in this way: the plain form of every other value starts with a character
whose lower case is not the first letter of a scheme.
-/

namespace ListenerPorts

namespace Text

/-- The character is one of ASCII, and is not the first letter of a scheme in either case. -/
def Apart (c : Char) : Prop := c.toNat < 0x80 ∧ c.toLower ≠ 'h'

instance (c : Char) : Decidable (Apart c) := inferInstanceAs (Decidable (_ ∧ _))

/-- The text does not start like the name of a scheme. -/
def StartsApart (s : String) : Prop := ∀ c ∈ s.toList.head?, Apart c

-- looks at the first character only, and not through all characters
instance (s : String) : Decidable (StartsApart s) := s.toList.head?.decidableForallMem

theorem startsApart_ofList {cs : List Char} (h : ∀ c ∈ cs.head?, Apart c) :
    StartsApart (String.ofList cs) := by
  intro c hc
  rw [String.toList_ofList] at hc
  exact h c hc

theorem StartsApart.append {s t : String} (hs : StartsApart s) (ht : StartsApart t) :
    StartsApart (s ++ t) := by
  intro c hc
  rw [String.toList_append, List.head?_append, Option.mem_def, Option.or_eq_some_iff] at hc
  rcases hc with hc | ⟨-, hc⟩
  · exact hs c hc
  · exact ht c hc

/-- What starts a text that is not empty goes on starting it. -/
theorem startsApart_append_of_ne {s : String} (hs : StartsApart s) (hne : s.toList ≠ [])
    (t : String) : StartsApart (s ++ t) := by
  intro c hc
  rw [String.toList_append, List.head?_append_of_ne_nil _ hne] at hc
  exact hs c hc

/-- A text that starts like no scheme names none, whatever follows. -/
theorem lower_ne_of_startsApart {s : String} (h : StartsApart s) (scheme : Scheme) :
    lower s ≠ scheme.name := by
  intro heq
  have hlist : lowerChars [] s.toList = scheme.name.toList := by
    rw [← heq, lower, String.toList_ofList]
  cases hs : s.toList with
  | nil =>
      rw [hs] at hlist
      cases scheme <;> exact absurd hlist (by decide)
  | cons c cs =>
      obtain ⟨hascii, hne⟩ := h c (by rw [hs]; rfl)
      -- no character of ASCII has a lower case of its own kind
      have hsigma : c ≠ 'Σ' := by
        rintro rfl
        exact absurd hascii (by decide)
      have hdot : c ≠ 'İ' := by
        rintro rfl
        exact absurd hascii (by decide)
      rw [hs, lowerChars] at hlist
      simp only [if_neg hsigma, if_neg hdot] at hlist
      have hhead : lowerChar c = 'h' := by
        have hfirst := congrArg List.head? hlist
        cases scheme <;> simpa [Scheme.name] using hfirst
      rw [lowerChar, if_pos hascii] at hhead
      exact hne hhead

/-! ## Numbers and dates -/

theorem apart_of_isDigit {c : Char} (h : c.isDigit = true) : Apart c := by
  obtain ⟨hlow, hhigh⟩ := Char.isDigit_iff_toNat.mp h
  have hall : ∀ n ∈ List.range' 48 10, Apart (Char.ofNat n) := by decide
  have hc := hall c.toNat <| by
    rw [List.mem_range'_1]
    have h0 : '0'.toNat = 48 := rfl
    have h9 : '9'.toNat = 57 := rfl
    omega
  rwa [Char.ofNat_toNat] at hc

theorem isDigit_of_mem_toString {n : Nat} {c : Char} (h : c ∈ (toString n).toList) :
    c.isDigit = true := by
  rw [Nat.toString_eq_repr, Nat.toList_repr] at h
  exact Nat.isDigit_of_mem_toDigits (by decide) (by decide) h

theorem startsApart_nat (n : Nat) : StartsApart (toString n) := by
  intro c hc
  exact apart_of_isDigit (isDigit_of_mem_toString (List.mem_of_mem_head? hc))

theorem startsApart_int (n : Int) : StartsApart (toString n) := by
  rw [Int.toString_eq_repr, Int.repr_eq_if]
  split
  · exact startsApart_nat _
  · exact StartsApart.append (by decide) (startsApart_nat _)

theorem startsApart_exponent (e : Int) : StartsApart (Numeral.exponentText e) := by
  unfold Numeral.exponentText
  refine StartsApart.append ?_ ?_
  · split
    · decide
    · decide
  · split
    · exact StartsApart.append (by decide) (startsApart_nat _)
    · exact startsApart_nat _

/-- Digits with a point or an exponent among them start with a digit. -/
theorem startsApart_layout {digits : List Char} (h : ∀ c ∈ digits, c.isDigit = true) (point : Int) :
    StartsApart (Numeral.layout digits point) := by
  have hdigits : ∀ cs : List Char, (∀ c ∈ cs, c ∈ digits ∨ c = '0' ∨ c = '.') →
      StartsApart (String.ofList cs) := by
    intro cs hcs
    refine startsApart_ofList fun c hc => ?_
    rcases hcs c (List.mem_of_mem_head? hc) with hmem | rfl | rfl
    · exact apart_of_isDigit (h c hmem)
    · decide
    · decide
  unfold Numeral.layout
  split
  · split
    · refine StartsApart.append (by decide) (hdigits _ fun c hc => ?_)
      rcases List.mem_append.mp hc with hc | hc
      · exact Or.inr (Or.inl (List.eq_of_mem_replicate hc))
      · exact Or.inl hc
    · split
      · refine hdigits _ fun c hc => ?_
        rcases List.mem_append.mp hc with hc | hc
        · exact Or.inl (List.mem_of_mem_take hc)
        · rcases List.mem_cons.mp hc with rfl | hc
          · exact Or.inr (Or.inr rfl)
          · exact Or.inl (List.mem_of_mem_drop hc)
      · refine StartsApart.append (hdigits _ fun c hc => ?_) (by decide)
        rcases List.mem_append.mp hc with hc | hc
        · exact Or.inl hc
        · exact Or.inr (Or.inl (List.eq_of_mem_replicate hc))
  · split
    · refine StartsApart.append (startsApart_ofList ?_) (startsApart_exponent _)
      rintro c ⟨⟩
      exact apart_of_isDigit (h _ List.mem_cons_self)
    · refine StartsApart.append (startsApart_ofList ?_) (startsApart_exponent _)
      rintro c ⟨⟩
      exact apart_of_isDigit (h _ List.mem_cons_self)
    · decide

theorem startsApart_float (x : Float) : StartsApart (Numeral.floatText x) := by
  have hsign : StartsApart (if x.toBits >>> 63 == 0 then "" else "-") := by
    split
    · decide
    · decide
  unfold Numeral.floatText
  split
  · decide
  · dsimp only
    split
    · exact hsign.append (by decide)
    · split
      · exact hsign.append (by decide)
      · exact hsign.append (startsApart_layout (fun c hc => isDigit_of_mem_toString hc) _)

theorem startsApart_padded (width n : Nat) : StartsApart (padded width n) := by
  refine StartsApart.append (startsApart_ofList fun c hc => ?_) (startsApart_nat n)
  rw [List.eq_of_mem_replicate (List.mem_of_mem_head? hc)]
  decide

end Text

namespace Value

open Text

/-- The plain form of a value that is no text does not start like the name of a scheme. -/
theorem startsApart_plain {v : Value} (h : v.isText = false) : StartsApart v.plain := by
  cases v with
  | text s => cases h
  | int n => exact startsApart_int n
  | float x => exact startsApart_float x
  | date d =>
      have hyear := (startsApart_padded 4 d.year).append (t := "-") (by decide)
      have hmonth := (hyear.append (startsApart_padded 2 d.month)).append (t := "-") (by decide)
      exact hmonth.append (startsApart_padded 2 d.day)
  | bool b => cases b <;> decide
  | null => decide
  | list items =>
      exact (startsApart_append_of_ne (s := "[") (by decide) (by decide) _).append (by decide)
  | map entries =>
      exact (startsApart_append_of_ne (s := "\x7b") (by decide) (by decide) _).append (by decide)

/-- Only a text names a scheme. -/
theorem eq_text_of_lower_plain {v : Value} {scheme : Scheme}
    (h : lower v.plain = scheme.name) : ∃ s, v = .text s ∧ lower s = scheme.name := by
  cases htext : v.isText with
  | false => exact absurd h (lower_ne_of_startsApart (startsApart_plain htext) scheme)
  | true =>
      cases v with
      | text s => exact ⟨s, rfl, h⟩
      | _ => cases htext

end Value

end ListenerPorts
