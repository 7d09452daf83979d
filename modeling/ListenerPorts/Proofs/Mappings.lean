import ListenerPorts.Value.Keys
import ListenerPorts.Value.Text
import Mathlib.Tactic

set_option autoImplicit false

/-! # Mappings as sets of entries

No key stands twice in a mapping, so looking a name up finds exactly the entry with that key, in
whatever order the entries stand. `Value.wellKeyed` says this of every mapping inside a value, which
holds of all values that a text is read as.
-/

namespace ListenerPorts

namespace Value

mutual

/-- Whether no mapping in the value has a key twice. -/
def wellKeyed : Value → Bool
  | .list items => itemsWellKeyed items
  | .map entries => entriesWellKeyed entries
  | _ => true

/-- Whether no mapping in the items of a list has a key twice. -/
def itemsWellKeyed : List Value → Bool
  | [] => true
  | v :: vs => wellKeyed v && itemsWellKeyed vs

/-- Whether no key stands twice among the entries, nor in a mapping inside them. -/
def entriesWellKeyed : List (Value × Value) → Bool
  | [] => true
  | (k, v) :: es => (es.all fun e => !k.sameKey e.1) && wellKeyed v && entriesWellKeyed es

end

theorem itemsWellKeyed_iff (vs : List Value) :
    itemsWellKeyed vs = true ↔ ∀ v ∈ vs, v.wellKeyed = true := by
  induction vs with
  | nil => simp [itemsWellKeyed]
  | cons v vs ih => rw [itemsWellKeyed, Bool.and_eq_true, ih, List.forall_mem_cons]

theorem isNull_eq_false {v : Value} : v.isNull = false ↔ v ≠ .null := by
  cases v <;> simp [isNull]

theorem asText?_eq_some {v : Value} {s : String} : v.asText? = some s ↔ v = .text s := by
  cases v <;> simp [asText?]

theorem isText_eq_true {v : Value} : v.isText = true ↔ ∃ s, v = .text s := by
  cases v <;> simp [isText]

theorem sameKey_text (s t : String) : (Value.text s).sameKey (.text t) = (s == t) := rfl

/-- Comparing two unpacked floating-point numbers the other way round swaps the answer. -/
theorem compare_unpacked_swap (a b : Float.Model.UnpackedFloat) :
    b.compare a = (a.compare b).map Ordering.swap := by
  have hfinite : ∀ (m n : Nat) (e d : Int), (compare d e).then (compare n m) =
      ((compare e d).then (compare m n)).swap := by
    intro m n e d
    rw [Ordering.swap_then, Std.OrientedOrd.eq_swap (a := d), Std.OrientedOrd.eq_swap (a := n)]
  cases a with
  | notANumber => cases b <;> rfl
  | zero s =>
      cases b with
      | infinity t | finite t => cases t <;> rfl
      | _ => rfl
  | infinity s =>
      cases b with
      | infinity t | finite t => cases s <;> cases t <;> rfl
      | _ => cases s <;> rfl
  | finite s m e =>
      cases b with
      | infinity t => cases s <;> cases t <;> rfl
      | finite t n d =>
          cases s <;> cases t
          case positive.positive => exact congrArg some (hfinite m n e d)
          case negative.negative => exact congrArg (some ∘ Ordering.swap) (hfinite m n e d)
          all_goals rfl
      | _ => cases s <;> rfl

/-- It does not matter which one of two equal floating-point numbers comes first. -/
theorem float_beq_comm (x y : Float) : (x == y) = (y == x) := by
  show (x.toModel.unpack.compare y.toModel.unpack == some .eq) =
    (y.toModel.unpack.compare x.toModel.unpack == some .eq)
  rw [compare_unpacked_swap x.toModel.unpack y.toModel.unpack]
  rcases x.toModel.unpack.compare y.toModel.unpack with _ | (_ | _ | _) <;> rfl

/-- Being the same key does not depend on which of the two comes first. -/
theorem sameKey_comm (a b : Value) : a.sameKey b = b.sameKey a := by
  cases a <;> cases b <;> simp only [sameKey]
  case text.text => exact BEq.comm
  case date.date => exact BEq.comm
  case float.float => exact float_beq_comm _ _
  -- in all other cases the whole numbers are compared, if there are any
  all_goals grind

/-- Only the text itself is the same key as a text. -/
theorem sameKey_text_eq_true {k : Value} {s : String} :
    k.sameKey (.text s) = true ↔ k = .text s := by
  cases k with
  | text t => rw [sameKey_text, beq_iff_eq, text.injEq]
  | _ => simp [sameKey, asWhole?]

end Value

namespace Entries

variable {es es' : Entries} {name : String} {k v : Value}

/-- No key stands twice. -/
def Distinct (es : Entries) : Prop := es.Pairwise fun a b => a.1.sameKey b.1 = false

theorem distinct_of_wellKeyed (h : Value.entriesWellKeyed es = true) : es.Distinct := by
  induction es with
  | nil => exact List.Pairwise.nil
  | cons e es ih =>
      rw [Value.entriesWellKeyed, Bool.and_eq_true, Bool.and_eq_true, List.all_eq_true] at h
      obtain ⟨⟨hkey, -⟩, hrest⟩ := h
      refine List.Pairwise.cons (fun e' he' => ?_) (ih hrest)
      have hother := hkey e' he'
      rwa [Bool.not_eq_true'] at hother

theorem wellKeyed_of_mem (h : Value.entriesWellKeyed es = true) (hmem : (k, v) ∈ es) :
    v.wellKeyed = true := by
  induction es with
  | nil => cases hmem
  | cons e es ih =>
      rw [Value.entriesWellKeyed, Bool.and_eq_true, Bool.and_eq_true] at h
      obtain ⟨⟨-, hvalue⟩, hrest⟩ := h
      rcases List.mem_cons.mp hmem with rfl | hlater
      · exact hvalue
      · exact ih hrest hlater

theorem distinct_perm (h : es.Perm es') : es.Distinct ↔ es'.Distinct := by
  refine h.pairwise_iff fun {a b} hab => ?_
  rwa [Value.sameKey_comm]

/-- A mapping is well keyed if no key stands twice among its entries and all values in it are well
keyed. -/
theorem wellKeyed_iff : Value.entriesWellKeyed es = true ↔
    es.Distinct ∧ ∀ e ∈ es, e.2.wellKeyed = true := by
  induction es with
  | nil => exact iff_of_true rfl ⟨List.Pairwise.nil, List.forall_mem_nil _⟩
  | cons e es ih =>
      rw [Value.entriesWellKeyed, Bool.and_eq_true, Bool.and_eq_true, ih, List.forall_mem_cons,
        List.all_eq_true]
      unfold Distinct
      rw [List.pairwise_cons]
      simp only [Bool.not_eq_true']
      tauto

theorem Distinct.filter (h : es.Distinct) (p : Value × Value → Bool) :
    Distinct (es.filter p) :=
  List.Pairwise.filter p h

/-- A name is not found exactly when it is no key. -/
theorem get?_eq_none_iff : es.get? name = none ↔ ∀ v, (Value.text name, v) ∉ es := by
  induction es with
  | nil => simp
  | cons e es ih =>
      obtain ⟨k, w⟩ := e
      rw [get?_cons]
      split
      · rename_i hk
        rw [Value.asText?_eq_some] at hk
        subst hk
        constructor
        · intro h
          cases h
        · intro h
          exact absurd List.mem_cons_self (h w)
      · rename_i hk
        rw [Value.asText?_eq_some] at hk
        rw [ih]
        refine forall_congr' fun v => not_congr ?_
        rw [List.mem_cons, Prod.mk.injEq]
        constructor
        · exact Or.inr
        · rintro (⟨rfl, -⟩ | hmem)
          · exact absurd rfl hk
          · exact hmem

/-- What is found under a name is the value of the entry with that key. -/
theorem get?_eq_some_iff (h : es.Distinct) :
    es.get? name = some v ↔ (Value.text name, v) ∈ es := by
  refine ⟨mem_of_get?, fun hmem => ?_⟩
  induction h with
  | nil => cases hmem
  | @cons e es hkeys _ ih =>
      obtain ⟨k, w⟩ := e
      rw [get?_cons]
      rcases List.mem_cons.mp hmem with heq | hlater
      · obtain ⟨rfl, rfl⟩ := Prod.mk.inj heq
        exact if_pos rfl
      · have hother : k.asText? ≠ some name := by
          intro hk
          rw [Value.asText?_eq_some] at hk
          have hsame := hkeys _ hlater
          rw [hk, Value.sameKey_text, beq_self_eq_true] at hsame
          cases hsame
        rw [if_neg hother]
        exact ih hlater

/-- What is found under a name does not depend on the order of the entries. -/
theorem get?_perm (hes : es.Distinct) (h : es.Perm es') (name : String) :
    es'.get? name = es.get? name := by
  refine Option.ext fun v => ?_
  rw [get?_eq_some_iff ((distinct_perm h).mp hes), get?_eq_some_iff hes, h.mem_iff]

theorem ne_null_of_get?_nonNull (h : es.nonNull.get? name = some v) : v ≠ .null := by
  have hmem := mem_of_get? h
  unfold nonNull at hmem
  have hkept := (List.mem_filter.mp hmem).2
  rwa [Bool.not_eq_true', Value.isNull_eq_false] at hkept

/-- Null is as good as nothing: only an entry with another value is found among those that are not
null. -/
theorem get?_nonNull_eq_some_iff (h : es.Distinct) :
    es.nonNull.get? name = some v ↔ (Value.text name, v) ∈ es ∧ v ≠ .null := by
  unfold nonNull
  rw [get?_eq_some_iff (h.filter _), List.mem_filter, Bool.not_eq_true', Value.isNull_eq_false]

/-- Null is found under a name only before the entries that are null are dropped. -/
theorem get?_nonNull (h : es.Distinct) :
    es.nonNull.get? name = (es.get? name).filter (!·.isNull) := by
  refine Option.ext fun v => ?_
  rw [get?_nonNull_eq_some_iff h, Option.filter_eq_some_iff, get?_eq_some_iff h, Bool.not_eq_true',
    Value.isNull_eq_false]

/-! ## Entries with names -/

def named (ps : List (String × Value)) : Entries := ps.map fun p => (.text p.1, p.2)

variable {ps : List (String × Value)}

theorem mem_named : (k, v) ∈ named ps ↔ ∃ name, k = .text name ∧ (name, v) ∈ ps := by
  unfold named
  rw [List.mem_map]
  constructor
  · rintro ⟨p, hp, heq⟩
    obtain ⟨rfl, rfl⟩ := Prod.mk.inj heq
    exact ⟨p.1, rfl, hp⟩
  · rintro ⟨name, rfl, hp⟩
    exact ⟨(name, v), hp, rfl⟩

theorem distinct_named (h : (ps.map (·.1)).Nodup) : (named ps).Distinct := by
  unfold named Distinct
  rw [List.pairwise_map]
  refine (List.pairwise_map.mp h).imp fun {p q} hne => ?_
  exact beq_eq_false_iff_ne.mpr hne

/-- Among the entries that are not null, a name is found with its value unless that is null. -/
theorem get?_nonNull_named (h : (ps.map (·.1)).Nodup) (hmem : (name, v) ∈ ps) :
    (named ps).nonNull.get? name = (some v).filter (!·.isNull) := by
  rw [get?_nonNull (distinct_named h)]
  have hget : (named ps).get? name = some v :=
    (get?_eq_some_iff (distinct_named h)).mpr (mem_named.mpr ⟨name, rfl, hmem⟩)
  rw [hget]

/-! ## Known keys -/

/-- No key is unknown exactly when every key is one of the known names. -/
theorem unknownKeys_eq_nil_iff {known : List String} : es.unknownKeys known = [] ↔
    ∀ k w, (k, w) ∈ es → ∃ name ∈ known, k = .text name := by
  unfold unknownKeys
  rw [List.filter_eq_nil_iff, List.forall_mem_map]
  constructor
  · intro h k w hmem
    have hkey := h (k, w) hmem
    cases k with
    | text s => exact ⟨s, by simpa [Value.asText?] using hkey, rfl⟩
    | _ => exact absurd rfl hkey
  · intro h e hmem
    obtain ⟨name, hname, hkey⟩ := h e.1 e.2 hmem
    rw [hkey]
    simpa [Value.asText?] using hname

theorem checkKeys_eq_ok_iff {owner : String} {known : List String} :
    es.checkKeys owner known = .ok () ↔
      ∀ k w, (k, w) ∈ es → ∃ name ∈ known, k = .text name := by
  rw [← unknownKeys_eq_nil_iff, ← List.isEmpty_iff]
  unfold checkKeys
  dsimp only
  split
  · rename_i hempty
    exact iff_of_true rfl hempty
  · rename_i hunknown
    refine iff_of_false (fun h => ?_) hunknown
    split at h <;> cases h

/-! ## Setting an entry -/

/-- What is found among the entries that a condition on the values keeps. -/
theorem get?_filter_cons (p : Value → Bool) (k w : Value) (es : Entries) (name : String) :
    get? (List.filter (fun e => p e.2) ((k, w) :: es)) name =
      if p w = true ∧ k.asText? = some name then some w
      else get? (es.filter fun e => p e.2) name := by
  by_cases hw : p w = true
  · simp [hw, get?_cons]
  · simp [hw]

/-- The entry that was set is found under its name, also among the entries that such a condition
keeps. -/
theorem get?_filter_put_same (es : Entries) (name : String) {p : Value → Bool} (hv : p v = true) :
    get? ((es.put (.text name) v).filter fun e => p e.2) name = some v := by
  induction es with
  | nil => exact (get?_filter_cons p _ _ _ _).trans (if_pos ⟨hv, rfl⟩)
  | cons e es ih =>
      obtain ⟨k, w⟩ := e
      unfold put
      by_cases hk : k.sameKey (.text name) = true
      · rw [if_pos hk, get?_filter_cons, Value.sameKey_text_eq_true.mp hk]
        exact if_pos ⟨hv, rfl⟩
      · rw [if_neg hk, get?_filter_cons, ih, if_neg]
        rintro ⟨-, hname⟩
        exact hk (Value.sameKey_text_eq_true.mpr (Value.asText?_eq_some.mp hname))

/-- Under any other name the same is found as before. -/
theorem get?_filter_put_other (es : Entries) (v : Value) (p : Value → Bool) {other : String}
    (h : other ≠ name) : get? ((es.put (.text name) v).filter fun e => p e.2) other =
      get? (es.filter fun e => p e.2) other := by
  have hskip : ∀ w : Value, ¬ (p w = true ∧ (Value.text name).asText? = some other) := by
    rintro w ⟨-, hname⟩
    exact h (Option.some.inj hname).symm
  induction es with
  | nil => exact (get?_filter_cons p _ _ _ _).trans (if_neg (hskip v))
  | cons e es ih =>
      obtain ⟨k, w⟩ := e
      unfold put
      by_cases hk : k.sameKey (.text name) = true
      · rw [if_pos hk, get?_filter_cons, get?_filter_cons, Value.sameKey_text_eq_true.mp hk,
          if_neg (hskip v), if_neg (hskip w)]
      · rw [if_neg hk, get?_filter_cons, get?_filter_cons, ih]

theorem get?_put_same (es : Entries) (name : String) (v : Value) :
    (es.put (.text name) v).get? name = some v := by
  simpa using get?_filter_put_same es name (p := fun _ => true) (v := v) rfl

theorem get?_put_other (es : Entries) (v : Value) {other : String} (h : other ≠ name) :
    (es.put (.text name) v).get? other = es.get? other := by
  simpa using get?_filter_put_other es v (fun _ => true) h

theorem get?_nonNull_put_same (es : Entries) (name : String) (hv : v ≠ .null) :
    (es.put (.text name) v).nonNull.get? name = some v :=
  get?_filter_put_same es name (p := fun w => !w.isNull) (by simp [Value.isNull_eq_false.mpr hv])

theorem get?_nonNull_put_other (es : Entries) (v : Value) {other : String} (h : other ≠ name) :
    (es.put (.text name) v).nonNull.get? other = es.nonNull.get? other :=
  get?_filter_put_other es v (fun w => !w.isNull) h

/-- A known name that is set adds no unknown key. -/
theorem unknownKeys_put (es : Entries) (v : Value) {known : List String}
    (h : known.contains name = true) :
    (es.put (.text name) v).unknownKeys known = es.unknownKeys known := by
  induction es with
  | nil => simpa [put, unknownKeys, Value.asText?] using h
  | cons e es ih =>
      obtain ⟨k, w⟩ := e
      unfold put
      by_cases hk : k.sameKey (.text name) = true
      · rw [if_pos hk]
        rfl
      · rw [if_neg hk]
        unfold unknownKeys at ih ⊢
        rw [List.map_cons, List.map_cons, List.filter_cons, List.filter_cons, ih]

theorem checkKeys_put (es : Entries) (v : Value) (owner : String) {known : List String}
    (h : known.contains name = true) :
    (es.put (.text name) v).checkKeys owner known = es.checkKeys owner known := by
  unfold checkKeys
  rw [unknownKeys_put es v h]

end Entries

end ListenerPorts
