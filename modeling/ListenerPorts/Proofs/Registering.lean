import ListenerPorts.Proofs.FinderNames

set_option autoImplicit false

/-! # What registered finders are found by

Finders are offered to a registry one after the other. A finder without a name is refused, and the
registry stays as it is; any other goes under the lower case of its name, in place of a finder that
was there before. So a key has the finder that was offered last under it (`find?_offerAll`), and the
keys are kept apart.

A name is looked up in lower case as well, but without the blanks around it, which the key of a finder
keeps. A finder whose own name has no blanks around it is found by that name in any letter case. No
name at all leads to another finder (`create_padded`).
-/

namespace ListenerPorts

open Text

/-- The finder has a name, whose lower case is the key. -/
def Finder.goesUnder (key : String) (f : Finder) : Bool := !f.name.isEmpty && lower f.name == key

theorem Finder.goesUnder_iff {f : Finder} {key : String} :
    f.goesUnder key = true ↔ f.name ≠ "" ∧ lower f.name = key := by
  simp [goesUnder]

namespace Registry

variable {r : Registry} {f : Finder} {fs before after : List Finder} {key name : String}

/-! ## One finder -/

/-- The registry after a finder was offered to it: it stays as it is if the finder is refused. -/
def offer (r : Registry) (f : Finder) : Registry :=
  match r.register f with
  | .ok r' => r'
  | .error _ => r

/-- A finder is refused if it has no name. -/
theorem register_eq_error_iff {fault : Fault} :
    r.register f = .error fault ↔ f.name = "" ∧ fault = .of (.finderUnnamed f.label) := by
  unfold register
  split
  · rename_i hname
    rw [String.isEmpty_iff] at hname
    exact ⟨fun h => ⟨hname, (Except.error.inj h).symm⟩, fun ⟨_, h⟩ => congrArg _ h.symm⟩
  · rename_i hname
    rw [String.isEmpty_iff] at hname
    exact ⟨nofun, fun ⟨h, _⟩ => absurd h hname⟩

theorem offer_of_error {fault : Fault} (h : r.register f = .error fault) : r.offer f = r := by
  rw [offer, h]

/-- A finder that has a name is put under its lower case. -/
theorem offer_of_ne_empty (r : Registry) (hname : f.name ≠ "") :
    r.offer f = ⟨put r.finders (lower f.name) f⟩ := by
  have hput : r.register f = .ok ⟨put r.finders (lower f.name) f⟩ :=
    if_neg fun hempty => hname (String.isEmpty_iff.mp hempty)
  rw [offer, hput]

theorem offer_of_empty (r : Registry) (hname : f.name = "") : r.offer f = r :=
  offer_of_error (register_eq_error_iff.mpr ⟨hname, rfl⟩)

theorem find?_offer (r : Registry) (f : Finder) (key : String) :
    (r.offer f).find? key = if f.goesUnder key then some f else r.find? key := by
  by_cases hname : f.name = ""
  · rw [offer_of_empty r hname, if_neg fun h => (Finder.goesUnder_iff.mp h).1 hname]
  · rw [offer_of_ne_empty r hname]
    by_cases hkey : lower f.name = key
    · rw [if_pos (Finder.goesUnder_iff.mpr ⟨hname, hkey⟩), ← hkey]
      exact lookup_put_same _ _ _
    · rw [if_neg fun h => hkey (Finder.goesUnder_iff.mp h).2]
      exact lookup_put_other _ _ (Ne.symm hkey)

/-! ## Any number of finders -/

def offerAll (r : Registry) (fs : List Finder) : Registry := fs.foldl offer r

/-- The finder that was offered last under a key. -/
def latest (fs : List Finder) (key : String) : Option Finder :=
  fs.reverse.find? (·.goesUnder key)

theorem find?_offerAll (r : Registry) (fs : List Finder) (key : String) :
    (r.offerAll fs).find? key = (latest fs key).or (r.find? key) := by
  -- what is offered later comes first in the reversed list
  induction fs generalizing r with
  | nil => rfl
  | cons f fs ih =>
      have hstep : (r.offerAll (f :: fs)).find? key = ((r.offer f).offerAll fs).find? key := rfl
      rw [hstep, ih, find?_offer, latest, latest, List.reverse_cons, List.find?_append,
        Option.or_assoc]
      congr 1
      cases hkey : f.goesUnder key with
      | true => simp [hkey]
      | false => simp [hkey]

/-- A registry with nothing but the built-in finders is an empty one to which they were offered. -/
theorem builtIn_eq_offerAll : builtIn = offerAll ⟨[]⟩ (Strategy.all.map .builtIn) := by
  rfl

/-- All finders that were offered to a registry, those that it begins with being the first ones. -/
def offered (fs : List Finder) : List Finder := Strategy.all.map .builtIn ++ fs

theorem find?_builtIn_offerAll (fs : List Finder) (key : String) :
    (builtIn.offerAll fs).find? key = latest (offered fs) key := by
  have happend : builtIn.offerAll fs = offerAll ⟨[]⟩ (offered fs) := by
    rw [builtIn_eq_offerAll, offered, offerAll, offerAll, offerAll, List.foldl_append]
  rw [happend, find?_offerAll]
  exact Option.or_none

/-! ## Keys -/

/-- No two finders have the same key. -/
def KeysApart (r : Registry) : Prop := (r.finders.map (·.1)).Nodup

theorem mem_keys_iff : key ∈ r.finders.map (·.1) ↔ ∃ f, r.find? key = some f := by
  rw [← Option.ne_none_iff_exists']
  unfold find?
  rw [Ne, List.lookup_eq_none_iff]
  constructor
  · rintro hkey hnone
    obtain ⟨entry, hentry, rfl⟩ := List.mem_map.mp hkey
    simpa using hnone entry hentry
  · intro hsome
    by_contra hkey
    refine hsome fun entry hentry => ?_
    rw [bne_iff_ne]
    rintro rfl
    exact hkey (List.mem_map_of_mem hentry)

theorem mem_names_iff : key ∈ r.names ↔ ∃ f, r.find? key = some f := by
  rw [← mem_keys_iff]
  exact (perm_sortNames _).mem_iff

theorem map_fst_put (entries : List (String × Finder)) (key : String) (f : Finder) :
    (put entries key f).map (·.1) =
      if key ∈ entries.map (·.1) then entries.map (·.1) else entries.map (·.1) ++ [key] := by
  induction entries with
  | nil => rfl
  | cons entry entries ih =>
      obtain ⟨k, g⟩ := entry
      by_cases hkey : k = key
      · simp [put, hkey]
      · have hother : ¬ key = k := Ne.symm hkey
        simp only [put, if_neg hkey, List.map_cons, ih, List.mem_cons, hother, false_or]
        split_ifs <;> rfl

theorem KeysApart.offer (h : r.KeysApart) (f : Finder) : (r.offer f).KeysApart := by
  by_cases hname : f.name = ""
  · rw [offer_of_empty r hname]
    exact h
  · rw [offer_of_ne_empty r hname, KeysApart, map_fst_put]
    split_ifs with hkey
    · exact h
    · -- the key comes last, and it is a new one
      refine List.nodup_append.mpr ⟨h, List.nodup_singleton _, ?_⟩
      rintro k hk other hother rfl
      exact hkey (List.mem_singleton.mp hother ▸ hk)

theorem KeysApart.offerAll (h : r.KeysApart) (fs : List Finder) : (r.offerAll fs).KeysApart := by
  induction fs generalizing r with
  | nil => exact h
  | cons f fs ih => exact ih (h.offer f)

/-- The names of a registry are in ascending order, each once. -/
theorem KeysApart.names_ascending (h : r.KeysApart) : r.names.Pairwise (· < ·) :=
  pairwise_lt_sortNames h

/-! ## Names -/

theorem lower_eq_empty_iff : lower name = "" ↔ name = "" := by
  constructor
  · intro h
    by_contra hname
    have hchars : name.toList ≠ [] := fun hnil => hname (String.toList_eq_nil_iff.mp hnil)
    have hlower : lowerChars [] name.toList ≠ [] := lowerChars_ne_nil hchars
    have hnil := congrArg String.toList h
    rw [lower, String.toList_ofList] at hnil
    exact hlower hnil
  · rintro rfl
    rfl

/-- A name that is not empty selects the finder under its lower case without the blanks around it. -/
theorem create_of_ne_empty (r : Registry) (hname : name ≠ "") :
    r.create (.text name) = match r.find? (trim (lower name)) with
      | some f => .ok f
      | none => fail (.finderUnknown name r.names) := by
  rw [create_text, if_neg hname, ← keyOf_eq_trim_lower]
  rfl

/-- The finder that was offered last under a key is the one behind which none was. -/
theorem latest_eq_some_of_last (hkey : f.goesUnder key = true)
    (hlast : ∀ g ∈ after, g.goesUnder key = false) :
    latest (before ++ f :: after) key = some f := by
  unfold latest
  rw [List.find?_eq_some_iff_append]
  refine ⟨hkey, after.reverse, before.reverse, by simp, ?_⟩
  simpa using hlast

theorem exists_latest (hf : f ∈ fs) (hkey : f.goesUnder key = true) :
    ∃ g, latest fs key = some g := by
  rw [← Option.isSome_iff_exists, latest, List.find?_isSome]
  exact ⟨f, List.mem_reverse.mpr hf, hkey⟩

theorem create_of_latest (hname : name ≠ "") (htrim : trim (lower name) = key)
    (hlatest : latest (offered fs) key = some f) :
    (builtIn.offerAll fs).create (.text name) = .ok f := by
  rw [create_of_ne_empty _ hname, htrim, find?_builtIn_offerAll, hlatest]

/-- **Registered finders are found by their names, unless there are blanks around these.** Let any
finders be offered to a registry that begins with the built-in ones. The names that it lists ascend,
each stands there once, and those of the built-in finders are among them. A finder is refused only if
it has no name, and then the registry stays as it is. Every listed name has the finder that was
offered last under it, and selects it if there are no blanks around the name. A finder without blanks
around its name that was not replaced later is selected by that name in any letter case. In general, a
name selects what was offered last under its lower case without the blanks around it. -/
theorem offerAll_reachable (fs : List Finder) :
    (builtIn.offerAll fs).names.Pairwise (· < ·) ∧
    (∀ strategy : Strategy, strategy.name ∈ (builtIn.offerAll fs).names) ∧
    (∀ f fault, (builtIn.offerAll fs).register f = .error fault →
      f.name = "" ∧ (builtIn.offerAll fs).offer f = builtIn.offerAll fs) ∧
    (∀ key ∈ (builtIn.offerAll fs).names, ∃ f, latest (offered fs) key = some f ∧
      (trim key = key → (builtIn.offerAll fs).create (.text key) = .ok f)) ∧
    (∀ before f after, offered fs = before ++ f :: after → f.name ≠ "" →
      (∀ g ∈ after, g.goesUnder (lower f.name) = false) → trim f.name = f.name →
      ∀ name, lower name = lower f.name →
        (builtIn.offerAll fs).create (.text name) = .ok f) ∧
    ∀ name, name ≠ "" → (builtIn.offerAll fs).create (.text name) =
      match latest (offered fs) (trim (lower name)) with
      | some f => .ok f
      | none => fail (.finderUnknown name (builtIn.offerAll fs).names) := by
  have happart : builtIn.KeysApart := by
    unfold KeysApart
    decide
  refine ⟨(happart.offerAll fs).names_ascending, ?_, ?_, ?_, ?_, ?_⟩
  · intro strategy
    have hmem : Finder.builtIn strategy ∈ offered fs :=
      List.mem_append_left _ (List.mem_map_of_mem strategy.mem_all)
    have hkey : (Finder.builtIn strategy).goesUnder strategy.name = true := by
      cases strategy <;> decide
    rw [mem_names_iff, find?_builtIn_offerAll]
    exact exists_latest hmem hkey
  · intro f fault h
    exact ⟨(register_eq_error_iff.mp h).1, offer_of_error h⟩
  · intro key hkey
    rw [mem_names_iff, find?_builtIn_offerAll] at hkey
    obtain ⟨f, hlatest⟩ := hkey
    refine ⟨f, hlatest, fun htrim => ?_⟩
    -- the key is the lower case of a name, so it is not empty and its own lower case
    obtain ⟨hname, rfl⟩ := Finder.goesUnder_iff.mp (List.find?_some hlatest)
    refine create_of_latest (mt lower_eq_empty_iff.mp hname) ?_ hlatest
    rw [lower_lower, htrim]
  · intro before f after hoffered hname hlast htrim name hlower
    have hne : name ≠ "" := by
      rwa [Ne, ← lower_eq_empty_iff, hlower, lower_eq_empty_iff]
    refine create_of_latest hne ?_ (hoffered ▸ latest_eq_some_of_last ?_ hlast)
    · rw [hlower, ← lower_trim, htrim]
    · exact Finder.goesUnder_iff.mpr ⟨hname, rfl⟩
  · intro name hname
    rw [create_of_ne_empty _ hname, find?_builtIn_offerAll]

/-- A finder that calls itself by a capital is selected by capitals. -/
theorem offerAll_reachable_capitals :
    let f : Finder := .custom "FixedFreePortFinder" "Größe" .incrementing
    lower "GRÖßE" = lower f.name ∧ (builtIn.offerAll [f]).create (.text "GRÖßE") = .ok f := by
  intro f
  have hname : f.name ≠ "" := by decide
  have hlower : lower "GRÖßE" = lower f.name := by decide +kernel
  have htrim : trim f.name = f.name := by decide +kernel
  obtain ⟨-, -, -, -, hfound, -⟩ := offerAll_reachable [f]
  refine ⟨hlower, ?_⟩
  exact hfound (Strategy.all.map .builtIn) f [] rfl hname (List.forall_mem_nil _) htrim _ hlower

/-- A finder whose name has blanks around it is listed under that name, but the name does not select
it. -/
theorem create_padded :
    let f : Finder := .custom "PaddedFreePortFinder" " padded " .random
    " padded " ∈ (builtIn.offerAll [f]).names ∧ latest (offered [f]) " padded " = some f ∧
      (builtIn.offerAll [f]).create (.text " padded ") = .error (.configuration
        (.finderUnknown " padded " [" padded ", "adjacent", "incrementing", "random"])) := by
  intro f
  have hnames : (builtIn.offerAll [f]).names =
      [" padded ", "adjacent", "incrementing", "random"] := by decide +kernel
  have hnone : (builtIn.offerAll [f]).find? (trim (lower " padded ")) = none := by decide +kernel
  refine ⟨by rw [hnames]; exact List.mem_cons_self, by decide +kernel, ?_⟩
  rw [create_of_ne_empty _ (by decide), hnone, hnames]
  rfl

end Registry

end ListenerPorts
