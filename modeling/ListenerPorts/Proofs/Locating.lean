import ListenerPorts.Config.Loader
import ListenerPorts.Proofs.Recording

set_option autoImplicit false

/-! # Where a configuration is found

A name that is no file itself is looked for in the search paths, less the suffix it may have. The
first search path that has a file for this base name settles the search (`stop?_of_first`), and there
it is the first suffix with a file that counts, whatever suffix was asked for. So a file is found by
its own name only if its folder holds no file with the same base name and an earlier suffix. A path
that cannot be looked at ends a search as well, but with a fault.
-/

namespace ListenerPorts

variable {σ : Type}

open Run

/-! ## Paths that differ in a suffix -/

namespace Path

theorem splitSlashes_of_notMem {cs : List Char} (h : '/' ∉ cs) (current : List Char) :
    splitSlashes current cs = [String.ofList (current.reverse ++ cs)] := by
  induction cs generalizing current with
  | nil => rw [splitSlashes, List.append_nil]
  | cons c cs ih =>
      rw [List.mem_cons, not_or] at h
      rw [splitSlashes, if_neg (Ne.symm h.1), ih h.2, List.reverse_cons, List.append_assoc,
        List.singleton_append]

/-- A name without a slash leads from the current directory to itself. -/
theorem ofText_of_notMem {s : String} (hslash : '/' ∉ s.toList) (hname : isName s = true) :
    ofText s = ⟨.here, [s]⟩ := by
  have hstart : Start.ofChars s.toList = .here := by
    unfold Start.ofChars
    split <;> simp_all
  rw [ofText, hstart, splitSlashes_of_notMem hslash, List.reverse_nil, List.nil_append,
    String.ofList_toList, List.filter_cons_of_pos hname, List.filter_nil]

/-- What follows the last slash goes on with what is appended, if there is no slash in that. -/
theorem splitSlashes_append (cs current : List Char) :
    ∃ init last, ∀ tail : List Char, '/' ∉ tail →
      splitSlashes current (cs ++ tail) = init ++ [String.ofList (last ++ tail)] := by
  -- the text since the last slash is carried along in reverse, so it is general in the induction
  induction cs generalizing current with
  | nil => exact ⟨[], current.reverse, fun tail htail => splitSlashes_of_notMem htail current⟩
  | cons c cs ih =>
      by_cases hslash : c = '/'
      · obtain ⟨init, last, hsplit⟩ := ih []
        refine ⟨String.ofList current.reverse :: init, last, fun tail htail => ?_⟩
        rw [List.cons_append, splitSlashes, if_pos hslash, hsplit tail htail, List.cons_append]
      · obtain ⟨init, last, hsplit⟩ := ih (c :: current)
        refine ⟨init, last, fun tail htail => ?_⟩
        rw [List.cons_append, splitSlashes, if_neg hslash, hsplit tail htail]

/-- The last name of a path ends with what is appended to its text. -/
theorem getLast?_names_ofText_append (base : String) :
    ∃ last : List Char, ∀ tail : String, '/' ∉ tail.toList → 2 ≤ tail.toList.length →
      (ofText (base ++ tail)).names.getLast? = some (String.ofList (last ++ tail.toList)) := by
  obtain ⟨init, last, hsplit⟩ := splitSlashes_append base.toList []
  refine ⟨last, fun tail htail hlength => ?_⟩
  have hname : isName (String.ofList (last ++ tail.toList)) = true := by
    -- a name of two characters or more says something
    have hlong : ∀ s : String, s.toList.length < 2 → String.ofList (last ++ tail.toList) ≠ s := by
      rintro s hs rfl
      rw [String.toList_ofList, List.length_append] at hs
      omega
    unfold isName
    rw [Bool.and_eq_true, decide_eq_true_eq, decide_eq_true_eq]
    exact ⟨hlong "" (by decide), hlong "." (by decide)⟩
  rw [ofText, String.toList_append, hsplit _ htail, List.filter_append,
    List.filter_cons_of_pos hname, List.filter_nil, List.getLast?_concat]

theorem getLast?_names_append (p : Path) {q : Path} (h : q.names ≠ []) :
    (p ++ q).names.getLast? = q.names.getLast? := by
  by_cases hstart : q.start = .here
  · rw [append_of_here p hstart]
    exact List.getLast?_append_of_ne_nil _ h
  · rw [append_of_ne_here p hstart]

end Path

/-! ## Where a search ends -/

namespace Files

variable {files : Files} {p : Path}

theorem has_congr {files' : Files} (h : files' p = files p) : files'.has p = files.has p := by
  unfold has
  rw [h]

/-- Whether there is no file at a path, so that a search goes on behind it. -/
def isVacant (files : Files) (p : Path) : Bool :=
  match files p with
  | .nothing => true
  | _ => false

theorem has_eq_false_iff : files.has p = .ok false ↔ files.isVacant p = true := by
  unfold has isVacant
  cases files p <;> simp

theorem has_ne_false_iff : files.has p ≠ .ok false ↔ files.isVacant p = false := by
  rw [Ne, has_eq_false_iff, Bool.not_eq_true]

theorem isVacant_of_has (h : files.has p = .ok true) : files.isVacant p = false := by
  rw [← has_ne_false_iff, h]
  nofun

/-- What is found where a search ends: the path, if it can be looked at. -/
def found (files : Files) : Option Path → Except Fault (Option Path)
  | none => .ok none
  | some p => (files.has p).map fun _ => some p

/-- A search through paths ends at the first one that is not vacant. -/
theorem findM?_has (files : Files) (places : List Path) :
    places.findM? files.has = files.found (places.find? fun p => !files.isVacant p) := by
  -- behind a vacant place the search goes on, at any other one it ends, with a file or a fault
  induction places with
  | nil => rfl
  | cons p places ih =>
      rw [List.find?_cons]
      cases hvacant : files.isVacant p with
      | true =>
          show files.has p >>= _ = _
          rw [has_eq_false_iff.mpr hvacant]
          exact ih
      | false =>
          show files.has p >>= _ = (files.has p).map _
          cases hlook : files.has p with
          | error f => rfl
          | ok here =>
              cases here with
              | true => rfl
              | false => exact absurd hlook (has_ne_false_iff.mpr hvacant)

theorem found_eq_some_iff {stop? : Option Path} :
    files.found stop? = .ok (some p) ↔ stop? = some p ∧ ∃ b, files.has p = .ok b := by
  cases stop? with
  | none => exact iff_of_false nofun nofun
  | some q =>
      constructor
      · intro h
        cases hlook : files.has q with
        | error f => simp [found, hlook, Except.map] at h
        | ok b =>
            have hsame : q = p := by simpa [found, hlook, Except.map] using h
            exact ⟨congrArg some hsame, b, hsame ▸ hlook⟩
      · rintro ⟨⟨⟩, b, hlook⟩
        simp [found, hlook, Except.map]

theorem found_eq_none_iff {stop? : Option Path} : files.found stop? = .ok none ↔ stop? = none := by
  cases stop? with
  | none => exact iff_of_true rfl rfl
  | some q =>
      refine iff_of_false ?_ nofun
      cases hlook : files.has q <;> simp [found, hlook, Except.map]

theorem found_eq_error_iff {stop? : Option Path} {f : Fault} :
    files.found stop? = .error f ↔ ∃ p, stop? = some p ∧ files.has p = .error f := by
  cases stop? with
  | none => exact iff_of_false nofun nofun
  | some q => cases hlook : files.has q <;> simp [found, hlook, Except.map]

end Files

namespace Loader

variable {loader : Loader} {files : Files} {name base suffix : String} {p path : Path}
  {before after : List Path}

/-! ## Names and suffixes -/

/-- A suffix that is tried has no slash, and it is more than a dot. -/
theorem of_mem_suffixes (h : suffix ∈ suffixes) :
    '/' ∉ suffix.toList ∧ 2 ≤ suffix.toList.length := by
  have hall : ∀ suffix ∈ suffixes, '/' ∉ suffix.toList ∧ 2 ≤ suffix.toList.length := by decide
  exact hall suffix h

/-- Different suffixes make different paths. -/
theorem suffix_unique {e : String} (he : e ∈ suffixes) (hsuffix : suffix ∈ suffixes)
    (h : p ++ Path.ofText (base ++ e) = p ++ Path.ofText (base ++ suffix)) : e = suffix := by
  obtain ⟨last, hlast⟩ := Path.getLast?_names_ofText_append base
  have hends : ∀ {e : String}, e ∈ suffixes →
      (p ++ Path.ofText (base ++ e)).names.getLast? = some (String.ofList (last ++ e.toList)) := by
    intro e he
    have hnames := hlast e (of_mem_suffixes he).1 (of_mem_suffixes he).2
    rw [Path.getLast?_names_append p, hnames]
    intro hnil
    rw [hnil] at hnames
    cases hnames
  have hsame := hends he
  rw [h, hends hsuffix, Option.some_inj, String.ofList_inj] at hsame
  exact (String.toList_injective (List.append_cancel_left hsame)).symm

theorem cutSuffix?_eq_some_iff : cutSuffix? name suffix = some base ↔ name = base ++ suffix := by
  unfold cutSuffix?
  rw [← String.toList_inj, String.toList_append]
  constructor
  · intro h
    split at h
    · rename_i hends
      cases h
      obtain ⟨start, hstart⟩ := List.isSuffixOf_iff_suffix.mp hends
      rw [String.toList_ofList, ← hstart, List.length_append, Nat.add_sub_cancel,
        List.take_left]
    · cases h
  · intro h
    have hends : suffix.toList.isSuffixOf name.toList = true :=
      List.isSuffixOf_iff_suffix.mpr ⟨base.toList, h.symm⟩
    rw [if_pos hends, h, List.length_append, Nat.add_sub_cancel, List.take_left,
      String.ofList_toList]

/-- No two suffixes end the same name. -/
theorem suffix_eq_of_append {b b' e e' : String} (he : e ∈ suffixes) (he' : e' ∈ suffixes)
    (h : b ++ e = b' ++ e') : e = e' := by
  have hall : ∀ e ∈ suffixes, ∀ e' ∈ suffixes, e.toList <:+ e'.toList → e = e' := by decide
  have hchars : b.toList ++ e.toList = b'.toList ++ e'.toList := by
    rw [← String.toList_append, ← String.toList_append, h]
  rcases List.suffix_or_suffix_of_suffix ⟨b.toList, rfl⟩ ⟨b'.toList, hchars.symm⟩ with hends | hends
  · exact hall e he e' he' hends
  · exact (hall e' he' e he hends).symm

/-- A name with a suffix has what stands before it as its base name. -/
theorem baseName_append (base : String) (h : suffix ∈ suffixes) :
    baseName (base ++ suffix) = base := by
  unfold baseName
  cases hcut : suffixes.findSome? (cutSuffix? (base ++ suffix)) with
  | none =>
      have hnone := List.findSome?_eq_none_iff.mp hcut suffix h
      rw [cutSuffix?_eq_some_iff.mpr rfl] at hnone
      cases hnone
  | some base' =>
      obtain ⟨e, he, hcut⟩ := List.exists_of_findSome?_eq_some hcut
      have hname := cutSuffix?_eq_some_iff.mp hcut
      rw [suffix_eq_of_append h he hname] at hname
      exact (String.append_left_inj _).mp hname.symm

/-! ## Finding and loading -/

/-- The file for a name: the one at this path, or else the first one that a search comes upon. -/
def located (loader : Loader) (files : Files) (name : String) : Except Fault (Option Path) :=
  (loader.places name).findM? files.has

/-- Where the search for a name ends, if it does. -/
def stop? (loader : Loader) (files : Files) (name : String) : Option Path :=
  (loader.candidates name).find? fun p => !files.isVacant p

theorem located_of_vacant (h : files.has (.ofText name) = .ok false) :
    loader.located files name = files.found (loader.stop? files name) := by
  rw [stop?, ← Files.findM?_has]
  show files.has (.ofText name) >>= _ = _
  rw [h]
  rfl

theorem located_of_file (h : files.has (.ofText name) = .ok true) :
    loader.located files name = .ok (some (.ofText name)) := by
  show files.has (.ofText name) >>= _ = _
  rw [h]
  rfl

theorem located_of_error {f : Fault} (h : files.has (.ofText name) = .error f) :
    loader.located files name = .error f := by
  show files.has (.ofText name) >>= _ = _
  rw [h]
  rfl

/-- What was located is a file. -/
theorem has_of_located (h : loader.located files name = .ok (some path)) :
    files.has path = .ok true := by
  rw [located, Files.findM?_has, Files.found_eq_some_iff] at h
  obtain ⟨hstop, b, hlook⟩ := h
  -- the search does not end where there is nothing
  cases b with
  | true => exact hlook
  | false =>
      have hseen := List.find?_some hstop
      rw [Files.has_eq_false_iff.mp hlook] at hseen
      cases hseen

/-- The search fails only where the operating system refuses. -/
theorem eq_of_located_error {f : Fault} (h : loader.located files name = .error f) :
    f = .fileRefused := by
  rw [located, Files.findM?_has, Files.found_eq_error_iff] at h
  obtain ⟨p, -, hlook⟩ := h
  unfold Files.has at hlook
  split at hlook <;> cases hlook
  rfl

/-- What loading ends with: the configuration in the file for the name. -/
def loaded (loader : Loader) (readers : Readers) (files : Files) (name : String) :
    Except Fault Loaded := do
  match ← loader.located files name with
  | none => throw (.noSuchFile name (loader.searchPaths.map Path.text))
  | some path => return ⟨path, ← readFile readers files path⟩

theorem ends_find (loader : Loader) (files : Files) (name : String) (w : World σ) :
    ends (loader.find files name) w = loader.located files name := by
  have hlocated : loader.located files name = files.has (.ofText name) >>= fun here =>
      match here with
      | true => .ok (some (.ofText name))
      | false => loader.search files name := rfl
  rw [hlocated]
  unfold Loader.find
  cases files.has (.ofText name) with
  | error f => rfl
  | ok here =>
      cases here with
      | true => rfl
      | false =>
          show ends (lift (loader.search files name) >>= _) w = loader.search files name
          cases loader.search files name with
          | error f => rfl
          | ok path? => cases path? <;> rfl

theorem ends_load (loader : Loader) (readers : Readers) (files : Files) (name : String)
    (w : World σ) : ends (loader.load readers files name) w = loader.loaded readers files name := by
  have hfind := ends_find loader files name w
  unfold loaded
  cases hlocated : loader.located files name with
  | error f =>
      rw [hlocated] at hfind
      unfold ends load
      rw [bind_of_ends_error hfind]
      rfl
  | ok path? =>
      rw [hlocated] at hfind
      unfold ends load
      rw [bind_of_ends_ok hfind]
      cases path? with
      | none => rfl
      | some path =>
          show _ = readFile readers files path >>= fun c => .ok (Loaded.mk path c)
          dsimp only
          cases readFile readers files path <;> rfl

/-! ## The first file -/

/-- The suffix with which a search for a base name ends in a search path: the first one that has a
file there, unless an earlier one cannot be looked at. -/
def suffixIn? (files : Files) (base : String) (p : Path) : Option String :=
  suffixes.find? fun e => !files.isVacant (p ++ .ofText (base ++ e))

/-- A search goes through the search paths, and in each of them through the suffixes. -/
theorem stop?_eq_findSome? (loader : Loader) (files : Files) (name : String) :
    loader.stop? files name = loader.searchPaths.findSome? fun p =>
      (suffixIn? files (baseName name) p).map fun e => p ++ .ofText (baseName name ++ e) := by
  unfold stop? candidates suffixIn?
  rw [List.find?_flatMap]
  simp only [List.find?_map, Function.comp_def]

/-- The first search path that has a file settles the search. -/
theorem stop?_of_first {e : String} (hpaths : loader.searchPaths = before ++ p :: after)
    (hbefore : ∀ q ∈ before, suffixIn? files (baseName name) q = none)
    (hfirst : suffixIn? files (baseName name) p = some e) :
    loader.stop? files name = some (p ++ .ofText (baseName name ++ e)) := by
  have hnone : (before.findSome? fun q => (suffixIn? files (baseName name) q).map fun e =>
      q ++ Path.ofText (baseName name ++ e)) = none := by
    rw [List.findSome?_eq_none_iff]
    intro q hq
    rw [hbefore q hq, Option.map_none]
  rw [stop?_eq_findSome?, hpaths, List.findSome?_append, hnone, Option.none_or,
    List.findSome?_cons, hfirst, Option.map_some]

/-- A suffix at which a search may end is the one at which it ends if it may at no earlier one. -/
theorem find?_eq_some_self_iff {es : List String} {ends : String → Bool} (hmem : suffix ∈ es)
    (hends : ends suffix = true) :
    es.find? ends = some suffix ↔ ∀ e ∈ es.takeWhile (· ≠ suffix), ends e = false := by
  induction es with
  | nil => cases hmem
  | cons e es ih =>
      by_cases hsame : e = suffix
      · subst hsame
        simp [hends]
      · have hrest := ih ((List.mem_cons.mp hmem).resolve_left (Ne.symm hsame))
        rw [List.takeWhile_cons_of_pos (by simpa using hsame), List.forall_mem_cons]
        cases hearlier : ends e with
        | true => simp [hearlier, hsame]
        | false => simpa [hearlier] using hrest

/-- At the suffix that counts there is something, and at no earlier one there is a file. -/
theorem suffixIn?_eq_some_iff {e : String} : suffixIn? files base p = some e ↔
    e ∈ suffixes ∧ files.has (p ++ .ofText (base ++ e)) ≠ .ok false ∧
      ∀ e' ∈ suffixes.takeWhile (· ≠ e), files.has (p ++ .ofText (base ++ e')) = .ok false := by
  simp only [Files.has_ne_false_iff, Files.has_eq_false_iff]
  constructor
  · intro hfirst
    have he : e ∈ suffixes := List.mem_of_find?_eq_some hfirst
    have hseen := List.find?_some hfirst
    have hearlier := (find?_eq_some_self_iff he hseen).mp hfirst
    exact ⟨he, by simpa using hseen, fun e' he' => by simpa using hearlier e' he'⟩
  · rintro ⟨he, hseen, hearlier⟩
    refine (find?_eq_some_self_iff he (by simpa using hseen)).mpr fun e' he' => ?_
    rw [hearlier e' he']
    rfl

/-- **The first suffix with a file counts.** Let a name with a suffix be no file itself, and let a
search path have a file of that name, while the search paths before it have no file with the same base
name and any suffix. Then the search ends in this search path, at the first suffix for which there is
a file with this base name: this file is found, unless it is one of the siblings with an earlier
suffix and the operating system refuses to look at it. What is found is the file of the name that was
asked for if and only if there is no file with an earlier suffix beside it. -/
theorem find_suffixed (loader : Loader) (files : Files) (base : String) {suffix : String} {p : Path}
    {before after : List Path} (hsuffix : suffix ∈ suffixes)
    (hname : files.has (.ofText (base ++ suffix)) = .ok false)
    (hpaths : loader.searchPaths = before ++ p :: after)
    (hfile : files.has (p ++ .ofText (base ++ suffix)) = .ok true)
    (hbefore : ∀ q ∈ before, ∀ e ∈ suffixes, files.has (q ++ .ofText (base ++ e)) = .ok false)
    (w : World σ) :
    (∃ e ∈ suffixes, files.has (p ++ .ofText (base ++ e)) ≠ .ok false ∧
      (∀ e' ∈ suffixes.takeWhile (· ≠ e), files.has (p ++ .ofText (base ++ e')) = .ok false) ∧
      ends (loader.find files (base ++ suffix)) w =
        (files.has (p ++ .ofText (base ++ e))).map fun _ => some (p ++ .ofText (base ++ e))) ∧
    (ends (loader.find files (base ++ suffix)) w = .ok (some (p ++ .ofText (base ++ suffix))) ↔
      ∀ e ∈ suffixes.takeWhile (· ≠ suffix), files.has (p ++ .ofText (base ++ e)) = .ok false) := by
  -- at the suffix that was asked for there is a file, so there is a first suffix to end at
  obtain ⟨e, hfirst⟩ : ∃ e, suffixIn? files base p = some e := by
    rw [← Option.isSome_iff_exists, suffixIn?, List.find?_isSome]
    exact ⟨suffix, hsuffix, by rw [Files.isVacant_of_has hfile]; rfl⟩
  obtain ⟨he, hseen, hearlier⟩ := suffixIn?_eq_some_iff.mp hfirst
  have hbase : baseName (base ++ suffix) = base := baseName_append base hsuffix
  have hstop : loader.stop? files (base ++ suffix) = some (p ++ .ofText (base ++ e)) := by
    have hnone : ∀ q ∈ before, suffixIn? files base q = none := by
      intro q hq
      rw [suffixIn?, List.find?_eq_none]
      intro e he
      rw [Files.has_eq_false_iff.mp (hbefore q hq e he)]
      exact Bool.false_ne_true
    rw [← hbase] at hnone hfirst
    rw [stop?_of_first hpaths hnone hfirst, hbase]
  have hends : ends (loader.find files (base ++ suffix)) w =
      (files.has (p ++ .ofText (base ++ e))).map fun _ => some (p ++ .ofText (base ++ e)) := by
    rw [ends_find, located_of_vacant hname, hstop]
    rfl
  refine ⟨⟨e, he, hseen, hearlier, hends⟩, ?_⟩
  constructor
  · intro hasked
    rw [ends_find, located_of_vacant hname, Files.found_eq_some_iff, hstop, Option.some_inj] at hasked
    rwa [suffix_unique he hsuffix hasked.1] at hearlier
  · intro hnone
    have hasked : suffixIn? files base p = some suffix := by
      refine suffixIn?_eq_some_iff.mpr ⟨hsuffix, ?_, hnone⟩
      rw [hfile]
      nofun
    rw [hends, Option.some_inj.mp (hfirst.symm.trans hasked), hfile]
    rfl

/-- A file behind the first search path does not count, also if its suffix is tried earlier. -/
theorem find_suffixed_first_folder :
    let files : Files := fun path =>
      if path.text = "config/service.json" ∨ path.text = "service.yaml" then .file .empty
      else .nothing
    ends (Loader.find {} files "service.json") (World.fresh ()) =
      .ok (some (.ofText "config/service.json")) := by
  intro files
  have hsuffix : ".json" ∈ suffixes := by decide
  have hname : files.has (.ofText ("service" ++ ".json")) = .ok false :=
    Files.has_eq_false_iff.mpr (by decide +kernel)
  have hfile : files.has (.ofText "config" ++ .ofText ("service" ++ ".json")) = .ok true := by
    rfl
  obtain ⟨-, hasked⟩ := find_suffixed {} files "service" hsuffix hname rfl hfile
    (List.forall_mem_nil _) (World.fresh ())
  refine hasked.mpr fun e he => Files.has_eq_false_iff.mpr ?_
  revert e
  decide +kernel

/-- With a file of the same base name beside it, the file that was asked for by its own name is not
found. -/
theorem find_suffixed_sibling :
    let files : Files := fun path =>
      if path.text = "config/service.json" ∨ path.text = "config/service.yaml" then .file .empty
      else .nothing
    files.has (.ofText "service.json") = .ok false ∧
      files.has (.ofText "config" ++ .ofText "service.json") = .ok true ∧
      ends (Loader.find {} files "service.json") (World.fresh ()) =
        .ok (some (.ofText "config/service.yaml")) := by
  intro files
  have hname : files.has (.ofText "service.json") = .ok false :=
    Files.has_eq_false_iff.mpr (by decide +kernel)
  have hstop : stop? {} files "service.json" = some (.ofText "config/service.yaml") := by
    decide +kernel
  refine ⟨hname, rfl, ?_⟩
  rw [ends_find, located_of_vacant hname, hstop]
  rfl

end Loader

end ListenerPorts
