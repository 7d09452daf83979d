import ListenerPorts.Config.Readers
import ListenerPorts.Files.Folder
import ListenerPorts.Proofs.Faults
import ListenerPorts.Proofs.Locating

set_option autoImplicit false

/-! # Which file of several is taken

Several files may answer to one name. A file at the path that the name itself is comes first.
Otherwise an earlier search path comes before a later one, and in one search path an earlier suffix
before a later one: the file that is found is the first one in the lexicographic order of the two
numbers (`find_load_first`). What lies behind it is never looked at, so a change there changes
nothing. All this is as far as the operating system lets the paths be looked at: one that it refuses,
as it does with a name that is too long, ends the search with a fault, also if there is no file.
-/

namespace ListenerPorts

variable {σ : Type}

open Run

namespace Loader

variable {loader : Loader} {files files' : Files} {name base : String} {path : Path} {i j : Nat}

/-! ## Places by their numbers -/

/-- The name is the base name with one of the suffixes behind it; a name that ends with none of them
is its own base name. -/
def IsBase (name base : String) : Prop :=
  (∃ suffix ∈ suffixes, name = base ++ suffix) ∨
    (base = name ∧ ∀ suffix ∈ suffixes, ∀ rest, name ≠ rest ++ suffix)

theorem baseName_of_no_suffix (h : ∀ suffix ∈ suffixes, ∀ rest, name ≠ rest ++ suffix) :
    baseName name = name := by
  have hnone : suffixes.findSome? (cutSuffix? name) = none := by
    rw [List.findSome?_eq_none_iff]
    intro suffix hsuffix
    rw [Option.eq_none_iff_forall_ne_some]
    intro rest hcut
    exact h suffix hsuffix rest (cutSuffix?_eq_some_iff.mp hcut)
  rw [baseName, hnone, Option.getD_none]

theorem isBase_baseName (name : String) : IsBase name (baseName name) := by
  by_cases h : ∀ suffix ∈ suffixes, ∀ rest, name ≠ rest ++ suffix
  · exact Or.inr ⟨baseName_of_no_suffix h, h⟩
  · push Not at h
    obtain ⟨suffix, hsuffix, rest, rfl⟩ := h
    rw [baseName_append rest hsuffix]
    exact Or.inl ⟨suffix, hsuffix, rfl⟩

/-- Every name has one base name. -/
theorem isBase_iff : IsBase name base ↔ base = baseName name := by
  constructor
  · rintro (⟨suffix, hsuffix, rfl⟩ | ⟨rfl, hnone⟩)
    · exact (baseName_append base hsuffix).symm
    · exact (baseName_of_no_suffix hnone).symm
  · rintro rfl
    exact isBase_baseName name

/-- The place for a base name in the `i`-th search path with the `j`-th suffix. -/
def place? (loader : Loader) (base : String) (i j : Nat) : Option Path := do
  let folder ← loader.searchPaths[i]?
  let suffix ← suffixes[j]?
  return folder ++ .ofText (base ++ suffix)

theorem place?_eq_some_iff : loader.place? base i j = some path ↔
    ∃ folder suffix, loader.searchPaths[i]? = some folder ∧ suffixes[j]? = some suffix ∧
      folder ++ .ofText (base ++ suffix) = path := by
  unfold place?
  simp only [Option.bind_eq_bind, Option.bind_eq_some_iff, Option.pure_def, Option.some_inj]
  constructor
  · rintro ⟨folder, hfolder, suffix, hsuffix, hpath⟩
    exact ⟨folder, suffix, hfolder, hsuffix, hpath⟩
  · rintro ⟨folder, suffix, hfolder, hsuffix, hpath⟩
    exact ⟨folder, hfolder, suffix, hsuffix, hpath⟩

/-- The candidates are the places of all numbers. -/
theorem mem_candidates_iff : path ∈ loader.candidates name ↔
    ∃ i j, loader.place? (baseName name) i j = some path := by
  rw [mem_candidates]
  constructor
  · rintro ⟨folder, hfolder, suffix, hsuffix, hpath⟩
    obtain ⟨i, hi⟩ := List.mem_iff_getElem?.mp hfolder
    obtain ⟨j, hj⟩ := List.mem_iff_getElem?.mp hsuffix
    exact ⟨i, j, place?_eq_some_iff.mpr ⟨folder, suffix, hi, hj, hpath⟩⟩
  · rintro ⟨i, j, hplace⟩
    obtain ⟨folder, suffix, hi, hj, hpath⟩ := place?_eq_some_iff.mp hplace
    exact ⟨folder, List.mem_of_getElem? hi, suffix, List.mem_of_getElem? hj, hpath⟩

/-- At the place of two numbers there is a file, or the place cannot be looked at, and the numbers of
every other place like that come after them: the number of the search path counts first. -/
structure FirstAt (loader : Loader) (files : Files) (base : String) (i j : Nat) (path : Path) :
    Prop where
  place : loader.place? base i j = some path
  seen : files.has path ≠ .ok false
  first : ∀ i' j' other, loader.place? base i' j' = some other → files.has other ≠ .ok false →
    i < i' ∨ (i = i' ∧ j ≤ j')

/-- There is one first place only. -/
theorem FirstAt.unique {i' j' : Nat} {path' : Path} (h : FirstAt loader files base i j path)
    (h' : FirstAt loader files base i' j' path') : path = path' := by
  have hnumbers : i = i' ∧ j = j' := by
    have hle := h.first i' j' path' h'.place h'.seen
    have hge := h'.first i j path h.place h.seen
    omega
  obtain ⟨rfl, rfl⟩ := hnumbers
  exact Option.some_inj.mp (h.place.symm.trans h'.place)

/-! ## The search ends at the first place -/

/-- An entry with a smaller number is one of the entries before. -/
theorem mem_of_getElem?_append {α : Type} {before after : List α} {x : α} {n : Nat}
    (hn : n < before.length) (h : (before ++ after)[n]? = some x) : x ∈ before := by
  rw [List.getElem?_append_left hn] at h
  exact List.mem_of_getElem? h

theorem firstAt_of_stop (h : loader.stop? files name = some path) :
    ∃ i j, FirstAt loader files (baseName name) i j path := by
  rw [stop?_eq_findSome?, List.findSome?_eq_some_iff] at h
  obtain ⟨folders, folder, folders', hfolders, hfound, hnone⟩ := h
  obtain ⟨suffix, hsuffix, rfl⟩ := Option.map_eq_some_iff.mp hfound
  obtain ⟨hseen, earlier, later, hsuffixes, hearlier⟩ := List.find?_eq_some_iff_append.mp hsuffix
  have hi : loader.searchPaths[folders.length]? = some folder := by simp [hfolders]
  have hj : suffixes[earlier.length]? = some suffix := by simp [hsuffixes]
  refine ⟨folders.length, earlier.length, place?_eq_some_iff.mpr ⟨_, _, hi, hj, rfl⟩,
    Files.has_ne_false_iff.mpr (by simpa using hseen), ?_⟩
  intro i' j' other hother hend
  rw [Files.has_ne_false_iff] at hend
  obtain ⟨folder', suffix', hi', hj', rfl⟩ := place?_eq_some_iff.mp hother
  -- an earlier search path has nothing to end at, and neither has this one with an earlier suffix
  have hfolder : folders.length ≤ i' := by
    by_contra hlt
    rw [hfolders] at hi'
    have hnothing := hnone folder' (mem_of_getElem?_append (Nat.lt_of_not_le hlt) hi')
    rw [Option.map_eq_none_iff, suffixIn?, List.find?_eq_none] at hnothing
    exact hnothing suffix' (List.mem_of_getElem? hj') (by rw [hend]; rfl)
  have hsame : folders.length = i' → earlier.length ≤ j' := by
    rintro rfl
    by_contra hlt
    rw [hi, Option.some_inj] at hi'
    rw [hsuffixes] at hj'
    have hnofile := hearlier suffix' (mem_of_getElem?_append (Nat.lt_of_not_le hlt) hj')
    rw [hi', hend] at hnofile
    cases hnofile
  omega

theorem stop?_eq_none_iff : loader.stop? files name = none ↔
    ∀ i j path, loader.place? (baseName name) i j = some path → files.has path = .ok false := by
  unfold stop?
  simp only [List.find?_eq_none, Files.has_eq_false_iff, Bool.not_eq_true, Bool.not_eq_false']
  constructor
  · intro hnone i j path hplace
    exact hnone path (mem_candidates_iff.mpr ⟨i, j, hplace⟩)
  · intro hnone path hpath
    obtain ⟨i, j, hplace⟩ := mem_candidates_iff.mp hpath
    exact hnone i j path hplace

theorem stop?_eq_some_iff : loader.stop? files name = some path ↔
    ∃ i j, FirstAt loader files (baseName name) i j path := by
  refine ⟨firstAt_of_stop, fun ⟨i, j, hfirst⟩ => ?_⟩
  cases hstop : loader.stop? files name with
  | none => exact absurd (stop?_eq_none_iff.mp hstop i j path hfirst.place) hfirst.seen
  | some found =>
      obtain ⟨i', j', hfound⟩ := firstAt_of_stop hstop
      rw [hfound.unique hfirst]

/-! ## Loading the file that is found -/

end Loader

/-- No reader fails for want of a file: each is given a text, and looks for none. -/
def Readers.NeverMiss (readers : Readers) : Prop :=
  ∀ format text missing searched,
    readers.reader format text ≠ .error (.failed (.noSuchFile missing searched))

theorem Readers.neverMiss_standard : Readers.standard.NeverMiss := by
  intro format text missing searched h
  have hjson : ∀ stop : Json.Stop, stop.rejection text.toList ≠
      .failed (.noSuchFile missing searched) := by
    rintro (_ | _ | _ | _) <;> nofun
  have hyaml : ∀ stop : Yaml.Stop, stop.rejection ≠ .failed (.noSuchFile missing searched) := by
    rintro (_ | _ | _ | _ | _ | _) <;> nofun
  cases format with
  | json =>
      change (Json.readAll levels text.toList).mapError _ = _ at h
      cases hread : Json.readAll levels text.toList with
      | ok v => simp [hread, Except.mapError] at h
      | error stop => exact hjson stop (by simpa [hread, Except.mapError] using h)
  | yaml =>
      change (Yaml.readAll text.toList).mapError _ = _ at h
      cases hread : Yaml.readAll text.toList with
      | ok v => simp [hread, Except.mapError] at h
      | error stop => exact hyaml stop (by simpa [hread, Except.mapError] using h)

namespace Loader

variable {loader : Loader} {readers : Readers} {files files' : Files} {name : String} {path : Path}

/-- Reading a file never ends with the fault that there is no file. -/
theorem readFile_ne_noSuchFile (hreaders : readers.NeverMiss) (files : Files) (path : Path)
    (missing : String) (searched : List String) :
    readFile readers files path ≠ .error (.noSuchFile missing searched) := by
  have hfails : Fails (readFile readers files path) fun f => ∀ n s, f ≠ .noSuchFile n s := by
    unfold readFile
    -- the stages are the bytes, the text, its value, the mapping, and what is built from that
    refine Fails.bind ?_ fun bytes _ => Fails.bind ?_ fun text _ =>
      Fails.bind (Fails.bind ?_ fun v _ => ?_) fun data _ => ?_
    · unfold Files.bytes
      split
      · exact fails_ok _
      · exact fails_error nofun
    · unfold Files.decodeText
      split
      · exact fails_ok _
      · exact fails_error nofun
    · unfold Configuration.readValue
      dsimp only
      split
      · rename_i format _
        unfold Readers.read
        split
        · exact fails_ok _
        · exact fails_fail nofun (by cases format <;> exact List.forall_mem_nil _)
        · rename_i f hread
          refine fails_error fun n s hf => ?_
          exact hreaders format text n s (hf ▸ hread)
      · exact fails_fail nofun (List.forall_mem_nil _)
    · split
      · exact fails_ok _
      · exact fails_ok _
      · exact fails_fail nofun (List.forall_mem_nil _)
    · intro f hf
      cases Configuration.blamed_ofEntries data f hf <;> exact nofun
  exact fun h => hfails _ h _ _ rfl

/-- Loading fails for want of a file exactly if none is located. -/
theorem loaded_eq_noSuchFile_iff (hreaders : readers.NeverMiss) : (∃ missing searched,
    loader.loaded readers files name = .error (.noSuchFile missing searched)) ↔
      loader.located files name = .ok none := by
  unfold loaded
  cases hlocated : loader.located files name with
  | error f =>
      refine iff_of_false ?_ nofun
      rintro ⟨missing, searched, h⟩
      cases eq_of_located_error hlocated
      cases h
  | ok path? =>
      cases path? with
      | none => exact iff_of_true ⟨_, _, rfl⟩ rfl
      | some path =>
          -- a file that was located is read, and reading has other faults
          refine iff_of_false ?_ nofun
          rintro ⟨missing, searched, h⟩
          change readFile readers files path >>= (fun c => .ok (Loaded.mk path c)) = _ at h
          cases hread : readFile readers files path with
          | ok c =>
              rw [hread] at h
              cases h
          | error f =>
              rw [hread] at h
              cases h
              exact readFile_ne_noSuchFile hreaders files path _ _ hread

/-- The configuration is what is built from the mapping that the file at the path stands for. -/
def StandsFor (readers : Readers) (files : Files) (path : Path) (c : Configuration) : Prop :=
  ∃ bytes text data, files.bytes path = .ok bytes ∧ Files.decodeText bytes = .ok text ∧
    Configuration.parse readers text path = .ok data ∧ Configuration.ofEntries data = .ok c

theorem readFile_eq_ok_iff {c : Configuration} :
    readFile readers files path = .ok c ↔ StandsFor readers files path c := by
  unfold readFile StandsFor
  constructor
  · intro h
    obtain ⟨bytes, hbytes, h⟩ := ok_of_bind_ok h
    obtain ⟨text, htext, h⟩ := ok_of_bind_ok h
    obtain ⟨data, hdata, h⟩ := ok_of_bind_ok h
    exact ⟨bytes, text, data, hbytes, htext, hdata, h⟩
  · rintro ⟨bytes, text, data, hbytes, htext, hdata, h⟩
    simp only [hbytes, htext, hdata, bind, Except.bind, h]

theorem loaded_eq_ok_iff {result : Loaded} : loader.loaded readers files name = .ok result ↔
    loader.located files name = .ok (some result.path) ∧
      StandsFor readers files result.path result.configuration := by
  unfold loaded
  rw [← readFile_eq_ok_iff]
  cases loader.located files name with
  | error f => exact iff_of_false nofun nofun
  | ok path? =>
      cases path? with
      | none => exact iff_of_false nofun nofun
      | some path =>
          change readFile readers files path >>= (fun c => .ok (Loaded.mk path c)) = _ ↔ _
          rw [Except.ok.injEq, Option.some_inj]
          constructor
          · intro h
            obtain ⟨c, hread, h⟩ := ok_of_bind_ok h
            cases h
            exact ⟨rfl, hread⟩
          · rintro ⟨rfl, hread⟩
            rw [hread]
            rfl

/-! ## Changes that do not show -/

/-- The place is looked at for the name: there is no file at any place before it. These are the places
without a file up to the first one with a file, or up to the first one that cannot be looked at. -/
def LooksAt (loader : Loader) (files : Files) (name : String) (place : Path) : Prop :=
  ∃ before after, loader.places name = before ++ place :: after ∧
    ∀ p ∈ before, files.has p = .ok false

/-- What is found first in a list of places depends on them up to the first one with a file. -/
theorem findM?_has_congr {places : List Path} (h : ∀ before place after,
    places = before ++ place :: after → (∀ p ∈ before, files.has p = .ok false) →
      files' place = files place) : places.findM? files'.has = places.findM? files.has := by
  induction places with
  | nil => rfl
  | cons p places ih =>
      have hhere : files'.has p = files.has p :=
        Files.has_congr (h [] p places rfl (List.forall_mem_nil _))
      show files'.has p >>= _ = files.has p >>= _
      rw [hhere]
      cases hlook : files.has p with
      | error f => rfl
      | ok here =>
          cases here with
          | true => rfl
          | false =>
              refine ih fun before place after hplaces hbefore => ?_
              refine h (p :: before) place after (congrArg (p :: ·) hplaces) ?_
              exact List.forall_mem_cons.mpr ⟨hlook, hbefore⟩

theorem looksAt_name : loader.LooksAt files name (.ofText name) :=
  ⟨[], _, rfl, List.forall_mem_nil _⟩

theorem looksAt_of_located (h : loader.located files name = .ok (some path)) :
    loader.LooksAt files name path := by
  rw [located, Files.findM?_has, Files.found_eq_some_iff] at h
  obtain ⟨-, before, after, hplaces, hbefore⟩ := List.find?_eq_some_iff_append.mp h.1
  refine ⟨before, after, hplaces, fun p hp => ?_⟩
  rw [Files.has_eq_false_iff]
  simpa using hbefore p hp

/-- Files that are the same where a search looks are searched to the same end. -/
theorem located_congr (h : ∀ place, loader.LooksAt files name place → files' place = files place) :
    loader.located files' name = loader.located files name :=
  findM?_has_congr fun before place after hplaces hbefore =>
    h place ⟨before, after, hplaces, hbefore⟩

theorem find_congr (h : ∀ place, loader.LooksAt files name place → files' place = files place) :
    loader.find files' name = (loader.find files name : Run σ (Option Path)) := by
  have hname : files'.has (.ofText name) = files.has (.ofText name) :=
    Files.has_congr (h _ looksAt_name)
  unfold Loader.find
  rw [hname]
  cases hlook : files.has (.ofText name) with
  | error f => rfl
  | ok here =>
      cases here with
      | true => rfl
      | false =>
          -- the search goes on, and both locate what they search
          have hsearch : loader.search files' name = loader.search files name := by
            have hlocated := located_congr h
            change files'.has (.ofText name) >>= _ = files.has (.ofText name) >>= _ at hlocated
            rw [hname, hlook] at hlocated
            exact hlocated
          rw [hsearch]

theorem load_congr (h : ∀ place, loader.LooksAt files name place → files' place = files place) :
    loader.load readers files' name = (loader.load readers files name : Run σ Loaded) := by
  unfold load
  rw [find_congr h]
  funext w
  show EStateM.run _ w = EStateM.run _ w
  have hends := ends_find loader files name w
  cases hlocated : loader.located files name with
  | error f =>
      rw [hlocated] at hends
      rw [bind_of_ends_error hends, bind_of_ends_error hends]
  | ok path? =>
      rw [hlocated] at hends
      rw [bind_of_ends_ok hends, bind_of_ends_ok hends]
      cases path? with
      | none => rfl
      | some path =>
          -- the file that is read is the one at which the search has looked last
          have hread : readFile readers files' path = readFile readers files path := by
            unfold readFile Files.bytes
            rw [h path (looksAt_of_located hlocated)]
          dsimp only
          rw [hread]

/-- **The first file counts.** The file at the path that the name itself is is the one that is found.
If there is none, then the name has one base name, and the file that is found is the first one for
it, in the order of the search paths and then of the suffixes; nothing is found exactly if there is
no file at any of these places. A place that the operating system refuses to look at ends the search
with a fault, exactly if there is no file before it. Loading fails for want of a file exactly if
nothing is found, and fails as the search does; otherwise it gives the path that was found with the
configuration that is built from its file, as far as there is one. Neither depends on a file that is
not looked at. -/
theorem find_load_first (loader : Loader) (readers : Readers) (hreaders : readers.NeverMiss)
    (files : Files) (name : String) (w : World σ) :
    (files.has (.ofText name) = .ok true →
      ends (loader.find files name) w = .ok (some (.ofText name))) ∧
    (∀ f, files.has (.ofText name) = .error f → ends (loader.find files name) w = .error f) ∧
    (∃ base, (∀ b, IsBase name b ↔ b = base) ∧ (files.has (.ofText name) = .ok false →
      (∀ path, ends (loader.find files name) w = .ok (some path) ↔
        files.has path = .ok true ∧ ∃ i j, FirstAt loader files base i j path) ∧
      (∀ f, ends (loader.find files name) w = .error f ↔
        ∃ path, files.has path = .error f ∧ ∃ i j, FirstAt loader files base i j path) ∧
      (ends (loader.find files name) w = .ok none ↔
        ∀ i j path, loader.place? base i j = some path → files.has path = .ok false))) ∧
    ((∃ missing searched, ends (loader.load readers files name) w =
      .error (.noSuchFile missing searched)) ↔ ends (loader.find files name) w = .ok none) ∧
    (∀ f, ends (loader.find files name) w = .error f →
      ends (loader.load readers files name) w = .error f) ∧
    (∀ result, ends (loader.load readers files name) w = .ok result ↔
      ends (loader.find files name) w = .ok (some result.path) ∧
        StandsFor readers files result.path result.configuration) ∧
    (∀ files' : Files, (∀ place, loader.LooksAt files name place → files' place = files place) →
      loader.find files' name = (loader.find files name : Run σ (Option Path)) ∧
        loader.load readers files' name = (loader.load readers files name : Run σ Loaded)) := by
  rw [ends_find, ends_load]
  refine ⟨located_of_file, fun f => located_of_error, ⟨baseName name, fun b => isBase_iff, ?_⟩,
    loaded_eq_noSuchFile_iff hreaders, fun f hf => ?_, fun result => loaded_eq_ok_iff,
    fun files' h => ⟨find_congr h, load_congr h⟩⟩
  · -- behind the name itself it is the first place of the search that decides
    intro hname
    rw [located_of_vacant hname]
    refine ⟨fun path => ?_, fun f => ?_, ?_⟩
    · rw [← stop?_eq_some_iff, Files.found_eq_some_iff]
      constructor
      · rintro ⟨hstop, b, hlook⟩
        obtain ⟨i, j, hfirst⟩ := firstAt_of_stop hstop
        cases b with
        | true => exact ⟨hlook, hstop⟩
        | false => exact absurd hlook hfirst.seen
      · exact fun ⟨hlook, hstop⟩ => ⟨hstop, true, hlook⟩
    · simp only [Files.found_eq_error_iff, ← stop?_eq_some_iff]
      exact exists_congr fun path => and_comm
    · rw [Files.found_eq_none_iff, stop?_eq_none_iff]
  · unfold loaded
    rw [hf]
    rfl

/-- The first search path is searched with all suffixes before the second one. A change behind the
file that is found, here a file of the same name in the second search path, changes nothing. -/
theorem find_load_first_folder :
    let readers : Readers := ⟨fun _ => .ok .null, fun _ => .ok .null⟩
    let files : Files := fun path =>
      if path = .ofText "config/service.yml" then .file .empty else .nothing
    let more : Files := fun path =>
      if path = .ofText "service.yaml" then .file .empty else files path
    readers.NeverMiss ∧
      ends (find {} files "service") (World.fresh ()) = .ok (some (.ofText "config/service.yml")) ∧
      load {} readers more "service" = (load {} readers files "service" : Run Unit Loaded) := by
  intro readers files more
  have hreaders : readers.NeverMiss := by
    intro format text missing searched
    cases format <;> nofun
  have hsecond : place? {} "service" 0 1 = some (.ofText "config/service.yml") := by decide +kernel
  have hvacant : ∀ path, place? {} "service" 0 0 = some path →
      path ≠ .ofText "config/service.yml" := by decide +kernel
  have hthird : (places {} "service")[2]? = some (.ofText "config/service.yml") := by decide +kernel
  have hbehind : Path.ofText "service.yaml" ∉ (places {} "service").take 3 := by decide +kernel
  have hname : Path.ofText "service" ≠ .ofText "config/service.yml" := by decide +kernel
  obtain ⟨-, -, ⟨base, hbase, hsearch⟩, -, -, -, hcongr⟩ :=
    find_load_first {} readers hreaders files "service" (World.fresh ())
  have hfile : files.has (.ofText "config/service.yml") = .ok true := by
    have hhere : files (.ofText "config/service.yml") = .file .empty := if_pos rfl
    rw [Files.has, hhere]
  have hnone : ∀ path, path ≠ .ofText "config/service.yml" → files.has path = .ok false := by
    intro path hpath
    have hhere : files path = .nothing := if_neg hpath
    rw [Files.has, hhere]
  refine ⟨hreaders, ?_, (hcongr more ?_).2⟩
  · obtain rfl : "service" = base := (hbase "service").mp (isBase_iff.mpr (by decide +kernel))
    refine ((hsearch (hnone _ hname)).1 _).mpr ⟨hfile, 0, 1, hsecond, by simp [hfile], ?_⟩
    intro i j other hother hseen
    -- the only place with smaller numbers has no file
    match i, j with
    | 0, 0 => exact absurd (hnone other (hvacant other hother)) hseen
    | 0, j + 1 => exact Or.inr ⟨rfl, Nat.le_add_left 1 j⟩
    | i + 1, j => exact Or.inl (Nat.succ_pos i)
  · rintro place ⟨before, after, hplaces, hbefore⟩
    refine if_neg ?_
    rintro rfl
    rw [hplaces] at hthird hbehind
    by_cases hlength : 2 < before.length
    · -- the file that is found lies before the place that was changed
      have hlook := hbefore _ (mem_of_getElem?_append hlength hthird)
      rw [hfile] at hlook
      cases hlook
    · obtain ⟨k, hk⟩ : ∃ k, 3 - before.length = k + 1 := ⟨2 - before.length, by omega⟩
      rw [List.take_append, hk, List.take_succ_cons] at hbehind
      exact hbehind (List.mem_append_right _ List.mem_cons_self)

/-- A name that is too long is no file, and there is none at any of its places, but the search for it
does not find that out. -/
theorem find_overlong_name :
    let name := String.ofList (List.replicate 300 'a')
    let files : Files := Folder.read {}
    (∀ path ∈ places {} name, files.has path ≠ .ok true) ∧
      ends (find {} files name) (World.fresh ()) = .error .fileRefused := by
  intro name files
  have hother : ∀ c, c ≠ 'a' → c ∉ name.toList := by
    intro c hc hmem
    rw [String.toList_ofList] at hmem
    exact hc (List.eq_of_mem_replicate hmem)
  have hname : Path.ofText name = ⟨.here, [name]⟩ :=
    Path.ofText_of_notMem (hother '/' (by decide)) (by decide +kernel)
  have hlong : Folder.maxNameBytes < name.utf8ByteSize := by decide +kernel
  refine ⟨fun path _ => Folder.has_read_of_no_files rfl path, ?_⟩
  rw [ends_find]
  refine located_of_error ?_
  rw [hname]
  exact Folder.has_read_overlong {} (hother '\x00' (by decide)) hlong

end Loader

end ListenerPorts
