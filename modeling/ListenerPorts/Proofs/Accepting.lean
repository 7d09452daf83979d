import ListenerPorts.Config.Shape
import ListenerPorts.Proofs.Building
import ListenerPorts.Proofs.Mappings
import ListenerPorts.Proofs.SchemeNames

set_option autoImplicit false

/-! # What building accepts

Building a configuration passes exactly for the mappings of its shape, and tells a problem for all
others. Each check decides a property of the value it looks at, and checks that come one after the
other decide all their properties at once. So the proof follows the checks one by one, and what is
left is to read the properties off the entries of the mapping.
-/

namespace ListenerPorts

variable {α β : Type}

/-! ## Checks that decide a property -/

/-- The check passes exactly when the property holds, and otherwise tells a problem of the
configuration. -/
structure Decides (x : Except Fault α) (P : Prop) : Prop where
  passes : P → ∃ a, x = .ok a
  tells : ¬ P → ∃ p, x = .error (.configuration p)

namespace Decides

variable {x : Except Fault α} {k : α → Except Fault β} {P Q : Prop}

theorem passes_iff (h : Decides x P) : (∃ a, x = .ok a) ↔ P := by
  refine ⟨fun ⟨a, ha⟩ => ?_, h.passes⟩
  by_contra hP
  obtain ⟨p, hp⟩ := h.tells hP
  rw [ha] at hp
  cases hp

theorem congr (h : Decides x P) (hPQ : P ↔ Q) : Decides x Q := by
  rwa [← propext hPQ]

theorem pass {a : α} (h : P) : Decides (.ok a) P :=
  ⟨fun _ => ⟨a, rfl⟩, fun hP => absurd h hP⟩

theorem tell {p : Problem} (h : ¬ P) (hp : ∀ v ∈ p.shown, v.writable = true) :
    Decides (fail p : Except Fault α) P :=
  ⟨fun hP => absurd hP h, fun _ => ⟨p, fail_eq hp⟩⟩

/-- Checks that come one after the other decide their properties together. -/
theorem bind (hx : Decides x P) (hk : ∀ a, x = .ok a → Decides (k a) Q) :
    Decides (x >>= k) (P ∧ Q) := by
  by_cases hP : P
  · obtain ⟨a, rfl⟩ := hx.passes hP
    have hnext : Decides (k a) Q := hk a rfl
    exact ⟨fun h => hnext.passes h.2, fun h => hnext.tells fun hQ => h ⟨hP, hQ⟩⟩
  · obtain ⟨p, rfl⟩ := hx.tells hP
    exact ⟨fun h => absurd h.1 hP, fun _ => ⟨p, rfl⟩⟩

theorem map {f : α → β} (hx : Decides x P) : Decides (f <$> x) P := by
  refine ⟨fun hP => ?_, fun hP => ?_⟩
  · obtain ⟨a, rfl⟩ := hx.passes hP
    exact ⟨f a, rfl⟩
  · obtain ⟨p, rfl⟩ := hx.tells hP
    exact ⟨p, rfl⟩

/-- A check of what is found, if anything is, decides a property of it. -/
theorem found {o : Option Value} {R : Value → Prop} (hnone : o = none → Decides x True)
    (hsome : ∀ v, o = some v → Decides x (R v)) : Decides x (∀ v, o = some v → R v) := by
  cases o with
  | none => exact (hnone rfl).congr (iff_of_true trivial fun v hv => nomatch hv)
  | some v =>
      refine (hsome v rfl).congr ⟨fun h u hu => ?_, fun h => h v rfl⟩
      cases hu
      exact h

/-- A traversal decides the properties of all items. -/
theorem mapM {f : α → Except Fault β} {R : α → Prop} {xs : List α}
    (h : ∀ x ∈ xs, Decides (f x) (R x)) : Decides (xs.mapM f) (∀ x ∈ xs, R x) := by
  induction xs with
  | nil => exact pass (List.forall_mem_nil _)
  | cons x xs ih =>
      rw [List.forall_mem_cons] at h
      rw [List.mapM_cons]
      refine (h.1.bind (Q := ∀ x ∈ xs, R x) fun y _ => ?_).congr List.forall_mem_cons.symm
      exact ((ih h.2).bind (Q := True) fun _ _ => pass trivial).congr (and_iff_left trivial)

theorem forM {f : α → Except Fault Unit} {R : α → Prop} {xs : List α}
    (h : ∀ x ∈ xs, Decides (f x) (R x)) : Decides (xs.forM f) (∀ x ∈ xs, R x) := by
  induction xs with
  | nil => exact pass (List.forall_mem_nil _)
  | cons x xs ih =>
      rw [List.forall_mem_cons] at h
      exact (h.1.bind fun _ _ => ih h.2).congr List.forall_mem_cons.symm

end Decides

namespace Entries

/-- Checking keys decides whether they are known. -/
theorem decides_checkKeys {es : Entries} (htext : Shape.HasTextKeys es) (owner : String)
    (known : List String) : Decides (es.checkKeys owner known)
      (∀ k w, (k, w) ∈ es → ∃ name ∈ known, k = .text name) := by
  unfold checkKeys
  by_cases hknown : es.unknownKeys known = []
  · rw [hknown]
    exact Decides.pass (unknownKeys_eq_nil_iff.mp hknown)
  · have hall : (es.unknownKeys known).all Value.isText = true := by
      rw [List.all_eq_true]
      intro k hk
      obtain ⟨e, he, rfl⟩ := List.mem_map.mp (List.mem_of_mem_filter hk)
      exact htext e he
    simp only [List.isEmpty_iff, if_neg hknown, if_pos hall]
    exact Decides.tell (fun h => hknown (unknownKeys_eq_nil_iff.mpr h)) (List.forall_mem_nil _)

end Entries

theorem TlsField.name_injective {f g : TlsField} (h : f.name = g.name) : f = g := by
  have hall : ∀ f ∈ TlsField.all, ∀ g ∈ TlsField.all, f.name = g.name → f = g := by decide
  exact hall f (mem_all f) g (mem_all g) h

namespace Settings

open Shape

variable {es : Entries} {v : Value}

/-! ## Truth values and finders -/

theorem decides_checkBool (hdigits : Value.entriesWritable es.nonNull = true)
    (key shownName : String) :
    Decides (checkBool es.nonNull key shownName)
      (∀ v, es.nonNull.get? key = some v → IsFlag v) := by
  unfold checkBool
  refine Decides.found (fun hnone => ?_) fun v hsome => ?_
  · rw [hnone]
    exact Decides.pass trivial
  · have hnull : v ≠ .null := Entries.ne_null_of_get?_nonNull hsome
    have hv : v.writable = true := Entries.writable_of_get? hdigits hsome
    rw [hsome]
    cases v with
    | bool b => exact Decides.pass (Or.inr ⟨b, rfl⟩)
    | _ =>
        refine Decides.tell ?_ (List.forall_mem_singleton.mpr hv)
        rintro (h | ⟨b, hb⟩)
        · exact hnull h
        · cases hb

/-- A name selects a built-in finder exactly when it asks for one. -/
theorem decides_create (name : String) :
    Decides (Registry.builtIn.create (.text name)) (IsFinderName name) := by
  rw [Registry.create_text]
  unfold Registry.select
  cases hfind : Registry.builtIn.find?
      (Registry.keyOf (if name = "" then Strategy.random.name else name)) with
  | some f =>
      refine Decides.pass ?_
      obtain ⟨strategy, hkey, -⟩ := Registry.find?_builtIn hfind
      by_cases hname : name = ""
      · exact Or.inl hname
      · rw [if_neg hname] at hkey
        exact Or.inr ⟨strategy, hkey⟩
  | none =>
      refine Decides.tell ?_ (List.forall_mem_nil _)
      rintro (rfl | ⟨strategy, hkey⟩)
      · cases hfind
      · by_cases hname : name = ""
        · rw [if_pos hname] at hfind
          cases hfind
        · rw [if_neg hname, Registry.keyOf, hkey] at hfind
          cases strategy <;> cases hfind

/-- Resolving a setting that is not null decides whether it is one of a finder. -/
theorem decides_resolveFinder (hnull : v ≠ .null) (hdigits : v.writable = true)
    (hkeys : v.wellKeyed = true) : Decides (resolveFinder v) (IsFinder v) := by
  have htexts : ∀ name, Decides (do
      discard (Registry.builtIn.create (.text name))
      return Value.text (Text.lower name)) (IsFinderName name) := by
    intro name
    exact ((decides_create name).map.bind fun _ _ => Decides.pass trivial).congr (and_iff_left trivial)
  unfold resolveFinder
  cases v with
  | null => exact absurd rfl hnull
  | text name =>
      refine (htexts name).congr ⟨fun h => Or.inr (Or.inl ⟨name, rfl, h⟩), ?_⟩
      rintro (h | ⟨n, hn, h⟩ | ⟨es, hes, -⟩)
      · cases h
      · cases hn
        exact h
      · cases hes
  | map entries =>
      have hdistinct : Entries.Distinct entries := Entries.distinct_of_wellKeyed hkeys
      have hshape : IsFinder (.map entries) ↔ ∀ w, Entries.get? entries "type" = some w →
          w = .null ∨ ∃ name, w = .text name ∧ IsFinderName name := by
        simp only [Entries.get?_eq_some_iff hdistinct]
        constructor
        · rintro (h | ⟨n, hn, -⟩ | ⟨es, hes, h⟩)
          · cases h
          · cases hn
          · cases hes
            exact h
        · exact fun h => Or.inr (Or.inr ⟨entries, rfl, h⟩)
      refine Decides.congr (Decides.found (fun hnone => ?_) fun w hsome => ?_) hshape.symm
      · rw [finderName?, hnone]
        exact Decides.pass trivial
      · have hw : w.writable = true := Entries.writable_of_get? hdigits hsome
        rw [finderName?, hsome]
        cases w with
        | null => exact Decides.pass (Or.inl rfl)
        | text name =>
            refine (htexts name).congr ⟨fun h => Or.inr ⟨name, rfl, h⟩, ?_⟩
            rintro (h | ⟨n, hn, h⟩)
            · cases h
            · cases hn
              exact h
        | _ =>
            refine Decides.tell ?_ (List.forall_mem_singleton.mpr hw)
            rintro (h | ⟨n, hn, -⟩)
            · cases h
            · cases hn
  | _ =>
      refine Decides.tell ?_ (List.forall_mem_singleton.mpr hdigits)
      rintro (h | ⟨n, hn, -⟩ | ⟨es, hes, -⟩)
      · cases h
      · cases hn
      · cases hes

/-! ## TLS material -/

theorem decides_checkTextField (hdigits : Value.entriesWritable es.nonNull = true) (f : TlsField) :
    Decides (checkTextField es.nonNull f)
      (∀ v, es.nonNull.get? f.name = some v → IsOneText v) := by
  unfold checkTextField
  refine Decides.found (fun hnone => ?_) fun v hsome => ?_
  · rw [hnone]
    exact Decides.pass trivial
  · have hnull : v ≠ .null := Entries.ne_null_of_get?_nonNull hsome
    have hv : v.writable = true := Entries.writable_of_get? hdigits hsome
    rw [hsome]
    cases v with
    | text s => exact Decides.pass (Or.inr ⟨s, rfl⟩)
    | _ =>
        refine Decides.tell ?_ (List.forall_mem_singleton.mpr hv)
        rintro (h | ⟨s, hs⟩)
        · exact hnull h
        · cases hs

theorem decides_listField (name : String) (hnull : v ≠ .null) (hdigits : v.writable = true) :
    Decides (listField name v) (IsTexts v) := by
  have hshown : ∀ u ∈ [v], u.writable = true := List.forall_mem_singleton.mpr hdigits
  unfold listField
  cases v with
  | null => exact absurd rfl hnull
  | text s => exact Decides.pass (Or.inl (Or.inr ⟨s, rfl⟩))
  | list items =>
      have hall : items.all Value.isText = true ↔ IsTexts (.list items) := by
        rw [List.all_eq_true]
        simp only [Value.isText_eq_true]
        constructor
        · exact fun h => Or.inr ⟨items, rfl, h⟩
        · rintro ((h | ⟨s, hs⟩) | ⟨items', heq, h⟩)
          · cases h
          · cases hs
          · cases heq
            exact h
      by_cases htexts : items.all Value.isText = true
      · simp only [if_pos htexts]
        exact Decides.pass (hall.mp htexts)
      · simp only [if_neg htexts]
        exact Decides.tell (fun h => htexts (hall.mpr h)) hshown
  | _ =>
      refine Decides.tell ?_ hshown
      rintro ((h | ⟨s, hs⟩) | ⟨items, heq, -⟩)
      · cases h
      · cases hs
      · cases heq

theorem decides_fieldValue (hdigits : Value.entriesWritable es.nonNull = true) {f : TlsField}
    (hf : f.kind = .texts) :
    Decides (fieldValue es.nonNull f) (∀ v, es.nonNull.get? f.name = some v → IsTexts v) := by
  unfold fieldValue
  refine Decides.found (fun hnone => ?_) fun v hsome => ?_
  · rw [hf, hnone]
    exact Decides.pass trivial
  · have hnull : v ≠ .null := Entries.ne_null_of_get?_nonNull hsome
    rw [hf, hsome]
    exact decides_listField _ hnull (Entries.writable_of_get? hdigits hsome)

/-- A mapping has the shape of TLS material if its keys are fields and what is found under each
field fits it. -/
theorem isTls_map_iff (hes : es.Distinct) : IsTls (.map es) ↔
    (∀ k w, (k, w) ∈ es → ∃ name ∈ TlsField.names, k = .text name) ∧
      ∀ (f : TlsField) (w : Value), es.nonNull.get? f.name = some w → Fits f.kind w := by
  have hnull : ∀ kind, Fits kind .null := by
    intro kind
    cases kind with
    | text => exact Or.inl rfl
    | texts => exact Or.inl (Or.inl rfl)
    | flag => exact Or.inl rfl
  constructor
  · rintro (h | ⟨es', heq, hall⟩)
    · cases h
    · cases heq
      constructor
      · intro k w hmem
        obtain ⟨f, hkey, -⟩ := hall k w hmem
        exact ⟨f.name, List.mem_map.mpr ⟨f, TlsField.mem_all f, rfl⟩, hkey⟩
      · intro f w hget
        obtain ⟨hmem, -⟩ := (Entries.get?_nonNull_eq_some_iff hes).mp hget
        obtain ⟨g, hkey, hfits⟩ := hall _ w hmem
        rwa [TlsField.name_injective (Value.text.inj hkey)]
  · rintro ⟨hkeys, hfits⟩
    refine Or.inr ⟨es, rfl, fun k w hmem => ?_⟩
    obtain ⟨name, hname, hkey⟩ := hkeys k w hmem
    obtain ⟨f, -, rfl⟩ := List.mem_map.mp hname
    refine ⟨f, hkey, ?_⟩
    by_cases hw : w = .null
    · rw [hw]
      exact hnull f.kind
    · rw [hkey] at hmem
      exact hfits f w ((Entries.get?_nonNull_eq_some_iff hes).mpr ⟨hmem, hw⟩)

/-- Building TLS material from a value that is not null decides whether it has the shape. -/
theorem decides_buildTls (hnull : v ≠ .null) (hdigits : v.writable = true)
    (hkeys : v.wellKeyed = true) (htext : ∀ es, v = .map es → HasTextKeys es) :
    Decides (buildTls v) (IsTls v) := by
  cases v with
  | map es =>
      have hes : Value.entriesWritable (Entries.nonNull es) = true :=
        Entries.writable_filter hdigits _
      have hshape := isTls_map_iff (Entries.distinct_of_wellKeyed hkeys)
      refine Decides.congr ((Entries.decides_checkKeys (htext es rfl) "tls" _).bind fun _ _ =>
        (Decides.forM fun f _ => decides_checkTextField hes f).bind fun _ _ =>
        (decides_fieldValue hes (f := .supportedProtocols) rfl).bind fun protocols _ =>
        (decides_fieldValue hes (f := .supportedCiphers) rfl).bind fun ciphers _ =>
        (decides_checkBool hes _ _).bind fun _ _ => Decides.pass trivial) ?_
      rw [hshape]
      refine and_congr_right fun _ => ?_
      constructor
      · rintro ⟨htexts, hprotocols, hciphers, hflag, -⟩ f
        cases f with
        | supportedProtocols => exact hprotocols
        | supportedCiphers => exact hciphers
        | disableSniHostCheck => exact hflag
        | _ => exact htexts _ (by decide)
      · intro hfits
        refine ⟨fun f hf w hget => ?_, hfits .supportedProtocols, hfits .supportedCiphers,
          hfits .disableSniHostCheck, trivial⟩
        have hw := hfits f w hget
        rwa [(TlsField.mem_textFields f).mp hf] at hw
  | _ =>
      refine Decides.tell ?_ (List.forall_mem_nil _)
      rintro (h | ⟨es, hes, -⟩)
      · exact hnull h
      · cases hes

/-! ## Settings -/

theorem decides_keptFinder (hdigits : Value.entriesWritable es.nonNull = true)
    (hkeys : ∀ v, es.nonNull.get? "free_port_finder" = some v → v.wellKeyed = true) :
    Decides (keptFinder es.nonNull)
      (∀ v, es.nonNull.get? "free_port_finder" = some v → IsFinder v) := by
  unfold keptFinder
  refine Decides.found (fun hnone => ?_) fun v hsome => ?_
  · rw [hnone]
    exact Decides.pass trivial
  · have hnull : v ≠ .null := Entries.ne_null_of_get?_nonNull hsome
    rw [hsome]
    exact decides_resolveFinder hnull (Entries.writable_of_get? hdigits hsome) (hkeys v hsome)

theorem decides_keptTls (hdigits : Value.entriesWritable es.nonNull = true)
    (hkeys : ∀ v, es.nonNull.get? "tls" = some v → v.wellKeyed = true)
    (htext : ∀ entries, es.nonNull.get? "tls" = some (.map entries) → HasTextKeys entries) :
    Decides (keptTls es.nonNull) (∀ v, es.nonNull.get? "tls" = some v → IsTls v) := by
  unfold keptTls
  refine Decides.found (fun hnone => ?_) fun v hsome => ?_
  · rw [hnone]
    exact Decides.pass trivial
  · have hnull : v ≠ .null := Entries.ne_null_of_get?_nonNull hsome
    rw [hsome]
    refine Decides.map (decides_buildTls hnull (Entries.writable_of_get? hdigits hsome)
      (hkeys v hsome) ?_)
    rintro entries rfl
    exact htext entries hsome

/-- Entries have the shape of settings if their keys are those of settings and what is found under
each key suits it. -/
theorem hasSettings_iff (hes : es.Distinct) : HasSettings es ↔
    (∀ k w, (k, w) ∈ es → ∃ name ∈ keys, k = .text name) ∧
      (∀ v, es.nonNull.get? "use_dynamic_ports" = some v → IsFlag v) ∧
      (∀ v, es.nonNull.get? "use_secure_dynamic_ports" = some v → IsFlag v) ∧
      (∀ v, es.nonNull.get? "free_port_finder" = some v → IsFinder v) ∧
      ∀ v, es.nonNull.get? "tls" = some v → IsTls v := by
  simp only [Entries.get?_nonNull_eq_some_iff hes]
  constructor
  · intro hall
    have hsuits : ∀ name w, (Value.text name, w) ∈ es ∧ w ≠ .null → IsSetting name w := by
      rintro name w ⟨hmem, -⟩
      obtain ⟨name', hkey, hset⟩ := hall _ w hmem
      rwa [Value.text.inj hkey]
    refine ⟨fun k w hmem => ?_, fun v hv => ?_, fun v hv => ?_, fun v hv => ?_, fun v hv => ?_⟩
    · obtain ⟨name, hkey, hset⟩ := hall k w hmem
      exact ⟨name, hset.1, hkey⟩
    · exact (hsuits _ v hv).2.1 (Or.inl rfl)
    · exact (hsuits _ v hv).2.1 (Or.inr rfl)
    · exact (hsuits _ v hv).2.2.1 rfl
    · exact (hsuits _ v hv).2.2.2 rfl
  · rintro ⟨hkeys, hdynamic, hsecure, hfinder, htls⟩ k w hmem
    obtain ⟨name, hname, rfl⟩ := hkeys k w hmem
    refine ⟨name, rfl, hname, ?_, ?_, ?_⟩
    · by_cases hw : w = .null
      · exact fun _ => Or.inl hw
      · rintro (rfl | rfl)
        · exact hdynamic w ⟨hmem, hw⟩
        · exact hsecure w ⟨hmem, hw⟩
    · by_cases hw : w = .null
      · exact fun _ => Or.inl hw
      · rintro rfl
        exact hfinder w ⟨hmem, hw⟩
    · by_cases hw : w = .null
      · exact fun _ => Or.inl hw
      · rintro rfl
        exact htls w ⟨hmem, hw⟩

/-- Building settings decides whether the mapping has their shape. -/
theorem decides_ofEntries (hdigits : Value.entriesWritable es = true)
    (hkeys : Value.entriesWellKeyed es = true) (htext : HasTextKeys es)
    (htls : ∀ tls, (.text "tls", .map tls) ∈ es → HasTextKeys tls) :
    Decides (ofEntries es) (HasSettings es) := by
  have hdistinct : es.Distinct := Entries.distinct_of_wellKeyed hkeys
  have hgiven : Value.entriesWritable es.nonNull = true := Entries.writable_filter hdigits _
  have hinner : ∀ name v, es.nonNull.get? name = some v → v.wellKeyed = true := by
    intro name v hget
    obtain ⟨hmem, -⟩ := (Entries.get?_nonNull_eq_some_iff hdistinct).mp hget
    exact Entries.wellKeyed_of_mem hkeys hmem
  rw [ofEntries_eq]
  refine Decides.congr ((Entries.decides_checkKeys htext "dynamic_ports" _).bind fun _ _ =>
    (decides_checkBool hgiven _ _).bind fun _ _ => (decides_checkBool hgiven _ _).bind fun _ _ =>
    (decides_keptFinder hgiven (hinner _)).bind fun finder _ =>
    (decides_keptTls hgiven (hinner _) fun tls hget => htls tls ?_).bind fun tls _ =>
    Decides.pass trivial) ?_
  · exact ((Entries.get?_nonNull_eq_some_iff hdistinct).mp hget).1
  · rw [hasSettings_iff hdistinct]
    simp only [and_true]

end Settings

/-! ## Connectors and servers -/

namespace Connector

open Shape

variable {es : Entries}

theorem ofName?_eq_some_iff {s : String} {scheme : Scheme} :
    Scheme.ofName? s = some scheme ↔ s = scheme.name := by
  unfold Scheme.ofName?
  by_cases hhttp : s = "http"
  · subst hhttp
    cases scheme <;> decide
  · rw [if_neg hhttp]
    by_cases hhttps : s = "https"
    · subst hhttps
      cases scheme <;> decide
    · rw [if_neg hhttps]
      cases scheme with
      | http => exact iff_of_false nofun hhttp
      | https => exact iff_of_false nofun hhttps

/-- The type that is read off a mapping is the one that it has. -/
theorem typeName_of_hasScheme {scheme : Scheme} (hes : es.Distinct) (h : HasScheme es scheme) :
    typeName es = .ok scheme.name := by
  unfold typeName
  rcases h with ⟨rfl, hnone⟩ | ⟨s, hmem, hlower⟩
  · rw [Entries.get?_eq_none_iff.mpr hnone]
    rfl
  · rw [(Entries.get?_eq_some_iff hes).mpr hmem]
    exact congrArg Except.ok hlower

theorem hasScheme_of_typeName {scheme : Scheme} (h : typeName es = .ok scheme.name) : HasScheme es scheme := by
  unfold typeName at h
  cases hget : es.get? "type" with
  | none =>
      rw [hget] at h
      refine Or.inl ⟨?_, Entries.get?_eq_none_iff.mp hget⟩
      cases scheme with
      | http => rfl
      | https => exact absurd (Except.ok.inj h) (by decide)
  | some v =>
      rw [hget] at h
      dsimp only at h
      split at h
      · obtain ⟨s, rfl, hlower⟩ := Value.eq_text_of_lower_plain (Except.ok.inj h)
        exact Or.inr ⟨s, Entries.mem_of_get? hget, hlower⟩
      · cases h

/-- The type in a mapping can be told, and names the scheme that the mapping has. -/
theorem typeName_ok (hdigits : Value.entriesWritable es = true) (hes : es.Distinct) :
    ∃ type, typeName es = .ok type ∧
      ∀ scheme, Scheme.ofName? type = some scheme ↔ HasScheme es scheme := by
  have htold : ∃ type, typeName es = .ok type := by
    unfold typeName
    cases hget : es.get? "type" with
    | none => exact ⟨_, rfl⟩
    | some v => exact ⟨_, if_pos (Entries.writable_of_get? hdigits hget)⟩
  obtain ⟨type, htype⟩ := htold
  refine ⟨type, htype, fun scheme => ?_⟩
  rw [ofName?_eq_some_iff]
  constructor
  · rintro rfl
    exact hasScheme_of_typeName htype
  · intro h
    rw [typeName_of_hasScheme hes h] at htype
    exact (Except.ok.inj htype).symm

theorem mem_without {k w : Value} {name : String} :
    (k, w) ∈ Entries.without es name ↔ (k, w) ∈ es ∧ k ≠ .text name := by
  unfold Entries.without
  rw [List.mem_filter, bne_iff_ne, ne_eq, Value.asText?_eq_some]

/-- Building a connector decides whether the value has the shape of one. -/
theorem decides_ofValue {v : Value} (hdigits : v.writable = true) (hkeys : v.wellKeyed = true)
    (htext : ∀ es, v = .map es → HasTextKeys es) : Decides (ofValue v) (IsConnector v) := by
  cases v with
  | map es =>
      obtain ⟨type, htype, hscheme⟩ := typeName_ok hdigits (Entries.distinct_of_wellKeyed hkeys)
      show Decides (ofEntries es) _
      unfold ofEntries
      rw [htype]
      dsimp only [bind, Except.bind]
      cases hname : Scheme.ofName? type with
      | none =>
          refine Decides.tell ?_ (List.forall_mem_nil _)
          rintro ⟨es', scheme, heq, hhas, -⟩
          cases heq
          rw [← hscheme, hname] at hhas
          cases hhas
      | some scheme =>
          have hproperties : HasTextKeys (Entries.without es "type") :=
            fun e he => htext es rfl e (List.mem_of_mem_filter he)
          refine Decides.congr ((Entries.decides_checkKeys hproperties _ _).bind fun _ _ =>
            Decides.pass trivial) ?_
          have hhas : HasScheme es scheme := (hscheme scheme).mp hname
          constructor
          · rintro ⟨hknown, -⟩
            refine ⟨es, scheme, rfl, hhas, fun k w hmem => ?_⟩
            by_cases hk : k = .text "type"
            · exact Or.inl hk
            · exact Or.inr (hknown k w (mem_without.mpr ⟨hmem, hk⟩))
          · rintro ⟨es', scheme', heq, hhas', hall⟩
            cases heq
            have hsame : scheme' = scheme := by
              rw [← hscheme, hname] at hhas'
              cases hhas'
              rfl
            rw [hsame] at hall
            refine ⟨fun k w hmem => ?_, trivial⟩
            obtain ⟨hmem, hk⟩ := mem_without.mp hmem
            exact (hall k w hmem).resolve_left hk
  | _ =>
      refine Decides.tell ?_ (List.forall_mem_singleton.mpr hdigits)
      rintro ⟨es, scheme, heq, -⟩
      cases heq

end Connector

namespace Server

open Shape

/-- Building the connectors of a role decides whether the entry of the role, if there is one, is a
list of connectors. -/
theorem decides_connectorsOf {es : Entries} (hdigits : Value.entriesWritable es = true)
    (hkeys : Value.entriesWellKeyed es = true) (role : Role)
    (htext : ∀ items entries, (.text (connectorsKey role), .list items) ∈ es →
      .map entries ∈ items → HasTextKeys entries) :
    Decides (connectorsOf es role) (∀ v, (.text (connectorsKey role), v) ∈ es →
      ∃ items, v = .list items ∧ ∀ item ∈ items, IsConnector item) := by
  have hdistinct : es.Distinct := Entries.distinct_of_wellKeyed hkeys
  simp only [← Entries.get?_eq_some_iff hdistinct] at htext ⊢
  unfold connectorsOf
  refine Decides.found (fun hnone => ?_) fun v hsome => ?_
  · rw [hnone]
    exact Decides.pass trivial
  · rw [hsome]
    cases v with
    | list items =>
        have hitems : ∀ item ∈ items, Decides (Connector.ofValue item) (IsConnector item) := by
          intro item hitem
          have hlist : (Value.list items).wellKeyed = true :=
            Entries.wellKeyed_of_mem hkeys ((Entries.get?_eq_some_iff hdistinct).mp hsome)
          refine Connector.decides_ofValue ?_ ((Value.itemsWellKeyed_iff items).mp hlist item hitem) ?_
          · exact (Value.itemsWritable_iff items).mp (Entries.writable_of_get? hdigits hsome) item hitem
          · rintro entries rfl
            exact htext items entries hsome hitem
        refine (Decides.mapM hitems).congr ⟨fun h => ⟨items, rfl, h⟩, ?_⟩
        rintro ⟨items', heq, h⟩
        cases heq
        exact h
    | _ =>
        refine Decides.tell ?_ (List.forall_mem_nil _)
        rintro ⟨items, heq, -⟩
        cases heq

theorem decides_ofEntries {es : Entries} (hdigits : Value.entriesWritable es = true)
    (hkeys : Value.entriesWellKeyed es = true)
    (htext : ∀ role items entries, (.text (connectorsKey role), .list items) ∈ es →
      .map entries ∈ items → HasTextKeys entries) :
    Decides (ofEntries es) (HasConnectors es) := by
  refine Decides.congr ((decides_connectorsOf hdigits hkeys .application (htext _)).bind fun _ _ =>
    (decides_connectorsOf hdigits hkeys .admin (htext _)).bind fun _ _ => Decides.pass trivial) ?_
  constructor
  · rintro ⟨happlication, hadmin, -⟩ role
    cases role with
    | application => exact happlication
    | admin => exact hadmin
  · exact fun h => ⟨h .application, h .admin, trivial⟩

end Server

/-! ## Configurations -/

namespace Configuration

open Shape

theorem decides_sectionOf {data : Entries} (hdata : data.Distinct) (name : String) :
    Decides (sectionOf data name)
      (∀ v, (.text name, v) ∈ data → v = .null ∨ ∃ es, v = .map es) := by
  simp only [← Entries.get?_eq_some_iff hdata]
  unfold sectionOf
  refine Decides.found (fun hnone => ?_) fun v hsome => ?_
  · rw [hnone]
    exact Decides.pass trivial
  · rw [hsome]
    cases v with
    | null => exact Decides.pass (Or.inl rfl)
    | map es => exact Decides.pass (Or.inr ⟨es, rfl⟩)
    | _ =>
        refine Decides.tell ?_ (List.forall_mem_nil _)
        rintro (h | ⟨es, hes⟩)
        · cases h
        · cases hes

/-- What holds of a section holds of the mapping that stands for it, if one does. -/
theorem forall_section_iff {data es : Entries} {name : String} (hdata : data.Distinct)
    (h : sectionOf data name = .ok es) {R : Entries → Prop} (hempty : R []) :
    R es ↔ ∀ entries, (.text name, .map entries) ∈ data → R entries := by
  simp only [← Entries.get?_eq_some_iff hdata]
  unfold sectionOf at h
  cases hget : data.get? name with
  | none =>
      rw [hget] at h
      cases h
      exact iff_of_true hempty fun entries hentries => nomatch hentries
  | some v =>
      rw [hget] at h
      cases v with
      | null =>
          cases h
          exact iff_of_true hempty fun entries hentries => nomatch hentries
      | map inner =>
          cases h
          refine ⟨fun hR entries hentries => ?_, fun hR => hR es rfl⟩
          cases hentries
          exact hR
      | _ => cases h

/-- A section has a property if it is a mapping or nothing, and the mapping has the property. -/
theorem sectionHas_iff (data : Entries) (name : String) (R : Entries → Prop) :
    SectionHas data name R ↔ (∀ v, (.text name, v) ∈ data → v = .null ∨ ∃ es, v = .map es) ∧
      ∀ es, (.text name, .map es) ∈ data → R es := by
  constructor
  · intro h
    refine ⟨fun v hv => ?_, fun es hes => ?_⟩
    · exact (h v hv).imp id fun ⟨es, heq, _⟩ => ⟨es, heq⟩
    · obtain hnull | ⟨entries, heq, hR⟩ := h _ hes
      · cases hnull
      · cases heq
        exact hR
  · rintro ⟨hshape, hR⟩ v hv
    obtain rfl | ⟨es, rfl⟩ := hshape v hv
    · exact Or.inl rfl
    · exact Or.inr ⟨es, rfl, hR es hv⟩

/-- Building a configuration decides whether the mapping has the shape of one. -/
theorem decides_ofEntries {data : Entries} (hkeys : Value.entriesWellKeyed data = true)
    (hdigits : Value.entriesWritable data = true) (htext : TextKeyed data) :
    Decides (ofEntries data) (IsConfiguration data) := by
  have hdistinct : data.Distinct := Entries.distinct_of_wellKeyed hkeys
  have hinner : ∀ {name es}, sectionOf data name = .ok es → Value.entriesWellKeyed es = true := by
    intro name es hsection
    exact (forall_section_iff hdistinct hsection (R := (Value.entriesWellKeyed · = true)) rfl).mpr
      fun entries hmem => Entries.wellKeyed_of_mem hkeys hmem
  unfold IsConfiguration
  rw [sectionHas_iff, sectionHas_iff, and_and_and_comm, and_assoc]
  -- both sections are looked up before either is built from
  refine (decides_sectionOf hdistinct "server").bind fun server hserver => ?_
  refine (decides_sectionOf hdistinct "dynamic_ports").bind fun settings hsettings => ?_
  have hconnectors := forall_section_iff hdistinct hserver (R := HasConnectors)
    fun _ _ h => nomatch h
  have hentries := forall_section_iff hdistinct hsettings (R := HasSettings) fun _ _ h => nomatch h
  rw [← hconnectors, ← hentries]
  refine (Server.decides_ofEntries (writable_of_sectionOf hserver hdigits) (hinner hserver)
    ?_).bind fun _ _ => ?_
  · exact (forall_section_iff hdistinct hserver (R := fun es => ∀ role items entries,
      (.text (Server.connectorsKey role), .list items) ∈ es → .map entries ∈ items →
      HasTextKeys entries) fun _ _ _ h => nomatch h).mpr
        fun es hmem role items entries => htext.connectors es role items entries hmem
  · refine ((Settings.decides_ofEntries (writable_of_sectionOf hsettings hdigits) (hinner hsettings)
      ?_ ?_).bind fun _ _ => Decides.pass trivial).congr (and_iff_left trivial)
    · exact (forall_section_iff hdistinct hsettings (R := HasTextKeys)
        fun _ h => nomatch h).mpr htext.settings
    · exact (forall_section_iff hdistinct hsettings (R := fun es => ∀ tls,
        (.text "tls", .map tls) ∈ es → HasTextKeys tls) fun _ h => nomatch h).mpr
          fun es hmem tls => htext.tls es tls hmem

/-- **What building accepts.** A mapping can be built from exactly when it has the shape of a
configuration, and otherwise a problem of the configuration is told. The keys of the mappings that
may only have certain keys are texts here, and all integers have a text. -/
theorem ofEntries_accepts (data : Entries) (hkeys : Value.entriesWellKeyed data = true)
    (hdigits : Value.entriesWritable data = true) (htext : TextKeyed data) :
    ((∃ c, ofEntries data = .ok c) ↔ IsConfiguration data) ∧
      (¬ IsConfiguration data → ∃ p, ofEntries data = .error (.configuration p)) :=
  have hdecides : Decides (ofEntries data) (IsConfiguration data) :=
    decides_ofEntries hkeys hdigits htext
  ⟨hdecides.passes_iff, hdecides.tells⟩

/-- A connector whose type is in capitals, a lone text for a list, null for a text, and a finder
that is named by a type beside an entry that means nothing make up the shape of a configuration. -/
theorem ofEntries_accepts_typed_finder :
    let connector : Entries := [(.text "type", .text "HTTPS"), (.text "cert_alias", .null)]
    let server : Entries := [(.text "admin_connectors", .list [.map connector])]
    let tls : Entries := [(.text "supported_protocols", .text "TLSv1.3"),
      (.text "key_store_path", .null)]
    let settings : Entries := [(.text "use_dynamic_ports", .null), (.text "tls", .map tls),
      (.text "free_port_finder", .map [(.text "type", .text " Adjacent "), (.int 1, .list [])])]
    let data : Entries := [(.text "server", .map server), (.text "dynamic_ports", .map settings)]
    Value.entriesWellKeyed data = true ∧ Value.entriesWritable data = true ∧ TextKeyed data ∧
      IsConfiguration data := by
  intro connector server tls settings data
  have hkeys : Value.entriesWellKeyed data = true := by decide
  have hdigits : Value.entriesWritable data = true := by decide +kernel
  have htext : TextKeyed data := by
    constructor
    · intro es hmem
      simp [data] at hmem
      subst hmem
      simp [HasTextKeys, settings, Value.isText]
    · intro es entries hmem htls
      simp [data] at hmem
      subst hmem
      simp [settings] at htls
      subst htls
      simp [HasTextKeys, tls, Value.isText]
    · intro es role items entries hmem hlist hitem
      simp [data] at hmem
      subst hmem
      simp [server] at hlist
      obtain ⟨-, rfl⟩ := hlist
      simp at hitem
      subst hitem
      simp [HasTextKeys, connector, Value.isText]
  exact ⟨hkeys, hdigits, htext, (ofEntries_accepts data hkeys hdigits htext).1.mp ⟨_, rfl⟩⟩

end Configuration

end ListenerPorts
