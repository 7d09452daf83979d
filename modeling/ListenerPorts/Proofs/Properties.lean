import ListenerPorts.Proofs.Accepting

set_option autoImplicit false

/-! # Reading connectors as they are written

A connector is written out as its type and some of its properties, at least those that are not what
they are without being given. Reading gives the connector back. This has two halves that meet at
`Describes`: what a mapping has to say about a connector, entry by entry. A mapping that a connector
is written as describes it, and reading a mapping gives exactly the connector that it describes.
-/

namespace ListenerPorts

open Shape

/-- The connector of a scheme about which nothing else was said. -/
def Scheme.bare : Scheme → Connector
  | .http => .http ListenerField.default
  | .https => .https ListenerField.default TlsField.default

theorem Entries.Distinct.without {es : Entries} (h : es.Distinct) (name : String) :
    (es.without name).Distinct :=
  h.filter _

namespace Connector

variable {c d : Connector} {es es' : Entries} {scheme : Scheme} {name : String} {k v w : Value}

/-! ## Properties by name -/

theorem map_fst_properties (c : Connector) : c.properties.map (·.1) = c.scheme.propertyNames := by
  cases c <;> simp [properties, Scheme.propertyNames, Connector.scheme, Function.comp_def]

theorem nodup_propertyNames (scheme : Scheme) : scheme.propertyNames.Nodup := by
  cases scheme <;> decide

/-- The type of a connector is none of its properties. -/
theorem type_notMem_propertyNames (scheme : Scheme) : "type" ∉ scheme.propertyNames := by
  cases scheme <;> decide

theorem name_mem_of_mem_properties (h : (name, v) ∈ c.properties) :
    name ∈ c.scheme.propertyNames := by
  rw [← map_fst_properties]
  exact List.mem_map_of_mem (f := Prod.fst) h

theorem ne_type_of_mem_properties (h : (name, v) ∈ c.properties) : name ≠ "type" := by
  rintro rfl
  exact type_notMem_propertyNames _ (name_mem_of_mem_properties h)

/-- A property has one value. -/
theorem eq_of_mem_properties (hv : (name, v) ∈ c.properties) (hw : (name, w) ∈ c.properties) :
    v = w := by
  have hnodup : (c.properties.map (·.1)).Nodup := by
    rw [map_fst_properties]
    exact nodup_propertyNames _
  exact congrArg Prod.snd (List.inj_on_of_nodup_map hnodup hv hw rfl)

/-- Connectors of one scheme with the same properties are the same. -/
theorem ext_properties (hscheme : c.scheme = d.scheme)
    (h : ∀ name v, (name, v) ∈ c.properties → (name, v) ∈ d.properties) : c = d := by
  have hlistener : ∀ (c : Connector) (f : ListenerField), (f.name, c.listener f) ∈ c.properties := by
    intro c f
    have hmem := List.mem_map_of_mem (f := fun f => (f.name, c.listener f)) f.mem_all
    cases c with
    | http l => exact hmem
    | https l tls => exact List.mem_append_left _ hmem
  have htls : ∀ l (tls : TlsField → Value) (f : TlsField),
      (f.propertyName, tls f) ∈ (https l tls).properties := by
    intro l tls f
    exact List.mem_append_right _ (List.mem_map_of_mem (f := fun f => (f.propertyName, tls f)) f.mem_all)
  have hfields : c.listener = d.listener :=
    funext fun f => eq_of_mem_properties (h _ _ (hlistener c f)) (hlistener d f)
  cases c with
  | http l =>
      cases d with
      | http m => exact congrArg http hfields
      | https m tls => cases hscheme
  | https l tls =>
      cases d with
      | http m => cases hscheme
      | https m tls' =>
          have hmore : tls = tls' :=
            funext fun f => eq_of_mem_properties (h _ _ (htls l tls f)) (htls m tls' f)
          exact congrArg₂ https hfields hmore

/-- Fields that are read by their names have what is given to them, and otherwise their defaults. -/
theorem mem_map_getD {α : Type} {fields : List α} {nameOf : α → String} {default : α → Value} :
    (name, v) ∈ fields.map (fun f => (nameOf f, (es.get? (nameOf f)).getD (default f))) ↔
      ∃ d, (name, d) ∈ fields.map (fun f => (nameOf f, default f)) ∧ v = (es.get? name).getD d := by
  simp only [List.mem_map, Prod.mk.injEq]
  constructor
  · rintro ⟨f, hf, rfl, rfl⟩
    exact ⟨default f, ⟨f, hf, rfl, rfl⟩, rfl⟩
  · rintro ⟨d, ⟨f, hf, rfl, rfl⟩, rfl⟩
    exact ⟨f, hf, rfl, rfl⟩

/-- Each property is the given one, or what it is without being given. -/
theorem mem_properties_ofProperties : (name, v) ∈ (ofProperties scheme es).properties ↔
    ∃ d, (name, d) ∈ scheme.bare.properties ∧ v = (es.get? name).getD d := by
  cases scheme with
  | http => exact mem_map_getD
  | https =>
      unfold ofProperties Scheme.bare properties listenerOf tlsOf
      simp only [List.mem_append, mem_map_getD, or_and_right, exists_or]

theorem scheme_ofProperties (scheme : Scheme) (es : Entries) :
    (ofProperties scheme es).scheme = scheme := by
  cases scheme <;> rfl

theorem exists_mem_bare (h : name ∈ scheme.propertyNames) :
    ∃ d, (name, d) ∈ scheme.bare.properties := by
  have hscheme : scheme.bare.scheme = scheme := by cases scheme <;> rfl
  rw [← hscheme, ← map_fst_properties] at h
  obtain ⟨p, hp, rfl⟩ := List.mem_map.mp h
  exact ⟨p.2, hp⟩

/-! ## Mappings that describe a connector -/

/-- What a mapping that is read as a connector says: the type names its scheme, what is given are
properties of it, and its other properties are what they are without being given. -/
structure Describes (es : Entries) (c : Connector) : Prop where
  scheme : HasScheme es c.scheme
  given : ∀ k v, (k, v) ∈ es →
    k = .text "type" ∨ ∃ name, k = .text name ∧ (name, v) ∈ c.properties
  default : ∀ name v, (name, v) ∈ c.properties → (∀ w, (.text name, w) ∉ es) →
    (name, v) ∈ c.scheme.bare.properties

/-- Once the scheme is known, only the names of the properties are checked. -/
theorem ofEntries_of_hasScheme (hes : es.Distinct) (h : HasScheme es scheme) : ofEntries es = (do
    (es.without "type").checkKeys (scheme.name ++ " connector") scheme.propertyNames
    return ofProperties scheme (es.without "type")) := by
  unfold ofEntries
  rw [typeName_of_hasScheme hes h, ok_bind, ofName?_eq_some_iff.mpr rfl]

theorem hasScheme_of_ofEntries (h : ofEntries es = .ok c) : ∃ scheme, HasScheme es scheme := by
  unfold ofEntries at h
  obtain ⟨type, htype, h⟩ := ok_of_bind_ok h
  cases hscheme : Scheme.ofName? type with
  | none =>
      rw [hscheme] at h
      cases h
  | some scheme =>
      rw [ofName?_eq_some_iff] at hscheme
      exact ⟨scheme, hasScheme_of_typeName (hscheme ▸ htype)⟩

/-- A mapping is read as a connector if it has only properties of its scheme. -/
theorem ofEntries_eq_ok_iff (hes : es.Distinct) (h : HasScheme es scheme) :
    ofEntries es = .ok c ↔ (∀ k w, (k, w) ∈ es.without "type" →
      ∃ name ∈ scheme.propertyNames, k = .text name) ∧
      c = ofProperties scheme (es.without "type") := by
  rw [ofEntries_of_hasScheme hes h, ← Entries.checkKeys_eq_ok_iff]
  constructor
  · intro hread
    obtain ⟨⟨⟩, hkeys, hread⟩ := ok_of_bind_ok hread
    exact ⟨hkeys, (Except.ok.inj hread).symm⟩
  · rintro ⟨hkeys, rfl⟩
    rw [hkeys]
    rfl

theorem get?_without_eq_some_iff (hes : es.Distinct) (hname : name ≠ "type") :
    (es.without "type").get? name = some v ↔ (.text name, v) ∈ es := by
  rw [Entries.get?_eq_some_iff (hes.without _), mem_without, and_iff_left]
  exact fun h => hname (Value.text.inj h)

theorem get?_without_eq_none_iff (hes : es.Distinct) (hname : name ≠ "type") :
    (es.without "type").get? name = none ↔ ∀ w, (.text name, w) ∉ es := by
  rw [Option.eq_none_iff_forall_ne_some]
  exact forall_congr' fun w => not_congr (get?_without_eq_some_iff hes hname)

/-- A mapping describes what is read from it. -/
theorem describes_of_ofEntries (hes : es.Distinct) (h : ofEntries es = .ok c) : Describes es c := by
  obtain ⟨scheme, hscheme⟩ := hasScheme_of_ofEntries h
  obtain ⟨hknown, rfl⟩ := (ofEntries_eq_ok_iff hes hscheme).mp h
  constructor
  case scheme => rwa [scheme_ofProperties]
  case given =>
    intro k v hmem
    by_cases hk : k = .text "type"
    · exact Or.inl hk
    · obtain ⟨name, hname, rfl⟩ := hknown k v (mem_without.mpr ⟨hmem, hk⟩)
      obtain ⟨d, hd⟩ := exists_mem_bare hname
      refine Or.inr ⟨name, rfl, mem_properties_ofProperties.mpr ⟨d, hd, ?_⟩⟩
      rw [(get?_without_eq_some_iff hes (ne_type_of_mem_properties hd)).mpr hmem]
      rfl
  case default =>
    intro name v hmem hmissing
    have hname := ne_type_of_mem_properties hmem
    obtain ⟨d, hd, rfl⟩ := mem_properties_ofProperties.mp hmem
    rw [scheme_ofProperties, (get?_without_eq_none_iff hes hname).mpr hmissing]
    exact hd

/-- The properties in a mapping that describes a connector determine it. -/
theorem Describes.eq_ofProperties (hes : es.Distinct) (h : Describes es c) :
    c = ofProperties c.scheme (es.without "type") := by
  refine ext_properties (scheme_ofProperties ..).symm fun name v hmem => ?_
  have hname := ne_type_of_mem_properties hmem
  obtain ⟨d, hd⟩ := exists_mem_bare (name_mem_of_mem_properties hmem)
  refine mem_properties_ofProperties.mpr ⟨d, hd, ?_⟩
  cases hfound : (es.without "type").get? name with
  | none =>
      have hmissing := (get?_without_eq_none_iff hes hname).mp hfound
      exact eq_of_mem_properties (h.default name v hmem hmissing) hd
  | some w =>
      have hentry := (get?_without_eq_some_iff hes hname).mp hfound
      obtain ⟨other, hother, hproperty⟩ := (h.given _ w hentry).resolve_left
        fun htype => hname (Value.text.inj htype)
      cases hother
      exact eq_of_mem_properties hmem hproperty

/-- What is read is what the mapping describes. -/
theorem ofEntries_eq_ok_iff_describes (hes : es.Distinct) :
    ofEntries es = .ok c ↔ Describes es c := by
  refine ⟨describes_of_ofEntries hes, fun h => ?_⟩
  refine (ofEntries_eq_ok_iff hes h.scheme).mpr ⟨fun k w hmem => ?_, h.eq_ofProperties hes⟩
  obtain ⟨hmem, hk⟩ := mem_without.mp hmem
  obtain ⟨name, rfl, hproperty⟩ := (h.given k w hmem).resolve_left hk
  exact ⟨name, name_mem_of_mem_properties hproperty, rfl⟩

/-! ## Writing a connector out -/

/-- The property that gives the type: the name of the scheme in any letter case. The plain scheme
needs none. -/
def GivesType (scheme : Scheme) (type : List (String × Value)) : Prop :=
  (scheme = .http ∧ type = []) ∨ ∃ s, type = [("type", .text s)] ∧ Text.lower s = scheme.name

theorem GivesType.eq_type {type : List (String × Value)} (h : GivesType scheme type)
    (hmem : (name, v) ∈ type) : name = "type" := by
  rcases h with ⟨-, rfl⟩ | ⟨s, rfl, -⟩
  · cases hmem
  · exact congrArg Prod.fst (List.mem_singleton.mp hmem)

/-- A mapping that a connector is written as: the type and some of the properties in any order, where
each property that is left out is what it is without being given. -/
def WrittenAs (c : Connector) (es : Entries) : Prop :=
  ∃ type given : List (String × Value), GivesType c.scheme type ∧ given.Sublist c.properties ∧
    (∀ p ∈ c.properties, p ∉ given → p ∈ c.scheme.bare.properties) ∧
    es.Perm (Entries.named (type ++ given))

theorem WrittenAs.distinct (h : WrittenAs c es) : es.Distinct := by
  obtain ⟨type, given, htype, hgiven, -, hperm⟩ := h
  refine (Entries.distinct_perm hperm).mpr (Entries.distinct_named ?_)
  have hnames : (given.map (·.1)).Sublist c.scheme.propertyNames := by
    rw [← map_fst_properties]
    exact hgiven.map _
  have hnodup : (given.map (·.1)).Nodup := hnames.nodup (nodup_propertyNames _)
  rcases htype with ⟨-, rfl⟩ | ⟨s, rfl, -⟩
  · exact hnodup
  · exact List.nodup_cons.mpr
      ⟨fun hmem => type_notMem_propertyNames _ (hnames.subset hmem), hnodup⟩

/-- A mapping that a connector is written as describes it. -/
theorem WrittenAs.describes (h : WrittenAs c es) : Describes es c := by
  obtain ⟨type, given, htype, hgiven, hdefault, hperm⟩ := h
  have hmem : ∀ k v, (k, v) ∈ es ↔ ∃ name, k = .text name ∧ (name, v) ∈ type ++ given := by
    intro k v
    rw [hperm.mem_iff, Entries.mem_named]
  constructor
  case scheme =>
    rcases htype with ⟨hscheme, rfl⟩ | ⟨s, rfl, hlower⟩
    · refine Or.inl ⟨hscheme, fun w hw => ?_⟩
      obtain ⟨name, hname, hw⟩ := (hmem _ w).mp hw
      exact ne_type_of_mem_properties (hgiven.subset hw) (Value.text.inj hname).symm
    · exact Or.inr ⟨s, (hmem _ _).mpr ⟨"type", rfl, List.mem_cons_self⟩, hlower⟩
  case given =>
    intro k v hentry
    obtain ⟨name, rfl, hp⟩ := (hmem k v).mp hentry
    rcases List.mem_append.mp hp with hp | hp
    · exact Or.inl (congrArg Value.text (htype.eq_type hp))
    · exact Or.inr ⟨name, rfl, hgiven.subset hp⟩
  case default =>
    intro name v hp hmissing
    refine hdefault _ hp fun hp => hmissing v ?_
    exact (hmem _ v).mpr ⟨name, rfl, List.mem_append_right _ hp⟩

/-! ## Unknown properties -/

/-- There is an entry under the name, and connectors of the scheme have no such property. -/
def IsUnknown (scheme : Scheme) (es : Entries) (name : String) : Prop :=
  name ≠ "type" ∧ name ∉ scheme.propertyNames ∧ ∃ w, (.text name, w) ∈ es

/-- The names that a failing check of keys lists are the unknown ones, each once and in ascending
order. -/
theorem names_of_checkKeys {fault : Fault} {owner : String} {known : List String}
    (hes : es.Distinct) (htext : HasTextKeys es) (h : es.checkKeys owner known = .error fault) :
    ∃ names, fault = .configuration (.propertiesUnknown owner names) ∧ names.Pairwise (· < ·) ∧
      ∀ name, name ∈ names ↔ name ∉ known ∧ ∃ w, (.text name, w) ∈ es := by
  unfold Entries.checkKeys at h
  dsimp only at h
  split at h
  · cases h
  · split at h
    · cases h
      refine ⟨_, rfl, Text.pairwise_lt_sortNames ?_, fun name => ?_⟩
      · have hkeys : (es.unknownKeys known).Pairwise fun k l => k.sameKey l = false :=
          List.Pairwise.filter _ (List.pairwise_map.mpr hes)
        refine hkeys.filterMap _ fun k l hkl s hs t ht => ?_
        rw [Value.asText?_eq_some] at hs ht
        subst hs ht
        exact beq_eq_false_iff_ne.mp hkl
      · rw [(Text.perm_sortNames _).mem_iff, List.mem_filterMap]
        simp only [Value.asText?_eq_some, exists_eq_right]
        unfold Entries.unknownKeys
        rw [List.mem_filter, List.mem_map, and_comm]
        refine and_congr (by simp [Value.asText?]) ⟨?_, ?_⟩
        · rintro ⟨e, he, hkey⟩
          exact ⟨e.2, hkey ▸ he⟩
        · rintro ⟨w, hw⟩
          exact ⟨_, hw, rfl⟩
    · rename_i hall
      refine absurd (List.all_eq_true.mpr fun k hk => ?_) hall
      obtain ⟨e, he, rfl⟩ := List.mem_map.mp (List.mem_of_mem_filter hk)
      exact htext e he

/-- A mapping with a known type is not read exactly if it has an unknown property, and then all of
them are told. -/
theorem ofEntries_eq_error (hes : es.Distinct) (htext : HasTextKeys es) (h : HasScheme es scheme) :
    ((∃ fault, ofEntries es = .error fault) ↔ ∃ name, IsUnknown scheme es name) ∧
      ∀ fault, ofEntries es = .error fault → ∃ names,
        fault = .configuration (.propertiesUnknown (scheme.name ++ " connector") names) ∧
          names.Pairwise (· < ·) ∧ ∀ name, name ∈ names ↔ IsUnknown scheme es name := by
  have hunknown : ∀ name, IsUnknown scheme es name ↔
      name ∉ scheme.propertyNames ∧ ∃ w, (.text name, w) ∈ es.without "type" := by
    intro name
    unfold IsUnknown
    simp only [mem_without, ne_eq, Value.text.injEq, exists_and_right]
    tauto
  simp only [hunknown]
  have hproperties : HasTextKeys (es.without "type") :=
    fun e he => htext e (List.mem_of_mem_filter he)
  rw [ofEntries_of_hasScheme hes h]
  cases hcheck : (es.without "type").checkKeys (scheme.name ++ " connector") scheme.propertyNames with
  | ok =>
      refine ⟨iff_of_false (fun ⟨_, hfault⟩ => nomatch hfault) ?_, fun _ hfault => nomatch hfault⟩
      rintro ⟨name, hname, w, hw⟩
      obtain ⟨known, hknown, heq⟩ := Entries.checkKeys_eq_ok_iff.mp hcheck _ w hw
      cases heq
      exact hname hknown
  | error fault =>
      refine ⟨iff_of_true ⟨fault, rfl⟩ ?_, ?_⟩
      · by_contra hnone
        have hknown : ∀ k w, (k, w) ∈ es.without "type" →
            ∃ name ∈ scheme.propertyNames, k = .text name := by
          intro k w hw
          obtain ⟨name, rfl⟩ := Value.isText_eq_true.mp (hproperties _ hw)
          by_contra hother
          exact hnone ⟨name, fun hname => hother ⟨name, hname, rfl⟩, w, hw⟩
        rw [Entries.checkKeys_eq_ok_iff.mpr hknown] at hcheck
        cases hcheck
      · rintro _ ⟨⟩
        exact names_of_checkKeys (hes.without _) hproperties hcheck

/-! ## From plain to encrypted -/

/-- What is read as a plain connector is read as an encrypted one when the type says so. -/
theorem Describes.https {l : ListenerField → Value} (h : Describes es (.http l))
    (hscheme : HasScheme es' .https) (hperm : (es'.without "type").Perm (es.without "type")) :
    Describes es' (.https l TlsField.default) := by
  have hsame : ∀ name v, name ≠ "type" → ((.text name, v) ∈ es' ↔ (.text name, v) ∈ es) := by
    intro name v hname
    have hmem := hperm.mem_iff (a := (.text name, v))
    rwa [mem_without, mem_without, and_iff_left, and_iff_left] at hmem <;> simpa using hname
  constructor
  case scheme => exact hscheme
  case given =>
    intro k v hmem
    by_cases hk : k = .text "type"
    · exact Or.inl hk
    · obtain ⟨hmem', -⟩ := mem_without.mp (hperm.mem_iff.mp (mem_without.mpr ⟨hmem, hk⟩))
      obtain ⟨name, hname, hproperty⟩ := (h.given k v hmem').resolve_left hk
      exact Or.inr ⟨name, hname, List.mem_append_left _ hproperty⟩
  case default =>
    intro name v hproperty hmissing
    have hname := ne_type_of_mem_properties hproperty
    rcases List.mem_append.mp hproperty with hlistener | htls
    · refine List.mem_append_left _ (h.default name v hlistener fun w hw => ?_)
      exact hmissing w ((hsame name w hname).mpr hw)
    · exact List.mem_append_right _ htls

/-- **Reading a connector** inverts writing it out, and alters nothing that it is given. Mappings
have no key twice. What a connector is written as is read as this connector. What is read has the
scheme that the type names, the given properties with exactly the given values, and the defaults of
the others. With a known type it fails exactly for unknown properties, and tells all of them in the
order of their code points. What is read as a plain connector is read as an encrypted one when the
type says so, with the same listener fields. -/
theorem ofEntries_inverts :
    (∀ c es, WrittenAs c es → ofEntries es = .ok c) ∧
    (∀ es c, Entries.Distinct es → ofEntries es = .ok c → Describes es c) ∧
    (∀ es scheme, Entries.Distinct es → HasTextKeys es → HasScheme es scheme →
      ((∃ fault, ofEntries es = .error fault) ↔ ∃ name, IsUnknown scheme es name) ∧
      ∀ fault, ofEntries es = .error fault → ∃ names,
        fault = .configuration (.propertiesUnknown (scheme.name ++ " connector") names) ∧
          names.Pairwise (· < ·) ∧ ∀ name, name ∈ names ↔ IsUnknown scheme es name) ∧
    (∀ es l, Entries.Distinct es → ofEntries es = .ok (.http l) →
      ∀ es', Entries.Distinct es' → HasScheme es' .https →
        (es'.without "type").Perm (es.without "type") →
          ofEntries es' = .ok (.https l TlsField.default)) := by
  refine ⟨?_, ?_, ?_, ?_⟩
  · intro c es h
    exact (ofEntries_eq_ok_iff_describes h.distinct).mpr h.describes
  · intro es c hes
    exact (ofEntries_eq_ok_iff_describes hes).mp
  · intro es scheme hes htext h
    exact ofEntries_eq_error hes htext h
  · intro es l hes h es' hes' hscheme hperm
    rw [ofEntries_eq_ok_iff_describes hes] at h
    exact (ofEntries_eq_ok_iff_describes hes').mpr (h.https hscheme hperm)

/-- A port that is null is read as null, and not as the port of a connector without one. -/
theorem ofEntries_inverts_null_port :
    ofEntries [(.text "port", .null), (.text "type", .text "HTTPS")] =
      .ok (.https (portSet ListenerField.default .null) TlsField.default) := by
  refine ofEntries_inverts.1 _ _ ⟨[("type", .text "HTTPS")], [("port", .null)], ?_, ?_, ?_, ?_⟩
  · exact Or.inr ⟨_, rfl, by decide⟩
  · exact List.Sublist.cons_cons _ (List.nil_sublist _)
  · intro p hp hgiven
    exact (List.mem_cons.mp hp).elim (fun heq => absurd (List.mem_singleton.mpr heq) hgiven)
      fun hrest => List.mem_cons_of_mem _ hrest
  · exact List.Perm.swap ..

end Connector

end ListenerPorts
