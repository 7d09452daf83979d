import ListenerPorts.Proofs.Editing
import Mathlib.Logic.Relation

set_option autoImplicit false

/-! # Order and nulls do not count

A mapping is built from by looking up names in it, and by listing its unknown keys in an order of
their own. So it does not matter in which order its entries stand, nor whether a setting is null or
missing. An `Edit` changes the order of one of the mappings in a configuration, or takes one null out
of it. One edit leaves what is built as it is (`ofEntries_edit`), and so does a sequence of them
(`ofEntries_rearranged`), where what is built may as well be a fault.
-/

namespace ListenerPorts

/-! ## Mappings with the same entries -/

/-- Names are listed in the same order, however they stood before. -/
theorem Text.sortNames_perm {ns ms : List String} (h : ns.Perm ms) : sortNames ns = sortNames ms := by
  have hperm : (sortNames ns).Perm (sortNames ms) :=
    ((perm_sortNames ns).trans h).trans (perm_sortNames ms).symm
  refine List.Perm.eq_of_pairwise ?_ (pairwise_sortNames ns) (pairwise_sortNames ms) hperm
  exact fun a b _ _ hab hba => String.le_antisymm hab hba

namespace Entries

variable {es es' : Entries} {name other : String} {k v : Value}

theorem checkKeys_perm (h : es.Perm es') (owner : String) (known : List String) :
    es'.checkKeys owner known = es.checkKeys owner known := by
  have hunknown : (es'.unknownKeys known).Perm (es.unknownKeys known) := (h.symm.map _).filter _
  have hempty : (es'.unknownKeys known).isEmpty = (es.unknownKeys known).isEmpty := by
    rw [Bool.eq_iff_iff, List.isEmpty_iff, List.isEmpty_iff]
    exact ⟨fun hnil => (hnil ▸ hunknown).nil_eq.symm, fun hnil => (hnil ▸ hunknown).eq_nil⟩
  unfold checkKeys
  dsimp only
  rw [hempty, hunknown.all_eq, Text.sortNames_perm (hunknown.filterMap _)]

theorem checkKeys_of_keys_eq (h : es'.map (·.1) = es.map (·.1)) (owner : String)
    (known : List String) : es'.checkKeys owner known = es.checkKeys owner known := by
  unfold checkKeys unknownKeys
  rw [h]

theorem get?_append (es es' : Entries) (name : String) :
    get? (es ++ es') name = (es.get? name).or (es'.get? name) := by
  induction es with
  | nil => rfl
  | cons e es ih =>
      obtain ⟨k, v⟩ := e
      rw [List.cons_append, get?_cons, get?_cons]
      split
      · rfl
      · exact ih

theorem nonNull_append (es es' : Entries) : nonNull (es ++ es') = nonNull es ++ nonNull es' :=
  List.filter_append ..

theorem wellKeyed_perm (hes : Value.entriesWellKeyed es = true) (h : es.Perm es') :
    Value.entriesWellKeyed es' = true := by
  obtain ⟨hdistinct, hvalues⟩ := wellKeyed_iff.mp hes
  exact wellKeyed_iff.mpr ⟨(distinct_perm h).mp hdistinct, fun e he => hvalues e (h.mem_iff.mpr he)⟩

theorem wellKeyed_sublist (hes : Value.entriesWellKeyed es = true) (h : es'.Sublist es) :
    Value.entriesWellKeyed es' = true := by
  obtain ⟨hdistinct, hvalues⟩ := wellKeyed_iff.mp hes
  exact wellKeyed_iff.mpr ⟨hdistinct.sublist h, fun e he => hvalues e (h.subset he)⟩

/-! ## A null taken out -/

/-- The second entries are the first ones without one that was null and had one of the names. -/
def DropsNull (names : List String) (es es' : Entries) : Prop :=
  ∃ before after, ∃ name ∈ names, es = before ++ (.text name, .null) :: after ∧ es' = before ++ after

section DropsNull

variable {names : List String}

theorem DropsNull.wellKeyed (h : DropsNull names es es')
    (hes : Value.entriesWellKeyed es = true) : Value.entriesWellKeyed es' = true := by
  obtain ⟨before, after, name, -, rfl, rfl⟩ := h
  exact wellKeyed_sublist hes ((List.Sublist.refl before).append (List.sublist_cons_self _ after))

theorem DropsNull.nonNull_eq (h : DropsNull names es es') : es'.nonNull = es.nonNull := by
  obtain ⟨before, after, name, -, rfl, rfl⟩ := h
  rw [nonNull_append, nonNull_append]
  rfl

/-- The name of the entry was no unknown key. -/
theorem DropsNull.checkKeys_eq (h : DropsNull names es es') (owner : String) :
    es'.checkKeys owner names = es.checkKeys owner names := by
  obtain ⟨before, after, name, hname, rfl, rfl⟩ := h
  have hunknown : unknownKeys (before ++ (.text name, .null) :: after) names =
      unknownKeys (before ++ after) names := by
    simp [unknownKeys, Value.asText?, hname]
  unfold checkKeys
  rw [hunknown]

end DropsNull

/-! ## One value replaced -/

/-- Both values are mappings, and the entries are related. -/
inductive InMap (R : Entries → Entries → Prop) : Value → Value → Prop
  | map {es es' : Entries} (h : R es es') : InMap R (.map es) (.map es')

/-- Both values are lists, the second one with one item replaced by a related one. -/
inductive InItem (R : Value → Value → Prop) : Value → Value → Prop
  | list (before after : List Value) {v v' : Value} (h : R v v') :
      InItem R (.list (before ++ v :: after)) (.list (before ++ v' :: after))

/-- The second entries are the first ones with the value under the name replaced by a related
one. -/
def Replaces (name : String) (R : Value → Value → Prop) (es es' : Entries) : Prop :=
  ∃ before after v v', es = before ++ (.text name, v) :: after ∧
    es' = before ++ (.text name, v') :: after ∧ R v v'

section Replaces

variable {R : Value → Value → Prop}

theorem Replaces.keys_eq (h : Replaces name R es es') : es'.map (·.1) = es.map (·.1) := by
  obtain ⟨before, after, v, v', rfl, rfl, -⟩ := h
  rw [List.map_append, List.map_append]
  rfl

theorem Replaces.distinct (h : Replaces name R es es') (hes : es.Distinct) : es'.Distinct := by
  unfold Distinct at hes ⊢
  rw [← List.pairwise_map (f := Prod.fst) (R := fun a b => Value.sameKey a b = false)] at hes ⊢
  rwa [h.keys_eq]

theorem Replaces.wellKeyed (h : Replaces name R es es') (hes : Value.entriesWellKeyed es = true)
    (hR : ∀ v v', R v v' → v.wellKeyed = true → v'.wellKeyed = true) :
    Value.entriesWellKeyed es' = true := by
  obtain ⟨hdistinct, hvalues⟩ := wellKeyed_iff.mp hes
  refine wellKeyed_iff.mpr ⟨h.distinct hdistinct, ?_⟩
  obtain ⟨before, after, v, v', rfl, rfl, hvalue⟩ := h
  rw [List.forall_mem_append, List.forall_mem_cons] at hvalues ⊢
  exact ⟨hvalues.1, hR v v' hvalue hvalues.2.1, hvalues.2.2⟩

theorem Replaces.get?_other (h : Replaces name R es es') (hother : other ≠ name) :
    es'.get? other = es.get? other := by
  obtain ⟨before, after, v, v', rfl, rfl, -⟩ := h
  have hskip : (Value.text name).asText? ≠ some other := fun heq => hother (Option.some.inj heq).symm
  rw [get?_append, get?_append, get?_cons, get?_cons, if_neg hskip, if_neg hskip]

theorem Replaces.get?_same (hes : es.Distinct) (h : Replaces name R es es') :
    ∃ v v', es.get? name = some v ∧ es'.get? name = some v' ∧ R v v' := by
  have hes' : es'.Distinct := h.distinct hes
  obtain ⟨before, after, v, v', rfl, rfl, hR⟩ := h
  exact ⟨v, v', (get?_eq_some_iff hes).mpr (List.mem_append_right _ List.mem_cons_self),
    (get?_eq_some_iff hes').mpr (List.mem_append_right _ List.mem_cons_self), hR⟩

variable {S : Entries → Entries → Prop}

/-- A mapping is not null, so it is replaced also among the entries that are not null. -/
theorem Replaces.nonNull (h : Replaces name (InMap S) es es') :
    Replaces name (InMap S) es.nonNull es'.nonNull := by
  obtain ⟨before, after, v, v', rfl, rfl, hmap⟩ := h
  refine ⟨nonNull before, nonNull after, v, v', ?_, ?_, hmap⟩
  · rw [nonNull_append]
    cases hmap
    rfl
  · rw [nonNull_append]
    cases hmap
    rfl

/-- A mapping that is replaced is found under the name, before and after. -/
theorem Replaces.get?_inMap
    (hes : Value.entriesWellKeyed es = true) (h : Replaces name (InMap S) es es') :
    ∃ inner inner', es.get? name = some (.map inner) ∧ es'.get? name = some (.map inner') ∧
      S inner inner' ∧ Value.entriesWellKeyed inner = true := by
  obtain ⟨v, v', hget, hget', hmap⟩ := h.get?_same (distinct_of_wellKeyed hes)
  have hvalue := wellKeyed_of_mem hes (mem_of_get? hget)
  cases hmap with
  | map hinner => exact ⟨_, _, hget, hget', hinner, hvalue⟩

theorem Replaces.wellKeyed_inMap (h : Replaces name (InMap S) es es')
    (hes : Value.entriesWellKeyed es = true) (hS : ∀ inner inner', S inner inner' →
      Value.entriesWellKeyed inner = true → Value.entriesWellKeyed inner' = true) :
    Value.entriesWellKeyed es' = true := by
  refine h.wellKeyed hes fun v v' hmap hv => ?_
  cases hmap with
  | map hinner => exact hS _ _ hinner hv

end Replaces

end Entries

open Entries

/-! ## Changes that do not count -/

/-- One change to TLS settings that does not count. -/
inductive TlsEdit : Entries → Entries → Prop
  | order {es es' : Entries} (h : es.Perm es') : TlsEdit es es'
  | dropNull {es es' : Entries} (h : DropsNull TlsField.names es es') : TlsEdit es es'

/-- One change to settings that does not count. -/
inductive SettingsEdit : Entries → Entries → Prop
  | order {es es' : Entries} (h : es.Perm es') : SettingsEdit es es'
  | dropNull {es es' : Entries} (h : DropsNull Settings.keys es es') : SettingsEdit es es'
  | tls {es es' : Entries} (h : Replaces "tls" (InMap TlsEdit) es es') : SettingsEdit es es'

/-- One change to the section of a server that does not count: to its order, or to the order of a
connector's mapping. -/
inductive ServerEdit : Entries → Entries → Prop
  | order {es es' : Entries} (h : es.Perm es') : ServerEdit es es'
  | connector {es es' : Entries} (role : Role) (h : Replaces (Server.connectorsKey role)
      (InItem (InMap List.Perm)) es es') : ServerEdit es es'

/-- One change to the mapping of a configuration that does not count. -/
inductive Edit : Entries → Entries → Prop
  | order {es es' : Entries} (h : es.Perm es') : Edit es es'
  | dropSection {es es' : Entries} (h : DropsNull ["server", "dynamic_ports"] es es') : Edit es es'
  | server {es es' : Entries} (h : Replaces "server" (InMap ServerEdit) es es') : Edit es es'
  | settings {es es' : Entries} (h : Replaces "dynamic_ports" (InMap SettingsEdit) es es') :
      Edit es es'

variable {es es' : Entries}

/-! ## TLS material -/

namespace Settings

/-- TLS material depends on the entries that are not null, and on the keys. -/
theorem buildTls_congr (hkeys : es'.checkKeys "tls" TlsField.names = es.checkKeys "tls" TlsField.names)
    (hget : ∀ name, es'.nonNull.get? name = es.nonNull.get? name) :
    buildTls (.map es') = buildTls (.map es) := by
  unfold buildTls checkTextField fieldValue TlsMaterial.ofEntries
  simp only [hkeys, hget, checkBool_congr (hget _)]

theorem buildTls_edited (h : TlsEdit es es') (hes : Value.entriesWellKeyed es = true) :
    buildTls (.map es') = buildTls (.map es) := by
  cases h with
  | order h =>
      have hdistinct : Distinct es.nonNull := (distinct_of_wellKeyed hes).filter _
      exact buildTls_congr (checkKeys_perm h _ _) (get?_perm hdistinct (h.filter _))
  | dropNull h => exact buildTls_congr (h.checkKeys_eq _) fun name => by rw [h.nonNull_eq]

end Settings

theorem TlsEdit.wellKeyed (h : TlsEdit es es') (hes : Value.entriesWellKeyed es = true) :
    Value.entriesWellKeyed es' = true := by
  cases h with
  | order h => exact wellKeyed_perm hes h
  | dropNull h => exact h.wellKeyed hes

/-! ## Settings -/

namespace Settings

/-- Settings depend on the entries that are not null, and on the keys. -/
theorem ofEntries_congr
    (hkeys : es'.checkKeys "dynamic_ports" keys = es.checkKeys "dynamic_ports" keys)
    (hget : ∀ name, name ≠ "tls" → es'.nonNull.get? name = es.nonNull.get? name)
    (htls : keptTls es'.nonNull = keptTls es.nonNull) : ofEntries es' = ofEntries es := by
  rw [ofEntries_eq, ofEntries_eq, hkeys, htls, checkBool_congr (hget _ (by decide)),
    checkBool_congr (hget "use_secure_dynamic_ports" (by decide)),
    keptFinder_congr (hget _ (by decide)), hget _ (by decide), hget _ (by decide),
    hget _ (by decide), hget _ (by decide)]

theorem ofEntries_edited (h : SettingsEdit es es') (hes : Value.entriesWellKeyed es = true) :
    ofEntries es' = ofEntries es := by
  have hdistinct : Distinct es.nonNull := (distinct_of_wellKeyed hes).filter _
  cases h with
  | order h =>
      have hget := get?_perm hdistinct (h.filter _)
      exact ofEntries_congr (checkKeys_perm h _ _) (fun name _ => hget name) (keptTls_congr (hget _))
  | dropNull h =>
      exact ofEntries_congr (h.checkKeys_eq _) (fun name _ => by rw [h.nonNull_eq])
        (by rw [h.nonNull_eq])
  | tls h =>
      have hnonNull : Value.entriesWellKeyed es.nonNull = true :=
        wellKeyed_sublist hes List.filter_sublist
      refine ofEntries_congr (checkKeys_of_keys_eq h.keys_eq _ _)
        (fun name hname => h.nonNull.get?_other hname) ?_
      obtain ⟨tls, tls', hget, hget', hedit, htls⟩ := h.nonNull.get?_inMap hnonNull
      unfold keptTls
      rw [hget, hget']
      dsimp only
      rw [buildTls_edited hedit htls]

end Settings

theorem SettingsEdit.wellKeyed (h : SettingsEdit es es') (hes : Value.entriesWellKeyed es = true) :
    Value.entriesWellKeyed es' = true := by
  cases h with
  | order h => exact wellKeyed_perm hes h
  | dropNull h => exact h.wellKeyed hes
  | tls h => exact h.wellKeyed_inMap hes fun _ _ => TlsEdit.wellKeyed

/-! ## Servers -/

/-- A connector does not depend on the order of its mapping. -/
theorem Connector.ofEntries_perm (hes : es.Distinct) (h : es.Perm es') :
    ofEntries es' = ofEntries es := by
  have htype : typeName es' = typeName es := by
    unfold typeName
    rw [get?_perm hes h]
  have hproperties : (es.without "type").Perm (es'.without "type") := h.filter _
  have hget : ∀ name, (es'.without "type").get? name = (es.without "type").get? name :=
    get?_perm (hes.filter _) hproperties
  have hbuild : ∀ scheme, ofProperties scheme (es'.without "type") =
      ofProperties scheme (es.without "type") := by
    intro scheme
    cases scheme with
    | http => exact congrArg http (funext fun f => by rw [listenerOf, hget, listenerOf])
    | https =>
        exact congrArg₂ https (funext fun f => by rw [listenerOf, hget, listenerOf])
          (funext fun f => by rw [tlsOf, hget, tlsOf])
  unfold ofEntries
  simp only [htype, hbuild, checkKeys_perm hproperties]

/-- A traversal gives the same with one item replaced by another one that gives the same. -/
theorem mapM_replaced {α β : Type} {f : α → Except Fault β} (before after : List α) {a a' : α}
    (h : f a' = f a) : (before ++ a' :: after).mapM f = (before ++ a :: after).mapM f := by
  rw [List.mapM_append, List.mapM_append, List.mapM_cons, List.mapM_cons, h]

namespace Server

theorem connectorsOf_congr {role : Role}
    (h : es'.get? (connectorsKey role) = es.get? (connectorsKey role)) :
    connectorsOf es' role = connectorsOf es role := by
  unfold connectorsOf
  rw [h]

theorem connectorsKey_injective {role other : Role} (h : connectorsKey role = connectorsKey other) :
    role = other := by
  cases role <;> cases other
  case application.application => rfl
  case admin.admin => rfl
  all_goals exact absurd h (by decide)

theorem ofEntries_edited (h : ServerEdit es es') (hes : Value.entriesWellKeyed es = true) :
    ofEntries es' = ofEntries es := by
  have hdistinct : Distinct es := distinct_of_wellKeyed hes
  suffices hroles : ∀ role, connectorsOf es' role = connectorsOf es role by
    unfold ofEntries
    rw [hroles, hroles]
  intro role
  cases h with
  | order h => exact connectorsOf_congr (get?_perm hdistinct h _)
  | connector edited h =>
      by_cases hrole : role = edited
      · subst hrole
        obtain ⟨v, v', hget, hget', hitem⟩ := h.get?_same hdistinct
        have hvalue := wellKeyed_of_mem hes (mem_of_get? hget)
        unfold connectorsOf
        rw [hget, hget']
        cases hitem with
        | list before after hmap =>
            cases hmap with
            | map hperm =>
                have hitem := (Value.itemsWellKeyed_iff _).mp hvalue _
                  (List.mem_append_right _ List.mem_cons_self)
                exact mapM_replaced before after
                  (Connector.ofEntries_perm (distinct_of_wellKeyed hitem) hperm)
      · exact connectorsOf_congr (h.get?_other fun hkey => hrole (connectorsKey_injective hkey))

end Server

theorem ServerEdit.wellKeyed (h : ServerEdit es es') (hes : Value.entriesWellKeyed es = true) :
    Value.entriesWellKeyed es' = true := by
  cases h with
  | order h => exact wellKeyed_perm hes h
  | connector role h =>
      refine h.wellKeyed hes fun v v' hlist hv => ?_
      cases hlist with
      | list before after hmap =>
          cases hmap with
          | map hperm =>
              have hitems := (Value.itemsWellKeyed_iff _).mp hv
              rw [List.forall_mem_append, List.forall_mem_cons] at hitems
              refine (Value.itemsWellKeyed_iff _).mpr ?_
              rw [List.forall_mem_append, List.forall_mem_cons]
              exact ⟨hitems.1, wellKeyed_perm hitems.2.1 hperm, hitems.2.2⟩

/-! ## Configurations -/

theorem Edit.wellKeyed (h : Edit es es') (hes : Value.entriesWellKeyed es = true) :
    Value.entriesWellKeyed es' = true := by
  cases h with
  | order h => exact wellKeyed_perm hes h
  | dropSection h => exact h.wellKeyed hes
  | server h => exact h.wellKeyed_inMap hes fun _ _ => ServerEdit.wellKeyed
  | settings h => exact h.wellKeyed_inMap hes fun _ _ => SettingsEdit.wellKeyed

namespace Configuration

variable {data data' : Entries}

/-- The section under a name, found among the entries that are not null. -/
theorem sectionOf_eq (h : data.Distinct) (name : String) :
    sectionOf data name = match data.nonNull.get? name with
      | none => .ok []
      | some (.map es) => .ok es
      | some _ => fail (.sectionNotMapping name) := by
  unfold sectionOf
  rw [get?_nonNull h]
  rcases data.get? name with _ | (_ | _) <;> rfl

theorem sectionOf_congr {name : String} (h : data'.get? name = data.get? name) :
    sectionOf data' name = sectionOf data name := by
  unfold sectionOf
  rw [h]

theorem sectionOf_dropped {names : List String} (h : DropsNull names data data')
    (hdata : Value.entriesWellKeyed data = true) (name : String) :
    sectionOf data' name = sectionOf data name := by
  rw [sectionOf_eq (distinct_of_wellKeyed hdata),
    sectionOf_eq (distinct_of_wellKeyed (h.wellKeyed hdata)), h.nonNull_eq]

/-- A section that is a mapping is that mapping, also after it was edited. -/
theorem sectionOf_replaced {name : String} {R : Entries → Entries → Prop}
    (h : Replaces name (InMap R) data data') (hdata : Value.entriesWellKeyed data = true) :
    ∃ es es', sectionOf data name = .ok es ∧ sectionOf data' name = .ok es' ∧ R es es' ∧
      Value.entriesWellKeyed es = true := by
  obtain ⟨es, es', hget, hget', hR, hes⟩ := h.get?_inMap hdata
  refine ⟨es, es', ?_, ?_, hR, hes⟩
  · unfold sectionOf
    rw [hget]
  · unfold sectionOf
    rw [hget']

theorem ofEntries_edit (h : Edit data data') (hdata : Value.entriesWellKeyed data = true) :
    ofEntries data' = ofEntries data := by
  unfold ofEntries
  cases h with
  | order h =>
      have hget := get?_perm (distinct_of_wellKeyed hdata) h
      rw [sectionOf_congr (hget _), sectionOf_congr (hget _)]
  | dropSection h => rw [sectionOf_dropped h hdata, sectionOf_dropped h hdata]
  | server h =>
      obtain ⟨es, es', hsection, hsection', hedit, hes⟩ := sectionOf_replaced h hdata
      have hother : sectionOf data' "dynamic_ports" = sectionOf data "dynamic_ports" :=
        sectionOf_congr (h.get?_other (by decide))
      rw [hother, hsection, hsection']
      simp only [ok_bind, Server.ofEntries_edited hedit hes]
  | settings h =>
      obtain ⟨es, es', hsection, hsection', hedit, hes⟩ := sectionOf_replaced h hdata
      have hother : sectionOf data' "server" = sectionOf data "server" :=
        sectionOf_congr (h.get?_other (by decide))
      rw [hother, hsection, hsection']
      simp only [ok_bind, Settings.ofEntries_edited hedit hes]

/-- However often the order of the mappings in a configuration is changed and nulls are taken out of
them, the same is built: an equal configuration, or the same fault with the same message. -/
theorem ofEntries_rearranged (h : Relation.ReflTransGen Edit data data')
    (hdata : Value.entriesWellKeyed data = true) :
    Value.entriesWellKeyed data' = true ∧ ofEntries data' = ofEntries data := by
  induction h with
  | refl => exact ⟨hdata, rfl⟩
  | tail _ hlast ih =>
      obtain ⟨hkeyed, hbuilt⟩ := ih
      exact ⟨hlast.wellKeyed hkeyed, (ofEntries_edit hlast hkeyed).trans hbuilt⟩

/-- Unknown settings are told in the same order, also with a null section less. -/
theorem ofEntries_rearranged_unknown :
    ofEntries [(.text "dynamic_ports", .map [(.text "alpha", .int 1), (.text "zeta", .int 2)])] =
        ofEntries [(.text "dynamic_ports", .map [(.text "zeta", .int 2), (.text "alpha", .int 1)]),
          (.text "server", .null)] ∧
      ofEntries [(.text "dynamic_ports", .map [(.text "zeta", .int 2), (.text "alpha", .int 1)]),
          (.text "server", .null)] =
        .error (.configuration (.propertiesUnknown "dynamic_ports" ["alpha", "zeta"])) := by
  have hdrop : Edit [(.text "dynamic_ports", .map [(.text "zeta", .int 2), (.text "alpha", .int 1)]),
      (.text "server", .null)]
      [(.text "dynamic_ports", .map [(.text "zeta", .int 2), (.text "alpha", .int 1)])] :=
    .dropSection ⟨[_], [], "server", List.mem_cons_self, rfl, rfl⟩
  have horder : Edit
      [(.text "dynamic_ports", .map [(.text "zeta", .int 2), (.text "alpha", .int 1)])]
      [(.text "dynamic_ports", .map [(.text "alpha", .int 1), (.text "zeta", .int 2)])] :=
    .settings ⟨[], [], _, _, rfl, rfl, .map (.order (.swap ..))⟩
  exact ⟨(ofEntries_rearranged (.tail (.single hdrop) horder) rfl).2, rfl⟩

end Configuration

end ListenerPorts
