import ListenerPorts.Proofs.Editing
import ListenerPorts.Proofs.LowerCase
import ListenerPorts.Proofs.Properties

set_option autoImplicit false

/-! # The normal form of a configuration

A configuration can be spelled out as a mapping that gives everything in it: the type and all
properties of each connector, all settings, and all fields of the TLS material. What was built from
any mapping is built again from the mapping that spells it out. So each rewriting that building does
(names in lower case, lone texts to lists, nulls to defaults) leaves alone what it has made
(`Configuration.ofEntries_spelled_out`).
-/

namespace ListenerPorts

open Entries

/-! ## Connectors and servers -/

/-- The mapping that gives the type and all properties of a connector. -/
def Connector.toEntries (c : Connector) : Entries :=
  named (("type", .text c.scheme.name) :: c.properties)

theorem Connector.ofEntries_toEntries (c : Connector) : ofEntries c.toEntries = .ok c := by
  have hlower : Text.lower c.scheme.name = c.scheme.name := by
    cases c.scheme <;> decide
  have hwritten : WrittenAs c c.toEntries :=
    ⟨[("type", .text c.scheme.name)], c.properties, Or.inr ⟨_, rfl, hlower⟩, List.Sublist.refl _,
      fun p hp hmissing => absurd hp hmissing, List.Perm.refl _⟩
  exact (ofEntries_eq_ok_iff_describes hwritten.distinct).mpr hwritten.describes

namespace Server

/-- The mapping that lists the connectors of each role. -/
def toEntries (server : Server) : Entries :=
  named <| [Role.application, Role.admin].map fun role =>
    (connectorsKey role, .list ((server.get role).map fun c => .map c.toEntries))

theorem mapM_toEntries (cs : List Connector) :
    (cs.map fun c => Value.map c.toEntries).mapM Connector.ofValue = .ok cs := by
  induction cs with
  | nil => rfl
  | cons c cs ih =>
      rw [List.map_cons, List.mapM_cons, ih]
      show (Connector.ofEntries c.toEntries >>= _) = _
      rw [Connector.ofEntries_toEntries]
      rfl

theorem ofEntries_toEntries (server : Server) : ofEntries server.toEntries = .ok server := by
  have hroles : ∀ role, connectorsOf server.toEntries role = .ok (server.get role) := by
    intro role
    have hget : server.toEntries.get? (connectorsKey role) =
        some (.list ((server.get role).map fun c => .map c.toEntries)) := by
      cases role <;> rfl
    unfold connectorsOf
    rw [hget]
    exact mapM_toEntries _
  unfold ofEntries
  rw [hroles, hroles]
  rfl

end Server

/-! ## TLS material -/

def TlsMaterial.toEntries (tls : TlsMaterial) : Entries :=
  named <| TlsField.all.map fun f => (f.name, tls f)

/-- The value that a field keeps of what is given to it, if it is given something that fits. -/
def TlsField.kept (f : TlsField) : Option Value → Option Value
  | none => some f.default
  | some v => match f.kind, v with
    | .text, .text s => some (.text s)
    | .texts, .text s => some (.list [.text s])
    | .texts, .list items => if items.all Value.isText then some (.list items) else none
    | .flag, .bool b => some (.bool b)
    | _, _ => none

namespace TlsField

variable {f : TlsField} {given : Option Value} {v : Value}

/-- What a field keeps is kept as it is, where null is as good as nothing. -/
theorem kept_idem (h : f.kept given = some v) : f.kept ((some v).filter (!·.isNull)) = some v := by
  cases given with
  | none =>
      cases h
      cases f <;> rfl
  | some w =>
      unfold kept at h ⊢
      cases hkind : f.kind with
      | text =>
          rw [hkind] at h
          cases w with
          | text s =>
              cases h
              rfl
          | _ => cases h
      | texts =>
          rw [hkind] at h
          cases w with
          | text s =>
              cases h
              rfl
          | list items =>
              obtain ⟨hitems, heq⟩ := Option.ite_none_right_eq_some.mp h
              cases heq
              exact if_pos hitems
          | _ => cases h
      | flag =>
          rw [hkind] at h
          cases w with
          | bool b =>
              cases h
              rfl
          | _ => cases h

/-- A field that holds no list keeps exactly what is given to it. -/
theorem kept_eq_getD (hf : f.kind ≠ .texts) (h : f.kept given = some v) :
    v = given.getD f.default := by
  cases given with
  | none =>
      cases h
      rfl
  | some w =>
      unfold kept at h
      cases hkind : f.kind with
      | texts => exact absurd hkind hf
      | text | flag =>
          rw [hkind] at h
          cases w <;> cases h
          rfl

end TlsField

namespace Settings

variable {es all : Entries} {f : TlsField} {v : Value} {tls : TlsMaterial}

theorem checkTextField_eq_ok_iff (hf : f.kind = .text) : checkTextField es f = .ok () ↔
    f.kept (es.get? f.name) = some ((es.get? f.name).getD f.default) := by
  unfold checkTextField TlsField.kept
  rw [hf]
  cases es.get? f.name with
  | none => exact iff_of_true rfl rfl
  | some v =>
      cases v with
      | text s => exact iff_of_true rfl rfl
      | _ => exact iff_of_false nofun nofun

theorem fieldValue_eq_ok_iff (hf : f.kind = .texts) : fieldValue es f = .ok v ↔
    f.kept (es.get? f.name) = some v := by
  have hok : ∀ w : Value, (Except.ok w : Except Fault Value) = .ok v ↔ some w = some v :=
    fun w => by rw [Except.ok.injEq, Option.some.injEq]
  unfold fieldValue TlsField.kept
  rw [hf]
  cases es.get? f.name with
  | none => exact hok _
  | some w =>
      cases w with
      | text s => exact hok _
      | list items =>
          dsimp only [listField]
          split
          · exact hok _
          · exact iff_of_false nofun nofun
      | _ => exact iff_of_false nofun nofun

theorem checkBool_eq_ok_iff (hf : f.kind = .flag) (shownName : String) :
    checkBool es f.name shownName = .ok () ↔
      f.kept (es.get? f.name) = some ((es.get? f.name).getD f.default) := by
  unfold checkBool TlsField.kept
  rw [hf]
  cases es.get? f.name with
  | none => exact iff_of_true rfl rfl
  | some v =>
      cases v with
      | bool b => exact iff_of_true rfl rfl
      | _ => exact iff_of_false nofun nofun

/-- TLS material is built from a mapping if its keys are fields, and each field keeps what the
mapping gives to it. -/
theorem buildTls_eq_ok_iff : buildTls (.map all) = .ok tls ↔
    all.checkKeys "tls" TlsField.names = .ok () ∧
      ∀ f : TlsField, f.kept (all.nonNull.get? f.name) = some (tls f) := by
  unfold buildTls
  constructor
  · intro h
    obtain ⟨⟨⟩, hknown, h⟩ := ok_of_bind_ok h
    obtain ⟨⟨⟩, htexts, h⟩ := ok_of_bind_ok h
    obtain ⟨protocols, hprotocols, h⟩ := ok_of_bind_ok h
    obtain ⟨ciphers, hciphers, h⟩ := ok_of_bind_ok h
    obtain ⟨⟨⟩, hflag, h⟩ := ok_of_bind_ok h
    cases h
    rw [forM_eq_ok_iff] at htexts
    refine ⟨hknown, fun f => ?_⟩
    have htext : ∀ f : TlsField, f.kind = .text → f.kept (all.nonNull.get? f.name) =
        some (TlsMaterial.ofEntries all.nonNull f) :=
      fun f hf => (checkTextField_eq_ok_iff hf).mp (htexts f ((TlsField.mem_textFields f).mpr hf))
    cases f with
    | supportedProtocols => exact (fieldValue_eq_ok_iff rfl).mp hprotocols
    | supportedCiphers => exact (fieldValue_eq_ok_iff rfl).mp hciphers
    | disableSniHostCheck =>
        exact (checkBool_eq_ok_iff (f := .disableSniHostCheck) rfl _).mp hflag
    | _ => exact htext _ rfl
  · rintro ⟨hknown, hkept⟩
    have hplain : ∀ f : TlsField, f.kind ≠ .texts →
        tls f = (all.nonNull.get? f.name).getD f.default :=
      fun f hf => TlsField.kept_eq_getD hf (hkept f)
    have htexts : TlsField.textFields.forM (checkTextField all.nonNull) = .ok () := by
      refine forM_eq_ok_iff.mpr fun f hmem => ?_
      have hf := (TlsField.mem_textFields f).mp hmem
      rw [checkTextField_eq_ok_iff hf, hkept, hplain f (by rw [hf]; decide)]
    have hflag : checkBool all.nonNull "disable_sni_host_check" "tls.disable_sni_host_check" =
        .ok () := by
      refine (checkBool_eq_ok_iff (f := .disableSniHostCheck) rfl _).mpr ?_
      rw [hkept, hplain _ (by decide)]
    dsimp only
    rw [hknown, htexts, (fieldValue_eq_ok_iff rfl).mpr (hkept .supportedProtocols),
      (fieldValue_eq_ok_iff rfl).mpr (hkept .supportedCiphers), hflag]
    refine congrArg Except.ok (funext fun f => ?_)
    cases f with
    | supportedProtocols | supportedCiphers => rfl
    | _ => exact (hplain _ (by decide)).symm

/-- TLS material that was built is built again from the mapping of its fields. -/
theorem buildTls_toEntries (h : buildTls (.map all) = .ok tls) :
    buildTls (.map tls.toEntries) = .ok tls := by
  obtain ⟨-, hkept⟩ := buildTls_eq_ok_iff.mp h
  have hmem : ∀ f : TlsField, (f.name, tls f) ∈ TlsField.all.map fun f => (f.name, tls f) :=
    fun f => List.mem_map_of_mem (f := fun f => (f.name, tls f)) f.mem_all
  have hnodup : ((TlsField.all.map fun f => (f.name, tls f)).map (·.1)).Nodup := by
    rw [List.map_map]
    show (TlsField.all.map TlsField.name).Nodup
    decide
  refine buildTls_eq_ok_iff.mpr ⟨checkKeys_eq_ok_iff.mpr fun k w hentry => ?_, fun f => ?_⟩
  · obtain ⟨name, rfl, hname⟩ := mem_named.mp hentry
    obtain ⟨f, hf, heq⟩ := List.mem_map.mp hname
    exact ⟨name, List.mem_map.mpr ⟨f, hf, congrArg Prod.fst heq⟩, rfl⟩
  · unfold TlsMaterial.toEntries
    rw [get?_nonNull_named hnodup (hmem f)]
    exact TlsField.kept_idem (hkept f)

/-! ## Finders and settings -/

/-- A finder setting that is kept is kept again as it is. -/
theorem resolveFinder_idem {w : Value} (h : resolveFinder v = .ok w) : resolveFinder w = .ok w := by
  unfold resolveFinder at h
  cases hname : finderName? v with
  | none =>
      -- a mapping that names no finder was kept as it is
      rw [hname] at h
      cases h
      unfold resolveFinder
      rw [hname]
  | some n =>
      rw [hname] at h
      cases n with
      | text name =>
          obtain ⟨⟨⟩, hdiscard, h⟩ := ok_of_bind_ok h
          cases h
          cases hcreate : Registry.builtIn.create (.text name) with
          | error fault =>
              rw [hcreate] at hdiscard
              cases hdiscard
          | ok finder =>
              unfold resolveFinder
              dsimp only [finderName?]
              rw [Registry.create_lower hcreate, Text.lower_lower]
              rfl
      | _ => cases h

/-- No finder setting that is kept is null. -/
theorem ne_null_of_resolveFinder {w : Value} (h : resolveFinder v = .ok w) : w ≠ .null := by
  rintro rfl
  exact nomatch resolveFinder_idem h

theorem resolveFinder_of_keptFinder (h : keptFinder es = .ok v) : resolveFinder v = .ok v := by
  unfold keptFinder at h
  cases hget : es.get? "free_port_finder" with
  | none =>
      rw [hget] at h
      cases h
      exact resolveFinder_name .random
  | some given =>
      rw [hget] at h
      exact resolveFinder_idem h

/-- A setting that is not null is not null by default either. -/
theorem getD_nonNull_ne_null {name : String} (hv : v ≠ .null) :
    (all.nonNull.get? name).getD v ≠ .null := by
  cases hget : all.nonNull.get? name with
  | none => exact hv
  | some w => exact ne_null_of_get?_nonNull hget

def given (s : Settings) : List (String × Value) :=
  [("use_dynamic_ports", s.useDynamic), ("use_secure_dynamic_ports", s.useSecure),
    ("min_dynamic_port", s.minPort), ("max_dynamic_port", s.maxPort), ("free_port_finder", s.finder),
    ("tls", match s.tls with
      | none => .null
      | some tls => .map tls.toEntries)]

def toEntries (s : Settings) : Entries := named s.given

variable {s : Settings}

theorem nodup_given (s : Settings) : (s.given.map (·.1)).Nodup := by
  show keys.Nodup
  decide

/-- A setting is found in the mapping that gives all of them unless it is null. -/
theorem get?_toEntries {name : String} (hmem : (name, v) ∈ s.given) (hv : v ≠ .null) :
    s.toEntries.nonNull.get? name = some v := by
  refine (get?_nonNull_named s.nodup_given hmem).trans ?_
  rw [Option.filter_some, Value.isNull_eq_false.mpr hv]
  rfl

theorem checkKeys_toEntries (s : Settings) : s.toEntries.checkKeys "dynamic_ports" keys = .ok () := by
  refine checkKeys_eq_ok_iff.mpr fun k w hentry => ?_
  obtain ⟨name, rfl, hname⟩ := mem_named.mp hentry
  have hkey : name ∈ s.given.map (·.1) := List.mem_map_of_mem (f := Prod.fst) hname
  exact ⟨name, hkey, rfl⟩

theorem keptTls_toEntries (h : keptTls es = .ok s.tls) :
    keptTls s.toEntries.nonNull = .ok s.tls := by
  unfold keptTls
  cases htls : s.tls with
  | none =>
      have hnull : ("tls", Value.null) ∈ s.given := by simp [given, htls]
      have hmissing : s.toEntries.nonNull.get? "tls" = none :=
        get?_nonNull_named s.nodup_given hnull
      rw [hmissing]
  | some tls =>
      obtain ⟨_, hbuild⟩ := exists_buildTls_of_keptTls (htls ▸ h)
      have hgiven : ("tls", Value.map tls.toEntries) ∈ s.given := by simp [given, htls]
      rw [get?_toEntries hgiven (by simp)]
      dsimp only
      rw [buildTls_toEntries hbuild]
      rfl

/-- Settings that were built are built again from the mapping that gives all of them. -/
theorem ofEntries_toEntries (h : ofEntries all = .ok s) : ofEntries s.toEntries = .ok s := by
  have hbuilt := ofEntries_eq_ok_iff.mp h
  obtain ⟨⟨dynamic, hdynamic⟩, secure, hsecure⟩ := flags_of_ofEntries h
  have hresolved := resolveFinder_of_keptFinder hbuilt.finder
  have hmin : s.minPort ≠ .null := hbuilt.minPort ▸ getD_nonNull_ne_null (by simp)
  have hmax : s.maxPort ≠ .null := hbuilt.maxPort ▸ getD_nonNull_ne_null (by simp)
  have huse : s.toEntries.nonNull.get? "use_dynamic_ports" = some s.useDynamic :=
    get?_toEntries (by simp [given]) (by simp [hdynamic])
  have huseSecure : s.toEntries.nonNull.get? "use_secure_dynamic_ports" = some s.useSecure :=
    get?_toEntries (by simp [given]) (by simp [hsecure])
  have hfinder : s.toEntries.nonNull.get? "free_port_finder" = some s.finder :=
    get?_toEntries (by simp [given]) (ne_null_of_resolveFinder hresolved)
  refine ofEntries_eq_ok_iff.mpr ?_
  constructor
  case known => exact s.checkKeys_toEntries
  case dynamicFlag =>
    unfold checkBool
    rw [huse, hdynamic]
  case secureFlag =>
    unfold checkBool
    rw [huseSecure, hsecure]
  case finder =>
    unfold keptFinder
    rw [hfinder]
    exact hresolved
  case tls => exact keptTls_toEntries hbuilt.tls
  case useDynamic =>
    rw [huse]
    rfl
  case useSecure =>
    rw [huseSecure]
    rfl
  case minPort =>
    rw [get?_toEntries (by simp [given]) hmin]
    rfl
  case maxPort =>
    rw [get?_toEntries (by simp [given]) hmax]
    rfl

end Settings

/-! ## Configurations -/

namespace Configuration

/-- The mapping that spells a configuration out. -/
def toEntries (c : Configuration) : Entries :=
  named [("server", .map c.server.toEntries), ("dynamic_ports", .map c.settings.toEntries)]

/-- **The normal form of a configuration.** A configuration that was built is built again from the
mapping that spells it out. -/
theorem ofEntries_spelled_out {data : Entries} {c : Configuration} (h : ofEntries data = .ok c) :
    ofEntries c.toEntries = .ok c := by
  obtain ⟨_, settingsEntries, -, -, -, hsettings⟩ := of_ofEntries h
  show (Server.ofEntries c.server.toEntries >>= fun server =>
    Settings.ofEntries c.settings.toEntries >>= fun settings =>
      Except.ok (⟨server, settings⟩ : Configuration)) = _
  rw [Server.ofEntries_toEntries, Settings.ofEntries_toEntries hsettings]
  rfl

/-- A finder in capitals, a lone protocol and two nulls are rewritten once: the finder to lower case
and the protocol to a list, while the null of the connector stays. -/
theorem ofEntries_spelled_out_mixed :
    let tls : Entries := [(.text "supported_protocols", .text "TLSv1.3"), (.text "cert_alias", .null)]
    let settings : Entries := [(.text "free_port_finder", .text "Adjacent"), (.text "tls", .map tls)]
    let connector : Entries := [(.text "type", .text "HTTPS"), (.text "port", .null)]
    let server : Entries := [(.text "admin_connectors", .list [.map connector])]
    let data : Entries := [(.text "dynamic_ports", .map settings), (.text "server", .map server)]
    ∃ c, ofEntries data = .ok c ∧ c.settings.finder = .text "adjacent" ∧
      c.settings.tls.map (· .supportedProtocols) = some (.list [.text "TLSv1.3"]) ∧
      c.server.admin.map (·.port) = [.null] ∧ ofEntries c.toEntries = .ok c := by
  intro tls settings connector server data
  have hbuilt : ofEntries data = .ok _ := rfl
  exact ⟨_, hbuilt, rfl, rfl, rfl, ofEntries_spelled_out hbuilt⟩

end Configuration

end ListenerPorts
