import ListenerPorts.Proofs.Running

set_option autoImplicit false

/-! # TLS material that reaches the connectors

The TLS material of a secure configuration goes a long way: a mapping is read into material, the
settings hand it to an assigner, and the assigner makes connectors of it. What the connectors hold
in the end is what the mapping says, field by field (`TlsField.carried`).
-/

namespace ListenerPorts

variable {σ : Type}

/-! ## One encrypted connector in each role -/

namespace TlsField

/-- A field that is null carries as little as one that is not there. -/
theorem carried_filter (f : TlsField) (given : Option Value) :
    f.carried (given.filter (!·.isNull)) = f.carried given := by
  cases given with
  | none => rfl
  | some v =>
      by_cases hv : v = .null
      · rw [hv, carried_null]
        exact carried_none f
      · have hkept : (some v).filter (!·.isNull) = some v := by
          simp [Value.isNull_eq_false.mpr hv]
        rw [hkept]

end TlsField

namespace Connector

/-- An encrypted connector that carries what a mapping gives to each TLS field. -/
def carrying (tls : Entries) (port : Value) : Connector :=
  .https (freshListener port) fun f => f.carried (tls.get? f.name)

theorem ofTls_eq_carrying {tls : Entries} {material : TlsMaterial} (hkeys : tls.Distinct)
    (h : Settings.buildTls (.map tls) = .ok material) (port : Value) :
    ofTls port material = .ok (carrying tls port) := by
  rw [Settings.ofTls_of_buildTls h port, carrying]
  refine congrArg (fun fields => Except.ok (https (freshListener port) fields)) ?_
  funext f
  rw [Entries.get?_nonNull hkeys, TlsField.carried_filter]

/-- Such connectors on different ports are the same but for the port. -/
theorem setPort_carrying (tls : Entries) (p q : Value) :
    (carrying tls p).setPort q = carrying tls q :=
  congrArg (https · _) (portSet_portSet ListenerField.default q p)

/-- The properties of such a connector: its port, the defaults of the other listener fields, and the
TLS fields under their property names. -/
theorem properties_carrying (tls : Entries) (port : Value) :
    (carrying tls port).properties =
      ("port", port) :: ("bind_host", ListenerField.bindHost.default) ::
        ("idle_timeout", ListenerField.idleTimeout.default) ::
          TlsField.all.map fun f => (f.propertyName, f.carried (tls.get? f.name)) := rfl

end Connector

namespace Assigner

/-- A secure assignment leaves in each role what its TLS material makes of the port. -/
theorem get_of_assign_secure {a : Assigner} (hmode : a.mode = .dynamic)
    (hsec : a.security = .secure) {tls : TlsMaterial} (htls : a.tls = some tls) {host : Host σ}
    {s s' : Site σ} {ports : ServicePorts} (h : (a.assign host).run s = .ok ports s')
    (role : Role) :
    ∃ c, s'.server.get role = [c] ∧ Connector.ofTls (ports.get role) tls = .ok c := by
  obtain ⟨found, w, -, hwritten, hports, -⟩ := assign_dynamic_ok hmode h
  obtain ⟨material, hmaterial, hget⟩ := get_written_secure hsec hwritten
  have hsame : material = tls := Option.some.inj (hmaterial.symm.trans htls)
  rw [hports, ← hsame]
  exact hget role

end Assigner

/-! ## From the mapping to the connectors -/

namespace Settings

/-- The TLS material of built settings is built from the TLS mapping among them. -/
theorem buildTls_of_ofEntries {all tls : Entries} {s : Settings} (hkeys : all.Distinct)
    (h : ofEntries all = .ok s) (htls : all.get? "tls" = some (.map tls)) :
    ∃ material, s.tls = some material ∧ buildTls (.map tls) = .ok material := by
  have hget : all.nonNull.get? "tls" = some (.map tls) := by
    rw [Entries.get?_nonNull hkeys, htls]
    rfl
  obtain ⟨-, -, -, -, hkept⟩ := of_ofEntries h
  unfold keptTls at hkept
  rw [hget] at hkept
  dsimp only at hkept
  cases hbuild : buildTls (.map tls) with
  | error f =>
      rw [hbuild] at hkept
      cases hkept
  | ok material =>
      rw [hbuild] at hkept
      exact ⟨material, (Except.ok.inj hkept).symm, rfl⟩

end Settings

namespace Service

/-- **TLS settings reach both listeners.** A run of a dynamic and secure configuration that is built
from a mapping with TLS settings and that ends with ports leaves one connector in each role. Both
are encrypted and the same but for the port: the port is the one that is returned, the other
listener fields have their defaults, and every TLS field carries what the settings give under its
name. -/
theorem run_carries_tls {data settings tls : Entries} {c : Configuration}
    (hkeys : Value.entriesWellKeyed data = true) (hbuilt : Configuration.ofEntries data = .ok c)
    (hsettings : data.get? "dynamic_ports" = some (.map settings))
    (htls : settings.get? "tls" = some (.map tls))
    (hdynamic : c.settings.useDynamic.isTrue = true) (hsecure : c.settings.useSecure.isTrue = true)
    (host : Host σ) (w : World σ) (s' : Site σ) (ports : ServicePorts)
    (hrun : (run c.settings host).run ⟨c.server, w⟩ = .ok ports s') :
    ∃ shared : Connector, shared.scheme = .https ∧
      (∀ role, s'.server.get role = [shared.setPort (ports.get role)]) ∧
      ∀ port, (shared.setPort port).properties =
        ("port", port) :: ("bind_host", ListenerField.bindHost.default) ::
          ("idle_timeout", ListenerField.idleTimeout.default) ::
            TlsField.all.map fun f => (f.propertyName, f.carried (tls.get? f.name)) := by
  -- the TLS settings are those that the assigner gets
  obtain ⟨-, entries, -, hsection, -, hentries⟩ := Configuration.of_ofEntries hbuilt
  have hsame : entries = settings := by
    unfold Configuration.sectionOf at hsection
    rw [hsettings] at hsection
    exact (Except.ok.inj hsection).symm
  rw [hsame] at hentries
  have hsettingsKeys : Value.entriesWellKeyed settings = true :=
    Entries.wellKeyed_of_mem hkeys (Entries.mem_of_get? hsettings)
  have htlsKeys : Value.entriesWellKeyed tls = true :=
    Entries.wellKeyed_of_mem hsettingsKeys (Entries.mem_of_get? htls)
  obtain ⟨material, hmaterial, hbuild⟩ :=
    Settings.buildTls_of_ofEntries (Entries.distinct_of_wellKeyed hsettingsKeys) hentries htls
  -- the assignment makes the connectors, and nothing is written after it
  obtain ⟨a, t, hcreate, hassign, -, hserver⟩ := of_run_ok hrun
  obtain ⟨hsec, hatls, hmode⟩ := Settings.of_createAssigner hcreate
  have hdyn : a.mode = .dynamic := by
    rcases hmode with ⟨-, hdyn, -⟩ | ⟨hstatic, -⟩
    · exact hdyn
    · rw [hdynamic] at hstatic
      cases hstatic
  have hasec : a.security = .secure := hsec.trans (if_pos hsecure)
  have hget : ∀ role, s'.server.get role = [Connector.carrying tls (ports.get role)] := by
    intro role
    obtain ⟨d, hd, hof⟩ :=
      Assigner.get_of_assign_secure hdyn hasec (hatls.trans hmaterial) hassign role
    rw [Connector.ofTls_eq_carrying (Entries.distinct_of_wellKeyed htlsKeys) hbuild] at hof
    rw [hserver, hd, Except.ok.inj hof]
  refine ⟨Connector.carrying tls .null, rfl, ?_, ?_⟩
  · intro role
    rw [Connector.setPort_carrying, hget]
  · intro port
    rw [Connector.setPort_carrying, Connector.properties_carrying]

/-- A lone text that is empty makes a list, an empty list makes none, and null makes the default. -/
theorem run_carries_tls_lone_text :
    let tls : Entries := [(.text "key_store_path", .text "a.jks"),
      (.text "key_store_password", .text ""), (.text "trust_store_path", .text "b.jks"),
      (.text "trust_store_password", .text "x"), (.text "key_store_type", .null),
      (.text "supported_ciphers", .list []), (.text "supported_protocols", .text "")]
    let settings : Entries := [(.text "tls", .map tls), (.text "max_dynamic_port", .int 4),
      (.text "min_dynamic_port", .int 1), (.text "free_port_finder", .text "incrementing")]
    let data : Entries := [(.text "dynamic_ports", .map settings)]
    let host : Host Unit := ⟨.answering fun port _ => (.ok (port != 1), ()), fun _ => 0⟩
    let ports : ServicePorts := ⟨.int 2, .int 3⟩
    ∃ (c : Configuration) (s' : Site Unit) (shared : Connector),
      Configuration.ofEntries data = .ok c ∧
      (run c.settings host).run ⟨c.server, World.fresh ()⟩ = .ok ports s' ∧
      (∀ role, s'.server.get role = [shared.setPort (ports.get role)]) ∧
      ("supported_protocols", .list [.text ""]) ∈ shared.properties ∧
      ("supported_cipher_suites", .null) ∈ shared.properties ∧
      ("key_store_type", .text "JKS") ∈ shared.properties := by
  intro tls settings data host ports
  obtain ⟨c, hbuilt⟩ : ∃ c, Configuration.ofEntries data = .ok c := ⟨_, rfl⟩
  have hend : ends (run c.settings host) ⟨c.server, World.fresh ()⟩ = .ok ports := by
    cases hbuilt
    refine run_of_assign_ok rfl rfl (fun role => ?_) rfl
    cases role with
    | application => exact List.forall_mem_singleton.mpr (Value.writable_port (p := 2) (by decide))
    | admin => exact List.forall_mem_singleton.mpr (Value.writable_port (p := 3) (by decide))
  have hrun := run_of_ends_ok hend
  have hmodes : c.settings.useDynamic.isTrue = true ∧ c.settings.useSecure.isTrue = true := by
    cases hbuilt
    exact ⟨rfl, rfl⟩
  obtain ⟨shared, -, hget, hproperties⟩ :=
    run_carries_tls (by decide) hbuilt rfl rfl hmodes.1 hmodes.2 host _ _ _ hrun
  have hfield : ∀ f : TlsField,
      (f.propertyName, f.carried (tls.get? f.name)) ∈ shared.properties := by
    intro f
    have hall := hproperties shared.port
    rw [Connector.setPort_port] at hall
    have hmem := List.mem_map_of_mem (f := fun f => (f.propertyName, f.carried (tls.get? f.name)))
      (TlsField.mem_all f)
    rw [hall]
    simp only [List.mem_cons, hmem, or_true]
  exact ⟨c, _, shared, hbuilt, hrun, hget, hfield .supportedProtocols, hfield .supportedCiphers,
    hfield .keyStoreType⟩

end Service

end ListenerPorts
