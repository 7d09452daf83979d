import ListenerPorts.Config.Build
import ListenerPorts.Proofs.FinderNames
import ListenerPorts.Proofs.Mappings

set_option autoImplicit false

/-! # What a built configuration is like

A configuration that could be built needs no second check of what building has looked at: its finder
is registered, and its TLS material makes connectors. The numbers in it have a text if those in the
mapping have one, so that messages can show them.
-/

namespace ListenerPorts

variable {ε α β : Type}

/-! ## Computations that succeed -/

theorem ok_of_bind_ok {x : Except ε α} {f : α → Except ε β} {b : β}
    (h : (x >>= f) = .ok b) : ∃ a, x = .ok a ∧ f a = .ok b := by
  cases x with
  | error e => cases h
  | ok a => exact ⟨a, rfl, h⟩

/-- What succeeds hands on its result. -/
theorem ok_bind (a : α) (f : α → Except Fault β) : (Except.ok a >>= f) = f a := rfl

/-- Every result of a traversal comes from one of the items. -/
theorem exists_of_mem_mapM {f : α → Except ε β} {xs : List α} {ys : List β}
    (h : xs.mapM f = .ok ys) : ∀ y ∈ ys, ∃ x ∈ xs, f x = .ok y := by
  induction xs generalizing ys with
  | nil =>
      cases h
      exact List.forall_mem_nil _
  | cons x xs ih =>
      rw [List.mapM_cons] at h
      obtain ⟨z, hz, h⟩ := ok_of_bind_ok h
      obtain ⟨zs, hzs, h⟩ := ok_of_bind_ok h
      cases h
      rw [List.forall_mem_cons]
      refine ⟨⟨x, List.mem_cons_self, hz⟩, fun y hy => ?_⟩
      obtain ⟨x', hx', hy'⟩ := ih hzs y hy
      exact ⟨x', List.mem_cons_of_mem _ hx', hy'⟩

/-- Checks that come one after the other pass if each of them does. -/
theorem forM_eq_ok_iff {check : α → Except Fault Unit} {xs : List α} :
    xs.forM check = .ok () ↔ ∀ x ∈ xs, check x = .ok () := by
  induction xs with
  | nil => exact iff_of_true rfl (List.forall_mem_nil _)
  | cons x xs ih =>
      rw [List.forall_mem_cons, ← ih]
      constructor
      · intro h
        obtain ⟨⟨⟩, hx, hxs⟩ := ok_of_bind_ok h
        exact ⟨hx, hxs⟩
      · rintro ⟨hx, hxs⟩
        show (check x >>= fun _ => xs.forM check) = _
        rw [hx]
        exact hxs

/-! ## Problems that can be told -/

/-- A problem whose values have a text is told. -/
theorem fail_eq {α : Type} {p : Problem} (h : ∀ v ∈ p.shown, v.writable = true) :
    (fail p : Except Fault α) = .error (.configuration p) := by
  unfold fail Fault.of
  rw [if_pos (List.all_eq_true.mpr h)]

theorem fail_eq_of_shown_nil {α : Type} {p : Problem} (h : p.shown = []) :
    (fail p : Except Fault α) = .error (.configuration p) := by
  refine fail_eq ?_
  rw [h]
  exact List.forall_mem_nil _

/-! ## Values that have a text -/

namespace Value

theorem itemsWritable_iff (vs : List Value) :
    itemsWritable vs = true ↔ ∀ v ∈ vs, v.writable = true := by
  induction vs with
  | nil => simp [itemsWritable]
  | cons v vs ih => rw [itemsWritable, Bool.and_eq_true, ih, List.forall_mem_cons]

theorem entriesWritable_iff (es : Entries) :
    entriesWritable es = true ↔ ∀ e ∈ es, e.1.writable = true ∧ e.2.writable = true := by
  induction es with
  | nil => simp [entriesWritable]
  | cons e es ih =>
      rw [entriesWritable, Bool.and_eq_true, Bool.and_eq_true, ih, List.forall_mem_cons]

/-- A port has a text. -/
theorem writable_port {p : Nat} (h : p ≤ highestPort) : (Value.int p).writable = true := by
  have hfew : ∀ d, 5 ≤ d → p < Nat.pow 10 d := by
    intro d hd
    calc p ≤ highestPort := h
      _ < 10 ^ 5 := by decide
      _ ≤ 10 ^ d := Nat.pow_le_pow_right (by decide) hd
  rw [writable, intWritable, decide_eq_true_eq, Int.natAbs_natCast]
  exact hfew Numeral.maxDigits (by decide)

/-- A number without a text is no port. -/
theorem not_port_of_unwritable {n : Int} (h : (Value.int n).writable = false) :
    ¬ (1 ≤ n ∧ n ≤ highestPort) := by
  rintro ⟨hlow, hhigh⟩
  obtain ⟨p, rfl⟩ := Int.eq_ofNat_of_zero_le (show 0 ≤ n by omega)
  rw [writable_port (by omega)] at h
  cases h

end Value

namespace Entries

variable {es : Entries} {name : String} {v : Value}

theorem writable_of_get? (hes : Value.entriesWritable es = true) (h : es.get? name = some v) :
    v.writable = true :=
  ((Value.entriesWritable_iff es).mp hes _ (mem_of_get? h)).2

theorem writable_getD (hes : Value.entriesWritable es = true) (hv : v.writable = true) :
    ((es.get? name).getD v).writable = true := by
  cases hget : es.get? name with
  | none => exact hv
  | some w => exact writable_of_get? hes hget

theorem writable_filter (hes : Value.entriesWritable es = true) (p : Value × Value → Bool) :
    Value.entriesWritable (es.filter p) = true := by
  rw [Value.entriesWritable_iff] at hes ⊢
  exact fun e he => hes e (List.mem_of_mem_filter he)

end Entries

/-! ## Connectors and servers -/

theorem ListenerField.writable_default (f : ListenerField) : f.default.writable = true := by
  cases f with
  | port => exact Value.writable_port (by decide)
  | _ => rfl

/-- The port of a connector has a text if the value that it was built from has one. -/
theorem Connector.writable_port_of_ofValue {v : Value} {c : Connector} (h : ofValue v = .ok c)
    (hv : v.writable = true) : c.port.writable = true := by
  cases v with
  | map es =>
      replace h : ofEntries es = .ok c := h
      unfold ofEntries at h
      obtain ⟨type, -, h⟩ := ok_of_bind_ok h
      cases hscheme : Scheme.ofName? type with
      | none =>
          rw [hscheme] at h
          cases h
      | some scheme =>
          rw [hscheme] at h
          obtain ⟨-, -, h⟩ := ok_of_bind_ok h
          cases h
          have hport : (listenerOf (Entries.without es "type") .port).writable = true :=
            Entries.writable_getD (Entries.writable_filter hv _)
              (ListenerField.writable_default .port)
          cases scheme <;> exact hport
  | _ => cases h

namespace Server

def PortsWritable (server : Server) : Prop :=
  ∀ role, ∀ c ∈ server.get role, c.port.writable = true

theorem writable_of_connectorsOf {es : Entries} {role : Role} {cs : List Connector}
    (h : connectorsOf es role = .ok cs) (hes : Value.entriesWritable es = true) :
    ∀ c ∈ cs, c.port.writable = true := by
  unfold connectorsOf at h
  cases hget : es.get? (connectorsKey role) with
  | none =>
      rw [hget] at h
      cases h
      intro c hc
      rw [List.mem_singleton.mp hc]
      exact Value.writable_port (by cases role <;> decide)
  | some v =>
      rw [hget] at h
      have hv := Entries.writable_of_get? hes hget
      cases v with
      | list items =>
          intro c hc
          obtain ⟨item, hitem, hc⟩ := exists_of_mem_mapM h c hc
          exact Connector.writable_port_of_ofValue hc
            ((Value.itemsWritable_iff items).mp hv item hitem)
      | _ => cases h

theorem portsWritable_of_ofEntries {es : Entries} {server : Server} (h : ofEntries es = .ok server)
    (hes : Value.entriesWritable es = true) : server.PortsWritable := by
  unfold ofEntries at h
  obtain ⟨application, happlication, h⟩ := ok_of_bind_ok h
  obtain ⟨admin, hadmin, h⟩ := ok_of_bind_ok h
  cases h
  intro role
  cases role with
  | application => exact writable_of_connectorsOf happlication hes
  | admin => exact writable_of_connectorsOf hadmin hes

end Server

/-! ## TLS material and finders -/

/-- What a TLS field of a connector holds, given what a mapping has under the name of the field: its
default if that is nothing or null, and a list for a lone text in place of a list. There is no list
without items. -/
def TlsField.carried (f : TlsField) (given : Option Value) : Value :=
  match f.kind, given with
  | _, none | _, some .null => f.default
  | .texts, some (.text s) => .list [.text s]
  | .texts, some (.list []) => .null
  | _, some v => v

namespace TlsField

theorem carried_none (f : TlsField) : f.carried none = f.default := by
  unfold carried
  cases f.kind <;> rfl

theorem carried_null (f : TlsField) : f.carried (some .null) = f.default := by
  unfold carried
  cases f.kind <;> rfl

theorem carried_some {f : TlsField} (hf : f.kind ≠ .texts) {v : Value} (hv : v ≠ .null) :
    f.carried (some v) = v := by
  unfold carried
  cases hkind : f.kind with
  | texts => exact absurd hkind hf
  | text | flag =>
      cases v with
      | null => exact absurd rfl hv
      | list items => cases items <;> rfl
      | _ => rfl

end TlsField

namespace Settings

/-- The list that a list field holds is carried over to a connector. -/
theorem ownList_of_listField {f : TlsField} (hf : f.kind = .texts) {name : String} {v list : Value}
    (h : listField name v = .ok list) : Connector.ownList list = .ok (f.carried (some v)) := by
  unfold TlsField.carried
  rw [hf]
  cases v with
  | text s =>
      cases h
      rfl
  | list items =>
      have hitems : list = .list items := by
        simp only [listField] at h
        split at h
        · cases h
          rfl
        · cases h
      rw [hitems]
      cases items <;> rfl
  | _ => cases h

/-- What a list field gets is carried over to a connector. -/
theorem ownList_of_fieldValue {es : Entries} {f : TlsField} {v : Value} (hf : f.kind = .texts)
    (h : fieldValue es f = .ok v) : Connector.ownList v = .ok (f.carried (es.get? f.name)) := by
  unfold fieldValue at h
  rw [hf] at h
  cases hget : es.get? f.name with
  | none =>
      rw [hget] at h
      cases h
      cases f with
      | supportedProtocols | supportedCiphers => rfl
      | _ => cases hf
  | some given =>
      rw [hget] at h
      exact ownList_of_listField hf h

/-- A field that holds no list is carried over as it is. -/
theorem ofEntries_eq_carried {all : Entries} {f : TlsField} (hf : f.kind ≠ .texts) :
    TlsMaterial.ofEntries all.nonNull f = f.carried (all.nonNull.get? f.name) := by
  unfold TlsMaterial.ofEntries
  cases hget : all.nonNull.get? f.name with
  | none => exact (TlsField.carried_none f).symm
  | some v => exact (TlsField.carried_some hf (Entries.ne_null_of_get?_nonNull hget)).symm

/-- TLS material that is built from a mapping makes a connector on every port, which carries what
the mapping gives to each field. -/
theorem ofTls_of_buildTls {all : Entries} {tls : TlsMaterial} (h : buildTls (.map all) = .ok tls)
    (port : Value) : Connector.ofTls port tls =
      .ok (.https (Connector.freshListener port) fun f => f.carried (all.nonNull.get? f.name)) := by
  unfold buildTls at h
  obtain ⟨-, -, h⟩ := ok_of_bind_ok h
  obtain ⟨-, -, h⟩ := ok_of_bind_ok h
  obtain ⟨protocols, hprotocols, h⟩ := ok_of_bind_ok h
  obtain ⟨ciphers, hciphers, h⟩ := ok_of_bind_ok h
  obtain ⟨-, -, h⟩ := ok_of_bind_ok h
  cases h
  unfold Connector.ofTls
  dsimp only
  rw [ownList_of_fieldValue rfl hprotocols, ownList_of_fieldValue rfl hciphers]
  refine congrArg (Except.ok ∘ Connector.https _) ?_
  funext f
  cases f with
  | supportedProtocols | supportedCiphers => rfl
  | _ => exact ofEntries_eq_carried (by decide)

end Settings

namespace Settings

/-- A finder setting that is kept as a text names a registered finder. -/
theorem create_of_resolveFinder {v : Value} {name : String}
    (h : resolveFinder v = .ok (.text name)) :
    ∃ f, Registry.builtIn.create (.text name) = .ok f := by
  unfold resolveFinder at h
  cases hname : finderName? v with
  | none =>
      -- a mapping without a type is kept, and is not a text
      rw [hname] at h
      cases h
      cases hname
  | some n =>
      rw [hname] at h
      cases n with
      | text given =>
          obtain ⟨u, hdiscard, h⟩ := ok_of_bind_ok h
          cases h
          cases hcreate : Registry.builtIn.create (.text given) with
          | error f =>
              rw [hcreate] at hdiscard
              cases hdiscard
          | ok f => exact ⟨f, Registry.create_lower hcreate⟩
      | _ => cases h

def keptFinder (es : Entries) : Except Fault Value :=
  match es.get? "free_port_finder" with
  | none => .ok (.text Strategy.random.name)
  | some v => resolveFinder v

def keptTls (es : Entries) : Except Fault (Option TlsMaterial) :=
  match es.get? "tls" with
  | none => .ok none
  | some v => some <$> buildTls v

/-- Building settings checks the mapping, and reads each setting off its entry. -/
theorem ofEntries_eq (all : Entries) : ofEntries all = (do
    all.checkKeys "dynamic_ports" keys
    checkBool all.nonNull "use_dynamic_ports" "dynamic_ports.use_dynamic_ports"
    checkBool all.nonNull "use_secure_dynamic_ports" "dynamic_ports.use_secure_dynamic_ports"
    let finder ← keptFinder all.nonNull
    let tls ← keptTls all.nonNull
    return {
      useDynamic := (all.nonNull.get? "use_dynamic_ports").getD (.bool true)
      useSecure := (all.nonNull.get? "use_secure_dynamic_ports").getD (.bool true)
      minPort := (all.nonNull.get? "min_dynamic_port").getD (.int 1024)
      maxPort := (all.nonNull.get? "max_dynamic_port").getD (.int highestPort)
      finder := finder
      tls := tls }) := by
  unfold ofEntries keptFinder keptTls
  dsimp only
  cases all.nonNull.get? "free_port_finder" <;> cases all.nonNull.get? "tls" <;> rfl

/-- The settings are those that the mapping describes: it passes the checks, and each setting is
read off its entry. -/
structure BuiltFrom (s : Settings) (all : Entries) : Prop where
  known : all.checkKeys "dynamic_ports" keys = .ok ()
  dynamicFlag :
    checkBool all.nonNull "use_dynamic_ports" "dynamic_ports.use_dynamic_ports" = .ok ()
  secureFlag :
    checkBool all.nonNull "use_secure_dynamic_ports" "dynamic_ports.use_secure_dynamic_ports" =
      .ok ()
  finder : keptFinder all.nonNull = .ok s.finder
  tls : keptTls all.nonNull = .ok s.tls
  useDynamic : s.useDynamic = (all.nonNull.get? "use_dynamic_ports").getD (.bool true)
  useSecure : s.useSecure = (all.nonNull.get? "use_secure_dynamic_ports").getD (.bool true)
  minPort : s.minPort = (all.nonNull.get? "min_dynamic_port").getD (.int 1024)
  maxPort : s.maxPort = (all.nonNull.get? "max_dynamic_port").getD (.int highestPort)

theorem ofEntries_eq_ok_iff {all : Entries} {s : Settings} :
    ofEntries all = .ok s ↔ s.BuiltFrom all := by
  rw [ofEntries_eq]
  constructor
  · intro h
    obtain ⟨⟨⟩, hknown, h⟩ := ok_of_bind_ok h
    obtain ⟨⟨⟩, hdynamic, h⟩ := ok_of_bind_ok h
    obtain ⟨⟨⟩, hsecure, h⟩ := ok_of_bind_ok h
    obtain ⟨finder, hfinder, h⟩ := ok_of_bind_ok h
    obtain ⟨tls, htls, h⟩ := ok_of_bind_ok h
    cases h
    exact ⟨hknown, hdynamic, hsecure, hfinder, htls, rfl, rfl, rfl, rfl⟩
  · rintro ⟨hknown, hdynamic, hsecure, hfinder, htls, huse, huseSecure, hmin, hmax⟩
    rw [hknown, hdynamic, hsecure, hfinder, htls, ← huse, ← huseSecure, ← hmin, ← hmax]
    rfl

/-- What built settings have from the mapping. -/
theorem of_ofEntries {all : Entries} {s : Settings} (h : ofEntries all = .ok s) :
    s.useDynamic = (all.nonNull.get? "use_dynamic_ports").getD (.bool true) ∧
      s.minPort = (all.nonNull.get? "min_dynamic_port").getD (.int 1024) ∧
      s.maxPort = (all.nonNull.get? "max_dynamic_port").getD (.int highestPort) ∧
      keptFinder all.nonNull = .ok s.finder ∧ keptTls all.nonNull = .ok s.tls := by
  have hbuilt := ofEntries_eq_ok_iff.mp h
  exact ⟨hbuilt.useDynamic, hbuilt.minPort, hbuilt.maxPort, hbuilt.finder, hbuilt.tls⟩

/-- What has passed its check is a truth value, as the default is. -/
theorem bool_of_checkBool {es : Entries} {key shownName : String} {u : Unit}
    (h : checkBool es key shownName = .ok u) (b : Bool) :
    ∃ b', (es.get? key).getD (.bool b) = .bool b' := by
  unfold checkBool at h
  split at h
  · rename_i hget
    rw [hget]
    exact ⟨b, rfl⟩
  · rename_i b' hget
    rw [hget]
    exact ⟨b', rfl⟩
  · cases h

/-- The modes of built settings are truth values. -/
theorem flags_of_ofEntries {all : Entries} {s : Settings} (h : ofEntries all = .ok s) :
    (∃ b, s.useDynamic = .bool b) ∧ ∃ b, s.useSecure = .bool b := by
  have hbuilt := ofEntries_eq_ok_iff.mp h
  rw [hbuilt.useDynamic, hbuilt.useSecure]
  exact ⟨bool_of_checkBool hbuilt.dynamicFlag true, bool_of_checkBool hbuilt.secureFlag true⟩

theorem create_of_keptFinder {es : Entries} {name : String}
    (h : keptFinder es = .ok (.text name)) :
    ∃ f, Registry.builtIn.create (.text name) = .ok f := by
  unfold keptFinder at h
  cases hget : es.get? "free_port_finder" with
  | none =>
      rw [hget] at h
      cases h
      exact ⟨.builtIn .random, rfl⟩
  | some v =>
      rw [hget] at h
      exact create_of_resolveFinder h

/-- TLS material that is kept was built from a mapping. -/
theorem exists_buildTls_of_keptTls {es : Entries} {tls : TlsMaterial}
    (h : keptTls es = .ok (some tls)) : ∃ all, buildTls (.map all) = .ok tls := by
  unfold keptTls at h
  cases hget : es.get? "tls" with
  | none =>
      rw [hget] at h
      cases h
  | some v =>
      cases hbuild : buildTls v with
      | error f =>
          simp only [hget, hbuild] at h
          cases h
      | ok built =>
          simp only [hget, hbuild] at h
          cases h
          cases v with
          | map all => exact ⟨all, hbuild⟩
          | _ => cases hbuild

theorem ofTls_of_keptTls {es : Entries} {tls : TlsMaterial} (h : keptTls es = .ok (some tls))
    (port : Value) : ∃ c, Connector.ofTls port tls = .ok c := by
  obtain ⟨all, hbuild⟩ := exists_buildTls_of_keptTls h
  exact ⟨_, ofTls_of_buildTls hbuild port⟩

/-- The TLS material of built settings makes a connector on every port. -/
theorem ofTls_of_ofEntries {all : Entries} {s : Settings} (h : ofEntries all = .ok s) :
    ∀ tls, s.tls = some tls → ∀ port, ∃ c, Connector.ofTls port tls = .ok c := by
  intro tls hsome port
  obtain ⟨-, -, -, -, htls⟩ := of_ofEntries h
  rw [hsome] at htls
  exact ofTls_of_keptTls htls port

end Settings

/-! ## Configurations -/

namespace Configuration

/-- What using a configuration relies on: its numbers have a text, its TLS material makes
connectors, and a finder that it names is registered. -/
structure Usable (c : Configuration) : Prop where
  ports : c.server.PortsWritable
  useDynamic : c.settings.useDynamic.writable = true
  minPort : c.settings.minPort.writable = true
  maxPort : c.settings.maxPort.writable = true
  tls : ∀ tls, c.settings.tls = some tls → ∀ port, ∃ d, Connector.ofTls port tls = .ok d
  finder : ∀ name, c.settings.finder = .text name → ∃ f, c.settings.createFinder = .ok f

theorem writable_of_sectionOf {data es : Entries} {name : String}
    (h : sectionOf data name = .ok es) (hdata : Value.entriesWritable data = true) :
    Value.entriesWritable es = true := by
  unfold sectionOf at h
  cases hget : data.get? name with
  | none =>
      rw [hget] at h
      cases h
      rfl
  | some v =>
      rw [hget] at h
      have hv := Entries.writable_of_get? hdata hget
      cases v with
      | null =>
          cases h
          rfl
      | map entries =>
          cases h
          exact hv
      | _ => cases h

/-- The parts of a configuration are built from the sections of the mapping. -/
theorem of_ofEntries {data : Entries} {c : Configuration} (h : ofEntries data = .ok c) :
    ∃ serverEntries settingsEntries, sectionOf data "server" = .ok serverEntries ∧
      sectionOf data "dynamic_ports" = .ok settingsEntries ∧
      Server.ofEntries serverEntries = .ok c.server ∧
      Settings.ofEntries settingsEntries = .ok c.settings := by
  unfold ofEntries at h
  obtain ⟨serverEntries, hserverEntries, h⟩ := ok_of_bind_ok h
  obtain ⟨settingsEntries, hsettingsEntries, h⟩ := ok_of_bind_ok h
  obtain ⟨server, hserver, h⟩ := ok_of_bind_ok h
  obtain ⟨settings, hsettings, h⟩ := ok_of_bind_ok h
  cases h
  exact ⟨_, _, hserverEntries, hsettingsEntries, hserver, hsettings⟩

/-- A built configuration can be used, if the numbers in the mapping have a text. -/
theorem usable_of_ofEntries {data : Entries} {c : Configuration} (h : ofEntries data = .ok c)
    (hdata : Value.entriesWritable data = true) : c.Usable := by
  obtain ⟨_, settingsEntries, hserverEntries, hsettingsEntries, hserver, hsettings⟩ :=
    of_ofEntries h
  have hentries : Value.entriesWritable settingsEntries.nonNull = true :=
    Entries.writable_filter (writable_of_sectionOf hsettingsEntries hdata) _
  obtain ⟨huse, hmin, hmax, hfinder, -⟩ := Settings.of_ofEntries hsettings
  constructor
  case ports =>
    exact Server.portsWritable_of_ofEntries hserver (writable_of_sectionOf hserverEntries hdata)
  case useDynamic =>
    rw [huse]
    exact Entries.writable_getD hentries rfl
  case minPort =>
    rw [hmin]
    exact Entries.writable_getD hentries (Value.writable_port (p := 1024) (by decide))
  case maxPort =>
    rw [hmax]
    exact Entries.writable_getD hentries (Value.writable_port (Nat.le_refl _))
  case tls => exact Settings.ofTls_of_ofEntries hsettings
  case finder =>
    intro name hname
    rw [hname] at hfinder
    unfold Settings.createFinder
    rw [hname]
    exact Settings.create_of_keptFinder hfinder

end Configuration

end ListenerPorts
