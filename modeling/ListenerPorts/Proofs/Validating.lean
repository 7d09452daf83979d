import ListenerPorts.Config.Validate
import ListenerPorts.Proofs.Faults
import ListenerPorts.Proofs.Running

set_option autoImplicit false

/-! # Validation and runs

What validation looks at in one place, a run looks at in three: the range and the finder when the
assigner is made, the TLS material and the connectors when it assigns. `refused_or_checked` puts the
two side by side. A run that is past these checks can only fail in its search, and there only
because the range is exhausted, unless the probe fails.
-/

namespace ListenerPorts

variable {σ : Type}

/-- A probe that answers whatever port it is asked about. -/
def Probe.Answers (probe : Probe σ) : Prop :=
  ∀ p : Nat, 1 ≤ p → p ≤ highestPort → ∀ f, ¬ probe.MayEnd p (.error f)

/-! ## Ranges -/

/-- Ends that have a text make a range, or there is a problem with them. -/
theorem PortRange.ofValues_cases {min max : Value} (hmin : min.writable = true)
    (hmax : max.writable = true) :
    (∃ range, ofValues min max = .ok range) ∨
      ∃ p, ofValues min max = .error (.configuration p) := by
  cases hvalues : ofValues min max with
  | ok range => exact Or.inl ⟨range, rfl⟩
  | error f =>
      have hblamed : Blamed False False f := blamed_ofValues (absurd hmin) (absurd hmax) f hvalues
      cases hblamed with
      | told p => exact Or.inr ⟨p, rfl⟩
      | keys h | digits h => exact h.elim

namespace Configuration

/-- The messages about what the assignment itself checks. -/
def assignmentErrors (c : Configuration) : List String :=
  if c.settings.useSecure.isTrue then tlsErrors c.settings.tls else missingConnectors c.server ""

theorem missingConnectors_eq_nil (server : Server) (reason : String) :
    missingConnectors server reason = [] ↔ server.application ≠ [] ∧ server.admin ≠ [] := by
  unfold missingConnectors messageIf
  cases server.application <;> cases server.admin <;> simp

/-- Validation has a message about TLS material that an assigner refuses, and none about others. -/
theorem requireTls_cases (a : Assigner) :
    (tlsErrors a.tls = [] ∧ ∃ tls, a.requireTls = .ok tls) ∨
      tlsErrors a.tls ≠ [] ∧ ∃ p, a.requireTls = .error (.configuration p) := by
  unfold Assigner.requireTls tlsErrors
  cases a.tls with
  | none => exact Or.inr ⟨List.cons_ne_nil _ _, .tlsRequired, fail_eq_of_shown_nil rfl⟩
  | some tls =>
      dsimp only
      cases tls.gaps with
      | nil => exact Or.inl ⟨rfl, tls, rfl⟩
      | cons gap gaps =>
          simp only [List.isEmpty_cons, Bool.false_eq_true, if_false]
          exact Or.inr ⟨List.cons_ne_nil _ _, .tlsIncomplete (gap :: gaps),
            fail_eq_of_shown_nil rfl⟩

/-- An assigner with the settings of a configuration checks what validation has messages for. -/
theorem check_cases (c : Configuration) {a : Assigner} (hsec : a.security = c.settings.securityMode)
    (htls : a.tls = c.settings.tls) :
    (c.assignmentErrors = [] ∧ a.check c.server = .ok ()) ∨
      c.assignmentErrors ≠ [] ∧ ∃ p, a.check c.server = .error (.configuration p) := by
  unfold assignmentErrors Assigner.check
  rw [hsec, ← htls]
  unfold Settings.securityMode SecurityMode.ofSetting
  cases c.settings.useSecure.isTrue with
  | true =>
      simp only [if_true]
      rcases requireTls_cases a with ⟨hnone, tls, hrequire⟩ | ⟨hsome, p, hrequire⟩
      · rw [hrequire]
        exact Or.inl ⟨hnone, rfl⟩
      · rw [hrequire]
        exact Or.inr ⟨hsome, p, rfl⟩
  | false =>
      simp only [Bool.false_eq_true, if_false]
      unfold missingConnectors messageIf
      cases c.server.application with
      | nil => exact Or.inr ⟨by simp, .connectorMissing .application, fail_eq_of_shown_nil rfl⟩
      | cons d ds =>
          cases c.server.admin with
          | nil => exact Or.inr ⟨by simp, .connectorMissing .admin, fail_eq_of_shown_nil rfl⟩
          | cons e es => exact Or.inl ⟨rfl, rfl⟩

theorem validate_dynamic {c : Configuration} (hdynamic : c.settings.useDynamic.isTrue = true)
    {messages : List String} (hrange : rangeErrors c.settings = .ok messages) :
    c.validate = .ok (messages ++ c.assignmentErrors) := by
  unfold validate
  rw [if_pos hdynamic, hrange]
  rfl

/-- Either validation has messages, and a run fails before it has asked or written anything, or
validation has none, and a run makes an assigner that passes its check. -/
theorem refused_or_checked {c : Configuration} (h : c.Usable) {name : String}
    (hname : c.settings.finder = .text name) (hdynamic : c.settings.useDynamic.isTrue = true)
    (host : Host σ) {s : Site σ} (hs : s.server = c.server) :
    (∃ errors p, errors ≠ [] ∧ c.validate = .ok errors ∧
      (Service.run c.settings host).run s = .error (.configuration p) (Service.started s)) ∨
    (c.validate = .ok [] ∧ ∃ a range, c.settings.createAssigner = .ok a ∧ a.mode = .dynamic ∧
      a.range = some range ∧ a.tls = c.settings.tls ∧ a.check c.server = .ok ()) := by
  rcases PortRange.ofValues_cases h.minPort h.maxPort with ⟨range, hrange⟩ | ⟨p, hrange⟩
  · -- the assigner is made, and refuses what the assignment itself checks
    obtain ⟨f, hfinder⟩ := h.finder name hname
    have hmessages : rangeErrors c.settings = .ok [] := by
      unfold rangeErrors Settings.portRange
      rw [hrange]
    have hvalidate := validate_dynamic hdynamic hmessages
    have hcreate : c.settings.createAssigner = .ok ⟨c.settings.assignmentMode,
        c.settings.securityMode, some range, c.settings.tls, some f.strategy⟩ := by
      unfold Settings.createAssigner Settings.portRange
      rw [if_pos hdynamic, hrange, hfinder]
      rfl
    have hmode : c.settings.assignmentMode = .dynamic := if_pos hdynamic
    rcases c.check_cases (a := ⟨c.settings.assignmentMode, c.settings.securityMode, some range,
      c.settings.tls, some f.strategy⟩) rfl rfl with ⟨hnone, hcheck⟩ | ⟨hsome, p, hcheck⟩
    · rw [hnone] at hvalidate
      exact Or.inr ⟨hvalidate, _, range, hcreate, hmode, rfl, rfl, hcheck⟩
    · refine Or.inl ⟨_, p, hsome, hvalidate, Service.run_of_assign_error hcreate ?_⟩
      rw [Assigner.run_assign_dynamic hmode]
      have hserver : (Service.started s).server = c.server := hs
      rw [hserver, hcheck]
  · -- validation has a message about the range, and no assigner is made
    have hmessages : rangeErrors c.settings = .ok [p.message] := by
      unfold rangeErrors Settings.portRange
      rw [hrange]
    refine Or.inl ⟨_, p, List.cons_ne_nil _ _, validate_dynamic hdynamic hmessages, ?_⟩
    refine Service.run_of_create_error ?_ host s
    unfold Settings.createAssigner Settings.portRange
    rw [if_pos hdynamic, hrange]
    rfl

end Configuration

/-! ## Assignments that pass their check -/

namespace Assigner

variable {a : Assigner}

theorem writable_setFirstPort {cs : List Connector} (h : ∀ c ∈ cs, c.port.writable = true)
    {port : Value} (hport : port.writable = true) :
    ∀ c ∈ Server.setFirstPort port cs, c.port.writable = true := by
  cases cs with
  | nil => exact h
  | cons c cs =>
      rw [List.forall_mem_cons] at h
      rw [Server.setFirstPort, List.forall_mem_cons, Connector.port_setPort]
      exact ⟨hport, h.2⟩

/-- An assigner that has passed its check makes the server that it writes. -/
theorem written_of_check {server : Server} (hcheck : a.check server = .ok ())
    (htls : ∀ tls, a.tls = some tls → ∀ port, ∃ c, Connector.ofTls port tls = .ok c)
    (found : ByRole Nat) : ∃ server', a.written server found = .ok server' := by
  cases hsec : a.security with
  | secure =>
      obtain ⟨tls, hrequire⟩ := requireTls_of_check hsec hcheck
      obtain ⟨c, hc⟩ := htls tls (tls_of_requireTls hrequire) (.int found.application)
      rw [written_secure hsec hrequire, hc]
      exact ⟨_, rfl⟩
  | nonSecure => exact ⟨_, written_plain hsec server found⟩

theorem writable_reported {found : ByRole Nat} {role : Role} (h : found.get role ≤ highestPort) :
    ((reported found).get role).writable = true := by
  unfold reported
  rw [ByRole.get_map]
  exact Value.writable_port h

/-- The ports of a server that was written have a text. -/
theorem portsWritable_of_written {server server' : Server} {found : ByRole Nat}
    (h : a.written server found = .ok server') (hserver : server.PortsWritable)
    (hfound : ∀ role, found.get role ≤ highestPort) : server'.PortsWritable := by
  intro role
  cases hsec : a.security with
  | secure =>
      obtain ⟨tls, -, hget⟩ := get_written_secure hsec h
      obtain ⟨c, hcs, hc⟩ := hget role
      rw [hcs, List.forall_mem_singleton, (Connector.ofTls_ok hc).2]
      exact writable_reported (hfound role)
  | nonSecure =>
      rw [get_written_plain hsec h role]
      exact writable_setFirstPort (hserver role) (writable_reported (hfound role))

/-- An assignment that fails does so in its check, or finds its range exhausted. -/
theorem fault_of_assign (hmode : a.mode = .dynamic) {range : PortRange}
    (hrange : a.range = some range) {host : Host σ} (hprobe : host.probe.Answers)
    (htls : ∀ tls, a.tls = some tls → ∀ port, ∃ c, Connector.ofTls port tls = .ok c)
    {s s' : Site σ} {f : Fault} (h : (a.assign host).run s = .error f s') :
    a.check s.server = .error f ∨ f = .exhausted a.strategy range := by
  obtain ⟨es, -, hsound⟩ := findPorts_sound hrange host (a.opened s)
  have houtcome := assign_outcome hmode host s
  rw [h] at houtcome
  cases houtcome with
  | refused hfails => exact Or.inl hfails
  | notFound _ hfind =>
      rw [ends, hfind] at hsound
      rcases hsound.fault f rfl with rfl | ⟨p, hp, hmay⟩
      · exact Or.inr rfl
      · -- a port of the range is one that the probe answers about
        obtain ⟨hlow, hhigh⟩ := PortRange.mem_ports.mp hp
        exact absurd hmay (hprobe p (range.one_le_min.trans hlow) (hhigh.trans range.max_le) f)
  | @notWritten _ _ found hcheck _ hfails =>
      obtain ⟨server', hwritten⟩ := written_of_check hcheck htls found
      rw [hfails] at hwritten
      cases hwritten

/-- The ports that an assignment reports are ports, and it leaves a server whose ports have a text
if they had one before. -/
theorem of_assign_ok (hmode : a.mode = .dynamic) {range : PortRange} (hrange : a.range = some range)
    {host : Host σ} {s s' : Site σ} {ports : ServicePorts}
    (h : (a.assign host).run s = .ok ports s') :
    (∃ found, ports = reported found ∧ ∀ role, found.get role ≤ highestPort) ∧
      (s.server.PortsWritable → s'.server.PortsWritable) := by
  obtain ⟨found, w, hfind, hwritten, hports, -, -⟩ := assign_dynamic_ok hmode h
  obtain ⟨es, -, hsound⟩ := findPorts_sound hrange host (a.opened s)
  rw [ends, hfind] at hsound
  have hlow : ∀ role, found.get role ≤ highestPort := by
    intro role
    have hmem := (hsound.chosen _ rfl).mem role
    exact (PortRange.mem_ports.mp hmem).2.trans range.max_le
  exact ⟨⟨found, hports, hlow⟩, fun hserver => portsWritable_of_written hwritten hserver hlow⟩

/-- An assignment that passes its check succeeds, or finds its range exhausted. -/
theorem assign_of_check (hmode : a.mode = .dynamic) {range : PortRange}
    (hrange : a.range = some range) {host : Host σ} (hprobe : host.probe.Answers) {s : Site σ}
    (hcheck : a.check s.server = .ok ())
    (htls : ∀ tls, a.tls = some tls → ∀ port, ∃ c, Connector.ofTls port tls = .ok c)
    (hserver : s.server.PortsWritable) :
    (∃ ports s', (a.assign host).run s = .ok ports s' ∧ s'.server.PortsWritable) ∨
      ∃ s', (a.assign host).run s = .error (.exhausted a.strategy range) s' := by
  cases hrun : (a.assign host).run s with
  | error f s' =>
      rcases fault_of_assign hmode hrange hprobe htls hrun with hfails | rfl
      · rw [hcheck] at hfails
        cases hfails
      · exact Or.inr ⟨s', rfl⟩
  | ok ports s' =>
      obtain ⟨-, hwritable⟩ := of_assign_ok hmode hrange hrun
      exact Or.inl ⟨ports, s', rfl, hwritable hserver⟩

end Assigner

/-! ## Agreement -/

/-- A run with static ports succeeds, whatever the other settings are. -/
theorem Service.run_static {settings : Settings} (hstatic : settings.useDynamic.isTrue = false)
    (huse : settings.useDynamic.writable = true) (host : Host σ) {s : Site σ}
    (hserver : s.server.PortsWritable) : ∃ ports, ends (Service.run settings host) s = .ok ports := by
  obtain ⟨a, hcreate, hmode⟩ := Settings.createAssigner_static hstatic
  exact ⟨_, run_of_assign_ok hcreate (Assigner.run_assign_static hmode host _) hserver huse⟩

namespace Configuration

/-- **Validation agrees with runs.** With dynamic ports, validation has a message exactly when a run
fails with a problem of the configuration, which it does before it has asked, drawn or written
anything; without a message the run succeeds or finds its range exhausted. With static ports a run
succeeds, whatever the other settings are, and validation has no message exactly when both roles
have a connector. -/
theorem validate_agrees (data : Entries) (hdigits : Value.entriesWritable data = true)
    (c : Configuration) (hbuild : ofEntries data = .ok c) (name : String)
    (hfinder : c.settings.finder = .text name) (host : Host σ) (hprobe : host.probe.Answers)
    (w : World σ) :
    (c.settings.useDynamic.isTrue = true → ∃ errors, c.validate = .ok errors ∧
      (errors ≠ [] ↔ ∃ p, ends (Service.run c.settings host) ⟨c.server, w⟩ =
        .error (.configuration p)) ∧
      (errors ≠ [] → ∃ es, (leaves (Service.run c.settings host) ⟨c.server, w⟩) =
        ⟨c.server, { w with events := w.events ++ es }⟩ ∧ Quiet es.toList) ∧
      (errors = [] → (∃ ports, ends (Service.run c.settings host) ⟨c.server, w⟩ = .ok ports) ∨
        ∃ strategy range, ends (Service.run c.settings host) ⟨c.server, w⟩ =
          .error (.exhausted strategy range))) ∧
    (c.settings.useDynamic.isTrue = false →
      (∀ settings : Settings, settings.useDynamic = c.settings.useDynamic →
        ∃ ports, ends (Service.run settings host) ⟨c.server, w⟩ = .ok ports) ∧
      ∃ errors, c.validate = .ok errors ∧
        (errors = [] ↔ c.server.application ≠ [] ∧ c.server.admin ≠ [])) := by
  have husable := usable_of_ofEntries hbuild hdigits
  constructor
  · intro hdynamic
    rcases refused_or_checked husable hfinder hdynamic host (s := ⟨c.server, w⟩) rfl with
      ⟨errors, p, hne, hvalidate, hrun⟩ |
      ⟨hvalidate, a, range, hcreate, hmode, hrange, htls, hcheck⟩
    · refine ⟨errors, hvalidate, ⟨fun _ => ⟨p, by rw [ends, hrun]⟩, fun _ => hne⟩, fun _ => ?_,
        fun hnil => absurd hnil hne⟩
      refine ⟨#[.logged ⟨.dynamicPorts, .debug, "Running dynamic port assignment"⟩], ?_, rfl, rfl⟩
      rw [leaves, hrun]
      rfl
    · have hend : (∃ ports, ends (Service.run c.settings host) ⟨c.server, w⟩ = .ok ports) ∨
          ∃ strategy range, ends (Service.run c.settings host) ⟨c.server, w⟩ =
            .error (.exhausted strategy range) := by
        have hmaterial : ∀ tls, a.tls = some tls → ∀ port, ∃ d, Connector.ofTls port tls = .ok d := by
          rw [htls]
          exact husable.tls
        rcases Assigner.assign_of_check hmode hrange hprobe
          (s := Service.started ⟨c.server, w⟩) hcheck hmaterial husable.ports with
          ⟨ports, s', hassign, hports⟩ | ⟨s', hassign⟩
        · exact Or.inl ⟨ports, Service.run_of_assign_ok hcreate hassign hports husable.useDynamic⟩
        · exact Or.inr ⟨_, range, by rw [ends, Service.run_of_assign_error hcreate hassign]⟩
      refine ⟨[], hvalidate, ⟨fun hne => absurd rfl hne, ?_⟩, fun hne => absurd rfl hne, fun _ => hend⟩
      rintro ⟨p, hp⟩
      rcases hend with ⟨ports, hend⟩ | ⟨strategy, range, hend⟩
      · rw [hp] at hend
        cases hend
      · rw [hp] at hend
        cases hend
  · intro hstatic
    refine ⟨fun settings hsame => ?_, missingConnectors c.server " for static ports", ?_, ?_⟩
    · refine Service.run_static ?_ ?_ host husable.ports
      · rw [hsame]
        exact hstatic
      · rw [hsame]
        exact husable.useDynamic
    · unfold validate
      rw [if_neg (by rw [hstatic]; exact Bool.false_ne_true)]
    · exact missingConnectors_eq_nil c.server _

/-- A configuration without an admin connector, whose finder is named with blanks and a capital,
is refused by both. -/
theorem validate_agrees_admin_missing :
    let data : Entries := [(.text "server", .map [(.text "admin_connectors", .list [])]),
      (.text "dynamic_ports", .map [(.text "use_secure_dynamic_ports", .bool false),
        (.text "min_dynamic_port", .int 1), (.text "max_dynamic_port", .int 4),
        (.text "free_port_finder", .text " Adjacent ")])]
    let c : Configuration := ⟨⟨Server.defaultConnectors .application, []⟩,
      { useSecure := .bool false, minPort := .int 1, maxPort := .int 4,
        finder := .text " adjacent " }⟩
    let host : Host Unit := ⟨.answering fun port _ => (.ok (port != 1), ()), fun _ => 0⟩
    Value.entriesWritable data = true ∧ ofEntries data = .ok c ∧ host.probe.Answers ∧
      c.validate = .ok ["At least one admin connector is required"] ∧
      ∃ p, ends (Service.run c.settings host) ⟨c.server, World.fresh ()⟩ =
        .error (.configuration p) := by
  intro data c host
  have hdigits : Value.entriesWritable data = true := by decide +kernel
  have hbuild : ofEntries data = .ok c := rfl
  have hprobe : host.probe.Answers := by
    rintro p - - f ⟨w, hw⟩
    cases hw
  have hvalidate : c.validate = .ok ["At least one admin connector is required"] := rfl
  obtain ⟨hdynamic, -⟩ :=
    validate_agrees data hdigits c hbuild " adjacent " rfl host hprobe (World.fresh ())
  obtain ⟨errors, herrors, hiff, -⟩ := hdynamic rfl
  rw [hvalidate] at herrors
  cases herrors
  exact ⟨hdigits, hbuild, hprobe, hvalidate, hiff.mp (List.cons_ne_nil _ _)⟩

end Configuration

end ListenerPorts
