import ListenerPorts.Proofs.Assigning
import ListenerPorts.Proofs.Building
import ListenerPorts.Proofs.Listing
import ListenerPorts.Service

set_option autoImplicit false

/-! # Runs of the service

A run of the service makes an assigner, lets it assign, and then reports the ports of the server.
Listing the ports of a server and logging them is silent, and it succeeds when all ports have a
text, so that a run that has assigned its ports ends with them.
-/

namespace ListenerPorts

variable {σ α β : Type}

open Run

/-! ## The ports of a server -/

namespace Server

/-- If all ports have a text, a look-up succeeds, and the ports that it lists have one. -/
theorem returns_ports {server : Server} (h : server.PortsWritable) (role : Role) :
    (server.ports role : Run σ (List Port)).Returns fun ports =>
      ∀ v ∈ ports.map Port.number, v.writable = true := by
  refine (meets_ports server role).weaken ?_
  rintro es r ⟨hlogged, rfl⟩
  rw [if_pos (wordable_of_writable (h role))]
  refine ⟨quiet_of_logged hlogged, _, rfl, fun v hv => ?_⟩
  obtain ⟨port, hport, rfl⟩ := List.mem_map.mp hv
  obtain ⟨scheme, -, hscheme⟩ := List.mem_filterMap.mp hport
  obtain ⟨c, hc, rfl⟩ := Option.map_eq_some_iff.mp hscheme
  exact h role c (mem_of_lastOf hc)

end Server

/-! ## The parts of a run -/

namespace Settings

/-- The assigner that settings make has their modes and their TLS material, and a range if it is a
dynamic one. -/
theorem of_createAssigner {settings : Settings} {a : Assigner}
    (h : settings.createAssigner = .ok a) :
    a.security = settings.securityMode ∧ a.tls = settings.tls ∧
      ((settings.useDynamic.isTrue = true ∧ a.mode = .dynamic ∧ ∃ range, a.range = some range) ∨
        (settings.useDynamic.isTrue = false ∧ a.mode = .static)) := by
  unfold createAssigner at h
  split at h
  · rename_i hdynamic
    obtain ⟨range, -, h⟩ := ok_of_bind_ok h
    obtain ⟨finder, -, h⟩ := ok_of_bind_ok h
    cases h
    exact ⟨rfl, rfl, Or.inl ⟨hdynamic, if_pos hdynamic, range, rfl⟩⟩
  · rename_i hstatic
    cases h
    exact ⟨rfl, rfl, Or.inr ⟨Bool.eq_false_iff.mpr hstatic, if_neg hstatic⟩⟩

/-- Without dynamic ports an assigner can always be made, and it keeps the ports. -/
theorem createAssigner_static {settings : Settings} (h : settings.useDynamic.isTrue = false) :
    ∃ a, settings.createAssigner = .ok a ∧ a.mode = .static := by
  have hmode : settings.assignmentMode = .static := by
    unfold assignmentMode AssignmentMode.ofSetting
    rw [h]
    rfl
  refine ⟨⟨settings.assignmentMode, settings.securityMode, none, settings.tls, none⟩, ?_, hmode⟩
  unfold createAssigner
  rw [h]
  rfl

end Settings

namespace Assignment

/-- An operation that leaves the server alone can be taken step by step. -/
theorem onWorld_bind (x : Run σ α) (k : α → Run σ β) :
    onWorld (x >>= k) = onWorld x >>= fun a => onWorld (k a) := by
  funext s
  show (onWorld (x >>= k)).run s = (onWorld x >>= fun a => onWorld (k a)).run s
  rw [run_onWorld, EStateM.run_bind]
  cases hx : x.run s.world with
  | error f w => rw [run_onWorld_error hx]
  | ok a w =>
      rw [run_onWorld_ok hx]
      rfl

end Assignment

namespace Service

open Assignment

/-- What a run does after the assignment: it lists the ports of the server and logs them. -/
def report (settings : Settings) (server : Server) : Run σ Unit := do
  let application ← server.ports .application
  Run.requireTexts (application.map (·.number))
  let admin ← server.ports .admin
  Run.requireTexts (admin.map (·.number))
  Run.requireTexts [settings.useDynamic]
  Run.log .dynamicPorts .info (summary settings.useDynamic application admin)

/-- The state in which a run makes its assigner. -/
def started (s : Site σ) : Site σ :=
  ⟨s.server, s.world.record (.logged ⟨.dynamicPorts, .debug, "Running dynamic port assignment"⟩)⟩

theorem returns_report {settings : Settings} {server : Server} (hserver : server.PortsWritable)
    (huse : settings.useDynamic.writable = true) :
    (report settings server : Run σ Unit).Returns fun _ => True := by
  refine (Server.returns_ports hserver .application).bind fun application happlication => ?_
  refine (returns_requireTexts happlication).bind fun _ _ => ?_
  refine (Server.returns_ports hserver .admin).bind fun admin hadmin => ?_
  refine (returns_requireTexts hadmin).bind fun _ _ => ?_
  refine (returns_requireTexts ?_).bind fun _ _ => returns_log _ _ _
  rw [List.forall_mem_singleton]
  exact huse

/-- A run makes an assigner, assigns, and reports. -/
theorem run_eq (settings : Settings) (host : Host σ) (s : Site σ) :
    (run settings host).run s = match settings.createAssigner with
      | .error f => .error f (started s)
      | .ok a => match (a.assign host).run (started s) with
        | .error f s' => .error f s'
        | .ok ports s' => match (report settings s'.server).run s'.world with
          | .error f w => .error f ⟨s'.server, w⟩
          | .ok _ w => .ok ports ⟨s'.server, w⟩ := by
  unfold run
  rw [run_log_bind, ← started]
  cases hcreate : settings.createAssigner with
  | error f => exact run_lift_bind_error rfl _ _
  | ok a =>
      rw [run_lift_bind_ok rfl, EStateM.run_bind]
      dsimp only
      cases (a.assign host).run (started s) with
      | error f s' => rfl
      | ok ports s' =>
          have hreport : (onWorld (report settings s'.server) >>= fun _ => pure ports).run s' =
              match (report settings s'.server).run s'.world with
              | .error f w => .error f ⟨s'.server, w⟩
              | .ok _ w => .ok ports ⟨s'.server, w⟩ := by
            cases h : (report settings s'.server).run s'.world with
            | error f w => rw [run_onWorld_error h]
            | ok u w =>
                rw [run_onWorld_ok h]
                rfl
          dsimp only
          -- what is left of the run is the report, one step after the other
          rw [← hreport]
          unfold report
          simp only [onWorld_bind, bind_assoc]
          rfl

/-- The parts of a run that succeeds. -/
theorem of_run_ok {settings : Settings} {host : Host σ} {s s' : Site σ} {ports : ServicePorts}
    (h : (run settings host).run s = .ok ports s') :
    ∃ a t, settings.createAssigner = .ok a ∧ (a.assign host).run (started s) = .ok ports t ∧
      (report settings t.server).run t.world = .ok () s'.world ∧ s'.server = t.server := by
  rw [run_eq] at h
  cases hcreate : settings.createAssigner with
  | error f =>
      rw [hcreate] at h
      cases h
  | ok a =>
      cases hassign : (a.assign host).run (started s) with
      | error f t =>
          simp only [hcreate, hassign] at h
          cases h
      | ok found t =>
          cases hreport : (report settings t.server).run t.world with
          | error f w =>
              simp only [hcreate, hassign, hreport] at h
              cases h
          | ok u w =>
              simp only [hcreate, hassign, hreport] at h
              cases h
              exact ⟨a, t, rfl, hassign, hreport, rfl⟩

/-- A run whose assignment succeeds ends with the ports that were assigned. -/
theorem run_of_assign_ok {settings : Settings} {a : Assigner} {host : Host σ} {s s' : Site σ}
    {ports : ServicePorts} (hcreate : settings.createAssigner = .ok a)
    (hassign : (a.assign host).run (started s) = .ok ports s')
    (hserver : s'.server.PortsWritable) (huse : settings.useDynamic.writable = true) :
    ends (run settings host) s = .ok ports := by
  obtain ⟨es, -, -, u, hend, -⟩ := returns_report hserver huse s'.world
  have hrun := run_eq settings host s
  rw [hcreate] at hrun
  simp only [hassign, run_of_ends_ok hend] at hrun
  rw [ends, hrun]

/-- A run whose assignment fails ends as the assignment does. -/
theorem run_of_assign_error {settings : Settings} {a : Assigner} {host : Host σ} {s s' : Site σ}
    {f : Fault} (hcreate : settings.createAssigner = .ok a)
    (hassign : (a.assign host).run (started s) = .error f s') :
    (run settings host).run s = .error f s' := by
  have hrun := run_eq settings host s
  rw [hcreate] at hrun
  simp only [hassign] at hrun
  exact hrun

/-- A run that cannot make its assigner does nothing more. -/
theorem run_of_create_error {settings : Settings} {f : Fault}
    (hcreate : settings.createAssigner = .error f) (host : Host σ) (s : Site σ) :
    (run settings host).run s = .error f (started s) := by
  rw [run_eq, hcreate]

end Service

end ListenerPorts
