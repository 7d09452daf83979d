import ListenerPorts.Proofs.Running

set_option autoImplicit false

/-! # Ports that are assigned and ports that are listed

An assignment writes to the first connector of a role, a listing takes the last connector of each
scheme. The two meet whenever no later connector has the scheme of the first one: then the assigned
port is among the listed ones. Otherwise the first connector is passed over, and the listing does
not show what was assigned. A secure assignment leaves one connector, which is both.
-/

namespace ListenerPorts

variable {σ α β : Type}

namespace Server

/-- A listing that succeeds shows the last connector of each scheme. -/
theorem ports_eq_listed {server : Server} {role : Role} {ports : List Port} {w w' : World σ}
    (h : (server.ports role).run w = .ok ports w') : ports = server.listed role := by
  have hends := ends_ports server role w
  simp only [ends, h] at hends
  split at hends
  · exact Except.ok.inj hends
  · cases hends

/-- A listing that succeeds in one world succeeds in all of them, and shows the same. -/
theorem ends_ports_of_ok {server : Server} {role : Role} {ports : List Port} {w w' : World σ}
    (h : (server.ports role).run w = .ok ports w') (v : World σ) :
    ends (server.ports role) v = .ok (server.listed role) := by
  rw [ends_ports, ← ends_ports server role w, ends, h, ports_eq_listed h]

/-! ## Listing what was assigned -/

/-- The first connector is passed over when a later one has its scheme. -/
def FirstPassedOver (cs : List Connector) : Prop :=
  ∃ c rest, cs = c :: rest ∧ ∃ d ∈ rest, d.scheme = c.scheme

theorem lastOf_setFirstPort {cs : List Connector} (h : FirstPassedOver cs) (port : Value)
    (scheme : Scheme) : lastOf (setFirstPort port cs) scheme = lastOf cs scheme := by
  obtain ⟨c, rest, rfl, d, hd, hsame⟩ := h
  rw [setFirstPort, lastOf_cons, lastOf_cons, Connector.scheme_setPort]
  by_cases hc : c.scheme = scheme
  · -- the later connector comes before both
    obtain ⟨e, he⟩ : ∃ e, lastOf rest scheme = some e := by
      rw [← Option.ne_none_iff_exists']
      intro hnone
      exact lastOf_eq_none_iff.mp hnone d hd (hsame.trans hc)
    rw [he]
    rfl
  · rw [if_neg hc, if_neg hc]

/-- Setting the port of a connector that is passed over does not show. -/
theorem listed_of_passedOver {server server' : Server} {role : Role} {port : Value}
    (hget : server'.get role = setFirstPort port (server.get role))
    (h : FirstPassedOver (server.get role)) : server'.listed role = server.listed role := by
  unfold listed
  rw [hget]
  simp only [lastOf_setFirstPort h]

theorem passedOver_setFirstPort {cs : List Connector} {port : Value} :
    FirstPassedOver (setFirstPort port cs) ↔ FirstPassedOver cs := by
  cases cs with
  | nil => exact Iff.rfl
  | cons c rest => simp [FirstPassedOver, setFirstPort]

theorem not_passedOver_singleton (c : Connector) : ¬ FirstPassedOver [c] := by
  rintro ⟨d, rest, hcs, e, he, -⟩
  cases hcs
  cases he

/-- The port of a first connector that is not passed over is listed. -/
theorem mem_listed_of_first {server : Server} {role : Role} {port : Value}
    (hfirst : Assigner.firstPort? server role = some port)
    (h : ¬ FirstPassedOver (server.get role)) : ∃ p ∈ server.listed role, p.number = port := by
  unfold Assigner.firstPort? at hfirst
  cases hcs : server.get role with
  | nil =>
      rw [hcs] at hfirst
      cases hfirst
  | cons c rest =>
      rw [hcs] at hfirst h
      have hlater : lastOf rest c.scheme = none :=
        lastOf_eq_none_iff.mpr fun d hd hsame => h ⟨c, rest, rfl, d, hd, hsame⟩
      have hlast : lastOf (server.get role) c.scheme = some c := by
        rw [hcs, lastOf_cons, hlater, if_pos rfl]
        rfl
      exact ⟨_, mem_listed hlast, Option.some.inj hfirst⟩

end Server

/-! ## Runs with dynamic ports -/

/-- An assignment makes no first connector one that is passed over, and in secure mode it leaves
none that is. -/
theorem Assigner.passedOver_of_written {a : Assigner} {server server' : Server} {found : ByRole Nat}
    (h : a.written server found = .ok server') {role : Role}
    (hpassed : Server.FirstPassedOver (server'.get role)) :
    a.security = .nonSecure ∧ Server.FirstPassedOver (server.get role) := by
  cases hsec : a.security with
  | secure =>
      obtain ⟨tls, -, hget⟩ := get_written_secure hsec h
      obtain ⟨c, hcs, -⟩ := hget role
      rw [hcs] at hpassed
      exact absurd hpassed (Server.not_passedOver_singleton c)
  | nonSecure =>
      rw [get_written_plain hsec h role] at hpassed
      exact ⟨rfl, Server.passedOver_setFirstPort.mp hpassed⟩

namespace Service

open Server

/-- A report that succeeds has listed the ports of both roles, and logs them. -/
theorem of_run_report {settings : Settings} {server : Server} {w w' : World σ}
    (h : (report settings server).run w = .ok () w') :
    (∀ role (v : World σ), ends (server.ports role) v = .ok (server.listed role)) ∧
      ∃ v : World σ, w' = v.record (.logged ⟨.dynamicPorts, .info,
        summary settings.useDynamic (server.listed .application) (server.listed .admin)⟩) := by
  unfold report at h
  obtain ⟨application, w₁, happlication, h⟩ := of_run_bind_ok h
  obtain ⟨u₁, w₂, -, h⟩ := of_run_bind_ok h
  obtain ⟨admin, w₃, hadmin, h⟩ := of_run_bind_ok h
  obtain ⟨u₂, w₄, -, h⟩ := of_run_bind_ok h
  obtain ⟨u₃, w₅, -, h⟩ := of_run_bind_ok h
  rw [ports_eq_listed happlication, ports_eq_listed hadmin] at h
  cases h
  refine ⟨fun role v => ?_, w₅, rfl⟩
  cases role with
  | application => exact ends_ports_of_ok happlication v
  | admin => exact ends_ports_of_ok hadmin v

/-- **What a dynamic run returns and what is listed afterwards.** The ports of both roles can be
listed, and the last thing that the run does is to log them. The returned port of a role is among
the listed ones in secure mode, and in non-secure mode unless the first connector of the role is
passed over for a later one of its scheme. In that case the listing is what it was before. -/
theorem run_listed (settings : Settings) (hdynamic : settings.useDynamic.isTrue = true)
    (host : Host σ) (s s' : Site σ) (ports : ServicePorts)
    (hrun : (run settings host).run s = .ok ports s') :
    (∀ role (w : World σ), ends (s'.server.ports role) w = .ok (s'.server.listed role)) ∧
    (∃ w : World σ, s'.world = w.record (.logged ⟨.dynamicPorts, .info, summary settings.useDynamic
      (s'.server.listed .application) (s'.server.listed .admin)⟩)) ∧
    ∀ role,
      (settings.useSecure.isTrue = true ∨ ¬ FirstPassedOver (s.server.get role) →
        ∃ p ∈ s'.server.listed role, p.number = ports.get role) ∧
      (settings.useSecure.isTrue = false → FirstPassedOver (s.server.get role) →
        s'.server.listed role = s.server.listed role) := by
  obtain ⟨a, t, hcreate, hassign, hreport, hserver⟩ := of_run_ok hrun
  obtain ⟨hsec, -, hmodes⟩ := Settings.of_createAssigner hcreate
  have hmode : a.mode = .dynamic := by
    rcases hmodes with ⟨-, hmode, -⟩ | ⟨hstatic, -⟩
    · exact hmode
    · rw [hdynamic] at hstatic
      cases hstatic
  obtain ⟨found, -, -, hwritten, -, -, hfirst⟩ := Assigner.assign_dynamic_ok hmode hassign
  obtain ⟨hports, hlogged⟩ := of_run_report hreport
  rw [hserver]
  refine ⟨hports, hlogged, fun role => ⟨fun hshown => ?_, fun hplain hpassed => ?_⟩⟩
  · refine mem_listed_of_first (hfirst role) fun hpassed => ?_
    obtain ⟨hnonSecure, hbefore⟩ := Assigner.passedOver_of_written hwritten hpassed
    rcases hshown with hsecure | hkept
    · rw [hsec, Settings.securityMode, SecurityMode.ofSetting, if_pos hsecure] at hnonSecure
      cases hnonSecure
    · exact hkept hbefore
  · have hnonSecure : a.security = .nonSecure := by
      rw [hsec, Settings.securityMode, SecurityMode.ofSetting, hplain]
      rfl
    exact listed_of_passedOver (Assigner.get_written_plain hnonSecure hwritten role) hpassed

/-- Behind an encrypted connector, the plain one that gets the port is still listed. -/
theorem run_listed_two_schemes :
    let settings : Settings :=
      { useSecure := .bool false, minPort := .int 1, maxPort := .int 4,
        finder := .text "incrementing" }
    let host : Host Unit := ⟨.answering fun port _ => (.ok (port != 1), ()), fun _ => 0⟩
    let encrypted : Connector := .https (Connector.freshListener (.int 8443)) TlsField.default
    let s : Site Unit := ⟨⟨Server.defaultConnectors .application ++ [encrypted],
      Server.defaultConnectors .admin⟩, World.fresh ()⟩
    ∃ s', settings.useDynamic.isTrue = true ∧
      (run settings host).run s = .ok ⟨.int 2, .int 3⟩ s' ∧
      ∃ p ∈ s'.server.listed .application, p.number = .int 2 := by
  intro settings host encrypted s
  have hend : ends (run settings host) s = .ok ⟨.int 2, .int 3⟩ := by
    refine run_of_assign_ok rfl rfl (fun role => ?_) rfl
    cases role with
    | application =>
        refine List.forall_mem_cons.mpr ⟨Value.writable_port (p := 2) (by decide), ?_⟩
        exact List.forall_mem_singleton.mpr (Value.writable_port (p := 8443) (by decide))
    | admin => exact List.forall_mem_singleton.mpr (Value.writable_port (p := 3) (by decide))
  have hrun := run_of_ends_ok hend
  obtain ⟨-, -, hlisted⟩ := run_listed settings rfl host s _ _ hrun
  refine ⟨_, rfl, hrun, (hlisted .application).1 (Or.inr ?_)⟩
  rintro ⟨c, rest, hcs, d, hd, hsame⟩
  cases hcs
  have hlater : d = encrypted := List.mem_singleton.mp hd
  rw [hlater] at hsame
  cases hsame

/-- Of two plain connectors the first gets the port, and the second is listed. -/
theorem run_unlisted_one_scheme :
    let settings : Settings :=
      { useSecure := .bool false, minPort := .int 1, maxPort := .int 4,
        finder := .text "incrementing" }
    let host : Host Unit := ⟨.answering fun port _ => (.ok (port != 1), ()), fun _ => 0⟩
    let plain (port : Int) : Connector := .http (Connector.freshListener (.int port))
    let s : Site Unit := ⟨⟨[plain 8080, plain 8090], [plain 8081]⟩, World.fresh ()⟩
    ∃ s' ports, settings.useDynamic.isTrue = true ∧
      (run settings host).run s = .ok ⟨.int 2, .int 3⟩ s' ∧
      ends (s'.server.ports .application) s'.world = .ok ports ∧
      ∀ p ∈ ports, p.number ≠ .int 2 := by
  intro settings host plain s
  have hend : ends (run settings host) s = .ok ⟨.int 2, .int 3⟩ := by
    refine run_of_assign_ok rfl rfl (fun role => ?_) rfl
    cases role with
    | application =>
        refine List.forall_mem_cons.mpr ⟨Value.writable_port (p := 2) (by decide), ?_⟩
        exact List.forall_mem_singleton.mpr (Value.writable_port (p := 8090) (by decide))
    | admin => exact List.forall_mem_singleton.mpr (Value.writable_port (p := 3) (by decide))
  have hrun := run_of_ends_ok hend
  obtain ⟨a, t, hcreate, hassign, hreport, hserver⟩ := of_run_ok hrun
  obtain ⟨hports, -⟩ := of_run_report hreport
  refine ⟨_, t.server.listed .application, rfl, hrun, ?_, ?_⟩
  · rw [hserver]
    exact hports .application _
  · cases hcreate
    cases hassign
    intro p hp hsame
    rw [List.mem_singleton.mp hp] at hsame
    exact absurd (Value.int.inj hsame) (by decide)

end Service

end ListenerPorts
