import ListenerPorts.Proofs.Assigning

set_option autoImplicit false

/-! # What an assignment does not look at

Each mode of an assigner looks at a part of its inputs only. A static assignment looks at the first
ports of the server, a secure one never at its connectors, and a plain one neither at the TLS
material nor at what the connectors are, as long as each role has some. So two runs that differ in
the rest go the same way: they ask and draw the same, and they end with the same ports or the same
fault.
-/

namespace ListenerPorts

variable {σ τ α : Type}

/-- Two assignments end in the same way and leave the same world, though perhaps not the same
server. -/
def Alike (x y : Assignment σ α) (s t : Site σ) : Prop :=
  ends x s = ends y t ∧ (leaves x s).world = (leaves y t).world

namespace Assigner

variable {a b : Assigner} {host : Host σ}

/-! ## Dynamic assignments -/

theorem openingMessage_congr (hsec : a.security = b.security) :
    a.openingMessage = b.openingMessage := by
  unfold openingMessage
  rw [hsec]

theorem closingMessage_congr (hsec : a.security = b.security) (found : ByRole Nat) :
    a.closingMessage found = b.closingMessage found := by
  unfold closingMessage
  rw [hsec]

/-- Dynamic assignments that check and search alike, and can write the same, go the same way. -/
theorem assign_alike (ha : a.mode = .dynamic) (hb : b.mode = .dynamic)
    (hsec : a.security = b.security) (hfind : a.findPorts host = b.findPorts host)
    {server server' : Server} (hcheck : a.check server = b.check server')
    (hwritten : ∀ found, (a.written server found).map (fun _ => ()) =
      (b.written server' found).map fun _ => ()) (w : World σ) :
    Alike (a.assign host) (b.assign host) ⟨server, w⟩ ⟨server', w⟩ := by
  unfold Alike ends leaves
  rw [run_assign_dynamic ha, run_assign_dynamic hb, hcheck]
  cases b.check server' with
  | error f => exact ⟨rfl, rfl⟩
  | ok u =>
      dsimp only
      unfold searchAndFinish
      rw [hfind, openingMessage_congr hsec]
      cases (b.findPorts host).run (w.record (said .debug b.openingMessage)) with
      | error f w' => exact ⟨rfl, rfl⟩
      | ok found w' =>
          have hsame := hwritten found
          dsimp only
          unfold finish
          rw [closingMessage_congr hsec]
          cases hleft : a.written server found with
          | error f =>
              rw [hleft] at hsame
              cases hright : b.written server' found with
              | error g =>
                  rw [hright] at hsame
                  cases hsame
                  exact ⟨rfl, rfl⟩
              | ok t =>
                  rw [hright] at hsame
                  cases hsame
          | ok s =>
              rw [hleft] at hsame
              cases hright : b.written server' found with
              | error g =>
                  rw [hright] at hsame
                  cases hsame
              | ok t => exact ⟨rfl, rfl⟩

theorem reported_injective : Function.Injective reported := by
  intro found found' h
  obtain ⟨application, admin⟩ := found
  obtain ⟨application', admin'⟩ := found'
  have happlication : Value.int application = .int application' := congrArg ByRole.application h
  have hadmin : Value.int admin = .int admin' := congrArg ByRole.admin h
  rw [Int.ofNat.inj (Value.int.inj happlication), Int.ofNat.inj (Value.int.inj hadmin)]

/-- A secure assignment does not look at what it replaces. -/
theorem written_secure_congr (hsec : a.security = .secure) (server server' : Server)
    (found : ByRole Nat) : a.written server found = a.written server' found := by
  unfold written
  rw [hsec]

theorem check_secure_congr (hsec : a.security = .secure) (server server' : Server) :
    a.check server = a.check server' := by
  unfold check
  rw [hsec]

/-- A plain assignment passes its check if each role has a connector. -/
theorem check_plain (hsec : a.security = .nonSecure) {server : Server}
    (hserver : ∀ role, server.get role ≠ []) : a.check server = .ok () := by
  have happlication : server.application.isEmpty = false :=
    List.isEmpty_eq_false_iff.mpr (hserver .application)
  have hadmin : server.admin.isEmpty = false := List.isEmpty_eq_false_iff.mpr (hserver .admin)
  unfold check
  simp [hsec, happlication, hadmin]

/-! ## The three modes -/

/-- Nothing but the first ports of the server decides what a static assignment does, and all that it
does is to leave a message. -/
theorem assign_static_ignores (ha : a.mode = .static) (hb : b.mode = .static) (host : Host σ)
    (host' : Host τ) {s : Site σ} {t : Site τ}
    (hports : ∀ role, s.server.firstPort role = t.server.firstPort role) :
    ∃ ports message,
      (a.assign host).run s = .ok ports ⟨s.server, s.world.record (said .info message)⟩ ∧
      (b.assign host').run t = .ok ports ⟨t.server, t.world.record (said .info message)⟩ := by
  refine ⟨_, _, run_assign_static ha host s, ?_⟩
  rw [run_assign_static hb host' t, hports, hports]

/-- A secure assignment replaces the connectors of a server without looking at them. -/
theorem assign_secure_ignores (hmode : a.mode = .dynamic) (hsec : a.security = .secure)
    (host : Host σ) (server server' : Server) (w : World σ) :
    Alike (a.assign host) (a.assign host) ⟨server, w⟩ ⟨server', w⟩ ∧
      ∀ ports, ends (a.assign host) ⟨server, w⟩ = .ok ports →
        (leaves (a.assign host) ⟨server, w⟩).server =
          (leaves (a.assign host) ⟨server', w⟩).server := by
  have halike : Alike (a.assign host) (a.assign host) ⟨server, w⟩ ⟨server', w⟩ := by
    refine assign_alike hmode hmode rfl rfl (check_secure_congr hsec _ _) (fun found => ?_) w
    rw [written_secure_congr hsec server server']
  refine ⟨halike, ?_⟩
  intro ports hports
  have hports' := hports
  rw [halike.1] at hports'
  -- both have found the ports that they report
  obtain ⟨found, -, -, hwritten, hfound, -⟩ := assign_dynamic_ok hmode (run_of_ends_ok hports)
  obtain ⟨found', -, -, hwritten', hfound', -⟩ := assign_dynamic_ok hmode (run_of_ends_ok hports')
  have hsame : found = found' := reported_injective (hfound.symm.trans hfound')
  rw [written_secure_congr hsec server server', hsame, hwritten'] at hwritten
  exact (Except.ok.inj hwritten).symm

/-- A plain assignment looks neither at the TLS material nor at the connectors that are there. -/
theorem assign_plain_ignores (hmode : a.mode = .dynamic) (hsec : a.security = .nonSecure)
    (tls : Option TlsMaterial) (host : Host σ) {server server' : Server}
    (hserver : ∀ role, server.get role ≠ []) (hserver' : ∀ role, server'.get role ≠ [])
    (w : World σ) :
    Alike (a.assign host) (({ a with tls } : Assigner).assign host) ⟨server, w⟩ ⟨server', w⟩ := by
  have hcheck : a.check server = ({ a with tls } : Assigner).check server' := by
    rw [check_plain hsec hserver]
    exact (check_plain (a := { a with tls }) hsec hserver').symm
  refine assign_alike (b := { a with tls }) hmode hmode rfl rfl hcheck (fun found => ?_) w
  rw [written_plain hsec, written_plain (a := { a with tls }) hsec]
  rfl

/-- **Each mode ignores what does not concern it.** Static assignments of two servers with the same
first ports report these ports and leave a message, whatever the other settings, the probes and the
draws are. A secure assignment goes the same way for any two servers, and makes them equal if it
succeeds. A plain assignment goes the same way for any two servers with connectors in each role and
any TLS material. -/
theorem assign_ignores (a : Assigner) (host : Host σ) (server server' : Server) (w : World σ) :
    (a.mode = .static → ∀ b : Assigner, b.mode = .static → ∀ (τ : Type) (host' : Host τ)
      (w' : World τ), (∀ role, server.firstPort role = server'.firstPort role) →
      ∃ ports message,
        (a.assign host).run ⟨server, w⟩ = .ok ports ⟨server, w.record (said .info message)⟩ ∧
        (b.assign host').run ⟨server', w'⟩ =
          .ok ports ⟨server', w'.record (said .info message)⟩) ∧
    (a.mode = .dynamic → a.security = .secure →
      Alike (a.assign host) (a.assign host) ⟨server, w⟩ ⟨server', w⟩ ∧
        ∀ ports, ends (a.assign host) ⟨server, w⟩ = .ok ports →
          (leaves (a.assign host) ⟨server, w⟩).server =
            (leaves (a.assign host) ⟨server', w⟩).server) ∧
    (a.mode = .dynamic → a.security = .nonSecure → (∀ role, server.get role ≠ []) →
      (∀ role, server'.get role ≠ []) → ∀ tls,
      Alike (a.assign host) (({ a with tls } : Assigner).assign host)
        ⟨server, w⟩ ⟨server', w⟩) := by
  refine ⟨?_, ?_, ?_⟩
  · intro hmode b hmode' τ host' w' hports
    exact assign_static_ignores hmode hmode' host host' hports
  · intro hmode hsec
    exact assign_secure_ignores hmode hsec host server server' w
  · intro hmode hsec hserver hserver' tls
    exact assign_plain_ignores hmode hsec tls host hserver hserver' w

/-- A plain assignment that finds the ports 2 and 3 finds them for a server with other connectors,
and with TLS material, as well. -/
theorem assign_ignores_two_servers :
    let range : PortRange := ⟨1, 4, by decide, by decide, by decide⟩
    let host : Host Unit := ⟨.answering fun port _ => (.ok (port != 1), ()), fun _ => 0⟩
    let a : Assigner := ⟨.dynamic, .nonSecure, some range, none, some .incrementing⟩
    let encrypted : Connector := .https (Connector.freshListener (.int 8443)) TlsField.default
    let server : Server := ⟨[encrypted], [encrypted, encrypted]⟩
    (∀ role, server.get role ≠ []) ∧
      ends (({ a with tls := some TlsField.default } : Assigner).assign host)
        ⟨server, World.fresh ()⟩ = .ok ⟨.int 2, .int 3⟩ := by
  intro range host a encrypted server
  have hserver : ∀ role, server.get role ≠ [] := by
    intro role
    cases role <;> exact List.cons_ne_nil _ _
  have hdefault : ∀ role, Server.default.get role ≠ [] := by
    intro role
    cases role <;> exact List.cons_ne_nil _ _
  obtain ⟨-, -, hplain⟩ := assign_ignores a host Server.default server (World.fresh ())
  have halike := hplain rfl rfl hdefault hserver (some TlsField.default)
  refine ⟨hserver, ?_⟩
  rw [← halike.1]
  rfl

end Assigner

end ListenerPorts
