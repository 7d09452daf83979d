import ListenerPorts.Proofs.Assigning

set_option autoImplicit false

/-! # The server along a session

The steps of a session leave the server alone, except for dynamic assignments that succeed. Those
are collected in the order in which they are made (`Session.made`), and `Explained` says what they
tell about the server: the last secure one where its connectors come from, and the last of all which
ports are written on the first of them.
-/

namespace ListenerPorts

variable {σ : Type}

/-! ## What is made along a session -/

/-- A dynamic assignment that has succeeded: the assigner as it was, and the ports it found. -/
structure Made where
  assigner : Assigner
  ports : ServicePorts

/-- The last of the assignments that was for encrypted listeners. -/
def lastSecure? (made : List Made) : Option Made :=
  (made.filter fun m => m.assigner.security = .secure).getLast?

theorem lastSecure?_append_secure (made : List Made) {m : Made}
    (h : m.assigner.security = .secure) : lastSecure? (made ++ [m]) = some m := by
  simp [lastSecure?, List.filter_append, h]

theorem lastSecure?_append_plain (made : List Made) {m : Made}
    (h : m.assigner.security = .nonSecure) : lastSecure? (made ++ [m]) = lastSecure? made := by
  simp [lastSecure?, List.filter_append, h]

/-- The step keeps the server that the session works on. -/
def Step.KeepsServer : Step σ → Prop
  | .setServer _ => False
  | _ => True

namespace Session

/-- The dynamic assignment that a step makes, if it is one and succeeds. -/
def made? (s : Session σ) (t : Step σ) : Option Made :=
  match t, (s.step t).1 with
  | .assign, .ok (.ports ports) =>
    if s.assigner.mode = .dynamic then some ⟨s.assigner, ports⟩ else none
  | _, _ => none

/-- The dynamic assignments that succeed along the steps, in order. -/
def made (s : Session σ) : List (Step σ) → List Made
  | [] => []
  | t :: ts => (s.made? t).toList ++ (s.step t).2.made ts

/-- How an assignment of the session ends and what it leaves, as the step tells it. -/
theorem step_assign_ok {s : Session σ} {ports : ServicePorts} {site : Site σ}
    (h : (s.assigner.assign s.host).run ⟨s.server, s.world⟩ = .ok ports site) :
    s.step .assign =
      (.ok (.ports ports), { s with server := site.server, world := site.world }) := by
  show s.assign = _
  unfold assign
  rw [h]

theorem step_assign_error {s : Session σ} {f : Fault} {site : Site σ}
    (h : (s.assigner.assign s.host).run ⟨s.server, s.world⟩ = .error f site) :
    s.step .assign = (.error f, { s with server := site.server, world := site.world }) := by
  show s.assign = _
  unfold assign
  rw [h]

/-- An assignment step leaves the server alone or makes a dynamic assignment. -/
theorem step_assign (s : Session σ) :
    (s.made? .assign = none ∧ (s.step .assign).2.server = s.server) ∨
    ∃ ports site, s.assigner.mode = .dynamic ∧ s.made? .assign = some ⟨s.assigner, ports⟩ ∧
      (s.assigner.assign s.host).run ⟨s.server, s.world⟩ = .ok ports site ∧
      (s.step .assign).2.server = site.server := by
  cases hrun : (s.assigner.assign s.host).run ⟨s.server, s.world⟩ with
  | error f site =>
      have hstep := step_assign_error hrun
      refine Or.inl ⟨?_, ?_⟩
      · unfold made?
        rw [hstep]
      · rw [hstep]
        exact Assigner.server_of_assign_error hrun
  | ok ports site =>
      have hstep := step_assign_ok hrun
      cases hmode : s.assigner.mode with
      | static =>
          refine Or.inl ⟨?_, ?_⟩
          · unfold made?
            rw [hstep]
            simp [hmode]
          · rw [hstep]
            rw [Assigner.run_assign_static hmode] at hrun
            cases hrun
            rfl
      | dynamic =>
          refine Or.inr ⟨ports, site, rfl, ?_, rfl, ?_⟩
          · unfold made?
            rw [hstep]
            simp [hmode]
          · rw [hstep]

/-- A step that makes no dynamic assignment leaves the server alone. -/
theorem server_of_not_made {s : Session σ} {t : Step σ} (hkeep : t.KeepsServer)
    (h : s.made? t = none) : (s.step t).2.server = s.server := by
  cases t with
  | assign =>
      rcases s.step_assign with ⟨-, hserver⟩ | ⟨ports, site, -, hmade, -⟩
      · exact hserver
      · rw [hmade] at h
        cases h
  | findFreePort =>
      show s.findFreePort.2.server = s.server
      unfold findFreePort
      cases (s.assigner.findFreePort s.host s.used).run s.world <;> rfl
  | setServer server => exact hkeep.elim
  | _ => rfl

/-- What a step has written that makes a dynamic assignment. -/
theorem made?_some {s : Session σ} {t : Step σ} {m : Made} (h : s.made? t = some m) :
    ∃ found, m.assigner.written s.server found = .ok (s.step t).2.server ∧
      ∀ role, Assigner.firstPort? (s.step t).2.server role = some (m.ports.get role) := by
  cases t with
  | assign =>
      rcases s.step_assign with ⟨hmade, -⟩ | ⟨ports, site, hmode, hmade, hrun, hserver⟩
      · rw [hmade] at h
        cases h
      · rw [hmade] at h
        cases h
        obtain ⟨found, w, -, hwritten, -, -, hfirst⟩ := Assigner.assign_dynamic_ok hmode hrun
        rw [hserver]
        exact ⟨found, hwritten, hfirst⟩
  | _ => cases h

end Session

/-! ## What the assignments tell about the server -/

/-- The connectors are the same, but for the port of the first one. -/
def SameButFirstPort (before after : List Connector) : Prop :=
  ∃ port, after = Server.setFirstPort port before

theorem SameButFirstPort.refl (cs : List Connector) : SameButFirstPort cs cs := by
  cases cs with
  | nil => exact ⟨.null, rfl⟩
  | cons c cs =>
      refine ⟨c.port, ?_⟩
      rw [Server.setFirstPort, Connector.setPort_port]

theorem SameButFirstPort.setFirstPort {before after : List Connector}
    (h : SameButFirstPort before after) (port : Value) :
    SameButFirstPort before (Server.setFirstPort port after) := by
  obtain ⟨q, rfl⟩ := h
  refine ⟨port, ?_⟩
  cases before with
  | nil => rfl
  | cons c cs => exact congrArg (· :: cs) (Connector.setPort_setPort port q c)

/-- The connectors are a single encrypted one, which is what the TLS material makes on its port. -/
def OneEncrypted (tls : TlsMaterial) (cs : List Connector) : Prop :=
  ∃ c, cs = [c] ∧ c.scheme = .https ∧ Connector.ofTls c.port tls = .ok c

theorem OneEncrypted.of_ofTls {tls : TlsMaterial} {port : Value} {c : Connector}
    (h : Connector.ofTls port tls = .ok c) : OneEncrypted tls [c] := by
  obtain ⟨hscheme, hport⟩ := Connector.ofTls_ok h
  refine ⟨c, rfl, hscheme, ?_⟩
  rw [hport]
  exact h

theorem OneEncrypted.setFirstPort {tls : TlsMaterial} {cs : List Connector}
    (h : OneEncrypted tls cs) (port : Value) :
    OneEncrypted tls (Server.setFirstPort port cs) := by
  obtain ⟨c, rfl, -, hc⟩ := h
  have hset : Connector.ofTls port tls = .ok (c.setPort port) := by
    rw [Connector.ofTls_eq_map port c.port, hc]
    rfl
  exact OneEncrypted.of_ofTls hset

/-- What the dynamic assignments that were made tell about the server, given the initial one. -/
structure Explained (initial : Server) (made : List Made) (server : Server) : Prop where
  kept : lastSecure? made = none → ∀ role, SameButFirstPort (initial.get role) (server.get role)
  replaced : ∀ m, lastSecure? made = some m →
    ∃ tls, m.assigner.tls = some tls ∧ ∀ role, OneEncrypted tls (server.get role)
  ports : ∀ m, made.getLast? = some m →
    ∀ role, Assigner.firstPort? server role = some (m.ports.get role)

namespace Explained

variable {initial server server' : Server} {made : List Made} {m : Made} {found : ByRole Nat}

theorem start (initial : Server) : Explained initial [] initial where
  kept := fun _ _ => .refl _
  replaced := fun _ h => nomatch h
  ports := fun _ h => nomatch h

/-- The last of the assignments is the one whose ports are written. -/
theorem ports_concat (made : List Made)
    (hports : ∀ role, Assigner.firstPort? server' role = some (m.ports.get role)) :
    ∀ l, (made ++ [m]).getLast? = some l →
      ∀ role, Assigner.firstPort? server' role = some (l.ports.get role) := by
  intro l hl
  rw [List.getLast?_concat] at hl
  cases hl
  exact hports

/-- A plain assignment keeps what is there, and with it where the connectors come from. -/
theorem plain (h : Explained initial made server) (hsec : m.assigner.security = .nonSecure)
    (hwritten : m.assigner.written server found = .ok server')
    (hports : ∀ role, Assigner.firstPort? server' role = some (m.ports.get role)) :
    Explained initial (made ++ [m]) server' := by
  have hget := Assigner.get_written_plain hsec hwritten
  refine ⟨?_, ?_, ports_concat made hports⟩
  · rw [lastSecure?_append_plain made hsec]
    intro hnone role
    rw [hget role]
    exact (h.kept hnone role).setFirstPort _
  · rw [lastSecure?_append_plain made hsec]
    intro l hl
    obtain ⟨tls, htls, hone⟩ := h.replaced l hl
    refine ⟨tls, htls, fun role => ?_⟩
    rw [hget role]
    exact (hone role).setFirstPort _

/-- A secure assignment replaces all connectors, whatever was there. -/
theorem secure (hsec : m.assigner.security = .secure)
    (hwritten : m.assigner.written server found = .ok server')
    (hports : ∀ role, Assigner.firstPort? server' role = some (m.ports.get role)) :
    Explained initial (made ++ [m]) server' := by
  obtain ⟨tls, htls, hget⟩ := Assigner.get_written_secure hsec hwritten
  refine ⟨?_, ?_, ports_concat made hports⟩
  · rw [lastSecure?_append_secure made hsec]
    intro hnone
    cases hnone
  · rw [lastSecure?_append_secure made hsec]
    intro l hl
    cases hl
    refine ⟨tls, htls, fun role => ?_⟩
    obtain ⟨c, hcs, hc⟩ := hget role
    rw [hcs]
    exact OneEncrypted.of_ofTls hc

end Explained

namespace Session

/-- A step that keeps the server keeps it explained by what was made. -/
theorem explained_step {initial : Server} {made : List Made} {s : Session σ} {t : Step σ}
    (hkeep : t.KeepsServer) (h : Explained initial made s.server) :
    Explained initial (made ++ (s.made? t).toList) (s.step t).2.server := by
  cases hmade : s.made? t with
  | none =>
      rw [server_of_not_made hkeep hmade, Option.toList_none, List.append_nil]
      exact h
  | some m =>
      obtain ⟨found, hwritten, hports⟩ := made?_some hmade
      cases hsec : m.assigner.security with
      | secure => exact Explained.secure hsec hwritten hports
      | nonSecure => exact h.plain hsec hwritten hports

theorem explained_steps {initial : Server} {ts : List (Step σ)}
    (hkeep : ∀ t ∈ ts, t.KeepsServer) {made : List Made} {s : Session σ}
    (h : Explained initial made s.server) :
    Explained initial (made ++ s.made ts) (s.steps ts).server := by
  -- every step adds what it has made to the history, so the history grows along the induction
  induction ts generalizing made s with
  | nil =>
      rw [Session.made, List.append_nil]
      exact h
  | cons t ts ih =>
      rw [List.forall_mem_cons] at hkeep
      rw [Session.made, ← List.append_assoc]
      exact ih hkeep.2 (explained_step hkeep.1 h)

/-- **The history of a server.** After any steps that keep the server, either no secure dynamic
assignment has succeeded and the connectors are the initial ones but for the port of the first of
each role, or one has, and each role has a single encrypted connector, made from the TLS material
held at the last of them. The ports of the first connectors are those that the last successful
dynamic assignment has reported. -/
theorem steps_history (s : Session σ) (ts : List (Step σ)) (hkeep : ∀ t ∈ ts, t.KeepsServer) :
    Xor (lastSecure? (s.made ts) = none ∧
        ∀ role, SameButFirstPort (s.server.get role) ((s.steps ts).server.get role))
      (∃ m, lastSecure? (s.made ts) = some m ∧ ∃ tls, m.assigner.tls = some tls ∧
        ∀ role, OneEncrypted tls ((s.steps ts).server.get role)) ∧
    ∀ m, (s.made ts).getLast? = some m → ∀ role,
      ((s.steps ts).server.get role).head?.map Connector.port = some (m.ports.get role) := by
  have h := explained_steps hkeep (Explained.start s.server)
  rw [List.nil_append] at h
  refine ⟨?_, h.ports⟩
  -- which of the two it is depends on whether the history has a secure assignment
  cases hlast : lastSecure? (s.made ts) with
  | none =>
      refine Or.inl ⟨⟨rfl, h.kept hlast⟩, ?_⟩
      rintro ⟨m, hm, -⟩
      cases hm
  | some m =>
      refine Or.inr ⟨⟨m, rfl, h.replaced m hlast⟩, ?_⟩
      rintro ⟨hm, -⟩
      cases hm

/-- A secure assignment, then a plain one without TLS material: the second moves the ports of the
connectors that the first has made. -/
theorem steps_history_secure_plain :
    let tls : TlsMaterial := fun
      | .keyStorePath | .keyStorePassword | .trustStorePath | .trustStorePassword => .text "x"
      | f => f.default
    let range : PortRange := ⟨1, 4, by decide, by decide, by decide⟩
    let host : Host Unit := ⟨.answering fun port _ => (.ok (port != 1), ()), fun _ => 0⟩
    let s : Session Unit := ⟨⟨.dynamic, .secure, some range, some tls, some .incrementing⟩, host,
      Server.default, [], World.fresh ()⟩
    let ts : List (Step Unit) := [.assign, .setSecurity .nonSecure, .setTls none,
      .setFinder (some .adjacent), .assign]
    (∀ t ∈ ts, t.KeepsServer) ∧ ∀ role, OneEncrypted tls ((s.steps ts).server.get role) := by
  intro tls range host s ts
  have hkeep : ∀ t ∈ ts, t.KeepsServer := by simp [ts, Step.KeepsServer]
  have hlast : lastSecure? (s.made ts) = some ⟨s.assigner, ⟨.int 2, .int 3⟩⟩ := rfl
  refine ⟨hkeep, ?_⟩
  obtain ⟨⟨⟨hnone, -⟩, -⟩ | ⟨⟨m, hm, tls', htls, hone⟩, -⟩, -⟩ := steps_history s ts hkeep
  · rw [hlast] at hnone
    cases hnone
  · rw [hlast] at hm
    cases hm
    cases htls
    exact hone

end Session

end ListenerPorts
