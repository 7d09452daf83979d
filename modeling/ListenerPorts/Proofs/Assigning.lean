import ListenerPorts.Assigner.Session
import ListenerPorts.Proofs.Searching

set_option autoImplicit false

/-! # Assignments as check, search and write

A dynamic assignment checks what it needs, searches, and writes. `Assigner.check` and
`Assigner.written` are its first and its last part without the world between them, and
`assign_dynamic` puts an assignment together from them. The server is written in one go, although
the connectors of the roles are made and set one after the other: the second connector is made from
the material of the first, so it cannot fail where the first did not.
-/

namespace ListenerPorts

variable {σ α β : Type}

/-! ## Steps of an assignment -/

namespace Assignment

theorem run_onWorld (x : Run σ α) (s : Site σ) :
    (onWorld x).run s = match x.run s.world with
      | .ok a w => .ok a ⟨s.server, w⟩
      | .error f w => .error f ⟨s.server, w⟩ := rfl

theorem run_onWorld_ok {x : Run σ α} {s : Site σ} {a : α} {w : World σ}
    (h : x.run s.world = .ok a w) (k : α → Assignment σ β) :
    (onWorld x >>= k).run s = (k a).run ⟨s.server, w⟩ := by
  rw [EStateM.run_bind, run_onWorld, h]

theorem run_onWorld_error {x : Run σ α} {s : Site σ} {f : Fault} {w : World σ}
    (h : x.run s.world = .error f w) (k : α → Assignment σ β) :
    (onWorld x >>= k).run s = .error f ⟨s.server, w⟩ := by
  rw [EStateM.run_bind, run_onWorld, h]

theorem run_lift_bind_ok {e : Except Fault α} {a : α} (h : e = .ok a) (s : Site σ)
    (k : α → Assignment σ β) : (onWorld (Run.lift e) >>= k).run s = (k a).run s := by
  subst h
  rfl

theorem run_lift_bind_error {e : Except Fault α} {f : Fault} (h : e = .error f) (s : Site σ)
    (k : α → Assignment σ β) : (onWorld (Run.lift e) >>= k).run s = .error f s := by
  subst h
  rfl

theorem run_log_bind (logger : Logger) (level : Level) (message : String) (s : Site σ)
    (k : Unit → Assignment σ β) :
    (onWorld (Run.log logger level message) >>= k).run s =
      (k ()).run ⟨s.server, s.world.record (.logged ⟨logger, level, message⟩)⟩ := rfl

end Assignment

/-! ## Connectors that differ in their port -/

namespace Connector

theorem portSet_portSet (l : ListenerField → Value) (p q : Value) :
    portSet (portSet l q) p = portSet l p := by
  funext f
  cases f <;> rfl

@[simp] theorem setPort_setPort (p q : Value) (c : Connector) :
    (c.setPort q).setPort p = c.setPort p := by
  cases c with
  | http l => exact congrArg http (portSet_portSet l p q)
  | https l tls => exact congrArg (https · tls) (portSet_portSet l p q)

/-- Setting the port that a connector has changes nothing. -/
@[simp] theorem setPort_port (c : Connector) : c.setPort c.port = c := by
  have hself : ∀ l : ListenerField → Value, portSet l (l .port) = l := by
    intro l
    funext f
    cases f <;> rfl
  cases c with
  | http l => exact congrArg http (hself l)
  | https l tls => exact congrArg (https · tls) (hself l)

/-- A connector made from TLS material is the same on every port, but for the port. -/
theorem ofTls_eq_map (p q : Value) (tls : TlsMaterial) :
    ofTls p tls = (ofTls q tls).map (setPort p) := by
  unfold ofTls
  cases ownList (tls .supportedProtocols) with
  | error f => rfl
  | ok protocols =>
      cases ownList (tls .supportedCiphers) with
      | error f => rfl
      | ok ciphers =>
          show Except.ok (https (freshListener p) _) = Except.ok (https (portSet _ p) _)
          rw [freshListener, freshListener, portSet_portSet]

/-- A connector made from TLS material is encrypted and listens on the port it was made for. -/
theorem ofTls_ok {p : Value} {tls : TlsMaterial} {c : Connector} (h : ofTls p tls = .ok c) :
    c.scheme = .https ∧ c.port = p := by
  unfold ofTls at h
  cases hp : ownList (tls .supportedProtocols) with
  | error f =>
      rw [hp] at h
      cases h
  | ok protocols =>
      cases hc : ownList (tls .supportedCiphers) with
      | error f =>
          rw [hp, hc] at h
          cases h
      | ok ciphers =>
          rw [hp, hc] at h
          cases h
          exact ⟨rfl, rfl⟩

end Connector

/-! ## The parts of a dynamic assignment -/

namespace Assigner

open Assignment

/-- What a dynamic assignment checks before it searches. -/
def check (a : Assigner) (server : Server) : Except Fault Unit :=
  match a.security with
  | .secure => a.requireTls.map fun _ => ()
  | .nonSecure =>
    if server.application.isEmpty then fail (.connectorMissing .application)
    else if server.admin.isEmpty then fail (.connectorMissing .admin)
    else .ok ()

/-- The server into which a dynamic assignment turns a server when it has found its ports. -/
def written (a : Assigner) (server : Server) (found : ByRole Nat) : Except Fault Server :=
  match a.security with
  | .secure => do
    let tls ← a.requireTls
    let application ← Connector.ofTls (.int found.application) tls
    let admin ← Connector.ofTls (.int found.admin) tls
    return ⟨[application], [admin]⟩
  | .nonSecure =>
    .ok ⟨Server.setFirstPort (.int found.application) server.application,
      Server.setFirstPort (.int found.admin) server.admin⟩

def openingMessage (a : Assigner) : String :=
  match a.security with
  | .secure => "Replacing app/admin connectors with HTTPS ones using dynamic ports"
  | .nonSecure => "Modifying existing app/admin connectors using dynamic ports"

def closingMessage (a : Assigner) (found : ByRole Nat) : String :=
  match a.security with
  | .secure => "Assigned secure application port " ++ toString found.application ++
      " and admin port " ++ toString found.admin ++ " to new HTTPS connectors"
  | .nonSecure => "Assigned application port " ++ toString found.application ++
      " and admin port " ++ toString found.admin ++ " to existing connectors"

def reported (found : ByRole Nat) : ServicePorts := found.map fun (p : Nat) => .int p

def said (level : Level) (message : String) : Event := .logged ⟨.portAssigner, level, message⟩

/-- What an assignment does with the ports that its search has found. -/
def finish (a : Assigner) (server : Server) (found : ByRole Nat) (w : World σ) :
    EStateM.Result Fault (Site σ) ServicePorts :=
  match a.written server found with
  | .error f => .error f ⟨server, w⟩
  | .ok server' => .ok (reported found) ⟨server', w.record (said .info (a.closingMessage found))⟩

/-- What an assignment does once its check is passed. -/
def searchAndFinish (a : Assigner) (host : Host σ) (s : Site σ) :
    EStateM.Result Fault (Site σ) ServicePorts :=
  match (a.findPorts host).run (s.world.record (said .debug a.openingMessage)) with
  | .error f w => .error f ⟨s.server, w⟩
  | .ok found w => a.finish s.server found w

variable {a : Assigner}

/-- A secure assignment makes one connector, and has it on two ports. -/
theorem written_secure (hsec : a.security = .secure) {tls : TlsMaterial}
    (htls : a.requireTls = .ok tls) (server : Server) (found : ByRole Nat) :
    a.written server found = (Connector.ofTls (.int found.application) tls).map fun c =>
      ⟨[c], [c.setPort (.int found.admin)]⟩ := by
  have hadmin := Connector.ofTls_eq_map (.int found.admin) (.int found.application) tls
  unfold written
  simp only [hsec, htls, bind, Except.bind, hadmin]
  cases Connector.ofTls (.int found.application) tls <;> rfl

theorem tls_of_requireTls {tls : TlsMaterial} (h : a.requireTls = .ok tls) :
    a.tls = some tls := by
  unfold requireTls at h
  cases htls : a.tls with
  | none =>
      rw [htls] at h
      cases h
  | some t =>
      simp only [htls] at h
      split at h
      · cases h
        rfl
      · cases h

theorem written_plain (hsec : a.security = .nonSecure) (server : Server) (found : ByRole Nat) :
    a.written server found = .ok ⟨Server.setFirstPort (.int found.application) server.application,
      Server.setFirstPort (.int found.admin) server.admin⟩ := by
  unfold written
  rw [hsec]

theorem run_assignSecure (hsec : a.security = .secure) {tls : TlsMaterial}
    (htls : a.requireTls = .ok tls) (host : Host σ) (s : Site σ) :
    (a.assignSecure host).run s = a.searchAndFinish host s := by
  unfold assignSecure searchAndFinish openingMessage
  rw [run_lift_bind_ok htls, run_log_bind, hsec]
  cases hfind : (a.findPorts host).run (s.world.record (said .debug
      "Replacing app/admin connectors with HTTPS ones using dynamic ports")) with
  | error f w => rw [run_onWorld_error hfind]
  | ok found w =>
      rw [run_onWorld_ok hfind]
      show _ = a.finish s.server found w
      unfold finish closingMessage
      rw [written_secure hsec htls, hsec]
      -- the application connector is written before the admin one is made, which cannot fail then
      have hadmin := Connector.ofTls_eq_map (.int found.admin) (.int found.application) tls
      cases happlication : Connector.ofTls (.int found.application) tls with
      | error f => rfl
      | ok c =>
          rw [happlication] at hadmin
          rw [hadmin]
          rfl

theorem run_assignPlain (hsec : a.security = .nonSecure) {s : Site σ}
    (happlication : s.server.application.isEmpty = false)
    (hadmin : s.server.admin.isEmpty = false) (host : Host σ) :
    (a.assignPlain host).run s = a.searchAndFinish host s := by
  unfold assignPlain searchAndFinish openingMessage
  rw [EStateM.run_bind, EStateM.run_get]
  simp only [happlication, hadmin, Bool.false_eq_true, if_false, hsec]
  rw [run_log_bind]
  cases hfind : (a.findPorts host).run (s.world.record (said .debug
      "Modifying existing app/admin connectors using dynamic ports")) with
  | error f w => rw [run_onWorld_error hfind]
  | ok found w =>
      rw [run_onWorld_ok hfind]
      show _ = a.finish s.server found w
      unfold finish closingMessage
      rw [written_plain hsec, hsec]
      rfl

/-- A dynamic assignment checks, searches, and writes. -/
theorem run_assign_dynamic (hmode : a.mode = .dynamic) (host : Host σ) (s : Site σ) :
    (a.assign host).run s = match a.check s.server with
      | .error f => .error f s
      | .ok () => a.searchAndFinish host s := by
  unfold assign check
  rw [hmode]
  cases hsec : a.security with
  | secure =>
      cases htls : a.requireTls with
      | ok tls => exact run_assignSecure hsec htls host s
      | error f =>
          unfold assignSecure
          exact run_lift_bind_error htls s _
  | nonSecure =>
      cases happlication : s.server.application.isEmpty with
      | true =>
          unfold assignPlain
          rw [EStateM.run_bind, EStateM.run_get]
          simp only [happlication]
          rfl
      | false =>
          cases hadmin : s.server.admin.isEmpty with
          | true =>
              unfold assignPlain
              rw [EStateM.run_bind, EStateM.run_get]
              simp only [happlication, hadmin]
              rfl
          | false => exact run_assignPlain hsec happlication hadmin host

def opened (a : Assigner) (s : Site σ) : World σ := s.world.record (said .debug a.openingMessage)

/-- All that a dynamic assignment can do. Until it has written, the server is what it was. -/
inductive Outcome (a : Assigner) (host : Host σ) (s : Site σ) :
    EStateM.Result Fault (Site σ) ServicePorts → Prop where
  /-- the check fails, and nothing was done -/
  | refused {f : Fault} (hcheck : a.check s.server = .error f) : Outcome a host s (.error f s)
  /-- the search fails -/
  | notFound {f : Fault} {w : World σ} (hcheck : a.check s.server = .ok ())
      (hfind : (a.findPorts host).run (a.opened s) = .error f w) :
      Outcome a host s (.error f ⟨s.server, w⟩)
  /-- ports were found, but no connectors could be made for them -/
  | notWritten {f : Fault} {w : World σ} {found : ByRole Nat} (hcheck : a.check s.server = .ok ())
      (hfind : (a.findPorts host).run (a.opened s) = .ok found w)
      (hwritten : a.written s.server found = .error f) : Outcome a host s (.error f ⟨s.server, w⟩)
  | assigned {w : World σ} {found : ByRole Nat} {server : Server}
      (hcheck : a.check s.server = .ok ())
      (hfind : (a.findPorts host).run (a.opened s) = .ok found w)
      (hwritten : a.written s.server found = .ok server) :
      Outcome a host s
        (.ok (reported found) ⟨server, w.record (said .info (a.closingMessage found))⟩)

theorem assign_outcome (hmode : a.mode = .dynamic) (host : Host σ) (s : Site σ) :
    a.Outcome host s ((a.assign host).run s) := by
  rw [run_assign_dynamic hmode]
  cases hcheck : a.check s.server with
  | error f => exact .refused hcheck
  | ok u =>
      dsimp only
      unfold searchAndFinish
      rw [← opened]
      cases hfind : (a.findPorts host).run (a.opened s) with
      | error f w => exact .notFound hcheck hfind
      | ok found w =>
          dsimp only
          unfold finish
          cases hwritten : a.written s.server found with
          | error f => exact .notWritten hcheck hfind hwritten
          | ok server => exact .assigned hcheck hfind hwritten

/-- A static assignment reports the configured ports and leaves a message. -/
theorem run_assign_static (hmode : a.mode = .static) (host : Host σ) (s : Site σ) :
    (a.assign host).run s =
      .ok ⟨s.server.firstPort .application, s.server.firstPort .admin⟩
        ⟨s.server, s.world.record (said .info
          "Static port assignment is being used, relying on configured connectors")⟩ := by
  unfold assign
  rw [hmode]
  cases a.security <;> rfl

/-! ## What is written -/

def firstPort? (server : Server) (role : Role) : Option Value :=
  (server.get role).head?.map Connector.port

theorem requireTls_of_check {server : Server} (hsec : a.security = .secure)
    (hcheck : a.check server = .ok ()) : ∃ tls, a.requireTls = .ok tls := by
  unfold check at hcheck
  rw [hsec] at hcheck
  cases htls : a.requireTls with
  | ok tls => exact ⟨tls, rfl⟩
  | error f =>
      rw [htls] at hcheck
      cases hcheck

theorem ne_nil_of_check {server : Server} (hsec : a.security = .nonSecure)
    (hcheck : a.check server = .ok ()) (role : Role) : server.get role ≠ [] := by
  obtain ⟨application, admin⟩ := server
  unfold check at hcheck
  rw [hsec] at hcheck
  cases application with
  | nil => cases hcheck
  | cons c cs =>
      cases admin with
      | nil => cases hcheck
      | cons d ds => cases role <;> exact List.cons_ne_nil _ _

/-- A plain assignment sets the port of the first connector of each role. -/
theorem get_written_plain (hsec : a.security = .nonSecure) {server server' : Server}
    {found : ByRole Nat} (h : a.written server found = .ok server') (role : Role) :
    server'.get role = Server.setFirstPort ((reported found).get role) (server.get role) := by
  rw [written_plain hsec] at h
  cases h
  cases role <;> rfl

/-- A secure assignment leaves one connector in each role, made from the TLS material for the port
that was found. -/
theorem get_written_secure (hsec : a.security = .secure) {server server' : Server}
    {found : ByRole Nat} (h : a.written server found = .ok server') :
    ∃ tls, a.tls = some tls ∧ ∀ role, ∃ c, server'.get role = [c] ∧
      Connector.ofTls ((reported found).get role) tls = .ok c := by
  cases htls : a.requireTls with
  | error f =>
      unfold written at h
      rw [hsec, htls] at h
      cases h
  | ok tls =>
      refine ⟨tls, tls_of_requireTls htls, ?_⟩
      rw [written_secure hsec htls] at h
      cases hc : Connector.ofTls (.int found.application) tls with
      | error f =>
          rw [hc] at h
          cases h
      | ok c =>
          rw [hc] at h
          cases h
          intro role
          cases role with
          | application => exact ⟨c, rfl, hc⟩
          | admin =>
              refine ⟨c.setPort (.int found.admin), rfl, ?_⟩
              show Connector.ofTls (.int found.admin) tls = _
              rw [Connector.ofTls_eq_map _ (.int found.application), hc]
              rfl

/-- A check that is passed lets the found ports be written to the first connector of each role. -/
theorem firstPort?_written {server server' : Server} {found : ByRole Nat}
    (hcheck : a.check server = .ok ()) (h : a.written server found = .ok server') (role : Role) :
    firstPort? server' role = some ((reported found).get role) := by
  unfold firstPort?
  cases hsec : a.security with
  | secure =>
      obtain ⟨tls, -, hget⟩ := get_written_secure hsec h
      obtain ⟨c, hcs, hc⟩ := hget role
      rw [hcs]
      exact congrArg some (Connector.ofTls_ok hc).2
  | nonSecure =>
      have hne := ne_nil_of_check hsec hcheck role
      rw [get_written_plain hsec h role]
      cases hcs : server.get role with
      | nil => exact absurd hcs hne
      | cons c cs => exact congrArg some (Connector.port_setPort _ c)

/-! ## All or nothing -/

/-- Whatever makes an assignment fail, it has not touched the server. -/
theorem server_of_assign_error {host : Host σ} {s s' : Site σ} {f : Fault}
    (h : (a.assign host).run s = .error f s') : s'.server = s.server := by
  cases hmode : a.mode with
  | static =>
      rw [run_assign_static hmode] at h
      cases h
  | dynamic =>
      have houtcome := assign_outcome hmode host s
      rw [h] at houtcome
      cases houtcome with
      | refused => rfl
      | notFound => rfl
      | notWritten => rfl

/-- What a dynamic assignment that succeeds has found and written. -/
theorem assign_dynamic_ok (hmode : a.mode = .dynamic) {host : Host σ} {s s' : Site σ}
    {ports : ServicePorts} (h : (a.assign host).run s = .ok ports s') :
    ∃ found w, (a.findPorts host).run (a.opened s) = .ok found w ∧
      a.written s.server found = .ok s'.server ∧ ports = reported found ∧
      s'.world = w.record (said .info (a.closingMessage found)) ∧
      ∀ role, firstPort? s'.server role = some (ports.get role) := by
  have houtcome := assign_outcome hmode host s
  rw [h] at houtcome
  cases houtcome with
  | assigned hcheck hfind hwritten =>
      exact ⟨_, _, hfind, hwritten, rfl, rfl, firstPort?_written hcheck hwritten⟩

theorem firstPort_of_firstPort? {server : Server} {role : Role} {port : Value}
    (h : firstPort? server role = some port) : server.firstPort role = port := by
  unfold firstPort? at h
  unfold Server.firstPort
  cases hcs : server.get role with
  | nil =>
      rw [hcs] at h
      cases h
  | cons c cs =>
      rw [hcs] at h
      exact Option.some.inj h

/-- An assignment that succeeds reports the ports that the first connectors then have. -/
theorem firstPort_of_assign_ok {host : Host σ} {s s' : Site σ} {ports : ServicePorts}
    (h : (a.assign host).run s = .ok ports s') (role : Role) :
    s'.server.firstPort role = ports.get role := by
  cases hmode : a.mode with
  | static =>
      rw [run_assign_static hmode] at h
      cases h
      cases role <;> rfl
  | dynamic =>
      obtain ⟨found, w, -, -, -, -, hfirst⟩ := assign_dynamic_ok hmode h
      exact firstPort_of_firstPort? (hfirst role)

/-- **All or nothing.** A failed assignment leaves the connectors of both roles exactly as they
were, whatever the assigner was given and wherever it failed; an assignment that succeeds leaves the
server with the ports it reports. -/
theorem assign_all_or_nothing (a : Assigner) (host : Host σ) (s : Site σ) :
    match ends (a.assign host) s with
    | .ok ports => ∀ role, (leaves (a.assign host) s).server.firstPort role = ports.get role
    | .error _ => (leaves (a.assign host) s).server = s.server := by
  cases hend : ends (a.assign host) s with
  | ok ports => exact firstPort_of_assign_ok (run_of_ends_ok hend)
  | error f => exact server_of_assign_error (run_of_ends_error hend)

/-! ## What an assignment asks and finds -/

/-- The strategy by which an assigner searches: without a finder it draws at random. -/
def strategy (a : Assigner) : Strategy := a.finder.getD .random

theorem findPorts_sound {range : PortRange} (hrange : a.range = some range) (host : Host σ) :
    (a.findPorts host).Meets (Search.Sound host.probe range a.strategy) := by
  unfold findPorts strategy
  rw [hrange]
  cases a.finder with
  | some strategy => exact strategy.find_sound host range
  | none =>
      unfold findFreePort
      rw [hrange]
      exact Search.randomPair_sound host range

/-- A port of a range passes the guard of a probe that binds ports. -/
theorem between_of_mem {range : PortRange} {p : Nat} (hp : p ∈ range.ports) :
    (Value.int p).between 1 highestPort = .ok true := by
  have hmem := PortRange.mem_ports.mp hp
  have hlow := range.one_le_min
  have hhigh := range.max_le
  have hboth : (decide (((1 : Nat) : Int) ≤ p) && decide ((p : Int) ≤ highestPort)) = true := by
    rw [Bool.and_eq_true, decide_eq_true_eq, decide_eq_true_eq]
    omega
  exact congrArg Except.ok hboth

/-- An assignment that is refused does nothing. Otherwise it does what its search does, between two
messages, of which the second is left out if the assignment fails. -/
theorem assign_around_search (hmode : a.mode = .dynamic) {host : Host σ}
    {P : List Event → Except Fault (ByRole Nat) → Prop} (hP : (a.findPorts host).Meets P)
    (s : Site σ) :
    ∃ es, (leaves (a.assign host) s).world.events.toList = s.world.events.toList ++ es ∧
      ((es = [] ∧ ∃ f, ends (a.assign host) s = .error f) ∨
        ∃ es' r closing, es = said .debug a.openingMessage :: (es' ++ closing) ∧ P es' r ∧
          (closing = [] ∨ ∃ m, closing = [said .info m]) ∧
          ∀ ports, ends (a.assign host) s = .ok ports →
            ∃ found, r = .ok found ∧ ports = reported found) := by
  obtain ⟨es, hes, hp⟩ := hP (a.opened s)
  have hopened : (a.opened s).events.toList =
      s.world.events.toList ++ [said .debug a.openingMessage] := World.events_record _ _
  rw [hopened, List.append_assoc, List.singleton_append] at hes
  have houtcome := assign_outcome hmode host s
  unfold leaves ends
  cases hrun : (a.assign host).run s with
  | error f s' =>
      rw [hrun] at houtcome
      cases houtcome with
      | refused hcheck => exact ⟨[], (List.append_nil _).symm, Or.inl ⟨rfl, f, rfl⟩⟩
      | notFound hcheck hfind | notWritten hcheck hfind hwritten =>
          rw [leaves, hfind] at hes
          refine ⟨_, hes, Or.inr ⟨es, _, [], by rw [List.append_nil], hp, Or.inl rfl, ?_⟩⟩
          intro ports hports
          cases hports
  | ok ports s' =>
      rw [hrun] at houtcome
      cases houtcome with
      | @assigned w found server hcheck hfind hwritten =>
          rw [leaves, hfind] at hes
          rw [ends, hfind] at hp
          refine ⟨_, ?_, Or.inr ⟨es, _, [said .info (a.closingMessage found)], rfl, hp,
            Or.inr ⟨_, rfl⟩, ?_⟩⟩
          · rw [← List.cons_append, ← List.append_assoc, ← hes]
            exact World.events_record _ _
          · intro ports hports
            cases hports
            exact ⟨found, rfl, rfl⟩

/-- An assignment behaves like its search. -/
theorem assign_conduct (hmode : a.mode = .dynamic) {range : PortRange}
    (hrange : a.range = some range) (host : Host σ) (s : Site σ) :
    ∃ es, (leaves (a.assign host) s).world.events.toList = s.world.events.toList ++ es ∧
      Search.Conduct range a.strategy es ∧
      ∀ ports, ends (a.assign host) s = .ok ports →
        ∃ found, ports = reported found ∧ Search.Chosen range (asked es) found := by
  obtain ⟨es, hes, haround⟩ := assign_around_search hmode (findPorts_sound hrange host) s
  refine ⟨es, hes, ?_⟩
  rcases haround with ⟨rfl, f, hfails⟩ | ⟨es', r, closing, rfl, hsound, hclosing, hok⟩
  · refine ⟨Search.Conduct.of_quiet quiet_nil, fun ports hports => ?_⟩
    rw [hfails] at hports
    cases hports
  · have hquiet : Quiet closing := by
      rcases hclosing with rfl | ⟨m, rfl⟩
      · exact quiet_nil
      · exact ⟨rfl, rfl⟩
    -- neither of the two messages shows in what was asked
    have hasked : asked (said .debug a.openingMessage :: (es' ++ closing)) = asked es' := by
      show asked (es' ++ closing) = asked es'
      rw [asked_append, hquiet.1, List.append_nil]
    have hstops : stops (said .debug a.openingMessage :: (es' ++ closing)) = stops es' := by
      show stops (es' ++ closing) = stops es'
      rw [stops_append, hquiet.2, List.append_nil]
    refine ⟨hsound.conduct.congr hasked hstops, fun ports hports => ?_⟩
    obtain ⟨found, hfound, hreported⟩ := hok ports hports
    refine ⟨found, hreported, ?_⟩
    rw [hasked]
    exact hsound.chosen found hfound

/-- **Soundness of dynamic assignments.** Every port that is asked about lies in the range, so that
the guard of a probe that binds ports always lets it through. Every draw is over the ports of the
range. A random search asks at most six times as often as the range has ports, a search in
ascending order asks about no port twice and draws nothing. The ports that are reported are two
different ports of the range, each accepted by the probe when it was chosen, the admin port by the
last question of all, and the first connectors have them afterwards. -/
theorem assign_sound (a : Assigner) (hmode : a.mode = .dynamic) (range : PortRange)
    (hrange : a.range = some range) (host : Host σ) (s : Site σ) :
    ∃ es, (leaves (a.assign host) s).world.events.toList = s.world.events.toList ++ es ∧
      (∀ q ∈ asked es, ((range.min : Int) ≤ q.port ∧ q.port ≤ range.max) ∧
        (Value.int q.port).between 1 highestPort = .ok true) ∧
      (∀ stop ∈ stops es, stop = range.portCount) ∧
      (a.strategy = .random → (asked es).length ≤ 6 * range.portCount) ∧
      (a.strategy ≠ .random → (asked es).length ≤ range.portCount ∧ stops es = []) ∧
      ∀ ports, ends (a.assign host) s = .ok ports → ∃ found : ByRole Nat,
        ports = found.map (fun p => .int p) ∧ found.application ≠ found.admin ∧
        (∀ role, range.min ≤ found.get role ∧ found.get role ≤ range.max) ∧
        (∃ before between,
          asked es = before ++ .free found.application :: (between ++ [.free found.admin]) ∧
          ∀ q ∈ between, q.answer = some true → q.port = (found.application : Int)) ∧
        ∀ role, ((leaves (a.assign host) s).server.get role).head?.map Connector.port =
          some (ports.get role) := by
  obtain ⟨es, hes, hconduct, hchosen⟩ := assign_conduct hmode hrange host s
  refine ⟨es, hes, ?_, hconduct.bounds, ?_, hconduct.scanning, ?_⟩
  · intro q hq
    obtain ⟨p, hp, hport⟩ := hconduct.inside q hq
    have hmem := PortRange.mem_ports.mp hp
    rw [hport]
    exact ⟨by omega, between_of_mem hp⟩
  · intro hrandom
    have hfew := hconduct.random hrandom
    unfold PortRange.maxAttempts at hfew
    omega
  · intro ports hports
    obtain ⟨found, hfound, hwell⟩ := hchosen ports hports
    obtain ⟨-, -, -, -, -, -, hfirst⟩ := assign_dynamic_ok hmode (run_of_ends_ok hports)
    exact ⟨found, hfound, hwell.distinct, fun role => PortRange.mem_ports.mp (hwell.mem role),
      hwell.answered, hfirst⟩

/-- In a range of four ports of which the first is busy, the next two are neighbours. -/
theorem assign_sound_neighbours :
    let range : PortRange := ⟨1, 4, by decide, by decide, by decide⟩
    let a : Assigner := ⟨.dynamic, .nonSecure, some range, none, some .adjacent⟩
    let host : Host Unit := ⟨.answering fun port _ => (.ok (port != 1), ()), fun _ => 0⟩
    let s : Site Unit := ⟨Server.default, World.fresh ()⟩
    a.mode = .dynamic ∧ a.range = some range ∧
      ends (a.assign host) s = .ok ⟨.int 2, .int 3⟩ ∧
      ∀ role, ((leaves (a.assign host) s).server.get role).head?.map Connector.port =
        some ((⟨.int 2, .int 3⟩ : ServicePorts).get role) := by
  intro range a host s
  have hports : ends (a.assign host) s = .ok ⟨.int 2, .int 3⟩ := rfl
  obtain ⟨es, -, -, -, -, -, hfound⟩ := assign_sound a rfl range rfl host s
  obtain ⟨found, -, -, -, -, hfirst⟩ := hfound _ hports
  exact ⟨rfl, rfl, hports, hfirst⟩

end Assigner

end ListenerPorts
