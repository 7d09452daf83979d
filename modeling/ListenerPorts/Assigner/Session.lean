import ListenerPorts.Assigner.Basic

set_option autoImplicit false

/-! # Sessions

A session is the life of one assigner: assignments, searches for single ports that share one set of
used ports, and changes of its settings, in any order. A step that fails leaves the settings and
the used ports as they were; what it did to the world stays.
-/

namespace ListenerPorts

variable {σ : Type}

/-- An assigner with the server it works on, the machine it runs on, the used ports and the
world. -/
structure Session (σ : Type) where
  assigner : Assigner
  host : Host σ
  server : Server
  used : List Int
  world : World σ

inductive Step (σ : Type) where
  | assign
  | findFreePort
  | use (ports : List Int)
  | setMode (mode : AssignmentMode)
  | setSecurity (security : SecurityMode)
  | setRange (range : Option PortRange)
  | setTls (tls : Option TlsMaterial)
  | setFinder (finder : Option Strategy)
  /-- takes a new probe, which starts from a memory of its own -/
  | setProbe (probe : Probe σ) (memory : σ)
  | setServer (server : Server)

inductive Answer where
  | ports (ports : ServicePorts)
  | port (port : Nat)
  | done

def addPort (used : List Int) (port : Int) : List Int :=
  if used.contains port then used else used ++ [port]

namespace Session

/-- The start of a session, which needs a server to work on. -/
def start (assigner : Assigner) (host : Host σ) (server? : Option Server) (world : World σ) :
    Except Fault (Session σ) :=
  match server? with
  | some server => .ok ⟨assigner, host, server, [], world⟩
  | none => fail .serverRequired

def assign (s : Session σ) : Except Fault Answer × Session σ :=
  match (s.assigner.assign s.host).run ⟨s.server, s.world⟩ with
  | .ok ports site => (.ok (.ports ports), { s with server := site.server, world := site.world })
  | .error f site => (.error f, { s with server := site.server, world := site.world })

/-- Searches for one more port. A port that was found in a range is used from then on. -/
def findFreePort (s : Session σ) : Except Fault Answer × Session σ :=
  match (s.assigner.findFreePort s.host s.used).run s.world with
  | .ok port w =>
    let used := if s.assigner.range.isSome then addPort s.used port else s.used
    (.ok (.port port), { s with used := used, world := w })
  | .error f w => (.error f, { s with world := w })

def step (s : Session σ) : Step σ → Except Fault Answer × Session σ
  | .assign => s.assign
  | .findFreePort => s.findFreePort
  | .use ports => (.ok .done, { s with used := ports.foldl addPort s.used })
  | .setMode mode => (.ok .done, { s with assigner := { s.assigner with mode } })
  | .setSecurity security => (.ok .done, { s with assigner := { s.assigner with security } })
  | .setRange range => (.ok .done, { s with assigner := { s.assigner with range } })
  | .setTls tls => (.ok .done, { s with assigner := { s.assigner with tls } })
  | .setFinder finder => (.ok .done, { s with assigner := { s.assigner with finder } })
  | .setProbe probe memory =>
    (.ok .done, { s with host := { s.host with probe }, world := { s.world with memory } })
  | .setServer server => (.ok .done, { s with server })

/-- Takes steps one after the other, whether or not they fail. -/
def steps (s : Session σ) : List (Step σ) → Session σ
  | [] => s
  | t :: ts => steps (s.step t).2 ts

@[simp] theorem steps_nil (s : Session σ) : s.steps [] = s := rfl

@[simp] theorem steps_cons (s : Session σ) (t : Step σ) (ts : List (Step σ)) :
    s.steps (t :: ts) = (s.step t).2.steps ts := rfl

end Session

end ListenerPorts
