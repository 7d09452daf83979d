import ListenerPorts.Config.Readers
import ListenerPorts.Proofs.Editing
import ListenerPorts.Proofs.Executing
import ListenerPorts.Proofs.Reporting

set_option autoImplicit false

/-! # Overriding settings on the command line

A request may name another finder, or ask to keep the configured ports. This is the same as editing
the file: both change the settings of the loaded configuration, and nothing looks at the file after
that. The only difference is the message about the loaded configuration, which tells whether ports
are dynamic. What a static request does after that message is the same in every world
(`Assignment.SteadyOn`), so the message makes no other difference.
-/

namespace ListenerPorts

variable {σ α β : Type}

open Run

/-! ## Assignments that are the same in every world -/

theorem SteadyIn.orMessage {S : Type} {state : World σ → S} {x : EStateM Fault S α}
    (h : SteadyIn state x) : SteadyIn state (orMessage x) := by
  obtain ⟨es, r, hrun⟩ := h
  cases r with
  | ok a =>
      refine ⟨es, .ok (.ok a), fun w => ?_⟩
      rw [ends, leaves, run_orMessage, run_of_ends_ok (hrun w).1, (hrun w).2]
      exact ⟨rfl, rfl⟩
  | error f =>
      -- a fault with a message is told, any other fault remains one
      cases hm : f.message? with
      | some m =>
          refine ⟨es, .ok (.error m), fun w => ?_⟩
          rw [ends, leaves, run_orMessage, run_of_ends_error (hrun w).1, (hrun w).2]
          simp only [hm, and_self]
      | none =>
          refine ⟨es, .error f, fun w => ?_⟩
          rw [ends, leaves, run_orMessage, run_of_ends_error (hrun w).1, (hrun w).2]
          simp only [hm, and_self]

namespace Assignment

/-- On the server, the assignment is the same in every world, and it leaves the server alone. -/
abbrev SteadyOn (server : Server) (x : Assignment σ α) : Prop := SteadyIn (Site.mk server) x

variable {server : Server}

theorem steadyOn_onWorld {x : Run σ α} (h : x.Steady) : SteadyOn server (onWorld x) := by
  obtain ⟨es, r, hrun⟩ := h
  refine ⟨es, r, fun w => ?_⟩
  have hend : ends x w = r := (hrun w).1
  have hleft : leaves x w = w.recordAll es := (hrun w).2
  rw [← hend, ← hleft]
  unfold ends leaves
  rw [run_onWorld]
  cases x.run w <;> exact ⟨rfl, rfl⟩

end Assignment

open Assignment

/-! ## Static runs -/

namespace Service

theorem steady_report (settings : Settings) (server : Server) :
    (report settings server : Run σ Unit).Steady := by
  refine (Server.steady_ports server .application).bind fun application => ?_
  refine (steady_requireTexts _).bind fun _ => ?_
  refine (Server.steady_ports server .admin).bind fun admin => ?_
  exact (steady_requireTexts _).bind fun _ => (steady_requireTexts _).bind fun _ => steady_emit _

variable {settings : Settings}

/-- A static run logs that it keeps the configured ports, reports, and returns the first ones. -/
theorem run_static_eq (hstatic : settings.useDynamic.isTrue = false) (host : Host σ) (s : Site σ) :
    (run settings host).run s = (onWorld (do
      Run.log .dynamicPorts .debug "Running dynamic port assignment"
      Run.log .portAssigner .info
        "Static port assignment is being used, relying on configured connectors"
      report settings s.server
      return ⟨s.server.firstPort .application, s.server.firstPort .admin⟩)).run s := by
  obtain ⟨a, hcreate, hmode⟩ := Settings.createAssigner_static hstatic
  rw [run_eq, hcreate]
  dsimp only
  rw [Assigner.run_assign_static hmode, run_onWorld, EStateM.run_bind, run_log]
  dsimp only
  rw [EStateM.run_bind, run_log]
  dsimp only
  rw [EStateM.run_bind]
  unfold started Assigner.said
  dsimp only
  cases (report settings s.server).run _ with
  | error f w => rfl
  | ok u w => rfl

theorem steadyOn_run_static (hstatic : settings.useDynamic.isTrue = false) (host : Host σ)
    (server : Server) : SteadyOn server (run settings host) := by
  have hsteady : SteadyOn server (onWorld (do
      Run.log .dynamicPorts .debug "Running dynamic port assignment"
      Run.log .portAssigner .info
        "Static port assignment is being used, relying on configured connectors"
      report settings server
      return ⟨server.firstPort .application, server.firstPort .admin⟩) :
        Assignment σ ServicePorts) := by
    refine steadyOn_onWorld ((steady_emit _).bind fun _ => (steady_emit _).bind fun _ => ?_)
    exact (steady_report settings server).bind fun _ => steady_pure _
  obtain ⟨es, r, hrun⟩ := hsteady
  refine ⟨es, r, fun w => ?_⟩
  rw [ends, leaves, run_static_eq hstatic host]
  exact hrun w

end Service

namespace CommandLine

/-! ## Static requests -/

theorem steady_failure (messages : List String) : (failure messages : Run σ Nat).Steady := by
  have hlines : (messages.forM fun m => printLine ("Error: " ++ m) : Run σ PUnit).Steady := by
    induction messages with
    | nil => exact steady_pure _
    | cons m messages ih => exact (steady_emit _).bind fun _ => ih
  exact hlines.bind fun _ => steady_pure 1

namespace AssignRequest

theorem steady_printPorts (r : AssignRequest) (s : Settings) (ports : ServicePorts) :
    (r.printPorts s ports : Run σ Unit).Steady := by
  have hport : ∀ label port, (printPort label port : Run σ Unit).Steady :=
    fun label port => (steady_requireTexts _).bind fun _ => steady_emit _
  unfold printPorts
  cases r.json with
  | true => exact (steady_lift _).bind fun _ => steady_emit _
  | false => exact (hport _ _).bind fun _ => hport _ _

def tell (r : AssignRequest) (settings : Settings) :
    Except String ServicePorts → Assignment σ Nat
  | .error m => onWorld (failure [m])
  | .ok ports => do
    onWorld (r.printPorts settings ports)
    return 0

theorem steadyOn_tell (r : AssignRequest) (settings : Settings) (server : Server)
    (told : Except String ServicePorts) :
    SteadyOn server (r.tell settings told : Assignment σ Nat) := by
  cases told with
  | error m => exact steadyOn_onWorld (steady_failure [m])
  | ok ports =>
      refine (steadyOn_onWorld (steady_printPorts r settings ports)).bind fun _ => ?_
      exact steadyOn_onWorld (steady_pure 0)

/-- What a static request does with a loaded configuration is the same in every world. -/
theorem steadyOn_assignWith (r : AssignRequest) (env : Environment σ) {settings : Settings}
    (hstatic : settings.useDynamic.isTrue = false) (server : Server) :
    SteadyOn server (r.assignWith env settings) := by
  have hrest : SteadyOn server (onWorld (Run.lift (Configuration.validate ⟨server, settings⟩)) >>=
      fun errors => if errors.isEmpty then
        orMessage (Service.run settings (env.machine.host "")) >>= r.tell settings
      else onWorld (failure errors)) := by
    refine (steadyOn_onWorld (steady_lift _)).bind fun errors => ?_
    split
    · refine (Service.steadyOn_run_static hstatic _ server).orMessage.bind fun told => ?_
      exact steadyOn_tell r settings server told
    · exact steadyOn_onWorld (steady_failure _)
  -- the request looks at the server before it does anything
  exact hrest

end AssignRequest

end CommandLine

/-! ## Loading -/

namespace Loader

variable {loader : Loader} {readers : Readers} {files : Files} {name : String} {path : Path}
  {c : Configuration}

/-- The world after the file for a name was found: a path that was asked for is not worth a
message. -/
def foundAt (name : String) (path : Path) (w : World σ) : World σ :=
  if path = .ofText name then w
  else w.record (.logged ⟨.configLoader, .debug, "Found config file: " ++ path.text⟩)

theorem run_find (h : loader.located files name = .ok (some path)) (w : World σ) :
    (loader.find files name).run w = .ok (some path) (foundAt name path w) := by
  unfold Loader.find foundAt
  cases hlook : files.has (.ofText name) with
  | error f =>
      rw [located_of_error hlook] at h
      cases h
  | ok here =>
      cases here with
      | true =>
          rw [located_of_file hlook] at h
          cases h
          rw [if_pos rfl]
          rfl
      | false =>
          -- what is found is a file, so it is not what lies at the name itself
          have hother : path ≠ .ofText name := by
            rintro rfl
            rw [has_of_located h] at hlook
            cases hlook
          have hsearch : loader.search files name = .ok (some path) := by
            rw [← h, located_of_vacant hlook, stop?, ← Files.findM?_has]
            rfl
          show ((lift (loader.search files name) : Run σ _) >>= _).run w = _
          rw [hsearch, if_neg hother]
          rfl

def loadedMessage (path : Path) (settings : Settings) : Event :=
  .logged ⟨.configLoader, .info, summary path settings⟩

theorem run_load (h : loader.located files name = .ok (some path))
    (hread : readFile readers files path = .ok c) (w : World σ) :
    (loader.load readers files name).run w =
      .ok ⟨path, c⟩ ((foundAt name path w).record (loadedMessage path c.settings)) := by
  unfold load
  rw [EStateM.run_bind, run_find h]
  dsimp only
  rw [hread]
  rfl

end Loader

namespace CommandLine

/-- The file that is found for a name lies at the path, and its text stands for the mapping. -/
structure Environment.Holds (env : Environment σ) (name : String) (path : Path) (data : Entries) :
    Prop where
  located : env.loader.located env.files name = .ok (some path)
  stands : ∃ bytes text, env.files.bytes path = .ok bytes ∧ Files.decodeText bytes = .ok text ∧
    Configuration.parse env.readers text path = .ok data

theorem Environment.Holds.readFile {env : Environment σ} {name : String} {path : Path}
    {data : Entries} {c : Configuration} (h : env.Holds name path data)
    (hbuilt : Configuration.ofEntries data = .ok c) :
    Loader.readFile env.readers env.files path = .ok c := by
  obtain ⟨bytes, text, hbytes, htext, hparse⟩ := h.stands
  unfold Loader.readFile
  simp only [hbytes, htext, hparse, bind, Except.bind, hbuilt]

namespace AssignRequest

variable {env : Environment σ} {path : Path} {data : Entries} {c : Configuration}

/-- A request whose configuration is loaded goes on with the settings that it overrides. -/
theorem run_execute {r : AssignRequest} (hfile : env.Holds r.config path data)
    (hbuilt : Configuration.ofEntries data = .ok c) (s : Site σ) :
    (r.execute env).run s = (r.assignWith env (r.override c.settings)).run ⟨c.server,
      (Loader.foundAt r.config path s.world).record (Loader.loadedMessage path c.settings)⟩ := by
  have hload := Loader.run_load hfile.located (hfile.readFile hbuilt) s.world
  have htold : (orMessage (env.loader.load env.readers env.files r.config)).run s.world =
      .ok (.ok ⟨path, c⟩) ((Loader.foundAt r.config path s.world).record
        (Loader.loadedMessage path c.settings)) := by
    rw [run_orMessage, hload]
  unfold execute
  rw [run_onWorld_ok htold]
  rfl

/-! ## Overrides and edits -/

theorem override_finder (config : String) (json : Bool) (strategy : Strategy) (s : Settings) :
    override { config, json, finder := some strategy.name } s =
      { s with finder := .text strategy.name } := by
  have hname : strategy.name ≠ "" := by cases strategy <;> decide
  unfold override
  simp [hname]

/-- What was done apart from logging messages. -/
def deeds (w : World σ) : List Event := w.events.toList.filter fun e => e.logRecord?.isNone

/-- Two assignments do the same from a site, apart from logging messages. -/
structure SameButMessages (x y : Assignment σ α) (s : Site σ) : Prop where
  ends : ends x s = ends y s
  server : (leaves x s).server = (leaves y s).server
  memory : (leaves x s).world.memory = (leaves y s).world.memory
  drawn : (leaves x s).world.drawn = (leaves y s).world.drawn
  deeds : deeds (leaves x s).world = deeds (leaves y s).world

/-- Two assignments that go on alike, each after a message of its own, do the same if what comes
then is the same in every world. -/
theorem SameButMessages.of_steady {x y z : Assignment σ α} {s : Site σ} {server : Server}
    {w : World σ} {message message' : LogRecord}
    (hx : x.run s = z.run ⟨server, w.record (.logged message)⟩)
    (hy : y.run s = z.run ⟨server, w.record (.logged message')⟩) (hz : SteadyOn server z) :
    SameButMessages x y s := by
  obtain ⟨es, r, hsteady⟩ := hz
  obtain ⟨hend, hleft⟩ := hsteady (w.record (.logged message))
  obtain ⟨hend', hleft'⟩ := hsteady (w.record (.logged message'))
  have hendx : ListenerPorts.ends x s = r := by rw [ListenerPorts.ends, hx]; exact hend
  have hendy : ListenerPorts.ends y s = r := by rw [ListenerPorts.ends, hy]; exact hend'
  have hleftx : leaves x s = ⟨server, (w.record (.logged message)).recordAll es⟩ := by
    rw [leaves, hx]
    exact hleft
  have hlefty : leaves y s = ⟨server, (w.record (.logged message')).recordAll es⟩ := by
    rw [leaves, hy]
    exact hleft'
  obtain ⟨hevents, hmemory, hdrawn⟩ := World.of_recordAll (w.record (.logged message)) es
  obtain ⟨hevents', hmemory', hdrawn'⟩ := World.of_recordAll (w.record (.logged message')) es
  constructor
  case ends => rw [hendx, hendy]
  case server => rw [hleftx, hlefty]
  case memory => rw [hleftx, hlefty, hmemory, hmemory', World.memory_record, World.memory_record]
  case drawn => rw [hleftx, hlefty, hdrawn, hdrawn', World.drawn_record, World.drawn_record]
  case deeds =>
    -- the two messages are left out, and nothing else differs
    rw [hleftx, hlefty]
    unfold AssignRequest.deeds
    rw [hevents, hevents', World.events_record, World.events_record]
    simp [Event.logRecord?]

/-- **Overrides are edits of the configuration.** A request that names a built-in finder does
exactly what the request without overrides does when that finder is set in the file. A request to
keep the configured ports does what the request without overrides does when dynamic ports are turned
off in the file, apart from the message about the loaded configuration. -/
theorem execute_override (env : Environment σ) (config : String) (json : Bool) (path : Path)
    (data : Entries) (c : Configuration) (hfile : env.Holds config path data)
    (hbuilt : Configuration.ofEntries data = .ok c) (edited : Files) :
    (∀ strategy : Strategy,
      ({ env with files := edited } : Environment σ).Holds config path
        (Configuration.withSetting data "free_port_finder" (.text strategy.name)) →
      ∀ s, (execute { config, json, finder := some strategy.name } env).run s =
        (execute { config, json } { env with files := edited }).run s) ∧
    (({ env with files := edited } : Environment σ).Holds config path
        (Configuration.withSetting data "use_dynamic_ports" (.bool false)) →
      ∀ s, SameButMessages (execute { config, json, static := true } env)
        (execute { config, json } { env with files := edited }) s) := by
  constructor
  · intro strategy hedited s
    have hbuilt' := Configuration.ofEntries_withSetting hbuilt
      (fun es hes => Settings.ofEntries_put_finder hes strategy)
    rw [run_execute hfile hbuilt, run_execute hedited hbuilt', override_finder]
    rfl
  · intro hedited s
    have hbuilt' := Configuration.ofEntries_withSetting hbuilt
      (fun es hes => Settings.ofEntries_put_static hes)
    have hstatic : ({ c.settings with useDynamic := .bool false } : Settings).useDynamic.isTrue =
      false := rfl
    exact SameButMessages.of_steady (run_execute hfile hbuilt s) (run_execute hedited hbuilt' s)
      (steadyOn_assignWith { config, json, static := true } env hstatic c.server)

/-- A text that turns dynamic ports off and says nothing else. -/
def staticText : String := "\x7b\"dynamic_ports\": \x7b\"use_dynamic_ports\": false\x7d\x7d"

/-- What was read is one section with one setting, which turns dynamic ports off. -/
def isStatic : Except Fault Entries → Bool
  | .ok [(.text outer, .map [(.text inner, .bool false)])] =>
    outer == "dynamic_ports" && inner == "use_dynamic_ports"
  | _ => false

theorem eq_of_isStatic {parsed : Except Fault Entries} (h : isStatic parsed = true) :
    parsed = .ok (Configuration.withSetting [] "use_dynamic_ports" (.bool false)) := by
  unfold isStatic at h
  split at h
  · rw [Bool.and_eq_true, beq_iff_eq, beq_iff_eq] at h
    rw [h.1, h.2]
    rfl
  · cases h

theorem holds_staticText (loader : Loader) (machine : Machine σ) :
    (⟨loader, .standard, fun _ => .file staticText.toUTF8, machine⟩ : Environment σ).Holds
      "service.json" (.ofText "service.json")
      (Configuration.withSetting [] "use_dynamic_ports" (.bool false)) := by
  have hshape : isStatic (Configuration.parse .standard staticText
      (.ofText "service.json")) = true := by
    decide +kernel
  exact ⟨rfl, _, staticText, rfl, rfl, eq_of_isStatic hshape⟩

/-- A file with an empty object, and one with that text. -/
theorem execute_override_empty_object :
    let layer : SocketLayer Unit := ⟨fun _ => (none, ()), fun _ _ _ => (none, ())⟩
    let env : Environment Unit :=
      ⟨{}, .standard, fun _ => .file "\x7b\x7d".toUTF8, ⟨none, layer, fun _ => 0⟩⟩
    let edited : Files := fun _ => .file staticText.toUTF8
    let s : Site Unit := ⟨⟨[], []⟩, World.fresh ()⟩
    env.Holds "service.json" (.ofText "service.json") [] ∧
      SameButMessages (execute { config := "service.json", static := true } env)
        (execute { config := "service.json" } { env with files := edited }) s := by
  intro layer env edited s
  have hfile : env.Holds "service.json" (.ofText "service.json") [] :=
    ⟨rfl, _, _, rfl, rfl, rfl⟩
  refine ⟨hfile, ?_⟩
  exact (execute_override env "service.json" false _ [] _ hfile rfl edited).2
    (holds_staticText _ _) s

end AssignRequest

end CommandLine

end ListenerPorts
