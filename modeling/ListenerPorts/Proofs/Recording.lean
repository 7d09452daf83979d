import ListenerPorts.Probe
import Mathlib.Tactic

set_option autoImplicit false

/-! # What a run records

A run ends in one way and leaves one state, and everything it does stands in the events that it adds
to the record. `Run.Meets x P` says that `P` relates the events that `x` adds to the way `x` ends,
whatever world `x` starts from. The relation passes through the steps of a run: what the first part
adds and what the second part adds, one after the other, is what the whole adds.

Searches are described by two views of the events: the questions to the probe, and the bounds of
the random numbers. Logging, socket steps and the memory of a probe show in neither.
-/

namespace ListenerPorts

variable {σ S α β : Type}

/-! ## How a computation ends and what it leaves -/

/-- How a computation ends: with a result or with a fault. -/
def ends (x : EStateM Fault S α) (s : S) : Except Fault α :=
  match x.run s with
  | .ok a _ => .ok a
  | .error f _ => .error f

/-- The state that a computation leaves behind. -/
def leaves (x : EStateM Fault S α) (s : S) : S :=
  match x.run s with
  | .ok _ s' => s'
  | .error _ s' => s'

theorem run_of_ends_ok {x : EStateM Fault S α} {s : S} {a : α} (h : ends x s = .ok a) :
    x.run s = .ok a (leaves x s) := by
  unfold ends at h
  unfold leaves
  cases hx : x.run s with
  | ok b s' =>
      rw [hx] at h
      cases h
      rfl
  | error f s' =>
      rw [hx] at h
      cases h

theorem run_of_ends_error {x : EStateM Fault S α} {s : S} {f : Fault} (h : ends x s = .error f) :
    x.run s = .error f (leaves x s) := by
  unfold ends at h
  unfold leaves
  cases hx : x.run s with
  | ok a s' =>
      rw [hx] at h
      cases h
  | error g s' =>
      rw [hx] at h
      cases h
      rfl

/-- After a part that succeeds, a computation goes on from what the part has left. -/
theorem bind_of_ends_ok {x : EStateM Fault S α} {s : S} {a : α} (h : ends x s = .ok a)
    (k : α → EStateM Fault S β) : (x >>= k).run s = (k a).run (leaves x s) := by
  rw [EStateM.run_bind, run_of_ends_ok h]

/-- After a part that fails, a computation does nothing more. -/
theorem bind_of_ends_error {x : EStateM Fault S α} {s : S} {f : Fault} (h : ends x s = .error f)
    (k : α → EStateM Fault S β) : (x >>= k).run s = .error f (leaves x s) := by
  rw [EStateM.run_bind, run_of_ends_error h]

/-- A sequence that succeeds is one whose parts succeed, one after the other. -/
theorem of_run_bind_ok {x : EStateM Fault S α} {k : α → EStateM Fault S β} {s s' : S} {b : β}
    (h : (x >>= k).run s = .ok b s') : ∃ a t, x.run s = .ok a t ∧ (k a).run t = .ok b s' := by
  rw [EStateM.run_bind] at h
  cases hx : x.run s with
  | error f t =>
      rw [hx] at h
      cases h
  | ok a t =>
      rw [hx] at h
      exact ⟨a, t, rfl, h⟩

/-! ## Two views of the events -/

/-- A question to a probe, with its answer; there is none if the probe failed. -/
structure Question where
  port : Int
  answer : Option Bool
deriving DecidableEq, Repr

/-- The question about a port that was found free. -/
def Question.free (port : Nat) : Question := ⟨port, some true⟩

def Event.question? : Event → Option Question
  | .probed port answer => some ⟨port, answer⟩
  | _ => none

def asked (es : List Event) : List Question := es.filterMap Event.question?

def stops (es : List Event) : List Nat := es.filterMap Event.drawStop?

@[simp] theorem asked_nil : asked [] = [] := rfl

@[simp] theorem stops_nil : stops [] = [] := rfl

@[simp] theorem asked_append (es es' : List Event) : asked (es ++ es') = asked es ++ asked es' :=
  List.filterMap_append

@[simp] theorem stops_append (es es' : List Event) : stops (es ++ es') = stops es ++ stops es' :=
  List.filterMap_append

/-- Events among which there is neither a question to the probe nor a draw. -/
def Quiet (es : List Event) : Prop := asked es = [] ∧ stops es = []

theorem quiet_nil : Quiet [] := ⟨rfl, rfl⟩

theorem quiet_of_logged {es : List Event} (h : ∀ e ∈ es, ∃ record, e = .logged record) :
    Quiet es := by
  constructor <;>
  · refine List.filterMap_eq_nil_iff.mpr fun e he => ?_
    obtain ⟨record, rfl⟩ := h e he
    rfl

theorem Quiet.append {es es' : List Event} (h : Quiet es) (h' : Quiet es') : Quiet (es ++ es') := by
  constructor
  · rw [asked_append, h.1, h'.1, List.nil_append]
  · rw [stops_append, h.2, h'.2, List.nil_append]

namespace Run

/-! ## Properties that hold from every world -/

/-- `P` relates the events that the run adds to the way it ends, whatever world it starts from. -/
def Meets (x : Run σ α) (P : List Event → Except Fault α → Prop) : Prop :=
  ∀ w, ∃ es, (leaves x w).events.toList = w.events.toList ++ es ∧ P es (ends x w)

variable {x : Run σ α} {k : α → Run σ β} {P P' : List Event → Except Fault α → Prop}
  {R : List Event → Except Fault β → Prop}

theorem Meets.weaken (h : x.Meets P) (hP : ∀ es r, P es r → P' es r) : x.Meets P' := by
  intro w
  obtain ⟨es, hes, hp⟩ := h w
  exact ⟨es, hes, hP es _ hp⟩

/-- A run that meets two relations meets both with the same events. -/
theorem Meets.and (h : x.Meets P) (h' : x.Meets P') : x.Meets fun es r => P es r ∧ P' es r := by
  intro w
  obtain ⟨es, hes, hp⟩ := h w
  obtain ⟨es', hes', hp'⟩ := h' w
  have hsame : es = es' := List.append_cancel_left (hes.symm.trans hes')
  rw [← hsame] at hp'
  exact ⟨es, hes, hp, hp'⟩

/-- A sequence meets what its parts lead to: a failure of the first part ends it, and otherwise the
second part goes on behind the events of the first. -/
theorem Meets.bind (hx : x.Meets P) (hfail : ∀ es f, P es (.error f) → R es (.error f))
    (hok : ∀ es a, P es (.ok a) → (k a).Meets fun es' r => R (es ++ es') r) :
    Meets (x >>= k) R := by
  intro w
  obtain ⟨es, hes, hp⟩ := hx w
  cases hend : ends x w with
  | error f =>
      have hrun := bind_of_ends_error hend k
      rw [hend] at hp
      refine ⟨es, ?_, ?_⟩
      · rw [leaves, hrun]; exact hes
      · rw [ends, hrun]; exact hfail es f hp
  | ok a =>
      have hrun := bind_of_ends_ok hend k
      rw [hend] at hp
      obtain ⟨es', hes', hr⟩ := hok es a hp (leaves x w)
      refine ⟨es ++ es', ?_, ?_⟩
      · rw [leaves, hrun, ← List.append_assoc, ← hes]; exact hes'
      · rw [ends, hrun]; exact hr

theorem meets_pure (a : α) : (pure a : Run σ α).Meets fun es r => es = [] ∧ r = .ok a :=
  fun w => ⟨[], (List.append_nil w.events.toList).symm, rfl, rfl⟩

theorem meets_throw (f : Fault) : (throw f : Run σ α).Meets fun es r => es = [] ∧ r = .error f :=
  fun w => ⟨[], (List.append_nil w.events.toList).symm, rfl, rfl⟩

theorem meets_emit (e : Event) : (emit e : Run σ Unit).Meets fun es r => es = [e] ∧ r = .ok () :=
  fun w => ⟨[e], World.events_record w e, rfl, rfl⟩

theorem meets_log (logger : Logger) (level : Level) (message : String) :
    (log logger level message : Run σ Unit).Meets fun es r => Quiet es ∧ r = .ok () := by
  refine (meets_emit _).weaken ?_
  rintro es r ⟨rfl, rfl⟩
  exact ⟨⟨rfl, rfl⟩, rfl⟩

/-! ## Kinds of events -/

/-- Every event that the run adds has the property. -/
def Adds (x : Run σ α) (p : Event → Prop) : Prop := x.Meets fun es _ => ∀ e ∈ es, p e

variable {p : Event → Prop}

theorem Adds.bind (hx : x.Adds p) (hk : ∀ a, (k a).Adds p) : Adds (x >>= k) p := by
  refine Meets.bind hx (fun es f hes => hes) ?_
  intro es a hes
  refine (hk a).weaken fun es' r hes' => ?_
  exact List.forall_mem_append.mpr ⟨hes, hes'⟩

theorem adds_pure (a : α) : (pure a : Run σ α).Adds p := by
  refine (meets_pure a).weaken ?_
  rintro es r ⟨rfl, -⟩
  exact List.forall_mem_nil _

/-- A property of events that all messages and all steps at the socket layer have. -/
structure Background (p : Event → Prop) : Prop where
  logged : ∀ record, p (.logged record)
  socket : ∀ e : Event, e.isSocketStep = true → p e

/-- The run neither asks a probe nor draws a number. -/
def Silent (x : Run σ α) : Prop := x.Meets fun es _ => Quiet es

/-- The run neither asks nor draws, and it ends with a result of which `Q` holds. -/
def Returns (x : Run σ α) (Q : α → Prop) : Prop :=
  x.Meets fun es r => Quiet es ∧ ∃ a, r = .ok a ∧ Q a

theorem Returns.bind {Q : α → Prop} {Q' : β → Prop}
    (hx : x.Returns Q) (hk : ∀ a, Q a → (k a).Returns Q') : Returns (x >>= k) Q' := by
  refine Meets.bind hx ?_ ?_
  · rintro es f ⟨-, a, ha, -⟩
    cases ha
  · rintro es a ⟨hes, b, hb, hQ⟩
    cases hb
    refine Meets.weaken (hk a hQ) ?_
    rintro es' r ⟨hes', hr⟩
    exact ⟨hes.append hes', hr⟩

theorem returns_pure {Q : α → Prop} {a : α} (h : Q a) : (pure a : Run σ α).Returns Q := by
  refine (meets_pure a).weaken ?_
  rintro es r ⟨rfl, rfl⟩
  exact ⟨quiet_nil, a, rfl, h⟩

theorem returns_log (logger : Logger) (level : Level) (message : String) :
    (log logger level message : Run σ Unit).Returns fun _ => True := by
  refine (meets_log logger level message).weaken ?_
  rintro es r ⟨hes, rfl⟩
  exact ⟨hes, (), rfl, trivial⟩

/-- Values that have a text can be shown. -/
theorem returns_requireTexts {shown : List Value} (h : ∀ v ∈ shown, v.writable = true) :
    (requireTexts shown : Run σ Unit).Returns fun _ => True := by
  unfold requireTexts
  rw [if_pos (List.all_eq_true.mpr h)]
  exact returns_pure trivial

end Run

/-! ## Runs that are the same in every world -/

namespace World

def recordAll (w : World σ) (es : List Event) : World σ := es.foldl record w

theorem recordAll_append (w : World σ) (es es' : List Event) :
    w.recordAll (es ++ es') = (w.recordAll es).recordAll es' :=
  List.foldl_append

/-- Recording events adds them to the record and does nothing else. -/
theorem of_recordAll (w : World σ) (es : List Event) :
    (w.recordAll es).events.toList = w.events.toList ++ es ∧
      (w.recordAll es).memory = w.memory ∧ (w.recordAll es).drawn = w.drawn := by
  induction es generalizing w with
  | nil => exact ⟨(List.append_nil _).symm, rfl, rfl⟩
  | cons e es ih =>
      obtain ⟨hevents, hmemory, hdrawn⟩ := ih (w.record e)
      refine ⟨?_, hmemory, hdrawn⟩
      calc (w.recordAll (e :: es)).events.toList
          = (w.record e).events.toList ++ es := hevents
        _ = w.events.toList ++ e :: es := by
            rw [events_record, List.append_assoc, List.singleton_append]

end World

/-- In the states that a function makes of the worlds, the computation ends in one way and adds the
same events, whatever world it starts from, and does nothing else. -/
def SteadyIn (state : World σ → S) (x : EStateM Fault S α) : Prop :=
  ∃ es r, ∀ w, ends x (state w) = r ∧ leaves x (state w) = state (w.recordAll es)

theorem SteadyIn.bind {state : World σ → S} {x : EStateM Fault S α} {k : α → EStateM Fault S β}
    (hx : SteadyIn state x) (hk : ∀ a, SteadyIn state (k a)) : SteadyIn state (x >>= k) := by
  obtain ⟨es, r, hrun⟩ := hx
  cases r with
  | error f =>
      refine ⟨es, .error f, fun w => ?_⟩
      have hfailed := bind_of_ends_error (hrun w).1 k
      rw [ends, leaves, hfailed]
      exact ⟨rfl, (hrun w).2⟩
  | ok a =>
      obtain ⟨es', r', hrest⟩ := hk a
      refine ⟨es ++ es', r', fun w => ?_⟩
      have hgone := bind_of_ends_ok (hrun w).1 k
      rw [ends, leaves, hgone, (hrun w).2, World.recordAll_append]
      exact hrest _

namespace Run

variable {x : Run σ α}

/-- The run is the same in every world. -/
abbrev Steady (x : Run σ α) : Prop := SteadyIn id x

theorem Steady.ends_eq (h : x.Steady) (w w' : World σ) : ends x w = ends x w' := by
  obtain ⟨es, r, hrun⟩ := h
  calc ends x w = r := (hrun w).1
    _ = ends x w' := (hrun w').1.symm

theorem steady_pure (a : α) : (pure a : Run σ α).Steady := ⟨[], .ok a, fun _ => ⟨rfl, rfl⟩⟩

theorem steady_throw (f : Fault) : (throw f : Run σ α).Steady := ⟨[], .error f, fun _ => ⟨rfl, rfl⟩⟩

theorem steady_lift (e : Except Fault α) : (lift e : Run σ α).Steady := by
  cases e with
  | ok a => exact steady_pure a
  | error f => exact steady_throw f

theorem steady_emit (e : Event) : (emit e : Run σ Unit).Steady := ⟨[e], .ok (), fun _ => ⟨rfl, rfl⟩⟩

theorem steady_requireTexts (shown : List Value) : (requireTexts shown : Run σ Unit).Steady := by
  unfold requireTexts
  split
  · exact steady_pure ()
  · exact steady_throw _

end Run

/-! ## Probes and draws -/

open Run

/-- The run takes every world to one that the relation holds of. -/
def Run.Moves (x : Run σ α) (R : World σ → World σ → Prop) : Prop := ∀ w, R w (leaves x w)

/-- A relation that holds of the parts of a sequence holds of the whole, however it ends. -/
theorem Run.Moves.bind {R : World σ → World σ → Prop}
    (hR : ∀ w w' w'', R w w' → R w' w'' → R w w'') {x : Run σ α} {k : α → Run σ β}
    (hx : x.Moves R) (hk : ∀ a, (k a).Moves R) : Run.Moves (x >>= k) R := by
  intro w
  cases hend : ends x w with
  | ok a =>
      have hrun := bind_of_ends_ok hend k
      rw [leaves, hrun]
      exact hR _ _ _ (hx w) (hk a _)
  | error f =>
      have hrun := bind_of_ends_error hend k
      rw [leaves, hrun]
      exact hx w

/-- A relation that holds of all that answering may do to a world: nothing, one thing after the
other, a message, a step at the socket layer, a change of the memory. -/
structure Ambient (R : World σ → World σ → Prop) : Prop where
  refl : ∀ w, R w w
  trans : ∀ w w' w'', R w w' → R w' w'' → R w w''
  logged : ∀ w record, R w (w.record (.logged record))
  socket : ∀ w (e : Event), e.isSocketStep = true → R w (w.record e)
  memory : ∀ w memory, R w { w with memory }

namespace Ambient

variable {R : World σ → World σ → Prop}

theorem bind (hR : Ambient R) {x : Run σ α} {k : α → Run σ β} (hx : x.Moves R)
    (hk : ∀ a, (k a).Moves R) : Moves (x >>= k) R :=
  Run.Moves.bind hR.trans hx hk

theorem lift (hR : Ambient R) (e : Except Fault α) : (Run.lift e : Run σ α).Moves R := by
  cases e <;> exact hR.refl

theorem requireTexts (hR : Ambient R) (shown : List Value) :
    (Run.requireTexts shown : Run σ Unit).Moves R := by
  unfold Run.requireTexts
  split <;> exact hR.refl

theorem socketStep (hR : Ambient R) (step : σ → Option SocketFailure × σ) :
    (ListenerPorts.socketStep step).Moves R :=
  fun w => hR.memory w (step w.memory).2

theorem tryBinding (hR : Ambient R) (host : String) (layer : SocketLayer σ) (port : Value) :
    (ListenerPorts.tryBinding host layer port).Moves R := by
  unfold ListenerPorts.tryBinding
  refine hR.bind (fun w => hR.socket w _ rfl) fun _ => hR.bind (hR.socketStep _) fun failure? => ?_
  cases failure? with
  | some failure => exact hR.refl
  | none =>
      refine hR.bind (fun w => hR.socket w _ rfl) fun _ => hR.bind (hR.socketStep _) fun _ => ?_
      exact hR.bind (fun w => hR.socket w _ rfl) fun _ => hR.refl

theorem canBind (hR : Ambient R) (host : String) (layer : SocketLayer σ) (port : Value) :
    (ListenerPorts.canBind host layer port).Moves R := by
  unfold ListenerPorts.canBind
  refine hR.bind (hR.lift _) fun inside => ?_
  cases inside with
  | true =>
      refine hR.bind (hR.tryBinding host layer port) fun failure? => ?_
      cases failure? with
      | none => exact hR.refl
      | some failure =>
          show Moves (if _ then _ else _) R
          split
          · exact hR.refl
          · exact hR.bind (fun w => hR.logged w _) fun _ => hR.refl
  | false =>
      refine hR.bind (hR.requireTexts _) fun _ => ?_
      exact hR.bind (fun w => hR.logged w _) fun _ => hR.refl

/-- Answering does nothing that an ambient relation does not hold of. -/
theorem answer (hR : Ambient R) (probe : Probe σ) (port : Int) : (probe.answer port).Moves R := by
  cases probe with
  | answering ask =>
      have hask : Moves (modifyGet fun w : World σ =>
          ((ask port w.memory).1, { w with memory := (ask port w.memory).2 })) R :=
        fun w => hR.memory w _
      exact hR.bind hask fun answer => hR.lift answer
  | binding host layer => exact hR.canBind host layer _

end Ambient

/-- The second world has more events on record, which all have the property. -/
def Extends (p : Event → Prop) (w w' : World σ) : Prop :=
  ∃ es, w'.events.toList = w.events.toList ++ es ∧ ∀ e ∈ es, p e

theorem extends_record {p : Event → Prop} {e : Event} (he : p e) (w : World σ) :
    Extends p w (w.record e) :=
  ⟨[e], World.events_record w e, List.forall_mem_singleton.mpr he⟩

theorem Run.Background.ambient {p : Event → Prop} (hp : Background p) :
    Ambient (Extends p : World σ → World σ → Prop) where
  refl := fun w => ⟨[], (List.append_nil _).symm, List.forall_mem_nil _⟩
  trans := by
    rintro w w' w'' ⟨es, hes, hall⟩ ⟨es', hes', hall'⟩
    refine ⟨es ++ es', ?_, List.forall_mem_append.mpr ⟨hall, hall'⟩⟩
    rw [hes', hes, List.append_assoc]
  logged := fun w record => extends_record (hp.logged record) w
  socket := fun w e he => extends_record (hp.socket e he) w
  memory := fun w memory => ⟨[], (List.append_nil _).symm, List.forall_mem_nil _⟩

/-- Answering leaves socket steps and messages, and nothing else. -/
theorem adds_answer {p : Event → Prop} (hp : Background p) (probe : Probe σ) (port : Int) :
    (probe.answer port).Adds p :=
  hp.ambient.answer probe port

/-- Answering draws no number. -/
theorem drawn_answer (probe : Probe σ) (port : Int) (w : World σ) :
    (leaves (probe.answer port) w).drawn = w.drawn := by
  have hambient : Ambient fun w w' : World σ => w'.drawn = w.drawn :=
    ⟨fun _ => rfl, fun _ _ _ h h' => h'.trans h, fun _ _ => rfl, fun _ _ _ => rfl, fun _ _ => rfl⟩
  exact hambient.answer probe port w

/-- Messages and socket steps are neither questions nor draws. -/
theorem background_quiet :
    Background fun e : Event => e.question? = none ∧ e.drawStop? = none where
  logged := fun _ => ⟨rfl, rfl⟩
  socket := by
    intro e he
    cases e with
    | socketCreated | socketBound | socketClosed => exact ⟨rfl, rfl⟩
    | _ => cases he

theorem silent_answer (probe : Probe σ) (port : Int) : (probe.answer port).Silent := by
  refine (adds_answer background_quiet probe port).weaken fun es r hes => ⟨?_, ?_⟩
  · exact List.filterMap_eq_nil_iff.mpr fun e he => (hes e he).1
  · exact List.filterMap_eq_nil_iff.mpr fun e he => (hes e he).2

namespace Probe

/-- The probe can end like this when it is asked about the port. -/
def MayEnd (probe : Probe σ) (port : Int) (r : Except Fault Bool) : Prop :=
  ∃ w, ends (probe.isFree port) w = r

/-- A question is put on record with the answer, or without one if the probe fails. -/
theorem run_isFree (probe : Probe σ) (port : Int) (w : World σ) :
    (probe.isFree port).run w = match (probe.answer port).run w with
      | .ok free w' => .ok free (w'.record (.probed port (some free)))
      | .error f w' => .error f (w'.record (.probed port none)) := rfl

/-- Asking a probe does not move the position in the stream of random numbers. -/
theorem drawn_isFree (probe : Probe σ) (port : Int) (w : World σ) :
    (leaves (probe.isFree port) w).drawn = w.drawn := by
  have hanswer := drawn_answer probe port w
  unfold leaves at hanswer ⊢
  rw [run_isFree]
  cases hrun : (probe.answer port).run w with
  | ok free w' =>
      rw [hrun] at hanswer
      exact hanswer
  | error f w' =>
      rw [hrun] at hanswer
      exact hanswer

/-- Asking a probe adds a question to what answering adds, with the answer that the asker gets. -/
theorem meets_isFree_of_answer {probe : Probe σ} {port : Int}
    {P : List Event → Except Fault Bool → Prop} (h : (probe.answer port).Meets P) :
    (probe.isFree port).Meets fun es r =>
      (∃ es', es = es' ++ [.probed port r.toOption] ∧ P es' r) ∧ probe.MayEnd port r := by
  intro w
  obtain ⟨es, hes, hP⟩ := h w
  refine ⟨es ++ [.probed port (ends (probe.isFree port) w).toOption], ?_, ⟨es, rfl, ?_⟩, w, rfl⟩
  · rw [← List.append_assoc, ← hes]
    unfold leaves ends
    rw [run_isFree]
    cases (probe.answer port).run w with
    | ok free w' => exact World.events_record _ _
    | error f w' => exact World.events_record _ _
  · have hsame : ends (probe.isFree port) w = ends (probe.answer port) w := by
      unfold ends
      rw [run_isFree]
      cases (probe.answer port).run w <;> rfl
    rw [hsame]
    exact hP

/-- Asking a probe leaves one question, with the answer that the asker gets. -/
theorem meets_isFree (probe : Probe σ) (port : Int) :
    (probe.isFree port).Meets fun es r =>
      asked es = [⟨port, r.toOption⟩] ∧ stops es = [] ∧ probe.MayEnd port r := by
  refine (meets_isFree_of_answer (silent_answer probe port)).weaken ?_
  rintro es r ⟨⟨es', rfl, hquiet⟩, hmay⟩
  refine ⟨?_, ?_, hmay⟩
  · rw [asked_append, hquiet.1]
    rfl
  · rw [stops_append, hquiet.2]
    rfl

end Probe

/-- A draw leaves its bound, and its number lies below the bound. -/
theorem Host.meets_draw (host : Host σ) {stop : Nat} (hstop : 0 < stop) :
    (host.draw stop).Meets fun es r =>
      asked es = [] ∧ stops es = [stop] ∧ ∃ n, n < stop ∧ r = .ok n := by
  intro w
  refine ⟨[.drew stop], World.events_record w _, rfl, rfl, _, ?_, rfl⟩
  have hlow := Int.emod_nonneg (host.random w.drawn) (b := stop) (by omega)
  have hhigh := Int.emod_lt_of_pos (host.random w.drawn) (b := stop) (by omega)
  omega

end ListenerPorts
