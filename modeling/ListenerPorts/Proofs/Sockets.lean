import ListenerPorts.Proofs.Stepwise

set_option autoImplicit false

/-! # Sockets that are created and closed

A probe at the socket layer answers a question in one of three ways. It takes no step there, for a
port that is outside the range of ports; or the creation of a socket is refused; or a socket is
created, bound and closed, whether or not the layer lets it be bound. `Segment` says so for one
question, and `Segments` strings the questions of a run together: the memory that one of them leaves
is the one in which the next one starts.

How many sockets are open can be told from the events and from what the layer answered, by going
through the events once more (`Sockets.replay`). A segment opens one socket at most and closes it
before the answer is known, so every run of segments does, also one that a failure of the layer ends.
-/

namespace ListenerPorts

variable {σ : Type}

open Run

/-! ## One question -/

/-- The step that the layer refuses when a socket is created and bound to a port. -/
def SocketLayer.refusal? (layer : SocketLayer σ) (address : String) (port : Int) (memory : σ) :
    Option SocketFailure :=
  match layer.create memory with
  | (some failure, _) => some failure
  | (none, memory') => (layer.bind address (.int port) memory').1

namespace Probe

/-- What a probe answers when a socket was tried out. -/
def verdict : Option SocketFailure → Except Fault Bool
  | none => .ok true
  | some failure => if failure.refusal = .other then .error .socketFailed else .ok false

/-- What a probe answers about a port that is not tried out. The answer is logged with the port, so
a number with too many digits has none. -/
def untried (port : Int) : Except Fault Bool :=
  if (Value.int port).writable then .ok false else .error .tooManyDigits

/-- A number is one of the ports. -/
def IsPort (port : Int) : Prop := 1 ≤ port ∧ port ≤ highestPort

instance (port : Int) : Decidable (IsPort port) := inferInstanceAs (Decidable (_ ∧ _))

/-- What a probe makes of a socket that was tried out. -/
def judge (port : Value) : Option SocketFailure → Run σ Bool
  | none => return true
  | some failure =>
    if failure.refusal = .other then throw .socketFailed
    else do
      Run.log .portProbe .debug ("Port " ++ port.plain ++ " is not available: " ++ failure.message)
      return false

/-- What a probe makes of a port that is not tried out. -/
def turnDown (port : Value) : Run σ Bool := do
  Run.requireTexts [port]
  Run.log .portProbe .debug ("Port " ++ port.plain ++ " is outside the TCP port range")
  return false

end Probe

open Probe

/-- The steps at the socket layer that a question about a port takes, how it ends, and the memory
that it leaves. -/
inductive Segment (address : String) (layer : SocketLayer σ) (port : Int) (memory : σ) :
    List Event → Except Fault Bool → σ → Prop where
  | outside (hport : ¬ IsPort port) : Segment address layer port memory [] (untried port) memory
  | notCreated {failure : SocketFailure} {memory' : σ} (hport : IsPort port)
      (hcreate : layer.create memory = (some failure, memory')) :
      Segment address layer port memory [.socketCreated] (verdict (some failure)) memory'
  /-- the socket is closed whatever comes of the binding -/
  | bound {failure? : Option SocketFailure} {memory' memory'' : σ} (hport : IsPort port)
      (hcreate : layer.create memory = (none, memory'))
      (hbind : layer.bind address (.int port) memory' = (failure?, memory'')) :
      Segment address layer port memory
        [.socketCreated, .socketBound address (.int port), .socketClosed] (verdict failure?) memory''

/-- An answer leaves no more than messages, and the memory as it is. -/
def Settles (x : Run σ Bool) (r : Except Fault Bool) : Prop :=
  ∀ w, ∃ notes, (∀ e ∈ notes, ∃ record, e = .logged record) ∧ ends x w = r ∧
    leaves x w = w.recordAll notes

theorem settles_judge (port : Value) (failure? : Option SocketFailure) :
    Settles (judge port failure? : Run σ Bool) (verdict failure?) := by
  intro w
  cases failure? with
  | none => exact ⟨[], List.forall_mem_nil _, rfl, rfl⟩
  | some failure =>
      unfold judge verdict
      dsimp only
      by_cases hother : failure.refusal = .other
      · rw [if_pos hother, if_pos hother]
        exact ⟨[], List.forall_mem_nil _, rfl, rfl⟩
      · rw [if_neg hother, if_neg hother]
        exact ⟨[_], List.forall_mem_singleton.mpr ⟨_, rfl⟩, rfl, rfl⟩

theorem settles_turnDown (port : Int) :
    Settles (turnDown (.int port) : Run σ Bool) (untried port) := by
  intro w
  unfold turnDown untried requireTexts
  rw [List.all_cons, List.all_nil, Bool.and_true]
  by_cases htext : (Value.int port).writable = true
  · rw [if_pos htext, if_pos htext]
    exact ⟨[_], List.forall_mem_singleton.mpr ⟨_, rfl⟩, rfl, rfl⟩
  · rw [if_neg htext, if_neg htext]
    exact ⟨[], List.forall_mem_nil _, rfl, rfl⟩

/-- How a question ends can be told from what the layer refuses. -/
theorem Segment.ends_eq {address : String} {layer : SocketLayer σ} {port : Int}
    {memory memory' : σ} {steps : List Event} {r : Except Fault Bool}
    (h : Segment address layer port memory steps r memory') :
    r = if IsPort port then verdict (layer.refusal? address port memory) else untried port := by
  cases h with
  | outside hport => rw [if_neg hport]
  | notCreated hport hcreate =>
      rw [if_pos hport]
      simp only [SocketLayer.refusal?, hcreate]
  | bound hport hcreate hbind =>
      rw [if_pos hport]
      simp only [SocketLayer.refusal?, hcreate, hbind]

/-! ## Answering -/

section Question

variable {address : String} {layer : SocketLayer σ} {port : Int} {w : World σ}

theorem canBind_eq (address : String) (layer : SocketLayer σ) (port : Int) :
    canBind address layer (.int port) = if IsPort port then
      tryBinding address layer (.int port) >>= judge (.int port) else turnDown (.int port) := by
  have hbetween : (Value.int port).between 1 highestPort = .ok (decide (IsPort port)) :=
    congrArg Except.ok (Bool.decide_and (1 ≤ port) (port ≤ highestPort)).symm
  unfold canBind
  rw [hbetween, Run.lift, pure_bind]
  by_cases hport : IsPort port
  · rw [decide_eq_true hport, if_pos rfl, if_pos hport]
    refine bind_congr fun failure? => ?_
    cases failure? <;> rfl
  · rw [decide_eq_false hport, if_neg Bool.false_ne_true, if_neg hport, turnDown]

theorem run_socketStep {step : σ → Option SocketFailure × σ} {failure? : Option SocketFailure}
    {memory' : σ} (h : step w.memory = (failure?, memory')) :
    (socketStep step).run w = .ok failure? { w with memory := memory' } := by
  show EStateM.Result.ok (step w.memory).1 { w with memory := (step w.memory).2 } = _
  rw [h]

theorem run_tryBinding_notCreated {failure : SocketFailure} {memory' : σ}
    (hcreate : layer.create w.memory = (some failure, memory')) (port : Value) :
    (tryBinding address layer port).run w =
      .ok (some failure) { w.record .socketCreated with memory := memory' } := by
  have hcreated : (socketStep layer.create).run (w.record .socketCreated) = _ :=
    run_socketStep hcreate
  unfold tryBinding
  rw [EStateM.run_bind, run_emit]
  dsimp only
  rw [EStateM.run_bind, hcreated]
  rfl

theorem run_tryBinding_bound {failure? : Option SocketFailure} {memory' memory'' : σ}
    {port : Value} (hcreate : layer.create w.memory = (none, memory'))
    (hbind : layer.bind address port memory' = (failure?, memory'')) :
    (tryBinding address layer port).run w =
      .ok failure? { w.recordAll [.socketCreated, .socketBound address port, .socketClosed] with
        memory := memory'' } := by
  have hcreated : (socketStep layer.create).run (w.record .socketCreated) = _ :=
    run_socketStep hcreate
  have hbound : (socketStep (layer.bind address port)).run
      ({ w.record .socketCreated with memory := memory' }.record (.socketBound address port)) = _ :=
    run_socketStep hbind
  unfold tryBinding
  rw [EStateM.run_bind, run_emit]
  dsimp only
  rw [EStateM.run_bind, hcreated]
  dsimp only
  rw [EStateM.run_bind, run_emit]
  dsimp only
  rw [EStateM.run_bind, hbound]
  rfl

/-- Judging a socket that was tried out adds messages to the steps that were taken. -/
theorem segment_judge {steps : List Event} {failure? : Option SocketFailure} {w' : World σ}
    (hrun : (tryBinding address layer (.int port)).run w = .ok failure? w')
    (hevents : w'.events.toList = w.events.toList ++ steps)
    (hsegment : Segment address layer port w.memory steps (verdict failure?) w'.memory) :
    let tried := tryBinding address layer (.int port) >>= judge (.int port)
    ∃ notes, (∀ e ∈ notes, ∃ record, e = .logged record) ∧
      (leaves tried w).events.toList = w.events.toList ++ (steps ++ notes) ∧
      Segment address layer port w.memory steps (ends tried w) (leaves tried w).memory := by
  intro tried
  obtain ⟨notes, hnotes, hends, hleaves⟩ := settles_judge (.int port) failure? w'
  obtain ⟨hrecorded, hkept, -⟩ := World.of_recordAll w' notes
  have hbind : tried.run w = (judge (.int port) failure?).run w' := by
    rw [EStateM.run_bind, hrun]
  rw [leaves, ends, hbind, ← leaves, ← ends, hends, hleaves, hrecorded, hkept, hevents,
    List.append_assoc]
  exact ⟨notes, hnotes, rfl, hsegment⟩

/-- An answer leaves a segment, and messages behind it. -/
theorem segment_canBind (address : String) (layer : SocketLayer σ) (port : Int) (w : World σ) :
    let answer := canBind address layer (.int port)
    ∃ steps notes, (∀ e ∈ notes, ∃ record, e = .logged record) ∧
      (leaves answer w).events.toList = w.events.toList ++ (steps ++ notes) ∧
      Segment address layer port w.memory steps (ends answer w) (leaves answer w).memory := by
  intro answer
  by_cases hport : IsPort port
  · have htried : answer = tryBinding address layer (.int port) >>= judge (.int port) :=
      (canBind_eq _ _ _).trans (if_pos hport)
    rw [htried]
    cases hcreate : layer.create w.memory with
    | mk created memory' =>
        cases created with
        | some failure =>
            exact ⟨_, segment_judge (run_tryBinding_notCreated hcreate _) (World.events_record _ _)
              (.notCreated hport hcreate)⟩
        | none =>
            cases hbind : layer.bind address (.int port) memory' with
            | mk failure? memory'' =>
                exact ⟨_, segment_judge (run_tryBinding_bound hcreate hbind)
                  (World.of_recordAll _ _).1 (.bound hport hcreate hbind)⟩
  · have hturned : answer = turnDown (.int port) := (canBind_eq _ _ _).trans (if_neg hport)
    obtain ⟨notes, hnotes, hends, hleaves⟩ := settles_turnDown port w
    obtain ⟨hrecorded, hkept, -⟩ := World.of_recordAll w notes
    rw [hturned, hleaves, hends, hkept]
    exact ⟨[], notes, hnotes, hrecorded, .outside hport⟩

/-- A question leaves a segment, messages, and then the record of its answer. -/
theorem segment_isFree (address : String) (layer : SocketLayer σ) (port : Int) (w : World σ) :
    let question := (Probe.binding address layer).isFree port
    ∃ steps notes, (∀ e ∈ notes, ∃ record, e = .logged record) ∧
      (leaves question w).events.toList =
        w.events.toList ++ (steps ++ notes ++ [.probed port (ends question w).toOption]) ∧
      Segment address layer port w.memory steps (ends question w) (leaves question w).memory := by
  intro question
  obtain ⟨steps, notes, hnotes, hevents, hsegment⟩ := segment_canBind address layer port w
  refine ⟨steps, notes, hnotes, ?_⟩
  unfold leaves at hevents
  unfold leaves ends at hsegment ⊢
  have hcanBind : (Probe.binding address layer).answer port =
      canBind address layer (.int port) := rfl
  rw [Probe.run_isFree, hcanBind]
  cases hanswer : (canBind address layer (.int port)).run w with
  | ok free w' | error f w' =>
      rw [hanswer] at hevents hsegment
      refine ⟨?_, hsegment⟩
      dsimp only at hevents ⊢
      rw [World.events_record, hevents, List.append_assoc]
      rfl

end Question

/-! ## Questions one after the other -/

/-- The event is a step at the socket layer or the answer to a question. -/
def Event.isSocketTrace (e : Event) : Bool := e.isSocketStep || e.probedPort?.isSome

/-- What the events show of the socket layer: the steps there, and where each question ends. -/
def socketTrace (es : List Event) : List Event := es.filter Event.isSocketTrace

theorem socketTrace_append (es es' : List Event) :
    socketTrace (es ++ es') = socketTrace es ++ socketTrace es' :=
  List.filter_append _ _

theorem socketTrace_logged {es : List Event} (h : ∀ e ∈ es, ∃ record, e = .logged record) :
    socketTrace es = [] := by
  refine List.filter_eq_nil_iff.mpr fun e he => ?_
  obtain ⟨record, rfl⟩ := h e he
  exact Bool.false_ne_true

/-- Segments one after the other, each with its answer behind it, and the memory that the last one
leaves. -/
inductive Segments (address : String) (layer : SocketLayer σ) : σ → List Event → σ → Prop where
  | nil (memory : σ) : Segments address layer memory [] memory
  | cons {memory memory' memory'' : σ} {port : Int} {steps es : List Event} {r : Except Fault Bool}
      (hsegment : Segment address layer port memory steps r memory')
      (hrest : Segments address layer memory' es memory'') :
      Segments address layer memory (steps ++ .probed port r.toOption :: es) memory''

theorem Segments.append {address : String} {layer : SocketLayer σ} {memory memory' memory'' : σ}
    {es es' : List Event} (h : Segments address layer memory es memory')
    (h' : Segments address layer memory' es' memory'') :
    Segments address layer memory (es ++ es') memory'' := by
  induction h with
  | nil => exact h'
  | cons hsegment hrest ih =>
      rw [List.append_assoc, List.cons_append]
      exact .cons hsegment (ih h')

theorem Segment.socketTrace_eq {address : String} {layer : SocketLayer σ} {port : Int}
    {memory memory' : σ} {steps : List Event} {r : Except Fault Bool}
    (h : Segment address layer port memory steps r memory') : socketTrace steps = steps := by
  cases h <;> rfl

/-- Between the two worlds, all that happened at the socket layer are questions. -/
def Traces (address : String) (layer : SocketLayer σ) (w w' : World σ) : Prop :=
  ∃ es, w'.events.toList = w.events.toList ++ es ∧
    Segments address layer w.memory (socketTrace es) w'.memory

/-- What happens at the socket layer in a search are the questions to the probe. -/
theorem stepwise_traces (address : String) (layer : SocketLayer σ) (random : Nat → Int) :
    Stepwise ⟨.binding address layer, random⟩ (Traces address layer) where
  refl := fun w => ⟨[], (List.append_nil _).symm, .nil _⟩
  trans := by
    rintro w w' w'' ⟨es, hes, hsegments⟩ ⟨es', hes', hsegments'⟩
    refine ⟨es ++ es', ?_, ?_⟩
    · rw [hes', hes, List.append_assoc]
    · rw [socketTrace_append]
      exact hsegments.append hsegments'
  logged := fun w record => ⟨[.logged record], World.events_record _ _, .nil _⟩
  draws := fun stop w => ⟨[.drew stop], World.events_record _ _, .nil _⟩
  asks := by
    intro port w
    obtain ⟨steps, notes, hnotes, hevents, hsegment⟩ := segment_isFree address layer port w
    refine ⟨_, hevents, ?_⟩
    rw [socketTrace_append, socketTrace_append, hsegment.socketTrace_eq, socketTrace_logged hnotes,
      List.append_nil]
    exact .cons hsegment (.nil _)

/-! ## Sockets that are open -/

/-- What is known of the sockets after some events: the memory of the layer, and how many sockets
were created and not closed. -/
structure Sockets (σ : Type) where
  memory : σ
  opened : Int

namespace Sockets

/-- The sockets after one more event. The event does not show whether the layer has created a socket,
so the layer is asked again. -/
def after (layer : SocketLayer σ) (s : Sockets σ) : Event → Sockets σ
  | .socketCreated =>
    match layer.create s.memory with
    | (none, memory) => ⟨memory, s.opened + 1⟩
    | (some _, memory) => ⟨memory, s.opened⟩
  | .socketBound address port => ⟨(layer.bind address port s.memory).2, s.opened⟩
  | .socketClosed => ⟨s.memory, s.opened - 1⟩
  | _ => s

/-- The sockets after events, if none was open before. -/
def replay (layer : SocketLayer σ) (memory : σ) (es : List Event) : Sockets σ :=
  es.foldl (after layer) ⟨memory, 0⟩

/-- An event that does not show the socket layer changes no socket. -/
theorem after_of_not_trace (layer : SocketLayer σ) (s : Sockets σ) {e : Event}
    (h : e.isSocketTrace = false) : s.after layer e = s := by
  cases e with
  | socketCreated | socketBound | socketClosed => cases h
  | _ => rfl

theorem foldl_socketTrace (layer : SocketLayer σ) (s : Sockets σ) (es : List Event) :
    (socketTrace es).foldl (after layer) s = es.foldl (after layer) s := by
  induction es generalizing s with
  | nil => rfl
  | cons e es ih =>
      unfold socketTrace
      cases he : e.isSocketTrace with
      | true =>
          rw [List.filter_cons_of_pos he]
          exact ih _
      | false =>
          rw [List.filter_cons_of_neg (by simp [he]), List.foldl_cons, after_of_not_trace layer s he]
          exact ih s

/-- Nothing is to come, or the answer to a question. -/
def AtRest (behind : List Event) : Prop := ∀ e ∈ behind.head?, e.probedPort?.isSome = true

/-- There is one open socket at most, and none where a question ends. -/
structure Orderly (s : Sockets σ) (behind : List Event) : Prop where
  low : 0 ≤ s.opened
  high : s.opened ≤ 1
  rest : AtRest behind → s.opened = 0

theorem orderly_closed {memory : σ} {behind : List Event} : Orderly ⟨memory, 0⟩ behind :=
  ⟨le_refl 0, Int.zero_le_ofNat 1, fun _ => rfl⟩

theorem orderly_opened {memory : σ} {e : Event} {behind : List Event}
    (he : e.probedPort?.isSome = false) : Orderly ⟨memory, 1⟩ (e :: behind) := by
  refine ⟨Int.zero_le_ofNat 1, le_refl 1, fun hrest => ?_⟩
  have hprobed := hrest e rfl
  rw [he] at hprobed
  cases hprobed

/-- The sockets are in order at every point of the events. -/
def Throughout (layer : SocketLayer σ) : Sockets σ → List Event → Prop
  | s, [] => Orderly s []
  | s, e :: es => Orderly s (e :: es) ∧ Throughout layer (s.after layer e) es

theorem Throughout.orderly {layer : SocketLayer σ} {s : Sockets σ} {es : List Event}
    (h : Throughout layer s es) : Orderly s es := by
  cases es with
  | nil => exact h
  | cons e es => exact h.1

/-- Every point splits the events in two parts: what has happened and what is to come. -/
theorem Throughout.orderly_at {layer : SocketLayer σ} {s : Sockets σ} {es : List Event}
    (h : Throughout layer s es) (front behind : List Event) (hes : es = front ++ behind) :
    Orderly (front.foldl (after layer) s) behind := by
  induction front generalizing s es with
  | nil =>
      rw [hes] at h
      exact h.orderly
  | cons e front ih =>
      rw [hes] at h
      exact ih h.2 rfl

/-- Other events in between do not disturb the sockets. -/
theorem Throughout.of_socketTrace {layer : SocketLayer σ} {s : Sockets σ} {es : List Event}
    (h : Throughout layer s (socketTrace es)) : Throughout layer s es := by
  induction es generalizing s with
  | nil => exact h
  | cons e es ih =>
      unfold socketTrace at h
      cases he : e.isSocketTrace with
      | true =>
          rw [List.filter_cons_of_pos he] at h
          exact ⟨⟨h.1.low, h.1.high, h.1.rest⟩, ih h.2⟩
      | false =>
          rw [List.filter_cons_of_neg (by simp [he])] at h
          have hnow := h.orderly
          have hprobed : e.probedPort?.isSome = false := (Bool.or_eq_false_iff.mp he).2
          refine ⟨⟨hnow.low, hnow.high, fun hrest => ?_⟩, ?_⟩
          · have hanswer := hrest e rfl
            rw [hprobed] at hanswer
            cases hanswer
          · rw [after_of_not_trace layer s he]
            exact ih h

end Sockets

open Sockets

section Segments

variable {address : String} {layer : SocketLayer σ} {memory memory' : σ}

/-- A segment leaves no socket open. -/
theorem Segment.throughout {port : Int} {steps : List Event} {r : Except Fault Bool}
    {answer : Option Bool} {es : List Event}
    (h : Segment address layer port memory steps r memory')
    (hrest : Throughout layer ⟨memory', 0⟩ es) :
    Throughout layer ⟨memory, 0⟩ (steps ++ .probed port answer :: es) := by
  have hbehind : Throughout layer ⟨memory', 0⟩ (.probed port answer :: es) :=
    ⟨orderly_closed, hrest⟩
  cases h with
  | outside => exact hbehind
  | notCreated _ hcreate =>
      have hafter : after layer ⟨memory, 0⟩ .socketCreated = ⟨memory', 0⟩ := by
        simp only [after, hcreate]
      refine ⟨orderly_closed, ?_⟩
      rw [hafter]
      exact hbehind
  | @bound _ middle _ _ hcreate hbind =>
      -- the socket is open in front of the binding and behind it
      have hcreated : after layer ⟨memory, 0⟩ .socketCreated = ⟨middle, 1⟩ := by
        simp only [after, hcreate, zero_add]
      have hbound : after layer ⟨middle, 1⟩ (.socketBound address (.int port)) = ⟨memory', 1⟩ := by
        simp only [after, hbind]
      have hclosed : after layer ⟨memory', 1⟩ .socketClosed = ⟨memory', 0⟩ := rfl
      refine ⟨orderly_closed, ?_⟩
      rw [hcreated]
      refine ⟨orderly_opened rfl, ?_⟩
      rw [hbound]
      refine ⟨orderly_opened rfl, ?_⟩
      rw [hclosed]
      exact hbehind

theorem Segments.throughout {es : List Event} (h : Segments address layer memory es memory') :
    Throughout layer ⟨memory, 0⟩ es := by
  induction h with
  | nil => exact orderly_closed
  | cons hsegment hrest ih => exact hsegment.throughout ih

/-- Going through a segment again leads to the memory that it has left. -/
theorem Segment.foldl_after {port : Int} {steps : List Event} {r : Except Fault Bool}
    (h : Segment address layer port memory steps r memory') :
    steps.foldl (after layer) ⟨memory, 0⟩ = ⟨memory', 0⟩ := by
  cases h with
  | outside => rfl
  | notCreated _ hcreate => simp [after, hcreate]
  | bound _ hcreate hbind => simp [after, hcreate, hbind]

theorem Segments.foldl_after {es : List Event} (h : Segments address layer memory es memory') :
    es.foldl (after layer) ⟨memory, 0⟩ = ⟨memory', 0⟩ := by
  induction h with
  | nil => rfl
  | cons hsegment hrest ih =>
      rw [List.foldl_append, hsegment.foldl_after]
      exact ih

end Segments

/-- Between two worlds these events were added and no socket was leaked: all that happened at the
socket layer are questions, there was one open socket at most at every moment, and none when a
question was answered or when the events were over. -/
structure Leakless (address : String) (layer : SocketLayer σ) (w : World σ) (es : List Event)
    (w' : World σ) : Prop where
  events : w'.events.toList = w.events.toList ++ es
  segments : Segments address layer w.memory (socketTrace es) w'.memory
  one : ∀ front behind, es = front ++ behind →
    0 ≤ (replay layer w.memory front).opened ∧ (replay layer w.memory front).opened ≤ 1
  answered : ∀ front port answer behind, es = front ++ .probed port answer :: behind →
    (replay layer w.memory front).opened = 0
  finished : replay layer w.memory es = ⟨w'.memory, 0⟩

theorem leakless_of_segments {address : String} {layer : SocketLayer σ} {w w' : World σ}
    {es : List Event} (hevents : w'.events.toList = w.events.toList ++ es)
    (hsegments : Segments address layer w.memory (socketTrace es) w'.memory) :
    Leakless address layer w es w' := by
  have hthroughout := hsegments.throughout.of_socketTrace
  refine ⟨hevents, hsegments, ?_, ?_, ?_⟩
  · intro front behind hes
    have horderly := hthroughout.orderly_at front behind hes
    exact ⟨horderly.low, horderly.high⟩
  · intro front port answer behind hes
    refine (hthroughout.orderly_at front _ hes).rest ?_
    rintro e ⟨⟩
    rfl
  · rw [replay, ← foldl_socketTrace]
    exact hsegments.foldl_after

/-! ## All questions -/

namespace Probe

/-- Asks about ports one after the other, whether or not the probe fails, and tells what is left. -/
def askAll (probe : Probe σ) (w : World σ) (ports : List Int) : World σ :=
  ports.foldl (fun w port => leaves (probe.isFree port) w) w

/-- The answer is `true` just for a port on which the layer refuses nothing. -/
theorem verdict_eq_true_iff {address : String} {layer : SocketLayer σ} {port : Int} {memory : σ} :
    (if IsPort port then verdict (layer.refusal? address port memory) else untried port) = .ok true ↔
      IsPort port ∧ layer.refusal? address port memory = none := by
  by_cases hport : IsPort port
  · rw [if_pos hport]
    cases layer.refusal? address port memory with
    | none => exact ⟨fun _ => ⟨hport, rfl⟩, fun _ => rfl⟩
    | some failure =>
        refine ⟨fun h => ?_, fun h => nomatch h.2⟩
        unfold verdict at h
        dsimp only at h
        split at h <;> cases h
  · rw [if_neg hport]
    refine ⟨fun h => ?_, fun h => absurd h.1 hport⟩
    unfold untried at h
    split at h <;> cases h

/-- A question about a number without a text fails before anything is tried out. -/
theorem run_isFree_untold (address : String) (layer : SocketLayer σ) {port : Int}
    (h : (Value.int port).writable = false) (w : World σ) :
    ((Probe.binding address layer).isFree port).run w =
      .error .tooManyDigits (w.record (.probed port none)) := by
  have hport : ¬ IsPort port := Value.not_port_of_unwritable h
  have hanswer : ((Probe.binding address layer).answer port).run w = .error .tooManyDigits w := by
    show (canBind address layer (.int port)).run w = _
    rw [canBind_eq, if_neg hport, turnDown, requireTexts, List.all_cons, h]
    rfl
  rw [run_isFree, hanswer]

/-- What asking one port after the other leaves are questions, one about each port in turn. -/
theorem segments_askAll (address : String) (layer : SocketLayer σ) (ports : List Int)
    (w : World σ) :
    ∃ es, (askAll (.binding address layer) w ports).events.toList = w.events.toList ++ es ∧
      Segments address layer w.memory (socketTrace es)
        (askAll (.binding address layer) w ports).memory ∧
      (asked es).map Question.port = ports := by
  induction ports generalizing w with
  | nil => exact ⟨[], (List.append_nil _).symm, .nil _, rfl⟩
  | cons port ports ih =>
      have hstepwise := stepwise_traces address layer fun _ => 0
      obtain ⟨es, hes, hsegments⟩ := hstepwise.asks port w
      obtain ⟨es', hes', hsegments', hports⟩ :=
        ih (leaves ((Probe.binding address layer).isFree port) w)
      obtain ⟨es'', hes'', hasked, -⟩ := meets_isFree (.binding address layer) port w
      have hsame : es'' = es := List.append_cancel_left (hes''.symm.trans hes)
      rw [hsame] at hasked
      refine ⟨es ++ es', ?_, ?_, ?_⟩
      · rw [← List.append_assoc, ← hes]
        exact hes'
      · rw [socketTrace_append]
        exact hsegments.append hsegments'
      · rw [asked_append, List.map_append, hasked, hports]
        rfl

end Probe

/-- What happens between the world in which something starts and the world that it leaves. -/
theorem Traces.leakless {address : String} {layer : SocketLayer σ} {w w' : World σ}
    (h : Traces address layer w w') : ∃ es, Leakless address layer w es w' := by
  obtain ⟨es, hevents, hsegments⟩ := h
  exact ⟨es, leakless_of_segments hevents hsegments⟩

/-- **No socket is leaked.** A question to a probe at the socket layer takes no step there for a port
out of range, and otherwise creates a socket and, if that is not refused, binds it on the address and
closes it. The answer is `true` just if the port is one and neither step is refused. It is `false`
for a port out of range, and after a refusal by the system or for a number that the layer cannot
take; any other refusal fails the question. So does a number with too many digits: it is out of
range, but that cannot be logged (`isFree_unwordable`). One question after the other, in any search,
in an assignment and in a run of the service, makes one segment after the other: there is never more
than one socket open, and none when a question is answered or when the run is over, also if a failure
of the layer ends it. -/
theorem Probe.sockets_released (address : String) (layer : SocketLayer σ) (random : Nat → Int) :
    let host : Host σ := ⟨.binding address layer, random⟩
    (∀ port w, ∃ steps notes, (∀ e ∈ notes, ∃ record, e = .logged record) ∧
      (leaves (host.probe.isFree port) w).events.toList = w.events.toList ++
        (steps ++ notes ++ [.probed port (ends (host.probe.isFree port) w).toOption]) ∧
      Segment address layer port w.memory steps (ends (host.probe.isFree port) w)
        (leaves (host.probe.isFree port) w).memory) ∧
    (∀ port w, ends (host.probe.isFree port) w =
      if IsPort port then verdict (layer.refusal? address port w.memory)
      else if (Value.int port).writable then .ok false else .error .tooManyDigits) ∧
    (∀ port w, ends (host.probe.isFree port) w = .ok true ↔
      IsPort port ∧ layer.refusal? address port w.memory = none) ∧
    (∀ ports w, ∃ es, Leakless address layer w es (host.probe.askAll w ports) ∧
      (asked es).map Question.port = ports) ∧
    (∀ (strategy : Strategy) range? w, ∃ es,
      Leakless address layer w es (leaves (strategy.find host range?) w)) ∧
    (∀ (a : Assigner) used w, ∃ es,
      Leakless address layer w es (leaves (a.findFreePort host used) w)) ∧
    (∀ (a : Assigner) (s : Site σ), ∃ es,
      Leakless address layer s.world es (leaves (a.assign host) s).world) ∧
    ∀ settings (s : Site σ), ∃ es,
      Leakless address layer s.world es (leaves (Service.run settings host) s).world := by
  intro host
  have hstepwise := stepwise_traces address layer random
  have hends : ∀ port w, ends (host.probe.isFree port) w =
      if IsPort port then verdict (layer.refusal? address port w.memory) else untried port := by
    intro port w
    obtain ⟨steps, notes, -, -, hsegment⟩ := segment_isFree address layer port w
    exact hsegment.ends_eq
  refine ⟨segment_isFree address layer, hends, ?_, ?_, ?_, ?_, ?_, ?_⟩
  · intro port w
    rw [hends]
    exact verdict_eq_true_iff
  · intro ports w
    obtain ⟨es, hevents, hsegments, hports⟩ := segments_askAll address layer ports w
    exact ⟨es, leakless_of_segments hevents hsegments, hports⟩
  · exact fun strategy range? w => (hstepwise.find strategy range? w).leakless
  · exact fun a used w => (hstepwise.findFreePort a used w).leakless
  · exact fun a s => (hstepwise.assign a s).leakless
  · exact fun settings s => (hstepwise.run settings s).leakless

/-- A number with one digit too many is out of range, and no socket is tried out for it, and yet the
answer is not `false`. -/
theorem Probe.isFree_unwordable :
    let layer : SocketLayer Unit := ⟨fun _ => (none, ()), fun _ _ _ => (none, ())⟩
    let port : Int := (Nat.pow 10 Numeral.maxDigits : Nat)
    ¬ IsPort port ∧ ((Probe.binding "" layer).isFree port).run (World.fresh ()) =
      .error .tooManyDigits ((World.fresh ()).record (.probed port none)) := by
  intro layer port
  have huntold : (Value.int port).writable = false := Value.unwritable_pow
  exact ⟨Value.not_port_of_unwritable huntold, run_isFree_untold "" layer huntold _⟩

end ListenerPorts
