import ListenerPorts.Proofs.Validating

set_option autoImplicit false

/-! # Running a service again

A search in ascending order depends on nothing but the answers of the probe. If these are fixed, the
search asks the same questions and finds the same ports whenever it is made. What a run of the
service does with them depends on the server alone (`Assigner.course`), and the server that it
leaves is one on which it would do the same: an encrypted connector is made again as it was, and a
first port is set to what it is. So the course comes to rest after the first run (`Resting`), and any
number of further runs stays there, by induction on their number.
-/

namespace ListenerPorts

variable {σ α β : Type}

open Run

/-! ## Searches that repeat -/

namespace Run

/-- From every world the run asks the same questions, has the same answers and ends the same. -/
def Repeats (x : Run σ α) (qs : List Question) (r : Except Fault α) : Prop :=
  x.Meets fun es r' => asked es = qs ∧ r' = r

/-- The run does not depend on the world. -/
def Repeatable (x : Run σ α) : Prop := ∃ qs r, x.Repeats qs r

variable {x : Run σ α} {k : α → Run σ β}

theorem Repeatable.bind (hx : x.Repeatable) (hk : ∀ a, (k a).Repeatable) :
    Repeatable (x >>= k) := by
  obtain ⟨qs, r, hrepeats⟩ := hx
  cases r with
  | error f =>
      refine ⟨qs, .error f, Meets.bind hrepeats ?_ ?_⟩
      · rintro es g ⟨hqs, hg⟩
        cases hg
        exact ⟨hqs, rfl⟩
      · rintro es a ⟨-, ha⟩
        cases ha
  | ok a =>
      obtain ⟨qs', r', hrest⟩ := hk a
      refine ⟨qs ++ qs', r', Meets.bind hrepeats ?_ ?_⟩
      · rintro es g ⟨-, hg⟩
        cases hg
      · rintro es b ⟨hqs, hb⟩
        cases hb
        refine Meets.weaken hrest ?_
        rintro es' r'' ⟨hqs', hr⟩
        rw [asked_append, hqs, hqs']
        exact ⟨rfl, hr⟩

theorem repeatable_pure (a : α) : (pure a : Run σ α).Repeatable := by
  refine ⟨[], .ok a, (meets_pure a).weaken ?_⟩
  rintro es r ⟨rfl, rfl⟩
  exact ⟨rfl, rfl⟩

theorem repeatable_throw (f : Fault) : (throw f : Run σ α).Repeatable := by
  refine ⟨[], .error f, (meets_throw f).weaken ?_⟩
  rintro es r ⟨rfl, rfl⟩
  exact ⟨rfl, rfl⟩

theorem repeatable_log (logger : Logger) (level : Level) (message : String) :
    (log logger level message : Run σ Unit).Repeatable := by
  refine ⟨[], .ok (), (meets_log logger level message).weaken ?_⟩
  rintro es r ⟨hquiet, rfl⟩
  exact ⟨hquiet.1, rfl⟩

end Run

/-- The probe answers about every port, and about each it always answers the same. -/
def Probe.Constant (probe : Probe σ) (free : Nat → Bool) : Prop :=
  ∀ p : Nat, 1 ≤ p → p ≤ highestPort → ∀ w, ends (probe.isFree p) w = .ok (free p)

theorem Probe.Constant.repeatable {probe : Probe σ} {free : Nat → Bool}
    (hprobe : probe.Constant free) {p : Nat} (hlow : 1 ≤ p) (hhigh : p ≤ highestPort) :
    (probe.isFree p).Repeatable := by
  refine ⟨[⟨p, some (free p)⟩], .ok (free p), (meets_isFree probe p).weaken ?_⟩
  rintro es r ⟨hasked, -, w, hw⟩
  rw [hprobe p hlow hhigh w] at hw
  rw [hasked, ← hw]
  exact ⟨rfl, rfl⟩

namespace Search

variable {host : Host σ} {range : PortRange}

theorem repeatable_firstTwo {ports : List Nat}
    (hports : ∀ p ∈ ports, (host.probe.isFree p).Repeatable) (first : Option Nat) :
    (firstTwo host range first ports).Repeatable := by
  induction ports generalizing first with
  | nil => exact repeatable_throw _
  | cons port ports ih =>
      obtain ⟨hport, hrest⟩ := List.forall_mem_cons.mp hports
      refine hport.bind fun free => ?_
      split
      · cases first with
        | none => exact ih hrest _
        | some application => exact repeatable_pure _
      · exact ih hrest _

theorem repeatable_firstNeighbours {ports : List Nat}
    (hports : ∀ p ∈ ports, (host.probe.isFree p).Repeatable) :
    (firstNeighbours host range ports).Repeatable := by
  induction ports using firstNeighbours.induct with
  | case1 port next ports ih ih' =>
      obtain ⟨hport, hrest⟩ := List.forall_mem_cons.mp hports
      obtain ⟨hnext, hbehind⟩ := List.forall_mem_cons.mp hrest
      refine hport.bind fun free => ?_
      split
      · refine hnext.bind fun free' => ?_
        split
        · exact repeatable_pure _
        · exact (repeatable_log _ _ _).bind fun _ => ih hbehind
      · exact ih' hrest
  | case2 ports h =>
      unfold firstNeighbours
      split
      · exact absurd rfl (h _ _ _)
      · exact repeatable_throw _

end Search

/-- With fixed answers, a search in ascending order repeats. -/
theorem Strategy.repeatable_find {strategy : Strategy} (hordered : strategy ≠ .random)
    {host : Host σ} {free : Nat → Bool} (hprobe : host.probe.Constant free) (range : PortRange) :
    (strategy.find host (some range)).Repeatable := by
  have hports : ∀ p ∈ range.ports, (host.probe.isFree p).Repeatable := by
    intro p hp
    obtain ⟨hlow, hhigh⟩ := PortRange.mem_ports.mp hp
    exact hprobe.repeatable (range.one_le_min.trans hlow) (hhigh.trans range.max_le)
  cases strategy with
  | random => exact absurd rfl hordered
  | incrementing => exact Search.repeatable_firstTwo hports none
  | adjacent => exact Search.repeatable_firstNeighbours hports

/-! ## What an assignment makes of what it finds -/

/-- What an assignment asks, how it ends, and the server that it leaves. -/
structure Course where
  questions : List Question
  result : Except Fault ServicePorts
  server : Server

namespace Assigner

/-- The course of an assignment whose search asks these questions and ends like this. -/
def course (a : Assigner) (qs : List Question) (r : Except Fault (ByRole Nat)) (server : Server) :
    Course :=
  match a.check server, r with
  | .error f, _ => ⟨[], .error f, server⟩
  | .ok (), .error f => ⟨qs, .error f, server⟩
  | .ok (), .ok found =>
    match a.written server found with
    | .error f => ⟨qs, .error f, server⟩
    | .ok server' => ⟨qs, .ok (reported found), server'⟩

section Course

variable {a : Assigner} {qs : List Question} {r : Except Fault (ByRole Nat)} {server : Server}

theorem course_refused {f : Fault} (hcheck : a.check server = .error f) :
    a.course qs r server = ⟨[], .error f, server⟩ := by
  unfold course
  rw [hcheck]

theorem course_notFound {f : Fault} (hcheck : a.check server = .ok ()) :
    a.course qs (.error f) server = ⟨qs, .error f, server⟩ := by
  unfold course
  rw [hcheck]

theorem course_notWritten {found : ByRole Nat} {f : Fault} (hcheck : a.check server = .ok ())
    (hwritten : a.written server found = .error f) :
    a.course qs (.ok found) server = ⟨qs, .error f, server⟩ := by
  unfold course
  rw [hcheck]
  dsimp only
  rw [hwritten]

theorem course_assigned {found : ByRole Nat} {server' : Server} (hcheck : a.check server = .ok ())
    (hwritten : a.written server found = .ok server') :
    a.course qs (.ok found) server = ⟨qs, .ok (reported found), server'⟩ := by
  unfold course
  rw [hcheck]
  dsimp only
  rw [hwritten]

/-- What was written passes the check that it has passed before. -/
theorem check_written {server' : Server} {found : ByRole Nat} (hcheck : a.check server = .ok ())
    (hwritten : a.written server found = .ok server') : a.check server' = .ok () := by
  cases hsec : a.security with
  | secure =>
      unfold check at hcheck ⊢
      rw [hsec] at hcheck ⊢
      exact hcheck
  | nonSecure =>
      have hne : ∀ role, server'.get role ≠ [] := by
        intro role hnil
        have hbefore := ne_nil_of_check hsec hcheck role
        rw [get_written_plain hsec hwritten role] at hnil
        cases hcs : server.get role with
        | nil => exact hbefore hcs
        | cons c cs =>
            rw [hcs] at hnil
            cases hnil
      have happlication : server'.application.isEmpty = false :=
        List.isEmpty_eq_false_iff.mpr (hne .application)
      have hadmin : server'.admin.isEmpty = false := List.isEmpty_eq_false_iff.mpr (hne .admin)
      unfold check
      rw [hsec]
      simp only [happlication, hadmin, Bool.false_eq_true, if_false]

theorem setFirstPort_setFirstPort (port : Value) (cs : List Connector) :
    Server.setFirstPort port (Server.setFirstPort port cs) = Server.setFirstPort port cs := by
  cases cs with
  | nil => rfl
  | cons c cs => rw [Server.setFirstPort, Server.setFirstPort, Connector.setPort_setPort]

/-- Writing the same ports again changes nothing. -/
theorem written_written {server' : Server} {found : ByRole Nat}
    (hwritten : a.written server found = .ok server') : a.written server' found = .ok server' := by
  cases hsec : a.security with
  | secure =>
      -- the connectors are made from the material, whatever was there before
      unfold written at hwritten ⊢
      rw [hsec] at hwritten ⊢
      exact hwritten
  | nonSecure =>
      rw [written_plain hsec] at hwritten ⊢
      cases hwritten
      rw [setFirstPort_setFirstPort, setFirstPort_setFirstPort]

/-- On the server that it leaves, an assignment takes the course that it has taken. -/
theorem course_course (a : Assigner) (qs : List Question) (r : Except Fault (ByRole Nat))
    (server : Server) : a.course qs r (a.course qs r server).server = a.course qs r server := by
  cases hcheck : a.check server with
  | error f =>
      rw [course_refused hcheck]
      exact course_refused hcheck
  | ok u =>
      cases r with
      | error f =>
          rw [course_notFound hcheck]
          exact course_notFound hcheck
      | ok found =>
          cases hwritten : a.written server found with
          | error f =>
              rw [course_notWritten hcheck hwritten]
              exact course_notWritten hcheck hwritten
          | ok server' =>
              rw [course_assigned hcheck hwritten]
              exact course_assigned (check_written hcheck hwritten) (written_written hwritten)

/-- An assignment that fails leaves the server as it is, and one that succeeds has written it. -/
theorem server_course (a : Assigner) (qs : List Question) (r : Except Fault (ByRole Nat))
    (server : Server) :
    (a.course qs r server).server = server ∨ ∃ found, r = .ok found ∧
      a.written server found = .ok (a.course qs r server).server ∧
      (a.course qs r server).result = .ok (reported found) := by
  cases hcheck : a.check server with
  | error f =>
      rw [course_refused hcheck]
      exact Or.inl rfl
  | ok u =>
      cases r with
      | error f =>
          rw [course_notFound hcheck]
          exact Or.inl rfl
      | ok found =>
          cases hwritten : a.written server found with
          | error f =>
              rw [course_notWritten hcheck hwritten]
              exact Or.inl rfl
          | ok server' =>
              rw [course_assigned hcheck hwritten]
              exact Or.inr ⟨found, rfl, hwritten, rfl⟩

/-- An assignment takes its course, whatever world it starts from. -/
theorem assign_course (hmode : a.mode = .dynamic) {host : Host σ}
    (hfind : (a.findPorts host).Repeats qs r) (s : Site σ) :
    ends (a.assign host) s = (a.course qs r s.server).result ∧
      (leaves (a.assign host) s).server = (a.course qs r s.server).server ∧
      ∃ es, (leaves (a.assign host) s).world.events.toList = s.world.events.toList ++ es ∧
        asked es = (a.course qs r s.server).questions := by
  obtain ⟨es, hes, hasked, hends⟩ := hfind (a.opened s)
  have hopened : (a.opened s).events.toList =
      s.world.events.toList ++ [said .debug a.openingMessage] :=
    World.events_record _ _
  rw [hopened, List.append_assoc] at hes
  have houtcome := assign_outcome hmode host s
  unfold ends leaves
  generalize (a.assign host).run s = res at houtcome ⊢
  cases houtcome with
  | refused hcheck =>
      rw [course_refused hcheck]
      exact ⟨rfl, rfl, [], (List.append_nil _).symm, rfl⟩
  | notFound hcheck hrun =>
      rw [ends, hrun] at hends
      rw [leaves, hrun] at hes
      rw [← hends, course_notFound hcheck]
      exact ⟨rfl, rfl, _, hes, hasked⟩
  | notWritten hcheck hrun hwritten =>
      rw [ends, hrun] at hends
      rw [leaves, hrun] at hes
      rw [← hends, course_notWritten hcheck hwritten]
      exact ⟨rfl, rfl, _, hes, hasked⟩
  | @assigned w found server' hcheck hrun hwritten =>
      rw [ends, hrun] at hends
      rw [leaves, hrun] at hes
      rw [← hends, course_assigned hcheck hwritten]
      refine ⟨rfl, rfl, [said .debug a.openingMessage] ++ es ++
        [said .info (a.closingMessage found)], ?_, ?_⟩
      · show (w.record _).events.toList = _
        rw [World.events_record, hes]
        simp only [List.append_assoc]
      · rw [asked_append, asked_append, hasked]
        exact List.append_nil _

end Course

end Assigner

/-! ## Runs of the service -/

namespace Service

variable {settings : Settings} {host : Host σ} {a : Assigner} {qs : List Question}
  {r : Except Fault (ByRole Nat)}

/-- From a site on which the server is the given one, a run takes the course. -/
def Takes (settings : Settings) (host : Host σ) (s : Site σ) (course : Course) : Prop :=
  ends (run settings host) s = course.result ∧
    (leaves (run settings host) s).server = course.server ∧
    ∃ es, (leaves (run settings host) s).world.events.toList = s.world.events.toList ++ es ∧
      asked es = course.questions

theorem started_events (s : Site σ) : ∃ es,
    (started s).world.events.toList = s.world.events.toList ++ es ∧ asked es = [] :=
  ⟨_, World.events_record _ _, rfl⟩

theorem takes_of_create_error {f : Fault} (hcreate : settings.createAssigner = .error f)
    (s : Site σ) : Takes settings host s ⟨[], .error f, s.server⟩ := by
  unfold Takes
  rw [ends, leaves, run_of_create_error hcreate]
  exact ⟨rfl, rfl, started_events s⟩

/-- If what it has written can be reported, a run takes the course of its assignment. -/
theorem takes_course (hcreate : settings.createAssigner = .ok a) (hmode : a.mode = .dynamic)
    (hfind : (a.findPorts host).Repeats qs r) (huse : settings.useDynamic.writable = true)
    (s : Site σ) (hports : (a.course qs r s.server).server.PortsWritable) :
    Takes settings host s (a.course qs r s.server) := by
  obtain ⟨opening, hopening, hsilent⟩ := started_events s
  obtain ⟨hends, hserver, es, hes, hasked⟩ := a.assign_course hmode hfind (started s)
  have hserver₀ : (started s).server = s.server := rfl
  rw [hserver₀] at hends hserver hasked
  rw [hopening, List.append_assoc] at hes
  unfold Takes
  cases hassign : (a.assign host).run (started s) with
  | error f t =>
      rw [ends, hassign] at hends
      rw [leaves, hassign] at hserver hes
      rw [ends, leaves, run_of_assign_error hcreate hassign]
      refine ⟨hends, hserver, opening ++ es, hes, ?_⟩
      rw [asked_append, hsilent, hasked, List.nil_append]
  | ok ports t =>
      rw [ends, hassign] at hends
      rw [leaves, hassign] at hserver hes
      dsimp only at hserver hes
      -- the report asks nothing, and it has nothing to fail on
      have hwritable : t.server.PortsWritable := by
        rw [hserver]
        exact hports
      obtain ⟨es', hes', hquiet, u, hreport, -⟩ := returns_report hwritable huse t.world
      have hrun : (run settings host).run s =
          .ok ports ⟨t.server, leaves (report settings t.server) t.world⟩ := by
        rw [run_eq, hcreate]
        dsimp only
        rw [hassign]
        dsimp only
        rw [run_of_ends_ok hreport]
      rw [ends, leaves, hrun]
      refine ⟨hends, hserver, opening ++ es ++ es', ?_, ?_⟩
      · dsimp only
        rw [hes', hes, List.append_assoc]
      · rw [asked_append, asked_append, hsilent, hasked, hquiet.1, List.nil_append, List.append_nil]

/-- The site after so many runs, one after the other. -/
def rerun (settings : Settings) (host : Host σ) (s : Site σ) : Nat → Site σ
  | 0 => s
  | n + 1 => leaves (run settings host) (rerun settings host s n)

/-- A course for every server, which the runs on that server take and which comes to rest: on the
server that it leaves, a run takes it again. -/
structure Resting (settings : Settings) (host : Host σ) (course : Server → Course) : Prop where
  rest : ∀ server, course (course server).server = course server
  writable : ∀ server, server.PortsWritable → (course server).server.PortsWritable
  failed : ∀ server f, (course server).result = .error f → (course server).server = server
  takes : ∀ s : Site σ, s.server.PortsWritable → Takes settings host s (course s.server)

/-- All runs, one after the other, take the course of the first one. -/
theorem Resting.rerun_takes {course : Server → Course} (h : Resting settings host course)
    (s : Site σ) (hs : s.server.PortsWritable) (n : Nat) :
    Takes settings host (rerun settings host s n) (course s.server) := by
  -- the invariant: what is written has a text, and the course is the one of the first run
  have hinvariant : (rerun settings host s n).server.PortsWritable ∧
      course (rerun settings host s n).server = course s.server := by
    induction n with
    | zero => exact ⟨hs, rfl⟩
    | succ n ih =>
        obtain ⟨hnow, hsame⟩ := ih
        have hleft := (h.takes _ hnow).2.1
        rw [hsame] at hleft
        rw [rerun, hleft]
        exact ⟨h.writable _ hs, h.rest _⟩
  have hnext := h.takes _ hinvariant.1
  rw [hinvariant.2] at hnext
  exact hnext

/-- With a finder that searches in ascending order and fixed answers, the assigner of the settings
searches the same way from every world. -/
theorem repeatable_findPorts (hdynamic : settings.useDynamic.isTrue = true)
    (hordered : ∀ finder, settings.createFinder = .ok finder → finder.strategy ≠ .random)
    {free : Nat → Bool} (hprobe : host.probe.Constant free)
    (hcreate : settings.createAssigner = .ok a) : (a.findPorts host).Repeatable := by
  unfold Settings.createAssigner at hcreate
  rw [if_pos hdynamic] at hcreate
  obtain ⟨range, -, hcreate⟩ := ok_of_bind_ok hcreate
  obtain ⟨finder, hfinder, hcreate⟩ := ok_of_bind_ok hcreate
  cases hcreate
  exact Strategy.repeatable_find (hordered finder hfinder) hprobe range

/-- Ports that a search finds are ports. -/
theorem found_le {range : PortRange} (hrange : a.range = some range) {found : ByRole Nat}
    (hfind : (a.findPorts host).Repeats qs (.ok found)) (w : World σ) (role : Role) :
    found.get role ≤ highestPort := by
  obtain ⟨es, -, ⟨-, hends⟩, hsound⟩ := Meets.and hfind (Assigner.findPorts_sound hrange host) w
  have hmem := (hsound.chosen found hends).mem role
  exact (PortRange.mem_ports.mp hmem).2.trans range.max_le

/-- Settings with which no assigner can be created fail on every server and change none. -/
theorem resting_of_create_error {f : Fault} (hcreate : settings.createAssigner = .error f) :
    Resting settings host fun server => ⟨[], .error f, server⟩ where
  rest := fun _ => rfl
  writable := fun _ h => h
  failed := fun _ _ _ => rfl
  takes := fun s _ => takes_of_create_error hcreate s

/-- The course of an assigner whose search repeats comes to rest. -/
theorem resting_course (hcreate : settings.createAssigner = .ok a) (hmode : a.mode = .dynamic)
    {range : PortRange} (hrange : a.range = some range) (hfind : (a.findPorts host).Repeats qs r)
    (huse : settings.useDynamic.writable = true) (w : World σ) :
    Resting settings host (a.course qs r) := by
  have hwritable : ∀ server : Server, server.PortsWritable →
      (a.course qs r server).server.PortsWritable := by
    intro server hserver
    rcases a.server_course qs r server with hsame | ⟨found, rfl, hwritten, -⟩
    · rw [hsame]
      exact hserver
    · exact Assigner.portsWritable_of_written hwritten hserver (found_le hrange hfind w)
  refine ⟨a.course_course qs r, hwritable, ?_, ?_⟩
  · intro server f hf
    rcases a.server_course qs r server with hsame | ⟨found, -, -, hok⟩
    · exact hsame
    · rw [hf] at hok
      cases hok
  · exact fun t ht => takes_course hcreate hmode hfind huse t (hwritable _ ht)

theorem exists_resting (hdynamic : settings.useDynamic.isTrue = true)
    (huse : settings.useDynamic.writable = true)
    (hordered : ∀ finder, settings.createFinder = .ok finder → finder.strategy ≠ .random)
    {free : Nat → Bool} (hprobe : host.probe.Constant free) (w : World σ) :
    ∃ course, Resting settings host course := by
  cases hcreate : settings.createAssigner with
  | error f => exact ⟨_, resting_of_create_error hcreate⟩
  | ok a =>
      obtain ⟨-, -, ⟨-, hmode, range, hrange⟩ | ⟨hstatic, -⟩⟩ := Settings.of_createAssigner hcreate
      · obtain ⟨qs, r, hfind⟩ := repeatable_findPorts hdynamic hordered hprobe hcreate
        exact ⟨_, resting_course hcreate hmode hrange hfind huse w⟩
      · rw [hdynamic] at hstatic
        cases hstatic

/-- **Running again.** With dynamic ports, a finder that searches in ascending order and a probe with
fixed answers, all runs of the service on one configuration, each on what the one before it has left,
end as the first one does: with the same ports, or with the same fault. They ask the same questions
in the same order, and leave the server as the first one has left it, which is the server as it was
if that one has failed. What the service has to log must have a text. -/
theorem run_again (settings : Settings) (hdynamic : settings.useDynamic.isTrue = true)
    (huse : settings.useDynamic.writable = true)
    (hordered : ∀ finder, settings.createFinder = .ok finder → finder.strategy ≠ .random)
    (host : Host σ) (free : Nat → Bool) (hprobe : host.probe.Constant free) (s : Site σ)
    (hports : s.server.PortsWritable) :
    ∃ qs, ∀ n,
      ends (run settings host) (rerun settings host s n) = ends (run settings host) s ∧
      (rerun settings host s (n + 1)).server = (leaves (run settings host) s).server ∧
      (∃ es, (rerun settings host s (n + 1)).world.events.toList =
        (rerun settings host s n).world.events.toList ++ es ∧ asked es = qs) ∧
      ∀ f, ends (run settings host) s = .error f → (rerun settings host s n).server = s.server := by
  obtain ⟨course, hcourse⟩ := exists_resting hdynamic huse hordered hprobe s.world
  have hall := hcourse.rerun_takes s hports
  obtain ⟨hends, hserver, -⟩ : Takes settings host s (course s.server) := hall 0
  refine ⟨(course s.server).questions, fun n => ?_⟩
  obtain ⟨hends', hserver', hes⟩ := hall n
  refine ⟨hends'.trans hends.symm, hserver'.trans hserver.symm, hes, fun f hf => ?_⟩
  cases n with
  | zero => rfl
  | succ n =>
      rw [rerun, (hall n).2.1]
      exact hcourse.failed _ f (hends.symm.trans hf)

/-- Of the ports from one to four the first is busy, and every run finds the next two. -/
theorem run_again_first_busy :
    let settings : Settings :=
      { useSecure := .bool false, minPort := .int 1, maxPort := .int 4,
        finder := .text " Adjacent " }
    let free (port : Nat) : Bool := (port : Int) != 1
    let host : Host Unit := ⟨.answering fun port _ => (.ok (port != 1), ()), fun _ => 0⟩
    let s : Site Unit := ⟨Server.default, World.fresh ()⟩
    settings.useDynamic.isTrue = true ∧ settings.useDynamic.writable = true ∧
      (∀ finder, settings.createFinder = .ok finder → finder.strategy ≠ .random) ∧
      host.probe.Constant free ∧ s.server.PortsWritable ∧
      ∃ qs, ∀ n, ends (run settings host) (rerun settings host s n) = .ok ⟨.int 2, .int 3⟩ ∧
        ∃ es, (rerun settings host s (n + 1)).world.events.toList =
          (rerun settings host s n).world.events.toList ++ es ∧ asked es = qs := by
  intro settings free host s
  have hordered : ∀ finder, settings.createFinder = .ok finder → finder.strategy ≠ .random := by
    rintro finder ⟨⟩
    decide
  have hprobe : host.probe.Constant free := fun _ _ _ _ => rfl
  have hserver : s.server.PortsWritable := by
    intro role
    cases role with
    | application => exact List.forall_mem_singleton.mpr (Value.writable_port (p := 8080) (by decide))
    | admin => exact List.forall_mem_singleton.mpr (Value.writable_port (p := 8081) (by decide))
  have hfirst : ends (run settings host) s = .ok ⟨.int 2, .int 3⟩ := by
    refine run_of_assign_ok rfl rfl (fun role => ?_) rfl
    cases role with
    | application => exact List.forall_mem_singleton.mpr (Value.writable_port (p := 2) (by decide))
    | admin => exact List.forall_mem_singleton.mpr (Value.writable_port (p := 3) (by decide))
  refine ⟨rfl, rfl, hordered, hprobe, hserver, ?_⟩
  obtain ⟨qs, hall⟩ := run_again settings rfl rfl hordered host free hprobe s hserver
  refine ⟨qs, fun n => ?_⟩
  obtain ⟨hends, -, hes, -⟩ := hall n
  exact ⟨hends.trans hfirst, hes⟩

end Service

end ListenerPorts
