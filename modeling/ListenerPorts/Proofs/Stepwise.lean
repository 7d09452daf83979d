import ListenerPorts.Proofs.Running

set_option autoImplicit false

/-! # What every step of a search preserves

Whatever a search, an assignment or a run of the service does to a world is made of messages, draws
and questions to the probe. So a relation between worlds that holds of each of these, and of one
after the other, holds between the world in which such a run starts and the world that it leaves,
however it ends. There is one lemma for each loop and for each operation that is built of them.
-/

namespace ListenerPorts

variable {σ α β : Type}

open Run

/-- A relation that holds of all that a search may do to a world: nothing, one thing after the other,
a message, a draw, a question to the probe. -/
structure Stepwise (host : Host σ) (R : World σ → World σ → Prop) : Prop where
  refl : ∀ w, R w w
  trans : ∀ w w' w'', R w w' → R w' w'' → R w w''
  logged : ∀ w record, R w (w.record (.logged record))
  draws : ∀ stop, (host.draw stop).Moves R
  asks : ∀ port, (host.probe.isFree port).Moves R

namespace Stepwise

variable {host : Host σ} {R : World σ → World σ → Prop}

theorem bind (hR : Stepwise host R) {x : Run σ α} {k : α → Run σ β} (hx : x.Moves R)
    (hk : ∀ a, (k a).Moves R) : Moves (x >>= k) R :=
  Run.Moves.bind hR.trans hx hk

theorem lift (hR : Stepwise host R) (e : Except Fault α) : (Run.lift e : Run σ α).Moves R := by
  cases e <;> exact hR.refl

theorem requireTexts (hR : Stepwise host R) (shown : List Value) :
    (Run.requireTexts shown : Run σ Unit).Moves R := by
  unfold Run.requireTexts
  split <;> exact hR.refl

theorem log (hR : Stepwise host R) (logger : Logger) (level : Level) (message : String) :
    (Run.log logger level message : Run σ Unit).Moves R :=
  fun w => hR.logged w _

/-! ## Searches -/

theorem drawPort (hR : Stepwise host R) (range : PortRange) :
    (Search.drawPort host range).Moves R :=
  hR.bind (hR.draws _) fun _ => hR.refl

theorem drawFree (hR : Stepwise host R) (range : PortRange) (used : List Int) (attempts : Nat) :
    (Search.drawFree host range used attempts).Moves R := by
  induction attempts with
  | zero => exact hR.refl
  | succ attempts ih =>
      refine hR.bind (hR.drawPort range) fun port => ?_
      refine hR.bind (hR.log _ _ _) fun _ => hR.bind (hR.asks port) fun free => ?_
      split
      · exact hR.refl
      · exact ih

theorem randomPair (hR : Stepwise host R) (range : PortRange) :
    (Search.randomPair host range).Moves R :=
  hR.bind (hR.drawFree range _ _) fun _ => hR.bind (hR.drawFree range _ _) fun _ => hR.refl

theorem firstTwo (hR : Stepwise host R) (range : PortRange) (first : Option Nat)
    (ports : List Nat) : (Search.firstTwo host range first ports).Moves R := by
  induction ports generalizing first with
  | nil => exact hR.refl
  | cons port ports ih =>
      refine hR.bind (hR.asks port) fun free => ?_
      split
      · cases first with
        | none => exact ih _
        | some application => exact hR.refl
      · exact ih _

theorem firstNeighbours (hR : Stepwise host R) (range : PortRange) (ports : List Nat) :
    (Search.firstNeighbours host range ports).Moves R := by
  -- the search goes on behind the lower port, or behind both ports if the upper one is busy
  induction ports using Search.firstNeighbours.induct with
  | case1 port next ports ih ih' =>
      refine hR.bind (hR.asks port) fun free => ?_
      split
      · refine hR.bind (hR.asks next) fun free' => ?_
        split
        · exact hR.refl
        · exact hR.bind (hR.log _ _ _) fun _ => ih
      · exact ih'
  | case2 ports h =>
      unfold Search.firstNeighbours
      split
      · exact absurd rfl (h _ _ _)
      · exact hR.refl

theorem find (hR : Stepwise host R) (strategy : Strategy) (range? : Option PortRange) :
    (strategy.find host range?).Moves R := by
  cases range? with
  | none =>
      cases strategy with
      | random => exact hR.refl
      | incrementing | adjacent => exact hR.lift (fail .rangeRequired)
  | some range =>
      cases strategy with
      | random => exact hR.randomPair range
      | incrementing => exact hR.firstTwo range none _
      | adjacent => exact hR.firstNeighbours range _

/-! ## Assignments and runs of the service -/

theorem findFreePort (hR : Stepwise host R) (a : Assigner) (used : List Int) :
    (a.findFreePort host used).Moves R := by
  unfold Assigner.findFreePort
  cases a.range with
  | none => exact hR.refl
  | some range => exact hR.drawFree range used _

theorem findPorts (hR : Stepwise host R) (a : Assigner) : (a.findPorts host).Moves R := by
  unfold Assigner.findPorts
  split
  · exact hR.refl
  · exact hR.find _ _
  · exact hR.bind (hR.findFreePort a _) fun _ => hR.bind (hR.findFreePort a _) fun _ => hR.refl

theorem assign (hR : Stepwise host R) (a : Assigner) (s : Site σ) :
    R s.world (leaves (a.assign host) s).world := by
  cases hmode : a.mode with
  | static =>
      rw [leaves, Assigner.run_assign_static hmode]
      exact hR.logged _ _
  | dynamic =>
      have hopened : R s.world (a.opened s) := hR.logged _ _
      have hsearched := hR.trans _ _ _ hopened (hR.findPorts a (a.opened s))
      have houtcome := Assigner.assign_outcome hmode host s
      rw [leaves]
      -- whatever becomes of the ports, the world is the one in front of or behind the search
      cases hrun : (a.assign host).run s with
      | error f s' =>
          rw [hrun] at houtcome
          cases houtcome with
          | refused => exact hR.refl _
          | notFound _ hfind | notWritten _ hfind =>
              rw [leaves, hfind] at hsearched
              exact hsearched
      | ok ports s' =>
          rw [hrun] at houtcome
          cases houtcome with
          | assigned _ hfind =>
              rw [leaves, hfind] at hsearched
              exact hR.trans _ _ _ hsearched (hR.logged _ _)

theorem recordAll (hR : Stepwise host R) {es : List Event}
    (hlogged : ∀ e ∈ es, ∃ record, e = .logged record) (w : World σ) : R w (w.recordAll es) := by
  induction es generalizing w with
  | nil => exact hR.refl w
  | cons e es ih =>
      rw [List.forall_mem_cons] at hlogged
      obtain ⟨record, rfl⟩ := hlogged.1
      exact hR.trans _ _ _ (hR.logged w record) (ih hlogged.2 _)

/-- A look-up leaves messages. -/
theorem ports (hR : Stepwise host R) (server : Server) (role : Role) :
    (server.ports role).Moves R := by
  intro w
  obtain ⟨es, hlogged, hleaves⟩ := Server.leaves_ports server role w
  rw [hleaves]
  exact hR.recordAll hlogged w

theorem report (hR : Stepwise host R) (settings : Settings) (server : Server) :
    (Service.report settings server).Moves R := by
  refine hR.bind (hR.ports server _) fun _ => hR.bind (hR.requireTexts _) fun _ => ?_
  refine hR.bind (hR.ports server _) fun _ => hR.bind (hR.requireTexts _) fun _ => ?_
  exact hR.bind (hR.requireTexts _) fun _ => hR.log _ _ _

theorem run (hR : Stepwise host R) (settings : Settings) (s : Site σ) :
    R s.world (leaves (Service.run settings host) s).world := by
  have hstarted : R s.world (Service.started s).world := hR.logged _ _
  rw [leaves, Service.run_eq]
  cases settings.createAssigner with
  | error f => exact hstarted
  | ok a =>
      have hassigned := hR.trans _ _ _ hstarted (hR.assign a (Service.started s))
      rw [leaves] at hassigned
      dsimp only
      cases hassign : (a.assign host).run (Service.started s) with
      | error f t =>
          rw [hassign] at hassigned
          exact hassigned
      | ok ports t =>
          rw [hassign] at hassigned
          have hreported := hR.trans _ _ _ hassigned (hR.report settings t.server t.world)
          rw [leaves] at hreported
          dsimp only
          cases hreport : (Service.report settings t.server).run t.world with
          | error f w | ok u w =>
              rw [hreport] at hreported
              exact hreported

end Stepwise

end ListenerPorts
