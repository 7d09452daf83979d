import ListenerPorts.Proofs.Recording
import ListenerPorts.Server.Ports

set_option autoImplicit false

/-! # Looking up the ports of a server

Of several connectors of one scheme, the last one counts. A look-up takes the connectors in order,
and each connector that has others of its scheme in front of it takes the place of the nearest of
them, which is logged. So a look-up does two things, one after the other: it warns of all
connectors that are passed over (`discards`), and it lists the last connector of each scheme
(`listed`). The first of these is all that can fail: a warning shows two ports, and a number with too
many digits cannot be shown (`lookup_unwordable`). The invariant behind this says what is known when a
part of the connectors has been taken: the last connector of each scheme in that part.
-/

namespace ListenerPorts

variable {σ : Type}

open Run

namespace Server

/-! ## The last connector of each scheme -/

/-- The last connector of a scheme. -/
def lastOf (cs : List Connector) (scheme : Scheme) : Option Connector :=
  (cs.filter fun c => c.scheme = scheme).getLast?

/-- A connector counts unless a later one has its scheme. -/
theorem lastOf_cons (c : Connector) (cs : List Connector) (scheme : Scheme) :
    lastOf (c :: cs) scheme =
      (lastOf cs scheme).or (if c.scheme = scheme then some c else none) := by
  unfold lastOf
  by_cases h : c.scheme = scheme
  · rw [List.filter_cons_of_pos (by simpa using h), if_pos h, List.getLast?_cons]
    cases (cs.filter fun c => c.scheme = scheme).getLast? <;> rfl
  · rw [List.filter_cons_of_neg (by simpa using h), if_neg h, Option.or_none]

/-- A connector behind all others counts. -/
theorem lastOf_concat (cs : List Connector) (c : Connector) (scheme : Scheme) :
    lastOf (cs ++ [c]) scheme = if c.scheme = scheme then some c else lastOf cs scheme := by
  unfold lastOf
  rw [List.filter_append]
  by_cases h : c.scheme = scheme
  · rw [List.filter_cons_of_pos (by simpa using h), if_pos h]
    exact List.getLast?_concat
  · rw [List.filter_cons_of_neg (by simpa using h), if_neg h, List.filter_nil, List.append_nil]

theorem lastOf_eq_none_iff {cs : List Connector} {scheme : Scheme} :
    lastOf cs scheme = none ↔ ∀ c ∈ cs, c.scheme ≠ scheme := by
  simp [lastOf]

/-- The last connector of a scheme has that scheme, and no connector behind it does. -/
theorem lastOf_eq_some_iff {cs : List Connector} {scheme : Scheme} {c : Connector} :
    lastOf cs scheme = some c ↔ ∃ front behind, cs = front ++ c :: behind ∧ c.scheme = scheme ∧
      ∀ d ∈ behind, d.scheme ≠ scheme := by
  constructor
  · intro h
    induction cs with
    | nil => cases h
    | cons d cs ih =>
        rw [lastOf_cons] at h
        cases hlater : lastOf cs scheme with
        | some e =>
            -- the last one lies behind the first, and the first goes to the front
            rw [hlater] at h ih
            obtain ⟨front, behind, hcs, hc⟩ := ih h
            exact ⟨d :: front, behind, by rw [hcs, List.cons_append], hc⟩
        | none =>
            rw [hlater, Option.none_or] at h
            split at h
            · rename_i hd
              obtain rfl := Option.some.inj h
              exact ⟨[], cs, rfl, hd, lastOf_eq_none_iff.mp hlater⟩
            · cases h
  · rintro ⟨front, behind, rfl, hc, hbehind⟩
    induction front with
    | nil =>
        rw [List.nil_append, lastOf_cons, lastOf_eq_none_iff.mpr hbehind, if_pos hc]
        rfl
    | cons d front ih =>
        rw [List.cons_append, lastOf_cons, ih]
        rfl

theorem mem_of_lastOf {cs : List Connector} {scheme : Scheme} {c : Connector}
    (h : lastOf cs scheme = some c) : c ∈ cs := by
  obtain ⟨front, behind, rfl, -⟩ := lastOf_eq_some_iff.mp h
  simp

/-- The ports of a role, one for the last connector of each scheme. -/
def listed (server : Server) (role : Role) : List Port :=
  [Scheme.http, .https].filterMap fun scheme =>
    (lastOf (server.get role) scheme).map fun c => ⟨c.port, role, .ofScheme scheme⟩

theorem mem_listed {server : Server} {role : Role} {scheme : Scheme} {c : Connector}
    (h : lastOf (server.get role) scheme = some c) :
    ⟨c.port, role, .ofScheme scheme⟩ ∈ server.listed role := by
  refine List.mem_filterMap.mpr ⟨scheme, ?_, ?_⟩
  · cases scheme <;> simp
  · rw [h]
    rfl

/-! ## Connectors that are passed over -/

/-- A connector that is passed over, and the one of its scheme that is taken in its place. -/
structure Discard where
  kept : Connector
  discarded : Connector

/-- What is passed over for the connector at a place: the nearest one of its scheme in front of
it. -/
def discardAt? (cs : List Connector) (i : Nat) : Option Discard :=
  cs[i]?.bind fun kept => (lastOf (cs.take i) kept.scheme).map fun discarded => ⟨kept, discarded⟩

/-- All that is passed over, in the order of the connectors that are taken instead. -/
def discards (cs : List Connector) : List Discard := (List.range cs.length).filterMap (discardAt? cs)

/-- For a connector behind all others, the last one of its scheme is passed over. -/
theorem discards_concat (cs : List Connector) (c : Connector) :
    discards (cs ++ [c]) =
      discards cs ++ ((lastOf cs c.scheme).map fun discarded => Discard.mk c discarded).toList := by
  have hfront : ∀ i ∈ List.range cs.length, discardAt? (cs ++ [c]) i = discardAt? cs i := by
    intro i hi
    have hlt : i < cs.length := List.mem_range.mp hi
    unfold discardAt?
    rw [List.getElem?_append_left hlt, List.take_append_of_le_length (by omega)]
  have hlast : discardAt? (cs ++ [c]) cs.length =
      (lastOf cs c.scheme).map fun discarded => Discard.mk c discarded := by
    unfold discardAt?
    rw [List.getElem?_concat_length, List.take_left]
    rfl
  unfold discards
  rw [List.length_append, List.length_singleton, List.range_succ, List.filterMap_append,
    List.filterMap_congr hfront, List.filterMap_cons, hlast]
  cases lastOf cs c.scheme <;> rfl

/-- As many connectors are passed over as there are more connectors than schemes among them. -/
theorem length_discards (cs : List Connector) :
    (discards cs).length + (cs.map Connector.scheme).toFinset.card = cs.length := by
  induction cs using List.reverseRecOn with
  | nil => rfl
  | append_singleton cs c ih =>
      have hschemes : ((cs ++ [c]).map Connector.scheme).toFinset =
          insert c.scheme (cs.map Connector.scheme).toFinset := by
        ext scheme
        simp
      rw [discards_concat, hschemes, List.length_append, List.length_append, List.length_singleton]
      cases hlast : lastOf cs c.scheme with
      | none =>
          -- the scheme is a new one
          have hnew : c.scheme ∉ (cs.map Connector.scheme).toFinset := by
            simpa using lastOf_eq_none_iff.mp hlast
          rw [Finset.card_insert_of_notMem hnew]
          simp only [Option.map_none, Option.toList_none, List.length_nil]
          omega
      | some d =>
          have hold : c.scheme ∈ (cs.map Connector.scheme).toFinset := by
            obtain ⟨front, behind, hcs, hd, -⟩ := lastOf_eq_some_iff.mp hlast
            simp [hcs, hd]
          rw [Finset.insert_eq_of_mem hold]
          simp only [Option.map_some, Option.toList_some, List.length_singleton]
          omega

theorem mem_of_mem_discards {cs : List Connector} {d : Discard} (h : d ∈ discards cs) :
    d.kept ∈ cs ∧ d.discarded ∈ cs := by
  obtain ⟨i, -, hi⟩ := List.mem_filterMap.mp h
  obtain ⟨kept, hkept, hd⟩ := Option.bind_eq_some_iff.mp hi
  obtain ⟨discarded, hlast, rfl⟩ := Option.map_eq_some_iff.mp hd
  exact ⟨List.mem_of_getElem? hkept, List.mem_of_mem_take (mem_of_lastOf hlast)⟩

/-! ## Warnings -/

namespace Discard

def shown (d : Discard) : List Value := [d.kept.port, d.discarded.port]

def wordable (d : Discard) : Bool := d.shown.all Value.writable

/-- The warning about a connector that is passed over. -/
def warning (d : Discard) : Event :=
  .logged ⟨.connectors, .warning, ByScheme.discardMessage d.kept d.discarded⟩

end Discard

/-- Leaves the warnings one after the other, as long as they can be worded. -/
def warn : List Discard → Run σ Unit
  | [] => return ()
  | d :: ds => do
    requireTexts d.shown
    emit d.warning
    warn ds

theorem warn_append (ds ds' : List Discard) :
    (warn (ds ++ ds') : Run σ Unit) = warn ds >>= fun _ => warn ds' := by
  induction ds with
  | nil => rfl
  | cons d ds ih => simp only [List.cons_append, warn, ih, bind_assoc]

/-- What comes of warnings that stand in front of a result: the result if all of them can be worded,
and otherwise a failure at the first that cannot. -/
def shows {α : Type} (ds : List Discard) (found : α) (w : World σ) :
    EStateM.Result Fault (World σ) α :=
  if ds.all Discard.wordable then .ok found (w.recordAll (ds.map Discard.warning))
  else .error .tooManyDigits (w.recordAll ((ds.takeWhile Discard.wordable).map Discard.warning))

theorem run_warn (ds : List Discard) (w : World σ) : (warn ds).run w = shows ds () w := by
  induction ds generalizing w with
  | nil => rfl
  | cons d ds ih =>
      unfold warn requireTexts shows
      rw [List.all_cons, List.takeWhile_cons]
      cases hd : d.wordable with
      | false =>
          rw [if_neg (by rw [← Discard.wordable, hd]; exact Bool.false_ne_true)]
          rfl
      | true =>
          rw [if_pos (show d.shown.all Value.writable = true from hd), Bool.true_and]
          exact ih (w.record d.warning)

theorem run_warn_pure {α : Type} (ds : List Discard) (found : α) (w : World σ) :
    (warn ds >>= fun _ => pure found : Run σ α).run w = shows ds found w := by
  rw [EStateM.run_bind, run_warn]
  unfold shows
  cases ds.all Discard.wordable <;> rfl

/-! ## Taking the connectors in order -/

end Server

namespace ByScheme

open Server

/-- What is known of connectors that were taken: the last one of each scheme. -/
def ofList (cs : List Connector) : ByScheme := ⟨lastOf cs .http, lastOf cs .https⟩

theorem get_ofList (cs : List Connector) (scheme : Scheme) :
    (ofList cs).get scheme = lastOf cs scheme := by
  cases scheme <;> rfl

theorem put_ofList (cs : List Connector) (c : Connector) :
    (ofList cs).put c = ofList (cs ++ [c]) := by
  unfold ofList put
  rw [lastOf_concat, lastOf_concat]
  cases c.scheme <;> rfl

/-- A connector that is taken replaces the one of its scheme, with a warning if there is one. -/
theorem collect_cons (s : ByScheme) (c : Connector) (cs : List Connector) :
    (collect s (c :: cs) : Run σ ByScheme) =
      warn ((s.get c.scheme).map fun discarded => Discard.mk c discarded).toList >>= fun _ =>
        collect (s.put c) cs := by
  rw [collect]
  cases s.get c.scheme with
  | none => rfl
  | some d =>
      simp only [Option.map_some, Option.toList_some, warn, bind_assoc, pure_bind]
      rfl

theorem collect_append (s : ByScheme) (cs ds : List Connector) :
    (collect s (cs ++ ds) : Run σ ByScheme) = collect s cs >>= fun t => collect t ds := by
  induction cs generalizing s with
  | nil => rfl
  | cons c cs ih => simp only [List.cons_append, collect_cons, ih, bind_assoc]

/-- Connectors that are taken in order leave the last one of each scheme, with a warning for every
one that is passed over. -/
theorem collect_eq (cs : List Connector) :
    (collect .empty cs : Run σ ByScheme) = do
      warn (discards cs)
      return ofList cs := by
  -- the invariant is about the part that was taken, so the next connector comes in at the end
  induction cs using List.reverseRecOn with
  | nil => rfl
  | append_singleton cs c ih =>
      rw [collect_append, ih, discards_concat, warn_append]
      simp only [bind_assoc, pure_bind, collect_cons, get_ofList, put_ofList]
      rfl

end ByScheme

namespace Server

/-- A look-up warns of what is passed over and lists the rest. -/
theorem ports_eq (server : Server) (role : Role) :
    (server.ports role : Run σ (List Port)) = do
      warn (discards (server.get role))
      return server.listed role := by
  unfold Server.ports
  rw [ByScheme.collect_eq]
  simp only [bind_assoc, pure_bind, ByScheme.get_ofList]
  rfl

/-! ## Look-ups -/

theorem run_ports (server : Server) (role : Role) (w : World σ) :
    (server.ports role).run w = shows (discards (server.get role)) (server.listed role) w := by
  rw [ports_eq]
  exact run_warn_pure _ _ w

/-- A look-up is the same in every world: what it ends with, and what it leaves. -/
theorem steady_ports (server : Server) (role : Role) :
    (server.ports role : Run σ (List Port)).Steady := by
  cases hall : (discards (server.get role)).all Discard.wordable with
  | true =>
      refine ⟨(discards (server.get role)).map Discard.warning, .ok (server.listed role), fun w => ?_⟩
      rw [ends, leaves, run_ports, shows, hall]
      exact ⟨rfl, rfl⟩
  | false =>
      refine ⟨((discards (server.get role)).takeWhile Discard.wordable).map Discard.warning,
        .error .tooManyDigits, fun w => ?_⟩
      rw [ends, leaves, run_ports, shows, hall]
      exact ⟨rfl, rfl⟩

/-- A look-up leaves nothing but messages. -/
theorem leaves_ports (server : Server) (role : Role) (w : World σ) :
    ∃ es, (∀ e ∈ es, ∃ record, e = .logged record) ∧
      leaves (server.ports role) w = w.recordAll es := by
  have hlogged : ∀ ds : List Discard, ∀ e ∈ ds.map Discard.warning, ∃ record, e = .logged record := by
    intro ds e he
    obtain ⟨d, -, rfl⟩ := List.mem_map.mp he
    exact ⟨_, rfl⟩
  rw [leaves, run_ports, shows]
  cases (discards (server.get role)).all Discard.wordable <;> exact ⟨_, hlogged _, rfl⟩

/-- A look-up lists the ports if all warnings can be worded, and fails otherwise. -/
theorem ends_ports (server : Server) (role : Role) (w : World σ) :
    ends (server.ports role) w =
      if (discards (server.get role)).all Discard.wordable then .ok (server.listed role)
      else .error .tooManyDigits := by
  rw [ends, run_ports, shows]
  cases (discards (server.get role)).all Discard.wordable <;> rfl

theorem meets_ports (server : Server) (role : Role) :
    (server.ports role : Run σ (List Port)).Meets fun es r =>
      (∀ e ∈ es, ∃ record, e = .logged record) ∧
        r = if (discards (server.get role)).all Discard.wordable then .ok (server.listed role)
          else .error .tooManyDigits := by
  intro w
  obtain ⟨es, hlogged, hleaves⟩ := leaves_ports server role w
  rw [hleaves]
  exact ⟨es, (World.of_recordAll w es).1, hlogged, ends_ports server role w⟩

/-- All warnings can be worded if all ports have a text. -/
theorem wordable_of_writable {cs : List Connector} (h : ∀ c ∈ cs, c.port.writable = true) :
    (discards cs).all Discard.wordable = true := by
  refine List.all_eq_true.mpr fun d hd => ?_
  obtain ⟨hkept, hdiscarded⟩ := mem_of_mem_discards hd
  simp [Discard.wordable, Discard.shown, h _ hkept, h _ hdiscarded]

/-- The ports of both roles are looked up as if their connectors stood in one list, less that
connectors of different roles are not passed over for each other. -/
theorem run_allPorts (server : Server) (w : World σ) :
    server.allPorts.run w =
      shows (discards server.application ++ discards server.admin)
        (server.listed .application ++ server.listed .admin) w := by
  have hboth : (server.allPorts : Run σ (List Port)) =
      warn (discards server.application ++ discards server.admin) >>= fun _ =>
        pure (server.listed .application ++ server.listed .admin) := by
    unfold Server.allPorts
    rw [ports_eq, ports_eq, warn_append]
    simp only [bind_assoc, pure_bind]
    rfl
  rw [hboth]
  exact run_warn_pure _ _ w

/-- There is one port at most for each scheme, the plain one first. -/
theorem listed_eq (server : Server) (role : Role) :
    server.listed role =
      ((lastOf (server.get role) .http).map fun c => Port.mk c.port role .notSecure).toList ++
        ((lastOf (server.get role) .https).map fun c => Port.mk c.port role .secure).toList := by
  unfold listed
  cases hhttp : lastOf (server.get role) .http <;>
    cases hhttps : lastOf (server.get role) .https <;>
    simp [hhttp, hhttps, PortSecurity.ofScheme]

/-- If all connectors share one scheme, the last of them all counts and none of another scheme. -/
theorem lastOf_of_shared {front : List Connector} {c : Connector}
    (h : ∀ d ∈ front, d.scheme = c.scheme) (scheme : Scheme) :
    lastOf (front ++ [c]) scheme = if c.scheme = scheme then some c else none := by
  rw [lastOf_concat]
  split
  · rfl
  · rename_i hother
    refine lastOf_eq_none_iff.mpr fun d hd hsame => hother ?_
    rw [← h d hd, hsame]

/-- A single port is listed just when there is a last connector and all others share its scheme. -/
theorem listed_eq_singleton_iff {server : Server} {role : Role} {port : Port} :
    server.listed role = [port] ↔ ∃ front c, server.get role = front ++ [c] ∧
      (∀ d ∈ front, d.scheme = c.scheme) ∧ port = ⟨c.port, role, .ofScheme c.scheme⟩ := by
  constructor
  · intro h
    rcases List.eq_nil_or_concat (server.get role) with hnil | ⟨front, c, hcs⟩
    · unfold listed at h
      rw [hnil] at h
      cases h
    · have hshared : ∀ d ∈ front, d.scheme = c.scheme := by
        intro d hd
        by_contra hother
        -- two schemes would make two ports
        obtain ⟨e, he⟩ : ∃ e, lastOf front d.scheme = some e := by
          rw [← Option.ne_none_iff_exists']
          exact fun hnone => lastOf_eq_none_iff.mp hnone d hd rfl
        have hlength : (server.listed role).length = 2 := by
          rw [listed_eq, hcs, List.concat_eq_append, lastOf_concat, lastOf_concat]
          cases hc : c.scheme <;> cases hs : d.scheme <;> simp_all
        rw [h] at hlength
        cases hlength
      refine ⟨front, c, by rw [hcs, List.concat_eq_append], hshared, ?_⟩
      unfold listed at h
      rw [hcs, List.concat_eq_append] at h
      simp only [lastOf_of_shared hshared] at h
      cases hc : c.scheme <;> simp_all
  · rintro ⟨front, c, hcs, hshared, rfl⟩
    unfold listed
    simp only [hcs, lastOf_of_shared hshared]
    cases hc : c.scheme <;> simp

/-- A single port is looked up as all ports are, and told apart from several only then. -/
theorem run_onlyPort (server : Server) (role : Role) (w : World σ) :
    leaves (server.onlyPort role) w = leaves (server.ports role) w ∧
      ∀ port, ends (server.onlyPort role) w = .ok port ↔
        ends (server.ports role) w = .ok [port] := by
  unfold Server.onlyPort leaves ends
  rw [EStateM.run_bind]
  cases (server.ports role).run w with
  | error f w' => exact ⟨rfl, fun port => ⟨(nomatch ·), (nomatch ·)⟩⟩
  | ok ports w' =>
      match ports with
      | [found] => exact ⟨rfl, fun port => ⟨fun h => by cases h; rfl, fun h => by cases h; rfl⟩⟩
      | [] | _ :: _ :: _ => exact ⟨rfl, fun port => ⟨(nomatch ·), (nomatch ·)⟩⟩

/-- **Look-ups.** A role has one port at most for each scheme, the plain one and then the encrypted
one: the port of the last connector of the scheme. Every connector that has another of its scheme in
front of it takes the place of the nearest of these, and the look-up warns of that in the order of
the connectors, as many times as there are more connectors than schemes. It fails only if a warning
has to show a number with too many digits, and has left the warnings in front of that one then. The
ports of both roles are those of the application and then those of the administration, with their
warnings in this order. A single port is looked up just when there is a last connector and all others
share its scheme, and then it is the port of that connector. -/
theorem lookup_keeps_last (server : Server) (role : Role) (w : World σ) :
    (server.ports role).run w = shows (discards (server.get role)) (server.listed role) w ∧
    server.listed role =
      ((lastOf (server.get role) .http).map fun c => Port.mk c.port role .notSecure).toList ++
        ((lastOf (server.get role) .https).map fun c => Port.mk c.port role .secure).toList ∧
    (∀ scheme c, lastOf (server.get role) scheme = some c ↔
      ∃ front behind, server.get role = front ++ c :: behind ∧ c.scheme = scheme ∧
        ∀ d ∈ behind, d.scheme ≠ scheme) ∧
    (discards (server.get role)).length =
      (server.get role).length - ((server.get role).map Connector.scheme).toFinset.card ∧
    server.allPorts.run w =
      shows (discards server.application ++ discards server.admin)
        (server.listed .application ++ server.listed .admin) w ∧
    leaves (server.onlyPort role) w = leaves (server.ports role) w ∧
    ∀ port, ends (server.onlyPort role) w = .ok port ↔
      (discards (server.get role)).all Discard.wordable = true ∧
      ∃ front c, server.get role = front ++ [c] ∧ (∀ d ∈ front, d.scheme = c.scheme) ∧
        port = ⟨c.port, role, .ofScheme c.scheme⟩ := by
  obtain ⟨hleaves, honly⟩ := run_onlyPort server role w
  have hcount := length_discards (server.get role)
  refine ⟨run_ports server role w, listed_eq server role, fun scheme c => lastOf_eq_some_iff,
    by omega, run_allPorts server w, hleaves, fun port => ?_⟩
  rw [honly, ← listed_eq_singleton_iff, ends, run_ports]
  unfold shows
  cases (discards (server.get role)).all Discard.wordable <;> simp

/-- Of three plain connectors the last one counts, but a number with too many digits in between
cannot be shown in a warning. -/
theorem lookup_unwordable :
    let plain (port : Int) : Connector := .http (Connector.freshListener (.int port))
    let server : Server := ⟨[plain 1, plain (Nat.pow 10 Numeral.maxDigits : Nat), plain 2], []⟩
    lastOf (server.get .application) .http = some (plain 2) ∧
      ends (server.ports .application) (World.fresh ()) = .error .tooManyDigits := by
  intro plain server
  have hdiscards : discards (server.get .application) =
      [⟨plain (Nat.pow 10 Numeral.maxDigits : Nat), plain 1⟩,
        ⟨plain 2, plain (Nat.pow 10 Numeral.maxDigits : Nat)⟩] := rfl
  have hunwordable : (discards (server.get .application)).all Discard.wordable = false := by
    rw [hdiscards, List.all_cons, Discard.wordable, Discard.shown, List.all_cons]
    show (((Value.int _).writable && _) && _) = false
    rw [Value.unwritable_pow]
    rfl
  refine ⟨rfl, ?_⟩
  rw [ends, run_ports, shows, hunwordable]
  rfl

end Server

end ListenerPorts
