import ListenerPorts.Proofs.Printing
import ListenerPorts.Proofs.Rereading
import ListenerPorts.Proofs.SchemeNames
import ListenerPorts.Proofs.Validating
import Std.Data.String.ToInt

set_option autoImplicit false

/-! # Reports on probed ports

A request to probe ports asks about every port that is listed, and about a port that is listed twice
it asks twice. The report has each port once, where it was listed first, with what was answered
last. `Reports` relates a report to the questions; setting one more answer keeps the relation with
one more question, so by induction it holds of all of them. Both forms of the report are made of it
after the last question, and the JSON form can be read back, since different numbers have different
texts.

Numbers that are no ports are listed in an error instead, but a number with too many digits cannot be
listed (`execute_unwordable_port`). None of the words of a command line stands for such a number.
-/

namespace ListenerPorts

variable {σ : Type}

open Run

/-! ## Answers that are set -/

/-- A port that has an answer keeps its place, a new one goes to the end. -/
theorem map_fst_setAnswer (answers : List (Int × Bool)) (port : Int) (free : Bool) :
    (setAnswer answers port free).map Prod.fst =
      if port ∈ answers.map Prod.fst then answers.map Prod.fst
      else answers.map Prod.fst ++ [port] := by
  induction answers with
  | nil => rfl
  | cons a answers ih =>
      obtain ⟨p, b⟩ := a
      rw [setAnswer, List.map_cons]
      by_cases hp : p = port
      · rw [if_pos hp, if_pos (by simp [hp])]
        rfl
      · have hmem : (port ∈ p :: answers.map Prod.fst) ↔ port ∈ answers.map Prod.fst := by
          rw [List.mem_cons, or_iff_right (Ne.symm hp)]
        rw [if_neg hp, List.map_cons, ih]
        simp only [hmem]
        split <;> rfl

/-- The answer about one port changes, those about other ports stay. -/
theorem mem_setAnswer {answers : List (Int × Bool)} (hdistinct : (answers.map Prod.fst).Nodup)
    {port p : Int} {free b : Bool} (h : (p, b) ∈ setAnswer answers port free) :
    (p = port ∧ b = free) ∨ (p ≠ port ∧ (p, b) ∈ answers) := by
  induction answers with
  | nil =>
      obtain ⟨rfl, rfl⟩ := Prod.mk.inj (List.mem_singleton.mp h)
      exact Or.inl ⟨rfl, rfl⟩
  | cons a answers ih =>
      obtain ⟨q, c⟩ := a
      obtain ⟨hq, hrest⟩ := List.nodup_cons.mp hdistinct
      rw [setAnswer] at h
      by_cases hsame : q = port
      · rw [if_pos hsame, List.mem_cons] at h
        rcases h with h | h
        · obtain ⟨rfl, rfl⟩ := Prod.mk.inj h
          exact Or.inl ⟨hsame, rfl⟩
        · -- the port is not answered about twice
          have hp : p ∈ answers.map Prod.fst := List.mem_map.mpr ⟨(p, b), h, rfl⟩
          refine Or.inr ⟨fun heq => hq ?_, List.mem_cons_of_mem _ h⟩
          rw [hsame, ← heq]
          exact hp
      · rw [if_neg hsame, List.mem_cons] at h
        rcases h with h | h
        · obtain ⟨rfl, rfl⟩ := Prod.mk.inj h
          exact Or.inr ⟨hsame, List.mem_cons_self⟩
        · rcases ih hrest h with hset | ⟨hother, hold⟩
          · exact Or.inl hset
          · exact Or.inr ⟨hother, List.mem_cons_of_mem _ hold⟩

/-- A report on the answers to questions: each port once, in the order in which the ports were first
asked about, with the answer to the last question about it. -/
structure Reports (qs : List Question) (answers : List (Int × Bool)) : Prop where
  ports : ∀ port, port ∈ answers.map Prod.fst ↔ port ∈ qs.map Question.port
  order : (answers.map Prod.fst).Pairwise fun p p' =>
    (qs.map Question.port).idxOf p < (qs.map Question.port).idxOf p'
  latest : ∀ port free, (port, free) ∈ answers → ∃ front behind,
    qs = front ++ ⟨port, some free⟩ :: behind ∧ ∀ q ∈ behind, q.port ≠ port

namespace Reports

theorem nil : Reports [] [] where
  ports := fun _ => Iff.rfl
  order := .nil
  latest := fun _ _ h => absurd h List.not_mem_nil

variable {qs : List Question} {answers : List (Int × Bool)}

theorem distinct (h : Reports qs answers) : (answers.map Prod.fst).Nodup := by
  refine h.order.imp fun hlt heq => ?_
  rw [heq] at hlt
  exact absurd hlt (lt_irrefl _)

/-- With one more question, the ports stay in the order in which they were first asked about: a new
port was not asked about before, so its place is behind all others. -/
theorem order_setAnswer (h : Reports qs answers) (port : Int) (free : Bool) :
    ((setAnswer answers port free).map Prod.fst).Pairwise fun p p' =>
      (qs.map Question.port ++ [port]).idxOf p < (qs.map Question.port ++ [port]).idxOf p' := by
  have hold : ∀ p ∈ answers.map Prod.fst,
      (qs.map Question.port ++ [port]).idxOf p = (qs.map Question.port).idxOf p :=
    fun p hp => List.idxOf_append_of_mem ((h.ports p).mp hp)
  have horder : (answers.map Prod.fst).Pairwise fun p p' =>
      (qs.map Question.port ++ [port]).idxOf p < (qs.map Question.port ++ [port]).idxOf p' := by
    refine h.order.imp_of_mem fun hp hp' hlt => ?_
    rw [hold _ hp, hold _ hp']
    exact hlt
  rw [map_fst_setAnswer]
  by_cases hport : port ∈ answers.map Prod.fst
  · rw [if_pos hport]
    exact horder
  · rw [if_neg hport]
    refine List.pairwise_append.mpr ⟨horder, List.pairwise_singleton _ _, ?_⟩
    intro p hp p' hp'
    have hplace : (qs.map Question.port).idxOf p < (qs.map Question.port).length :=
      List.idxOf_lt_length_iff.mpr ((h.ports p).mp hp)
    have hend : (qs.map Question.port ++ [port]).idxOf port = (qs.map Question.port).length := by
      rw [List.idxOf_append_of_notMem (mt (h.ports port).mpr hport), List.idxOf_cons_self]
      rfl
    rw [List.mem_singleton.mp hp', hold p hp, hend]
    exact hplace

/-- One more question, and its answer is set. -/
theorem concat (h : Reports qs answers) (port : Int) (free : Bool) :
    Reports (qs ++ [⟨port, some free⟩]) (setAnswer answers port free) := by
  have hports : (qs ++ [Question.mk port (some free)]).map Question.port =
      qs.map Question.port ++ [port] := List.map_append
  constructor
  · intro p
    rw [map_fst_setAnswer, hports, List.mem_append, List.mem_singleton, ← h.ports]
    by_cases hport : port ∈ answers.map Prod.fst
    · rw [if_pos hport]
      refine ⟨Or.inl, ?_⟩
      rintro (hp | rfl)
      · exact hp
      · exact hport
    · rw [if_neg hport, List.mem_append, List.mem_singleton]
  · rw [hports]
    exact h.order_setAnswer port free
  · intro p b hmem
    rcases mem_setAnswer h.distinct hmem with ⟨rfl, rfl⟩ | ⟨hother, hbefore⟩
    · exact ⟨qs, [], rfl, List.forall_mem_nil _⟩
    · obtain ⟨front, behind, hqs, hlast⟩ := h.latest p b hbefore
      refine ⟨front, behind ++ [⟨port, some free⟩], ?_, ?_⟩
      · rw [hqs, List.append_assoc, List.cons_append]
      · refine List.forall_mem_append.mpr ⟨hlast, List.forall_mem_singleton.mpr ?_⟩
        exact Ne.symm hother

end Reports

/-! ## Asking about listed ports -/

/-- A probe that answers about all the ports is asked about each of them in turn. -/
theorem meets_probeInto {probe : Probe σ} {ports : List Int}
    (hanswers : ∀ port ∈ ports, ∀ f, ¬ probe.MayEnd port (.error f)) {qs : List Question}
    {answers : List (Int × Bool)} (h : Reports qs answers) :
    (probeInto probe answers ports).Meets fun es r =>
      (asked es).map Question.port = ports ∧
        ∃ answers', r = .ok answers' ∧ Reports (qs ++ asked es) answers' := by
  induction ports generalizing qs answers with
  | nil =>
      refine (meets_pure answers).weaken ?_
      rintro es r ⟨rfl, rfl⟩
      refine ⟨rfl, answers, rfl, ?_⟩
      rw [asked_nil, List.append_nil]
      exact h
  | cons port ports ih =>
      obtain ⟨hport, hports⟩ := List.forall_mem_cons.mp hanswers
      refine (Probe.meets_isFree probe port).bind ?_ ?_
      · rintro es f ⟨-, -, hmay⟩
        exact absurd hmay (hport f)
      · rintro es free ⟨hasked, -, -⟩
        refine (ih hports (h.concat port free)).weaken ?_
        rintro es' r ⟨hrest, answers', hr, hreports⟩
        have hqs : asked (es ++ es') = ⟨port, some free⟩ :: asked es' := by
          rw [asked_append, hasked]
          rfl
        refine ⟨?_, answers', hr, ?_⟩
        · rw [hqs, List.map_cons, hrest]
        · rw [hqs]
          rw [List.append_assoc] at hreports
          exact hreports

theorem mute_probeInto (probe : Probe σ) (answers : List (Int × Bool)) (ports : List Int) :
    (probeInto probe answers ports).Mute := by
  induction ports generalizing answers with
  | nil => exact adds_pure _
  | cons port ports ih => exact Adds.bind (mute_isFree probe port) fun free => ih _

/-! ## Texts of numbers -/

/-- The text of a number is made of digits, with a sign in front if it is negative. -/
theorem bare_of_mem_toString {n : Int} {c : Char} (h : c ∈ (toString n).toList) :
    Json.IsBare c := by
  have hdigit : ∀ m : Nat, ∀ c ∈ (toString m).toList, Json.IsBare c := by
    intro m c hc
    have hdigit : c.isDigit = true := Text.isDigit_of_mem_toString hc
    have hrange : 48 ≤ c.toNat ∧ c.toNat ≤ 57 := by
      simpa [Char.isDigit, UInt32.le_iff_toNat_le] using hdigit
    refine ⟨by omega, by omega, ?_, ?_⟩ <;>
    · rintro rfl
      exact absurd hrange (by decide)
  rw [Int.toString_eq_repr, Int.repr_eq_if] at h
  split at h
  · exact hdigit _ c h
  · rw [String.toList_append, List.mem_append] at h
    rcases h with hsign | hdigits
    · rw [List.mem_singleton.mp hsign]
      exact ⟨by decide, by decide, by decide, by decide⟩
    · exact hdigit _ c hdigits

/-- Different numbers have different texts, so different ports have different names. -/
theorem nodup_names {answers : List (Int × Bool)} (h : (answers.map Prod.fst).Nodup) :
    (answers.map fun a => toString a.1).Nodup := by
  have hinjective : Function.Injective fun n : Int => toString n :=
    fun _ _ heq => Int.repr_injective heq
  have hnames : (answers.map fun a => toString a.1) =
      (answers.map Prod.fst).map fun n => toString n := by
    rw [List.map_map]
    rfl
  rw [hnames]
  exact h.map hinjective

/-! ## Numbers that are read have a text -/

namespace Numeral

theorem lt_of_mem_digits? {base : Nat} {cs : List Char} {ds : List Nat}
    (h : digits? base cs = some ds) : ∀ d ∈ ds, d < base := by
  have hdigit : ∀ {c : Char} {d : Nat}, digit? base c = some d → d < base := by
    intro c d hd
    exact of_decide_eq_true (Option.filter_eq_some_iff.mp hd).2
  fun_induction digits? base cs generalizing ds with
  | case1 => cases h
  | case2 c =>
      obtain ⟨d, hd, rfl⟩ := Option.map_eq_some_iff.mp h
      exact List.forall_mem_singleton.mpr (hdigit hd)
  | case3 c cs ih =>
      obtain ⟨d, hd, h⟩ := Option.bind_eq_some_iff.mp h
      obtain ⟨ds', hds, ⟨⟩⟩ := Option.bind_eq_some_iff.mp h
      exact List.forall_mem_cons.mpr ⟨hdigit hd, ih hds⟩
  | case4 c cs _ _ ih =>
      obtain ⟨d, hd, h⟩ := Option.bind_eq_some_iff.mp h
      obtain ⟨ds', hds, ⟨⟩⟩ := Option.bind_eq_some_iff.mp h
      exact List.forall_mem_cons.mpr ⟨hdigit hd, ih hds⟩

theorem ofDigits_lt {base : Nat} (hbase : 1 < base) {ds : List Nat} (h : ∀ d ∈ ds, d < base) :
    ofDigits base ds < base ^ ds.length := by
  -- here the most significant digit comes first
  have hreverse : ofDigits base ds = Nat.ofDigits base ds.reverse := by
    unfold ofDigits
    rw [Nat.ofDigits_eq_foldr, List.foldr_reverse]
    refine congrArg (fun step => ds.foldl step 0) (funext₂ fun n d => ?_)
    rw [Nat.cast_id, Nat.mul_comm, Nat.add_comm]
  rw [hreverse, ← List.length_reverse]
  exact Nat.ofDigits_lt_base_pow_length hbase fun d hd => h d (List.mem_reverse.mp hd)

/-- A number that was read has no more digits than can be written. -/
theorem writable_of_readInteger? {cs : List Char} {n : Int} (h : readInteger? 10 cs = some n) :
    (Value.int n).writable = true := by
  obtain ⟨ds, hds, h⟩ := Option.bind_eq_some_iff.mp h
  split at h
  · cases h
  · rename_i hshort
    rw [not_and, Nat.not_lt] at hshort
    -- stated for any bound, since the power itself is too large to be computed with
    have hbound : ∀ d, ds.length ≤ d → ofDigits 10 ds < Nat.pow 10 d := fun d hd =>
      calc ofDigits 10 ds < 10 ^ ds.length := ofDigits_lt (by decide) (lt_of_mem_digits? hds)
        _ ≤ 10 ^ d := Nat.pow_le_pow_right (by decide) hd
    have hsize : n.natAbs = ofDigits 10 ds := by
      cases h
      split <;> simp
    rw [Value.writable, Value.intWritable, hsize]
    exact decide_eq_true (hbound maxDigits (hshort rfl))

end Numeral

namespace CommandLine

namespace ProbeRequest

/-! ## Printing a report -/

def lineEvents (answers : List (Int × Bool)) : List Event :=
  answers.map fun a => .printed (line a.1 a.2 ++ "\n")

theorem run_printLines (answers : List (Int × Bool)) (w : World σ) :
    (answers.forM fun a => printLine (line a.1 a.2) : Run σ PUnit).run w =
      .ok ⟨⟩ (w.recordAll (lineEvents answers)) := by
  induction answers generalizing w with
  | nil => rfl
  | cons a answers ih =>
      exact ih (w.record (.printed (line a.1 a.2 ++ "\n")))

/-- A report in JSON can be printed, and it is read back as it is, with the line break behind it. -/
theorem read_print_summary {answers : List (Int × Bool)}
    (hdistinct : (answers.map Prod.fst).Nodup) :
    ∃ text, Json.print (summary answers) = .ok text ∧
      ∀ levels, Json.read (levels + 1) (text ++ "\n") = .ok (summary answers) := by
  have hentries : summary answers =
      .map ((answers.map fun a => (toString a.1, a.2)).map Json.entryOf) := by
    rw [List.map_map]
    rfl
  have hnames : (answers.map fun a => (toString a.1, a.2)).map Prod.fst =
      answers.map fun a => toString a.1 := by
    rw [List.map_map]
    rfl
  have hbare : ∀ name ∈ answers.map fun a => toString a.1, ∀ c ∈ name.toList, Json.IsBare c := by
    intro name hname c hc
    obtain ⟨a, -, rfl⟩ := List.mem_map.mp hname
    exact bare_of_mem_toString hc
  have hdifferent := nodup_names hdistinct
  rw [← hnames] at hbare hdifferent
  obtain ⟨text, hprint, hread⟩ := Json.read_print_object _ hbare hdifferent
  rw [hentries]
  exact ⟨text, hprint, fun levels => hread levels "\n" rfl⟩

/-! ## Executing a request -/

variable {env : Environment σ} {r : ProbeRequest} {w probed : World σ} {answers : List (Int × Bool)}

/-- The exit status tells whether all ports are free. -/
def statusOf (answers : List (Int × Bool)) : Nat := if answers.all (·.2) then 0 else 1

theorem statusOf_eq (answers : List (Int × Bool)) :
    statusOf answers = if ∀ a ∈ answers, a.2 = true then 0 else 1 := by
  unfold statusOf
  simp only [List.all_eq_true]

theorem run_execute_lines (hjson : r.json = false)
    (hprobed : (probePorts (env.machine.host r.address).probe r.ports).run w = .ok answers probed) :
    (r.execute env).run w = .ok (statusOf answers) (probed.recordAll (lineEvents answers)) := by
  unfold execute printAnswers
  rw [EStateM.run_bind, hprobed]
  dsimp only
  rw [hjson, if_neg Bool.false_ne_true, EStateM.run_bind, run_printLines]
  rfl

theorem run_execute_json (hjson : r.json = true) {text : String}
    (hprint : Json.print (summary answers) = .ok text)
    (hprobed : (probePorts (env.machine.host r.address).probe r.ports).run w = .ok answers probed) :
    (r.execute env).run w = .ok (statusOf answers) (probed.record (.printed (text ++ "\n"))) := by
  unfold execute printAnswers
  rw [EStateM.run_bind, hprobed]
  dsimp only
  rw [hjson, if_pos rfl, hprint]
  rfl

theorem invalidPorts_eq (r : ProbeRequest) : r.invalidPorts =
    r.ports.filter fun port : Int => ¬ (1 ≤ port ∧ port ≤ highestPort) := by
  refine List.filter_congr fun port _ => ?_
  rw [decide_not, Bool.decide_and]

theorem run_request_invalid (hinvalid : r.invalidPorts ≠ [])
    (hwritable : r.invalidPorts.all Value.intWritable = true) :
    (Request.execute env (.probe r)).run w = .ok 1 (w.record (.printed
      ("Error: Invalid port(s): " ++ ", ".intercalate (r.invalidPorts.map toString) ++ "\n"))) := by
  have hlisted : r.invalidPorts.isEmpty = false := List.isEmpty_eq_false_iff.mpr hinvalid
  have hcomplaint : Request.complaint? (.probe r) =
      .ok (some ("Invalid port(s): " ++ ", ".intercalate (r.invalidPorts.map toString))) := by
    rw [Request.complaint?, complaint?, hlisted, hwritable]
    rfl
  have hmessage : "Error: " ++ ("Invalid port(s): " ++
      ", ".intercalate (r.invalidPorts.map toString)) =
        "Error: Invalid port(s): " ++ ", ".intercalate (r.invalidPorts.map toString) := by
    rw [← String.append_assoc]
    rfl
  unfold Request.execute
  rw [hcomplaint, ← hmessage]
  rfl

/-- A number without a text is no port, and an error that would list it is not printed. -/
theorem run_request_unwordable (h : ∃ port ∈ r.ports, (Value.int port).writable = false) :
    (Request.execute env (.probe r)).run w = .error .tooManyDigits w := by
  obtain ⟨port, hport, huntold⟩ := h
  have hmem : port ∈ r.invalidPorts := by
    rw [invalidPorts_eq]
    exact List.mem_filter.mpr ⟨hport, decide_eq_true (Value.not_port_of_unwritable huntold)⟩
  have hlisted : r.invalidPorts.isEmpty = false :=
    List.isEmpty_eq_false_iff.mpr (List.ne_nil_of_mem hmem)
  have huntold : r.invalidPorts.all Value.intWritable = false :=
    List.all_eq_false.mpr ⟨port, hmem, by rw [Bool.not_eq_true]; exact huntold⟩
  have hcomplaint : Request.complaint? (.probe r) = .error .tooManyDigits := by
    rw [Request.complaint?, complaint?, hlisted, huntold]
    rfl
  unfold Request.execute
  rw [hcomplaint]
  rfl

theorem execute_of_valid (hvalid : r.invalidPorts = []) :
    Request.execute env (.probe r) = r.execute env := by
  have hcomplaint : Request.complaint? (.probe r) = .ok none := by
    rw [Request.complaint?, complaint?, hvalid]
    rfl
  unfold Request.execute
  rw [hcomplaint]
  rfl

theorem writable_of_withPorts {words : List String} {r r' : ProbeRequest}
    (h : withPorts words r = .ok r') : ∀ port ∈ r'.ports, (Value.int port).writable = true := by
  obtain ⟨ports, hports, h⟩ := ok_of_bind_ok h
  cases h
  intro port hport
  obtain ⟨word, -, hread⟩ := exists_of_mem_mapM hports port hport
  unfold readPort at hread
  split at hread
  · rename_i hword
    cases hread
    exact Numeral.writable_of_readInteger? hword
  · cases hread

/-- **Requests to probe ports.** With a probe that answers, a request that lists a number which is no
port asks about nothing, prints all of these numbers as they are listed, and has the status one; but
if one of them has too many digits for a text, the request fails and prints nothing. No request that
is made of words lists such a number. Any other request asks about every listed port in turn, also
about a port that is listed again. Its report has each port once, where it was listed first, with the
last answer about it, and the status is zero just if all ports in the report are free. Whether the
report is printed in lines or as JSON, the questions and the status are the same; the JSON text is
read back as the report, and no two ports have one name in it. -/
theorem execute_reports (env : Environment σ) (r : ProbeRequest)
    (hprobe : (env.machine.host r.address).probe.Answers) (w : World σ) :
    ((∃ port ∈ r.ports, ¬ (1 ≤ port ∧ port ≤ highestPort)) →
      (∀ port ∈ r.ports, (Value.int port).writable = true) → ∀ json,
        (Request.execute env (.probe { r with json })).run w = .ok 1 (w.record (.printed
          ("Error: Invalid port(s): " ++ ", ".intercalate ((r.ports.filter fun port : Int =>
            ¬ (1 ≤ port ∧ port ≤ highestPort)).map toString) ++ "\n")))) ∧
    ((∃ port ∈ r.ports, (Value.int port).writable = false) → ∀ json,
      (Request.execute env (.probe { r with json })).run w = .error .tooManyDigits w) ∧
    (∀ words r', withPorts words r = .ok r' → ∀ port ∈ r'.ports, (Value.int port).writable = true) ∧
    ((∀ port ∈ r.ports, 1 ≤ port ∧ port ≤ highestPort) →
      ∃ (es : List Event) (probed : World σ) (answers : List (Int × Bool)) (text : String),
        probed.events.toList = w.events.toList ++ es ∧ outputText es = "" ∧
        (asked es).map Question.port = r.ports ∧ Reports (asked es) answers ∧
        (Request.execute env (.probe { r with json := false })).run w =
          .ok (if ∀ a ∈ answers, a.2 = true then 0 else 1)
            (probed.recordAll (answers.map fun a => .printed (line a.1 a.2 ++ "\n"))) ∧
        (Request.execute env (.probe { r with json := true })).run w =
          .ok (if ∀ a ∈ answers, a.2 = true then 0 else 1)
            (probed.record (.printed (text ++ "\n"))) ∧
        (∀ levels, Json.read (levels + 1) (text ++ "\n") =
          .ok (.map (answers.map fun a => (.text (toString a.1), .bool a.2)))) ∧
        (answers.map fun a => toString a.1).Nodup) := by
  refine ⟨?_, fun h json => run_request_unwordable (r := { r with json }) h,
    fun words r' => writable_of_withPorts, ?_⟩
  · rintro ⟨port, hport, hout⟩ hwritable json
    rw [← invalidPorts_eq]
    refine run_request_invalid (r := { r with json }) ?_ ?_
    · rw [invalidPorts_eq]
      exact List.ne_nil_of_mem (List.mem_filter.mpr ⟨hport, decide_eq_true hout⟩)
    · exact List.all_eq_true.mpr fun p hp => hwritable p (List.mem_filter.mp hp).1
  · intro hports
    have hvalid : r.invalidPorts = [] := by
      rw [invalidPorts_eq]
      refine List.filter_eq_nil_iff.mpr fun port hport hout => ?_
      exact of_decide_eq_true hout (hports port hport)
    have hanswers : ∀ port ∈ r.ports, ∀ f,
        ¬ (env.machine.host r.address).probe.MayEnd port (.error f) := by
      intro port hport f
      obtain ⟨hlow, hhigh⟩ := hports port hport
      obtain ⟨n, rfl⟩ := Int.eq_ofNat_of_zero_le (show 0 ≤ port by omega)
      exact hprobe n (by omega) (by omega) f
    have hmute : (probePorts (env.machine.host r.address).probe r.ports).Meets fun es _ =>
        ∀ e ∈ es, e.IsUnprinted := mute_probeInto _ _ _
    obtain ⟨es, hes, ⟨hasked, answers, hends, hreports⟩, hunprinted⟩ :=
      (meets_probeInto hanswers Reports.nil).and hmute w
    rw [List.nil_append] at hreports
    have hprobed := run_of_ends_ok hends
    obtain ⟨text, hprint, hread⟩ := read_print_summary hreports.distinct
    refine ⟨es, _, answers, text, hes, outputText_unprinted hunprinted, hasked, hreports,
      ?_, ?_, hread, nodup_names hreports.distinct⟩
    · rw [execute_of_valid (r := { r with json := false }) hvalid, ← statusOf_eq]
      exact run_execute_lines rfl hprobed
    · rw [execute_of_valid (r := { r with json := true }) hvalid, ← statusOf_eq]
      exact run_execute_json rfl hprint hprobed

/-- A port that is listed again is asked about again: it was busy and is free then, and that is what
counts. A number that is no port keeps the others from being probed. -/
theorem execute_reports_listed_again :
    let probe : Probe Nat := .answering fun _ n => (.ok (n != 0), n + 1)
    let layer : SocketLayer Nat := ⟨fun n => (none, n), fun _ _ n => (none, n)⟩
    let readers : Readers := ⟨fun _ => .ok .null, fun _ => .ok .null⟩
    let env : Environment Nat := ⟨{}, readers, fun _ => .nothing, ⟨some probe, layer, fun _ => 0⟩⟩
    let w : World Nat := World.fresh 0
    (env.machine.host "").probe.Answers ∧
      (∃ es answers, (asked es).map Question.port = [80, 443, 80] ∧ Reports (asked es) answers ∧
        ∀ a ∈ answers, a.2 = true) ∧
      (Request.execute env (.probe { ports := [0, 80, 70000, 0] })).run w =
        .ok 1 (w.record (.printed "Error: Invalid port(s): 0, 70000, 0\n")) := by
  intro probe layer readers env w
  have hprobe : (env.machine.host "").probe.Answers := by
    rintro p - - f ⟨w', hw⟩
    cases hw
  let r : ProbeRequest := { ports := [80, 443, 80] }
  have hzero : (ends (Request.execute env (.probe { r with json := false })) w).toOption =
      some 0 := by
    decide +kernel
  refine ⟨hprobe, ?_, (execute_reports env { ports := [0, 80, 70000, 0] } hprobe w).1
    ⟨0, by decide, by decide⟩ (by decide +kernel) false⟩
  obtain ⟨es, probed, answers, text, -, -, hasked, hreports, hrun, -⟩ :=
    (execute_reports env r hprobe w).2.2.2 (by decide)
  refine ⟨es, answers, hasked, hreports, ?_⟩
  -- the status would be one if a port in the report were busy
  rw [ends, hrun] at hzero
  by_contra hbusy
  rw [if_neg hbusy] at hzero
  cases hzero

/-- A number with one digit too many is no port, and yet there is no error about it. -/
theorem execute_unwordable_port :
    let probe : Probe Unit := .answering fun _ _ => (.ok true, ())
    let layer : SocketLayer Unit := ⟨fun _ => (none, ()), fun _ _ _ => (none, ())⟩
    let readers : Readers := ⟨fun _ => .ok .null, fun _ => .ok .null⟩
    let env : Environment Unit := ⟨{}, readers, fun _ => .nothing, ⟨some probe, layer, fun _ => 0⟩⟩
    let port : Int := (Nat.pow 10 Numeral.maxDigits : Nat)
    ¬ (1 ≤ port ∧ port ≤ highestPort) ∧
      (Request.execute env (.probe { ports := [port] })).run (World.fresh ()) =
        .error .tooManyDigits (World.fresh ()) := by
  intro probe layer readers env port
  have huntold : (Value.int port).writable = false := Value.unwritable_pow
  exact ⟨Value.not_port_of_unwritable huntold,
    run_request_unwordable ⟨port, List.mem_singleton_self port, huntold⟩⟩

end ProbeRequest

end CommandLine

end ListenerPorts
