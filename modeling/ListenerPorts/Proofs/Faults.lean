import ListenerPorts.Config.Shape
import ListenerPorts.Proofs.Building

set_option autoImplicit false

/-! # Why building fails

A mapping that cannot be built from is told to have a problem. There are two exceptions, each with
its cause in the mapping: unknown keys are not listed if one of them is no text, and a problem is not
told if its message shows an integer with too many digits. Each function that builds is taken in
turn, and its faults are traced back to the entries it is given.
-/

namespace ListenerPorts

variable {α β : Type}

/-! ## Computations that fail -/

/-- Every fault of the computation has the property. -/
def Fails (x : Except Fault α) (Q : Fault → Prop) : Prop := ∀ f, x = .error f → Q f

variable {Q : Fault → Prop}

theorem fails_ok (a : α) : Fails (.ok a) Q := by
  intro f hf
  cases hf

theorem fails_error {f : Fault} (h : Q f) : Fails (.error f : Except Fault α) Q := by
  intro g hg
  cases hg
  exact h

theorem Fails.bind {x : Except Fault α} {k : α → Except Fault β} (hx : Fails x Q)
    (hk : ∀ a, x = .ok a → Fails (k a) Q) : Fails (x >>= k) Q := by
  intro f hf
  cases hres : x with
  | error g =>
      rw [hres] at hf
      cases hf
      exact hx f hres
  | ok a =>
      rw [hres] at hf
      exact hk a hres f hf

theorem Fails.map {x : Except Fault α} (h : Fails x Q) (f : α → β) : Fails (f <$> x) Q := by
  rw [← bind_pure_comp]
  exact h.bind fun _ _ => fails_ok _

theorem fails_mapM {f : α → Except Fault β} {xs : List α} (h : ∀ x ∈ xs, Fails (f x) Q) :
    Fails (xs.mapM f) Q := by
  induction xs with
  | nil => exact fails_ok _
  | cons x xs ih =>
      rw [List.forall_mem_cons] at h
      rw [List.mapM_cons]
      exact h.1.bind fun y _ => (ih h.2).bind fun ys _ => fails_ok _

theorem fails_forM {f : α → Except Fault Unit} {xs : List α} (h : ∀ x ∈ xs, Fails (f x) Q) :
    Fails (xs.forM f) Q := by
  induction xs with
  | nil => exact fails_ok _
  | cons x xs ih =>
      rw [List.forall_mem_cons] at h
      show Fails (f x >>= fun _ => xs.forM f) Q
      exact h.1.bind fun _ _ => ih h.2

/-- A problem is told, unless one of the values that its message shows has no text. -/
theorem fails_fail {p : Problem} (htold : Q (.configuration p))
    (hdigits : ∀ v ∈ p.shown, ¬ v.writable = true → Q .tooManyDigits) :
    Fails (fail p : Except Fault α) Q := by
  intro f hf
  unfold fail Fault.of at hf
  split at hf
  · cases hf
    exact htold
  · rename_i hall
    cases hf
    rw [List.all_eq_true, not_forall] at hall
    obtain ⟨v, hv⟩ := hall
    rw [Classical.not_imp] at hv
    exact hdigits v hv.1 hv.2

/-- What building can be blamed on: a problem that is told, keys, or digits. -/
inductive Blamed (keys digits : Prop) : Fault → Prop where
  | told (p : Problem) : Blamed keys digits (.configuration p)
  | keys (h : keys) : Blamed keys digits .keysNotTexts
  | digits (h : digits) : Blamed keys digits .tooManyDigits

variable {keys digits : Prop}

theorem blamed_fail {p : Problem} (h : ∀ v ∈ p.shown, ¬ v.writable = true → digits) :
    Fails (fail p : Except Fault α) (Blamed keys digits) :=
  fails_fail (.told p) fun v hv hwritable => .digits (h v hv hwritable)

theorem blamed_checkKeys {es : Entries} (h : ¬ Shape.HasTextKeys es → keys) (owner : String)
    (known : List String) : Fails (es.checkKeys owner known) (Blamed keys digits) := by
  unfold Entries.checkKeys
  dsimp only
  split
  · exact fails_ok _
  · split
    · exact blamed_fail (List.forall_mem_nil _)
    · rename_i htexts
      refine fails_error (.keys (h fun hall => htexts ?_))
      rw [List.all_eq_true]
      intro k hk
      obtain ⟨e, he, rfl⟩ := List.mem_map.mp (List.mem_of_mem_filter hk)
      exact hall e he

/-- Values make a range, or there is a problem with them. -/
theorem PortRange.blamed_ofValues {min max : Value} (hmin : ¬ min.writable = true → digits)
    (hmax : ¬ max.writable = true → digits) :
    Fails (ofValues min max) (Blamed keys digits) := by
  have hboth : ∀ v ∈ [min, max], ¬ v.writable = true → digits := by
    rw [List.forall_mem_cons, List.forall_mem_singleton]
    exact ⟨hmin, hmax⟩
  unfold ofValues
  split
  · unfold ofInts
    split
    · exact blamed_fail hboth
    · split
      · exact blamed_fail (List.forall_mem_singleton.mpr hmin)
      · split
        · exact blamed_fail (List.forall_mem_singleton.mpr hmax)
        · exact fails_ok _
  · exact blamed_fail hboth

/-! ## Settings -/

namespace Settings

variable {es : Entries} {v : Value}

theorem blamed_checkBool (h : ¬ Value.entriesWritable es = true → digits) (key shownName : String) :
    Fails (checkBool es key shownName) (Blamed keys digits) := by
  unfold checkBool
  split
  · exact fails_ok _
  · exact fails_ok _
  · rename_i v _ hget
    refine blamed_fail (List.forall_mem_singleton.mpr ?_)
    exact fun hv => h (mt (Entries.writable_of_get? · hget) hv)

/-- A value selects a finder, or it is no registered name, or no name at all. -/
theorem fails_create (htold : ∀ p, Q (.configuration p))
    (hname : v.isText = false → Q .nameNotText) : Fails (Registry.builtIn.create v) Q := by
  have hselect : ∀ name, Fails (Registry.builtIn.select name) Q := by
    intro name
    unfold Registry.select
    split
    · exact fails_ok _
    · exact fails_fail (htold _) (List.forall_mem_nil _)
  unfold Registry.create
  split
  · split
    · exact hselect _
    · rename_i hno
      refine fails_error (hname ?_)
      cases v with
      | text s => exact absurd rfl (hno s)
      | _ => rfl
  · exact hselect _

theorem blamed_resolveFinder (h : ¬ v.writable = true → digits) :
    Fails (resolveFinder v) (Blamed keys digits) := by
  have hshown : ∀ w, finderName? v = some w → ¬ w.writable = true → digits := by
    intro w hw hwritable
    refine h fun hv => hwritable ?_
    cases v with
    | map es =>
        obtain ⟨hget, -⟩ := Option.filter_eq_some_iff.mp hw
        exact Entries.writable_of_get? hv hget
    | _ =>
        cases hw
        exact hv
  unfold resolveFinder
  cases hname : finderName? v with
  | none => exact fails_ok _
  | some w =>
      cases w with
      | text name =>
          have hcreate : Fails (Registry.builtIn.create (.text name)) (Blamed keys digits) :=
            fails_create .told fun hno => nomatch hno
          refine Fails.bind ?_ fun _ _ => fails_ok _
          exact hcreate.bind fun _ _ => fails_ok _
      | _ => exact blamed_fail (List.forall_mem_singleton.mpr (hshown _ hname))

theorem blamed_checkTextField (h : ¬ Value.entriesWritable es = true → digits) (f : TlsField) :
    Fails (checkTextField es f) (Blamed keys digits) := by
  unfold checkTextField
  split
  · exact fails_ok _
  · exact fails_ok _
  · rename_i v _ hget
    refine blamed_fail (List.forall_mem_singleton.mpr ?_)
    exact fun hv => h (mt (Entries.writable_of_get? · hget) hv)

theorem blamed_listField (h : ¬ v.writable = true → digits) (name : String) :
    Fails (listField name v) (Blamed keys digits) := by
  unfold listField
  split
  · exact fails_ok _
  · split
    · exact fails_ok _
    · exact blamed_fail (List.forall_mem_singleton.mpr h)
  · exact blamed_fail (List.forall_mem_singleton.mpr h)

theorem blamed_fieldValue (h : ¬ Value.entriesWritable es = true → digits) (f : TlsField) :
    Fails (fieldValue es f) (Blamed keys digits) := by
  unfold fieldValue
  split
  · rename_i v _ hget
    exact blamed_listField (fun hv => h (mt (Entries.writable_of_get? · hget) hv)) _
  · exact fails_ok _
  · exact fails_ok _

theorem blamed_buildTls (hdigits : ¬ v.writable = true → digits)
    (hkeys : ∀ tls, v = .map tls → ¬ Shape.HasTextKeys tls → keys) :
    Fails (buildTls v) (Blamed keys digits) := by
  cases v with
  | map all =>
      have hentries : ¬ Value.entriesWritable (Entries.nonNull all) = true → digits :=
        fun h => hdigits (mt (Entries.writable_filter · _) h)
      unfold buildTls
      refine (blamed_checkKeys (hkeys all rfl) _ _).bind fun _ _ => ?_
      refine (fails_forM fun f _ => blamed_checkTextField hentries f).bind fun _ _ => ?_
      refine (blamed_fieldValue hentries _).bind fun _ _ => ?_
      refine (blamed_fieldValue hentries _).bind fun _ _ => ?_
      exact (blamed_checkBool hentries _ _).bind fun _ _ => fails_ok _
  | _ => exact blamed_fail (List.forall_mem_nil _)

/-- Building settings fails for the keys of the settings or of the TLS material in them, for an
integer with too many digits, or with a problem. -/
theorem blamed_ofEntries {all : Entries} (hdigits : ¬ Value.entriesWritable all = true → digits)
    (hkeys : ¬ Shape.HasTextKeys all → keys)
    (htls : ∀ tls, (.text "tls", .map tls) ∈ all → ¬ Shape.HasTextKeys tls → keys) :
    Fails (ofEntries all) (Blamed keys digits) := by
  have hentries : ¬ Value.entriesWritable all.nonNull = true → digits :=
    fun h => hdigits (mt (Entries.writable_filter · _) h)
  have hvalue : ∀ {name v}, all.nonNull.get? name = some v → ¬ v.writable = true → digits :=
    fun hget hv => hentries (mt (Entries.writable_of_get? · hget) hv)
  rw [ofEntries_eq]
  refine (blamed_checkKeys hkeys _ _).bind fun _ _ => ?_
  refine (blamed_checkBool hentries _ _).bind fun _ _ => ?_
  refine (blamed_checkBool hentries _ _).bind fun _ _ => ?_
  refine Fails.bind ?_ fun finder _ => Fails.bind ?_ fun tls _ => fails_ok _
  · unfold keptFinder
    split
    · exact fails_ok _
    · rename_i v hget
      exact blamed_resolveFinder (hvalue hget)
  · unfold keptTls
    split
    · exact fails_ok _
    · rename_i v hget
      refine Fails.bind (blamed_buildTls (hvalue hget) ?_) fun _ _ => fails_ok _
      rintro entries rfl
      exact htls entries (List.mem_of_mem_filter (Entries.mem_of_get? hget))

end Settings

/-! ## Connectors and servers -/

namespace Connector

theorem blamed_ofValue {v : Value} (hdigits : ¬ v.writable = true → digits)
    (hkeys : ∀ es, v = .map es → ¬ Shape.HasTextKeys es → keys) :
    Fails (ofValue v) (Blamed keys digits) := by
  cases v with
  | map es =>
      show Fails (ofEntries es) _
      unfold ofEntries
      refine Fails.bind ?_ fun type _ => ?_
      · unfold typeName
        split
        · exact fails_ok _
        · rename_i w hget
          split
          · exact fails_ok _
          · rename_i hw
            exact fails_error (.digits (hdigits (mt (Entries.writable_of_get? · hget) hw)))
      · dsimp only
        split
        · exact blamed_fail (List.forall_mem_nil _)
        · refine (blamed_checkKeys (fun h => hkeys es rfl (mt ?_ h)) _ _).bind fun _ _ => fails_ok _
          exact fun hall e he => hall e (List.mem_of_mem_filter he)
  | _ => exact blamed_fail (List.forall_mem_singleton.mpr hdigits)

end Connector

namespace Server

theorem blamed_ofEntries {es : Entries} (hdigits : ¬ Value.entriesWritable es = true → digits)
    (hkeys : ∀ role items entries, (.text (connectorsKey role), .list items) ∈ es →
      .map entries ∈ items → ¬ Shape.HasTextKeys entries → keys) :
    Fails (ofEntries es) (Blamed keys digits) := by
  have hrole : ∀ role, Fails (connectorsOf es role) (Blamed keys digits) := by
    intro role
    unfold connectorsOf
    split
    · exact fails_ok _
    · rename_i items hget
      refine fails_mapM fun item hitem => Connector.blamed_ofValue (fun hwritable => ?_) ?_
      · refine hdigits (mt (Entries.writable_of_get? · hget) fun hitems => hwritable ?_)
        exact (Value.itemsWritable_iff items).mp hitems item hitem
      · rintro entries rfl
        exact hkeys role items entries (Entries.mem_of_get? hget) hitem
    · exact blamed_fail (List.forall_mem_nil _)
  exact (hrole .application).bind fun _ _ => (hrole .admin).bind fun _ _ => fails_ok _

end Server

/-! ## Configurations -/

namespace Configuration

/-- The section under a name is empty, or it is an entry of the mapping. -/
theorem sectionOf_cases {data es : Entries} {name : String} (h : sectionOf data name = .ok es) :
    es = [] ∨ (.text name, .map es) ∈ data := by
  unfold sectionOf at h
  split at h
  · cases h
    exact Or.inl rfl
  · cases h
    exact Or.inl rfl
  · rename_i entries hget
    cases h
    exact Or.inr (Entries.mem_of_get? hget)
  · cases h

theorem fails_sectionOf (data : Entries) (name : String) :
    Fails (sectionOf data name) (Blamed keys digits) := by
  unfold sectionOf
  split
  · exact fails_ok _
  · exact fails_ok _
  · exact fails_ok _
  · exact blamed_fail (List.forall_mem_nil _)

/-- **Why building fails.** A mapping that cannot be built from has a problem that is told, unless
a key that should be a text is not, or an integer has too many digits. -/
theorem blamed_ofEntries (data : Entries) : Fails (ofEntries data)
    (Blamed (¬ Shape.TextKeyed data) (¬ Value.entriesWritable data = true)) := by
  unfold ofEntries
  refine (fails_sectionOf data "server").bind fun server hserver => ?_
  refine (fails_sectionOf data "dynamic_ports").bind fun settings hsettings => ?_
  have hdigits : ∀ {name es}, sectionOf data name = .ok es → ¬ Value.entriesWritable es = true →
      ¬ Value.entriesWritable data = true :=
    fun hsection => mt (writable_of_sectionOf hsection)
  refine Fails.bind (Server.blamed_ofEntries (hdigits hserver) ?_) fun _ _ => ?_
  · intro role items entries hmem hitem hkeys htext
    obtain rfl | hsection := sectionOf_cases hserver
    · cases hmem
    · exact hkeys (htext.connectors server role items entries hsection hmem hitem)
  · refine Fails.bind (Settings.blamed_ofEntries (hdigits hsettings) ?_ ?_) fun _ _ => fails_ok _
    · intro hkeys htext
      obtain rfl | hsection := sectionOf_cases hsettings
      · exact hkeys (List.forall_mem_nil _)
      · exact hkeys (htext.settings settings hsection)
    · intro tls hmem hkeys htext
      obtain rfl | hsection := sectionOf_cases hsettings
      · cases hmem
      · exact hkeys (htext.tls settings tls hsection hmem)

end Configuration

end ListenerPorts
