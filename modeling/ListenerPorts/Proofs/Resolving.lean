import ListenerPorts.Proofs.Building
import ListenerPorts.Proofs.Mappings

set_option autoImplicit false

/-! # The finder of a built configuration

The finder setting of a mapping is looked at twice. Building looks up the name in it and keeps the
name in lower case; a run looks up what was kept. Both arrive at the finder that the setting asks
for, with one exception: a mapping that has entries but gives no name passes the first look, is kept
as it is, and is no name in the second.
-/

namespace ListenerPorts

namespace Strategy

theorem name_injective {s t : Strategy} (h : s.name = t.name) : s = t := by
  revert h
  cases s <;> cases t <;> decide

end Strategy

namespace Settings

variable {v kept : Value}

/-! ## What a setting asks for -/

/-- The name that a finder setting gives: the setting itself if it is a text, or the type in a
mapping. The empty name is as good as none. -/
def givenName : Value → String
  | .text name => name
  | .map es =>
    match Entries.get? es "type" with
    | some (.text name) => name
    | _ => ""
  | _ => ""

/-- The strategy that a finder setting asks for: the one whose name it gives, up to letter case and
the blanks around it, or the random one if it gives none. -/
def AsksFor (v : Value) (strategy : Strategy) : Prop :=
  if givenName v = "" then strategy = .random
  else Text.lower (Text.trim (givenName v)) = strategy.name

/-- A mapping that has entries, but whose type is missing or null. -/
def Nameless (v : Value) : Prop :=
  ∃ es : Entries, v = .map es ∧ es ≠ [] ∧ (es.get? "type").getD .null = .null

theorem asksFor_random (h : givenName v = "") : AsksFor v .random := by
  unfold AsksFor
  rw [if_pos h]

theorem asksFor_of_name {strategy : Strategy} (hne : givenName v ≠ "")
    (h : Text.lower (Text.trim (givenName v)) = strategy.name) : AsksFor v strategy := by
  unfold AsksFor
  rwa [if_neg hne]

/-- A setting asks for one strategy only. -/
theorem AsksFor.iff_eq {s t : Strategy} (h : AsksFor v s) : AsksFor v t ↔ t = s := by
  unfold AsksFor at h ⊢
  split
  · rename_i hname
    rw [if_pos hname] at h
    rw [h]
  · rename_i hname
    rw [if_neg hname] at h
    rw [h]
    exact ⟨fun heq => (Strategy.name_injective heq).symm, fun heq => congrArg Strategy.name heq.symm⟩

/-! ## What is kept of a setting -/

/-- Whatever a name selects among the built-in finders is what it asks for. -/
theorem asksFor_of_create {name : String} {f : Finder}
    (h : Registry.builtIn.create (.text name) = .ok f) :
    ∃ strategy, f = .builtIn strategy ∧ AsksFor (.text name) strategy := by
  rw [Registry.create_text] at h
  unfold Registry.select at h
  by_cases hname : name = ""
  · -- the random finder is registered
    rw [if_pos hname] at h
    cases h
    exact ⟨.random, rfl, asksFor_random hname⟩
  · rw [if_neg hname] at h
    cases hfind : Registry.builtIn.find? (Registry.keyOf name) with
    | none =>
        rw [hfind] at h
        cases h
    | some g =>
        rw [hfind] at h
        cases h
        obtain ⟨strategy, hkey, hbuiltIn⟩ := Registry.find?_builtIn hfind
        exact ⟨strategy, hbuiltIn, asksFor_of_name hname hkey⟩

/-- How the finder that was kept of a setting is created. -/
structure Resolves (v kept : Value) : Prop where
  named : ¬ Nameless v → ∃ strategy, AsksFor v strategy ∧
    Registry.builtIn.create kept = .ok (.builtIn strategy)
  nameless : Nameless v → Registry.builtIn.create kept = .error .nameNotText

/-- A setting with a name is kept as its name in lower case. -/
theorem resolves_text {name : String} (hv : ¬ Nameless v) (hname : givenName v = name)
    (h : (do
      discard (Registry.builtIn.create (.text name))
      return Value.text (Text.lower name)) = .ok kept) : Resolves v kept := by
  refine ⟨fun _ => ?_, fun hnameless => absurd hnameless hv⟩
  obtain ⟨u, hdiscard, h⟩ := ok_of_bind_ok h
  cases h
  cases hcreate : Registry.builtIn.create (.text name) with
  | error f =>
      rw [hcreate] at hdiscard
      cases hdiscard
  | ok f =>
      obtain ⟨strategy, rfl, hasks⟩ := asksFor_of_create hcreate
      refine ⟨strategy, ?_, Registry.create_lower hcreate⟩
      have hsame : givenName (.text name) = givenName v := hname.symm
      unfold AsksFor at hasks ⊢
      rwa [hsame] at hasks

/-- A mapping without a name is kept as it is, which only an empty one can be created from. -/
theorem resolves_map {es : Entries} (htype : (es.get? "type").getD .null = .null) :
    Resolves (.map es) (.map es) := by
  cases es with
  | nil =>
      refine ⟨fun _ => ⟨.random, asksFor_random rfl, rfl⟩, ?_⟩
      rintro ⟨entries, hes, hne, -⟩
      cases hes
      exact absurd rfl hne
  | cons e es => exact ⟨fun h => absurd ⟨_, rfl, List.cons_ne_nil _ _, htype⟩ h, fun _ => rfl⟩

theorem resolves_of_resolveFinder (h : resolveFinder v = .ok kept) : Resolves v kept := by
  unfold resolveFinder at h
  cases v with
  | text name =>
      refine resolves_text ?_ rfl h
      rintro ⟨es, hes, -⟩
      cases hes
  | map es =>
      cases htype : Entries.get? es "type" with
      | none =>
          simp only [finderName?, htype] at h
          cases h
          exact resolves_map (by rw [htype]; rfl)
      | some w =>
          simp only [finderName?, htype] at h
          cases w with
          | null =>
              cases h
              exact resolves_map (by rw [htype]; rfl)
          | text name =>
              refine resolves_text ?_ (by rw [givenName, htype]) h
              rintro ⟨entries, hes, -, hnull⟩
              cases hes
              rw [htype] at hnull
              cases hnull
          | _ => cases h
  | _ => cases h

/-- The finder that is kept of settings, whose setting is null if there is none. -/
theorem resolves_of_keptFinder {es : Entries} (hes : es.Distinct)
    (h : keptFinder es.nonNull = .ok kept) :
    Resolves ((es.get? "free_port_finder").getD .null) kept := by
  unfold keptFinder at h
  cases hget : es.nonNull.get? "free_port_finder" with
  | none =>
      rw [hget] at h
      cases h
      have hnull : (es.get? "free_port_finder").getD .null = .null := by
        cases hall : es.get? "free_port_finder" with
        | none => rfl
        | some v =>
            -- a value other than null would have been kept
            by_contra hne
            have hmem := (Entries.get?_eq_some_iff hes).mp hall
            rw [(Entries.get?_nonNull_eq_some_iff hes).mpr ⟨hmem, hne⟩] at hget
            cases hget
      rw [hnull]
      refine ⟨fun _ => ⟨.random, asksFor_random rfl, rfl⟩, ?_⟩
      rintro ⟨entries, heq, -⟩
      cases heq
  | some v =>
      rw [hget] at h
      obtain ⟨hmem, -⟩ := (Entries.get?_nonNull_eq_some_iff hes).mp hget
      rw [(Entries.get?_eq_some_iff hes).mpr hmem]
      exact resolves_of_resolveFinder h

end Settings

/-! ## Configurations -/

namespace Configuration

/-- The finder setting of a mapping, null if there is none. -/
def finderSetting (data : Entries) : Value :=
  match data.get? "dynamic_ports" with
  | some (.map es) => (Entries.get? es "free_port_finder").getD .null
  | _ => .null

theorem finderSetting_of_sectionOf {data es : Entries}
    (h : sectionOf data "dynamic_ports" = .ok es) :
    finderSetting data = (es.get? "free_port_finder").getD .null := by
  unfold sectionOf at h
  unfold finderSetting
  cases hget : data.get? "dynamic_ports" with
  | none =>
      rw [hget] at h
      cases h
      rfl
  | some v =>
      rw [hget] at h
      cases v with
      | null | map =>
          cases h
          rfl
      | _ => cases h

theorem distinct_of_sectionOf {data es : Entries} {name : String}
    (hkeys : Value.entriesWellKeyed data = true) (h : sectionOf data name = .ok es) :
    es.Distinct := by
  unfold sectionOf at h
  cases hget : data.get? name with
  | none =>
      rw [hget] at h
      cases h
      exact List.Pairwise.nil
  | some v =>
      rw [hget] at h
      cases v with
      | null =>
          cases h
          exact List.Pairwise.nil
      | map entries =>
          cases h
          exact Entries.distinct_of_wellKeyed
            (Entries.wellKeyed_of_mem hkeys (Entries.mem_of_get? hget))
      | _ => cases h

/-- **The finder of a built configuration.** It can be created, and it is the one that the mapping
asks for, unless the finder setting is a mapping with entries but without a name. Such a setting is
kept when the configuration is built, and no finder can be created from it. -/
theorem createFinder_of_ofEntries (data : Entries) (hkeys : Value.entriesWellKeyed data = true)
    (c : Configuration) (h : ofEntries data = .ok c) :
    (¬ Settings.Nameless (finderSetting data) → ∃ strategy,
      c.settings.createFinder = .ok (.builtIn strategy) ∧
      ∀ s, Settings.AsksFor (finderSetting data) s ↔ s = strategy) ∧
    (Settings.Nameless (finderSetting data) →
      c.settings.createFinder = .error .nameNotText) := by
  obtain ⟨_, es, -, hes, -, hsettings⟩ := of_ofEntries h
  obtain ⟨-, -, -, hfinder, -⟩ := Settings.of_ofEntries hsettings
  have hresolves := Settings.resolves_of_keptFinder (distinct_of_sectionOf hkeys hes) hfinder
  rw [← finderSetting_of_sectionOf hes] at hresolves
  refine ⟨fun hnamed => ?_, hresolves.nameless⟩
  obtain ⟨strategy, hasks, hcreate⟩ := hresolves.named hnamed
  exact ⟨strategy, hcreate, fun s => hasks.iff_eq⟩

/-- A type in capitals between blanks asks for the adjacent finder. -/
theorem createFinder_of_ofEntries_capitals :
    let finder : Entries := [(.text "type", .text " ADJACENT "), (.int 1, .null)]
    let data : Entries := [(.text "dynamic_ports", .map [(.text "free_port_finder", .map finder)])]
    let c : Configuration := { settings := { finder := .text " adjacent " } }
    Value.entriesWellKeyed data = true ∧ ofEntries data = .ok c ∧
      ¬ Settings.Nameless (finderSetting data) ∧
      c.settings.createFinder = .ok (.builtIn .adjacent) := by
  intro finder data c
  have hkeys : Value.entriesWellKeyed data = true := by decide
  have hbuild : ofEntries data = .ok c := rfl
  have hnamed : ¬ Settings.Nameless (finderSetting data) := by
    rintro ⟨es, hes, -, hnull⟩
    cases hes
    cases hnull
  obtain ⟨strategy, hcreate, hasks⟩ := (createFinder_of_ofEntries data hkeys c hbuild).1 hnamed
  have hadjacent : Settings.AsksFor (finderSetting data) .adjacent :=
    Settings.asksFor_of_name (by decide) (by decide)
  rw [← (hasks .adjacent).mp hadjacent] at hcreate
  exact ⟨hkeys, hbuild, hnamed, hcreate⟩

/-- A finder setting whose type is null can be built from, but not be created from. -/
theorem createFinder_null_type :
    let finder : Entries := [(.text "type", .null)]
    let data : Entries := [(.text "dynamic_ports", .map [(.text "free_port_finder", .map finder)])]
    ∃ c, ofEntries data = .ok c ∧ c.settings.createFinder = .error .nameNotText :=
  ⟨{ settings := { finder := .map [(.text "type", .null)] } }, rfl, rfl⟩

end Configuration

end ListenerPorts
