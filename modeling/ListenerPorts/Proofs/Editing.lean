import ListenerPorts.Proofs.Building

set_option autoImplicit false

/-! # Editing a setting

A setting can be changed in the mapping that a configuration is built from. Where the value passes
its check, the edited mapping is built to the same configuration with that one setting changed: the
other settings are read off entries of their own, and no key becomes unknown.
-/

namespace ListenerPorts

/-! ## Checks that look at one entry -/

namespace Settings

variable {es es' : Entries}

theorem checkBool_congr {key : String} (h : es.get? key = es'.get? key) (shownName : String) :
    checkBool es key shownName = checkBool es' key shownName := by
  unfold checkBool
  rw [h]

theorem keptFinder_congr (h : es.get? "free_port_finder" = es'.get? "free_port_finder") :
    keptFinder es = keptFinder es' := by
  unfold keptFinder
  rw [h]

theorem keptTls_congr (h : es.get? "tls" = es'.get? "tls") : keptTls es = keptTls es' := by
  unfold keptTls
  rw [h]

/-- The name of a strategy is kept as it is. -/
theorem resolveFinder_name (strategy : Strategy) :
    resolveFinder (.text strategy.name) = .ok (.text strategy.name) := by
  cases strategy <;> rfl

/-! ## Settings with one entry set -/

variable {all : Entries} {s : Settings}

/-- Naming a built-in finder in a mapping changes the finder of the settings. -/
theorem ofEntries_put_finder (h : ofEntries all = .ok s) (strategy : Strategy) :
    ofEntries (all.put (.text "free_port_finder") (.text strategy.name)) =
      .ok { s with finder := .text strategy.name } := by
  have hbuilt := ofEntries_eq_ok_iff.mp h
  have hother : ∀ {name : String}, name ≠ "free_port_finder" →
      (all.put (.text "free_port_finder") (.text strategy.name)).nonNull.get? name =
        all.nonNull.get? name :=
    fun hname => Entries.get?_nonNull_put_other all _ hname
  have hfinder : keptFinder (all.put (.text "free_port_finder") (.text strategy.name)).nonNull =
      .ok (.text strategy.name) := by
    unfold keptFinder
    rw [Entries.get?_nonNull_put_same all _ (by simp)]
    exact resolveFinder_name strategy
  refine ofEntries_eq_ok_iff.mpr ?_
  constructor
  case known => exact (Entries.checkKeys_put all _ _ (by decide)).trans hbuilt.known
  case dynamicFlag => exact (checkBool_congr (hother (by decide)) _).trans hbuilt.dynamicFlag
  case secureFlag => exact (checkBool_congr (hother (by decide)) _).trans hbuilt.secureFlag
  case finder => exact hfinder
  case tls => exact (keptTls_congr (hother (by decide))).trans hbuilt.tls
  case useDynamic => rw [hother (by decide), hbuilt.useDynamic]
  case useSecure => rw [hother (by decide), hbuilt.useSecure]
  case minPort => rw [hother (by decide), hbuilt.minPort]
  case maxPort => rw [hother (by decide), hbuilt.maxPort]

/-- Turning dynamic ports off in a mapping turns them off in the settings. -/
theorem ofEntries_put_static (h : ofEntries all = .ok s) :
    ofEntries (all.put (.text "use_dynamic_ports") (.bool false)) =
      .ok { s with useDynamic := .bool false } := by
  have hbuilt := ofEntries_eq_ok_iff.mp h
  have hother : ∀ {name : String}, name ≠ "use_dynamic_ports" →
      (all.put (.text "use_dynamic_ports") (.bool false)).nonNull.get? name =
        all.nonNull.get? name :=
    fun hname => Entries.get?_nonNull_put_other all _ hname
  have hset : (all.put (.text "use_dynamic_ports") (.bool false)).nonNull.get? "use_dynamic_ports" =
      some (.bool false) :=
    Entries.get?_nonNull_put_same all _ (by simp)
  refine ofEntries_eq_ok_iff.mpr ?_
  constructor
  case known => exact (Entries.checkKeys_put all _ _ (by decide)).trans hbuilt.known
  case dynamicFlag =>
    unfold checkBool
    rw [hset]
  case secureFlag => exact (checkBool_congr (hother (by decide)) _).trans hbuilt.secureFlag
  case finder => exact (keptFinder_congr (hother (by decide))).trans hbuilt.finder
  case tls => exact (keptTls_congr (hother (by decide))).trans hbuilt.tls
  case useDynamic =>
    rw [hset]
    rfl
  case useSecure => rw [hother (by decide), hbuilt.useSecure]
  case minPort => rw [hother (by decide), hbuilt.minPort]
  case maxPort => rw [hother (by decide), hbuilt.maxPort]

end Settings

/-! ## Configurations with one setting changed -/

namespace Configuration

/-- A mapping with one of the settings set, in a section of their own if there is none yet. -/
def withSetting (data : Entries) (name : String) (v : Value) : Entries :=
  let settings : Entries := match data.get? "dynamic_ports" with
    | some (.map es) => es
    | _ => []
  data.put (.text "dynamic_ports") (.map (settings.put (.text name) v))

variable {data : Entries} {c : Configuration}

/-- If the settings can be built with one of them set, the configuration can, and nothing but the
settings changes. -/
theorem ofEntries_withSetting (h : ofEntries data = .ok c) {name : String} {v : Value}
    {settings : Settings} (hset : ∀ es, Settings.ofEntries es = .ok c.settings →
      Settings.ofEntries (es.put (.text name) v) = .ok settings) :
    ofEntries (withSetting data name v) = .ok { c with settings } := by
  obtain ⟨serverEntries, settingsEntries, hserverEntries, hsettingsEntries, hserver, hsettings⟩ :=
    of_ofEntries h
  have hserverSection : sectionOf (withSetting data name v) "server" = .ok serverEntries := by
    unfold sectionOf withSetting
    rw [Entries.get?_put_other data _ (by decide)]
    exact hserverEntries
  have hsettingsSection : sectionOf (withSetting data name v) "dynamic_ports" =
      .ok (settingsEntries.put (.text name) v) := by
    unfold sectionOf withSetting
    rw [Entries.get?_put_same]
    unfold sectionOf at hsettingsEntries
    cases hget : data.get? "dynamic_ports" with
    | none =>
        rw [hget] at hsettingsEntries
        cases hsettingsEntries
        rfl
    | some section? =>
        rw [hget] at hsettingsEntries
        cases section? with
        | null | map =>
            cases hsettingsEntries
            rfl
        | _ => cases hsettingsEntries
  unfold ofEntries
  rw [hserverSection, hsettingsSection]
  show (Server.ofEntries serverEntries >>= fun server =>
    Settings.ofEntries (settingsEntries.put (.text name) v) >>= fun settings =>
      Except.ok (⟨server, settings⟩ : Configuration)) = _
  rw [hserver, hset _ hsettings]
  rfl

end Configuration

end ListenerPorts
