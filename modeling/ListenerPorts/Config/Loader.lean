import ListenerPorts.Config.Build
import ListenerPorts.Config.Text
import ListenerPorts.Files.Basic
import ListenerPorts.World.Basic

set_option autoImplicit false

/-! # Loading a configuration

A configuration is asked for by a path or by a name. A path that is a file is taken as it is.
Otherwise the name, less a suffix it may have, is looked for in the search paths in turn, with each
suffix in turn.
-/

namespace ListenerPorts

variable {σ : Type}

structure Loader where
  searchPaths : List Path := [.ofText "config", .ofText "."]

structure Loaded where
  path : Path
  configuration : Configuration

namespace Loader

/-- The suffixes that a configuration file may have, in the order in which they are tried. -/
def suffixes : List String := [".yaml", ".yml", ".json"]

/-- A text less a suffix, if it ends with it. -/
def cutSuffix? (s suffix : String) : Option String :=
  if suffix.toList.isSuffixOf s.toList then
    some (.ofList (s.toList.take (s.toList.length - suffix.toList.length)))
  else none

/-- A name less one suffix that a configuration file may have. -/
def baseName (name : String) : String := (suffixes.findSome? (cutSuffix? name)).getD name

/-- The paths at which a search looks for a name, in order. -/
def candidates (loader : Loader) (name : String) : List Path :=
  loader.searchPaths.flatMap fun p => suffixes.map fun e => p ++ Path.ofText (baseName name ++ e)

theorem mem_candidates {loader : Loader} {name : String} {path : Path} :
    path ∈ loader.candidates name ↔
      ∃ p ∈ loader.searchPaths, ∃ e ∈ suffixes, p ++ Path.ofText (baseName name ++ e) = path := by
  simp [candidates]

/-- All paths at which a file for a name may lie. -/
def places (loader : Loader) (name : String) : List Path := .ofText name :: loader.candidates name

/-- The first file that a search for a name comes upon. A path that cannot be looked at ends the
search. -/
def search (loader : Loader) (files : Files) (name : String) : Except Fault (Option Path) :=
  (loader.candidates name).findM? files.has

def find (loader : Loader) (files : Files) (name : String) : Run σ (Option Path) := do
  if ← Run.lift (files.has (.ofText name)) then return some (.ofText name)
  else
    match ← Run.lift (loader.search files name) with
    | some path =>
      Run.log .configLoader .debug ("Found config file: " ++ path.text)
      return some path
    | none => return none

def readFile (readers : Readers) (files : Files) (path : Path) : Except Fault Configuration := do
  let text ← Files.decodeText (← files.bytes path)
  Configuration.ofEntries (← Configuration.parse readers text path)

def summary (path : Path) (settings : Settings) : String :=
  "Loaded service configuration from " ++ path.text ++ " (dynamic ports: " ++
    settings.useDynamic.plain ++ ", secure: " ++ settings.useSecure.plain ++ ")"

def load (loader : Loader) (readers : Readers) (files : Files) (name : String) : Run σ Loaded := do
  match ← loader.find files name with
  | none => throw (.noSuchFile name (loader.searchPaths.map Path.text))
  | some path =>
    let configuration ← Run.lift (readFile readers files path)
    Run.log .configLoader .info (summary path configuration.settings)
    return ⟨path, configuration⟩

end Loader

end ListenerPorts
