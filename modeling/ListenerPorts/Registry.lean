import ListenerPorts.Fault
import ListenerPorts.Text.Blank
import ListenerPorts.Text.Lowercase
import ListenerPorts.Text.Sorted

set_option autoImplicit false

/-! # The finder registry

The finders that a configuration may name. A finder is registered under the lower case of its own
name and looked up by a name whose case and surrounding blanks do not matter. Registering a second
finder under a name replaces the first.
-/

namespace ListenerPorts

/-- A finder: one of the built-in ones, or one of another kind, which has a label, gives itself a
name and searches by one of the strategies. -/
inductive Finder where
  | builtIn (strategy : Strategy)
  | custom (label name : String) (strategy : Strategy)
deriving DecidableEq, Repr

namespace Finder

def name : Finder → String
  | builtIn s => s.name
  | custom _ name _ => name

def strategy : Finder → Strategy
  | builtIn s | custom _ _ s => s

/-- What the kind of a finder is called. -/
def label : Finder → String
  | builtIn s => s.name
  | custom label _ _ => label

end Finder

/-- The registered finders, each with the key it is found by. -/
structure Registry where
  finders : List (String × Finder)

namespace Registry

/-- The finders with one set under a key. -/
def put : List (String × Finder) → String → Finder → List (String × Finder)
  | [], key, f => [(key, f)]
  | (k, g) :: fs, key, f => if k = key then (k, f) :: fs else (k, g) :: put fs key f

@[simp] theorem lookup_put_same (fs : List (String × Finder)) (key : String) (f : Finder) :
    (put fs key f).lookup key = some f := by
  induction fs with
  | nil => simp [put]
  | cons g fs ih =>
    obtain ⟨k, g⟩ := g
    by_cases h : k = key
    · simp [put, h]
    · have hk : (key == k) = false := beq_eq_false_iff_ne.mpr (Ne.symm h)
      simp [put, h, List.lookup_cons, ih, hk]

theorem lookup_put_other (fs : List (String × Finder)) {key other : String} (f : Finder)
    (h : other ≠ key) : (put fs key f).lookup other = fs.lookup other := by
  induction fs with
  | nil => simp [put, h]
  | cons g fs ih =>
    obtain ⟨k, g⟩ := g
    by_cases hk : k = key
    · subst hk
      have ho : (other == k) = false := beq_eq_false_iff_ne.mpr h
      simp [put, List.lookup_cons, ho]
    · simp [put, hk, List.lookup_cons, ih]

def find? (r : Registry) (key : String) : Option Finder := r.finders.lookup key

/-- The registry with one more finder, under the lower case of its name. -/
def register (r : Registry) (f : Finder) : Except Fault Registry :=
  if f.name.isEmpty then fail (.finderUnnamed f.label)
  else .ok ⟨put r.finders (Text.lower f.name) f⟩

def builtIn : Registry := ⟨Strategy.all.map fun s => (s.name, .builtIn s)⟩

def names (r : Registry) : List String := Text.sortNames (r.finders.map (·.1))

def keyOf (name : String) : String := Text.lower (Text.trim name)

def select (r : Registry) (name : String) : Except Fault Finder :=
  match r.find? (keyOf name) with
  | some f => .ok f
  | none => fail (.finderUnknown name r.names)

/-- The finder that a value selects: the random one for a value that is empty or missing. -/
def create (r : Registry) (name : Value) : Except Fault Finder :=
  if name.isTrue then
    match name with
    | .text s => r.select s
    | _ => .error .nameNotText
  else r.select Strategy.random.name

end Registry

end ListenerPorts
