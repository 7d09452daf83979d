import ListenerPorts.Numeral.Shortest

set_option autoImplicit false

/-! # Values

The values that a configuration is made of: what its text was read as, before anything is known
about its shape. A mapping keeps its entries in the order in which their keys first came, and holds
no key twice. Keys are compared by value, so that the whole number one, the fraction one and `true`
are one key.
-/

namespace ListenerPorts

def daysIn (year month : Nat) : Nat :=
  if month = 2 then
    if year % 4 = 0 ∧ (year % 100 ≠ 0 ∨ year % 400 = 0) then 29 else 28
  else if month = 4 ∨ month = 6 ∨ month = 9 ∨ month = 11 then 30
  else 31

/-- A day of the calendar, in the years one to 9999. -/
structure Date where
  year : Nat
  month : Nat
  day : Nat
  year_pos : 1 ≤ year
  year_le : year ≤ 9999
  month_pos : 1 ≤ month
  month_le : month ≤ 12
  day_pos : 1 ≤ day
  day_le : day ≤ daysIn year month

/-- Days are the same if their numbers are. -/
theorem Date.eq_iff (d e : Date) :
    d = e ↔ d.year = e.year ∧ d.month = e.month ∧ d.day = e.day := by
  cases d
  cases e
  simp

instance : DecidableEq Date := fun d e => decidable_of_decidable_of_iff (Date.eq_iff d e).symm

def Date.of? (year month day : Nat) : Option Date :=
  if h : 1 ≤ year ∧ year ≤ 9999 ∧ 1 ≤ month ∧ month ≤ 12 ∧ 1 ≤ day ∧ day ≤ daysIn year month then
    some ⟨year, month, day, h.1, h.2.1, h.2.2.1, h.2.2.2.1, h.2.2.2.2.1, h.2.2.2.2.2⟩
  else none

/-- A value of a configuration. -/
inductive Value where
  | null
  | bool (b : Bool)
  | int (n : Int)
  | float (x : Float)
  | text (s : String)
  | date (d : Date)
  | list (items : List Value)
  | map (entries : List (Value × Value))
deriving Inhabited

/-- The entries of a mapping, in order. -/
abbrev Entries := List (Value × Value)

namespace Value

def asText? : Value → Option String
  | .text s => some s
  | _ => none

def isText : Value → Bool
  | .text _ => true
  | _ => false

def isNull : Value → Bool
  | .null => true
  | _ => false

/-- Whether the value counts as true: everything does but null, `false`, zero, and what is empty. -/
def isTrue : Value → Bool
  | .null => false
  | .bool b => b
  | .int n => n != 0
  | .float x => x != 0
  | .text s => !s.isEmpty
  | .date _ => true
  | .list items => !items.isEmpty
  | .map entries => !entries.isEmpty

/-- The whole number that a floating-point number is equal to, if there is one. -/
def wholeFloat? (x : Float) : Option Int :=
  if x.isNaN || x.isInf then none
  else
    let b := Numeral.Binary.ofBits x.toBits
    let unit := Nat.pow 2 (-b.power).toNat
    let size := if 0 ≤ b.power then some (b.mantissa * Nat.pow 2 b.power.toNat)
      else if b.mantissa % unit = 0 then some (b.mantissa / unit)
      else none
    size.map fun n => if x < 0 then -(n : Int) else n

/-- The whole number that the value is equal to, if there is one. -/
def asWhole? : Value → Option Int
  | .bool b => some (if b then 1 else 0)
  | .int n => some n
  | .float x => wholeFloat? x
  | _ => none

/-- Whether two values are the same key of a mapping. -/
def sameKey (a b : Value) : Bool :=
  match a, b with
  | .null, .null => true
  | .text s, .text t => s == t
  | .date d, .date e => d == e
  | .float x, .float y => x == y
  | _, _ =>
    match a.asWhole?, b.asWhole? with
    | some m, some n => m == n
    | _, _ => false

end Value

namespace Entries

/-- The entries with one entry set: a key that is present keeps its place and its first form, a new
key goes to the end. -/
def put : Entries → Value → Value → Entries
  | [], k, v => [(k, v)]
  | (k', v') :: es, k, v =>
    if k'.sameKey k then (k', v) :: es else (k', v') :: put es k v

/-- The mapping that entries make when they are set one after the other. -/
def ofList (es : List (Value × Value)) : Entries := es.foldl (fun m e => put m e.1 e.2) []

def get? : Entries → String → Option Value
  | [], _ => none
  | (k, v) :: es, name => if k.asText? = some name then some v else get? es name

def has (es : Entries) (name : String) : Bool := (es.get? name).isSome

/-- The entries without those under a name. -/
def without (es : Entries) (name : String) : Entries := es.filter fun e => e.1.asText? != some name

@[simp] theorem get?_nil (name : String) : get? [] name = none := rfl

theorem get?_cons (k v : Value) (es : Entries) (name : String) :
    get? ((k, v) :: es) name = if k.asText? = some name then some v else es.get? name := rfl

/-- What is found under a name is one of the entries. -/
theorem mem_of_get? {es : Entries} {name : String} {v : Value} (h : es.get? name = some v) :
    (Value.text name, v) ∈ es := by
  induction es with
  | nil => simp at h
  | cons e es ih =>
    obtain ⟨k, w⟩ := e
    rw [get?_cons] at h
    split at h
    · rename_i hk
      cases k <;> simp_all [Value.asText?]
    · exact List.mem_cons_of_mem _ (ih h)

end Entries

end ListenerPorts
