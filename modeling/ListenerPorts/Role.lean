set_option autoImplicit false

/-! # Roles

A service listens in two roles: for its users and for its administration. What it has once for
each role is a pair with one part per role.
-/

namespace ListenerPorts

/-- What a listener is for. -/
inductive Role where
  | application
  | admin
deriving DecidableEq, Repr

def Role.name : Role → String
  | .application => "application"
  | .admin => "admin"

/-- One thing for each role. -/
structure ByRole (α : Type) where
  application : α
  admin : α
deriving DecidableEq, Repr

namespace ByRole

variable {α β : Type}

def get (p : ByRole α) : Role → α
  | .application => p.application
  | .admin => p.admin

def set (p : ByRole α) (role : Role) (a : α) : ByRole α :=
  match role with
  | .application => { p with application := a }
  | .admin => { p with admin := a }

def map (f : α → β) (p : ByRole α) : ByRole β := ⟨f p.application, f p.admin⟩

@[simp] theorem get_set_same (p : ByRole α) (role : Role) (a : α) :
    (p.set role a).get role = a := by
  cases role <;> rfl

@[simp] theorem get_map (f : α → β) (p : ByRole α) (role : Role) :
    (p.map f).get role = f (p.get role) := by
  cases role <;> rfl

end ByRole

end ListenerPorts
