import ScopedExpr.Pass.Leaves

/-!
# Renaming

Rules that exchange parameters. A parameter is given the same new parameter wherever it is met.
-/

namespace ScopedExpr

variable {σ : Type}

/-- The new parameters so far, each under the number of the old one. -/
abbrev Renaming := List (Nat × Param)

/-- The new parameter for an old one: a local variable with a longer name and the same type. -/
def Renaming.param (suffix : String) (p : Param) : TransformM Renaming Param := do
  let known ← get
  match known.lookup p.id with
  | some q => return q
  | none =>
    let q ← TransformM.build (Build.localVariable (p.displayName ++ suffix) p.ty)
    set ((p.id, q) :: known)
    return q

/-- Rename declarations and reads alike. -/
def Rules.rename (suffix : String) : Rules Renaming where
  leaf
    | .parameter p => do return (← Renaming.param suffix p).read
    | l => return .leaf l
  declaration := Renaming.param suffix

def Rules.renameDeclarations (suffix : String) : Rules Renaming where
  declaration := Renaming.param suffix

/-- Declare one parameter in the place of another. -/
def Rules.swapDeclaration (old new : Param) : Rules σ where
  declaration p := return if p.same old then new else p

end ScopedExpr
