import ScopedExpr.Pass.Leaves
import ScopedExpr.Scope.Hosted

/-!
# Substitution

Rules that put the values of members in the place of reads.
-/

namespace ScopedExpr

/--
A read of a named parameter becomes a constant of its type if a member of exactly this name has a
value. Everything else stays. To look a member up makes its casing in the storage.
-/
def Rules.substitute : Rules (Storage Value) where
  leaf
    | .parameter p =>
      match p.name? with
      | none => return p.read
      | some name => do
        let (found, s) := Hosted.getMemberStrict (← get) name .exact
        set s
        match found with
        | .ok v => TransformM.build (Build.typedConstant v p.ty)
        | .error _ => return p.read
    | l => return .leaf l

end ScopedExpr
