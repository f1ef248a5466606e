import ScopedExpr.Pass.Leaves
import ScopedExpr.Proofs.Forest.WellFormed
import ScopedExpr.Proofs.Traversal.Reach

/-!
# Transformations of well-formed trees

A block is rebuilt without a look at its parts. A transformation by rules nevertheless keeps a tree
well formed if its calls do: those on leaves give well-formed trees and lose no value, and those on
the declarations of a block give variables that a scope may declare.
-/

namespace ScopedExpr

variable {σ : Type}

/--
An exchange puts well-formed parts together, or keeps parts that have been well formed before.
-/
lemma Block.Becomes.wellFormed {b b' : Block Expr} {ps : List Param} {args : List Expr}
    {f g : Forest} (becomes : b.Becomes ps args f b' g) (before : (Expr.block b).WellFormed)
    (declarable : Declarable ps) (readable : ∀ arg ∈ args, arg.canRead = true)
    (parts : ∀ arg ∈ args, arg.WellFormed) : (Expr.block b').WellFormed := by
  obtain ⟨⟨readable', declarable'⟩, parts'⟩ := (Expr.wellFormed_block b).mp before
  rw [Expr.wellFormed_block]
  constructor
  · constructor
    · rcases becomes.expressions_eq with eq | eq
      · exact eq ▸ readable'
      · exact eq ▸ readable
    · rcases becomes.declarations_eq with eq | eq
      · exact eq ▸ declarable'
      · exact eq ▸ declarable
  · rcases becomes.expressions_eq with eq | eq
    · exact eq ▸ parts'
    · exact eq ▸ parts

namespace Rules

/--
Whether every call on a leaf gives a well-formed tree, which has a value if the leaf has one, and
the calls on the declarations of a block give variables that a scope may declare.
-/
structure KeepsWellFormed (rules : Rules σ) (e : Expr) (st : σ) (f : Forest) : Prop where
  wellFormed : ∀ l answer, rules.LeafCall e st f l answer → answer.WellFormed
  canRead : ∀ l answer, rules.LeafCall e st f l answer → l.canRead = true → answer.canRead = true
  declarable : ∀ b st₁ f₁ ps st₂ f₂, rules.Reaches e st f (.block b) st₁ f₁ →
    Calls rules.declaration b.declarations st₁ f₁ ps st₂ f₂ → Declarable ps

variable {rules : Rules σ} {e e' : Expr} {b : Block Expr} {ps : List Param}
  {st st' st₁ st₂ : σ} {f f₁ f₂ g : Forest}

lemma KeepsWellFormed.child (keeps : rules.KeepsWellFormed (.block b) st f)
    (declarations : Calls rules.declaration b.declarations st f ps st₁ f₁)
    (called : CalledOn rules.transform b.expressions st₁ f₁ e st₂ f₂) :
    rules.KeepsWellFormed e st₂ f₂ where
  wellFormed l answer call := keeps.wellFormed l answer (call.of_child declarations called)
  canRead l answer call := keeps.canRead l answer (call.of_child declarations called)
  declarable b' _ _ qs _ _ reaches :=
    keeps.declarable b' _ _ qs _ _ (.child declarations called reaches)

/-- A transformation by such rules gives well-formed trees, with values where there were any. -/
lemma wellFormed_of_transform (wellFormed : e.WellFormed) (keeps : rules.KeepsWellFormed e st f)
    (given : (rules.transform e).outcome st f = (.ok (e', st'), g)) :
    e'.WellFormed ∧ (e.canRead = true → e'.canRead = true) := by
  -- The second part is what a block asks of its children.
  induction e using Expr.inductionOn generalizing e' st st' f g with
  | leaf l =>
    rw [transform_leaf] at given
    have call : rules.LeafCall (.leaf l) st f l e' := ⟨.here _ _ _, given⟩
    exact ⟨keeps.wellFormed l e' call, keeps.canRead l e' call⟩
  | block b ih =>
    obtain ⟨ps, args, st₁, f₁, f₂, b', declarations, expressions, rfl, becomes⟩ :=
      transform_block_ok given
    obtain ⟨here, below⟩ := (Expr.wellFormed_block b).mp wellFormed
    have each : ∀ arg ∈ args, arg.WellFormed ∧ arg.canRead = true := by
      intro arg mem
      obtain ⟨kid, _, _, _, _, called, call, -⟩ := expressions.exists_of_mem mem
      obtain ⟨kept, read⟩ := ih kid called.mem (below kid called.mem)
        (keeps.child declarations called) call
      exact ⟨kept, read (here.readable kid called.mem)⟩
    have declarable := keeps.declarable b _ _ ps _ _ (.here _ _ _) declarations
    refine ⟨becomes.wellFormed wellFormed declarable ?_ ?_, fun _ => rfl⟩
    · exact fun arg mem => (each arg mem).2
    · exact fun arg mem => (each arg mem).1

/--
A tree is well formed exactly if the factory of scopes takes the parts of each of its blocks, and
the factories build well-formed trees of well-formed parts. If a tree is well formed and the calls
on it keep it so, then the transformation ends in a well-formed tree, unless one of the calls ends
in a misuse.
-/
theorem transform_wellFormed (rules : Rules σ) {e : Expr} {st : σ} {f : Forest}
    (wellFormed : e.WellFormed) (keeps : rules.KeepsWellFormed e st f) :
    (∀ e : Expr, e.WellFormed ↔ e.EachBlock Block.Accepted) ∧
    (∀ e : Expr, e.BuiltOf Expr.WellFormed → e.WellFormed) ∧
    ((∃ misuse g, rules.CallFails e st f misuse g ∧
        (rules.transform e).outcome st f = (.error misuse, g)) ∨
      ∃ e' st' g, (rules.transform e).outcome st f = (.ok (e', st'), g) ∧
        e'.WellFormed ∧ e'.EachBlock Block.Accepted) := by
  refine ⟨fun _ => Expr.wellFormed_iff, fun _ => Expr.BuiltOf.wellFormed, ?_⟩
  rcases ends : (rules.transform e).outcome st f with ⟨misuse | ⟨e', st'⟩, g⟩
  · exact .inl ⟨misuse, g, callFails_of_error ends, rfl⟩
  · have kept := (wellFormed_of_transform wellFormed keeps ends).1
    exact .inr ⟨e', st', g, rfl, kept, Expr.wellFormed_iff.mp kept⟩

/-- A read gives way to a whole scope, and the declaration to another one. -/
theorem transform_wellFormed_nested :
    let x : Param := ⟨0, some "x", .int, false⟩
    let y : Param := ⟨1, some "y", .int, false⟩
    let inner : Expr := .block ⟨3, .scope1 [y] y.read⟩
    let rules : Rules Unit :=
      { leaf := fun _ => return inner
        declaration := fun p => TransformM.build (Build.localVariable "z" p.ty) }
    let e : Expr := .block ⟨2, .scope1 [x] x.read⟩
    let f : Forest := { next := 4 }
    e.WellFormed ∧ rules.KeepsWellFormed e () f ∧
      ∃ e' g, (rules.transform e).outcome () f = (.ok (e', ()), g) ∧ e'.same e = false ∧
        e'.WellFormed ∧ e'.EachBlock Block.Accepted := by
  intro x y inner rules e f
  have wellFormed (id : Nat) (p : Param) (byValue : p.byRef = false) :
      (Expr.block ⟨id, .scope1 [p] p.read⟩).WellFormed := by
    rw [Expr.wellFormed_block]
    refine ⟨⟨?_, ?_, ?_⟩, ?_⟩ <;>
      simp [Block.expressions, Block.declarations, Layout.expressions, Layout.declarations,
        Param.read, Expr.canRead, Leaf.canRead, byValue]
  have keeps : rules.KeepsWellFormed e () f := by
    constructor
    · rintro l answer ⟨-, call⟩
      cases call
      exact wellFormed 3 y rfl
    · rintro l answer ⟨-, call⟩ -
      cases call
      rfl
    · intro b _ _ ps _ _ reaches declarations
      subst e
      cases reaches with
      | here =>
        cases declarations with
        | cons call calls =>
          cases call
          cases calls
          exact ⟨List.forall_mem_singleton.mpr rfl, List.pairwise_singleton _ _⟩
      | child _ called reaches =>
        cases called with
        | head => cases reaches
        | tail _ called => cases called
  obtain ⟨-, -, ⟨_, _, -, ends⟩ | ⟨e', _, g, ends, kept⟩⟩ :=
    transform_wellFormed rules (wellFormed 2 x rfl) keeps
  · cases ends
  · refine ⟨wellFormed 2 x rfl, keeps, e', g, ends, ?_, kept⟩
    cases ends
    rfl

end Rules

end ScopedExpr
