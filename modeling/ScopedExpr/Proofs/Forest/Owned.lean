import ScopedExpr.Proofs.Expr.Positions
import ScopedExpr.Proofs.Forest.Held

/-!
# Owned expressions

What has been made in the course of one forest has numbers of its own: two parameters of one number
are one parameter, in whatever expressions they are read or declared.
-/

namespace ScopedExpr

/--
Whether all nodes and parameters of the expression have numbers that the forest has given out, each
number to one parameter only, and each block has been made.
-/
structure Forest.Owns (f : Forest) (e : Expr) : Prop where
  held : f.Holds e
  made : e.EachBlock Block.Made
  id_lt : ∀ p, e.Mentions p → p.id < f.next
  apart : ∀ p q, e.Mentions p → e.Mentions q → p.id = q.id → p = q

/--
Whether these parameters and expressions can be made while the forest grows from the empty one. A
block gets the next number; it is made of such parameters and expressions.
-/
inductive Forest.Stock : Forest → List Param → List Expr → Prop where
  | empty : Stock {} [] []
  | grown {f g : Forest} {ps : List Param} {es : List Expr} (stock : Stock f ps es)
      (grows : f.Grows g) : Stock g ps es
  | param {f g : Forest} {ps : List Param} {es : List Expr} {name? : Option String} {ty : TypeId}
      {byRef : Bool} {p : Param} (stock : Stock f ps es)
      (made : (Build.param name? ty byRef).run f = (p, g)) : Stock g (p :: ps) es
  | read {f : Forest} {ps : List Param} {es : List Expr} {p : Param} (stock : Stock f ps es)
      (mem : p ∈ ps) : Stock f ps (p.read :: es)
  | constant {f g : Forest} {ps : List Param} {es : List Expr} {value : Value} {ty : TypeId}
      {e : Expr} (stock : Stock f ps es) (made : (Build.typedConstant value ty).run f = (e, g)) :
      Stock g ps (e :: es)
  | placeholder {f g : Forest} {ps : List Param} {es : List Expr} {ty : TypeId} {e : Expr}
      (stock : Stock f ps es) (made : (Build.placeholder ty).run f = (e, g)) : Stock g ps (e :: es)
  | block {f : Forest} {ps : List Param} {es : List Expr} {b : Block Expr} (stock : Stock f ps es)
      (made : b.Made) (id_eq : b.id = f.next) (declared : b.declarations ⊆ ps)
      (parts : b.expressions ⊆ es) : Stock { f with next := f.next + 1 } ps (.block b :: es)

namespace Forest.Stock

variable {f : Forest} {ps : List Param} {es : List Expr} {p q : Param} {e : Expr}

lemma id_lt (stock : f.Stock ps es) : ∀ p ∈ ps, p.id < f.next := by
  induction stock with
  | empty => simp
  | grown _ grows ih => exact fun p mem => Nat.lt_of_lt_of_le (ih p mem) grows.next_le
  | param _ made ih =>
    cases made
    exact List.forall_mem_cons.mpr ⟨Nat.lt_succ_self _, fun p mem => Nat.lt_succ_of_lt (ih p mem)⟩
  | read _ _ ih => exact ih
  | constant _ made ih | placeholder _ made ih =>
    cases made
    exact fun p mem => Nat.lt_succ_of_lt (ih p mem)
  | block _ _ _ _ _ ih => exact fun p mem => Nat.lt_succ_of_lt (ih p mem)

/-- No two parameters that are listed have one number. -/
lemma apart (stock : f.Stock ps es) (hp : p ∈ ps) (hq : q ∈ ps) (same : p.id = q.id) : p = q := by
  induction stock with
  | empty => cases hp
  | grown _ _ ih | read _ _ ih | constant _ _ ih | placeholder _ _ ih | block _ _ _ _ _ ih =>
    exact ih hp hq
  | param stock made ih =>
    -- A new parameter has a number that none of the old ones has.
    cases made
    rcases List.mem_cons.mp hp with rfl | hp <;> rcases List.mem_cons.mp hq with rfl | hq
    · rfl
    · exact absurd same (Nat.ne_of_gt (stock.id_lt q hq))
    · exact absurd same (Nat.ne_of_lt (stock.id_lt p hp))
    · exact ih hp hq

lemma mem_of_mentions (stock : f.Stock ps es) : ∀ e ∈ es, ∀ p, e.Mentions p → p ∈ ps := by
  induction stock with
  | empty => simp
  | grown _ _ ih => exact ih
  | param _ _ ih => exact fun e mem p mentions => List.mem_cons_of_mem _ (ih e mem p mentions)
  | read _ mem ih =>
    refine List.forall_mem_cons.mpr ⟨fun p mentions => ?_, ih⟩
    cases (Expr.mentions_leaf _).mp mentions
    exact mem
  | constant _ made ih | placeholder _ made ih =>
    cases made
    exact List.forall_mem_cons.mpr ⟨by simp, ih⟩
  | block _ _ _ declared parts ih =>
    refine List.forall_mem_cons.mpr ⟨fun p mentions => ?_, ih⟩
    rcases (Expr.mentions_block _).mp mentions with mem | ⟨e, child, mentions⟩
    · exact declared mem
    · exact ih e (parts child) p mentions

lemma held (stock : f.Stock ps es) : ∀ e ∈ es, f.Holds e := by
  induction stock with
  | empty => simp
  | grown _ grows ih => exact fun e mem => (ih e mem).mono grows
  | @param f _ _ _ _ _ _ _ _ made ih =>
    cases made
    exact fun e mem => (ih e mem).mono (Build.fresh.grows f)
  | read stock mem ih =>
    refine List.forall_mem_cons.mpr ⟨?_, ih⟩
    simpa [Param.read, Expr.identity] using stock.id_lt _ mem
  | @constant f _ _ _ _ _ _ _ made ih =>
    refine List.forall_mem_cons.mpr ⟨holds_typedConstant made, fun e mem => ?_⟩
    cases made
    exact (ih e mem).mono (Build.fresh.grows f)
  | @placeholder f _ _ _ _ _ _ made ih =>
    refine List.forall_mem_cons.mpr ⟨holds_placeholder made, fun e mem => ?_⟩
    cases made
    exact (ih e mem).mono (Build.fresh.grows f)
  | @block f _ _ _ _ _ id_eq _ parts ih =>
    have kept := fun e mem => (ih e mem).mono (Build.fresh.grows f)
    refine List.forall_mem_cons.mpr ⟨?_, kept⟩
    refine (holds_block _ _).mpr ⟨?_, fun e child => kept e (parts child)⟩
    rw [id_eq]
    exact Nat.lt_succ_self _

/-- Each block in a listed expression comes from a factory, an update or a rebuild. -/
lemma made (stock : f.Stock ps es) : ∀ e ∈ es, e.EachBlock Block.Made := by
  induction stock with
  | empty => simp
  | grown _ _ ih | param _ _ ih => exact ih
  | read _ _ ih => exact List.forall_mem_cons.mpr ⟨Expr.eachBlock_leaf _, ih⟩
  | constant _ made ih | placeholder _ made ih =>
    cases made
    exact List.forall_mem_cons.mpr ⟨Expr.eachBlock_leaf _, ih⟩
  | block _ made _ _ parts ih =>
    refine List.forall_mem_cons.mpr ⟨?_, ih⟩
    exact (Expr.eachBlock_block _).mpr ⟨made, fun e child => ih e (parts child)⟩

lemma mem_of_has_cons {n : Expr} (here : ∀ m, n.Has m → m = n ∨ m ∈ es)
    (others : ∀ e ∈ es, ∀ m, e.Has m → m ∈ es) : ∀ e ∈ n :: es, ∀ m, e.Has m → m ∈ n :: es := by
  refine List.forall_mem_cons.mpr ⟨fun m has => List.mem_cons.mpr (here m has), ?_⟩
  exact fun e mem m has => List.mem_cons_of_mem _ (others e mem m has)

/-- The parts of what has been made have been made. -/
lemma mem_of_has (stock : f.Stock ps es) : ∀ e ∈ es, ∀ n, e.Has n → n ∈ es := by
  induction stock with
  | empty => simp
  | grown _ _ ih | param _ _ ih => exact ih
  | read _ _ ih => exact mem_of_has_cons (fun n has => .inl ((Expr.has_leaf _).mp has)) ih
  | constant _ made ih | placeholder _ made ih =>
    cases made
    exact mem_of_has_cons (fun n has => .inl ((Expr.has_leaf _).mp has)) ih
  | block _ _ _ _ parts ih =>
    refine mem_of_has_cons (fun n has => ?_) ih
    rcases (Expr.has_block _).mp has with rfl | ⟨e, child, has⟩
    · exact .inl rfl
    · exact .inr (ih e (parts child) n has)

/-- A node that is new is none of those that have been made before. -/
lemma not_same_of_new (stock : f.Stock ps es) {n : Expr} (new : n.identity.number = f.next)
    (mem : e ∈ es) : n.same e = false := by
  have held := stock.held e mem e (Expr.has_self e)
  rw [Expr.same, beq_eq_false_iff_ne]
  intro same
  rw [← same, new] at held
  exact Nat.lt_irrefl _ held

/-- A listed expression with the identity of a read is this read. -/
lemma eq_read_of_same (stock : f.Stock ps es) (known : p ∈ ps) (mem : e ∈ es)
    (same : p.read.same e = true) : p.read = e := by
  have identity : p.read.identity = e.identity := eq_of_beq same
  rcases e with (_ | q | _) | _ <;> simp only [Param.read, Expr.identity, Identity.mk.injEq,
    reduceCtorEq, true_and, false_and] at identity
  have known' := stock.mem_of_mentions _ mem q ((Expr.mentions_leaf _).mpr rfl)
  rw [stock.apart known known' identity, Param.read]

/-- Nodes that are the same are equal, if this is so of the others and the first is apart. -/
lemma eq_of_same_cons {n : Expr} (apart : ∀ e ∈ es, n.same e = true → n = e)
    (others : ∀ e ∈ es, ∀ e' ∈ es, e.same e' = true → e = e') :
    ∀ e ∈ n :: es, ∀ e' ∈ n :: es, e.same e' = true → e = e' := by
  refine List.forall_mem_cons.mpr ⟨?_, fun e mem => List.forall_mem_cons.mpr ⟨?_, others e mem⟩⟩
  · exact List.forall_mem_cons.mpr ⟨fun _ => rfl, apart⟩
  · intro same
    rw [Expr.same, BEq.comm] at same
    exact (apart e mem same).symm

/-- Two nodes that have been made and are the same are one node. -/
lemma eq_of_same (stock : f.Stock ps es) :
    ∀ e ∈ es, ∀ e' ∈ es, e.same e' = true → e = e' := by
  induction stock with
  | empty => simp
  | grown _ _ ih | param _ _ ih => exact ih
  | read stock known ih =>
    exact eq_of_same_cons (fun e mem => stock.eq_read_of_same known mem) ih
  | constant stock made ih | placeholder stock made ih =>
    cases made
    refine eq_of_same_cons (fun e mem same => ?_) ih
    rw [stock.not_same_of_new rfl mem] at same
    cases same
  | @block _ _ _ b stock _ id_eq _ _ ih =>
    refine eq_of_same_cons (fun e mem same => ?_) ih
    have new : (Expr.block b).identity.number = _ := id_eq
    rw [stock.not_same_of_new new mem] at same
    cases same

/-- All that has been made is owned. -/
theorem owns (stock : f.Stock ps es) (mem : e ∈ es) : f.Owns e where
  held := stock.held e mem
  made := stock.made e mem
  id_lt p mentions := stock.id_lt p (stock.mem_of_mentions e mem p mentions)
  apart p q mentions mentions' :=
    stock.apart (stock.mem_of_mentions e mem p mentions) (stock.mem_of_mentions e mem q mentions')

end Forest.Stock

end ScopedExpr
