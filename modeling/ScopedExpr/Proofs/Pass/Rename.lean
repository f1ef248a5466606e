import ScopedExpr.Pass.Rename
import ScopedExpr.Proofs.Forest.Owned
import ScopedExpr.Proofs.Traversal.Pointwise

/-!
# Renaming of parameters

A renaming keeps each new parameter under the number of the old one, so that reads and declarations
of one parameter get one new parameter, wherever they are met, and those of two get two.
-/

namespace ScopedExpr

/-! ### Exchanged parameters -/

/-- Whether a parameter is read in the place of a related one, or another leaf has stayed. -/
inductive Leaf.Exchanged (D : Param → Param → Prop) : Leaf → Leaf → Prop where
  | parameter {p q : Param} (related : D p q) : Exchanged D (.parameter p) (.parameter q)
  | constant (c : Constant) : Exchanged D (.constant c) (.constant c)
  | placeholder (h : Placeholder) : Exchanged D (.placeholder h) (.placeholder h)

namespace Expr

variable {D D' : Param → Param → Prop} {e e' : Expr}

lemma Matches.imp (matched : e.Matches (Leaf.Exchanged D) D e') (imp : ∀ p q, D p q → D' p q) :
    e.Matches (Leaf.Exchanged D') D' e' := by
  refine matched.mono (fun l l' exchanged => ?_) imp
  cases exchanged with
  | parameter related => exact .parameter (imp _ _ related)
  | constant c => exact .constant c
  | placeholder h => exact .placeholder h

/-- What mentions no parameter is not exchanged. -/
lemma fixed_of_no_mention (none : ∀ p, ¬ e.Mentions p) : e.Fixed (Leaf.Exchanged D) D where
  leaf l has l' exchanged := by
    cases exchanged with
    | parameter => exact absurd (.inl has) (none _)
    | constant | placeholder => rfl
  declaration p declares := absurd (.inr declares) (none p)

/-- Parameters are related place by place. -/
lemma Along.param?_rel (along : e.Along (Matches (Leaf.Exchanged D) D) e') (place : Place) :
    Option.Rel D (e.param? place) (e'.param? place) := by
  have related := along place.position
  unfold param?
  generalize e.at? place.position = x?, e'.at? place.position = x'? at related
  cases related with
  | none => exact .none
  | some matched =>
    cases matched with
    | leaf exchanged =>
      cases exchanged with
      | parameter related =>
        cases place.declared? with
        | none => exact .some related
        | some i => exact .none
      | constant | placeholder => cases place.declared? <;> exact .none
    | block _ _ declarations =>
      cases place.declared? with
      | none => exact .none
      | some i => exact forall₂_iff_getElem?.mp declarations i

end Expr

/-! ### Calls -/

/-- Whether `q` is a local variable of the type of `p` and with its name made longer. -/
structure Param.Renamed (suffix : String) (p q : Param) : Prop where
  name_eq : q.name? = some (p.displayName ++ suffix)
  ty_eq : q.ty = p.ty
  byValue : q.byRef = false

/--
Whether every entry stands under the number of a parameter of the expression and holds a renamed one
with a number that has been given out since `start`, no two entries the same.
-/
structure Renaming.Valid (suffix : String) (e : Expr) (start : Forest) (known : Renaming)
    (f : Forest) : Prop where
  grows : start.Grows f
  entry : ∀ i q, known.lookup i = some q → start.next ≤ q.id ∧ q.id < f.next ∧
    ∃ p, e.Mentions p ∧ p.id = i ∧ p.Renamed suffix q
  apart : ∀ i j q r, known.lookup i = some q → known.lookup j = some r → q.id = r.id → i = j

namespace Renaming

variable {suffix : String} {e : Expr} {start f g : Forest} {known : Renaming} {p q : Param}

lemma Valid.mono (valid : Valid suffix e start known f) (grows : f.Grows g) :
    Valid suffix e start known g where
  grows := valid.grows.trans grows
  entry i q found := by
    obtain ⟨new, lt, renamed⟩ := valid.entry i q found
    exact ⟨new, Nat.lt_of_lt_of_le lt grows.next_le, renamed⟩
  apart := valid.apart

lemma lookup_cons (known : Renaming) (p q : Param) (i : Nat) :
    List.lookup i ((p.id, q) :: known) = if i = p.id then some q else known.lookup i := by
  rw [List.lookup_cons]
  split <;> simp_all

/-- A new entry for a parameter that has none. -/
lemma Valid.cons (valid : Valid suffix e start known f) (mentions : e.Mentions p)
    (renamed : p.Renamed suffix q) (id_eq : q.id = f.next) :
    Valid suffix e start ((p.id, q) :: known) { f with next := f.next + 1 } where
  grows := valid.grows.trans (Build.fresh.grows f)
  entry i r found := by
    rw [lookup_cons] at found
    split at found
    · cases found
      refine ⟨id_eq ▸ valid.grows.next_le, id_eq ▸ Nat.lt_succ_self _, p, mentions, ?_, renamed⟩
      exact Eq.symm ‹_›
    · obtain ⟨new, lt, renamed⟩ := valid.entry i r found
      exact ⟨new, Nat.lt_succ_of_lt lt, renamed⟩
  apart i j r r' found found' same := by
    -- The number of the new parameter is none of those that have been given out.
    have old (k : Nat) (x : Param) (found : known.lookup k = some x) : x.id ≠ q.id := by
      rw [id_eq]
      exact Nat.ne_of_lt (valid.entry k x found).2.1
    rw [lookup_cons] at found found'
    split at found <;> split at found'
    · exact Eq.trans ‹_› (Eq.symm ‹_›)
    · cases found
      exact absurd same.symm (old j r' found')
    · cases found'
      exact absurd same (old i r found)
    · exact valid.apart i j r r' found found' same

def Extends (known top : Renaming) : Prop := ∀ i q, known.lookup i = some q → top.lookup i = some q

/-- One call gives the entry of the parameter, which is made if there is none yet. -/
lemma outcome_param (suffix : String) (p : Param) (known : Renaming) (f : Forest) :
    (∃ q, known.lookup p.id = some q ∧ (param suffix p).outcome known f = (.ok (q, known), f)) ∨
    (known.lookup p.id = none ∧ ∃ q, p.Renamed suffix q ∧ q.id = f.next ∧
      (param suffix p).outcome known f =
        (.ok (q, (p.id, q) :: known), { f with next := f.next + 1 })) := by
  have start : (get : TransformM Renaming _).outcome known f = (.ok (known, known), f) := rfl
  unfold param
  rw [TransformM.outcome_bind_of_ok start]
  cases known.lookup p.id with
  | some q => exact .inl ⟨q, rfl, rfl⟩
  | none => exact .inr ⟨rfl, ⟨f.next, _, p.ty, false⟩, ⟨rfl, rfl, rfl⟩, rfl, rfl⟩

/-- The renaming stays valid, and what it leaves in the end is taken for `top`. -/
def contract (suffix : String) (e : Expr) (start : Forest) (top : Renaming) :
    Contract Renaming where
  inv := Valid suffix e start
  inv_mono _ _ _ valid grows := valid.mono grows
  final known := known.Extends top

variable {top : Renaming}

/-- Whether `q` is the entry of `p` and a renamed `p`. -/
structure Maps (suffix : String) (top : Renaming) (p q : Param) : Prop where
  found : top.lookup p.id = some q
  renamed : p.Renamed suffix q

/-- The rule gives the entry of a parameter, and makes it first if there is none. -/
lemma meets_param (owned : start.Owns e) (mentions : e.Mentions p) :
    (param suffix p).Meets (contract suffix e start top) fun q =>
      Maps suffix top p q ∧ p.id < q.id := by
  intro known f q known' g valid given
  have old := owned.id_lt p mentions
  rcases outcome_param suffix p known f with ⟨r, found, ends⟩ | ⟨none, r, renamed, id_eq, ends⟩
  · cases given.symm.trans ends
    obtain ⟨new, -, p', mentions', same, renamed⟩ := valid.entry _ _ found
    obtain rfl := owned.apart p' p mentions' mentions same
    refine ⟨valid, fun final => ⟨final, ⟨final _ _ found, renamed⟩, Nat.lt_of_lt_of_le old new⟩⟩
  · cases given.symm.trans ends
    have valid' := valid.cons mentions renamed id_eq
    have found : List.lookup p.id ((p.id, q) :: known) = some q := by simp
    refine ⟨valid', fun final => ⟨?_, ⟨final _ _ found, renamed⟩, ?_⟩⟩
    · intro i x known_i
      apply final
      rw [lookup_cons, if_neg (by rintro rfl; simp [none] at known_i)]
      exact known_i
    · exact Nat.lt_of_lt_of_le old (valid'.entry _ _ found).1

/-- New parameters are the same exactly if the old ones are. -/
lemma Valid.same_eq {p' q' : Param} (valid : Valid suffix e start known f)
    (maps : Maps suffix known p q) (maps' : Maps suffix known p' q') :
    q.same q' = p.same p' := by
  rw [Bool.eq_iff_iff, Param.same, Param.same, beq_iff_eq, beq_iff_eq]
  constructor
  · exact valid.apart _ _ _ _ maps.found maps'.found
  · intro same
    have found := maps.found
    rw [same, maps'.found, Option.some.injEq] at found
    rw [found]

end Renaming

namespace Rules

open Renaming

variable {suffix : String} {e : Expr} {start : Forest} {top : Renaming}

/-- Wherever a parameter is met, its entry takes its place. -/
lemma relates_rename (owned : start.Owns e) : (rename suffix).Relates (contract suffix e start top)
    (Leaf.Exchanged (Maps suffix top)) (Maps suffix top) e where
  leaf l has := by
    cases l with
    | constant c => exact TransformM.Meets.pure ⟨_, rfl, .constant c, fun _ => rfl⟩
    | placeholder h => exact TransformM.Meets.pure ⟨_, rfl, .placeholder h, fun _ => rfl⟩
    | parameter p =>
      apply (meets_param owned (.inl has)).map.imp
      rintro _ ⟨q, rfl, maps, lt⟩
      refine ⟨.parameter q, rfl, .parameter maps, fun same => ?_⟩
      rw [Expr.same, beq_iff_eq] at same
      exact absurd (congrArg Identity.number same) (Nat.ne_of_gt lt)
  declaration p declares := by
    apply (meets_param owned (.inr declares)).imp
    rintro q ⟨maps, lt⟩
    refine ⟨maps, fun same => ?_⟩
    exact absurd (eq_of_beq same) (Nat.ne_of_gt lt)

lemma quiet_rename (suffix : String) : (rename suffix).transformer.Quiet := by
  have param (p : Param) : (Renaming.param suffix p).Quiet := by
    intro known f
    rcases outcome_param suffix p known f with ⟨q, -, ends⟩ | ⟨-, q, -, -, ends⟩
    · exact ⟨_, _, _, ends⟩
    · exact ⟨_, _, _, ends⟩
  refine quiet (fun l known f => ?_) param
  cases l with
  | constant | placeholder => exact ⟨_, _, _, rfl⟩
  | parameter p =>
    obtain ⟨q, known', g, ends⟩ := param p known f
    exact ⟨q.read, known', g, TransformM.outcome_bind_of_ok ends⟩

/--
A renaming gives a tree with the same positions, shapes and counts, in which every parameter has
been exchanged for a local variable with a longer name. Two parameters of the new tree are the same
one exactly if those at the same places of the old tree are, be they read or declared, and none of
them is one of the old tree. All types are kept, and whatever mentions no parameter stays as it is.
-/
theorem rename_consistent (suffix : String) (owned : start.Owns e) :
    ∃ e' known g, ((rename suffix).transform e).outcome [] start = (.ok (e', known), g) ∧
      e.Along (fun x x' =>
        x.Matches (Leaf.Exchanged (Param.Renamed suffix)) (Param.Renamed suffix) x' ∧
        x'.ty = x.ty ∧ ((∀ p, ¬ x.Mentions p) → x' = x)) e' ∧
      (∀ place, Option.Rel (Param.Renamed suffix) (e.param? place) (e'.param? place)) ∧
      (∀ place₁ place₂ p₁ p₂ q₁ q₂, e.param? place₁ = some p₁ → e.param? place₂ = some p₂ →
        e'.param? place₁ = some q₁ → e'.param? place₂ = some q₂ → q₁.same q₂ = p₁.same p₂) ∧
      ∀ p q, e.Mentions p → e'.Mentions q → q.same p = false := by
  obtain ⟨e', known, g, given⟩ := (quiet_rename suffix).transform e [] start
  -- What the calls have in common is the renaming that they leave in the end.
  have relates : (rename suffix).Relates (contract suffix e start known)
      (Leaf.Exchanged (Maps suffix known)) (Maps suffix known) e := relates_rename owned
  obtain ⟨valid, back⟩ := relates.meets_transform owned.made
    (fun _ _ valid => owned.held.mono valid.grows) [] start e' known g
    ⟨.refl start, nofun, nofun⟩ given
  obtain ⟨-, along, -⟩ := back fun _ _ found => found
  have places := (along.imp fun _ _ along => along.here.1).param?_rel
  refine ⟨e', known, g, given, ?_, ?_, ?_, ?_⟩
  · apply along.imp
    intro x x' along
    refine ⟨along.here.1.imp fun _ _ maps => maps.renamed, along.ty_eq ?_ ?_,
      fun none => along.here.2 (Expr.fixed_of_no_mention none)⟩
    · rintro l _ ⟨⟨⟨maps⟩ | _ | _⟩, -⟩
      · exact maps.renamed.ty_eq
      · rfl
      · rfl
    · rintro b _ ⟨⟨⟩, -⟩
      exact ⟨_, rfl⟩
  · exact (along.imp fun _ _ along => along.here.1.imp fun _ _ maps => maps.renamed).param?_rel
  · intro place₁ place₂ p₁ p₂ q₁ q₂ found₁ found₂ found₁' found₂'
    have maps₁ := places place₁
    have maps₂ := places place₂
    rw [found₁, found₁', Option.rel_some_some] at maps₁
    rw [found₂, found₂', Option.rel_some_some] at maps₂
    exact valid.same_eq maps₁ maps₂
  · intro p q mentions mentions'
    obtain ⟨place, found⟩ := Expr.mentions_iff_param?.mp mentions'
    have related := places place
    rw [found] at related
    generalize e.param? place = p? at related
    cases related with
    | some maps =>
      have new := (valid.entry _ _ maps.found).1
      have old := owned.id_lt p mentions
      exact beq_false_of_ne (Nat.ne_of_gt (Nat.lt_of_lt_of_le old new))

/--
Two variables have one name, and the outer one is read in the scope of the inner one; a parameter
that is passed by reference is read twice and declared nowhere.
-/
theorem rename_consistent_shadowed :
    let x : Param := ⟨0, some "x", .int, false⟩
    let y : Param := ⟨1, some "x", .int, false⟩
    let z : Param := ⟨2, some "z", .str, true⟩
    let x' : Param := ⟨5, some ("x" ++ "_1"), .int, false⟩
    let y' : Param := ⟨7, some ("x" ++ "_1"), .int, false⟩
    let z' : Param := ⟨6, some ("z" ++ "_1"), .str, false⟩
    let e : Expr := .block ⟨4, .scopeN [x] z.read
      [.block ⟨3, .scopeN [y] x.read [y.read, z.read]⟩]⟩
    let e' : Expr := .block ⟨9, .scopeN [x'] z'.read
      [.block ⟨8, .scopeN [y'] x'.read [y'.read, z'.read]⟩]⟩
    (∃ known g, ((rename "_1").transform e).outcome [] { next := 5 } = (.ok (e', known), g)) ∧
      e'.ty = e.ty ∧ ∀ p q, e.Mentions p → e'.Mentions q → q.same p = false := by
  intro x y z x' y' z' e e'
  let inner : Block Expr := ⟨3, .scopeN [y] x.read [y.read, z.read]⟩
  let outer : Block Expr := ⟨4, .scopeN [x] z.read [.block inner]⟩
  have stock : Forest.Stock { next := 3 } [z, y, x] [z.read, y.read, x.read] := by
    refine .read (.read (.read ?_ (by simp)) (by simp)) (by simp)
    exact .param (.param (.param .empty rfl) rfl) rfl
  have given : Gives (Build.scope [y] [x.read, y.read, z.read]) (.block inner) :=
    ⟨{ next := 3 }, rfl⟩
  have given' : Gives (Build.scope [x] [z.read, .block inner]) (.block outer) :=
    ⟨{ next := 4 }, rfl⟩
  have stock' := stock.block (.scope given) rfl
    (by simp [inner, Block.declarations, Layout.declarations])
    (by simp [inner, Block.expressions, Layout.expressions])
  have stock'' := stock'.block (.scope given') rfl
    (by simp [outer, Block.declarations, Layout.declarations])
    (by simp [outer, Block.expressions, Layout.expressions])
  obtain ⟨e₁, known, g, renamed, along, -, -, new⟩ :=
    rename_consistent "_1" (stock''.owns List.mem_cons_self)
  obtain ⟨known', h, computed⟩ : ∃ known' h,
      ((rename "_1").transform e).outcome [] { next := 5 } = (.ok (e', known'), h) := ⟨_, _, rfl⟩
  cases renamed.symm.trans computed
  exact ⟨⟨known, g, renamed⟩, along.here.2.1, new⟩

end Rules

end ScopedExpr
