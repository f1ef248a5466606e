import Mathlib.Data.List.Forall2
import Mathlib.Tactic.Common
import ScopedExpr.Forest.Rebuild

/-!
# Blocks that are made

A block comes from a factory, from an update or from a rebuild. All of them leave it in the layout
that fits the numbers of its variables and children, and a rebuild keeps these numbers.
-/

namespace ScopedExpr

/-! ### Lists of the same items -/

lemma isEqv_iff_forall₂ {α : Type} {same : α → α → Bool} {as bs : List α} :
    as.isEqv bs same = true ↔ List.Forall₂ (fun a b => same a b = true) as bs := by
  induction as generalizing bs with
  | nil => cases bs <;> simp
  | cons a as ih => cases bs <;> simp [List.isEqv, ih]

/-- Lists of related items are equal if only equal items of theirs are related. -/
lemma eq_of_forall₂ {α : Type} {R : α → α → Prop} {as bs : List α} (related : List.Forall₂ R as bs)
    (apart : ∀ a ∈ as, ∀ b ∈ bs, R a b → a = b) : as = bs := by
  induction related with
  | nil => rfl
  | cons head _ ih =>
    rw [apart _ List.mem_cons_self _ List.mem_cons_self head,
      ih fun a ha b hb => apart a (List.mem_cons_of_mem _ ha) b (List.mem_cons_of_mem _ hb)]

lemma Param.same_refl (p : Param) : p.same p = true := beq_self_eq_true _

lemma Expr.same_refl (e : Expr) : e.same e = true := beq_self_eq_true _

/-! ### Layouts that fit -/

def Shape.ofCounts : Nat → Nat → Shape
  | 0, 2 => .block2
  | 0, 3 => .block3
  | 0, 4 => .block4
  | 0, 5 => .block5
  | 0, _ => .blockN
  | _ + 1, 1 => .scope1
  | _ + 1, _ => .scopeN

lemma Shape.isScope_ofCounts (declared children : Nat) :
    (Shape.ofCounts declared children).isScope = true ↔ declared ≠ 0 := by
  unfold Shape.ofCounts
  split <;> simp [Shape.isScope]

/-- Whether the layout is the one for its numbers of variables and children. -/
def Layout.Fits {α : Type} (l : Layout α) : Prop :=
  l.shape = .ofCounts l.declarations.length l.count

namespace Layout

variable {α : Type} {l l' : Layout α} {declarations : List Param} {first : α} {rest : List α}

@[simp] lemma count_ofPlain : (ofPlain first rest).count = rest.length + 1 := by
  rw [← length_expressions, expressions_ofPlain, List.length_cons]

@[simp] lemma count_ofScope : (ofScope declarations first rest).count = rest.length + 1 := by
  rw [← length_expressions, expressions_ofScope, List.length_cons]

lemma fits_ofPlain (first : α) (rest : List α) : (ofPlain first rest).Fits := by
  rw [Fits, count_ofPlain, declarations_ofPlain]
  rcases rest with _ | ⟨b, _ | ⟨c, _ | ⟨d, _ | ⟨e, _ | ⟨f, rest⟩⟩⟩⟩⟩ <;> rfl

lemma fits_ofScope (declared : declarations ≠ []) (first : α) (rest : List α) :
    (ofScope declarations first rest).Fits := by
  rw [Fits, count_ofScope, declarations_ofScope]
  rcases declarations with _ | ⟨p, declarations⟩
  · exact absurd rfl declared
  · rcases rest with _ | ⟨b, rest⟩ <;> rfl

/-- A layout that fits is that of a scope exactly if it declares variables. -/
lemma Fits.isScope_iff (fits : l.Fits) : l.shape.isScope = true ↔ l.declarations ≠ [] := by
  rw [fits, Shape.isScope_ofCounts, ne_eq, List.length_eq_zero_iff]

/-- Two layouts that fit have one shape if they have as many variables and children. -/
lemma Fits.shape_eq (fits : l.Fits) (fits' : l'.Fits)
    (declared : l'.declarations.length = l.declarations.length) (children : l'.count = l.count) :
    l'.shape = l.shape := by
  rw [fits, fits', declared, children]

/-- Of all layouts of these variables and children only one fits. -/
lemma Fits.ext (fits : l.Fits) (fits' : l'.Fits) (declared : l.declarations = l'.declarations)
    (expressed : l.expressions = l'.expressions) : l = l' := by
  have shape_eq : l'.shape = l.shape := by
    refine fits.shape_eq fits' (by rw [declared]) ?_
    rw [← length_expressions, ← length_expressions, expressed]
  cases l <;> cases l' <;> simp_all [shape, declarations, expressions]

/-! ### Rebuilt layouts -/

@[simp] lemma expressions_rebuilt (l : Layout α) (declarations? : Option (List Param)) (first : α)
    (rest : List α) : (l.rebuilt declarations? first rest).expressions = first :: rest := by
  unfold rebuilt
  split <;> simp

variable {declarations? : Option (List Param)}

/-- A layout of a plain shape has no place for variables. -/
lemma declarations_eq_nil (plain : l.shape.isScope = false) : l.declarations = [] := by
  cases l with
  | block2 | block3 | block4 | block5 | blockN => rfl
  | scope1 | scopeN => cases plain

/-- With as many variables as before a rebuild has those that are given, or else the old ones. -/
lemma declarations_rebuilt
    (length_eq : (declarations?.getD l.declarations).length = l.declarations.length) (first : α)
    (rest : List α) :
    (l.rebuilt declarations? first rest).declarations = declarations?.getD l.declarations := by
  unfold rebuilt
  split
  · exact declarations_ofScope ..
  · rename_i plain
    have none : l.declarations = [] := declarations_eq_nil (by simpa using plain)
    rw [none, List.length_nil, List.length_eq_zero_iff] at length_eq
    rw [declarations_ofPlain, none, length_eq]

/-- A rebuild fits if the old layout does and the number of variables has not changed. -/
lemma Fits.rebuilt (fits : l.Fits)
    (length_eq : (declarations?.getD l.declarations).length = l.declarations.length) (first : α)
    (rest : List α) : (l.rebuilt declarations? first rest).Fits := by
  unfold Layout.rebuilt
  split
  · rename_i scope
    refine fits_ofScope ?_ first rest
    rw [← List.length_pos_iff, length_eq, List.length_pos_iff]
    exact fits.isScope_iff.mp scope
  · exact fits_ofPlain first rest

end Layout

/-! ### What a computation gives -/

def Gives {ε α : Type} (x : ExceptT ε Build α) (a : α) : Prop := ∃ f, (x.run.run f).1 = .ok a

section Gives

variable {ε α β : Type}

@[simp] lemma gives_pure {a b : α} : Gives (pure a : ExceptT ε Build α) b ↔ a = b := by
  constructor
  · rintro ⟨f, h⟩
    cases h
    rfl
  · rintro rfl
    exact ⟨{}, rfl⟩

@[simp] lemma not_gives_throw {e : ε} {a : α} : ¬ Gives (throw e : ExceptT ε Build α) a := by
  rintro ⟨f, h⟩
  cases h

/-- A computation in two parts gives a result where both parts do. -/
lemma run_bind_eq_ok {x : ExceptT ε Build α} {next : α → ExceptT ε Build β} {b : β} {f g : Forest}
    (ends : (x >>= next).run.run f = (.ok b, g)) :
    ∃ a f', x.run.run f = (.ok a, f') ∧ (next a).run.run f' = (.ok b, g) := by
  rw [ExceptT.run_bind, Build.run_bind] at ends
  rcases ran : x.run.run f with ⟨e | a, f'⟩
  · rw [ran] at ends
    cases ends
  · rw [ran] at ends
    exact ⟨a, f', rfl, ends⟩

/-- What a sequence gives, its second part gives for a result of the first one. -/
lemma Gives.of_bind {x : ExceptT ε Build α} {next : α → ExceptT ε Build β} {b : β}
    (h : Gives (x >>= next) b) : ∃ a, Gives x a ∧ Gives (next a) b := by
  obtain ⟨f, h⟩ := h
  obtain ⟨a, f', ran, ends⟩ := run_bind_eq_ok (Prod.ext h rfl)
  exact ⟨a, ⟨f, congrArg Prod.fst ran⟩, f', congrArg Prod.fst ends⟩

lemma gives_check {check : Except ε α} {a : α} :
    Gives (liftM check : ExceptT ε Build α) a ↔ check = .ok a := by
  constructor
  · rintro ⟨f, ends⟩
    exact ends
  · intro ends
    exact ⟨{}, ends⟩

/-- A new block has the layout that is asked for. -/
lemma gives_node {layout : Layout Expr} {e : Expr}
    (given : Gives (liftM (Build.node layout) : ExceptT ε Build Expr) e) :
    ∃ b, e = .block b ∧ b.layout = layout := by
  obtain ⟨f, ends⟩ := given
  cases ends
  exact ⟨_, rfl, rfl⟩

end Gives

/-! ### Where blocks come from -/

variable {b b' : Block Expr} {e : Expr} {declarations : List Param} {args : List Expr}

/-- Whether the block has the layout that fits, and is made of parts that have passed the checks. -/
structure Block.BuiltWith (declarations : List Param) (args : List Expr) (b : Block Expr) :
    Prop where
  fits : b.layout.Fits
  declarations_eq : b.declarations = declarations
  expressions_eq : b.expressions = args
  declarations_checked : checkVariables [] 0 declarations = .ok ()
  expressions_checked : ∃ argument, checkReadable argument 0 args = .ok ()

lemma fixed_gives {layout : Layout Expr} (given : Gives (Build.fixed layout) e)
    (fits : layout.Fits) (plain : layout.declarations = []) :
    ∃ b, e = .block b ∧ b.BuiltWith [] layout.expressions := by
  obtain ⟨⟨⟩, checked, given⟩ := given.of_bind
  obtain ⟨b, rfl, rfl⟩ := gives_node given
  exact ⟨b, rfl, fits, plain, rfl, rfl, _, gives_check.mp checked⟩

lemma block_gives (given : Gives (Build.block args) e) :
    ∃ b, e = .block b ∧ b.BuiltWith [] args := by
  obtain ⟨⟨⟩, checked, given⟩ := given.of_bind
  cases args with
  | nil => exact absurd given not_gives_throw
  | cons first rest =>
    obtain ⟨⟨id, layout⟩, rfl, rfl⟩ := gives_node given
    exact ⟨_, rfl, Layout.fits_ofPlain first rest, Layout.declarations_ofPlain first rest,
      Layout.expressions_ofPlain first rest, rfl, _, gives_check.mp checked⟩

/-- The factory of scopes builds a block of the given variables and children. -/
lemma scope_gives (given : Gives (Build.scope declarations args) e) :
    ∃ b, e = .block b ∧ b.BuiltWith declarations args := by
  unfold Build.scope at given
  split at given
  · rename_i none
    rw [List.isEmpty_iff.mp none]
    exact block_gives given
  · rename_i declared
    obtain ⟨⟨⟩, checked, given⟩ := given.of_bind
    obtain ⟨⟨⟩, checked', given⟩ := given.of_bind
    cases args with
    | nil => exact absurd given not_gives_throw
    | cons first rest =>
      obtain ⟨⟨id, layout⟩, rfl, layout_eq⟩ := gives_node given
      cases layout_eq
      exact ⟨_, rfl, Layout.fits_ofScope (by simpa using declared) first rest,
        Layout.declarations_ofScope declarations first rest,
        Layout.expressions_ofScope declarations first rest, gives_check.mp checked, _,
        gives_check.mp checked'⟩

/-- The counts fit if there are as many children as before and as many variables. -/
lemma Block.misfit?_eq_none {declarations? : Option (List Param)} :
    b.misfit? declarations? args = none ↔ args.length = b.count ∧
      (declarations?.getD b.declarations).length = b.declarations.length := by
  unfold Block.misfit?
  cases declarations? <;> split <;> simp_all

/-- With numbers that fit, a rebuild is a new node. -/
lemma Block.rebuild_eq {declarations? : Option (List Param)}
    (fit : b.misfit? declarations? args = none) :
    ∃ first rest, args = first :: rest ∧
      b.rebuild declarations? args = Build.node (b.layout.rebuilt declarations? first rest) := by
  cases args with
  | nil =>
    have count_eq := (Block.misfit?_eq_none.mp fit).1
    exact absurd count_eq (Nat.ne_of_lt b.layout.count_pos)
  | cons first rest =>
    refine ⟨first, rest, rfl, ?_⟩
    unfold Block.rebuild
    rw [fit]

/-- If the counts fit, a rebuild makes a block with the next number. -/
lemma Block.rebuild_run {declarations? : Option (List Param)}
    (fit : b.misfit? declarations? args = none) (f : Forest) :
    ∃ first rest, args = first :: rest ∧
      (b.rebuild declarations? args).run.run f =
        (.ok (.block ⟨f.next, b.layout.rebuilt declarations? first rest⟩),
          { f with next := f.next + 1 }) := by
  obtain ⟨first, rest, args_eq, rebuild_eq⟩ := Block.rebuild_eq fit
  rw [rebuild_eq]
  exact ⟨first, rest, args_eq, rfl⟩

/-- A rebuild gives a block only with numbers that fit. -/
lemma Block.rebuild_gives {declarations? : Option (List Param)}
    (given : Gives (b.rebuild declarations? args) (.block b')) :
    b.misfit? declarations? args = none ∧
    ∃ first rest, args = first :: rest ∧ b'.layout = b.layout.rebuilt declarations? first rest := by
  cases fit : b.misfit? declarations? args with
  | some misuse =>
    unfold Block.rebuild at given
    rw [fit] at given
    exact absurd given not_gives_throw
  | none =>
    obtain ⟨first, rest, args_eq, rebuild_eq⟩ := Block.rebuild_eq fit
    rw [rebuild_eq] at given
    obtain ⟨b', eq, layout_eq⟩ := gives_node given
    cases eq
    exact ⟨rfl, first, rest, args_eq, layout_eq⟩

/-- Whether the block is one that a factory gives, or an update or a rebuild of such a block. -/
inductive Block.Made : Block Expr → Prop where
  | block2 {x y : Expr} {b : Block Expr} (given : Gives (Build.block2 x y) (.block b)) : Made b
  | block3 {x y z : Expr} {b : Block Expr} (given : Gives (Build.block3 x y z) (.block b)) : Made b
  | block4 {x y z v : Expr} {b : Block Expr}
      (given : Gives (Build.block4 x y z v) (.block b)) : Made b
  | block5 {x y z v w : Expr} {b : Block Expr}
      (given : Gives (Build.block5 x y z v w) (.block b)) : Made b
  | block {args : List Expr} {b : Block Expr} (given : Gives (Build.block args) (.block b)) : Made b
  | scope {declarations : List Param} {args : List Expr} {b : Block Expr}
      (given : Gives (Build.scope declarations args) (.block b)) : Made b
  | update {declarations : List Param} {args : List Expr} {b b' : Block Expr} (made : Made b)
      (given : Gives (b.update declarations args) (.block b')) : Made b'
  | rebuild {declarations? : Option (List Param)} {args : List Expr} {b b' : Block Expr}
      (made : Made b) (given : Gives (b.rebuild declarations? args) (.block b')) : Made b'

/-- Every block that is made has the layout for its numbers of variables and children. -/
theorem Block.Made.fits (made : b.Made) : b.layout.Fits := by
  induction made with
  | block2 given | block3 given | block4 given | block5 given =>
    obtain ⟨_, ⟨⟩, built⟩ := fixed_gives given rfl rfl
    exact built.fits
  | block given =>
    obtain ⟨_, ⟨⟩, built⟩ := block_gives given
    exact built.fits
  | scope given =>
    obtain ⟨_, ⟨⟩, built⟩ := scope_gives given
    exact built.fits
  | update _ given ih =>
    unfold Block.update at given
    split at given
    · rw [gives_pure, Expr.block.injEq] at given
      rwa [← given]
    · obtain ⟨_, ⟨⟩, built⟩ := scope_gives given
      exact built.fits
  | rebuild _ given ih =>
    obtain ⟨fit, first, rest, -, layout_eq⟩ := Block.rebuild_gives given
    rw [layout_eq]
    exact ih.rebuilt (Block.misfit?_eq_none.mp fit).2 first rest

end ScopedExpr
