import ScopedExpr.Proofs.Text.Literals
import ScopedExpr.Proofs.Traversal.Pointwise
import ScopedExpr.Proofs.Traversal.Shapes

/-!
# Reading the surface text

The surface text leaves out the numbers of nodes and parameters, the types of constants and
parameters, and how parameters are passed. All else can be read off it, the shapes of blocks
included, if the names keep clear of the characters that divide the text.
-/

namespace ScopedExpr

/-! ### Leaves -/

/-- Whether two parameters are shown by one name. -/
def Param.Namesake (p q : Param) : Prop := p.displayName = q.displayName

/-- Whether two leaves of one kind show the same: a value, a name or a type. -/
inductive Leaf.Resembles : Leaf → Leaf → Prop where
  | constant {c c' : Constant} (value_eq : c.value = c'.value) :
      Resembles (.constant c) (.constant c')
  | parameter {p p' : Param} (namesake : p.Namesake p') : Resembles (.parameter p) (.parameter p')
  | placeholder {h h' : Placeholder} (ty_eq : h.ty = h'.ty) :
      Resembles (.placeholder h) (.placeholder h')

/-- Whether the name that is shown has no blank, no parenthesis and no bracket. -/
def Param.Plain (p : Param) : Prop := ∀ c ∈ p.displayName.toList, c ∉ [' ', '(', ')', '[', ']']

/-- Whether the leaf is no decimal, and the name that it shows is plain. -/
def Leaf.Plain : Leaf → Prop
  | .constant c => ∀ x, c.value ≠ .float x
  | .parameter p => p.Plain
  | .placeholder _ => True

instance (p : Param) : Decidable p.Plain := List.decidableBAll _ _

/-- A plain name has none of the characters that divide a text. -/
lemma Param.Plain.notMem {p : Param} (plain : p.Plain) {c : Char}
    (divides : c ∈ [' ', '(', ')', '[', ']']) : c ∉ p.displayName.toList :=
  fun mem => plain c mem divides

/-- In front of a closing parenthesis a plain name can be told from its text. -/
lemma Param.legible_displayName {p q : Param} (plain : p.Plain) (plain' : q.Plain) :
    Legible (fun p => p.displayName.toList ++ [')']) Namesake p q := by
  apply legible_stop
  · exact String.toList_inj.mp
  · exact plain.notMem (by decide)
  · exact plain'.notMem (by decide)

/-- What a plain leaf shows can be told from its text, whatever is written behind it. -/
lemma Leaf.legible_text {l l' : Leaf} (plain : l.Plain) (plain' : l'.Plain) :
    Legible (fun l => l.text.toList) Resembles l l' := by
  intro r s eq
  cases l with
  | constant c =>
    cases l' with
    | constant c' =>
      obtain ⟨value_eq, eq⟩ := Value.legible_text plain plain' r s (by simpa [text] using eq)
      exact ⟨.constant value_eq, eq⟩
    | parameter | placeholder => simp [text] at eq
  | parameter p =>
    cases l' with
    | parameter p' =>
      obtain ⟨namesake, eq⟩ :=
        Param.legible_displayName plain plain' r s (by simpa [text] using eq)
      exact ⟨.parameter namesake, eq⟩
    | constant | placeholder => simp [text] at eq
  | placeholder h =>
    cases l' with
    | placeholder h' =>
      obtain ⟨ty_eq, eq⟩ := append_stop_inj h.ty.parenthesis_notMem_text
        h'.ty.parenthesis_notMem_text (by simpa [text] using eq)
      exact ⟨.placeholder (TypeId.text_injective (String.toList_inj.mp ty_eq)), eq⟩
    | constant | parameter => simp [text] at eq

lemma Leaf.Resembles.text_eq {l l' : Leaf} (resembles : l.Resembles l') : l.text = l'.text := by
  cases resembles with
  | constant value_eq => rw [text, text, value_eq]
  | parameter namesake => rw [text, text, namesake]
  | placeholder ty_eq => rw [text, text, ty_eq]

/-! ### Blocks -/

/-- A character of joined texts is the one between them or belongs to one of them. -/
lemma mem_intercalate {x c : Char} {css : List (List Char)} (mem : c ∈ [x].intercalate css) :
    c = x ∨ ∃ cs ∈ css, c ∈ cs := by
  induction css with
  | nil => cases mem
  | cons cs css ih =>
    cases css with
    | nil => exact .inr ⟨cs, List.mem_cons_self, by simpa using mem⟩
    | cons cs' css =>
      rw [List.intercalate_cons_cons, List.append_assoc, List.mem_append, List.mem_append] at mem
      rcases mem with mem | mem | mem
      · exact .inr ⟨cs, List.mem_cons_self, mem⟩
      · exact .inl (List.mem_singleton.mp mem)
      · exact (ih mem).imp_right fun ⟨cs, mem', mem⟩ => ⟨cs, .tail _ mem', mem⟩

/-- Lists have the same image if their items have the same images place by place. -/
lemma map_eq_map_iff_forall₂ {α β γ : Type} {f : α → γ} {g : β → γ} {as : List α} {bs : List β} :
    as.map f = bs.map g ↔ List.Forall₂ (fun a b => f a = g b) as bs := by
  rw [← List.forall₂_eq_eq_eq, List.forall₂_map_left_iff, List.forall₂_map_right_iff]

/-- The names of the variables of a block, with blanks between them. -/
def Block.shownNames (b : Block Expr) : List Char :=
  [' '].intercalate (b.declarations.map fun p => p.displayName.toList)

/-- Whether two blocks, be they scopes or not, show the same in front of their children. -/
structure Block.OpensLike (b b' : Block Expr) : Prop where
  isScope_eq : b.isScope = b'.isScope
  namesakes : List.Forall₂ Param.Namesake b.declarations b'.declarations

namespace Block

variable {b b' : Block Expr}

lemma toList_head (b : Block Expr) : b.head.toList =
    if b.isScope then "(scope [".toList ++ (b.shownNames ++ [']']) else "(block".toList := by
  unfold head shownNames
  split <;> simp [Function.comp_def]

lemma bracket_notMem_shownNames (plain : ∀ p ∈ b.declarations, p.Plain) : ']' ∉ b.shownNames := by
  intro mem
  rcases mem_intercalate mem with eq | ⟨cs, mem', mem⟩
  · exact absurd eq (by decide)
  · obtain ⟨p, declared, rfl⟩ := List.mem_map.mp mem'
    exact (plain p declared).notMem (by decide) mem

/-- At least one name is shown, so the blanks tell how many there are. -/
lemma namesakes_of_shown (declared : b.declarations ≠ []) (declared' : b'.declarations ≠ [])
    (plain : ∀ p ∈ b.declarations, p.Plain) (plain' : ∀ p ∈ b'.declarations, p.Plain)
    (eq : b.shownNames = b'.shownNames) :
    List.Forall₂ Param.Namesake b.declarations b'.declarations := by
  have split (b : Block Expr) (declared : b.declarations ≠ [])
      (plain : ∀ p ∈ b.declarations, p.Plain) :
      b.shownNames.splitOn ' ' = b.declarations.map fun p => p.displayName.toList := by
    apply List.splitOn_intercalate
    · intro cs mem
      obtain ⟨p, mem', rfl⟩ := List.mem_map.mp mem
      exact (plain p mem').notMem (by decide)
    · exact fun none => declared (List.map_eq_nil_iff.mp none)
  have names_eq := (split b declared plain).symm
  rw [eq, split b' declared' plain', map_eq_map_iff_forall₂] at names_eq
  exact names_eq.imp fun p q eq => show p.Namesake q from String.toList_inj.mp eq

lemma OpensLike.head_eq (opens : b.OpensLike b') : b.head = b'.head := by
  rw [head, head, opens.isScope_eq, map_eq_map_iff_forall₂.mpr opens.namesakes]

/-- Whether a block is a scope, and which names it shows, can be told from what opens it. -/
lemma legible_head (fits : b.layout.Fits) (fits' : b'.layout.Fits)
    (plain : ∀ p ∈ b.declarations, p.Plain) (plain' : ∀ p ∈ b'.declarations, p.Plain) :
    Legible (fun b => b.head.toList) OpensLike b b' := by
  intro r s eq
  simp only [toList_head] at eq
  cases scope : b.isScope with
  | false =>
    cases scope' : b'.isScope with
    | false =>
      refine ⟨⟨scope.trans scope'.symm, ?_⟩, by simpa [scope, scope'] using eq⟩
      rw [show b.declarations = [] from Layout.declarations_eq_nil scope,
        show b'.declarations = [] from Layout.declarations_eq_nil scope']
      exact .nil
    | true => simp [scope, scope'] at eq
  | true =>
    cases scope' : b'.isScope with
    | false => simp [scope, scope'] at eq
    | true =>
      obtain ⟨names_eq, eq⟩ := append_stop_inj (bracket_notMem_shownNames plain)
        (bracket_notMem_shownNames plain') (by simpa [scope, scope'] using eq)
      refine ⟨⟨scope.trans scope'.symm, ?_⟩, eq⟩
      exact namesakes_of_shown (fits.isScope_iff.mp scope) (fits'.isScope_iff.mp scope') plain
        plain' names_eq

end Block

/-! ### Trees -/

namespace Expr

variable {e e' : Expr} {b : Block Expr}

/-- Whether all leaves and all declared variables of the expression are plain. -/
structure Plain (e : Expr) : Prop where
  leaf : ∀ l, e.Has (.leaf l) → l.Plain
  declaration : ∀ p, e.Declares p → p.Plain

@[simp] lemma plain_leaf (l : Leaf) : (Expr.leaf l).Plain ↔ l.Plain := by
  constructor
  · exact fun plain => plain.leaf l (has_self _)
  · intro plain
    refine ⟨fun l' has => ?_, fun p declares => absurd declares (not_declares_leaf l)⟩
    cases (has_leaf l).mp has
    exact plain

@[simp] lemma plain_block (b : Block Expr) : (Expr.block b).Plain ↔
    (∀ p ∈ b.declarations, p.Plain) ∧ ∀ e ∈ b.expressions, e.Plain := by
  constructor
  · intro plain
    refine ⟨fun p mem => plain.declaration p ?_, fun e child => ⟨fun l has => ?_, fun p => ?_⟩⟩
    · exact (declares_block b).mpr (.inl mem)
    · exact plain.leaf l (has_of_child child has)
    · exact fun declares => plain.declaration p ((declares_block b).mpr (.inr ⟨e, child, declares⟩))
  · rintro ⟨here, below⟩
    refine ⟨fun l has => ?_, fun p declares => ?_⟩
    · rcases (has_block b).mp has with same | ⟨e, child, has⟩
      · cases same
      · exact (below e child).leaf l has
    · rcases (declares_block b).mp declares with mem | ⟨e, child, declares⟩
      · exact here p mem
      · exact (below e child).declaration p declares

lemma toList_text_block (b : Block Expr) : (Expr.block b).text.toList =
    b.head.toList ++ (b.expressions.flatMap (fun e => ' ' :: e.text.toList) ++ [')']) := by
  simp [text_block, List.flatMap_map]

/-- No text begins with a leaf and with a block as well. -/
lemma text_leaf_append_ne (l : Leaf) (b : Block Expr) (r s : List Char) :
    (Expr.leaf l).text.toList ++ r ≠ (Expr.block b).text.toList ++ s := by
  rw [toList_text_block, Block.toList_head, text_leaf]
  intro eq
  cases l <;> cases scope : b.isScope <;> simp [Leaf.text, scope] at eq

/-- A tree is read off its text, from the root down and from the first child to the last. -/
lemma legible_text (obtained : e.EachBlock Block.Obtained) (obtained' : e'.EachBlock Block.Obtained)
    (plain : e.Plain) (plain' : e'.Plain) :
    Legible (fun e => e.text.toList) (Along (Matches Leaf.Resembles Param.Namesake)) e e' := by
  induction e using Expr.inductionOn generalizing e' with
  | leaf l =>
    intro r s eq
    cases e' with
    | leaf l' =>
      obtain ⟨resembles, eq⟩ := Leaf.legible_text ((plain_leaf l).mp plain)
        ((plain_leaf l').mp plain') r s (by simpa using eq)
      exact ⟨along_leaf (.leaf resembles), eq⟩
    | block b' => exact absurd eq (text_leaf_append_ne l b' r s)
  | block b ih =>
    intro r s eq
    cases e' with
    | leaf l' => exact absurd eq.symm (text_leaf_append_ne l' b s r)
    | block b' =>
      obtain ⟨here, below⟩ := (eachBlock_block b).mp obtained
      obtain ⟨here', below'⟩ := (eachBlock_block b').mp obtained'
      obtain ⟨declared, children⟩ := (plain_block b).mp plain
      obtain ⟨declared', children'⟩ := (plain_block b').mp plain'
      have fits := here.to_made.fits
      have fits' := here'.to_made.fits
      have head := Block.legible_head fits fits' declared declared'
      have kids : Legible (fun es => es.flatMap (fun e => ' ' :: e.text.toList) ++ [')'])
          (List.Forall₂ (Along (Matches Leaf.Resembles Param.Namesake))) b.expressions
          b'.expressions := by
        apply legible_flatMap
        · intro x child x' child'
          exact (ih x child (below x child) (below' x' child') (children x child)
            (children' x' child')).behind [' ']
        · exact fun _ _ _ eq => absurd (List.head_eq_of_cons_eq eq) (by decide)
      simp only [toList_text_block, List.append_assoc] at eq
      obtain ⟨opens, eq⟩ := head _ _ eq
      obtain ⟨along, eq⟩ := kids r s (by simpa using eq)
      have count_eq : b'.count = b.count := by
        rw [← b.length_expressions, ← b'.length_expressions, along.length_eq]
      have shape_eq := fits.shape_eq fits' opens.namesakes.length_eq.symm count_eq
      exact ⟨along_block_iff.mpr ⟨.block shape_eq count_eq opens.namesakes, along⟩, eq⟩

/-- Expressions that show the same are of one kind. -/
lemma Matches.kind_eq (matched : e.Matches Leaf.Resembles Param.Namesake e') :
    e.kind = e'.kind := by
  cases matched with
  | leaf resembles => cases resembles <;> rfl
  | block => rfl

/-- What is read off the text is all that goes into it. -/
lemma Along.text_eq (along : e.Along (Matches Leaf.Resembles Param.Namesake) e') :
    e.text = e'.text := by
  induction e using Expr.inductionOn generalizing e' with
  | leaf l =>
    cases along.here with
    | leaf resembles => rw [text_leaf, text_leaf, resembles.text_eq]
  | block b ih =>
    cases along.here with
    | @block _ b' shape_eq _ namesakes =>
      have opens : b.OpensLike b' := ⟨congrArg Shape.isScope shape_eq.symm, namesakes⟩
      have each := (List.forall₂_and_left _ _).mpr ⟨fun x child => @ih x child, along.kids⟩
      have kids : b.expressions.map (fun x => " " ++ x.text) =
          b'.expressions.map fun x => " " ++ x.text :=
        map_eq_map_iff_forall₂.mpr (each.imp fun x x' both => by rw [both.1 both.2])
      rw [text_block, text_block, kids, opens.head_eq]

/--
Two trees have one surface text if and only if they have the same positions, and at each of them
nodes of one kind that show the same: a constant the same value, a read the same name, a placeholder
the same type, and a block the same names of variables, the same number of children and the same
shape. This goes for all blocks that can be obtained, and for names without the characters that
divide the text; a text that is a value may have them, and may look like the text of other nodes.
-/
theorem text_eq_iff_alike (obtained : e.EachBlock Block.Obtained)
    (obtained' : e'.EachBlock Block.Obtained) (plain : e.Plain) (plain' : e'.Plain) :
    e.text = e'.text ↔ e.Along (fun x x' => x.kind = x'.kind ∧
      x.Matches Leaf.Resembles Param.Namesake x') e' := by
  constructor
  · intro eq
    have along := (legible_text obtained obtained' plain plain').related
      (congrArg String.toList eq)
    exact along.imp fun x x' along => ⟨along.here.kind_eq, along.here⟩
  · intro along
    exact (along.imp fun _ _ along => along.here.2).text_eq

/--
One variable has the empty name and one has none, which is shown like an underscore; the value looks
like two constants. The trees are made of different nodes and read different parameters.
-/
theorem text_eq_iff_alike_quoted :
    let x : Param := ⟨0, some "", .int, false⟩
    let y : Param := ⟨1, none, .int, false⟩
    let z : Param := ⟨2, some "_", .str, true⟩
    let one : Constant := ⟨3, .str "a\") (const \"b", .str⟩
    let other : Constant := ⟨4, one.value, .object⟩
    let hole : Placeholder := ⟨5, ⟨99⟩⟩
    let inner (id : Nat) (c : Constant) : Block Expr :=
      ⟨id, .block2 (.leaf (.constant c)) (.leaf (.placeholder hole))⟩
    let outer (id : Nat) (p : Param) (c : Constant) : Block Expr :=
      ⟨id + 1, .scopeN [x, y] p.read [.block (inner id c)]⟩
    let e : Expr := .block (outer 6 y one)
    let e' : Expr := .block (outer 8 z other)
    e.EachBlock Block.Obtained ∧ e'.EachBlock Block.Obtained ∧ e.Plain ∧ e'.Plain ∧
      e.text = "(scope [ _] (param _) (block (const \"a\\\") (const \\\"b\") (hole type#99)))" ∧
      e.text = e'.text ∧ e'.same e = false ∧
      e.Along (fun x x' => x.kind = x'.kind ∧
        x.Matches Leaf.Resembles Param.Namesake x') e' := by
  intro x y z one other hole inner outer e e'
  have obtained (id : Nat) (p : Param) (c : Constant) :
      (Expr.block (outer id p c)).EachBlock Block.Obtained := by
    let k : Expr := .leaf (.constant c)
    have made : Gives (Build.block2 k k) (.block ⟨id, .block2 k k⟩) := ⟨{ next := id }, rfl⟩
    have filled : Gives (Block.rebuild ⟨id, .block2 k k⟩ none [k, .leaf (.placeholder hole)])
        (.block (inner id c)) := ⟨{ next := id }, rfl⟩
    have scope : Gives (Build.scope [x, y] [p.read, .block (inner id c)])
        (.block (outer id p c)) := ⟨{ next := id + 1 }, rfl⟩
    have below : (inner id c).Obtained := .rebuild (.made (.block2 made)) filled
    have here : (outer id p c).Obtained := .made (.scope scope)
    simpa [outer, inner, Block.expressions, Layout.expressions, Param.read] using ⟨here, below⟩
  have plain (id : Nat) {p : Param} {c : Constant} (name : p.Plain)
      (noFloat : ∀ x, c.value ≠ .float x) : (Expr.block (outer id p c)).Plain := by
    have names : x.Plain ∧ y.Plain := by decide
    simpa [outer, inner, Block.declarations, Layout.declarations, Block.expressions,
      Layout.expressions, Param.read, Leaf.Plain] using ⟨names, name, noFloat⟩
  have noFloat : ∀ x, one.value ≠ .float x := by
    intro x eq
    cases eq
  have plain₁ : e.Plain := plain 6 (by decide) noFloat
  have plain₂ : e'.Plain := plain 8 (by decide) noFloat
  have eq : e.text = e'.text := by decide +kernel
  have along := (text_eq_iff_alike (obtained 6 y one) (obtained 8 z other) plain₁ plain₂).mp eq
  exact ⟨obtained 6 y one, obtained 8 z other, plain₁, plain₂, by decide +kernel, eq, by decide,
    along⟩

end Expr

end ScopedExpr
