import ScopedExpr.Pass.Substitute
import ScopedExpr.Proofs.Scope.Agreement
import ScopedExpr.Proofs.Traversal.Pointwise

/-!
# Substitution of members

To look members up while a tree is transformed makes casings in the storage, but no values. So each
read is answered as it would have been before, and a second substitution finds nothing to do.
-/

namespace ScopedExpr

/-! ### What is put in the place of a leaf -/

/-- Whether the leaf reads a parameter whose name, in exact mode, has the value. -/
inductive Leaf.Reads (s : Storage Value) : Leaf → Value → Prop where
  | intro {p : Param} {name : String} {v : Value} (named : p.name? = some name)
      (found : (Hosted.getMemberStrict s name .exact).1 = .ok v) : Reads s (.parameter p) v

/--
Whether the second leaf is a constant of the value that the first one reads, or the first one.
-/
inductive Leaf.Substituted (s : Storage Value) (l : Leaf) : Leaf → Prop where
  | value {v : Value} (reads : l.Reads s v) (id : Nat) :
      Substituted s l (.constant ⟨id, v, l.ty⟩)
  | kept (unread : ∀ v, ¬ l.Reads s v) : Substituted s l l

namespace Leaf

variable {s : Storage Value} {l l' : Leaf} {v : Value}

lemma Substituted.ty_eq (substituted : l.Substituted s l') : l'.ty = l.ty := by
  cases substituted <;> rfl

/-- What has been put in reads no value. -/
lemma Substituted.unread (substituted : l.Substituted s l') (v : Value) : ¬ l'.Reads s v := by
  cases substituted with
  | value => rintro ⟨⟩
  | kept unread => exact unread v

/-- A leaf that reads no value stays. -/
lemma Substituted.eq_of_unread (substituted : l.Substituted s l') (unread : ∀ v, ¬ l.Reads s v) :
    l' = l := by
  cases substituted with
  | value reads => exact absurd reads (unread _)
  | kept => rfl

end Leaf

/-! ### Look-ups -/

/-- Whether `t` is well formed and has the values that `s` has. -/
structure Storage.SameMembers {V : Type} (s t : Storage V) : Prop where
  wellFormed : t.WellFormed
  members_eq : t.flat.members = s.flat.members

namespace Storage.SameMembers

variable {V : Type} {s t : Storage V}

/-- Storages with the same members answer a read alike. -/
lemma answer_eq (same : s.SameMembers t) (wf : s.WellFormed) (name : String) :
    (Hosted.getMemberStrict t name .exact).1 = (Hosted.getMemberStrict s name .exact).1 := by
  rw [Hosted.getMemberStrict, Hosted.getMemberStrict, same.wellFormed.getValue_exact,
    wf.getValue_exact, same.members_eq]

/-- To read a member may make a casing, but sets no value. -/
lemma getMemberStrict (same : s.SameMembers t) (name : String) :
    s.SameMembers (Hosted.getMemberStrict t name .exact).2 where
  wellFormed := same.wellFormed.getVariable name .exact
  members_eq := by
    have flat_eq := same.wellFormed.flat_getVariable name .exact
    exact (congrArg Flat.members flat_eq).trans same.members_eq

end Storage.SameMembers

lemma Leaf.Substituted.of_sameMembers {s t : Storage Value} {l l' : Leaf}
    (substituted : l.Substituted t l') (same : s.SameMembers t) (wf : s.WellFormed) :
    l.Substituted s l' := by
  have reads_iff (v : Value) : l.Reads t v ↔ l.Reads s v := by
    constructor
    · rintro ⟨named, found⟩
      exact ⟨named, same.answer_eq wf _ ▸ found⟩
    · rintro ⟨named, found⟩
      exact ⟨named, (same.answer_eq wf _).trans found⟩
  cases substituted with
  | value reads id => exact .value ((reads_iff _).mp reads) id
  | kept unread => exact .kept fun v reads => unread v ((reads_iff v).mpr reads)

namespace Rules

/-- One call puts a leaf in the place of a leaf, and looks up one name at most. -/
lemma outcome_substitute (l : Leaf) (s : Storage Value) (f : Forest) :
    ∃ l' t g, (substitute.leaf l).outcome s f = (.ok (.leaf l', t), g) ∧ l.Substituted s l' ∧
      (t = s ∨ ∃ name, t = (Hosted.getMemberStrict s name .exact).2) := by
  cases l with
  | constant c => exact ⟨_, _, _, rfl, .kept (by rintro v ⟨⟩), .inl rfl⟩
  | placeholder h => exact ⟨_, _, _, rfl, .kept (by rintro v ⟨⟩), .inl rfl⟩
  | parameter p =>
    cases named : p.name? with
    | none =>
      refine ⟨.parameter p, s, f, ?_, .kept ?_, .inl rfl⟩
      · simp only [substitute, named]
        rfl
      · rintro v ⟨named', -⟩
        cases named.symm.trans named'
    | some name =>
      have start : (get : TransformM (Storage Value) _).outcome s f = (.ok (s, s), f) := rfl
      rcases looked : Hosted.getMemberStrict s name .exact with ⟨missing | v, t⟩
      · refine ⟨.parameter p, t, f, ?_, .kept ?_, .inr ⟨name, by rw [looked]⟩⟩
        · simp only [substitute, named]
          rw [TransformM.outcome_bind_of_ok start]
          simp only [looked]
          rfl
        · rintro v ⟨named', found⟩
          cases named.symm.trans named'
          rw [looked] at found
          cases found
      · have reads : (Leaf.parameter p).Reads s v := ⟨named, by rw [looked]⟩
        refine ⟨.constant ⟨f.next, v, p.ty⟩, t, { f with next := f.next + 1 }, ?_,
          .value reads f.next, .inr ⟨name, by rw [looked]⟩⟩
        simp only [substitute, named]
        rw [TransformM.outcome_bind_of_ok start]
        simp only [looked]
        rfl

/-- The values stay, and so do the numbers of the nodes of an expression. -/
def substitution (s : Storage Value) (e : Expr) : Contract (Storage Value) where
  inv t f := s.SameMembers t ∧ f.Holds e
  inv_mono _ _ _ inv grows := ⟨inv.1, inv.2.mono grows⟩
  final _ := True

/-- The rule gives a leaf for a leaf and leaves the members as they are. -/
lemma meets_substitute {s : Storage Value} (wf : s.WellFormed) (e : Expr) (l : Leaf) :
    (substitute.leaf l).Meets (substitution s e) fun e' =>
      ∃ l', e' = .leaf l' ∧ l.Substituted s l' ∧ (e'.same (.leaf l) = true → l' = l) := by
  intro t f e' t' g inv given
  obtain ⟨l', u, h, gives, substituted, looked⟩ := outcome_substitute l t f
  cases given.symm.trans gives
  constructor
  · refine ⟨?_, inv.2.mono (TransformM.grows_of_outcome given)⟩
    rcases looked with rfl | ⟨name, rfl⟩
    · exact inv.1
    · exact inv.1.getMemberStrict name
  · refine fun _ => ⟨trivial, l', rfl, substituted.of_sameMembers inv.1 wf, fun same => ?_⟩
    cases substituted with
    | kept => rfl
    | value reads =>
      cases reads
      cases same

lemma relates_substitute {s : Storage Value} (wf : s.WellFormed) (e e₁ : Expr) :
    substitute.Relates (substitution s e) (Leaf.Substituted s) Eq e₁ where
  leaf l _ := meets_substitute wf e l
  declaration _ _ := TransformM.Meets.pure ⟨rfl, fun _ => rfl⟩

lemma quiet_substitute : substitute.transformer.Quiet := by
  refine quiet (fun l s f => ?_) fun p s f => ⟨p, s, f, rfl⟩
  obtain ⟨l', t, g, gives, -⟩ := outcome_substitute l s f
  exact ⟨.leaf l', t, g, gives⟩

/--
In every tree each read of a name that has a value in exact mode becomes a constant of this value
and of the type of the parameter. All other leaves stay, and so do the declarations, the shape and
the count of each block and the type of each node. Members and their values are the same afterwards,
and to substitute once more gives the tree back.
-/
theorem substitute_members {s : Storage Value} (reachable : s.Reachable) {e : Expr} {f : Forest}
    (held : f.Holds e) (made : e.EachBlock Block.Made) :
    ∃ e' s' g, (substitute.transform e).outcome s f = (.ok (e', s'), g) ∧
      e.Along (fun x x' => x.Matches (Leaf.Substituted s) Eq x' ∧ x'.ty = x.ty) e' ∧
      Hosted.items s' = Hosted.items s ∧
      ∃ s'' g', (substitute.transform e').outcome s' g = (.ok (e', s''), g') := by
  have wf := reachable.wellFormed
  obtain ⟨e', s', g, given⟩ := quiet_substitute.transform e s f
  have start : (substitution s e).inv s f := ⟨⟨wf, rfl⟩, held⟩
  obtain ⟨inv, back⟩ := (relates_substitute wf e e).meets_transform made (fun _ _ inv => inv.2)
    s f e' s' g start given
  obtain ⟨-, along, -⟩ := back trivial
  have items_eq := Hosted.items_eq_of_members_eq inv.1.wellFormed wf inv.1.members_eq
  refine ⟨e', s', g, given, ?_, items_eq, ?_⟩
  · apply along.imp
    intro x x' along
    refine ⟨along.here.1, along.ty_eq ?_ ?_⟩
    · rintro l _ ⟨⟨substituted⟩, -⟩
      exact substituted.ty_eq
    · rintro b _ ⟨⟨⟩, -⟩
      exact ⟨_, rfl⟩
  · obtain ⟨e'', s'', g', given'⟩ := quiet_substitute.transform e' s' g
    have fixed : e'.Fixed (Leaf.Substituted s) Eq := by
      constructor
      · intro l' has l'' again
        obtain ⟨x, -, matched, -⟩ := along.exists_of_has has
        cases matched with
        | leaf substituted => exact again.eq_of_unread substituted.unread
      · exact fun p _ q eq => eq.symm
    obtain ⟨-, back'⟩ := (relates_substitute wf e e').meets_self fixed s' g e'' s'' g' inv given'
    obtain ⟨-, rfl⟩ := back' trivial
    exact ⟨s'', g', given'⟩

/-- Only the second read has a value; the first one gets a casing and stays. -/
theorem substitute_members_counter :
    let label : Param := ⟨0, some "label", .str, false⟩
    let counter : Param := ⟨1, some "Counter", .int, false⟩
    let e : Expr := .block ⟨2, .scopeN [label, counter] label.read [counter.read]⟩
    let e' : Expr :=
      .block ⟨4, .scopeN [label, counter] label.read [.leaf (.constant ⟨3, .int 41, .int⟩)]⟩
    let s := (({} : Storage Value).perform (.hosted (.setMember "Counter" (.int 41) .exact))).2
    ∃ s' g, (substitute.transform e).outcome s { next := 3 } = (.ok (e', s'), g) ∧ s'.size = 2 ∧
      Hosted.items s' = Hosted.items s ∧
      ∃ s'' g', (substitute.transform e').outcome s' g = (.ok (e', s''), g') := by
  intro label counter e e' s
  have reachable : s.Reachable := .perform .refl _
  have held : Forest.Holds { next := 3 } e := by
    simp [e, label, counter, Block.expressions, Layout.expressions, Param.read, Expr.identity]
  have given : Gives (Build.scope [label, counter] [label.read, counter.read]) e :=
    ⟨{ next := 2 }, rfl⟩
  have made : e.EachBlock Block.Made := by
    rw [Expr.eachBlock_block]
    refine ⟨.scope given, ?_⟩
    simp [Block.expressions, Layout.expressions, Param.read]
  obtain ⟨e₁, s', g, given, -, items_eq, again⟩ := substitute_members reachable held made
  obtain ⟨t, h, computed, size_eq⟩ : ∃ t h,
      (substitute.transform e).outcome s { next := 3 } = (.ok (e', t), h) ∧ t.size = 2 :=
    ⟨_, _, rfl, rfl⟩
  cases given.symm.trans computed
  exact ⟨s', g, given, size_eq, items_eq, again⟩

end Rules

end ScopedExpr
