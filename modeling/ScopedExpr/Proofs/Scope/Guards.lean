import ScopedExpr.Proofs.Scope.Agreement
import ScopedExpr.Proofs.Scope.Clearing

/-!
# Guarded operations

A host first asks whether a name is known at all. Where it is not, a look-up would find nothing and
leave an empty record behind; to skip it gives the same answer and spares the record. Where the name
is known, the guard does nothing.
-/

namespace ScopedExpr

variable {V : Type}

/--
Whether `t`, which a host leaves, is `u`, which the storage alone leaves, as far as the name was
known in `s`, and else `s` as it was. The members are the same either way.
-/
structure Storage.Guarded (s : Storage V) (name : String) (t u : Storage V) : Prop where
  of_known : s.hasVariable name = true → t = u
  of_unknown : s.hasVariable name = false → t = s
  items_eq : Hosted.items t = Hosted.items u

/-! ### Names that nobody has looked up -/

/-- A name that is not known has no value in any spelling. -/
lemma Storage.unset_of_unknown {s : Storage V} {name : String}
    (unknown : s.hasVariable name = false) : s.flat.Unset (lowercase name) := by
  intro other same
  rw [Storage.hasVariable_eq, Option.isSome_eq_false_iff, Option.isNone_iff_eq_none, Storage.flat,
    Option.map_eq_none_iff] at unknown
  simp only [Storage.flat, same, unknown, Option.bind_none]

namespace Storage.WellFormed

variable {s : Storage V} {name : String} {mode : CaseMode} {a : Action V}

/-- To look up an unknown name finds no value. -/
lemma handle_unset_of_unknown (wf : s.WellFormed) (unknown : s.hasVariable name = false) :
    (s.getVariable name mode).1.hasValue (s.getVariable name mode).2 = false ∧
      (s.getVariable name mode).1.value? (s.getVariable name mode).2 = none := by
  refine (wf.getVariable name mode).handle_unset ?_ (wf.leadsTo_getVariable name mode)
  rw [wf.flat_getVariable]
  exact Storage.unset_of_unknown unknown

/-- What finds no value, and writes none, changes no member. -/
lemma items_act (wf : s.WellFormed) (read : ∀ v, a ≠ .setValue v)
    (gone : a = .deleteValue → (s.act name mode a).1 = .truth false) :
    Hosted.items (s.act name mode a).2 = Hosted.items s := by
  have kept := (wf.acts_act name mode a).eq_self read gone
  apply Hosted.items_eq_of_members_eq (s.evolves_act name mode a wf).1 wf
  rw [kept, Flat.touch]

/-- A guard in front of an action that would find no value, if the name is unknown. -/
lemma guarded (wf : s.WellFormed) (read : ∀ v, a ≠ .setValue v)
    (gone : s.hasVariable name = false → a = .deleteValue → (s.act name mode a).1 = .truth false) :
    s.Guarded name (if s.hasVariable name then (s.act name mode a).2 else s)
      (s.act name mode a).2 := by
  by_cases known : s.hasVariable name = true
  · rw [if_pos known]
    exact ⟨fun _ => rfl, fun unknown => Bool.noConfusion (known.symm.trans unknown), rfl⟩
  · rw [if_neg known]
    have unknown : s.hasVariable name = false := by simpa using known
    exact ⟨fun known' => absurd known' known, fun _ => rfl, (wf.items_act read (gone unknown)).symm⟩

/-- A guarded question, to which the answer is no if the name is unknown. -/
lemma guarded_truth (wf : s.WellFormed) {x : Bool × Storage V}
    (acts : s.act name mode a = (.truth x.1, x.2)) (read : ∀ v, a ≠ .setValue v)
    (none : s.hasVariable name = false → x.1 = false) :
    (if s.hasVariable name then x else (false, s)).1 = x.1 ∧
      s.Guarded name (if s.hasVariable name then x else (false, s)).2 x.2 := by
  have guarded : s.Guarded name (if s.hasVariable name then (s.act name mode a).2 else s)
      (s.act name mode a).2 :=
    wf.guarded read fun unknown _ => by rw [acts, none unknown]
  rw [acts] at guarded
  by_cases known : s.hasVariable name = true
  · rw [if_pos known] at guarded ⊢
    exact ⟨rfl, guarded⟩
  · rw [if_neg known] at guarded ⊢
    exact ⟨(none (by simpa using known)).symm, guarded⟩

end Storage.WellFormed

/-! ### Reads that fall back -/

section Fallback

variable {m : Type → Type} [Monad m] [LawfulMonad m]

/-- A member is read if its name is known; if this gives no value, the fallback is run, once. -/
lemma Hosted.run_getMember (s : Storage V) (name : String) (mode : CaseMode) (fallback : m V) :
    (Hosted.getMember name mode fallback).run s =
      if s.hasVariable name then
        match (s.value? name mode).1 with
        | some v => pure (v, (s.value? name mode).2)
        | none => do return (← fallback, (s.value? name mode).2)
      else do return (← fallback, s) := by
  rw [Hosted.getMember, StateT.run_bind, StateT.run_get, pure_bind]
  split
  · rw [StateT.run_bind, StateT.run_set, pure_bind]
    cases (s.value? name mode).1 <;> simp
  · simp

/-- Where the strict read gives a value there is no fallback, and where it fails there is one. -/
lemma Hosted.run_getMember_of_strict {s : Storage V} (wf : s.WellFormed) (name : String)
    (mode : CaseMode) (fallback : m V) :
    (Hosted.getMember name mode fallback).run s =
      let t := if s.hasVariable name then (Hosted.getMemberStrict s name mode).2 else s
      match (Hosted.getMemberStrict s name mode).1 with
      | .ok v => pure (v, t)
      | .error _ => do return (← fallback, t) := by
  have value_eq : (s.value? name mode).1 =
      (s.getVariable name mode).1.value? (s.getVariable name mode).2 := rfl
  have strict_eq : (Hosted.getMemberStrict s name mode).1 =
      (s.getVariable name mode).1.getValue (s.getVariable name mode).2 := rfl
  rw [Hosted.run_getMember, value_eq, strict_eq, Handle.getValue]
  by_cases known : s.hasVariable name = true
  · rw [if_pos known, if_pos known]
    cases (s.getVariable name mode).1.value? (s.getVariable name mode).2 <;> rfl
  · have unknown : s.hasVariable name = false := by simpa using known
    rw [if_neg known, if_neg known, (wf.handle_unset_of_unknown unknown).2]

end Fallback

/--
A read with a fallback gives what the strict read gives, in whatever way the fallback is run: not at
all if there is a value, and else once, for the result. A member is there, or is deleted, exactly if
this is so for the storage. The host leaves what the storage leaves, except for the empty record of
a name that was unknown.
-/
theorem Storage.Reachable.host_guards {s : Storage V} (reachable : s.Reachable) (name : String)
    (mode : CaseMode) :
    (∃ t, s.Guarded name t (Hosted.getMemberStrict s name mode).2 ∧
      ∀ (m : Type → Type) [Monad m] [LawfulMonad m] (fallback : m V),
        (∀ v, (Hosted.getMemberStrict s name mode).1 = .ok v →
          (Hosted.getMember name mode fallback).run s = pure (v, t)) ∧
        ∀ e, (Hosted.getMemberStrict s name mode).1 = .error e →
          (Hosted.getMember name mode fallback).run s = do return (← fallback, t)) ∧
    (Hosted.isDefined s name mode).1 = (s.hasValue name mode).1 ∧
    s.Guarded name (Hosted.isDefined s name mode).2 (s.hasValue name mode).2 ∧
    (Hosted.deleteMember s name mode).1 = (s.deleteValue name mode).1 ∧
    s.Guarded name (Hosted.deleteMember s name mode).2 (s.deleteValue name mode).2 := by
  have wf := reachable.wellFormed
  have unset (unknown : s.hasVariable name = false) : (s.hasValue name mode).1 = false :=
    (wf.handle_unset_of_unknown unknown).1
  have defined := wf.guarded_truth (a := .hasValue) rfl (by simp) unset
  have deleted := wf.guarded_truth (a := .deleteValue) rfl (by simp) fun unknown =>
    (s.deleteValue_fst name mode).trans (unset unknown)
  refine ⟨⟨_, wf.guarded (a := .getValue) (by simp) (by simp), fun m _ _ fallback => ?_⟩,
    defined.1, defined.2, deleted.1, deleted.2⟩
  have run := Hosted.run_getMember_of_strict wf name mode fallback
  refine ⟨fun v found => ?_, fun e failed => ?_⟩
  · rw [run, found]
    rfl
  · rw [run, failed]
    rfl

/--
A null is stored under a first spelling: it is read without a fallback, in ignore-case mode as well.
A second spelling has no value, so that the fallback is run; and so it is for a name that is
unknown, which stays unknown.
-/
theorem Storage.Reachable.host_guards_null :
    let s := (({} : Storage Value).perform (.hosted (.setMember "Key" .null .exact))).2
    let fallback : StateM Nat Value := fun calls => (.bool true, calls + 1)
    (∃ t, ((Hosted.getMember "KEY" .ignoreCase fallback).run s).run 0 = ((.null, t), 0)) ∧
    ((Hosted.getMember "KEY" .exact fallback).run s).run 0 =
      ((.bool true, (Hosted.getMemberStrict s "KEY" .exact).2), 1) ∧
    ((Hosted.getMember "other" .exact fallback).run s).run 0 = ((.bool true, s), 1) ∧
    Hosted.isDefined s "KEY" .ignoreCase = s.hasValue "KEY" .ignoreCase ∧
    Hosted.deleteMember s "other" .ignoreCase = (false, s) ∧
    Hosted.items (s.deleteValue "other" .ignoreCase).2 = Hosted.items s := by
  intro s fallback
  have reachable : s.Reachable := .perform .refl _
  have known : s.hasVariable "KEY" = true := by decide +kernel
  have unknown : s.hasVariable "other" = false := by decide +kernel
  have held : (Hosted.getMemberStrict s "KEY" .ignoreCase).1 = .ok .null := by rfl
  have unset : (Hosted.getMemberStrict s "KEY" .exact).1 = .error ⟨"KEY"⟩ := by rfl
  have missing : (Hosted.getMemberStrict s "other" .exact).1 = .error ⟨"other"⟩ := by rfl
  have absent : (s.deleteValue "other" .ignoreCase).1 = false := by decide +kernel
  obtain ⟨⟨t, -, read⟩, defined, kept, -⟩ :=
    Storage.Reachable.host_guards reachable "KEY" .ignoreCase
  obtain ⟨⟨t', exact_kept, read'⟩, -⟩ := Storage.Reachable.host_guards reachable "KEY" .exact
  obtain ⟨⟨t'', other_kept, read''⟩, -⟩ := Storage.Reachable.host_guards reachable "other" .exact
  obtain ⟨-, -, -, deleted, other_deleted⟩ :=
    Storage.Reachable.host_guards reachable "other" .ignoreCase
  refine ⟨⟨t, ?_⟩, ?_, ?_, Prod.ext defined (kept.of_known known), ?_, ?_⟩
  · rw [(read (StateM Nat) fallback).1 _ held]
    rfl
  · rw [(read' (StateM Nat) fallback).2 _ unset, exact_kept.of_known known]
    rfl
  · rw [(read'' (StateM Nat) fallback).2 _ missing, other_kept.of_unknown unknown]
    rfl
  · exact Prod.ext (deleted.trans absent) (other_deleted.of_unknown unknown)
  · rw [← other_deleted.items_eq, other_deleted.of_unknown unknown]

end ScopedExpr
