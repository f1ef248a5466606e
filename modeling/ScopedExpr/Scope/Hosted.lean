import ScopedExpr.Expr.Basic
import ScopedExpr.Scope.Storage

/-!
# Hosted scopes

A host sees a storage as a bag of named members. It may read a member with something to fall back
on, and ask for, or delete, a member that was never there, without leaving a trace in the storage.
-/

namespace ScopedExpr

variable {V : Type}

/--
The value of a member, or the fallback if it has none. A name that was never looked up goes to the
fallback at once and stays unknown.
-/
def Hosted.getMember {m : Type → Type} [Monad m] (name : String) (mode : CaseMode)
    (fallback : m V) : StateT (Storage V) m V := do
  let s ← get
  if s.hasVariable name then
    let (v?, s) := s.value? name mode
    set s
    match v? with
    | some v => return v
    | none => fallback
  else fallback

def Hosted.getMemberStrict (s : Storage V) (name : String) (mode : CaseMode) :
    Except NotFound V × Storage V :=
  s.getValue name mode

def Hosted.setMember (s : Storage V) (name : String) (v : V) (mode : CaseMode) : Storage V :=
  s.setValue name v mode

/-- Clear a member; whether it had a value. -/
def Hosted.deleteMember (s : Storage V) (name : String) (mode : CaseMode) : Bool × Storage V :=
  if s.hasVariable name then s.deleteValue name mode else (false, s)

def Hosted.isDefined (s : Storage V) (name : String) (mode : CaseMode) : Bool × Storage V :=
  if s.hasVariable name then s.hasValue name mode else (false, s)

/-- The names of the members, in order. -/
def Hosted.memberNames (s : Storage V) : List String :=
  s.memberNames.mergeSort fun a b => a ≤ b

/-- The members with their values, in the order of their names. -/
def Hosted.items (s : Storage V) : List (String × V) := sortByName s.items

/-- Look up names in exact mode, one after another. -/
def Storage.getExactVariables (s : Storage V) : List String → List Handle × Storage V
  | [] => ([], s)
  | name :: rest =>
    let (h, s) := s.getVariable name .exact
    let (hs, s) := s.getExactVariables rest
    (h :: hs, s)

/-- Make the casings of the named variables that a block declares; one handle for each, in order. -/
def Hosted.declareVariables {α : Type} (s : Storage V) (b : Block α) : List Handle × Storage V :=
  s.getExactVariables (b.declarations.filterMap Param.name?)

def Hosted.outline (s : Storage V) : Outline := .ofFields "HostedScope" [("storage", s.outline)]

end ScopedExpr
