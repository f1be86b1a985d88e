import Memberwise.Inclusion

/-!
# Reports of the checks

Each family is checked on its own, so that a failure in one never touches another. A report holds
the verdict and what led to it.
-/

namespace Memberwise

/-- How members of a builder are treated that are neither setters nor `build`. -/
inductive Strictness
  | lenient
  | strict
deriving DecidableEq, Repr, Inhabited

namespace Strictness

def name : Strictness → String
  | lenient => "lenient"
  | strict => "strict"

def all : List Strictness := [lenient, strict]

end Strictness

inductive Verdict
  | notRequested
  /-- The user has written the members. -/
  | skipped
  | rejected
  | ready
deriving DecidableEq, Repr, Inhabited

namespace Verdict

def name : Verdict → String
  | notRequested => "NotRequested"
  | skipped => "Skipped"
  | rejected => "Rejected"
  | ready => "Ready"

end Verdict

structure Report where
  family : Family
  verdict : Verdict
  diagnostics : Diagnostics
deriving DecidableEq, Repr

namespace Report

def notRequested (family : Family) : Report := ⟨family, .notRequested, []⟩

def skipped (family : Family) (ds : Diagnostics) : Report := ⟨family, .skipped, ds⟩

def conclude (family : Family) (ds : Diagnostics) : Report :=
  ⟨family, if ds.hasErrors then .rejected else .ready, ds⟩

def isReady (r : Report) : Bool := r.verdict = .ready

end Report

def blockingMethod (c : ClassDecl) (methods : List ObjectMethod) : Option Problem :=
  methods.findSome? fun method =>
    match c.userMethods.find? method with
    | none => none
    | some found =>
      if found.declaredHere then some (.alreadyDeclared method c.short)
      else if found.isFinal then some (.notOverridable method c.short)
      else none

end Memberwise
