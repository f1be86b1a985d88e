import Memberwise.Readiness.Building

/-!
# Readiness of a class

Regular classes without modifiers take equality, whose two methods are skipped together, so that
they always agree. Regular classes and objects take printing, inner classes too; a call to the
superclass without one is only advised against there.
-/

namespace Memberwise

namespace Readiness

def checkMark (policy : InclusionPolicy) (p : Property) : Diagnostics :=
  match policy.decide p with
  | .rejected d => [d]
  | _ => []

def checkMarks (c : ClassDecl) : Diagnostics :=
  match InclusionPolicy.ofClass? c .equality with
  | none => []
  | some policy => c.properties.flatMap (checkMark policy)

def checkEquality (c : ClassDecl) : Report :=
  match c.annotations.equality with
  | none => .notRequested .equality
  | some options =>
    if !c.isPlainRegular then
      .conclude .equality [(Problem.equalityUnsupported c.short c.kind).report .error c.location]
    else match blockingMethod c [.equals, .hash] with
      | some problem => .skipped .equality [problem.report .info c.location]
      | none =>
        .conclude .equality
          ((if options.callSuper && c.superclass.isNone then
              [(Problem.equalityWithoutSuper c.short).report .error c.location]
            else []) ++ checkMarks c)

def printable (c : ClassDecl) : Bool :=
  (c.kind.isRegular || c.kind = .object) && !c.modifiers.isLocal && !c.modifiers.isValue

def checkPrinting (c : ClassDecl) : Report :=
  match c.annotations.printing with
  | none => .notRequested .printing
  | some options =>
    if !printable c then
      .conclude .printing [(Problem.printingUnsupported c.short c.kind).report .error c.location]
    else match blockingMethod c [.print] with
      | some problem => .skipped .printing [problem.report .warning c.location]
      | none =>
        .conclude .printing
          (if options.callSuper && c.superclass.isNone then
            [(Problem.printingWithoutSuper c.short).report .warning c.location]
          else [])

end Readiness

def checkFamily (c : ClassDecl) (strictness : Strictness) : Family → Report
  | .equality => Readiness.checkEquality c
  | .printing => Readiness.checkPrinting c
  | .building => Readiness.checkBuilding c strictness

def checkClass (c : ClassDecl) (strictness : Strictness) : Diagnostics :=
  Family.all.flatMap fun family => (checkFamily c strictness family).diagnostics

end Memberwise
