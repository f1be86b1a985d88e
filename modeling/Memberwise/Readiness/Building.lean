import Memberwise.Readiness.Report

/-!
# Readiness for building

A buildable class and the builder nested in it come together. The class needs a primary
constructor of properties, and the builder a setter for each parameter and a `build` method.
-/

namespace Memberwise.Readiness

def isStoredProperty (c : ClassDecl) (p : Parameter) : Bool :=
  (c.property? p.name).any fun q => q.hasField && q.type = p.type

def checkBuild (c : ClassDecl) (m : BuilderMethod) : Diagnostics :=
  if m.params ≠ [] || m.returns ≠ c.selfType then
    [(Problem.buildSignature c.short).report .error m.location]
  else []

def checkSetter (b : BuilderDecl) (p : Parameter) (m : BuilderMethod) : Diagnostics :=
  if m.returns ≠ b.selfType then [(Problem.setterReturn m.name).report .error m.location]
  else match m.params with
    | [type] =>
      if type ≠ p.type then [(Problem.setterType m.name p.type).report .error m.location] else []
    | _ => [(Problem.setterArity m.name).report .error m.location]

def checkUnrecognized (strictness : Strictness) (m : BuilderMethod) : Diagnostics :=
  match strictness with
  | .strict => [(Problem.unrecognizedRefused m.name).report .error m.location]
  | .lenient => [(Problem.unrecognizedIgnored m.name).report .warning m.location]

def checkMethod (c : ClassDecl) (b : BuilderDecl) (strictness : Strictness) (m : BuilderMethod) :
    Diagnostics :=
  if m.name = buildMethod then checkBuild c m
  else match c.params.find? (·.name = m.name) with
    | some p => checkSetter b p m
    | none => checkUnrecognized strictness m

def checkMissingSetter (b : BuilderDecl) (p : Parameter) : Diagnostics :=
  if (b.method? p.name).isNone then [(Problem.missingSetter p.name).report .error b.location]
  else []

def checkMethods (c : ClassDecl) (b : BuilderDecl) (strictness : Strictness) : Diagnostics :=
  b.methods.flatMap (checkMethod c b strictness) ++ c.params.flatMap (checkMissingSetter b) ++
    (if (b.method? buildMethod).isNone then [Problem.missingBuild.report .error b.location]
    else [])

/-- What is wrong with the two classes before the methods are looked at, the first thing only. -/
def shapeProblem (c : ClassDecl) (b : BuilderDecl) : Option Diagnostic :=
  if b.kind ≠ .plain || !b.modifiers.arePlain then
    some (Problem.builderUnsupported.report .error b.location)
  else if !c.isPlainRegular then
    some (Problem.buildableUnsupported.report .error c.location)
  else if c.params = [] then
    some (Problem.noParameters.report .error c.location)
  else
    (c.params.find? (fun p => !isStoredProperty c p)).map fun p =>
      (Problem.parameterNotProperty p.name).report .error p.location

def checkBuilding (c : ClassDecl) (strictness : Strictness) : Report :=
  match c.builder, c.annotations.buildable with
  | none, false => .notRequested .building
  | some b, false => .conclude .building [(Problem.strayBuilder b.name).report .error b.location]
  | none, true => .conclude .building [(Problem.missingBuilder c.short).report .error c.location]
  | some b, true =>
    .conclude .building <| match shapeProblem c b with
      | some d => [d]
      | none => checkMethods c b strictness

end Memberwise.Readiness
