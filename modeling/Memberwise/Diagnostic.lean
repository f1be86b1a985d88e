import Memberwise.Model.Class

/-!
# Diagnostics

What is reported about a class. A diagnostic keeps its code, its severity, its text and where the
reported declaration stands. `Problem` lists the causes that the library itself reports; it gives
each its code and its text.
-/

namespace Memberwise

/-- Errors refuse a family, warnings advise, and information records that nothing is to do. -/
inductive Severity
  | info
  | warning
  | error
deriving DecidableEq, Repr, Inhabited

namespace Severity

def all : List Severity := [info, warning, error]

def name : Severity → String
  | info => "Info"
  | warning => "Warning"
  | error => "Error"

def text : Severity → String
  | info => "info"
  | warning => "warning"
  | error => "error"

def rank : Severity → Nat
  | info => 0
  | warning => 1
  | error => 2

end Severity

inductive DiagnosticCode
  | annotatedDataClassBodyProperty
  | buildableInvalidPrimaryConstructor
  | buildableMissingBuilder
  | builderInvalidLocation
  | builderInvalidMethodSignature
  | builderMissingMethod
  | builderUnrecognizedMethod
  | callSuperWithoutSuperclass
  | includeOnIneligibleProperty
  | methodAlreadyDeclared
  | methodNotOverridable
  | unsupportedClassType
deriving DecidableEq, Repr, Inhabited

namespace DiagnosticCode

def all : List DiagnosticCode :=
  [annotatedDataClassBodyProperty, buildableInvalidPrimaryConstructor, buildableMissingBuilder,
    builderInvalidLocation, builderInvalidMethodSignature, builderMissingMethod,
    builderUnrecognizedMethod, callSuperWithoutSuperclass, includeOnIneligibleProperty,
    methodAlreadyDeclared, methodNotOverridable, unsupportedClassType]

def name : DiagnosticCode → String
  | annotatedDataClassBodyProperty => "AnnotatedDataClassBodyProperty"
  | buildableInvalidPrimaryConstructor => "BuildableInvalidPrimaryConstructor"
  | buildableMissingBuilder => "BuildableMissingBuilder"
  | builderInvalidLocation => "BuilderInvalidLocation"
  | builderInvalidMethodSignature => "BuilderInvalidMethodSignature"
  | builderMissingMethod => "BuilderMissingMethod"
  | builderUnrecognizedMethod => "BuilderUnrecognizedMethod"
  | callSuperWithoutSuperclass => "CallSuperWithoutSuperclass"
  | includeOnIneligibleProperty => "IncludeOnIneligibleProperty"
  | methodAlreadyDeclared => "MethodAlreadyDeclared"
  | methodNotOverridable => "MethodNotOverridable"
  | unsupportedClassType => "UnsupportedClassType"

def rank (code : DiagnosticCode) : Nat := all.idxOf code

end DiagnosticCode

structure Diagnostic where
  code : DiagnosticCode
  severity : Severity
  message : String
  location : Location
deriving DecidableEq, Repr

namespace Diagnostic

def isError (d : Diagnostic) : Bool := d.severity = .error

def text (d : Diagnostic) : String :=
  d.severity.text ++ "[" ++ d.code.name ++ "] at " ++ d.location.text ++ ": " ++ d.message

/-- Severity first, then code, then location. -/
def le (d e : Diagnostic) : Bool :=
  if d.severity = e.severity then
    if d.code = e.code then d.location.handle ≤ e.location.handle
    else d.code.rank ≤ e.code.rank
  else d.severity.rank ≤ e.severity.rank

end Diagnostic

abbrev Diagnostics := List Diagnostic

namespace Diagnostics

def hasErrors (ds : Diagnostics) : Bool := ds.any (·.isError)

def withSeverity (ds : Diagnostics) (s : Severity) : Diagnostics := ds.filter (·.severity = s)

def codes (ds : Diagnostics) : List DiagnosticCode :=
  DiagnosticCode.all.filter fun code => ds.any (·.code = code)

def sorted (ds : Diagnostics) : Diagnostics := ds.mergeSort Diagnostic.le

def text (ds : Diagnostics) : String := "\n".intercalate (ds.map (·.text))

end Diagnostics

inductive Problem
  | equalityUnsupported (short : String) (kind : ClassKind)
  | printingUnsupported (short : String) (kind : ClassKind)
  | alreadyDeclared (method : ObjectMethod) (short : String)
  | notOverridable (method : ObjectMethod) (short : String)
  | equalityWithoutSuper (short : String)
  | printingWithoutSuper (short : String)
  | includeWithoutField (property : String)
  | includeInDataBody (property : String)
  | strayBuilder (builder : ClassName)
  | missingBuilder (short : String)
  | builderUnsupported
  | buildableUnsupported
  | noParameters
  | parameterNotProperty (param : String)
  | buildSignature (short : String)
  | setterReturn (method : String)
  | setterArity (method : String)
  | setterType (method : String) (expected : HostType)
  | unrecognizedRefused (method : String)
  | unrecognizedIgnored (method : String)
  | missingSetter (param : String)
  | missingBuild
deriving DecidableEq, Repr

namespace Problem

def code : Problem → DiagnosticCode
  | equalityUnsupported .. | printingUnsupported .. | builderUnsupported
  | buildableUnsupported => .unsupportedClassType
  | alreadyDeclared .. => .methodAlreadyDeclared
  | notOverridable .. => .methodNotOverridable
  | equalityWithoutSuper _ | printingWithoutSuper _ => .callSuperWithoutSuperclass
  | includeWithoutField _ => .includeOnIneligibleProperty
  | includeInDataBody _ => .annotatedDataClassBodyProperty
  | strayBuilder _ => .builderInvalidLocation
  | missingBuilder _ => .buildableMissingBuilder
  | noParameters | parameterNotProperty _ => .buildableInvalidPrimaryConstructor
  | buildSignature _ | setterReturn _ | setterArity _ | setterType .. =>
    .builderInvalidMethodSignature
  | unrecognizedRefused _ | unrecognizedIgnored _ => .builderUnrecognizedMethod
  | missingSetter _ | missingBuild => .builderMissingMethod

open Text (inQuotes)

def message : Problem → String
  | equalityUnsupported short kind =>
    "equals/hashCode can only be generated for regular and data classes, not " ++ inQuotes short ++
      " (" ++ kind.name ++ ")"
  | printingUnsupported short kind =>
    "toString can only be generated for regular classes, data classes and objects, not " ++
      inQuotes short ++ " (" ++ kind.name ++ ")"
  | alreadyDeclared method short =>
    inQuotes method.name ++ " is already declared in " ++ inQuotes short ++ "; nothing is generated"
  | notOverridable method short =>
    inQuotes method.name ++ " is final in a superclass of " ++ inQuotes short ++
      "; nothing is generated"
  | equalityWithoutSuper short =>
    "callSuper requires an explicit superclass; " ++ inQuotes short ++
      " only inherits identity equality"
  | printingWithoutSuper short =>
    "callSuper on " ++ inQuotes short ++
      " without a superclass prints the default object representation"
  | includeWithoutField property =>
    "property " ++ inQuotes property ++
      " has no backing field and cannot be included in equals/hashCode"
  | includeInDataBody property =>
    "property " ++ inQuotes property ++ " is declared in the body of a data class and " ++
      "cannot be included in equals/hashCode"
  | strayBuilder builder =>
    "builder class " ++ inQuotes builder.path ++ " must be nested in a class marked buildable"
  | missingBuilder short => "buildable class " ++ inQuotes short ++ " has no nested builder class"
  | builderUnsupported =>
    "builder class must be a regular class, " ++
      "not an object, interface, inner, value or enum class"
  | buildableUnsupported =>
    "buildable class must be a regular class, " ++
      "not an object, interface, inner, value or enum class"
  | noParameters =>
    "buildable class must have a primary constructor with at least one property"
  | parameterNotProperty param =>
    "all parameters of a buildable class constructor must be properties, " ++ inQuotes param ++
      " is not"
  | buildSignature short =>
    "builder " ++ inQuotes buildMethod ++ " method must not have any parameters and must return " ++
      "the buildable class " ++ inQuotes short
  | setterReturn method => "builder method " ++ inQuotes method ++ " must return the builder type"
  | setterArity method =>
    "builder method " ++ inQuotes method ++ " must have exactly one parameter of the same type " ++
      "as the constructor parameter"
  | setterType method expected =>
    "invalid parameter type for builder method " ++ inQuotes method ++ ", expected " ++
      inQuotes expected.text
  | unrecognizedRefused method =>
    inQuotes method ++ " is neither a setter for a constructor parameter nor " ++
      inQuotes buildMethod
  | unrecognizedIgnored method =>
    inQuotes method ++ " is neither a setter for a constructor parameter nor " ++
      inQuotes buildMethod ++ " and is ignored"
  | missingSetter param =>
    "builder class must have a method for each constructor parameter but " ++ inQuotes param ++
      " is missing"
  | missingBuild => "builder class must have a " ++ inQuotes buildMethod ++ " method"

def report (p : Problem) (severity : Severity) (location : Location) : Diagnostic :=
  ⟨p.code, severity, p.message, location⟩

end Problem

end Memberwise
