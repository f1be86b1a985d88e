import Memberwise.Model.Parameter
import Memberwise.Model.Property

/-!
# Class declarations

The shape of a class as the host presents it: its kind, its properties, its primary constructor,
its annotations and the builder nested in it.
-/

namespace Memberwise

inductive ClassKind
  | plain
  | data
  | object
  | interface
  | enum
  | enumEntry
  | annotation
  | anonymous
deriving DecidableEq, Repr, Inhabited

namespace ClassKind

def name : ClassKind → String
  | plain => "Class"
  | data => "DataClass"
  | object => "Object"
  | interface => "Interface"
  | enum => "EnumClass"
  | enumEntry => "EnumEntry"
  | annotation => "AnnotationClass"
  | anonymous => "AnonymousObject"

def all : List ClassKind :=
  [plain, data, object, interface, enum, enumEntry, annotation, anonymous]

def isRegular (k : ClassKind) : Bool := k = plain || k = data

end ClassKind

structure Modifiers where
  isLocal : Bool
  isInner : Bool
  isValue : Bool
deriving DecidableEq, Repr

namespace Modifiers

def none : Modifiers := ⟨false, false, false⟩

instance : Inhabited Modifiers := ⟨none⟩

def arePlain (m : Modifiers) : Bool := m = none

end Modifiers

structure EqualityOptions where
  onlyIncluded : Bool
  callSuper : Bool
  useFields : Bool
  /-- Lets deferred properties take part without a mark. -/
  includeDeferred : Bool
deriving DecidableEq, Repr

instance : Inhabited EqualityOptions := ⟨⟨false, false, false, false⟩⟩

structure PrintingOptions where
  onlyIncluded : Bool
  callSuper : Bool
  useFields : Bool
deriving DecidableEq, Repr

instance : Inhabited PrintingOptions := ⟨⟨false, false, false⟩⟩

/-- Annotations of a class; a family without options was not requested. -/
structure Annotations where
  equality : Option EqualityOptions
  printing : Option PrintingOptions
  buildable : Bool
deriving DecidableEq, Repr

namespace Annotations

def none : Annotations := ⟨.none, .none, false⟩

instance : Inhabited Annotations := ⟨none⟩

end Annotations

structure BuilderMethod where
  name : String
  params : List HostType
  returns : HostType
  location : Location
deriving DecidableEq, Repr

structure BuilderDecl where
  name : ClassName
  kind : ClassKind
  modifiers : Modifiers
  methods : List BuilderMethod
  location : Location
deriving DecidableEq, Repr

namespace BuilderDecl

def method? (b : BuilderDecl) (name : String) : Option BuilderMethod :=
  b.methods.find? (·.name = name)

def selfType (b : BuilderDecl) : HostType := .ofClass b.name

end BuilderDecl

structure ClassDecl where
  name : ClassName
  kind : ClassKind
  modifiers : Modifiers
  superclass : Option ClassName
  /-- In order of declaration. -/
  properties : List Property
  /-- Parameters of the primary constructor, if there is one. -/
  primary : Option (List Parameter)
  userMethods : UserMethods
  annotations : Annotations
  builder : Option BuilderDecl
  location : Location
deriving DecidableEq, Repr

namespace ClassDecl

def empty (name : ClassName) (kind : ClassKind) : ClassDecl :=
  { name, kind, modifiers := .none, superclass := none, properties := [], primary := none,
    userMethods := .none, annotations := .none, builder := none, location := .unknown }

def short (c : ClassDecl) : String := c.name.short

def selfType (c : ClassDecl) : HostType := .ofClass c.name

def property? (c : ClassDecl) (name : String) : Option Property :=
  c.properties.find? (·.name = name)

/-- None where there is no primary constructor. -/
def params (c : ClassDecl) : List Parameter := c.primary.getD []

def isPlainRegular (c : ClassDecl) : Bool := c.kind.isRegular && c.modifiers.arePlain

theorem isPlainRegular_iff {c : ClassDecl} :
    c.isPlainRegular = true ↔ (c.kind = .plain ∨ c.kind = .data) ∧ c.modifiers = .none := by
  simp [isPlainRegular, ClassKind.isRegular, Modifiers.arePlain]

def withProperty (c : ClassDecl) (p : Property) : ClassDecl :=
  { c with properties := c.properties ++ [p] }

def takeNamed (name : String) : List Property → Option (Property × List Property)
  | [] => none
  | p :: ps =>
    if p.name = name then some (p, ps)
    else (takeNamed name ps).map fun (q, rest) => (q, p :: rest)

/-- Properties of the parameters in their order, and the properties that no parameter took. A
parameter takes the first property left of its name and gets a fresh one where there is none. -/
def assignParams : List Parameter → List Property → List Property × List Property
  | [], ps => ([], ps)
  | param :: params, ps =>
    match takeNamed param.name ps with
    | some (p, rest) =>
      let (taken, left) := assignParams params rest
      ({ p with origin := .constructor } :: taken, left)
    | none =>
      let (taken, left) := assignParams params ps
      ({ Property.ofConstructor param.name param.type with location := param.location } :: taken,
        left)

/-- Declares the primary constructor, whose properties come before those of the body. -/
def withPrimary (c : ClassDecl) (params : List Parameter) : ClassDecl :=
  let (taken, left) := assignParams params c.properties
  { c with properties := taken ++ left, primary := some params }

end ClassDecl

def buildMethod : String := "build"

/-- The builder that a user is expected to declare: a setter for each parameter and `build`. -/
def BuilderDecl.conventional (c : ClassDecl) : BuilderDecl :=
  let name := c.name.nested "Builder"
  let setters := c.params.map fun p =>
    { name := p.name, params := [p.type], returns := .ofClass name, location := .unknown }
  { name, kind := .plain, modifiers := .none,
    methods := setters ++
      [{ name := buildMethod, params := [], returns := c.selfType, location := .unknown }],
    location := .unknown }

end Memberwise
