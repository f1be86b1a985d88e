import Memberwise.Datum.Basic
import Memberwise.Model.BuilderPlan
import Memberwise.Settings

/-!
# Written form of metadata

Fields are written under their names in the host's format. Marks, labels and defaults that are
absent are left out; everything else that is absent is null.
-/

namespace Memberwise

open Datum

instance : Written Location where
  write l := write l.handle
  read? d := (read? d).map .mk

instance : Written ClassName where
  write c := write c.path
  read? d := (read? d).map .mk

instance : Written Family where
  write f := .text f.name
  read? := named? Family.name Family.all

instance : Written ClassKind where
  write k := .text k.name
  read? := named? ClassKind.name ClassKind.all

instance : Written Storage where
  write s := .text s.name
  read? := named? Storage.name Storage.all

instance : Written PropertyOrigin where
  write o := .text o.name
  read? := named? PropertyOrigin.name PropertyOrigin.all

instance : Written HostType where
  write t := .record [("name", write t.name), ("nullable", write t.nullable),
    ("array", write t.array)]
  read? d := do
    match ← d.fields? ["name", "nullable", "array"] with
    | [name, nullable, array] =>
      return ⟨← required? name, ← orElse? false nullable, ← orElse? false array⟩
    | _ => none

instance : Written IncludeMark where
  write m := .record (fieldIfSome "name" m.label)
  read? d := do
    match ← d.fields? ["name"] with
    | [label] => return ⟨← optional? label⟩
    | _ => none

instance : Written Marks where
  write m := .record (fieldIfSome "include" m.included ++ [("exclude", write m.excluded)])
  read? d := do
    match ← d.fields? ["include", "exclude"] with
    | [included, excluded] => return ⟨← optional? included, ← orElse? false excluded⟩
    | _ => none

instance : Written Property where
  write p := .record [("name", write p.name), ("ty", write p.type), ("storage", write p.storage),
    ("origin", write p.origin), ("equality", write p.equality), ("to_string", write p.printing),
    ("location", write p.location)]
  read? d := do
    match ← d.fields?
        ["name", "ty", "storage", "origin", "equality", "to_string", "location"] with
    | [name, type, storage, origin, equality, printing, location] =>
      return {
        name := ← required? name, type := ← required? type,
        storage := ← orElse? .backed storage, origin := ← orElse? .body origin,
        equality := ← orElse? .none equality, printing := ← orElse? .none printing,
        location := ← orElse? .unknown location }
    | _ => none

instance : Written Literal where
  write
    | .bool b => .record [("Bool", write b)]
    | .int i => .record [("Int", write i)]
    | .long l => .record [("Long", write l)]
    | .text s => .record [("Text", write s)]
  read? d := do
    match ← d.case? with
    | ("Bool", some d) => (read? d).map .bool
    | ("Int", some d) => (read? d).map .int
    | ("Long", some d) => (read? d).map .long
    | ("Text", some d) => (read? d).map .text
    | _ => none

instance : Written Default where
  write
    | .null => .text "Null"
    | .literal l => .record [("Literal", write l)]
    | .source s => .record [("Expr", write s)]
  read? d := do
    match ← d.case? with
    | ("Null", none) => some .null
    | ("Null", some .null) => some .null
    | ("Literal", some d) => (read? d).map .literal
    | ("Expr", some d) => (read? d).map .source
    | _ => none

instance : Written Parameter where
  write p := .record ([("name", write p.name), ("ty", write p.type)] ++
    fieldIfSome "default" p.default? ++ [("location", write p.location)])
  read? d := do
    match ← d.fields? ["name", "ty", "default", "location"] with
    | [name, type, default, location] =>
      return {
        name := ← required? name, type := ← required? type, default? := ← optional? default,
        location := ← orElse? .unknown location }
    | _ => none

instance : Written BuilderMethod where
  write m := .record [("name", write m.name), ("params", write m.params),
    ("returns", write m.returns), ("location", write m.location)]
  read? d := do
    match ← d.fields? ["name", "params", "returns", "location"] with
    | [name, params, returns, location] =>
      return {
        name := ← required? name, params := ← required? params, returns := ← required? returns,
        location := ← orElse? .unknown location }
    | _ => none

instance : Written Modifiers where
  write m := .record [("local", write m.isLocal), ("inner", write m.isInner),
    ("value", write m.isValue)]
  read? d := do
    match ← d.fields? ["local", "inner", "value"] with
    | [isLocal, isInner, isValue] =>
      return ⟨← required? isLocal, ← required? isInner, ← required? isValue⟩
    | _ => none

instance : Written BuilderDecl where
  write b := .record [("id", write b.name), ("kind", write b.kind),
    ("modifiers", write b.modifiers), ("methods", write b.methods),
    ("location", write b.location)]
  read? d := do
    match ← d.fields? ["id", "kind", "modifiers", "methods", "location"] with
    | [name, kind, modifiers, methods, location] =>
      return {
        name := ← required? name, kind := ← orElse? .plain kind,
        modifiers := ← orElse? .none modifiers, methods := ← orElse? [] methods,
        location := ← orElse? .unknown location }
    | _ => none

instance : Written EqualityOptions where
  write o := .record [("onlyExplicitlyIncluded", write o.onlyIncluded),
    ("callSuper", write o.callSuper), ("useFieldsNotAccessors", write o.useFields),
    ("includeDeferredInit", write o.includeDeferred)]
  read? d := do
    match ← d.fields?
        ["onlyExplicitlyIncluded", "callSuper", "useFieldsNotAccessors", "includeDeferredInit"] with
    | [onlyIncluded, callSuper, useFields, includeDeferred] =>
      return ⟨← orElse? false onlyIncluded, ← orElse? false callSuper, ← orElse? false useFields,
        ← orElse? false includeDeferred⟩
    | _ => none

instance : Written PrintingOptions where
  write o := .record [("onlyExplicitlyIncluded", write o.onlyIncluded),
    ("callSuper", write o.callSuper), ("useFieldsNotAccessors", write o.useFields)]
  read? d := do
    match ← d.fields? ["onlyExplicitlyIncluded", "callSuper", "useFieldsNotAccessors"] with
    | [onlyIncluded, callSuper, useFields] =>
      return ⟨← orElse? false onlyIncluded, ← orElse? false callSuper, ← orElse? false useFields⟩
    | _ => none

instance : Written Annotations where
  write a := .record [("equalsAndHashCode", write a.equality), ("toString", write a.printing),
    ("buildable", write a.buildable)]
  read? d := do
    match ← d.fields? ["equalsAndHashCode", "toString", "buildable"] with
    | [equality, printing, buildable] =>
      return ⟨← optional? equality, ← optional? printing, ← orElse? false buildable⟩
    | _ => none

instance : Written ObjectMethod where
  write
    | .equals => .text "Equals"
    | .hash => .text "HashCode"
    | .print => .text "ToString"
  read? d := do
    match ← d.bareCase? with
    | "Equals" => some .equals
    | "HashCode" => some .hash
    | "ToString" => some .print
    | _ => none

instance : Written UserMethod where
  write m := .record [("declared_in_class", write m.declaredHere), ("is_final", write m.isFinal)]
  read? d := do
    match ← d.fields? ["declared_in_class", "is_final"] with
    | [declaredHere, isFinal] => return ⟨← required? declaredHere, ← required? isFinal⟩
    | _ => none

instance : Written Strictness where
  write s := .text s.name
  read? := named? Strictness.name Strictness.all

instance : Written BuilderSettings where
  write s := .record [("unrecognized_members", write s.unrecognizedMembers)]
  read? d := do
    match ← d.exactFields? ["unrecognized_members"] with
    | [unrecognized] => return ⟨← orElse? .lenient unrecognized⟩
    | _ => none

instance : Written Settings where
  write s := .record [("builder", write s.builder)]
  read? d := do
    match ← d.exactFields? ["builder"] with
    | [builder] => return ⟨← orElse? default builder⟩
    | _ => none

def SlotSource.write (s : SlotSource) : Datum := .text s.name

def Slot.write (s : Slot) : Datum :=
  .record [("param", Written.write s.param), ("source", s.source.write),
    ("value_slot", .text s.valueSlot), ("value_ty", Written.write s.valueType),
    ("was_set_slot", Written.write s.flagSlot)]

def BuilderPlan.write (plan : BuilderPlan) : Datum :=
  .record [("target", Written.write plan.target), ("builder", Written.write plan.builder),
    ("slots", .list (plan.slots.map (·.write)))]

def DiagnosticCode.write (c : DiagnosticCode) : Datum := .text c.name

def Diagnostic.write (d : Diagnostic) : Datum :=
  .record [("code", d.code.write), ("severity", .text d.severity.name),
    ("message", .text d.message), ("location", Written.write d.location)]

end Memberwise
