import Memberwise.Body.Member
import Memberwise.Datum.Metadata

/-!
# Written form of bodies

An expression or statement is its bare name, or one field under its name: its only part, the list
of its parts, or the record of its named parts.
-/

namespace Memberwise

open Datum

instance : Written Access where
  write
    | .getter => .text "Getter"
    | .field => .text "Field"
  read? d := do
    match ← d.bareCase? with
    | "Getter" => some .getter
    | "Field" => some .field
    | _ => none

instance : Written HashKind where
  write
    | .ambient => .text "Ambient"
    | .arrayIdentity => .text "ArrayIdentity"
  read? d := do
    match ← d.bareCase? with
    | "Ambient" => some .ambient
    | "ArrayIdentity" => some .arrayIdentity
    | _ => none

mutual

def Expr.write : Expr → Datum
  | .null => .text "Null"
  | .bool b => .record [("Bool", Written.write b)]
  | .int i => .record [("Int", Written.write i)]
  | .text s => .record [("Text", Written.write s)]
  | .this => .text "This"
  | .param name => .record [("Param", Written.write name)]
  | .local name => .record [("Local", Written.write name)]
  | .property receiver name access =>
    .record [("Property", .record [("receiver", receiver.write), ("name", Written.write name),
      ("access", Written.write access)])]
  | .guardedProperty receiver name access fallback =>
    .record [("GuardedProperty", .record [("receiver", receiver.write),
      ("name", Written.write name), ("access", Written.write access),
      ("fallback", fallback.write)])]
  | .superCall superclass method args =>
    .record [("SuperCall", .record [("superclass", Written.write superclass),
      ("method", Written.write method), ("args", .list (writeExprs args))])]
  | .not e => .record [("Not", e.write)]
  | .isNull e => .record [("IsNull", e.write)]
  | .sameRef a b => .record [("SameRef", .list [a.write, b.write])]
  | .valueEq a b => .record [("ValueEq", .list [a.write, b.write])]
  | .isInstance value cls =>
    .record [("IsInstance", .record [("value", value.write), ("class", Written.write cls)])]
  | .cast value cls =>
    .record [("Cast", .record [("value", value.write), ("class", Written.write cls)])]
  | .hashOf value kind =>
    .record [("HashOf", .record [("value", value.write), ("kind", Written.write kind)])]
  | .add a b => .record [("Add", .list [a.write, b.write])]
  | .mul a b => .record [("Mul", .list [a.write, b.write])]
  | .concat parts => .record [("Concat", .list (writeExprs parts))]
  | .stringify e => .record [("Stringify", e.write)]
  | .cond c a b =>
    .record [("If", .record [("cond", c.write), ("then", a.write), ("otherwise", b.write)])]
  | .new cls args =>
    .record [("New", .record [("class", Written.write cls), ("args", .list (writeArgs args))])]
  | .defaultOf param value =>
    .record [("DefaultOf", .record [("param", Written.write param),
      ("value", Written.write value)])]
termination_by structural e => e

def writeExprs : List Expr → List Datum
  | [] => []
  | e :: es => e.write :: writeExprs es
termination_by structural es => es

def writeArgs : List (String × Expr) → List Datum
  | [] => []
  | (name, e) :: es => .list [.text name, e.write] :: writeArgs es
termination_by structural es => es

end

def Failure.write : Failure → Datum
  | .missingArgument param => .record [("MissingArgument", .record [("param", .text param)])]

def Stmt.write : Stmt → Datum
  | .let_ name value =>
    .record [("Let", .record [("name", .text name), ("value", value.write)])]
  | .assign name value =>
    .record [("Assign", .record [("name", .text name), ("value", value.write)])]
  | .setField receiver name value =>
    .record [("SetField", .record [("receiver", receiver.write), ("name", .text name),
      ("value", value.write)])]
  | .ifReturn cond value =>
    .record [("IfReturn", .record [("cond", cond.write), ("value", value.write)])]
  | .throwIf cond failure =>
    .record [("ThrowIf", .record [("cond", cond.write), ("failure", failure.write)])]
  | .return_ value => .record [("Return", value.write)]

def BodyParam.write (p : BodyParam) : Datum :=
  .record [("name", .text p.name), ("ty", Written.write p.type)]

def Signature.write (s : Signature) : Datum :=
  .record [("name", .text s.name), ("params", .list (s.params.map (·.write))),
    ("returns", Written.write s.returns)]

def Body.write (b : Body) : Datum :=
  .record [("signature", b.signature.write), ("stmts", .list (b.stmts.map (·.write)))]

def Member.write : Member → Datum
  | .equals => .text "Equals"
  | .hash => .text "HashCode"
  | .print => .text "ToString"
  | .setter param => .record [("BuilderSetter", .text param)]
  | .build => .text "BuilderBuild"

def Method.write (m : Method) : Datum :=
  .record [("target", m.member.write), ("owner", Written.write m.owner), ("body", m.body.write),
    ("origin", .record [("Synthesized", Written.write m.origin)])]

end Memberwise
