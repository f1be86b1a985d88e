import Memberwise.Body.Member
import Memberwise.Model.BuilderPlan

/-!
# Builder members

A setter stores its argument, raises the flag where there is one and returns the builder. `build`
checks the required slots and calls the primary constructor; it only reads the builder.
-/

namespace Memberwise.Synthesis

def setterStmts (slot : Slot) : List Stmt :=
  [.setField .this slot.valueSlot (.param slot.param.name)] ++
  slot.flagSlot.toList.map (fun flag => .setField .this flag (.bool true)) ++
  [.return_ .this]

def setter (plan : BuilderPlan) (slot : Slot) : Method :=
  { member := .setter slot.param.name, owner := plan.builder,
    body :=
      { signature :=
          { name := slot.param.name, params := [⟨slot.param.name, slot.param.type⟩],
            returns := .ofClass plan.builder },
        stmts := setterStmts slot } }

def argument (slot : Slot) : Expr :=
  let shadow := Expr.fieldOfThis slot.valueSlot
  let default := Expr.defaultOf slot.param.name (slot.param.default?.getD .null)
  match slot.source, slot.flagSlot with
  | .required, _ | .shadow, _ => shadow
  | .shadowOrDefault, _ | .flagOrDefault, none => .cond (.isNull shadow) default shadow
  | .flagOrDefault, some flag => .cond (.fieldOfThis flag) shadow default

def requireStmt (slot : Slot) : Stmt :=
  .throwIf (.isNull (.fieldOfThis slot.valueSlot)) (.missingArgument slot.param.name)

def buildStmts (plan : BuilderPlan) : List Stmt :=
  plan.required.map requireStmt ++
  [.return_ (.new plan.target (plan.slots.map fun slot => (slot.param.name, argument slot)))]

def build (plan : BuilderPlan) : Method :=
  { member := .build, owner := plan.builder,
    body :=
      { signature := { name := buildMethod, params := [], returns := .ofClass plan.target },
        stmts := buildStmts plan } }

end Memberwise.Synthesis
