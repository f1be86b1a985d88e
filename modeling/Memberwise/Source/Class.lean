import Memberwise.Engine.Basic
import Memberwise.Source.Body

/-!
# Members and classes as source

A member becomes a function of the runtime, the receiver and its parameters; a class becomes a
module of its members with a module for its builder in it. Two functions of one module may not
have the same identifier, and a builder may not store two things under one name.
-/

namespace Memberwise.Source

def docAttribute (text : String) : List Token :=
  Token.op "#" ++ [.bracket (code "doc =" ++ [.string text])]

/-- The first name that equals an earlier one, where `seen` are earlier names. -/
def firstRepeated (seen : List String) : List String → Option String
  | [] => none
  | name :: names => if seen.contains name then some name else firstRepeated (name :: seen) names

def freshFields (rt : List Token) (plan : BuilderPlan) : List (String × List Token) :=
  plan.slots.flatMap fun slot =>
    (slot.valueSlot, nullSource rt) ::
      slot.flagSlot.toList.map fun flag => (flag, boolSource rt false)

def freshName : String := "new_builder"

def builderSource (rt : List Token) (plan : BuilderPlan) : Rendered :=
  let fields := freshFields rt plan
  match firstRepeated [] (fields.map (·.1)) with
  | some name => .error (.duplicateSlot name)
  | none =>
    .ok (docAttribute (" Empty \x60" ++ plan.builder.short ++ "\x60.") ++
      Token.op "#" ++ [.bracket (code "must_use")] ++
      code "pub fn" ++ [.word freshName, .paren []] ++ code "->" ++ inRuntime rt ":: Value" ++
      [.brace (objectSource rt plan.builder fields)])

structure Item where
  name : String
  identifier : String
  tokens : List Token
deriving Repr

/-- The module of a class. Without a builder the builder's members have no place in it. -/
structure ClassModule where
  identifier : String
  members : List Item
  /-- The function for a fresh builder and the members of the builder. -/
  builder : Option (List Token × List Item)
deriving Repr

namespace ClassModule

def itemTokens (items : List Item) : List Token := items.flatMap (·.tokens)

def tokens (m : ClassModule) : List Token :=
  let builder := match m.builder with
    | some (fresh, items) => code "pub mod builder" ++ [.brace (fresh ++ itemTokens items)]
    | none => []
  code "pub mod" ++ [.word m.identifier, .brace (itemTokens m.members ++ builder)]

end ClassModule

/-- Identifiers of one module, each with the name that it stands for. -/
abbrev Taken := Table String String

def Taken.add (taken : Taken) (item : Item) : Except Unrenderable Taken :=
  match taken.get? item.identifier with
  | some first => .error (.nameClash first item.name item.identifier)
  | none => .ok (taken.insert item.identifier item.name)

namespace Language

variable (L : Language)

def runtimePath (path : String) : Rendered :=
  match L.path? path with
  | some ts => .ok ts
  | none => .error (.invalidPath path)

variable (rt : List Token)

def paramSource (param : BodyParam) : Rendered := do
  return [.word (← L.snakeIdentifier param.name)] ++ Token.op ":" ++ inRuntime rt ":: Value"

def methodSource (m : Method) : Rendered := do
  let signature := m.body.signature
  let name ← L.snakeIdentifier signature.name
  let params ← signature.params.mapM (L.paramSource rt)
  let body ← L.stmtsSource rt signature.name m.body.stmts
  let doc := " Synthesized \x60" ++ m.member.text ++ "\x60 of \x60" ++ m.owner.path ++ "\x60."
  let receivers := [code "__rt : &" ++ inRuntime rt ":: Runtime",
    code "__this : &" ++ inRuntime rt ":: Value"]
  return docAttribute doc ++
    Token.op "#" ++ [.bracket (code "allow" ++ [.paren (code "clippy :: all , unused_parens")])] ++
    code "pub fn" ++ [.word name, .paren (commaSeparated (receivers ++ params))] ++
    code "-> :: core :: result :: Result <" ++ inRuntime rt ":: Value ," ++
    inRuntime rt ":: RuntimeError >" ++ [.brace body]

def itemOf (m : Method) : Except Unrenderable Item := do
  let tokens ← L.methodSource rt m
  let name := m.body.signature.name
  return ⟨name, ← L.snakeIdentifier name, tokens⟩

/-- Renders methods in order: those of the class, and those of its builder. -/
def itemsOf (cls : ClassName) (own builder : Taken) :
    List Method → Except Unrenderable (List Item × List Item)
  | [] => .ok ([], [])
  | m :: ms => do
    let item ← L.itemOf rt m
    if m.owner = cls then
      let (members, others) ← itemsOf cls (← own.add item) builder ms
      return (item :: members, others)
    else
      let (members, others) ← itemsOf cls own (← builder.add item) ms
      return (members, item :: others)

def classModule (s : ClassSynthesis) : Except Unrenderable ClassModule := do
  let identifier ← L.snakeIdentifier s.cls.short
  let (members, others) ← L.itemsOf rt s.cls ∅ (Table.insert ∅ freshName freshName) s.methods
  match s.builder with
  | none => return ⟨identifier, members, none⟩
  | some plan => return ⟨identifier, members, some (← builderSource rt plan, others)⟩

end Language

end Memberwise.Source
