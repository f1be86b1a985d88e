import Memberwise.Source.Grammar.Basic

/-!
# Paths

A path in a type may have arguments after any name; in an expression a double colon must come
before them. Among arguments the lifetimes are written first.
-/

namespace Memberwise.Source.Grammar

structure Path where
  tokens : List Token
  /-- Whether no name has arguments. -/
  isBare : Bool
  /-- Whether the last name has arguments. -/
  endsInArgs : Bool
  isSingle : Bool

structure Argument where
  isLifetime : Bool
  tokens : List Token
  hasComma : Bool

/-- Lifetimes before all else, with a comma where two arguments meet. -/
def Argument.write (args : List Argument) : List Token :=
  let ordered := args.filter (·.isLifetime) ++ args.filter (!·.isLifetime)
  let rec go : List Argument → List Token
    | [] => []
    | [a] => a.tokens ++ if a.hasComma then Token.op "," else []
    | a :: rest => a.tokens ++ Token.op "," ++ go rest
  go ordered

section

variable (rules : Rules)

def constant : Parser (List Token) := do
  if ← ahead beginsLiteral then literal else rules.block

def beginsConstant (ts : List Token) : Bool := beginsLiteral ts || beginsGroup .brace ts

def afterLabel : Parser (List Token) := do
  if ← ahead (beginsOp "=") then
    let equals ← op "="
    return equals ++ (← if ← ahead beginsConstant then constant rules else rules.type)
  if ← ahead (beginsOp ":") then
    let colon ← op ":"
    return colon ++ (← rules.type)
  return []

def argument : Parser (Bool × List Token) := do
  if ← ahead fun ts => beginsLifetime ts && !beginsOp "+" (ts.drop 1) then
    return (true, ← lifetime)
  if ← ahead beginsConstant then return (false, ← constant rules)
  let type ← rules (.type true)
  let more ← if type.shape = .label then afterLabel rules else pure []
  return (false, type.tokens ++ more)

def arguments : Parser (List Token) := do
  let colons ← op? "::"
  let opening ← op "<"
  let args ← extend (fun done => do
    if ← ahead (beginsOp ">") then return none
    let (isLifetime, tokens) ← argument rules
    if ← ahead (beginsOp ">") then return some (done ++ [⟨isLifetime, tokens, false⟩])
    let _ ← op ","
    return some (done ++ [⟨isLifetime, tokens, true⟩])) []
  return colons ++ opening ++ Argument.write args ++ (← op ">")

def beginsPlace (ts : List Token) : Bool :=
  ["super", "self", "crate", "try"].any (beginsWord · ts)

def segment (inType : Bool) : Parser (List Token × Bool) := do
  if ← ahead beginsPlace then return (← next beginsPlace, false)
  let head ← next fun ts => beginsName ts || beginsWord "Self" ts
  let hasArgs ← ahead fun ts =>
    (inType && beginsOp "<" ts && !beginsOp "<=" ts && !beginsOp "<<=" ts) ||
    (beginsOp "::" ts && beginsOp "<" (ts.drop 2))
  if hasArgs then return (head ++ (← arguments rules), true) else return (head, false)

/-- More names after double colons, unless a parenthesis comes instead. -/
def moreSegments (inType : Bool) : Path → Parser Path := extend fun done => do
  if ← ahead fun ts => beginsOp "::" ts && !beginsGroup .paren (ts.drop 2) then
    let colons ← op "::"
    let (tokens, hasArgs) ← segment rules inType
    return some ⟨done.tokens ++ colons ++ tokens, done.isBare && !hasArgs, hasArgs, false⟩
  else return none

def path (inType : Bool) : Parser Path := do
  let colons ← op? "::"
  let (tokens, hasArgs) ← segment rules inType
  moreSegments rules inType ⟨colons ++ tokens, !hasArgs, hasArgs, colons.isEmpty⟩

def qualifiedPath (inType : Bool) : Parser (Path × Bool) := do
  if ← ahead (beginsOp "<") then
    let opening ← op "<"
    let self ← rules.type
    let base ← if ← ahead (beginsWord "as") then
        let as ← word "as"
        pure (as ++ (← path rules true).tokens)
      else pure []
    let closing ← op ">"
    let colons ← op "::"
    let (tokens, hasArgs) ← segment rules inType
    let rest ← moreSegments rules inType ⟨tokens, !hasArgs, hasArgs, false⟩
    let lead := opening ++ self ++ base ++ closing ++ colons
    return ({ rest with tokens := lead ++ rest.tokens }, true)
  else return (← path rules inType, false)

def macroCall : Parser (List Token) := do
  return (← op "!") ++ (← anyGroup)

def beginsMacroCall (ts : List Token) : Bool := beginsOp "!" ts && !beginsOp "!=" ts

end

end Memberwise.Source.Grammar
