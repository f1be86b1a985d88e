import Memberwise.Source.Grammar.Path

/-!
# Types
-/

namespace Memberwise.Source.Grammar

section

variable (rules : Rules)

def boundLifetimes : Parser (List Token) := do
  let lead ← word "for"
  let opening ← op "<"
  let names ← separated "," (beginsOp ">") lifetime
  return lead ++ opening ++ names ++ (← op ">")

def result? (type : Parser (List Token)) : Parser (List Token) :=
  when? (beginsOp "->") do return (← op "->") ++ (← type)

/-- The parameters and the result of a function type after its path. A double colon before them is
dropped. -/
def callArguments : Parser (List Token) := do
  let _ ← op? "::"
  let params ← group .paren (listed rules.type)
  return params ++ (← result? rules.tightType)

def beginsCall (ts : List Token) : Bool :=
  beginsGroup .paren ts || (beginsOp "::" ts && beginsGroup .paren (ts.drop 2))

def callablePath : Parser (Path × Bool) := do
  let (found, isQualified) ← qualifiedPath rules true
  if found.endsInArgs then return (found, isQualified)
  if ← ahead beginsCall then
    return (⟨found.tokens ++ (← callArguments rules), false, true, false⟩, isQualified)
  else return (found, isQualified)

def traitBound : Parser (List Token) := do
  let relaxed ← op? "?"
  let bound ← when? (beginsWord "for") boundLifetimes
  return relaxed ++ bound ++ (← callablePath rules).1.tokens

def bound : Parser (List Token) := do
  if ← ahead beginsLifetime then lifetime
  else if ← ahead (beginsGroup .paren) then group .paren (traitBound rules)
  else traitBound rules

def beginsBound (ts : List Token) : Bool :=
  beginsAnyWord ts || beginsOp "::" ts || beginsOp "?" ts || beginsLifetime ts ||
  beginsGroup .paren ts

def moreBounds (first : List Token) : Parser (List Token) :=
  extend (fun done => do
    if ← ahead (beginsOp "+") then
      let done := done ++ (← op "+")
      if ← ahead beginsBound then return some (done ++ (← bound rules)) else return some done
    else return none) first

def bounds (sums : Bool) : Parser (List Token) := do
  let first ← bound rules
  if sums then moreBounds rules first else return first

def parenType : Parser (List Token) := group .paren (listed rules.type)

def arrayType : Parser (List Token) := group .bracket do
  let element ← rules.type
  return element ++ (← when? (beginsOp ";") do return (← op ";") ++ (← rules.expr))

def pointerType : Parser (List Token) := do
  let star ← op "*"
  let access ← next fun ts => beginsWord "const" ts || beginsWord "mut" ts
  return star ++ access ++ (← rules.tightType)

def referenceType : Parser (List Token) := do
  let mark ← op "&"
  let life ← when? beginsLifetime lifetime
  let access ← word? "mut"
  return mark ++ life ++ access ++ (← rules.tightType)

def functionParam : Parser (List Token) := do
  let label ← when? (fun ts => beginsAnyWord ts && beginsOp ":" (ts.drop 1) &&
      !beginsOp "::" (ts.drop 1)) do return (← next beginsAnyWord) ++ (← op ":")
  return label ++ (← rules.type)

def functionType : Parser (List Token) := do
  let safety ← word? "unsafe"
  let abi ← when? (beginsWord "extern") do
    return (← word "extern") ++ (← when? beginsLiteral literal)
  let lead ← word "fn"
  let params ← group .paren (listed (functionParam rules))
  return safety ++ abi ++ lead ++ params ++ (← result? rules.tightType)

def namedType (sums : Bool) : Parser Phrase := do
  let (found, isQualified) ← callablePath rules
  if isQualified then return plain found.tokens
  if found.isBare && (← ahead beginsMacroCall) then return plain (found.tokens ++ (← macroCall))
  if sums && (← ahead (beginsOp "+")) then return plain (← moreBounds rules found.tokens)
  return ⟨found.tokens, if found.isSingle then .label else .plain⟩

def type (sums : Bool) : Parser Phrase := do
  let lifetimes ← when? (beginsWord "for") boundLifetimes
  let ts ← get
  if lifetimes ≠ [] && !beginsAnyWord ts then failure
  let found ←
    if beginsGroup .paren ts then plain <$> parenType rules
    else if beginsWord "fn" ts || beginsWord "unsafe" ts || beginsWord "extern" ts then
      plain <$> functionType rules
    else if beginsWord "dyn" ts || beginsWord "impl" ts then
      plain <$> do return (← next beginsAnyWord) ++ (← bounds rules sums)
    else if beginsGroup .bracket ts then plain <$> arrayType rules
    else if beginsOp "*" ts then plain <$> pointerType rules
    else if beginsOp "&" ts then plain <$> referenceType rules
    else if beginsMacroCall ts then plain <$> op "!"
    else if beginsWord "_" ts then plain <$> word "_"
    else if beginsLifetime ts then plain <$> bounds rules sums
    else namedType rules sums
  return { found with
    tokens := lifetimes ++ found.tokens
    shape := if lifetimes = [] then found.shape else .plain }

end

end Memberwise.Source.Grammar
