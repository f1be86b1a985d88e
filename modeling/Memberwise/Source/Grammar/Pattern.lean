import Memberwise.Source.Grammar.Types

/-!
# Patterns
-/

namespace Memberwise.Source.Grammar

def outerAttribute (rules : Rules) : Parser (List Token) := do
  let mark ← op "#"
  let body ← group .bracket do
    let head ← path rules true
    if ← atEnd then return head.tokens
    if ← ahead (beginsOp "=") then return head.tokens ++ (← op "=") ++ (← rules.expr)
    return head.tokens ++ (← anyGroup)
  return mark ++ body

def attributes (rules : Rules) : Parser (List Token) := many (beginsOp "#") (outerAttribute rules)

section

variable (rules : Rules)

/-- The end of a range of patterns; nothing stands there if the pattern ends with the operator. -/
def rangeBound : Parser (List Token) := do
  let ts ← get
  if ts.isEmpty || ["|", "=", ",", ";"].any (beginsOp · ts) || beginsWord "if" ts ||
      (beginsOp ":" ts && !beginsOp "::" ts) then return []
  if beginsLiteral ts then literal
  else return (← qualifiedPath rules false).1.tokens

def rangeMark : Parser (List Token) := do
  if ← ahead (beginsOp "...") then op "..."
  else if ← ahead (beginsOp "..=") then op "..="
  else op ".."

def afterBound (first : List Token) : Parser (List Token) := do
  return first ++ (← when? (beginsOp "..") do return (← rangeMark) ++ (← rangeBound rules))

def beginsMember (ts : List Token) : Bool := beginsName ts || beginsLiteral ts

def fieldPattern : Parser (List Token) := do
  let attrs ← attributes rules
  if ← ahead fun ts => beginsMember ts && beginsOp ":" (ts.drop 1) then
    let member ← next beginsMember
    let colon ← op ":"
    return attrs ++ member ++ colon ++ (← rules.pattern)
  let access ← word? "ref"
  let change ← word? "mut"
  return attrs ++ access ++ change ++ (← name)

def structPattern : Parser (List Token) := group .brace (listed do
  let attrs ← attributes rules
  if ← ahead (beginsOp "..") then
    let dots ← op ".."
    if ← atEnd then return attrs ++ dots else failure
  else return attrs ++ (← fieldPattern rules))

def pathPattern : Parser (List Token) := do
  let (found, isQualified) ← qualifiedPath rules false
  let ts ← get
  if !isQualified && found.isBare && beginsMacroCall ts then return found.tokens ++ (← macroCall)
  if beginsGroup .brace ts then return found.tokens ++ (← structPattern rules)
  if beginsGroup .paren ts then
    return found.tokens ++ (← group .paren (listed rules.pattern))
  afterBound rules found.tokens

def bindingPattern : Parser (List Token) := do
  let access ← word? "ref"
  let change ← word? "mut"
  let head ← next fun ts => beginsName ts || beginsWord "self" ts
  return access ++ change ++ head ++
    (← when? (beginsOp "@") do return (← op "@") ++ (← rules.singlePattern))

def beginsPathPattern (ts : List Token) : Bool :=
  (beginsName ts && (["::", "!", ".."].any (beginsOp · (ts.drop 1)) ||
    beginsGroup .brace (ts.drop 1) || beginsGroup .paren (ts.drop 1))) ||
  (beginsWord "self" ts && beginsOp "::" (ts.drop 1)) ||
  beginsOp "::" ts || beginsOp "<" ts ||
  ["Self", "super", "crate"].any (beginsWord · ts)

def singlePattern : Parser (List Token) := do
  let ts ← get
  if beginsPathPattern ts then pathPattern rules
  else if beginsWord "_" ts then word "_"
  else if beginsLiteral ts then afterBound rules (← literal)
  else if beginsWord "const" ts then
    afterBound rules ((← word "const") ++ (← rules.block))
  else if beginsOp "&" ts then
    let mark ← op "&"
    let access ← word? "mut"
    return mark ++ access ++ (← rules.singlePattern)
  else if beginsGroup .paren ts then group .paren (listed rules.pattern)
  else if beginsGroup .bracket ts then group .bracket (listed rules.pattern)
  else if beginsOp ".." ts && !beginsOp "..." ts then
    return (← rangeMark) ++ (← rangeBound rules)
  else bindingPattern rules

def beginsAlternative (ts : List Token) : Bool :=
  beginsOp "|" ts && !beginsOp "||" ts && !beginsOp "|=" ts

def pattern (alternatives : Bool) : Parser (List Token) := do
  if !alternatives then return (← singlePattern rules)
  let lead ← op? "|"
  let first ← singlePattern rules
  return lead ++ first ++
    (← many beginsAlternative do return (← op "|") ++ (← singlePattern rules))

end

end Memberwise.Source.Grammar
