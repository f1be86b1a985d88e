import Memberwise.Source.Grammar.Pattern

/-!
# Expressions

Operands, what binds to an operand alone, and binary operators by level. Comparisons do not chain
and a range takes no operator on its right. Before a block an expression must not end in the
braces of a structure.
-/

namespace Memberwise.Source.Grammar

section

variable (rules : Rules)

def beginsExpr (ts : List Token) : Bool :=
  let without (s : String) (longer : List String) : Bool :=
    beginsOp s ts && !longer.any (beginsOp · ts)
  (beginsAnyWord ts && !beginsWord "as" ts) || beginsGroup .paren ts || beginsGroup .bracket ts ||
  beginsGroup .brace ts || beginsLiteral ts || without "!" ["!="] || without "-" ["-=", "->"] ||
  without "*" ["*="] || without "|" ["|="] || without "&" ["&="] || beginsOp ".." ts ||
  without "<" ["<=", "<<="] || beginsOp "::" ts || beginsLifetime ts || beginsOp "#" ts

def beginsField (ts : List Token) : Bool := beginsOp "." ts && !beginsOp ".." ts

def fieldValue : Parser (List Token) := do
  let attrs ← attributes rules
  let member ← next beginsMember
  if (← ahead (beginsOp ":")) || !beginsName member then
    let colon ← op ":"
    return attrs ++ member ++ colon ++ (← rules.expr)
  else return attrs ++ member

def structFields : Parser (List Token) := group .brace do
  let fields ← separated "," (fun ts => ts.isEmpty || beginsOp ".." ts) (fieldValue rules)
  let base ← when? (beginsOp "..") do
    let dots ← op ".."
    if ← atEnd then return dots else return dots ++ (← rules.expr)
  return fields ++ base

def pathExpr (braces : Bool) : Parser (List Token) := do
  let (found, isQualified) ← qualifiedPath rules false
  let ts ← get
  if !isQualified && found.isBare && beginsMacroCall ts then return found.tokens ++ (← macroCall)
  if braces && beginsGroup .brace ts then return found.tokens ++ (← structFields rules)
  return found.tokens

def arrayExpr : Parser (List Token) := group .bracket do
  if ← atEnd then return []
  let first ← rules.expr
  if ← ahead (beginsOp ";") then return first ++ (← op ";") ++ (← rules.expr)
  if ← atEnd then return first
  return first ++ (← op ",") ++ (← listed rules.expr)

def closureParam : Parser (List Token) := do
  let attrs ← attributes rules
  let pattern ← rules.singlePattern
  return attrs ++ pattern ++
    (← when? (beginsOp ":") do return (← op ":") ++ (← rules.type))

def closure (braces : Bool) : Parser (List Token) := do
  let lifetimes ← when? (beginsWord "for") boundLifetimes
  let lead := (← word? "const") ++ (← word? "static") ++ (← word? "async") ++ (← word? "move")
  let opening ← op "|"
  let params ← separated "," (beginsOp "|") (closureParam rules)
  let closing ← op "|"
  let body ← if ← ahead (beginsOp "->") then
      pure ((← result? rules.type) ++ (← rules.block))
    else pure (← rules (.expr braces)).tokens
  return lifetimes ++ lead ++ opening ++ params ++ closing ++ body

def letExpr (braces : Bool) : Parser (List Token) := do
  let lead ← word "let"
  let pattern ← rules.pattern
  let equals ← op "="
  let value ← rules (.operand braces)
  return lead ++ pattern ++ equals ++ (← rules (.rest value .compare braces)).tokens

def ifBranch : Parser (List Token) := do
  let lead ← word "if"
  let test ← rules.subject
  return lead ++ test ++ (← rules.block)

def ifExpr : Parser (List Token) := do
  let first ← ifBranch rules
  let branches ← many (fun ts => beginsWord "else" ts && beginsWord "if" (ts.drop 1)) do
    return (← word "else") ++ (← ifBranch rules)
  let last ← when? (beginsWord "else") do return (← word "else") ++ (← rules.block)
  return first ++ branches ++ last

def whileExpr : Parser (List Token) := do
  let lead ← word "while"
  let test ← rules.subject
  return lead ++ test ++ (← rules.block)

def forExpr : Parser (List Token) := do
  let lead ← word "for"
  let pattern ← rules.pattern
  let source ← word "in"
  let items ← rules.subject
  return lead ++ pattern ++ source ++ items ++ (← rules.block)

def loopExpr : Parser (List Token) := do
  return (← word "loop") ++ (← rules.block)

/-- An arm of a choice; only the last one and one that ends with its block go without a comma. -/
def arm : Parser (List Token) := do
  let attrs ← attributes rules
  let pattern ← rules.pattern
  let guard ← when? (beginsWord "if") do return (← word "if") ++ (← rules.expr)
  let arrow ← op "=>"
  let body ← rules .statement
  let comma ← if body.shape = .block || (← atEnd) then op? "," else op ","
  return attrs ++ pattern ++ guard ++ arrow ++ body.tokens ++ comma

def matchExpr : Parser (List Token) := do
  let lead ← word "match"
  let value ← rules.subject
  return lead ++ value ++ (← group .brace (many (fun ts => !ts.isEmpty) (arm rules)))

def leadingBlock (lead : String) : Parser (List Token) := do
  return (← word lead) ++ (← rules.block)

def asyncBlock : Parser (List Token) := do
  let lead ← word "async"
  let capture ← word? "move"
  return lead ++ capture ++ (← rules.block)

def labelled : Parser (List Token) := do
  let label ← lifetime
  let colon ← op ":"
  let ts ← get
  let body ←
    if beginsWord "while" ts then whileExpr rules
    else if beginsWord "for" ts then forExpr rules
    else if beginsWord "loop" ts then loopExpr rules
    else rules.block
  return label ++ colon ++ body

def jump (lead : String) : Parser (List Token) := do
  let lead ← word lead
  return lead ++ (← when? beginsExpr rules.expr)

def breakExpr (braces : Bool) : Parser (List Token) := do
  let lead ← word "break"
  if ← ahead fun ts => beginsLifetime ts && beginsOp ":" (ts.drop 1) then failure
  let label ← when? beginsLifetime lifetime
  return lead ++ label ++ (← when? (fun ts =>
    beginsExpr ts && (braces || !beginsGroup .brace ts)) do
      return (← rules (.expr braces)).tokens)

def continueExpr : Parser (List Token) := do
  return (← word "continue") ++ (← when? beginsLifetime lifetime)

def endsRange (braces : Bool) (ts : List Token) : Bool :=
  ts.isEmpty || beginsField ts || beginsWord "as" ts || (!braces && beginsGroup .brace ts) ||
  [",", ";", "?", "=", "+", "/", "%", "^", ">", "<=", "!=", "-=", "*=", "&=", "|=", "<<="].any
    (beginsOp · ts)

def beginsClosure (ts : List Token) : Bool :=
  beginsOp "|" ts || beginsWord "move" ts || beginsWord "static" ts || beginsWord "async" ts ||
  (beginsWord "for" ts && beginsOp "<" (ts.drop 1) &&
    (beginsLifetime (ts.drop 2) || beginsOp ">" (ts.drop 2))) ||
  (beginsWord "const" ts && !beginsGroup .brace (ts.drop 1))

def beginsAsyncBlock (ts : List Token) : Bool :=
  beginsWord "async" ts && (beginsGroup .brace (ts.drop 1) ||
    (beginsWord "move" (ts.drop 1) && beginsGroup .brace (ts.drop 2)))

def blockExpr? (ts : List Token) : Option (Parser (List Token)) :=
  if beginsWord "if" ts then some (ifExpr rules)
  else if beginsWord "while" ts then some (whileExpr rules)
  else if beginsWord "for" ts && !beginsClosure ts then some (forExpr rules)
  else if beginsWord "loop" ts then some (loopExpr rules)
  else if beginsWord "match" ts then some (matchExpr rules)
  else if beginsWord "unsafe" ts then some (leadingBlock rules "unsafe")
  else if beginsWord "try" ts && beginsGroup .brace (ts.drop 1) then
    some (leadingBlock rules "try")
  else if beginsWord "const" ts && beginsGroup .brace (ts.drop 1) then
    some (leadingBlock rules "const")
  else if beginsGroup .brace ts then some rules.block
  else if beginsLifetime ts then some (labelled rules)
  else none

def operators : List (String × Level) := [
  ("+=", .assign), ("-=", .assign), ("*=", .assign), ("/=", .assign), ("%=", .assign),
  ("^=", .assign), ("&=", .assign), ("|=", .assign), ("<<=", .assign), (">>=", .assign),
  ("&&", .and), ("||", .or), ("<<", .shift), (">>", .shift), ("==", .compare), ("<=", .compare),
  ("!=", .compare), (">=", .compare), ("+", .sum), ("-", .sum), ("*", .product), ("/", .product),
  ("%", .product), ("^", .bitXor), ("&", .bitAnd), ("|", .bitOr), ("<", .compare),
  (">", .compare)]

def operator? (ts : List Token) : Option (String × Level) :=
  operators.find? fun (s, _) => beginsOp s ts

def beginsAssign (ts : List Token) : Bool := beginsOp "=" ts && !beginsOp "=>" ts

def levelAhead (ts : List Token) : Level :=
  match operator? ts with
  | some (_, level) => level
  | none =>
    if beginsAssign ts then .assign
    else if beginsOp ".." ts then .range
    else if beginsWord "as" ts then .cast
    else .loosest

/-- The right side of an operator, with all that binds tighter. Assignments nest to the right. -/
def rightSide (level : Level) (braces : Bool) : Parser Phrase := do
  extend (fun right => do
    let ts ← get
    let ahead := levelAhead ts
    if level.rank < ahead.rank || (ahead = level && level = .assign) then
      let right ← rules (.rest right ahead braces)
      return if (← get).length < ts.length then some right else none
    else return none) (← rules (.operand braces))

def rangeEnd (dots : String) (braces : Bool) : Parser (List Token) := do
  if dots = ".." && (← ahead (endsRange braces)) then return []
  return (← rightSide rules .range braces).tokens

def rangeOp : Parser String := do
  if ← ahead (beginsOp "..=") then return "..="
  if ← ahead (beginsOp "...") then failure
  return ".."

def range (left : List Token) (braces : Bool) : Parser Phrase := do
  let dots ← rangeOp
  let mark ← op dots
  return ⟨left ++ mark ++ (← rangeEnd rules dots braces), .range⟩

def refusedAfterCast (ts : List Token) : Bool :=
  beginsField ts || beginsOp "?" ts || beginsGroup .bracket ts || beginsGroup .paren ts

/-- One more operator after `left` that binds no looser than `least`. -/
def oneOperator (least : Level) (braces : Bool) (left : Phrase) : Parser (Option Phrase) := do
  if left.shape = .range then return none
  let ts ← get
  match operator? ts with
  | some (s, level) =>
    if level.rank < least.rank then return none
    if level = .compare && left.shape = .comparison then failure
    let mark ← op s
    let right ← rightSide rules level braces
    return some ⟨left.tokens ++ mark ++ right.tokens,
      if level = .compare then .comparison else .plain⟩
  | none =>
    if beginsAssign ts && least.rank ≤ Level.assign.rank then
      let mark ← op "="
      return some (plain (left.tokens ++ mark ++ (← rightSide rules .assign braces).tokens))
    if beginsOp ".." ts && least.rank ≤ Level.range.rank then
      return some (← range rules left.tokens braces)
    if beginsWord "as" ts then
      let as ← word "as"
      let type ← rules.tightType
      if ← ahead refusedAfterCast then failure
      return some (plain (left.tokens ++ as ++ type))
    return none

def restOfExpr (left : Phrase) (least : Level) (braces : Bool) : Parser Phrase :=
  extend (oneOperator rules least braces) left

/-- The decimal number of an index, without underscores and leading zeros. -/
def index? (cs : List Char) : Option (List Token) :=
  let digits := cs.filter (· ≠ '_')
  if cs.head?.any isDecimal && digits.all isDecimal then
    let n := digits.foldl (fun n c => 10 * n + hexValue c) 0
    if n < UInt32.size then some [.literal (toString n)] else none
  else none

def pointPieces (piece : List Char) : List Char → List (List Char)
  | [] => [piece.reverse]
  | c :: cs => if c = '.' then piece.reverse :: pointPieces [] cs else pointPieces (c :: piece) cs

/-- The fields that a number with a point stands for after a point: all of them, and whether one
more is to follow. -/
def numberedFields? (text : String) : Option (List Token × Bool) := do
  let pieces := pointPieces [] text.toList
  let isOpen := pieces.getLast? = some []
  let pieces := if isOpen then pieces.dropLast else pieces
  let fields ← pieces.mapM index?
  some (fields.flatMap (Token.op "." ++ ·), isOpen)

def member : Parser (List Token) := do
  let dot ← op "."
  match ← get with
  | .literal text :: ts =>
    if (float? text.toList).isSome then
      set ts
      let (fields, isOpen) ← (numberedFields? text : Option (List Token × Bool))
      if isOpen then return fields ++ (← memberName dot) else return fields
    else memberName dot
  | _ => memberName dot
where
  memberName (dot : List Token) : Parser (List Token) := do
    if ← ahead (beginsWord "await") then return dot ++ (← word "await")
    match ← get with
    | .literal text :: ts =>
      set ts
      let field ← (index? text.toList : Option (List Token))
      return dot ++ field
    | _ =>
      let head ← name
      let args ← when? (beginsOp "::") (arguments rules)
      if !args.isEmpty || (← ahead (beginsGroup .paren)) then
        return dot ++ head ++ args ++ (← group .paren (listed rules.expr))
      else return dot ++ head

def trailers : Phrase → Parser Phrase := extend fun done => do
  let ts ← get
  let isRange := done.shape = .range
  if beginsGroup .paren ts then
    return some (plain (done.tokens ++ (← group .paren (listed rules.expr))))
  else if beginsGroup .bracket ts then
    return some (plain (done.tokens ++ (← group .bracket rules.expr)))
  else if beginsField ts && !isRange then return some (plain (done.tokens ++ (← member rules)))
  else if beginsOp "?" ts && !isRange then return some (plain (done.tokens ++ (← op "?")))
  else return none

def atom (braces : Bool) : Parser Phrase := do
  let ts ← get
  if beginsLiteral ts then plain <$> literal
  else if beginsAsyncBlock ts then plain <$> asyncBlock rules
  else if let some inner := blockExpr? rules ts then return ⟨← inner, .block⟩
  else if beginsClosure ts then plain <$> closure rules braces
  else if beginsGroup .paren ts then plain <$> group .paren (listed rules.expr)
  else if beginsWord "break" ts then plain <$> breakExpr rules braces
  else if beginsWord "continue" ts then plain <$> continueExpr
  else if beginsWord "return" ts then plain <$> jump rules "return"
  else if beginsWord "yield" ts then plain <$> jump rules "yield"
  else if beginsGroup .bracket ts then plain <$> arrayExpr rules
  else if beginsWord "let" ts then plain <$> letExpr rules braces
  else if beginsOp ".." ts then range rules [] braces
  else if beginsWord "_" ts then plain <$> word "_"
  else plain <$> pathExpr rules braces

def beginsPrefix (ts : List Token) : Bool := ["&", "*", "!", "-"].any (beginsOp · ts)

/-- The marks in front of an operand; a raw reference says what it gives access to. -/
def prefixMark : Parser (List Token) := do
  if ← ahead (beginsOp "&") then
    let mark ← op "&"
    let isRaw ← ahead fun ts => beginsWord "raw" ts &&
      (beginsWord "mut" (ts.drop 1) || beginsWord "const" (ts.drop 1))
    if isRaw then return mark ++ (← word "raw") ++ (← next beginsAnyWord)
    else return mark ++ (← word? "mut")
  else if ← ahead (beginsOp "*") then op "*"
  else if ← ahead (beginsOp "!") then op "!"
  else op "-"

def operand (braces : Bool) : Parser Phrase := do
  let attrs ← attributes rules
  if ← ahead beginsPrefix then
    let mark ← prefixMark
    return plain (attrs ++ mark ++ (← rules (.operand braces)).tokens)
  let found ← trailers rules (← atom rules braces)
  if !attrs.isEmpty && found.shape = .range then failure
  return { found with tokens := attrs ++ found.tokens }

def expression (braces : Bool) : Parser Phrase := do
  rules (.rest (← rules (.operand braces)) .loosest braces)

/-- An expression as a statement: one that ends with its block goes on only with a member or a
question mark. -/
def statement : Parser Phrase := do
  let attrs ← attributes rules
  match blockExpr? rules (← get) with
  | some inner =>
    let found ← inner
    let found ← if ← ahead fun ts => beginsField ts || beginsOp "?" ts then do
        rules (.rest (← trailers rules (plain found)) .loosest true)
      else pure ⟨found, .block⟩
    return { found with tokens := attrs ++ found.tokens }
  | none =>
    let found ← expression rules true
    return { found with tokens := attrs ++ found.tokens }

def letStatement : Parser (List Token) := do
  let lead ← word "let"
  let pattern ← rules.singlePattern
  let type ← when? (beginsOp ":") do return (← op ":") ++ (← rules.type)
  let value ← when? (beginsOp "=") do
    let equals ← op "="
    let value ← rules.expr
    let other ← when? (beginsWord "else") do return (← word "else") ++ (← rules.block)
    return equals ++ value ++ other
  return lead ++ pattern ++ type ++ value ++ (← op ";")

def bracedMacro? (ts : List Token) : Bool :=
  beginsName ts && beginsOp "!" (ts.drop 1) && beginsGroup .brace (ts.drop 2) &&
  !beginsField (ts.drop 3) && !beginsOp "?" (ts.drop 3)

/-- A statement of a block. Only the last one, and one that ends with its block, go without a
semicolon. -/
def blockItem : Parser (List Token) := do
  if ← ahead (beginsOp ";") then return ← op ";"
  let attrs ← attributes rules
  if ← ahead (beginsWord "let") then return attrs ++ (← letStatement rules)
  if ← ahead bracedMacro? then
    return attrs ++ (← name) ++ (← macroCall) ++ (← op? ";")
  let found ← rules .statement
  let semicolon ← if found.shape = .block || (← atEnd) then op? ";" else op ";"
  return attrs ++ found.tokens ++ semicolon

def block : Parser (List Token) := group .brace (many (fun ts => !ts.isEmpty) (blockItem rules))

end

def system (rules : Rules) : Rules
  | .expr braces => expression rules braces
  | .operand braces => operand rules braces
  | .rest left least braces => restOfExpr rules left least braces
  | .statement => statement rules
  | .block => plain <$> block rules
  | .type sums => type rules sums
  | .pattern alternatives => plain <$> pattern rules alternatives

/-- Reads all tokens by one rule. Between two rules that nest, a token is read or a group entered,
save for a few steps. -/
def readAll? (parser : Rules → Parser (List Token)) (ts : List Token) : Option (List Token) :=
  match (parser (derive system (8 * Token.weightOf ts + 16))).run ts with
  | some (read, []) => some read
  | _ => none

def expression? (source : String) : Option (List Token) :=
  (tokens? source).bind (readAll? fun rules => rules.expr)

def path? (source : String) : Option (List Token) :=
  (tokens? source).bind (readAll? fun rules => do return (← path rules true).tokens)

end Memberwise.Source.Grammar
