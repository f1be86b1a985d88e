import Memberwise.Source.Lexer

/-!
# Parsers over tokens

A parser reads tokens from the front and gives them back as the grammar writes them: the marks of
an operator stay together only where the grammar has one operator. The grammar is a system of
rules that name each other; `derive` closes it, with a bound on how deep rules may nest.
-/

namespace Memberwise.Source.Grammar

abbrev Parser := StateT (List Token) Option

/-- What follows an operator at the front of `ts`. All its marks but the last must be joint. -/
def afterMarks? : List Char → List Token → Option (List Token)
  | [], ts => some ts
  | [c], .mark d _ :: ts => if c = d then some ts else none
  | c :: cs, .mark d true :: ts => if c = d then afterMarks? cs ts else none
  | _, _ => none

def beginsOp (s : String) (ts : List Token) : Bool := (afterMarks? s.toList ts).isSome

def beginsWord (s : String) : List Token → Bool
  | .word w :: _ => w = s
  | _ => false

def beginsGroup (d : Delimiter) : List Token → Bool
  | .group e _ :: _ => d = e
  | _ => false

def beginsAnyWord : List Token → Bool
  | .word _ :: _ => true
  | _ => false

def beginsName : List Token → Bool
  | .word w :: _ => !isKeyword w
  | _ => false

def beginsLifetime : List Token → Bool
  | .lifetime _ :: _ => true
  | _ => false

def beginsLiteral : List Token → Bool
  | .literal _ :: _ => true
  | .word w :: _ => w = "true" || w = "false"
  | .mark '-' _ :: .literal _ :: _ => true
  | _ => false

def ahead (p : List Token → Bool) : Parser Bool := return p (← get)

def atEnd : Parser Bool := ahead List.isEmpty

def op (s : String) : Parser (List Token) := do
  let rest ← (afterMarks? s.toList (← get) : Option (List Token))
  set rest
  return Token.op s

def next (p : List Token → Bool) : Parser (List Token) := do
  match ← get with
  | t :: ts => if p (t :: ts) then do set ts; return [t] else failure
  | [] => failure

def word (s : String) : Parser (List Token) := next (beginsWord s)

def name : Parser (List Token) := next beginsName

def lifetime : Parser (List Token) := next beginsLifetime

def literal : Parser (List Token) := do
  let sign ← if ← ahead (beginsOp "-") then op "-" else pure []
  return sign ++ (← next beginsLiteral)

def when? (p : List Token → Bool) (x : Parser (List Token)) : Parser (List Token) := do
  if ← ahead p then x else return []

def op? (s : String) : Parser (List Token) := when? (beginsOp s) (op s)

def word? (s : String) : Parser (List Token) := when? (beginsWord s) (word s)

def group (d : Delimiter) (inner : Parser (List Token)) : Parser (List Token) := do
  match ← get with
  | .group e ts :: rest =>
    if d ≠ e then failure
    let (read, []) ← (inner.run ts : Option (List Token × List Token)) | failure
    set rest
    return [.group d read]
  | _ => failure

def anyGroup : Parser (List Token) := next fun
  | .group .. :: _ => true
  | _ => false

def repeatUpTo {α : Type} (step : α → Parser (Option α)) : Nat → α → Parser α
  | 0, a => return a
  | n + 1, a => do
    match ← step a with
    | some b => repeatUpTo step n b
    | none => return a

/-- Repeats a step, each time on tokens of which one more has been read. -/
def extend {α : Type} (step : α → Parser (Option α)) (start : α) : Parser α := do
  repeatUpTo step ((← get).length + 1) start

def many (p : List Token → Bool) (item : Parser (List Token)) : Parser (List Token) :=
  extend (fun done => do if ← ahead p then return some (done ++ (← item)) else return none) []

/-- Items between separators, up to tokens of a kind; the last item may have a separator too. -/
def separated (separator : String) (stop : List Token → Bool) (item : Parser (List Token)) :
    Parser (List Token) :=
  extend (fun done => do
    if ← ahead stop then return none
    let done := done ++ (← item)
    if ← ahead stop then return some done
    return some (done ++ (← op separator))) []

def listed (item : Parser (List Token)) : Parser (List Token) := separated "," List.isEmpty item

/-- Levels of binary operators, the loosest first. -/
inductive Level
  | loosest
  | assign
  | range
  | or
  | and
  | condition
  | compare
  | bitOr
  | bitXor
  | bitAnd
  | shift
  | sum
  | product
  | cast
deriving DecidableEq, Repr, Inhabited

namespace Level

def rank : Level → Nat
  | loosest => 0
  | assign => 1
  | range => 2
  | or => 3
  | and => 4
  | condition => 5
  | compare => 6
  | bitOr => 7
  | bitXor => 8
  | bitAnd => 9
  | shift => 10
  | sum => 11
  | product => 12
  | cast => 13

end Level

/-- What about a phrase decides how it may go on. -/
inductive Shape
  | plain
  /-- A range takes no operator on its right. -/
  | range
  | comparison
  /-- An expression that ends with its block and needs no separator after it. -/
  | block
  /-- A type of one name, which may be an argument's label. -/
  | label
deriving DecidableEq, Repr, Inhabited

structure Phrase where
  tokens : List Token
  shape : Shape
deriving Repr, Inhabited

def plain (ts : List Token) : Phrase := ⟨ts, .plain⟩

inductive Rule
  /-- An expression; before a block it must not end in a brace. -/
  | expr (braces : Bool)
  /-- An operand with what binds to it alone. -/
  | operand (braces : Bool)
  /-- The rest of an expression that begins with a phrase. -/
  | rest (left : Phrase) (least : Level) (braces : Bool)
  /-- An expression that ends early where its block does. -/
  | statement
  | block
  | type (sums : Bool)
  | pattern (alternatives : Bool)
deriving Repr, Inhabited

abbrev Rules := Rule → Parser Phrase

namespace Rules

variable (rules : Rules)

def expr : Parser (List Token) := return (← rules (.expr true)).tokens

def subject : Parser (List Token) := return (← rules (.expr false)).tokens

def block : Parser (List Token) := return (← rules .block).tokens

def type : Parser (List Token) := return (← rules (.type true)).tokens

/-- A type that a sum of bounds may not go on from. -/
def tightType : Parser (List Token) := return (← rules (.type false)).tokens

def pattern : Parser (List Token) := return (← rules (.pattern true)).tokens

def singlePattern : Parser (List Token) := return (← rules (.pattern false)).tokens

end Rules

/-- Closes a system of rules; nothing nests deeper than `n` rules. -/
def derive (system : Rules → Rules) : Nat → Rules
  | 0, _ => failure
  | n + 1, rule => system (derive system n) rule

end Memberwise.Source.Grammar
