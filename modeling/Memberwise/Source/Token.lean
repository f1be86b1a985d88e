import Memberwise.Text.Quoted

/-!
# Tokens of rendered source

Members are rendered as token trees, so that a host can splice them into its own source. Written
out, tokens stand one blank apart; the marks of one operator stay together, and so do parentheses
and brackets with what they hold.
-/

namespace Memberwise.Source

inductive Delimiter
  | paren
  | bracket
  | brace
deriving DecidableEq, Repr, Inhabited

namespace Delimiter

def opening : Delimiter → String
  | paren => "("
  | bracket => "["
  | brace => "\x7b "

/-- What closes a group; a brace keeps its distance from the last token. -/
def closing (d : Delimiter) (isEmpty : Bool) : String :=
  match d, isEmpty with
  | paren, _ => ")"
  | bracket, _ => "]"
  | brace, true => "\x7d"
  | brace, false => " \x7d"

end Delimiter

inductive Token
  /-- An identifier or a keyword. -/
  | word (text : String)
  /-- A literal as it is written. -/
  | literal (text : String)
  /-- A string literal of this value. -/
  | string (value : String)
  | lifetime (name : String)
  /-- One character of an operator, and whether the next one belongs to the same operator. -/
  | mark (c : Char) (joint : Bool)
  | group (delimiter : Delimiter) (tokens : List Token)
deriving Repr, Inhabited

namespace Token

def gap : Token → String
  | mark _ true => ""
  | _ => " "

mutual

def text : Token → String
  | .word s | .literal s => s
  | .string s => Text.literal s
  | .lifetime name => "'" ++ name
  | .mark c _ => String.singleton c
  | .group d ts => d.opening ++ textOf ts ++ d.closing ts.isEmpty
termination_by structural t => t

def textOf : List Token → String
  | [] => ""
  | t :: ts => t.text ++ (if ts.isEmpty then "" else t.gap) ++ textOf ts
termination_by structural ts => ts

end

mutual

def weight : Token → Nat
  | .group _ ts => weightOf ts + 1
  | _ => 1
termination_by structural t => t

def weightOf : List Token → Nat
  | [] => 0
  | t :: ts => t.weight + weightOf ts
termination_by structural ts => ts

end

def marks : List Char → List Token
  | [] => []
  | [c] => [mark c false]
  | c :: cs => mark c true :: marks cs

def op (s : String) : List Token := marks s.toList

def paren (ts : List Token) : Token := group .paren ts

def bracket (ts : List Token) : Token := group .bracket ts

def brace (ts : List Token) : Token := group .brace ts

end Token

def pieces (piece : List Char) : List Char → List (List Char)
  | [] => [piece.reverse]
  | c :: cs => if c = ' ' then piece.reverse :: pieces [] cs else pieces (c :: piece) cs

def piece : List Char → List Token
  | [] => []
  | c :: cs =>
    if c.isAlphanum || c = '_' then [.word (String.ofList (c :: cs))] else Token.marks (c :: cs)

/-- The tokens of a template without groups, in which blanks stand between the pieces. -/
def code (s : String) : List Token := (pieces [] s.toList).flatMap piece

def commaSeparated : List (List Token) → List Token
  | [] => []
  | [ts] => ts
  | ts :: rest => ts ++ Token.op "," ++ commaSeparated rest

end Memberwise.Source
