import Memberwise.Source.Token

/-!
# Names in rendered source

A name of the host becomes an identifier. Reserved words are written raw, five words cannot be,
and any other name has to be an identifier of the language. Functions, modules and bindings are
named in snake case. A name that becomes none is one of the reasons why a class is not rendered.
-/

namespace Memberwise.Source

inductive Unrenderable
  | duplicateSlot (name : String)
  /-- Two names of one module that become the same identifier. -/
  | nameClash (first second identifier : String)
  | invalidDefault (param : String)
  | invalidName (name : String)
  | invalidPath (path : String)
  | missingReturn (method : String)
deriving DecidableEq, Repr

namespace Unrenderable

open Text (inQuotes)

def message : Unrenderable → String
  | duplicateSlot name => "builder slot " ++ inQuotes name ++ " is declared twice"
  | nameClash first second identifier =>
    inQuotes first ++ " and " ++ inQuotes second ++ " both render as " ++ inQuotes identifier
  | invalidDefault param => "default of " ++ inQuotes param ++ " is not a valid expression"
  | invalidName name => inQuotes name ++ " is not a valid identifier"
  | invalidPath path => "invalid runtime path " ++ inQuotes path
  | missingReturn method => inQuotes method ++ " has no trailing return"

end Unrenderable

/-- Words that are written raw where they serve as names. -/
def reservedWords : List String := [
  "as", "async", "await", "break", "const", "continue", "dyn", "else", "enum", "extern", "false",
  "fn", "for", "if", "impl", "in", "let", "loop", "match", "mod", "move", "mut", "pub", "ref",
  "return", "static", "struct", "trait", "true", "type", "unsafe", "use", "where", "while",
  "abstract", "become", "box", "do", "final", "gen", "macro", "override", "priv", "try", "typeof",
  "unsized", "virtual", "yield"]

def isReserved (word : String) : Bool := reservedWords.contains word

def neverRaw : List String := ["_", "Self", "crate", "self", "super"]

/-- What rendering takes as given: how a name looks in snake case, and which texts are identifiers,
expressions and paths. -/
structure Language where
  snakeCase : String → String
  word? : String → Option String
  expression? : String → Option (List Token)
  path? : String → Option (List Token)

namespace Language

variable (L : Language)

def identifier (name : String) : Except Unrenderable String :=
  if neverRaw.contains name then .error (.invalidName name)
  else if isReserved name then .ok ("r#" ++ name)
  else match L.word? name with
    | some w => .ok w
    | none => .error (.invalidName name)

def snakeIdentifier (name : String) : Except Unrenderable String :=
  L.identifier (L.snakeCase name)

end Language

end Memberwise.Source
