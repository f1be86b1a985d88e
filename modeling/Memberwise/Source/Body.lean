import Memberwise.Body.Member
import Memberwise.Source.Format
import Memberwise.Source.Name

/-!
# Bodies as source

Every expression is rendered to source that owns its value. `__this` and `__rt` are the bindings
of the receiver and of the runtime, whose module stands at a path that the host gives. The first
name that is no identifier, or default that is no expression, ends the rendering.
-/

namespace Memberwise.Source

abbrev Rendered := Except Unrenderable (List Token)

section

variable (rt : List Token)

def inRuntime (s : String) : List Token := rt ++ code s

def valueCall (s : String) (arg : List Token) : List Token :=
  inRuntime rt (":: Value :: " ++ s) ++ [.paren arg]

/-- A number with the suffix of its type; the sign of a negative one is a token of its own. -/
def number (i : Int) (suffix : String) : List Token :=
  (if i < 0 then Token.op "-" else []) ++ [.literal (toString i.natAbs ++ suffix)]

def nullSource : List Token := inRuntime rt ":: Value :: Null"

def boolSource (b : Bool) : List Token :=
  valueCall rt "Bool" [.word (if b then "true" else "false")]

def intSource (i : Int32) : List Token := valueCall rt "Int" (number i.toInt "i32")

def textSource (s : String) : List Token := valueCall rt "text" [.string s]

def classSource (cls : ClassName) : List Token :=
  inRuntime rt ":: ClassId :: from" ++ [.paren [.string cls.path]]

def cloneOf (ts : List Token) : List Token :=
  code ":: core :: clone :: Clone :: clone" ++ [.paren ts]

def okOf (ts : List Token) : List Token := code ":: core :: result :: Result :: Ok" ++ [.paren ts]

def tryCall (receiver : List Token) (method : String) (args : List Token) : List Token :=
  receiver ++ code (". " ++ method) ++ [.paren args] ++ Token.op "?"

def objectSource (cls : ClassName) (fields : List (String × List Token)) : List Token :=
  let field (f : String × List Token) : List Token :=
    [.paren (commaSeparated [[.string f.1], f.2])]
  let list := code ":: std :: vec :: Vec :: <" ++
    [.paren (code "& str ," ++ inRuntime rt ":: Value")] ++ code "> :: from" ++
    [.paren [.bracket (commaSeparated (fields.map field))]]
  valueCall rt "object" ([.string cls.path] ++ Token.op "," ++ list ++ Token.op ",")

def methodWord : ObjectMethod → String
  | .equals => "Equals"
  | .hash => "HashCode"
  | .print => "ToString"

def superCallSource (superclass : Option ClassName) (method : ObjectMethod)
    (args : List (List Token)) : List Token :=
  let above := match superclass with
    | some cls => code ":: core :: option :: Option :: Some" ++
        [.paren (Token.op "&" ++ classSource rt cls)]
    | none => code ":: core :: option :: Option :: None"
  code "__rt . super_call" ++ [.paren (
    code "__this ," ++ above ++ Token.op "," ++
    inRuntime rt (":: ObjectMethod :: " ++ methodWord method) ++ Token.op "," ++
    code ":: std :: vec !" ++ [.bracket (commaSeparated args)] ++ Token.op ",")] ++ Token.op "?"

/-- An arithmetic operation on two integers, modulo the width. -/
def wrapping (operation : String) (a b : List Token) : List Token :=
  valueCall rt "Int" (tryCall a "to_int" [] ++ code (". " ++ operation) ++
    [.paren (tryCall b "to_int" [])])

/-- The pieces of a format string for parts that are put together: texts stand for themselves. -/
def formatPieces : List Expr → List Format.Piece
  | [] => []
  | .text s :: parts => .text s.toList :: formatPieces parts
  | _ :: parts => .hole :: formatPieces parts

def printed (ts : List Token) : List Token :=
  code "__rt . stringify" ++ [.paren ts] ++ Token.op "?"

def failureSource : Failure → List Token
  | .missingArgument param =>
    inRuntime rt ":: RuntimeError :: MissingArgument" ++
    [.brace (code "param : :: std :: string :: String :: from" ++ [.paren [.string param]] ++
      Token.op ",")]

def leaveIf (cond result : List Token) : List Token :=
  code "if" ++ tryCall cond "to_bool" [] ++ [.brace (code "return" ++ result ++ Token.op ";")]

def assigned (stmts : List Stmt) : List String :=
  stmts.filterMap fun
    | .assign name _ => some name
    | _ => none

/-- The statements before the last one and the value of the last one, if it is a return. -/
def splitReturn? (stmts : List Stmt) : Option (List Stmt × Expr) :=
  match stmts.getLast? with
  | some (.return_ value) => some (stmts.dropLast, value)
  | _ => none

end

namespace Language

variable (L : Language) (rt : List Token)

def defaultSource (param : String) : Default → Rendered
  | .null => .ok (nullSource rt)
  | .literal (.bool b) => .ok (boolSource rt b)
  | .literal (.int i) => .ok (intSource rt i)
  | .literal (.long l) => .ok (valueCall rt "Long" (number l.toInt "i64"))
  | .literal (.text s) => .ok (textSource rt s)
  | .source text =>
    match L.expression? text with
    | some ts => .ok (valueCall rt "from" ts)
    | none => .error (.invalidDefault param)

/-- An expression as the receiver of a call, given what it is rendered to: the receiver and
bindings are not copied. -/
def placeOf (e : Expr) (rendered : Rendered) : Rendered :=
  match e with
  | .this => .ok (code "__this")
  | .param name | .local name => do return [.word (← L.snakeIdentifier name)]
  | _ => do return [.paren (← rendered)]

def referenceOf (e : Expr) (rendered : Rendered) : Rendered :=
  match e with
  | .this => .ok (code "__this")
  | e => do return Token.op "&" ++ (← L.placeOf e rendered)

mutual

def exprSource : Expr → Rendered
  | .null => .ok (nullSource rt)
  | .bool b => .ok (boolSource rt b)
  | .int i => .ok (intSource rt i)
  | .text s => .ok (textSource rt s)
  | .this => .ok (cloneOf (code "__this"))
  | .param name | .local name => do
    return cloneOf (Token.op "&" ++ [.word (← L.snakeIdentifier name)])
  | .property receiver name _ => do
    return tryCall (← L.placeOf receiver (exprSource receiver)) "field" [.string name]
  | .guardedProperty receiver name _ fallback => do
    let receiver ← L.placeOf receiver (exprSource receiver)
    let fallback ← exprSource fallback
    return code "match" ++ tryCall receiver "try_field" [.string name] ++
      [.brace (code ":: core :: option :: Option :: Some" ++ [.paren (code "__value")] ++
        code "=> __value , :: core :: option :: Option :: None =>" ++ fallback ++ Token.op ",")]
  | .superCall superclass method args => do
    return superCallSource rt superclass method (← exprSources args)
  | .not e => do
    return valueCall rt "Bool" (Token.op "!" ++ tryCall (← L.placeOf e (exprSource e)) "to_bool" [])
  | .isNull e => do
    return valueCall rt "Bool" ((← L.placeOf e (exprSource e)) ++ code ". is_null" ++ [.paren []])
  | .sameRef a b => do
    let a ← L.placeOf a (exprSource a)
    let b ← L.referenceOf b (exprSource b)
    return valueCall rt "Bool" (a ++ code ". same_ref" ++ [.paren b])
  | .valueEq a b => do
    let a ← L.referenceOf a (exprSource a)
    let b ← L.referenceOf b (exprSource b)
    return valueCall rt "Bool" (tryCall (code "__rt") "equals" (commaSeparated [a, b]))
  | .isInstance value cls => do
    let value ← L.referenceOf value (exprSource value)
    return valueCall rt "Bool" (code "__rt . is_instance" ++
      [.paren (commaSeparated [value, Token.op "&" ++ classSource rt cls])])
  | .cast value cls => do
    let value ← exprSource value
    return tryCall (code "__rt") "cast" (commaSeparated [value, Token.op "&" ++ classSource rt cls])
  | .hashOf value kind => do
    let value ← L.referenceOf value (exprSource value)
    let method := match kind with
      | .ambient => "hash_code"
      | .arrayIdentity => "identity_hash_code"
    return valueCall rt "Int" (tryCall (code "__rt") method value)
  | .add a b => do
    let a ← L.placeOf a (exprSource a)
    return wrapping rt "wrapping_add" a (← L.placeOf b (exprSource b))
  | .mul a b => do
    let a ← L.placeOf a (exprSource a)
    return wrapping rt "wrapping_mul" a (← L.placeOf b (exprSource b))
  | .concat parts => do
    let args ← holeSources parts
    let format := String.ofList (Format.write (formatPieces parts))
    return valueCall rt "Text" (code ":: std :: format !" ++
      [.paren (commaSeparated ([.string format] :: args))])
  | .stringify e => do
    return valueCall rt "Text" (printed (← L.referenceOf e (exprSource e)))
  | .cond cond then_ else_ => do
    let cond ← L.placeOf cond (exprSource cond)
    let then_ ← exprSource then_
    let else_ ← exprSource else_
    return code "if" ++ tryCall cond "to_bool" [] ++ [.brace then_] ++ code "else" ++ [.brace else_]
  | .new cls args => do return objectSource rt cls (← argumentSources args)
  | .defaultOf param value => L.defaultSource rt param value
termination_by structural e => e

def exprSources : List Expr → Except Unrenderable (List (List Token))
  | [] => .ok []
  | e :: es => do return (← exprSource e) :: (← exprSources es)
termination_by structural es => es

def argumentSources : List (String × Expr) → Except Unrenderable (List (String × List Token))
  | [] => .ok []
  | (name, e) :: args => do return (name, ← exprSource e) :: (← argumentSources args)
termination_by structural args => args

def holeSources : List Expr → Except Unrenderable (List (List Token))
  | [] => .ok []
  | .text _ :: parts => holeSources parts
  | .stringify e :: parts => do
    return printed (← L.referenceOf e (exprSource e)) :: (← holeSources parts)
  | e :: parts => do
    return printed (← L.referenceOf e (exprSource e)) :: (← holeSources parts)
termination_by structural parts => parts

end

def placeSource (e : Expr) : Rendered := L.placeOf e (L.exprSource rt e)

/-- A statement; `changing` holds the names that are assigned to. -/
def stmtSource (changing : List String) : Stmt → Rendered
  | .let_ name value => do
    let w ← L.snakeIdentifier name
    let value ← L.exprSource rt value
    return code (if changing.contains name then "let mut" else "let") ++ [.word w] ++
      Token.op "=" ++ value ++ Token.op ";"
  | .assign name value => do
    let w ← L.snakeIdentifier name
    return [.word w] ++ Token.op "=" ++ (← L.exprSource rt value) ++ Token.op ";"
  | .setField receiver name value => do
    let receiver ← L.placeSource rt receiver
    let value ← L.exprSource rt value
    return tryCall receiver "set_field" (commaSeparated [[.string name], value]) ++ Token.op ";"
  | .ifReturn cond value => do
    let cond ← L.placeSource rt cond
    return leaveIf cond (okOf (← L.exprSource rt value))
  | .throwIf cond failure => do
    let cond ← L.placeSource rt cond
    return leaveIf cond (code ":: core :: result :: Result :: Err" ++
      [.paren (failureSource rt failure)])
  | .return_ value => do
    return code "return" ++ okOf (← L.exprSource rt value) ++ Token.op ";"

/-- Statements, of which the last one has to return; its value comes last. -/
def stmtsSource (method : String) (stmts : List Stmt) : Rendered :=
  match splitReturn? stmts with
  | none => .error (.missingReturn method)
  | some (init, value) => do
    let lines ← init.mapM (L.stmtSource rt (assigned stmts))
    return lines.flatten ++ okOf (← L.exprSource rt value)

end Language

end Memberwise.Source
