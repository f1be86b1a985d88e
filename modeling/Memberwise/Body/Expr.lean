import Memberwise.Model.Class

/-!
# Method bodies

Bodies of synthesized members, in no particular host language. An expression reads the receiver,
parameters and locals; a body is a list of statements that ends by returning.
-/

namespace Memberwise

inductive Access
  | getter
  | field
deriving DecidableEq, Repr, Inhabited

inductive HashKind
  /-- The hash of the value itself. -/
  | ambient
  /-- Arrays by identity, never by content. -/
  | arrayIdentity
deriving DecidableEq, Repr, Inhabited

inductive Failure
  | missingArgument (param : String)
deriving DecidableEq, Repr

inductive Expr
  | null
  | bool (b : Bool)
  | int (i : Int32)
  | text (s : String)
  | this
  | param (name : String)
  | local (name : String)
  | property (receiver : Expr) (name : String) (access : Access)
  /-- Reads the fallback instead while the property is unset. -/
  | guardedProperty (receiver : Expr) (name : String) (access : Access) (fallback : Expr)
  /-- The implementation above the class; without a superclass that is the root's. -/
  | superCall (superclass : Option ClassName) (method : ObjectMethod) (args : List Expr)
  | not (e : Expr)
  | isNull (e : Expr)
  | sameRef (a b : Expr)
  | valueEq (a b : Expr)
  | isInstance (value : Expr) (cls : ClassName)
  | cast (value : Expr) (cls : ClassName)
  | hashOf (value : Expr) (kind : HashKind)
  | add (a b : Expr)
  | mul (a b : Expr)
  | concat (parts : List Expr)
  | stringify (e : Expr)
  | cond (cond then_ else_ : Expr)
  /-- A call of the primary constructor with named arguments. -/
  | new (cls : ClassName) (args : List (String × Expr))
  | defaultOf (param : String) (value : Default)
deriving Repr, Inhabited

namespace Expr

def fieldOfThis (name : String) : Expr := .property .this name .field

end Expr

inductive Stmt
  | let_ (name : String) (value : Expr)
  | assign (name : String) (value : Expr)
  | setField (receiver : Expr) (name : String) (value : Expr)
  | ifReturn (cond value : Expr)
  | throwIf (cond : Expr) (failure : Failure)
  | return_ (value : Expr)
deriving Repr, Inhabited

structure BodyParam where
  name : String
  type : HostType
deriving DecidableEq, Repr

structure Signature where
  name : String
  params : List BodyParam
  returns : HostType
deriving DecidableEq, Repr

structure Body where
  signature : Signature
  stmts : List Stmt
deriving Repr

end Memberwise
