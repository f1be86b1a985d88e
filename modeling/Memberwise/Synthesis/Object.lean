import Memberwise.Body.Member
import Memberwise.Inclusion

/-!
# Equality, hash and print

Equality asks the superclass first where that is wanted, then lets instances of the class through
and compares property by property. The hash is a polynomial over the hashes of the same properties,
from a seed or the hash of the superclass. Both read an unset deferred property as null. The printed
form `Name(a=.., b=..)` is one concatenation, in which neighbouring texts are merged; its reads are
not guarded, so that an unset property raises.
-/

namespace Memberwise.Synthesis

def accessOf (p : Property) (useFields : Bool) : Access :=
  if useFields && p.hasField then .field else .getter

def read (receiver : Expr) (p : Property) (useFields : Bool) : Expr :=
  .property receiver p.name (accessOf p useFields)

def guardedRead (receiver : Expr) (p : Property) (useFields : Bool) : Expr :=
  if p.isDeferred then .guardedProperty receiver p.name (accessOf p useFields) .null
  else read receiver p useFields

def otherParam : String := "other"

def castLocal : String := "that"

def hashLocal : String := "result"

def hashSeed : Int32 := 17

def hashMultiplier : Int32 := 31

def askSuper (superclass : Option ClassName) : Stmt :=
  .ifReturn (.not (.superCall superclass .equals [.param otherParam])) (.bool false)

def compareStmt (useFields : Bool) (p : Property) : Stmt :=
  .ifReturn
    (.not (.valueEq (guardedRead .this p useFields) (guardedRead (.local castLocal) p useFields)))
    (.bool false)

def equalsStmts (cls : ClassName) (superclass : Option ClassName) (options : EqualityOptions)
    (participants : List Participant) : List Stmt :=
  (if options.callSuper then [askSuper superclass] else []) ++
  [.ifReturn (.sameRef .this (.param otherParam)) (.bool true),
    .ifReturn (.not (.isInstance (.param otherParam) cls)) (.bool false),
    .let_ castLocal (.cast (.param otherParam) cls)] ++
  participants.map (fun p => compareStmt options.useFields p.property) ++
  [.return_ (.bool true)]

def equals (cls : ClassName) (superclass : Option ClassName) (options : EqualityOptions)
    (participants : List Participant) : Method :=
  { member := .equals, owner := cls,
    body :=
      { signature :=
          { name := ObjectMethod.equals.name, params := [⟨otherParam, .anything⟩],
            returns := .boolean },
        stmts := equalsStmts cls superclass options participants } }

def hashStart (superclass : Option ClassName) (options : EqualityOptions) : Expr :=
  if options.callSuper then .superCall superclass .hash [] else .int hashSeed

def hashStep (useFields : Bool) (p : Property) : Stmt :=
  .assign hashLocal
    (.add (.mul (.local hashLocal) (.int hashMultiplier))
      (.hashOf (guardedRead .this p useFields)
        (if p.type.array then .arrayIdentity else .ambient)))

def hashStmts (superclass : Option ClassName) (options : EqualityOptions)
    (participants : List Participant) : List Stmt :=
  if participants.isEmpty then [.return_ (hashStart superclass options)]
  else
    [.let_ hashLocal (hashStart superclass options)] ++
    participants.map (fun p => hashStep options.useFields p.property) ++
    [.return_ (.local hashLocal)]

def hash (cls : ClassName) (superclass : Option ClassName) (options : EqualityOptions)
    (participants : List Participant) : Method :=
  { member := .hash, owner := cls,
    body :=
      { signature := { name := ObjectMethod.hash.name, params := [], returns := .int },
        stmts := hashStmts superclass options participants } }

/-- Adds an operand; a text after a text lengthens it. -/
def joinPart (parts : List Expr) (part : Expr) : List Expr :=
  match part, parts.getLast? with
  | .text s, some (.text t) => parts.dropLast ++ [.text (t ++ s)]
  | part, _ => parts ++ [part]

def joinParts (parts : List Expr) : List Expr := parts.foldl joinPart []

abbrev Segment := String × Expr

def segments (superclass : Option ClassName) (options : PrintingOptions)
    (participants : List Participant) : List Segment :=
  (if options.callSuper then [("super", .superCall superclass .print [])] else []) ++
  participants.map fun p => (p.label, read .this p.property options.useFields)

def segmentParts (s : Segment) : List Expr := [.text (s.1 ++ "="), .stringify s.2]

def printParts (short : String) (segments : List Segment) : List Expr :=
  [.text (short ++ "(")] ++ [.text ", "].intercalate (segments.map segmentParts) ++ [.text ")"]

def print (cls : ClassName) (superclass : Option ClassName) (options : PrintingOptions)
    (participants : List Participant) : Method :=
  { member := .print, owner := cls,
    body :=
      { signature := { name := ObjectMethod.print.name, params := [], returns := .string },
        stmts :=
          [.return_ (.concat (joinParts
            (printParts cls.short (segments superclass options participants))))] } }

end Memberwise.Synthesis
