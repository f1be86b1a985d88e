import Memberwise.Source.Class
import Memberwise.Source.Grammar.Expression
import Memberwise.Text.SnakeCase

/-!
# Rendering as it runs

The rules of rendering hold for every language. The program runs them with the readers of this
library: its snake case, its tokens and its grammar, in which blocks hold statements but no items.
-/

namespace Memberwise.Source

def singleWord? (text : String) : Option String :=
  match tokens? text with
  | some [.word w] => if isKeyword w then none else some w
  | _ => none

def standard : Language where
  snakeCase := Text.snakeCase
  word? := singleWord?
  expression? := Grammar.expression?
  path? := Grammar.path?

def identifier (name : String) : Except Unrenderable String := standard.identifier name

def snakeIdentifier (name : String) : Except Unrenderable String := standard.snakeIdentifier name

def runtimePath (path : String) : Rendered := standard.runtimePath path

def methodSource (rt : List Token) (m : Method) : Rendered := standard.methodSource rt m

def classModule (rt : List Token) (s : ClassSynthesis) : Except Unrenderable ClassModule :=
  standard.classModule rt s

end Memberwise.Source
