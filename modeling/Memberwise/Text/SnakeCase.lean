import Memberwise.Text.LetterCase
import Memberwise.Text.Marked

/-!
# Snake case

A name is cut into words at underscores, hyphens and spaces, which are dropped, where the class
of its characters changes, and before the last capital of an acronym. The words are written in
lower case with underscores between them; empty words are kept.
-/

namespace Memberwise.Text

def hasCase (g : List Char) : Bool := upper g ≠ lower g

def isUpper (g : List Char) : Bool := hasCase g && g = upper g

def isLower (g : List Char) : Bool := hasCase g && g = lower g

def isDigit (g : List Char) : Bool := g.all fun c => '0' ≤ c && c ≤ '9'

def isSeparator (g : List Char) : Bool := g = ['_'] || g = ['-'] || g = [' ']

/-- Whether a word ends between `g` and `h`, which `next` follows. -/
def wordEnds (g h : List Char) (next : Option (List Char)) : Bool :=
  (isLower g && isUpper h) || ((isLower g || isUpper g) && isDigit h) ||
  (isDigit g && (isLower h || isUpper h)) ||
  (isUpper g && isUpper h && next.any isLower)

/-- The words of a name, of which `word` holds the characters read so far in reverse. -/
def wordsFrom (word : List (List Char)) : List (List Char) → List (List Char)
  | [] => [word.reverse.flatten]
  | g :: gs =>
    if isSeparator g then word.reverse.flatten :: wordsFrom [] gs
    else match gs with
      | h :: rest =>
        if wordEnds g h rest.head? then (g :: word).reverse.flatten :: wordsFrom [] (h :: rest)
        else wordsFrom (g :: word) (h :: rest)
      | [] => [(g :: word).reverse.flatten]

def words (s : List Char) : List (List Char) := if s = [] then [] else wordsFrom [] (marked s)

def snakeCase (s : String) : String :=
  String.ofList (['_'].intercalate ((words s.toList).map lower))

end Memberwise.Text
