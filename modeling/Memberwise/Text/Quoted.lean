import Memberwise.Text.Ranges

/-!
# Quoted text

Text between double quotes. Quote and backslash are escaped with a backslash, tab, line feed and
carriage return have letters of their own, and every other character that is not printable is
given by its code point in braces. The two forms differ in the null character alone: in a source
literal it must not run into an octal digit.
-/

namespace Memberwise.Text

def hexDigits (n : Nat) : List Char := Nat.toDigits 16 n

/-- One character between quotes, the null character apart. -/
def escapeChar (c : Char) : List Char :=
  match c with
  | '\t' => ['\\', 't']
  | '\r' => ['\\', 'r']
  | '\n' => ['\\', 'n']
  | '"' => ['\\', '"']
  | '\\' => ['\\', '\\']
  | c => if isPrintable c then [c] else ['\\', 'u', '{'] ++ hexDigits c.toNat ++ ['}']

def isNull (c : Char) : Bool := c.toNat = 0

def isOctal (c : Char) : Bool := '0' ≤ c && c ≤ '7'

def quotedChars : List Char → List Char
  | [] => []
  | c :: cs => (if isNull c then ['\\', '0'] else escapeChar c) ++ quotedChars cs

def quoted (s : String) : String := String.ofList (['"'] ++ quotedChars s.toList ++ ['"'])

def literalChars : List Char → List Char
  | [] => []
  | c :: cs =>
    (if isNull c then
      if (cs.head?.any isOctal) then ['\\', 'x', '0', '0'] else ['\\', '0']
    else escapeChar c) ++ literalChars cs

def literal (s : String) : String := String.ofList (['"'] ++ literalChars s.toList ++ ['"'])

def inQuotes (s : String) : String := "'" ++ s ++ "'"

end Memberwise.Text
