/-!
# TOML scalars

Numbers, truth values and dates. No setting takes one, so only their form counts.
-/

namespace Memberwise.Toml

def isDigit (c : Char) : Bool := '0' ≤ c && c ≤ '9'

def isHexDigit (c : Char) : Bool :=
  isDigit c || ('a' ≤ c && c ≤ 'f') || ('A' ≤ c && c ≤ 'F')

def isGrouped (isDigit : Char → Bool) : List Char → Bool
  | [] => false
  | [c] => isDigit c
  | c :: '_' :: cs => isDigit c && isGrouped isDigit cs
  | c :: cs => isDigit c && isGrouped isDigit cs

def dropSign : List Char → List Char
  | '+' :: cs | '-' :: cs => cs
  | cs => cs

def isWhole (cs : List Char) : Bool :=
  isGrouped isDigit cs && (cs.length = 1 || cs.head? ≠ some '0')

def isInteger : List Char → Bool
  | '0' :: 'x' :: cs => isGrouped isHexDigit cs
  | '0' :: 'o' :: cs => isGrouped (fun c => '0' ≤ c && c ≤ '7') cs
  | '0' :: 'b' :: cs => isGrouped (fun c => c = '0' || c = '1') cs
  | cs => isWhole (dropSign cs)

def splitFirst (p : Char → Bool) (cs : List Char) : List Char × Option (List Char) :=
  (cs.takeWhile (!p ·), (cs.dropWhile (!p ·)).tail?)

def isFloat (cs : List Char) : Bool :=
  let cs := dropSign cs
  let (base, exponent) := splitFirst (fun c => c = 'e' || c = 'E') cs
  let (whole, fraction) := splitFirst (· = '.') base
  cs = "inf".toList || cs = "nan".toList ||
  (isWhole whole && fraction.all (isGrouped isDigit) &&
    exponent.all (fun e => isGrouped isDigit (dropSign e)) &&
    (fraction.isSome || exponent.isSome))

/-- The number of two digits, from `least` to `greatest`. -/
def twoDigits? (least greatest : Nat) (cs : List Char) : Option (Nat × List Char) :=
  match cs with
  | a :: b :: rest =>
    let n := 10 * (a.toNat - '0'.toNat) + (b.toNat - '0'.toNat)
    if isDigit a && isDigit b && least ≤ n && n ≤ greatest then some (n, rest) else none
  | _ => none

def afterChar? (c : Char) : List Char → Option (List Char)
  | d :: cs => if c = d then some cs else none
  | [] => none

def daysIn (year month : Nat) : Nat :=
  if month = 2 then
    if year % 4 = 0 && (year % 100 ≠ 0 || year % 400 = 0) then 29 else 28
  else if [4, 6, 9, 11].contains month then 30 else 31

def date? (cs : List Char) : Option (List Char) := do
  let (century, cs) ← twoDigits? 0 99 cs
  let (year, cs) ← twoDigits? 0 99 cs
  let (month, cs) ← twoDigits? 1 12 (← afterChar? '-' cs)
  let (_, cs) ← twoDigits? 1 (daysIn (100 * century + year) month) (← afterChar? '-' cs)
  some cs

def fraction? : List Char → Option (List Char)
  | '.' :: c :: cs => if isDigit c then some (cs.dropWhile isDigit) else none
  | cs => some cs

/-- A time of day, in which the seconds may be missing. -/
def time? (cs : List Char) : Option (List Char) := do
  let (_, cs) ← twoDigits? 0 23 cs
  let (_, cs) ← twoDigits? 0 59 (← afterChar? ':' cs)
  match cs with
  | ':' :: cs =>
    let (_, cs) ← twoDigits? 0 60 cs
    fraction? cs
  | cs => some cs

def offset? : List Char → Option (List Char)
  | 'Z' :: cs | 'z' :: cs => some cs
  | '+' :: cs | '-' :: cs => do
    let (_, cs) ← twoDigits? 0 23 cs
    let (_, cs) ← twoDigits? 0 59 (← afterChar? ':' cs)
    some cs
  | cs => some cs

def isDate (cs : List Char) : Bool :=
  match date? cs with
  | some [] => true
  | some (c :: cs) =>
    (c = 'T' || c = 't' || c = ' ') && ((time? cs).bind offset?) = some []
  | none => time? cs = some []

def isScalar (cs : List Char) : Bool :=
  cs = "true".toList || cs = "false".toList || isInteger cs || isFloat cs || isDate cs

end Memberwise.Toml
