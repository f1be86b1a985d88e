import Memberwise.Source.Name
import Memberwise.Text.Ranges
import Memberwise.Text.NameChars

/-!
# Reading tokens

Source that a host writes, a default expression or a path, is read into token trees. White space
and comments are dropped, save comments that document the item after them: these stand for an
attribute. Literals are kept as they are written.
-/

namespace Memberwise.Source

/-- Reads one thing from the front and gives what is left. -/
abbrev Scan := List Char → Option (List Char)

def after? (lead : List Char) (s : List Char) : Option (List Char) :=
  if lead.isPrefixOf s then some (s.drop lead.length) else none

def startsWith (lead : String) (s : List Char) : Bool := lead.toList.isPrefixOf s

/-- White space of source: the property White_Space and the two direction marks. -/
def isBlankChar (c : Char) : Bool := Text.isSpace c || c = '\u200e' || c = '\u200f'

def restOfLine : List Char → List Char × List Char
  | [] => ([], [])
  | '\n' :: s => ([], '\n' :: s)
  | '\r' :: '\n' :: s => ([], '\n' :: s)
  | c :: s => let (line, rest) := restOfLine s; (c :: line, rest)

/-- The text of a comment whose opening has been read, `depth` comments deep in it. -/
def blockText : Nat → List Char → Option (List Char × List Char)
  | depth, '/' :: '*' :: s => (blockText (depth + 1) s).map fun (t, r) => ('/' :: '*' :: t, r)
  | 0, '*' :: '/' :: s => some ([], s)
  | depth + 1, '*' :: '/' :: s => (blockText depth s).map fun (t, r) => ('*' :: '/' :: t, r)
  | depth, c :: s => (blockText depth s).map fun (t, r) => (c :: t, r)
  | _, [] => none

def hasNoBareReturn : List Char → Bool
  | [] => true
  | '\r' :: '\n' :: s => hasNoBareReturn s
  | c :: s => c ≠ '\r' && hasNoBareReturn s

def documents (s : List Char) : Bool :=
  startsWith "//!" s || startsWith "/*!" s ||
  (startsWith "///" s && !startsWith "////" s) ||
  (startsWith "/**" s && !startsWith "/***" s && !startsWith "/**/" s)

def docComment? (s : List Char) : Option (List Char × Bool × List Char) := do
  let line (lead : String) (inner : Bool) : Option (List Char × Bool × List Char) :=
    (after? lead.toList s).map fun s => let (t, rest) := restOfLine s; (t, inner, rest)
  let block (lead : String) (inner : Bool) : Option (List Char × Bool × List Char) := do
    let (t, rest) ← blockText 0 (← after? lead.toList s)
    some (t, inner, rest)
  let found ←
    if !documents s then none
    else line "//!" true <|> block "/*!" true <|> line "///" false <|> block "/**" false
  if hasNoBareReturn found.1 then some found else none

def skipOne? : Scan
  | [] => none
  | c :: s =>
    if isBlankChar c then some s
    else if startsWith "/**/" (c :: s) then some (s.drop 3)
    else if documents (c :: s) then none
    else if startsWith "//" (c :: s) then some (restOfLine s).2
    else if startsWith "/*" (c :: s) then (blockText 0 (s.drop 1)).map (·.2)
    else none

def isHex (c : Char) : Bool :=
  ('0' ≤ c && c ≤ '9') || ('a' ≤ c && c ≤ 'f') || ('A' ≤ c && c ≤ 'F')

def hexValue (c : Char) : Nat :=
  if c ≤ '9' then c.toNat - '0'.toNat
  else if c ≤ 'F' then c.toNat - 'A'.toNat + 10 else c.toNat - 'a'.toNat + 10

def isDecimal (c : Char) : Bool := '0' ≤ c && c ≤ '9'

def plainName? : List Char → Option (List Char × List Char)
  | c :: s => if Text.isNameStart c then
      some (c :: s.takeWhile Text.isNameRest, s.dropWhile Text.isNameRest) else none
  | [] => none

def skipSuffix (s : List Char) : List Char := (plainName? s).elim s (·.2)

structure LiteralKind where
  admits : Char → Bool
  /-- Whether two hexadecimal digits stand for a character. -/
  admitsHex : Char → Char → Bool
  /-- Whether a code point in braces stands for a character, and which ones do. -/
  admitsPoint : Nat → Bool
  admitsNull : Bool

namespace LiteralKind

def isScalar (n : Nat) : Bool := n < 0xd800 || (0xdfff < n && n ≤ 0x10ffff)

def text : LiteralKind :=
  ⟨fun _ => true, fun a b => '0' ≤ a && a ≤ '7' && isHex b, isScalar, true⟩

def bytes : LiteralKind :=
  ⟨fun c => c.toNat < 128, fun a b => isHex a && isHex b, fun _ => false, true⟩

def nullEnded : LiteralKind :=
  ⟨fun c => c.toNat ≠ 0, fun a b => isHex a && isHex b && !(a = '0' && b = '0'),
    fun n => n ≠ 0 && isScalar n, false⟩

end LiteralKind

def codePoint? (value digits : Nat) : List Char → Option (Nat × List Char)
  | c :: s =>
    if isHex c then
      if digits < 6 then codePoint? (16 * value + hexValue c) (digits + 1) s else none
    else if c = '_' && 0 < digits then codePoint? value digits s
    else if c = '\x7d' && 0 < digits then some (value, s)
    else none
  | [] => none

def escape? (kind : LiteralKind) : Scan
  | 'x' :: a :: b :: s => if kind.admitsHex a b then some s else none
  | 'u' :: '\x7b' :: s => do
    let (point, rest) ← codePoint? 0 0 s
    if kind.admitsPoint point then some rest else none
  | '0' :: s => if kind.admitsNull then some s else none
  | c :: s => if ['n', 'r', 't', '\\', '\'', '"'].contains c then some s else none
  | [] => none

/-- After a backslash at the end of a line, the blanks up to the next character. -/
def skipLineBlanks : Scan
  | '\r' :: '\n' :: s => skipLineBlanks s
  | c :: s => if c = ' ' || c = '\t' || c = '\n' then skipLineBlanks s
    else if c = '\r' then none else some (c :: s)
  | [] => none

/-- What is left after a quoted literal whose first quote has been read. The fuel bounds the number
of characters. -/
def cooked? (kind : LiteralKind) : Nat → Scan
  | 0, _ => none
  | n + 1, s =>
    match s with
    | [] => none
    | '"' :: s => some (skipSuffix s)
    | '\r' :: '\n' :: s => cooked? kind n s
    | '\r' :: _ => none
    | '\\' :: '\n' :: s => (skipLineBlanks s).bind (cooked? kind n)
    | '\\' :: '\r' :: '\n' :: s => (skipLineBlanks s).bind (cooked? kind n)
    | '\\' :: s => (escape? kind s).bind (cooked? kind n)
    | c :: s => if kind.admits c then cooked? kind n s else none

def rawBody? (kind : LiteralKind) (hashes : List Char) : Scan
  | [] => none
  | '"' :: s => if hashes.isPrefixOf s then some (skipSuffix (s.drop hashes.length))
    else rawBody? kind hashes s
  | '\r' :: '\n' :: s => rawBody? kind hashes s
  | c :: s => if kind.admits c && c ≠ '\r' then rawBody? kind hashes s else none

def raw? (kind : LiteralKind) (s : List Char) : Option (List Char) :=
  let hashes := s.takeWhile (· = '#')
  match s.dropWhile (· = '#') with
  | '"' :: s => if hashes.length ≤ 255 then rawBody? kind hashes s else none
  | _ => none

def single? (kind : LiteralKind) (s : List Char) : Option (List Char) := do
  let rest ← match s with
    | '\\' :: s => escape? kind s
    | c :: s => if kind.admits c then some s else none
    | [] => none
  match rest with
  | '\'' :: s => some (skipSuffix s)
  | _ => none

def endsWord (s : List Char) : Option (List Char) :=
  if s.head?.any Text.isNameRest then none else some s

def skipDigits (s : List Char) : List Char := s.dropWhile fun c => isDecimal c || c = '_'

def exponent? (s : List Char) : Option (List Char) :=
  let isUnderscore (c : Char) : Bool := c = '_'
  let s := s.dropWhile isUnderscore
  let s := match s with
    | '+' :: s | '-' :: s => s.dropWhile isUnderscore
    | s => s
  if s.head?.any isDecimal then some (skipDigits s) else none

def float? (s : List Char) : Option (List Char) := do
  let rest ←
    if !s.head?.any isDecimal then none
    else match skipDigits s with
      | '.' :: s =>
        if s.head?.any fun c => c = '.' || Text.isNameStart c then none
        else
          let s := skipDigits s
          match s with
          | 'e' :: t | 'E' :: t => some ((exponent? t).getD s)
          | s => some s
      | 'e' :: s | 'E' :: s => exponent? s
      | _ => none
  endsWord (skipSuffix rest)

def digits? (base : Nat) (found : Bool) : Scan
  | [] => if found then some [] else none
  | c :: s =>
    if c = '_' && (found || base ≠ 10) then digits? base found s
    else if isDecimal c && base ≤ hexValue c then none
    else if isHex c && hexValue c < base then digits? base true s
    else if found then some (c :: s) else none

def int? (s : List Char) : Option (List Char) := do
  let rest ← match s with
    | '0' :: 'x' :: s => digits? 16 false s
    | '0' :: 'o' :: s => digits? 8 false s
    | '0' :: 'b' :: s => digits? 2 false s
    | s => digits? 10 false s
  endsWord (skipSuffix rest)

def literal? (s : List Char) : Option (List Char) :=
  let quotedBy (lead : String) (scan : Scan) : Option (List Char) :=
    (after? lead.toList s).bind scan
  let cookedBy (lead : String) (kind : LiteralKind) : Option (List Char) :=
    quotedBy lead (cooked? kind (s.length + 1))
  cookedBy "\"" .text <|> quotedBy "r" (raw? .text) <|>
  cookedBy "b\"" .bytes <|> quotedBy "br" (raw? .bytes) <|>
  cookedBy "c\"" .nullEnded <|> quotedBy "cr" (raw? .nullEnded) <|>
  quotedBy "b'" (single? .bytes) <|> quotedBy "'" (single? .text) <|> float? s <|> int? s

/-- Words that are no identifier where they stand bare; `gen` is one. -/
def isKeyword (word : String) : Bool :=
  (isReserved word && word ≠ "gen") || neverRaw.contains word

/-- An identifier or keyword; what begins like a string with a lead is neither. -/
def anyName? (s : List Char) : Option (List Char × List Char) :=
  match s with
  | 'r' :: '#' :: s => do
    let (name, rest) ← plainName? s
    if neverRaw.contains (String.ofList name) then none else some ('r' :: '#' :: name, rest)
  | s => plainName? s

def beginsString (s : List Char) : Bool :=
  ["r\"", "r#\"", "r##", "b\"", "b'", "br\"", "br#", "c\"", "cr\"", "cr#"].any (startsWith · s)

def name? (s : List Char) : Option (List Char × List Char) :=
  if beginsString s then none else anyName? s

def lifetime? (s : List Char) : Option (List Char × List Char) := do
  let (name, rest) ← anyName? s
  if rest.head? = some '\'' || (rest.head? = some '#' && !startsWith "r#" s) then none
  else some (name, rest)

def markChars : List Char := "~!@#$%^&*-=+|;:,<.>/?".toList

def continuesMark (s : List Char) : Bool :=
  !startsWith "//" s && !startsWith "/*" s && s.head?.any fun c => c = '\'' || markChars.contains c

def leaf? (s : List Char) : Option (Token × List Char) :=
  match literal? s with
  | some rest => some (.literal (String.ofList (s.take (s.length - rest.length))), rest)
  | none =>
    match s with
    | '\'' :: t => (lifetime? t).map fun (name, rest) => (.lifetime (String.ofList name), rest)
    | c :: t =>
      if markChars.contains c && continuesMark s then some (.mark c (continuesMark t), t)
      else (name? s).map fun (name, rest) => (.word (String.ofList name), rest)
    | [] => none

def docTokens (text : List Char) (inner : Bool) : List Token :=
  Token.op "#" ++ (if inner then Token.op "!" else []) ++
    [.bracket [.word "doc", .mark '=' false, .literal (Text.literal (String.ofList text))]]

def opens? : Char → Option Delimiter
  | '(' => some .paren
  | '[' => some .bracket
  | '\x7b' => some .brace
  | _ => none

def closes? : Char → Option Delimiter
  | ')' => some .paren
  | ']' => some .bracket
  | '\x7d' => some .brace
  | _ => none

/-- Reads tokens, those of the group at hand in reverse, with the groups around it and what they
hold so far. The fuel bounds the number of steps, each of which takes a character at least. -/
def scan : Nat → List (Delimiter × List Token) → List Token → List Char → Option (List Token)
  | 0, _, _, _ => none
  | n + 1, outer, done, s =>
    match skipOne? s with
    | some rest => scan n outer done rest
    | none =>
      match docComment? s with
      | some (text, inner, rest) => scan n outer ((docTokens text inner).reverse ++ done) rest
      | none =>
        match s with
        | [] => if outer.isEmpty then some done.reverse else none
        | c :: t =>
          match opens? c, closes? c with
          | some d, _ => scan n ((d, done) :: outer) [] t
          | none, some d =>
            match outer with
            | (e, before) :: outer =>
              if d = e then scan n outer (.group d done.reverse :: before) t else none
            | [] => none
          | none, none =>
            match leaf? s with
            | some (token, rest) => scan n outer (token :: done) rest
            | none => none

/-- The tokens of a source text, none if it has an open group or no tokens can be made of it. A
byte order mark in front is skipped. -/
def tokens? (s : String) : Option (List Token) :=
  let cs := match s.toList with
    | '\ufeff' :: cs => cs
    | cs => cs
  scan (cs.length + 1) [] [] cs

end Memberwise.Source
