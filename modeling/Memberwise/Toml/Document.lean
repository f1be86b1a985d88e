import Memberwise.Toml.Basic
import Memberwise.Toml.Scalar

/-!
# TOML documents

A document is a list of lines: headers, and entries that belong to the header before them. Reading
refuses a key that is given twice and a table that is opened twice.
-/

namespace Memberwise.Toml

abbrev Reader := StateT (List Char) Option

namespace Reader

def peek? : Reader (Option Char) := return (← get).head?

def begins (lead : String) : Reader Bool := return lead.toList.isPrefixOf (← get)

def take? (lead : String) : Reader Bool := do
  if ← begins lead then
    modify (·.drop lead.length)
    return true
  else return false

def expect (lead : String) : Reader Unit := do
  unless ← take? lead do failure

def takeWhile (p : Char → Bool) : Reader (List Char) := do
  let cs ← get
  set (cs.dropWhile p)
  return cs.takeWhile p

def any : Reader Char := do
  match ← get with
  | c :: cs => do set cs; return c
  | [] => failure

def loop {α : Type} (step : α → Reader (Option α)) : Nat → α → Reader α
  | 0, _ => failure
  | n + 1, a => do
    match ← step a with
    | some b => loop step n b
    | none => return a

def collect {α : Type} (step : α → Reader (Option α)) (start : α) : Reader α := do
  loop step ((← get).length + 1) start

def isBlank (c : Char) : Bool := c = ' ' || c = '\t'

def blanks : Reader Unit := do
  let _ ← takeWhile isBlank

/-- Control characters stand in no comment and no string; a tab is none of them. -/
def isControl (c : Char) : Bool := (c.toNat < 0x20 && c ≠ '\t') || c.toNat = 0x7f

def newline? : Reader Bool := take? "\n" <||> take? "\r\n"

def lineRest : Reader Unit := do
  blanks
  if ← take? "#" then
    let _ ← takeWhile (!isControl ·)

/-- Blanks, comments and line ends, as they may stand inside brackets. -/
def space : Reader Unit := collect (fun _ => do
  lineRest
  if ← newline? then return some () else return none) ()

def hexNumber : Nat → Nat → Reader Nat
  | 0, value => return value
  | n + 1, value => do
    let c ← any
    if !isHexDigit c then failure
    let digit := if isDigit c then c.toNat - '0'.toNat else (c.toNat - 'A'.toNat) % 32 + 10
    hexNumber n (16 * value + digit)

def codePoint (digits : Nat) : Reader Char := do
  let n ← hexNumber digits 0
  if n < 0xd800 || (0xdfff < n && n ≤ 0x10ffff) then return Char.ofNat n else failure

def escape : Reader Char := do
  match ← any with
  | 'b' => return '\x08'
  | 't' => return '\t'
  | 'n' => return '\n'
  | 'f' => return '\x0c'
  | 'r' => return '\r'
  | 'e' => return '\x1b'
  | '"' => return '"'
  | '\\' => return '\\'
  | 'x' => codePoint 2
  | 'u' => codePoint 4
  | 'U' => codePoint 8
  | _ => failure

def line (quote : Char) : Reader String := do
  let cs ← collect (fun done => do
    match ← peek? with
    | none => failure
    | some c =>
      if c = quote || isControl c then return none
      let c ← any
      if c = '\\' && quote = '"' then return some ((← escape) :: done)
      return some (c :: done)) []
  expect (String.singleton quote)
  return String.ofList cs.reverse

/-- Whether a backslash ends its line, which drops all blanks and line ends after it. -/
def joinsLines (cs : List Char) : Bool :=
  match cs.dropWhile isBlank with
  | '\n' :: _ | '\r' :: '\n' :: _ => true
  | _ => false

/-- The rest of a string of several lines. Up to two quotes may stand before the closing ones. -/
def lines (quote : Char) : Reader String := do
  let _ ← newline?
  let triple := String.ofList [quote, quote, quote]
  let cs ← collect (fun done => do
    if ← begins triple then return none
    if ← newline? then return some ('\n' :: done)
    let c ← any
    if isControl c then failure
    if c = '\\' && quote = '"' then
      if joinsLines (← get) then
        let _ ← collect (fun _ => do
          blanks
          if ← newline? then return some () else return none) ()
        return some done
      return some ((← escape) :: done)
    return some (c :: done)) []
  expect triple
  let more ← takeWhile (· = quote)
  if 2 < more.length then failure
  return String.ofList (cs.reverse ++ more)

def isBare (c : Char) : Bool := c.isAlphanum || c = '_' || c = '-'

def simpleKey : Reader String := do
  if ← take? "\"" then line '"'
  else if ← take? "'" then line '\''
  else
    let cs ← takeWhile isBare
    if cs.isEmpty then failure
    return String.ofList cs

def key : Reader (List String) := do
  let first ← simpleKey
  blanks
  collect (fun done => do
    if ← take? "." then
      blanks
      let next ← simpleKey
      blanks
      return some (done ++ [next])
    else return none) [first]

def isAtom (c : Char) : Bool := c.isAlphanum || ['+', '-', '_', '.', ':'].contains c

/-- A scalar; between a date and a time there may be a blank. -/
def scalar : Reader Value := do
  let cs ← takeWhile isAtom
  let cs ← match (← get) with
    | ' ' :: c :: _ =>
      if isDigit c && date? cs = some [] then
        let _ ← any
        pure (cs ++ [' '] ++ (← takeWhile isAtom))
      else pure cs
    | _ => pure cs
  if isScalar cs then return .scalar else failure

def items {α : Type} (closing : String) (item : α → Reader α) (start : α) : Reader α := do
  space
  let all ← collect (fun done => do
    if ← begins closing then return none
    let done ← item done
    space
    if ← take? "," then
      space
      return some done
    else if ← begins closing then return some done
    else failure) start
  expect closing
  return all

/-- A value, in which brackets nest less than `n` deep. -/
def value : Nat → Reader Value
  | 0 => failure
  | n + 1 => do
    if ← take? "\"\"\"" then .text <$> lines '"'
    else if ← take? "'''" then .text <$> lines '\''
    else if ← take? "\"" then .text <$> line '"'
    else if ← take? "'" then .text <$> line '\''
    else if ← take? "[" then
      .array <$> items "]" (fun done => return done ++ [← value n]) []
    else if ← take? "\x7b" then
      .table .inline <$> items "\x7d" (fun done => do
        let keys ← key
        expect "="
        blanks
        let v ← value n
        (Entries.assign keys v done : Option Entries)) ([] : Entries)
    else scalar

structure Progress where
  header : List String
  entries : Entries

def header (p : Progress) : Reader Progress := do
  let isMany ← take? "["
  blanks
  let keys ← key
  expect (if isMany then "]]" else "]")
  let last ← (keys.getLast? : Option String)
  let change := if isMany then Entries.pushTable last else Entries.openTable last
  let entries ← (Entries.change false change keys.dropLast p.entries : Option Entries)
  return ⟨keys, entries⟩

def entry (p : Progress) : Reader Progress := do
  let keys ← key
  expect "="
  blanks
  let v ← value ((← get).length + 1)
  let entries ← (Entries.change false (Entries.assign keys v) p.header p.entries : Option Entries)
  return { p with entries }

def documentLine (p : Progress) : Reader (Option Progress) := do
  blanks
  match ← peek? with
  | none => return none
  | some c =>
    let p ← if c = '#' || c = '\n' || c = '\r' then pure p
      else if ← take? "[" then header p
      else entry p
    lineRest
    if (← newline?) || (← peek?).isNone then return some p else failure

end Reader

def ofText? (s : String) : Option Entries :=
  let cs := match s.toList with
    | '\ufeff' :: cs => cs
    | cs => cs
  match (Reader.collect Reader.documentLine ⟨[], []⟩).run cs with
  | some (p, []) => some p.entries
  | _ => none

end Memberwise.Toml
