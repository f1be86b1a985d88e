/-!
# TOML values

Tables remember how they came to be, since that decides what may be added to them: a table that a
header only passes through may get a header of its own once, one made by dotted keys takes more
dotted keys, and one written in braces is complete.
-/

namespace Memberwise.Toml

inductive Origin
  /-- Passed through by a header. -/
  | passed
  /-- Made by dotted keys. -/
  | dotted
  /-- Named by a header. -/
  | headed
  /-- Written in braces. -/
  | inline
deriving DecidableEq, Repr, Inhabited

inductive Value
  | text (s : String)
  /-- A number, a truth value or a date. -/
  | scalar
  | array (items : List Value)
  /-- Tables that share a header in double brackets. -/
  | tables (items : List (List (String × Value)))
  | table (origin : Origin) (entries : List (String × Value))
deriving Repr, Inhabited

abbrev Entries := List (String × Value)

namespace Entries

def get? (entries : Entries) (key : String) : Option Value :=
  (entries.find? fun e => e.1 = key).map (·.2)

def set (entries : Entries) (key : String) (v : Value) : Entries :=
  entries.map fun e => if e.1 = key then (key, v) else e

def add (entries : Entries) (key : String) (v : Value) : Option Entries :=
  match entries.get? key with
  | some _ => none
  | none => some (entries ++ [(key, v)])

/-- Changes the table at a path, which is made as far as it is missing. Of tables that share a
header it is the last. -/
def change (isDotted : Bool) (f : Entries → Option Entries) :
    List String → Entries → Option Entries
  | [], entries => f entries
  | key :: path, entries =>
    match entries.get? key with
    | none => do
      let inner ← change isDotted f path []
      some (entries ++ [(key, .table (if isDotted then .dotted else .passed) inner)])
    | some (.table origin inner) => do
      if origin = .inline || (isDotted && origin = .headed) then none
      some (entries.set key (.table origin (← change isDotted f path inner)))
    | some (.tables items) => do
      if isDotted then none
      let last ← change isDotted f path (← items.getLast?)
      some (entries.set key (.tables (items.dropLast ++ [last])))
    | _ => none

def openTable (key : String) (entries : Entries) : Option Entries :=
  match entries.get? key with
  | none => some (entries ++ [(key, .table .headed [])])
  | some (.table .passed inner) => some (entries.set key (.table .headed inner))
  | _ => none

def pushTable (key : String) (entries : Entries) : Option Entries :=
  match entries.get? key with
  | none => some (entries ++ [(key, .tables [[]])])
  | some (.tables items) => some (entries.set key (.tables (items ++ [[]])))
  | _ => none

def assign (keys : List String) (v : Value) (entries : Entries) : Option Entries := do
  change true (·.add (← keys.getLast?) v) keys.dropLast entries

end Entries

end Memberwise.Toml
