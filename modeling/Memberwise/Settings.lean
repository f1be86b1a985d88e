import Memberwise.Readiness.Report
import Memberwise.Toml.Document

/-!
# Settings

What the host can set on an engine, and how it is read from a TOML document. Unknown keys are
refused. A word may also be written as the only key of a table that holds nothing, and a table as
an array, whose first item stands for its first key.
-/

namespace Memberwise

structure BuilderSettings where
  unrecognizedMembers : Strictness
deriving DecidableEq, Repr

instance : Inhabited BuilderSettings := ⟨⟨.lenient⟩⟩

structure Settings where
  builder : BuilderSettings
deriving DecidableEq, Repr

namespace Settings

def standard : Settings := ⟨⟨.lenient⟩⟩

instance : Inhabited Settings := ⟨standard⟩

def strictnessOfWord? (s : String) : Option Strictness :=
  if s = "lenient" then some .lenient else if s = "strict" then some .strict else none

def holdsNothing : Toml.Value → Bool
  | .array [] | .table _ [] => true
  | _ => false

def strictness? : Toml.Value → Option Strictness
  | .text s => strictnessOfWord? s
  | .table _ [(key, v)] => if holdsNothing v then strictnessOfWord? key else none
  | _ => none

def builderOfEntries? : Toml.Entries → Option BuilderSettings
  | [] => some standard.builder
  | [("unrecognized_members", v)] => (strictness? v).map BuilderSettings.mk
  | _ => none

/-- Settings of the builder. Items of an array after the first are not looked at. -/
def builder? : Toml.Value → Option BuilderSettings
  | .table _ entries => builderOfEntries? entries
  | .array [] => some standard.builder
  | .array (v :: _) => (strictness? v).map BuilderSettings.mk
  | .tables (entries :: _) => (strictness? (.table .headed entries)).map BuilderSettings.mk
  | _ => none

def ofEntries? : Toml.Entries → Option Settings
  | [] => some standard
  | [("builder", v)] => (builder? v).map Settings.mk
  | _ => none

def ofToml? (s : String) : Option Settings := (Toml.ofText? s).bind ofEntries?

def strictness (s : Settings) : Strictness := s.builder.unrecognizedMembers

end Settings

end Memberwise
