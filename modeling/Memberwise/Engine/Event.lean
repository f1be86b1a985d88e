import Memberwise.Body.Member
import Memberwise.Diagnostic

/-!
# Refusals and events

Why a member was not synthesized, and what an engine reports while it works.
-/

namespace Memberwise

inductive Refusal
  | notRequested (cls : ClassName) (family : Family)
  | rejected (cls : ClassName) (family : Family) (diagnostics : Diagnostics)
  | skipped (cls : ClassName) (family : Family) (diagnostics : Diagnostics)
  | unknownMember (cls : ClassName) (member : Member)
deriving DecidableEq, Repr

namespace Refusal

open Text (inQuotes)

def message : Refusal → String
  | notRequested cls family => family.name ++ " is not requested on " ++ inQuotes cls.path
  | rejected cls family ds =>
    family.name ++ " synthesis refused for " ++ inQuotes cls.path ++ ":\n" ++ ds.text
  | skipped cls family _ => family.name ++ " synthesis skipped for " ++ inQuotes cls.path
  | unknownMember cls member =>
    inQuotes member.text ++ " is not a member that can be synthesized for " ++ inQuotes cls.path

/-- What led to the refusal; nothing for a request that could not be met. -/
def diagnostics : Refusal → Diagnostics
  | notRequested .. | unknownMember .. => []
  | rejected _ _ ds | skipped _ _ ds => ds

end Refusal

inductive LogLevel
  | debug
  | info
  | warn
deriving DecidableEq, Repr

namespace LogLevel

def name : LogLevel → String
  | debug => "DEBUG"
  | info => "INFO"
  | warn => "WARN"

end LogLevel

inductive Event
  | resolved (family : Family) (cls : ClassName) (participants : Nat)
  | cacheHit (family : Family) (cls : ClassName)
  | staleDropped (family : Family) (cls : ClassName)
  | synthesized (member : Member) (cls : ClassName)
  | skipping (family : Family) (cls : ClassName)
  | warning (cls : ClassName) (diagnostic : Diagnostic)
  | refused (refusal : Refusal)
deriving DecidableEq, Repr

namespace Event

open Text (inQuotes)

def level : Event → LogLevel
  | resolved .. | cacheHit .. | staleDropped .. | synthesized .. => .debug
  | skipping .. => .info
  | warning .. | refused _ => .warn

def text : Event → String
  | resolved family cls participants =>
    "resolved " ++ family.name ++ " for " ++ inQuotes cls.path ++ ": " ++ toString participants ++
      " properties"
  | cacheHit family cls => "resolution cache hit for " ++ family.name ++ " on " ++ inQuotes cls.path
  | staleDropped family cls =>
    "dropping stale " ++ family.name ++ " resolution for " ++ inQuotes cls.path
  | synthesized member cls => "synthesized " ++ member.text ++ " for " ++ inQuotes cls.path
  | skipping family cls => "skipping " ++ family.name ++ " for " ++ inQuotes cls.path
  | warning cls diagnostic => cls.path ++ ": " ++ diagnostic.text
  | refused refusal => refusal.message

def warnings (cls : ClassName) (ds : Diagnostics) : List Event :=
  (ds.withSeverity .warning).map (warning cls)

end Event

end Memberwise
