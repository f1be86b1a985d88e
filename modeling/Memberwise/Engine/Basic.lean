import Memberwise.Engine.Cache
import Memberwise.Readiness.Check
import Memberwise.Settings
import Memberwise.Synthesis.Building
import Memberwise.Synthesis.Object

/-!
# The engine

Checks classes and synthesizes their members under fixed settings. An engine keeps the resolutions
it has computed; each operation gives its answer, the engine after it and the events on the way.
-/

namespace Memberwise

/-- The version of the rules by which members are made. -/
def version : String := "0.4.0"

structure Trail where
  cache : Cache
  events : List Event

abbrev Tracked := StateM Trail

namespace Tracked

def note (events : List Event) : Tracked Unit :=
  modify fun t => { t with events := t.events ++ events }

def resolve (c : ClassDecl) (family : Family) : Tracked (Option Resolution) := fun t =>
  let (r, cache, events) := t.cache.resolve c family
  (r, ⟨cache, t.events ++ events⟩)

end Tracked

structure ClassSynthesis where
  cls : ClassName
  superclass : Option ClassName
  methods : List Method
  /-- The state of the builder, where building is ready. -/
  builder : Option BuilderPlan
  diagnostics : Diagnostics
deriving Repr

def membersOf (c : ClassDecl) : Family → List Member
  | .equality => [.equals, .hash]
  | .printing => [.print]
  | .building => c.params.map (fun p => .setter p.name) ++ [.build]

def equalityMethod (c : ClassDecl) (options : EqualityOptions) (resolution : Resolution)
    (member : Member) : Method :=
  if member = .equals then
    Synthesis.equals c.name c.superclass options resolution.participants
  else Synthesis.hash c.name c.superclass options resolution.participants

def makeMember (c : ClassDecl) (member : Member) : Tracked (Except Refusal Method) := do
  match member with
  | .equals | .hash =>
    match c.annotations.equality, ← Tracked.resolve c .equality with
    | some options, some r => return .ok (equalityMethod c options r member)
    | _, _ => return .error (.notRequested c.name .equality)
  | .print =>
    match c.annotations.printing, ← Tracked.resolve c .printing with
    | some options, some r =>
      return .ok (Synthesis.print c.name c.superclass options r.participants)
    | _, _ => return .error (.notRequested c.name .printing)
  | .setter param =>
    match BuilderPlan.ofClass? c with
    | none => return .error (.notRequested c.name .building)
    | some plan =>
      match plan.slot? param with
      | none => return .error (.unknownMember c.name member)
      | some slot => return .ok (Synthesis.setter plan slot)
  | .build =>
    match BuilderPlan.ofClass? c with
    | none => return .error (.notRequested c.name .building)
    | some plan => return .ok (Synthesis.build plan)

def generate (c : ClassDecl) (member : Member) : Tracked (Except Refusal Method) := do
  match ← makeMember c member with
  | .ok method =>
    Tracked.note [.synthesized member c.name]
    return .ok method
  | .error refusal => return .error refusal

def generateAll (c : ClassDecl) : List Member → Tracked (List Method)
  | [] => return []
  | member :: members => do
    match ← generate c member with
    | .ok method => return method :: (← generateAll c members)
    | .error refusal =>
      Tracked.note [.refused refusal]
      generateAll c members

def Report.refusal? (cls : ClassName) (r : Report) : Option Refusal :=
  match r.verdict with
  | .ready => none
  | .notRequested => some (.notRequested cls r.family)
  | .skipped => some (.skipped cls r.family r.diagnostics)
  | .rejected => some (.rejected cls r.family r.diagnostics)

/-- A skipped family is worth an event, whatever else becomes of it. -/
def Report.events (cls : ClassName) (r : Report) : List Event :=
  if r.verdict = .skipped then [.skipping r.family cls] else []

def generateFamily (c : ClassDecl) (family : Family) (report : Report) : Tracked (List Method) := do
  Tracked.note (report.events c.name)
  if report.isReady then generateAll c (membersOf c family) else return []

namespace ClassSynthesis

def start (c : ClassDecl) : ClassSynthesis := ⟨c.name, c.superclass, [], none, []⟩

def extend (made : ClassSynthesis) (c : ClassDecl) (family : Family) (report : Report)
    (methods : List Method) : ClassSynthesis :=
  { made with
    methods := made.methods ++ methods,
    builder :=
      if report.isReady ∧ family = .building then BuilderPlan.ofClass? c else made.builder,
    diagnostics := made.diagnostics ++ report.diagnostics }

end ClassSynthesis

def synthesizeFamily (strictness : Strictness) (c : ClassDecl) (made : ClassSynthesis)
    (family : Family) : Tracked ClassSynthesis := do
  let report := checkFamily c strictness family
  return made.extend c family report (← generateFamily c family report)

structure Engine where
  settings : Settings
  cache : Cache

namespace Engine

def new (settings : Settings) : Engine := ⟨settings, .empty⟩

instance : Inhabited Engine := ⟨new .standard⟩

def strictness (e : Engine) : Strictness := e.settings.strictness

def check (e : Engine) (c : ClassDecl) (family : Family) : Report :=
  checkFamily c e.strictness family

/-- Runs an operation from an empty list of events. -/
def run {α : Type} (e : Engine) (op : Tracked α) : α × Engine × List Event :=
  let (a, t) := op ⟨e.cache, []⟩
  (a, { e with cache := t.cache }, t.events)

def validate (e : Engine) (c : ClassDecl) : Diagnostics × List Event :=
  let ds := checkClass c e.strictness
  (ds, Event.warnings c.name ds)

def names (e : Engine) (c : ClassDecl) : List Member :=
  ((Family.all.filter fun family => (e.check c family).isReady).flatMap (membersOf c)).eraseDups
    |>.mergeSort fun m n => !Member.lt n m

def synthesize (e : Engine) (member : Member) (c : ClassDecl) :
    Except Refusal Method × Engine × List Event :=
  let report := e.check c member.family
  match report.refusal? c.name with
  | some refusal => (.error refusal, e, report.events c.name)
  | none => e.run (generate c member)

def builderPlan (e : Engine) (c : ClassDecl) : Except Refusal BuilderPlan × List Event :=
  let report := e.check c .building
  match report.refusal? c.name with
  | some refusal => (.error refusal, report.events c.name)
  | none =>
    match BuilderPlan.ofClass? c with
    | some plan => (.ok plan, [])
    | none => (.error (.notRequested c.name .building), [])

/-- Every member whose family is ready, in one pass over the families. -/
def synthesizeClass (e : Engine) (c : ClassDecl) : ClassSynthesis × Engine × List Event :=
  e.run do
    let made ← Family.all.foldlM (synthesizeFamily e.strictness c) (.start c)
    Tracked.note (Event.warnings c.name made.diagnostics)
    return made

def clear (e : Engine) : Engine := { e with cache := .empty }

end Engine

end Memberwise
