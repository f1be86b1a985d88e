import Memberwise.Proofs.Building.Members

/-!
# Runs of a builder

Setters are called on a fresh builder in any order and as often as one likes. Every call gives the
builder back and keeps what it stores in step with the history, from which `build` then answers.
-/

namespace Memberwise

open Eval

namespace Machine

def callSetters (m : Machine) (depth : Nat) (builder : ObjectRef) (calls : List (String × Value)) :
    Eval (List Value) :=
  calls.mapM fun call => m.dispatch depth (.object builder) (.setter call.1) [call.2]

end Machine

namespace Buildable

variable {strictness : Strictness} {c : ClassDecl} {plan : BuilderPlan}
  (hc : Buildable strictness c plan) (m : Machine) {h : Heap} {builder : ObjectRef}

include hc

theorem dispatch_setter (depth : Nat) (hbuilder : builder.cls = plan.builder) {p : Parameter}
    (hp : p ∈ c.params) (calls : List (String × Value)) (v : Value) :
    ((m.installAll (.fresh strictness c)).dispatch (depth + 1) (.object builder)
        (.setter p.name) [v]).on h =
      (.ok (.object builder), h.setAll builder (p.stored (calls ++ [(p.name, v)]))) := by
  have hbody := hc.lookup_setter m hp
  rw [← hbuilder] at hbody
  rw [Machine.dispatch_succ _ depth hbody, Machine.runBody_setter, p.stored_concat_self]

theorem callSetters_on (depth : Nat) (hbuilder : builder.cls = plan.builder)
    {before calls : List (String × Value)}
    (hcalls : ∀ call ∈ calls, call.1 ∈ c.params.map (·.name))
    (hrecords : h.Records builder c.params before) :
    ∃ h', ((m.installAll (.fresh strictness c)).callSetters (depth + 1) builder calls).on h =
        (.ok (calls.map fun _ => .object builder), h') ∧
      h'.Records builder c.params (before ++ calls) := by
  induction calls generalizing h before with
  | nil => exact ⟨h, rfl, by rwa [List.append_nil]⟩
  | cons call calls ih =>
    obtain ⟨name, v⟩ := call
    obtain ⟨p, hp, rfl⟩ := List.mem_map.mp (hcalls _ List.mem_cons_self)
    have hstep := hc.dispatch_setter m (h := h) depth hbuilder hp before v
    obtain ⟨h', hrest, hafter⟩ := ih (fun call hcall => hcalls call (List.mem_cons_of_mem _ hcall))
      (hrecords.concat hc.nodup_storage hp v)
    refine ⟨h', ?_, by rwa [List.append_assoc] at hafter⟩
    rw [Machine.callSetters, List.mapM_cons, on_bind, hstep]
    change ((Machine.callSetters _ _ _ _ >>= _ : Eval _).on _) = _
    rw [on_bind, hrest]
    rfl

theorem dispatch_build (depth : Nat) (hbuilder : builder.cls = plan.builder)
    {calls : List (String × Value)} (hrecords : h.Records builder c.params calls) :
    ((m.installAll (.fresh strictness c)).dispatch (depth + 1) (.object builder) .build []).on h =
      match c.params.find? (·.lacks calls), Parameter.arguments calls c.params with
      | some p, _ => (.error (.fault (.missingArgument p.name)), h)
      | none, .error fault => (.error (.fault fault), h)
      | none, .ok fields =>
        (.ok (.object (h.newObject c.name fields).1), (h.newObject c.name fields).2) := by
  have hbody := hc.lookup_build m
  rw [← hbuilder] at hbody
  rw [Machine.on_dispatch_build _ depth hbody]
  obtain ⟨name, hplan⟩ := hc.exists_plan
  rw [hplan, hrecords.construction_eq]
  cases c.params.find? (·.lacks calls) with
  | some p => rfl
  | none => cases Parameter.arguments calls c.params <;> rfl

end Buildable

/-- A class of those constructor parameters with the builder that one expects. -/
def ClassDecl.withBuilder (name : ClassName) (params : List Parameter) : ClassDecl :=
  let shape := (empty name .plain).withPrimary params
  { shape with
    annotations := { Annotations.none with buildable := true },
    builder := some (.conventional shape) }

namespace Pet

def name : Parameter := ⟨"name", .string, none, .unknown⟩

def nick : Parameter := ⟨"nick", .orNull "String", none, .unknown⟩

def age : Parameter := ⟨"age", .int, some (.literal (.int 3)), .unknown⟩

def owner : Parameter := ⟨"owner", .orNull "String", some (.literal (.text "nobody")), .unknown⟩

def cls : ClassDecl := .withBuilder ⟨"Pet"⟩ [name, nick, age, owner]

def plan : BuilderPlan := .ofParams cls.name (cls.name.nested "Builder") cls.params

def calls : List (String × Value) :=
  [("age", .int 5), ("name", .text "Rex"), ("owner", .text "Ada"), ("age", .null),
    ("owner", .null)]

end Pet

end Memberwise
