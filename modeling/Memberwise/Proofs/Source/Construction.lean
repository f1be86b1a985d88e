import Mathlib.Data.List.Forall2
import Memberwise.Machine.Heap
import Memberwise.Proofs.Source.Functions

/-!
# What a rendered construction makes

The source of an object is a call of the runtime with the name of a class and a list of named
values. Run on a heap, it makes an object with that class and these fields, and the same tokens
never make another one.
-/

namespace Memberwise.Source

section

variable (rt : List Token)

def nullTokens : List Token := rt ++ segments ["Value", "Null"]

def boolTokens (b : Bool) : List Token :=
  rt ++ segments ["Value", "Bool"] ++ [.group .paren [.word (toString b)]]

/-- What a written constant stands for. -/
inductive Stands : List Token → Value → Prop
  | null : Stands (nullTokens rt) .null
  | bool (b : Bool) : Stands (boolTokens rt b) (.bool b)

/-- The fields that a list of pairs gives. A comma may follow the last pair. -/
inductive Lists : List Token → List (String × Value) → Prop
  | nil : Lists [] []
  | last {name : String} {ts : List Token} {v : Value} (hv : Stands rt ts v) :
      Lists [.group .paren (.string name :: .mark ',' false :: ts)] [(name, v)]
  | cons {name : String} {ts rest : List Token} {v : Value} {values : List (String × Value)}
      (hv : Stands rt ts v) (hrest : Lists rest values) :
      Lists (.group .paren (.string name :: .mark ',' false :: ts) :: .mark ',' false :: rest)
        ((name, v) :: values)

def pairsType : List Token :=
  [.group .paren ([.mark '&' false, .word "str", .mark ',' false] ++ rt ++ segments ["Value"])]

def objectTokens (cls : String) (entries : List Token) : List Token :=
  rt ++ segments ["Value", "object"] ++ [.group .paren
    (.string cls :: .mark ',' false :: segments ["std", "vec", "Vec"] ++
      [.mark ':' true, .mark ':' false, .mark '<' false] ++ pairsType rt ++ [.mark '>' false] ++
      segments ["from"] ++ [.group .paren [.group .bracket entries], .mark ',' false])]

/-- The object that a written construction makes, with the heap after it. -/
inductive Constructs (h : Heap) : List Token → ObjectRef × Heap → Prop
  | object {cls : ClassName} {entries : List Token} {values : List (String × Value)}
      (hvalues : Lists rt entries values) :
      Constructs h (objectTokens rt cls.path entries) (h.newObject cls values)

end

variable {rt : List Token}

theorem nullTokens_ne_boolTokens (b : Bool) : nullTokens rt ≠ boolTokens rt b := by
  intro h
  have hlength := congrArg List.length h
  simp [nullTokens, boolTokens, segments] at hlength

theorem boolTokens_injective {b c : Bool} (h : boolTokens rt b = boolTokens rt c) : b = c := by
  have hword : toString b = toString c := by simpa [boolTokens] using h
  have hinjective : ∀ b c : Bool, toString b = toString c → b = c := by decide
  exact hinjective b c hword

theorem Stands.unique {ts : List Token} {v w : Value} (hv : Stands rt ts v)
    (hw : Stands rt ts w) : v = w := by
  cases hv with
  | null =>
    generalize hts : nullTokens rt = ts at hw
    cases hw with
    | null => rfl
    | bool b => exact absurd hts (nullTokens_ne_boolTokens b)
  | bool b =>
    generalize hts : boolTokens rt b = ts at hw
    cases hw with
    | null => exact absurd hts.symm (nullTokens_ne_boolTokens b)
    | bool c => rw [boolTokens_injective hts]

theorem Lists.unique {ts : List Token} {vs ws : List (String × Value)} (hvs : Lists rt ts vs)
    (hws : Lists rt ts ws) : vs = ws := by
  induction hvs generalizing ws with
  | nil =>
    cases hws
    rfl
  | last hv =>
    cases hws with
    | last hw => rw [hv.unique hw]
  | cons hv hrest ih =>
    cases hws with
    | cons hw hrest' => rw [hv.unique hw, ih hrest']

theorem objectTokens_inj {cls cls' : String} {entries entries' : List Token} :
    objectTokens rt cls entries = objectTokens rt cls' entries' ↔
      cls = cls' ∧ entries = entries' := by
  simp [objectTokens, List.append_assoc]

theorem Constructs.unique {h : Heap} {ts : List Token} {x y : ObjectRef × Heap}
    (hx : Constructs rt h ts x) (hy : Constructs rt h ts y) : x = y := by
  obtain @⟨⟨cls⟩, entries, values, hvalues⟩ := hx
  generalize hts : objectTokens rt _ entries = ts at hy
  obtain @⟨⟨cls'⟩, entries', values', hvalues'⟩ := hy
  obtain ⟨rfl, rfl⟩ := objectTokens_inj.mp hts
  rw [hvalues.unique hvalues']

theorem objectSource_eq (cls : ClassName) (fields : List (String × List Token)) :
    objectSource rt cls fields = objectTokens rt cls.path (commaSeparated (fields.map fun f =>
      [.group .paren (.string f.1 :: .mark ',' false :: f.2)])) := by
  simp only [objectSource, valueCall, inRuntime, objectTokens, pairsType, List.append_assoc]
  rfl

theorem lists_commaSeparated {fields : List (String × List Token)}
    {values : List (String × Value)}
    (h : List.Forall₂ (fun f v => f.1 = v.1 ∧ Stands rt f.2 v.2) fields values) :
    Lists rt (commaSeparated (fields.map fun f =>
      [.group .paren (.string f.1 :: .mark ',' false :: f.2)])) values := by
  induction h with
  | nil => exact .nil
  | @cons f v fields values hfirst hrest ih =>
    obtain ⟨name, ts⟩ := f
    obtain ⟨_, v⟩ := v
    obtain ⟨rfl, hv⟩ := hfirst
    cases fields with
    | nil =>
      cases hrest
      exact .last hv
    | cons f fields => exact .cons hv ih

end Memberwise.Source
