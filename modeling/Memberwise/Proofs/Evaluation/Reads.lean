import Memberwise.Proofs.Machine.Dispatch
import Memberwise.Proofs.Printing.Bodies

/-!
# What bodies read

The names of properties that stand in a body. In the bodies of object methods these are the
properties that take part, no more and no fewer, so that the installed bodies tell which properties
matter for the instances of a class.
-/

namespace Memberwise

namespace Expr

mutual

def reads : Expr → List String
  | .property receiver name _ => name :: reads receiver
  | .guardedProperty receiver name _ fallback => name :: (reads receiver ++ reads fallback)
  | .superCall _ _ args => readsAll args
  | .not e | .isNull e | .isInstance e _ | .cast e _ | .hashOf e _ | .stringify e => reads e
  | .sameRef a b | .valueEq a b | .add a b | .mul a b => reads a ++ reads b
  | .concat parts => readsAll parts
  | .cond c a b => reads c ++ (reads a ++ reads b)
  | .new _ args => readsFields args
  | .null | .bool _ | .int _ | .text _ | .this | .param _ | .local _ | .defaultOf _ _ => []
termination_by structural e => e

def readsAll : List Expr → List String
  | [] => []
  | e :: es => reads e ++ readsAll es
termination_by structural es => es

def readsFields : List (String × Expr) → List String
  | [] => []
  | (_, e) :: es => reads e ++ readsFields es
termination_by structural es => es

end

theorem readsAll_append (es es' : List Expr) :
    readsAll (es ++ es') = readsAll es ++ readsAll es' := by
  induction es with
  | nil => rfl
  | cons e es ih => rw [List.cons_append, readsAll, readsAll, ih, List.append_assoc]

end Expr

def Stmt.reads : Stmt → List String
  | .let_ _ e | .assign _ e | .throwIf e _ | .return_ e => e.reads
  | .setField a _ b | .ifReturn a b => a.reads ++ b.reads

def Body.reads (body : Body) : List String := body.stmts.flatMap Stmt.reads

namespace Synthesis

theorem reads_guardedRead (receiver : Expr) (hreceiver : receiver.reads = []) (p : Property)
    (useFields : Bool) : (guardedRead receiver p useFields).reads = [p.name] := by
  unfold guardedRead read
  split <;> simp only [Expr.reads, hreceiver, List.append_nil]

theorem reads_compareStmt (useFields : Bool) (p : Property) :
    (compareStmt useFields p).reads = [p.name, p.name] := by
  have hthis := reads_guardedRead .this rfl p useFields
  have hthat := reads_guardedRead (.local castLocal) rfl p useFields
  simp only [compareStmt, Stmt.reads, Expr.reads, hthis, hthat]
  rfl

theorem reads_hashStep (useFields : Bool) (p : Property) :
    (hashStep useFields p).reads = [p.name] := by
  have hthis := reads_guardedRead .this rfl p useFields
  simp only [hashStep, Stmt.reads, Expr.reads, hthis]
  rfl

variable (cls : ClassName) (superclass : Option ClassName) (ps : List Participant)

theorem reads_equals (options : EqualityOptions) :
    (equals cls superclass options ps).body.reads =
      ps.flatMap fun p => [p.property.name, p.property.name] := by
  change (equalsStmts cls superclass options ps).flatMap Stmt.reads = _
  have hsuper : (if options.callSuper then [askSuper superclass] else []).flatMap Stmt.reads =
      [] := by
    split <;> rfl
  rw [equalsStmts, List.flatMap_append, List.flatMap_append, List.flatMap_append, hsuper,
    List.flatMap_map]
  simp only [reads_compareStmt]
  exact List.append_nil _

theorem reads_hash (options : EqualityOptions) :
    (hash cls superclass options ps).body.reads = ps.map (·.property.name) := by
  change (hashStmts superclass options ps).flatMap Stmt.reads = _
  have hstart : (hashStart superclass options).reads = [] := by
    unfold hashStart
    split <;> rfl
  unfold hashStmts
  split
  · rename_i hempty
    rw [List.isEmpty_iff.mp hempty, List.flatMap_singleton]
    exact hstart
  · rw [List.flatMap_append, List.flatMap_append, List.flatMap_map, List.flatMap_singleton]
    simp only [reads_hashStep, List.flatMap_singleton]
    rw [Stmt.reads, hstart, List.map_eq_flatMap]
    exact List.append_nil _

theorem reads_print (options : PrintingOptions) :
    (print cls superclass options ps).body.reads = ps.map (·.property.name) := by
  have hsuper : (if options.callSuper then
      [("super", Expr.superCall superclass .print [])] else []).flatMap
      (fun s => Expr.readsAll [.stringify s.2]) = [] := by
    split <;> rfl
  change (Expr.concat (joinParts _)).reads ++ [] = _
  rw [List.append_nil, Expr.reads, collect_printParts Expr.readsAll_append (fun _ => rfl), segments,
    List.flatMap_append, hsuper, List.flatMap_map, List.map_eq_flatMap]
  rfl

end Synthesis

/-- The body of an object method reads the properties that take part. -/
theorem mem_reads_iff {member : Member} (hmember : member.family ≠ .building) {c : ClassDecl}
    {x : Method} (hx : freshMember c member = .ok x) {name : String} :
    name ∈ x.body.reads ↔ ∃ q ∈ c.participants member.family, q.property.name = name := by
  cases member with
  | equals =>
    obtain ⟨options, -, rfl⟩ := ClassDecl.exists_of_freshMember_equality rfl hx
    rw [if_pos rfl, ClassDecl.equalsMethod, Synthesis.reads_equals]
    simp [Member.family, eq_comm]
  | hash =>
    obtain ⟨options, -, rfl⟩ := ClassDecl.exists_of_freshMember_equality rfl hx
    rw [if_neg (by decide), ClassDecl.hashMethod, Synthesis.reads_hash, List.mem_map]
    rfl
  | print =>
    obtain ⟨options, -, rfl⟩ := ClassDecl.exists_of_freshMember_print hx
    rw [ClassDecl.printMethod, Synthesis.reads_print, List.mem_map]
    rfl
  | setter _ | build => exact absurd rfl hmember

def Machine.readsFrom (m : Machine) (cls : ClassName) (member : Member) : List String :=
  (m.ancestry cls).flatMap fun c => ((m.bodies.get? (c, member)).map Body.reads).getD []

namespace IsProgram

variable {ss : List ClassSynthesis} (hss : IsProgram ss)

include hss

theorem mem_readsFrom_iff {member : Member} (hmember : member.family ≠ .building)
    {cls : ClassName} {name : String} :
    name ∈ (Machine.holding ss).readsFrom cls member ↔
      ∃ p, TakesPart ss member.family cls p ∧ p.name = name := by
  rw [Machine.readsFrom, List.mem_flatMap]
  constructor
  · rintro ⟨cls', habove, hname⟩
    cases hbody : (Machine.holding ss).bodies.get? (cls', member) with
    | none => simp [hbody] at hname
    | some body =>
      obtain ⟨c, rfl, hready, -, x, hx, rfl⟩ := hss.exists_of_get?_bodies hmember hbody
      rw [hbody] at hname
      obtain ⟨q, hq, rfl⟩ := (mem_reads_iff hmember hx).mp hname
      have hinstance := (Machine.mem_ancestry_iff_isSubclass _).mp habove
      exact ⟨q.property, ⟨c, hready, hinstance, q, hq, rfl⟩, rfl⟩
  · rintro ⟨_, ⟨c, hready, habove, q, hq, rfl⟩, rfl⟩
    obtain ⟨x, hx, hbody⟩ := hss.get?_bodies_of_ready hmember hready
    refine ⟨c.name, (Machine.mem_ancestry_iff_isSubclass _).mpr habove, ?_⟩
    rw [hbody]
    exact (mem_reads_iff hmember hx).mpr ⟨q, hq, rfl⟩

end IsProgram

end Memberwise
