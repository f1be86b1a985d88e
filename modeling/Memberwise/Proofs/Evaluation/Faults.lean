import Memberwise.Proofs.Evaluation.Members

/-!
# Which faults the object methods can end in

Nothing goes wrong in a body that was made for a class except that a property is read on an instance
where it is unset. In equality and hash that can only be a property with a plain field, since reads
of deferred properties are guarded.
-/

namespace Memberwise

open Eval

namespace ClassDecl

variable {c : ClassDecl} {family : Family} {q : Participant}

theorem exists_policy_of_mem_participants (hq : q ∈ c.participants family) :
    ∃ policy, InclusionPolicy.ofClass? c family = some policy ∧
      policy.decide q.property = .included q.label := by
  rw [participants, resolution?] at hq
  cases hpolicy : InclusionPolicy.ofClass? c family with
  | none => simp [hpolicy] at hq
  | some policy =>
    refine ⟨policy, rfl, ?_⟩
    simp only [hpolicy, Option.map_some, Option.getD_some, Resolution.compute,
      List.mem_filterMap] at hq
    obtain ⟨p, -, hp⟩ := hq
    unfold Resolution.participant? at hp
    split at hp
    · rename_i label hlabel
      cases hp
      exact hlabel
    · cases hp

end ClassDecl

theorem InclusionPolicy.storage_of_decideEquality {policy : InclusionPolicy} {p : Property}
    {label : String} (hp : policy.decideEquality p = .included label) : p.storage ≠ .computed := by
  intro hcomputed
  unfold decideEquality at hp
  dsimp only at hp
  rw [if_pos hcomputed] at hp
  split at hp
  · cases hp
  · split at hp <;> cases hp

/-- A computed property never takes part in equality. -/
theorem TakesPart.storage_ne {ss : List ClassSynthesis} {cls : ClassName} {p : Property}
    (hp : TakesPart ss .equality cls p) : p.storage ≠ .computed := by
  obtain ⟨c, -, -, q, hq, rfl⟩ := hp
  obtain ⟨policy, hpolicy, hdecide⟩ := ClassDecl.exists_policy_of_mem_participants hq
  obtain ⟨options, -, rfl⟩ := Option.map_eq_some_iff.mp hpolicy
  exact InclusionPolicy.storage_of_decideEquality hdecide

namespace Heap

variable {h : Heap} {r : ObjectRef} {p : Property} {fault : Fault}

theorem look_printing_error (hlook : h.look .printing r p = .error fault) :
    h.get? r p.name = none ∧ fault = .uninitialized r.cls p.name := by
  change h.read r p.name = .error fault at hlook
  rw [read] at hlook
  split at hlook
  · cases hlook
  · cases hlook
    exact ⟨‹_›, rfl⟩

theorem look_equality_error (hlook : h.look .equality r p = .error fault) :
    p.isDeferred = false ∧ h.get? r p.name = none ∧ fault = .uninitialized r.cls p.name := by
  change h.guarded r p = .error fault at hlook
  rw [guarded] at hlook
  split at hlook
  · cases hlook
  · split at hlook
    · cases hlook
    · rename_i hnone hdeferred
      cases hlook
      exact ⟨by simpa using hdeferred, hnone, rfl⟩

end Heap

section Reads

variable (ss : List ClassSynthesis) (family : Family) (h : Heap) (objects : Set ObjectRef)

/-- The faults in which the family's reads of properties end on these objects. -/
def readFaults : Set Fault :=
  {fault | ∃ r ∈ objects, ∃ p, TakesPart ss family r.cls p ∧ h.look family r p = .error fault}

variable {ss family h objects}

theorem SteadyReads.of_closed (hclosed : h.Closed objects) :
    SteadyReads ss family h h objects
      (insert .tooDeep (Halt.fault '' readFaults ss family h objects)) where
  closed := hclosed
  read {r p} hr hp := by
    refine .read rfl fun fault hfault => .inr ?_
    exact Set.mem_image_of_mem _ ⟨r, hr, p, hp, hfault⟩

/-- With the bound among the allowed reasons any depth will do. -/
theorem Suffices.of_tooDeep {member : Member} {allowed : Set Halt}
    (htooDeep : .tooDeep ∈ allowed) : Suffices ss member h allowed fun _ _ _ => True where
  zero _ := htooDeep
  above _ _ := trivial
  below _ _ := trivial

end Reads

namespace IsProgram

variable {ss : List ClassSynthesis} (hss : IsProgram ss) {h : Heap} {objects : Set ObjectRef}

include hss

theorem mem_readFaults {member : Member} {α : Type}
    {ask : Call → Option ClassName → ObjectRef → Value → Eval α}
    {via : Call → Value → Value → Eval α} (hq : Inquiry ss member ask via)
    (hclosed : h.Closed objects) {v w : Value} (hv : v.Within objects) (hw : w.Within objects)
    {fault : Fault}
    (hfault : Yields (fun depth => via ((Machine.holding ss).invoke depth) v w) h (.error fault)) :
    fault ∈ readFaults ss member.family h objects := by
  have hmem := fault_mem_of_steady (fun depth => hq.steady_via hss (.of_closed hclosed)
    (.of_tooDeep (Set.mem_insert _ _)) hv hw fun _ _ => trivial) hfault
  rcases hmem with hmem | ⟨_, hmem, heq⟩
  · cases hmem
  · cases heq
    exact hmem

/-- Equality and hash end in no fault but that an instance lacks a property with a plain field that
takes part, and the printed form in none but that it lacks one that is shown. -/
theorem fault_of_unset (hclosed : h.Closed objects) {a b : Value} (ha : a.Within objects)
    (hb : b.Within objects) {fault : Fault} :
    let m := Machine.holding ss
    (Yields (m.equals · a b) h (.error fault) ∨ Yields (m.hash · a) h (.error fault) →
      ∃ r ∈ objects, ∃ p, TakesPart ss .equality r.cls p ∧ p.storage = .backed ∧
        h.get? r p.name = none ∧ fault = .uninitialized r.cls p.name) ∧
    (Yields (m.print · a) h (.error fault) →
      ∃ r ∈ objects, ∃ p, TakesPart ss .printing r.cls p ∧
        h.get? r p.name = none ∧ fault = .uninitialized r.cls p.name) := by
  constructor
  · intro hfault
    have hread : fault ∈ readFaults ss .equality h objects := by
      rcases hfault with hfault | hfault
      · exact hss.mem_readFaults equals_inquiry hclosed ha hb hfault
      · exact hss.mem_readFaults hash_inquiry hclosed ha ha hfault
    obtain ⟨r, hr, p, hp, hlook⟩ := hread
    obtain ⟨hdeferred, hunset, hfault⟩ := Heap.look_equality_error hlook
    have hbacked : p.storage = .backed := by
      have hcomputed := hp.storage_ne
      unfold Property.isDeferred at hdeferred
      cases hstorage : p.storage <;> simp_all
    exact ⟨r, hr, p, hp, hbacked, hunset, hfault⟩
  · intro hfault
    obtain ⟨r, hr, p, hp, hlook⟩ :=
      hss.mem_readFaults hss.print_inquiry hclosed ha ha hfault
    exact ⟨r, hr, p, hp, Heap.look_printing_error hlook⟩

end IsProgram

namespace Route

def place : ClassDecl := .empty ⟨"Place"⟩ .plain

/-- The platform is assigned later and counts all the same; the note never does. -/
def stop : ClassDecl :=
  { ClassDecl.empty ⟨"Stop"⟩ .plain with
    superclass := some place.name,
    properties :=
      [.ofBody "name" .string, .ofBody "next" (.orNull "Stop"), .deferred "platform" .int,
        { Property.ofBody "note" .string with equality := .excluding, printing := .excluding }],
    annotations := ⟨some ⟨false, false, true, true⟩, some default, false⟩ }

def terminus : ClassDecl :=
  { ClassDecl.empty ⟨"Terminus"⟩ .plain with
    superclass := some place.name,
    properties := [.ofBody "loop" (.orNull "Terminus"), .ofBody "name" .string],
    annotations := ⟨some ⟨false, true, false, false⟩, some ⟨false, true, false⟩, false⟩ }

def program : List ClassSynthesis :=
  [stop, place, terminus].map fun c => ((Engine.new .standard).synthesizeClass c).1

theorem isProgram : IsProgram program := .of_nodup .standard (by decide)

def last : ObjectRef := ⟨1, stop.name⟩

def first : ObjectRef := ⟨2, stop.name⟩

def nameless : ObjectRef := ⟨3, stop.name⟩

def objects : List ObjectRef := [last, first, nameless]

def heap : Heap :=
  ⟨[.object (.ofList [("name", .text "Zoo"), ("next", .null), ("note", .text "lit")]),
    .object (.ofList [("name", .text "Mill"), ("next", .object last), ("platform", .int 2)]),
    .object (.ofList [("next", .object last), ("platform", .int 2)])]⟩

theorem closed : heap.Closed {r | r ∈ objects} := Heap.closed_of_closedOn (by decide)

theorem within_object {r : ObjectRef} (hr : r ∈ objects) :
    (Value.object r).Within {r | r ∈ objects} := by
  rintro _ ⟨⟩
  exact hr

end Route

/-- A stop without a name cannot be compared with another one, and one without a platform cannot be
shown. -/
theorem IsProgram.fault_of_unset_route :
    (∃ r ∈ Route.objects, ∃ p, TakesPart Route.program .equality r.cls p ∧ p.storage = .backed ∧
        Route.heap.get? r p.name = none ∧
        Fault.uninitialized Route.stop.name "name" = .uninitialized r.cls p.name) ∧
      ∃ r ∈ Route.objects, ∃ p, TakesPart Route.program .printing r.cls p ∧
        Route.heap.get? r p.name = none ∧
        Fault.uninitialized Route.stop.name "platform" = .uninitialized r.cls p.name := by
  have hfirst := Route.within_object (r := Route.first) (by decide)
  have hnameless := Route.within_object (r := Route.nameless) (by decide)
  constructor
  · refine (Route.isProgram.fault_of_unset Route.closed hfirst hnameless).1 (.inl ?_)
    exact ⟨Route.heap, 2, rfl⟩
  · refine (Route.isProgram.fault_of_unset Route.closed hfirst hnameless).2 ?_
    exact ⟨Route.heap, 3, rfl⟩

end Memberwise
