import Memberwise.Proofs.Building.Run

/-!
# Names in a builder

A builder stores each parameter under the name of the parameter, and a flag under that name with an
ending. The methods of a builder are called like the parameters, and `build`. None of this is looked
at when a class is checked for building.
-/

namespace Memberwise

open Eval

theorem mem_storage_iff {p : Parameter} {name : String} :
    name ∈ (Slot.ofParameter p).storage ↔
      name = p.name ∨ (Slot.ofParameter p).flagSlot = some name := by
  simp [Slot.storage]

theorem flagSlot_eq {p : Parameter} {name : String}
    (hflag : (Slot.ofParameter p).flagSlot = some name) : name = p.name ++ "Set" := by
  unfold Slot.ofParameter at hflag
  dsimp only at hflag
  split at hflag
  · cases hflag
    rfl
  · cases hflag

/-- No two parameters share a name, and none is called like the flag of another. -/
structure Separate (params : List Parameter) : Prop where
  names : (params.map (·.name)).Nodup
  flags : ∀ p ∈ params, ∀ q ∈ params, (Slot.ofParameter p).flagSlot ≠ some q.name

theorem Separate.disjoint {params : List Parameter} (hparams : Separate params) {p q : Parameter}
    (hp : p ∈ params) (hq : q ∈ params) (hne : p.name ≠ q.name) :
    List.Disjoint (Slot.ofParameter p).storage (Slot.ofParameter q).storage := by
  intro name hnp hnq
  rcases mem_storage_iff.mp hnp with rfl | hflag
  · rcases mem_storage_iff.mp hnq with hname | hflag
    · exact hne hname
    · exact hparams.flags q hq p hp hflag
  · rcases mem_storage_iff.mp hnq with rfl | hflag'
    · exact hparams.flags p hp q hq hflag
    · have hboth := (flagSlot_eq hflag).symm.trans (flagSlot_eq hflag')
      exact hne ((String.append_left_inj "Set").mp hboth)

theorem nodup_storage_iff {params : List Parameter} :
    (params.flatMap fun p => (Slot.ofParameter p).storage).Nodup ↔ Separate params := by
  constructor
  · intro hstorage
    refine ⟨nodup_names hstorage, ?_⟩
    intro p hp q hq hflag
    have hmem := mem_storage_iff.mpr (.inr hflag)
    by_cases hpq : p = q
    · subst hpq
      have hself := (List.nodup_flatMap.mp hstorage).1 p hp
      rw [Slot.storage, hflag] at hself
      simp at hself
    · exact disjoint_storage hstorage hp hq hpq hmem q.name_mem_storage
  · intro hparams
    refine List.nodup_flatMap.mpr ⟨?_, ?_⟩
    · intro p hp
      rw [Slot.storage, List.nodup_cons]
      refine ⟨?_, by cases (Slot.ofParameter p).flagSlot <;> simp⟩
      rw [Option.mem_toList]
      exact hparams.flags p hp p hp
    · have hnames := hparams.names
      rw [List.nodup_iff_pairwise_ne, List.pairwise_map] at hnames
      exact hnames.imp_of_mem fun hp hq hne => hparams.disjoint hp hq hne

theorem nodup_methodName_iff {c : ClassDecl} :
    ((membersOf c .building).map (·.methodName)).Nodup ↔
      (c.params.map (·.name)).Nodup ∧ buildMethod ∉ c.params.map (·.name) := by
  have hnames : (membersOf c .building).map (·.methodName) =
      c.params.map (·.name) ++ [buildMethod] := by
    rw [membersOf, List.map_append, List.map_map]
    rfl
  rw [hnames, List.nodup_append_comm, List.singleton_append, List.nodup_cons, and_comm]

/-- A class that is ready gets a setter for each parameter and `build`. -/
theorem map_member_of_ready {c : ClassDecl} {strictness : Strictness}
    (hready : (checkFamily c strictness .building).isReady = true) :
    ((ClassSynthesis.fresh strictness c).methods.filter (·.origin = .building)).map (·.member) =
      membersOf c .building := by
  rw [filter_origin_fresh, map_member_freshFamily, if_pos hready]

/-- When a builder that is ready has no two things of one name. -/
theorem Engine.Reachable.separate_iff {e : Engine} (he : e.Reachable) {c : ClassDecl}
    (hready : (e.check c .building).isReady = true) :
    ∃ plan, BuilderPlan.ofClass? c = some plan ∧
      ((plan.storage.Nodup ∧
          (((e.synthesizeClass c).1.methods.filter (·.origin = .building)).map
            (·.member.methodName)).Nodup) ↔
        Separate c.params ∧ buildMethod ∉ c.params.map (·.name)) := by
  obtain ⟨builder, hbuilder⟩ := exists_builder_of_ready hready
  have hplan : BuilderPlan.ofClass? c = some (.ofParams c.name builder.name c.params) := by
    rw [BuilderPlan.ofClass?, hbuilder]
    rfl
  refine ⟨_, hplan, ?_⟩
  have hnames : ((ClassSynthesis.fresh e.strictness c).methods.filter
        (·.origin = .building)).map (·.member.methodName) =
      (membersOf c .building).map (·.methodName) := by
    rw [← map_member_of_ready hready, List.map_map]
    rfl
  rw [he.synthesizeClass_fst, hnames, BuilderPlan.storage_ofParams, nodup_storage_iff,
    nodup_methodName_iff]
  constructor
  · rintro ⟨hparams, -, hbuild⟩
    exact ⟨hparams, hbuild⟩
  · rintro ⟨hparams, hbuild⟩
    exact ⟨hparams, hparams.names, hbuild⟩

theorem Engine.Reachable.separate_iff_pet :
    Pet.plan.storage.Nodup ∧
      ((((Engine.new .standard).synthesizeClass Pet.cls).1.methods.filter
        (·.origin = .building)).map (·.member.methodName)).Nodup := by
  have hready : ((Engine.new .standard).check Pet.cls .building).isReady = true := by decide
  obtain ⟨plan, hplan, hiff⟩ := (Engine.Reachable.new .standard).separate_iff hready
  obtain rfl : Pet.plan = plan := Option.some.inj hplan
  exact hiff.mpr ⟨⟨by decide, by decide⟩, by decide⟩

namespace Clash

def age : Parameter := ⟨"age", .orNull "Int", some (.literal (.int 10)), .unknown⟩

def ageSet : Parameter := ⟨"ageSet", .string, none, .unknown⟩

def cls : ClassDecl := .withBuilder ⟨"Clash"⟩ [age, ageSet]

def plan : BuilderPlan := .ofParams cls.name (cls.name.nested "Builder") cls.params

end Clash

/-- The class is ready, but its flag and its second slot are one. -/
theorem not_separate_clash :
    (∀ strictness, (checkFamily Clash.cls strictness .building).isReady = true) ∧
      BuilderPlan.ofClass? Clash.cls = some Clash.plan ∧ ¬ Clash.plan.storage.Nodup ∧
      ∃ h', Ends (((Machine.new .identity).installAll
            ((Engine.new .standard).synthesizeClass Clash.cls).1).callSetters ·
          (Heap.empty.newBuilder Clash.plan).1 [("ageSet", .text "x"), ("age", .int 5)])
            (Heap.empty.newBuilder Clash.plan).2
          (.ok (List.replicate 2 (.object (Heap.empty.newBuilder Clash.plan).1))) h' ∧
        h'.get? (Heap.empty.newBuilder Clash.plan).1 "ageSet" = some (.bool true) := by
  refine ⟨?_, by decide, by decide, _, ⟨1, rfl⟩, by decide⟩
  intro strictness
  cases strictness <;> decide

end Memberwise
