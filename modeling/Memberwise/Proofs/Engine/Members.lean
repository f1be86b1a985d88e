import Memberwise.Proofs.Engine.Answers

/-!
# Members of a synthesis

Each method of a synthesis is what the declaration alone determines for its member. A family that
is ready gets all of its members, in order and without exception.
-/

namespace Memberwise

theorem freshMember_member {c : ClassDecl} {member : Member} {x : Method}
    (h : freshMember c member = .ok x) : x.member = member := by
  unfold freshMember at h
  cases member with
  | equals | hash =>
    dsimp only at h
    split at h
    · cases h
      rfl
    · cases h
  | print =>
    dsimp only at h
    split at h
    · cases h
      rfl
    · cases h
  | setter param =>
    dsimp only at h
    split at h
    · cases h
    · split at h
      · cases h
      · rename_i slot hslot
        cases h
        have hparam := List.find?_some hslot
        exact congrArg Member.setter (of_decide_eq_true hparam)
  | build =>
    dsimp only at h
    split at h
    · cases h
    · cases h
      rfl

theorem freshMember_owner {c : ClassDecl} {member : Member} {x : Method}
    (h : freshMember c member = .ok x) (hm : member.family ≠ .building) : x.owner = c.name := by
  unfold freshMember at h
  cases member with
  | equals | hash | print =>
    dsimp only at h
    split at h
    · cases h
      rfl
    · cases h
  | setter _ | build => exact absurd rfl hm

theorem exists_plan_of_freshMember {c : ClassDecl} {member : Member} {x : Method}
    (h : freshMember c member = .ok x) (hm : member.family = .building) :
    ∃ plan, BuilderPlan.ofClass? c = some plan ∧ x.owner = plan.builder := by
  unfold freshMember at h
  cases member with
  | equals | hash | print => cases hm
  | setter param =>
    dsimp only at h
    split at h
    · cases h
    · rename_i plan hplan
      split at h
      · cases h
      · cases h
        exact ⟨plan, hplan, rfl⟩
  | build =>
    dsimp only at h
    split at h
    · cases h
    · rename_i plan hplan
      cases h
      exact ⟨plan, hplan, rfl⟩

theorem family_of_mem_membersOf {c : ClassDecl} {family : Family} {member : Member}
    (h : member ∈ membersOf c family) : member.family = family := by
  cases family with
  | equality =>
    rcases List.mem_cons.mp h with rfl | h
    · rfl
    · obtain rfl := List.mem_singleton.mp h
      rfl
  | printing =>
    obtain rfl := List.mem_singleton.mp h
    rfl
  | building =>
    rcases List.mem_append.mp h with h | h
    · obtain ⟨p, -, rfl⟩ := List.mem_map.mp h
      rfl
    · obtain rfl := List.mem_singleton.mp h
      rfl

theorem exists_of_mem_freshFamily {strictness : Strictness} {c : ClassDecl} {family : Family}
    {x : Method} (h : x ∈ freshFamily strictness c family) :
    x.member.family = family ∧ freshMember c x.member = .ok x := by
  unfold freshFamily at h
  split at h
  · obtain ⟨member, hmember, hx⟩ := List.mem_filterMap.mp h
    cases hfresh : freshMember c member with
    | error refusal =>
      rw [hfresh] at hx
      cases hx
    | ok y =>
      rw [hfresh] at hx
      cases hx
      rw [freshMember_member hfresh]
      exact ⟨family_of_mem_membersOf hmember, hfresh⟩
  · cases h

namespace ClassSynthesis

theorem exists_of_mem_fresh {strictness : Strictness} {c : ClassDecl} {x : Method}
    (h : x ∈ (fresh strictness c).methods) : freshMember c x.member = .ok x := by
  rcases List.mem_append.mp h with h | h
  · rcases List.mem_append.mp h with h | h
    · exact (exists_of_mem_freshFamily h).2
    · exact (exists_of_mem_freshFamily h).2
  · exact (exists_of_mem_freshFamily h).2

end ClassSynthesis

theorem filter_origin_freshFamily (strictness : Strictness) (c : ClassDecl)
    (family other : Family) :
    (freshFamily strictness c other).filter (·.origin = family) =
      if other = family then freshFamily strictness c other else [] := by
  have horigin (x : Method) (hx : x ∈ freshFamily strictness c other) : x.origin = other :=
    (exists_of_mem_freshFamily hx).1
  split
  · rename_i hother
    exact List.filter_eq_self.mpr fun x hx => decide_eq_true ((horigin x hx).trans hother)
  · rename_i hother
    refine List.filter_eq_nil_iff.mpr fun x hx => ?_
    rw [horigin x hx]
    simpa using hother

theorem filter_origin_fresh (strictness : Strictness) (c : ClassDecl) (family : Family) :
    (ClassSynthesis.fresh strictness c).methods.filter (·.origin = family) =
      freshFamily strictness c family := by
  simp only [ClassSynthesis.fresh, List.filter_append, filter_origin_freshFamily]
  cases family <;> simp

section Ready

variable {strictness : Strictness} {c : ClassDecl}

theorem exists_equality_of_ready
    (hready : (checkFamily c strictness .equality).isReady = true) :
    ∃ options, c.annotations.equality = some options := by
  cases hoptions : c.annotations.equality with
  | some options => exact ⟨options, rfl⟩
  | none =>
    rw [checkFamily, Readiness.checkEquality, hoptions] at hready
    cases hready

theorem exists_printing_of_ready
    (hready : (checkFamily c strictness .printing).isReady = true) :
    ∃ options, c.annotations.printing = some options := by
  cases hoptions : c.annotations.printing with
  | some options => exact ⟨options, rfl⟩
  | none =>
    rw [checkFamily, Readiness.checkPrinting, hoptions] at hready
    cases hready

theorem exists_builder_of_ready
    (hready : (checkFamily c strictness .building).isReady = true) :
    ∃ builder, c.builder = some builder := by
  cases hbuilder : c.builder with
  | some builder => exact ⟨builder, rfl⟩
  | none =>
    rw [checkFamily, Readiness.checkBuilding, hbuilder] at hready
    cases hbuildable : c.annotations.buildable <;> rw [hbuildable] at hready <;> cases hready

theorem exists_plan_of_ready
    (hready : (checkFamily c strictness .building).isReady = true) :
    ∃ plan, BuilderPlan.ofClass? c = some plan := by
  obtain ⟨builder, hbuilder⟩ := exists_builder_of_ready hready
  exact ⟨.ofParams c.name builder.name c.params, by rw [BuilderPlan.ofClass?, hbuilder]; rfl⟩

theorem slot?_eq_none_iff {plan : BuilderPlan} (hplan : BuilderPlan.ofClass? c = some plan)
    {param : String} : plan.slot? param = none ↔ ∀ p ∈ c.params, p.name ≠ param := by
  rw [BuilderPlan.ofClass?, Option.map_eq_some_iff] at hplan
  obtain ⟨builder, -, rfl⟩ := hplan
  rw [BuilderPlan.slot?, List.find?_eq_none]
  simp [BuilderPlan.ofParams, Slot.ofParameter]

theorem exists_freshMember_of_ready {family : Family}
    (hready : (checkFamily c strictness family).isReady = true) {member : Member}
    (hmember : member ∈ membersOf c family) : ∃ x, freshMember c member = .ok x := by
  cases family with
  | equality =>
    obtain ⟨options, hoptions⟩ := exists_equality_of_ready hready
    simp only [membersOf, List.mem_cons, List.not_mem_nil, or_false] at hmember
    rcases hmember with rfl | rfl <;>
      simp [freshMember, hoptions, ClassDecl.resolution?, InclusionPolicy.ofClass?]
  | printing =>
    obtain ⟨options, hoptions⟩ := exists_printing_of_ready hready
    obtain rfl := List.mem_singleton.mp hmember
    simp [freshMember, hoptions, ClassDecl.resolution?, InclusionPolicy.ofClass?]
  | building =>
    obtain ⟨plan, hplan⟩ := exists_plan_of_ready hready
    rcases List.mem_append.mp hmember with hsetter | hbuild
    · obtain ⟨p, hp, rfl⟩ := List.mem_map.mp hsetter
      cases hslot : plan.slot? p.name with
      | none => exact absurd rfl ((slot?_eq_none_iff hplan).mp hslot p hp)
      | some slot => simp [freshMember, hplan, hslot]
    · obtain rfl := List.mem_singleton.mp hbuild
      simp [freshMember, hplan]

theorem map_member_filterMap_fresh {members : List Member}
    (hall : ∀ member ∈ members, ∃ x, freshMember c member = .ok x) :
    (members.filterMap fun member => (freshMember c member).toOption).map (·.member) =
      members := by
  induction members with
  | nil => rfl
  | cons member members ih =>
    obtain ⟨x, hx⟩ := hall member List.mem_cons_self
    have hrest := ih fun other hother => hall other (List.mem_cons_of_mem _ hother)
    rw [List.filterMap_cons, hx]
    change x.member :: _ = _
    rw [freshMember_member hx, hrest]

theorem map_member_freshFamily (strictness : Strictness) (c : ClassDecl) (family : Family) :
    (freshFamily strictness c family).map (·.member) =
      if (checkFamily c strictness family).isReady then membersOf c family else [] := by
  unfold freshFamily
  split
  · rename_i hready
    exact map_member_filterMap_fresh fun member hmember =>
      exists_freshMember_of_ready hready hmember
  · rfl

end Ready

theorem mem_membersOf_of_freshMember {c : ClassDecl} {member : Member} {x : Method}
    (h : freshMember c member = .ok x) : member ∈ membersOf c member.family := by
  cases member with
  | equals | hash | print => simp [Member.family, membersOf]
  | build => simp [Member.family, membersOf]
  | setter param =>
    unfold freshMember at h
    cases hplan : BuilderPlan.ofClass? c with
    | none =>
      rw [hplan] at h
      cases h
    | some plan =>
      have hslot : plan.slot? param ≠ none := by
        intro hnone
        simp only [hplan, hnone] at h
        cases h
      rw [ne_eq, slot?_eq_none_iff hplan] at hslot
      simp only [ne_eq, Classical.not_forall, Classical.not_not] at hslot
      obtain ⟨p, hp, rfl⟩ := hslot
      exact List.mem_append_left _ (List.mem_map_of_mem hp)

end Memberwise
