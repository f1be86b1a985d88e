import Memberwise.Proofs.Engine.History
import Memberwise.Proofs.Engine.Members
import Memberwise.Proofs.Readiness.Reports

/-!
# What an engine says of one class

An engine is asked for names, single members, a whole class, a plan or diagnostics, and checks the
families anew each time. All of these answers come down to one condition on a member: its family is
ready and lists it.
-/

namespace Memberwise

def Offered (strictness : Strictness) (c : ClassDecl) (member : Member) : Prop :=
  (checkFamily c strictness member.family).isReady = true ∧ member ∈ membersOf c member.family

section Offered

variable {strictness : Strictness} {c : ClassDecl} {member : Member}

theorem offered_iff_exists : Offered strictness c member ↔
    ∃ family, (checkFamily c strictness family).isReady = true ∧ member ∈ membersOf c family := by
  constructor
  · rintro ⟨hready, hmember⟩
    exact ⟨member.family, hready, hmember⟩
  · rintro ⟨family, hready, hmember⟩
    obtain rfl := family_of_mem_membersOf hmember
    exact ⟨hready, hmember⟩

theorem mem_names_iff {e : Engine} : member ∈ e.names c ↔ Offered e.strictness c member := by
  rw [offered_iff_exists, Engine.names, List.mem_mergeSort, List.mem_eraseDups, List.mem_flatMap]
  simp only [List.mem_filter, Family.mem_all, true_and]
  rfl

theorem map_member_fresh (strictness : Strictness) (c : ClassDecl) :
    (ClassSynthesis.fresh strictness c).methods.map (·.member) =
      (if (checkFamily c strictness .equality).isReady then [.equals, .hash] else []) ++
        (if (checkFamily c strictness .printing).isReady then [.print] else []) ++
        (if (checkFamily c strictness .building).isReady then
          c.params.map (fun p => .setter p.name) ++ [.build]
        else []) := by
  rw [ClassSynthesis.fresh, List.map_append, List.map_append, map_member_freshFamily,
    map_member_freshFamily, map_member_freshFamily]
  rfl

theorem mem_fresh_iff {x : Method} : x ∈ (ClassSynthesis.fresh strictness c).methods ↔
    ∃ family, x ∈ freshFamily strictness c family := by
  rw [ClassSynthesis.fresh, List.mem_append, List.mem_append]
  constructor
  · rintro ((h | h) | h)
    · exact ⟨_, h⟩
    · exact ⟨_, h⟩
    · exact ⟨_, h⟩
  · rintro ⟨family, h⟩
    cases family with
    | equality => exact .inl (.inl h)
    | printing => exact .inl (.inr h)
    | building => exact .inr h

theorem exists_method_iff :
    (∃ x ∈ (ClassSynthesis.fresh strictness c).methods, x.member = member) ↔
      Offered strictness c member := by
  rw [offered_iff_exists]
  have hfamily (family : Family) : (∃ x ∈ freshFamily strictness c family, x.member = member) ↔
      (checkFamily c strictness family).isReady = true ∧ member ∈ membersOf c family := by
    rw [← List.mem_map, map_member_freshFamily]
    split
    · rename_i hready
      simp [hready]
    · rename_i hready
      simp [hready]
  constructor
  · rintro ⟨x, hx, hmember⟩
    obtain ⟨family, hx⟩ := mem_fresh_iff.mp hx
    exact ⟨family, (hfamily family).mp ⟨x, hx, hmember⟩⟩
  · rintro ⟨family, hoffered⟩
    obtain ⟨x, hx, hmember⟩ := (hfamily family).mpr hoffered
    exact ⟨x, mem_fresh_iff.mpr ⟨family, hx⟩, hmember⟩

theorem refusal?_eq_none_iff {r : Report} {cls : ClassName} :
    r.refusal? cls = none ↔ r.isReady = true := by
  unfold Report.refusal? Report.isReady
  cases r.verdict <;> simp

theorem freshAnswer_of_ready (hready : (checkFamily c strictness member.family).isReady = true) :
    freshAnswer strictness c member = freshMember c member := by
  rw [freshAnswer, refusal?_eq_none_iff.mpr hready]

theorem exists_freshAnswer_iff :
    (∃ x, freshAnswer strictness c member = .ok x) ↔ Offered strictness c member := by
  constructor
  · rintro ⟨x, hx⟩
    cases hrefusal : (checkFamily c strictness member.family).refusal? c.name with
    | some refusal =>
      rw [freshAnswer, hrefusal] at hx
      cases hx
    | none =>
      rw [refusal?_eq_none_iff] at hrefusal
      rw [freshAnswer_of_ready hrefusal] at hx
      exact ⟨hrefusal, mem_membersOf_of_freshMember hx⟩
  · rintro ⟨hready, hmember⟩
    rw [freshAnswer_of_ready hready]
    exact exists_freshMember_of_ready hready hmember

theorem freshAnswer_of_mem_fresh {x : Method}
    (hx : x ∈ (ClassSynthesis.fresh strictness c).methods) :
    freshAnswer strictness c x.member = .ok x := by
  have hoffered : Offered strictness c x.member := exists_method_iff.mp ⟨x, hx, rfl⟩
  rw [freshAnswer_of_ready hoffered.1]
  exact ClassSynthesis.exists_of_mem_fresh hx

end Offered

/-- The refusal is the one that the verdict calls for, with all that was reported. Where the family
is ready, that is a setter of no parameter. -/
def Report.Refuses (r : Report) (c : ClassDecl) (member : Member) (refusal : Refusal) : Prop :=
  match r.verdict with
  | .notRequested => r.diagnostics = [] ∧ refusal = .notRequested c.name member.family
  | .skipped => refusal = .skipped c.name member.family r.diagnostics
  | .rejected => refusal = .rejected c.name member.family r.diagnostics
  | .ready =>
    refusal = .unknownMember c.name member ∧
      ∃ param, member = .setter param ∧ ∀ p ∈ c.params, p.name ≠ param

section Refuses

variable {strictness : Strictness} {c : ClassDecl} {member : Member} {refusal : Refusal}

theorem freshMember_eq_error_iff
    (hready : (checkFamily c strictness member.family).isReady = true) :
    freshMember c member = .error refusal ↔
      refusal = .unknownMember c.name member ∧
        ∃ param, member = .setter param ∧ ∀ p ∈ c.params, p.name ≠ param := by
  have hlisted (hmember : member ∈ membersOf c member.family) :
      freshMember c member ≠ .error refusal := by
    obtain ⟨x, hx⟩ := exists_freshMember_of_ready hready hmember
    rw [hx]
    exact nofun
  cases member with
  | equals | hash | print | build =>
    refine iff_of_false (hlisted (by simp [Member.family, membersOf])) ?_
    rintro ⟨-, param, hmember, -⟩
    cases hmember
  | setter param =>
    obtain ⟨plan, hplan⟩ := exists_plan_of_ready hready
    cases hslot : plan.slot? param with
    | none =>
      have hnone := (slot?_eq_none_iff hplan).mp hslot
      simp only [freshMember, hplan, hslot, Except.error.injEq]
      constructor
      · rintro rfl
        exact ⟨rfl, param, rfl, hnone⟩
      · rintro ⟨rfl, -⟩
        rfl
    | some slot =>
      refine iff_of_false (by simp [freshMember, hplan, hslot]) ?_
      rintro ⟨-, _, ⟨⟩, hnone⟩
      rw [(slot?_eq_none_iff hplan).mpr hnone] at hslot
      cases hslot

theorem freshAnswer_eq_error_iff :
    freshAnswer strictness c member = .error refusal ↔
      (checkFamily c strictness member.family).Refuses c member refusal := by
  have hcoherent := coherent_checkFamily c strictness member.family
  unfold Report.Refuses
  cases hverdict : (checkFamily c strictness member.family).verdict with
  | notRequested =>
    simp [freshAnswer, Report.refusal?, hverdict, hcoherent.family_eq,
      hcoherent.silent hverdict, eq_comm]
  | skipped | rejected =>
    simp [freshAnswer, Report.refusal?, hverdict, hcoherent.family_eq, eq_comm]
  | ready =>
    have hready : (checkFamily c strictness member.family).isReady = true := decide_eq_true hverdict
    rw [freshAnswer_of_ready hready]
    exact freshMember_eq_error_iff hready

end Refuses

namespace Tracked

variable {α β : Type}

/-- From a sound cache, `x` reports no refusal. -/
def Unrefused (x : Tracked α) : Prop :=
  ∀ t, t.cache.Sound → ∀ refusal, .refused refusal ∈ (x t).2.events → .refused refusal ∈ t.events

theorem Unrefused.pure (a : α) : Unrefused (pure a) := fun _ _ _ h => h

theorem Unrefused.bind {x : Tracked α} {f : α → Tracked β} {a : α} (hx : Unrefused x)
    (hgives : Gives x a) (hf : Unrefused (f a)) : Unrefused (x >>= f) := by
  intro t ht refusal hmem
  obtain ⟨ha, ht'⟩ := hgives t ht
  subst ha
  exact hx t ht refusal (hf (x t).2 ht' refusal hmem)

theorem Unrefused.foldlM {f : β → α → Tracked β} {g : β → α → β} (hf : ∀ b a, Unrefused (f b a))
    (hgives : ∀ b a, Gives (f b a) (g b a)) (as : List α) (b : β) : Unrefused (as.foldlM f b) := by
  induction as generalizing b with
  | nil => exact .pure b
  | cons a as ih =>
    rw [List.foldlM_cons]
    exact (hf b a).bind (hgives b a) (ih (g b a))

theorem Unrefused.note {events : List Event} (hevents : ∀ refusal, .refused refusal ∉ events) :
    Unrefused (note events) := by
  intro t _ refusal hmem
  rcases List.mem_append.mp hmem with hmem | hmem
  · exact hmem
  · exact absurd hmem (hevents refusal)

theorem refused_notMem_resolve (cache : Cache) (c : ClassDecl) (family : Family)
    (refusal : Refusal) : .refused refusal ∉ (cache.resolve c family).2.2 := by
  unfold Cache.resolve
  cases InclusionPolicy.ofClass? c family with
  | none => simp
  | some policy =>
    dsimp only
    unfold Cache.lookup
    split
    · simp [Cache.resolvedEvent]
    · split <;> simp [Cache.resolvedEvent]

theorem Unrefused.resolve (c : ClassDecl) (family : Family) : Unrefused (resolve c family) := by
  intro t _ refusal hmem
  rcases List.mem_append.mp hmem with hmem | hmem
  · exact hmem
  · exact absurd hmem (refused_notMem_resolve _ _ _ _)

end Tracked

open Tracked

theorem makeMember_unrefused (c : ClassDecl) (member : Member) :
    Unrefused (makeMember c member) := by
  unfold makeMember
  cases member with
  | equals | hash =>
    refine (Unrefused.resolve c .equality).bind (.resolve c .equality) ?_
    cases c.annotations.equality <;> cases c.resolution? .equality <;> exact .pure _
  | print =>
    refine (Unrefused.resolve c .printing).bind (.resolve c .printing) ?_
    cases c.annotations.printing <;> cases c.resolution? .printing <;> exact .pure _
  | setter param =>
    cases BuilderPlan.ofClass? c with
    | none => exact .pure _
    | some plan =>
      dsimp only
      cases plan.slot? param <;> exact .pure _
  | build => cases BuilderPlan.ofClass? c <;> exact .pure _

theorem generate_unrefused (c : ClassDecl) (member : Member) : Unrefused (generate c member) := by
  refine (makeMember_unrefused c member).bind (makeMember_gives c member) ?_
  cases freshMember c member with
  | ok method => exact (Unrefused.note (by simp)).bind (.note _) (.pure _)
  | error refusal => exact .pure _

theorem generateAll_unrefused (c : ClassDecl) {members : List Member}
    (hall : ∀ member ∈ members, ∃ x, freshMember c member = .ok x) :
    Unrefused (generateAll c members) := by
  induction members with
  | nil => exact .pure _
  | cons member members ih =>
    have ih := ih fun other hother => hall other (List.mem_cons_of_mem _ hother)
    obtain ⟨x, hx⟩ := hall member List.mem_cons_self
    refine (generate_unrefused c member).bind (generate_gives c member) ?_
    rw [hx]
    exact ih.bind (generateAll_gives c members) (.pure _)

theorem generateFamily_unrefused (strictness : Strictness) (c : ClassDecl) (family : Family) :
    Unrefused (generateFamily c family (checkFamily c strictness family)) := by
  refine (Unrefused.note ?_).bind (.note _) ?_
  · intro refusal
    unfold Report.events
    split <;> simp
  · split
    · rename_i hready
      exact generateAll_unrefused c fun member hmember =>
        exists_freshMember_of_ready hready hmember
    · exact .pure _

theorem synthesizeFamily_unrefused (strictness : Strictness) (c : ClassDecl)
    (made : ClassSynthesis) (family : Family) :
    Unrefused (synthesizeFamily strictness c made family) :=
  (generateFamily_unrefused strictness c family).bind (generateFamily_gives strictness c family)
    (.pure _)

namespace Engine

theorem run_of_unrefused {α : Type} {e : Engine} {op : Tracked α} (he : e.cache.Sound)
    (hop : Unrefused op) (refusal : Refusal) : .refused refusal ∉ (e.run op).2.2 := by
  intro hmem
  exact absurd (hop ⟨e.cache, []⟩ he refusal hmem) List.not_mem_nil

theorem refused_notMem_synthesizeClass {e : Engine} (he : e.cache.Sound) (c : ClassDecl)
    (refusal : Refusal) : .refused refusal ∉ (e.synthesizeClass c).2.2 := by
  apply run_of_unrefused he
  refine (Unrefused.foldlM (synthesizeFamily_unrefused e.strictness c)
    (synthesizeFamily_gives e.strictness c) Family.all _).bind
      (.foldlM (synthesizeFamily_gives e.strictness c) Family.all _) ?_
  exact (Unrefused.note (by simp [Event.warnings])).bind (.note _) (.pure _)

theorem builderPlan_eq_ok_iff {e : Engine} {c : ClassDecl} {plan : BuilderPlan} :
    (e.builderPlan c).1 = .ok plan ↔
      (ClassSynthesis.fresh e.strictness c).builder = some plan := by
  unfold Engine.builderPlan Engine.check ClassSynthesis.fresh
  dsimp only
  cases hrefusal : (checkFamily c e.strictness .building).refusal? c.name with
  | some refusal =>
    have hready : (checkFamily c e.strictness .building).isReady ≠ true := by
      intro hready
      rw [refusal?_eq_none_iff.mpr hready] at hrefusal
      cases hrefusal
    rw [if_neg hready]
    simp
  | none =>
    rw [if_pos (refusal?_eq_none_iff.mp hrefusal)]
    cases BuilderPlan.ofClass? c <;> simp

/-- Whatever an engine has done before, all that it says of a class agrees. -/
theorem after_agree (settings : Settings) (history : List Operation) (c : ClassDecl) :
    let e := after settings history
    let made := (e.synthesizeClass c).1
    (∀ member,
      (member ∈ e.names c ↔ ∃ x, (e.synthesize member c).1 = .ok x) ∧
      (member ∈ e.names c ↔ ∃ x ∈ made.methods, x.member = member) ∧
      (∀ x ∈ made.methods, x.member = member → (e.synthesize member c).1 = .ok x) ∧
      ∀ refusal, (e.synthesize member c).1 = .error refusal ↔
        (e.check c member.family).Refuses c member refusal) ∧
    made.methods.map (·.member) =
      (if (e.check c .equality).isReady then [.equals, .hash] else []) ++
      (if (e.check c .printing).isReady then [.print] else []) ++
      (if (e.check c .building).isReady then
        c.params.map (fun p => .setter p.name) ++ [.build]
      else []) ∧
    (∀ refusal, .refused refusal ∉ (e.synthesizeClass c).2.2) ∧
    made.diagnostics = (e.validate c).1 ∧
    (∀ plan, (e.builderPlan c).1 = .ok plan ↔ made.builder = some plan) ∧
    ((e.validate c).1.hasErrors = true ↔ ∃ family, (e.check c family).verdict = .rejected) := by
  intro e made
  have he : e.Reachable := reachable_after settings history
  have hmade : made = .fresh e.strictness c := he.synthesizeClass_fst c
  rw [hmade]
  refine ⟨?_, map_member_fresh _ c, refused_notMem_synthesizeClass he.sound c, rfl,
    fun plan => builderPlan_eq_ok_iff, hasErrors_checkClass_iff⟩
  intro member
  rw [he.synthesize_fst, mem_names_iff, exists_freshAnswer_iff, exists_method_iff]
  refine ⟨.rfl, .rfl, ?_, fun refusal => freshAnswer_eq_error_iff⟩
  rintro x hx rfl
  exact freshAnswer_of_mem_fresh hx

end Engine

end Memberwise
