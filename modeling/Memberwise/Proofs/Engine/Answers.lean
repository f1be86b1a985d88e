import Memberwise.Engine.Basic

/-!
# What an engine answers

Every slot of the cache holds the resolution of the inputs stored in it, and an entry answers for
exactly these inputs. So whatever an engine has done before, it makes of a class what the class
alone determines.
-/

namespace Memberwise

namespace Cache

/-- Every slot holds the resolution of the inputs that it stores. -/
def Sound (cache : Cache) : Prop :=
  ∀ key slot, cache.slots.get? key = some slot → slot = .compute slot.policy slot.properties

theorem sound_empty : Sound empty := by
  intro key slot hslot
  cases hslot

theorem Sound.store {cache : Cache} (hc : cache.Sound) (c : ClassDecl) (policy : InclusionPolicy)
    (stale : Nat) : (cache.store c policy stale).2.Sound := by
  intro key slot hslot
  change (cache.slots.insert (c.name, policy.family) _).get? key = some slot at hslot
  rw [Table.get?_insert] at hslot
  split at hslot
  · cases hslot
    rfl
  · exact hc key slot hslot

theorem answersFor_iff {slot : CacheSlot} {policy : InclusionPolicy} {properties : List Property} :
    slot.answersFor policy properties = true ↔
      slot.policy = policy ∧ slot.properties = properties := by
  simp [CacheSlot.answersFor]

theorem Sound.lookup_fst {cache : Cache} (hc : cache.Sound) (c : ClassDecl)
    (policy : InclusionPolicy) : (cache.lookup c policy).1 = .compute c.properties policy := by
  unfold lookup
  split
  · rfl
  · rename_i slot hslot
    split
    · rename_i hanswers
      obtain ⟨hpolicy, hproperties⟩ := answersFor_iff.mp hanswers
      have hslot := hc _ slot hslot
      rw [hpolicy, hproperties] at hslot
      rw [hslot]
      rfl
    · rfl

theorem Sound.lookup_snd {cache : Cache} (hc : cache.Sound) (c : ClassDecl)
    (policy : InclusionPolicy) : (cache.lookup c policy).2.1.Sound := by
  unfold lookup
  split
  · exact hc.store c policy 0
  · split
    · exact hc
    · exact hc.store c policy 1

end Cache

def ClassDecl.resolution? (c : ClassDecl) (family : Family) : Option Resolution :=
  (InclusionPolicy.ofClass? c family).map (.compute c.properties)

namespace Cache

variable {cache : Cache} (hc : cache.Sound) (c : ClassDecl) (family : Family)

include hc

theorem Sound.resolve_fst : (cache.resolve c family).1 = c.resolution? family := by
  unfold Cache.resolve ClassDecl.resolution?
  cases InclusionPolicy.ofClass? c family with
  | none => rfl
  | some policy => exact congrArg some (hc.lookup_fst c policy)

theorem Sound.resolve_snd : (cache.resolve c family).2.1.Sound := by
  unfold Cache.resolve
  cases InclusionPolicy.ofClass? c family with
  | none => exact hc
  | some policy => exact hc.lookup_snd c policy

end Cache

namespace Tracked

variable {α β : Type}

/-- From every sound cache `x` gives `a`, and it leaves a sound one. -/
def Gives (x : Tracked α) (a : α) : Prop :=
  ∀ t, t.cache.Sound → (x t).1 = a ∧ (x t).2.cache.Sound

theorem Gives.pure (a : α) : Gives (pure a) a := fun _ ht => ⟨rfl, ht⟩

theorem Gives.bind {x : Tracked α} {f : α → Tracked β} {a : α} {b : β} (hx : Gives x a)
    (hf : Gives (f a) b) : Gives (x >>= f) b := by
  intro t ht
  obtain ⟨ha, ht'⟩ := hx t ht
  subst ha
  exact hf (x t).2 ht'

theorem Gives.foldlM {f : β → α → Tracked β} {g : β → α → β} (hf : ∀ b a, Gives (f b a) (g b a))
    (as : List α) (b : β) : Gives (as.foldlM f b) (as.foldl g b) := by
  induction as generalizing b with
  | nil => exact .pure b
  | cons a as ih =>
    rw [List.foldlM_cons, List.foldl_cons]
    exact (hf b a).bind (ih (g b a))

theorem Gives.note (events : List Event) : Gives (note events) ⟨⟩ := fun _ ht => ⟨rfl, ht⟩

theorem Gives.resolve (c : ClassDecl) (family : Family) :
    Gives (resolve c family) (c.resolution? family) :=
  fun _ ht => ⟨ht.resolve_fst c family, ht.resolve_snd c family⟩

end Tracked

open Tracked

def freshMember (c : ClassDecl) (member : Member) : Except Refusal Method :=
  match member with
  | .equals | .hash =>
    match c.annotations.equality, c.resolution? .equality with
    | some options, some r => .ok (equalityMethod c options r member)
    | _, _ => .error (.notRequested c.name .equality)
  | .print =>
    match c.annotations.printing, c.resolution? .printing with
    | some options, some r =>
      .ok (Synthesis.print c.name c.superclass options r.participants)
    | _, _ => .error (.notRequested c.name .printing)
  | .setter param =>
    match BuilderPlan.ofClass? c with
    | none => .error (.notRequested c.name .building)
    | some plan =>
      match plan.slot? param with
      | none => .error (.unknownMember c.name member)
      | some slot => .ok (Synthesis.setter plan slot)
  | .build =>
    match BuilderPlan.ofClass? c with
    | none => .error (.notRequested c.name .building)
    | some plan => .ok (Synthesis.build plan)

def freshAnswer (strictness : Strictness) (c : ClassDecl) (member : Member) :
    Except Refusal Method :=
  match (checkFamily c strictness member.family).refusal? c.name with
  | some refusal => .error refusal
  | none => freshMember c member

def freshFamily (strictness : Strictness) (c : ClassDecl) (family : Family) : List Method :=
  if (checkFamily c strictness family).isReady then
    (membersOf c family).filterMap fun member => (freshMember c member).toOption
  else []

def ClassSynthesis.fresh (strictness : Strictness) (c : ClassDecl) : ClassSynthesis :=
  { cls := c.name, superclass := c.superclass,
    methods :=
      freshFamily strictness c .equality ++ freshFamily strictness c .printing ++
        freshFamily strictness c .building,
    builder :=
      if (checkFamily c strictness .building).isReady then BuilderPlan.ofClass? c else none,
    diagnostics := checkClass c strictness }

theorem makeMember_gives (c : ClassDecl) (member : Member) :
    Gives (makeMember c member) (freshMember c member) := by
  unfold makeMember freshMember
  cases member with
  | equals | hash =>
    refine (Gives.resolve c .equality).bind ?_
    cases c.annotations.equality <;> cases c.resolution? .equality <;> exact .pure _
  | print =>
    refine (Gives.resolve c .printing).bind ?_
    cases c.annotations.printing <;> cases c.resolution? .printing <;> exact .pure _
  | setter param =>
    cases BuilderPlan.ofClass? c with
    | none => exact .pure _
    | some plan =>
      dsimp only
      cases plan.slot? param <;> exact .pure _
  | build => cases BuilderPlan.ofClass? c <;> exact .pure _

theorem generate_gives (c : ClassDecl) (member : Member) :
    Gives (generate c member) (freshMember c member) := by
  refine (makeMember_gives c member).bind ?_
  cases freshMember c member with
  | ok method => exact (Gives.note _).bind (.pure _)
  | error refusal => exact .pure _

theorem generateAll_gives (c : ClassDecl) (members : List Member) :
    Gives (generateAll c members)
      (members.filterMap fun member => (freshMember c member).toOption) := by
  induction members with
  | nil => exact .pure _
  | cons member members ih =>
    refine (generate_gives c member).bind ?_
    rw [List.filterMap_cons]
    cases freshMember c member with
    | ok method => exact ih.bind (.pure _)
    | error refusal => exact (Gives.note _).bind ih

theorem generateFamily_gives (strictness : Strictness) (c : ClassDecl) (family : Family) :
    Gives (generateFamily c family (checkFamily c strictness family))
      (freshFamily strictness c family) := by
  refine (Gives.note _).bind ?_
  unfold freshFamily
  split
  · exact generateAll_gives c _
  · exact .pure _

theorem synthesizeFamily_gives (strictness : Strictness) (c : ClassDecl) (made : ClassSynthesis)
    (family : Family) :
    Gives (synthesizeFamily strictness c made family)
      (made.extend c family (checkFamily c strictness family) (freshFamily strictness c family)) :=
  (generateFamily_gives strictness c family).bind (.pure _)

/-- One pass over the families gives what they give one by one. -/
theorem foldl_extend_start (strictness : Strictness) (c : ClassDecl) :
    Family.all.foldl (fun made family => ClassSynthesis.extend made c family
      (checkFamily c strictness family) (freshFamily strictness c family)) (.start c) =
      .fresh strictness c := by
  simp [Family.all, ClassSynthesis.extend, ClassSynthesis.start, ClassSynthesis.fresh, checkClass]

namespace Engine

/-- Engines as they come about: new ones, and what operations leave. -/
inductive Reachable : Engine → Prop
  | new (settings : Settings) : Reachable (.new settings)
  | synthesize {e : Engine} (member : Member) (c : ClassDecl) :
    Reachable e → Reachable (e.synthesize member c).2.1
  | synthesizeClass {e : Engine} (c : ClassDecl) :
    Reachable e → Reachable (e.synthesizeClass c).2.1
  | clear {e : Engine} : Reachable e → Reachable e.clear

theorem run_of_gives {α : Type} {e : Engine} {op : Tracked α} {a : α} (he : e.cache.Sound)
    (hop : Gives op a) : (e.run op).1 = a ∧ (e.run op).2.1.cache.Sound :=
  hop ⟨e.cache, []⟩ he

theorem synthesizeClass_of_sound {e : Engine} (he : e.cache.Sound) (c : ClassDecl) :
    (e.synthesizeClass c).1 = .fresh e.strictness c ∧
      (e.synthesizeClass c).2.1.cache.Sound := by
  apply run_of_gives he
  rw [← foldl_extend_start]
  exact (Gives.foldlM (synthesizeFamily_gives e.strictness c) Family.all _).bind
    ((Gives.note _).bind (.pure _))

theorem synthesize_of_sound {e : Engine} (he : e.cache.Sound) (member : Member) (c : ClassDecl) :
    (e.synthesize member c).1 = freshAnswer e.strictness c member ∧
      (e.synthesize member c).2.1.cache.Sound := by
  unfold Engine.synthesize freshAnswer Engine.check
  dsimp only
  cases (checkFamily c e.strictness member.family).refusal? c.name with
  | some refusal => exact ⟨rfl, he⟩
  | none => exact run_of_gives he (generate_gives c member)

theorem Reachable.sound {e : Engine} (he : e.Reachable) : e.cache.Sound := by
  induction he with
  | new settings => exact Cache.sound_empty
  | synthesize member c _ ih => exact (synthesize_of_sound ih member c).2
  | synthesizeClass c _ ih => exact (synthesizeClass_of_sound ih c).2
  | clear _ _ => exact Cache.sound_empty

/-- No history of an engine shows in what it makes of a class. -/
theorem Reachable.synthesizeClass_fst {e : Engine} (he : e.Reachable) (c : ClassDecl) :
    (e.synthesizeClass c).1 = .fresh e.strictness c :=
  (synthesizeClass_of_sound he.sound c).1

theorem Reachable.synthesize_fst {e : Engine} (he : e.Reachable) (member : Member)
    (c : ClassDecl) : (e.synthesize member c).1 = freshAnswer e.strictness c member :=
  (synthesize_of_sound he.sound member c).1

end Engine

end Memberwise
