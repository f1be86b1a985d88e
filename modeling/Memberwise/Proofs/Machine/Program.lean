import Mathlib.Data.List.Find
import Mathlib.Data.List.Induction
import Mathlib.Data.List.Nodup
import Memberwise.Machine.Basic
import Memberwise.Proofs.Engine.Members

/-!
# Programs

A program is a list of classes as engines have synthesized them, each class once. The machine that
holds it has for each object method of a class the body that was made for that class, and for each
class its superclass, whatever the order of installation.
-/

namespace Memberwise

namespace ClassSynthesis

/-- Made by an engine, at whatever point of its history. -/
def FromEngine (s : ClassSynthesis) : Prop :=
  ∃ (e : Engine) (c : ClassDecl), e.Reachable ∧ s = (e.synthesizeClass c).1

theorem FromEngine.eq_fresh {s : ClassSynthesis} (hs : s.FromEngine) :
    ∃ strictness c, s = fresh strictness c := by
  obtain ⟨e, c, he, rfl⟩ := hs
  exact ⟨e.strictness, c, he.synthesizeClass_fst c⟩

def bodyOf? (s : ClassSynthesis) (member : Member) : Option Body :=
  (s.methods.reverse.find? (·.member = member)).map (·.body)

end ClassSynthesis

structure IsProgram (ss : List ClassSynthesis) : Prop where
  fromEngine : ∀ s ∈ ss, s.FromEngine
  once : (ss.map (·.cls)).Nodup

theorem IsProgram.of_nodup (settings : Settings) {cs : List ClassDecl}
    (hcs : (cs.map (·.name)).Nodup) :
    IsProgram (cs.map fun c => ((Engine.new settings).synthesizeClass c).1) where
  fromEngine := by
    intro s hs
    obtain ⟨c, -, rfl⟩ := List.mem_map.mp hs
    exact ⟨_, c, .new settings, rfl⟩
  once := by
    rw [List.map_map]
    exact hcs

theorem IsProgram.of_append {ss ts : List ClassSynthesis} (h : IsProgram (ss ++ ts)) :
    IsProgram ss where
  fromEngine s hs := h.fromEngine s (List.mem_append_left ts hs)
  once := by
    have honce := h.once
    rw [List.map_append] at honce
    exact honce.of_append_left

namespace ClassSynthesis

theorem find?_freshFamily_of_ne (strictness : Strictness) (c : ClassDecl) (family : Family)
    {member : Member} (h : member.family ≠ family) :
    (freshFamily strictness c family).reverse.find? (·.member = member) = none := by
  rw [List.find?_eq_none]
  intro x hx hmember
  rw [List.mem_reverse] at hx
  obtain rfl := of_decide_eq_true hmember
  exact h (exists_of_mem_freshFamily hx).1

theorem bodyOf?_fresh (strictness : Strictness) (c : ClassDecl) (member : Member) :
    (fresh strictness c).bodyOf? member =
      ((freshFamily strictness c member.family).reverse.find? (·.member = member)).map
        (·.body) := by
  unfold bodyOf? fresh
  dsimp only
  rw [List.reverse_append, List.reverse_append, List.find?_append, List.find?_append]
  cases hfamily : member.family with
  | equality =>
    rw [find?_freshFamily_of_ne strictness c .building (by simp [hfamily]),
      find?_freshFamily_of_ne strictness c .printing (by simp [hfamily])]
    rfl
  | printing =>
    rw [find?_freshFamily_of_ne strictness c .building (by simp [hfamily]),
      find?_freshFamily_of_ne strictness c .equality (by simp [hfamily])]
    simp
  | building =>
    rw [find?_freshFamily_of_ne strictness c .printing (by simp [hfamily]),
      find?_freshFamily_of_ne strictness c .equality (by simp [hfamily])]
    simp

end ClassSynthesis

namespace Machine

theorem lookup_of_get?_bodies {m : Machine} {cls : ClassName} {member : Member} {body : Body}
    (hbody : m.bodies.get? (cls, member) = some body) : m.lookup cls member = some body := by
  rw [lookup, ancestry, climb, List.findSome?_cons, hbody]

def holding (ss : List ClassSynthesis) : Machine := ss.foldl installAll (.new .identity)

theorem holding_concat (ss : List ClassSynthesis) (s : ClassSynthesis) :
    holding (ss ++ [s]) = (holding ss).installAll s := by
  rw [holding, List.foldl_append]
  rfl

theorem foldl_install_parents (ms : List Method) (m : Machine) :
    (ms.foldl install m).parents = m.parents := by
  induction ms generalizing m with
  | nil => rfl
  | cons x ms ih => exact ih (m.install x)

theorem foldl_install_root (ms : List Method) (m : Machine) :
    (ms.foldl install m).root = m.root := by
  induction ms generalizing m with
  | nil => rfl
  | cons x ms ih => exact ih (m.install x)

theorem get?_bodies_foldl_install (ms : List Method) (m : Machine) (cls : ClassName)
    (member : Member) :
    (ms.foldl install m).bodies.get? (cls, member) =
      ((ms.reverse.find? fun x => x.owner = cls ∧ x.member = member).map (·.body)).or
        (m.bodies.get? (cls, member)) := by
  induction ms generalizing m with
  | nil => rfl
  | cons x ms ih =>
    rw [List.foldl_cons, ih, List.reverse_cons, List.find?_append]
    change Option.or _ ((m.bodies.insert (x.owner, x.member) x.body).get? (cls, member)) = _
    rw [Table.get?_insert]
    cases ms.reverse.find? fun x => x.owner = cls ∧ x.member = member with
    | some y => rfl
    | none =>
      by_cases hx : x.owner = cls ∧ x.member = member
      · simp [hx]
      · simp [hx]

theorem get?_parents_installAll (m : Machine) (s : ClassSynthesis) (cls : ClassName) :
    (m.installAll s).parents.get? cls =
      if s.cls = cls then s.superclass else m.parents.get? cls := by
  unfold installAll
  rw [foldl_install_parents]
  unfold register
  cases s.superclass with
  | none => exact Table.get?_erase m.parents s.cls cls
  | some parent => exact Table.get?_insert m.parents s.cls cls parent

/-- What installing a class does to the bodies of object methods. -/
theorem get?_bodies_installAll (m : Machine) {s : ClassSynthesis} (hs : s.FromEngine)
    (cls : ClassName) {member : Member} (hm : member.family ≠ .building) :
    (m.installAll s).bodies.get? (cls, member) =
      if s.cls = cls then (s.bodyOf? member).or (m.bodies.get? (cls, member))
      else m.bodies.get? (cls, member) := by
  unfold installAll
  rw [get?_bodies_foldl_install]
  change Option.or _ (m.bodies.get? (cls, member)) = _
  obtain ⟨strictness, c, rfl⟩ := hs.eq_fresh
  have howner : ∀ x ∈ (ClassSynthesis.fresh strictness c).methods.reverse, x.member = member →
      x.owner = c.name := by
    intro x hx hmember
    rw [List.mem_reverse] at hx
    exact freshMember_owner (ClassSynthesis.exists_of_mem_fresh hx) (hmember ▸ hm)
  split
  · rename_i hcls
    have hcls : c.name = cls := hcls
    have hfind : ((ClassSynthesis.fresh strictness c).methods.reverse.find? fun x =>
        x.owner = cls ∧ x.member = member) =
          (ClassSynthesis.fresh strictness c).methods.reverse.find? (·.member = member) := by
      apply List.find?_congr
      intro x hx
      rw [decide_eq_decide, and_iff_right_iff_imp]
      exact fun hmember => (howner x hx hmember).trans hcls
    rw [hfind]
    rfl
  · rename_i hcls
    have hnone : ((ClassSynthesis.fresh strictness c).methods.reverse.find? fun x =>
        x.owner = cls ∧ x.member = member) = none := by
      rw [List.find?_eq_none]
      intro x hx hkey
      obtain ⟨hkey, hmember⟩ := of_decide_eq_true hkey
      exact hcls ((howner x hx hmember).symm.trans hkey)
    rw [hnone]
    rfl

theorem find?_eq_none_of_once {ss : List ClassSynthesis} {s : ClassSynthesis}
    (honce : ((ss ++ [s]).map (·.cls)).Nodup) : ss.find? (·.cls = s.cls) = none := by
  rw [List.find?_eq_none]
  intro x hx hxcls
  rw [List.map_append, List.nodup_append] at honce
  exact honce.2.2 x.cls (List.mem_map_of_mem hx) s.cls (List.mem_singleton.mpr rfl)
    (of_decide_eq_true hxcls)

theorem find?_concat_of_once {ss : List ClassSynthesis} {s : ClassSynthesis}
    (honce : ((ss ++ [s]).map (·.cls)).Nodup) (cls : ClassName) :
    (ss ++ [s]).find? (·.cls = cls) = if s.cls = cls then some s else ss.find? (·.cls = cls) := by
  rw [List.find?_append]
  split
  · rename_i hcls
    subst hcls
    simp [find?_eq_none_of_once honce]
  · rename_i hcls
    simp [hcls]

end Machine

namespace IsProgram

variable {ss : List ClassSynthesis}

theorem find?_of_mem (hss : IsProgram ss) {s : ClassSynthesis} (hs : s ∈ ss) :
    ss.find? (·.cls = s.cls) = some s := by
  obtain ⟨before, after, rfl⟩ := List.append_of_mem hs
  have honce := hss.once
  rw [List.map_append, List.map_cons, List.nodup_append] at honce
  rw [List.find?_append, List.find?_eq_none.mpr ?_]
  · simp
  · intro x hx hcls
    exact honce.2.2 x.cls (List.mem_map_of_mem hx) s.cls List.mem_cons_self
      (of_decide_eq_true hcls)

theorem root_holding (ss : List ClassSynthesis) : (Machine.holding ss).root = .identity := by
  induction ss using List.reverseRecOn with
  | nil => rfl
  | append_singleton ss s ih =>
    rw [Machine.holding_concat, Machine.installAll, Machine.foldl_install_root]
    exact ih

theorem get?_parents (hss : IsProgram ss) (cls : ClassName) :
    (Machine.holding ss).parents.get? cls =
      (ss.find? (·.cls = cls)).bind (·.superclass) := by
  induction ss using List.reverseRecOn with
  | nil => rfl
  | append_singleton ss s ih =>
    rw [Machine.holding_concat, Machine.get?_parents_installAll, ih hss.of_append,
      Machine.find?_concat_of_once hss.once]
    split <;> rfl

theorem get?_bodies (hss : IsProgram ss) (cls : ClassName) {member : Member}
    (hm : member.family ≠ .building) :
    (Machine.holding ss).bodies.get? (cls, member) =
      (ss.find? (·.cls = cls)).bind (·.bodyOf? member) := by
  induction ss using List.reverseRecOn with
  | nil => rfl
  | append_singleton ss s ih =>
    have hs := hss.fromEngine s (List.mem_append_right ss (List.mem_singleton.mpr rfl))
    have honce := hss.once
    rw [Machine.holding_concat, Machine.get?_bodies_installAll _ hs cls hm, ih hss.of_append,
      Machine.find?_concat_of_once honce]
    split
    · rename_i hcls
      subst hcls
      simp [Machine.find?_eq_none_of_once honce]
    · rfl

end IsProgram

end Memberwise
