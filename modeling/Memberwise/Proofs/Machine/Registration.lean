import Mathlib.Data.List.Induction
import Memberwise.Proofs.Machine.Ancestry

/-!
# Registrations and look-ups

What a machine knows of a class is the last thing that it was told. Along the parents that were
registered last, whether or not they run in a cycle, a look-up finds the body of the first class
that has one, and it finds none only where no class above has one.
-/

namespace Memberwise

namespace Machine

/-- The class has the body itself or, having none, gets it from its parent. -/
inductive Inherits (parent : ClassName → ClassName → Prop) (has : ClassName → Body → Prop) :
    ClassName → Body → Prop
  | own {cls : ClassName} {body : Body} : has cls body → Inherits parent has cls body
  | above {cls next : ClassName} {body : Body} : (∀ body', ¬ has cls body') → parent cls next →
    Inherits parent has next body → Inherits parent has cls body

variable {parent : ClassName → ClassName → Prop} {has : ClassName → Body → Prop}

theorem Inherits.unique (hparent : ∀ a b c, parent a b → parent a c → b = c)
    (hhas : ∀ a b c, has a b → has a c → b = c) {cls : ClassName} {body body' : Body}
    (hbody : Inherits parent has cls body) (hbody' : Inherits parent has cls body') :
    body = body' := by
  induction hbody with
  | own hown =>
    cases hbody' with
    | own hown' => exact hhas _ _ _ hown hown'
    | above hnone _ _ => exact absurd hown (hnone _)
  | above hnone hnext _ ih =>
    cases hbody' with
    | own hown' => exact absurd hown' (hnone _)
    | above _ hnext' hrest =>
      obtain rfl := hparent _ _ _ hnext hnext'
      exact ih hrest

theorem Inherits.exists_above {cls : ClassName} {body : Body}
    (hbody : Inherits parent has cls body) :
    ∃ above, Relation.ReflTransGen parent cls above ∧ has above body := by
  induction hbody with
  | own hown => exact ⟨_, .refl, hown⟩
  | above _ hnext _ ih =>
    obtain ⟨above, hreach, hown⟩ := ih
    exact ⟨above, hreach.head hnext, hown⟩

variable (m : Machine)

def Has (member : Member) (cls : ClassName) (body : Body) : Prop :=
  m.bodies.get? (cls, member) = some body

theorem inherits_of_climb {n : Nat} {cls : ClassName} {member : Member} {body : Body}
    (hbody : ((m.climb n cls).findSome? fun c => m.bodies.get? (c, member)) = some body) :
    Inherits m.Parent (m.Has member) cls body := by
  induction n generalizing cls with
  | zero => cases hbody
  | succ n ih =>
    rw [climb, List.findSome?_cons] at hbody
    cases hown : m.bodies.get? (cls, member) with
    | some own =>
      rw [hown] at hbody
      cases hbody
      exact .own hown
    | none =>
      rw [hown] at hbody
      cases hparent : m.parents.get? cls with
      | none =>
        rw [hparent] at hbody
        cases hbody
      | some next =>
        rw [hparent] at hbody
        refine .above ?_ hparent (ih hbody)
        intro body' hbody'
        cases hown.symm.trans hbody'

theorem lookup_eq_none_iff {cls : ClassName} {member : Member} :
    m.lookup cls member = none ↔
      ∀ above, Relation.ReflTransGen m.Parent cls above → ∀ body, ¬ m.Has member above body := by
  rw [lookup, List.findSome?_eq_none_iff]
  simp only [mem_ancestry_iff, Has, Option.eq_none_iff_forall_ne_some, ne_eq]

theorem lookup_eq_some_iff {cls : ClassName} {member : Member} {body : Body} :
    m.lookup cls member = some body ↔ Inherits m.Parent (m.Has member) cls body := by
  constructor
  · exact m.inherits_of_climb
  · intro hbody
    cases hfound : m.lookup cls member with
    | none =>
      obtain ⟨above, hreach, hown⟩ := hbody.exists_above
      exact absurd hown (m.lookup_eq_none_iff.mp hfound above hreach body)
    | some found =>
      rw [Inherits.unique ?_ ?_ hbody (m.inherits_of_climb hfound)]
      · exact fun a b c hb hc => Option.some.inj (hb.symm.trans hc)
      · exact fun a b c hb hc => Option.some.inj (hb.symm.trans hc)

theorem length_climb_le (n : Nat) (cls : ClassName) : (m.climb n cls).length ≤ n := by
  induction n generalizing cls with
  | zero => exact Nat.le_refl 0
  | succ n ih =>
    rw [climb, List.length_cons]
    cases m.parents.get? cls with
    | none => exact Nat.succ_le_succ (Nat.zero_le n)
    | some next => exact Nat.succ_le_succ (ih next)

inductive Change
  | register (cls : ClassName) (superclass : Option ClassName)
  | install (method : Method)

namespace Change

def Registers (cls : ClassName) : Change → Prop
  | register c _ => c = cls
  | install _ => False

def Installs (cls : ClassName) (member : Member) : Change → Prop
  | register _ _ => False
  | install method => method.owner = cls ∧ method.member = member

end Change

def apply (m : Machine) : Change → Machine
  | .register cls superclass => m.register cls superclass
  | .install method => m.install method

def after (root : Root) (history : List Change) : Machine := history.foldl apply (.new root)

theorem after_append (root : Root) (history more : List Change) :
    after root (history ++ more) = more.foldl apply (after root history) :=
  List.foldl_append

/-- `change` is the last one in the history that concerns the key at hand. -/
def IsLast (concerns : Change → Prop) (history : List Change) (change : Change) : Prop :=
  concerns change ∧ ∃ before after, history = before ++ change :: after ∧
    ∀ other ∈ after, ¬ concerns other

theorem not_isLast_nil {concerns : Change → Prop} {change : Change} :
    ¬ IsLast concerns [] change := by
  rintro ⟨-, before, after, hnil, -⟩
  cases before <;> cases hnil

/-- The newest change hides all earlier ones of its key and no others. -/
theorem isLast_concat_iff {concerns : Change → Prop} {history : List Change}
    {newest change : Change} :
    IsLast concerns (history ++ [newest]) change ↔
      (concerns newest ∧ change = newest) ∨
        (¬ concerns newest ∧ IsLast concerns history change) := by
  constructor
  · rintro ⟨hchange, before, after, heq, hafter⟩
    rcases List.eq_nil_or_concat after with rfl | ⟨after, other, rfl⟩
    · obtain ⟨rfl, rfl⟩ := List.append_singleton_inj.mp heq
      exact .inl ⟨hchange, rfl⟩
    · rw [List.concat_eq_append, ← List.cons_append, ← List.append_assoc] at heq
      obtain ⟨rfl, rfl⟩ := List.append_singleton_inj.mp heq
      exact .inr ⟨hafter newest (by simp), hchange, before, after, rfl,
        fun other hother => hafter other (by simp [hother])⟩
  · rintro (⟨hnewest, rfl⟩ | ⟨hnewest, hchange, before, after, rfl, hafter⟩)
    · exact ⟨hnewest, history, [], rfl, nofun⟩
    · refine ⟨hchange, before, after ++ [newest], by simp, ?_⟩
      intro other hother
      rcases List.mem_append.mp hother with hother | hother
      · exact hafter other hother
      · rwa [List.mem_singleton.mp hother]

def RegisteredLast (history : List Change) (cls parent : ClassName) : Prop :=
  IsLast (Change.Registers cls) history (.register cls (some parent))

def InstalledLast (history : List Change) (member : Member) (cls : ClassName) (body : Body) :
    Prop :=
  ∃ method, method.body = body ∧ IsLast (Change.Installs cls member) history (.install method)

theorem parent_register_iff {cls c parent : ClassName} {superclass : Option ClassName} :
    (m.register c superclass).Parent cls parent ↔
      (c = cls ∧ superclass = some parent) ∨ (c ≠ cls ∧ m.Parent cls parent) := by
  unfold Parent register
  cases superclass with
  | none => by_cases hc : c = cls <;> simp [Table.get?_erase, hc]
  | some next => by_cases hc : c = cls <;> simp [Table.get?_insert, hc]

theorem has_install_iff {member : Member} {cls : ClassName} {body : Body} {method : Method} :
    (m.install method).Has member cls body ↔
      ((method.owner = cls ∧ method.member = member) ∧ method.body = body) ∨
        (¬ (method.owner = cls ∧ method.member = member) ∧ m.Has member cls body) := by
  unfold Has install
  rw [Table.get?_insert]
  by_cases hkey : method.owner = cls ∧ method.member = member <;> simp [hkey]

theorem parent_after_iff (root : Root) {history : List Change} {cls parent : ClassName} :
    (after root history).Parent cls parent ↔ RegisteredLast history cls parent := by
  induction history using List.reverseRecOn with
  | nil => exact iff_of_false nofun not_isLast_nil
  | append_singleton history change ih =>
    rw [after_append, RegisteredLast, isLast_concat_iff]
    cases change with
    | install method =>
      have hother : ¬ Change.Registers cls (.install method) := id
      simp only [hother, false_and, not_false_eq_true, true_and, false_or]
      exact ih
    | register c superclass =>
      change ((after root history).register c superclass).Parent cls parent ↔ _
      rw [parent_register_iff, ih, RegisteredLast]
      simp only [Change.Registers, Change.register.injEq]
      constructor
      · rintro (⟨hc, hsuper⟩ | hbefore)
        · exact .inl ⟨hc, hc.symm, hsuper.symm⟩
        · exact .inr hbefore
      · rintro (⟨hc, -, hsuper⟩ | hbefore)
        · exact .inl ⟨hc, hsuper.symm⟩
        · exact .inr hbefore

theorem has_after_iff (root : Root) {history : List Change} {member : Member} {cls : ClassName}
    {body : Body} :
    (after root history).Has member cls body ↔ InstalledLast history member cls body := by
  induction history using List.reverseRecOn with
  | nil =>
    refine iff_of_false nofun ?_
    rintro ⟨method, -, hlast⟩
    exact not_isLast_nil hlast
  | append_singleton history change ih =>
    rw [after_append, InstalledLast]
    simp only [isLast_concat_iff]
    cases change with
    | register c superclass =>
      have hother : ¬ Change.Installs cls member (.register c superclass) := id
      simp only [hother, false_and, not_false_eq_true, true_and, false_or]
      exact ih
    | install method =>
      change ((after root history).install method).Has member cls body ↔ _
      rw [has_install_iff, ih, InstalledLast]
      simp only [Change.Installs, Change.install.injEq]
      constructor
      · rintro (⟨hkey, hbody⟩ | ⟨hkey, other, hbody, hlast⟩)
        · exact ⟨method, hbody, .inl ⟨hkey, rfl⟩⟩
        · exact ⟨other, hbody, .inr ⟨hkey, hlast⟩⟩
      · rintro ⟨other, hbody, ⟨hkey, rfl⟩ | ⟨hkey, hlast⟩⟩
        · exact .inl ⟨hkey, hbody⟩
        · exact .inr ⟨hkey, other, hbody, hlast⟩

end Machine

def ClassSynthesis.changes (s : ClassSynthesis) : List Machine.Change :=
  .register s.cls s.superclass :: s.methods.map .install

namespace Machine

theorem installAll_after (root : Root) (history : List Change) (s : ClassSynthesis) :
    (after root history).installAll s = after root (history ++ s.changes) := by
  rw [after_append, ClassSynthesis.changes, List.foldl_cons, List.foldl_map]
  rfl

/-- Whatever a machine was told, in whatever order and however often, the bounded walk is exact:
it sees the classes that can be reached over the last registrations, and the first of them with a
body answers for a member. -/
theorem after_walk (root : Root) (history : List Change) :
    let m := after root history
    let reaches := Relation.ReflTransGen (RegisteredLast history)
    (∀ cls, (m.ancestry cls).length ≤ m.parents.size + 1) ∧
    (∀ cls target, m.isSubclass cls target = true ↔ reaches cls target) ∧
    (∀ cls, m.isSubclass cls cls = true) ∧
    (∀ a b c, m.isSubclass a b = true → m.isSubclass b c = true → m.isSubclass a c = true) ∧
    (∀ cls member,
      (∀ body, m.lookup cls member = some body ↔
        Inherits (RegisteredLast history) (InstalledLast history member) cls body) ∧
      (m.lookup cls member = none ↔
        ∀ above, reaches cls above → ∀ body, ¬ InstalledLast history member above body)) ∧
    ∀ s, m.installAll s = after root (history ++ s.changes) := by
  intro m reaches
  have hparent : m.Parent = RegisteredLast history := by
    funext cls parent
    exact propext (parent_after_iff root)
  have hhas (member : Member) : m.Has member = InstalledLast history member := by
    funext cls body
    exact propext (has_after_iff root)
  refine ⟨fun cls => m.length_climb_le _ cls, ?_, m.isSubclass_refl,
    fun _ _ _ => isSubclass_trans, ?_, installAll_after root history⟩
  · intro cls target
    rw [m.isSubclass_iff, hparent]
  · intro cls member
    rw [← hparent, ← hhas]
    refine ⟨fun body => m.lookup_eq_some_iff, ?_⟩
    rw [m.lookup_eq_none_iff, hparent]

/-- On a cycle the walk comes back to where it began, and stops there. -/
example :
    let a : ClassName := ⟨"a"⟩
    let b : ClassName := ⟨"b"⟩
    let m := after .identity [.register a (some b), .register b none, .register b (some a)]
    m.ancestry a = [a, b, a] ∧ m.isSubclass b a = true := by
  decide

end Machine

end Memberwise
