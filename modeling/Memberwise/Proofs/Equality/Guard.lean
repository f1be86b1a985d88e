import Memberwise.Proofs.Equality.Laws
import Memberwise.Proofs.Machine.Heap

/-!
# What the guard of equality lets through

The guard asks for an instance of the declaring class, which an instance of a subclass is. Unless
the calls to superclasses end at the root, equality therefore compares such an instance by the
properties of the declaring class and of those above it, while the other direction is up to the
subclass.
-/

namespace Memberwise

open Eval

namespace Machine

variable (m : Machine)

/-- Instances of `cls` pass the guards of all classes that are asked from a class upwards, and one
of these classes asks no further. -/
inductive LetsThrough (cls : ClassName) : Option ClassName → Prop
  | pass {start : Option ClassName} {c : ClassDecl} {options : EqualityOptions} :
    m.lookupFrom start .equals = some (c.equalsMethod options).body →
    m.isSubclass cls c.name = true →
    (options.callSuper = true → LetsThrough cls c.superclass) → LetsThrough cls start

/-- No instance of the one class equals one of the other, on any heap. -/
def Apart (cls cls' : ClassName) : Prop :=
  ∀ a b : ObjectRef, a.cls = cls → b.cls = cls' → ∀ h h',
    ¬ Ends (m.equals · (.object a) (.object b)) h (.ok true) h'

variable {m} {call : Call} {h h' : Heap} {a b : ObjectRef}

theorem isSubclass_of_equalsOwn {cls : ClassName} {ps : List Participant} (hne : a ≠ b)
    (htrue : (m.equalsOwn call cls ps a (.object b)).on h = (.ok true, h')) :
    m.isSubclass b.cls cls = true := by
  have hne : Value.object a ≠ .object b := fun hsame => hne (Value.object.inj hsame)
  rw [equalsOwn, if_neg hne] at htrue
  cases hinstance : m.isSubclass b.cls cls with
  | true => rfl
  | false =>
    rw [if_neg (by simp [hinstance])] at htrue
    cases htrue

/-- Only a body of a class finds different objects equal. -/
theorem exists_body_of_equalsFrom {ss : List ClassSynthesis} (hss : ∀ s ∈ ss, s.FromEngine)
    (hne : a ≠ b) {depth : Nat} {start : Option ClassName}
    (htrue : ((holding ss).equalsFrom ((holding ss).invoke depth) start a (.object b)).on h =
      (.ok true, h')) :
    ∃ below c options, depth = below + 1 ∧
      (holding ss).lookupFrom start .equals = some (ClassDecl.equalsMethod c options).body ∧
      ((holding ss).equalsBody ((holding ss).invoke below) c.name c.superclass options
        (c.participants .equality) a (.object b)).on h = (.ok true, h') := by
  cases hbody : (holding ss).lookupFrom start .equals with
  | none =>
    rw [equalsFrom_of_none _ (IsProgram.root_holding ss) hbody] at htrue
    simp [hne] at htrue
  | some body =>
    obtain ⟨c, options, rfl⟩ := equalsMethod_of_lookupFrom hss hbody
    cases depth with
    | zero =>
      rw [equalsFrom, superVia_of_some _ .equals hbody] at htrue
      cases htrue
    | succ below =>
      rw [invoke, equalsFrom_of_lookup _ hbody] at htrue
      exact ⟨below, c, options, rfl, rfl, htrue⟩

theorem letsThrough_of_equalsFrom {ss : List ClassSynthesis} (hss : ∀ s ∈ ss, s.FromEngine)
    (hne : a ≠ b) {depth : Nat} {start : Option ClassName} {h h' : Heap}
    (htrue : ((holding ss).equalsFrom ((holding ss).invoke depth) start a (.object b)).on h =
      (.ok true, h')) : (holding ss).LetsThrough b.cls start := by
  induction depth generalizing start h h' with
  | zero =>
    obtain ⟨_, _, _, hdepth, -⟩ := exists_body_of_equalsFrom hss hne htrue
    cases hdepth
  | succ depth ih =>
    obtain ⟨below, c, options, hdepth, hbody, htrue⟩ := exists_body_of_equalsFrom hss hne htrue
    obtain rfl := Nat.succ.inj hdepth
    rw [equalsBody] at htrue
    cases hcall : options.callSuper with
    | false =>
      rw [hcall] at htrue
      exact .pass hbody (isSubclass_of_equalsOwn hne htrue) (by simp [hcall])
    | true =>
      rw [hcall, if_pos rfl, on_bind_ok_iff] at htrue
      obtain ⟨passed, h₁, hsuper, hown⟩ := htrue
      cases passed with
      | true => exact .pass hbody (isSubclass_of_equalsOwn hne hown) fun _ => ih hsuper
      | false => cases hown

theorem agreeVia_of_null {ps : List Participant}
    (hnull : ∀ p ∈ ps, h.guarded a p.property = .ok .null ∧ h.guarded b p.property = .ok .null) :
    (m.agreeVia call a b ps).on h = (.ok true, h) := by
  induction ps with
  | nil => rfl
  | cons p ps ih =>
    obtain ⟨ha, hb⟩ := hnull p List.mem_cons_self
    have hrest := ih fun q hq => hnull q (List.mem_cons_of_mem p hq)
    refine (Quiet.read _).bind_ok_iff.mpr ⟨.null, on_read_ok_iff.mpr ⟨ha, rfl⟩, ?_⟩
    exact (Quiet.read _).bind_ok_iff.mpr ⟨.null, on_read_ok_iff.mpr ⟨hb, rfl⟩, hrest⟩

theorem equalsOwn_of_null {cls : ClassName} {ps : List Participant}
    (hinstance : m.isSubclass b.cls cls = true)
    (hnull : ∀ p ∈ ps, h.guarded a p.property = .ok .null ∧ h.guarded b p.property = .ok .null) :
    (m.equalsOwn call cls ps a (.object b)).on h = (.ok true, h) := by
  by_cases hsame : a = b
  · rw [equalsOwn, if_pos (congrArg Value.object hsame)]
    rfl
  · rw [m.equalsOwn_of_ne hsame hinstance]
    exact agreeVia_of_null hnull

/-- Two objects that pass the guards are equal if enough of their properties are null. -/
theorem LetsThrough.exists_equalsFrom {cls : ClassName} {start : Option ClassName}
    (hthrough : m.LetsThrough cls start) :
    ∃ ps : List Participant, ∀ (h : Heap) (a b : ObjectRef), b.cls = cls →
      (∀ p ∈ ps, h.guarded a p.property = .ok .null ∧ h.guarded b p.property = .ok .null) →
      ∃ depth, (m.equalsFrom (m.invoke depth) start a (.object b)).on h = (.ok true, h) := by
  induction hthrough with
  | @pass start c options hbody hinstance _ ih =>
    cases hcall : options.callSuper with
    | false =>
      refine ⟨c.participants .equality, ?_⟩
      rintro h a b rfl hnull
      refine ⟨1, ?_⟩
      rw [invoke, equalsFrom_of_lookup _ hbody, equalsBody, hcall]
      exact equalsOwn_of_null hinstance hnull
    | true =>
      obtain ⟨ps, hps⟩ := ih hcall
      refine ⟨c.participants .equality ++ ps, ?_⟩
      rintro h a b rfl hnull
      obtain ⟨depth, hsuper⟩ := hps h a b rfl fun p hp => hnull p (List.mem_append_right _ hp)
      have hown : (m.equalsOwn (m.invoke depth) c.name (c.participants .equality) a
          (.object b)).on h = (.ok true, h) :=
        equalsOwn_of_null hinstance fun p hp => hnull p (List.mem_append_left ps hp)
      refine ⟨depth + 1, ?_⟩
      rw [invoke, equalsFrom_of_lookup _ hbody, equalsBody, if_pos hcall, on_bind_ok_iff]
      exact ⟨true, h, hsuper, hown⟩

end Machine

namespace Heap

def ofNulls (ps : List Participant) : Heap :=
  let fields := Cell.object (.ofList ((ps.map (·.property.name)).map fun name => (name, .null)))
  ⟨[fields, fields]⟩

theorem guarded_ofNulls {ps : List Participant} {p : Participant} (hp : p ∈ ps) {r : ObjectRef}
    (hr : r.address = 1 ∨ r.address = 2) : (ofNulls ps).guarded r p.property = .ok .null := by
  have hname : p.property.name ∈ ps.map (·.property.name) := List.mem_map_of_mem hp
  have hfields : (ofNulls ps).fields r =
      .ofList ((ps.map (·.property.name)).map fun name => (name, .null)) := by
    rw [fields, cell?]
    rcases hr with hr | hr <;> simp [hr, ofNulls]
  rw [guarded, get?, hfields, Table.get?_ofList_map_const hname]

end Heap

/-- On a machine filled by engines, equality tells all instances of a class from those of another
class exactly if the guards do. -/
theorem Machine.apart_iff {ss : List ClassSynthesis} (hss : ∀ s ∈ ss, s.FromEngine)
    {cls cls' : ClassName} (hne : cls ≠ cls') :
    (holding ss).Apart cls cls' ↔ ¬ (holding ss).LetsThrough cls' (some cls) := by
  constructor
  · intro hapart hthrough
    obtain ⟨ps, hps⟩ := hthrough.exists_equalsFrom
    obtain ⟨depth, htrue⟩ := hps (.ofNulls ps) ⟨1, cls⟩ ⟨2, cls'⟩ rfl
      fun p hp => ⟨Heap.guarded_ofNulls hp (.inl rfl), Heap.guarded_ofNulls hp (.inr rfl)⟩
    refine hapart ⟨1, cls⟩ ⟨2, cls'⟩ rfl rfl (.ofNulls ps) (.ofNulls ps) ⟨depth, ?_⟩
    change ((holding ss).equals depth _ _).on _ = _
    rw [equals, equalsVia_object _ (IsProgram.root_holding ss)]
    exact htrue
  · rintro hnot a b rfl rfl h h' ⟨depth, htrue⟩
    have hab : a ≠ b := fun hab => hne (congrArg ObjectRef.cls hab)
    change ((holding ss).equals depth _ _).on h = _ at htrue
    rw [equals, equalsVia_object _ (IsProgram.root_holding ss)] at htrue
    exact hnot (letsThrough_of_equalsFrom hss hab htrue)

namespace Tinted

def point : ClassDecl :=
  { ClassDecl.empty ⟨"Point"⟩ .plain with
    properties := [.ofBody "x" .int],
    annotations := { Annotations.none with equality := some default } }

def tinted : ClassDecl :=
  { ClassDecl.empty ⟨"Tinted"⟩ .plain with
    superclass := some point.name,
    properties := [.ofBody "tint" .string],
    annotations := { Annotations.none with equality := some default } }

def program : List ClassSynthesis :=
  [point, tinted].map fun c => ((Engine.new .standard).synthesizeClass c).1

theorem isProgram : IsProgram program := .of_nodup .standard (by decide)

theorem acyclic (cls : ClassName) :
    ¬ Relation.TransGen (Machine.holding program).Parent cls cls := by
  intro hcycle
  obtain ⟨parent, hparent, hback⟩ := Relation.TransGen.head'_iff.mp hcycle
  have hentry := Table.mem_entries_of_get? hparent
  change (cls, parent) ∈ [(tinted.name, point.name)] at hentry
  cases List.mem_singleton.mp hentry
  have hinstance := (Machine.isSubclass_iff _).mpr hback
  cases hinstance

theorem lookupFrom_point :
    (Machine.holding program).lookupFrom (some point.name) .equals =
      some (point.equalsMethod default).body := rfl

theorem lookupFrom_tinted :
    (Machine.holding program).lookupFrom (some tinted.name) .equals =
      some (tinted.equalsMethod default).body := rfl

def plain : ObjectRef := ⟨1, point.name⟩

def red : ObjectRef := ⟨2, tinted.name⟩

def heap : Heap :=
  ⟨[.object (.ofList [("x", .int 1)]), .object (.ofList [("x", .int 1), ("tint", .text "red")])]⟩

end Tinted

theorem Machine.apart_iff_tinted :
    ¬ (holding Tinted.program).Apart Tinted.point.name Tinted.tinted.name ∧
      (holding Tinted.program).Apart Tinted.tinted.name Tinted.point.name := by
  constructor
  · intro hapart
    refine (apart_iff Tinted.isProgram.fromEngine (by decide)).mp hapart ?_
    exact .pass Tinted.lookupFrom_point rfl nofun
  · refine (apart_iff Tinted.isProgram.fromEngine (by decide)).mpr ?_
    rintro ⟨hbody, hinstance, -⟩
    rw [Tinted.lookupFrom_tinted, Option.some.injEq] at hbody
    rw [← ClassDecl.equalsMethod_body_inj hbody] at hinstance
    cases hinstance

/-- A point equals a tinted point that does not equal it and has another hash. -/
theorem not_apart_tinted :
    let m := Machine.holding Tinted.program
    let equals := fun a b depth => m.equals depth (.object a) (.object b)
    let hash := fun a depth => m.hash depth (.object a)
    IsProgram Tinted.program ∧ (∀ cls, ¬ Relation.TransGen m.Parent cls cls) ∧
      Tinted.plain.cls ≠ Tinted.red.cls ∧
      (∀ r ∈ [Tinted.plain, Tinted.red], ∀ member ∈ [Member.equals, Member.hash],
        (m.bodies.get? (r.cls, member)).isSome = true) ∧
      Ends (equals Tinted.plain Tinted.red) Tinted.heap (.ok true) Tinted.heap ∧
      Ends (equals Tinted.red Tinted.plain) Tinted.heap (.ok false) Tinted.heap ∧
      ∃ x y, Ends (hash Tinted.plain) Tinted.heap (.ok x) Tinted.heap ∧
        Ends (hash Tinted.red) Tinted.heap (.ok y) Tinted.heap ∧ x ≠ y := by
  refine ⟨Tinted.isProgram, Tinted.acyclic, by decide, by decide, ⟨2, rfl⟩, ⟨2, rfl⟩, 528, 113312,
    ⟨2, rfl⟩, ⟨2, rfl⟩, by decide⟩

end Memberwise
