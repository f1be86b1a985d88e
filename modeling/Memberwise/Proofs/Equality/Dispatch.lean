import Memberwise.Proofs.Equality.Bodies
import Memberwise.Proofs.Machine.Ancestry
import Memberwise.Proofs.Machine.Program

/-!
# Which equality answers

A class that compares has both bodies, made from one list of participants. From a class upwards the
first class that compares answers for equality and for the hash alike; above all of them the root
answers by identity.
-/

namespace Memberwise

namespace ClassDecl

def participants (c : ClassDecl) (family : Family) : List Participant :=
  ((c.resolution? family).map (·.participants)).getD []

def equalsMethod (c : ClassDecl) (options : EqualityOptions) : Method :=
  Synthesis.equals c.name c.superclass options (c.participants .equality)

def hashMethod (c : ClassDecl) (options : EqualityOptions) : Method :=
  Synthesis.hash c.name c.superclass options (c.participants .equality)

end ClassDecl

/-- Classes whose bodies of equality are alike are the same class. -/
theorem ClassDecl.equalsMethod_body_inj {c d : ClassDecl} {options options' : EqualityOptions}
    (hbody : (c.equalsMethod options).body = (d.equalsMethod options').body) : c.name = d.name := by
  have hstmts : Synthesis.equalsStmts c.name c.superclass options (c.participants .equality) =
      Synthesis.equalsStmts d.name d.superclass options' (d.participants .equality) :=
    congrArg Body.stmts hbody
  rw [Machine.equalsStmts_eq, Machine.equalsStmts_eq] at hstmts
  cases hcall : options.callSuper <;> cases hcall' : options'.callSuper <;>
    simp_all [Machine.ownStmts, Synthesis.askSuper]

theorem freshFamily_equality (strictness : Strictness) {c : ClassDecl}
    (hready : (Readiness.checkEquality c).isReady = true) :
    ∃ options, c.annotations.equality = some options ∧
      freshFamily strictness c .equality = [c.equalsMethod options, c.hashMethod options] := by
  have hready : (checkFamily c strictness .equality).isReady = true := hready
  obtain ⟨options, hoptions⟩ := exists_equality_of_ready hready
  refine ⟨options, hoptions, ?_⟩
  rw [freshFamily, if_pos hready]
  simp only [membersOf, List.filterMap_cons, freshMember, hoptions, ClassDecl.resolution?,
    InclusionPolicy.ofClass?, Option.map_some, Except.toOption, List.filterMap_nil,
    ClassDecl.equalsMethod, ClassDecl.hashMethod, ClassDecl.participants, Option.getD_some,
    equalityMethod]
  rfl

namespace ClassSynthesis

theorem exists_bodyOf?_of_ready (strictness : Strictness) {c : ClassDecl}
    (hready : (Readiness.checkEquality c).isReady = true) :
    ∃ options, c.annotations.equality = some options ∧
      (fresh strictness c).bodyOf? .equals = some (c.equalsMethod options).body ∧
      (fresh strictness c).bodyOf? .hash = some (c.hashMethod options).body := by
  obtain ⟨options, hoptions, hfamily⟩ := freshFamily_equality strictness hready
  refine ⟨options, hoptions, ?_, ?_⟩ <;>
    rw [bodyOf?_fresh, Member.family, hfamily] <;>
    rfl

theorem bodyOf?_of_not_ready (strictness : Strictness) {c : ClassDecl}
    (hready : ¬ (Readiness.checkEquality c).isReady = true) :
    (fresh strictness c).bodyOf? .equals = none ∧ (fresh strictness c).bodyOf? .hash = none := by
  have hfamily : freshFamily strictness c .equality = [] := if_neg hready
  constructor <;>
    rw [bodyOf?_fresh, Member.family, hfamily] <;>
    rfl

end ClassSynthesis

namespace Machine

/-- `c` is installed and compares its instances under `options`. -/
structure Compares (m : Machine) (c : ClassDecl) (options : EqualityOptions) : Prop where
  requested : c.annotations.equality = some options
  ready : (Readiness.checkEquality c).isReady = true
  equals : m.bodies.get? (c.name, .equals) = some (c.equalsMethod options).body
  hash : m.bodies.get? (c.name, .hash) = some (c.hashMethod options).body
  parent : m.parents.get? c.name = c.superclass

end Machine

namespace IsProgram

variable {ss : List ClassSynthesis} (hss : IsProgram ss)

include hss

/-- A class that is ready has the bodies made from its own declaration. -/
theorem compares_of_mem {strictness : Strictness} {c : ClassDecl}
    (hmem : .fresh strictness c ∈ ss) (hready : (Readiness.checkEquality c).isReady = true) :
    ∃ options, (Machine.holding ss).Compares c options := by
  have hfind : ss.find? (·.cls = c.name) = some (.fresh strictness c) := hss.find?_of_mem hmem
  have hequals := hss.get?_bodies c.name (show Member.equals.family ≠ .building by decide)
  have hhash := hss.get?_bodies c.name (show Member.hash.family ≠ .building by decide)
  have hparent := hss.get?_parents c.name
  obtain ⟨options, hoptions, hequals', hhash'⟩ :=
    ClassSynthesis.exists_bodyOf?_of_ready strictness hready
  rw [hfind, Option.bind_some] at hequals hhash hparent
  exact ⟨options, hoptions, hready, hequals.trans hequals', hhash.trans hhash', hparent⟩

/-- A class has both bodies or neither. -/
theorem compares_or_none (cls : ClassName) :
    ((Machine.holding ss).bodies.get? (cls, .equals) = none ∧
      (Machine.holding ss).bodies.get? (cls, .hash) = none) ∨
    ∃ c options, c.name = cls ∧ (Machine.holding ss).Compares c options := by
  have hequals := hss.get?_bodies cls (show Member.equals.family ≠ .building by decide)
  have hhash := hss.get?_bodies cls (show Member.hash.family ≠ .building by decide)
  cases hfind : ss.find? (·.cls = cls) with
  | none =>
    rw [hfind] at hequals hhash
    exact .inl ⟨hequals, hhash⟩
  | some s =>
    have hcls : s.cls = cls := by simpa using List.find?_some hfind
    have hmem := List.mem_of_find?_eq_some hfind
    obtain ⟨strictness, c, rfl⟩ := (hss.fromEngine s hmem).eq_fresh
    by_cases hready : (Readiness.checkEquality c).isReady = true
    · obtain ⟨options, hc⟩ := hss.compares_of_mem hmem hready
      exact .inr ⟨c, options, hcls, hc⟩
    · rw [hfind, Option.bind_some] at hequals hhash
      have hnone := ClassSynthesis.bodyOf?_of_not_ready strictness hready
      exact .inl ⟨hequals.trans hnone.1, hhash.trans hnone.2⟩

end IsProgram

namespace Machine

variable (m : Machine)

def lookupFrom (start : Option ClassName) (member : Member) : Option Body :=
  start.bind fun cls => m.lookup cls member

/-- From `start` upwards, `c` is the first class that compares. -/
structure ComparesFrom (start : Option ClassName) (c : ClassDecl) (options : EqualityOptions) :
    Prop where
  compares : m.Compares c options
  above : ∀ cls, start = some cls → m.isSubclass cls c.name = true
  equals : m.lookupFrom start .equals = some (c.equalsMethod options).body
  hash : m.lookupFrom start .hash = some (c.hashMethod options).body

variable {m}

theorem Compares.comparesFrom {c : ClassDecl} {options : EqualityOptions}
    (hc : m.Compares c options) : m.ComparesFrom (some c.name) c options := by
  refine ⟨hc, ?_, lookup_of_get?_bodies hc.equals, lookup_of_get?_bodies hc.hash⟩
  rintro _ ⟨⟩
  exact m.isSubclass_refl c.name

end Machine

theorem IsProgram.findSome?_compares {ss : List ClassSynthesis} (hss : IsProgram ss)
    (classes : List ClassName) :
    (classes.findSome? fun c => (Machine.holding ss).bodies.get? (c, .equals)) = none ∧
      (classes.findSome? fun c => (Machine.holding ss).bodies.get? (c, .hash)) = none ∨
    ∃ c options, (Machine.holding ss).Compares c options ∧ c.name ∈ classes ∧
      (classes.findSome? fun c => (Machine.holding ss).bodies.get? (c, .equals)) =
        some (c.equalsMethod options).body ∧
      (classes.findSome? fun c => (Machine.holding ss).bodies.get? (c, .hash)) =
        some (c.hashMethod options).body := by
  induction classes with
  | nil => exact .inl ⟨rfl, rfl⟩
  | cons cls classes ih =>
    rw [List.findSome?_cons, List.findSome?_cons]
    rcases hss.compares_or_none cls with ⟨hequals, hhash⟩ | ⟨c, options, rfl, hc⟩
    · rw [hequals, hhash]
      rcases ih with hnone | ⟨c, options, hc, hmem, hboth⟩
      · exact .inl hnone
      · exact .inr ⟨c, options, hc, List.mem_cons_of_mem cls hmem, hboth⟩
    · rw [hc.equals, hc.hash]
      exact .inr ⟨c, options, hc, List.mem_cons_self, rfl, rfl⟩

theorem IsProgram.comparesFrom_or_none {ss : List ClassSynthesis} (hss : IsProgram ss)
    (start : Option ClassName) :
    (Machine.holding ss).lookupFrom start .equals = none ∧
      (Machine.holding ss).lookupFrom start .hash = none ∨
    ∃ c options, (Machine.holding ss).ComparesFrom start c options := by
  cases start with
  | none => exact .inl ⟨rfl, rfl⟩
  | some cls =>
    rcases hss.findSome?_compares ((Machine.holding ss).ancestry cls) with
      hnone | ⟨c, options, hc, hmem, hequals, hhash⟩
    · exact .inl hnone
    · refine .inr ⟨c, options, hc, ?_, hequals, hhash⟩
      intro _ hstart
      cases hstart
      exact (Machine.mem_ancestry_iff_isSubclass _).mp hmem

end Memberwise
