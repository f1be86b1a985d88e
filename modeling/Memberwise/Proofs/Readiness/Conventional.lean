import Memberwise.Proofs.Readiness.Building

/-!
# The conventional builder

The builder that a user is expected to declare passes every check of a class that could take any
builder at all, and nothing is reported on it. The one exception is a parameter called `build`: its
setter is then checked as the method that makes the instance.
-/

namespace Memberwise

namespace Readiness

variable {c : ClassDecl} {strictness : Strictness}

def conventionalSetter (c : ClassDecl) (p : Parameter) : BuilderMethod :=
  { name := p.name, params := [p.type], returns := (BuilderDecl.conventional c).selfType,
    location := .unknown }

def conventionalBuild (c : ClassDecl) : BuilderMethod :=
  { name := buildMethod, params := [], returns := c.selfType, location := .unknown }

theorem methods_conventional (c : ClassDecl) :
    (BuilderDecl.conventional c).methods =
      c.params.map (conventionalSetter c) ++ [conventionalBuild c] := rfl

theorem isNone_method?_conventional {p : Parameter} (hp : p ∈ c.params) :
    ((BuilderDecl.conventional c).method? p.name).isNone = false := by
  refine BuilderDecl.isNone_method?.mpr ⟨conventionalSetter c p, ?_, rfl⟩
  rw [methods_conventional]
  exact List.mem_append_left _ (List.mem_map_of_mem hp)

theorem isNone_method?_build (c : ClassDecl) :
    ((BuilderDecl.conventional c).method? buildMethod).isNone = false := by
  refine BuilderDecl.isNone_method?.mpr ⟨conventionalBuild c, ?_, rfl⟩
  rw [methods_conventional]
  exact List.mem_append_right _ (List.mem_singleton.mpr rfl)

section

variable {p : Parameter} (hp : p ∈ c.params)

include hp

/-- A setter is checked against the first parameter of its name, which has the same type. -/
theorem checkMethod_conventionalSetter (hfits : c.FitsBuilding (.conventional c))
    (hname : p.name ≠ buildMethod) :
    checkMethod c (.conventional c) strictness (conventionalSetter c p) = [] := by
  obtain ⟨q, hfind⟩ : ∃ q, c.params.find? (·.name = p.name) = some q := by
    rw [← Option.isSome_iff_exists, List.find?_isSome]
    exact ⟨p, hp, decide_eq_true rfl⟩
  have hq : q ∈ c.params := List.mem_of_find?_eq_some hfind
  have hqname : q.name = p.name := by simpa using List.find?_some hfind
  have htype : p.type = q.type := hfits.type_eq hp hq hqname.symm
  have hnamed : (conventionalSetter c p).name = p.name := rfl
  rw [checkMethod, hnamed, if_neg hname, hfind]
  simp [checkSetter, conventionalSetter, htype]

/-- A setter called `build` is held to be the method that makes the instance. -/
theorem hasErrors_checkMethods_of_name (hname : p.name = buildMethod) :
    (checkMethods c (.conventional c) strictness).hasErrors = true := by
  have hsetter : conventionalSetter c p ∈ (BuilderDecl.conventional c).methods := by
    rw [methods_conventional]
    exact List.mem_append_left _ (List.mem_map_of_mem hp)
  have hnamed : (conventionalSetter c p).name = buildMethod := hname
  rw [← Bool.not_eq_false, checkMethods, Diagnostics.hasErrors_append,
    Diagnostics.hasErrors_append, Bool.or_eq_false_iff, Bool.or_eq_false_iff,
    Diagnostics.hasErrors_flatMap_eq_false]
  rintro ⟨⟨hmethods, -⟩, -⟩
  have hsilent := hmethods _ hsetter
  rw [checkMethod, if_pos hnamed, hasErrors_checkBuild] at hsilent
  cases hsilent.1

end

theorem checkMethods_conventional (hfits : c.FitsBuilding (.conventional c))
    (hbuild : ∀ p ∈ c.params, p.name ≠ buildMethod) :
    checkMethods c (.conventional c) strictness = [] := by
  have hsetters (m : BuilderMethod) (hm : m ∈ (BuilderDecl.conventional c).methods) :
      checkMethod c (.conventional c) strictness m = [] := by
    rw [methods_conventional] at hm
    rcases List.mem_append.mp hm with hm | hm
    · obtain ⟨p, hp, rfl⟩ := List.mem_map.mp hm
      exact checkMethod_conventionalSetter hp hfits (hbuild p hp)
    · obtain rfl := List.mem_singleton.mp hm
      simp [checkMethod, conventionalBuild, checkBuild]
  have hmissing (p : Parameter) (hp : p ∈ c.params) :
      checkMissingSetter (.conventional c) p = [] := by
    rw [checkMissingSetter, isNone_method?_conventional hp]
    rfl
  rw [checkMethods, List.flatMap_eq_nil_iff.mpr hsetters, List.flatMap_eq_nil_iff.mpr hmissing,
    isNone_method?_build]
  rfl

theorem ready_conventional_iff (hmark : c.annotations.buildable = true)
    (hbuilder : c.builder = some (.conventional c)) :
    (checkBuilding c strictness).verdict = .ready ↔
      c.FitsBuilding (.conventional c) ∧ ∀ p ∈ c.params, p.name ≠ buildMethod := by
  rw [ready_of_builder_iff hmark hbuilder]
  refine and_congr_right fun hfits => ?_
  constructor
  · intro hnone p hp hname
    rw [hasErrors_checkMethods_of_name hp hname] at hnone
    cases hnone
  · intro hbuild
    rw [checkMethods_conventional hfits hbuild]
    rfl

end Readiness

theorem ClassDecl.fitsBuilding_conventional_iff {c : ClassDecl} :
    c.FitsBuilding (.conventional c) ↔
      (c.kind = .plain ∨ c.kind = .data) ∧ c.modifiers = .none ∧ c.params ≠ [] ∧
      ∀ p ∈ c.params, ∃ q, c.property? p.name = some q ∧
        (q.storage = .backed ∨ q.storage = .deferred) ∧ q.type = p.type := by
  constructor
  · intro hfits
    exact ⟨hfits.kind, hfits.modifiers, hfits.params, hfits.stored⟩
  · rintro ⟨hkind, hmodifiers, hparams, hstored⟩
    exact ⟨rfl, rfl, hkind, hmodifiers, hparams, hstored⟩

/-- When a class with the conventional builder is ready, and that it is whenever the class is ready
with any builder, unless a parameter is called `build`. -/
theorem checkFamily_conventional {c : ClassDecl} (hmark : c.annotations.buildable = true)
    (hbuilder : c.builder = some (.conventional c)) (strictness : Strictness) :
    let report := checkFamily c strictness .building
    let unclashing := ∀ p ∈ c.params, p.name ≠ buildMethod
    (report.verdict = .ready ↔
      (c.kind = .plain ∨ c.kind = .data) ∧ c.modifiers = .none ∧ c.params ≠ [] ∧
      (∀ p ∈ c.params, ∃ q, c.property? p.name = some q ∧
        (q.storage = .backed ∨ q.storage = .deferred) ∧ q.type = p.type) ∧ unclashing) ∧
    (report.verdict = .ready → report.diagnostics = []) ∧
    ∀ b, (checkFamily { c with builder := some b } strictness .building).verdict = .ready →
      (report.verdict = .ready ↔ unclashing) := by
  intro report unclashing
  have hready : report.verdict = .ready ↔ c.FitsBuilding (.conventional c) ∧ unclashing :=
    Readiness.ready_conventional_iff hmark hbuilder
  refine ⟨?_, ?_, ?_⟩
  · rw [hready, ClassDecl.fitsBuilding_conventional_iff]
    simp only [and_assoc]
  · intro hverdict
    obtain ⟨hfits, hbuild⟩ := hready.mp hverdict
    change (Readiness.checkBuilding c strictness).diagnostics = []
    rw [Readiness.checkBuilding_of_builder hmark hbuilder,
      Readiness.shapeProblem_eq_none_iff.mpr hfits]
    exact Readiness.checkMethods_conventional hfits hbuild
  · intro b hb
    obtain ⟨hother, -⟩ :=
      (Readiness.ready_of_builder_iff (c := { c with builder := some b }) hmark rfl).mp hb
    have hfits : c.FitsBuilding (.conventional c) := ClassDecl.fitsBuilding_conventional_iff.mpr
      ⟨hother.kind, hother.modifiers, hother.params, hother.stored⟩
    rw [hready]
    exact and_iff_right hfits

namespace Crate

def label : Parameter := ⟨"label", .string, none, .unknown⟩

def count : Parameter := ⟨"count", .int, some (.literal (.int 1)), .unknown⟩

def made (params : List Parameter) : ClassDecl :=
  let shape := (ClassDecl.empty ⟨"Crate"⟩ .data).withProperty (.deferred "label" .string)
  let declared :=
    { shape.withPrimary params with annotations := { Annotations.none with buildable := true } }
  { declared with builder := some (.conventional declared) }

end Crate

/-- Two parameters may share a name, but none may be called `build`. -/
theorem checkFamily_conventional_crate :
    (∀ strictness,
      let report :=
        checkFamily (Crate.made [Crate.label, Crate.count, Crate.label]) strictness .building
      report.verdict = .ready ∧ report.diagnostics = []) ∧
    (checkFamily (Crate.made [{ Crate.count with name := buildMethod }]) .lenient
      .building).verdict ≠ .ready := by
  constructor
  · intro strictness
    obtain ⟨hready, hsilent, -⟩ := checkFamily_conventional
      (c := Crate.made [Crate.label, Crate.count, Crate.label]) rfl rfl strictness
    have hverdict := hready.mpr ⟨.inr rfl, rfl, by decide, ?_, by decide⟩
    · exact ⟨hverdict, hsilent hverdict⟩
    · intro p hp
      have hp : p ∈ [Crate.label, Crate.count, Crate.label] := hp
      simp only [List.mem_cons, List.not_mem_nil, or_false] at hp
      rcases hp with rfl | rfl | rfl
      · exact ⟨_, rfl, .inr rfl, rfl⟩
      · exact ⟨_, rfl, .inl rfl, rfl⟩
      · exact ⟨_, rfl, .inr rfl, rfl⟩
  · intro hverdict
    have hclash := (checkFamily_conventional
      (c := Crate.made [{ Crate.count with name := buildMethod }]) rfl rfl .lenient).1.mp hverdict
    obtain ⟨-, -, -, -, hbuild⟩ := hclash
    exact hbuild _ List.mem_cons_self rfl

end Memberwise
