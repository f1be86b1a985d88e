import Mathlib.Data.List.Basic
import Memberwise.Proofs.Readiness.Reports

/-!
# Readiness for building as a condition on the two classes

Each check is an equivalence: it reports no error exactly where the part of the two declarations
that it looks at has the shape that it asks for. The checks of the shape stop at the first problem
and those of the methods go on; for the verdict this makes no difference.
-/

namespace Memberwise

namespace ClassDecl

variable (c : ClassDecl) (b : BuilderDecl)

/-- What is asked of the two classes and of the constructor. -/
structure FitsBuilding : Prop where
  builder_kind : b.kind = .plain
  builder_modifiers : b.modifiers = .none
  kind : c.kind = .plain ∨ c.kind = .data
  modifiers : c.modifiers = .none
  params : c.params ≠ []
  stored : ∀ p ∈ c.params, ∃ q, c.property? p.name = some q ∧
    (q.storage = .backed ∨ q.storage = .deferred) ∧ q.type = p.type

/-- What is asked of the methods of the builder. A name may be declared several times. -/
structure OffersBuilding (strictness : Strictness) : Prop where
  setter : ∀ p ∈ c.params, ∃ m ∈ b.methods, m.name = p.name
  setters : ∀ p ∈ c.params, ∀ m ∈ b.methods, m.name = p.name →
    m.params = [p.type] ∧ m.returns = b.selfType
  build : ∃ m ∈ b.methods, m.name = buildMethod
  builds : ∀ m ∈ b.methods, m.name = buildMethod → m.params = [] ∧ m.returns = c.selfType
  others : strictness = .strict →
    ∀ m ∈ b.methods, m.name = buildMethod ∨ ∃ p ∈ c.params, m.name = p.name

def TakesBuilding (strictness : Strictness) : Prop :=
  c.annotations.buildable = true ∧
    ∃ b, c.builder = some b ∧ c.FitsBuilding b ∧ c.OffersBuilding b strictness

end ClassDecl

theorem Property.hasField_iff {p : Property} :
    p.hasField = true ↔ p.storage = .backed ∨ p.storage = .deferred := by
  unfold hasField
  cases p.storage <;> decide

theorem BuilderDecl.isNone_method? {b : BuilderDecl} {name : String} :
    (b.method? name).isNone = false ↔ ∃ m ∈ b.methods, m.name = name := by
  simp [method?]

/-- Parameters of one name have the type of the first property of this name. -/
theorem ClassDecl.FitsBuilding.type_eq {c : ClassDecl} {b : BuilderDecl} (hfits : c.FitsBuilding b)
    {p q : Parameter} (hp : p ∈ c.params) (hq : q ∈ c.params) (hname : p.name = q.name) :
    p.type = q.type := by
  obtain ⟨r, hr, -, hptype⟩ := hfits.stored p hp
  obtain ⟨r', hr', -, hqtype⟩ := hfits.stored q hq
  rw [hname, hr', Option.some.injEq] at hr
  rw [← hptype, ← hqtype, hr]

namespace Readiness

variable {c : ClassDecl} {b : BuilderDecl} {strictness : Strictness}

theorem isStoredProperty_iff {p : Parameter} :
    isStoredProperty c p = true ↔ ∃ q, c.property? p.name = some q ∧
      (q.storage = .backed ∨ q.storage = .deferred) ∧ q.type = p.type := by
  simp [isStoredProperty, Option.any_eq_true, Property.hasField_iff]

theorem shapeProblem_eq_none_iff : shapeProblem c b = none ↔ c.FitsBuilding b := by
  unfold shapeProblem
  constructor
  · intro hnone
    split at hnone
    · cases hnone
    · rename_i hbuilder
      split at hnone
      · cases hnone
      · rename_i hregular
        split at hnone
        · cases hnone
        · rename_i hparams
          have hbuilder : b.kind = .plain ∧ b.modifiers = .none := by
            simpa [Modifiers.arePlain] using hbuilder
          have hregular := ClassDecl.isPlainRegular_iff.mp (by simpa using hregular)
          have hstored : ∀ p ∈ c.params, isStoredProperty c p = true := by
            simpa using hnone
          exact ⟨hbuilder.1, hbuilder.2, hregular.1, hregular.2, hparams,
            fun p hp => isStoredProperty_iff.mp (hstored p hp)⟩
  · intro hfits
    have hregular : c.isPlainRegular = true :=
      ClassDecl.isPlainRegular_iff.mpr ⟨hfits.kind, hfits.modifiers⟩
    have hstored : ∀ p ∈ c.params, isStoredProperty c p = true :=
      fun p hp => isStoredProperty_iff.mpr (hfits.stored p hp)
    simpa [hfits.builder_kind, hfits.builder_modifiers, Modifiers.arePlain, hregular,
      hfits.params] using hstored

theorem isError_of_shapeProblem {d : Diagnostic} (hproblem : shapeProblem c b = some d) :
    d.isError = true := by
  unfold shapeProblem at hproblem
  split at hproblem
  · cases hproblem
    rfl
  · split at hproblem
    · cases hproblem
      rfl
    · split at hproblem
      · cases hproblem
        rfl
      · obtain ⟨p, -, rfl⟩ := Option.map_eq_some_iff.mp hproblem
        rfl

theorem hasErrors_checkBuild {m : BuilderMethod} :
    (checkBuild c m).hasErrors = false ↔ m.params = [] ∧ m.returns = c.selfType := by
  unfold checkBuild
  split
  · rename_i hwrong
    simpa [or_iff_not_imp_left] using hwrong
  · rename_i hright
    simpa using hright

theorem hasErrors_checkSetter {p : Parameter} {m : BuilderMethod} :
    (checkSetter b p m).hasErrors = false ↔ m.params = [p.type] ∧ m.returns = b.selfType := by
  unfold checkSetter
  by_cases hreturns : m.returns = b.selfType
  · match hparams : m.params with
    | [] => simp [hreturns]
    | [type] => by_cases htype : type = p.type <;> simp [hreturns, htype]
    | _ :: _ :: _ => simp [hreturns]
  · simp [hreturns]

theorem hasErrors_checkUnrecognized {m : BuilderMethod} :
    (checkUnrecognized strictness m).hasErrors = false ↔ strictness ≠ .strict := by
  cases strictness with
  | lenient =>
    have hwarning := hasErrors_report_of_ne (show Severity.warning ≠ .error by decide)
      (.unrecognizedIgnored m.name) m.location
    exact iff_of_true hwarning (by decide)
  | strict => exact iff_of_false (by simp [checkUnrecognized]) (by simp)

theorem hasErrors_missing {name : String} {problem : Problem} :
    Diagnostics.hasErrors (if (b.method? name).isNone then [problem.report .error b.location]
      else []) = false ↔ ∃ m ∈ b.methods, m.name = name := by
  cases hmissing : (b.method? name).isNone with
  | true => simp [← BuilderDecl.isNone_method?, hmissing]
  | false => simpa using BuilderDecl.isNone_method?.mp hmissing

section

variable (hfits : c.FitsBuilding b) (hbuild : ∀ p ∈ c.params, p.name ≠ buildMethod)

include hfits hbuild

/-- The parameter that the check finds stands for every other of its name. -/
theorem hasErrors_checkMethod {m : BuilderMethod} :
    (checkMethod c b strictness m).hasErrors = false ↔
      (m.name = buildMethod → m.params = [] ∧ m.returns = c.selfType) ∧
      (∀ p ∈ c.params, m.name = p.name → m.params = [p.type] ∧ m.returns = b.selfType) ∧
      (strictness = .strict → m.name = buildMethod ∨ ∃ p ∈ c.params, m.name = p.name) := by
  unfold checkMethod
  by_cases hname : m.name = buildMethod
  · have hsetters : ∀ p ∈ c.params, m.name ≠ p.name := by
      intro p hp heq
      exact hbuild p hp (heq.symm.trans hname)
    rw [if_pos hname, hasErrors_checkBuild]
    constructor
    · intro hshape
      exact ⟨fun _ => hshape, fun p hp heq => absurd heq (hsetters p hp), fun _ => .inl hname⟩
    · rintro ⟨hshape, -, -⟩
      exact hshape hname
  · rw [if_neg hname]
    cases hfind : c.params.find? (·.name = m.name) with
    | some p =>
      have hp : p ∈ c.params := List.mem_of_find?_eq_some hfind
      have hpname : p.name = m.name := by simpa using List.find?_some hfind
      simp only [hasErrors_checkSetter]
      constructor
      · intro hshape
        refine ⟨fun heq => absurd heq hname, ?_, fun _ => .inr ⟨p, hp, hpname.symm⟩⟩
        intro q hq hqname
        rw [← hfits.type_eq hp hq (hpname.trans hqname)]
        exact hshape
      · rintro ⟨-, hsetters, -⟩
        exact hsetters p hp hpname.symm
    | none =>
      have hsetters : ∀ p ∈ c.params, m.name ≠ p.name := by
        intro p hp heq
        have hnot := List.find?_eq_none.mp hfind p hp
        exact hnot (by simpa using heq.symm)
      simp only [hasErrors_checkUnrecognized]
      constructor
      · intro hlenient
        exact ⟨fun heq => absurd heq hname, fun p hp heq => absurd heq (hsetters p hp),
          fun hstrict => absurd hstrict hlenient⟩
      · rintro ⟨-, -, hothers⟩ hstrict
        obtain heq | ⟨p, hp, heq⟩ := hothers hstrict
        · exact hname heq
        · exact hsetters p hp heq

theorem hasErrors_checkMethods :
    (checkMethods c b strictness).hasErrors = false ↔ c.OffersBuilding b strictness := by
  rw [checkMethods, Diagnostics.hasErrors_append, Diagnostics.hasErrors_append,
    Bool.or_eq_false_iff, Bool.or_eq_false_iff, hasErrors_missing,
    Diagnostics.hasErrors_flatMap_eq_false, Diagnostics.hasErrors_flatMap_eq_false]
  simp only [hasErrors_checkMethod hfits hbuild, checkMissingSetter, hasErrors_missing]
  constructor
  · rintro ⟨⟨hmethods, hsetter⟩, hmake⟩
    exact {
      setter := hsetter
      setters := fun p hp m hm => (hmethods m hm).2.1 p hp
      build := hmake
      builds := fun m hm => (hmethods m hm).1
      others := fun hstrict m hm => (hmethods m hm).2.2 hstrict }
  · intro hoffers
    refine ⟨⟨?_, hoffers.setter⟩, hoffers.build⟩
    intro m hm
    exact ⟨hoffers.builds m hm, fun p hp => hoffers.setters p hp m hm,
      fun hstrict => hoffers.others hstrict m hm⟩

end

theorem checkBuilding_of_builder (hmark : c.annotations.buildable = true)
    (hbuilder : c.builder = some b) :
    checkBuilding c strictness =
      .conclude .building ((shapeProblem c b).elim (checkMethods c b strictness) ([·])) := by
  simp only [checkBuilding, hbuilder, hmark]
  cases shapeProblem c b <;> rfl

theorem ready_of_builder_iff (hmark : c.annotations.buildable = true)
    (hbuilder : c.builder = some b) :
    (checkBuilding c strictness).verdict = .ready ↔
      c.FitsBuilding b ∧ (checkMethods c b strictness).hasErrors = false := by
  rw [checkBuilding_of_builder hmark hbuilder, Report.ready_conclude_iff,
    ← shapeProblem_eq_none_iff]
  cases hshape : shapeProblem c b with
  | some d => simp [Diagnostics.hasErrors, isError_of_shapeProblem hshape]
  | none => simp

theorem ready_checkBuilding_iff (hbuild : ∀ p ∈ c.params, p.name ≠ buildMethod) :
    (checkBuilding c strictness).verdict = .ready ↔ c.TakesBuilding strictness := by
  cases hbuilder : c.builder with
  | none =>
    have htakes : ¬ c.TakesBuilding strictness := by
      rintro ⟨-, b, hb, -⟩
      cases hbuilder.symm.trans hb
    unfold checkBuilding
    rw [hbuilder]
    cases c.annotations.buildable <;>
      simp [Report.notRequested, Report.ready_conclude_iff, htakes]
  | some b =>
    cases hmark : c.annotations.buildable with
    | false =>
      have htakes : ¬ c.TakesBuilding strictness := by
        rintro ⟨hbuildable, -⟩
        cases hmark.symm.trans hbuildable
      simp [checkBuilding, hbuilder, hmark, Report.ready_conclude_iff, htakes]
    | true =>
      have htakes :
          c.TakesBuilding strictness ↔ c.FitsBuilding b ∧ c.OffersBuilding b strictness := by
        simp [ClassDecl.TakesBuilding, hmark, hbuilder]
      rw [htakes, ready_of_builder_iff hmark hbuilder]
      exact and_congr_right fun hfits => hasErrors_checkMethods hfits hbuild

theorem notRequested_checkBuilding_iff :
    (checkBuilding c strictness).verdict = .notRequested ↔
      c.annotations.buildable = false ∧ c.builder = none := by
  unfold checkBuilding
  cases c.builder <;> cases c.annotations.buildable <;>
    simp [Report.notRequested, Report.conclude_ne]

theorem checkBuilding_ne_skipped : (checkBuilding c strictness).verdict ≠ .skipped := by
  unfold checkBuilding
  cases c.builder <;> cases c.annotations.buildable <;>
    simp [Report.notRequested, Report.conclude_ne]

end Readiness

/-- Building is ready exactly where the two declarations have the shape that is asked for, it is
not requested exactly where there is neither the mark nor a builder, and it is refused in every
other case. -/
theorem checkFamily_building (c : ClassDecl) (strictness : Strictness)
    (hbuild : ∀ p ∈ c.params, p.name ≠ buildMethod) :
    let verdict := (checkFamily c strictness .building).verdict
    (verdict = .ready ↔ c.TakesBuilding strictness) ∧
      (verdict = .notRequested ↔ c.annotations.buildable = false ∧ c.builder = none) ∧
      (verdict = .rejected ↔ ¬ c.TakesBuilding strictness ∧
        ¬ (c.annotations.buildable = false ∧ c.builder = none)) := by
  intro verdict
  have hready : verdict = .ready ↔ _ := Readiness.ready_checkBuilding_iff hbuild
  have hnot : verdict = .notRequested ↔ _ := Readiness.notRequested_checkBuilding_iff
  have hskipped : verdict ≠ .skipped := Readiness.checkBuilding_ne_skipped
  refine ⟨hready, hnot, ?_⟩
  rw [← hready, ← hnot]
  cases hverdict : verdict with
  | skipped => exact absurd hverdict hskipped
  | notRequested | rejected | ready => simp

namespace Parcel

def weight : Parameter := ⟨"weight", .int, none, .unknown⟩

def note : Parameter := ⟨"note", .orNull "String", none, .unknown⟩

def shape : ClassDecl :=
  { (ClassDecl.empty ⟨"Parcel"⟩ .data).withPrimary [weight, note] with
    annotations := { Annotations.none with buildable := true } }

def builder : BuilderDecl :=
  let expected := BuilderDecl.conventional shape
  { expected with
    methods := expected.methods ++
      [⟨"note", [note.type], expected.selfType, ⟨4⟩⟩, ⟨"reset", [], expected.selfType, ⟨5⟩⟩] }

def cls : ClassDecl := { shape with builder := some builder }

theorem fits : cls.FitsBuilding builder where
  builder_kind := rfl
  builder_modifiers := rfl
  kind := .inr rfl
  modifiers := rfl
  params := by decide
  stored p hp := by
    have hp : p ∈ [weight, note] := hp
    obtain rfl | rfl : p = weight ∨ p = note := by simpa using hp
    · exact ⟨.ofConstructor "weight" .int, by decide⟩
    · exact ⟨.ofConstructor "note" (.orNull "String"), by decide⟩

theorem offers : cls.OffersBuilding builder .lenient where
  setter := by decide
  setters := by decide
  build := by decide
  builds := by decide
  others := by decide

theorem not_takes_strict : ¬ cls.TakesBuilding .strict := by
  rintro ⟨-, b, hb, -, hoffers⟩
  cases hb
  have hothers := hoffers.others rfl
  revert hothers
  decide

end Parcel

/-- A method that is neither a setter nor `build` decides between the two strictnesses. -/
theorem checkFamily_building_parcel :
    (checkFamily Parcel.cls .lenient .building).verdict = .ready ∧
      (checkFamily Parcel.cls .strict .building).verdict = .rejected := by
  have hbuild : ∀ p ∈ Parcel.cls.params, p.name ≠ buildMethod := by decide
  constructor
  · exact (checkFamily_building Parcel.cls .lenient hbuild).1.mpr
      ⟨rfl, Parcel.builder, rfl, Parcel.fits, Parcel.offers⟩
  · refine (checkFamily_building Parcel.cls .strict hbuild).2.2.mpr ⟨Parcel.not_takes_strict, ?_⟩
    rintro ⟨hmark, -⟩
    cases hmark

end Memberwise
