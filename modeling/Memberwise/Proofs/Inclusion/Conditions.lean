import Mathlib.Data.List.Basic
import Memberwise.Inclusion

/-!
# The inclusion rules as conditions

The rules are a cascade in which an earlier rule wins over a later one. Here each answer has one
condition on the property, and a resolution is what these conditions select from the properties of
the class, in their order.
-/

namespace Memberwise

/-- What the include mark calls the property, if that is more than white space, and its own name
otherwise. -/
def Property.labelIn (p : Property) (family : Family) : String :=
  let given := ((p.marks? family).bind (·.included)).bind (·.label)
  (given.filter fun label => label.toList.any fun ch => !Text.isSpace ch).getD p.name

namespace ClassDecl

variable (c : ClassDecl)

/-- Without a field, or declared in the body of a data class. -/
def Ineligible (p : Property) : Prop := p.storage = .computed ∨ c.kind = .data ∧ p.origin = .body

def Includes (policy : InclusionPolicy) (p : Property) : Family → Prop
  | .equality =>
    p.equality.excluded = false ∧ ¬ c.Ineligible p ∧
      (p.equality.included.isSome = true ∨
        policy.onlyIncluded = false ∧ (p.storage = .deferred → policy.includeDeferred = true))
  | .printing =>
    p.printing.excluded = false ∧
      (p.printing.included.isSome = true ∨ p.storage ≠ .computed ∧ policy.onlyIncluded = false)
  | .building => False

def Refuses (p : Property) : Family → Prop
  | .equality =>
    p.equality.excluded = false ∧ p.equality.included.isSome = true ∧ c.Ineligible p
  | .printing | .building => False

instance (p : Property) : Decidable (c.Ineligible p) := inferInstanceAs (Decidable (_ ∨ _ ∧ _))

instance (policy : InclusionPolicy) (p : Property) :
    (family : Family) → Decidable (c.Includes policy p family)
  | .equality => inferInstanceAs (Decidable (_ ∧ ¬ _ ∧ (_ ∨ _ ∧ (_ → _))))
  | .printing => inferInstanceAs (Decidable (_ ∧ (_ ∨ _ ∧ _)))
  | .building => inferInstanceAs (Decidable False)

instance (p : Property) : (family : Family) → Decidable (c.Refuses p family)
  | .equality => inferInstanceAs (Decidable (_ ∧ _ ∧ _))
  | .printing | .building => inferInstanceAs (Decidable False)

end ClassDecl

def Property.refusal (p : Property) : Diagnostic :=
  (if p.storage = .computed then Problem.includeWithoutField p.name
    else .includeInDataBody p.name).report .error p.location

theorem IncludeMark.label?_eq_filter (mark : IncludeMark) :
    mark.label? = mark.label.filter fun label => label.toList.any fun ch => !Text.isSpace ch := by
  refine congrArg (mark.label.filter ·) (funext fun label => ?_)
  rw [Text.isBlank, List.not_all_eq_any_not]

theorem InclusionPolicy.byDefault_eq (policy : InclusionPolicy) (p : Property) :
    policy.byDefault p = if policy.onlyIncluded = false then .included p.name else .excluded := by
  unfold byDefault
  cases policy.onlyIncluded <;> rfl

namespace ClassDecl

variable {c : ClassDecl} {family : Family} {policy : InclusionPolicy}

theorem decideEquality_eq (hdata : policy.dataClass = true ↔ c.kind = .data) (p : Property) :
    policy.decideEquality p =
      if c.Includes policy p .equality then .included (p.labelIn .equality)
      else if c.Refuses p .equality then .rejected p.refusal
      else .excluded := by
  unfold InclusionPolicy.decideEquality
  cases hexcluded : p.equality.excluded with
  | true => simp [Includes, Refuses, hexcluded]
  | false =>
    by_cases hcomputed : p.storage = .computed
    · cases hmark : p.equality.included <;>
        simp [Includes, Refuses, Ineligible, Property.refusal, hexcluded, hcomputed, hmark]
    · by_cases hbody : c.kind = .data ∧ p.origin = .body
      · cases hmark : p.equality.included <;>
          simp [Includes, Refuses, Ineligible, Property.refusal, hdata, hexcluded, hcomputed,
            hmark, hbody]
      · have heligible : ¬ c.Ineligible p := not_or.mpr ⟨hcomputed, hbody⟩
        have hbody : (policy.dataClass && decide (p.origin = .body)) = false := by
          simpa [← hdata] using hbody
        cases hmark : p.equality.included with
        | some mark =>
          simp [Includes, hexcluded, heligible, hcomputed, hbody, hmark, Property.labelIn,
            Property.marks?, mark.label?_eq_filter]
        | none =>
          by_cases hdeferred : p.storage = .deferred ∧ policy.includeDeferred = false
          · simp [Includes, Refuses, hexcluded, hmark, hbody, Property.isDeferred, hdeferred]
          · have hdefault : (p.isDeferred && !policy.includeDeferred) = false := by
              simpa [Property.isDeferred] using hdeferred
            have hdeferred : p.storage = .deferred → policy.includeDeferred = true := by
              simpa using hdeferred
            simp [Includes, Refuses, hexcluded, heligible, hcomputed, hbody, hmark, hdefault,
              and_iff_left hdeferred, policy.byDefault_eq, Property.labelIn, Property.marks?]

theorem decidePrinting_eq (p : Property) :
    policy.decidePrinting p =
      if c.Includes policy p .printing then .included (p.labelIn .printing)
      else .excluded := by
  unfold InclusionPolicy.decidePrinting
  cases hexcluded : p.printing.excluded with
  | true => simp [Includes, hexcluded]
  | false =>
    cases hmark : p.printing.included with
    | some mark =>
      simp [Includes, hexcluded, hmark, Property.labelIn, Property.marks?, mark.label?_eq_filter]
    | none =>
      by_cases hcomputed : p.storage = .computed <;>
        simp [Includes, hexcluded, hmark, hcomputed, policy.byDefault_eq, Property.labelIn,
          Property.marks?]

end ClassDecl

/-- Of the three answers, the one whose condition holds. -/
theorem InclusionPolicy.decide_eq {c : ClassDecl} {family : Family} {policy : InclusionPolicy}
    (hpolicy : ofClass? c family = some policy) (p : Property) :
    policy.decide p =
      if c.Includes policy p family then .included (p.labelIn family)
      else if c.Refuses p family then .rejected p.refusal
      else .excluded := by
  cases family with
  | equality =>
    obtain ⟨options, -, rfl⟩ := Option.map_eq_some_iff.mp hpolicy
    exact ClassDecl.decideEquality_eq decide_eq_true_iff p
  | printing =>
    obtain ⟨options, -, rfl⟩ := Option.map_eq_some_iff.mp hpolicy
    exact ClassDecl.decidePrinting_eq p
  | building => cases hpolicy

/-- No mark is both taken and refused. -/
theorem ClassDecl.Refuses.not_includes {c : ClassDecl} {family : Family} {p : Property}
    (hrefuses : c.Refuses p family) (policy : InclusionPolicy) :
    ¬ c.Includes policy p family := by
  cases family with
  | equality => exact fun hincludes => hincludes.2.1 hrefuses.2.2
  | printing | building => exact hrefuses.elim

theorem filterMap_ite {α β : Type} (P : α → Prop) [DecidablePred P] (f : α → β) (as : List α) :
    (as.filterMap fun a => if P a then some (f a) else none) = (as.filter (P ·)).map f := by
  rw [← List.filterMap_eq_map, List.filterMap_filter]
  simp only [decide_eq_true_eq, Function.comp_apply]

namespace Resolution

variable {c : ClassDecl} {family : Family} {policy : InclusionPolicy}
  (hpolicy : InclusionPolicy.ofClass? c family = some policy)

include hpolicy

theorem participant?_eq (p : Property) :
    participant? policy p =
      if c.Includes policy p family then some ⟨p, p.labelIn family⟩ else none := by
  rw [participant?, InclusionPolicy.decide_eq hpolicy]
  by_cases hincludes : c.Includes policy p family
  · simp [hincludes]
  · by_cases hrefuses : c.Refuses p family <;> simp [hincludes, hrefuses]

theorem rejection?_eq (p : Property) :
    rejection? policy p = if c.Refuses p family then some p.refusal else none := by
  rw [rejection?, InclusionPolicy.decide_eq hpolicy]
  by_cases hrefuses : c.Refuses p family
  · simp [hrefuses, hrefuses.not_includes policy]
  · by_cases hincludes : c.Includes policy p family <;> simp [hincludes, hrefuses]

theorem participants_compute :
    (compute c.properties policy).participants =
      (c.properties.filter (c.Includes policy · family)).map fun p => ⟨p, p.labelIn family⟩ := by
  have hselect := funext (participant?_eq hpolicy)
  change c.properties.filterMap _ = _
  rw [hselect, filterMap_ite]

theorem rejected_compute :
    (compute c.properties policy).rejected =
      (c.properties.filter (c.Refuses · family)).map Property.refusal := by
  have hselect := funext (rejection?_eq hpolicy)
  change c.properties.filterMap _ = _
  rw [hselect, filterMap_ite]

end Resolution

/-- A resolution selects from the properties of the class those that take part, and reports those
with a mark that is refused, each in the order of declaration. -/
theorem ClassDecl.compute_eq_filter (c : ClassDecl) {family : Family} {policy : InclusionPolicy}
    (hpolicy : InclusionPolicy.ofClass? c family = some policy) :
    let r := Resolution.compute c.properties policy
    r.participants =
        (c.properties.filter (c.Includes policy · family)).map
          (fun p => ⟨p, p.labelIn family⟩) ∧
      r.rejected = (c.properties.filter (c.Refuses · family)).map Property.refusal := by
  intro r
  constructor
  · exact Resolution.participants_compute hpolicy
  · exact Resolution.rejected_compute hpolicy

namespace Gauge

def cls : ClassDecl :=
  { ClassDecl.empty ⟨"Gauge"⟩ .data with
    properties :=
      [{ Property.ofConstructor "value" .int with
          equality := .includingAs " ", printing := .includingAs "v (raw)" },
        { Property.computed "scaled" .int with
          equality := .including, printing := .including, location := ⟨7⟩ },
        { Property.ofBody "unit" .string with equality := .including, location := ⟨8⟩ },
        { Property.ofBody "unit" .string with equality := Marks.including.butExcluded },
        { Property.ofConstructor "since" .int with storage := .deferred }],
    annotations := ⟨some default, some default, false⟩ }

def equality : InclusionPolicy := ⟨.equality, false, false, true⟩

def printing : InclusionPolicy := ⟨.printing, false, true, true⟩

def refusals : Diagnostics :=
  [(Problem.includeWithoutField "scaled").report .error ⟨7⟩,
    (Problem.includeInDataBody "unit").report .error ⟨8⟩]

end Gauge

theorem ClassDecl.compute_eq_filter_gauge :
    InclusionPolicy.ofClass? Gauge.cls .equality = some Gauge.equality ∧
      InclusionPolicy.ofClass? Gauge.cls .printing = some Gauge.printing ∧
      let r := Resolution.compute Gauge.cls.properties Gauge.equality
      let r' := Resolution.compute Gauge.cls.properties Gauge.printing
      r.participants.map (·.label) = ["value"] ∧
        r.rejected = Gauge.refusals ∧
        r'.participants.map (·.label) = ["v (raw)", "scaled", "unit", "unit", "since"] ∧
        r'.rejected = [] := by
  have hequality := Gauge.cls.compute_eq_filter
    (show InclusionPolicy.ofClass? Gauge.cls .equality = some Gauge.equality from rfl)
  have hprinting := Gauge.cls.compute_eq_filter
    (show InclusionPolicy.ofClass? Gauge.cls .printing = some Gauge.printing from rfl)
  refine ⟨rfl, rfl, ?_, ?_, ?_, ?_⟩
  · rw [hequality.1]
    decide
  · rw [hequality.2]
    decide
  · rw [hprinting.1]
    decide
  · rw [hprinting.2]
    decide

end Memberwise
