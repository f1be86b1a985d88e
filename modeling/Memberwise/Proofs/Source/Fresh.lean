import Memberwise.Proofs.Machine.Heap
import Memberwise.Proofs.Source.Construction

/-!
# Fresh builders as source

A builder is refused as source where it would store two things under one name, and there its table
has lost a field. Everywhere else the source makes the very builder that the machine makes.
-/

namespace Memberwise

namespace BuilderPlan

variable (plan : BuilderPlan)

theorem map_fst_initialFields : plan.initialFields.map Prod.fst = plan.storage := by
  rw [initialFields, storage, List.map_flatMap]
  congr 1
  funext slot
  rw [List.map_cons, List.map_map, Slot.storage]
  simp [Function.comp_def]

theorem mem_initialFields_iff {name : String} {v : Value} : (name, v) ∈ plan.initialFields ↔
    ∃ slot ∈ plan.slots,
      (slot.valueSlot = name ∧ v = .null) ∨ (slot.flagSlot = some name ∧ v = .bool false) := by
  simp [initialFields, eq_comm]

theorem size_newBuilder_eq_iff (h : Heap) :
    ((h.newBuilder plan).2.fields (h.newBuilder plan).1).size = plan.storage.length ↔
      plan.storage.Nodup := by
  rw [Heap.newBuilder, Heap.fields_newObject, ← map_fst_initialFields, List.length_map,
    Table.size_ofList_eq_iff]

theorem get?_newBuilder_iff (hnodup : plan.storage.Nodup) (h : Heap) {name : String} {v : Value} :
    (h.newBuilder plan).2.get? (h.newBuilder plan).1 name = some v ↔
      (name, v) ∈ plan.initialFields := by
  rw [Heap.newBuilder, Heap.get?_newObject]
  rw [← map_fst_initialFields] at hnodup
  constructor
  · intro hget
    have hname : name ∈ plan.initialFields.map Prod.fst :=
      Table.mem_keys_ofList_iff.mp (Table.mem_keys_iff.mpr ⟨v, hget⟩)
    obtain ⟨w, hw, hget'⟩ := Table.exists_mem_get?_ofList hname
    rw [hget, Option.some_inj] at hget'
    rw [hget']
    exact hw
  · intro hmem
    exact Table.get?_ofList_of_mem hnodup hmem

end BuilderPlan

namespace Source

theorem firstRepeated_eq_none_iff {seen names : List String} :
    firstRepeated seen names = none ↔ names.Nodup ∧ ∀ name ∈ names, name ∉ seen := by
  induction names generalizing seen with
  | nil => simp [firstRepeated]
  | cons name names ih =>
    rw [firstRepeated]
    by_cases hseen : name ∈ seen
    · simp [hseen]
    · rw [if_neg (by simpa using hseen), ih]
      simp only [List.nodup_cons, List.mem_cons]
      grind

theorem firstRepeated_append {seen before names : List String}
    (hbefore : firstRepeated seen before = none) :
    firstRepeated seen (before ++ names) = firstRepeated (before.reverse ++ seen) names := by
  induction before generalizing seen with
  | nil => rfl
  | cons first before ih =>
    rw [firstRepeated] at hbefore
    split at hbefore
    · cases hbefore
    · rename_i hseen
      rw [List.cons_append, firstRepeated, if_neg hseen, ih hbefore, List.reverse_cons,
        List.append_assoc]
      rfl

theorem exists_of_firstRepeated {seen names : List String} {name : String}
    (h : firstRepeated seen names = some name) :
    ∃ before after, names = before ++ name :: after ∧ firstRepeated seen before = none ∧
      name ∈ before.reverse ++ seen := by
  induction names generalizing seen with
  | nil => cases h
  | cons first names ih =>
    rw [firstRepeated] at h
    split at h
    · rename_i hseen
      cases h
      exact ⟨[], names, rfl, rfl, by simpa using hseen⟩
    · rename_i hseen
      obtain ⟨before, after, rfl, hbefore, hname⟩ := ih h
      refine ⟨first :: before, after, rfl, ?_, by simpa [or_assoc] using hname⟩
      rw [firstRepeated, if_neg hseen, hbefore]

theorem firstRepeated_eq_some_iff {names : List String} {name : String} :
    firstRepeated [] names = some name ↔
      ∃ before after, names = before ++ name :: after ∧ before.Nodup ∧ name ∈ before := by
  constructor
  · intro h
    obtain ⟨before, after, hnames, hbefore, hname⟩ := exists_of_firstRepeated h
    exact ⟨before, after, hnames, (firstRepeated_eq_none_iff.mp hbefore).1, by simpa using hname⟩
  · rintro ⟨before, after, rfl, hnodup, hname⟩
    have hbefore : firstRepeated [] before = none :=
      firstRepeated_eq_none_iff.mpr ⟨hnodup, fun _ _ => List.not_mem_nil⟩
    rw [firstRepeated_append hbefore, firstRepeated, if_pos (by simpa using hname)]

variable {rt : List Token}

theorem map_fst_freshFields (plan : BuilderPlan) :
    (freshFields rt plan).map (·.1) = plan.storage := by
  rw [freshFields, BuilderPlan.storage, List.map_flatMap]
  congr 1
  funext slot
  simp [Slot.storage, Function.comp_def]

theorem builderSource_of_repeated {plan : BuilderPlan} {name : String}
    (hname : firstRepeated [] plan.storage = some name) :
    builderSource rt plan = .error (.duplicateSlot name) := by
  simp only [builderSource, map_fst_freshFields, hname]

theorem forall₂_stands_freshFields (plan : BuilderPlan) :
    List.Forall₂ (fun f v => f.1 = v.1 ∧ Stands rt f.2 v.2) (freshFields rt plan)
      plan.initialFields := by
  rw [freshFields, BuilderPlan.initialFields]
  induction plan.slots with
  | nil => exact .nil
  | cons slot slots ih =>
    rw [List.flatMap_cons, List.flatMap_cons]
    cases slot.flagSlot with
    | none => exact .cons ⟨rfl, .null⟩ ih
    | some flag => exact .cons ⟨rfl, .null⟩ (.cons ⟨rfl, .bool false⟩ ih)

/-- The function that returns a fresh builder, which its last expression makes. -/
def freshTokens (rt : List Token) (plan : BuilderPlan) (value : List Token) : List Token :=
  functionTokens
    [[.word "doc", .mark '=' false, .string (" Empty \x60" ++ plan.builder.short ++ "\x60.")],
      [.word "must_use"]]
    "new_builder" [] (rt ++ segments ["Value"]) value

theorem builderSource_of_nodup (rt : List Token) {plan : BuilderPlan}
    (hnodup : plan.storage.Nodup) :
    ∃ value, builderSource rt plan = .ok (freshTokens rt plan value) ∧
      ∀ h, Constructs rt h value (h.newBuilder plan) := by
  have hnone : firstRepeated [] plan.storage = none :=
    firstRepeated_eq_none_iff.mpr ⟨hnodup, fun _ _ => List.not_mem_nil⟩
  refine ⟨objectSource rt plan.builder (freshFields rt plan), ?_, fun h => ?_⟩
  · simp only [builderSource, map_fst_freshFields, hnone, freshTokens, functionTokens,
      docAttribute, inRuntime, List.append_assoc, List.flatMap_cons, List.flatMap_nil]
    rfl
  · rw [objectSource_eq]
    exact .object (lists_commaSeparated (forall₂_stands_freshFields plan))

theorem builderSource_eq_error_iff {plan : BuilderPlan} {e : Unrenderable} :
    builderSource rt plan = .error e ↔
      ∃ name, firstRepeated [] plan.storage = some name ∧ e = .duplicateSlot name := by
  cases hrepeated : firstRepeated [] plan.storage with
  | none =>
    obtain ⟨value, hok, -⟩ := builderSource_of_nodup rt (firstRepeated_eq_none_iff.mp hrepeated).1
    rw [hok]
    simp
  | some name =>
    rw [builderSource_of_repeated hrepeated]
    simp [eq_comm]

theorem exists_builderSource_iff {plan : BuilderPlan} :
    (∃ ts, builderSource rt plan = .ok ts) ↔ plan.storage.Nodup := by
  constructor
  · rintro ⟨ts, hts⟩
    cases hrepeated : firstRepeated [] plan.storage with
    | none => exact (firstRepeated_eq_none_iff.mp hrepeated).1
    | some name =>
      rw [builderSource_of_repeated hrepeated] at hts
      cases hts
  · intro hnodup
    obtain ⟨value, hok, -⟩ := builderSource_of_nodup rt hnodup
    exact ⟨_, hok⟩

theorem exists_freshTokens {plan : BuilderPlan} {ts : List Token}
    (h : builderSource rt plan = .ok ts) : ∃ value, ts = freshTokens rt plan value := by
  obtain ⟨value, hok, -⟩ := builderSource_of_nodup rt (exists_builderSource_iff.mp ⟨ts, h⟩)
  exact ⟨value, Except.ok.inj (h.symm.trans hok)⟩

/-- A builder has a source exactly where a fresh one holds as many fields as it stores names, and
the source makes that fresh builder; otherwise it is refused for the first name that comes again. -/
theorem builderSource_fresh (rt : List Token) (plan : BuilderPlan) :
    (∀ name, builderSource rt plan = .error (.duplicateSlot name) ↔
      ∃ before after, plan.storage = before ++ name :: after ∧ before.Nodup ∧ name ∈ before) ∧
    ((∃ name, builderSource rt plan = .error (.duplicateSlot name)) ↔ ¬ plan.storage.Nodup) ∧
    (∀ h : Heap, (∃ ts, builderSource rt plan = .ok ts) ↔
      ((h.newBuilder plan).2.fields (h.newBuilder plan).1).size = plan.storage.length) ∧
    ∀ ts, builderSource rt plan = .ok ts → ∃ value, ts = freshTokens rt plan value ∧
      ∀ h : Heap, (∀ x, Constructs rt h value x ↔ x = h.newBuilder plan) ∧
        (h.newBuilder plan).1.cls = plan.builder ∧
        ∀ name v, (h.newBuilder plan).2.get? (h.newBuilder plan).1 name = some v ↔
          ∃ slot ∈ plan.slots,
            (slot.valueSlot = name ∧ v = .null) ∨
              (slot.flagSlot = some name ∧ v = .bool false) := by
  have herror (name : String) : builderSource rt plan = .error (.duplicateSlot name) ↔
      firstRepeated [] plan.storage = some name := by
    simp [builderSource_eq_error_iff]
  refine ⟨?_, ?_, ?_, ?_⟩
  · intro name
    rw [herror, firstRepeated_eq_some_iff]
  · simp only [herror]
    rw [← Option.ne_none_iff_exists', ne_eq, firstRepeated_eq_none_iff]
    simp
  · intro h
    rw [exists_builderSource_iff, plan.size_newBuilder_eq_iff]
  · intro ts hts
    have hnodup : plan.storage.Nodup := exists_builderSource_iff.mp ⟨ts, hts⟩
    obtain ⟨value, hok, hmakes⟩ := builderSource_of_nodup rt hnodup
    refine ⟨value, Except.ok.inj (hts.symm.trans hok), fun h => ⟨?_, rfl, ?_⟩⟩
    · intro x
      exact ⟨fun hx => hx.unique (hmakes h), fun hx => hx ▸ hmakes h⟩
    · intro name v
      exact (plan.get?_newBuilder_iff hnodup h).trans plan.mem_initialFields_iff

end Source

end Memberwise
