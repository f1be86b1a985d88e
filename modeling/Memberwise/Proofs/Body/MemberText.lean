import Mathlib.Tactic.SplitIfs
import Memberwise.Body.Member

/-!
# Members as text

Reading a text as a member undoes writing, but for two setters: one called `build` reads as
`build`, and one without a name does not read at all.
-/

namespace Memberwise.Member

theorem afterLead?_eq_some_iff {cs rest : List Char} :
    afterLead? cs = some rest ↔ cs = builderLead ++ rest := by
  unfold afterLead?
  split
  · rename_i hlead
    obtain ⟨after, rfl⟩ := List.isPrefixOf_iff_prefix.mp hlead
    rw [List.drop_left, Option.some_inj, List.append_cancel_left_eq]
  · rename_i hlead
    refine iff_of_false nofun ?_
    rintro rfl
    exact hlead (List.isPrefixOf_iff_prefix.mpr (List.prefix_append _ _))

/-- The names of object methods do not begin as builder members do. -/
theorem ofText?_lead (cs : List Char) :
    ofText? (String.ofList (builderLead ++ cs)) =
      if cs = [] then none
      else if cs = buildMethod.toList then some build else some (setter (String.ofList cs)) := by
  have hne (method : ObjectMethod) : String.ofList (builderLead ++ cs) ≠ method.name := by
    intro heq
    have heq := congrArg String.toList heq
    rw [String.toList_ofList] at heq
    cases method <;> cases heq
  have hafter : afterLead? (builderLead ++ cs) = some cs := afterLead?_eq_some_iff.mpr rfl
  rw [ofText?, if_neg (hne .equals), if_neg (hne .hash), if_neg (hne .print),
    String.toList_ofList, hafter]
  cases cs <;> rfl

theorem ofText?_text (m : Member) :
    ofText? m.text =
      if m = setter buildMethod then some build else if m = setter "" then none else some m := by
  cases m with
  | equals | hash | print => rfl
  | build => exact ofText?_lead buildMethod.toList
  | setter param =>
    have hname (s : String) : param.toList = s.toList ↔ setter param = setter s := by
      rw [String.toList_inj, setter.injEq]
    have hempty : param.toList = [] ↔ setter param = setter "" := hname ""
    rw [text, ofText?_lead, String.ofList_toList]
    simp only [hempty, hname]
    by_cases hbuild : param = buildMethod
    · rw [hbuild]
      rfl
    · simp [hbuild]

theorem text_of_ofText? {s : String} {m : Member} (h : ofText? s = some m) : m.text = s := by
  cases hafter : afterLead? s.toList with
  | none =>
    simp only [ofText?, hafter] at h
    split_ifs at h with hequals hhash hprint
    · exact Option.some.inj h ▸ hequals.symm
    · exact Option.some.inj h ▸ hhash.symm
    · exact Option.some.inj h ▸ hprint.symm
  | some cs =>
    obtain rfl : s = String.ofList (builderLead ++ cs) := by
      rw [← afterLead?_eq_some_iff.mp hafter, String.ofList_toList]
    rw [ofText?_lead] at h
    split_ifs at h with _ hbuild
    · rw [← Option.some.inj h, hbuild, text]
    · rw [← Option.some.inj h, text, String.toList_ofList]

theorem parse_eq_ok_iff {s : String} {m : Member} : parse s = .ok m ↔ ofText? s = some m := by
  unfold parse
  cases ofText? s with
  | none => simp
  | some n => simp

theorem parse_eq_error_iff {s : String} {e : Unknown} :
    parse s = .error e ↔ ofText? s = none ∧ e = ⟨s⟩ := by
  unfold parse
  cases ofText? s with
  | none => simp [eq_comm]
  | some m => simp

theorem text_eq_text_iff {m n : Member} : m.text = n.text ↔
    m = n ∨ (m = setter buildMethod ∧ n = build) ∨ (m = build ∧ n = setter buildMethod) := by
  constructor
  · intro h
    have h := congrArg ofText? h
    rw [ofText?_text, ofText?_text] at h
    split_ifs at h <;> simp_all
  · rintro (rfl | ⟨rfl, rfl⟩ | ⟨rfl, rfl⟩) <;> rfl

/-- Members are told apart by their text, and read from it, but for the two setters. -/
theorem parse_text :
    (∀ s m, parse s = .ok m ↔ m.text = s ∧ m ≠ setter buildMethod ∧ m ≠ setter "") ∧
    parse (setter buildMethod).text = .ok build ∧
    parse (setter "").text = .error ⟨(setter "").text⟩ ∧
    ∀ m n : Member, m.text = n.text ↔
      m = n ∨ (m = setter buildMethod ∧ n = build) ∨ (m = build ∧ n = setter buildMethod) := by
  refine ⟨?_, ?_, ?_, fun m n => text_eq_text_iff⟩
  · intro s m
    rw [parse_eq_ok_iff]
    constructor
    · intro h
      obtain rfl := text_of_ofText? h
      rw [ofText?_text] at h
      split_ifs at h with hbuild hempty
      · cases hbuild.symm.trans (Option.some.inj h).symm
      · exact ⟨rfl, hbuild, hempty⟩
    · rintro ⟨rfl, hbuild, hempty⟩
      rw [ofText?_text, if_neg hbuild, if_neg hempty]
  · rw [parse_eq_ok_iff, ofText?_text, if_pos rfl]
  · rw [parse_eq_error_iff, ofText?_text]
    exact ⟨rfl, rfl⟩

end Memberwise.Member
