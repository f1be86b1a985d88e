import Mathlib.Data.List.Basic
import Memberwise.Model.Class

/-!
# Properties of the primary constructor

To declare a primary constructor loses no property and doubles none. Name by name the parameters
take the first properties of their name as far as there are any, the parameters that come too late
get fresh ones, and the properties that come too late stay where they were.
-/

namespace Memberwise

def Property.inPrimary (p : Property) : Property := { p with origin := .constructor }

def Parameter.property (p : Parameter) : Property :=
  { name := p.name, type := p.type, storage := .backed, origin := .constructor,
    equality := .none, printing := .none, location := p.location }

namespace ClassDecl

variable {name : String} {ps rest : List Property} {p : Property}

theorem takeNamed_eq_none_iff : takeNamed name ps = none ↔ ∀ p ∈ ps, p.name ≠ name := by
  induction ps with
  | nil => simp [takeNamed]
  | cons q qs ih =>
    rw [takeNamed, List.forall_mem_cons]
    split
    · rename_i hname
      simp [hname]
    · rename_i hname
      rw [Option.map_eq_none_iff, ih]
      exact (and_iff_right hname).symm

theorem filter_eq_nil_of_takeNamed (htake : takeNamed name ps = none) :
    ps.filter (·.name = name) = [] := by
  rw [takeNamed_eq_none_iff] at htake
  simpa [List.filter_eq_nil_iff] using htake

theorem exists_of_takeNamed (htake : takeNamed name ps = some (p, rest)) :
    p.name = name ∧ ∃ before after, ps = before ++ p :: after ∧ rest = before ++ after ∧
      ∀ q ∈ before, q.name ≠ name := by
  induction ps generalizing rest with
  | nil => cases htake
  | cons q qs ih =>
    rw [takeNamed] at htake
    split at htake
    · rename_i hname
      cases htake
      exact ⟨hname, [], qs, rfl, rfl, List.forall_mem_nil _⟩
    · rename_i hname
      obtain ⟨⟨_, _⟩, hrest, heq⟩ := Option.map_eq_some_iff.mp htake
      cases heq
      obtain ⟨hp, before, after, rfl, rfl, hbefore⟩ := ih hrest
      exact ⟨hp, q :: before, after, rfl, rfl, List.forall_mem_cons.mpr ⟨hname, hbefore⟩⟩

theorem sublist_of_takeNamed (htake : takeNamed name ps = some (p, rest)) : rest.Sublist ps := by
  obtain ⟨-, before, after, rfl, rfl, -⟩ := exists_of_takeNamed htake
  exact (List.sublist_cons_self p after).append_left before

theorem filter_of_takeNamed (htake : takeNamed name ps = some (p, rest)) :
    ps.filter (·.name = name) = p :: rest.filter (·.name = name) := by
  obtain ⟨hp, before, after, rfl, rfl, hbefore⟩ := exists_of_takeNamed htake
  have hnone : before.filter (·.name = name) = [] :=
    List.filter_eq_nil_iff.mpr fun q hq => by simpa using hbefore q hq
  simp [hnone, hp]

/-- The properties of other names are not touched. -/
theorem filter_of_takeNamed_of_ne (htake : takeNamed name ps = some (p, rest)) {other : String}
    (hne : name ≠ other) : ps.filter (·.name = other) = rest.filter (·.name = other) := by
  obtain ⟨hp, before, after, rfl, rfl, -⟩ := exists_of_takeNamed htake
  have hother : p.name ≠ other := hp ▸ hne
  simp [hother]

variable {param : Parameter} {params : List Parameter}

theorem assignParams_cons_of_some (htake : takeNamed param.name ps = some (p, rest)) :
    assignParams (param :: params) ps =
      (p.inPrimary :: (assignParams params rest).1, (assignParams params rest).2) := by
  rw [assignParams, htake]
  rfl

theorem assignParams_cons_of_none (htake : takeNamed param.name ps = none) :
    assignParams (param :: params) ps =
      (param.property :: (assignParams params ps).1, (assignParams params ps).2) := by
  rw [assignParams, htake]
  rfl

theorem map_name_assignParams (params : List Parameter) (ps : List Property) :
    (assignParams params ps).1.map (·.name) = params.map (·.name) := by
  induction params generalizing ps with
  | nil => rfl
  | cons param params ih =>
    cases htake : takeNamed param.name ps with
    | some taken =>
      obtain ⟨p, rest⟩ := taken
      have hname : p.inPrimary.name = param.name := (exists_of_takeNamed htake).1
      rw [assignParams_cons_of_some htake, List.map_cons, List.map_cons, ih, hname]
    | none =>
      rw [assignParams_cons_of_none htake, List.map_cons, List.map_cons, ih]
      rfl

theorem origin_of_mem_assignParams (params : List Parameter) (ps : List Property) :
    ∀ p ∈ (assignParams params ps).1, p.origin = .constructor := by
  induction params generalizing ps with
  | nil => exact List.forall_mem_nil _
  | cons param params ih =>
    cases htake : takeNamed param.name ps with
    | some taken =>
      rw [assignParams_cons_of_some htake]
      exact List.forall_mem_cons.mpr ⟨rfl, ih _⟩
    | none =>
      rw [assignParams_cons_of_none htake]
      exact List.forall_mem_cons.mpr ⟨rfl, ih ps⟩

theorem sublist_assignParams (params : List Parameter) (ps : List Property) :
    (assignParams params ps).2.Sublist ps := by
  induction params generalizing ps with
  | nil => exact .refl ps
  | cons param params ih =>
    cases htake : takeNamed param.name ps with
    | some taken =>
      rw [assignParams_cons_of_some htake]
      exact (ih _).trans (sublist_of_takeNamed htake)
    | none =>
      rw [assignParams_cons_of_none htake]
      exact ih ps

/-- Of the properties of one name, as many are taken as there are parameters of that name. -/
theorem filter_taken_assignParams (name : String) (params : List Parameter) (ps : List Property) :
    (assignParams params ps).1.filter (·.name = name) =
      ((ps.filter (·.name = name)).take (params.filter (·.name = name)).length).map
          Property.inPrimary ++
        ((params.filter (·.name = name)).drop (ps.filter (·.name = name)).length).map
          Parameter.property := by
  induction params generalizing ps with
  | nil => simp [assignParams]
  | cons param params ih =>
    cases htake : takeNamed param.name ps with
    | some taken =>
      obtain ⟨p, rest⟩ := taken
      rw [assignParams_cons_of_some htake, List.filter_cons, List.filter_cons]
      have hp : p.inPrimary.name = param.name := (exists_of_takeNamed htake).1
      by_cases hname : param.name = name
      · subst hname
        simp [hp, ih, filter_of_takeNamed htake]
      · simp [hp, hname, ih, filter_of_takeNamed_of_ne htake hname]
    | none =>
      rw [assignParams_cons_of_none htake, List.filter_cons, List.filter_cons]
      have hp : param.property.name = param.name := rfl
      by_cases hname : param.name = name
      · subst hname
        simp [hp, ih, filter_eq_nil_of_takeNamed htake]
      · simp [hp, hname, ih]

theorem filter_left_assignParams (name : String) (params : List Parameter) (ps : List Property) :
    (assignParams params ps).2.filter (·.name = name) =
      (ps.filter (·.name = name)).drop (params.filter (·.name = name)).length := by
  induction params generalizing ps with
  | nil => simp [assignParams]
  | cons param params ih =>
    rw [List.filter_cons]
    cases htake : takeNamed param.name ps with
    | some taken =>
      obtain ⟨p, rest⟩ := taken
      rw [assignParams_cons_of_some htake, ih]
      by_cases hname : param.name = name
      · subst hname
        simp [filter_of_takeNamed htake]
      · simp [hname, filter_of_takeNamed_of_ne htake hname]
    | none =>
      rw [assignParams_cons_of_none htake, ih]
      by_cases hname : param.name = name
      · subst hname
        simp [filter_eq_nil_of_takeNamed htake]
      · simp [hname]

/-- Parameters whose properties stand in front take these. -/
theorem assignParams_append {taken left : List Property}
    (hnames : taken.map (·.name) = params.map (·.name))
    (horigin : ∀ p ∈ taken, p.origin = .constructor) :
    assignParams params (taken ++ left) = (taken, left) := by
  induction params generalizing taken with
  | nil =>
    obtain rfl : taken = [] := by simpa using hnames
    rfl
  | cons param params ih =>
    cases taken with
    | nil => cases hnames
    | cons p taken =>
      obtain ⟨hname, hnames⟩ := List.cons.inj hnames
      obtain ⟨hp, horigin⟩ := List.forall_mem_cons.mp horigin
      have htake : takeNamed param.name (p :: (taken ++ left)) = some (p, taken ++ left) := by
        rw [takeNamed, if_pos hname]
      have hsame : p.inPrimary = p := by rw [Property.inPrimary, ← hp]
      rw [List.cons_append, assignParams_cons_of_some htake, ih hnames horigin, hsame]

theorem withPrimary_of_assignParams {c : ClassDecl} {taken left : List Property}
    (hassign : assignParams params c.properties = (taken, left)) :
    c.withPrimary params = { c with properties := taken ++ left, primary := some params } := by
  rw [withPrimary, hassign]

/-- What a class becomes with a primary constructor: the properties of the parameters in their
order, then those that no parameter took. Declared again, the constructor changes nothing. -/
theorem withPrimary_eq_append (c : ClassDecl) (params : List Parameter) :
    ∃ taken left,
      c.withPrimary params = { c with properties := taken ++ left, primary := some params } ∧
      taken.map (·.name) = params.map (·.name) ∧
      (∀ p ∈ taken, p.origin = .constructor) ∧
      left.Sublist c.properties ∧
      (∀ name,
        let declared := c.properties.filter (·.name = name)
        let asking := params.filter (·.name = name)
        taken.filter (·.name = name) =
            (declared.take asking.length).map Property.inPrimary ++
              (asking.drop declared.length).map Parameter.property ∧
          left.filter (·.name = name) = declared.drop asking.length) ∧
      (c.withPrimary params).withPrimary params = c.withPrimary params := by
  obtain ⟨taken, left, hassign⟩ : ∃ taken left,
      assignParams params c.properties = (taken, left) := ⟨_, _, rfl⟩
  have hc := withPrimary_of_assignParams hassign
  have hnames := map_name_assignParams params c.properties
  have horigin := origin_of_mem_assignParams params c.properties
  have hleft := sublist_assignParams params c.properties
  rw [hassign] at hnames horigin hleft
  refine ⟨taken, left, hc, hnames, horigin, hleft, ?_, ?_⟩
  · intro name
    have htaken := filter_taken_assignParams name params c.properties
    have hleft := filter_left_assignParams name params c.properties
    rw [hassign] at htaken hleft
    exact ⟨htaken, hleft⟩
  · rw [hc]
    exact withPrimary_of_assignParams (assignParams_append hnames horigin)

/-- The first of two properties is taken, whatever its type and storage, and the second of two
parameters gets a fresh one. -/
example :
    let early : Property := { Property.deferred "x" .int with printing := .excluding }
    let late := Property.computed "x" .string
    let declared := (ClassDecl.empty ⟨"C"⟩ .plain).withProperty (.ofBody "y" .int)
    let c := (declared.withProperty early).withProperty late
    let x : Parameter := ⟨"x", .string, none, ⟨1⟩⟩
    let y : Parameter := ⟨"y", .int, none, ⟨2⟩⟩
    (c.withPrimary [x, y, y]).properties =
      [early.inPrimary, .ofConstructor "y" .int, y.property, late] := by
  decide

end ClassDecl

end Memberwise
