import Mathlib.Data.List.Lattice
import Mathlib.Data.List.Pairwise
import Memberwise.Proofs.Machine.Heap

/-!
# What setter calls leave in a builder

A history lists the setter calls on a builder with their arguments. It determines what the builder
stores, and with that which constructor argument a parameter gets.
-/

namespace Memberwise

def Slot.written (slot : Slot) (v : Value) : List (String × Value) :=
  (slot.valueSlot, v) :: slot.flagSlot.toList.map fun flag => (flag, .bool true)

@[simp] theorem Slot.valueSlot_ofParameter (p : Parameter) :
    (Slot.ofParameter p).valueSlot = p.name := rfl

namespace Parameter

variable (p : Parameter) (calls : List (String × Value))

def last? : Option Value := (calls.reverse.find? (·.1 = p.name)).map (·.2)

/-- The last argument, null where the setter was never called. -/
def held : Value := (p.last? calls).getD .null

def lacks : Bool := p.isRequired && (p.held calls).isNull

/-- The default that stands in for the argument. A null that was passed on purpose is kept where
the type allows it. -/
def neededDefault? : Option Default :=
  p.default?.filter fun d =>
    !d.isNull && if p.type.nullable then (p.last? calls).isNone else (p.held calls).isNull

def hostDefault? : Option String :=
  match p.neededDefault? calls with
  | some (.source text) => some text
  | _ => none

def argument : Except Fault Value :=
  match p.neededDefault? calls with
  | some d => Value.ofDefault p.name d
  | none => .ok (p.held calls)

def stored : List (String × Value) :=
  (p.name, p.held calls) ::
    (Slot.ofParameter p).flagSlot.toList.map fun flag => (flag, .bool (p.last? calls).isSome)

variable {p calls}

theorem last?_concat (name : String) (v : Value) :
    p.last? (calls ++ [(name, v)]) = if name = p.name then some v else p.last? calls := by
  rw [last?, List.reverse_concat, List.find?_cons]
  by_cases hname : name = p.name
  · simp [hname]
  · simp [hname, last?]

theorem name_mem_storage (p : Parameter) : p.name ∈ (Slot.ofParameter p).storage :=
  List.mem_cons_self

theorem map_fst_stored : (p.stored calls).map Prod.fst = (Slot.ofParameter p).storage := by
  simp [stored, Slot.storage, Slot.ofParameter, Function.comp_def]

theorem stored_concat_self (v : Value) :
    p.stored (calls ++ [(p.name, v)]) = (Slot.ofParameter p).written v := by
  simp [stored, held, last?_concat, Slot.written]

theorem stored_concat_of_ne {name : String} (hname : name ≠ p.name) (v : Value) :
    p.stored (calls ++ [(name, v)]) = p.stored calls := by
  simp [stored, held, last?_concat, hname]

theorem argument_of_hostDefault?_eq_some {text : String}
    (hhost : p.hostDefault? calls = some text) :
    p.argument calls = .error (.unsupportedDefault p.name text) := by
  unfold hostDefault? at hhost
  unfold argument
  split at hhost
  · rename_i hneeded
    rw [hneeded]
    cases hhost
    rfl
  · cases hhost

theorem exists_argument_of_hostDefault?_eq_none (hhost : p.hostDefault? calls = none) :
    ∃ v, p.argument calls = .ok v := by
  unfold hostDefault? at hhost
  unfold argument
  cases hneeded : p.neededDefault? calls with
  | none => exact ⟨_, rfl⟩
  | some d =>
    rw [hneeded] at hhost
    cases d with
    | null => exact ⟨_, rfl⟩
    | literal l => cases l <;> exact ⟨_, rfl⟩
    | source text => cases hhost

theorem isRequired_ofParameter : (Slot.ofParameter p).isRequired = p.isRequired := by
  rcases p with ⟨name, ⟨type, nullable, array⟩, default, location⟩
  rcases default with _ | _ | _ | _ <;> cases nullable <;> rfl

theorem neededDefault?_of_none (hd : p.default?.filter (!·.isNull) = none) :
    p.neededDefault? calls = none := by
  simp only [Option.filter_eq_none_iff, neededDefault?] at hd ⊢
  intro d hd'
  simp [hd d hd']

theorem neededDefault?_of_some {d : Default} (hd : p.default?.filter (!·.isNull) = some d) :
    p.neededDefault? calls =
      if (if p.type.nullable then (p.last? calls).isNone else (p.held calls).isNull) then some d
      else none := by
  rw [Option.filter_eq_some_iff] at hd
  rw [neededDefault?, hd.1, Option.filter_some, hd.2, Bool.true_and]

/-- The constructor arguments in order, up to the first that cannot be had. -/
def arguments (calls : List (String × Value)) :
    List Parameter → Except Fault (List (String × Value))
  | [] => .ok []
  | p :: ps => do
    let v ← p.argument calls
    return (p.name, v) :: (← arguments calls ps)

theorem arguments_error {params : List Parameter} {name text : String}
    (hfirst : params.findSome? (fun p => (p.hostDefault? calls).map (p.name, ·)) =
      some (name, text)) :
    arguments calls params = .error (.unsupportedDefault name text) := by
  induction params with
  | nil => cases hfirst
  | cons p ps ih =>
    rw [List.findSome?_cons] at hfirst
    rw [arguments]
    cases hhost : p.hostDefault? calls with
    | some found =>
      rw [hhost] at hfirst
      cases hfirst
      rw [argument_of_hostDefault?_eq_some hhost]
      rfl
    | none =>
      rw [hhost] at hfirst
      obtain ⟨v, hv⟩ := exists_argument_of_hostDefault?_eq_none hhost
      rw [hv, ih hfirst]
      rfl

theorem arguments_ok {params : List Parameter}
    (hnone : params.findSome? (fun p => (p.hostDefault? calls).map (p.name, ·)) = none) :
    ∃ fields, arguments calls params = .ok fields ∧
      fields.map Prod.fst = params.map (·.name) ∧
      ∀ p ∈ params, ∃ v, p.argument calls = .ok v ∧ (p.name, v) ∈ fields := by
  induction params with
  | nil => exact ⟨[], rfl, rfl, by simp⟩
  | cons p ps ih =>
    rw [List.findSome?_cons] at hnone
    cases hhost : p.hostDefault? calls with
    | some found =>
      rw [hhost] at hnone
      cases hnone
    | none =>
      rw [hhost] at hnone
      obtain ⟨v, hv⟩ := exists_argument_of_hostDefault?_eq_none hhost
      obtain ⟨fields, hfields, hnames, hall⟩ := ih hnone
      refine ⟨(p.name, v) :: fields, ?_, ?_, ?_⟩
      · rw [arguments, hv, hfields]
        rfl
      · rw [List.map_cons, List.map_cons, hnames]
      · intro q hq
        rcases List.mem_cons.mp hq with rfl | hq
        · exact ⟨v, hv, List.mem_cons_self⟩
        · obtain ⟨w, hw, hmem⟩ := hall q hq
          exact ⟨w, hw, List.mem_cons_of_mem _ hmem⟩

/-- An object made of the arguments holds them and nothing else. -/
theorem exists_arguments_newObject {params : List Parameter}
    (hnames : (params.map (·.name)).Nodup)
    (hnone : params.findSome? (fun p => (p.hostDefault? calls).map (p.name, ·)) = none)
    (h : Heap) (cls : ClassName) :
    ∃ fields, arguments calls params = .ok fields ∧
      (∀ p ∈ params, ∃ v, p.argument calls = .ok v ∧
        (h.newObject cls fields).2.get? (h.newObject cls fields).1 p.name = some v) ∧
      ∀ name, name ∉ params.map (·.name) →
        (h.newObject cls fields).2.get? (h.newObject cls fields).1 name = none := by
  obtain ⟨fields, hfields, hkeys, hall⟩ := arguments_ok hnone
  refine ⟨fields, hfields, ?_, ?_⟩
  · intro p hp
    obtain ⟨v, hv, hmem⟩ := hall p hp
    refine ⟨v, hv, ?_⟩
    rw [Heap.get?_newObject]
    exact Table.get?_ofList_of_mem (hkeys ▸ hnames) hmem
  · intro name hname
    rw [Heap.get?_newObject]
    exact Table.get?_ofList_of_notMem (hkeys ▸ hname)

end Parameter

namespace BuilderPlan

theorem storage_ofParams (target builder : ClassName) (params : List Parameter) :
    (ofParams target builder params).storage =
      params.flatMap fun p => (Slot.ofParameter p).storage := by
  rw [storage, ofParams, List.flatMap_map]

theorem initialFields_ofParams (target builder : ClassName) (params : List Parameter) :
    (ofParams target builder params).initialFields = params.flatMap (·.stored []) := by
  rw [initialFields, ofParams, List.flatMap_map]
  rfl

end BuilderPlan

/-- The object `r` stores what the calls have left. -/
structure Heap.Records (h : Heap) (r : ObjectRef) (params : List Parameter)
    (calls : List (String × Value)) : Prop where
  object : h.HasObject r
  stored : ∀ p ∈ params, ∀ e ∈ p.stored calls, h.get? r e.1 = some e.2

section Records

variable {params : List Parameter}
  (hstorage : (params.flatMap fun p => (Slot.ofParameter p).storage).Nodup)

include hstorage

theorem disjoint_storage {p q : Parameter} (hp : p ∈ params) (hq : q ∈ params) (hne : p ≠ q) :
    List.Disjoint (Slot.ofParameter p).storage (Slot.ofParameter q).storage := by
  let separate := Function.onFun List.Disjoint fun p => (Slot.ofParameter p).storage
  have hsymm : Std.Symm separate := ⟨fun _ _ hdisjoint => List.Disjoint.symm hdisjoint⟩
  have hpairwise : params.Pairwise separate := (List.nodup_flatMap.mp hstorage).2
  exact hpairwise.forall hp hq hne

theorem eq_of_name_eq {p q : Parameter} (hp : p ∈ params) (hq : q ∈ params)
    (hname : p.name = q.name) : p = q := by
  by_contra hne
  exact disjoint_storage hstorage hp hq hne p.name_mem_storage (hname ▸ q.name_mem_storage)

theorem nodup_names : (params.map (·.name)).Nodup := by
  have hslots := (List.nodup_flatMap.mp hstorage).2
  rw [List.nodup_iff_pairwise_ne, List.pairwise_map]
  refine hslots.imp ?_
  intro p q hdisjoint hname
  exact hdisjoint p.name_mem_storage (hname ▸ q.name_mem_storage)

theorem records_newBuilder (h : Heap) (target builder : ClassName) :
    (h.newBuilder (.ofParams target builder params)).2.Records
      (h.newBuilder (.ofParams target builder params)).1 params [] where
  object := h.hasObject_newObject _ _
  stored := by
    intro p hp e he
    rw [Heap.newBuilder, Heap.get?_newObject, BuilderPlan.initialFields_ofParams]
    refine Table.get?_ofList_of_mem ?_ (List.mem_flatMap.mpr ⟨p, hp, he⟩)
    simpa only [List.map_flatMap, Parameter.map_fst_stored] using hstorage

/-- A setter that writes what its parameter stores keeps the state in step with the calls. -/
theorem Heap.Records.concat {h : Heap} {r : ObjectRef} {calls : List (String × Value)}
    (hrecords : h.Records r params calls) {p : Parameter} (hp : p ∈ params) (v : Value) :
    (h.setAll r (p.stored (calls ++ [(p.name, v)]))).Records r params
      (calls ++ [(p.name, v)]) where
  object := hrecords.object.setAll _
  stored := by
    intro q hq e he
    by_cases hpq : p = q
    · subst hpq
      refine hrecords.object.get?_setAll_of_mem ?_ he
      rw [Parameter.map_fst_stored]
      exact (List.nodup_flatMap.mp hstorage).1 p hp
    · have hname : p.name ≠ q.name := fun hname => hpq (eq_of_name_eq hstorage hp hq hname)
      rw [Parameter.stored_concat_of_ne hname] at he
      rw [hrecords.object.get?_setAll_of_notMem]
      · exact hrecords.stored q hq e he
      · rw [Parameter.map_fst_stored]
        intro hmem
        have hkeys : (q.stored calls).map Prod.fst = (Slot.ofParameter q).storage :=
          Parameter.map_fst_stored
        exact disjoint_storage hstorage hp hq hpq hmem (hkeys ▸ List.mem_map_of_mem he)

end Records

end Memberwise
