import Memberwise.Machine.Eval

/-!
# Outcomes of evaluations

An evaluation is read through the heap it starts on: it gives a value or a halt, and the heap it
leaves. `Ends` forgets how deep calls were allowed to nest; its counterpart for divergence is that
no bound is enough.
-/

namespace Memberwise

namespace Eval

variable {α β : Type}

/-- What `x` gives when it starts on `h`, and the heap it leaves. -/
def on (x : Eval α) (h : Heap) : Except Halt α × Heap := x.run h

theorem ext {x y : Eval α} (hxy : ∀ h, x.on h = y.on h) : x = y := funext hxy

@[simp] theorem on_pure (a : α) (h : Heap) : (pure a : Eval α).on h = (.ok a, h) := rfl

theorem on_bind (x : Eval α) (f : α → Eval β) (h : Heap) :
    (x >>= f).on h =
      match x.on h with
      | (.ok a, h') => (f a).on h'
      | (.error e, h') => (.error e, h') := by
  change ExceptT.bindCont f (x.on h).1 (x.on h).2 = _
  obtain ⟨r, h'⟩ := x.on h
  cases r <;> rfl

@[simp] theorem lift_ok (a : α) : lift (.ok a) = (pure a : Eval α) := rfl

@[simp] theorem mapError_ok {ε ε' : Type} (f : ε → ε') (a : α) :
    (Except.ok a : Except ε α).mapError f = .ok a := rfl

@[simp] theorem mapError_error {ε ε' : Type} (f : ε → ε') (e : ε) :
    (Except.error e : Except ε α).mapError f = .error (f e) := rfl

@[simp] theorem ok_bind {ε : Type} (a : α) (f : α → Except ε β) :
    (Except.ok a >>= f) = f a := rfl

theorem on_lift (r : Except Fault α) (h : Heap) : (lift r).on h = (r.mapError .fault, h) := by
  cases r <;> rfl

theorem on_read (f : Heap → Except Fault α) (h : Heap) :
    (read f).on h = ((f h).mapError .fault, h) := on_lift (f h) h

/-- What comes after a read starts on the same heap. -/
theorem on_read_bind (f : Heap → Except Fault α) (g : α → Eval β) (h : Heap) :
    (read f >>= g).on h =
      match f h with
      | .ok a => (g a).on h
      | .error fault => (.error (.fault fault), h) := by
  rw [on_bind, on_read]
  cases f h <;> rfl

@[simp] theorem on_get (h : Heap) : (get : Eval Heap).on h = (.ok h, h) := rfl

@[simp] theorem expectBool_bool (b : Bool) : (Value.bool b).expectBool = .ok b := rfl

@[simp] theorem expectInt_int (i : Int32) : (Value.int i).expectInt = .ok i := rfl

@[simp] theorem expectObject_object (r : ObjectRef) : (Value.object r).expectObject = .ok r := rfl

@[simp] theorem receiver_object (name : String) (r : ObjectRef) :
    (Value.object r).receiver name = .ok r := rfl

theorem on_bind_ok_iff {x : Eval α} {f : α → Eval β} {h h' : Heap} {b : β} :
    (x >>= f).on h = (.ok b, h') ↔ ∃ a h₁, x.on h = (.ok a, h₁) ∧ (f a).on h₁ = (.ok b, h') := by
  rw [on_bind]
  constructor
  · intro hb
    cases hr : x.on h with
    | mk r h₁ =>
      rw [hr] at hb
      cases r with
      | ok a => exact ⟨a, h₁, rfl, hb⟩
      | error e => cases hb
  · rintro ⟨a, h₁, ha, hb⟩
    rw [ha]
    exact hb

theorem length_eq_of_on_mapM {g : α → Eval β} {as : List α} {bs : List β} {h h' : Heap}
    (hbs : (as.mapM g).on h = (.ok bs, h')) : bs.length = as.length := by
  induction as generalizing bs h with
  | nil =>
    cases hbs
    rfl
  | cons a as ih =>
    rw [List.mapM_cons, on_bind_ok_iff] at hbs
    obtain ⟨b, h₁, -, hbs⟩ := hbs
    obtain ⟨rest, h₂, hrest, hbs⟩ := on_bind_ok_iff.mp hbs
    cases hbs
    rw [List.length_cons, List.length_cons, ih hrest]

def Quiet (x : Eval α) : Prop := ∀ h, (x.on h).2 = h

theorem Quiet.pure (a : α) : Quiet (pure a : Eval α) := fun _ => rfl

theorem Quiet.read (f : Heap → Except Fault α) : Quiet (read f) := fun h => by rw [on_read]

theorem Quiet.bind {x : Eval α} {f : α → Eval β} (hx : Quiet x) (hf : ∀ a, Quiet (f a)) :
    Quiet (x >>= f) := by
  intro h
  have hxh := hx h
  rw [on_bind]
  cases hr : x.on h with
  | mk r h₁ =>
    rw [hr] at hxh
    cases r with
    | ok a => exact (hf a h₁).trans hxh
    | error e => exact hxh

theorem Quiet.mapM {f : α → Eval β} (hf : ∀ a, Quiet (f a)) (as : List α) :
    Quiet (as.mapM f) := by
  induction as with
  | nil => exact .pure []
  | cons a as ih =>
    rw [List.mapM_cons]
    exact (hf a).bind fun b => ih.bind fun bs => .pure _

theorem Quiet.heap_eq {x : Eval α} (hx : Quiet x) {h h' : Heap} {r : Except Halt α}
    (hr : x.on h = (r, h')) : h' = h := by
  have := hx h
  rwa [hr] at this

theorem Quiet.bind_ok_iff {x : Eval α} (hx : Quiet x) {f : α → Eval β} {h h' : Heap} {b : β} :
    (x >>= f).on h = (.ok b, h') ↔ ∃ a, x.on h = (.ok a, h) ∧ (f a).on h = (.ok b, h') := by
  rw [on_bind_ok_iff]
  constructor
  · rintro ⟨a, h₁, ha, hb⟩
    obtain rfl := hx.heap_eq ha
    exact ⟨a, ha, hb⟩
  · rintro ⟨a, ha, hb⟩
    exact ⟨a, h, ha, hb⟩

/-- What comes after two evaluations that end alike may go on for each of them. -/
theorem Quiet.on_bind_congr {x y : Eval α} {f g : α → Eval β} {h : Heap} (hx : Quiet x)
    (hxy : x.on h = y.on h) (hfg : ∀ a, (f a).on h = (g a).on h) :
    (x >>= f).on h = (y >>= g).on h := by
  rw [on_bind, on_bind, ← hxy]
  cases hr : x.on h with
  | mk r h₁ =>
    obtain rfl := hx.heap_eq hr
    cases r with
    | ok a => exact hfg a
    | error halt => rfl

theorem Quiet.on_mapM_congr {f g : α → Eval β} {h : Heap} (hf : ∀ a, Quiet (f a))
    (hfg : ∀ a, (f a).on h = (g a).on h) (as : List α) :
    (as.mapM f).on h = (as.mapM g).on h := by
  induction as with
  | nil => rfl
  | cons a as ih =>
    rw [List.mapM_cons, List.mapM_cons]
    refine (hf a).on_bind_congr (hfg a) fun b => ?_
    exact (Quiet.mapM hf as).on_bind_congr ih fun bs => rfl

/-- With calls nested as deep as they need, `op` started on `h` ends with `r` and leaves `h'`. -/
def Ends (op : Nat → Eval α) (h : Heap) (r : Except Fault α) (h' : Heap) : Prop :=
  ∃ depth, (op depth).on h = (r.mapError .fault, h')

theorem ends_congr {op op' : Nat → Eval α} {h : Heap}
    (hop : ∀ depth, (op depth).on h = (op' depth).on h) (r : Except Fault α) (h' : Heap) :
    Ends op h r h' ↔ Ends op' h r h' :=
  exists_congr fun depth => by rw [hop]

/-- One level of calls is spent on `op` itself. -/
theorem ends_iff_of_succ {op op' : Nat → Eval α} {h : Heap}
    (hzero : (op 0).on h = (.error .tooDeep, h)) (hsucc : ∀ depth, op (depth + 1) = op' depth)
    {r : Except Fault α} {h' : Heap} : Ends op h r h' ↔ Ends op' h r h' := by
  constructor
  · rintro ⟨depth, hr⟩
    cases depth with
    | zero =>
      rw [hzero] at hr
      cases r <;> cases hr
    | succ depth => exact ⟨depth, hsucc depth ▸ hr⟩
  · rintro ⟨depth, hr⟩
    exact ⟨depth + 1, (hsucc depth).symm ▸ hr⟩

/-- `op` started on `h` ends with `r`, whatever heap it leaves. -/
def Yields (op : Nat → Eval α) (h : Heap) (r : Except Fault α) : Prop := ∃ h', Ends op h r h'

end Eval

namespace Frame

@[simp] theorem enter_this (sig : Signature) (this : ObjectRef) (args : List Value) :
    (enter sig this args).this = this := rfl

theorem paramValue_enter (sig : Signature) (this : ObjectRef) {name : String} {type : HostType}
    {v : Value} (hsig : sig.params = [⟨name, type⟩]) :
    (enter sig this [v]).paramValue name = .ok v := by
  rw [paramValue, enter, hsig]
  change (((Table.empty.insert name v).get? name).elim _ _ : Except Fault Value) = _
  rw [Table.get?_insert_self]
  rfl

end Frame

end Memberwise
