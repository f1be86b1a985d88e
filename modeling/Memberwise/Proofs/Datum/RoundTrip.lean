import Memberwise.Datum.Metadata

/-!
# Reading what was written

Every kind of metadata is read back from its written form as it was. A type that is never written
as null keeps what is absent apart from what is there; a field that is left out is not found under
its name, so that it reads as absent and the fields beside it as they are.
-/

namespace Memberwise

open Datum

class LawfulWritten (α : Type) [Written α] : Prop where
  read?_write : ∀ a : α, read? (write a) = some a
  write_ne_null : ∀ a : α, write a ≠ Datum.null

export LawfulWritten (read?_write write_ne_null)

attribute [simp] read?_write write_ne_null

namespace Datum

@[simp] theorem fields?_record (names : List String) (fields : List (String × Datum)) :
    (record fields).fields? names = some (names.map (field? fields)) :=
  rfl

@[simp] theorem exactFields?_record {names : List String} {fields : List (String × Datum)}
    (hknown : ∀ f ∈ fields, f.1 ∈ names) :
    (record fields).exactFields? names = some (names.map (field? fields)) := by
  rw [exactFields?, if_pos (List.all_eq_true.mpr fun f hf => by simpa using hknown f hf),
    fields?_record]

@[simp] theorem field?_nil (name : String) : field? [] name = none := rfl

@[simp] theorem field?_cons (key : String) (d : Datum) (rest : List (String × Datum))
    (name : String) :
    field? ((key, d) :: rest) name = if key = name then some d else field? rest name := by
  rw [field?, List.find?_cons]
  by_cases hkey : key = name <;> simp [hkey, field?]

variable {α : Type} [Written α]

@[simp] theorem field?_fieldIfSome_of_ne {key name : String} (hne : key ≠ name) (a : Option α)
    (rest : List (String × Datum)) :
    field? (fieldIfSome key a ++ rest) name = field? rest name := by
  cases a <;> simp [fieldIfSome, hne]

theorem optional?_of_ne_null {d : Datum} (hd : d ≠ null) :
    optional? (some d) = (read? d : Option α).map some := by
  cases d with
  | null => exact absurd rfl hd
  | _ => rfl

variable [LawfulWritten α]

@[simp] theorem required?_write (a : α) : required? (some (write a)) = some a := read?_write a

@[simp] theorem orElse?_write (default a : α) : orElse? default (some (write a)) = some a :=
  read?_write a

@[simp] theorem optional?_write (a : α) : optional? (some (write a)) = some (some a) := by
  rw [optional?_of_ne_null (write_ne_null a), read?_write, Option.map_some]

@[simp] theorem optional?_writeOption (a : Option α) : optional? (some (write a)) = some a := by
  cases a with
  | none => rfl
  | some a => exact optional?_write a

/-- A field that may be left out, where nothing else stands under its name. -/
@[simp] theorem optional?_fieldIfSome {name : String} {rest : List (String × Datum)}
    (hrest : field? rest name = none) (a : Option α) :
    optional? (field? (fieldIfSome name a ++ rest) name) = some a := by
  cases a with
  | none => simp [fieldIfSome, hrest, optional?]
  | some a => simp [fieldIfSome]

theorem readAll?_map_write (as : List α) : readAll? (as.map write) = some as := by
  induction as with
  | nil => rfl
  | cons a as ih => simp [readAll?, ih]

end Datum

instance : LawfulWritten Bool where
  read?_write _ := rfl
  write_ne_null _ := nofun

instance : LawfulWritten String where
  read?_write _ := rfl
  write_ne_null _ := nofun

instance : LawfulWritten Int32 where
  read?_write i := by
    have hbounds : Int32.minValue.toInt ≤ i.toInt ∧ i.toInt ≤ Int32.maxValue.toInt :=
      ⟨i.minValue_le_toInt, i.toInt_le⟩
    change (if _ then some (Int32.ofInt i.toInt) else none) = _
    rw [if_pos hbounds, i.ofInt_toInt]
  write_ne_null _ := nofun

instance : LawfulWritten Int64 where
  read?_write l := by
    have hbounds : Int64.minValue.toInt ≤ l.toInt ∧ l.toInt ≤ Int64.maxValue.toInt :=
      ⟨l.minValue_le_toInt, l.toInt_le⟩
    change (if _ then some (Int64.ofInt l.toInt) else none) = _
    rw [if_pos hbounds, l.ofInt_toInt]
  write_ne_null _ := nofun

instance : LawfulWritten UInt64 where
  read?_write n := by
    have hbounds : 0 ≤ (n.toNat : Int) ∧ (n.toNat : Int).toNat < UInt64.size :=
      ⟨Int.natCast_nonneg _, n.toNat_lt_size⟩
    change (if _ then some (UInt64.ofNat (n.toNat : Int).toNat) else none) = _
    rw [if_pos hbounds, Int.toNat_natCast, UInt64.ofNat_toNat]
  write_ne_null _ := nofun

instance {α : Type} [Written α] [LawfulWritten α] : LawfulWritten (List α) where
  read?_write as := readAll?_map_write as
  write_ne_null _ := nofun

instance : LawfulWritten Location where
  read?_write l := by
    unfold instWrittenLocation
    simp
  write_ne_null _ := nofun

instance : LawfulWritten ClassName where
  read?_write c := by
    unfold instWrittenClassName
    simp
  write_ne_null _ := nofun

instance : LawfulWritten Family where
  read?_write f := by cases f <;> rfl
  write_ne_null _ := nofun

instance : LawfulWritten ClassKind where
  read?_write k := by cases k <;> rfl
  write_ne_null _ := nofun

instance : LawfulWritten Storage where
  read?_write s := by cases s <;> rfl
  write_ne_null _ := nofun

instance : LawfulWritten PropertyOrigin where
  read?_write o := by cases o <;> rfl
  write_ne_null _ := nofun

instance : LawfulWritten ObjectMethod where
  read?_write m := by cases m <;> rfl
  write_ne_null m := by cases m <;> exact nofun

instance : LawfulWritten Strictness where
  read?_write s := by cases s <;> rfl
  write_ne_null _ := nofun

instance : LawfulWritten Literal where
  read?_write l := by
    unfold instWrittenLiteral
    cases l <;> simp [case?]
  write_ne_null l := by cases l <;> exact nofun

instance : LawfulWritten Default where
  read?_write d := by
    unfold instWrittenDefault
    cases d <;> simp [case?]
  write_ne_null d := by cases d <;> exact nofun

instance : LawfulWritten HostType where
  read?_write t := by
    unfold instWrittenHostType
    simp
  write_ne_null _ := nofun

instance : LawfulWritten IncludeMark where
  read?_write m := by
    have hlabel : optional? (field? (fieldIfSome "name" m.label) "name") = some m.label := by
      simpa using optional?_fieldIfSome (field?_nil "name") m.label
    unfold instWrittenIncludeMark
    simp [hlabel]
  write_ne_null _ := nofun

instance : LawfulWritten Marks where
  read?_write m := by
    unfold instWrittenMarks
    simp
  write_ne_null _ := nofun

instance : LawfulWritten Property where
  read?_write p := by
    unfold instWrittenProperty
    simp
  write_ne_null _ := nofun

instance : LawfulWritten Parameter where
  read?_write p := by
    unfold instWrittenParameter
    simp
  write_ne_null _ := nofun

instance : LawfulWritten BuilderMethod where
  read?_write m := by
    unfold instWrittenBuilderMethod
    simp
  write_ne_null _ := nofun

instance : LawfulWritten Modifiers where
  read?_write m := by
    unfold instWrittenModifiers
    simp
  write_ne_null _ := nofun

instance : LawfulWritten BuilderDecl where
  read?_write b := by
    unfold instWrittenBuilderDecl
    simp
  write_ne_null _ := nofun

instance : LawfulWritten EqualityOptions where
  read?_write o := by
    unfold instWrittenEqualityOptions
    simp
  write_ne_null _ := nofun

instance : LawfulWritten PrintingOptions where
  read?_write o := by
    unfold instWrittenPrintingOptions
    simp
  write_ne_null _ := nofun

instance : LawfulWritten Annotations where
  read?_write a := by
    unfold instWrittenAnnotations
    simp
  write_ne_null _ := nofun

instance : LawfulWritten UserMethod where
  read?_write m := by
    unfold instWrittenUserMethod
    simp
  write_ne_null _ := nofun

instance : LawfulWritten BuilderSettings where
  read?_write s := by
    unfold instWrittenBuilderSettings
    simp
  write_ne_null _ := nofun

instance : LawfulWritten Settings where
  read?_write s := by
    unfold instWrittenSettings
    simp
  write_ne_null _ := nofun

section Injective

variable {α : Type} [Written α] [LawfulWritten α]

theorem write_injective : Function.Injective (write : α → Datum) := by
  intro a b heq
  have hread : (read? (write a) : Option α) = read? (write b) := congrArg read? heq
  simpa using hread

end Injective

/-- All metadata is read back as it was written. What is absent, null or there without a name is
written in different ways. -/
theorem read?_write_metadata :
    (∀ t : HostType, read? (write t) = some t) ∧
    (∀ m : IncludeMark, read? (write m) = some m) ∧
    (∀ m : Marks, read? (write m) = some m) ∧
    (∀ p : Property, read? (write p) = some p) ∧
    (∀ l : Literal, read? (write l) = some l) ∧
    (∀ d : Default, read? (write d) = some d) ∧
    (∀ p : Parameter, read? (write p) = some p) ∧
    (∀ m : BuilderMethod, read? (write m) = some m) ∧
    (∀ k : ClassKind, read? (write k) = some k) ∧
    (∀ m : Modifiers, read? (write m) = some m) ∧
    (∀ b : BuilderDecl, read? (write b) = some b) ∧
    (∀ o : EqualityOptions, read? (write o) = some o) ∧
    (∀ o : PrintingOptions, read? (write o) = some o) ∧
    (∀ a : Annotations, read? (write a) = some a) ∧
    (∀ m : UserMethod, read? (write m) = some m) ∧
    (∀ s : Settings, read? (write s) = some s) ∧
    (∀ p : Parameter,
      write { p with default? := none } ≠ write { p with default? := some .null }) ∧
    ∀ m : Marks,
      write { m with included := none } ≠ write { m with included := some .plain } := by
  refine ⟨read?_write, read?_write, read?_write, read?_write, read?_write, read?_write,
    read?_write, read?_write, read?_write, read?_write, read?_write, read?_write, read?_write,
    read?_write, read?_write, read?_write, ?_, ?_⟩
  · intro p heq
    cases congrArg Parameter.default? (write_injective heq)
  · intro m heq
    cases congrArg Marks.included (write_injective heq)

end Memberwise
