import Memberwise.Proofs.Engine.Agreement
import Memberwise.Proofs.Equality.Flattening
import Memberwise.Proofs.Machine.Sequence

/-!
# Equality against any operand

What a run of an equality comes to, as rules over the heap: on any machine, whatever its root and
the bodies on it, and for any operand. Bodies that are called may change the heap, so a property is
read on the heap that the comparisons before it have left. The rules say nothing of bounds: a run
ends in what they derive, and where they derive nothing it does not end.
-/

namespace Memberwise

open Eval

namespace Machine

/-- Two objects compared property by property, `this` read first, up to the first fault or the
first difference. -/
inductive ComparisonEnds (m : Machine) (this that : ObjectRef) :
    List Participant → Heap → Except Fault Bool → Heap → Prop
  | done {h : Heap} : ComparisonEnds m this that [] h (.ok true) h
  | unreadThis {p : Participant} {ps : List Participant} {h : Heap} {e : Fault} :
    h.guarded this p.property = .error e → ComparisonEnds m this that (p :: ps) h (.error e) h
  | unreadThat {p : Participant} {ps : List Participant} {h : Heap} {v : Value} {e : Fault} :
    h.guarded this p.property = .ok v → h.guarded that p.property = .error e →
    ComparisonEnds m this that (p :: ps) h (.error e) h
  | fault {p : Participant} {ps : List Participant} {h h' : Heap} {v w : Value} {e : Fault} :
    h.guarded this p.property = .ok v → h.guarded that p.property = .ok w →
    Ends (m.equals · v w) h (.error e) h' → ComparisonEnds m this that (p :: ps) h (.error e) h'
  | differ {p : Participant} {ps : List Participant} {h h' : Heap} {v w : Value} :
    h.guarded this p.property = .ok v → h.guarded that p.property = .ok w →
    Ends (m.equals · v w) h (.ok false) h' → ComparisonEnds m this that (p :: ps) h (.ok false) h'
  | agree {p : Participant} {ps : List Participant} {h h₁ h' : Heap} {v w : Value}
    {r : Except Fault Bool} :
    h.guarded this p.property = .ok v → h.guarded that p.property = .ok w →
    Ends (m.equals · v w) h (.ok true) h₁ → ComparisonEnds m this that ps h₁ r h' →
    ComparisonEnds m this that (p :: ps) h r h'

/-- The part of equality that concerns the class itself. Properties are read on another instance of
the class only. -/
inductive OwnEqualityEnds (m : Machine) (cls : ClassName) (participants : List Participant)
    (this : ObjectRef) : Value → Heap → Except Fault Bool → Heap → Prop
  | same {h : Heap} : OwnEqualityEnds m cls participants this (.object this) h (.ok true) h
  | noObject {other : Value} {h : Heap} :
    other.object? = none → OwnEqualityEnds m cls participants this other h (.ok false) h
  | noInstance {that : ObjectRef} {h : Heap} :
    this ≠ that → m.isSubclass that.cls cls = false →
    OwnEqualityEnds m cls participants this (.object that) h (.ok false) h
  | compared {that : ObjectRef} {h h' : Heap} {r : Except Fault Bool} :
    this ≠ that → m.isSubclass that.cls cls = true →
    m.ComparisonEnds this that participants h r h' →
    OwnEqualityEnds m cls participants this (.object that) h r h'

/-- Equality with what the superclass says about it, where that is asked. -/
inductive EqualityEnds (m : Machine) (cls : ClassName) (superclass : Option ClassName)
    (options : EqualityOptions) (participants : List Participant) (this : ObjectRef)
    (other : Value) : Heap → Except Fault Bool → Heap → Prop
  | own {h h' : Heap} {r : Except Fault Bool} :
    options.callSuper = false → m.OwnEqualityEnds cls participants this other h r h' →
    EqualityEnds m cls superclass options participants this other h r h'
  | superFault {h h' : Heap} {e : Fault} :
    options.callSuper = true →
    Ends (m.superCall · (.object this) superclass .equals [other]) h (.error e) h' →
    EqualityEnds m cls superclass options participants this other h (.error e) h'
  | superNoBool {h h' : Heap} {v : Value} :
    options.callSuper = true →
    Ends (m.superCall · (.object this) superclass .equals [other]) h (.ok v) h' →
    (∀ b, v ≠ .bool b) →
    EqualityEnds m cls superclass options participants this other h
      (.error (.typeMismatch .bool v.kind)) h'
  | superDiffers {h h' : Heap} :
    options.callSuper = true →
    Ends (m.superCall · (.object this) superclass .equals [other]) h (.ok (.bool false)) h' →
    EqualityEnds m cls superclass options participants this other h (.ok false) h'
  | superAgrees {h h₁ h' : Heap} {r : Except Fault Bool} :
    options.callSuper = true →
    Ends (m.superCall · (.object this) superclass .equals [other]) h (.ok (.bool true)) h₁ →
    m.OwnEqualityEnds cls participants this other h₁ r h' →
    EqualityEnds m cls superclass options participants this other h r h'

variable {m : Machine} {this that : ObjectRef} {participants : List Participant} {cls : ClassName}
  {superclass : Option ClassName} {options : EqualityOptions} {other : Value} {h h' : Heap}

variable (m this that) in
theorem deepening_agreeVia (participants : List Participant) :
    Deepening fun depth => m.agreeVia (m.invoke depth) this that participants :=
  fun _ _ hle => m.below_agreeVia this that (m.invoke_below hle) participants

theorem ends_agreeVia_cons_iff {p : Participant} {v w : Value} {r : Except Fault Bool}
    (hv : h.guarded this p.property = .ok v) (hw : h.guarded that p.property = .ok w) :
    Ends (fun depth => m.agreeVia (m.invoke depth) this that (p :: participants)) h r h' ↔
      (∃ h₁, Ends (m.equals · v w) h (.ok true) h₁ ∧
        Ends (fun depth => m.agreeVia (m.invoke depth) this that participants) h₁ r h') ∨
      r = .ok false ∧ Ends (m.equals · v w) h (.ok false) h' ∨
      ∃ e, r = .error e ∧ Ends (m.equals · v w) h (.error e) h' := by
  simp only [agreeVia]
  rw [ends_read_bind_of_ok hv, ends_read_bind_of_ok hw]
  exact ends_and_iff (m.equals_deepening v w) (deepening_agreeVia m this that participants)

theorem ComparisonEnds.of_ends {r : Except Fault Bool}
    (hr : Ends (fun depth => m.agreeVia (m.invoke depth) this that participants) h r h') :
    m.ComparisonEnds this that participants h r h' := by
  induction participants generalizing h with
  | nil =>
    obtain ⟨rfl, rfl⟩ := ends_pure_iff.mp hr
    exact .done
  | cons p ps ih =>
    cases hv : h.guarded this p.property with
    | error e =>
      obtain ⟨rfl, rfl⟩ := (ends_read_bind_of_error hv).mp hr
      exact .unreadThis hv
    | ok v =>
      cases hw : h.guarded that p.property with
      | error e =>
        simp only [agreeVia] at hr
        rw [ends_read_bind_of_ok hv, ends_read_bind_of_error hw] at hr
        obtain ⟨rfl, rfl⟩ := hr
        exact .unreadThat hv hw
      | ok w =>
        rcases (ends_agreeVia_cons_iff hv hw).mp hr with
          ⟨h₁, heq, hrest⟩ | ⟨rfl, hne⟩ | ⟨e, rfl, hfault⟩
        · exact .agree hv hw heq (ih hrest)
        · exact .differ hv hw hne
        · exact .fault hv hw hfault

theorem ComparisonEnds.ends {r : Except Fault Bool}
    (hr : m.ComparisonEnds this that participants h r h') :
    Ends (fun depth => m.agreeVia (m.invoke depth) this that participants) h r h' := by
  induction hr with
  | done => exact ends_pure_iff.mpr ⟨rfl, rfl⟩
  | unreadThis hv => exact (ends_read_bind_of_error hv).mpr ⟨rfl, rfl⟩
  | unreadThat hv hw =>
    exact (ends_read_bind_of_ok hv).mpr ((ends_read_bind_of_error hw).mpr ⟨rfl, rfl⟩)
  | fault hv hw hfault => exact (ends_agreeVia_cons_iff hv hw).mpr (.inr (.inr ⟨_, rfl, hfault⟩))
  | differ hv hw hne => exact (ends_agreeVia_cons_iff hv hw).mpr (.inr (.inl ⟨rfl, hne⟩))
  | agree hv hw heq _ ih => exact (ends_agreeVia_cons_iff hv hw).mpr (.inl ⟨_, heq, ih⟩)

section Own

variable {call : Call}

theorem equalsOwn_self :
    m.equalsOwn call cls participants this (.object this) = pure true := if_pos rfl

theorem equalsOwn_of_not_isSubclass (hne : this ≠ that) (hcls : m.isSubclass that.cls cls = false) :
    m.equalsOwn call cls participants this (.object that) = pure false := by
  have hne : Value.object this ≠ .object that := fun hsame => hne (Value.object.inj hsame)
  rw [equalsOwn, if_neg hne]
  exact if_neg (by simp [hcls])

end Own

theorem OwnEqualityEnds.of_ends {r : Except Fault Bool}
    (hr : Ends (fun depth => m.equalsOwn (m.invoke depth) cls participants this other) h r h') :
    m.OwnEqualityEnds cls participants this other h r h' := by
  cases other with
  | object that =>
    by_cases hsame : this = that
    · subst hsame
      simp only [equalsOwn_self] at hr
      obtain ⟨rfl, rfl⟩ := ends_pure_iff.mp hr
      exact .same
    · cases hcls : m.isSubclass that.cls cls with
      | true =>
        simp only [m.equalsOwn_of_ne hsame hcls] at hr
        exact .compared hsame hcls (.of_ends hr)
      | false =>
        simp only [equalsOwn_of_not_isSubclass hsame hcls] at hr
        obtain ⟨rfl, rfl⟩ := ends_pure_iff.mp hr
        exact .noInstance hsame hcls
  | _ =>
    obtain ⟨rfl, rfl⟩ := ends_pure_iff.mp hr
    exact .noObject rfl

theorem OwnEqualityEnds.ends {r : Except Fault Bool}
    (hr : m.OwnEqualityEnds cls participants this other h r h') :
    Ends (fun depth => m.equalsOwn (m.invoke depth) cls participants this other) h r h' := by
  cases hr with
  | same =>
    simp only [equalsOwn_self]
    exact ends_pure_iff.mpr ⟨rfl, rfl⟩
  | noObject hnone =>
    cases other with
    | object that => cases hnone
    | _ => exact ends_pure_iff.mpr ⟨rfl, rfl⟩
  | noInstance hne hcls =>
    simp only [equalsOwn_of_not_isSubclass hne hcls]
    exact ends_pure_iff.mpr ⟨rfl, rfl⟩
  | compared hne hcls hr =>
    simp only [m.equalsOwn_of_ne hne hcls]
    exact hr.ends

variable (m this) in
theorem deepening_equalsOwn (cls : ClassName) (participants : List Participant) (other : Value) :
    Deepening fun depth => m.equalsOwn (m.invoke depth) cls participants this other := by
  simp only [equalsOwn]
  split
  · exact .const _
  · split
    · split
      · exact deepening_agreeVia m this _ participants
      · exact .const _
    · exact .const _

theorem expectBool_eq_ok_iff {v : Value} {b : Bool} : v.expectBool = .ok b ↔ v = .bool b := by
  cases v <;> simp [Value.expectBool]

theorem expectBool_eq_error_iff {v : Value} {e : Fault} :
    v.expectBool = .error e ↔ (∀ b, v ≠ .bool b) ∧ e = .typeMismatch .bool v.kind := by
  cases v <;> simp [Value.expectBool, eq_comm]

theorem equalsFrom_eq_superCall (depth : Nat) (start : Option ClassName) (this : ObjectRef)
    (other : Value) :
    m.equalsFrom (m.invoke depth) start this other = (do
      Eval.lift (← m.superCall depth (.object this) start .equals [other]).expectBool) := rfl

variable (m this) in
theorem deepening_equalsFrom (start : Option ClassName) (other : Value) :
    Deepening fun depth => m.equalsFrom (m.invoke depth) start this other := by
  simp only [equalsFrom_eq_superCall]
  exact (m.superCall_deepening _ _ _ _).bind fun v => .const _

theorem ends_equalsFrom_iff {start : Option ClassName} {r : Except Fault Bool} :
    Ends (fun depth => m.equalsFrom (m.invoke depth) start this other) h r h' ↔
      ∃ answer, r = answer >>= Value.expectBool ∧
        Ends (m.superCall · (.object this) start .equals [other]) h answer h' := by
  simp only [equalsFrom_eq_superCall]
  exact ends_bind_lift_iff (m.superCall_deepening _ _ _ _) Value.expectBool

theorem ends_equalsFrom_ok_iff {start : Option ClassName} {b : Bool} :
    Ends (fun depth => m.equalsFrom (m.invoke depth) start this other) h (.ok b) h' ↔
      Ends (m.superCall · (.object this) start .equals [other]) h (.ok (.bool b)) h' := by
  rw [ends_equalsFrom_iff]
  constructor
  · rintro ⟨e | v, hb, hanswer⟩
    · cases hb
    · obtain rfl := expectBool_eq_ok_iff.mp hb.symm
      exact hanswer
  · intro hanswer
    exact ⟨_, rfl, hanswer⟩

/-- An answer other than a truth value is a fault as well. -/
theorem ends_equalsFrom_error_iff {start : Option ClassName} {e : Fault} :
    Ends (fun depth => m.equalsFrom (m.invoke depth) start this other) h (.error e) h' ↔
      Ends (m.superCall · (.object this) start .equals [other]) h (.error e) h' ∨
      ∃ v, Ends (m.superCall · (.object this) start .equals [other]) h (.ok v) h' ∧
        (∀ b, v ≠ .bool b) ∧ e = .typeMismatch .bool v.kind := by
  rw [ends_equalsFrom_iff]
  constructor
  · rintro ⟨e' | v, he, hanswer⟩
    · cases he
      exact .inl hanswer
    · exact .inr ⟨v, hanswer, expectBool_eq_error_iff.mp he.symm⟩
  · rintro (hanswer | ⟨v, hanswer, hv⟩)
    · exact ⟨.error e, rfl, hanswer⟩
    · exact ⟨.ok v, (expectBool_eq_error_iff.mpr hv).symm, hanswer⟩

theorem ends_equalsBody_iff_of_callSuper (hcall : options.callSuper = true)
    {r : Except Fault Bool} :
    Ends (fun depth => m.equalsBody (m.invoke depth) cls superclass options participants this
        other) h r h' ↔
      (∃ h₁, Ends (m.superCall · (.object this) superclass .equals [other]) h (.ok (.bool true))
          h₁ ∧
        Ends (fun depth => m.equalsOwn (m.invoke depth) cls participants this other) h₁ r h') ∨
      r = .ok false ∧
        Ends (m.superCall · (.object this) superclass .equals [other]) h (.ok (.bool false)) h' ∨
      ∃ e, r = .error e ∧
        (Ends (m.superCall · (.object this) superclass .equals [other]) h (.error e) h' ∨
          ∃ v, Ends (m.superCall · (.object this) superclass .equals [other]) h (.ok v) h' ∧
            (∀ b, v ≠ .bool b) ∧ e = .typeMismatch .bool v.kind) := by
  simp only [equalsBody, if_pos hcall]
  rw [ends_and_iff (deepening_equalsFrom m this superclass other)
    (deepening_equalsOwn m this cls participants other)]
  simp only [ends_equalsFrom_ok_iff, ends_equalsFrom_error_iff]

theorem EqualityEnds.of_ends {r : Except Fault Bool}
    (hr : Ends (fun depth => m.equalsBody (m.invoke depth) cls superclass options participants this
      other) h r h') :
    m.EqualityEnds cls superclass options participants this other h r h' := by
  cases hcall : options.callSuper with
  | false =>
    simp only [equalsBody, hcall] at hr
    exact .own hcall (.of_ends hr)
  | true =>
    rcases (ends_equalsBody_iff_of_callSuper hcall).mp hr with
      ⟨h₁, hagrees, hown⟩ | ⟨rfl, hdiffers⟩ | ⟨e, rfl, hfault | ⟨v, hanswer, hv, rfl⟩⟩
    · exact .superAgrees hcall hagrees (.of_ends hown)
    · exact .superDiffers hcall hdiffers
    · exact .superFault hcall hfault
    · exact .superNoBool hcall hanswer hv

theorem EqualityEnds.ends {r : Except Fault Bool}
    (hr : m.EqualityEnds cls superclass options participants this other h r h') :
    Ends (fun depth => m.equalsBody (m.invoke depth) cls superclass options participants this
      other) h r h' := by
  cases hr with
  | own hcall hown =>
    simp only [equalsBody, hcall]
    exact hown.ends
  | superFault hcall hfault =>
    exact (ends_equalsBody_iff_of_callSuper hcall).mpr (.inr (.inr ⟨_, rfl, .inl hfault⟩))
  | superNoBool hcall hanswer hv =>
    refine (ends_equalsBody_iff_of_callSuper hcall).mpr (.inr (.inr ⟨_, rfl, ?_⟩))
    exact .inr ⟨_, hanswer, hv, rfl⟩
  | superDiffers hcall hdiffers =>
    exact (ends_equalsBody_iff_of_callSuper hcall).mpr (.inr (.inl ⟨rfl, hdiffers⟩))
  | superAgrees hcall hagrees hown =>
    exact (ends_equalsBody_iff_of_callSuper hcall).mpr (.inl ⟨_, hagrees, hown.ends⟩)

variable (m this) in
theorem deepening_equalsBody (cls : ClassName) (superclass : Option ClassName)
    (options : EqualityOptions) (participants : List Participant) (other : Value) :
    Deepening fun depth =>
      m.equalsBody (m.invoke depth) cls superclass options participants this other := by
  have hown := deepening_equalsOwn m this cls participants other
  cases hcall : options.callSuper with
  | true =>
    simp only [equalsBody, if_pos hcall]
    exact (deepening_equalsFrom m this superclass other).bind (hown.ite (.const _))
  | false =>
    simp only [equalsBody, hcall]
    exact hown

/-- The body gives the outcome of the rules and nothing else. -/
theorem ends_invoke_equals_iff {r : Except Fault Value} :
    Ends (m.invoke · (Synthesis.equals cls superclass options participants).body this [other])
        h r h' ↔
      ∃ b, r = Value.bool <$> b ∧
        m.EqualityEnds cls superclass options participants this other h b h' := by
  rw [ends_iff_of_succ rfl fun depth => m.runBody_equals (m.invoke depth) cls superclass options
    participants this other]
  rw [ends_map_iff (deepening_equalsBody m this cls superclass options participants other)]
  exact exists_congr fun b => and_congr_right fun _ => ⟨.of_ends, EqualityEnds.ends⟩

end Machine

/-- Whichever way the engine made the method, it is the same. -/
theorem Engine.Reachable.freshMember_of_made {e : Engine} (he : e.Reachable) {c : ClassDecl}
    {member : Member} {x : Method}
    (hx : (e.synthesize member c).1 = .ok x ∨
      x ∈ (e.synthesizeClass c).1.methods ∧ x.member = member) :
    freshMember c member = .ok x := by
  rcases hx with hx | ⟨hx, rfl⟩
  · rw [he.synthesize_fst] at hx
    obtain ⟨hready, -⟩ := exists_freshAnswer_iff.mp ⟨x, hx⟩
    rwa [freshAnswer_of_ready hready] at hx
  · rw [he.synthesizeClass_fst] at hx
    exact ClassSynthesis.exists_of_mem_fresh hx

/-- What a run of an equality that the engine made comes to, on any machine and for any operand. -/
theorem Engine.Reachable.ends_equals_body_iff {e : Engine} (he : e.Reachable) {c : ClassDecl}
    {x : Method}
    (hx : (e.synthesize .equals c).1 = .ok x ∨
      x ∈ (e.synthesizeClass c).1.methods ∧ x.member = .equals) :
    ∃ options r, c.annotations.equality = some options ∧ c.resolution? .equality = some r ∧
      ∀ (m : Machine) (this : ObjectRef) (other : Value) (h h' : Heap)
        (outcome : Except Fault Value),
        Ends (m.invoke · x.body this [other]) h outcome h' ↔
          ∃ b, outcome = Value.bool <$> b ∧
            m.EqualityEnds c.name c.superclass options r.participants this other h b h' := by
  have hfresh := he.freshMember_of_made hx
  obtain ⟨options, hoptions, rfl⟩ := ClassDecl.exists_of_freshMember_equality rfl hfresh
  obtain ⟨r, hr⟩ : ∃ r, c.resolution? .equality = some r := by
    simp [ClassDecl.resolution?, InclusionPolicy.ofClass?, hoptions]
  refine ⟨options, r, hoptions, hr, fun m this other h h' outcome => ?_⟩
  rw [if_pos rfl, ClassDecl.equalsMethod, ClassDecl.participants_of_resolution? hr]
  exact Machine.ends_invoke_equals_iff

namespace Coupon

def options : EqualityOptions := { (default : EqualityOptions) with callSuper := true }

def cls : ClassDecl :=
  { ClassDecl.empty ⟨"Coupon"⟩ .plain with
    superclass := some ⟨"Voucher"⟩, properties := [.ofBody "code" .int, .ofBody "issuer" .string],
    annotations := { Annotations.none with equality := some options } }

/-- Finds everything equal and puts a stamp on what it was asked about. -/
def stamping : Root := fun this _ _ h => (.ok (.bool true), h.set this "stamped" (.bool true))

def machine : Machine := .new stamping

def used : ObjectRef := ⟨1, cls.name⟩

def copy : ObjectRef := ⟨2, cls.name⟩

def other : ObjectRef := ⟨3, cls.name⟩

def heap : Heap :=
  ⟨[.object (.ofList [("code", .int 1)]), .object (.ofList [("code", .int 1)]),
    .object (.ofList [("code", .int 2)])]⟩

end Coupon

/-- The issuer is missed where the codes agree, and only there. -/
theorem Engine.Reachable.ends_equals_body_iff_coupon :
    let x := Coupon.cls.equalsMethod Coupon.options
    let run := fun (other : Value) depth => Coupon.machine.invoke depth x.body Coupon.used [other]
    let stamped := Coupon.heap.set Coupon.used "stamped" (.bool true)
    ((Engine.new .standard).synthesize .equals Coupon.cls).1 = .ok x ∧
      Ends (run (.object Coupon.other)) Coupon.heap (.ok (.bool false)) stamped ∧
      Ends (run (.object Coupon.copy)) Coupon.heap
        (.error (.uninitialized Coupon.cls.name "issuer")) stamped := by
  intro x run stamped
  have hx : ((Engine.new .standard).synthesize .equals Coupon.cls).1 = .ok x := rfl
  obtain ⟨options, r, hoptions, hr, hends⟩ :=
    (Engine.Reachable.new .standard).ends_equals_body_iff (.inl hx)
  cases hoptions
  cases hr
  have hasked (other : Value) : Ends (Coupon.machine.superCall · (.object Coupon.used)
      Coupon.cls.superclass .equals [other]) Coupon.heap (.ok (.bool true)) stamped := ⟨0, rfl⟩
  refine ⟨hx, (hends _ _ _ _ _ _).mpr ⟨.ok false, rfl, ?_⟩, (hends _ _ _ _ _ _).mpr
    ⟨.error _, rfl, ?_⟩⟩
  · have hdiffer : Ends (Coupon.machine.equals · (.int 1) (.int 2)) stamped (.ok false) stamped :=
      ⟨0, rfl⟩
    exact .superAgrees rfl (hasked _) (.compared (by decide) rfl (.differ rfl rfl hdiffer))
  · have hagree : Ends (Coupon.machine.equals · (.int 1) (.int 1)) stamped (.ok true) stamped :=
      ⟨0, rfl⟩
    exact .superAgrees rfl (hasked _)
      (.compared (by decide) rfl (.agree rfl rfl hagree (.unreadThis rfl)))

end Memberwise
