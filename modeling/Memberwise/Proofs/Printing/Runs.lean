import Memberwise.Proofs.Equality.Runs
import Memberwise.Proofs.Machine.Dispatch
import Memberwise.Proofs.Printing.Bodies

/-!
# Runs of printed forms

One level of calls at a time, as for equality: what is asked from a class upwards runs the body of
the first class that prints, with a bound smaller by one, or gives the text of the reference. Either
way a text comes out, so that a call to the superclass is shown as it is.
-/

namespace Memberwise

open Eval

namespace Machine

variable (m : Machine) {call : Call} {start : Option ClassName}

theorem printFrom_of_none (hroot : m.root = .identity) (hnone : m.lookupFrom start .print = none)
    (this : ObjectRef) : m.printFrom call start this = pure this.text := by
  rw [printFrom, m.superVia_of_none .print hroot hnone]
  rfl

theorem printVia_object (hroot : m.root = .identity) (this : ObjectRef) :
    m.printVia call (.object this) = m.printFrom call (some this.cls) this := by
  cases hbody : m.lookupFrom (some this.cls) .print with
  | some body =>
    have hlookup : m.lookup this.cls .print = some body := hbody
    rw [printFrom, m.superVia_of_some .print hbody]
    simp only [printVia, hlookup]
  | none =>
    have hlookup : m.lookup this.cls .print = none := hbody
    rw [m.printFrom_of_none hroot hbody]
    simp only [printVia, hlookup]

theorem superVia_print_of_lookup {c : ClassDecl} {options : PrintingOptions}
    (hbody : m.lookupFrom start .print = some (c.printMethod options).body) (this : ObjectRef) :
    m.superVia (m.runBody call) this start .print [] = (do
      return .text (← m.printBody call c.name c.superclass options (c.participants .printing)
        this)) := by
  rw [m.superVia_of_some .print hbody, ClassDecl.printMethod, runBody_print]

theorem printFrom_of_lookup {c : ClassDecl} {options : PrintingOptions}
    (hbody : m.lookupFrom start .print = some (c.printMethod options).body) (this : ObjectRef) :
    m.printFrom (m.runBody call) start this =
      m.printBody call c.name c.superclass options (c.participants .printing) this := by
  rw [printFrom, m.superVia_print_of_lookup hbody]
  simp only [bind_assoc, pure_bind, Value.expectText, lift_ok, bind_pure]

theorem quiet_ownSegment (hvia : ∀ v, Quiet (m.printVia call v)) (this : ObjectRef)
    (p : Participant) : Quiet (m.ownSegment call this p) :=
  (Quiet.read _).bind fun v => (hvia v).bind fun _ => .pure _

section Holding

variable {ss : List ClassSynthesis} (hss : ∀ s ∈ ss, s.FromEngine)

include hss

theorem superVia_print (depth : Nat) (start : Option ClassName) (this : ObjectRef) :
    (holding ss).superVia ((holding ss).invoke depth) this start .print [] = (do
      return .text (← (holding ss).printFrom ((holding ss).invoke depth) start this)) := by
  set m := holding ss with hm
  have hroot : m.root = .identity := IsProgram.root_holding ss
  cases hbody : m.lookupFrom start .print with
  | none =>
    rw [m.printFrom_of_none hroot hbody, m.superVia_of_none .print hroot hbody]
    rfl
  | some body =>
    obtain ⟨c, options, rfl⟩ := printMethod_of_lookupFrom hss hbody
    cases depth with
    | zero =>
      rw [printFrom, m.superVia_of_some .print hbody]
      rfl
    | succ depth => rw [invoke, m.superVia_print_of_lookup hbody, m.printFrom_of_lookup hbody]

theorem superSegments_eq (depth : Nat) (superclass : Option ClassName) (options : PrintingOptions)
    (this : ObjectRef) :
    (holding ss).superSegments ((holding ss).invoke depth) superclass options this =
      if options.callSuper then do
        let s ← (holding ss).printFrom ((holding ss).invoke depth) superclass this
        return ["super=" ++ s]
      else pure [] := by
  rw [superSegments, superVia_print hss]
  simp only [bind_assoc, pure_bind, printVia]

theorem quiet_printFrom (depth : Nat) (start : Option ClassName) (this : ObjectRef) :
    Quiet ((holding ss).printFrom ((holding ss).invoke depth) start this) := by
  set m := holding ss with hm
  have hroot : m.root = .identity := IsProgram.root_holding ss
  induction depth generalizing start this with
  | zero =>
    cases hbody : m.lookupFrom start .print with
    | none =>
      rw [m.printFrom_of_none hroot hbody]
      exact .pure _
    | some body =>
      rw [printFrom, m.superVia_of_some .print hbody]
      exact fun _ => rfl
  | succ depth ih =>
    have hvia (v : Value) : Quiet (m.printVia (m.invoke depth) v) := by
      cases v with
      | object r =>
        rw [m.printVia_object hroot]
        exact ih _ r
      | _ => exact .pure _
    cases hbody : m.lookupFrom start .print with
    | none =>
      rw [m.printFrom_of_none hroot hbody]
      exact .pure _
    | some body =>
      obtain ⟨c, options, rfl⟩ := printMethod_of_lookupFrom hss hbody
      have habove : Quiet (m.superSegments (m.invoke depth) c.superclass options this) := by
        rw [superSegments_eq hss]
        split
        · exact (ih _ this).bind fun s => .pure _
        · exact .pure []
      rw [invoke, m.printFrom_of_lookup hbody]
      have hown := Quiet.mapM (m.quiet_ownSegment hvia this) (c.participants .printing)
      exact habove.bind fun above => hown.bind fun own => .pure _

theorem quiet_print (depth : Nat) (v : Value) : Quiet ((holding ss).print depth v) := by
  cases v with
  | object r =>
    rw [print, printVia_object _ (IsProgram.root_holding ss)]
    exact quiet_printFrom hss depth _ r
  | _ => exact .pure _

end Holding

end Machine

end Memberwise
