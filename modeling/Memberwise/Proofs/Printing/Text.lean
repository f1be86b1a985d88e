import Memberwise.Proofs.Machine.Sequence
import Memberwise.Proofs.Printing.Runs

/-!
# The text of a printed form

A printed form is the short name of its class around its segments. What each segment shows is a run
of its own on the same heap: the printed form of the superclass, or that of the value of a property.
The form ends as these runs do in their order.
-/

namespace Memberwise

open Eval

inductive PrintedPart
  | super (superclass : Option ClassName)
  | property (p : Participant)

def ClassDecl.printedParts (c : ClassDecl) (options : PrintingOptions) : List PrintedPart :=
  (if options.callSuper then [.super c.superclass] else []) ++
    (c.participants .printing).map .property

namespace Machine

variable (m : Machine)

/-- The printed form of `this` by the nearest class with a body for it, from the superclass
upwards, and the text of the reference where there is none. -/
def superText (depth : Nat) (superclass : Option ClassName) (this : ObjectRef) : Eval String :=
  let ancestors := (superclass.map m.ancestry).getD []
  match ancestors.findSome? fun cls => m.bodies.get? (cls, .print) with
  | some body => do Eval.lift (← m.invoke depth body this []).expectText
  | none => pure this.text

def printPart (depth : Nat) (this : ObjectRef) : PrintedPart → Eval String
  | .super superclass => do return "super=" ++ (← m.superText depth superclass this)
  | .property p => do
    let v ← Eval.read (·.read this p.property.name)
    return p.label ++ "=" ++ (← m.print depth v)

theorem superText_eq_printFrom (hroot : m.root = .identity) (depth : Nat)
    (superclass : Option ClassName) (this : ObjectRef) :
    m.superText depth superclass this = m.printFrom (m.invoke depth) superclass this := by
  have hlookup : ((superclass.map m.ancestry).getD []).findSome?
      (fun cls => m.bodies.get? (cls, .print)) = m.lookupFrom superclass .print := by
    cases superclass <;> rfl
  rw [superText, hlookup]
  cases hbody : m.lookupFrom superclass .print with
  | some body => rw [printFrom, m.superVia_of_some .print hbody]
  | none => rw [m.printFrom_of_none hroot hbody]

theorem deepening_printPart (this : ObjectRef) (part : PrintedPart) :
    Deepening fun depth => m.printPart depth this part := by
  cases part with
  | super superclass =>
    refine .bind ?_ fun s => .const _
    intro depth depth' hle
    unfold superText
    dsimp only
    split
    · exact (m.invoke_below hle _ _ _).bind fun v => .refl _
    · exact .refl _
  | property p => exact .bind (.const _) fun v => (m.print_deepening v).bind fun s => .const _

section Holding

variable {ss : List ClassSynthesis} (hss : ∀ s ∈ ss, s.FromEngine)

include hss

theorem quiet_printPart (depth : Nat) (this : ObjectRef) (part : PrintedPart) :
    Quiet ((holding ss).printPart depth this part) := by
  cases part with
  | super superclass =>
    rw [printPart, superText_eq_printFrom _ (IsProgram.root_holding ss)]
    exact (quiet_printFrom hss depth superclass this).bind fun s => .pure _
  | property p => exact (Quiet.read _).bind fun v => (quiet_print hss depth v).bind fun s => .pure _

theorem printBody_eq_mapM (depth : Nat) (c : ClassDecl) (options : PrintingOptions)
    (this : ObjectRef) :
    (holding ss).printBody ((holding ss).invoke depth) c.name c.superclass options
        (c.participants .printing) this = (do
      let texts ← (c.printedParts options).mapM ((holding ss).printPart depth this)
      return c.short ++ "(" ++ ", ".intercalate texts ++ ")") := by
  rw [printBody, superSegments_eq hss, ClassDecl.printedParts, List.mapM_append, List.mapM_map]
  cases options.callSuper with
  | true =>
    simp only [↓reduceIte, List.mapM_cons, List.mapM_nil, printPart,
      superText_eq_printFrom _ (IsProgram.root_holding ss), bind_assoc, pure_bind]
    rfl
  | false =>
    simp only [Bool.false_eq_true, ↓reduceIte, List.mapM_nil, pure_bind, bind_assoc]
    rfl

end Holding

theorem ends_print_iff_body (hroot : m.root = .identity) {c : ClassDecl}
    {options : PrintingOptions} {a : ObjectRef}
    (hbody : m.lookup a.cls .print = some (c.printMethod options).body) {h h' : Heap}
    {r : Except Fault String} :
    Ends (m.print · (.object a)) h r h' ↔
      Ends (fun depth => m.printBody (m.invoke depth) c.name c.superclass options
        (c.participants .printing) a) h r h' := by
  have hbody : m.lookupFrom (some a.cls) .print = some (c.printMethod options).body := hbody
  refine ends_iff_of_succ ?_ fun depth => ?_
  · rw [print, m.printVia_object hroot, printFrom, m.superVia_of_some .print hbody]
    rfl
  · rw [print, m.printVia_object hroot, invoke, m.printFrom_of_lookup hbody]

end Machine

/-- The printed form of an object, by the class that answers for it. It comes out where all of its
segments do, and otherwise the first segment that fails gives the fault. -/
theorem IsProgram.ends_print_iff {ss : List ClassSynthesis} (hss : IsProgram ss) {c : ClassDecl}
    (hc : ReadyIn ss .printing c) {options : PrintingOptions}
    (hoptions : c.annotations.printing = some options) {a : ObjectRef}
    (ha : (Machine.holding ss).lookup a.cls .print =
      (Machine.holding ss).bodies.get? (c.name, .print)) (h h' : Heap) :
    let m := Machine.holding ss
    let parts := c.printedParts options
    (∀ s, Ends (m.print · (.object a)) h (.ok s) h' ↔
      h' = h ∧ ∃ texts,
        List.Forall₂ (fun part text => Ends (m.printPart · a part) h (.ok text) h) parts texts ∧
        s = c.short ++ "(" ++ ", ".intercalate texts ++ ")") ∧
    (∀ e, Ends (m.print · (.object a)) h (.error e) h' ↔
      h' = h ∧ ∃ before part after texts, parts = before ++ part :: after ∧
        List.Forall₂ (fun part text => Ends (m.printPart · a part) h (.ok text) h) before texts ∧
        Ends (m.printPart · a part) h (.error e) h) ∧
    (parts = [] → Ends (m.print · (.object a)) h (.ok (c.short ++ "()")) h) := by
  intro m parts
  obtain ⟨x, hx, hbody⟩ :=
    hss.get?_bodies_of_ready (show Member.print.family ≠ .building by decide) hc
  obtain ⟨options', hoptions', rfl⟩ := ClassDecl.exists_of_freshMember_print hx
  cases hoptions.symm.trans hoptions'
  have hprint {r : Except Fault String} {h₁ : Heap} : Ends (m.print · (.object a)) h r h₁ ↔
      Ends (fun depth => do
        let texts ← parts.mapM (m.printPart depth a)
        return c.short ++ "(" ++ ", ".intercalate texts ++ ")") h r h₁ := by
    rw [m.ends_print_iff_body (root_holding ss) (ha.trans hbody)]
    exact ends_congr (fun depth => by rw [Machine.printBody_eq_mapM hss.fromEngine]) r h₁
  have hpart (depth : Nat) (part : PrintedPart) : Quiet (m.printPart depth a part) :=
    Machine.quiet_printPart hss.fromEngine depth a part
  have hparts (depth : Nat) : Quiet (parts.mapM (m.printPart depth a)) := .mapM (hpart depth) parts
  have hdeepening := deepening_mapM (m.deepening_printPart a) parts
  have hok (s : String) (h₁ : Heap) : Ends (m.print · (.object a)) h (.ok s) h₁ ↔
      h₁ = h ∧ ∃ texts,
        List.Forall₂ (fun part text => Ends (m.printPart · a part) h (.ok text) h) parts texts ∧
        s = c.short ++ "(" ++ ", ".intercalate texts ++ ")" := by
    rw [hprint, ends_map_ok_iff hparts hdeepening]
    simp only [ends_mapM_ok_iff hpart (m.deepening_printPart a), true_and]
  refine ⟨fun s => hok s h', ?_, ?_⟩
  · intro e
    rw [hprint, ends_map_error_iff hparts hdeepening]
    simp only [ends_mapM_error_iff hpart (m.deepening_printPart a), true_and]
  · intro hnone
    have htext : c.short ++ "()" = c.short ++ "(" ++ ", ".intercalate [] ++ ")" := by
      rw [String.intercalate_nil, String.append_empty, String.append_assoc]
      rfl
    exact (hok _ h).mpr ⟨rfl, [], hnone ▸ .nil, htext⟩

namespace Letter

def paper : ClassDecl :=
  { ClassDecl.empty ⟨"office.Paper"⟩ .plain with
    properties := [.ofBody "size" .int],
    annotations := { Annotations.none with printing := some default } }

def sheet : ClassDecl :=
  { ClassDecl.empty ⟨"office.Sheet"⟩ .plain with superclass := some paper.name }

def address : Property :=
  { Property.ofBody "to" .string with printing := .includingAs "to, cc" }

def date : Property := .deferred "sent" .int

def letter : ClassDecl :=
  { ClassDecl.empty ⟨"office.Letter"⟩ .plain with
    superclass := some sheet.name,
    properties := [address, date],
    annotations := { Annotations.none with printing := some ⟨false, true, false⟩ } }

def draft : ClassDecl :=
  { ClassDecl.empty ⟨"office.Draft"⟩ .plain with superclass := some letter.name }

def blank : ClassDecl :=
  { ClassDecl.empty ⟨"office.Blank"⟩ .plain with
    annotations := { Annotations.none with printing := some default } }

def program : List ClassSynthesis :=
  [draft, letter, sheet, paper, blank].map fun c => ((Engine.new .standard).synthesizeClass c).1

theorem isProgram : IsProgram program := .of_nodup .standard (by decide)

theorem readyIn {c : ClassDecl} (hc : c ∈ [letter, blank]) : ReadyIn program .printing c := by
  have hmem : c ∈ [draft, letter, sheet, paper, blank] :=
    (show [letter, blank] ⊆ [draft, letter, sheet, paper, blank] by decide) hc
  refine ⟨.new .standard, .new _, ?_, List.mem_map_of_mem hmem⟩
  revert c
  decide

def sent : ObjectRef := ⟨1, draft.name⟩

def unsent : ObjectRef := ⟨2, draft.name⟩

def empty : ObjectRef := ⟨3, blank.name⟩

def heap : Heap :=
  ⟨[.object (.ofList [("size", .int 4), ("to", .text "Ann), Bob"), ("sent", .int 7)]),
    .object (.ofList [("size", .int 5), ("to", .null)]),
    .object ∅]⟩

end Letter

/-- A letter that was never sent cannot be shown, though all that comes before can. -/
theorem IsProgram.ends_print_iff_letter :
    let print := fun a depth => (Machine.holding Letter.program).print depth (.object a)
    Ends (print Letter.sent) Letter.heap
        (.ok "Letter(super=Paper(size=4), to, cc=Ann), Bob, sent=7)") Letter.heap ∧
      Ends (print Letter.unsent) Letter.heap
        (.error (.uninitialized Letter.draft.name "sent")) Letter.heap ∧
      Ends (print Letter.empty) Letter.heap (.ok "Blank()") Letter.heap := by
  have hletter := Letter.readyIn (show Letter.letter ∈ [Letter.letter, Letter.blank] by decide)
  have hblank := Letter.readyIn (show Letter.blank ∈ [Letter.letter, Letter.blank] by decide)
  have hdraft : (Machine.holding Letter.program).lookup Letter.draft.name .print =
      (Machine.holding Letter.program).bodies.get? (Letter.letter.name, .print) := rfl
  refine ⟨?_, ?_, ?_⟩
  · have hprint := Letter.isProgram.ends_print_iff (a := Letter.sent) hletter rfl hdraft
      Letter.heap Letter.heap
    refine (hprint.1 _).mpr ⟨rfl, ["super=Paper(size=4)", "to, cc=Ann), Bob", "sent=7"], ?_, ?_⟩
    · exact .cons ⟨2, rfl⟩ (.cons ⟨0, rfl⟩ (.cons ⟨0, rfl⟩ .nil))
    · decide
  · have hprint := Letter.isProgram.ends_print_iff (a := Letter.unsent) hletter rfl hdraft
      Letter.heap Letter.heap
    refine (hprint.2.1 _).mpr
      ⟨rfl, [.super (some Letter.sheet.name), .property ⟨Letter.address, "to, cc"⟩],
        .property ⟨Letter.date, "sent"⟩, [], ["super=Paper(size=5)", "to, cc=null"], rfl, ?_,
        0, rfl⟩
    exact .cons ⟨2, rfl⟩ (.cons ⟨0, rfl⟩ .nil)
  · have hprint := Letter.isProgram.ends_print_iff (a := Letter.empty) hblank rfl rfl
      Letter.heap Letter.heap
    exact hprint.2.2 rfl

end Memberwise
