import Mathlib.Data.List.Basic
import Memberwise.Proofs.Machine.Outcome
import Memberwise.Synthesis.Object

/-!
# What the body of a printed form does

The body as a program over texts. Each segment is a label with what is shown after it; the segments
are evaluated in order, that of the superclass first, and then joined. Merging neighbouring texts
changes nothing.
-/

namespace Memberwise

namespace Synthesis

/-- What is made of a list part by part does not tell whether neighbouring texts are merged. -/
theorem apply_joinParts {β : Type} {make : List Expr → β} (combine : β → β → β)
    (happend : ∀ es es', make (es ++ es') = combine (make es) (make es'))
    (htext : ∀ s t, make [.text (s ++ t)] = make [.text s, .text t]) (parts : List Expr) :
    make (joinParts parts) = make parts := by
  have hpart (joined : List Expr) (part : Expr) :
      make (joinPart joined part) = make (joined ++ [part]) := by
    unfold joinPart
    split
    · rename_i s t hlast
      obtain ⟨init, rfl⟩ := List.getLast?_eq_some_iff.mp hlast
      rw [List.dropLast_concat, happend, htext, ← happend, List.append_assoc]
      rfl
    · rfl
  have hfold (joined : List Expr) :
      make (parts.foldl joinPart joined) = make (joined ++ parts) := by
    induction parts generalizing joined with
    | nil => rw [List.foldl_nil, List.append_nil]
    | cons part parts ih =>
      rw [List.foldl_cons, ih, happend, hpart, ← happend, List.append_assoc,
        List.singleton_append]
  exact hfold []

/-- What is collected from a printed form is what its segments give. -/
theorem collect_printParts {β : Type} {collect : List Expr → List β}
    (happend : ∀ es es', collect (es ++ es') = collect es ++ collect es')
    (htext : ∀ s, collect [.text s] = []) (short : String) (segments : List Segment) :
    collect (joinParts (printParts short segments)) =
      segments.flatMap fun s => collect [.stringify s.2] := by
  have htexts (s t : String) : collect [.text (s ++ t)] = collect [.text s, .text t] := by
    rw [htext, ← List.singleton_append, happend, htext, htext, List.nil_append]
  have hsegment (s : Segment) : collect (segmentParts s) = collect [.stringify s.2] := by
    rw [segmentParts, ← List.singleton_append, happend, htext, List.nil_append]
  have hjoined : collect ([.text ", "].intercalate (segments.map segmentParts)) =
      segments.flatMap fun s => collect [.stringify s.2] := by
    induction segments with
    | nil => exact List.self_eq_append_right.mp (happend [] [])
    | cons s segments ih =>
      cases segments with
      | nil =>
        rw [List.map_cons, List.map_nil, List.intercalate_singleton, hsegment,
          List.flatMap_singleton]
      | cons s' segments =>
        rw [List.map_cons, List.map_cons, List.intercalate_cons_cons, ← List.map_cons, happend,
          ih, happend, hsegment, htext, List.append_nil]
        rfl
  rw [apply_joinParts (· ++ ·) happend htexts, printParts, happend, happend, htext, htext, hjoined,
    List.nil_append, List.append_nil]

end Synthesis

namespace Machine

variable (m : Machine) (call : Call)

def printFrom (start : Option ClassName) (this : ObjectRef) : Eval String := do
  Eval.lift (← m.superVia call this start .print []).expectText

def superSegments (superclass : Option ClassName) (options : PrintingOptions)
    (this : ObjectRef) : Eval (List String) :=
  if options.callSuper then do
    let v ← m.superVia call this superclass .print []
    return ["super=" ++ (← m.printVia call v)]
  else pure []

def ownSegment (this : ObjectRef) (p : Participant) : Eval String := do
  let v ← Eval.read (·.read this p.property.name)
  return p.label ++ "=" ++ (← m.printVia call v)

def printBody (cls : ClassName) (superclass : Option ClassName) (options : PrintingOptions)
    (participants : List Participant) (this : ObjectRef) : Eval String := do
  let above ← m.superSegments call superclass options this
  let own ← participants.mapM (m.ownSegment call this)
  return cls.short ++ "(" ++ ", ".intercalate (above ++ own) ++ ")"

variable (f : Frame)

theorem evalTexts_nil : m.evalTexts call f [] = pure "" := rfl

theorem evalTexts_text (s : String) (es : List Expr) :
    m.evalTexts call f (.text s :: es) = (do return s ++ (← m.evalTexts call f es)) := by
  simp only [evalTexts, eval, pure_bind, Value.expectText, Eval.lift_ok]

theorem evalTexts_append (es es' : List Expr) :
    m.evalTexts call f (es ++ es') = (do
      let s ← m.evalTexts call f es
      return s ++ (← m.evalTexts call f es')) := by
  induction es with
  | nil => simp only [List.nil_append, evalTexts_nil, pure_bind, String.empty_append, bind_pure]
  | cons e es ih =>
    rw [List.cons_append, evalTexts, evalTexts, ih]
    simp only [bind_assoc, pure_bind, String.append_assoc]

theorem evalTexts_joinParts (parts : List Expr) :
    m.evalTexts call f (Synthesis.joinParts parts) = m.evalTexts call f parts := by
  refine Synthesis.apply_joinParts (fun x y => do return (← x) ++ (← y))
    (m.evalTexts_append call f) ?_ parts
  intro s t
  simp only [evalTexts_text, evalTexts_nil, pure_bind, String.append_empty]

def evalSegment (s : Synthesis.Segment) : Eval String := do
  let v ← m.eval call f s.2
  return s.1 ++ "=" ++ (← m.printVia call v)

theorem evalTexts_segmentParts (s : Synthesis.Segment) :
    m.evalTexts call f (Synthesis.segmentParts s) = m.evalSegment call f s := by
  simp only [Synthesis.segmentParts, evalTexts_text, evalTexts, eval, evalSegment, bind_assoc,
    pure_bind, Value.expectText, Eval.lift_ok, String.append_empty]

theorem evalTexts_intercalate (segments : List Synthesis.Segment) :
    m.evalTexts call f ([.text ", "].intercalate (segments.map Synthesis.segmentParts)) = (do
      return ", ".intercalate (← segments.mapM (m.evalSegment call f))) := by
  induction segments with
  | nil => rfl
  | cons s segments ih =>
    cases segments with
    | nil =>
      simp only [List.map_cons, List.map_nil, List.intercalate_singleton, evalTexts_segmentParts,
        List.mapM_cons, List.mapM_nil, bind_assoc, pure_bind, String.intercalate_singleton,
        bind_pure]
    | cons s' segments =>
      rw [List.map_cons, List.map_cons, List.intercalate_cons_cons, ← List.map_cons,
        evalTexts_append, ih, evalTexts_append, evalTexts_segmentParts, evalTexts_text]
      simp only [List.mapM_cons, evalTexts_nil, bind_assoc, pure_bind, String.append_empty,
        String.intercalate_cons_cons]

theorem evalTexts_printParts (short : String) (segments : List Synthesis.Segment) :
    m.evalTexts call f (Synthesis.printParts short segments) = (do
      let shown ← segments.mapM (m.evalSegment call f)
      return short ++ "(" ++ ", ".intercalate shown ++ ")") := by
  rw [Synthesis.printParts, evalTexts_append, List.singleton_append, evalTexts_text,
    evalTexts_intercalate]
  simp only [evalTexts_text, evalTexts_nil, bind_assoc, pure_bind, String.append_empty]

theorem evalSegment_read (p : Participant) (useFields : Bool) :
    m.evalSegment call f (p.label, Synthesis.read .this p.property useFields) =
      m.ownSegment call f.this p := by
  simp only [evalSegment, Synthesis.read, eval, pure_bind, Eval.receiver_object, Eval.lift_ok,
    ownSegment]

theorem mapM_evalSegment (superclass : Option ClassName) (options : PrintingOptions)
    (participants : List Participant) :
    (Synthesis.segments superclass options participants).mapM (m.evalSegment call f) = (do
      let above ← m.superSegments call superclass options f.this
      let own ← participants.mapM (m.ownSegment call f.this)
      return above ++ own) := by
  rw [Synthesis.segments, List.mapM_append, List.mapM_map, superSegments]
  simp only [Function.comp_def, evalSegment_read]
  cases options.callSuper with
  | true =>
    simp only [↓reduceIte, List.mapM_cons, List.mapM_nil, evalSegment, eval, evalAll, bind_assoc,
      pure_bind]
    rfl
  | false => rfl

theorem runBody_print (cls : ClassName) (superclass : Option ClassName)
    (options : PrintingOptions) (participants : List Participant) (this : ObjectRef) :
    m.runBody call (Synthesis.print cls superclass options participants).body this [] = (do
      return .text (← m.printBody call cls superclass options participants this)) := by
  change m.eval call (Frame.enter _ this []) (.concat _) = _
  rw [eval, evalTexts_joinParts, evalTexts_printParts, mapM_evalSegment, printBody]
  simp only [bind_assoc, pure_bind]
  rfl

end Machine

end Memberwise
