import Memberwise.Proofs.Body.WellFormed
import Memberwise.Proofs.Machine.Heap
import Memberwise.Proofs.Machine.Registration
import Memberwise.Proofs.Source.Functions

/-!
# Faults of form

An unbound name and a body that ends without a return are faults of how a body is written. On a
machine whose bodies are all well formed nothing ends in one of them, unless the root itself raises
it. The frame has what the next statement uses, and keeps that up from one statement to the next.
-/

namespace Memberwise

open Eval

/-- A fault that lies in how a body is written. -/
def Fault.isOfForm : Fault → Bool
  | unbound _ | missingReturn _ => true
  | _ => false

def Root.Raises (root : Root) (fault : Fault) : Prop :=
  ∃ this method args h, (root this method args h).1 = .error fault

theorem Root.not_raises_identity (fault : Fault) : ¬ Root.identity.Raises fault := by
  rintro ⟨_, _, _, _, ⟨⟩⟩

namespace Eval

variable {α β : Type} {p : Fault → Prop}

/-- Where `x` ends in a fault, `p` holds of it. -/
def FailsOnly (p : Fault → Prop) (x : Eval α) : Prop :=
  ∀ h fault, (x.on h).1 = .error (.fault fault) → p fault

namespace FailsOnly

theorem pure (a : α) : FailsOnly p (pure a) := fun _ _ h => nomatch h

theorem fail {fault : Fault} (hfault : p fault) : FailsOnly p (fail fault : Eval α) := by
  rintro h _ ⟨⟩
  exact hfault

theorem lift {r : Except Fault α} (hr : ∀ fault, r = .error fault → p fault) :
    FailsOnly p (lift r) := by
  intro h fault hfault
  cases r with
  | ok a => cases hfault
  | error e =>
    cases hfault
    exact hr _ rfl

theorem read {f : Heap → Except Fault α} (hf : ∀ h fault, f h = .error fault → p fault) :
    FailsOnly p (read f) :=
  fun h => lift (hf h) h

theorem modifyGet (f : Heap → α × Heap) : FailsOnly p (modifyGet f : Eval α) :=
  fun _ _ h => nomatch h

theorem bind {x : Eval α} {f : α → Eval β} (hx : FailsOnly p x) (hf : ∀ a, FailsOnly p (f a)) :
    FailsOnly p (x >>= f) := by
  intro h fault hfault
  rw [on_bind] at hfault
  cases hr : x.on h with
  | mk r h₁ =>
    rw [hr] at hfault
    cases r with
    | ok a => exact hf a h₁ fault hfault
    | error halt =>
      have hhalt : halt = .fault fault := Except.error.inj hfault
      exact hx h fault (by rw [hr, hhalt])

end FailsOnly

end Eval

theorem Value.isOfForm_expectBool {v : Value} {fault : Fault} (h : v.expectBool = .error fault) :
    fault.isOfForm = false := by
  cases v <;> cases h <;> rfl

theorem Value.isOfForm_expectInt {v : Value} {fault : Fault} (h : v.expectInt = .error fault) :
    fault.isOfForm = false := by
  cases v <;> cases h <;> rfl

theorem Value.isOfForm_expectText {v : Value} {fault : Fault} (h : v.expectText = .error fault) :
    fault.isOfForm = false := by
  cases v <;> cases h <;> rfl

theorem Value.isOfForm_receiver {v : Value} {name : String} {fault : Fault}
    (h : v.receiver name = .error fault) : fault.isOfForm = false := by
  cases v <;> cases h <;> rfl

theorem Value.isOfForm_ofDefault {param : String} {value : Default} {fault : Fault}
    (h : Value.ofDefault param value = .error fault) : fault.isOfForm = false := by
  unfold Value.ofDefault at h
  split at h <;> cases h
  rfl

theorem Heap.isOfForm_read {h : Heap} {r : ObjectRef} {name : String} {fault : Fault}
    (hread : h.read r name = .error fault) : fault.isOfForm = false := by
  unfold Heap.read at hread
  split at hread <;> cases hread
  rfl

theorem Machine.isOfForm_cast {m : Machine} {v : Value} {cls : ClassName} {fault : Fault}
    (h : m.cast v cls = .error fault) : fault.isOfForm = false := by
  unfold Machine.cast at h
  split at h <;> cases h
  rfl

namespace Frame

def HasLocal (f : Frame) (name : String) : Prop := ∃ v, f.localValue name = .ok v

def HasParam (f : Frame) (name : String) : Prop := ∃ v, f.paramValue name = .ok v

def Has (f : Frame) : Use → Prop
  | .local name => f.HasLocal name
  | .param name => f.HasParam name
  | .superCall _ _ => True

theorem hasLocal_bind_iff {f : Frame} {name other : String} {v : Value} :
    (f.bind name v).HasLocal other ↔ name = other ∨ f.HasLocal other := by
  unfold HasLocal localValue bind
  rw [Table.get?_insert]
  by_cases hname : name = other <;> simp [hname]

/-- The frame is good for these statements: each fits the locals of the frame together with what is
bound on the way to it. -/
structure Serves (f : Frame) (member : Member) (signature : Signature) (stmts : List Stmt) :
    Prop where
  params : ∀ param ∈ signature.params, f.HasParam param.name
  fits : ∀ before stmt after, stmts = before ++ stmt :: after →
    stmt.Fits member signature fun name => f.HasLocal name ∨ ∃ value, .let_ name value ∈ before

namespace Serves

variable {f f' : Frame} {member : Member} {signature : Signature} {stmt : Stmt} {rest : List Stmt}

theorem has (hf : f.Serves member signature (stmt :: rest)) : ∀ use ∈ stmt.uses, f.Has use := by
  intro use huse
  have hfits := (hf.fits [] stmt rest rfl).uses use huse
  cases use with
  | «local» name =>
    rcases hfits with hlocal | ⟨value, hvalue⟩
    · exact hlocal
    · cases hvalue
  | param name =>
    obtain ⟨param, hparam, rfl⟩ := hfits
    exact hf.params param hparam
  | superCall method count => trivial

/-- What the first statement binds is in the frame for the others. -/
theorem next (hf : f.Serves member signature (stmt :: rest)) (hparams : f'.params = f.params)
    (hlocals : ∀ name, f.HasLocal name ∨ (∃ value, stmt = .let_ name value) → f'.HasLocal name) :
    f'.Serves member signature rest where
  params param hparam := by
    have hhas := hf.params param hparam
    rwa [HasParam, paramValue, ← hparams] at hhas
  fits before other after heq := by
    have hsplit : stmt :: rest = (stmt :: before) ++ other :: after := congrArg (stmt :: ·) heq
    refine (hf.fits _ other after hsplit).mono fun name hname => ?_
    rcases hname with hname | ⟨value, hvalue⟩
    · exact .inl (hlocals name (.inl hname))
    · rcases List.mem_cons.mp hvalue with hvalue | hvalue
      · exact .inl (hlocals name (.inr ⟨value, hvalue.symm⟩))
      · exact .inr ⟨value, hvalue⟩

theorem skip (hf : f.Serves member signature (stmt :: rest))
    (hstmt : ∀ name value, stmt ≠ .let_ name value) : f.Serves member signature rest :=
  hf.next rfl fun name hname => hname.resolve_right fun ⟨value, h⟩ => hstmt name value h

theorem let_ {name : String} {value : Expr}
    (hf : f.Serves member signature (.let_ name value :: rest)) (v : Value) :
    (f.bind name v).Serves member signature rest := by
  refine hf.next rfl fun other hother => hasLocal_bind_iff.mpr ?_
  rcases hother with hother | ⟨_, ⟨⟩⟩
  · exact .inr hother
  · exact .inl rfl

theorem assign {name : String} {value : Expr}
    (hf : f.Serves member signature (.assign name value :: rest)) (v : Value) :
    (f.bind name v).Serves member signature rest := by
  refine hf.next rfl fun other hother => hasLocal_bind_iff.mpr ?_
  rcases hother with hother | ⟨_, ⟨⟩⟩
  exact .inr hother

theorem enter {body : Body} (hbody : body.WellFormed member) (this : ObjectRef)
    {args : List Value} (harity : body.signature.params.length = args.length) :
    (Frame.enter body.signature this args).Serves member body.signature body.stmts where
  params param hparam := by
    have hkeys : ((body.signature.params.map (·.name)).zip args).map Prod.fst =
        body.signature.params.map (·.name) :=
      List.map_fst_zip (by rw [List.length_map, harity])
    have hname : param.name ∈ ((body.signature.params.map (·.name)).zip args).map Prod.fst := by
      rw [hkeys]
      exact List.mem_map_of_mem hparam
    obtain ⟨v, -, hv⟩ := Table.exists_mem_get?_ofList hname
    exact ⟨v, by rw [paramValue, Frame.enter, hv]; rfl⟩
  fits before stmt after h := (hbody.fits before stmt after h).mono fun _ => .inr

end Serves

end Frame

namespace Machine

/-- `p` holds of all faults but those of form, and of every fault that the root raises or a body
that the machine finds ends in. -/
structure Confines (m : Machine) (p : Fault → Prop) (call : Call) : Prop where
  other : ∀ fault, fault.isOfForm = false → p fault
  root : ∀ fault, m.root.Raises fault → p fault
  calls : ∀ cls member body, m.lookup cls member = some body →
    ∀ this args, FailsOnly p (call body this args)

variable {m : Machine} {p : Fault → Prop} {call : Call}

theorem Confines.lift (hp : m.Confines p call) {α : Type} {r : Except Fault α}
    (hr : ∀ fault, r = .error fault → fault.isOfForm = false) : FailsOnly p (Eval.lift r) :=
  .lift fun fault hfault => hp.other fault (hr fault hfault)

section Dispatch

variable (hp : m.Confines p call)

include hp

theorem equalsVia_failsOnly (a b : Value) : FailsOnly p (m.equalsVia call a b) := by
  unfold equalsVia
  split
  · split
    · rename_i hbody
      exact (hp.calls _ _ _ hbody _ _).bind fun _ => hp.lift fun _ => Value.isOfForm_expectBool
    · exact .pure _
  · exact .pure _

theorem hashVia_failsOnly (v : Value) : FailsOnly p (m.hashVia call v) := by
  unfold hashVia
  split
  case h_7 =>
    split
    · rename_i hbody
      exact (hp.calls _ _ _ hbody _ _).bind fun _ => hp.lift fun _ => Value.isOfForm_expectInt
    · exact .pure _
  all_goals exact .pure _

theorem printVia_failsOnly (v : Value) : FailsOnly p (m.printVia call v) := by
  unfold printVia
  split
  case h_7 =>
    split
    · rename_i hbody
      exact (hp.calls _ _ _ hbody _ _).bind fun _ => hp.lift fun _ => Value.isOfForm_expectText
    · exact .pure _
  all_goals exact .pure _

theorem identityHashVia_failsOnly (v : Value) : FailsOnly p (m.identityHashVia call v) := by
  unfold identityHashVia
  split
  · exact .pure _
  · exact hashVia_failsOnly hp _

theorem superVia_failsOnly (this : ObjectRef) (superclass : Option ClassName)
    (method : ObjectMethod) (args : List Value) :
    FailsOnly p (m.superVia call this superclass method args) := by
  unfold superVia
  split
  · rename_i body hbody
    obtain ⟨parent, -, hbody⟩ := Option.bind_eq_some_iff.mp hbody
    exact hp.calls _ _ _ hbody _ _
  · intro h
    exact FailsOnly.lift (fun fault hfault => hp.root fault ⟨_, _, _, _, hfault⟩)
      (m.root this method args h).2

end Dispatch

variable (f : Frame)

mutual

theorem eval_failsOnly (hp : m.Confines p call) :
    ∀ e : Expr, (∀ use ∈ e.uses, f.Has use) → FailsOnly p (m.eval call f e)
  | .null, _ | .bool _, _ | .int _, _ | .text _, _ | .this, _ => .pure _
  | .param name, hf | .local name, hf => by
    obtain ⟨v, hv⟩ := hf _ (List.mem_singleton_self _)
    simp only [eval, hv]
    exact .pure v
  | .defaultOf param value, _ => by
    simp only [eval]
    exact hp.lift fun _ => Value.isOfForm_ofDefault
  | .property receiver name _, hf => by
    simp only [eval]
    exact (eval_failsOnly hp receiver hf).bind fun _ =>
      (hp.lift fun _ => Value.isOfForm_receiver).bind fun _ =>
        .read fun _ fault h => hp.other fault (Heap.isOfForm_read h)
  | .guardedProperty receiver name _ fallback, hf => by
    obtain ⟨hreceiver, hfallback⟩ := List.forall_mem_append.mp hf
    simp only [eval]
    refine (eval_failsOnly hp receiver hreceiver).bind fun _ =>
      (hp.lift fun _ => Value.isOfForm_receiver).bind fun r => .bind (.modifyGet _) fun h => ?_
    cases h.get? r name with
    | some v => exact .pure v
    | none => exact eval_failsOnly hp fallback hfallback
  | .superCall superclass method args, hf => by
    simp only [eval]
    exact (evalAll_failsOnly hp args (List.forall_mem_cons.mp hf).2).bind fun _ =>
      superVia_failsOnly hp _ _ _ _
  | .not e, hf => by
    simp only [eval]
    exact (eval_failsOnly hp e hf).bind fun _ =>
      (hp.lift fun _ => Value.isOfForm_expectBool).bind fun _ => .pure _
  | .isNull e, hf | .isInstance e _, hf => by
    simp only [eval]
    exact (eval_failsOnly hp e hf).bind fun _ => .pure _
  | .cast e _, hf => by
    simp only [eval]
    exact (eval_failsOnly hp e hf).bind fun _ => hp.lift fun _ => isOfForm_cast
  | .sameRef a b, hf => by
    obtain ⟨ha, hb⟩ := List.forall_mem_append.mp hf
    simp only [eval]
    exact (eval_failsOnly hp a ha).bind fun _ => (eval_failsOnly hp b hb).bind fun _ => .pure _
  | .valueEq a b, hf => by
    obtain ⟨ha, hb⟩ := List.forall_mem_append.mp hf
    simp only [eval]
    exact (eval_failsOnly hp a ha).bind fun _ => (eval_failsOnly hp b hb).bind fun _ =>
      (equalsVia_failsOnly hp _ _).bind fun _ => .pure _
  | .hashOf e .ambient, hf => by
    simp only [eval]
    exact (eval_failsOnly hp e hf).bind fun _ => (hashVia_failsOnly hp _).bind fun _ => .pure _
  | .hashOf e .arrayIdentity, hf => by
    simp only [eval]
    exact (eval_failsOnly hp e hf).bind fun _ =>
      (identityHashVia_failsOnly hp _).bind fun _ => .pure _
  | .add a b, hf | .mul a b, hf => by
    obtain ⟨ha, hb⟩ := List.forall_mem_append.mp hf
    simp only [eval]
    exact (eval_failsOnly hp a ha).bind fun _ =>
      (hp.lift fun _ => Value.isOfForm_expectInt).bind fun _ =>
        (eval_failsOnly hp b hb).bind fun _ =>
          (hp.lift fun _ => Value.isOfForm_expectInt).bind fun _ => .pure _
  | .concat parts, hf => by
    simp only [eval]
    exact (evalTexts_failsOnly hp parts hf).bind fun _ => .pure _
  | .stringify e, hf => by
    simp only [eval]
    exact (eval_failsOnly hp e hf).bind fun _ => (printVia_failsOnly hp _).bind fun _ => .pure _
  | .cond c a b, hf => by
    obtain ⟨hc, hbranches⟩ := List.forall_mem_append.mp hf
    obtain ⟨ha, hb⟩ := List.forall_mem_append.mp hbranches
    simp only [eval]
    refine (eval_failsOnly hp c hc).bind fun _ =>
      (hp.lift fun _ => Value.isOfForm_expectBool).bind fun t => ?_
    cases t with
    | true => exact eval_failsOnly hp a ha
    | false => exact eval_failsOnly hp b hb
  | .new _ args, hf => by
    simp only [eval]
    exact (evalFields_failsOnly hp args hf).bind fun _ => .bind (.modifyGet _) fun _ => .pure _

theorem evalAll_failsOnly (hp : m.Confines p call) :
    ∀ es : List Expr, (∀ use ∈ Expr.usesAll es, f.Has use) → FailsOnly p (m.evalAll call f es)
  | [], _ => .pure _
  | e :: es, hf => by
    obtain ⟨he, hes⟩ := List.forall_mem_append.mp hf
    simp only [evalAll]
    exact (eval_failsOnly hp e he).bind fun _ => (evalAll_failsOnly hp es hes).bind fun _ => .pure _

theorem evalTexts_failsOnly (hp : m.Confines p call) :
    ∀ es : List Expr, (∀ use ∈ Expr.usesAll es, f.Has use) → FailsOnly p (m.evalTexts call f es)
  | [], _ => .pure _
  | e :: es, hf => by
    obtain ⟨he, hes⟩ := List.forall_mem_append.mp hf
    simp only [evalTexts]
    exact (eval_failsOnly hp e he).bind fun _ =>
      (hp.lift fun _ => Value.isOfForm_expectText).bind fun _ =>
        (evalTexts_failsOnly hp es hes).bind fun _ => .pure _

theorem evalFields_failsOnly (hp : m.Confines p call) :
    ∀ es : List (String × Expr), (∀ use ∈ Expr.usesFields es, f.Has use) →
      FailsOnly p (m.evalFields call f es)
  | [], _ => .pure _
  | (_, e) :: es, hf => by
    obtain ⟨he, hes⟩ := List.forall_mem_append.mp hf
    simp only [evalFields]
    exact (eval_failsOnly hp e he).bind fun _ =>
      (evalFields_failsOnly hp es hes).bind fun _ => .pure _

end

theorem runStmts_failsOnly (hp : m.Confines p call) {member : Member} {signature : Signature}
    (method : String) (stmts : List Stmt) :
    ∀ f : Frame, f.Serves member signature stmts → (∃ value, .return_ value ∈ stmts) →
      FailsOnly p (m.runStmts call method f stmts) := by
  induction stmts with
  | nil => rintro f - ⟨value, ⟨⟩⟩
  | cons stmt rest ih =>
    intro f hf ⟨result, hresult⟩
    have hhas := hf.has
    have hlater (hne : stmt ≠ .return_ result) : ∃ value, .return_ value ∈ rest :=
      ⟨result, (List.mem_cons.mp hresult).resolve_left hne.symm⟩
    cases stmt with
    | let_ name value =>
      exact (eval_failsOnly f hp value hhas).bind fun v => ih _ (hf.let_ v) (hlater nofun)
    | assign name value =>
      exact (eval_failsOnly f hp value hhas).bind fun v => ih _ (hf.assign v) (hlater nofun)
    | setField receiver name value =>
      obtain ⟨hreceiver, hvalue⟩ := List.forall_mem_append.mp hhas
      exact (eval_failsOnly f hp receiver hreceiver).bind fun _ =>
        (eval_failsOnly f hp value hvalue).bind fun _ =>
          (hp.lift fun _ => Value.isOfForm_receiver).bind fun _ => .bind (.modifyGet _) fun _ =>
            ih f (hf.skip nofun) (hlater nofun)
    | ifReturn cond value =>
      obtain ⟨hcond, hvalue⟩ := List.forall_mem_append.mp hhas
      refine (eval_failsOnly f hp cond hcond).bind fun _ =>
        (hp.lift fun _ => Value.isOfForm_expectBool).bind fun t => ?_
      cases t with
      | true => exact eval_failsOnly f hp value hvalue
      | false => exact ih f (hf.skip nofun) (hlater nofun)
    | throwIf cond failure =>
      refine (eval_failsOnly f hp cond hhas).bind fun _ =>
        (hp.lift fun _ => Value.isOfForm_expectBool).bind fun t => ?_
      cases t with
      | true =>
        cases failure
        exact .fail (hp.other _ rfl)
      | false => exact ih f (hf.skip nofun) (hlater nofun)
    | return_ value => exact eval_failsOnly f hp value hhas

theorem runBody_failsOnly (hp : m.Confines p call) {member : Member} {body : Body}
    (hbody : body.WellFormed member) (this : ObjectRef) (args : List Value) :
    FailsOnly p (m.runBody call body this args) := by
  unfold runBody
  dsimp only
  split
  · exact .fail (hp.other _ rfl)
  · rename_i harity
    obtain ⟨init, value, hstmts, -⟩ := hbody.returns
    refine runStmts_failsOnly hp _ _ _ (.enter hbody this (not_not.mp harity)) ⟨value, ?_⟩
    rw [hstmts]
    exact List.mem_append_right _ (List.mem_singleton_self _)

def WellFormed (m : Machine) : Prop :=
  ∀ member cls body, m.Has member cls body → body.WellFormed member

theorem wellFormed_after (root : Root) {history : List Change}
    (hhistory : ∀ x, .install x ∈ history → x.body.WellFormed x.member) :
    (after root history).WellFormed := by
  intro member cls body hbody
  obtain ⟨x, rfl, ⟨-, rfl⟩, before, after, rfl, -⟩ := (has_after_iff root).mp hbody
  exact hhistory x (List.mem_append_right _ List.mem_cons_self)

theorem WellFormed.lookup (hm : m.WellFormed) {cls : ClassName} {member : Member} {body : Body}
    (hbody : m.lookup cls member = some body) : body.WellFormed member := by
  obtain ⟨above, -, hown⟩ := (m.lookup_eq_some_iff.mp hbody).exists_above
  exact hm member above body hown

/-- Only the root can raise a fault of form. -/
theorem WellFormed.confines (hm : m.WellFormed) (depth : Nat) :
    m.Confines (fun fault => fault.isOfForm = true → m.root.Raises fault) (m.invoke depth) := by
  induction depth with
  | zero =>
    refine ⟨fun fault hother hform => ?_, fun fault hfault _ => hfault, ?_⟩
    · rw [hother] at hform
      cases hform
    · exact fun _ _ _ _ _ _ _ _ => nofun
  | succ depth ih =>
    exact ⟨ih.other, ih.root, fun cls member body hbody => runBody_failsOnly ih (hm.lookup hbody)⟩

theorem WellFormed.invoke_failsOnly (hm : m.WellFormed) {member : Member} {body : Body}
    (hbody : body.WellFormed member) (depth : Nat) (this : ObjectRef) (args : List Value) :
    FailsOnly (fun fault => fault.isOfForm = true → m.root.Raises fault)
      (m.invoke depth body this args) := by
  cases depth with
  | zero => exact fun _ _ => nofun
  | succ depth => exact runBody_failsOnly (hm.confines depth) hbody this args

end Machine

theorem Body.WellFormed.exists_splitReturn? {body : Body} {member : Member}
    (hbody : body.WellFormed member) : ∃ init value,
      Source.splitReturn? body.stmts = some (init, value) := by
  obtain ⟨init, value, hstmts, -⟩ := hbody.returns
  refine ⟨init, value, ?_⟩
  rw [Source.splitReturn?, hstmts, List.getLast?_concat, List.dropLast_concat]

namespace Method

theorem methodSource_ne_missingReturn {x : Method} (hx : x.body.WellFormed x.member)
    (L : Source.Language) (rt : List Source.Token) (method : String) :
    L.methodSource rt x ≠ .error (.missingReturn method) := by
  intro herror
  have hcovers : Source.Covers (· ≠ .missingReturn method) := ⟨fun _ => nofun, fun _ => nofun⟩
  refine Source.Language.methodSource_failsOnly rt hcovers x ?_ _ herror rfl
  intro hnone
  obtain ⟨init, value, hsome⟩ := hx.exists_splitReturn?
  cases hsome.symm.trans hnone

/-- Whatever an engine has in its cache and whatever a plan says, the body of a member is well
formed. So it can be rendered as far as its returns go, and run on machines of well-formed bodies it
never ends in a fault of form that the root has not raised. -/
theorem Generated.keeps_form {x : Method} (hx : x.Generated) :
    x.body.WellFormed x.member ∧
    (∀ (L : Source.Language) rt method, L.methodSource rt x ≠ .error (.missingReturn method)) ∧
    ∀ m : Machine, m.WellFormed → ∀ depth this args h fault,
      ((m.invoke depth x.body this args).on h).1 = .error (.fault fault) →
      fault.isOfForm = true → m.root.Raises fault :=
  ⟨hx.wellFormed, methodSource_ne_missingReturn hx.wellFormed,
    fun _ hm depth this args => hm.invoke_failsOnly hx.wellFormed depth this args⟩

end Method

namespace Crate

def decl : ClassDecl :=
  { ClassDecl.empty ⟨"Crate"⟩ .plain with
    superclass := some ⟨"Goods"⟩,
    properties := [.ofBody "labels" (.arrayOf "String"), .deferred "weight" .int],
    annotations := ⟨some ⟨false, true, false, true⟩, none, false⟩ }

def synthesis : ClassSynthesis := ((Engine.new .standard).synthesizeClass decl).1

def machine : Machine := .after .identity synthesis.changes

theorem wellFormed_machine : machine.WellFormed := by
  refine Machine.wellFormed_after _ fun x hx => ?_
  rcases List.mem_cons.mp hx with hx | hx
  · cases hx
  · obtain ⟨y, hy, hxy⟩ := List.mem_map.mp hx
    cases hxy
    exact (Method.Generated.synthesizeClass _ _ hy).wellFormed

def hash : Method :=
  Synthesis.hash decl.name decl.superclass ⟨false, true, false, true⟩
    (decl.properties.map fun p => ⟨p, p.name⟩)

end Crate

theorem Method.Generated.keeps_form_crate :
    ((Engine.new .standard).synthesize .hash Crate.decl).1 = .ok Crate.hash ∧
    Crate.hash.body.WellFormed .hash ∧
    (∀ (L : Source.Language) rt method,
      L.methodSource rt Crate.hash ≠ .error (.missingReturn method)) ∧
    ∀ depth this args h fault,
      ((Crate.machine.invoke depth Crate.hash.body this args).on h).1 = .error (.fault fault) →
      fault.isOfForm = false := by
  have hhash : ((Engine.new .standard).synthesize .hash Crate.decl).1 = .ok Crate.hash := by rfl
  obtain ⟨hbody, hsource, hruns⟩ := Method.Generated.keeps_form (.synthesize _ _ _ hhash)
  refine ⟨hhash, hbody, hsource, fun depth this args h fault hfault => ?_⟩
  by_contra hform
  have hraises := hruns Crate.machine Crate.wellFormed_machine depth this args h fault hfault
    (Bool.of_not_eq_false hform)
  exact Root.not_raises_identity fault hraises

end Memberwise
