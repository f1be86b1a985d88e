import Memberwise.Source.Class

/-!
# Rendered functions

A member that can be rendered becomes one function under the identifier of its name. What can keep
it from that lies in the member: a name that is no identifier, a default that is no expression, or
statements that do not end by returning.
-/

namespace Memberwise.Source

variable {α β : Type} {p : Unrenderable → Prop}

theorem bind_eq_ok_iff {ε : Type} {x : Except ε α} {f : α → Except ε β} {b : β} :
    x >>= f = .ok b ↔ ∃ a, x = .ok a ∧ f a = .ok b := by
  cases x <;> simp [bind, Except.bind]

theorem bind_eq_error_iff {ε : Type} {x : Except ε α} {f : α → Except ε β} {e : ε} :
    x >>= f = .error e ↔ x = .error e ∨ ∃ a, x = .ok a ∧ f a = .error e := by
  cases x <;> simp [bind, Except.bind]

theorem map_eq_ok_iff {ε : Type} {x : Except ε α} {f : α → β} {b : β} :
    x.map f = .ok b ↔ ∃ a, x = .ok a ∧ f a = b := by
  cases x <;> simp [Except.map]

theorem mapM_bind_pure {γ ε : Type} (f : γ → Except ε α) (g : α → β) (xs : List γ) :
    (xs.mapM fun x => do return g (← f x)) = (do return (← xs.mapM f).map g) := by
  induction xs with
  | nil => rfl
  | cons x xs ih =>
    rw [List.mapM_cons, List.mapM_cons, ih]
    simp only [bind_assoc, pure_bind, List.map_cons]

/-- Where `x` fails, `p` holds of the reason. -/
def FailsOnly (p : Unrenderable → Prop) (x : Except Unrenderable α) : Prop :=
  ∀ e, x = .error e → p e

theorem FailsOnly.ok (a : α) : FailsOnly p (.ok a) := fun _ h => nomatch h

theorem FailsOnly.pure (a : α) : FailsOnly p (pure a) := .ok a

theorem FailsOnly.error {e : Unrenderable} (he : p e) :
    FailsOnly p (.error e : Except Unrenderable α) := by
  intro e' h
  cases h
  exact he

theorem FailsOnly.bind {x : Except Unrenderable α} {f : α → Except Unrenderable β}
    (hx : FailsOnly p x) (hf : ∀ a, FailsOnly p (f a)) : FailsOnly p (x >>= f) := by
  cases x with
  | ok a => exact hf a
  | error e => exact .error (hx e rfl)

theorem FailsOnly.of_bind_pure {x : Except Unrenderable α} {f : α → β}
    (hx : FailsOnly p (x >>= fun a => Pure.pure (f a))) : FailsOnly p x := by
  rintro e rfl
  exact hx e rfl

theorem FailsOnly.mapM {f : α → Except Unrenderable β} (hf : ∀ a, FailsOnly p (f a))
    (as : List α) : FailsOnly p (as.mapM f) := by
  induction as with
  | nil => exact .pure []
  | cons a as ih =>
    rw [List.mapM_cons]
    exact (hf a).bind fun _ => ih.bind fun _ => .pure _

/-- `p` holds of what can be wrong within an expression. -/
structure Covers (p : Unrenderable → Prop) : Prop where
  name : ∀ name, p (.invalidName name)
  default : ∀ param, p (.invalidDefault param)

namespace Language

variable {L : Language}

section

variable (hp : Covers p)

include hp

theorem snakeIdentifier_failsOnly (name : String) : FailsOnly p (L.snakeIdentifier name) := by
  unfold snakeIdentifier identifier
  split
  · exact .error (hp.name _)
  split
  · exact .ok _
  split
  · exact .ok _
  · exact .error (hp.name _)

theorem placeOf_failsOnly (e : Expr) {rendered : Rendered} (hrendered : FailsOnly p rendered) :
    FailsOnly p (L.placeOf e rendered) := by
  unfold placeOf
  split
  · exact .ok _
  · exact (snakeIdentifier_failsOnly hp _).bind fun _ => .pure _
  · exact (snakeIdentifier_failsOnly hp _).bind fun _ => .pure _
  · exact hrendered.bind fun _ => .pure _

theorem referenceOf_failsOnly (e : Expr) {rendered : Rendered} (hrendered : FailsOnly p rendered) :
    FailsOnly p (L.referenceOf e rendered) := by
  unfold referenceOf
  split
  · exact .ok _
  · exact (placeOf_failsOnly hp e hrendered).bind fun _ => .pure _

end

variable (rt : List Token)

theorem holeSources_cons_failsOnly (hp : Covers p) {e : Expr} {parts : List Expr}
    (he : FailsOnly p (L.exprSource rt e)) (hparts : FailsOnly p (L.holeSources rt parts)) :
    FailsOnly p (L.holeSources rt (e :: parts)) := by
  cases e with
  | text s => exact hparts
  | stringify e =>
    simp only [exprSource] at he
    simp only [holeSources]
    exact he.of_bind_pure.bind fun _ => hparts.bind fun _ => .pure _
  | _ => exact (referenceOf_failsOnly hp _ he).bind fun _ => hparts.bind fun _ => .pure _

mutual

theorem exprSource_failsOnly (hp : Covers p) : ∀ e : Expr, FailsOnly p (L.exprSource rt e)
  | .null | .bool _ | .int _ | .text _ | .this => .ok _
  | .param name | .local name => by
    simp only [exprSource]
    exact (snakeIdentifier_failsOnly hp name).bind fun _ => .pure _
  | .property e _ _ | .not e | .isNull e => by
    simp only [exprSource]
    exact (placeOf_failsOnly hp e (exprSource_failsOnly hp e)).bind fun _ => .pure _
  | .guardedProperty e _ _ fallback => by
    simp only [exprSource]
    exact (placeOf_failsOnly hp e (exprSource_failsOnly hp e)).bind fun _ =>
      (exprSource_failsOnly hp fallback).bind fun _ => .pure _
  | .superCall _ _ args => by
    simp only [exprSource]
    exact (exprSources_failsOnly hp args).bind fun _ => .pure _
  | .sameRef a b => by
    simp only [exprSource]
    exact (placeOf_failsOnly hp a (exprSource_failsOnly hp a)).bind fun _ =>
      (referenceOf_failsOnly hp b (exprSource_failsOnly hp b)).bind fun _ => .pure _
  | .valueEq a b => by
    simp only [exprSource]
    exact (referenceOf_failsOnly hp a (exprSource_failsOnly hp a)).bind fun _ =>
      (referenceOf_failsOnly hp b (exprSource_failsOnly hp b)).bind fun _ => .pure _
  | .isInstance e _ | .hashOf e _ | .stringify e => by
    simp only [exprSource]
    exact (referenceOf_failsOnly hp e (exprSource_failsOnly hp e)).bind fun _ => .pure _
  | .cast e _ => by
    simp only [exprSource]
    exact (exprSource_failsOnly hp e).bind fun _ => .pure _
  | .add a b | .mul a b => by
    simp only [exprSource]
    exact (placeOf_failsOnly hp a (exprSource_failsOnly hp a)).bind fun _ =>
      (placeOf_failsOnly hp b (exprSource_failsOnly hp b)).bind fun _ => .pure _
  | .concat parts => by
    simp only [exprSource]
    exact (holeSources_failsOnly hp parts).bind fun _ => .pure _
  | .cond c a b => by
    simp only [exprSource]
    exact (placeOf_failsOnly hp c (exprSource_failsOnly hp c)).bind fun _ =>
      (exprSource_failsOnly hp a).bind fun _ => (exprSource_failsOnly hp b).bind fun _ => .pure _
  | .new _ args => by
    simp only [exprSource]
    exact (argumentSources_failsOnly hp args).bind fun _ => .pure _
  | .defaultOf param value => by
    simp only [exprSource]
    unfold defaultSource
    split
    case h_6 =>
      split
      · exact .ok _
      · exact .error (hp.default param)
    all_goals exact .ok _

theorem exprSources_failsOnly (hp : Covers p) : ∀ es : List Expr, FailsOnly p (L.exprSources rt es)
  | [] => .ok _
  | e :: es => by
    simp only [exprSources]
    exact (exprSource_failsOnly hp e).bind fun _ =>
      (exprSources_failsOnly hp es).bind fun _ => .pure _

theorem argumentSources_failsOnly (hp : Covers p) :
    ∀ args : List (String × Expr), FailsOnly p (L.argumentSources rt args)
  | [] => .ok _
  | (_, e) :: args => by
    simp only [argumentSources]
    exact (exprSource_failsOnly hp e).bind fun _ =>
      (argumentSources_failsOnly hp args).bind fun _ => .pure _

theorem holeSources_failsOnly (hp : Covers p) :
    ∀ parts : List Expr, FailsOnly p (L.holeSources rt parts)
  | [] => .ok _
  | e :: parts =>
    holeSources_cons_failsOnly rt hp (exprSource_failsOnly hp e) (holeSources_failsOnly hp parts)

end

section

variable (hp : Covers p)

include hp

theorem stmtSource_failsOnly (changing : List String) (stmt : Stmt) :
    FailsOnly p (L.stmtSource rt changing stmt) := by
  have hexpr (e : Expr) : FailsOnly p (L.exprSource rt e) := exprSource_failsOnly rt hp e
  have hplace (e : Expr) : FailsOnly p (L.placeSource rt e) := placeOf_failsOnly hp e (hexpr e)
  cases stmt with
  | let_ name value | assign name value =>
    exact (snakeIdentifier_failsOnly hp name).bind fun _ => (hexpr value).bind fun _ => .pure _
  | setField receiver _ value | ifReturn receiver value =>
    exact (hplace receiver).bind fun _ => (hexpr value).bind fun _ => .pure _
  | throwIf cond _ => exact (hplace cond).bind fun _ => .pure _
  | return_ value => exact (hexpr value).bind fun _ => .pure _

theorem stmtsSource_failsOnly (method : String) (stmts : List Stmt)
    (hreturn : splitReturn? stmts = none → p (.missingReturn method)) :
    FailsOnly p (L.stmtsSource rt method stmts) := by
  unfold stmtsSource
  split
  · rename_i hsplit
    exact .error (hreturn hsplit)
  · exact (FailsOnly.mapM (stmtSource_failsOnly rt hp _) _).bind fun _ =>
      (exprSource_failsOnly rt hp _).bind fun _ => .pure _

theorem methodSource_failsOnly (m : Method)
    (hreturn : splitReturn? m.body.stmts = none → p (.missingReturn m.body.signature.name)) :
    FailsOnly p (L.methodSource rt m) := by
  have hparam (param : BodyParam) : FailsOnly p (L.paramSource rt param) :=
    (snakeIdentifier_failsOnly hp param.name).bind fun _ => .pure _
  exact (snakeIdentifier_failsOnly hp _).bind fun _ => (FailsOnly.mapM hparam _).bind fun _ =>
    (stmtsSource_failsOnly rt hp _ _ hreturn).bind fun _ => .pure _

theorem itemOf_failsOnly (m : Method)
    (hreturn : splitReturn? m.body.stmts = none → p (.missingReturn m.body.signature.name)) :
    FailsOnly p (L.itemOf rt m) :=
  (methodSource_failsOnly rt hp m hreturn).bind fun _ =>
    (snakeIdentifier_failsOnly hp _).bind fun _ => .pure _

end

end Language

/-- The names of a path, each after two colons. -/
def segments (names : List String) : List Token :=
  names.flatMap fun name => [.mark ':' true, .mark ':' false, .word name]

def functionTokens (attributes : List (List Token)) (identifier : String)
    (params result body : List Token) : List Token :=
  (attributes.flatMap fun ts => [.mark '#' false, .group .bracket ts]) ++
    [.word "pub", .word "fn", .word identifier, .group .paren params,
      .mark '-' true, .mark '>' false] ++ result ++ [.group .brace body]

def moduleTokens (identifier : String) (items : List Token) : List Token :=
  [.word "pub", .word "mod", .word identifier, .group .brace items]

/-- A method as a function of the runtime, the receiver and its own parameters. -/
def methodTokens (rt : List Token) (m : Method) (identifier : String) (params : List String)
    (body : List Token) : List Token :=
  functionTokens
    [[.word "doc", .mark '=' false, .string
        (" Synthesized \x60" ++ m.member.text ++ "\x60 of \x60" ++ m.owner.path ++ "\x60.")],
      [.word "allow", .group .paren (.word "clippy" :: segments ["all"] ++
        [.mark ',' false, .word "unused_parens"])]]
    identifier
    (.word "__rt" :: .mark ':' false :: .mark '&' false :: rt ++ segments ["Runtime"] ++
      .mark ',' false :: .word "__this" :: .mark ':' false :: .mark '&' false ::
        rt ++ segments ["Value"] ++
      params.flatMap fun w => .mark ',' false :: .word w :: .mark ':' false ::
        rt ++ segments ["Value"])
    (segments ["core", "result", "Result"] ++ .mark '<' false ::
      rt ++ segments ["Value"] ++ .mark ',' false :: rt ++ segments ["RuntimeError"] ++
      [.mark '>' false])
    body

theorem commaSeparated_cons (ts : List Token) (rest : List (List Token)) :
    commaSeparated (ts :: rest) = ts ++ rest.flatMap fun more => .mark ',' false :: more := by
  induction rest generalizing ts with
  | nil => exact (List.append_nil ts).symm
  | cons more rest ih =>
    rw [commaSeparated, ih, List.flatMap_cons, List.append_assoc]
    · rfl
    · nofun

namespace Language

variable (L : Language) (rt : List Token)

theorem methodSource_eq (m : Method) : L.methodSource rt m = (do
    let w ← L.snakeIdentifier m.body.signature.name
    let params ← m.body.signature.params.mapM fun param => L.snakeIdentifier param.name
    let body ← L.stmtsSource rt m.body.signature.name m.body.stmts
    return methodTokens rt m w params body) := by
  have hparams : m.body.signature.params.mapM (L.paramSource rt) = (do
      let ws ← m.body.signature.params.mapM fun param => L.snakeIdentifier param.name
      return ws.map fun w => .word w :: .mark ':' false :: rt ++ segments ["Value"]) :=
    mapM_bind_pure _ _ _
  rw [methodSource, hparams]
  simp only [bind_assoc, pure_bind]
  refine bind_congr fun w => bind_congr fun params => bind_congr fun body => congrArg pure ?_
  rw [List.cons_append, commaSeparated_cons]
  simp only [methodTokens, functionTokens, docAttribute, inRuntime, List.append_assoc,
    List.cons_append, List.nil_append, List.append_nil, List.flatMap_cons, List.flatMap_nil,
    List.flatMap_map]
  rfl

end Language

end Memberwise.Source
