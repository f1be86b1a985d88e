import Mathlib.Data.List.Basic
import Memberwise.Proofs.Printing.Bodies
import Memberwise.Proofs.Source.Functions

/-!
# Concatenations as format strings

A concatenation is rendered as one format string with an argument for each printed expression. A
brace of a text never pairs with a brace beside it, so that filling the format in gives the text
that the machine puts together.
-/

namespace Memberwise.Source

namespace Format

/-- Every `b` twice. -/
def doubled (b : Char) (cs : List Char) : List Char :=
  cs.flatMap fun c => if c = b then [c, c] else [c]

theorem escape_eq_doubled (cs : List Char) :
    escape cs = doubled '\x7d' (doubled '\x7b' cs) := by
  induction cs with
  | nil => rfl
  | cons c cs ih =>
    rw [escape, ih]
    unfold doubled isBrace
    rw [List.flatMap_cons, List.flatMap_append]
    by_cases hopen : c = '\x7b'
    · subst hopen
      rfl
    by_cases hclose : c = '\x7d'
    · subst hclose
      rfl
    simp [hopen, hclose]

end Format

inductive Part
  | text (s : String)
  | printed (e : Expr)

namespace Part

def expr : Part → Expr
  | text s => .text s
  | printed e => .stringify e

def format : Part → List Char
  | text s => Format.doubled '\x7d' (Format.doubled '\x7b' s.toList)
  | printed _ => ['\x7b', '\x7d']

def operands : List Part → List Expr
  | [] => []
  | text _ :: parts => operands parts
  | printed e :: parts => e :: operands parts

/-- Texts and arguments in the order of the parts. -/
def join : List Part → List String → String
  | [], _ => ""
  | text s :: parts, args => s ++ join parts args
  | printed _ :: parts, args => args.headD "" ++ join parts args.tail

variable (parts : List Part)

theorem write_formatPieces :
    Format.write (formatPieces (parts.map expr)) = parts.flatMap format := by
  induction parts with
  | nil => rfl
  | cons part parts ih =>
    rw [List.flatMap_cons, ← ih]
    cases part with
    | text s =>
      rw [format, ← Format.escape_eq_doubled]
      rfl
    | printed e => rfl

theorem join_formatPieces (args : List String) :
    Format.join (formatPieces (parts.map expr)) (args.map String.toList) =
      if args.length = (operands parts).length then some (join parts args).toList else none := by
  induction parts generalizing args with
  | nil => cases args <;> rfl
  | cons part parts ih =>
    cases part with
    | text s =>
      change (Format.join (formatPieces (parts.map expr)) _).map (s.toList ++ ·) = _
      rw [ih]
      by_cases hargs : args.length = (operands parts).length <;> simp [operands, join, hargs]
    | printed e =>
      cases args with
      | nil => rfl
      | cons arg args =>
        change (Format.join (formatPieces (parts.map expr)) _).map (arg.toList ++ ·) = _
        rw [ih]
        by_cases hargs : args.length = (operands parts).length <;> simp [operands, join, hargs]

variable (L : Language) (rt : List Token)

theorem holeSources_eq_mapM :
    L.holeSources rt (parts.map expr) = (operands parts).mapM fun e => do
      return Source.printed (← L.referenceOf e (L.exprSource rt e)) := by
  induction parts with
  | nil => rfl
  | cons part parts ih =>
    cases part with
    | text s => exact ih
    | printed e =>
      rw [List.map_cons, expr, Language.holeSources, ih, operands, List.mapM_cons]
      simp only [bind_assoc, pure_bind]

variable (m : Machine) (call : Call) (f : Frame)

theorem evalTexts_eq_mapM :
    m.evalTexts call f (parts.map expr) = (do
      let shown ← (operands parts).mapM fun e => do m.printVia call (← m.eval call f e)
      return join parts shown) := by
  induction parts with
  | nil => rfl
  | cons part parts ih =>
    cases part with
    | text s =>
      rw [List.map_cons, expr, Machine.evalTexts_text, ih]
      simp only [bind_assoc, pure_bind, operands, join]
    | printed e =>
      rw [List.map_cons, expr, Machine.evalTexts, Machine.eval, ih, operands, List.mapM_cons]
      simp only [bind_assoc, pure_bind, Value.expectText, Eval.lift_ok, join, List.headD_cons,
        List.tail_cons]

end Part

/-- A printed expression, lent to the runtime. -/
def sharedTokens (L : Language) (rt : List Token) (e : Expr) : Rendered :=
  match e with
  | .this => .ok [.word "__this"]
  | .param name | .local name => do return [.mark '&' false, .word (← L.snakeIdentifier name)]
  | e => do return [.mark '&' false, .group .paren (← L.exprSource rt e)]

theorem referenceOf_exprSource (L : Language) (rt : List Token) (e : Expr) :
    L.referenceOf e (L.exprSource rt e) = sharedTokens L rt e := by
  cases e with
  | this => rfl
  | _ =>
    simp only [Language.referenceOf, Language.placeOf, bind_assoc, pure_bind]
    rfl

def stringifyTokens (shared : List Token) : List Token :=
  [.word "__rt", .mark '.' false, .word "stringify", .group .paren shared, .mark '?' false]

def formatTokens (rt : List Token) (format : List Char) (args : List (List Token)) : List Token :=
  rt ++ segments ["Value", "Text"] ++ [.group .paren (segments ["std", "format"] ++
    [.mark '!' false, .group .paren (.string (String.ofList format) ::
      args.flatMap fun arg => .mark ',' false :: arg)])]

/-- The format string of a concatenation has a hole for each printed expression, and filled in with
what these print it is the text that the machine computes. -/
theorem fill_concat (L : Language) (rt : List Token) (m : Machine) (call : Call) (f : Frame)
    (parts : List Part) :
    let concat := Expr.concat (parts.map Part.expr)
    let format := parts.flatMap Part.format
    let shown := (Part.operands parts).mapM fun e => do m.printVia call (← m.eval call f e)
    (L.exprSource rt concat = do
      let args ← (Part.operands parts).mapM (sharedTokens L rt)
      return formatTokens rt format (args.map stringifyTokens)) ∧
    (∀ args : List String, Format.fill format (args.map String.toList) =
      if args.length = (Part.operands parts).length then some (Part.join parts args).toList
      else none) ∧
    (m.eval call f concat = do return .text (Part.join parts (← shown))) ∧
    ∀ h h' t, (m.eval call f concat).on h = (.ok (.text t), h') ↔
      ∃ args, shown.on h = (.ok args, h') ∧
        Format.fill format (args.map String.toList) = some t.toList := by
  intro concat format shown
  have hargs : (Part.operands parts).mapM (fun e => do
      return printed (← L.referenceOf e (L.exprSource rt e))) = (do
        return (← (Part.operands parts).mapM (sharedTokens L rt)).map stringifyTokens) := by
    simp only [referenceOf_exprSource]
    exact mapM_bind_pure _ _ _
  have hfill (args : List String) : Format.fill format (args.map String.toList) =
      if args.length = (Part.operands parts).length then some (Part.join parts args).toList
      else none := by
    rw [← Part.join_formatPieces, ← Format.fill_write, Part.write_formatPieces]
  have heval : m.eval call f concat = do return .text (Part.join parts (← shown)) := by
    rw [Machine.eval, Part.evalTexts_eq_mapM]
    simp only [bind_assoc, pure_bind, shown]
  refine ⟨?_, hfill, heval, ?_⟩
  · rw [Language.exprSource, Part.holeSources_eq_mapM, Part.write_formatPieces, hargs]
    simp only [bind_assoc, pure_bind, commaSeparated_cons]
    rfl
  · intro h h' t
    rw [heval, Eval.on_bind_ok_iff]
    constructor
    · rintro ⟨args, h₁, hargs, ht⟩
      cases ht
      exact ⟨args, hargs, by rw [hfill, if_pos (Eval.length_eq_of_on_mapM hargs)]⟩
    · rintro ⟨args, hargs, ht⟩
      rw [hfill, if_pos (Eval.length_eq_of_on_mapM hargs), Option.some_inj, String.toList_inj] at ht
      exact ⟨args, h', hargs, by rw [ht]; rfl⟩

/-- Three braces on either side: two for the one of the text, and the hole's. -/
example : [Part.text "\x7b", .printed .this, .text "\x7d"].flatMap Part.format =
    "\x7b\x7b\x7b\x7d\x7d\x7d".toList := by decide

end Memberwise.Source
