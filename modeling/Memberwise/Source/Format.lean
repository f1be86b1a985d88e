/-!
# Format strings

A format string is text with holes. A brace that is text is doubled; an empty pair of braces is a
hole, which takes the next argument. `fill_write` says that a written format, filled in, gives the
texts and the arguments in order.
-/

namespace Memberwise.Source.Format

inductive Piece
  | text (cs : List Char)
  | hole
deriving DecidableEq, Repr

def isBrace (c : Char) : Bool := c = '\x7b' || c = '\x7d'

def escape : List Char → List Char
  | [] => []
  | c :: cs => if isBrace c then c :: c :: escape cs else c :: escape cs

def Piece.write : Piece → List Char
  | text cs => escape cs
  | hole => ['\x7b', '\x7d']

def write (pieces : List Piece) : List Char := pieces.flatMap Piece.write

/-- The text of a format string with its arguments, none if a brace stands alone or the arguments
are not as many as the holes. -/
def fill : List Char → List (List Char) → Option (List Char)
  | [], [] => some []
  | [], _ :: _ => none
  | '\x7b' :: '\x7b' :: cs, args => (fill cs args).map ('\x7b' :: ·)
  | '\x7d' :: '\x7d' :: cs, args => (fill cs args).map ('\x7d' :: ·)
  | '\x7b' :: '\x7d' :: cs, arg :: args => (fill cs args).map (arg ++ ·)
  | c :: cs, args => if isBrace c then none else (fill cs args).map (c :: ·)

def join : List Piece → List (List Char) → Option (List Char)
  | [], [] => some []
  | [], _ :: _ => none
  | .text cs :: pieces, args => (join pieces args).map (cs ++ ·)
  | .hole :: pieces, arg :: args => (join pieces args).map (arg ++ ·)
  | .hole :: _, [] => none

theorem fill_cons {c : Char} (h : isBrace c = false) (cs : List Char) (args : List (List Char)) :
    fill (c :: cs) args = (fill cs args).map (c :: ·) := by
  rw [fill] <;> simp_all [isBrace]

theorem fill_escape_append (cs rest : List Char) (args : List (List Char)) :
    fill (escape cs ++ rest) args = (fill rest args).map (cs ++ ·) := by
  induction cs with
  | nil => simp [escape]
  | cons c cs ih =>
    by_cases hc : isBrace c
    · rw [escape, if_pos hc, List.cons_append, List.cons_append]
      rcases Bool.or_eq_true_iff.mp hc with h | h
      · rw [of_decide_eq_true h, fill, ih, Option.map_map]; rfl
      · rw [of_decide_eq_true h, fill, ih, Option.map_map]; rfl
    · rw [escape, if_neg hc, List.cons_append, fill_cons (by simpa using hc), ih, Option.map_map]
      rfl

theorem fill_write (pieces : List Piece) (args : List (List Char)) :
    fill (write pieces) args = join pieces args := by
  induction pieces generalizing args with
  | nil => cases args <;> rfl
  | cons piece pieces ih =>
    rw [write, List.flatMap_cons, ← write]
    cases piece with
    | text cs => rw [Piece.write, fill_escape_append, ih, join]
    | hole =>
      cases args with
      | nil =>
        rw [Piece.write, List.cons_append, fill]
        · rfl
        · simp
        · simp
        · simp
      | cons arg args => rw [Piece.write, List.cons_append, List.singleton_append, fill, ih, join]

end Memberwise.Source.Format
