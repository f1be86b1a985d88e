/-!
# Hashes of values

Signed 32-bit hashes with wrapping arithmetic. A text hashes as a polynomial over its UTF-16 code
units, of which a character beyond the basic plane has two; a long folds its halves, and a
reference is spread by a fixed odd multiplier.
-/

namespace Memberwise

namespace Text

def charUnits (c : Char) : List Nat :=
  if c.toNat < 0x10000 then [c.toNat]
  else [0xD800 + (c.toNat - 0x10000) / 0x400, 0xDC00 + (c.toNat - 0x10000) % 0x400]

def units (s : String) : List Nat := s.toList.flatMap charUnits

theorem toNat_lt (c : Char) : c.toNat < 0x110000 := by
  rcases c.valid with h | h <;> simp only [Char.toNat, UInt32.toNat] at * <;> omega

theorem units_append (s t : String) : units (s ++ t) = units s ++ units t := by
  simp [units]

end Text

namespace Hash

def step (h : Int32) (unit : Nat) : Int32 := h * 31 + Int32.ofNat unit

def ofText (s : String) : Int32 := (Text.units s).foldl step 0

def ofLong (l : Int64) : Int32 := (l.toUInt64 ^^^ (l.toUInt64 >>> 32)).toUInt32.toInt32

def ofBool (b : Bool) : Int32 := if b then 1231 else 1237

/-- The hash of a reference; the shift keeps it from being negative. -/
def ofId (id : UInt32) : Int32 := ((id * 0x9E3779B9) >>> 1).toInt32

end Hash

end Memberwise
