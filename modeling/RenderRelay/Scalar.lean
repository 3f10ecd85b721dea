/-!
# Scalars

Enumerants are 32-bit words. A float is kept as its bit pattern, so that
redundancy checks and the wire compare and carry exactly what was sent.
-/

set_option autoImplicit false

namespace RenderRelay

abbrev Enum := UInt32

abbrev Bytes := List UInt8

/-- A single-precision float as its IEEE-754 bit pattern. Equality is
equality of bits: the two zeros differ and a NaN equals itself. -/
structure Single where
  bits : UInt32
  deriving DecidableEq, Repr

namespace Single

def zero : Single := ⟨0⟩

def one : Single := ⟨0x3F800000⟩

def isNegative (x : Single) : Bool := 0x80000000 ≤ x.bits

def magnitude (x : Single) : Nat := x.bits.toNat % 0x80000000

def isNaN (x : Single) : Bool := 0x7F800000 < x.magnitude

/-- Position on the number line: monotone in the value, equal for the zeros. -/
def rank (x : Single) : Int := if x.isNegative then -x.magnitude else x.magnitude

/-- `x < y` as values; false when either is a NaN. -/
def below (x y : Single) : Bool := !x.isNaN && !y.isNaN && decide (x.rank < y.rank)

/-- `x ≤ y` as values; false when either is a NaN. -/
def atMost (x y : Single) : Bool := !x.isNaN && !y.isNaN && decide (x.rank ≤ y.rank)

/-- Clamps to the unit interval. A NaN and a negative zero stay as they are. -/
def clampUnit (x : Single) : Single :=
  if x.below zero then zero else if one.below x then one else x

theorem clampUnit_of_isNaN (x : Single) (h : x.isNaN = true) : x.clampUnit = x := by
  simp [clampUnit, below, h]

theorem zero_clampUnit : zero.clampUnit = zero := by decide

theorem one_clampUnit : one.clampUnit = one := by decide

theorem clampUnit_clampUnit (x : Single) : x.clampUnit.clampUnit = x.clampUnit := by
  by_cases h : x.below zero
  · rw [show x.clampUnit = zero by simp [clampUnit, h], zero_clampUnit]
  · by_cases k : one.below x
    · rw [show x.clampUnit = one by simp [clampUnit, h, k], one_clampUnit]
    · rw [show x.clampUnit = x by simp [clampUnit, h, k], show x.clampUnit = x by simp [clampUnit, h, k]]

end Single

structure Color where
  red : Single
  green : Single
  blue : Single
  alpha : Single
  deriving DecidableEq, Repr

namespace Color

def map (f : Single → Single) (c : Color) : Color :=
  ⟨f c.red, f c.green, f c.blue, f c.alpha⟩

def clampUnit (c : Color) : Color := c.map Single.clampUnit

theorem clampUnit_clampUnit (c : Color) : c.clampUnit.clampUnit = c.clampUnit := by
  simp [clampUnit, map, Single.clampUnit_clampUnit]

end Color

/-- One switch per color channel. -/
structure ChannelMask where
  red : Bool
  green : Bool
  blue : Bool
  alpha : Bool
  deriving DecidableEq, Repr

/-- A pixel rectangle: lower left corner and extent. -/
structure Rect where
  x : Int32
  y : Int32
  width : Int32
  height : Int32
  deriving DecidableEq, Repr

end RenderRelay
