/-!
# Hexadecimal numbers

Lower-case digits: of a number behind `0x`, optionally filled up with zeros,
and of bytes two for each.
-/

set_option autoImplicit false

namespace RenderRelay.Text

def hexDigits (n : Nat) : String := String.ofList (Nat.toDigits 16 n)

def hex (n : Nat) : String := "0x" ++ hexDigits n

/-- At least `width` digits behind the `0x`. -/
def hexPadded (width n : Nat) : String :=
  let digits := Nat.toDigits 16 n
  "0x" ++ String.ofList (List.replicate (width - digits.length) '0' ++ digits)

/-- Two digits a byte, the high one first. -/
def hexBytes (bytes : List UInt8) : String :=
  String.ofList (bytes.flatMap fun b =>
    [Nat.digitChar (b.toNat / 16), Nat.digitChar (b.toNat % 16)])

example : hexBytes [0xDE, 0x0A] = "de0a" := by decide +kernel

example : hexPadded 4 0xBEEF = "0xbeef" := by decide +kernel

example : hexPadded 4 0xE = "0x000e" := by decide +kernel

example : hexPadded 4 0x12345 = "0x12345" := by decide +kernel

end RenderRelay.Text
