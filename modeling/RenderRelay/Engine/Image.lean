import RenderRelay.Enumerant

/-!
# Client images

How many bytes the driver reads for an image. Every row but the last is
padded to the alignment of the next.
-/

set_option autoImplicit false

namespace RenderRelay.Image

/-- Bytes of one pixel, if the format and the type go together. -/
def pixelSize? (format type : Enum) : Option Nat :=
  if type = GL.unsignedByte then
    if format = GL.alpha ∨ format = GL.luminance then some 1
    else if format = GL.luminanceAlpha then some 2
    else if format = GL.rgb then some 3
    else if format = GL.rgba then some 4
    else none
  else if type = GL.unsignedShort565 ∧ format = GL.rgb then some 2
  else if (type = GL.unsignedShort4444 ∨ type = GL.unsignedShort5551) ∧ format = GL.rgba then
    some 2
  else none

/-- The least multiple of `alignment` that is not below `n`. -/
def roundUp (n alignment : Nat) : Nat := (n + alignment - 1) / alignment * alignment

/-- Distance of the starts of two rows. -/
def stride (pixel width alignment : Nat) : Nat := roundUp (pixel * width) alignment

/-- Bytes from the start of the first row to the end of the last, unless a
64-bit length cannot express them. -/
def size? (pixel width height alignment : Nat) : Option Nat :=
  if width = 0 ∨ height = 0 then some 0
  else
    let stride := stride pixel width alignment
    let size := stride * (height - 1) + pixel * width
    if stride < UInt64.size ∧ size < UInt64.size then some size else none

theorem le_roundUp (n alignment : Nat) (h : 0 < alignment) : n ≤ roundUp n alignment := by
  unfold roundUp
  have h1 := Nat.div_add_mod (n + alignment - 1) alignment
  have h2 := Nat.mod_lt (n + alignment - 1) h
  rw [Nat.mul_comm] at h1
  omega

end RenderRelay.Image
