import RenderRelay.Engine.Legal
import RenderRelay.Engine.Scope

/-!
# Queries

Commands that answer with a value. What the shadow holds is answered from
it; bindings are reported under client names.
-/

set_option autoImplicit false

namespace RenderRelay

namespace Shadow

def flagInt (b : Bool) : Int32 := if b then 1 else 0

def rectInts (r : Rect) : List Int32 := [r.x, r.y, r.width, r.height]

/-- The integer state that the shadow holds, by parameter. -/
def integers (s : Shadow) : List (Enum × List Int32) :=
  [(GL.arrayBufferBinding, [s.arrayBuffer.toInt32]),
   (GL.elementArrayBufferBinding, [s.elementArrayBuffer.toInt32]),
   (GL.framebufferBinding, [s.framebuffer.toInt32]),
   (GL.renderbufferBinding, [s.renderbuffer.toInt32]),
   (GL.currentProgram, [s.program.toInt32]),
   (GL.activeTexture, [s.activeTexture.toInt32]),
   (GL.textureBinding2D, [s.unit.texture2D.toInt32]),
   (GL.textureBindingCubeMap, [s.unit.cubeMap.toInt32]),
   (GL.blendEquationRgb, [s.blendEquations.rgb.toInt32]),
   (GL.blendEquationAlpha, [s.blendEquations.alpha.toInt32]),
   (GL.blendSrcRgb, [s.blendFactors.srcRgb.toInt32]),
   (GL.blendDstRgb, [s.blendFactors.dstRgb.toInt32]),
   (GL.blendSrcAlpha, [s.blendFactors.srcAlpha.toInt32]),
   (GL.blendDstAlpha, [s.blendFactors.dstAlpha.toInt32]),
   (GL.cullFaceMode, [s.cullFace.toInt32]),
   (GL.frontFace, [s.frontFace.toInt32]),
   (GL.depthFunc, [s.depthFunc.toInt32]),
   (GL.depthWritemask, [flagInt s.depthMask]),
   (GL.colorWritemask,
    [s.colorMask.red, s.colorMask.green, s.colorMask.blue, s.colorMask.alpha].map flagInt),
   (GL.generateMipmapHint, [s.mipmapHint.toInt32]),
   (GL.packAlignment, [s.packAlignment]),
   (GL.unpackAlignment, [s.unpackAlignment]),
   (GL.viewport, rectInts s.viewport),
   (GL.scissorBox, rectInts s.scissor),
   (GL.stencilClearValue, [s.clearStencil]),
   (GL.stencilFunc, [s.stencilFront.test.func.toInt32]),
   (GL.stencilRef, [s.stencilFront.test.reference]),
   (GL.stencilValueMask, [s.stencilFront.test.mask.toInt32]),
   (GL.stencilFail, [s.stencilFront.actions.fail.toInt32]),
   (GL.stencilPassDepthFail, [s.stencilFront.actions.zfail.toInt32]),
   (GL.stencilPassDepthPass, [s.stencilFront.actions.zpass.toInt32]),
   (GL.stencilWritemask, [s.stencilFront.writemask.toInt32]),
   (GL.stencilBackFunc, [s.stencilBack.test.func.toInt32]),
   (GL.stencilBackRef, [s.stencilBack.test.reference]),
   (GL.stencilBackValueMask, [s.stencilBack.test.mask.toInt32]),
   (GL.stencilBackFail, [s.stencilBack.actions.fail.toInt32]),
   (GL.stencilBackPassDepthFail, [s.stencilBack.actions.zfail.toInt32]),
   (GL.stencilBackPassDepthPass, [s.stencilBack.actions.zpass.toInt32]),
   (GL.stencilBackWritemask, [s.stencilBack.writemask.toInt32])]

def integers? (s : Shadow) (pname : Enum) : Option (List Int32) := s.integers.lookup pname

end Shadow

namespace Scope

/-- How many integers the driver writes for a parameter of fixed size. -/
def valueCount (pname : Enum) : Nat :=
  if [GL.blendColor, GL.colorClearValue].contains pname then 4
  else if [GL.depthRange, GL.maxViewportDims, GL.aliasedPointSizeRange,
    GL.aliasedLineWidthRange].contains pname then 2
  else 1

variable {δ : Type} [Driver δ]

/-- The number of formats, as the driver tells it. -/
def formatCount (s : Scope δ) (pname : Enum) : Nat × Scope δ :=
  let (values, s) := s.forward (.getIntegerv pname [0])
  ((values.headD 0).toInt.toNat, s)

/-- How many integers an answer has that the shadow does not hold. Lists of
formats are as long as the driver says. -/
def answerSize (s : Scope δ) (pname : Enum) : Nat × Scope δ :=
  if pname = GL.compressedTextureFormats then s.formatCount GL.numCompressedTextureFormats
  else if pname = GL.shaderBinaryFormats then s.formatCount GL.numShaderBinaryFormats
  else (valueCount pname, s)

/-- Limits come from their cache, other state from the shadow, the rest from the driver. -/
def getIntegerv (s : Scope δ) (pname : Enum) : List Int32 × Scope δ :=
  match Limit.ofPname? pname with
  | some limit =>
    let (value, s) := s.limit limit
    ([value], s)
  | none =>
    match Capability.ofEnum? pname with
    | some cap => ([Shadow.flagInt (s.shadow.capabilities.has cap)], s.elide)
    | none =>
      match s.shadow.integers? pname with
      | some values => (values, s.elide)
      | none =>
        let (size, s) := s.answerSize pname
        if size = 0 then ([], s)
        else s.submit (.getIntegerv pname (List.replicate size 0))

def isEnabled (s : Scope δ) (cap : Enum) : Bool × Scope δ :=
  match Capability.ofEnum? cap with
  | some c => (s.shadow.capabilities.has c, s.elide)
  | none => (false, s.reject GL.invalidEnum)

def checkFramebufferStatus (s : Scope δ) (target : Enum) : Enum × Scope δ :=
  if target = GL.framebuffer then s.submit (.checkFramebufferStatus target)
  else (0, s.reject GL.invalidEnum)

def createShader (s : Scope δ) (kind : Enum) : UInt32 × Scope δ :=
  if Legal.shaderKinds.contains kind then s.forward (.createShader kind)
  else (0, s.reject GL.invalidEnum)

/-- A location. Only those that exist are kept: a program without them may be
linked later. -/
def location (s : Scope δ) (kind : LocationKind) (program : UInt32) (name : String) :
    Int32 × Scope δ :=
  match s.shadow.locations.lookup program kind name with
  | some location => (location, s.elide)
  | none =>
    let (location, s) := s.submit (.location kind program name)
    (location,
     if 0 ≤ location then
       { s with shadow := { s.shadow with
           locations := s.shadow.locations.store program kind name location } }
     else s)

/-- The pending error. If the driver may know of another, its answer counts,
and the pending one is forgotten. -/
def getError (s : Scope δ) : Enum × Scope δ :=
  let pending := s.shadow.error
  let s := { s with shadow := s.shadow.clearError }
  if s.shadow.driverMayKnow then
    { s with
      shadow := { s.shadow with driverMayKnow := false }
      stats := s.stats.driverAsked }.forward .getError
  else (pending, s)

end Scope

end RenderRelay
