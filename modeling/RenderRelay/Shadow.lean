import RenderRelay.NameTable
import RenderRelay.Shadow.Attribs
import RenderRelay.Shadow.Limits
import RenderRelay.Shadow.Locations

/-!
# Shadow state

What one rendering context is known to hold: the values that redundancy
checks compare with and that queries answer from, the pending error, and the
caches of driver limits and program locations. Object names are the
client's; programs go by their driver names.
-/

set_option autoImplicit false

namespace RenderRelay

inductive Capability where
  | blend
  | cullFace
  | depthTest
  | dither
  | polygonOffsetFill
  | sampleAlphaToCoverage
  | sampleCoverage
  | scissorTest
  | stencilTest
  deriving DecidableEq, Repr

namespace Capability

def all : List Capability :=
  [.blend, .cullFace, .depthTest, .dither, .polygonOffsetFill, .sampleAlphaToCoverage,
   .sampleCoverage, .scissorTest, .stencilTest]

def enumerant : Capability → Enum
  | blend => GL.blend
  | cullFace => GL.cullFace
  | depthTest => GL.depthTest
  | dither => GL.dither
  | polygonOffsetFill => GL.polygonOffsetFill
  | sampleAlphaToCoverage => GL.sampleAlphaToCoverage
  | sampleCoverage => GL.sampleCoverage
  | scissorTest => GL.scissorTest
  | stencilTest => GL.stencilTest

def ofEnum? (e : Enum) : Option Capability := all.find? (·.enumerant == e)

theorem ofEnum?_enumerant (c : Capability) : ofEnum? c.enumerant = some c := by cases c <;> rfl

theorem enumerant_of_ofEnum? {e : Enum} {c : Capability} (h : ofEnum? e = some c) :
    c.enumerant = e := by
  simpa using List.find?_some h

def index : Capability → Fin 9
  | blend => 0
  | cullFace => 1
  | depthTest => 2
  | dither => 3
  | polygonOffsetFill => 4
  | sampleAlphaToCoverage => 5
  | sampleCoverage => 6
  | scissorTest => 7
  | stencilTest => 8

theorem index_injective {a b : Capability} (h : a.index = b.index) : a = b := by
  revert h
  cases a <;> cases b <;> decide

/-- The capability's flag in a set of bits. -/
def bit (c : Capability) : Nat := 1 <<< c.index.val

end Capability

/-- Which capabilities are enabled. -/
structure CapabilitySet where
  flags : Vector Bool 9
  deriving DecidableEq, Repr

namespace CapabilitySet

def empty : CapabilitySet := ⟨Vector.replicate 9 false⟩

def has (s : CapabilitySet) (c : Capability) : Bool := s.flags[c.index]

def set (s : CapabilitySet) (c : Capability) (on : Bool) : CapabilitySet :=
  ⟨s.flags.set c.index on⟩

def bits (s : CapabilitySet) : Nat :=
  (Capability.all.filter s.has).foldr (fun c n => c.bit ||| n) 0

theorem has_set (s : CapabilitySet) (a b : Capability) (on : Bool) :
    (s.set a on).has b = if a = b then on else s.has b := by
  simp only [set, has, Fin.getElem_fin, Vector.getElem_set, Fin.val_inj]
  by_cases h : a = b
  · simp [h]
  · have hi : a.index ≠ b.index := mt Capability.index_injective h
    simp [h, hi]

end CapabilitySet

structure StencilFace where
  test : StencilTest := ⟨GL.always, 0, 0xFFFFFFFF⟩
  actions : StencilActions := ⟨GL.keep, GL.keep, GL.keep⟩
  writemask : UInt32 := 0xFFFFFFFF
  deriving DecidableEq, Repr

structure TextureUnit where
  texture2D : UInt32 := 0
  cubeMap : UInt32 := 0
  deriving DecidableEq, Repr

/-- Number of texture units whose bindings are kept. -/
def textureUnitCount : Nat := 32

structure Shadow where
  /-- The first error since the last error query. -/
  error : Enum := GL.noError
  /-- Whether a call was forwarded that may have failed in the driver. -/
  driverMayKnow : Bool := false
  arrayBuffer : UInt32 := 0
  elementArrayBuffer : UInt32 := 0
  framebuffer : UInt32 := 0
  renderbuffer : UInt32 := 0
  program : UInt32 := 0
  activeTexture : Enum := GL.texture0
  units : Vector TextureUnit textureUnitCount := Vector.replicate _ {}
  capabilities : CapabilitySet := CapabilitySet.empty.set .dither true
  blendColor : Color := ⟨.zero, .zero, .zero, .zero⟩
  blendEquations : BlendEquations := ⟨GL.funcAdd, GL.funcAdd⟩
  blendFactors : BlendFactors := ⟨GL.one, GL.zero, GL.one, GL.zero⟩
  clearColor : Color := ⟨.zero, .zero, .zero, .zero⟩
  clearDepth : Single := .one
  clearStencil : Int32 := 0
  colorMask : ChannelMask := ⟨true, true, true, true⟩
  cullFace : Enum := GL.back
  frontFace : Enum := GL.ccw
  depthFunc : Enum := GL.less
  depthMask : Bool := true
  depthRange : DepthRange := ⟨.zero, .one⟩
  mipmapHint : Enum := GL.dontCare
  lineWidth : Single := .one
  packAlignment : Int32 := 4
  unpackAlignment : Int32 := 4
  polygonOffset : PolygonOffset := ⟨.zero, .zero⟩
  sampleCoverage : SampleCoverage := ⟨.one, false⟩
  scissor : Rect := ⟨0, 0, 0, 0⟩
  viewport : Rect := ⟨0, 0, 0, 0⟩
  stencilFront : StencilFace := {}
  stencilBack : StencilFace := {}
  attribs : AttribList := {}
  limits : Limits := {}
  locations : LocationCache := {}
  deriving DecidableEq, Repr

namespace Shadow

/-- What a context holds before its first command. -/
def fresh : Shadow := {}

/-! Errors -/

/-- Whether an error can be stored: the first one stays until it is asked for. -/
def acceptsError (s : Shadow) : Bool := s.error == GL.noError

def recordError (s : Shadow) (e : Enum) : Shadow := if s.acceptsError then { s with error := e } else s

def clearError (s : Shadow) : Shadow := { s with error := GL.noError }

/-! Texture units -/

/-- The unit that texture bindings go to. -/
def activeUnit (s : Shadow) : Fin textureUnitCount :=
  ⟨min (s.activeTexture - GL.texture0).toNat (textureUnitCount - 1), by
    have : textureUnitCount = 32 := rfl
    omega⟩

def unit (s : Shadow) : TextureUnit := s.units[s.activeUnit]

def setUnit (s : Shadow) (u : TextureUnit) : Shadow :=
  { s with units := s.units.set s.activeUnit u }

/-! Stencil faces -/

/-- Whether all faces that `face` stands for satisfy `p`. -/
def allStencil (s : Shadow) (face : Enum) (p : StencilFace → Bool) : Bool :=
  (face == GL.back || p s.stencilFront) && (face == GL.front || p s.stencilBack)

/-- Changes the faces that `face` stands for. -/
def updateStencil (s : Shadow) (face : Enum) (f : StencilFace → StencilFace) : Shadow :=
  { s with
    stencilFront := if face = GL.back then s.stencilFront else f s.stencilFront
    stencilBack := if face = GL.front then s.stencilBack else f s.stencilBack }

/-! Bindings -/

/-- The name bound to a target of a class of objects; none for a target the class does not have. -/
def binding? (s : Shadow) (cls : ObjectClass) (target : Enum) : Option UInt32 :=
  match cls with
  | .buffer =>
    if target = GL.arrayBuffer then some s.arrayBuffer
    else if target = GL.elementArrayBuffer then some s.elementArrayBuffer
    else none
  | .texture =>
    if target = GL.texture2D then some s.unit.texture2D
    else if target = GL.textureCubeMap then some s.unit.cubeMap
    else none
  | .framebuffer => if target = GL.framebuffer then some s.framebuffer else none
  | .renderbuffer => if target = GL.renderbuffer then some s.renderbuffer else none

/-- Binds a name to a target, if the class has the target. Textures go to the active unit. -/
def setBinding (s : Shadow) (cls : ObjectClass) (target : Enum) (name : UInt32) : Shadow :=
  match cls with
  | .buffer =>
    if target = GL.arrayBuffer then { s with arrayBuffer := name }
    else if target = GL.elementArrayBuffer then { s with elementArrayBuffer := name }
    else s
  | .texture =>
    if target = GL.texture2D then s.setUnit { s.unit with texture2D := name }
    else if target = GL.textureCubeMap then s.setUnit { s.unit with cubeMap := name }
    else s
  | .framebuffer => if target = GL.framebuffer then { s with framebuffer := name } else s
  | .renderbuffer => if target = GL.renderbuffer then { s with renderbuffer := name } else s

/-! Deleted names -/

def without (name bound : UInt32) : UInt32 := if bound = name then 0 else bound

/-- Drops every binding of a deleted buffer. -/
def forgetBuffer (s : Shadow) (name : UInt32) : Shadow :=
  { s with
    arrayBuffer := without name s.arrayBuffer
    elementArrayBuffer := without name s.elementArrayBuffer
    attribs := s.attribs.forgetBuffer name }

/-- Drops every binding of a deleted texture, in all units. -/
def forgetTexture (s : Shadow) (name : UInt32) : Shadow :=
  { s with units := s.units.map fun u => ⟨without name u.texture2D, without name u.cubeMap⟩ }

def forgetFramebuffer (s : Shadow) (name : UInt32) : Shadow :=
  { s with framebuffer := without name s.framebuffer }

def forgetRenderbuffer (s : Shadow) (name : UInt32) : Shadow :=
  { s with renderbuffer := without name s.renderbuffer }

/-- Drops every binding of a deleted object. -/
def forget (s : Shadow) (cls : ObjectClass) (name : UInt32) : Shadow :=
  match cls with
  | .buffer => s.forgetBuffer name
  | .texture => s.forgetTexture name
  | .framebuffer => s.forgetFramebuffer name
  | .renderbuffer => s.forgetRenderbuffer name

theorem recordError_of_pending (s : Shadow) (e : Enum) (h : s.error ≠ GL.noError) :
    s.recordError e = s := by
  simp [recordError, acceptsError, h]

end Shadow

end RenderRelay
