import RenderRelay.Engine.Image
import RenderRelay.Engine.Legal
import RenderRelay.Engine.Plan

/-!
# State setters, uploads and draws

The plans of the commands that set state, hand data to the driver or draw.
Most setters compare with the shadow first and look at the domain of their
argument after that; the stencil commands look at their values first.
-/

set_option autoImplicit false

namespace RenderRelay.Plan

/-! Fixed state -/

/-- Units beyond the kept ones have no name, units beyond the driver's are no use. -/
def activeTexture (s : Shadow) (texture : Enum) : Plan :=
  unlessHeld s.activeTexture texture <|
  checkEnum (GL.texture0 ≤ texture && texture ≤ GL.texture31) <|
  consult .maxCombinedTextureImageUnits fun units =>
  checkEnum ((texture - GL.texture0).toInt32 < units) <|
  apply (fun s => { s with activeTexture := texture }) (.activeTexture texture)

def blendColor (s : Shadow) (rgba : Color) : Plan :=
  unlessHeld s.blendColor rgba <|
  apply (fun s => { s with blendColor := rgba }) (.blendColor rgba)

def blendEquations (s : Shadow) (modes : BlendEquations) (call : Call) : Plan :=
  unlessHeld s.blendEquations modes <|
  checkEnum ([modes.rgb, modes.alpha].all Legal.blendEquations.contains) <|
  apply (fun s => { s with blendEquations := modes }) call

def blendFactors (s : Shadow) (factors : BlendFactors) (call : Call) : Plan :=
  unlessHeld s.blendFactors factors <|
  checkEnum ([factors.srcRgb, factors.dstRgb, factors.srcAlpha, factors.dstAlpha].all
    Legal.blendFactors.contains) <|
  apply (fun s => { s with blendFactors := factors }) call

def clearColor (s : Shadow) (rgba : Color) : Plan :=
  unlessHeld s.clearColor rgba <|
  apply (fun s => { s with clearColor := rgba }) (.clearColor rgba)

def clearDepthf (s : Shadow) (depth : Single) : Plan :=
  unlessHeld s.clearDepth depth <|
  apply (fun s => { s with clearDepth := depth }) (.clearDepthf depth)

def clearStencil (s : Shadow) (value : Int32) : Plan :=
  unlessHeld s.clearStencil value <|
  apply (fun s => { s with clearStencil := value }) (.clearStencil value)

def colorMask (s : Shadow) (mask : ChannelMask) : Plan :=
  unlessHeld s.colorMask mask <|
  apply (fun s => { s with colorMask := mask }) (.colorMask mask)

def cullFace (s : Shadow) (mode : Enum) : Plan :=
  unlessHeld s.cullFace mode <|
  checkEnum (Legal.faces.contains mode) <|
  apply (fun s => { s with cullFace := mode }) (.cullFace mode)

def depthFunc (s : Shadow) (func : Enum) : Plan :=
  unlessHeld s.depthFunc func <|
  checkEnum (Legal.compareFuncs.contains func) <|
  apply (fun s => { s with depthFunc := func }) (.depthFunc func)

def depthMask (s : Shadow) (flag : Bool) : Plan :=
  unlessHeld s.depthMask flag <|
  apply (fun s => { s with depthMask := flag }) (.depthMask flag)

def depthRangef (s : Shadow) (range : DepthRange) : Plan :=
  unlessHeld s.depthRange range <|
  apply (fun s => { s with depthRange := range }) (.depthRangef range)

def setCapability (s : Shadow) (cap : Enum) (on : Bool) : Plan :=
  match Capability.ofEnum? cap with
  | none => reject GL.invalidEnum
  | some c =>
    unlessHeld (s.capabilities.has c) on <|
    apply (fun s => { s with capabilities := s.capabilities.set c on })
      (if on then .enable cap else .disable cap)

def frontFace (s : Shadow) (mode : Enum) : Plan :=
  unlessHeld s.frontFace mode <|
  checkEnum (Legal.windings.contains mode) <|
  apply (fun s => { s with frontFace := mode }) (.frontFace mode)

/-- Targets that the shadow does not keep are left to the driver. -/
def hint (s : Shadow) (target mode : Enum) : Plan :=
  if target = GL.generateMipmapHint then
    unlessHeld s.mipmapHint mode <|
    checkEnum (Legal.hintModes.contains mode) <|
    apply (fun s => { s with mipmapHint := mode }) (.hint target mode)
  else
    checkEnum (Legal.hintModes.contains mode) <|
    submit id (.hint target mode)

/-- Widths of zero and below are refused; a NaN is neither. -/
def lineWidth (s : Shadow) (width : Single) : Plan :=
  unlessHeld s.lineWidth width <|
  checkValue (!width.atMost .zero) <|
  apply (fun s => { s with lineWidth := width }) (.lineWidth width)

def pixelStorei (s : Shadow) (pname : Enum) (param : Int32) : Plan :=
  if pname = GL.packAlignment then
    unlessHeld s.packAlignment param <|
    checkValue (Legal.alignments.contains param) <|
    apply (fun s => { s with packAlignment := param }) (.pixelStorei pname param)
  else if pname = GL.unpackAlignment then
    unlessHeld s.unpackAlignment param <|
    checkValue (Legal.alignments.contains param) <|
    apply (fun s => { s with unpackAlignment := param }) (.pixelStorei pname param)
  else reject GL.invalidEnum

def polygonOffset (s : Shadow) (offset : PolygonOffset) : Plan :=
  unlessHeld s.polygonOffset offset <|
  apply (fun s => { s with polygonOffset := offset }) (.polygonOffset offset)

def sampleCoverage (s : Shadow) (coverage : SampleCoverage) : Plan :=
  unlessHeld s.sampleCoverage coverage <|
  apply (fun s => { s with sampleCoverage := coverage }) (.sampleCoverage coverage)

def hasExtent (box : Rect) : Bool := 0 ≤ box.width && 0 ≤ box.height

def scissor (s : Shadow) (box : Rect) : Plan :=
  unlessHeld s.scissor box <|
  checkValue (hasExtent box) <|
  apply (fun s => { s with scissor := box }) (.scissor box)

def viewport (s : Shadow) (box : Rect) : Plan :=
  unlessHeld s.viewport box <|
  checkValue (hasExtent box) <|
  apply (fun s => { s with viewport := box }) (.viewport box)

/-! Stencil state -/

/-- Changes the faces that `face` stands for, unless all of them hold the value. -/
def stencil (s : Shadow) (face : Enum) (holds : StencilFace → Bool)
    (change : StencilFace → StencilFace) (call : Call) : Plan :=
  checkEnum (Legal.faces.contains face) <|
  unlessHeld (s.allStencil face holds) true <|
  apply (fun s => s.updateStencil face change) call

def stencilFunc (s : Shadow) (face : Enum) (test : StencilTest) : Plan :=
  checkEnum (Legal.compareFuncs.contains test.func) <|
  stencil s face (·.test = test) (fun f => { f with test }) (.stencilFuncSeparate face test)

def stencilMask (s : Shadow) (face : Enum) (mask : UInt32) : Plan :=
  stencil s face (·.writemask = mask) (fun f => { f with writemask := mask })
    (.stencilMaskSeparate face mask)

def stencilOp (s : Shadow) (face : Enum) (actions : StencilActions) : Plan :=
  checkEnum ([actions.fail, actions.zfail, actions.zpass].all Legal.stencilOps.contains) <|
  stencil s face (·.actions = actions) (fun f => { f with actions })
    (.stencilOpSeparate face actions)

/-! Uploads -/

def bufferData (target : Enum) (data : Option Bytes) (size : Int64) (usage : Enum) : Plan :=
  checkEnum (Legal.bufferTargets.contains target) <|
  checkValue (0 ≤ size) <|
  checkEnum (Legal.bufferUsages.contains usage) <|
  checkValue (data.all fun d => size.toInt ≤ d.length) <|
  submit id (.bufferData target size data usage)

def bufferSubData (target : Enum) (offset : Int64) (data : Bytes) : Plan :=
  checkEnum (Legal.bufferTargets.contains target) <|
  checkValue (0 ≤ offset) <|
  submit id (.bufferSubData target offset data)

/-- Whether the client's pixels cover what the driver reads. -/
def covers (image : TexImage) (pixel : Nat) (alignment : Int32) : Bool :=
  image.pixels.all fun pixels =>
    (Image.size? pixel image.width.toInt.toNat image.height.toInt.toNat
      alignment.toInt.toNat).any (· ≤ pixels.length)

def texImage2D (s : Shadow) (image : TexImage) : Plan :=
  checkEnum (Legal.imageTargets.contains image.target) <|
  checkValue (0 ≤ image.level && 0 ≤ image.width && 0 ≤ image.height && image.border == 0) <|
  consult (if image.target = GL.texture2D then .maxTextureSize else .maxCubeMapTextureSize)
    fun max =>
  checkValue (image.width ≤ max && image.height ≤ max) <|
  checkEnum (Legal.pixelFormats.contains image.format) <|
  checkEnum (Legal.pixelTypes.contains image.type) <|
  match Image.pixelSize? image.format image.type with
  | none => reject GL.invalidOperation
  | some pixel =>
    checkValue (covers image pixel s.unpackAlignment) <|
    submit id (.texImage2D image)

def texParameteri (target pname : Enum) (param : Int32) : Plan :=
  checkEnum (Legal.textureTargets.contains target) <|
  submit id (.texParameteri target pname param)

def generateMipmap (target : Enum) : Plan :=
  checkEnum (Legal.textureTargets.contains target) <|
  submit id (.generateMipmap target)

/-! Programs -/

def useProgram (s : Shadow) (program : UInt32) : Plan :=
  unlessHeld s.program program <|
  submit (fun s => { s with program }) (.useProgram program)

/-- Linking gives new locations and deleting takes them all away. -/
def dropLocations (program : UInt32) (call : Call) : Plan :=
  submit (fun s => { s with locations := s.locations.invalidate program }) call

/-! Vertices -/

def checkAttribIndex (index : UInt32) (next : Plan) : Plan :=
  consult .maxVertexAttribs fun max => checkValue ((index.toNat : Int) < max.toInt) next

def setAttribArray (s : Shadow) (index : UInt32) (on : Bool) : Plan :=
  checkAttribIndex index <|
  unlessHeld (s.attribs.get index.toNat).enabled on <|
  apply (fun s => { s with attribs := s.attribs.update index.toNat ({ · with enabled := on }) })
    (if on then .enableVertexAttribArray index else .disableVertexAttribArray index)

/-- The pointer goes with the array buffer that is bound at that time. -/
def vertexAttribPointer (s : Shadow) (index : UInt32) (pointer : AttribPointer) : Plan :=
  let held := s.attribs.get index.toNat
  let wanted := { held with pointer, buffer := s.arrayBuffer }
  checkAttribIndex index <|
  checkValue (1 ≤ pointer.size && pointer.size ≤ 4) <|
  checkEnum (Legal.attribTypes.contains pointer.type) <|
  checkValue (0 ≤ pointer.stride) <|
  unlessHeld held wanted <|
  apply (fun s => { s with attribs := s.attribs.update index.toNat fun _ => wanted })
    (.vertexAttribPointer index pointer)

def drawArrays (mode : Enum) (first count : Int32) : Plan :=
  checkEnum (Legal.drawModes.contains mode) <|
  checkValue (0 ≤ first && 0 ≤ count) <|
  submit id (.drawArrays mode first count)

def drawElements (mode : Enum) (count : Int32) (type : Enum) (offset : UInt64) : Plan :=
  checkEnum (Legal.drawModes.contains mode) <|
  checkValue (0 ≤ count) <|
  checkEnum (Legal.indexTypes.contains type) <|
  submit id (.drawElements mode count type offset)

def clear (mask : UInt32) : Plan :=
  checkValue (mask &&& ~~~Legal.clearBits == 0) <|
  submit id (.clear mask)

/-! All of them -/

/-- The plan of a command. Commands with a reply and those on object names
are not planned here. -/
def ofCommand (s : Shadow) : Command → Plan
  | .activeTexture texture => activeTexture s texture
  | .blendColor rgba => blendColor s rgba.clampUnit
  | .blendEquation mode => blendEquations s ⟨mode, mode⟩ (.blendEquation mode)
  | .blendEquationSeparate rgb alpha =>
    blendEquations s ⟨rgb, alpha⟩ (.blendEquationSeparate ⟨rgb, alpha⟩)
  | .blendFunc src dst => blendFactors s ⟨src, dst, src, dst⟩ (.blendFunc src dst)
  | .blendFuncSeparate factors => blendFactors s factors (.blendFuncSeparate factors)
  | .clearColor rgba => clearColor s rgba.clampUnit
  | .clearDepthf depth => clearDepthf s depth.clampUnit
  | .clearStencil value => clearStencil s value
  | .colorMask mask => colorMask s mask
  | .cullFace mode => cullFace s mode
  | .depthFunc func => depthFunc s func
  | .depthMask flag => depthMask s flag
  | .depthRangef near far => depthRangef s ⟨near.clampUnit, far.clampUnit⟩
  | .enable cap => setCapability s cap true
  | .disable cap => setCapability s cap false
  | .frontFace mode => frontFace s mode
  | .hint target mode => hint s target mode
  | .lineWidth width => lineWidth s width
  | .pixelStorei pname param => pixelStorei s pname param
  | .polygonOffset factor units => polygonOffset s ⟨factor, units⟩
  | .sampleCoverage value invert => sampleCoverage s ⟨value.clampUnit, invert⟩
  | .scissor box => scissor s box
  | .viewport box => viewport s box
  | .stencilFunc test => stencilFunc s GL.frontAndBack test
  | .stencilFuncSeparate face test => stencilFunc s face test
  | .stencilMask mask => stencilMask s GL.frontAndBack mask
  | .stencilMaskSeparate face mask => stencilMask s face mask
  | .stencilOp actions => stencilOp s GL.frontAndBack actions
  | .stencilOpSeparate face actions => stencilOp s face actions
  | .bufferData target data size usage => bufferData target data size usage
  | .bufferSubData target offset data => bufferSubData target offset data
  | .texImage2D image => texImage2D s image
  | .texParameteri target pname param => texParameteri target pname param
  | .generateMipmap target => generateMipmap target
  | .shaderSource shader sources => submit id (.shaderSource shader sources)
  | .compileShader shader => submit id (.compileShader shader)
  | .attachShader program shader => submit id (.attachShader program shader)
  | .linkProgram program => dropLocations program (.linkProgram program)
  | .useProgram program => useProgram s program
  | .deleteProgram program => dropLocations program (.deleteProgram program)
  | .enableVertexAttribArray index => setAttribArray s index true
  | .disableVertexAttribArray index => setAttribArray s index false
  | .vertexAttribPointer index pointer => vertexAttribPointer s index pointer
  | .drawArrays mode first count => drawArrays mode first count
  | .drawElements mode count type offset => drawElements mode count type offset
  | .clear mask => clear mask
  | .flush => submit id .flush
  | .finish => submit id .finish
  | _ => rest

end RenderRelay.Plan
