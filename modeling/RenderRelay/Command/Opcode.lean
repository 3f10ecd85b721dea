import RenderRelay.Command
import RenderRelay.Wire.Field

/-!
# Opcodes

The number that identifies a command on the wire, and the fields of its
payload. A command is an opcode with arguments of these fields: `ofArguments`
and `arguments` are inverse to each other.
-/

set_option autoImplicit false

namespace RenderRelay

open Wire (Field Arguments)

inductive Opcode where
  | nop | shutdown | getDisplay | initDisplay | terminateDisplay | chooseConfig | createContext
  | destroyContext | createWindowSurface | createPbufferSurface | destroySurface | makeCurrent
  | releaseThread | swapBuffers | eglGetError | getError | activeTexture | blendColor
  | blendEquation | blendEquationSeparate | blendFunc | blendFuncSeparate | clearColor
  | clearDepthf | clearStencil | colorMask | cullFace | depthFunc | depthMask | depthRangef
  | enable | disable | frontFace | hint | lineWidth | pixelStorei | polygonOffset
  | sampleCoverage | scissor | viewport | stencilFunc | stencilFuncSeparate | stencilMask
  | stencilMaskSeparate | stencilOp | stencilOpSeparate | bindBuffer | bindTexture
  | bindFramebuffer | bindRenderbuffer | genBuffers | genTextures | genFramebuffers
  | genRenderbuffers | deleteBuffers | deleteTextures | deleteFramebuffers | deleteRenderbuffers
  | bufferData | bufferSubData | texImage2D | texParameteri | generateMipmap
  | checkFramebufferStatus | createShader | shaderSource | compileShader | createProgram
  | attachShader | linkProgram | useProgram | deleteProgram | getAttribLocation
  | getUniformLocation | enableVertexAttribArray | disableVertexAttribArray | vertexAttribPointer
  | drawArrays | drawElements | clear | flush | finish | getIntegerv | isEnabled
  deriving DecidableEq, Repr

namespace Opcode

/-- All opcodes, in the order of their numbers. -/
def all : List Opcode :=
  [.nop, .shutdown, .getDisplay, .initDisplay, .terminateDisplay, .chooseConfig, .createContext,
   .destroyContext, .createWindowSurface, .createPbufferSurface, .destroySurface, .makeCurrent,
   .releaseThread, .swapBuffers, .eglGetError, .getError, .activeTexture, .blendColor,
   .blendEquation, .blendEquationSeparate, .blendFunc, .blendFuncSeparate, .clearColor,
   .clearDepthf, .clearStencil, .colorMask, .cullFace, .depthFunc, .depthMask, .depthRangef,
   .enable, .disable, .frontFace, .hint, .lineWidth, .pixelStorei, .polygonOffset,
   .sampleCoverage, .scissor, .viewport, .stencilFunc, .stencilFuncSeparate, .stencilMask,
   .stencilMaskSeparate, .stencilOp, .stencilOpSeparate, .bindBuffer, .bindTexture,
   .bindFramebuffer, .bindRenderbuffer, .genBuffers, .genTextures, .genFramebuffers,
   .genRenderbuffers, .deleteBuffers, .deleteTextures, .deleteFramebuffers, .deleteRenderbuffers,
   .bufferData, .bufferSubData, .texImage2D, .texParameteri, .generateMipmap,
   .checkFramebufferStatus, .createShader, .shaderSource, .compileShader, .createProgram,
   .attachShader, .linkProgram, .useProgram, .deleteProgram, .getAttribLocation,
   .getUniformLocation, .enableVertexAttribArray, .disableVertexAttribArray,
   .vertexAttribPointer, .drawArrays, .drawElements, .clear, .flush, .finish, .getIntegerv,
   .isEnabled]

def number : Opcode → UInt32
  | nop => 0x0000
  | shutdown => 0x0001
  | getDisplay => 0x0100
  | initDisplay => 0x0101
  | terminateDisplay => 0x0102
  | chooseConfig => 0x0103
  | createContext => 0x0104
  | destroyContext => 0x0105
  | createWindowSurface => 0x0106
  | createPbufferSurface => 0x0107
  | destroySurface => 0x0108
  | makeCurrent => 0x0109
  | releaseThread => 0x010A
  | swapBuffers => 0x010B
  | eglGetError => 0x010C
  | getError => 0x0200
  | activeTexture => 0x0201
  | blendColor => 0x0202
  | blendEquation => 0x0203
  | blendEquationSeparate => 0x0204
  | blendFunc => 0x0205
  | blendFuncSeparate => 0x0206
  | clearColor => 0x0207
  | clearDepthf => 0x0208
  | clearStencil => 0x0209
  | colorMask => 0x020A
  | cullFace => 0x020B
  | depthFunc => 0x020C
  | depthMask => 0x020D
  | depthRangef => 0x020E
  | enable => 0x020F
  | disable => 0x0210
  | frontFace => 0x0211
  | hint => 0x0212
  | lineWidth => 0x0213
  | pixelStorei => 0x0214
  | polygonOffset => 0x0215
  | sampleCoverage => 0x0216
  | scissor => 0x0217
  | viewport => 0x0218
  | stencilFunc => 0x0219
  | stencilFuncSeparate => 0x021A
  | stencilMask => 0x021B
  | stencilMaskSeparate => 0x021C
  | stencilOp => 0x021D
  | stencilOpSeparate => 0x021E
  | bindBuffer => 0x0300
  | bindTexture => 0x0301
  | bindFramebuffer => 0x0302
  | bindRenderbuffer => 0x0303
  | genBuffers => 0x0304
  | genTextures => 0x0305
  | genFramebuffers => 0x0306
  | genRenderbuffers => 0x0307
  | deleteBuffers => 0x0308
  | deleteTextures => 0x0309
  | deleteFramebuffers => 0x030A
  | deleteRenderbuffers => 0x030B
  | bufferData => 0x030C
  | bufferSubData => 0x030D
  | texImage2D => 0x030E
  | texParameteri => 0x030F
  | generateMipmap => 0x0310
  | checkFramebufferStatus => 0x0311
  | createShader => 0x0400
  | shaderSource => 0x0401
  | compileShader => 0x0402
  | createProgram => 0x0403
  | attachShader => 0x0404
  | linkProgram => 0x0405
  | useProgram => 0x0406
  | deleteProgram => 0x0407
  | getAttribLocation => 0x0408
  | getUniformLocation => 0x0409
  | enableVertexAttribArray => 0x0500
  | disableVertexAttribArray => 0x0501
  | vertexAttribPointer => 0x0502
  | drawArrays => 0x0503
  | drawElements => 0x0504
  | clear => 0x0505
  | flush => 0x0506
  | finish => 0x0507
  | getIntegerv => 0x0600
  | isEnabled => 0x0601

/-- The name under which the opcode is reported. -/
def name : Opcode → String
  | nop => "Nop"
  | shutdown => "Shutdown"
  | getDisplay => "GetDisplay"
  | initDisplay => "Initialize"
  | terminateDisplay => "Terminate"
  | chooseConfig => "ChooseConfig"
  | createContext => "CreateContext"
  | destroyContext => "DestroyContext"
  | createWindowSurface => "CreateWindowSurface"
  | createPbufferSurface => "CreatePbufferSurface"
  | destroySurface => "DestroySurface"
  | makeCurrent => "MakeCurrent"
  | releaseThread => "ReleaseThread"
  | swapBuffers => "SwapBuffers"
  | eglGetError => "EglGetError"
  | getError => "GetError"
  | activeTexture => "ActiveTexture"
  | blendColor => "BlendColor"
  | blendEquation => "BlendEquation"
  | blendEquationSeparate => "BlendEquationSeparate"
  | blendFunc => "BlendFunc"
  | blendFuncSeparate => "BlendFuncSeparate"
  | clearColor => "ClearColor"
  | clearDepthf => "ClearDepthf"
  | clearStencil => "ClearStencil"
  | colorMask => "ColorMask"
  | cullFace => "CullFace"
  | depthFunc => "DepthFunc"
  | depthMask => "DepthMask"
  | depthRangef => "DepthRangef"
  | enable => "Enable"
  | disable => "Disable"
  | frontFace => "FrontFace"
  | hint => "Hint"
  | lineWidth => "LineWidth"
  | pixelStorei => "PixelStorei"
  | polygonOffset => "PolygonOffset"
  | sampleCoverage => "SampleCoverage"
  | scissor => "Scissor"
  | viewport => "Viewport"
  | stencilFunc => "StencilFunc"
  | stencilFuncSeparate => "StencilFuncSeparate"
  | stencilMask => "StencilMask"
  | stencilMaskSeparate => "StencilMaskSeparate"
  | stencilOp => "StencilOp"
  | stencilOpSeparate => "StencilOpSeparate"
  | bindBuffer => "BindBuffer"
  | bindTexture => "BindTexture"
  | bindFramebuffer => "BindFramebuffer"
  | bindRenderbuffer => "BindRenderbuffer"
  | genBuffers => "GenBuffers"
  | genTextures => "GenTextures"
  | genFramebuffers => "GenFramebuffers"
  | genRenderbuffers => "GenRenderbuffers"
  | deleteBuffers => "DeleteBuffers"
  | deleteTextures => "DeleteTextures"
  | deleteFramebuffers => "DeleteFramebuffers"
  | deleteRenderbuffers => "DeleteRenderbuffers"
  | bufferData => "BufferData"
  | bufferSubData => "BufferSubData"
  | texImage2D => "TexImage2D"
  | texParameteri => "TexParameteri"
  | generateMipmap => "GenerateMipmap"
  | checkFramebufferStatus => "CheckFramebufferStatus"
  | createShader => "CreateShader"
  | shaderSource => "ShaderSource"
  | compileShader => "CompileShader"
  | createProgram => "CreateProgram"
  | attachShader => "AttachShader"
  | linkProgram => "LinkProgram"
  | useProgram => "UseProgram"
  | deleteProgram => "DeleteProgram"
  | getAttribLocation => "GetAttribLocation"
  | getUniformLocation => "GetUniformLocation"
  | enableVertexAttribArray => "EnableVertexAttribArray"
  | disableVertexAttribArray => "DisableVertexAttribArray"
  | vertexAttribPointer => "VertexAttribPointer"
  | drawArrays => "DrawArrays"
  | drawElements => "DrawElements"
  | clear => "Clear"
  | flush => "Flush"
  | finish => "Finish"
  | getIntegerv => "GetIntegerv"
  | isEnabled => "IsEnabled"

def ofNumber? (n : UInt32) : Option Opcode := all.find? (·.number == n)

theorem mem_all (op : Opcode) : op ∈ all := by cases op <;> decide

theorem ofNumber?_number (op : Opcode) : ofNumber? op.number = some op := by cases op <;> rfl

theorem number_of_ofNumber? {n : UInt32} {op : Opcode} (h : ofNumber? n = some op) :
    op.number = n := by
  simpa using List.find?_some h

theorem number_injective {a b : Opcode} (h : a.number = b.number) : a = b := by
  have := congrArg ofNumber? h
  simpa [ofNumber?_number] using this

/-- The fields of the payload, in order. -/
@[reducible] def signature : Opcode → List Field
  | nop | shutdown | releaseThread | eglGetError | getError | createProgram | flush
  | finish => []
  | getDisplay | initDisplay | terminateDisplay => [.wide]
  | chooseConfig => [.wide, .ints, .int]
  | createContext | createWindowSurface => [.wide, .wide, .wide, .ints]
  | destroyContext | destroySurface | swapBuffers => [.wide, .wide]
  | createPbufferSurface => [.wide, .wide, .ints]
  | makeCurrent => [.wide, .wide, .wide, .wide]
  | activeTexture | blendEquation | cullFace | depthFunc | enable | disable | frontFace
  | stencilMask | generateMipmap | checkFramebufferStatus | createShader | compileShader
  | linkProgram | useProgram | deleteProgram | enableVertexAttribArray
  | disableVertexAttribArray | clear | getIntegerv | isEnabled => [.word]
  | blendColor | clearColor => [.color]
  | blendEquationSeparate | blendFunc | hint | stencilMaskSeparate | bindBuffer
  | bindTexture | bindFramebuffer | bindRenderbuffer | attachShader => [.word, .word]
  | blendFuncSeparate | stencilOpSeparate => [.word, .word, .word, .word]
  | clearDepthf | lineWidth => [.single]
  | clearStencil => [.int]
  | colorMask => [.mask]
  | depthMask => [.flag]
  | depthRangef | polygonOffset => [.single, .single]
  | pixelStorei => [.word, .int]
  | sampleCoverage => [.single, .flag]
  | scissor | viewport => [.int, .int, .int, .int]
  | stencilFunc => [.word, .int, .word]
  | stencilFuncSeparate => [.word, .word, .int, .word]
  | stencilOp => [.word, .word, .word]
  | genBuffers | genTextures | genFramebuffers | genRenderbuffers | deleteBuffers
  | deleteTextures | deleteFramebuffers | deleteRenderbuffers => [.words]
  | bufferData => [.word, .optionalBlob, .long, .word]
  | bufferSubData => [.word, .long, .blob]
  | texImage2D => [.word, .int, .int, .int, .int, .int, .word, .word, .optionalBlob]
  | texParameteri => [.word, .word, .int]
  | shaderSource => [.word, .texts]
  | getAttribLocation | getUniformLocation => [.word, .text]
  | vertexAttribPointer => [.word, .int, .word, .flag, .int, .wide]
  | drawArrays => [.word, .int, .int]
  | drawElements => [.word, .int, .word, .wide]

end Opcode

namespace Command

def opcode : Command → Opcode
  | nop => .nop
  | shutdown => .shutdown
  | getDisplay .. => .getDisplay
  | initDisplay .. => .initDisplay
  | terminateDisplay .. => .terminateDisplay
  | chooseConfig .. => .chooseConfig
  | createContext .. => .createContext
  | destroyContext .. => .destroyContext
  | createWindowSurface .. => .createWindowSurface
  | createPbufferSurface .. => .createPbufferSurface
  | destroySurface .. => .destroySurface
  | makeCurrent .. => .makeCurrent
  | releaseThread => .releaseThread
  | swapBuffers .. => .swapBuffers
  | eglGetError => .eglGetError
  | getError => .getError
  | activeTexture .. => .activeTexture
  | blendColor .. => .blendColor
  | blendEquation .. => .blendEquation
  | blendEquationSeparate .. => .blendEquationSeparate
  | blendFunc .. => .blendFunc
  | blendFuncSeparate .. => .blendFuncSeparate
  | clearColor .. => .clearColor
  | clearDepthf .. => .clearDepthf
  | clearStencil .. => .clearStencil
  | colorMask .. => .colorMask
  | cullFace .. => .cullFace
  | depthFunc .. => .depthFunc
  | depthMask .. => .depthMask
  | depthRangef .. => .depthRangef
  | enable .. => .enable
  | disable .. => .disable
  | frontFace .. => .frontFace
  | hint .. => .hint
  | lineWidth .. => .lineWidth
  | pixelStorei .. => .pixelStorei
  | polygonOffset .. => .polygonOffset
  | sampleCoverage .. => .sampleCoverage
  | scissor .. => .scissor
  | viewport .. => .viewport
  | stencilFunc .. => .stencilFunc
  | stencilFuncSeparate .. => .stencilFuncSeparate
  | stencilMask .. => .stencilMask
  | stencilMaskSeparate .. => .stencilMaskSeparate
  | stencilOp .. => .stencilOp
  | stencilOpSeparate .. => .stencilOpSeparate
  | bindBuffer .. => .bindBuffer
  | bindTexture .. => .bindTexture
  | bindFramebuffer .. => .bindFramebuffer
  | bindRenderbuffer .. => .bindRenderbuffer
  | genBuffers .. => .genBuffers
  | genTextures .. => .genTextures
  | genFramebuffers .. => .genFramebuffers
  | genRenderbuffers .. => .genRenderbuffers
  | deleteBuffers .. => .deleteBuffers
  | deleteTextures .. => .deleteTextures
  | deleteFramebuffers .. => .deleteFramebuffers
  | deleteRenderbuffers .. => .deleteRenderbuffers
  | bufferData .. => .bufferData
  | bufferSubData .. => .bufferSubData
  | texImage2D .. => .texImage2D
  | texParameteri .. => .texParameteri
  | generateMipmap .. => .generateMipmap
  | checkFramebufferStatus .. => .checkFramebufferStatus
  | createShader .. => .createShader
  | shaderSource .. => .shaderSource
  | compileShader .. => .compileShader
  | createProgram => .createProgram
  | attachShader .. => .attachShader
  | linkProgram .. => .linkProgram
  | useProgram .. => .useProgram
  | deleteProgram .. => .deleteProgram
  | getAttribLocation .. => .getAttribLocation
  | getUniformLocation .. => .getUniformLocation
  | enableVertexAttribArray .. => .enableVertexAttribArray
  | disableVertexAttribArray .. => .disableVertexAttribArray
  | vertexAttribPointer .. => .vertexAttribPointer
  | drawArrays .. => .drawArrays
  | drawElements .. => .drawElements
  | clear .. => .clear
  | flush => .flush
  | finish => .finish
  | getIntegerv .. => .getIntegerv
  | isEnabled .. => .isEnabled

def ofArguments : (op : Opcode) → Arguments op.signature → Command
  | .nop, () => .nop
  | .shutdown, () => .shutdown
  | .getDisplay, (n, ()) => .getDisplay ⟨n⟩
  | .initDisplay, (d, ()) => .initDisplay ⟨d⟩
  | .terminateDisplay, (d, ()) => .terminateDisplay ⟨d⟩
  | .chooseConfig, (d, as, max, ()) => .chooseConfig ⟨d⟩ as max
  | .createContext, (d, g, h, as, ()) => .createContext ⟨d⟩ ⟨g⟩ ⟨h⟩ as
  | .destroyContext, (d, c, ()) => .destroyContext ⟨d⟩ ⟨c⟩
  | .createWindowSurface, (d, g, w, as, ()) => .createWindowSurface ⟨d⟩ ⟨g⟩ ⟨w⟩ as
  | .createPbufferSurface, (d, g, as, ()) => .createPbufferSurface ⟨d⟩ ⟨g⟩ as
  | .destroySurface, (d, s, ()) => .destroySurface ⟨d⟩ ⟨s⟩
  | .makeCurrent, (d, draw, read, c, ()) => .makeCurrent ⟨d⟩ ⟨draw⟩ ⟨read⟩ ⟨c⟩
  | .releaseThread, () => .releaseThread
  | .swapBuffers, (d, s, ()) => .swapBuffers ⟨d⟩ ⟨s⟩
  | .eglGetError, () => .eglGetError
  | .getError, () => .getError
  | .activeTexture, (texture, ()) => .activeTexture texture
  | .blendColor, (rgba, ()) => .blendColor rgba
  | .blendEquation, (mode, ()) => .blendEquation mode
  | .blendEquationSeparate, (rgb, alpha, ()) => .blendEquationSeparate rgb alpha
  | .blendFunc, (src, dst, ()) => .blendFunc src dst
  | .blendFuncSeparate, (a, b, c, d, ()) => .blendFuncSeparate ⟨a, b, c, d⟩
  | .clearColor, (rgba, ()) => .clearColor rgba
  | .clearDepthf, (depth, ()) => .clearDepthf depth
  | .clearStencil, (s, ()) => .clearStencil s
  | .colorMask, (mask, ()) => .colorMask mask
  | .cullFace, (mode, ()) => .cullFace mode
  | .depthFunc, (func, ()) => .depthFunc func
  | .depthMask, (flag, ()) => .depthMask flag
  | .depthRangef, (near, far, ()) => .depthRangef near far
  | .enable, (cap, ()) => .enable cap
  | .disable, (cap, ()) => .disable cap
  | .frontFace, (mode, ()) => .frontFace mode
  | .hint, (target, mode, ()) => .hint target mode
  | .lineWidth, (width, ()) => .lineWidth width
  | .pixelStorei, (pname, param, ()) => .pixelStorei pname param
  | .polygonOffset, (factor, units, ()) => .polygonOffset factor units
  | .sampleCoverage, (value, invert, ()) => .sampleCoverage value invert
  | .scissor, (x, y, w, h, ()) => .scissor ⟨x, y, w, h⟩
  | .viewport, (x, y, w, h, ()) => .viewport ⟨x, y, w, h⟩
  | .stencilFunc, (func, ref, mask, ()) => .stencilFunc ⟨func, ref, mask⟩
  | .stencilFuncSeparate, (face, func, ref, mask, ()) =>
    .stencilFuncSeparate face ⟨func, ref, mask⟩
  | .stencilMask, (mask, ()) => .stencilMask mask
  | .stencilMaskSeparate, (face, mask, ()) => .stencilMaskSeparate face mask
  | .stencilOp, (fail, zfail, zpass, ()) => .stencilOp ⟨fail, zfail, zpass⟩
  | .stencilOpSeparate, (face, fail, zfail, zpass, ()) =>
    .stencilOpSeparate face ⟨fail, zfail, zpass⟩
  | .bindBuffer, (target, buffer, ()) => .bindBuffer target buffer
  | .bindTexture, (target, texture, ()) => .bindTexture target texture
  | .bindFramebuffer, (target, framebuffer, ()) => .bindFramebuffer target framebuffer
  | .bindRenderbuffer, (target, renderbuffer, ()) => .bindRenderbuffer target renderbuffer
  | .genBuffers, (names, ()) => .genBuffers names
  | .genTextures, (names, ()) => .genTextures names
  | .genFramebuffers, (names, ()) => .genFramebuffers names
  | .genRenderbuffers, (names, ()) => .genRenderbuffers names
  | .deleteBuffers, (names, ()) => .deleteBuffers names
  | .deleteTextures, (names, ()) => .deleteTextures names
  | .deleteFramebuffers, (names, ()) => .deleteFramebuffers names
  | .deleteRenderbuffers, (names, ()) => .deleteRenderbuffers names
  | .bufferData, (target, data, size, usage, ()) => .bufferData target data size usage
  | .bufferSubData, (target, offset, data, ()) => .bufferSubData target offset data
  | .texImage2D, (target, level, internal, w, h, border, format, type, pixels, ()) =>
    .texImage2D ⟨target, level, internal, w, h, border, format, type, pixels⟩
  | .texParameteri, (target, pname, param, ()) => .texParameteri target pname param
  | .generateMipmap, (target, ()) => .generateMipmap target
  | .checkFramebufferStatus, (target, ()) => .checkFramebufferStatus target
  | .createShader, (kind, ()) => .createShader kind
  | .shaderSource, (shader, sources, ()) => .shaderSource shader sources
  | .compileShader, (shader, ()) => .compileShader shader
  | .createProgram, () => .createProgram
  | .attachShader, (program, shader, ()) => .attachShader program shader
  | .linkProgram, (program, ()) => .linkProgram program
  | .useProgram, (program, ()) => .useProgram program
  | .deleteProgram, (program, ()) => .deleteProgram program
  | .getAttribLocation, (program, name, ()) => .getAttribLocation program name
  | .getUniformLocation, (program, name, ()) => .getUniformLocation program name
  | .enableVertexAttribArray, (index, ()) => .enableVertexAttribArray index
  | .disableVertexAttribArray, (index, ()) => .disableVertexAttribArray index
  | .vertexAttribPointer, (index, size, type, norm, stride, offset, ()) =>
    .vertexAttribPointer index ⟨size, type, norm, stride, offset⟩
  | .drawArrays, (mode, first, count, ()) => .drawArrays mode first count
  | .drawElements, (mode, count, type, offset, ()) => .drawElements mode count type offset
  | .clear, (mask, ()) => .clear mask
  | .flush, () => .flush
  | .finish, () => .finish
  | .getIntegerv, (pname, ()) => .getIntegerv pname
  | .isEnabled, (cap, ()) => .isEnabled cap

def arguments : (c : Command) → Arguments c.opcode.signature
  | .nop => ()
  | .shutdown => ()
  | .getDisplay ⟨n⟩ => (n, ())
  | .initDisplay ⟨d⟩ => (d, ())
  | .terminateDisplay ⟨d⟩ => (d, ())
  | .chooseConfig ⟨d⟩ as max => (d, as, max, ())
  | .createContext ⟨d⟩ ⟨g⟩ ⟨h⟩ as => (d, g, h, as, ())
  | .destroyContext ⟨d⟩ ⟨c⟩ => (d, c, ())
  | .createWindowSurface ⟨d⟩ ⟨g⟩ ⟨w⟩ as => (d, g, w, as, ())
  | .createPbufferSurface ⟨d⟩ ⟨g⟩ as => (d, g, as, ())
  | .destroySurface ⟨d⟩ ⟨s⟩ => (d, s, ())
  | .makeCurrent ⟨d⟩ ⟨draw⟩ ⟨read⟩ ⟨c⟩ => (d, draw, read, c, ())
  | .releaseThread => ()
  | .swapBuffers ⟨d⟩ ⟨s⟩ => (d, s, ())
  | .eglGetError => ()
  | .getError => ()
  | .activeTexture texture => (texture, ())
  | .blendColor rgba => (rgba, ())
  | .blendEquation mode => (mode, ())
  | .blendEquationSeparate rgb alpha => (rgb, alpha, ())
  | .blendFunc src dst => (src, dst, ())
  | .blendFuncSeparate ⟨a, b, c, d⟩ => (a, b, c, d, ())
  | .clearColor rgba => (rgba, ())
  | .clearDepthf depth => (depth, ())
  | .clearStencil s => (s, ())
  | .colorMask mask => (mask, ())
  | .cullFace mode => (mode, ())
  | .depthFunc func => (func, ())
  | .depthMask flag => (flag, ())
  | .depthRangef near far => (near, far, ())
  | .enable cap => (cap, ())
  | .disable cap => (cap, ())
  | .frontFace mode => (mode, ())
  | .hint target mode => (target, mode, ())
  | .lineWidth width => (width, ())
  | .pixelStorei pname param => (pname, param, ())
  | .polygonOffset factor units => (factor, units, ())
  | .sampleCoverage value invert => (value, invert, ())
  | .scissor ⟨x, y, w, h⟩ => (x, y, w, h, ())
  | .viewport ⟨x, y, w, h⟩ => (x, y, w, h, ())
  | .stencilFunc ⟨func, ref, mask⟩ => (func, ref, mask, ())
  | .stencilFuncSeparate face ⟨func, ref, mask⟩ => (face, func, ref, mask, ())
  | .stencilMask mask => (mask, ())
  | .stencilMaskSeparate face mask => (face, mask, ())
  | .stencilOp ⟨fail, zfail, zpass⟩ => (fail, zfail, zpass, ())
  | .stencilOpSeparate face ⟨fail, zfail, zpass⟩ => (face, fail, zfail, zpass, ())
  | .bindBuffer target buffer => (target, buffer, ())
  | .bindTexture target texture => (target, texture, ())
  | .bindFramebuffer target framebuffer => (target, framebuffer, ())
  | .bindRenderbuffer target renderbuffer => (target, renderbuffer, ())
  | .genBuffers names => (names, ())
  | .genTextures names => (names, ())
  | .genFramebuffers names => (names, ())
  | .genRenderbuffers names => (names, ())
  | .deleteBuffers names => (names, ())
  | .deleteTextures names => (names, ())
  | .deleteFramebuffers names => (names, ())
  | .deleteRenderbuffers names => (names, ())
  | .bufferData target data size usage => (target, data, size, usage, ())
  | .bufferSubData target offset data => (target, offset, data, ())
  | .texImage2D ⟨target, level, internal, w, h, border, format, type, pixels⟩ =>
    (target, level, internal, w, h, border, format, type, pixels, ())
  | .texParameteri target pname param => (target, pname, param, ())
  | .generateMipmap target => (target, ())
  | .checkFramebufferStatus target => (target, ())
  | .createShader kind => (kind, ())
  | .shaderSource shader sources => (shader, sources, ())
  | .compileShader shader => (shader, ())
  | .createProgram => ()
  | .attachShader program shader => (program, shader, ())
  | .linkProgram program => (program, ())
  | .useProgram program => (program, ())
  | .deleteProgram program => (program, ())
  | .getAttribLocation program name => (program, name, ())
  | .getUniformLocation program name => (program, name, ())
  | .enableVertexAttribArray index => (index, ())
  | .disableVertexAttribArray index => (index, ())
  | .vertexAttribPointer index ⟨size, type, norm, stride, offset⟩ =>
    (index, size, type, norm, stride, offset, ())
  | .drawArrays mode first count => (mode, first, count, ())
  | .drawElements mode count type offset => (mode, count, type, offset, ())
  | .clear mask => (mask, ())
  | .flush => ()
  | .finish => ()
  | .getIntegerv pname => (pname, ())
  | .isEnabled cap => (cap, ())

theorem ofArguments_arguments (c : Command) : ofArguments c.opcode c.arguments = c := by
  cases c <;> rfl

theorem opcode_ofArguments (op : Opcode) (a : Arguments op.signature) :
    (ofArguments op a).opcode = op := by
  cases op <;> rfl

theorem arguments_ofArguments (op : Opcode) (a : Arguments op.signature) :
    HEq (ofArguments op a).arguments a := by
  cases op <;> rfl

end Command

end RenderRelay
