import RenderRelay.Command
import RenderRelay.EntryPoint
import RenderRelay.Wire.Field

/-!
# Driver calls

A call of an entry point with its arguments, and what it answers. Object
names are the driver's. Where a function fills an array, the call carries the
array as the caller passes it, and the answer is the array after the call.
-/

set_option autoImplicit false

namespace RenderRelay

open Wire (Field Arguments)

inductive Call where
  | getDisplay (native : NativeDisplay)
  | initDisplay (display : Display)
  | terminateDisplay (display : Display)
  | chooseConfig (display : Display) (attribs : List Int32) (max : Int32)
  | createContext (display : Display) (config : Config) (share : Context) (attribs : List Int32)
  | destroyContext (display : Display) (context : Context)
  | createWindowSurface (display : Display) (config : Config) (window : NativeWindow)
      (attribs : List Int32)
  | createPbufferSurface (display : Display) (config : Config) (attribs : List Int32)
  | destroySurface (display : Display) (surface : Surface)
  | makeCurrent (display : Display) (draw read : Surface) (context : Context)
  | releaseThread
  | swapBuffers (display : Display) (surface : Surface)
  | eglGetError
  | getError
  | activeTexture (texture : Enum)
  | blendColor (rgba : Color)
  | blendEquation (mode : Enum)
  | blendEquationSeparate (modes : BlendEquations)
  | blendFunc (src dst : Enum)
  | blendFuncSeparate (factors : BlendFactors)
  | clearColor (rgba : Color)
  | clearDepthf (depth : Single)
  | clearStencil (value : Int32)
  | colorMask (mask : ChannelMask)
  | cullFace (mode : Enum)
  | depthFunc (func : Enum)
  | depthMask (flag : Bool)
  | depthRangef (range : DepthRange)
  | enable (cap : Enum)
  | disable (cap : Enum)
  | isEnabled (cap : Enum)
  | frontFace (mode : Enum)
  | hint (target mode : Enum)
  | lineWidth (width : Single)
  | pixelStorei (pname : Enum) (param : Int32)
  | polygonOffset (offset : PolygonOffset)
  | sampleCoverage (coverage : SampleCoverage)
  | scissor (box : Rect)
  | viewport (box : Rect)
  | stencilFuncSeparate (face : Enum) (test : StencilTest)
  | stencilMaskSeparate (face : Enum) (mask : UInt32)
  | stencilOpSeparate (face : Enum) (actions : StencilActions)
  | getIntegerv (pname : Enum) (values : List Int32)
  | bind (cls : ObjectClass) (target : Enum) (name : UInt32)
  | generate (cls : ObjectClass) (names : List UInt32)
  | delete (cls : ObjectClass) (names : List UInt32)
  | bufferData (target : Enum) (size : Int64) (data : Option Bytes) (usage : Enum)
  | bufferSubData (target : Enum) (offset : Int64) (data : Bytes)
  | texImage2D (image : TexImage)
  | texParameteri (target pname : Enum) (param : Int32)
  | generateMipmap (target : Enum)
  | checkFramebufferStatus (target : Enum)
  | createShader (kind : Enum)
  | shaderSource (shader : UInt32) (sources : List String)
  | compileShader (shader : UInt32)
  | createProgram
  | attachShader (program shader : UInt32)
  | linkProgram (program : UInt32)
  | useProgram (program : UInt32)
  | deleteProgram (program : UInt32)
  | location (kind : LocationKind) (program : UInt32) (name : String)
  | enableVertexAttribArray (index : UInt32)
  | disableVertexAttribArray (index : UInt32)
  | vertexAttribPointer (index : UInt32) (pointer : AttribPointer)
  | drawArrays (mode : Enum) (first count : Int32)
  | drawElements (mode : Enum) (count : Int32) (type : Enum) (offset : UInt64)
  | clear (mask : UInt32)
  | flush
  | finish
  deriving DecidableEq, Repr

/-- What kind of value an entry point answers with. -/
inductive AnswerKind where
  | nothing | flag | enum | int | name | display | context | surface | version | configs | names
  | values
  deriving DecidableEq, Repr

@[reducible] def AnswerKind.Value : AnswerKind → Type
  | nothing => Unit
  | flag => Bool
  | enum => Enum
  | int => Int32
  | name => UInt32
  | display => Display
  | context => Context
  | surface => Surface
  | version => Option (Int32 × Int32)
  | configs => Option (List Config)
  | names => List UInt32
  | values => List Int32

namespace EntryPoint

@[reducible] def answer : EntryPoint → AnswerKind
  | eglGetDisplay => .display
  | eglInitialize => .version
  | eglTerminate | eglDestroyContext | eglDestroySurface | eglMakeCurrent | eglReleaseThread
  | eglSwapBuffers | isEnabled => .flag
  | eglChooseConfig => .configs
  | eglCreateContext => .context
  | eglCreateWindowSurface | eglCreatePbufferSurface => .surface
  | eglGetError | location _ => .int
  | getError | checkFramebufferStatus => .enum
  | createProgram | createShader => .name
  | generate _ => .names
  | getIntegerv => .values
  | _ => .nothing

/-- The fields of the arguments, in order. -/
@[reducible] def signature : EntryPoint → List Field
  | eglReleaseThread | eglGetError | eglGetProcAddress | getError | createProgram | finish
  | flush => []
  | eglGetDisplay | eglInitialize | eglTerminate => [.wide]
  | eglChooseConfig => [.wide, .ints, .int]
  | eglCreateContext => [.wide, .wide, .wide, .ints]
  | eglDestroyContext | eglDestroySurface | eglSwapBuffers => [.wide, .wide]
  | eglCreateWindowSurface => [.wide, .wide, .wide, .ints]
  | eglCreatePbufferSurface => [.wide, .wide, .ints]
  | eglMakeCurrent => [.wide, .wide, .wide, .wide]
  | activeTexture | blendEquation | checkFramebufferStatus | clear | compileShader | createShader
  | cullFace | deleteProgram | depthFunc | disable | disableVertexAttribArray | enable
  | enableVertexAttribArray | frontFace | generateMipmap | isEnabled | linkProgram
  | useProgram => [.word]
  | attachShader | blendEquationSeparate | blendFunc | hint | stencilMaskSeparate
  | bind _ => [.word, .word]
  | blendColor | clearColor => [.single, .single, .single, .single]
  | blendFuncSeparate | stencilOpSeparate => [.word, .word, .word, .word]
  | bufferData => [.word, .long, .optionalBlob, .word]
  | bufferSubData => [.word, .long, .blob]
  | clearDepthf | lineWidth => [.single]
  | clearStencil => [.int]
  | colorMask => [.flag, .flag, .flag, .flag]
  | depthMask => [.flag]
  | depthRangef | polygonOffset => [.single, .single]
  | drawArrays => [.word, .int, .int]
  | drawElements => [.word, .int, .word, .wide]
  | getIntegerv => [.word, .ints]
  | pixelStorei => [.word, .int]
  | sampleCoverage => [.single, .flag]
  | scissor | viewport => [.int, .int, .int, .int]
  | shaderSource => [.word, .texts]
  | stencilFuncSeparate => [.word, .word, .int, .word]
  | texImage2D =>
    [.word, .int, .int, .int, .int, .int, .word, .word, .optionalBlob]
  | texParameteri => [.word, .word, .int]
  | vertexAttribPointer => [.word, .int, .word, .flag, .int, .wide]
  | generate _ | delete _ => [.words]
  | location _ => [.word, .text]

end EntryPoint

namespace Call

@[reducible] def entry : Call → EntryPoint
  | getDisplay _ => .eglGetDisplay
  | initDisplay _ => .eglInitialize
  | terminateDisplay _ => .eglTerminate
  | chooseConfig .. => .eglChooseConfig
  | createContext .. => .eglCreateContext
  | destroyContext .. => .eglDestroyContext
  | createWindowSurface .. => .eglCreateWindowSurface
  | createPbufferSurface .. => .eglCreatePbufferSurface
  | destroySurface .. => .eglDestroySurface
  | makeCurrent .. => .eglMakeCurrent
  | releaseThread => .eglReleaseThread
  | swapBuffers .. => .eglSwapBuffers
  | eglGetError => .eglGetError
  | getError => .getError
  | activeTexture _ => .activeTexture
  | blendColor _ => .blendColor
  | blendEquation _ => .blendEquation
  | blendEquationSeparate _ => .blendEquationSeparate
  | blendFunc .. => .blendFunc
  | blendFuncSeparate _ => .blendFuncSeparate
  | clearColor _ => .clearColor
  | clearDepthf _ => .clearDepthf
  | clearStencil _ => .clearStencil
  | colorMask _ => .colorMask
  | cullFace _ => .cullFace
  | depthFunc _ => .depthFunc
  | depthMask _ => .depthMask
  | depthRangef _ => .depthRangef
  | enable _ => .enable
  | disable _ => .disable
  | isEnabled _ => .isEnabled
  | frontFace _ => .frontFace
  | hint .. => .hint
  | lineWidth _ => .lineWidth
  | pixelStorei .. => .pixelStorei
  | polygonOffset _ => .polygonOffset
  | sampleCoverage _ => .sampleCoverage
  | scissor _ => .scissor
  | viewport _ => .viewport
  | stencilFuncSeparate .. => .stencilFuncSeparate
  | stencilMaskSeparate .. => .stencilMaskSeparate
  | stencilOpSeparate .. => .stencilOpSeparate
  | getIntegerv .. => .getIntegerv
  | bind cls .. => .bind cls
  | generate cls _ => .generate cls
  | delete cls _ => .delete cls
  | bufferData .. => .bufferData
  | bufferSubData .. => .bufferSubData
  | texImage2D _ => .texImage2D
  | texParameteri .. => .texParameteri
  | generateMipmap _ => .generateMipmap
  | checkFramebufferStatus _ => .checkFramebufferStatus
  | createShader _ => .createShader
  | shaderSource .. => .shaderSource
  | compileShader _ => .compileShader
  | createProgram => .createProgram
  | attachShader .. => .attachShader
  | linkProgram _ => .linkProgram
  | useProgram _ => .useProgram
  | deleteProgram _ => .deleteProgram
  | location kind .. => .location kind
  | enableVertexAttribArray _ => .enableVertexAttribArray
  | disableVertexAttribArray _ => .disableVertexAttribArray
  | vertexAttribPointer .. => .vertexAttribPointer
  | drawArrays .. => .drawArrays
  | drawElements .. => .drawElements
  | clear _ => .clear
  | flush => .flush
  | finish => .finish

abbrev Answer (c : Call) : Type := c.entry.answer.Value

/-- The call of an entry point with given arguments. Symbol lookup is not
something a server asks for, so it has none. -/
def ofArguments? : (e : EntryPoint) → Arguments e.signature → Option Call
  | .eglGetProcAddress, _ => none
  | .eglGetDisplay, (n, ()) => some (getDisplay ⟨n⟩)
  | .eglInitialize, (d, ()) => some (initDisplay ⟨d⟩)
  | .eglTerminate, (d, ()) => some (terminateDisplay ⟨d⟩)
  | .eglChooseConfig, (d, attribs, max, ()) => some (chooseConfig ⟨d⟩ attribs max)
  | .eglCreateContext, (d, c, share, attribs, ()) =>
    some (createContext ⟨d⟩ ⟨c⟩ ⟨share⟩ attribs)
  | .eglDestroyContext, (d, c, ()) => some (destroyContext ⟨d⟩ ⟨c⟩)
  | .eglCreateWindowSurface, (d, c, w, attribs, ()) =>
    some (createWindowSurface ⟨d⟩ ⟨c⟩ ⟨w⟩ attribs)
  | .eglCreatePbufferSurface, (d, c, attribs, ()) => some (createPbufferSurface ⟨d⟩ ⟨c⟩ attribs)
  | .eglDestroySurface, (d, s, ()) => some (destroySurface ⟨d⟩ ⟨s⟩)
  | .eglMakeCurrent, (d, draw, read, c, ()) => some (makeCurrent ⟨d⟩ ⟨draw⟩ ⟨read⟩ ⟨c⟩)
  | .eglReleaseThread, () => some releaseThread
  | .eglSwapBuffers, (d, s, ()) => some (swapBuffers ⟨d⟩ ⟨s⟩)
  | .eglGetError, () => some eglGetError
  | .getError, () => some getError
  | .activeTexture, (t, ()) => some (activeTexture t)
  | .blendColor, (r, g, b, a, ()) => some (blendColor ⟨r, g, b, a⟩)
  | .blendEquation, (m, ()) => some (blendEquation m)
  | .blendEquationSeparate, (rgb, alpha, ()) => some (blendEquationSeparate ⟨rgb, alpha⟩)
  | .blendFunc, (s, d, ()) => some (blendFunc s d)
  | .blendFuncSeparate, (s, d, sa, da, ()) => some (blendFuncSeparate ⟨s, d, sa, da⟩)
  | .clearColor, (r, g, b, a, ()) => some (clearColor ⟨r, g, b, a⟩)
  | .clearDepthf, (d, ()) => some (clearDepthf d)
  | .clearStencil, (n, ()) => some (clearStencil n)
  | .colorMask, (r, g, b, a, ()) => some (colorMask ⟨r, g, b, a⟩)
  | .cullFace, (m, ()) => some (cullFace m)
  | .depthFunc, (f, ()) => some (depthFunc f)
  | .depthMask, (f, ()) => some (depthMask f)
  | .depthRangef, (near, far, ()) => some (depthRangef ⟨near, far⟩)
  | .enable, (c, ()) => some (enable c)
  | .disable, (c, ()) => some (disable c)
  | .isEnabled, (c, ()) => some (isEnabled c)
  | .frontFace, (m, ()) => some (frontFace m)
  | .hint, (t, m, ()) => some (hint t m)
  | .lineWidth, (w, ()) => some (lineWidth w)
  | .pixelStorei, (p, n, ()) => some (pixelStorei p n)
  | .polygonOffset, (f, u, ()) => some (polygonOffset ⟨f, u⟩)
  | .sampleCoverage, (v, i, ()) => some (sampleCoverage ⟨v, i⟩)
  | .scissor, (x, y, w, h, ()) => some (scissor ⟨x, y, w, h⟩)
  | .viewport, (x, y, w, h, ()) => some (viewport ⟨x, y, w, h⟩)
  | .stencilFuncSeparate, (face, f, r, m, ()) => some (stencilFuncSeparate face ⟨f, r, m⟩)
  | .stencilMaskSeparate, (face, m, ()) => some (stencilMaskSeparate face m)
  | .stencilOpSeparate, (face, f, zf, zp, ()) => some (stencilOpSeparate face ⟨f, zf, zp⟩)
  | .getIntegerv, (p, values, ()) => some (getIntegerv p values)
  | .bind cls, (t, n, ()) => some (bind cls t n)
  | .generate cls, (names, ()) => some (generate cls names)
  | .delete cls, (names, ()) => some (delete cls names)
  | .bufferData, (t, size, data, usage, ()) => some (bufferData t size data usage)
  | .bufferSubData, (t, offset, data, ()) => some (bufferSubData t offset data)
  | .texImage2D, (t, level, internal, w, h, border, format, type, pixels, ()) =>
    some (texImage2D ⟨t, level, internal, w, h, border, format, type, pixels⟩)
  | .texParameteri, (t, p, n, ()) => some (texParameteri t p n)
  | .generateMipmap, (t, ()) => some (generateMipmap t)
  | .checkFramebufferStatus, (t, ()) => some (checkFramebufferStatus t)
  | .createShader, (k, ()) => some (createShader k)
  | .shaderSource, (s, sources, ()) => some (shaderSource s sources)
  | .compileShader, (s, ()) => some (compileShader s)
  | .createProgram, () => some createProgram
  | .attachShader, (p, s, ()) => some (attachShader p s)
  | .linkProgram, (p, ()) => some (linkProgram p)
  | .useProgram, (p, ()) => some (useProgram p)
  | .deleteProgram, (p, ()) => some (deleteProgram p)
  | .location kind, (p, name, ()) => some (location kind p name)
  | .enableVertexAttribArray, (i, ()) => some (enableVertexAttribArray i)
  | .disableVertexAttribArray, (i, ()) => some (disableVertexAttribArray i)
  | .vertexAttribPointer, (i, size, type, normalized, stride, offset, ()) =>
    some (vertexAttribPointer i ⟨size, type, normalized, stride, offset⟩)
  | .drawArrays, (m, first, count, ()) => some (drawArrays m first count)
  | .drawElements, (m, count, type, offset, ()) => some (drawElements m count type offset)
  | .clear, (m, ()) => some (clear m)
  | .flush, () => some flush
  | .finish, () => some finish

def arguments : (c : Call) → Arguments c.entry.signature
  | getDisplay ⟨n⟩ => (n, ())
  | initDisplay ⟨d⟩ => (d, ())
  | terminateDisplay ⟨d⟩ => (d, ())
  | chooseConfig ⟨d⟩ attribs max => (d, attribs, max, ())
  | createContext ⟨d⟩ ⟨c⟩ ⟨share⟩ attribs => (d, c, share, attribs, ())
  | destroyContext ⟨d⟩ ⟨c⟩ => (d, c, ())
  | createWindowSurface ⟨d⟩ ⟨c⟩ ⟨w⟩ attribs => (d, c, w, attribs, ())
  | createPbufferSurface ⟨d⟩ ⟨c⟩ attribs => (d, c, attribs, ())
  | destroySurface ⟨d⟩ ⟨s⟩ => (d, s, ())
  | makeCurrent ⟨d⟩ ⟨draw⟩ ⟨read⟩ ⟨c⟩ => (d, draw, read, c, ())
  | releaseThread => ()
  | swapBuffers ⟨d⟩ ⟨s⟩ => (d, s, ())
  | eglGetError => ()
  | getError => ()
  | activeTexture t => (t, ())
  | blendColor ⟨r, g, b, a⟩ => (r, g, b, a, ())
  | blendEquation m => (m, ())
  | blendEquationSeparate ⟨rgb, alpha⟩ => (rgb, alpha, ())
  | blendFunc s d => (s, d, ())
  | blendFuncSeparate ⟨s, d, sa, da⟩ => (s, d, sa, da, ())
  | clearColor ⟨r, g, b, a⟩ => (r, g, b, a, ())
  | clearDepthf d => (d, ())
  | clearStencil n => (n, ())
  | colorMask ⟨r, g, b, a⟩ => (r, g, b, a, ())
  | cullFace m => (m, ())
  | depthFunc f => (f, ())
  | depthMask f => (f, ())
  | depthRangef ⟨near, far⟩ => (near, far, ())
  | enable c => (c, ())
  | disable c => (c, ())
  | isEnabled c => (c, ())
  | frontFace m => (m, ())
  | hint t m => (t, m, ())
  | lineWidth w => (w, ())
  | pixelStorei p n => (p, n, ())
  | polygonOffset ⟨f, u⟩ => (f, u, ())
  | sampleCoverage ⟨v, i⟩ => (v, i, ())
  | scissor ⟨x, y, w, h⟩ => (x, y, w, h, ())
  | viewport ⟨x, y, w, h⟩ => (x, y, w, h, ())
  | stencilFuncSeparate face ⟨f, r, m⟩ => (face, f, r, m, ())
  | stencilMaskSeparate face m => (face, m, ())
  | stencilOpSeparate face ⟨f, zf, zp⟩ => (face, f, zf, zp, ())
  | getIntegerv p values => (p, values, ())
  | bind _ t n => (t, n, ())
  | generate _ names => (names, ())
  | delete _ names => (names, ())
  | bufferData t size data usage => (t, size, data, usage, ())
  | bufferSubData t offset data => (t, offset, data, ())
  | texImage2D ⟨t, level, internal, w, h, border, format, type, pixels⟩ =>
    (t, level, internal, w, h, border, format, type, pixels, ())
  | texParameteri t p n => (t, p, n, ())
  | generateMipmap t => (t, ())
  | checkFramebufferStatus t => (t, ())
  | createShader k => (k, ())
  | shaderSource s sources => (s, sources, ())
  | compileShader s => (s, ())
  | createProgram => ()
  | attachShader p s => (p, s, ())
  | linkProgram p => (p, ())
  | useProgram p => (p, ())
  | deleteProgram p => (p, ())
  | location _ p name => (p, name, ())
  | enableVertexAttribArray i => (i, ())
  | disableVertexAttribArray i => (i, ())
  | vertexAttribPointer i ⟨size, type, normalized, stride, offset⟩ =>
    (i, size, type, normalized, stride, offset, ())
  | drawArrays m first count => (m, first, count, ())
  | drawElements m count type offset => (m, count, type, offset, ())
  | clear m => (m, ())
  | flush => ()
  | finish => ()

theorem ofArguments?_arguments (c : Call) : ofArguments? c.entry c.arguments = some c := by
  cases c <;> rfl

end Call

end RenderRelay
