import RenderRelay.Handle
import RenderRelay.Scalar

/-!
# Commands

What a client asks for: lifecycle commands of the display system, state
setters, object and program commands, draws and queries. The client waits
for an answer only where `Command.expectsReply` says so.
-/

set_option autoImplicit false

namespace RenderRelay

structure BlendEquations where
  rgb : Enum
  alpha : Enum
  deriving DecidableEq, Repr

structure BlendFactors where
  srcRgb : Enum
  dstRgb : Enum
  srcAlpha : Enum
  dstAlpha : Enum
  deriving DecidableEq, Repr

structure DepthRange where
  near : Single
  far : Single
  deriving DecidableEq, Repr

structure PolygonOffset where
  factor : Single
  units : Single
  deriving DecidableEq, Repr

structure SampleCoverage where
  value : Single
  invert : Bool
  deriving DecidableEq, Repr

structure StencilTest where
  func : Enum
  reference : Int32
  mask : UInt32
  deriving DecidableEq, Repr

structure StencilActions where
  fail : Enum
  zfail : Enum
  zpass : Enum
  deriving DecidableEq, Repr

/-- A two-dimensional texture image. Without `pixels` only storage is asked for. -/
structure TexImage where
  target : Enum
  level : Int32
  internalFormat : Int32
  width : Int32
  height : Int32
  border : Int32
  format : Enum
  type : Enum
  pixels : Option Bytes
  deriving DecidableEq, Repr

/-- Where a vertex attribute is read from, as an offset into the bound buffer. -/
structure AttribPointer where
  size : Int32
  type : Enum
  normalized : Bool
  stride : Int32
  offset : UInt64
  deriving DecidableEq, Repr

inductive Command where
  | nop
  | shutdown
  | getDisplay (native : NativeDisplay)
  | initDisplay (display : Display)
  | terminateDisplay (display : Display)
  | chooseConfig (display : Display) (attribs : List Int32) (max : Int32)
  | createContext (display : Display) (config : Config) (share : Context) (attribs : List Int32)
  | destroyContext (display : Display) (context : Context)
  | createWindowSurface (display : Display) (config : Config) (window : NativeWindow)
      (attribs : List Int32)
  | createPbufferSurface (display : Display) (config : Config) (attribs : List Int32)
  | destroySurface (display : Display) (surface : Surface)
  | makeCurrent (display : Display) (draw read : Surface) (context : Context)
  | releaseThread
  | swapBuffers (display : Display) (surface : Surface)
  | eglGetError
  | getError
  | activeTexture (texture : Enum)
  | blendColor (rgba : Color)
  | blendEquation (mode : Enum)
  | blendEquationSeparate (rgb alpha : Enum)
  | blendFunc (src dst : Enum)
  | blendFuncSeparate (factors : BlendFactors)
  | clearColor (rgba : Color)
  | clearDepthf (depth : Single)
  | clearStencil (value : Int32)
  | colorMask (mask : ChannelMask)
  | cullFace (mode : Enum)
  | depthFunc (func : Enum)
  | depthMask (flag : Bool)
  | depthRangef (near far : Single)
  | enable (cap : Enum)
  | disable (cap : Enum)
  | frontFace (mode : Enum)
  | hint (target mode : Enum)
  | lineWidth (width : Single)
  | pixelStorei (pname : Enum) (param : Int32)
  | polygonOffset (factor units : Single)
  | sampleCoverage (value : Single) (invert : Bool)
  | scissor (box : Rect)
  | viewport (box : Rect)
  | stencilFunc (test : StencilTest)
  | stencilFuncSeparate (face : Enum) (test : StencilTest)
  | stencilMask (mask : UInt32)
  | stencilMaskSeparate (face : Enum) (mask : UInt32)
  | stencilOp (actions : StencilActions)
  | stencilOpSeparate (face : Enum) (actions : StencilActions)
  | bindBuffer (target : Enum) (buffer : UInt32)
  | bindTexture (target : Enum) (texture : UInt32)
  | bindFramebuffer (target : Enum) (framebuffer : UInt32)
  | bindRenderbuffer (target : Enum) (renderbuffer : UInt32)
  | genBuffers (names : List UInt32)
  | genTextures (names : List UInt32)
  | genFramebuffers (names : List UInt32)
  | genRenderbuffers (names : List UInt32)
  | deleteBuffers (names : List UInt32)
  | deleteTextures (names : List UInt32)
  | deleteFramebuffers (names : List UInt32)
  | deleteRenderbuffers (names : List UInt32)
  | bufferData (target : Enum) (data : Option Bytes) (size : Int64) (usage : Enum)
  | bufferSubData (target : Enum) (offset : Int64) (data : Bytes)
  | texImage2D (image : TexImage)
  | texParameteri (target pname : Enum) (param : Int32)
  | generateMipmap (target : Enum)
  | checkFramebufferStatus (target : Enum)
  | createShader (kind : Enum)
  | shaderSource (shader : UInt32) (sources : List String)
  | compileShader (shader : UInt32)
  | createProgram
  | attachShader (program shader : UInt32)
  | linkProgram (program : UInt32)
  | useProgram (program : UInt32)
  | deleteProgram (program : UInt32)
  | getAttribLocation (program : UInt32) (name : String)
  | getUniformLocation (program : UInt32) (name : String)
  | enableVertexAttribArray (index : UInt32)
  | disableVertexAttribArray (index : UInt32)
  | vertexAttribPointer (index : UInt32) (pointer : AttribPointer)
  | drawArrays (mode : Enum) (first count : Int32)
  | drawElements (mode : Enum) (count : Int32) (type : Enum) (offset : UInt64)
  | clear (mask : UInt32)
  | flush
  | finish
  | getIntegerv (pname : Enum)
  | isEnabled (cap : Enum)
  deriving DecidableEq, Repr

namespace Command

/-- Whether the server posts a reply for the command. -/
def expectsReply : Command → Bool
  | getDisplay .. | initDisplay .. | terminateDisplay .. | chooseConfig .. | createContext ..
  | destroyContext .. | createWindowSurface .. | createPbufferSurface .. | destroySurface ..
  | makeCurrent .. | releaseThread | swapBuffers .. | eglGetError | getError
  | checkFramebufferStatus .. | createShader .. | createProgram | getAttribLocation ..
  | getUniformLocation .. | getIntegerv .. | isEnabled .. => true
  | _ => false

end Command

end RenderRelay
