import RenderRelay.NameTable
import RenderRelay.Shadow.Locations

/-!
# Entry points

The functions of the native libraries that a server can call, the symbols
they are found under, and the library that exports them.
-/

set_option autoImplicit false

namespace RenderRelay

inductive EntryPoint where
  | eglGetDisplay | eglInitialize | eglTerminate | eglChooseConfig | eglCreateContext
  | eglDestroyContext | eglCreateWindowSurface | eglCreatePbufferSurface | eglDestroySurface
  | eglMakeCurrent | eglReleaseThread | eglSwapBuffers | eglGetError | eglGetProcAddress
  | getError | activeTexture | attachShader | blendColor | blendEquation | blendEquationSeparate
  | blendFunc | blendFuncSeparate | bufferData | bufferSubData | checkFramebufferStatus | clear
  | clearColor | clearDepthf | clearStencil | colorMask | compileShader | createProgram
  | createShader | cullFace | deleteProgram | depthFunc | depthMask | depthRangef | disable
  | disableVertexAttribArray | drawArrays | drawElements | enable | enableVertexAttribArray
  | finish | flush | frontFace | generateMipmap | getIntegerv | hint | isEnabled | lineWidth
  | linkProgram | pixelStorei | polygonOffset | sampleCoverage | scissor | shaderSource
  | stencilFuncSeparate | stencilMaskSeparate | stencilOpSeparate | texImage2D | texParameteri
  | useProgram | vertexAttribPointer | viewport
  | bind (cls : ObjectClass)
  | generate (cls : ObjectClass)
  | delete (cls : ObjectClass)
  | location (kind : LocationKind)
  deriving DecidableEq, Repr

namespace EntryPoint

/-- The two native libraries. -/
inductive Library where
  | egl
  | gles
  deriving DecidableEq, Repr

/-- All entry points: those of the display library, then those of the rendering library. -/
def all : List EntryPoint :=
  [.eglGetDisplay, .eglInitialize, .eglTerminate, .eglChooseConfig, .eglCreateContext,
   .eglDestroyContext, .eglCreateWindowSurface, .eglCreatePbufferSurface, .eglDestroySurface,
   .eglMakeCurrent, .eglReleaseThread, .eglSwapBuffers, .eglGetError, .eglGetProcAddress,
   .getError, .activeTexture, .attachShader, .bind .buffer, .bind .framebuffer,
   .bind .renderbuffer, .bind .texture, .blendColor, .blendEquation, .blendEquationSeparate,
   .blendFunc, .blendFuncSeparate, .bufferData, .bufferSubData, .checkFramebufferStatus, .clear,
   .clearColor, .clearDepthf, .clearStencil, .colorMask, .compileShader, .createProgram,
   .createShader, .cullFace, .delete .buffer, .delete .framebuffer, .deleteProgram,
   .delete .renderbuffer, .delete .texture, .depthFunc, .depthMask, .depthRangef, .disable,
   .disableVertexAttribArray, .drawArrays, .drawElements, .enable, .enableVertexAttribArray,
   .finish, .flush, .frontFace, .generate .buffer, .generate .framebuffer,
   .generate .renderbuffer, .generate .texture, .generateMipmap, .location .attrib,
   .getIntegerv, .location .uniform, .hint, .isEnabled, .lineWidth, .linkProgram, .pixelStorei,
   .polygonOffset, .sampleCoverage, .scissor, .shaderSource, .stencilFuncSeparate,
   .stencilMaskSeparate, .stencilOpSeparate, .texImage2D, .texParameteri, .useProgram,
   .vertexAttribPointer, .viewport]

def library : EntryPoint → Library
  | eglGetDisplay | eglInitialize | eglTerminate | eglChooseConfig | eglCreateContext
  | eglDestroyContext | eglCreateWindowSurface | eglCreatePbufferSurface | eglDestroySurface
  | eglMakeCurrent | eglReleaseThread | eglSwapBuffers | eglGetError | eglGetProcAddress => .egl
  | _ => .gles

/-- The name without its library's marker. -/
def stem : EntryPoint → String
  | eglGetDisplay => "GetDisplay"
  | eglInitialize => "Initialize"
  | eglTerminate => "Terminate"
  | eglChooseConfig => "ChooseConfig"
  | eglCreateContext => "CreateContext"
  | eglDestroyContext => "DestroyContext"
  | eglCreateWindowSurface => "CreateWindowSurface"
  | eglCreatePbufferSurface => "CreatePbufferSurface"
  | eglDestroySurface => "DestroySurface"
  | eglMakeCurrent => "MakeCurrent"
  | eglReleaseThread => "ReleaseThread"
  | eglSwapBuffers => "SwapBuffers"
  | eglGetError => "GetError"
  | eglGetProcAddress => "GetProcAddress"
  | getError => "GetError"
  | activeTexture => "ActiveTexture"
  | attachShader => "AttachShader"
  | bind .buffer => "BindBuffer"
  | bind .framebuffer => "BindFramebuffer"
  | bind .renderbuffer => "BindRenderbuffer"
  | bind .texture => "BindTexture"
  | blendColor => "BlendColor"
  | blendEquation => "BlendEquation"
  | blendEquationSeparate => "BlendEquationSeparate"
  | blendFunc => "BlendFunc"
  | blendFuncSeparate => "BlendFuncSeparate"
  | bufferData => "BufferData"
  | bufferSubData => "BufferSubData"
  | checkFramebufferStatus => "CheckFramebufferStatus"
  | clear => "Clear"
  | clearColor => "ClearColor"
  | clearDepthf => "ClearDepthf"
  | clearStencil => "ClearStencil"
  | colorMask => "ColorMask"
  | compileShader => "CompileShader"
  | createProgram => "CreateProgram"
  | createShader => "CreateShader"
  | cullFace => "CullFace"
  | delete .buffer => "DeleteBuffers"
  | delete .framebuffer => "DeleteFramebuffers"
  | deleteProgram => "DeleteProgram"
  | delete .renderbuffer => "DeleteRenderbuffers"
  | delete .texture => "DeleteTextures"
  | depthFunc => "DepthFunc"
  | depthMask => "DepthMask"
  | depthRangef => "DepthRangef"
  | disable => "Disable"
  | disableVertexAttribArray => "DisableVertexAttribArray"
  | drawArrays => "DrawArrays"
  | drawElements => "DrawElements"
  | enable => "Enable"
  | enableVertexAttribArray => "EnableVertexAttribArray"
  | finish => "Finish"
  | flush => "Flush"
  | frontFace => "FrontFace"
  | generate .buffer => "GenBuffers"
  | generate .framebuffer => "GenFramebuffers"
  | generate .renderbuffer => "GenRenderbuffers"
  | generate .texture => "GenTextures"
  | generateMipmap => "GenerateMipmap"
  | location .attrib => "GetAttribLocation"
  | getIntegerv => "GetIntegerv"
  | location .uniform => "GetUniformLocation"
  | hint => "Hint"
  | isEnabled => "IsEnabled"
  | lineWidth => "LineWidth"
  | linkProgram => "LinkProgram"
  | pixelStorei => "PixelStorei"
  | polygonOffset => "PolygonOffset"
  | sampleCoverage => "SampleCoverage"
  | scissor => "Scissor"
  | shaderSource => "ShaderSource"
  | stencilFuncSeparate => "StencilFuncSeparate"
  | stencilMaskSeparate => "StencilMaskSeparate"
  | stencilOpSeparate => "StencilOpSeparate"
  | texImage2D => "TexImage2D"
  | texParameteri => "TexParameteri"
  | useProgram => "UseProgram"
  | vertexAttribPointer => "VertexAttribPointer"
  | viewport => "Viewport"

/-- The symbol that a library exports it under. -/
def symbol (e : EntryPoint) : String :=
  match e.library with
  | .egl => "egl" ++ e.stem
  | .gles => "gl" ++ e.stem

/-- The name by which reports show it. -/
def name (e : EntryPoint) : String :=
  match e.library with
  | .egl => "Egl" ++ e.stem
  | .gles => e.stem

def suffixes : List String := ["ARB", "EXT"]

/-- The symbols to look for, in order. Rendering functions may also be there
as vendor extensions. -/
def candidates (e : EntryPoint) : List String :=
  match e.library with
  | .egl => [e.symbol]
  | .gles => e.symbol :: suffixes.map (e.symbol ++ ·)

theorem mem_all (e : EntryPoint) : e ∈ all := by
  cases e with
  | bind cls | generate cls | delete cls => cases cls <;> decide
  | location kind => cases kind <;> decide
  | _ => decide

theorem nodup_all : all.Nodup := by decide

end EntryPoint

end RenderRelay
