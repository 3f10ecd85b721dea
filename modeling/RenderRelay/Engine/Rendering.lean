import RenderRelay.Engine.Objects
import RenderRelay.Engine.Query
import RenderRelay.Engine.Setters
import RenderRelay.Reply

/-!
# Rendering commands

Each rendering command belongs to an entry point of the driver. It is let
through if there is a current context and the entry point is bound;
otherwise it is dropped, with an empty reply if one is due.
-/

set_option autoImplicit false

namespace RenderRelay

namespace Command

/-- The entry point that a rendering command needs. Commands of the display
system have none here. -/
def entry? : Command → Option EntryPoint
  | nop | shutdown | getDisplay _ | initDisplay _ | terminateDisplay _ | chooseConfig ..
  | createContext .. | destroyContext .. | createWindowSurface .. | createPbufferSurface ..
  | destroySurface .. | makeCurrent .. | releaseThread | swapBuffers .. | eglGetError => none
  | getError => some .getError
  | activeTexture _ => some .activeTexture
  | blendColor _ => some .blendColor
  | blendEquation _ => some .blendEquation
  | blendEquationSeparate .. => some .blendEquationSeparate
  | blendFunc .. => some .blendFunc
  | blendFuncSeparate _ => some .blendFuncSeparate
  | clearColor _ => some .clearColor
  | clearDepthf _ => some .clearDepthf
  | clearStencil _ => some .clearStencil
  | colorMask _ => some .colorMask
  | cullFace _ => some .cullFace
  | depthFunc _ => some .depthFunc
  | depthMask _ => some .depthMask
  | depthRangef .. => some .depthRangef
  | enable _ => some .enable
  | disable _ => some .disable
  | frontFace _ => some .frontFace
  | hint .. => some .hint
  | lineWidth _ => some .lineWidth
  | pixelStorei .. => some .pixelStorei
  | polygonOffset .. => some .polygonOffset
  | sampleCoverage .. => some .sampleCoverage
  | scissor _ => some .scissor
  | viewport _ => some .viewport
  | stencilFunc _ | stencilFuncSeparate .. => some .stencilFuncSeparate
  | stencilMask _ | stencilMaskSeparate .. => some .stencilMaskSeparate
  | stencilOp _ | stencilOpSeparate .. => some .stencilOpSeparate
  | bindBuffer .. => some (.bind .buffer)
  | bindTexture .. => some (.bind .texture)
  | bindFramebuffer .. => some (.bind .framebuffer)
  | bindRenderbuffer .. => some (.bind .renderbuffer)
  | genBuffers _ => some (.generate .buffer)
  | genTextures _ => some (.generate .texture)
  | genFramebuffers _ => some (.generate .framebuffer)
  | genRenderbuffers _ => some (.generate .renderbuffer)
  | deleteBuffers _ => some (.delete .buffer)
  | deleteTextures _ => some (.delete .texture)
  | deleteFramebuffers _ => some (.delete .framebuffer)
  | deleteRenderbuffers _ => some (.delete .renderbuffer)
  | bufferData .. => some .bufferData
  | bufferSubData .. => some .bufferSubData
  | texImage2D _ => some .texImage2D
  | texParameteri .. => some .texParameteri
  | generateMipmap _ => some .generateMipmap
  | checkFramebufferStatus _ => some .checkFramebufferStatus
  | createShader _ => some .createShader
  | shaderSource .. => some .shaderSource
  | compileShader _ => some .compileShader
  | createProgram => some .createProgram
  | attachShader .. => some .attachShader
  | linkProgram _ => some .linkProgram
  | useProgram _ => some .useProgram
  | deleteProgram _ => some .deleteProgram
  | getAttribLocation .. => some (.location .attrib)
  | getUniformLocation .. => some (.location .uniform)
  | enableVertexAttribArray _ => some .enableVertexAttribArray
  | disableVertexAttribArray _ => some .disableVertexAttribArray
  | vertexAttribPointer .. => some .vertexAttribPointer
  | drawArrays .. => some .drawArrays
  | drawElements .. => some .drawElements
  | clear _ => some .clear
  | flush => some .flush
  | finish => some .finish
  | getIntegerv _ => some .getIntegerv
  | isEnabled _ => some .isEnabled

/-- The reply to a rendering command that is dropped. -/
def droppedReply : Command → Option Reply
  | getError => some (.enum GL.invalidOperation)
  | checkFramebufferStatus _ => some (.enum 0)
  | createShader _ | createProgram => some (.uint 0)
  | getAttribLocation .. | getUniformLocation .. => some (.int (-1))
  | getIntegerv _ => some (.ints [])
  | isEnabled _ => some (.bool false)
  | _ => none

end Command

namespace Scope

variable {δ : Type} [Driver δ]

def replying {α : Type} (reply : α → Reply) (r : α × Scope δ) : Option Reply × Scope δ :=
  (some (reply r.1), r.2)

/-- Carries out a rendering command that was let through. -/
def perform (s : Scope δ) : Command → Option Reply × Scope δ
  | .bindBuffer target buffer => (none, s.bind .buffer target buffer)
  | .bindTexture target texture => (none, s.bind .texture target texture)
  | .bindFramebuffer target framebuffer => (none, s.bind .framebuffer target framebuffer)
  | .bindRenderbuffer target renderbuffer => (none, s.bind .renderbuffer target renderbuffer)
  | .genBuffers names => (none, s.generate .buffer names)
  | .genTextures names => (none, s.generate .texture names)
  | .genFramebuffers names => (none, s.generate .framebuffer names)
  | .genRenderbuffers names => (none, s.generate .renderbuffer names)
  | .deleteBuffers names => (none, s.delete .buffer names)
  | .deleteTextures names => (none, s.delete .texture names)
  | .deleteFramebuffers names => (none, s.delete .framebuffer names)
  | .deleteRenderbuffers names => (none, s.delete .renderbuffer names)
  | .getError => replying .enum s.getError
  | .getIntegerv pname => replying .ints (s.getIntegerv pname)
  | .isEnabled cap => replying .bool (s.isEnabled cap)
  | .checkFramebufferStatus target => replying .enum (s.checkFramebufferStatus target)
  | .createShader kind => replying .uint (s.createShader kind)
  | .createProgram => replying .uint (s.forward .createProgram)
  | .getAttribLocation program name => replying .int (s.location .attrib program name)
  | .getUniformLocation program name => replying .int (s.location .uniform program name)
  | c => (none, (Plan.ofCommand s.shadow c).run s)

/-- Drops a rendering command whose entry point is not bound. That is an
error, except where the command asks for errors itself. -/
def drop (s : Scope δ) (c : Command) : Option Reply × Scope δ :=
  (c.droppedReply, if c = .getError then s else s.reject GL.invalidOperation)

/-- Carries out a rendering command that needs the given entry point. -/
def enter (s : Scope δ) (entry : EntryPoint) (c : Command) : Option Reply × Scope δ :=
  if Driver.bound s.driver entry then s.perform c else s.drop c

end Scope

end RenderRelay
