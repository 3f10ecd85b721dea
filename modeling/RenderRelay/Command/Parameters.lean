import RenderRelay.Command.Opcode

/-!
# Parameters

The names by which the arguments of a command are shown, in the order of its
payload.
-/

set_option autoImplicit false

namespace RenderRelay.Opcode

/-- The names of the arguments that a command of this opcode has. -/
def parameters : Opcode → List String
  | .nop | .shutdown | .releaseThread | .eglGetError | .getError | .createProgram | .flush
  | .finish => []
  | .getDisplay => ["native"]
  | .initDisplay | .terminateDisplay => ["display"]
  | .chooseConfig => ["display", "attribs", "max"]
  | .createContext => ["display", "config", "share", "attribs"]
  | .destroyContext => ["display", "context"]
  | .createWindowSurface => ["display", "config", "window", "attribs"]
  | .createPbufferSurface => ["display", "config", "attribs"]
  | .destroySurface | .swapBuffers => ["display", "surface"]
  | .makeCurrent => ["display", "draw", "read", "context"]
  | .activeTexture => ["texture"]
  | .blendColor | .clearColor => ["rgba"]
  | .blendEquation | .cullFace | .frontFace => ["mode"]
  | .blendEquationSeparate => ["mode_rgb", "mode_alpha"]
  | .blendFunc => ["sfactor", "dfactor"]
  | .blendFuncSeparate => ["src_rgb", "dst_rgb", "src_alpha", "dst_alpha"]
  | .clearDepthf => ["depth"]
  | .clearStencil => ["s"]
  | .colorMask | .stencilMask | .clear => ["mask"]
  | .depthFunc => ["func"]
  | .depthMask => ["flag"]
  | .depthRangef => ["near", "far"]
  | .enable | .disable | .isEnabled => ["cap"]
  | .hint => ["target", "mode"]
  | .lineWidth => ["width"]
  | .pixelStorei => ["pname", "param"]
  | .polygonOffset => ["factor", "units"]
  | .sampleCoverage => ["value", "invert"]
  | .scissor | .viewport => ["x", "y", "width", "height"]
  | .stencilFunc => ["func", "reference", "mask"]
  | .stencilFuncSeparate => ["face", "func", "reference", "mask"]
  | .stencilMaskSeparate => ["face", "mask"]
  | .stencilOp => ["fail", "zfail", "zpass"]
  | .stencilOpSeparate => ["face", "fail", "zfail", "zpass"]
  | .bindBuffer => ["target", "buffer"]
  | .bindTexture => ["target", "texture"]
  | .bindFramebuffer => ["target", "framebuffer"]
  | .bindRenderbuffer => ["target", "renderbuffer"]
  | .genBuffers | .genTextures | .genFramebuffers | .genRenderbuffers | .deleteBuffers
  | .deleteTextures | .deleteFramebuffers | .deleteRenderbuffers => ["names"]
  | .bufferData => ["target", "data", "size", "usage"]
  | .bufferSubData => ["target", "offset", "data"]
  | .texImage2D =>
    ["target", "level", "internal_format", "width", "height", "border", "format", "ty", "pixels"]
  | .texParameteri => ["target", "pname", "param"]
  | .generateMipmap | .checkFramebufferStatus => ["target"]
  | .createShader => ["kind"]
  | .shaderSource => ["shader", "sources"]
  | .compileShader => ["shader"]
  | .attachShader => ["program", "shader"]
  | .linkProgram | .useProgram | .deleteProgram => ["program"]
  | .getAttribLocation | .getUniformLocation => ["program", "name"]
  | .enableVertexAttribArray | .disableVertexAttribArray => ["index"]
  | .vertexAttribPointer => ["index", "size", "ty", "normalized", "stride", "offset"]
  | .drawArrays => ["mode", "first", "count"]
  | .drawElements => ["mode", "count", "ty", "offset"]
  | .getIntegerv => ["pname"]

/-- There is one name for each field of the payload. -/
theorem length_parameters (op : Opcode) : op.parameters.length = op.signature.length := by
  cases op <;> rfl

end RenderRelay.Opcode
