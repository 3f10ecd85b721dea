import RenderRelay.Enumerant

/-!
# Legal arguments

The values that arguments of rendering commands may have.
-/

set_option autoImplicit false

namespace RenderRelay.Legal

def blendEquations : List Enum := [GL.funcAdd, GL.funcSubtract, GL.funcReverseSubtract]

def blendFactors : List Enum :=
  [GL.zero, GL.one, GL.srcColor, GL.oneMinusSrcColor, GL.dstColor, GL.oneMinusDstColor,
   GL.srcAlpha, GL.oneMinusSrcAlpha, GL.dstAlpha, GL.oneMinusDstAlpha, GL.constantColor,
   GL.oneMinusConstantColor, GL.constantAlpha, GL.oneMinusConstantAlpha, GL.srcAlphaSaturate]

def faces : List Enum := [GL.front, GL.back, GL.frontAndBack]

def windings : List Enum := [GL.cw, GL.ccw]

def compareFuncs : List Enum :=
  [GL.never, GL.less, GL.equal, GL.lequal, GL.greater, GL.notequal, GL.gequal, GL.always]

def stencilOps : List Enum :=
  [GL.keep, GL.zero, GL.replace, GL.incr, GL.decr, GL.invert, GL.incrWrap, GL.decrWrap]

def hintModes : List Enum := [GL.fastest, GL.nicest, GL.dontCare]

def alignments : List Int32 := [1, 2, 4, 8]

def bufferTargets : List Enum := [GL.arrayBuffer, GL.elementArrayBuffer]

def bufferUsages : List Enum := [GL.streamDraw, GL.staticDraw, GL.dynamicDraw]

def textureTargets : List Enum := [GL.texture2D, GL.textureCubeMap]

def imageTargets : List Enum :=
  [GL.texture2D, GL.textureCubeMapPositiveX, GL.textureCubeMapNegativeX,
   GL.textureCubeMapPositiveY, GL.textureCubeMapNegativeY, GL.textureCubeMapPositiveZ,
   GL.textureCubeMapNegativeZ]

def pixelFormats : List Enum :=
  [GL.alpha, GL.rgb, GL.rgba, GL.luminance, GL.luminanceAlpha]

def pixelTypes : List Enum :=
  [GL.unsignedByte, GL.unsignedShort565, GL.unsignedShort4444, GL.unsignedShort5551]

def shaderKinds : List Enum := [GL.vertexShader, GL.fragmentShader]

def attribTypes : List Enum :=
  [GL.byte, GL.unsignedByte, GL.short, GL.unsignedShort, GL.fixed, GL.float]

def drawModes : List Enum :=
  [GL.points, GL.lines, GL.lineLoop, GL.lineStrip, GL.triangles, GL.triangleStrip,
   GL.triangleFan]

def indexTypes : List Enum := [GL.unsignedByte, GL.unsignedShort]

def clearBits : UInt32 := GL.colorBufferBit ||| GL.depthBufferBit ||| GL.stencilBufferBit

end RenderRelay.Legal
