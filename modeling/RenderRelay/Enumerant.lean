import RenderRelay.Scalar

/-!
# Enumerants

The values of the rendering and display interfaces that validation, caching
and error reporting name. All others travel as opaque words.
-/

set_option autoImplicit false

namespace RenderRelay.GL

/-! Errors -/

abbrev noError : Enum := 0
abbrev invalidEnum : Enum := 0x0500
abbrev invalidValue : Enum := 0x0501
abbrev invalidOperation : Enum := 0x0502

/-! Clear bits -/

abbrev depthBufferBit : Enum := 0x0100
abbrev stencilBufferBit : Enum := 0x0400
abbrev colorBufferBit : Enum := 0x4000

/-! Primitives -/

abbrev points : Enum := 0
abbrev lines : Enum := 1
abbrev lineLoop : Enum := 0x0002
abbrev lineStrip : Enum := 0x0003
abbrev triangles : Enum := 0x0004
abbrev triangleStrip : Enum := 0x0005
abbrev triangleFan : Enum := 0x0006

/-! Blending -/

abbrev zero : Enum := 0
abbrev one : Enum := 1
abbrev srcColor : Enum := 0x0300
abbrev oneMinusSrcColor : Enum := 0x0301
abbrev srcAlpha : Enum := 0x0302
abbrev oneMinusSrcAlpha : Enum := 0x0303
abbrev dstAlpha : Enum := 0x0304
abbrev oneMinusDstAlpha : Enum := 0x0305
abbrev dstColor : Enum := 0x0306
abbrev oneMinusDstColor : Enum := 0x0307
abbrev srcAlphaSaturate : Enum := 0x0308
abbrev constantColor : Enum := 0x8001
abbrev oneMinusConstantColor : Enum := 0x8002
abbrev constantAlpha : Enum := 0x8003
abbrev oneMinusConstantAlpha : Enum := 0x8004
abbrev blendColor : Enum := 0x8005
abbrev funcAdd : Enum := 0x8006
abbrev blendEquationRgb : Enum := 0x8009
abbrev funcSubtract : Enum := 0x800A
abbrev funcReverseSubtract : Enum := 0x800B
abbrev blendDstRgb : Enum := 0x80C8
abbrev blendSrcRgb : Enum := 0x80C9
abbrev blendDstAlpha : Enum := 0x80CA
abbrev blendSrcAlpha : Enum := 0x80CB
abbrev blendEquationAlpha : Enum := 0x883D

/-! Buffers -/

abbrev arrayBuffer : Enum := 0x8892
abbrev elementArrayBuffer : Enum := 0x8893
abbrev arrayBufferBinding : Enum := 0x8894
abbrev elementArrayBufferBinding : Enum := 0x8895
abbrev streamDraw : Enum := 0x88E0
abbrev staticDraw : Enum := 0x88E4
abbrev dynamicDraw : Enum := 0x88E8

/-! Faces -/

abbrev front : Enum := 0x0404
abbrev back : Enum := 0x0405
abbrev frontAndBack : Enum := 0x0408
abbrev cw : Enum := 0x0900
abbrev ccw : Enum := 0x0901

/-! Capabilities -/

abbrev texture2D : Enum := 0x0DE1
abbrev cullFace : Enum := 0x0B44
abbrev blend : Enum := 0x0BE2
abbrev dither : Enum := 0x0BD0
abbrev stencilTest : Enum := 0x0B90
abbrev depthTest : Enum := 0x0B71
abbrev scissorTest : Enum := 0x0C11
abbrev polygonOffsetFill : Enum := 0x8037
abbrev sampleAlphaToCoverage : Enum := 0x809E
abbrev sampleCoverage : Enum := 0x80A0

/-! State queries -/

abbrev cullFaceMode : Enum := 0x0B45
abbrev frontFace : Enum := 0x0B46
abbrev depthRange : Enum := 0x0B70
abbrev depthWritemask : Enum := 0x0B72
abbrev depthFunc : Enum := 0x0B74
abbrev stencilClearValue : Enum := 0x0B91
abbrev stencilFunc : Enum := 0x0B92
abbrev stencilValueMask : Enum := 0x0B93
abbrev stencilFail : Enum := 0x0B94
abbrev stencilPassDepthFail : Enum := 0x0B95
abbrev stencilPassDepthPass : Enum := 0x0B96
abbrev stencilRef : Enum := 0x0B97
abbrev stencilWritemask : Enum := 0x0B98
abbrev stencilBackFunc : Enum := 0x8800
abbrev stencilBackFail : Enum := 0x8801
abbrev stencilBackPassDepthFail : Enum := 0x8802
abbrev stencilBackPassDepthPass : Enum := 0x8803
abbrev stencilBackRef : Enum := 0x8CA3
abbrev stencilBackValueMask : Enum := 0x8CA4
abbrev stencilBackWritemask : Enum := 0x8CA5
abbrev viewport : Enum := 0x0BA2
abbrev scissorBox : Enum := 0x0C10
abbrev colorClearValue : Enum := 0x0C22
abbrev colorWritemask : Enum := 0x0C23
abbrev unpackAlignment : Enum := 0x0CF5
abbrev packAlignment : Enum := 0x0D05
abbrev maxTextureSize : Enum := 0x0D33
abbrev maxViewportDims : Enum := 0x0D3A
abbrev aliasedPointSizeRange : Enum := 0x846D
abbrev aliasedLineWidthRange : Enum := 0x846E
abbrev numCompressedTextureFormats : Enum := 0x86A2
abbrev compressedTextureFormats : Enum := 0x86A3
abbrev numShaderBinaryFormats : Enum := 0x8DF9
abbrev shaderBinaryFormats : Enum := 0x8DF8
abbrev currentProgram : Enum := 0x8B8D

/-! Hints -/

abbrev dontCare : Enum := 0x1100
abbrev fastest : Enum := 0x1101
abbrev nicest : Enum := 0x1102
abbrev generateMipmapHint : Enum := 0x8192

/-! Data types -/

abbrev byte : Enum := 0x1400
abbrev unsignedByte : Enum := 0x1401
abbrev short : Enum := 0x1402
abbrev unsignedShort : Enum := 0x1403
abbrev float : Enum := 0x1406
abbrev fixed : Enum := 0x140C

/-! Comparison functions -/

abbrev never : Enum := 0x0200
abbrev less : Enum := 0x0201
abbrev equal : Enum := 0x0202
abbrev lequal : Enum := 0x0203
abbrev greater : Enum := 0x0204
abbrev notequal : Enum := 0x0205
abbrev gequal : Enum := 0x0206
abbrev always : Enum := 0x0207

/-! Stencil ops -/

abbrev keep : Enum := 0x1E00
abbrev replace : Enum := 0x1E01
abbrev incr : Enum := 0x1E02
abbrev decr : Enum := 0x1E03
abbrev invert : Enum := 0x150A
abbrev incrWrap : Enum := 0x8507
abbrev decrWrap : Enum := 0x8508

/-! Textures -/

abbrev alpha : Enum := 0x1906
abbrev rgb : Enum := 0x1907
abbrev rgba : Enum := 0x1908
abbrev luminance : Enum := 0x1909
abbrev luminanceAlpha : Enum := 0x190A
abbrev unsignedShort4444 : Enum := 0x8033
abbrev unsignedShort5551 : Enum := 0x8034
abbrev unsignedShort565 : Enum := 0x8363
abbrev textureBinding2D : Enum := 0x8069
abbrev textureCubeMap : Enum := 0x8513
abbrev textureBindingCubeMap : Enum := 0x8514
abbrev textureCubeMapPositiveX : Enum := 0x8515
abbrev textureCubeMapNegativeX : Enum := 0x8516
abbrev textureCubeMapPositiveY : Enum := 0x8517
abbrev textureCubeMapNegativeY : Enum := 0x8518
abbrev textureCubeMapPositiveZ : Enum := 0x8519
abbrev textureCubeMapNegativeZ : Enum := 0x851A
abbrev maxCubeMapTextureSize : Enum := 0x851C
abbrev texture0 : Enum := 0x84C0
abbrev texture31 : Enum := 0x84DF
abbrev activeTexture : Enum := 0x84E0
abbrev maxRenderbufferSize : Enum := 0x84E8

/-! Shaders and programs -/

abbrev fragmentShader : Enum := 0x8B30
abbrev vertexShader : Enum := 0x8B31
abbrev maxVertexAttribs : Enum := 0x8869
abbrev maxTextureImageUnits : Enum := 0x8872
abbrev maxVertexTextureImageUnits : Enum := 0x8B4C
abbrev maxCombinedTextureImageUnits : Enum := 0x8B4D
abbrev maxVertexUniformVectors : Enum := 0x8DFB
abbrev maxVaryingVectors : Enum := 0x8DFC
abbrev maxFragmentUniformVectors : Enum := 0x8DFD

/-! Framebuffers -/

abbrev framebufferComplete : Enum := 0x8CD5
abbrev framebufferBinding : Enum := 0x8CA6
abbrev renderbufferBinding : Enum := 0x8CA7
abbrev framebuffer : Enum := 0x8D40
abbrev renderbuffer : Enum := 0x8D41

end RenderRelay.GL

namespace RenderRelay.EGL

abbrev success : Int32 := 0x3000
abbrev notInitialized : Int32 := 0x3001
abbrev none : Int32 := 0x3038

end RenderRelay.EGL
