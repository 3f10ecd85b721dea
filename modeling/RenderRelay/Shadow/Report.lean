import RenderRelay.Driver.Argument
import RenderRelay.Shadow

/-!
# Shadow reports

The parts of a shadow that differ from a fresh one, by name, for diagnosis.
-/

set_option autoImplicit false

namespace RenderRelay

open Argument (nat int single flag list)

namespace Argument

def word (n : UInt32) : Argument := nat n.toNat

def words (ns : List UInt32) : Argument := list (ns.map word)

def color (c : Color) : Argument := ofValue .color c

def rect (r : Rect) : Argument := ofValue .ints [r.x, r.y, r.width, r.height]

def face (f : StencilFace) : Argument :=
  list [word f.test.func, int f.test.reference.toInt, word f.test.mask,
    words [f.actions.fail, f.actions.zfail, f.actions.zpass], word f.writemask]

def unit (u : TextureUnit) : Argument := words [u.texture2D, u.cubeMap]

def attrib (a : VertexAttrib) : Argument :=
  list [flag a.enabled, int a.pointer.size.toInt, word a.pointer.type,
    flag a.pointer.normalized, int a.pointer.stride.toInt, nat a.pointer.offset.toNat,
    word a.buffer, color a.current]

end Argument

namespace Shadow

/-- A part of the shadow, if it differs from that of a fresh one. -/
def change {α : Type} [DecidableEq α] (s : Shadow) (name : String) (part : Shadow → α)
    (shown : α → Argument) : List (String × Argument) :=
  if part s = part fresh then [] else [(name, shown (part s))]

def unitChanges (s : Shadow) : List (String × Argument) :=
  (List.finRange textureUnitCount).flatMap fun i =>
    s.change ("tex." ++ toString i.val) (·.units[i]) .unit

/-- What differs from a fresh shadow, and all vertex attributes touched. -/
def report (s : Shadow) : List (String × Argument) :=
  s.change "error" (·.error) .word
  ++ s.change "need_get_error" (·.driverMayKnow) .flag
  ++ s.change "bound"
    (fun s => [s.arrayBuffer, s.elementArrayBuffer, s.framebuffer, s.renderbuffer, s.program])
    .words
  ++ s.change "active_texture" (·.activeTexture) .word
  ++ s.unitChanges
  ++ s.change "capabilities" (·.capabilities.bits) .nat
  ++ s.change "blend" (fun s => (s.blendColor, s.blendEquations, s.blendFactors))
    (fun (c, e, f) => .list [.color c, .words [e.rgb, e.alpha],
      .words [f.srcRgb, f.dstRgb, f.srcAlpha, f.dstAlpha]])
  ++ s.change "clear" (fun s => (s.clearColor, s.clearDepth, s.clearStencil))
    (fun (c, d, n) => .list [.color c, .single d, .int n.toInt])
  ++ s.change "masks" (fun s => (s.colorMask, s.depthMask))
    (fun (c, d) => .list [.ofValue .mask c, .flag d])
  ++ s.change "cull_front_depth_hint"
    (fun s => [s.cullFace, s.frontFace, s.depthFunc, s.mipmapHint]) .words
  ++ s.change "depth_range" (·.depthRange) (fun r => .list [.single r.near, .single r.far])
  ++ s.change "line_width" (·.lineWidth) .single
  ++ s.change "alignment" (fun s => [s.packAlignment, s.unpackAlignment]) (.ofValue .ints)
  ++ s.change "polygon_offset" (·.polygonOffset)
    (fun o => .list [.single o.factor, .single o.units])
  ++ s.change "sample_coverage" (·.sampleCoverage)
    (fun c => .list [.single c.value, .flag c.invert])
  ++ s.change "scissor" (·.scissor) .rect
  ++ s.change "viewport" (·.viewport) .rect
  ++ s.change "stencil.0" (·.stencilFront) .face
  ++ s.change "stencil.1" (·.stencilBack) .face
  ++ s.change "attribs"
    (fun s => (s.attribs.count, s.attribs.isEmbedded, s.attribs.heapAllocations))
    (fun (n, e, a) => .list [.nat n, .flag e, .nat a, .flag s.attribs.isEmpty])
  ++ s.attribs.toList.zipIdx.map (fun (a, i) => ("attrib." ++ toString i, .attrib a))
  ++ s.change "limits" (fun s => Limit.all.map s.limits.cached?)
    (fun ls => .list (ls.map fun l => .ofOption (l.map fun n => .int n.toInt)))
  ++ s.change "programs" (·.locations.size) (fun n => .list [.nat n, .flag s.locations.isEmpty])

end Shadow

end RenderRelay
