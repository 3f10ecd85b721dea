import Mathlib.Logic.Function.Basic
import RenderRelay.Engine.Query
import RenderRelay.Proofs.Shadow.Attribs

/-!
# Value state

The part of a context's state that driver calls set to the values they carry,
and what each call makes of it as the interface says: a call without the word
`Separate` sets both parts, a face stands for one side or for both, and every
call that is not about this state leaves it alone. Nothing here knows what a
shadow compares or leaves out.
-/

set_option autoImplicit false

namespace RenderRelay

open Function (update)

structure AttribState where
  enabled : Bool
  pointer : AttribPointer

structure ValueState where
  program : UInt32
  activeTexture : Enum
  capabilities : Capability → Bool
  blendColor : Color
  blendEquations : BlendEquations
  blendFactors : BlendFactors
  clearColor : Color
  clearDepth : Single
  clearStencil : Int32
  colorMask : ChannelMask
  cullFace : Enum
  frontFace : Enum
  depthFunc : Enum
  depthMask : Bool
  depthRange : DepthRange
  mipmapHint : Enum
  lineWidth : Single
  packAlignment : Int32
  unpackAlignment : Int32
  polygonOffset : PolygonOffset
  sampleCoverage : SampleCoverage
  scissor : Rect
  viewport : Rect
  stencilFront : StencilFace
  stencilBack : StencilFace
  attribs : Nat → AttribState

namespace ValueState

/-! What calls do -/

def setCapability (v : ValueState) (cap : Enum) (on : Bool) : ValueState :=
  match Capability.ofEnum? cap with
  | some c => { v with capabilities := update v.capabilities c on }
  | none => v

def onFaces (v : ValueState) (face : Enum) (f : StencilFace → StencilFace) : ValueState :=
  if face = GL.front then { v with stencilFront := f v.stencilFront }
  else if face = GL.back then { v with stencilBack := f v.stencilBack }
  else if face = GL.frontAndBack then
    { v with stencilFront := f v.stencilFront, stencilBack := f v.stencilBack }
  else v

def onAttrib (v : ValueState) (index : UInt32) (f : AttribState → AttribState) : ValueState :=
  { v with attribs := update v.attribs index.toNat (f (v.attribs index.toNat)) }

def after (v : ValueState) : Call → ValueState
  | .useProgram program => { v with program }
  | .activeTexture texture => { v with activeTexture := texture }
  | .enable cap => v.setCapability cap true
  | .disable cap => v.setCapability cap false
  | .blendColor rgba => { v with blendColor := rgba }
  | .blendEquation mode => { v with blendEquations := ⟨mode, mode⟩ }
  | .blendEquationSeparate modes => { v with blendEquations := modes }
  | .blendFunc src dst => { v with blendFactors := ⟨src, dst, src, dst⟩ }
  | .blendFuncSeparate factors => { v with blendFactors := factors }
  | .clearColor rgba => { v with clearColor := rgba }
  | .clearDepthf depth => { v with clearDepth := depth }
  | .clearStencil value => { v with clearStencil := value }
  | .colorMask mask => { v with colorMask := mask }
  | .cullFace mode => { v with cullFace := mode }
  | .frontFace mode => { v with frontFace := mode }
  | .depthFunc func => { v with depthFunc := func }
  | .depthMask flag => { v with depthMask := flag }
  | .depthRangef range => { v with depthRange := range }
  | .hint target mode => if target = GL.generateMipmapHint then { v with mipmapHint := mode } else v
  | .lineWidth width => { v with lineWidth := width }
  | .pixelStorei pname param =>
    if pname = GL.packAlignment then { v with packAlignment := param }
    else if pname = GL.unpackAlignment then { v with unpackAlignment := param }
    else v
  | .polygonOffset offset => { v with polygonOffset := offset }
  | .sampleCoverage coverage => { v with sampleCoverage := coverage }
  | .scissor box => { v with scissor := box }
  | .viewport box => { v with viewport := box }
  | .stencilFuncSeparate face test => v.onFaces face ({ · with test })
  | .stencilMaskSeparate face mask => v.onFaces face ({ · with writemask := mask })
  | .stencilOpSeparate face actions => v.onFaces face ({ · with actions })
  | .enableVertexAttribArray index => v.onAttrib index ({ · with enabled := true })
  | .disableVertexAttribArray index => v.onAttrib index ({ · with enabled := false })
  | .vertexAttribPointer index pointer => v.onAttrib index ({ · with pointer })
  | _ => v

def afterAll (v : ValueState) (calls : List Call) : ValueState := calls.foldl after v

/-! What queries tell -/

def isEnabled (v : ValueState) (cap : Enum) : Bool := (Capability.ofEnum? cap).any v.capabilities

open Shadow (flagInt rectInts) in
/-- The integers of a parameter of the state. A capability has one, 0 or 1. -/
def integers? (v : ValueState) (pname : Enum) : Option (List Int32) :=
  match Capability.ofEnum? pname with
  | some c => some [flagInt (v.capabilities c)]
  | none => [
      (GL.currentProgram, [v.program.toInt32]),
      (GL.activeTexture, [v.activeTexture.toInt32]),
      (GL.blendEquationRgb, [v.blendEquations.rgb.toInt32]),
      (GL.blendEquationAlpha, [v.blendEquations.alpha.toInt32]),
      (GL.blendSrcRgb, [v.blendFactors.srcRgb.toInt32]),
      (GL.blendDstRgb, [v.blendFactors.dstRgb.toInt32]),
      (GL.blendSrcAlpha, [v.blendFactors.srcAlpha.toInt32]),
      (GL.blendDstAlpha, [v.blendFactors.dstAlpha.toInt32]),
      (GL.cullFaceMode, [v.cullFace.toInt32]),
      (GL.frontFace, [v.frontFace.toInt32]),
      (GL.depthFunc, [v.depthFunc.toInt32]),
      (GL.depthWritemask, [flagInt v.depthMask]),
      (GL.colorWritemask,
        [v.colorMask.red, v.colorMask.green, v.colorMask.blue, v.colorMask.alpha].map flagInt),
      (GL.generateMipmapHint, [v.mipmapHint.toInt32]),
      (GL.packAlignment, [v.packAlignment]),
      (GL.unpackAlignment, [v.unpackAlignment]),
      (GL.viewport, rectInts v.viewport),
      (GL.scissorBox, rectInts v.scissor),
      (GL.stencilClearValue, [v.clearStencil]),
      (GL.stencilFunc, [v.stencilFront.test.func.toInt32]),
      (GL.stencilRef, [v.stencilFront.test.reference]),
      (GL.stencilValueMask, [v.stencilFront.test.mask.toInt32]),
      (GL.stencilFail, [v.stencilFront.actions.fail.toInt32]),
      (GL.stencilPassDepthFail, [v.stencilFront.actions.zfail.toInt32]),
      (GL.stencilPassDepthPass, [v.stencilFront.actions.zpass.toInt32]),
      (GL.stencilWritemask, [v.stencilFront.writemask.toInt32]),
      (GL.stencilBackFunc, [v.stencilBack.test.func.toInt32]),
      (GL.stencilBackRef, [v.stencilBack.test.reference]),
      (GL.stencilBackValueMask, [v.stencilBack.test.mask.toInt32]),
      (GL.stencilBackFail, [v.stencilBack.actions.fail.toInt32]),
      (GL.stencilBackPassDepthFail, [v.stencilBack.actions.zfail.toInt32]),
      (GL.stencilBackPassDepthPass, [v.stencilBack.actions.zpass.toInt32]),
      (GL.stencilBackWritemask, [v.stencilBack.writemask.toInt32])].lookup pname

end ValueState

namespace Shadow

def values (s : Shadow) : ValueState where
  program := s.program
  activeTexture := s.activeTexture
  capabilities := s.capabilities.has
  blendColor := s.blendColor
  blendEquations := s.blendEquations
  blendFactors := s.blendFactors
  clearColor := s.clearColor
  clearDepth := s.clearDepth
  clearStencil := s.clearStencil
  colorMask := s.colorMask
  cullFace := s.cullFace
  frontFace := s.frontFace
  depthFunc := s.depthFunc
  depthMask := s.depthMask
  depthRange := s.depthRange
  mipmapHint := s.mipmapHint
  lineWidth := s.lineWidth
  packAlignment := s.packAlignment
  unpackAlignment := s.unpackAlignment
  polygonOffset := s.polygonOffset
  sampleCoverage := s.sampleCoverage
  scissor := s.scissor
  viewport := s.viewport
  stencilFront := s.stencilFront
  stencilBack := s.stencilBack
  attribs i := ⟨(s.attribs.get i).enabled, (s.attribs.get i).pointer⟩

/-- What is left of a context's state once driver calls that all succeed were
made on a new context. -/
def replay (calls : List Call) : ValueState := fresh.values.afterAll calls

variable {s : Shadow}

/-! Changes -/

theorem values_setCapability (s : Shadow) {cap : Enum} {c : Capability}
    (hc : Capability.ofEnum? cap = some c) (on : Bool) :
    ({ s with capabilities := s.capabilities.set c on } : Shadow).values =
      s.values.setCapability cap on := by
  have hflags : (s.capabilities.set c on).has = update s.capabilities.has c on := by
    funext d
    rw [CapabilitySet.has_set, Function.update_apply]
    simp only [eq_comm]
  simp only [values, ValueState.setCapability, hc, hflags]

theorem setCapability_of_held {cap : Enum} {c : Capability} (hc : Capability.ofEnum? cap = some c)
    {on : Bool} (hheld : s.capabilities.has c = on) :
    s.values.setCapability cap on = s.values := by
  rw [← s.values_setCapability hc on]
  have hflags : (s.capabilities.set c on).has = s.capabilities.has := by
    funext d
    rw [CapabilitySet.has_set]
    split
    · next hd => rw [← hd, hheld]
    · rfl
  simp only [values, hflags]

theorem values_updateStencil (s : Shadow) {face : Enum} (hf : Legal.faces.contains face = true)
    (f : StencilFace → StencilFace) :
    (s.updateStencil face f).values = s.values.onFaces face f := by
  have hcases : face = GL.front ∨ face = GL.back ∨ face = GL.frontAndBack := by
    simpa [Legal.faces] using hf
  rcases hcases with rfl | rfl | rfl <;> rfl

/-- Where all faces named hold what they are to hold, no call is needed. -/
theorem onFaces_of_held {face : Enum} (hf : Legal.faces.contains face = true)
    {holds : StencilFace → Bool} {f : StencilFace → StencilFace}
    (hfix : ∀ x, holds x = true → f x = x) (hheld : s.allStencil face holds = true) :
    s.values.onFaces face f = s.values := by
  have hcases : face = GL.front ∨ face = GL.back ∨ face = GL.frontAndBack := by
    simpa [Legal.faces] using hf
  rw [allStencil, Bool.and_eq_true, Bool.or_eq_true, Bool.or_eq_true] at hheld
  obtain ⟨hfront, hback⟩ := hheld
  have hsame : ∀ x y, x = s.stencilFront → y = s.stencilBack →
      ({ s.values with stencilFront := x, stencilBack := y } : ValueState) = s.values := by
    rintro _ _ rfl rfl
    rfl
  rcases hcases with rfl | rfl | rfl
  · exact hsame _ _ (hfix _ (hfront.resolve_left (by decide))) rfl
  · exact hsame _ _ rfl (hfix _ (hback.resolve_left (by decide)))
  · exact hsame _ _ (hfix _ (hfront.resolve_left (by decide)))
      (hfix _ (hback.resolve_left (by decide)))

theorem values_updateAttrib (hs : s.attribs.Sound) (index : UInt32)
    (f : VertexAttrib → VertexAttrib) (g : AttribState → AttribState)
    (hfg : g ⟨(s.attribs.get index.toNat).enabled, (s.attribs.get index.toNat).pointer⟩ =
      ⟨(f (s.attribs.get index.toNat)).enabled, (f (s.attribs.get index.toNat)).pointer⟩) :
    ({ s with attribs := s.attribs.update index.toNat f } : Shadow).values =
      s.values.onAttrib index g := by
  have hattribs : (fun i => (⟨((s.attribs.update index.toNat f).get i).enabled,
        ((s.attribs.update index.toNat f).get i).pointer⟩ : AttribState)) =
      update s.values.attribs index.toNat (g (s.values.attribs index.toNat)) := by
    funext i
    rw [AttribList.get_update hs, Function.update_apply]
    split
    · exact hfg.symm
    · rfl
  simp only [values, ValueState.onAttrib, hattribs]

theorem onAttrib_of_held {index : UInt32} {g : AttribState → AttribState}
    (hheld : g (s.values.attribs index.toNat) = s.values.attribs index.toNat) :
    s.values.onAttrib index g = s.values := by
  rw [ValueState.onAttrib, hheld, Function.update_eq_self]

theorem values_forget (hs : s.attribs.Sound) (cls : ObjectClass) (name : UInt32) :
    (s.forget cls name).values = s.values ∧ (s.forget cls name).attribs.Sound := by
  cases cls with
  | buffer =>
    refine ⟨?_, AttribList.forgetBuffer_sound hs name⟩
    have hattribs : (fun i => (⟨((s.attribs.forgetBuffer name).get i).enabled,
          ((s.attribs.forgetBuffer name).get i).pointer⟩ : AttribState)) = s.values.attribs := by
      funext i
      rw [AttribList.get_forgetBuffer hs]
      split <;> rfl
    simp only [forget, forgetBuffer, values, hattribs]
  | texture => exact ⟨rfl, hs⟩
  | framebuffer => exact ⟨rfl, hs⟩
  | renderbuffer => exact ⟨rfl, hs⟩

theorem values_setBinding (s : Shadow) (cls : ObjectClass) (target : Enum) (name : UInt32) :
    (s.setBinding cls target name).values = s.values ∧
      (s.setBinding cls target name).attribs = s.attribs := by
  cases cls <;> simp only [setBinding] <;> repeat' (split <;> try exact ⟨rfl, rfl⟩)

/-! Queries -/

/-- What is found in a part of a table is found in the table, if it has each key once. -/
theorem lookup_of_sublist {α β : Type} [BEq α] [LawfulBEq α] {l l' : List (α × β)}
    (hl : l'.Sublist l) (hn : (l.map Prod.fst).Nodup) {a : α} {b : β}
    (h : l'.lookup a = some b) : l.lookup a = some b := by
  induction hl with
  | slnil => exact h
  | @cons l' l p hl ih =>
    obtain ⟨hp, hn⟩ := List.nodup_cons.mp hn
    have hl := ih hn h
    have hne : (a == p.1) = false := by
      apply beq_eq_false_iff_ne.mpr
      rintro rfl
      obtain ⟨l₁, l₂, rfl, -⟩ := List.lookup_eq_some_iff.mp hl
      exact hp (by simp)
    rw [List.lookup_cons, hne]
    exact hl
  | @cons_cons l' l p hl ih =>
    rw [List.lookup_cons] at h ⊢
    split
    · next hp => rwa [hp] at h
    · next hp =>
      rw [hp] at h
      exact ih (List.nodup_cons.mp hn).2 h

theorem nodup_integers (s : Shadow) : (s.integers.map Prod.fst).Nodup := by
  have hkeys : s.integers.map Prod.fst = fresh.integers.map Prod.fst := rfl
  rw [hkeys]
  decide +kernel

theorem integers?_of_values {pname : Enum} {ints : List Int32}
    (hn : Capability.ofEnum? pname = none) (hv : s.values.integers? pname = some ints) :
    s.integers? pname = some ints := by
  simp only [ValueState.integers?, hn] at hv
  refine lookup_of_sublist ?_ s.nodup_integers hv
  exact .cons _ <| .cons _ <| .cons _ <| .cons _ <| .cons_cons _ <| .cons_cons _ <| .cons _ <|
    .cons _ <| .refl _

theorem ofPname?_of_values {pname : Enum} {ints : List Int32} {v : ValueState}
    (hv : v.integers? pname = some ints) : Limit.ofPname? pname = none := by
  cases hl : Limit.ofPname? pname with
  | none => rfl
  | some l =>
    have hp : l.pname = pname := by simpa using List.find?_some hl
    rw [← hp] at hv
    cases l <;> cases hv

end Shadow

end RenderRelay
