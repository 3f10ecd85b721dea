import RenderRelay.Engine.Setters
import RenderRelay.Proofs.Shadow.Values

/-!
# What plans do to the value state

A command that sets state stands for one driver call. Its plan makes that call
and changes the shadow as the call changes the driver, or leaves the call out
where it would change nothing, or refuses it with an error. Every other plan
leaves the value state alone, in the shadow as in the driver.
-/

set_option autoImplicit false

namespace RenderRelay

def Command.setting? : Command → Option Call
  | activeTexture texture => some (.activeTexture texture)
  | blendColor rgba => some (.blendColor rgba.clampUnit)
  | blendEquation mode => some (.blendEquation mode)
  | blendEquationSeparate rgb alpha => some (.blendEquationSeparate ⟨rgb, alpha⟩)
  | blendFunc src dst => some (.blendFunc src dst)
  | blendFuncSeparate factors => some (.blendFuncSeparate factors)
  | clearColor rgba => some (.clearColor rgba.clampUnit)
  | clearDepthf depth => some (.clearDepthf depth.clampUnit)
  | clearStencil value => some (.clearStencil value)
  | colorMask mask => some (.colorMask mask)
  | cullFace mode => some (.cullFace mode)
  | depthFunc func => some (.depthFunc func)
  | depthMask flag => some (.depthMask flag)
  | depthRangef near far => some (.depthRangef ⟨near.clampUnit, far.clampUnit⟩)
  | enable cap => some (.enable cap)
  | disable cap => some (.disable cap)
  | frontFace mode => some (.frontFace mode)
  | hint target mode => some (.hint target mode)
  | lineWidth width => some (.lineWidth width)
  | pixelStorei pname param => some (.pixelStorei pname param)
  | polygonOffset factor units => some (.polygonOffset ⟨factor, units⟩)
  | sampleCoverage value invert => some (.sampleCoverage ⟨value.clampUnit, invert⟩)
  | scissor box => some (.scissor box)
  | viewport box => some (.viewport box)
  | stencilFunc test => some (.stencilFuncSeparate GL.frontAndBack test)
  | stencilFuncSeparate face test => some (.stencilFuncSeparate face test)
  | stencilMask mask => some (.stencilMaskSeparate GL.frontAndBack mask)
  | stencilMaskSeparate face mask => some (.stencilMaskSeparate face mask)
  | stencilOp actions => some (.stencilOpSeparate GL.frontAndBack actions)
  | stencilOpSeparate face actions => some (.stencilOpSeparate face actions)
  | useProgram program => some (.useProgram program)
  | enableVertexAttribArray index => some (.enableVertexAttribArray index)
  | disableVertexAttribArray index => some (.disableVertexAttribArray index)
  | vertexAttribPointer index pointer => some (.vertexAttribPointer index pointer)
  | _ => none

namespace Plan

def Changes (s : Shadow) (change : Shadow → Shadow) (call : Call) : Prop :=
  ∀ l : Limits, (change { s with limits := l }).attribs.Sound ∧
    (change { s with limits := l }).values = s.values.after call

/-- What a plan for a command that stands for the call `want`, or for none,
has to be like on the shadow `s`. -/
def Carries (s : Shadow) (want : Option Call) : Plan → Prop
  | rest => want = none
  | elide => ∀ call ∈ want, s.values.after call = s.values
  | reject error => error ≠ GL.noError
  | apply change call => Changes s change call ∧ ∀ k ∈ want, k = call
  | submit change call => Changes s change call ∧ ∀ k ∈ want, k = call
  | consult _ next => ∀ value, (next value).Carries s want

variable {s : Shadow} {want : Option Call} {call : Call} {next : Plan}

theorem carries_checkEnum {ok : Bool} (h : ok = true → next.Carries s want) :
    (checkEnum ok next).Carries s want := by
  unfold checkEnum require
  split
  · next hok => exact h hok
  · show GL.invalidEnum ≠ GL.noError
    decide

theorem carries_checkValue {ok : Bool} (h : ok = true → next.Carries s want) :
    (checkValue ok next).Carries s want := by
  unfold checkValue require
  split
  · next hok => exact h hok
  · show GL.invalidValue ≠ GL.noError
    decide

theorem carries_unlessHeld {α : Type} [DecidableEq α] {held wanted : α}
    (hheld : held = wanted → s.values.after call = s.values)
    (h : next.Carries s (some call)) : (unlessHeld held wanted next).Carries s (some call) := by
  unfold unlessHeld
  split
  · next he =>
    intro k hk
    rw [← Option.some.inj hk]
    exact hheld he
  · exact h

theorem carries_apply {change : Shadow → Shadow} (h : Changes s change call) :
    (apply change call).Carries s (some call) :=
  ⟨h, fun _ hk => (Option.some.inj hk).symm⟩

theorem carries_submit {change : Shadow → Shadow} (h : Changes s change call) :
    (submit change call).Carries s (some call) :=
  ⟨h, fun _ hk => (Option.some.inj hk).symm⟩

theorem carries_pass {change : Shadow → Shadow} (h : Changes s change call) :
    (submit change call).Carries s none :=
  ⟨h, fun _ hk => by cases hk⟩

theorem changes_of_values (hs : s.attribs.Sound) {change : Shadow → Shadow}
    (hattribs : ∀ t, (change t).attribs = t.attribs)
    (hvalues : ∀ l : Limits, (change { s with limits := l }).values = s.values.after call) :
    Changes s change call := by
  intro l
  rw [hattribs]
  exact ⟨hs, hvalues l⟩

variable (hs : s.attribs.Sound)
include hs

/-! Fixed state -/

theorem carries_set {change : Shadow → Shadow}
    (hattribs : ∀ t, (change t).attribs = t.attribs)
    (hvalues : ∀ l : Limits, (change { s with limits := l }).values = s.values.after call) :
    (apply change call).Carries s (some call) :=
  carries_apply (changes_of_values hs hattribs hvalues)

theorem carries_through {change : Shadow → Shadow}
    (hattribs : ∀ t, (change t).attribs = t.attribs)
    (hvalues : ∀ l : Limits, (change { s with limits := l }).values = s.values.after call) :
    (submit change call).Carries s none :=
  carries_pass (changes_of_values hs hattribs hvalues)

theorem setCapability_carries (cap : Enum) (on : Bool) :
    (setCapability s cap on).Carries s (some (if on then .enable cap else .disable cap)) := by
  have hafter : ∀ t : Shadow, t.values.after (if on then .enable cap else .disable cap) =
      t.values.setCapability cap on := by
    cases on <;> exact fun _ => rfl
  unfold setCapability
  generalize (if on then Call.enable cap else Call.disable cap) = call at hafter ⊢
  split
  · show GL.invalidEnum ≠ GL.noError
    decide
  · next c hc =>
    apply carries_unlessHeld
    · intro hheld
      rw [hafter]
      exact Shadow.setCapability_of_held hc hheld
    · refine carries_set hs (fun _ => rfl) fun l => ?_
      rw [hafter]
      exact Shadow.values_setCapability { s with limits := l } hc on

theorem hint_carries (target mode : Enum) :
    (hint s target mode).Carries s (some (.hint target mode)) := by
  unfold hint
  split
  · next ht =>
    have hafter : ∀ v : ValueState, v.after (.hint target mode) = { v with mipmapHint := mode } :=
      fun v => if_pos ht
    refine carries_unlessHeld ?_ (carries_checkEnum fun _ => carries_set hs (fun _ => rfl) ?_)
    · rintro rfl
      exact hafter _
    · intro l
      rw [hafter]
      rfl
  · next ht =>
    have hafter : ∀ v : ValueState, v.after (.hint target mode) = v := fun v => if_neg ht
    refine carries_checkEnum fun _ => carries_submit (changes_of_values hs (fun _ => rfl) ?_)
    intro l
    rw [hafter]
    rfl

theorem pixelStorei_carries (pname : Enum) (param : Int32) :
    (pixelStorei s pname param).Carries s (some (.pixelStorei pname param)) := by
  unfold pixelStorei
  split
  · next hp =>
    have hafter : ∀ v : ValueState, v.after (.pixelStorei pname param) =
        { v with packAlignment := param } := fun v => if_pos hp
    refine carries_unlessHeld ?_ (carries_checkValue fun _ => carries_set hs (fun _ => rfl) ?_)
    · rintro rfl
      exact hafter _
    · intro l
      rw [hafter]
      rfl
  · next hp =>
    split
    · next hu =>
      have hafter : ∀ v : ValueState, v.after (.pixelStorei pname param) =
          { v with unpackAlignment := param } := fun v => (if_neg hp).trans (if_pos hu)
      refine carries_unlessHeld ?_ (carries_checkValue fun _ => carries_set hs (fun _ => rfl) ?_)
      · rintro rfl
        exact hafter _
      · intro l
        rw [hafter]
        rfl
    · show GL.invalidEnum ≠ GL.noError
      decide

/-! Stencil state -/

/-- A face stands for one side or for both, in the plan as in the call. -/
theorem stencil_carries {face : Enum} {holds : StencilFace → Bool}
    {change : StencilFace → StencilFace} (hfix : ∀ x, holds x = true → change x = x)
    (hafter : ∀ v : ValueState, v.after call = v.onFaces face change) :
    (stencil s face holds change call).Carries s (some call) := by
  refine carries_checkEnum fun hf => carries_unlessHeld ?_ (carries_set hs (fun _ => rfl) ?_)
  · intro hheld
    rw [hafter]
    exact Shadow.onFaces_of_held hf hfix hheld
  · intro l
    rw [hafter]
    exact Shadow.values_updateStencil { s with limits := l } hf change

theorem stencilFunc_carries (face : Enum) (test : StencilTest) :
    (stencilFunc s face test).Carries s (some (.stencilFuncSeparate face test)) := by
  refine carries_checkEnum fun _ => stencil_carries hs ?_ fun _ => rfl
  intro x hx
  rw [← of_decide_eq_true hx]

theorem stencilMask_carries (face : Enum) (mask : UInt32) :
    (stencilMask s face mask).Carries s (some (.stencilMaskSeparate face mask)) := by
  refine stencil_carries hs ?_ fun _ => rfl
  intro x hx
  rw [← of_decide_eq_true hx]

theorem stencilOp_carries (face : Enum) (actions : StencilActions) :
    (stencilOp s face actions).Carries s (some (.stencilOpSeparate face actions)) := by
  refine carries_checkEnum fun _ => stencil_carries hs ?_ fun _ => rfl
  intro x hx
  rw [← of_decide_eq_true hx]

/-! Vertex attributes -/

theorem setAttribArray_carries (index : UInt32) (on : Bool) :
    (setAttribArray s index on).Carries s
      (some (if on then .enableVertexAttribArray index else .disableVertexAttribArray index)) := by
  have hafter : ∀ v : ValueState,
      v.after (if on then .enableVertexAttribArray index else .disableVertexAttribArray index) =
        v.onAttrib index ({ · with enabled := on }) := by
    cases on <;> exact fun _ => rfl
  refine fun _ => carries_checkValue fun _ => carries_unlessHeld ?_ (carries_apply fun l => ?_)
  · rintro rfl
    rw [hafter]
    exact Shadow.onAttrib_of_held rfl
  · have hsound := AttribList.update_sound hs index.toNat ({ · with enabled := on })
    rw [hafter]
    exact ⟨hsound, Shadow.values_updateAttrib (s := { s with limits := l }) hs index _ _ rfl⟩

theorem vertexAttribPointer_carries (index : UInt32) (pointer : AttribPointer) :
    (vertexAttribPointer s index pointer).Carries s
      (some (.vertexAttribPointer index pointer)) := by
  have hafter : ∀ v : ValueState, v.after (.vertexAttribPointer index pointer) =
      v.onAttrib index ({ · with pointer }) := fun _ => rfl
  refine fun _ => carries_checkValue fun _ => carries_checkValue fun _ => carries_checkEnum fun _ =>
    carries_checkValue fun _ => carries_unlessHeld ?_ (carries_apply fun l => ?_)
  · intro hheld
    have hpointer : (s.attribs.get index.toNat).pointer = pointer := by rw [hheld]
    rw [hafter, ← hpointer]
    exact Shadow.onAttrib_of_held rfl
  · -- The descriptor that goes in is the one held but for its pointer and buffer.
    let wanted : VertexAttrib :=
      { s.attribs.get index.toNat with pointer, buffer := s.arrayBuffer }
    have hsound := AttribList.update_sound hs index.toNat fun _ => wanted
    have hvalues := Shadow.values_updateAttrib (s := { s with limits := l }) hs index
      (fun _ => wanted) ({ · with pointer }) rfl
    rw [hafter]
    exact ⟨hsound, hvalues⟩

/-! All of them -/

theorem texImage2D_carries (image : TexImage) : (texImage2D s image).Carries s none := by
  refine carries_checkEnum fun _ => carries_checkValue fun _ _ => carries_checkValue fun _ =>
    carries_checkEnum fun _ => carries_checkEnum fun _ => ?_
  split
  · show GL.invalidOperation ≠ GL.noError
    decide
  · exact carries_checkValue fun _ => carries_through hs (fun _ => rfl) fun _ => rfl

/-- The plan of a command makes its call, or leaves it out where it would change
nothing, or refuses it. -/
theorem ofCommand_carries (c : Command) : (ofCommand s c).Carries s c.setting? := by
  cases c with
  | activeTexture texture =>
    exact carries_unlessHeld (fun h => h ▸ rfl) <| carries_checkEnum fun _ _ =>
      carries_checkEnum fun _ => carries_set hs (fun _ => rfl) fun _ => rfl
  | blendEquation mode =>
    refine carries_unlessHeld (fun h => ?_) <| carries_checkEnum fun _ =>
      carries_set hs (fun _ => rfl) fun _ => rfl
    show { s.values with blendEquations := ⟨mode, mode⟩ } = s.values
    rw [← h]
    rfl
  | blendFunc src dst =>
    refine carries_unlessHeld (fun h => ?_) <| carries_checkEnum fun _ =>
      carries_set hs (fun _ => rfl) fun _ => rfl
    show { s.values with blendFactors := ⟨src, dst, src, dst⟩ } = s.values
    rw [← h]
    rfl
  | blendEquationSeparate rgb alpha | blendFuncSeparate factors | cullFace mode | depthFunc func
  | frontFace mode =>
    exact carries_unlessHeld (fun h => h ▸ rfl) <| carries_checkEnum fun _ =>
      carries_set hs (fun _ => rfl) fun _ => rfl
  | blendColor rgba | clearColor rgba | clearDepthf depth | clearStencil value | colorMask mask
  | depthMask flag | depthRangef near far | polygonOffset factor units
  | sampleCoverage value invert =>
    exact carries_unlessHeld (fun h => h ▸ rfl) <| carries_set hs (fun _ => rfl) fun _ => rfl
  | lineWidth width | scissor box | viewport box =>
    exact carries_unlessHeld (fun h => h ▸ rfl) <| carries_checkValue fun _ =>
      carries_set hs (fun _ => rfl) fun _ => rfl
  | enable cap => exact setCapability_carries hs cap true
  | disable cap => exact setCapability_carries hs cap false
  | hint target mode => exact hint_carries hs target mode
  | pixelStorei pname param => exact pixelStorei_carries hs pname param
  | stencilFunc test => exact stencilFunc_carries hs GL.frontAndBack test
  | stencilFuncSeparate face test => exact stencilFunc_carries hs face test
  | stencilMask mask => exact stencilMask_carries hs GL.frontAndBack mask
  | stencilMaskSeparate face mask => exact stencilMask_carries hs face mask
  | stencilOp actions => exact stencilOp_carries hs GL.frontAndBack actions
  | stencilOpSeparate face actions => exact stencilOp_carries hs face actions
  | useProgram program =>
    exact carries_unlessHeld (fun h => h ▸ rfl) <|
      carries_submit (changes_of_values hs (fun _ => rfl) fun _ => rfl)
  | enableVertexAttribArray index => exact setAttribArray_carries hs index true
  | disableVertexAttribArray index => exact setAttribArray_carries hs index false
  | vertexAttribPointer index pointer => exact vertexAttribPointer_carries hs index pointer
  | bufferData target data size usage =>
    exact carries_checkEnum fun _ => carries_checkValue fun _ => carries_checkEnum fun _ =>
      carries_checkValue fun _ => carries_through hs (fun _ => rfl) fun _ => rfl
  | bufferSubData target offset data =>
    exact carries_checkEnum fun _ => carries_checkValue fun _ =>
      carries_through hs (fun _ => rfl) fun _ => rfl
  | texImage2D image => exact texImage2D_carries hs image
  | texParameteri target pname param | generateMipmap target =>
    exact carries_checkEnum fun _ => carries_through hs (fun _ => rfl) fun _ => rfl
  | shaderSource shader sources | compileShader shader | attachShader program shader
  | linkProgram program | deleteProgram program | flush | finish =>
    exact carries_through hs (fun _ => rfl) fun _ => rfl
  | drawArrays mode first count =>
    exact carries_checkEnum fun _ => carries_checkValue fun _ =>
      carries_through hs (fun _ => rfl) fun _ => rfl
  | drawElements mode count type offset =>
    exact carries_checkEnum fun _ => carries_checkValue fun _ => carries_checkEnum fun _ =>
      carries_through hs (fun _ => rfl) fun _ => rfl
  | clear mask => exact carries_checkValue fun _ => carries_through hs (fun _ => rfl) fun _ => rfl
  | _ => exact rfl

end Plan

end RenderRelay
