import RenderRelay.Proofs.Engine.Documented
import RenderRelay.Proofs.Engine.Mirror

/-!
# Comparing first

Most setters compare with the shadow before they look at their argument, so a value
that is held is never looked at. It need not be: what a context starts with is legal,
and what the driver is told is. To look first and compare then would come to the same.
-/

set_option autoImplicit false

namespace RenderRelay

/-! ## Values that setters accept -/

structure StencilFace.Legal (f : StencilFace) : Prop where
  func : f.test.func ∈ Legal.compareFuncs
  fail : f.actions.fail ∈ Legal.stencilOps
  zfail : f.actions.zfail ∈ Legal.stencilOps
  zpass : f.actions.zpass ∈ Legal.stencilOps

/-- Every value is one that its own setter accepts. A line width that is no number is
accepted. -/
structure ValueState.Legal (v : ValueState) : Prop where
  activeTexture : GL.texture0 ≤ v.activeTexture ∧ v.activeTexture ≤ GL.texture31
  blendEquations : v.blendEquations.rgb ∈ Legal.blendEquations ∧
    v.blendEquations.alpha ∈ Legal.blendEquations
  blendFactors : v.blendFactors.srcRgb ∈ Legal.blendFactors ∧
    v.blendFactors.dstRgb ∈ Legal.blendFactors ∧ v.blendFactors.srcAlpha ∈ Legal.blendFactors ∧
    v.blendFactors.dstAlpha ∈ Legal.blendFactors
  cullFace : v.cullFace ∈ Legal.faces
  frontFace : v.frontFace ∈ Legal.windings
  depthFunc : v.depthFunc ∈ Legal.compareFuncs
  mipmapHint : v.mipmapHint ∈ Legal.hintModes
  lineWidth : v.lineWidth.atMost .zero = false
  packAlignment : v.packAlignment ∈ Legal.alignments
  unpackAlignment : v.unpackAlignment ∈ Legal.alignments
  scissor : 0 ≤ v.scissor.width ∧ 0 ≤ v.scissor.height
  viewport : 0 ≤ v.viewport.width ∧ 0 ≤ v.viewport.height
  stencilFront : v.stencilFront.Legal
  stencilBack : v.stencilBack.Legal

theorem Single.atMost_of_isNaN {x y : Single} (h : x.isNaN = true) : x.atMost y = false := by
  simp [atMost, h]

theorem Single.atMost_of_below {x y : Single} (h : y.below x = true) : x.atMost y = false := by
  simp only [below, Bool.and_eq_true, decide_eq_true_eq] at h
  simp [atMost, h.2]

theorem Shadow.fresh_legal : fresh.values.Legal := by
  constructor
  case stencilFront | stencilBack => constructor <;> decide
  all_goals decide

namespace ValueState

variable {v : ValueState} {known : Limit → Int32}

theorem Legal.onFaces (h : v.Legal) (face : Enum) {f : StencilFace → StencilFace}
    (hf : ∀ x : StencilFace, x.Legal → (f x).Legal) : (v.onFaces face f).Legal := by
  unfold ValueState.onFaces
  split
  · exact { h with stencilFront := hf _ h.stencilFront }
  split
  · exact { h with stencilBack := hf _ h.stencilBack }
  split
  · exact { h with stencilFront := hf _ h.stencilFront, stencilBack := hf _ h.stencilBack }
  · exact h

theorem Legal.setCapability (h : v.Legal) (cap : Enum) (on : Bool) :
    (v.setCapability cap on).Legal := by
  unfold ValueState.setCapability
  split
  · exact { h with }
  · exact h

/-- A call with arguments that the driver may be told keeps values legal. -/
theorem Legal.after (h : v.Legal) {call : Call} (hc : call.Admitted known) :
    (v.after call).Legal := by
  rcases hc with hc | ⟨width, rfl, hn⟩
  · cases call with
    | activeTexture texture => exact { h with activeTexture := ⟨hc.1, hc.2.1⟩ }
    | blendEquation mode => exact { h with blendEquations := ⟨hc, hc⟩ }
    | blendEquationSeparate modes => exact { h with blendEquations := hc }
    | blendFunc src dst => exact { h with blendFactors := ⟨hc.1, hc.2, hc.1, hc.2⟩ }
    | blendFuncSeparate factors => exact { h with blendFactors := hc }
    | cullFace mode => exact { h with cullFace := hc }
    | frontFace mode => exact { h with frontFace := hc }
    | depthFunc func => exact { h with depthFunc := hc }
    | hint target mode =>
      show (if target = GL.generateMipmapHint then { v with mipmapHint := mode } else v).Legal
      split
      · exact { h with mipmapHint := hc }
      · exact h
    | lineWidth width => exact { h with lineWidth := Single.atMost_of_below hc }
    | pixelStorei pname param =>
      show (if pname = GL.packAlignment then { v with packAlignment := param }
        else if pname = GL.unpackAlignment then { v with unpackAlignment := param } else v).Legal
      split
      · exact { h with packAlignment := hc.2 }
      split
      · exact { h with unpackAlignment := hc.2 }
      · exact h
    | scissor box => exact { h with scissor := hc }
    | viewport box => exact { h with viewport := hc }
    | enable cap => exact h.setCapability cap true
    | disable cap => exact h.setCapability cap false
    | stencilFuncSeparate face test =>
      have hf : ∀ x : StencilFace, x.Legal → ({ x with test } : StencilFace).Legal :=
        fun _ hx => { hx with func := hc.2 }
      exact h.onFaces face hf
    | stencilMaskSeparate face mask =>
      have hf : ∀ x : StencilFace, x.Legal → ({ x with writemask := mask } : StencilFace).Legal :=
        fun _ hx => { hx with }
      exact h.onFaces face hf
    | stencilOpSeparate face actions =>
      have hf : ∀ x : StencilFace, x.Legal → ({ x with actions } : StencilFace).Legal :=
        fun _ hx => ⟨hx.func, hc.2.1, hc.2.2.1, hc.2.2.2⟩
      exact h.onFaces face hf
    | _ => exact { h with }
  · exact { h with lineWidth := Single.atMost_of_isNaN hn }

theorem Legal.afterAll (h : v.Legal) {calls : List Call}
    (hc : ∀ call ∈ calls, call.Admitted known) : (v.afterAll calls).Legal := by
  induction calls generalizing v with
  | nil => exact h
  | cons call calls ih =>
    obtain ⟨hcall, hcalls⟩ := List.forall_mem_cons.mp hc
    exact ih (h.after hcall) hcalls

end ValueState

theorem Shadow.activeUnit_of_legal {s : Shadow} (h : s.values.Legal) :
    s.activeUnit.val = s.activeTexture.toNat - GL.texture0.toNat := by
  obtain ⟨hlow, hhigh⟩ : GL.texture0 ≤ s.activeTexture ∧ s.activeTexture ≤ GL.texture31 :=
    h.activeTexture
  have hsub : (s.activeTexture - GL.texture0).toNat = s.activeTexture.toNat - GL.texture0.toNat :=
    UInt32.toNat_sub_of_le _ _ hlow
  have hhigh : s.activeTexture.toNat ≤ GL.texture31.toNat := UInt32.le_iff_toNat_le.mp hhigh
  have hfew : GL.texture31.toNat = GL.texture0.toNat + (textureUnitCount - 1) := rfl
  show min (s.activeTexture - GL.texture0).toNat (textureUnitCount - 1) = _
  rw [hsub]
  omega

/-! ## Setters that compare first -/

structure Check where
  /-- The shadow holds the value. -/
  held : Bool
  legal : Bool
  /-- What a value that is not legal comes to. -/
  error : Enum

namespace Check

variable {α : Type} [DecidableEq α] {held wanted : α} {accepts : α → Bool} {error : Enum}

def of (held wanted : α) (accepts : α → Bool) (error : Enum) : Check :=
  ⟨held = wanted, accepts wanted, error⟩

def free (held wanted : α) : Check := of held wanted (fun _ => true) GL.noError

/-- A value that is held is not looked at. -/
def comparing (t : Check) (next : Plan) : Plan :=
  if t.held then .elide else .require t.legal t.error next

/-- A value is looked at, held or not. -/
def validating (t : Check) (next : Plan) : Plan :=
  .require t.legal t.error (if t.held then .elide else next)

theorem comparing_of (next : Plan) : (of held wanted accepts error).comparing next =
    .unlessHeld held wanted (.require (accepts wanted) error next) := by
  simp only [of, comparing, Plan.unlessHeld, decide_eq_true_eq]

theorem comparing_free (next : Plan) :
    (free held wanted).comparing next = .unlessHeld held wanted next := comparing_of next

theorem legal_of (ha : accepts held = true) (h : (of held wanted accepts error).held = true) :
    (of held wanted accepts error).legal = true := by
  obtain rfl : held = wanted := of_decide_eq_true h
  exact ha

theorem comparing_eq_validating {t : Check} (h : t.held = true → t.legal = true) (next : Plan) :
    t.comparing next = t.validating next := by
  unfold comparing validating Plan.require
  cases hheld : t.held with
  | true => simp [h hheld]
  | false => simp

end Check

namespace Plan

/-- The shadow keeps one of the targets. -/
def hintCheck? (s : Shadow) (target mode : Enum) : Option Check :=
  if target = GL.generateMipmapHint then
    some (.of s.mipmapHint mode Legal.hintModes.contains GL.invalidEnum)
  else none

def alignmentCheck? (s : Shadow) (pname : Enum) (param : Int32) : Option Check :=
  if pname = GL.packAlignment then
    some (.of s.packAlignment param Legal.alignments.contains GL.invalidValue)
  else if pname = GL.unpackAlignment then
    some (.of s.unpackAlignment param Legal.alignments.contains GL.invalidValue)
  else none

def equationsCheck (s : Shadow) (modes : BlendEquations) : Check :=
  .of s.blendEquations modes (fun m => [m.rgb, m.alpha].all Legal.blendEquations.contains)
    GL.invalidEnum

def factorsCheck (s : Shadow) (factors : BlendFactors) : Check :=
  .of s.blendFactors factors
    (fun f => [f.srcRgb, f.dstRgb, f.srcAlpha, f.dstAlpha].all Legal.blendFactors.contains)
    GL.invalidEnum

/-- The checks of the setters that compare first. The unit that is made active is compared
with the driver's limit only after that. -/
def check? (s : Shadow) : Command → Option Check
  | .activeTexture texture =>
    some (.of s.activeTexture texture (fun t => GL.texture0 ≤ t && t ≤ GL.texture31)
      GL.invalidEnum)
  | .blendColor rgba => some (.free s.blendColor rgba.clampUnit)
  | .blendEquation mode => some (equationsCheck s ⟨mode, mode⟩)
  | .blendEquationSeparate rgb alpha => some (equationsCheck s ⟨rgb, alpha⟩)
  | .blendFunc src dst => some (factorsCheck s ⟨src, dst, src, dst⟩)
  | .blendFuncSeparate factors => some (factorsCheck s factors)
  | .clearColor rgba => some (.free s.clearColor rgba.clampUnit)
  | .clearDepthf depth => some (.free s.clearDepth depth.clampUnit)
  | .clearStencil value => some (.free s.clearStencil value)
  | .colorMask mask => some (.free s.colorMask mask)
  | .cullFace mode => some (.of s.cullFace mode Legal.faces.contains GL.invalidEnum)
  | .depthFunc func => some (.of s.depthFunc func Legal.compareFuncs.contains GL.invalidEnum)
  | .depthMask flag => some (.free s.depthMask flag)
  | .depthRangef near far => some (.free s.depthRange ⟨near.clampUnit, far.clampUnit⟩)
  | .frontFace mode => some (.of s.frontFace mode Legal.windings.contains GL.invalidEnum)
  | .hint target mode => hintCheck? s target mode
  | .lineWidth width => some (.of s.lineWidth width (!·.atMost .zero) GL.invalidValue)
  | .pixelStorei pname param => alignmentCheck? s pname param
  | .polygonOffset factor units => some (.free s.polygonOffset ⟨factor, units⟩)
  | .sampleCoverage value invert => some (.free s.sampleCoverage ⟨value.clampUnit, invert⟩)
  | .scissor box => some (.of s.scissor box hasExtent GL.invalidValue)
  | .viewport box => some (.of s.viewport box hasExtent GL.invalidValue)
  | _ => none

variable {s : Shadow} {c : Command} {t : Check}

theorem hint_comparing {target mode : Enum} (h : hintCheck? s target mode = some t) :
    ∃ next, t.comparing next = hint s target mode := by
  unfold hintCheck? at h
  unfold hint
  split at h
  · next ht =>
    obtain rfl := Option.some.inj h
    rw [if_pos ht]
    exact ⟨_, Check.comparing_of _⟩
  · cases h

theorem pixelStorei_comparing {pname : Enum} {param : Int32}
    (h : alignmentCheck? s pname param = some t) :
    ∃ next, t.comparing next = pixelStorei s pname param := by
  unfold alignmentCheck? at h
  unfold pixelStorei
  split at h
  · next hp =>
    obtain rfl := Option.some.inj h
    rw [if_pos hp]
    exact ⟨_, Check.comparing_of _⟩
  split at h
  · next hp hu =>
    obtain rfl := Option.some.inj h
    rw [if_neg hp, if_pos hu]
    exact ⟨_, Check.comparing_of _⟩
  · cases h

/-- Each of them compares before it looks. -/
theorem ofCommand_comparing (h : check? s c = some t) :
    ∃ next, t.comparing next = ofCommand s c := by
  cases c with
  | hint target mode => exact hint_comparing h
  | pixelStorei pname param => exact pixelStorei_comparing h
  | activeTexture _ | blendEquation _ | blendEquationSeparate _ _ | blendFunc _ _
  | blendFuncSeparate _ | cullFace _ | depthFunc _ | frontFace _ | lineWidth _ | scissor _
  | viewport _ =>
    obtain rfl := Option.some.inj h
    exact ⟨_, Check.comparing_of _⟩
  | blendColor _ | clearColor _ | clearDepthf _ | clearStencil _ | colorMask _ | depthMask _
  | depthRangef _ _ | polygonOffset _ _ | sampleCoverage _ _ =>
    obtain rfl := Option.some.inj h
    exact ⟨_, Check.comparing_free _⟩
  | _ => cases h

section Held

variable (hs : s.values.Legal) (hheld : t.held = true)
include hs hheld

theorem legal_of_hint_held {target mode : Enum} (h : hintCheck? s target mode = some t) :
    t.legal = true := by
  unfold hintCheck? at h
  split at h
  · obtain rfl := Option.some.inj h
    exact Check.legal_of (List.contains_iff_mem.mpr hs.mipmapHint) hheld
  · cases h

theorem legal_of_alignment_held {pname : Enum} {param : Int32}
    (h : alignmentCheck? s pname param = some t) : t.legal = true := by
  unfold alignmentCheck? at h
  split at h
  · obtain rfl := Option.some.inj h
    exact Check.legal_of (List.contains_iff_mem.mpr hs.packAlignment) hheld
  split at h
  · obtain rfl := Option.some.inj h
    exact Check.legal_of (List.contains_iff_mem.mpr hs.unpackAlignment) hheld
  · cases h

theorem legal_of_held (h : check? s c = some t) : t.legal = true := by
  cases c with
  | hint target mode => exact legal_of_hint_held hs hheld h
  | pixelStorei pname param => exact legal_of_alignment_held hs hheld h
  | activeTexture texture =>
    obtain rfl := Option.some.inj h
    refine Check.legal_of ?_ hheld
    simpa [Shadow.values] using hs.activeTexture
  | blendEquation _ | blendEquationSeparate _ _ =>
    obtain rfl := Option.some.inj h
    refine Check.legal_of ?_ hheld
    simpa [Shadow.values] using hs.blendEquations
  | blendFunc _ _ | blendFuncSeparate _ =>
    obtain rfl := Option.some.inj h
    refine Check.legal_of ?_ hheld
    simpa [Shadow.values] using hs.blendFactors
  | cullFace mode =>
    obtain rfl := Option.some.inj h
    exact Check.legal_of (List.contains_iff_mem.mpr hs.cullFace) hheld
  | depthFunc func =>
    obtain rfl := Option.some.inj h
    exact Check.legal_of (List.contains_iff_mem.mpr hs.depthFunc) hheld
  | frontFace mode =>
    obtain rfl := Option.some.inj h
    exact Check.legal_of (List.contains_iff_mem.mpr hs.frontFace) hheld
  | lineWidth width =>
    obtain rfl := Option.some.inj h
    refine Check.legal_of ?_ hheld
    simpa [Shadow.values] using hs.lineWidth
  | scissor box =>
    obtain rfl := Option.some.inj h
    refine Check.legal_of ?_ hheld
    simpa [hasExtent, Shadow.values] using hs.scissor
  | viewport box =>
    obtain rfl := Option.some.inj h
    refine Check.legal_of ?_ hheld
    simpa [hasExtent, Shadow.values] using hs.viewport
  | blendColor _ | clearColor _ | clearDepthf _ | clearStencil _ | colorMask _ | depthMask _
  | depthRangef _ _ | polygonOffset _ _ | sampleCoverage _ _ =>
    obtain rfl := Option.some.inj h
    rfl
  | _ => cases h

end Held

end Plan

theorem Scope.perform_of_check {δ : Type} [Driver δ] {s : Scope δ} {c : Command} {t : Check}
    (h : Plan.check? s.shadow c = some t) :
    s.perform c = (none, (Plan.ofCommand s.shadow c).run s) := by
  cases c <;> first | rfl | cases h

/-! ## Runs -/

theorem Traced.after_injective {δ : Type} [Driver δ] {t : Traced δ} {as bs : List Call}
    (h : Driver.after t as = Driver.after t bs) : as = bs := by
  have hcalls := congrArg Traced.calls h
  rw [t.calls_after, t.calls_after] at hcalls
  exact List.append_cancel_left hcalls

namespace Fleet

variable {δ : Type} [Driver δ]

/-- Values go along with what the driver is told, and that is legal. -/
theorem legal_keeping : Keeping (fun _ : Traced δ => True)
    fun _ shadow => shadow.attribs.Sound ∧ shadow.values.Legal where
  fresh := ⟨AttribList.empty_sound, Shadow.fresh_legal⟩
  perform _ _ _ := trivial
  enter ds e k c entry hk hc _ h := by
    obtain ⟨calls, hcar⟩ := Scope.enter_carries (s := e.scope k) h.1 entry c
    obtain ⟨told, hd, htold⟩ := (e.scope k).enter_tells hc
    obtain rfl : calls = told := Traced.after_injective (hcar.driver.symm.trans hd)
    refine ⟨trivial, hcar.sound, ?_⟩
    rw [hcar.values]
    exact h.2.afterAll htold

theorem traced_legal (d : δ) (names : NameTable) (moves : List Move) {h : Handle}
    {shadow : Shadow} (hs : (traced d names moves).ShadowAt h shadow) : shadow.values.Legal :=
  (((start_kept (d := (⟨d, []⟩ : Traced δ)) trivial names).run legal_keeping moves).kept h shadow
    hs).2

/-- After every run of any number of engines, each value that a shadow holds is one that its
setter accepts, and textures are bound to the unit that was named. So a value that is held
would be found legal, and each setter that compares first does what it would do if it looked
at its argument first and compared then: to the error, the shadow and the driver. -/
theorem run_compares (d : δ) (names : NameTable) (moves : List Move) {h : Handle}
    {shadow : Shadow} (hs : (traced d names moves).ShadowAt h shadow) :
    shadow.values.Legal ∧
      shadow.activeUnit.val = shadow.activeTexture.toNat - GL.texture0.toNat ∧
      ∀ c t, Plan.check? shadow c = some t →
        (t.held = true → t.legal = true) ∧
          ∃ next, Plan.ofCommand shadow c = t.comparing next ∧
            ∀ s : Scope (Traced δ), s.shadow = shadow →
              s.perform c = (none, (t.validating next).run s) := by
  have hl := traced_legal d names moves hs
  refine ⟨hl, Shadow.activeUnit_of_legal hl, fun c t ht => ?_⟩
  have hheld : t.held = true → t.legal = true := fun hheld => Plan.legal_of_held hl hheld ht
  obtain ⟨next, hnext⟩ := Plan.ofCommand_comparing ht
  refine ⟨hheld, next, hnext.symm, ?_⟩
  rintro s rfl
  rw [Scope.perform_of_check ht, ← hnext, Check.comparing_eq_validating hheld]

def resized : List Move :=
  [.execute 0 (.makeCurrent ⟨1⟩ ⟨3⟩ ⟨3⟩ ⟨7⟩), .execute 0 (.viewport ⟨0, 0, 4, 3⟩),
    .execute 0 (.viewport ⟨0, 0, -1, 3⟩), .execute 0 (.viewport ⟨0, 0, 4, 3⟩)]

theorem run_compares_of_resized :
    (traced ({} : Recorder) {} resized).server.driver.calls =
      [.makeCurrent ⟨1⟩ ⟨3⟩ ⟨3⟩ ⟨7⟩, .viewport ⟨0, 0, 4, 3⟩] ∧
    ∃ k, (traced ({} : Recorder) {} resized).out 0 = some k ∧
      k.shadow.viewport = ⟨0, 0, 4, 3⟩ ∧ k.shadow.values.Legal ∧
      ∃ next, Plan.ofCommand k.shadow (.viewport ⟨0, 0, -1, 3⟩) =
        Check.comparing ⟨false, false, GL.invalidValue⟩ next := by
  have hout : ((traced ({} : Recorder) {} resized).out 0).map (·.shadow.viewport) =
      some ⟨0, 0, 4, 3⟩ := by decide +kernel
  obtain ⟨k, hk, hviewport⟩ := Option.map_eq_some_iff.mp hout
  have hkept := (start_kept (d := (⟨{}, []⟩ : Traced Recorder)) trivial {}).run legal_keeping
    resized
  obtain ⟨hl, -, hsame⟩ := run_compares ({} : Recorder) {} resized
    (hkept.custody.shadowAt_of_out hk)
  obtain ⟨-, next, hnext, -⟩ := hsame (.viewport ⟨0, 0, -1, 3⟩) _ rfl
  refine ⟨by decide +kernel, k, hk, hviewport, hl, next, ?_⟩
  rw [hnext, hviewport]
  rfl

end Fleet

end RenderRelay
