import RenderRelay.Driver.Recorder
import RenderRelay.Proofs.Engine.Conservation
import RenderRelay.Proofs.Engine.Refusals

/-!
# What the driver is told

The arguments of a rendering command are looked at before its call is made.
Whatever clients send, the driver is told values that the interface names, in
the ranges it gives them, below the limits that the context goes by. One kind
of value gets past: a line width that is not a number is neither zero nor less.
-/

set_option autoImplicit false

namespace RenderRelay

/-! ## Documented arguments -/

def ObjectClass.targets : ObjectClass → List Enum
  | buffer => Legal.bufferTargets
  | texture => Legal.textureTargets
  | framebuffer => [GL.framebuffer]
  | renderbuffer => [GL.renderbuffer]

/-- The limit that the context goes by: what the driver has answered, or the minimum. -/
def Shadow.known (s : Shadow) (l : Limit) : Int32 := (s.limits.cached? l).getD l.minimum

theorem Shadow.known_eq {s t : Shadow} (h : t.limits = s.limits) : t.known = s.known := by
  unfold known
  rw [h]

namespace Call

/-- The arguments are documented ones, in a context that goes by the limits `known`. Some
are left to the driver: the target of a hint, the internal format of an image, what is set
of a texture. -/
def Documented (known : Limit → Int32) : Call → Prop
  | activeTexture texture =>
    GL.texture0 ≤ texture ∧ texture ≤ GL.texture31 ∧
      ((texture - GL.texture0).toNat : Int) < (known .maxCombinedTextureImageUnits).toInt
  | blendEquation mode => mode ∈ Legal.blendEquations
  | blendEquationSeparate modes =>
    modes.rgb ∈ Legal.blendEquations ∧ modes.alpha ∈ Legal.blendEquations
  | blendFunc src dst => src ∈ Legal.blendFactors ∧ dst ∈ Legal.blendFactors
  | blendFuncSeparate factors =>
    factors.srcRgb ∈ Legal.blendFactors ∧ factors.dstRgb ∈ Legal.blendFactors ∧
      factors.srcAlpha ∈ Legal.blendFactors ∧ factors.dstAlpha ∈ Legal.blendFactors
  | cullFace mode => mode ∈ Legal.faces
  | depthFunc func => func ∈ Legal.compareFuncs
  | enable cap | disable cap => cap ∈ Capability.all.map Capability.enumerant
  | frontFace mode => mode ∈ Legal.windings
  | hint _ mode => mode ∈ Legal.hintModes
  | lineWidth width => Single.zero.below width
  | pixelStorei pname param =>
    (pname = GL.packAlignment ∨ pname = GL.unpackAlignment) ∧ param ∈ Legal.alignments
  | scissor box | viewport box => 0 ≤ box.width ∧ 0 ≤ box.height
  | stencilFuncSeparate face test => face ∈ Legal.faces ∧ test.func ∈ Legal.compareFuncs
  | stencilMaskSeparate face _ => face ∈ Legal.faces
  | stencilOpSeparate face actions =>
    face ∈ Legal.faces ∧ actions.fail ∈ Legal.stencilOps ∧ actions.zfail ∈ Legal.stencilOps ∧
      actions.zpass ∈ Legal.stencilOps
  | bind cls target _ => target ∈ cls.targets
  | bufferData target size data usage =>
    target ∈ Legal.bufferTargets ∧ 0 ≤ size ∧ usage ∈ Legal.bufferUsages ∧
      ∀ bytes ∈ data, size.toInt ≤ bytes.length
  | bufferSubData target offset _ => target ∈ Legal.bufferTargets ∧ 0 ≤ offset
  | texImage2D image =>
    image.target ∈ Legal.imageTargets ∧ 0 ≤ image.level ∧ 0 ≤ image.width ∧ 0 ≤ image.height ∧
      image.border = 0 ∧
      (∀ l ∈ (Command.texImage2D image).limit?, image.width ≤ known l ∧ image.height ≤ known l) ∧
      image.format ∈ Legal.pixelFormats ∧ image.type ∈ Legal.pixelTypes ∧
      (Image.pixelSize? image.format image.type).isSome
  | texParameteri target _ _ | generateMipmap target => target ∈ Legal.textureTargets
  | checkFramebufferStatus target => target = GL.framebuffer
  | createShader kind => kind ∈ Legal.shaderKinds
  | enableVertexAttribArray index | disableVertexAttribArray index =>
    (index.toNat : Int) < (known .maxVertexAttribs).toInt
  | vertexAttribPointer index pointer =>
    (index.toNat : Int) < (known .maxVertexAttribs).toInt ∧ 1 ≤ pointer.size ∧
      pointer.size ≤ 4 ∧ pointer.type ∈ Legal.attribTypes ∧ 0 ≤ pointer.stride
  | drawArrays mode first count => mode ∈ Legal.drawModes ∧ 0 ≤ first ∧ 0 ≤ count
  | drawElements mode count type _ =>
    mode ∈ Legal.drawModes ∧ 0 ≤ count ∧ type ∈ Legal.indexTypes
  | clear mask => mask &&& ~~~Legal.clearBits = 0
  | _ => True

/-- The arguments are documented, but a line width need not be a number. -/
def Admitted (known : Limit → Int32) (call : Call) : Prop :=
  call.Documented known ∨ ∃ width, call = .lineWidth width ∧ width.isNaN = true

end Call

theorem Single.below_or_isNaN {x : Single} (h : (!x.atMost .zero) = true) :
    Single.zero.below x = true ∨ x.isNaN = true := by
  cases hn : x.isNaN with
  | true => exact .inr rfl
  | false =>
    have hz : Single.zero.isNaN = false := rfl
    simp only [Single.atMost, hn, hz, Bool.not_false, Bool.true_and, Bool.not_eq_true',
      decide_eq_false_iff_not, Int.not_le] at h
    simpa [Single.below, hn, hz] using h

def EntryPoint.unrestricted : EntryPoint → Bool
  | activeTexture | blendEquation | blendEquationSeparate | blendFunc | blendFuncSeparate
  | cullFace | depthFunc | enable | disable | frontFace | hint | lineWidth | pixelStorei | scissor
  | viewport | stencilFuncSeparate | stencilMaskSeparate | stencilOpSeparate | bind _ | bufferData
  | bufferSubData | texImage2D | texParameteri | generateMipmap | checkFramebufferStatus
  | createShader | enableVertexAttribArray | disableVertexAttribArray | vertexAttribPointer
  | drawArrays | drawElements | clear => false
  | _ => true

theorem EntryPoint.unrestricted_of_egl {entry : EntryPoint} (h : entry.library = .egl) :
    entry.unrestricted = true := by
  cases entry <;> first | rfl | cases h

namespace Call

variable {known : Limit → Int32} {call : Call}

theorem documented_of_unrestricted (h : call.entry.unrestricted = true) :
    call.Documented known := by
  cases call <;> trivial

theorem admitted_of_makes {entry : EntryPoint} (h : Command.Makes entry call)
    (hu : entry.unrestricted = true) : call.Admitted known := by
  refine .inl (documented_of_unrestricted ?_)
  rcases h with rfl | hg | ⟨cls, -, hg⟩
  · exact hu
  · rw [hg]
    rfl
  · rw [hg]
    rfl

end Call

/-! ## Plans -/

namespace Plan

variable {known : Limit → Int32} {next : Plan}

def Admits (known : Limit → Int32) : Plan → Prop
  | rest | elide | reject _ => True
  | apply change call | submit change call =>
    (∀ s, (change s).limits = s.limits) ∧ call.Admitted known
  | consult limit next => (next (known limit)).Admits known

@[simp] theorem admits_require {ok : Bool} {error : Enum} :
    (require ok error next).Admits known ↔ (ok = true → next.Admits known) := by
  unfold require
  cases ok <;> simp [Admits]

@[simp] theorem admits_checkEnum {ok : Bool} :
    (checkEnum ok next).Admits known ↔ (ok = true → next.Admits known) := admits_require

@[simp] theorem admits_checkValue {ok : Bool} :
    (checkValue ok next).Admits known ↔ (ok = true → next.Admits known) := admits_require

@[simp] theorem admits_unlessHeld {α : Type} [DecidableEq α] {held wanted : α} :
    (unlessHeld held wanted next).Admits known ↔ (held ≠ wanted → next.Admits known) := by
  unfold unlessHeld
  split <;> simp_all [Admits]

@[simp] theorem admits_consult {limit : Limit} {next : Int32 → Plan} :
    (consult limit next).Admits known ↔ (next (known limit)).Admits known := Iff.rfl

theorem admits_apply {change : Shadow → Shadow} {call : Call}
    (hc : call.Documented known) (hl : ∀ s, (change s).limits = s.limits) :
    (apply change call).Admits known := ⟨hl, .inl hc⟩

theorem admits_through {call : Call} (hc : call.Documented known) :
    (submit id call).Admits known := ⟨fun _ => rfl, .inl hc⟩

/-- The units that have a name are few, so their numbers are the same signed and unsigned. -/
theorem toInt32_unit {texture : Enum} (h : texture ≤ GL.texture31) (h' : GL.texture0 ≤ texture) :
    (texture - GL.texture0).toInt32.toInt = (texture - GL.texture0).toNat := by
  have hsub : (texture - GL.texture0).toNat = texture.toNat - GL.texture0.toNat :=
    UInt32.toNat_sub_of_le texture GL.texture0 h'
  have hhigh : texture.toNat ≤ GL.texture31.toNat := UInt32.le_iff_toNat_le.mp h
  have hfew : GL.texture31.toNat - GL.texture0.toNat = 31 := rfl
  refine BitVec.toInt_eq_toNat_of_lt ?_
  show 2 * (texture - GL.texture0).toNat < 2 ^ 32
  omega

theorem activeTexture_admits (s : Shadow) (texture : Enum) :
    (activeTexture s texture).Admits known := by
  simp only [activeTexture, admits_unlessHeld, admits_checkEnum, admits_consult,
    Bool.and_eq_true, decide_eq_true_eq]
  rintro - ⟨hlow, hhigh⟩ hunit
  refine admits_apply ⟨hlow, hhigh, ?_⟩ fun _ => rfl
  rw [← toInt32_unit hhigh hlow]
  exact Int32.lt_iff_toInt_lt.mp hunit

theorem blendEquations_admits (s : Shadow) (modes : BlendEquations) {call : Call}
    (hc : modes.rgb ∈ Legal.blendEquations → modes.alpha ∈ Legal.blendEquations →
      call.Documented known) : (blendEquations s modes call).Admits known := by
  simp only [blendEquations, admits_unlessHeld, admits_checkEnum, List.all_cons, List.all_nil,
    Bool.and_true, Bool.and_eq_true, List.contains_iff_mem]
  exact fun _ h => admits_apply (hc h.1 h.2) fun _ => rfl

theorem blendFactors_admits (s : Shadow) (factors : BlendFactors) {call : Call}
    (hc : factors.srcRgb ∈ Legal.blendFactors → factors.dstRgb ∈ Legal.blendFactors →
      factors.srcAlpha ∈ Legal.blendFactors → factors.dstAlpha ∈ Legal.blendFactors →
        call.Documented known) : (blendFactors s factors call).Admits known := by
  simp only [blendFactors, admits_unlessHeld, admits_checkEnum, List.all_cons, List.all_nil,
    Bool.and_true, Bool.and_eq_true, List.contains_iff_mem]
  rintro - ⟨hsrc, hdst, hsrc', hdst'⟩
  exact admits_apply (hc hsrc hdst hsrc' hdst') fun _ => rfl

theorem setCapability_admits (s : Shadow) (cap : Enum) (on : Bool) :
    (setCapability s cap on).Admits known := by
  unfold setCapability
  split
  · trivial
  · next c hc =>
    have hcap : cap ∈ Capability.all.map Capability.enumerant :=
      List.mem_map.mpr ⟨c, List.mem_of_find?_eq_some hc, Capability.enumerant_of_ofEnum? hc⟩
    rw [admits_unlessHeld]
    refine fun _ => admits_apply ?_ fun _ => rfl
    cases on <;> exact hcap

theorem hint_admits (s : Shadow) (target mode : Enum) : (hint s target mode).Admits known := by
  unfold hint
  split <;> simp only [admits_unlessHeld, admits_checkEnum, List.contains_iff_mem]
  · exact fun _ h => admits_apply h fun _ => rfl
  · exact fun h => admits_through h

theorem lineWidth_admits (s : Shadow) (width : Single) : (lineWidth s width).Admits known := by
  rw [lineWidth, admits_unlessHeld, admits_checkValue]
  refine fun _ h => ⟨fun _ => rfl, ?_⟩
  exact (Single.below_or_isNaN h).imp id fun hn => ⟨width, rfl, hn⟩

theorem pixelStorei_admits (s : Shadow) (pname : Enum) (param : Int32) :
    (pixelStorei s pname param).Admits known := by
  unfold pixelStorei
  split
  · next hp =>
    rw [admits_unlessHeld, admits_checkValue, List.contains_iff_mem]
    exact fun _ h => admits_apply ⟨.inl hp, h⟩ fun _ => rfl
  · split
    · next hp =>
      rw [admits_unlessHeld, admits_checkValue, List.contains_iff_mem]
      exact fun _ h => admits_apply ⟨.inr hp, h⟩ fun _ => rfl
    · trivial

theorem stencil_admits (s : Shadow) (face : Enum) (holds : StencilFace → Bool)
    (change : StencilFace → StencilFace) {call : Call}
    (hc : face ∈ Legal.faces → call.Documented known) :
    (stencil s face holds change call).Admits known := by
  rw [stencil, admits_checkEnum, admits_unlessHeld, List.contains_iff_mem]
  exact fun hf _ => admits_apply (hc hf) fun _ => rfl

theorem bufferData_admits (target : Enum) (data : Option Bytes) (size : Int64) (usage : Enum) :
    (bufferData target data size usage).Admits known := by
  simp only [bufferData, admits_checkEnum, admits_checkValue, List.contains_iff_mem,
    decide_eq_true_eq]
  intro htarget hsize husage hdata
  refine admits_through ⟨htarget, hsize, husage, fun bytes hb => ?_⟩
  exact of_decide_eq_true ((Option.all_eq_true _ _).mp hdata bytes hb)

theorem texImage2D_admits (s : Shadow) (image : TexImage) :
    (texImage2D s image).Admits known := by
  simp only [texImage2D, admits_checkEnum, admits_checkValue, admits_consult,
    List.contains_iff_mem, Bool.and_eq_true, decide_eq_true_eq, beq_iff_eq]
  rintro htarget ⟨⟨⟨hlevel, hwidth⟩, hheight⟩, hborder⟩ hmax hformat htype
  split
  · trivial
  · next pixel hp =>
    rw [admits_checkValue]
    refine fun _ => admits_through
      ⟨htarget, hlevel, hwidth, hheight, hborder, ?_, hformat, htype, ?_⟩
    · rintro l hl
      cases hl
      exact hmax
    · rw [hp]
      rfl

theorem setAttribArray_admits (s : Shadow) (index : UInt32) (on : Bool) :
    (setAttribArray s index on).Admits known := by
  simp only [setAttribArray, checkAttribIndex, admits_consult, admits_checkValue,
    admits_unlessHeld, decide_eq_true_eq]
  refine fun h _ => admits_apply ?_ fun _ => rfl
  cases on <;> exact h

theorem vertexAttribPointer_admits (s : Shadow) (index : UInt32) (pointer : AttribPointer) :
    (vertexAttribPointer s index pointer).Admits known := by
  simp only [vertexAttribPointer, checkAttribIndex, admits_consult, admits_checkEnum,
    admits_checkValue, admits_unlessHeld, List.contains_iff_mem, Bool.and_eq_true,
    decide_eq_true_eq]
  rintro hindex ⟨hsize, hsize'⟩ htype hstride -
  exact admits_apply ⟨hindex, hsize, hsize', htype, hstride⟩ fun _ => rfl

/-- Whatever the command and its arguments, and whatever the limits. -/
theorem ofCommand_admits (s : Shadow) (c : Command) : (ofCommand s c).Admits known := by
  cases c with
  | activeTexture texture => exact activeTexture_admits s texture
  | blendEquation mode => exact blendEquations_admits s _ fun h _ => h
  | blendEquationSeparate rgb alpha => exact blendEquations_admits s _ fun h h' => ⟨h, h'⟩
  | blendFunc src dst => exact blendFactors_admits s _ fun h h' _ _ => ⟨h, h'⟩
  | blendFuncSeparate factors =>
    exact blendFactors_admits s factors fun h h' k k' => ⟨h, h', k, k'⟩
  | enable cap => exact setCapability_admits s cap true
  | disable cap => exact setCapability_admits s cap false
  | hint target mode => exact hint_admits s target mode
  | lineWidth width => exact lineWidth_admits s width
  | pixelStorei pname param => exact pixelStorei_admits s pname param
  | bufferData target data size usage => exact bufferData_admits target data size usage
  | texImage2D image => exact texImage2D_admits s image
  | enableVertexAttribArray index => exact setAttribArray_admits s index true
  | disableVertexAttribArray index => exact setAttribArray_admits s index false
  | vertexAttribPointer index pointer => exact vertexAttribPointer_admits s index pointer
  | cullFace mode | depthFunc mode | frontFace mode =>
    unfold ofCommand
    simp only [cullFace, depthFunc, frontFace, admits_unlessHeld, admits_checkEnum,
      List.contains_iff_mem]
    exact fun _ h => admits_apply h fun _ => rfl
  | scissor box | viewport box =>
    unfold ofCommand
    simp only [scissor, viewport, hasExtent, admits_unlessHeld, admits_checkValue,
      Bool.and_eq_true, decide_eq_true_eq]
    exact fun _ h => admits_apply h fun _ => rfl
  | blendColor _ | clearColor _ | clearDepthf _ | clearStencil _ | colorMask _ | depthMask _
  | depthRangef _ _ | polygonOffset _ _ | sampleCoverage _ _ =>
    exact admits_unlessHeld.mpr fun _ => admits_apply trivial fun _ => rfl
  | useProgram program =>
    exact admits_unlessHeld.mpr fun _ => ⟨fun _ => rfl, .inl trivial⟩
  | linkProgram program | deleteProgram program => exact ⟨fun _ => rfl, .inl trivial⟩
  | stencilFunc test | stencilFuncSeparate face test =>
    unfold ofCommand
    simp only [stencilFunc, admits_checkEnum, List.contains_iff_mem]
    exact fun hf => stencil_admits s _ _ _ fun hface => ⟨hface, hf⟩
  | stencilMask mask | stencilMaskSeparate face mask =>
    unfold ofCommand stencilMask
    exact stencil_admits s _ _ _ fun hface => hface
  | stencilOp actions | stencilOpSeparate face actions =>
    unfold ofCommand
    simp only [stencilOp, admits_checkEnum, List.all_cons, List.all_nil, Bool.and_true,
      Bool.and_eq_true, List.contains_iff_mem]
    exact fun ha => stencil_admits s _ _ _ fun hface => ⟨hface, ha⟩
  | bufferSubData target offset data =>
    unfold ofCommand
    simp only [bufferSubData, admits_checkEnum, admits_checkValue, List.contains_iff_mem,
      decide_eq_true_eq]
    exact fun ht ho => admits_through ⟨ht, ho⟩
  | texParameteri target pname param =>
    unfold ofCommand
    simp only [texParameteri, admits_checkEnum, List.contains_iff_mem]
    exact fun ht => admits_through ht
  | generateMipmap target =>
    unfold ofCommand
    simp only [generateMipmap, admits_checkEnum, List.contains_iff_mem]
    exact fun ht => admits_through ht
  | drawArrays mode first count =>
    unfold ofCommand
    simp only [drawArrays, admits_checkEnum, admits_checkValue, List.contains_iff_mem,
      Bool.and_eq_true, decide_eq_true_eq]
    exact fun hm hn => admits_through ⟨hm, hn⟩
  | drawElements mode count type offset =>
    unfold ofCommand
    simp only [drawElements, admits_checkEnum, admits_checkValue, List.contains_iff_mem,
      decide_eq_true_eq]
    exact fun hm hn ht => admits_through ⟨hm, hn, ht⟩
  | clear mask =>
    unfold ofCommand
    simp only [clear, admits_checkValue, beq_iff_eq]
    exact fun hm => admits_through hm
  | shaderSource _ _ | compileShader _ | attachShader _ _ | flush | finish =>
    exact admits_through trivial
  | _ => trivial

end Plan

/-! ## Commands -/

theorem Shadow.mem_targets {s : Shadow} {cls : ObjectClass} {target : Enum} {held : UInt32}
    (h : s.binding? cls target = some held) : target ∈ cls.targets := by
  cases cls <;> simp only [binding?] at h <;>
    simp only [ObjectClass.targets, Legal.bufferTargets, Legal.textureTargets, List.mem_cons,
      List.not_mem_nil, or_false]
  case framebuffer | renderbuffer =>
    by_contra ht
    rw [if_neg ht] at h
    cases h
  case buffer | texture =>
    by_contra ht
    obtain ⟨ht, ht'⟩ := not_or.mp ht
    rw [if_neg ht, if_neg ht'] at h
    cases h

namespace Scope

variable {δ : Type} [Driver δ]

def Tells (s t : Scope δ) : Prop :=
  ∃ calls, t.driver = Driver.after s.driver calls ∧
    ∀ call ∈ calls, call.Admitted t.shadow.known

def Queries (s t : Scope δ) : Prop :=
  ∃ calls, t.driver = Driver.after s.driver calls ∧
    ∀ call ∈ calls, call.entry.unrestricted = true

variable {s t u : Scope δ} {k : Call} {entry : EntryPoint} {c : Command}

theorem tells_of_same (hd : t.driver = s.driver) : s.Tells t := ⟨[], hd, by simp⟩

theorem tells_call (hd : t.driver = (Driver.perform s.driver k).2)
    (hk : k.Admitted t.shadow.known) : s.Tells t := ⟨[k], hd, by simpa using hk⟩

theorem queries_of_same (hd : t.driver = s.driver) : s.Queries t := ⟨[], hd, by simp⟩

theorem queries_call (hd : t.driver = (Driver.perform s.driver k).2)
    (hu : k.entry.unrestricted = true) : s.Queries t := ⟨[k], hd, by simpa using hu⟩

theorem Tells.behind (hst : s.Queries t) (htu : t.Tells u) : s.Tells u := by
  obtain ⟨as, hd, ha⟩ := hst
  obtain ⟨bs, hd', hb⟩ := htu
  refine ⟨as ++ bs, by rw [hd', hd, Driver.after_append], fun call hcall => ?_⟩
  rcases List.mem_append.mp hcall with hcall | hcall
  · exact .inl (Call.documented_of_unrestricted (ha call hcall))
  · exact hb call hcall

theorem Leaves.tells {calls : List Call} (hl : Leaves entry s t calls)
    (hu : entry.unrestricted = true) : s.Tells t :=
  ⟨calls, hl.driver, fun call hcall => Call.admitted_of_makes (hl.makes call hcall) hu⟩

theorem limit_queries (s : Scope δ) (l : Limit) : s.Queries (s.limit l).2 := by
  unfold limit
  split
  · exact queries_of_same rfl
  · split
    · exact queries_call (k := .getIntegerv l.pname [l.minimum]) rfl rfl
    · exact queries_of_same rfl

theorem limit_eq_known (s : Scope δ) (l : Limit) :
    (s.limit l).1 = (s.limit l).2.shadow.known l := by
  unfold limit Shadow.known
  cases hc : s.shadow.limits.cached? l with
  | some value => simp only [hc, Option.getD_some]
  | none =>
    cases Driver.bound s.driver .getIntegerv with
    | true => simp [Limits.cached?_record, forward, hc]
    | false => simp [hc]

theorem driverName_queries (s : Scope δ) (cls : ObjectClass) (name : UInt32) :
    s.Queries (s.driverName cls name).2 := by
  unfold driverName
  split
  · exact queries_of_same rfl
  · split
    · exact queries_call (k := .generate cls [0]) rfl rfl
    · exact queries_of_same rfl

theorem bind_tells (s : Scope δ) (cls : ObjectClass) (target : Enum) (name : UInt32) :
    s.Tells (s.bind cls target name) := by
  unfold bind
  split
  · exact tells_of_same rfl
  · next held hheld =>
    split
    · exact tells_of_same rfl
    · exact Tells.behind (s.driverName_queries cls name)
        (tells_call rfl (.inl (Shadow.mem_targets hheld)))

theorem checkFramebufferStatus_tells (s : Scope δ) (target : Enum) :
    s.Tells (s.checkFramebufferStatus target).2 := by
  unfold checkFramebufferStatus
  split
  · next ht => exact tells_call rfl (.inl ht)
  · exact tells_of_same rfl

theorem createShader_tells (s : Scope δ) (kind : Enum) : s.Tells (s.createShader kind).2 := by
  unfold createShader
  split
  · next hk => exact tells_call rfl (.inl (List.contains_iff_mem.mp hk))
  · exact tells_of_same rfl

/-- A plan that asks for no limit makes one call at most, and leaves the limits alone. -/
theorem run_tells_of_asks_none {p : Plan} (hp : p.Admits s.shadow.known) (ha : p.Asks none) :
    s.Tells (p.run s) := by
  cases p with
  | rest | elide | reject error => exact tells_of_same rfl
  | apply change call | submit change call =>
    refine tells_call (k := call) rfl ?_
    show call.Admitted (change s.shadow).known
    rw [Shadow.known_eq (hp.1 s.shadow)]
    exact hp.2
  | consult limit next => cases ha.1

/-- A limit that a plan asks for is known by the time of its call. -/
theorem run_tells {p : Plan} {l? : Option Limit} (hp : ∀ known, p.Admits known)
    (ha : p.Asks l?) (s : Scope δ) : s.Tells (p.run s) := by
  cases p with
  | consult limit next =>
    have hnext := hp (s.limit limit).2.shadow.known
    rw [Plan.admits_consult, ← limit_eq_known] at hnext
    exact Tells.behind (s.limit_queries limit) (run_tells_of_asks_none hnext (ha.2 _))
  | rest | elide | reject error | apply change call | submit change call =>
    exact run_tells_of_asks_none (hp _) trivial

theorem enter_tells (s : Scope δ) (hc : c.entry? = some entry) :
    s.Tells (s.enter entry c).2 := by
  cases hu : entry.unrestricted with
  | true =>
    obtain ⟨calls, hl⟩ := s.enter_leaves hc
    exact hl.tells hu
  | false =>
    unfold enter
    split
    · cases c with
      | bindBuffer target name | bindTexture target name | bindFramebuffer target name
      | bindRenderbuffer target name => exact s.bind_tells _ target name
      | checkFramebufferStatus target => exact s.checkFramebufferStatus_tells target
      | createShader kind => exact s.createShader_tells kind
      | genBuffers _ | genTextures _ | genFramebuffers _ | genRenderbuffers _ | deleteBuffers _
      | deleteTextures _ | deleteFramebuffers _ | deleteRenderbuffers _ | getError
      | getIntegerv _ | isEnabled _ | createProgram | getAttribLocation _ _
      | getUniformLocation _ _ =>
        cases hc
        cases hu
      | _ => exact run_tells (fun _ => Plan.ofCommand_admits _ _) (Plan.ofCommand_asks _ _) s
    · obtain ⟨hd, -⟩ := drop_leaves .getIntegerv s c
      exact tells_of_same hd

end Scope

/-! ## Runs -/

namespace Engine

variable {δ : Type} [Driver δ]

def known (e : Engine δ) : Limit → Int32 :=
  match e.current with
  | some k => k.shadow.known
  | none => Limit.minimum

theorem execute_tells (e : Engine δ) (c : Command) :
    ∃ calls, (e.execute c).2.server.driver = Driver.after e.server.driver calls ∧
      ∀ call ∈ calls, call.Admitted (e.execute c).2.known := by
  have hx := e.execute_executed c
  generalize (e.execute c).2 = e' at hx
  cases hx with
  | display _ h =>
    have hm := h.commons
    show ∃ calls, e'.server.commons.driver = _ ∧ _
    generalize e'.server.commons = m' at hm
    cases hm with
    | rest | elide => exact ⟨[], rfl, by simp⟩
    | call call hlib =>
      refine ⟨[call], rfl, fun k hk => ?_⟩
      rw [List.mem_singleton.mp hk]
      exact .inl (Call.documented_of_unrestricted (EntryPoint.unrestricted_of_egl hlib))
  | idle => exact ⟨[], rfl, by simp⟩
  | @rendering k _ _ hentry => exact (e.scope k).enter_tells hentry

end Engine

namespace Fleet

variable {δ : Type} [Driver δ]

theorem traced_tells (d : δ) (names : NameTable) (moves : List Move) (w : Nat) (c : Command) :
    ∃ made, (traced d names (moves ++ [.execute w c])).server.driver.calls =
        (traced d names moves).server.driver.calls ++ made ∧
      ∀ call ∈ made, call.Admitted
        ((traced d names (moves ++ [.execute w c])).engine w).known := by
  obtain ⟨made, hd, hmade⟩ := ((traced d names moves).engine w).execute_tells c
  refine ⟨made, ?_, by rwa [engine_traced]⟩
  show ((traced d names (moves ++ [.execute w c])).engine w).server.driver.calls = _
  rw [engine_traced, hd]
  exact Traced.calls_after _ _

/-- In every run of any number of engines, each call that the driver is given was made by a
command of some worker, and its arguments are documented ones, within the limits that the
context on this worker goes by; only a line width may be no number instead. -/
theorem run_documented (d : δ) (names : NameTable) (moves : List Move) {i : Nat} {call : Call}
    (h : (traced d names moves).server.driver.calls[i]? = some call) :
    ∃ before w c later, moves = before ++ .execute w c :: later ∧
      (traced d names before).server.driver.calls.length ≤ i ∧
      i < (traced d names (before ++ [.execute w c])).server.driver.calls.length ∧
      call.Admitted ((traced d names (before ++ [.execute w c])).engine w).known := by
  induction moves using List.reverseRecOn with
  | nil => cases h
  | append_singleton moves a ih =>
    cases a with
    | drop w =>
      rw [traced, run_concat, ← traced] at h
      obtain ⟨before, w', c, later, rfl, hfound⟩ := ih h
      exact ⟨before, w', c, later ++ [.drop w], by simp, hfound⟩
    | execute w c =>
      obtain ⟨made, hlog, hmade⟩ := traced_tells d names moves w c
      rw [hlog] at h
      rcases Nat.lt_or_ge i (traced d names moves).server.driver.calls.length with hi | hi
      · rw [List.getElem?_append_left hi] at h
        obtain ⟨before, w', c', later, rfl, hfound⟩ := ih h
        exact ⟨before, w', c', later ++ [.execute w c], by simp, hfound⟩
      · have hlast : i < (traced d names (moves ++ [.execute w c])).server.driver.calls.length := by
          rw [hlog]
          exact (List.getElem?_eq_some_iff.mp h).1
        rw [List.getElem?_append_right hi] at h
        exact ⟨moves, w, c, [], rfl, hi, hlast, hmade call (List.mem_of_getElem? h)⟩

def sixteen : Recorder := { integers := [(GL.maxVertexAttribs, [16])] }

/-- Widths that are no number and zero, the last attribute and the one behind it. -/
def bordering : List Move :=
  [.execute 0 (.makeCurrent ⟨1⟩ ⟨3⟩ ⟨3⟩ ⟨7⟩), .execute 0 (.lineWidth ⟨0x7FC00000⟩),
    .execute 0 (.lineWidth ⟨0x80000000⟩), .execute 0 (.enableVertexAttribArray 15),
    .execute 0 (.enableVertexAttribArray 16)]

theorem run_documented_of_bordering :
    (traced sixteen {} bordering).server.driver.calls =
      [.makeCurrent ⟨1⟩ ⟨3⟩ ⟨3⟩ ⟨7⟩, .lineWidth ⟨0x7FC00000⟩,
        .getIntegerv GL.maxVertexAttribs [8], .enableVertexAttribArray 15] ∧
    ∃ before w c later, bordering = before ++ .execute w c :: later ∧
      (traced sixteen {} before).server.driver.calls.length ≤ 3 ∧
      3 < (traced sixteen {} (before ++ [.execute w c])).server.driver.calls.length ∧
      (Call.enableVertexAttribArray 15).Admitted
        ((traced sixteen {} (before ++ [.execute w c])).engine w).known := by
  have hcalls : (traced sixteen {} bordering).server.driver.calls =
      [.makeCurrent ⟨1⟩ ⟨3⟩ ⟨3⟩ ⟨7⟩, .lineWidth ⟨0x7FC00000⟩,
        .getIntegerv GL.maxVertexAttribs [8], .enableVertexAttribArray 15] := by decide +kernel
  refine ⟨hcalls, run_documented sixteen {} bordering ?_⟩
  rw [hcalls]
  rfl

/-- The width that is no number is told to the driver, though it is not above zero. -/
theorem undocumented_of_bordering :
    ∃ call ∈ (traced sixteen {} bordering).server.driver.calls,
      ∀ known, ¬ call.Documented known := by
  refine ⟨.lineWidth ⟨0x7FC00000⟩, by decide +kernel, fun known h => ?_⟩
  have hbelow : Single.zero.below ⟨0x7FC00000⟩ = true := h
  exact absurd hbelow (by decide)

end Fleet

end RenderRelay
