import RenderRelay.Proofs.Engine.Errors
import RenderRelay.Proofs.Engine.Limits

/-!
# Bindings follow the client's history

At every target, on every texture unit, a shadow holds the name that the client has bound
there last, unless the client has deleted that name since. Every attribute reads from the
buffer that was bound when its pointer was set last, with the same exception. Commands that
were dropped or rejected count for nothing, and deleting names changes nothing else.
-/

set_option autoImplicit false

namespace RenderRelay

namespace Command

/-- The unit that the command makes active. -/
def selected? : Command → Option Enum
  | activeTexture unit => some unit
  | _ => none

def deleted? : Command → Option (ObjectClass × List UInt32)
  | deleteBuffers names => some (.buffer, names)
  | deleteTextures names => some (.texture, names)
  | deleteFramebuffers names => some (.framebuffer, names)
  | deleteRenderbuffers names => some (.renderbuffer, names)
  | _ => none

def deletes (c : Command) (cls : ObjectClass) : List UInt32 :=
  match c.deleted? with
  | some (k, names) => if k = cls then names else []
  | none => []

def aloof : Command → Bool
  | activeTexture _ | vertexAttribPointer .. => false
  | c => c.bound?.isNone && c.deleted?.isNone

end Command

def Slot.parameters : List (Enum × ObjectClass × Enum) :=
  [(GL.arrayBufferBinding, .buffer, GL.arrayBuffer),
   (GL.elementArrayBufferBinding, .buffer, GL.elementArrayBuffer),
   (GL.framebufferBinding, .framebuffer, GL.framebuffer),
   (GL.renderbufferBinding, .renderbuffer, GL.renderbuffer),
   (GL.textureBinding2D, .texture, GL.texture2D),
   (GL.textureBindingCubeMap, .texture, GL.textureCubeMap)]

/-! ## Shadows -/

namespace Shadow

def bound? (s : Shadow) (c : Command) (slot : Slot) : Option UInt32 :=
  match c.bound? with
  | some (cls, target, name) => if slot = .on s.activeTexture cls target then some name else none
  | none => none

def sourced? (s : Shadow) (c : Command) (i : Nat) : Option UInt32 :=
  match c with
  | .vertexAttribPointer index _ => if i = index.toNat then some s.arrayBuffer else none
  | _ => none

structure Retains (s t : Shadow) : Prop where
  bindings : t.bindings = s.bindings
  sources : ∀ i, (t.attribs.get i).buffer = (s.attribs.get i).buffer

/-- A unit is made active, names are bound and set as sources, and names are deleted, each
where there is one. -/
structure Turns (s t : Shadow) (unit? : Option Enum) (bound? : Slot → Option UInt32)
    (sourced? : Nat → Option UInt32) (gone : ObjectClass → List UInt32) : Prop where
  unit : t.activeTexture = unit?.getD s.activeTexture
  hasUnit : ∀ unit, unit? = some unit → Slot.HasUnit unit
  held : ∀ slot : Slot, slot.Real → ∀ n, s.held? slot = some n →
    t.held? slot = some ((bound? slot).getD (unlessGone (gone slot.cls) n))
  source : ∀ i, (t.attribs.get i).buffer =
    (sourced? i).getD (unlessGone (gone .buffer) (s.attribs.get i).buffer)

theorem held?_fresh {slot : Slot} (h : slot.target ∈ slot.cls.targets) :
    fresh.held? slot = some 0 := by
  obtain ⟨cls, target, unit⟩ := slot
  have hunit : ({ fresh with activeTexture := unit } : Shadow).unit = {} := by
    simp [Shadow.unit, fresh]
  cases cls with
  | buffer =>
    obtain rfl | rfl : target = GL.arrayBuffer ∨ target = GL.elementArrayBuffer := by
      simpa [ObjectClass.targets, Legal.bufferTargets] using h
    all_goals rfl
  | texture =>
    obtain rfl | rfl : target = GL.texture2D ∨ target = GL.textureCubeMap := by
      simpa [ObjectClass.targets, Legal.textureTargets] using h
    · exact congrArg (fun u : TextureUnit => some u.texture2D) hunit
    · exact congrArg (fun u : TextureUnit => some u.cubeMap) hunit
  | framebuffer | renderbuffer =>
    obtain rfl := List.mem_singleton.mp h
    rfl

theorem integers?_parameter (s : Shadow) {pname : Enum} {cls : ObjectClass} {target : Enum}
    (h : (pname, cls, target) ∈ Slot.parameters) :
    ∃ n, s.binding? cls target = some n ∧ s.integers? pname = some [n.toInt32] ∧
      Limit.ofPname? pname = none ∧ Capability.ofEnum? pname = none := by
  simp only [Slot.parameters, List.mem_cons, Prod.mk.injEq, List.not_mem_nil, or_false] at h
  obtain ⟨rfl, rfl, rfl⟩ | ⟨rfl, rfl, rfl⟩ | ⟨rfl, rfl, rfl⟩ | ⟨rfl, rfl, rfl⟩ | ⟨rfl, rfl, rfl⟩ |
    ⟨rfl, rfl, rfl⟩ := h
  all_goals exact ⟨_, rfl, rfl, rfl, rfl⟩

variable {s t : Shadow}

theorem retains_refl (s : Shadow) : s.Retains s := ⟨rfl, fun _ => rfl⟩

theorem turns_of_none_gone {unit? : Option Enum} {bound? : Slot → Option UInt32}
    {sourced? : Nat → Option UInt32} (hunit : t.activeTexture = unit?.getD s.activeTexture)
    (hu : ∀ unit, unit? = some unit → Slot.HasUnit unit)
    (hheld : ∀ slot : Slot, slot.Real → ∀ n, s.held? slot = some n →
      t.held? slot = some ((bound? slot).getD n))
    (hsource : ∀ i, (t.attribs.get i).buffer = (sourced? i).getD (s.attribs.get i).buffer) :
    s.Turns t unit? bound? sourced? fun _ => [] where
  unit := hunit
  hasUnit := hu
  held slot hslot n hn := by
    rw [unlessGone_nil]
    exact hheld slot hslot n hn
  source i := by
    rw [unlessGone_nil]
    exact hsource i

theorem Retains.turns (h : s.Retains t) :
    s.Turns t none (fun _ => none) (fun _ => none) fun _ => [] :=
  turns_of_none_gone (congrArg Bindings.activeTexture h.bindings) nofun
    (fun slot _ _ hn => (held?_of_bindings h.bindings slot).trans hn) h.sources

theorem Retains.turns_of_aloof (h : s.Retains t) {c : Command} (hc : c.aloof = true) :
    s.Turns t c.selected? (s.bound? c) (s.sourced? c) c.deletes := by
  cases c <;> first | exact h.turns | cases hc

theorem turns_select {unit : Enum} (hu : Slot.HasUnit unit)
    (hb : t.bindings = { s with activeTexture := unit }.bindings) (ha : t.attribs = s.attribs) :
    s.Turns t (some unit) (fun _ => none) (fun _ => none) fun _ => [] :=
  turns_of_none_gone (congrArg Bindings.activeTexture hb) (fun _ h => Option.some.inj h ▸ hu)
    (fun slot _ _ hn => (held?_of_bindings hb slot).trans hn) fun i => by rw [ha]; rfl

theorem turns_source {index : Nat} {buffer : UInt32} (hb : t.bindings = s.bindings)
    (ha : ∀ i, (t.attribs.get i).buffer =
      if i = index then buffer else (s.attribs.get i).buffer) :
    s.Turns t none (fun _ => none) (fun i => if i = index then some buffer else none)
      fun _ => [] := by
  refine turns_of_none_gone (congrArg Bindings.activeTexture hb) nofun
    (fun slot _ _ hn => (held?_of_bindings hb slot).trans hn) fun i => ?_
  rw [ha]
  split <;> rfl

theorem attribs_setBinding (s : Shadow) (cls : ObjectClass) (target : Enum) (name : UInt32) :
    (s.setBinding cls target name).attribs = s.attribs := by
  unfold setBinding
  (repeat' split) <;> rfl

theorem turns_bind {slot : Slot} {name : UInt32} (hactive : t.activeTexture = s.activeTexture)
    (hheld : ∀ other : Slot, other.Real →
      t.held? other = if other = slot then some name else s.held? other)
    (ha : t.attribs = s.attribs) :
    s.Turns t none (fun other => if other = slot then some name else none) (fun _ => none)
      fun _ => [] := by
  refine turns_of_none_gone hactive nofun (fun other hother n hn => ?_) fun i => by rw [ha]; rfl
  rw [hheld other hother, hn]
  split <;> rfl

theorem turns_sweep (s : Shadow) (cls : ObjectClass) (names : List UInt32) :
    s.Turns (s.sweep cls names) none (fun _ => none) (fun _ => none)
      fun k => if cls = k then names else [] where
  unit := s.activeTexture_sweep cls names
  hasUnit _ h := nomatch h
  held slot _ n hn := by
    rw [held?_sweep, hn]
    by_cases hc : cls = slot.cls
    · simp [unlessGone, hc]
    · simp [unlessGone, hc, Ne.symm hc]
  source i := by
    cases cls with
    | buffer => exact s.attribs.buffer_sweep names i
    | texture | framebuffer | renderbuffer =>
      rw [if_neg (by decide), unlessGone_nil]
      rfl

end Shadow

/-! ## Plans -/

namespace Plan

def Lands (s : Shadow) (E : Shadow → Prop) : Plan → Prop
  | rest | elide => E s
  | reject error => error ≠ GL.noError
  | apply change _ | submit change _ => ∀ limits, E (change { s with limits })
  | consult _ next => ∀ value, (next value).Lands s E

variable {s : Shadow} {E : Shadow → Prop} {next : Plan}

theorem lands_require {ok : Bool} {error : Enum} (he : error ≠ GL.noError)
    (h : ok = true → next.Lands s E) : (require ok error next).Lands s E := by
  unfold require
  split
  · next hok => exact h hok
  · exact he

theorem lands_unlessHeld {α : Type} [DecidableEq α] {held wanted : α}
    (hheld : held = wanted → E s) (h : next.Lands s E) :
    (unlessHeld held wanted next).Lands s E := by
  unfold unlessHeld
  split
  · next he => exact hheld he
  · exact h

theorem Lands.run {δ : Type} [Driver δ] {p : Plan} (hp : p.Lands s E)
    (hE : ∀ t known limits, E t → E { t with driverMayKnow := known, limits }) {u : Scope δ}
    (hu : ∃ limits, u.shadow = { s with limits })
    (hf : (p.run (u.owing GL.noError)).shadow.error = GL.noError) : E (p.run u).shadow := by
  induction p generalizing u with
  | rest | elide =>
    obtain ⟨limits, hu⟩ := hu
    show E u.shadow
    rw [hu]
    exact hE s s.driverMayKnow limits hp
  | reject error => exact absurd hf hp
  | apply change call =>
    obtain ⟨limits, hu⟩ := hu
    show E (change u.shadow)
    rw [hu]
    exact hp limits
  | submit change call =>
    obtain ⟨limits, hu⟩ := hu
    show E { change u.shadow with driverMayKnow := true }
    rw [hu]
    exact hE _ true _ (hp limits)
  | consult limit next ih =>
    obtain ⟨limits, hu⟩ := hu
    obtain ⟨learned, hl⟩ := u.limit_shadow limit
    have hl : (u.limit limit).2.shadow = { s with limits := learned } := by rw [hl, hu]
    have hnext : ((next (u.limit limit).1).run ((u.limit limit).2.owing GL.noError)).shadow.error =
        GL.noError := by
      simpa only [Plan.run, Scope.limit_owing] using hf
    exact ih (u.limit limit).1 (hp _) ⟨learned, hl⟩ hnext

theorem setCapability_lands (s : Shadow) (cap : Enum) (on : Bool) :
    (setCapability s cap on).Lands s s.Retains := by
  unfold setCapability
  split
  · exact (by decide : GL.invalidEnum ≠ GL.noError)
  · exact lands_unlessHeld (fun _ => s.retains_refl) fun _ => ⟨rfl, fun _ => rfl⟩

theorem hint_lands (s : Shadow) (target mode : Enum) :
    (hint s target mode).Lands s s.Retains := by
  unfold hint
  split
  · exact lands_unlessHeld (fun _ => s.retains_refl) <| lands_require (by decide) fun _ _ =>
      ⟨rfl, fun _ => rfl⟩
  · exact lands_require (by decide) fun _ _ => ⟨rfl, fun _ => rfl⟩

theorem pixelStorei_lands (s : Shadow) (pname : Enum) (param : Int32) :
    (pixelStorei s pname param).Lands s s.Retains := by
  unfold pixelStorei
  repeat' split
  · exact lands_unlessHeld (fun _ => s.retains_refl) <| lands_require (by decide) fun _ _ =>
      ⟨rfl, fun _ => rfl⟩
  · exact lands_unlessHeld (fun _ => s.retains_refl) <| lands_require (by decide) fun _ _ =>
      ⟨rfl, fun _ => rfl⟩
  · exact (by decide : GL.invalidEnum ≠ GL.noError)

theorem stencil_lands (s : Shadow) (face : Enum) (holds : StencilFace → Bool)
    (change : StencilFace → StencilFace) (call : Call) :
    (stencil s face holds change call).Lands s s.Retains :=
  lands_require (by decide) fun _ => lands_unlessHeld (fun _ => s.retains_refl) fun _ =>
    ⟨rfl, fun _ => rfl⟩

theorem texImage2D_lands (s : Shadow) (image : TexImage) :
    (texImage2D s image).Lands s s.Retains := by
  refine lands_require (by decide) fun _ => lands_require (by decide) fun _ _ =>
    lands_require (by decide) fun _ => lands_require (by decide) fun _ =>
      lands_require (by decide) fun _ => ?_
  split
  · exact (by decide : GL.invalidOperation ≠ GL.noError)
  · exact lands_require (by decide) fun _ _ => ⟨rfl, fun _ => rfl⟩

/-- An attribute that is switched on or off reads from the same buffer. -/
theorem setAttribArray_lands (hs : s.attribs.Sound) (index : UInt32) (on : Bool) :
    (setAttribArray s index on).Lands s s.Retains := by
  refine fun _ => lands_require (by decide) fun _ => lands_unlessHeld (fun _ => s.retains_refl)
    fun _ => ⟨rfl, fun i => ?_⟩
  rw [AttribList.get_update hs]
  split
  · next hi => rw [hi]
  · rfl

theorem ofCommand_lands (hs : s.attribs.Sound) {c : Command} (hc : c.aloof = true) :
    (ofCommand s c).Lands s s.Retains := by
  cases c with
  | enable cap => exact setCapability_lands s cap true
  | disable cap => exact setCapability_lands s cap false
  | hint target mode => exact hint_lands s target mode
  | pixelStorei pname param => exact pixelStorei_lands s pname param
  | enableVertexAttribArray index => exact setAttribArray_lands hs index true
  | disableVertexAttribArray index => exact setAttribArray_lands hs index false
  | texImage2D image => exact texImage2D_lands s image
  | activeTexture _ | vertexAttribPointer _ _ => cases hc
  | blendColor _ | clearColor _ | clearDepthf _ | clearStencil _ | colorMask _ | depthMask _
  | depthRangef _ _ | polygonOffset _ _ | sampleCoverage _ _ | useProgram _ =>
    exact lands_unlessHeld (fun _ => s.retains_refl) fun _ => ⟨rfl, fun _ => rfl⟩
  | blendEquation _ | blendEquationSeparate _ _ | blendFunc _ _ | blendFuncSeparate _ | cullFace _
  | depthFunc _ | frontFace _ | lineWidth _ | scissor _ | viewport _ =>
    exact lands_unlessHeld (fun _ => s.retains_refl) <| lands_require (by decide) fun _ _ =>
      ⟨rfl, fun _ => rfl⟩
  | stencilMask _ | stencilMaskSeparate _ _ =>
    unfold ofCommand stencilMask
    exact stencil_lands s _ _ _ _
  | stencilFunc _ | stencilFuncSeparate _ _ | stencilOp _ | stencilOpSeparate _ _ =>
    exact lands_require (by decide) fun _ => stencil_lands s _ _ _ _
  | bufferData _ _ _ _ =>
    exact lands_require (by decide) fun _ => lands_require (by decide) fun _ =>
      lands_require (by decide) fun _ => lands_require (by decide) fun _ _ =>
        ⟨rfl, fun _ => rfl⟩
  | drawElements _ _ _ _ =>
    exact lands_require (by decide) fun _ => lands_require (by decide) fun _ =>
      lands_require (by decide) fun _ _ => ⟨rfl, fun _ => rfl⟩
  | bufferSubData _ _ _ | drawArrays _ _ _ =>
    exact lands_require (by decide) fun _ => lands_require (by decide) fun _ _ =>
      ⟨rfl, fun _ => rfl⟩
  | texParameteri _ _ _ | generateMipmap _ | clear _ =>
    exact lands_require (by decide) fun _ _ => ⟨rfl, fun _ => rfl⟩
  | shaderSource _ _ | compileShader _ | attachShader _ _ | linkProgram _ | deleteProgram _
  | flush | finish => exact fun _ => ⟨rfl, fun _ => rfl⟩
  | _ => exact s.retains_refl

theorem activeTexture_lands (hu : Slot.HasUnit s.activeTexture) (unit : Enum) :
    (activeTexture s unit).Lands s fun t =>
      s.Turns t (some unit) (fun _ => none) (fun _ => none) fun _ => [] := by
  refine lands_unlessHeld ?_ <| lands_require (by decide) fun hunit _ =>
    lands_require (by decide) fun _ limits => Shadow.turns_select ?_ rfl rfl
  · rintro rfl
    exact Shadow.turns_select hu rfl rfl
  · simpa [Slot.HasUnit] using hunit

/-- A pointer that is left out is held with the buffer that is bound. -/
theorem vertexAttribPointer_lands (hs : s.attribs.Sound) (index : UInt32)
    (pointer : AttribPointer) :
    (vertexAttribPointer s index pointer).Lands s fun t => s.Turns t none (fun _ => none)
      (fun i => if i = index.toNat then some s.arrayBuffer else none) fun _ => [] := by
  refine fun _ => lands_require (by decide) fun _ => lands_require (by decide) fun _ =>
    lands_require (by decide) fun _ => lands_require (by decide) fun _ =>
      lands_unlessHeld (fun hheld => ?_) fun limits => ?_
  · refine Shadow.turns_source rfl fun i => ?_
    split
    · next hi => rw [hi, hheld]
    · rfl
  · refine Shadow.turns_source rfl fun i => ?_
    rw [AttribList.get_update hs]
    split <;> rfl

end Plan

/-! ## Scopes -/

namespace Scope

variable {δ : Type} [Driver δ] {s t : Scope δ} {c : Command} {entry : EntryPoint}

theorem Aside.retains (h : s.Aside t) : s.shadow.Retains t.shadow := by
  obtain ⟨⟨error, known, locations, ht⟩, -⟩ := h
  rw [ht]
  exact ⟨rfl, fun _ => rfl⟩

theorem Consults.retains {limit? : Option Limit} (h : s.Consults limit? t) :
    s.shadow.Retains t.shadow := by
  cases h <;> exact ⟨rfl, fun _ => rfl⟩

omit [Driver δ] in
theorem refused_retains (s : Scope δ) (error : Enum) :
    s.shadow.Retains (s.refused error).shadow := by
  unfold refused
  split
  · exact ⟨rfl, fun _ => rfl⟩
  · exact s.shadow.retains_refl

theorem getIntegerv_retains (s : Scope δ) (pname : Enum) :
    s.shadow.Retains (s.getIntegerv pname).2.shadow := by
  cases hp : Limit.ofPname? pname with
  | none => exact (s.getIntegerv_aside hp).retains
  | some l =>
    have hget : (s.getIntegerv pname).2 = (s.limit l).2 := by simp only [getIntegerv, hp]
    rw [hget]
    exact (s.limit_consults l).retains

theorem shadow_delete (s : Scope δ) (cls : ObjectClass) (names : List UInt32) :
    (s.delete cls names).shadow = s.shadow.sweep cls names := by
  unfold delete
  split
  · next hnil =>
    rw [List.isEmpty_iff.mp hnil]
    exact (s.shadow.sweep_nil cls).symm
  · exact s.shadow.foldl_forget_filter cls names

theorem fault_delete (hd : c.deleted?.isSome) : s.fault c = GL.noError := by
  cases c with
  | deleteBuffers names | deleteTextures names | deleteFramebuffers names
  | deleteRenderbuffers names => exact s.delete_passes _ names GL.noError
  | _ => cases hd

/-- A target that the class does not have is rejected, and else the name is bound. -/
theorem bind_turns (hu : Slot.HasUnit s.shadow.activeTexture) (cls : ObjectClass) (target : Enum)
    (name : UInt32)
    (hf : ((s.owing GL.noError).bind cls target name).shadow.error = GL.noError) :
    s.shadow.Turns (s.bind cls target name).shadow none
      (fun slot => if slot = .on s.shadow.activeTexture cls target then some name else none)
      (fun _ => none) fun _ => [] := by
  have hsame : (s.owing GL.noError).shadow.binding? cls target = s.shadow.binding? cls target := by
    cases cls <;> rfl
  rw [bind, hsame] at hf
  unfold bind
  cases ht : s.shadow.binding? cls target with
  | none =>
    rw [ht] at hf
    exact absurd hf (by decide : GL.invalidEnum ≠ GL.noError)
  | some held =>
    dsimp only
    split
    · next heq =>
      subst heq
      refine Shadow.turns_bind rfl (fun slot _ => ?_) rfl
      split
      · next hon => rw [hon]; exact (s.shadow.held?_on cls target).trans ht
      · rfl
    · have hset : (s.driverName cls name).2.shadow.setBinding cls target name =
          s.shadow.setBinding cls target name := by rw [s.shadow_driverName cls name]
      refine Shadow.turns_bind ?_ (fun slot hslot => ?_) ?_
      · show ((s.driverName cls name).2.shadow.setBinding cls target name).activeTexture = _
        rw [hset, Shadow.activeTexture_setBinding]
      · show ((s.driverName cls name).2.shadow.setBinding cls target name).held? slot = _
        rw [hset, Shadow.held?_setBinding name (by rw [ht]; rfl) hu hslot]
      · show ((s.driverName cls name).2.shadow.setBinding cls target name).attribs = _
        rw [hset, Shadow.attribs_setBinding]

theorem perform_turns (hs : s.shadow.attribs.Sound) (hu : Slot.HasUnit s.shadow.activeTexture)
    (hf : s.fault c = GL.noError) : s.shadow.Turns (s.perform c).2.shadow c.selected?
      (s.shadow.bound? c) (s.shadow.sourced? c) c.deletes := by
  have hplanned : c.aloof = true → (∀ error, (s.owing error).perform c =
      (none, (Plan.ofCommand s.shadow c).run (s.owing error))) →
      s.shadow.Turns (s.perform c).2.shadow c.selected? (s.shadow.bound? c) (s.shadow.sourced? c)
        c.deletes := by
    intro hc hperform
    have hown : s.perform c = (none, (Plan.ofCommand s.shadow c).run s) := hperform s.shadow.error
    rw [fault, hperform] at hf
    rw [hown]
    exact ((Plan.ofCommand_lands hs hc).run (fun _ _ _ h => ⟨h.bindings, h.sources⟩) ⟨_, rfl⟩
      hf).turns_of_aloof hc
  cases c with
  | bindBuffer target name | bindTexture target name | bindFramebuffer target name
  | bindRenderbuffer target name => exact bind_turns hu _ target name hf
  | deleteBuffers names | deleteTextures names | deleteFramebuffers names
  | deleteRenderbuffers names =>
    show s.shadow.Turns (s.delete _ names).shadow _ _ _ _
    rw [shadow_delete]
    exact s.shadow.turns_sweep _ names
  | activeTexture unit =>
    exact (Plan.activeTexture_lands hu unit).run
      (fun _ _ _ h => ⟨h.unit, h.hasUnit, h.held, h.source⟩) ⟨_, rfl⟩ hf
  | vertexAttribPointer index pointer =>
    exact (Plan.vertexAttribPointer_lands hs index pointer).run
      (fun _ _ _ h => ⟨h.unit, h.hasUnit, h.held, h.source⟩) ⟨_, rfl⟩ hf
  | genBuffers names | genTextures names | genFramebuffers names | genRenderbuffers names =>
    exact (s.generate_aside _ names).retains.turns_of_aloof rfl
  | getError => exact s.getError_aside.retains.turns_of_aloof rfl
  | getIntegerv pname => exact (s.getIntegerv_retains pname).turns_of_aloof rfl
  | isEnabled cap => exact (s.isEnabled_aside cap).retains.turns_of_aloof rfl
  | checkFramebufferStatus target =>
    exact (s.checkFramebufferStatus_aside target).retains.turns_of_aloof rfl
  | createShader kind => exact (s.createShader_aside kind).retains.turns_of_aloof rfl
  | createProgram => exact (s.forward_aside .createProgram rfl).retains.turns_of_aloof rfl
  | getAttribLocation program name =>
    exact (s.location_aside .attrib program name).retains.turns_of_aloof rfl
  | getUniformLocation program name =>
    exact (s.location_aside .uniform program name).retains.turns_of_aloof rfl
  | _ => exact hplanned rfl fun _ => rfl

theorem enter_retains (hc : c.entry? = some entry)
    (hf : Driver.bound s.driver entry = true → s.fault c ≠ GL.noError) :
    s.shadow.Retains (s.enter entry c).2.shadow := by
  unfold enter
  split
  · next hb =>
    obtain ⟨u, hu, hperform⟩ := perform_of_fault hc (hf hb)
    have hrefused := u.refused_retains (s.fault c)
    rw [hperform]
    exact ⟨hrefused.bindings.trans hu.retains.bindings,
      fun i => (hrefused.sources i).trans (hu.retains.sources i)⟩
  · exact (s.drop_aside c).retains

end Scope

/-! ## Ledgers -/

/-- What is left after the events: what the last one to put something has put, or zero if a
later one has taken it away, or what was there at the start if none puts anything. -/
inductive Lasts {α : Type} (start : UInt32) (puts : α → Option UInt32)
    (takes : α → List UInt32) (events : List α) (n : UInt32) : Prop where
  | untouched (h : ∀ x ∈ events, puts x = none) (hn : n = start)
  | put {before later : List α} {x : α} {m : UInt32} (he : events = before ++ x :: later)
    (hx : puts x = some m) (hl : ∀ y ∈ later, puts y = none)
    (hn : n = if ∃ y ∈ later, m ∈ takes y then 0 else m)

section

variable {α : Type} {start n : UInt32} {puts : α → Option UInt32} {takes : α → List UInt32}
  {events : List α}

theorem Lasts.concat (h : Lasts start puts takes events n) (x : α)
    (hstart : start ∈ takes x → start = 0) :
    Lasts start puts takes (events ++ [x]) ((puts x).getD (unlessGone (takes x) n)) := by
  cases hx : puts x with
  | some m => exact .put rfl hx (by simp) (by simp)
  | none =>
    have hlast : ∀ y ∈ [x], puts y = none := by simpa using hx
    cases h with
    | untouched h hn =>
      subst hn
      refine .untouched (fun y hy => ?_) ?_
      · exact (List.mem_append.mp hy).elim (h y) (hlast y)
      · show unlessGone (takes x) n = n
        unfold unlessGone
        split
        · next hmem => exact (hstart hmem).symm
        · rfl
    | @put before later z m he hz hl hn =>
      have he : events ++ [x] = before ++ z :: (later ++ [x]) := by
        rw [he, List.append_assoc]
        rfl
      refine .put he hz (fun y hy => (List.mem_append.mp hy).elim (hl y) (hlast y)) ?_
      show unlessGone (takes x) n = _
      rw [hn]
      by_cases htaken : ∃ y ∈ later, m ∈ takes y
      · obtain ⟨y, hy, hm⟩ := htaken
        rw [if_pos ⟨y, hy, hm⟩, if_pos ⟨y, List.mem_append_left _ hy, hm⟩, unlessGone_zero]
      · rw [if_neg htaken]
        refine if_congr ?_ rfl rfl
        simp only [List.mem_append, List.mem_singleton, or_and_right, exists_or,
          exists_eq_left]
        exact (or_iff_right htaken).symm

end

section

variable {δ : Type} [Driver δ]

namespace Deed

def passed (d : Deed δ) : Bool :=
  d.engine.current.isSome && d.command.entry?.any (Driver.bound d.engine.server.driver)

def accepted (d : Deed δ) : Bool := d.passed && d.raised == GL.noError

omit [Driver δ] in
def shadow (d : Deed δ) : Shadow := (d.engine.current.map Current.shadow).getD .fresh

/-! What the command has made active, bound, set as a source and deleted. -/

def selected? (d : Deed δ) : Option Enum := if d.accepted then d.command.selected? else none

def bound? (d : Deed δ) (slot : Slot) : Option UInt32 :=
  if d.accepted then d.shadow.bound? d.command slot else none

def sourced? (d : Deed δ) (i : Nat) : Option UInt32 :=
  if d.accepted then d.shadow.sourced? d.command i else none

def deletes (d : Deed δ) (cls : ObjectClass) : List UInt32 :=
  if d.passed then d.command.deletes cls else []

variable {e : Engine δ} {k : Current} {c : Command} {entry : EntryPoint}

theorem passed_of_enter (hk : e.current = some k) (hc : c.entry? = some entry) :
    passed ⟨e, c⟩ = Driver.bound e.server.driver entry := by
  simp [passed, hk, hc]

omit [Driver δ] in
theorem shadow_of_enter (hk : e.current = some k) (c : Command) : shadow ⟨e, c⟩ = k.shadow := by
  simp [shadow, hk]

theorem raised_of_passed (hk : e.current = some k) (hc : c.entry? = some entry)
    (hb : Driver.bound e.server.driver entry = true) : raised ⟨e, c⟩ = (e.scope k).fault c := by
  have henter : ((e.scope k).owing GL.noError).enter entry c =
      ((e.scope k).owing GL.noError).perform c := if_pos hb
  rw [raised_of_enter hk hc, henter]
  rfl

theorem turns_of_accepted (hk : e.current = some k) (hc : c.entry? = some entry)
    (hs : k.shadow.attribs.Sound) (hu : Slot.HasUnit k.shadow.activeTexture)
    (ha : accepted ⟨e, c⟩ = true) :
    k.shadow.Turns ((e.scope k).enter entry c).2.shadow (selected? ⟨e, c⟩) (bound? ⟨e, c⟩)
      (sourced? ⟨e, c⟩) (deletes ⟨e, c⟩) := by
  obtain ⟨hp, hraised⟩ := Bool.and_eq_true_iff.mp ha
  have hb := (passed_of_enter hk hc).symm.trans hp
  have hf : (e.scope k).fault c = GL.noError :=
    (raised_of_passed hk hc hb).symm.trans (eq_of_beq hraised)
  have hselected : selected? ⟨e, c⟩ = c.selected? := if_pos ha
  have hbound : bound? ⟨e, c⟩ = k.shadow.bound? c := by
    funext slot
    rw [bound?, if_pos ha, shadow_of_enter hk]
  have hsourced : sourced? ⟨e, c⟩ = k.shadow.sourced? c := by
    funext i
    rw [sourced?, if_pos ha, shadow_of_enter hk]
  have hdeletes : deletes ⟨e, c⟩ = c.deletes := by
    funext cls
    exact if_pos hp
  have henter : (e.scope k).enter entry c = (e.scope k).perform c := if_pos hb
  rw [hselected, hbound, hsourced, hdeletes, henter]
  exact Scope.perform_turns (s := e.scope k) hs hu hf

/-- Deleting names raises no error, so what is rejected deletes none. -/
theorem deletes_of_not_accepted (hk : e.current = some k) (hc : c.entry? = some entry)
    (ha : accepted ⟨e, c⟩ = false) : deletes ⟨e, c⟩ = fun _ => [] := by
  funext cls
  unfold deletes
  split
  · next hp =>
    have hb := (passed_of_enter hk hc).symm.trans hp
    have hnone : c.deleted? = none := by
      by_contra hd
      have hf := Scope.fault_delete (s := e.scope k) (Option.isSome_iff_ne_none.mpr hd)
      simp [accepted, hp, raised_of_passed hk hc hb, hf] at ha
    simp [Command.deletes, hnone]
  · rfl

theorem turns_of_not_accepted (hk : e.current = some k) (hc : c.entry? = some entry)
    (ha : accepted ⟨e, c⟩ = false) :
    k.shadow.Turns ((e.scope k).enter entry c).2.shadow (selected? ⟨e, c⟩) (bound? ⟨e, c⟩)
      (sourced? ⟨e, c⟩) (deletes ⟨e, c⟩) := by
  have hf : Driver.bound e.server.driver entry = true → (e.scope k).fault c ≠ GL.noError := by
    intro hb hf
    simp [accepted, passed_of_enter hk hc, hb, raised_of_passed hk hc hb, hf] at ha
  have hselected : selected? ⟨e, c⟩ = none := if_neg (by simp [ha])
  have hbound : bound? ⟨e, c⟩ = fun _ => none := by
    funext slot
    exact if_neg (by simp [ha])
  have hsourced : sourced? ⟨e, c⟩ = fun _ => none := by
    funext i
    exact if_neg (by simp [ha])
  rw [hselected, hbound, hsourced, deletes_of_not_accepted hk hc ha]
  exact (Scope.enter_retains (s := e.scope k) hc hf).turns

theorem turns_of_enter (hk : e.current = some k) (hc : c.entry? = some entry)
    (hs : k.shadow.attribs.Sound) (hu : Slot.HasUnit k.shadow.activeTexture) :
    k.shadow.Turns ((e.scope k).enter entry c).2.shadow (selected? ⟨e, c⟩) (bound? ⟨e, c⟩)
      (sourced? ⟨e, c⟩) (deletes ⟨e, c⟩) := by
  cases ha : accepted ⟨e, c⟩ with
  | true => exact turns_of_accepted hk hc hs hu ha
  | false => exact turns_of_not_accepted hk hc ha

end Deed

/-- The shadow holds what the client's own commands have left. -/
structure Recalls (ledger : List (Deed δ)) (shadow : Shadow) : Prop where
  unit : Lasts GL.texture0 Deed.selected? (fun _ => []) ledger shadow.activeTexture
  held : ∀ slot : Slot, slot.Real → slot.target ∈ slot.cls.targets →
    ∃ n, shadow.held? slot = some n ∧ Lasts 0 (·.bound? slot) (·.deletes slot.cls) ledger n
  source : ∀ i, Lasts 0 (·.sourced? i) (·.deletes .buffer) ledger (shadow.attribs.get i).buffer

theorem fresh_recalls : Recalls ([] : List (Deed δ)) .fresh where
  unit := .untouched (List.forall_mem_nil _) rfl
  held _ _ htarget := ⟨0, Shadow.held?_fresh htarget, .untouched (List.forall_mem_nil _) rfl⟩
  source _ := .untouched (List.forall_mem_nil _) rfl

theorem Recalls.concat {ledger : List (Deed δ)} {s t : Shadow} (h : Recalls ledger s) {d : Deed δ}
    (ht : s.Turns t d.selected? d.bound? d.sourced? d.deletes) : Recalls (ledger ++ [d]) t where
  unit := by
    have hunit := h.unit.concat d nofun
    rw [unlessGone_nil] at hunit
    rw [ht.unit]
    exact hunit
  held slot hslot htarget := by
    obtain ⟨n, hn, hlasts⟩ := h.held slot hslot htarget
    exact ⟨_, ht.held slot hslot n hn, hlasts.concat d fun _ => rfl⟩
  source i := by
    rw [ht.source]
    exact (h.source i).concat d fun _ => rfl

structure Deed.Answers (before : List (Deed δ)) (d : Deed δ) : Prop where
  current : d.engine.current.isSome
  recalls : Recalls before d.shadow
  /-- Bindings are reported, those of textures on the active unit. -/
  reports : ∀ pname cls target, (pname, cls, target) ∈ Slot.parameters →
    d.command = .getIntegerv pname → d.passed = true →
    ∃ n, d.reply = some (.ints [n.toInt32]) ∧
      Lasts 0 (·.bound? (.on d.shadow.activeTexture cls target)) (·.deletes cls) before n
  /-- Names are deleted, and nothing else, or the command is dropped. -/
  deletes : ∀ cls names, d.command.deleted? = some (cls, names) →
    d.after.current.map Current.shadow = some (if d.passed then d.shadow.sweep cls names
      else d.shadow.recordError GL.invalidOperation)

variable {ledger : List (Deed δ)} {e : Engine δ} {k : Current} {c : Command} {entry : EntryPoint}

theorem Deed.reply_of_parameter (hk : e.current = some k) {pname : Enum} {cls : ObjectClass}
    {target : Enum} (hp : (pname, cls, target) ∈ Slot.parameters)
    (hpassed : Deed.passed ⟨e, .getIntegerv pname⟩ = true) :
    ∃ n, k.shadow.held? (.on k.shadow.activeTexture cls target) = some n ∧
      Deed.reply ⟨e, .getIntegerv pname⟩ = some (.ints [n.toInt32]) := by
  obtain ⟨n, hn, hints, hlimit, hcap⟩ := k.shadow.integers?_parameter hp
  have hc : Command.entry? (.getIntegerv pname) = some .getIntegerv := rfl
  have hb : Driver.bound e.server.driver .getIntegerv = true :=
    (Deed.passed_of_enter hk hc).symm.trans hpassed
  have henter : (e.scope k).enter .getIntegerv (.getIntegerv pname) =
      Scope.replying .ints ((e.scope k).getIntegerv pname) := if_pos hb
  have hget : ((e.scope k).getIntegerv pname).1 = [n.toInt32] := by
    have hints : (e.scope k).shadow.integers? pname = some [n.toInt32] := hints
    simp only [Scope.getIntegerv, hlimit, hcap, hints]
  refine ⟨n, (k.shadow.held?_on cls target).trans hn, ?_⟩
  rw [Deed.reply_of_enter hk hc, henter, Scope.replying, hget]

theorem Deed.shadow_of_deleted (hk : e.current = some k) (hc : c.entry? = some entry)
    {cls : ObjectClass} {names : List UInt32} (hd : c.deleted? = some (cls, names)) :
    ((e.scope k).enter entry c).2.shadow = if Deed.passed ⟨e, c⟩ then k.shadow.sweep cls names
      else k.shadow.recordError GL.invalidOperation := by
  have hperform : (e.scope k).perform c = (none, (e.scope k).delete cls names) := by
    cases c <;> cases hd <;> rfl
  have hn : c ≠ .getError := by
    rintro rfl
    cases hd
  have henter : (e.scope k).enter entry c = if Driver.bound e.server.driver entry
      then (none, (e.scope k).delete cls names) else (e.scope k).drop c := by
    rw [← hperform]
    rfl
  rw [Deed.passed_of_enter hk hc, henter]
  split
  · exact (e.scope k).shadow_delete cls names
  · rw [Scope.drop, if_neg hn]
    rfl

theorem Recalls.answers (h : Recalls ledger k.shadow) (hk : e.current = some k)
    (hc : c.entry? = some entry) (hu : Slot.HasUnit k.shadow.activeTexture) :
    Deed.Answers ledger ⟨e, c⟩ := by
  have hshadow := Deed.shadow_of_enter hk c
  refine ⟨by rw [hk]; rfl, hshadow.symm ▸ h, ?_, ?_⟩
  · rintro pname cls target hp rfl hpassed
    obtain ⟨n, hn, hreply⟩ := Deed.reply_of_parameter hk hp hpassed
    have htarget : target ∈ cls.targets :=
      Shadow.mem_targets ((k.shadow.held?_on cls target).symm.trans hn)
    obtain ⟨n', hn', hlasts⟩ := h.held _ (Slot.on_real hu cls target) htarget
    obtain rfl : n = n' := Option.some.inj (hn.symm.trans hn')
    exact ⟨n, hreply, hshadow.symm ▸ hlasts⟩
  · intro cls names hd
    rw [Deed.after_of_enter hk hc, hshadow, ← Deed.shadow_of_deleted hk hc hd]
    rfl

structure Recalled (ledger : List (Deed δ)) (shadow : Shadow) : Prop where
  sound : shadow.attribs.Sound
  hasUnit : Slot.HasUnit shadow.activeTexture
  recalls : Recalls ledger shadow
  answers : ∀ before d later, ledger = before ++ d :: later → Deed.Answers before d

theorem recalled_keeping :
    Fleet.Keeping (fun _ : δ => True) (Recalled (δ := δ)) where
  fresh := ⟨AttribList.empty_sound, ⟨by decide, by decide⟩, fresh_recalls,
    fun before _ _ he => by simp at he⟩
  perform _ _ _ := trivial
  enter ds e k c entry hk hc _ h := by
    have hturns := Deed.turns_of_enter hk hc h.sound h.hasUnit
    obtain ⟨_, hcarries⟩ := Scope.enter_carries (s := e.scope k) h.sound entry c
    refine ⟨trivial, hcarries.sound, ?_, h.recalls.concat hturns, forall_split_concat.mpr
      ⟨h.answers, h.recalls.answers hk hc h.hasUnit⟩⟩
    rw [hturns.unit]
    cases hunit : Deed.selected? ⟨e, c⟩ with
    | none => exact h.hasUnit
    | some unit => exact hturns.hasUnit unit hunit

end

/-! ## Runs -/

namespace Fleet

variable {δ : Type} [Driver δ]

/-- After every run of any number of engines, the shadow of a context holds in every slot the
name that was bound there last by a command that was neither dropped nor rejected, or zero if
there was none or if the name was deleted since, in that context; and so with the buffers
of attributes, which are those that were bound when pointers were set. Every command found
the shadow so, bindings were reported so, and deleting names left the rest as it was. -/
theorem run_binds_last (d : δ) (names : NameTable) (moves : List Move) {h : Handle}
    {shadow : Shadow} (hs : ((start d names).run moves).ShadowAt h shadow) :
    Recalls (((start d names).run moves).ledger h) shadow ∧
      ∀ before deed later, ((start d names).run moves).ledger h = before ++ deed :: later →
        Deed.Answers before deed := by
  have hkept := (start_kept (d := d) trivial names).run recalled_keeping moves
  have hr := hkept.kept h shadow hs
  exact ⟨hr.recalls, hr.answers⟩

def spacious : Recorder :=
  { integers := [(GL.maxVertexAttribs, [64]), (GL.maxCombinedTextureImageUnits, [32])] }

/-- Textures on two units, of which one is deleted and one rejected, and a buffer that is
deleted on another worker while an attribute reads from it. -/
def deletingElsewhere : List Move :=
  [.execute 0 (.makeCurrent ⟨1⟩ ⟨3⟩ ⟨3⟩ ⟨7⟩), .execute 0 (.bindBuffer GL.arrayBuffer 5),
    .execute 0 (.vertexAttribPointer 40 ⟨3, GL.float, false, 0, 0⟩),
    .execute 0 (.activeTexture (GL.texture0 + 1)), .execute 0 (.bindTexture GL.texture2D 8),
    .execute 0 (.bindTexture GL.textureCubeMap 9), .execute 0 (.activeTexture GL.texture0),
    .execute 0 (.bindTexture GL.float 9), .execute 0 (.deleteTextures [9, 0, 9, 77]),
    .execute 0 (.makeCurrent ⟨1⟩ ⟨4⟩ ⟨4⟩ ⟨8⟩), .execute 1 (.makeCurrent ⟨1⟩ ⟨3⟩ ⟨3⟩ ⟨7⟩),
    .execute 1 (.deleteBuffers [5]), .execute 1 (.bindBuffer GL.arrayBuffer 6),
    .execute 1 (.getIntegerv GL.textureBinding2D)]

/-- The texture on the other unit is bound still, and the attribute reads from none. -/
theorem run_binds_last_of_deleting :
    ∃ shadow, ((start spacious {}).run deletingElsewhere).ShadowAt ⟨0, 0⟩ shadow ∧
      shadow.held? ⟨.texture, GL.texture2D, GL.texture0 + 1⟩ = some 8 ∧
      shadow.held? ⟨.texture, GL.textureCubeMap, GL.texture0 + 1⟩ = some 0 ∧
      shadow.held? ⟨.buffer, GL.arrayBuffer, 0⟩ = some 6 ∧
      (shadow.attribs.get 40).buffer = 0 ∧
      Recalls (((start spacious {}).run deletingElsewhere).ledger ⟨0, 0⟩) shadow ∧
      ∀ before deed later, ((start spacious {}).run deletingElsewhere).ledger ⟨0, 0⟩ =
        before ++ deed :: later → Deed.Answers before deed := by
  have hlast : (((start spacious {}).run deletingElsewhere).out 1).map (fun k => (k.handle,
      k.shadow.held? ⟨.texture, GL.texture2D, GL.texture0 + 1⟩,
      k.shadow.held? ⟨.texture, GL.textureCubeMap, GL.texture0 + 1⟩,
      k.shadow.held? ⟨.buffer, GL.arrayBuffer, 0⟩, (k.shadow.attribs.get 40).buffer)) =
        some (⟨0, 0⟩, some 8, some 0, some 6, 0) := by
    decide +kernel
  obtain ⟨k, hk, hfacts⟩ := Option.map_eq_some_iff.mp hlast
  simp only [Prod.mk.injEq] at hfacts
  obtain ⟨hhandle, hother, hcube, harray, hsource⟩ := hfacts
  have hs := ((start_kept (d := spacious) trivial {}).run recalled_keeping
    deletingElsewhere).custody.shadowAt_of_out hk
  rw [hhandle] at hs
  exact ⟨k.shadow, hs, hother, hcube, harray, hsource,
    run_binds_last spacious {} deletingElsewhere hs⟩

end Fleet

end RenderRelay
