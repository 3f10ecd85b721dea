import RenderRelay.Driver.Recorder
import RenderRelay.Proofs.Engine.Acts
import RenderRelay.Proofs.Engine.Fleet
import RenderRelay.Proofs.Engine.Replies

/-!
# Refused commands

A rendering command is refused in three places: there is no current context, the
driver does not have its entry point, or an argument is none that it may have. A
command that is refused changes nothing but the pending error. All arguments are
looked at before anything is changed; only a driver limit may be asked for on the way.
-/

set_option autoImplicit false

namespace RenderRelay

open Function (update)

def Reply.blank : Kind → Reply
  | .bool => .bool false
  | .enum => .enum 0
  | .int => .int 0
  | .uint => .uint 0
  | .ints => .ints []
  | .display => .display .none
  | .context => .context .none
  | .surface => .surface .none
  | .configs => .configs []
  | .initialized => .initialized false 0 0

namespace Command

/-- The reply to a command that is refused. Location zero exists, and an error query
cannot answer that there is none. -/
def blankReply? : Command → Option Reply
  | getError => some (.enum GL.invalidOperation)
  | getAttribLocation .. | getUniformLocation .. => some (.int (-1))
  | c => c.opcode.replyKind?.map Reply.blank

theorem droppedReply_eq {c : Command} {entry : EntryPoint} (h : c.entry? = some entry) :
    c.droppedReply = c.blankReply? := by
  cases c <;> first | rfl | cases h

def limit? : Command → Option Limit
  | activeTexture _ => some .maxCombinedTextureImageUnits
  | texImage2D image =>
    some (if image.target = GL.texture2D then .maxTextureSize else .maxCubeMapTextureSize)
  | enableVertexAttribArray _ | disableVertexAttribArray _ | vertexAttribPointer .. =>
    some .maxVertexAttribs
  | _ => none

theorem isSome_entry?_iff (c : Command) : c.entry?.isSome ↔ 0x0200 ≤ c.opcode.number := by
  cases c <;> first
    | exact iff_of_true rfl (of_decide_eq_true rfl)
    | exact iff_of_false Bool.false_ne_true (of_decide_eq_false rfl)

end Command

namespace Scope

variable {δ : Type} [Driver δ]

def refused (s : Scope δ) (error : Enum) : Scope δ :=
  if s.shadow.error = GL.noError then
    { s with shadow := { s.shadow with error }, stats := s.stats.errorRecorded }
  else s

/-- What the scope is like before a command that compares with the limit is refused: the
limit may have been asked for, if it was not known. -/
inductive Consults (limit? : Option Limit) (s : Scope δ) : Scope δ → Prop where
  | known : Consults limit? s s
  | asked {l : Limit} {values : List Int32} {driver : δ} (hl : limit? = some l)
    (hc : s.shadow.limits.cached? l = none) (hb : Driver.bound s.driver .getIntegerv = true)
    (hp : Driver.perform s.driver (.getIntegerv l.pname [l.minimum]) = (values, driver)) :
    Consults limit? s
      { s with
        driver
        stats := s.stats.called
        shadow := { s.shadow with
          limits := s.shadow.limits.record l (values.headD l.minimum) } }

def fault (s : Scope δ) (c : Command) : Enum :=
  ((s.owing GL.noError).perform c).2.shadow.error

/-- Whatever error is pending: either it stays the pending one, or the command is refused,
with an error of its own, before anything was changed. -/
inductive Ends (limit? : Option Limit) (blank? : Option Reply) (s : Scope δ)
    (op : Scope δ → Option Reply × Scope δ) : Prop where
  | passes (h : ∀ e, (op (s.owing e)).2.shadow.error = e)
  | refuses (error : Enum) (u : Scope δ) (hu : s.Consults limit? u)
    (h : ∀ e, op (s.owing e) = (blank?, (u.owing e).reject error))

variable {s u : Scope δ} {l? : Option Limit} {blank? : Option Reply}

omit [Driver δ] in
theorem reject_eq_refused (s : Scope δ) (error : Enum) : s.reject error = s.refused error := by
  unfold reject refused Shadow.recordError Shadow.acceptsError
  by_cases h : s.shadow.error = GL.noError <;> simp [h]

theorem Consults.error_eq (h : s.Consults l? u) : u.shadow.error = s.shadow.error := by
  cases h <;> rfl

theorem limit_consults (s : Scope δ) (l : Limit) : s.Consults (some l) (s.limit l).2 := by
  unfold limit
  cases hc : s.shadow.limits.cached? l with
  | some value => exact .known
  | none =>
    cases hb : Driver.bound s.driver .getIntegerv with
    | true => exact .asked rfl hc hb rfl
    | false => exact .known

theorem Ends.congr {op op' : Scope δ → Option Reply × Scope δ} (h : s.Ends l? blank? op)
    (he : ∀ e, op' (s.owing e) = op (s.owing e)) : s.Ends l? blank? op' := by
  cases h with
  | passes h => exact .passes fun e => (congrArg (·.2.shadow.error) (he e)).trans (h e)
  | refuses error u hu h => exact .refuses error u hu fun e => (he e).trans (h e)

theorem Ends.refused {c : Command} (h : s.Ends l? blank? fun t => t.perform c)
    (hf : s.fault c ≠ GL.noError) :
    ∃ u, s.Consults l? u ∧ s.perform c = (blank?, u.refused (s.fault c)) := by
  cases h with
  | passes h => exact absurd (h GL.noError) hf
  | refuses error u hu h =>
    have hfault : s.fault c = error := by
      have hreject : ((u.owing GL.noError).reject error).shadow.error = error := rfl
      rw [fault, h GL.noError, hreject]
    have hown : u.owing s.shadow.error = u := by
      rw [← hu.error_eq]
      rfl
    have hperform := h s.shadow.error
    rw [hown, reject_eq_refused, ← hfault] at hperform
    exact ⟨u, hu, hperform⟩

end Scope

/-! Plans -/

namespace Plan

def Asks (limit? : Option Limit) : Plan → Prop
  | rest | elide | reject _ | apply .. | submit .. => True
  | consult limit next => limit? = some limit ∧ ∀ value, (next value).Asks none

variable {l? : Option Limit} {next : Plan}

@[simp] theorem asks_require {ok : Bool} {error : Enum} :
    (require ok error next).Asks l? ↔ (ok = true → next.Asks l?) := by
  unfold require
  cases ok <;> simp [Asks]

@[simp] theorem asks_checkEnum {ok : Bool} :
    (checkEnum ok next).Asks l? ↔ (ok = true → next.Asks l?) := asks_require

@[simp] theorem asks_checkValue {ok : Bool} :
    (checkValue ok next).Asks l? ↔ (ok = true → next.Asks l?) := asks_require

@[simp] theorem asks_unlessHeld {α : Type} [DecidableEq α] {held wanted : α} :
    (unlessHeld held wanted next).Asks l? ↔ (held ≠ wanted → next.Asks l?) := by
  unfold unlessHeld
  split <;> simp_all [Asks]

theorem setCapability_asks (s : Shadow) (cap : Enum) (on : Bool) :
    (setCapability s cap on).Asks none := by
  unfold setCapability
  split <;> simp [Asks]

theorem hint_asks (s : Shadow) (target mode : Enum) : (hint s target mode).Asks none := by
  unfold hint
  split <;> simp only [asks_unlessHeld, asks_checkEnum, Asks, implies_true]

theorem pixelStorei_asks (s : Shadow) (pname : Enum) (param : Int32) :
    (pixelStorei s pname param).Asks none := by
  unfold pixelStorei
  repeat' split
  all_goals simp only [asks_unlessHeld, asks_checkValue, Asks, implies_true]

theorem texImage2D_asks (s : Shadow) (image : TexImage) :
    (texImage2D s image).Asks (Command.texImage2D image).limit? := by
  simp only [texImage2D, asks_checkEnum, asks_checkValue, Asks]
  refine fun _ _ => ⟨rfl, fun _ _ _ _ => ?_⟩
  split <;> simp only [asks_checkValue, Asks, implies_true]

theorem ofCommand_asks (s : Shadow) (c : Command) : (ofCommand s c).Asks c.limit? := by
  cases c with
  | enable cap => exact setCapability_asks s cap true
  | disable cap => exact setCapability_asks s cap false
  | hint target mode => exact hint_asks s target mode
  | pixelStorei pname param => exact pixelStorei_asks s pname param
  | texImage2D image => exact texImage2D_asks s image
  | _ =>
    unfold ofCommand
    simp only [Command.limit?, asks_checkEnum, asks_checkValue, asks_unlessHeld, Asks,
      implies_true, and_self, activeTexture, blendColor, blendEquations, blendFactors, clearColor,
      clearDepthf, clearStencil, colorMask, cullFace, depthFunc, depthMask, depthRangef, frontFace,
      lineWidth, polygonOffset, sampleCoverage, scissor, viewport, stencil, stencilFunc,
      stencilMask, stencilOp, bufferData, bufferSubData, texParameteri, generateMipmap, useProgram,
      dropLocations, checkAttribIndex, setAttribArray, vertexAttribPointer, drawArrays,
      drawElements, clear]

variable {c : Command} {entry : EntryPoint} {δ : Type} [Driver δ]

theorem run_ends_of_asks_none {p : Plan} (hp : p.Allowed c entry) (ha : p.Asks none)
    (s : Scope δ) : s.Ends l? none fun t => (none, p.run t) := by
  cases p with
  | rest | elide => exact .passes fun _ => rfl
  | reject error => exact .refuses error s .known fun _ => rfl
  | apply change call => exact .passes fun e => (hp.1 (s.owing e).shadow).error
  | submit change call => exact .passes fun e => (hp.1 (s.owing e).shadow).error
  | consult limit next => cases ha.1

/-- A limit that is asked for is asked for before anything is done. -/
theorem run_ends {p : Plan} (hp : p.Allowed c entry) (ha : p.Asks l?) (s : Scope δ) :
    s.Ends l? none fun t => (none, p.run t) := by
  cases p with
  | consult limit next =>
    obtain ⟨rfl, hnext⟩ := ha
    have hrun : ∀ e, (consult limit next).run (s.owing e) =
        (next (s.limit limit).1).run ((s.limit limit).2.owing e) := by
      intro e
      rw [run, s.limit_owing]
    have hends : (s.limit limit).2.Ends none none
        fun t => (none, (next (s.limit limit).1).run t) :=
      run_ends_of_asks_none (hp _) (hnext _) _
    cases hends with
    | passes h => exact .passes fun e => (congrArg (·.shadow.error) (hrun e)).trans (h e)
    | refuses error u hu h =>
      cases hu with
      | known =>
        refine .refuses error _ (s.limit_consults limit) fun e => ?_
        rw [hrun]
        exact h e
      | asked hl => cases hl
  | rest | elide | reject error | apply change call | submit change call =>
    exact run_ends_of_asks_none hp trivial s

end Plan

namespace Scope

variable {δ : Type} [Driver δ] (s : Scope δ) (l? : Option Limit)

/-! Objects and queries -/

theorem generate_passes (cls : ObjectClass) (client : List UInt32) (e : Enum) :
    ((s.owing e).generate cls client).shadow.error = e := by
  unfold generate
  split <;> rfl

theorem delete_passes (cls : ObjectClass) (client : List UInt32) (e : Enum) :
    ((s.owing e).delete cls client).shadow.error = e := by
  unfold delete
  split
  · rfl
  · exact (forgetAll_keeps (s.owing e).shadow cls _).error

/-- A target that the class does not have is refused before an object is made. -/
theorem bind_ends (cls : ObjectClass) (target : Enum) (name : UInt32) :
    s.Ends l? none fun t => (none, t.bind cls target name) := by
  have hheld : ∀ e, (s.owing e).shadow.binding? cls target = s.shadow.binding? cls target := by
    intro e
    cases cls <;> rfl
  cases hb : s.shadow.binding? cls target with
  | none =>
    refine .refuses GL.invalidEnum s .known fun e => ?_
    simp only [bind, hheld, hb]
  | some held =>
    refine .passes fun e => ?_
    simp only [bind, hheld, hb]
    split
    · rfl
    · rw [driverName_owing]
      exact (setBinding_keeps ((s.driverName cls name).2.owing e).shadow cls target name).error

theorem getIntegerv_passes (pname : Enum) (e : Enum) :
    ((s.owing e).getIntegerv pname).2.shadow.error = e := by
  unfold getIntegerv
  split
  · rw [limit_owing]
    rfl
  split
  · rfl
  split
  · rfl
  rw [answerSize_owing]
  dsimp only
  split <;> rfl

theorem isEnabled_ends (cap : Enum) :
    s.Ends l? (some (.bool false)) fun t => replying .bool (t.isEnabled cap) := by
  cases hcap : Capability.ofEnum? cap with
  | some known =>
    refine .passes fun e => ?_
    simp only [replying, isEnabled, hcap]
    rfl
  | none =>
    refine .refuses GL.invalidEnum s .known fun e => ?_
    simp only [replying, isEnabled, hcap]

theorem checkFramebufferStatus_ends (target : Enum) :
    s.Ends l? (some (.enum 0)) fun t => replying .enum (t.checkFramebufferStatus target) := by
  by_cases ht : target = GL.framebuffer
  · refine .passes fun e => ?_
    simp only [replying, checkFramebufferStatus, if_pos ht]
    rfl
  · refine .refuses GL.invalidEnum s .known fun e => ?_
    simp only [replying, checkFramebufferStatus, if_neg ht]

theorem createShader_ends (kind : Enum) :
    s.Ends l? (some (.uint 0)) fun t => replying .uint (t.createShader kind) := by
  by_cases hk : Legal.shaderKinds.contains kind
  · refine .passes fun e => ?_
    simp only [replying, createShader, if_pos hk]
    rfl
  · refine .refuses GL.invalidEnum s .known fun e => ?_
    simp only [replying, createShader, if_neg hk]

theorem location_passes (kind : LocationKind) (program : UInt32) (name : String) (e : Enum) :
    ((s.owing e).location kind program name).2.shadow.error = e := by
  unfold location
  split
  · rfl
  · dsimp only
    split <;> rfl

theorem error_getError : s.getError.2.shadow.error = GL.noError := by
  unfold getError
  dsimp only
  split <;> rfl

/-! Commands -/

/-- Every rendering command that is let through, but the error query. -/
theorem perform_ends {c : Command} {entry : EntryPoint} (hc : c.entry? = some entry)
    (hn : c ≠ .getError) : s.Ends c.limit? c.blankReply? fun t => t.perform c := by
  cases c with
  | getError => exact absurd rfl hn
  | bindBuffer target name | bindTexture target name | bindFramebuffer target name
  | bindRenderbuffer target name => exact s.bind_ends _ _ target name
  | genBuffers names | genTextures names | genFramebuffers names | genRenderbuffers names =>
    exact .passes (s.generate_passes _ names)
  | deleteBuffers names | deleteTextures names | deleteFramebuffers names
  | deleteRenderbuffers names => exact .passes (s.delete_passes _ names)
  | getIntegerv pname => exact .passes (s.getIntegerv_passes pname)
  | isEnabled cap => exact s.isEnabled_ends _ cap
  | checkFramebufferStatus target => exact s.checkFramebufferStatus_ends _ target
  | createShader kind => exact s.createShader_ends _ kind
  | createProgram => exact .passes fun _ => rfl
  | getAttribLocation program name => exact .passes (s.location_passes .attrib program name)
  | getUniformLocation program name => exact .passes (s.location_passes .uniform program name)
  | _ =>
    first
      | exact (Plan.run_ends (Plan.ofCommand_allowed s.shadow hc)
          (Plan.ofCommand_asks s.shadow _) s).congr fun _ => rfl
      | cases hc

theorem fault_getError : s.fault .getError = GL.noError := (s.owing GL.noError).error_getError

variable {s} {c : Command} {entry : EntryPoint}

theorem perform_of_fault (hc : c.entry? = some entry) (hf : s.fault c ≠ GL.noError) :
    ∃ u, s.Consults c.limit? u ∧ s.perform c = (c.blankReply?, u.refused (s.fault c)) := by
  have hn : c ≠ .getError := by
    rintro rfl
    exact hf s.fault_getError
  exact (s.perform_ends hc hn).refused hf

omit [Driver δ] in
theorem drop_eq (hc : c.entry? = some entry) : s.drop c =
    (c.blankReply?, if c = .getError then s else s.refused GL.invalidOperation) := by
  rw [drop, Command.droppedReply_eq hc, reject_eq_refused]

end Scope

/-! Fleets -/

namespace Fleet

variable {δ : Type} [Driver δ] {f : Fleet δ} {w : Nat} {k : Current} {c : Command}
  {entry : EntryPoint}

/-- The command, on the current context `k` of the worker, is answered so and leaves the
scope so. Nothing that is not in the scope changes. -/
structure Renders (f : Fleet δ) (w : Nat) (k : Current) (c : Command) (reply : Option Reply)
    (t : Scope δ) : Prop where
  reply : ((f.engine w).execute c).1 = reply
  server : (f.move (.execute w c)).server =
    { f.server with driver := t.driver, names := t.names, stats := t.stats }
  out : (f.move (.execute w c)).out = update f.out w (some { k with shadow := t.shadow })

theorem renders_enter (hk : f.out w = some k) (hc : c.entry? = some entry)
    {reply : Option Reply} {t : Scope δ}
    (he : ((f.engine w).scope k).enter entry c = (reply, t)) : f.Renders w k c reply t := by
  have hexec := Engine.execute_rendering (e := f.engine w) hk hc
  rw [he] at hexec
  constructor
  case reply => rw [hexec]
  case server =>
    show ((f.engine w).execute c).2.server = _
    rw [hexec]
    rfl
  case out =>
    show update f.out w ((f.engine w).execute c).2.current = _
    rw [hexec]
    rfl

theorem move_idle (hk : f.out w = none) (hc : c.entry? = some entry) :
    ((f.engine w).execute c).1 = c.blankReply? ∧ (f.move (.execute w c)).server = f.server ∧
      (f.move (.execute w c)).out = f.out := by
  have hexec := Engine.execute_idle (e := f.engine w) hk hc
  refine ⟨?_, ?_, ?_⟩
  · rw [hexec, Command.droppedReply_eq hc]
  · show ((f.engine w).execute c).2.server = _
    rw [hexec]
    rfl
  · show update f.out w ((f.engine w).execute c).2.current = _
    rw [hexec]
    exact Function.update_eq_self w f.out

/-- Every rendering command that is refused is answered blank and changes nothing but
the pending error. Without a current context nothing changes at all. If the driver does not
have the entry point, the error is that the operation is invalid; an error query leaves it out.
If an argument is none that it may be, the error is the command's own, and a driver limit may
have been asked for. -/
theorem move_refuses (f : Fleet δ) (w : Nat) (hop : 0x0200 ≤ c.opcode.number) :
    ∃ entry, c.entry? = some entry ∧
      (f.out w = none →
        ((f.engine w).execute c).1 = c.blankReply? ∧ (f.move (.execute w c)).server = f.server ∧
          (f.move (.execute w c)).out = f.out) ∧
      ∀ k, f.out w = some k →
        (Driver.bound f.server.driver entry = false →
          f.Renders w k c c.blankReply? (if c = .getError then (f.engine w).scope k
            else ((f.engine w).scope k).refused GL.invalidOperation)) ∧
        (Driver.bound f.server.driver entry = true →
          ((f.engine w).scope k).fault c ≠ GL.noError →
          ∃ u, ((f.engine w).scope k).Consults c.limit? u ∧
            f.Renders w k c c.blankReply? (u.refused (((f.engine w).scope k).fault c))) := by
  obtain ⟨entry, hc⟩ := Option.isSome_iff_exists.mp (c.isSome_entry?_iff.mpr hop)
  refine ⟨entry, hc, fun hk => move_idle hk hc, fun k hk => ⟨fun hb => ?_, fun hb hf => ?_⟩⟩
  · refine renders_enter hk hc ?_
    have hdrop : ((f.engine w).scope k).enter entry c = ((f.engine w).scope k).drop c :=
      if_neg (Bool.eq_false_iff.mp hb)
    rw [hdrop, Scope.drop_eq hc]
  · obtain ⟨u, hu, hperform⟩ := Scope.perform_of_fault hc hf
    have henter : ((f.engine w).scope k).enter entry c = ((f.engine w).scope k).perform c :=
      if_pos hb
    exact ⟨u, hu, renders_enter hk hc (henter.trans hperform)⟩

def attributed (names : NameTable) : Fleet Recorder :=
  (start ({ integers := [(GL.maxVertexAttribs, [16])] } : Recorder) names).run
    [.execute 0 (.makeCurrent ⟨1⟩ ⟨3⟩ ⟨3⟩ ⟨7⟩)]

/-- A pointer for one behind them is refused. The driver is asked how many there are, and
not told of the pointer. -/
theorem move_refuses_of_attributed :
    ((attributed {}).move (.execute 0
        (.vertexAttribPointer 16 ⟨4, GL.float, false, 0, 0⟩))).server.driver.calls =
      [.makeCurrent ⟨1⟩ ⟨3⟩ ⟨3⟩ ⟨7⟩, .getIntegerv GL.maxVertexAttribs [8]] ∧
    ∃ k u, (attributed {}).out 0 = some k ∧
      (((attributed {}).engine 0).scope k).Consults (some .maxVertexAttribs) u ∧
      (attributed {}).Renders 0 k (.vertexAttribPointer 16 ⟨4, GL.float, false, 0, 0⟩) none
        (u.refused GL.invalidValue) := by
  have hfaults : ((attributed {}).out 0).map (fun k => (((attributed {}).engine 0).scope k).fault
      (.vertexAttribPointer 16 ⟨4, GL.float, false, 0, 0⟩)) = some GL.invalidValue := by
    decide +kernel
  obtain ⟨k, hk, hfault⟩ := Option.map_eq_some_iff.mp hfaults
  obtain ⟨entry, hc, -, hrefused⟩ := (attributed {}).move_refuses 0
    (c := .vertexAttribPointer 16 ⟨4, GL.float, false, 0, 0⟩) (by decide)
  cases hc
  obtain ⟨u, hu, hrenders⟩ := (hrefused k hk).2 (by decide +kernel)
    (by rw [hfault]; decide)
  rw [hfault] at hrenders
  exact ⟨by decide +kernel, k, u, hk, hu, hrenders⟩

end Fleet

end RenderRelay
