import RenderRelay.Proofs.Engine.Frames

/-!
# The guard in front of the driver

A command is let through by the entry point it belongs to, but the calls it
comes to are written beside that, and some commands make calls of other entry
points on the way: limits are asked for, formats counted, names made. Every
call, whichever way it came about, is of an entry point that is bound when it
is made, and is counted once.
-/

set_option autoImplicit false

namespace RenderRelay

def Driver.Fixed (δ : Type) [Driver δ] : Prop :=
  ∀ (d : δ) (calls : List Call), Driver.bound (Driver.after d calls) = Driver.bound d

def Commons.Guards {δ : Type} [Driver δ] (m m' : Commons δ) : Prop :=
  ∃ calls : List Call, (∀ c ∈ calls, Driver.bound m.driver c.entry = true) ∧
    m'.driver = Driver.after m.driver calls ∧
    m'.stats.driverCalls = m.stats.driverCalls + calls.length

namespace Commons

variable {δ : Type} [Driver δ] {m m' m'' : Commons δ}

theorem guards_of_same (hd : m'.driver = m.driver)
    (hn : m'.stats.driverCalls = m.stats.driverCalls) : m.Guards m' := ⟨[], by simp, hd, hn⟩

theorem guards_refl (m : Commons δ) : m.Guards m := guards_of_same rfl rfl

theorem guards_call {c : Call} (hb : Driver.bound m.driver c.entry = true)
    (hd : m'.driver = (Driver.perform m.driver c).2)
    (hn : m'.stats.driverCalls = m.stats.driverCalls + 1) : m.Guards m' :=
  ⟨[c], by simpa using hb, hd, hn⟩

theorem Guards.bound (hδ : Driver.Fixed δ) (h : m.Guards m') :
    Driver.bound m'.driver = Driver.bound m.driver := by
  obtain ⟨calls, -, hd, -⟩ := h
  rw [hd, hδ]

theorem Guards.trans (hδ : Driver.Fixed δ) (h : m.Guards m') (h' : m'.Guards m'') :
    m.Guards m'' := by
  have hbound := h.bound hδ
  obtain ⟨as, ha, hd, hn⟩ := h
  obtain ⟨bs, hb, hd', hn'⟩ := h'
  refine ⟨as ++ bs, fun c hc => ?_, ?_, ?_⟩
  · rcases List.mem_append.mp hc with hc | hc
    · exact ha c hc
    · rw [← hbound]
      exact hb c hc
  · rw [hd', hd, Driver.after_append]
  · rw [hn', hn, List.length_append, Nat.add_assoc]

end Commons

/-! ## Operations of a scope -/

namespace Scope

variable {δ : Type} [Driver δ] {s : Scope δ}

theorem forward_guards {c : Call} (hb : Driver.bound s.driver c.entry = true) :
    s.commons.Guards (s.forward c).2.commons := Commons.guards_call hb rfl rfl

theorem submit_guards {c : Call} (hb : Driver.bound s.driver c.entry = true) :
    s.commons.Guards (s.submit c).2.commons := Commons.guards_call hb rfl rfl

theorem reject_guards (s : Scope δ) (e : Enum) : s.commons.Guards (s.reject e).commons := by
  refine Commons.guards_of_same rfl ?_
  show (if s.shadow.acceptsError then s.stats.errorRecorded else s.stats).driverCalls = _
  split <;> rfl

theorem elide_guards (s : Scope δ) : s.commons.Guards s.elide.commons :=
  Commons.guards_of_same rfl rfl

theorem limit_guards (s : Scope δ) (l : Limit) : s.commons.Guards (s.limit l).2.commons := by
  unfold limit
  split
  · exact s.commons.guards_refl
  · split
    · next hb => exact forward_guards hb
    · exact s.commons.guards_refl

theorem generate_guards (cls : ObjectClass) (hb : Driver.bound s.driver (.generate cls) = true)
    (client : List UInt32) : s.commons.Guards (s.generate cls client).commons := by
  unfold generate
  split
  · exact s.commons.guards_refl
  · exact Commons.guards_call (c := .generate cls (client.map fun _ => 0)) hb rfl rfl

theorem delete_guards (cls : ObjectClass) (hb : Driver.bound s.driver (.delete cls) = true)
    (client : List UInt32) : s.commons.Guards (s.delete cls client).commons := by
  unfold delete
  split
  · exact s.commons.guards_refl
  · exact Commons.guards_call (c := .delete cls (s.names.takeAll cls client).1) hb rfl rfl

theorem driverName_guards (s : Scope δ) (cls : ObjectClass) (client : UInt32) :
    s.commons.Guards (s.driverName cls client).2.commons := by
  unfold driverName
  split
  · exact s.commons.guards_refl
  · split
    · next hb => exact Commons.guards_call (c := .generate cls [0]) hb rfl rfl
    · exact s.commons.guards_refl

theorem bind_guards (hδ : Driver.Fixed δ) (cls : ObjectClass)
    (hb : Driver.bound s.driver (.bind cls) = true) (target : Enum) (name : UInt32) :
    s.commons.Guards (s.bind cls target name).commons := by
  unfold bind
  split
  · exact s.reject_guards _
  · split
    · exact s.elide_guards
    · have hname := s.driverName_guards cls name
      have hb' : Driver.bound (s.driverName cls name).2.driver (.bind cls) = true := by
        rw [← hb]
        exact congrFun (hname.bound hδ) _
      exact hname.trans hδ (Commons.guards_call
        (c := .bind cls target (s.driverName cls name).1) hb' rfl rfl)

/-! Queries -/

theorem answerSize_guards (hb : Driver.bound s.driver .getIntegerv = true) (pname : Enum) :
    s.commons.Guards (s.answerSize pname).2.commons := by
  unfold answerSize
  split
  · exact forward_guards hb
  · split
    · exact forward_guards hb
    · exact s.commons.guards_refl

theorem getIntegerv_guards (hδ : Driver.Fixed δ)
    (hb : Driver.bound s.driver .getIntegerv = true) (pname : Enum) :
    s.commons.Guards (s.getIntegerv pname).2.commons := by
  unfold getIntegerv
  split
  · exact s.limit_guards _
  · split
    · exact s.elide_guards
    · split
      · exact s.elide_guards
      · have hsize := answerSize_guards hb pname
        dsimp only
        split
        · exact hsize
        · have hb' : Driver.bound (s.answerSize pname).2.driver .getIntegerv = true := by
            rw [← hb]
            exact congrFun (hsize.bound hδ) _
          exact hsize.trans hδ (submit_guards hb')

theorem isEnabled_guards (s : Scope δ) (cap : Enum) :
    s.commons.Guards (s.isEnabled cap).2.commons := by
  unfold isEnabled
  split
  · exact s.elide_guards
  · exact s.reject_guards _

theorem checkFramebufferStatus_guards
    (hb : Driver.bound s.driver .checkFramebufferStatus = true) (target : Enum) :
    s.commons.Guards (s.checkFramebufferStatus target).2.commons := by
  unfold checkFramebufferStatus
  split
  · exact submit_guards hb
  · exact s.reject_guards _

theorem createShader_guards (hb : Driver.bound s.driver .createShader = true) (kind : Enum) :
    s.commons.Guards (s.createShader kind).2.commons := by
  unfold createShader
  split
  · exact forward_guards hb
  · exact s.reject_guards _

theorem location_guards (kind : LocationKind)
    (hb : Driver.bound s.driver (.location kind) = true) (program : UInt32) (name : String) :
    s.commons.Guards (s.location kind program name).2.commons := by
  have hcall : s.commons.Guards (s.submit (.location kind program name)).2.commons :=
    submit_guards hb
  unfold location
  split
  · exact s.elide_guards
  · dsimp only
    split <;> exact hcall

theorem getError_guards (hb : Driver.bound s.driver .getError = true) :
    s.commons.Guards s.getError.2.commons := by
  unfold getError
  dsimp only
  split
  · exact Commons.guards_call (c := .getError) hb rfl rfl
  · exact Commons.guards_of_same rfl rfl

end Scope

/-! ## Plans -/

namespace Plan

def Within (entry : EntryPoint) : Plan → Prop
  | rest | elide | reject _ => True
  | apply _ call | submit _ call => call.entry = entry
  | consult _ next => ∀ value, (next value).Within entry

variable {entry : EntryPoint} {next : Plan} {call : Call}

theorem within_require {ok : Bool} {error : Enum} (h : next.Within entry) :
    (require ok error next).Within entry := by
  unfold require
  split
  · exact h
  · trivial

theorem within_checkEnum {ok : Bool} (h : next.Within entry) :
    (checkEnum ok next).Within entry := within_require h

theorem within_checkValue {ok : Bool} (h : next.Within entry) :
    (checkValue ok next).Within entry := within_require h

theorem within_unlessHeld {α : Type} [DecidableEq α] {held wanted : α} (h : next.Within entry) :
    (unlessHeld held wanted next).Within entry := by
  unfold unlessHeld
  split
  · trivial
  · exact h

theorem setCapability_within (s : Shadow) (cap : Enum) (on : Bool)
    (hc : (if on then Call.enable cap else Call.disable cap).entry = entry) :
    (setCapability s cap on).Within entry := by
  unfold setCapability
  split
  · trivial
  · exact within_unlessHeld hc

theorem hint_within (s : Shadow) (target mode : Enum) : (hint s target mode).Within .hint := by
  unfold hint
  split
  · exact within_unlessHeld <| within_checkEnum rfl
  · exact within_checkEnum rfl

theorem pixelStorei_within (s : Shadow) (pname : Enum) (param : Int32) :
    (pixelStorei s pname param).Within .pixelStorei := by
  unfold pixelStorei
  split
  · exact within_unlessHeld <| within_checkValue rfl
  · split
    · exact within_unlessHeld <| within_checkValue rfl
    · trivial

theorem stencil_within (s : Shadow) (face : Enum) (holds : StencilFace → Bool)
    (change : StencilFace → StencilFace) (hc : call.entry = entry) :
    (stencil s face holds change call).Within entry :=
  within_checkEnum <| within_unlessHeld hc

theorem setAttribArray_within (s : Shadow) (index : UInt32) (on : Bool)
    (hc : (if on then Call.enableVertexAttribArray index
      else Call.disableVertexAttribArray index).entry = entry) :
    (setAttribArray s index on).Within entry :=
  fun _ => within_checkValue <| within_unlessHeld hc

theorem texImage2D_within (s : Shadow) (image : TexImage) :
    (texImage2D s image).Within .texImage2D := by
  refine within_checkEnum <| within_checkValue fun _ => within_checkValue <| within_checkEnum <|
    within_checkEnum ?_
  split
  · trivial
  · exact within_checkValue rfl

/-- The entry point that a command is let through by is that of the call it comes to. -/
theorem ofCommand_within (s : Shadow) {c : Command} (hc : c.entry? = some entry) :
    (ofCommand s c).Within entry := by
  cases c with
  | activeTexture _ =>
    cases hc
    exact within_unlessHeld <| within_checkEnum fun _ => within_checkEnum rfl
  | blendEquation _ | blendEquationSeparate _ _ | blendFunc _ _ | blendFuncSeparate _ | cullFace _
  | depthFunc _ | frontFace _ =>
    cases hc
    exact within_unlessHeld <| within_checkEnum rfl
  | blendColor _ | clearColor _ | clearDepthf _ | clearStencil _ | colorMask _ | depthMask _
  | depthRangef _ _ | polygonOffset _ _ | sampleCoverage _ _ | useProgram _ =>
    cases hc
    exact within_unlessHeld rfl
  | lineWidth _ | scissor _ | viewport _ =>
    cases hc
    exact within_unlessHeld <| within_checkValue rfl
  | enable cap =>
    cases hc
    exact setCapability_within s cap true rfl
  | disable cap =>
    cases hc
    exact setCapability_within s cap false rfl
  | hint target mode =>
    cases hc
    exact hint_within s target mode
  | pixelStorei pname param =>
    cases hc
    exact pixelStorei_within s pname param
  | stencilFunc _ | stencilFuncSeparate _ _ | stencilOp _ | stencilOpSeparate _ _ =>
    cases hc
    exact within_checkEnum (stencil_within s _ _ _ rfl)
  | stencilMask _ | stencilMaskSeparate _ _ =>
    cases hc
    unfold ofCommand stencilMask
    exact stencil_within s _ _ _ rfl
  | bufferData _ _ _ _ =>
    cases hc
    exact within_checkEnum <| within_checkValue <| within_checkEnum <| within_checkValue rfl
  | texImage2D image =>
    cases hc
    exact texImage2D_within s image
  | bufferSubData _ _ _ | drawArrays _ _ _ =>
    cases hc
    exact within_checkEnum <| within_checkValue rfl
  | drawElements _ _ _ _ =>
    cases hc
    exact within_checkEnum <| within_checkValue <| within_checkEnum rfl
  | texParameteri _ _ _ | generateMipmap _ =>
    cases hc
    exact within_checkEnum rfl
  | clear _ =>
    cases hc
    exact within_checkValue rfl
  | shaderSource _ _ | compileShader _ | attachShader _ _ | flush | finish | linkProgram _
  | deleteProgram _ =>
    cases hc
    exact rfl
  | enableVertexAttribArray index =>
    cases hc
    exact setAttribArray_within s index true rfl
  | disableVertexAttribArray index =>
    cases hc
    exact setAttribArray_within s index false rfl
  | vertexAttribPointer _ _ =>
    cases hc
    exact fun _ => within_checkValue <| within_checkValue <| within_checkEnum <|
      within_checkValue <| within_unlessHeld rfl
  | _ => trivial

theorem run_guards {δ : Type} [Driver δ] (hδ : Driver.Fixed δ) {p : Plan} (hp : p.Within entry)
    {s : Scope δ} (hb : Driver.bound s.driver entry = true) :
    s.commons.Guards (p.run s).commons := by
  induction p generalizing s with
  | rest => exact s.commons.guards_refl
  | elide => exact s.elide_guards
  | reject error => exact s.reject_guards error
  | apply change call =>
    have hb' : Driver.bound s.driver call.entry = true := by rwa [show call.entry = entry from hp]
    exact Commons.guards_call hb' rfl rfl
  | submit change call =>
    have hb' : Driver.bound s.driver call.entry = true := by rwa [show call.entry = entry from hp]
    exact Commons.guards_call hb' rfl rfl
  | consult limit next ih =>
    have hlimit := s.limit_guards limit
    have hb' : Driver.bound (s.limit limit).2.driver entry = true := by
      rw [← hb]
      exact congrFun (hlimit.bound hδ) _
    exact hlimit.trans hδ (ih _ (hp _) hb')

end Plan

/-! ## Commands -/

namespace Scope

variable {δ : Type} [Driver δ] {s : Scope δ} {c : Command} {entry : EntryPoint}

theorem perform_guards (hδ : Driver.Fixed δ) (hc : c.entry? = some entry)
    (hb : Driver.bound s.driver entry = true) : s.commons.Guards (s.perform c).2.commons := by
  cases c with
  | bindBuffer target name | bindTexture target name | bindFramebuffer target name
  | bindRenderbuffer target name =>
    cases hc
    exact bind_guards hδ _ hb target name
  | genBuffers names | genTextures names | genFramebuffers names | genRenderbuffers names =>
    cases hc
    exact generate_guards _ hb names
  | deleteBuffers names | deleteTextures names | deleteFramebuffers names
  | deleteRenderbuffers names =>
    cases hc
    exact delete_guards _ hb names
  | getError =>
    cases hc
    exact getError_guards hb
  | getIntegerv pname =>
    cases hc
    exact getIntegerv_guards hδ hb pname
  | isEnabled cap => exact s.isEnabled_guards cap
  | checkFramebufferStatus target =>
    cases hc
    exact checkFramebufferStatus_guards hb target
  | createShader kind =>
    cases hc
    exact createShader_guards hb kind
  | createProgram =>
    cases hc
    exact forward_guards (c := .createProgram) hb
  | getAttribLocation program name =>
    cases hc
    exact location_guards .attrib hb program name
  | getUniformLocation program name =>
    cases hc
    exact location_guards .uniform hb program name
  | _ => exact Plan.run_guards hδ (Plan.ofCommand_within s.shadow hc) hb

theorem enter_guards (hδ : Driver.Fixed δ) (s : Scope δ) (hc : c.entry? = some entry) :
    s.commons.Guards (s.enter entry c).2.commons := by
  unfold enter
  split
  · next hb => exact perform_guards hδ hc hb
  · unfold drop
    split
    · exact s.commons.guards_refl
    · exact s.reject_guards _

end Scope

namespace Engine

variable {δ : Type} [Driver δ]

theorem ask_guards (e : Engine δ) (c : Call) :
    e.server.commons.Guards (e.ask c).2.server.commons := by
  unfold ask
  split
  · next hb => exact Commons.guards_call hb rfl rfl
  · exact e.server.commons.guards_refl

theorem makeCurrent_guards (e : Engine δ) (display : Display) (draw read : Surface)
    (context : Context) :
    e.server.commons.Guards (e.makeCurrent display draw read context).2.server.commons := by
  unfold makeCurrent
  split
  · exact e.server.commons.guards_refl
  next hb =>
  have hb' : Driver.bound e.server.driver .eglMakeCurrent = true := by simpa using hb
  split
  · exact Commons.guards_of_same rfl rfl
  have hcall : e.server.commons.Guards
      (e.call (.makeCurrent display draw read context)).2.server.commons :=
    Commons.guards_call (c := .makeCurrent display draw read context) hb' rfl rfl
  split
  · next e' he => rwa [he] at hcall
  · next e' he =>
    rw [he] at hcall
    -- What follows is between the registry and the worker.
    split
    split <;> exact hcall

theorem manage_guards (e : Engine δ) (c : Command) :
    e.server.commons.Guards (e.manage c).2.server.commons := by
  cases c with
  | initDisplay display =>
    show e.server.commons.Guards (e.initDisplay display).2.server.commons
    have ha := e.ask_guards (.initDisplay display)
    unfold initDisplay
    generalize e.ask (.initDisplay display) = answer at ha ⊢
    obtain ⟨_ | _, e'⟩ := answer <;> exact ha
  | terminateDisplay display =>
    show e.server.commons.Guards (e.terminateDisplay display).2.server.commons
    have ha := e.ask_guards (.terminateDisplay display)
    unfold terminateDisplay
    generalize e.ask (.terminateDisplay display) = answer at ha ⊢
    obtain ⟨_ | _, e'⟩ := answer <;> exact ha
  | destroyContext display context =>
    show e.server.commons.Guards (e.destroyContext display context).2.server.commons
    have ha := e.ask_guards (.destroyContext display context)
    unfold destroyContext
    generalize e.ask (.destroyContext display context) = answer at ha ⊢
    obtain ⟨_ | _, e'⟩ := answer <;> exact ha
  | destroySurface display surface =>
    show e.server.commons.Guards (e.destroySurface display surface).2.server.commons
    have ha := e.ask_guards (.destroySurface display surface)
    unfold destroySurface
    generalize e.ask (.destroySurface display surface) = answer at ha ⊢
    obtain ⟨_ | _, e'⟩ := answer <;> exact ha
  | releaseThread =>
    show e.server.commons.Guards (e.releaseThread).2.server.commons
    have ha := e.ask_guards .releaseThread
    unfold releaseThread
    generalize e.ask .releaseThread = answer at ha ⊢
    obtain ⟨_ | _, e'⟩ := answer <;> exact ha
  | makeCurrent display draw read context => exact e.makeCurrent_guards display draw read context
  | getDisplay | chooseConfig | createContext | createWindowSurface | createPbufferSurface
  | swapBuffers | eglGetError => exact e.ask_guards _
  | _ => exact e.server.commons.guards_refl

theorem execute_guards (hδ : Driver.Fixed δ) (e : Engine δ) (c : Command) :
    e.server.commons.Guards (e.execute c).2.server.commons := by
  cases hc : c.entry? with
  | none =>
    rw [execute_display hc]
    exact e.manage_guards c
  | some entry =>
    cases hk : e.current with
    | none =>
      rw [execute_idle hk hc]
      exact e.server.commons.guards_refl
    | some k =>
      rw [execute_rendering hk hc]
      exact Scope.enter_guards hδ (e.scope k) hc

end Engine

/-! ## Runs -/

structure Watched (δ : Type) where
  driver : δ
  seen : List (Call × Bool) := []

namespace Watched

variable {δ : Type} [Driver δ]

instance : Driver (Watched δ) where
  bound w := Driver.bound w.driver
  perform w c := ((Driver.perform w.driver c).1,
    ⟨(Driver.perform w.driver c).2, w.seen ++ [(c, Driver.bound w.driver c.entry)]⟩)

theorem driver_after (w : Watched δ) (calls : List Call) :
    (Driver.after w calls).driver = Driver.after w.driver calls := by
  induction calls generalizing w with
  | nil => rfl
  | cons c calls ih => exact ih _

theorem fixed (hδ : Driver.Fixed δ) : Driver.Fixed (Watched δ) := by
  intro w calls
  show Driver.bound (Driver.after w calls).driver = Driver.bound w.driver
  rw [driver_after, hδ]

theorem seen_after (hδ : Driver.Fixed δ) (w : Watched δ) (calls : List Call) :
    (Driver.after w calls).seen =
      w.seen ++ calls.map fun c => (c, Driver.bound w.driver c.entry) := by
  induction calls generalizing w with
  | nil => exact (List.append_nil _).symm
  | cons c calls ih =>
    have hsame : Driver.bound (Driver.perform w.driver c).2 = Driver.bound w.driver := hδ _ [c]
    refine (ih (Driver.perform w c).2).trans ?_
    show w.seen ++ [(c, Driver.bound w.driver c.entry)] ++
      calls.map (fun c' => (c', Driver.bound (Driver.perform w.driver c).2 c'.entry)) = _
    rw [hsame, List.append_assoc, List.singleton_append, List.map_cons]

end Watched

/-- What happens to a fleet and its driver: a move of a worker, or, between two of them,
a change to the driver, such as one that leaves more entry points unbound. -/
inductive Turn (δ : Type) where
  | move (m : Move)
  | alter (change : δ → δ)

namespace Fleet

variable {δ : Type} [Driver δ]

theorem move_guards (hδ : Driver.Fixed δ) (f : Fleet δ) (m : Move) :
    f.server.commons.Guards (f.move m).server.commons := by
  cases m with
  | execute w c => exact Engine.execute_guards hδ (f.engine w) c
  | drop w => exact f.server.commons.guards_refl

def turn (f : Fleet (Watched δ)) : Turn δ → Fleet (Watched δ)
  | .move m => f.move m
  | .alter change =>
    { f with server := { f.server with
        driver := { f.server.driver with driver := change f.server.driver.driver } } }

def turns (f : Fleet (Watched δ)) (ts : List (Turn δ)) : Fleet (Watched δ) := ts.foldl turn f

/-- The calls were made on the way from one fleet to another, each of an entry point that
was bound at that moment, and the counter counts them. -/
structure Counts (f g : Fleet (Watched δ)) (calls : List Call) : Prop where
  seen_eq : g.server.driver.seen = f.server.driver.seen ++ calls.map (·, true)
  driverCalls_eq : g.server.stats.driverCalls = f.server.stats.driverCalls + calls.length

/-- A tally that grows by one with every call of a bound entry point, as a log does. -/
def Tallies (logged : δ → Nat) : Prop :=
  ∀ d (c : Call), Driver.bound d c.entry = true → logged (Driver.perform d c).2 = logged d + 1

theorem logged_after (hδ : Driver.Fixed δ) {logged : δ → Nat} (hl : Tallies logged) (d : δ)
    {calls : List Call} (hb : ∀ c ∈ calls, Driver.bound d c.entry = true) :
    logged (Driver.after d calls) = logged d + calls.length := by
  induction calls generalizing d with
  | nil => rfl
  | cons c calls ih =>
    have hsame : Driver.bound (Driver.perform d c).2 = Driver.bound d := hδ _ [c]
    refine (ih (Driver.perform d c).2 fun c' hc' => ?_).trans ?_
    · rw [hsame]
      exact hb c' (by simp [hc'])
    · rw [hl d c (hb c (by simp)), List.length_cons]
      omega

theorem turn_counts (hδ : Driver.Fixed δ) (f : Fleet (Watched δ)) (t : Turn δ) :
    ∃ calls, f.Counts (f.turn t) calls ∧ ∀ logged : δ → Nat, Tallies logged →
      (∀ change, t = .alter change → ∀ d, logged (change d) = logged d) →
      logged (f.turn t).server.driver.driver = logged f.server.driver.driver + calls.length := by
  cases t with
  | move m =>
    obtain ⟨calls, hb, hd, hn⟩ := f.move_guards (Watched.fixed hδ) m
    have hd' : (f.move m).server.driver = Driver.after f.server.driver calls := hd
    refine ⟨calls, ⟨?_, hn⟩, fun logged hl _ => ?_⟩
    · rw [turn, hd', Watched.seen_after hδ]
      refine congrArg _ (List.map_congr_left fun c hc => ?_)
      exact congrArg (c, ·) (hb c hc)
    · rw [turn, hd', Watched.driver_after]
      exact logged_after hδ hl _ hb
  | alter change =>
    refine ⟨[], ⟨(List.append_nil _).symm, rfl⟩, fun logged _ hk => ?_⟩
    exact hk change rfl _

end Fleet

/-! ## Recorders -/

namespace Recorder

theorem fixed : Driver.Fixed Recorder := Recorder.bound_after

theorem tallies_log : Fleet.Tallies fun r : Recorder => r.log.length := by
  intro r c hb
  have hb' : r.bound c.entry = true := hb
  show (r.perform c).2.log.length = r.log.length + 1
  rw [log_perform, if_pos hb', List.length_cons]

end Recorder

namespace Fleet

variable {δ : Type} [Driver δ]

/-- In every run of any number of engines over one driver, from any state of theirs, while
any entry points are unbound and more may become so between commands: each call that reaches
the driver is of an entry point that is bound at that moment, and the counter of driver calls
grows by the number of these calls, as does whatever else tallies them. -/
theorem turns_guarded (hδ : Driver.Fixed δ) (f : Fleet (Watched δ)) (ts : List (Turn δ)) :
    ∃ calls, f.Counts (f.turns ts) calls ∧ ∀ logged : δ → Nat, Tallies logged →
      (∀ change, .alter change ∈ ts → ∀ d, logged (change d) = logged d) →
      logged (f.turns ts).server.driver.driver =
        logged f.server.driver.driver + calls.length := by
  induction ts generalizing f with
  | nil => exact ⟨[], ⟨(List.append_nil _).symm, rfl⟩, fun _ _ _ => rfl⟩
  | cons t ts ih =>
    obtain ⟨as, ha, hla⟩ := f.turn_counts hδ t
    obtain ⟨bs, hb, hlb⟩ := ih (f.turn t)
    refine ⟨as ++ bs, ⟨?_, ?_⟩, fun logged hl hk => ?_⟩
    · rw [turns, List.foldl_cons, ← turns, hb.seen_eq, ha.seen_eq, List.append_assoc,
        List.map_append]
    · rw [turns, List.foldl_cons, ← turns, hb.driverCalls_eq, ha.driverCalls_eq,
        List.length_append, Nat.add_assoc]
    · have hfirst := hla logged hl fun change he => hk change (by simp [he])
      have hrest := hlb logged hl fun change hc => hk change (by simp [hc])
      rw [turns, List.foldl_cons, ← turns, hrest, hfirst, List.length_append, Nat.add_assoc]

/-- A buffer is made where it is bound, until names and limits can no longer be had. -/
def unbinding : List (Turn Recorder) :=
  [.move (.execute 0 (.makeCurrent ⟨1⟩ ⟨3⟩ ⟨3⟩ ⟨7⟩)),
    .move (.execute 0 (.bindBuffer GL.arrayBuffer 5)),
    .move (.execute 0 (.enableVertexAttribArray 2)),
    .alter (·.unbind (.generate .buffer)), .alter (·.unbind .getIntegerv),
    .move (.execute 1 (.makeCurrent ⟨1⟩ ⟨4⟩ ⟨4⟩ ⟨8⟩)),
    .move (.execute 1 (.bindBuffer GL.arrayBuffer 6)),
    .move (.execute 1 (.enableVertexAttribArray 2)),
    .move (.execute 1 (.genBuffers [9])), .move (.execute 0 (.getIntegerv GL.arrayBufferBinding)),
    .move (.drop 0)]

theorem turns_guarded_of_unbinding :
    Driver.Fixed Recorder ∧
      ∃ calls : List Call,
        ((start (⟨{}, []⟩ : Watched Recorder) {}).turns unbinding).server.driver.seen =
          calls.map (·, true) ∧
        calls.length = 7 ∧
        ((start (⟨{}, []⟩ : Watched Recorder) {}).turns unbinding).server.stats.driverCalls = 7 ∧
        ((start (⟨{}, []⟩ : Watched Recorder) {}).turns unbinding).server.driver.driver.log.length
          = 7 := by
  obtain ⟨calls, hcounts, hlog⟩ :=
    turns_guarded Recorder.fixed (start (⟨{}, []⟩ : Watched Recorder) {}) unbinding
  have hseen := hcounts.seen_eq
  have hn : ((start (⟨{}, []⟩ : Watched Recorder) {}).turns unbinding).server.driver.seen.length =
      7 := by decide +kernel
  have hlength : calls.length = 7 := by
    rw [hseen] at hn
    simpa [start] using hn
  refine ⟨Recorder.fixed, calls, hseen, hlength, ?_, ?_⟩
  · rw [hcounts.driverCalls_eq, hlength]
    rfl
  · rw [hlog _ Recorder.tallies_log ?_, hlength]
    · rfl
    · intro change hc d
      simp only [unbinding, List.mem_cons, Turn.alter.injEq, reduceCtorEq, false_or,
        List.not_mem_nil, or_false] at hc
      rcases hc with rfl | rfl <;> rfl

end Fleet

end RenderRelay
