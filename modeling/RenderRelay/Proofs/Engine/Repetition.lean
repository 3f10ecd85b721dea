import RenderRelay.Proofs.Engine.Redundancy

/-!
# Repeated setters

A setter that is given twice in a row does nothing the second time. What was stored is
what the second compares with, bit for bit; what was refused is refused again while its
error is pending; and a limit that was asked for is known.
-/

set_option autoImplicit false

namespace RenderRelay

open Function (update)

def Command.kept : Command → Bool
  | hint target _ => target == GL.generateMipmapHint
  | c => c.setting?.isSome || c.bound?.isSome

namespace Shadow

variable {s : Shadow}

theorem recordError_again (s : Shadow) (e : Enum) :
    (s.recordError e).recordError e = s.recordError e := by
  unfold recordError acceptsError
  split
  · split <;> rfl
  · rfl

theorem allStencil_updateStencil (s : Shadow) (face : Enum) {holds : StencilFace → Bool}
    {change : StencilFace → StencilFace} (h : ∀ x, holds (change x) = true) :
    (s.updateStencil face change).allStencil face holds = true := by
  unfold allStencil updateStencil
  grind

theorem binding?_setBinding {cls : ObjectClass} {target : Enum} (name : UInt32)
    (h : (s.binding? cls target).isSome) :
    (s.setBinding cls target name).binding? cls target = some name := by
  cases cls with
  | texture =>
    have hunit : ∀ u, (s.setUnit u).unit = u := fun u => by simp [setUnit, unit, activeUnit]
    simp only [binding?, setBinding] at h ⊢
    grind
  | _ => grind [binding?, setBinding]

end Shadow

/-! ## Plans -/

namespace Plan

def Elides (asked : Option (Limit × Int32)) : Plan → Prop
  | elide => True
  | consult limit next => ∃ value, asked = some (limit, value) ∧ (next value).Elides none
  | _ => False

/-- Errors and limits make no difference to the plan. -/
def Settled (again : Shadow → Plan) : Prop :=
  ∀ (s : Shadow) error known limits,
    again { s with error, driverMayKnow := known, limits } = again s

/-- Once the call was made, and the shadow changed with it, the plan `again` of the
shadow leaves it out. -/
def Writes (again : Shadow → Plan) (s : Shadow) (asked : Option (Limit × Int32)) : Plan → Prop
  | rest | elide | reject _ => True
  | apply change _ | submit change _ => ∀ limits, (again (change { s with limits })).Elides asked
  | consult limit next => ∀ value, (next value).Writes again s (some (limit, value))

variable {again : Shadow → Plan} {s : Shadow} {asked : Option (Limit × Int32)} {next : Plan}

theorem Elides.eq_elide (h : next.Elides none) : next = elide := by
  cases next with
  | elide => rfl
  | consult limit next =>
    obtain ⟨value, hnone, -⟩ := h
    cases hnone
  | _ => exact h.elim

theorem elides_require {ok : Bool} {error : Enum} (hok : ok = true) (h : next.Elides asked) :
    (require ok error next).Elides asked := by
  rw [require, if_pos hok]
  exact h

theorem elides_unlessHeld {α : Type} [DecidableEq α] {held wanted : α} (h : held = wanted) :
    (unlessHeld held wanted next).Elides asked := by
  rw [unlessHeld, if_pos h]
  trivial

theorem writes_require {ok : Bool} {error : Enum} (h : ok = true → next.Writes again s asked) :
    (require ok error next).Writes again s asked := by
  unfold require
  split
  · next hok => exact h hok
  · trivial

theorem writes_unlessHeld {α : Type} [DecidableEq α] {held wanted : α}
    (h : next.Writes again s asked) : (unlessHeld held wanted next).Writes again s asked := by
  unfold unlessHeld
  split
  · trivial
  · exact h

theorem Writes.mono {again' : Shadow → Plan} {p : Plan} (hp : p.Writes again s asked)
    (h : ∀ t asked, (again t).Elides asked → (again' t).Elides asked) :
    p.Writes again' s asked := by
  induction p generalizing asked with
  | rest | elide | reject _ => trivial
  | apply change call | submit change call => exact fun limits => h _ _ (hp limits)
  | consult limit next ih => exact fun value => ih value (hp value)

theorem setCapability_writes (s : Shadow) (cap : Enum) (on : Bool) :
    (setCapability s cap on).Writes (setCapability · cap on) s asked := by
  unfold setCapability
  cases Capability.ofEnum? cap with
  | none => trivial
  | some c =>
    refine writes_unlessHeld fun limits => elides_unlessHeld ?_
    exact (CapabilitySet.has_set _ _ _ _).trans (if_pos rfl)

theorem hint_writes (s : Shadow) (mode : Enum) : (hint s GL.generateMipmapHint mode).Writes
    (hint · GL.generateMipmapHint mode) s asked :=
  writes_unlessHeld <| writes_require fun _ _ => elides_unlessHeld rfl

theorem pixelStorei_writes (s : Shadow) (pname : Enum) (param : Int32) :
    (pixelStorei s pname param).Writes (pixelStorei · pname param) s asked := by
  unfold pixelStorei
  split
  · exact writes_unlessHeld <| writes_require fun _ _ => elides_unlessHeld rfl
  split
  · exact writes_unlessHeld <| writes_require fun _ _ => elides_unlessHeld rfl
  · trivial

theorem stencil_writes (s : Shadow) (face : Enum) {holds : StencilFace → Bool}
    {change : StencilFace → StencilFace} (call : Call) (h : ∀ x, holds (change x) = true) :
    (stencil s face holds change call).Writes (stencil · face holds change call) s asked :=
  writes_require fun hface => writes_unlessHeld fun _ =>
    elides_require hface <| elides_unlessHeld <| Shadow.allStencil_updateStencil _ face h

theorem stencilMask_writes (s : Shadow) (face : Enum) (mask : UInt32) :
    (stencilMask s face mask).Writes (stencilMask · face mask) s asked := by
  unfold stencilMask
  exact stencil_writes s face _ fun _ => decide_eq_true rfl

theorem guarded_writes {f : Shadow → Plan} {ok : Bool} {error : Enum}
    (h : (f s).Writes f s asked) :
    (require ok error (f s)).Writes (fun t => require ok error (f t)) s asked :=
  writes_require fun hok => h.mono fun _ _ => elides_require hok

theorem setAttribArray_writes (hs : s.attribs.Sound) (index : UInt32) (on : Bool) :
    (setAttribArray s index on).Writes (setAttribArray · index on) s none := by
  refine fun max => writes_require fun hindex => writes_unlessHeld fun limits =>
    ⟨max, rfl, elides_require hindex <| elides_unlessHeld ?_⟩
  rw [AttribList.get_update hs, if_pos rfl]

theorem vertexAttribPointer_writes (hs : s.attribs.Sound) (index : UInt32)
    (pointer : AttribPointer) :
    (vertexAttribPointer s index pointer).Writes (vertexAttribPointer · index pointer) s none := by
  refine fun max => writes_require fun hindex => writes_require fun hsize =>
    writes_require fun htype => writes_require fun hstride => writes_unlessHeld fun limits =>
      ⟨max, rfl, elides_require hindex <| elides_require hsize <| elides_require htype <|
        elides_require hstride <| elides_unlessHeld ?_⟩
  rw [AttribList.get_update hs, if_pos rfl]

theorem ofCommand_writes (hs : s.attribs.Sound) {c : Command} (hc : c.kept = true) :
    (ofCommand s c).Writes (ofCommand · c) s none := by
  cases c with
  | enable cap => exact setCapability_writes s cap true
  | disable cap => exact setCapability_writes s cap false
  | hint target mode =>
    obtain rfl : target = GL.generateMipmapHint := eq_of_beq hc
    exact hint_writes s mode
  | pixelStorei pname param => exact pixelStorei_writes s pname param
  | stencilFunc test => exact guarded_writes (stencil_writes s _ _ fun _ => decide_eq_true rfl)
  | stencilFuncSeparate face test =>
    exact guarded_writes (stencil_writes s _ _ fun _ => decide_eq_true rfl)
  | stencilMask mask => exact stencilMask_writes s _ mask
  | stencilMaskSeparate face mask => exact stencilMask_writes s face mask
  | stencilOp actions => exact guarded_writes (stencil_writes s _ _ fun _ => decide_eq_true rfl)
  | stencilOpSeparate face actions =>
    exact guarded_writes (stencil_writes s _ _ fun _ => decide_eq_true rfl)
  | enableVertexAttribArray index => exact setAttribArray_writes hs index true
  | disableVertexAttribArray index => exact setAttribArray_writes hs index false
  | vertexAttribPointer index pointer => exact vertexAttribPointer_writes hs index pointer
  | activeTexture texture =>
    exact writes_unlessHeld <| writes_require fun _ _ => writes_require fun _ _ =>
      elides_unlessHeld rfl
  | blendEquation _ | blendEquationSeparate _ _ | blendFunc _ _ | blendFuncSeparate _ | cullFace _
  | depthFunc _ | frontFace _ | lineWidth _ | scissor _ | viewport _ =>
    exact writes_unlessHeld <| writes_require fun _ _ => elides_unlessHeld rfl
  | blendColor _ | clearColor _ | clearDepthf _ | clearStencil _ | colorMask _ | depthMask _
  | depthRangef _ _ | polygonOffset _ _ | sampleCoverage _ _ | useProgram _ =>
    exact writes_unlessHeld fun _ => elides_unlessHeld rfl
  | bindBuffer _ _ | bindTexture _ _ | bindFramebuffer _ _ | bindRenderbuffer _ _ => trivial
  | _ => cases hc

theorem ofCommand_settled (c : Command) : Settled (ofCommand · c) := by
  intro s error known limits
  cases c <;> rfl

end Plan

/-! ## Scopes -/

namespace Scope

variable {δ : Type} [Driver δ] {s t : Scope δ}

structure Unmoved (s t : Scope δ) : Prop where
  driver : t.driver = s.driver
  names : t.names = s.names
  shadow : t.shadow = s.shadow
  driverCalls : t.stats.driverCalls = s.stats.driverCalls

omit [Driver δ] in
theorem elide_unmoved (s : Scope δ) : s.Unmoved s.elide := ⟨rfl, rfl, rfl, rfl⟩

omit [Driver δ] in
theorem reject_again (s : Scope δ) (e : Enum) : (s.reject e).Unmoved ((s.reject e).reject e) := by
  refine ⟨rfl, rfl, s.shadow.recordError_again e, ?_⟩
  unfold reject
  dsimp only
  split <;> rfl

/-- The answer is kept, or the driver cannot be asked. -/
theorem limit_cases (s : Scope δ) (l : Limit) :
    (s.limit l).2.shadow.limits.cached? l = some (s.limit l).1 ∨
      s.shadow.limits.cached? l = none ∧ Driver.bound s.driver .getIntegerv = false ∧
        s.limit l = (l.minimum, s) := by
  unfold limit
  cases hc : s.shadow.limits.cached? l with
  | some value => exact .inl hc
  | none =>
    cases Driver.bound s.driver .getIntegerv with
    | true =>
      refine .inl ?_
      simp [Limits.cached?_record, forward, hc]
    | false => exact .inr ⟨rfl, rfl, by simp⟩

theorem limit_of_cached {l : Limit} {value : Int32}
    (h : s.shadow.limits.cached? l = some value) : s.limit l = (value, s) := by
  simp only [limit, h]

theorem limit_of_unbound {l : Limit} (h : s.shadow.limits.cached? l = none)
    (hb : Driver.bound s.driver .getIntegerv = false) : s.limit l = (l.minimum, s) := by
  simp only [limit, h, hb, Bool.false_eq_true, if_false]

theorem limit_shadow (s : Scope δ) (l : Limit) :
    ∃ limits, (s.limit l).2.shadow = { s.shadow with limits } := by
  unfold limit
  split
  · exact ⟨_, rfl⟩
  · split <;> exact ⟨_, rfl⟩

/-- A limit that was asked for is known, and where the driver cannot be asked, it is not. -/
theorem limit_again (s : Scope δ) (l : Limit)
    (hl : t.shadow.limits = (s.limit l).2.shadow.limits)
    (hb : Driver.bound t.driver .getIntegerv = Driver.bound s.driver .getIntegerv) :
    t.limit l = ((s.limit l).1, t) := by
  rcases s.limit_cases l with hcached | ⟨hc, hunbound, heq⟩
  · exact limit_of_cached (by rw [hl, hcached])
  · rw [heq] at hl ⊢
    exact limit_of_unbound (by rw [hl, hc]) (by rw [hb, hunbound])

/-! ## Plans that are run twice -/

variable {again : Shadow → Plan} {sh : Shadow} {asked : Option (Limit × Int32)} {p : Plan}

/-- A plan that asks for nothing: run once more it does nothing, and the shadow asks for
the same plan, or for one that leaves the call out. -/
theorem run_settles (hagain : Plan.Settled again) (hw : p.Writes again sh asked) (ha : p.Asks none)
    {known : Limit → Int32} (hp : p.Admits known)
    (hs : ∃ limits, s.shadow = { sh with limits }) :
    (p.run s).shadow.limits = s.shadow.limits ∧
      (((p.run s).Unmoved (p.run (p.run s)) ∧ again (p.run s).shadow = again sh) ∨
        (again (p.run s).shadow).Elides asked) := by
  obtain ⟨limits, hs⟩ := hs
  cases p with
  | rest =>
    exact ⟨rfl, .inl ⟨⟨rfl, rfl, rfl, rfl⟩, hs ▸ hagain sh sh.error sh.driverMayKnow limits⟩⟩
  | elide => exact ⟨rfl, .inl ⟨elide_unmoved _, hs ▸ hagain sh sh.error sh.driverMayKnow limits⟩⟩
  | reject error =>
    have hshadow : ∃ e, (s.reject error).shadow =
        { sh with error := e, limits } := by
      show ∃ e, s.shadow.recordError error = _
      unfold Shadow.recordError
      rw [hs]
      split <;> exact ⟨_, rfl⟩
    obtain ⟨e, hshadow⟩ := hshadow
    refine ⟨?_, .inl ⟨s.reject_again error, ?_⟩⟩
    · show (s.reject error).shadow.limits = _
      rw [hshadow, hs]
    · show again (s.reject error).shadow = _
      rw [hshadow]
      exact hagain sh e sh.driverMayKnow limits
  | apply change call =>
    refine ⟨hp.1 _, .inr ?_⟩
    show (again (change s.shadow)).Elides asked
    rw [hs]
    exact hw limits
  | submit change call =>
    refine ⟨hp.1 _, .inr ?_⟩
    show (again { change s.shadow with driverMayKnow := true }).Elides asked
    have hsame := hagain (change s.shadow) (change s.shadow).error true (change s.shadow).limits
    rw [hsame, hs]
    exact hw limits
  | consult limit next => cases ha.1

/-- A plan that is run, and the plan of the shadow it leaves run after it. -/
theorem run_again (hagain : Plan.Settled again) {limit? : Option Limit} (hq : again s.shadow = p)
    (ha : p.Asks limit?) (hw : p.Writes again s.shadow none) (hp : ∀ known, p.Admits known)
    (hb : Driver.bound (p.run s).driver .getIntegerv = Driver.bound s.driver .getIntegerv) :
    (p.run s).Unmoved ((again (p.run s).shadow).run (p.run s)) := by
  cases p with
  | consult limit next =>
    have hrun : ∀ u : Scope δ, (Plan.consult limit next).run u =
        (next (u.limit limit).1).run (u.limit limit).2 := fun _ => rfl
    obtain ⟨hlimits, hsettled⟩ := run_settles hagain (hw _) (ha.2 (s.limit limit).1)
      (hp fun _ => (s.limit limit).1) (s.limit_shadow limit)
    rw [← hrun] at hlimits hsettled
    -- The first run has asked, so the second is given the same limit and asks nothing.
    have hknown := limit_again s limit hlimits hb
    generalize (Plan.consult limit next).run s = t at *
    rcases hsettled with ⟨hsame, heq⟩ | helides
    · rw [heq, hq, hrun, hknown]
      exact hsame
    · generalize again t.shadow = q at helides ⊢
      cases q with
      | elide => exact elide_unmoved t
      | consult limit' next' =>
        obtain ⟨value, hasked, hnext⟩ := helides
        obtain ⟨rfl, rfl⟩ := Prod.mk.inj (Option.some.inj hasked)
        show t.Unmoved ((next' (t.limit limit).1).run (t.limit limit).2)
        rw [hknown, hnext.eq_elide]
        exact elide_unmoved t
      | _ => exact helides.elim
  | rest | elide | reject error | apply change call | submit change call =>
    obtain ⟨-, ⟨hsame, heq⟩ | helides⟩ :=
      run_settles (s := s) hagain hw trivial (hp Limit.minimum) ⟨_, rfl⟩
    · rw [heq, hq]
      exact hsame
    · rw [helides.eq_elide]
      exact elide_unmoved _

theorem shadow_driverName (s : Scope δ) (cls : ObjectClass) (name : UInt32) :
    (s.driverName cls name).2.shadow = s.shadow := by
  unfold driverName
  split
  · rfl
  · split <;> rfl

theorem bind_again (s : Scope δ) (cls : ObjectClass) (target : Enum) (name : UInt32) :
    (s.bind cls target name).Unmoved ((s.bind cls target name).bind cls target name) := by
  cases ht : s.shadow.binding? cls target with
  | none =>
    have hnone : (s.reject GL.invalidEnum).shadow.binding? cls target = none := by
      rw [← ht]
      show (s.shadow.recordError GL.invalidEnum).binding? cls target = _
      unfold Shadow.recordError
      split <;> cases cls <;> rfl
    have hbind : s.bind cls target name = s.reject GL.invalidEnum := by simp only [bind, ht]
    rw [hbind, bind, hnone]
    exact s.reject_again _
  | some held =>
    by_cases heq : held = name
    · have hbind : s.bind cls target name = s.elide := by simp only [bind, ht, if_pos heq]
      have hheld : s.elide.shadow.binding? cls target = some held := ht
      rw [hbind, bind, hheld]
      simp only [if_pos heq]
      exact elide_unmoved _
    · have hheld : (s.bind cls target name).shadow.binding? cls target = some name := by
        have hset := Shadow.binding?_setBinding name (Option.isSome_of_eq_some ht)
        simp only [bind, ht, if_neg heq]
        rw [← hset, ← s.shadow_driverName cls name]
        cases cls <;> rfl
      generalize s.bind cls target name = t at hheld ⊢
      rw [bind, hheld]
      simp only [if_true]
      exact elide_unmoved _

/-- A setter binds an object, or it is carried out as it is planned. -/
theorem perform_of_kept {c : Command} (hc : c.kept = true) :
    (∃ cls target name, ∀ s : Scope δ, s.perform c = (none, s.bind cls target name)) ∨
      ∀ s : Scope δ, s.perform c = (none, (Plan.ofCommand s.shadow c).run s) := by
  cases c with
  | bindBuffer _ _ | bindTexture _ _ | bindFramebuffer _ _ | bindRenderbuffer _ _ =>
    exact .inl ⟨_, _, _, fun _ => rfl⟩
  | _ => first | exact .inr fun _ => rfl | cases hc

theorem perform_again (hs : s.shadow.attribs.Sound) {c : Command} (hc : c.kept = true)
    (hb : Driver.bound (s.perform c).2.driver .getIntegerv = Driver.bound s.driver .getIntegerv) :
    (s.perform c).2.Unmoved ((s.perform c).2.perform c).2 := by
  have hplan := run_again (Plan.ofCommand_settled c) (s := s) rfl (Plan.ofCommand_asks s.shadow c)
    (Plan.ofCommand_writes hs hc) fun _ => Plan.ofCommand_admits s.shadow c
  rcases perform_of_kept (δ := δ) hc with ⟨cls, target, name, hperform⟩ | hperform
  · rw [hperform, hperform]
    exact s.bind_again cls target name
  · rw [hperform] at hb ⊢
    rw [hperform]
    exact hplan hb

theorem enter_again (hs : s.shadow.attribs.Sound) {c : Command} (hc : c.kept = true)
    (entry : EntryPoint)
    (hb : ∀ entry', Driver.bound (s.enter entry c).2.driver entry' =
      Driver.bound s.driver entry') :
    (s.enter entry c).2.Unmoved ((s.enter entry c).2.enter entry c).2 := by
  have hentry := hb entry
  cases hbound : Driver.bound s.driver entry with
  | true =>
    have henter : s.enter entry c = s.perform c := if_pos hbound
    rw [henter] at hb hentry ⊢
    rw [enter, if_pos (hentry.trans hbound)]
    exact perform_again hs hc (hb .getIntegerv)
  | false =>
    have hn : c ≠ .getError := by
      rintro rfl
      cases hc
    have hdrop : ∀ t : Scope δ, Driver.bound t.driver entry = false →
        (t.enter entry c).2 = t.reject GL.invalidOperation := by
      intro t ht
      simp only [enter, ht, Bool.false_eq_true, if_false, drop, if_neg hn]
    rw [hdrop s hbound] at hentry ⊢
    rw [hdrop _ (hentry.trans hbound)]
    exact s.reject_again _

end Scope

/-! ## Runs -/

structure Engine.Unmoved {δ : Type} (e e' : Engine δ) : Prop where
  driver : e'.server.driver = e.server.driver
  registry : e'.server.registry = e.server.registry
  names : e'.server.names = e.server.names
  driverCalls : e'.server.stats.driverCalls = e.server.stats.driverCalls
  current : e'.current = e.current

theorem Engine.execute_again {δ : Type} [Driver δ] {e : Engine δ} {k : Current}
    (hk : e.current = some k) (hs : k.shadow.attribs.Sound) {c : Command} (hc : c.kept = true)
    (hb : ∀ entry, Driver.bound (e.execute c).2.server.driver entry =
      Driver.bound e.server.driver entry) :
    (e.execute c).2.Unmoved ((e.execute c).2.execute c).2 := by
  obtain ⟨entry, hentry⟩ : ∃ entry, c.entry? = some entry := by
    cases c <;> first | exact ⟨_, rfl⟩ | cases hc
  have honce := execute_rendering hk hentry
  rw [honce] at hb ⊢
  have hagain := Scope.enter_again (s := e.scope k) hs hc entry hb
  generalize ((e.scope k).enter entry c).2 = t at hagain ⊢
  have htwice : (e.leave k t).execute c = ((t.enter entry c).1,
      (e.leave k t).leave { k with shadow := t.shadow } (t.enter entry c).2) :=
    execute_rendering (k := { k with shadow := t.shadow }) rfl hentry
  rw [htwice]
  refine ⟨hagain.driver, rfl, hagain.names, hagain.driverCalls, ?_⟩
  simp only [leave, hagain.shadow]

namespace Fleet

variable {δ : Type} [Driver δ]

/-- After every run of any number of engines, a setter that the worker of a current context is
given twice in a row does nothing the second time, whether it was left out, refused or carried
out the first time: the driver is given no call, and the shadow, the names and the registry
stay as they are. The first execution has to leave the same entry points bound. -/
theorem run_sets_once (d : δ) (names : NameTable) (moves : List Move) {w : Nat} {k : Current}
    (hk : (traced d names moves).out w = some k) {c : Command} (hc : c.kept = true)
    (hb : ∀ entry, Driver.bound (traced d names (moves ++ [.execute w c])).server.driver entry =
      Driver.bound (traced d names moves).server.driver entry) :
    ((traced d names (moves ++ [.execute w c])).engine w).Unmoved
      ((traced d names (moves ++ [.execute w c, .execute w c])).engine w) ∧
    (traced d names (moves ++ [.execute w c, .execute w c])).out =
      (traced d names (moves ++ [.execute w c])).out := by
  have hkept := (start_kept (d := (⟨d, []⟩ : Traced δ)) trivial names).run legal_keeping moves
  have hs := (hkept.kept _ _ (hkept.custody.shadowAt_of_out hk)).1
  have hagain := Engine.execute_again (e := (traced d names moves).engine w) hk hs hc
    (by rw [← engine_traced]; exact hb)
  have htwice : moves ++ [.execute w c, .execute w c] =
      moves ++ [.execute w c] ++ [.execute w c] := by simp
  rw [htwice, engine_traced d names (moves ++ [_]), engine_traced d names moves]
  refine ⟨hagain, ?_⟩
  have hcurrent := hagain.current
  rw [← engine_traced, ← engine_traced] at hcurrent
  have hout : (traced d names (moves ++ [.execute w c] ++ [.execute w c])).out =
      update (traced d names (moves ++ [.execute w c])).out w
        ((traced d names (moves ++ [.execute w c] ++ [.execute w c])).engine w).current := by
    rw [engine_traced, traced, run_concat, ← traced]
    rfl
  rw [hout, hcurrent]
  exact Function.update_eq_self w _

def roomy : Recorder := { integers := [(GL.maxVertexAttribs, [64])] }

def pointer : Command := .vertexAttribPointer 40 ⟨3, GL.float, false, 0, 0⟩

/-- The first time the driver is asked how many attributes there are and told of the pointer,
the second time it is given no call. -/
theorem run_sets_once_of_pointer :
    (traced roomy {} ([.execute 0 (.makeCurrent ⟨1⟩ ⟨3⟩ ⟨3⟩ ⟨7⟩)] ++
        [.execute 0 pointer, .execute 0 pointer])).server.driver.calls =
      [.makeCurrent ⟨1⟩ ⟨3⟩ ⟨3⟩ ⟨7⟩, .getIntegerv GL.maxVertexAttribs [8],
        .vertexAttribPointer 40 ⟨3, GL.float, false, 0, 0⟩] ∧
    ((traced roomy {} ([.execute 0 (.makeCurrent ⟨1⟩ ⟨3⟩ ⟨3⟩ ⟨7⟩)] ++
        [.execute 0 pointer])).engine 0).Unmoved
      ((traced roomy {} ([.execute 0 (.makeCurrent ⟨1⟩ ⟨3⟩ ⟨3⟩ ⟨7⟩)] ++
        [.execute 0 pointer, .execute 0 pointer])).engine 0) := by
  have hout : ((traced roomy {} [.execute 0 (.makeCurrent ⟨1⟩ ⟨3⟩ ⟨3⟩ ⟨7⟩)]).out 0).isSome := by
    decide +kernel
  obtain ⟨k, hk⟩ := Option.isSome_iff_exists.mp hout
  refine ⟨by decide +kernel, (run_sets_once roomy {} _ hk (c := pointer) rfl fun entry => ?_).1⟩
  obtain ⟨made, hd, -⟩ :=
    ((traced roomy {} [.execute 0 (.makeCurrent ⟨1⟩ ⟨3⟩ ⟨3⟩ ⟨7⟩)]).engine 0).execute_tells pointer
  have hbound : Driver.bound ((traced roomy {} ([.execute 0 (.makeCurrent ⟨1⟩ ⟨3⟩ ⟨3⟩ ⟨7⟩)] ++
      [.execute 0 pointer])).engine 0).server.driver = Driver.bound
        ((traced roomy {} [.execute 0 (.makeCurrent ⟨1⟩ ⟨3⟩ ⟨3⟩ ⟨7⟩)]).engine 0).server.driver := by
    rw [engine_traced, hd, Traced.bound_after, Recorder.bound_after]
    rfl
  exact congrFun hbound entry

end Fleet

end RenderRelay
