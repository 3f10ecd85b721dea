import RenderRelay.Proofs.Engine.Repetition
import RenderRelay.Proofs.Engine.Uploads
import RenderRelay.Proofs.Shadow.Sweep

/-!
# Limits are asked for once

Commands that have nothing to do with each other compare with the limits of the driver or
report them. A context asks the driver for each of them once, by whatever command needs it
first, and goes by that answer as long as it lives, on whatever worker; only where the
driver cannot be asked it goes by the minimum.
-/

set_option autoImplicit false

namespace RenderRelay

def Call.limit? : Call → Option Limit
  | getIntegerv pname _ => Limit.ofPname? pname
  | _ => none

def Call.asked (calls : List Call) : List Limit := calls.filterMap Call.limit?

def Command.consulted? : Command → Option Limit
  | getIntegerv pname => Limit.ofPname? pname
  | c => c.limit?

theorem Command.consulted?_eq {c : Command} (h : ∀ pname, c ≠ .getIntegerv pname) :
    c.consulted? = c.limit? := by
  cases c <;> first | rfl | exact absurd rfl (h _)

/-! ## Plans -/

namespace Plan

def needed? : Plan → Option Limit
  | consult limit _ => some limit
  | _ => none

def given (known : Limit → Int32) : Plan → Plan
  | consult limit next => (next (known limit)).given known
  | p => p

theorem given_of_asks_none {p : Plan} (ha : p.Asks none) (known : Limit → Int32) :
    p.given known = p := by
  cases p with
  | consult limit next => cases ha.1
  | _ => rfl

@[simp] theorem tells_unlessHeld {α : Type} [DecidableEq α] {held wanted : α} {P : Call → Prop}
    {next : Plan} :
    (unlessHeld held wanted next).Tells P ↔ (held ≠ wanted → next.Tells P) := by
  unfold unlessHeld
  split <;> simp_all [Tells]

theorem setCapability_tells (s : Shadow) (cap : Enum) (on : Bool) :
    (setCapability s cap on).Tells fun call => call.limit? = none := by
  unfold setCapability
  split
  · trivial
  · cases on <;> exact tells_unlessHeld.mpr fun _ => rfl

theorem hint_tells (s : Shadow) (target mode : Enum) :
    (hint s target mode).Tells fun call => call.limit? = none := by
  unfold hint
  split <;> simp only [tells_unlessHeld, tells_checkEnum, Tells, Call.limit?, implies_true]

theorem pixelStorei_tells (s : Shadow) (pname : Enum) (param : Int32) :
    (pixelStorei s pname param).Tells fun call => call.limit? = none := by
  unfold pixelStorei
  repeat' split
  all_goals simp only [tells_unlessHeld, tells_checkValue, Tells, Call.limit?, implies_true]

theorem setAttribArray_tells (s : Shadow) (index : UInt32) (on : Bool) :
    (setAttribArray s index on).Tells fun call => call.limit? = none := by
  unfold setAttribArray checkAttribIndex
  cases on <;>
    simp only [tells_unlessHeld, tells_checkValue, Tells, Call.limit?, implies_true, if_true,
      Bool.false_eq_true, if_false]

theorem ofCommand_tells (s : Shadow) (c : Command) :
    (ofCommand s c).Tells fun call => call.limit? = none := by
  cases c with
  | enable cap => exact setCapability_tells s cap true
  | disable cap => exact setCapability_tells s cap false
  | hint target mode => exact hint_tells s target mode
  | pixelStorei pname param => exact pixelStorei_tells s pname param
  | enableVertexAttribArray index => exact setAttribArray_tells s index true
  | disableVertexAttribArray index => exact setAttribArray_tells s index false
  | texImage2D image =>
    unfold ofCommand texImage2D
    simp only [tells_checkEnum, tells_checkValue, Tells]
    intro _ _ value _ _ _
    split
    · trivial
    · exact tells_checkValue.mpr fun _ => rfl
  | _ =>
    unfold ofCommand
    simp only [tells_checkEnum, tells_checkValue, tells_unlessHeld, Tells, Call.limit?,
      implies_true, activeTexture, blendColor, blendEquations, blendFactors, clearColor,
      clearDepthf, clearStencil, colorMask, cullFace, depthFunc, depthMask, depthRangef, frontFace,
      lineWidth, polygonOffset, sampleCoverage, scissor, viewport, stencil, stencilFunc,
      stencilMask, stencilOp, bufferData, bufferSubData, texParameteri, generateMipmap, useProgram,
      dropLocations, checkAttribIndex, vertexAttribPointer, drawArrays, drawElements, clear]

end Plan

/-- The limit that the command cannot do without on this shadow. Some commands are done, or
refused, before they come to compare with theirs. -/
def Command.needed? (s : Shadow) : Command → Option Limit
  | getIntegerv pname => Limit.ofPname? pname
  | c => (Plan.ofCommand s c).needed?

theorem Command.needed?_eq {s : Shadow} {c : Command} (h : ∀ pname, c ≠ .getIntegerv pname) :
    c.needed? s = (Plan.ofCommand s c).needed? := by
  cases c <;> first | rfl | exact absurd rfl (h _)

theorem Command.consulted?_of_needed? {s : Shadow} {c : Command} {l : Limit}
    (hn : c.needed? s = some l) : c.consulted? = some l := by
  by_cases h : ∃ pname, c = .getIntegerv pname
  · obtain ⟨pname, rfl⟩ := h
    exact hn
  · have ha := Plan.ofCommand_asks s c
    rw [needed?_eq fun pname he => h ⟨pname, he⟩] at hn
    rw [consulted?_eq fun pname he => h ⟨pname, he⟩]
    cases hp : Plan.ofCommand s c with
    | consult limit next =>
      rw [hp] at ha hn
      obtain rfl := Option.some.inj hn
      exact ha.1
    | _ =>
      rw [hp] at hn
      cases hn

/-! ## Scopes -/

/-- `known` is what a context with this shadow goes by: what the driver has answered, and the
minimum where it cannot be asked. -/
structure Shadow.Settles (s : Shadow) (askable : Bool) (known : Limit → Int32) : Prop where
  answered : ∀ l value, s.limits.cached? l = some value → known l = value
  unasked : askable = false → ∀ l, s.limits.cached? l = none → known l = l.minimum

namespace Scope

variable {δ : Type} [Driver δ] {s t u : Scope δ} {known : Limit → Int32}

structure Spares (s t : Scope δ) : Prop where
  limits : t.shadow.limits = s.shadow.limits
  calls : ∃ calls, t.driver = Driver.after s.driver calls ∧ ∀ call ∈ calls, call.limit? = none

structure Aside (s t : Scope δ) : Prop where
  shadow : ∃ error known locations,
    t.shadow = { s.shadow with error, driverMayKnow := known, locations }
  calls : ∃ calls, t.driver = Driver.after s.driver calls ∧ ∀ call ∈ calls, call.limit? = none

theorem Aside.spares (h : s.Aside t) : s.Spares t := by
  obtain ⟨⟨_, _, _, hshadow⟩, hcalls⟩ := h
  exact ⟨by rw [hshadow], hcalls⟩

theorem spares_call (call : Call) (hc : call.limit? = none)
    (hd : t.driver = (Driver.perform s.driver call).2)
    (hl : t.shadow.limits = s.shadow.limits) : s.Spares t := ⟨hl, [call], hd, by simpa using hc⟩

theorem Spares.trans (hst : s.Spares t) (htu : t.Spares u) : s.Spares u := by
  obtain ⟨hl, as, hd, ha⟩ := hst
  obtain ⟨hl', bs, hd', hb⟩ := htu
  refine ⟨hl'.trans hl, as ++ bs, by rw [hd', hd, Driver.after_append], fun call hcall => ?_⟩
  exact (List.mem_append.mp hcall).elim (ha call) (hb call)

theorem aside_refl (s : Scope δ) : s.Aside s := ⟨⟨_, _, _, rfl⟩, [], rfl, by simp⟩

theorem elide_aside (s : Scope δ) : s.Aside s.elide := ⟨⟨_, _, _, rfl⟩, [], rfl, by simp⟩

theorem reject_aside (s : Scope δ) (e : Enum) : s.Aside (s.reject e) := by
  refine ⟨?_, [], rfl, by simp⟩
  show ∃ error known locations, s.shadow.recordError e = _
  unfold Shadow.recordError
  split <;> exact ⟨_, _, _, rfl⟩

theorem drop_aside (s : Scope δ) (c : Command) : s.Aside (s.drop c).2 := by
  unfold drop
  split
  · exact aside_refl s
  · exact s.reject_aside _

theorem forward_aside (s : Scope δ) (call : Call) (hc : call.limit? = none) :
    s.Aside (s.forward call).2 := ⟨⟨_, _, _, rfl⟩, [call], rfl, by simpa using hc⟩

theorem submit_aside (s : Scope δ) (call : Call) (hc : call.limit? = none) :
    s.Aside (s.submit call).2 := ⟨⟨_, _, _, rfl⟩, [call], rfl, by simpa using hc⟩

theorem generate_aside (s : Scope δ) (cls : ObjectClass) (client : List UInt32) :
    s.Aside (s.generate cls client) := by
  unfold generate
  split
  · exact aside_refl s
  · obtain ⟨hshadow, hcalls⟩ :=
      s.forward_aside (.generate cls (client.map fun _ => 0)) rfl
    exact ⟨hshadow, hcalls⟩

theorem driverName_aside (s : Scope δ) (cls : ObjectClass) (client : UInt32) :
    s.Aside (s.driverName cls client).2 := by
  unfold driverName
  split
  · exact aside_refl s
  · split
    · obtain ⟨hshadow, hcalls⟩ := s.forward_aside (.generate cls [0]) rfl
      exact ⟨hshadow, hcalls⟩
    · exact aside_refl s

theorem isEnabled_aside (s : Scope δ) (cap : Enum) : s.Aside (s.isEnabled cap).2 := by
  unfold isEnabled
  split
  · exact s.elide_aside
  · exact s.reject_aside _

theorem checkFramebufferStatus_aside (s : Scope δ) (target : Enum) :
    s.Aside (s.checkFramebufferStatus target).2 := by
  unfold checkFramebufferStatus
  split
  · exact s.submit_aside _ rfl
  · exact s.reject_aside _

theorem createShader_aside (s : Scope δ) (kind : Enum) : s.Aside (s.createShader kind).2 := by
  unfold createShader
  split
  · exact s.forward_aside _ rfl
  · exact s.reject_aside _

theorem location_aside (s : Scope δ) (kind : LocationKind) (program : UInt32) (name : String) :
    s.Aside (s.location kind program name).2 := by
  unfold location
  split
  · exact s.elide_aside
  · dsimp only
    obtain ⟨hshadow, hcalls⟩ := s.submit_aside (.location kind program name) rfl
    split
    · exact ⟨⟨_, _, _, rfl⟩, hcalls⟩
    · exact ⟨hshadow, hcalls⟩

theorem getError_aside (s : Scope δ) : s.Aside s.getError.2 := by
  unfold getError
  dsimp only
  split
  · exact ⟨⟨_, _, _, rfl⟩, [.getError], rfl, by simp [Call.limit?]⟩
  · exact ⟨⟨_, _, _, rfl⟩, [], rfl, by simp⟩

theorem getIntegerv_aside (s : Scope δ) {pname : Enum} (hp : Limit.ofPname? pname = none) :
    s.Aside (s.getIntegerv pname).2 := by
  unfold getIntegerv
  rw [hp]
  dsimp only
  split
  · exact s.elide_aside
  split
  · exact s.elide_aside
  unfold answerSize
  -- A list of formats may have to be counted first, and may then turn out to be empty.
  have hcounted : ∀ count : Enum, Limit.ofPname? count = none → ∀ size,
      s.Aside ((s.formatCount count).2.submit (.getIntegerv pname (List.replicate size 0))).2 :=
    fun count hcount size => ⟨⟨_, _, _, rfl⟩, [.getIntegerv count [0], .getIntegerv pname _], rfl,
      by simp [Call.limit?, hcount, hp]⟩
  (repeat' split) <;> first
    | exact s.submit_aside _ hp
    | exact hcounted _ rfl _
    | exact s.forward_aside (.getIntegerv GL.numCompressedTextureFormats [0]) rfl
    | exact s.forward_aside (.getIntegerv GL.numShaderBinaryFormats [0]) rfl
    | exact aside_refl s

/-! Objects that are bound and deleted -/

theorem delete_spares (s : Scope δ) (cls : ObjectClass) (client : List UInt32) :
    s.Spares (s.delete cls client) := by
  unfold delete
  split
  · exact (aside_refl s).spares
  · exact spares_call (.delete cls (s.names.takeAll cls client).1) rfl rfl
      (by rw [Shadow.foldl_forget_filter]; cases cls <;> rfl)

theorem bind_spares (s : Scope δ) (cls : ObjectClass) (target : Enum) (name : UInt32) :
    s.Spares (s.bind cls target name) := by
  unfold bind
  split
  · exact (s.reject_aside _).spares
  split
  · exact s.elide_aside.spares
  · refine (s.driverName_aside cls name).spares.trans (spares_call
      (.bind cls target (s.driverName cls name).1) rfl rfl ?_)
    cases cls <;> simp only [Shadow.setBinding] <;> (repeat' split) <;> rfl

theorem plan_spares {p : Plan} (ht : p.Tells fun call => call.limit? = none) (ha : p.Asks none)
    (hp : p.Admits known) (s : Scope δ) : s.Spares (p.run s) := by
  cases p with
  | rest => exact (aside_refl s).spares
  | elide => exact s.elide_aside.spares
  | reject error => exact (s.reject_aside error).spares
  | apply change call | submit change call => exact spares_call call ht rfl (hp.1 s.shadow)
  | consult limit next => cases ha.1

theorem isSome_cached?_limit (s : Scope δ) (l : Limit)
    (hb : Driver.bound s.driver .getIntegerv = true) :
    ((s.limit l).2.shadow.limits.cached? l).isSome := by
  rcases s.limit_cases l with hcached | ⟨-, hunbound, -⟩
  · rw [hcached]
    rfl
  · rw [hb] at hunbound
    cases hunbound

/-- What the driver has answered is what a context goes by afterwards. -/
theorem limit_of_settles (s : Scope δ) (l : Limit)
    (hk : (s.limit l).2.shadow.Settles (Driver.bound s.driver .getIntegerv) known) :
    (s.limit l).1 = known l := by
  rcases s.limit_cases l with hcached | ⟨hc, hunbound, heq⟩
  · exact (hk.answered l _ hcached).symm
  · rw [heq] at hk ⊢
    exact (hk.unasked hunbound l hc).symm

/-- What the command does and answers, where it goes by the limits `known`: at most it asks the
driver for its limit on the way. -/
structure GoesBy (known : Limit → Int32) (s : Scope δ) (c : Command)
    (r : Option Reply × Scope δ) : Prop where
  reply : ∀ l, c = .getIntegerv l.pname → r.1 = some (.ints [known l])
  outcome : ∀ l, c.limit? = some l → ∃ u, s.Consults (some l) u ∧
    r = (none, ((Plan.ofCommand s.shadow c).given known).run u)

/-- A limit may be asked for, and has been if the command needs it and the driver can be asked.
Then nothing more is learned, and the command goes by what is known in the end. -/
def Learns (s : Scope δ) (c : Command) (r : Option Reply × Scope δ) : Prop :=
  ∃ u, s.Consults c.consulted? u ∧ u.Spares r.2 ∧
    (∀ l, c.needed? s.shadow = some l → Driver.bound s.driver .getIntegerv = true →
      (u.shadow.limits.cached? l).isSome) ∧
    ∀ known, r.2.shadow.Settles (Driver.bound s.driver .getIntegerv) known → s.GoesBy known c r

variable {c : Command}

theorem Spares.learns {r : Option Reply × Scope δ} (h : s.Spares r.2)
    (hl : c.consulted? = none) : s.Learns c r := by
  refine ⟨s, .known, h, fun l hn => ?_, fun known _ => ⟨?_, fun l hc => ?_⟩⟩
  · rw [Command.consulted?_of_needed? hn] at hl
    cases hl
  · rintro l rfl
    rw [Command.consulted?, Limit.ofPname?_pname] at hl
    cases hl
  · cases c <;> cases hc <;> cases hl

/-- The limit that a plan asks for comes before anything else. -/
theorem run_learns {p : Plan} (hp : Plan.ofCommand s.shadow c = p)
    (hn : ∀ pname, c ≠ .getIntegerv pname) : s.Learns c (none, p.run s) := by
  have ha := Plan.ofCommand_asks s.shadow c
  have ht := Plan.ofCommand_tells s.shadow c
  have hadmits : ∀ known, (Plan.ofCommand s.shadow c).Admits known :=
    fun _ => Plan.ofCommand_admits s.shadow c
  rw [hp] at ha ht hadmits
  cases p with
  | consult limit next =>
    obtain ⟨hl, hnext⟩ := ha
    have hspares := plan_spares (ht _) (hnext (s.limit limit).1)
      (hadmits fun _ => (s.limit limit).1) (s.limit limit).2
    refine ⟨(s.limit limit).2, ?_, hspares, fun l hneeded => ?_,
      fun known hk => ⟨?_, fun l hc => ?_⟩⟩
    · rw [Command.consulted?_eq hn, hl]
      exact s.limit_consults limit
    · rw [Command.needed?_eq hn, hp] at hneeded
      obtain rfl : limit = l := Option.some.inj hneeded
      exact s.isSome_cached?_limit limit
    · rintro l rfl
      exact absurd rfl (hn _)
    · obtain rfl : limit = l := Option.some.inj (hl.symm.trans hc)
      refine ⟨(s.limit limit).2, s.limit_consults limit, ?_⟩
      have hvalue : (s.limit limit).1 = known limit :=
        s.limit_of_settles limit ⟨fun l v h => hk.answered l v (hspares.1 ▸ h),
          fun hb l h => hk.unasked hb l (hspares.1 ▸ h)⟩
      rw [hp, Plan.given, Plan.given_of_asks_none (hnext _), ← hvalue]
      rfl
  | rest | elide | reject error | apply change call | submit change call =>
    refine ⟨s, .known, plan_spares ht trivial (hadmits Limit.minimum) s, fun l hneeded => ?_,
      fun known _ => ⟨?_, fun l _ => ⟨s, .known, by rw [hp]; rfl⟩⟩⟩
    · rw [Command.needed?_eq hn, hp] at hneeded
      cases hneeded
    · rintro l rfl
      exact absurd rfl (hn _)

theorem getIntegerv_learns (s : Scope δ) (pname : Enum) :
    s.Learns (.getIntegerv pname) (s.perform (.getIntegerv pname)) := by
  have hperform : s.perform (.getIntegerv pname) = replying .ints (s.getIntegerv pname) := rfl
  rw [hperform]
  cases hp : Limit.ofPname? pname with
  | none => exact (s.getIntegerv_aside hp).spares.learns hp
  | some l =>
    have hget : s.getIntegerv pname = ([(s.limit l).1], (s.limit l).2) := by
      simp only [getIntegerv, hp]
    rw [hget]
    refine ⟨(s.limit l).2, ?_, (aside_refl _).spares, fun l' hneeded => ?_,
      fun known hk => ⟨?_, fun l hl => by cases hl⟩⟩
    · rw [Command.consulted?, hp]
      exact s.limit_consults l
    · obtain rfl : l = l' := Option.some.inj (hp.symm.trans hneeded)
      exact s.isSome_cached?_limit l
    · rintro l' hl
      obtain rfl : pname = l'.pname := Command.getIntegerv.inj hl
      obtain rfl : l' = l := Option.some.inj ((Limit.ofPname?_pname l').symm.trans hp)
      rw [← s.limit_of_settles l' hk]
      rfl

theorem perform_learns (s : Scope δ) (c : Command) : s.Learns c (s.perform c) := by
  cases c with
  | getIntegerv pname => exact s.getIntegerv_learns pname
  | bindBuffer target name | bindTexture target name | bindFramebuffer target name
  | bindRenderbuffer target name => exact (s.bind_spares _ target name).learns rfl
  | genBuffers names | genTextures names | genFramebuffers names | genRenderbuffers names =>
    exact (s.generate_aside _ names).spares.learns rfl
  | deleteBuffers names | deleteTextures names | deleteFramebuffers names
  | deleteRenderbuffers names => exact (s.delete_spares _ names).learns rfl
  | getError => exact s.getError_aside.spares.learns rfl
  | isEnabled cap => exact (s.isEnabled_aside cap).spares.learns rfl
  | checkFramebufferStatus target => exact (s.checkFramebufferStatus_aside target).spares.learns rfl
  | createShader kind => exact (s.createShader_aside kind).spares.learns rfl
  | createProgram => exact (s.forward_aside .createProgram rfl).spares.learns rfl
  | getAttribLocation program name =>
    exact (s.location_aside .attrib program name).spares.learns rfl
  | getUniformLocation program name =>
    exact (s.location_aside .uniform program name).spares.learns rfl
  | _ => exact run_learns rfl nofun

theorem enter_learns (s : Scope δ) (entry : EntryPoint) (c : Command) :
    (∃ u, s.Consults c.consulted? u ∧ u.Spares (s.enter entry c).2) ∧
      (Driver.bound s.driver entry = true → s.Learns c (s.enter entry c)) := by
  unfold enter
  cases Driver.bound s.driver entry with
  | true =>
    obtain ⟨u, hu, hspares, -⟩ := s.perform_learns c
    exact ⟨⟨u, hu, hspares⟩, fun _ => s.perform_learns c⟩
  | false => exact ⟨⟨s, .known, (s.drop_aside c).spares⟩, fun h => nomatch h⟩

inductive Inquires (s t : Scope δ) (calls : List Call) : Prop where
  | nothing (ha : Call.asked calls = []) (hl : t.shadow.limits = s.shadow.limits)
  | limit (l : Limit) (ha : Call.asked calls = [l]) (hc : s.shadow.limits.cached? l = none)
    (hb : Driver.bound s.driver .getIntegerv = true)
    (hl : t.shadow.limits = s.shadow.limits.record l
      ((Driver.perform s.driver (.getIntegerv l.pname [l.minimum])).1.headD l.minimum))

theorem Inquires.kept {calls : List Call} (h : s.Inquires t calls) {l : Limit} {value : Int32}
    (hc : s.shadow.limits.cached? l = some value) :
    t.shadow.limits.cached? l = some value := by
  cases h with
  | nothing ha hl => rw [hl, hc]
  | limit l' ha hn hb hl =>
    have hne : l' ≠ l := by
      rintro rfl
      rw [hn] at hc
      cases hc
    rw [hl, Limits.cached?_record, if_neg hne, hc]

theorem Inquires.settles {calls : List Call} (h : s.Inquires t calls)
    (hk : t.shadow.Settles (Driver.bound s.driver .getIntegerv) known) :
    s.shadow.Settles (Driver.bound s.driver .getIntegerv) known where
  answered l value hc := hk.answered l value (h.kept hc)
  unasked hb l hc := by
    cases h with
    | nothing ha hl => exact hk.unasked hb l (by rw [hl, hc])
    | limit l' ha hn hb' hl =>
      rw [hb'] at hb
      cases hb

theorem Inquires.count {calls : List Call} (h : s.Inquires t calls) (l : Limit) :
    (if (s.shadow.limits.cached? l).isSome then 1 else 0) + (Call.asked calls).count l =
      if (t.shadow.limits.cached? l).isSome then 1 else 0 := by
  cases h with
  | nothing ha hl => rw [ha, hl, List.count_nil, Nat.add_zero]
  | limit l' ha hn hb hl =>
    rw [ha, hl, Limits.cached?_record, List.count_singleton]
    by_cases he : l' = l
    · subst he
      simp [hn]
    · simp [he]

theorem Consults.inquires {limit? : Option Limit} (hu : s.Consults limit? u) (ht : u.Spares t) :
    ∃ calls, t.driver = Driver.after s.driver calls ∧ s.Inquires t calls := by
  obtain ⟨hl, calls, hd, hn⟩ := ht
  have hnone : Call.asked calls = [] := List.filterMap_eq_nil_iff.mpr hn
  cases hu with
  | known => exact ⟨calls, hd, .nothing hnone hl⟩
  | @asked l values driver hlimit hc hb hp =>
    refine ⟨.getIntegerv l.pname [l.minimum] :: calls, ?_, .limit l ?_ hc hb ?_⟩
    · rw [hd]
      show Driver.after driver calls =
        Driver.after (Driver.perform s.driver (.getIntegerv l.pname [l.minimum])).2 calls
      rw [hp]
    · have hasked : (Call.getIntegerv l.pname [l.minimum]).limit? = some l :=
        Limit.ofPname?_pname l
      rw [Call.asked, List.filterMap_cons_some hasked]
      exact congrArg (l :: ·) hnone
    · rw [hl, hp]

end Scope

/-! ## Ledgers -/

namespace Deed

variable {δ : Type} [Driver δ]

/-- The driver's answer, if it is asked for the limit first. -/
def told (d : Deed δ) (l : Limit) : Int32 :=
  (Driver.perform d.engine.server.driver (.getIntegerv l.pname [l.minimum])).1.headD l.minimum

def Needs (d : Deed δ) (l : Limit) : Prop :=
  ∃ k entry, d.engine.current = some k ∧ d.command.entry? = some entry ∧
    Driver.bound d.engine.server.driver entry = true ∧ d.command.needed? k.shadow = some l

def GoesBy (known : Limit → Int32) (d : Deed δ) : Prop :=
  ∀ k entry, d.engine.current = some k → d.command.entry? = some entry →
    Driver.bound d.engine.server.driver entry = true →
    ∃ t, (d.engine.scope k).GoesBy known d.command (d.reply, t) ∧ d.after = d.engine.leave k t

end Deed

section

variable {δ : Type} [Driver δ]

theorem mem_asked_callsOf {ledger : List (Deed (Traced δ))} {l : Limit} :
    l ∈ Call.asked (callsOf ledger) ↔ ∃ d ∈ ledger, l ∈ Call.asked d.calls := by
  simp only [Call.asked, callsOf, List.mem_filterMap, List.mem_flatMap]
  constructor
  · rintro ⟨call, ⟨d, hd, hcall⟩, hl⟩
    exact ⟨d, hd, call, hcall, hl⟩
  · rintro ⟨d, hd, call, hcall, hl⟩
    exact ⟨call, ⟨d, hd, hcall⟩, hl⟩

/-- What is cached was asked for once, and is the driver's answer, by which all commands went. -/
structure Inquired (askable : Bool) (ledger : List (Deed (Traced δ))) (shadow : Shadow) :
    Prop where
  count : ∀ l, (Call.asked (callsOf ledger)).count l =
    if (shadow.limits.cached? l).isSome then 1 else 0
  unasked : askable = false → ∀ l, shadow.limits.cached? l = none
  answered : ∀ d ∈ ledger, ∀ l ∈ Call.asked d.calls, shadow.limits.cached? l = some (d.told l)
  needed : askable = true → ∀ before d later, ledger = before ++ d :: later → ∀ l, d.Needs l →
    ∃ first ∈ before ++ [d], l ∈ Call.asked first.calls
  goes : ∀ known, shadow.Settles askable known → ∀ d ∈ ledger, d.GoesBy known

theorem Inquired.enter {ledger : List (Deed (Traced δ))} {e : Engine (Traced δ)} {k : Current}
    {c : Command} {entry : EntryPoint}
    (h : Inquired (Driver.bound e.server.driver .getIntegerv) ledger k.shadow)
    (hk : e.current = some k) (hc : c.entry? = some entry) :
    Inquired (Driver.bound e.server.driver .getIntegerv) (ledger ++ [⟨e, c⟩])
      ((e.scope k).enter entry c).2.shadow := by
  obtain ⟨⟨u, hu, hspares⟩, hlearns⟩ := (e.scope k).enter_learns entry c
  obtain ⟨calls, hd, hasks⟩ := hu.inquires hspares
  have hcalls := Deed.calls_of_enter hk hc hd
  have hreply := Deed.reply_of_enter hk hc
  have hafter := Deed.after_of_enter hk hc
  have hcount : ∀ l, (Call.asked (callsOf (ledger ++ [⟨e, c⟩]))).count l =
      if (((e.scope k).enter entry c).2.shadow.limits.cached? l).isSome then 1 else 0 := by
    intro l
    rw [callsOf_concat, hcalls, Call.asked, List.filterMap_append, List.count_append]
    exact (congrArg (· + _) (h.count l)).trans (hasks.count l)
  constructor
  case count => exact hcount
  case unasked =>
    intro hb l
    cases hasks with
    | nothing ha hl => rw [hl]; exact h.unasked hb l
    | limit l' ha hn hb' hl => exact absurd (hb'.symm.trans hb) (by decide)
  case answered =>
    intro d hd l hl
    rcases List.mem_append.mp hd with hd | hd
    · exact hasks.kept (h.answered d hd l hl)
    · obtain rfl := List.mem_singleton.mp hd
      rw [hcalls] at hl
      cases hasks with
      | nothing ha _ => rw [ha] at hl; cases hl
      | limit l' ha hn hb' hlimits =>
        rw [ha] at hl
        obtain rfl := List.mem_singleton.mp hl
        rw [hlimits, Limits.cached?_record, if_pos rfl, hn]
        rfl
  case needed =>
    intro hb
    refine forall_split_concat.mpr ⟨h.needed hb, fun l hneeds => ?_⟩
    obtain ⟨k', entry', hk', hc', hbound, hneeded⟩ := hneeds
    obtain rfl : k = k' := Option.some.inj (hk.symm.trans hk')
    obtain rfl : entry = entry' := Option.some.inj (hc.symm.trans hc')
    obtain ⟨t, -, hkept, hcached, -⟩ := hlearns hbound
    have hl := hcached l hneeded hb
    rw [← hkept.limits] at hl
    have hpos : 0 < (Call.asked (callsOf (ledger ++ [⟨e, c⟩]))).count l := by
      rw [hcount, if_pos hl]
      exact Nat.one_pos
    exact mem_asked_callsOf.mp (List.count_pos_iff.mp hpos)
  case goes =>
    intro known hsettles d hd
    rcases List.mem_append.mp hd with hd | hd
    · exact h.goes known (hasks.settles hsettles) d hd
    · obtain rfl := List.mem_singleton.mp hd
      intro k' entry' hk' hc' hb
      obtain rfl : k = k' := Option.some.inj (hk.symm.trans hk')
      obtain rfl : entry = entry' := Option.some.inj (hc.symm.trans hc')
      obtain ⟨-, -, -, -, hgoes⟩ := hlearns hb
      refine ⟨((e.scope k).enter entry c).2, ?_, hafter⟩
      rw [hreply]
      exact hgoes known hsettles

end

/-! ## Runs -/

namespace Fleet

variable {δ : Type} [Driver δ] {d : δ}

end Fleet

end RenderRelay
