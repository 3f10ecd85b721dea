import RenderRelay.Engine
import RenderRelay.Proofs.Shadow.Slots

/-!
# Acts of commands

What a rendering command does to its scope is a list of acts: calls, changes
of the shadow and of the name table, errors. The list does not depend on the
error that is pending. What a command may do is said once here, act by act;
what it leaves alone follows by induction on the list.
-/

set_option autoImplicit false

namespace RenderRelay

inductive Act where
  | elide
  | reject (error : Enum)
  /-- A call that cannot fail in the driver. -/
  | forward (call : Call)
  /-- A call that may fail in the driver. -/
  | submit (call : Call)
  | note (change : Shadow → Shadow)
  | rename (names : NameTable)

def Act.call? : Act → Option Call
  | forward call => some call
  | submit call => some call
  | _ => none

/-! What commands may do -/

namespace EntryPoint

def mayFail : EntryPoint → Bool
  | bind _ | bufferData | bufferSubData | texImage2D | texParameteri | generateMipmap
  | checkFramebufferStatus | shaderSource | compileShader | attachShader | linkProgram
  | useProgram | deleteProgram | location _ | drawArrays | drawElements | clear | flush
  | finish => true
  | _ => false

def rebinds : EntryPoint → Bool
  | activeTexture | bind _ | delete _ => true
  | _ => false

def relocates : EntryPoint → Bool
  | linkProgram | deleteProgram | location _ => true
  | _ => false

def renames : EntryPoint → Bool
  | bind _ | generate _ | delete _ => true
  | _ => false

end EntryPoint

namespace Command

/-- Whether a call of the command may leave an error in the driver. A hint may
if its target is not kept, a query if it is the client's own. -/
def risks (c : Command) : Call → Bool
  | .hint target _ => target ≠ GL.generateMipmapHint
  | .getIntegerv pname _ => c = .getIntegerv pname && (Limit.ofPname? pname).isNone
  | call => call.entry.mayFail

structure Keeps (entry : EntryPoint) (t t' : Shadow) : Prop where
  error : t'.error = t.error
  driverMayKnow : t'.driverMayKnow = t.driverMayKnow
  bindings : entry.rebinds = false → t'.bindings = t.bindings
  locations : entry.relocates = false → t'.locations = t.locations

/-- Besides its own calls a command may ask for integers, and one that binds may make an object. -/
def Makes (entry : EntryPoint) (call : Call) : Prop :=
  call.entry = entry ∨ call.entry = .getIntegerv ∨
    ∃ cls, entry = .bind cls ∧ call.entry = .generate cls

def Allows (c : Command) (entry : EntryPoint) : Act → Prop
  | .elide => True
  | .reject error => error ≠ GL.noError
  | .forward call => Makes entry call ∧ c.risks call = false
  | .submit call => Makes entry call ∧ c.risks call = true
  | .note change => ∀ t, Keeps entry t (change t)
  | .rename _ => entry.renames = true

end Command

namespace Scope

variable {δ : Type}

def owing (s : Scope δ) (e : Enum) : Scope δ := { s with shadow := { s.shadow with error := e } }

@[simp] theorem owing_driver (s : Scope δ) (e : Enum) : (s.owing e).driver = s.driver := rfl

@[simp] theorem owing_names (s : Scope δ) (e : Enum) : (s.owing e).names = s.names := rfl

@[simp] theorem owing_limits (s : Scope δ) (e : Enum) :
    (s.owing e).shadow.limits = s.shadow.limits := rfl

variable [Driver δ]

def act (s : Scope δ) : Act → Scope δ
  | .elide => s.elide
  | .reject error => s.reject error
  | .forward call => (s.forward call).2
  | .submit call => (s.submit call).2
  | .note change => { s with shadow := change s.shadow }
  | .rename names => { s with names }

def acts (s : Scope δ) (as : List Act) : Scope δ := as.foldl act s

theorem acts_append (s : Scope δ) (as bs : List Act) :
    s.acts (as ++ bs) = (s.acts as).acts bs := List.foldl_append ..

def Does (s : Scope δ) (c : Command) (entry : EntryPoint) (op : Scope δ → Scope δ) : Prop :=
  ∃ as, (∀ a ∈ as, c.Allows entry a) ∧ ∀ e, op (s.owing e) = (s.owing e).acts as

variable {s : Scope δ} {c : Command} {entry : EntryPoint}

theorem does_nothing {op : Scope δ → Scope δ} (h : ∀ e, op (s.owing e) = s.owing e) :
    s.Does c entry op := ⟨[], by simp, h⟩

theorem does_one {op : Scope δ → Scope δ} {a : Act} (ha : c.Allows entry a)
    (h : ∀ e, op (s.owing e) = (s.owing e).act a) : s.Does c entry op :=
  ⟨[a], by simpa using ha, h⟩

theorem does_two {op : Scope δ → Scope δ} {a b : Act} (ha : c.Allows entry a)
    (hb : c.Allows entry b) (h : ∀ e, op (s.owing e) = ((s.owing e).act a).act b) :
    s.Does c entry op :=
  ⟨[a, b], by simpa using ⟨ha, hb⟩, h⟩

theorem Does.congr {op op' : Scope δ → Scope δ} (h : s.Does c entry op)
    (he : ∀ e, op' (s.owing e) = op (s.owing e)) : s.Does c entry op' := by
  obtain ⟨as, hok, hdo⟩ := h
  exact ⟨as, hok, fun e => (he e).trans (hdo e)⟩

/-- What is done first is done whatever error is pending, and leaves that error pending. -/
theorem Does.andThen {op next : Scope δ → Scope δ} (h : s.Does c entry op)
    (howing : ∀ e, op (s.owing e) = (op s).owing e) (hnext : (op s).Does c entry next) :
    s.Does c entry fun t => next (op t) := by
  obtain ⟨as, hok, hdo⟩ := h
  obtain ⟨bs, hok', hdo'⟩ := hnext
  refine ⟨as ++ bs, fun a ha => ?_, fun e => ?_⟩
  · rcases List.mem_append.mp ha with ha | ha
    · exact hok a ha
    · exact hok' a ha
  · show next (op (s.owing e)) = _
    rw [acts_append, ← hdo, howing, hdo']

/-! Limits -/

theorem limit_owing (s : Scope δ) (l : Limit) (e : Enum) :
    (s.owing e).limit l = ((s.limit l).1, (s.limit l).2.owing e) := by
  rw [limit, limit, owing_limits]
  cases s.shadow.limits.cached? l with
  | some value => rfl
  | none =>
    dsimp only
    rw [owing_driver]
    cases Driver.bound s.driver .getIntegerv <;> rfl

theorem limit_does (s : Scope δ) (l : Limit) : s.Does c entry fun t => (t.limit l).2 := by
  cases hl : s.shadow.limits.cached? l with
  | some value =>
    refine does_nothing fun e => ?_
    simp only [limit, owing_limits, hl]
  | none =>
    cases hb : Driver.bound s.driver .getIntegerv with
    | false =>
      refine does_nothing fun e => ?_
      simp only [limit, owing_limits, hl, owing_driver, hb, Bool.false_eq_true, if_false]
    | true =>
      let asked := s.forward (.getIntegerv l.pname [l.minimum])
      refine does_two (a := .forward (.getIntegerv l.pname [l.minimum])) (b := .note fun t =>
        { t with limits := t.limits.record l (asked.1.headD l.minimum) }) ?_ ?_ fun e => ?_
      · exact ⟨.inr (.inl rfl), by simp [Command.risks, Limit.ofPname?_pname]⟩
      · exact fun t => ⟨rfl, rfl, fun _ => rfl, fun _ => rfl⟩
      · simp only [limit, owing_limits, hl, owing_driver, hb, if_true]
        rfl

/-! Objects -/

theorem generate_does (s : Scope δ) (c : Command) (cls : ObjectClass) (client : List UInt32) :
    s.Does c (.generate cls) (·.generate cls client) := by
  cases hc : client.isEmpty with
  | true =>
    refine does_nothing fun e => ?_
    simp only [generate, hc, if_true]
  | false =>
    let made := (s.forward (.generate cls (client.map fun _ => 0))).1
    refine does_two (a := .forward (.generate cls (client.map fun _ => 0)))
      (b := .rename (s.names.insertAll cls client made)) ⟨.inl rfl, rfl⟩ rfl fun e => ?_
    simp only [generate, hc, Bool.false_eq_true, if_false]
    rfl

theorem forget_keeps (sh : Shadow) (cls : ObjectClass) (name : UInt32) :
    Command.Keeps (.delete cls) sh (sh.forget cls name) := by
  refine ⟨?_, ?_, fun h => (by cases h), fun _ => ?_⟩ <;> cases cls <;> rfl

theorem forgetAll_keeps (sh : Shadow) (cls : ObjectClass) (names : List UInt32) :
    Command.Keeps (.delete cls) sh (names.foldl (·.forget cls ·) sh) := by
  induction names generalizing sh with
  | nil => exact ⟨rfl, rfl, fun _ => rfl, fun _ => rfl⟩
  | cons name names ih =>
    have hone := forget_keeps sh cls name
    have hall := ih (sh.forget cls name)
    exact ⟨hall.error.trans hone.error, hall.driverMayKnow.trans hone.driverMayKnow,
      fun h => (by cases h), fun h => (hall.locations h).trans (hone.locations h)⟩

theorem delete_does (s : Scope δ) (c : Command) (cls : ObjectClass) (client : List UInt32) :
    s.Does c (.delete cls) (·.delete cls client) := by
  cases hc : client.isEmpty with
  | true =>
    refine does_nothing fun e => ?_
    simp only [delete, hc, if_true]
  | false =>
    refine ⟨[.rename (s.names.takeAll cls client).2,
      .note fun t => (client.filter (· ≠ 0)).foldl (·.forget cls ·) t,
      .forward (.delete cls (s.names.takeAll cls client).1)], ?_, fun e => ?_⟩
    · simp only [List.forall_mem_cons]
      exact ⟨rfl, fun t => forgetAll_keeps t cls _, ⟨.inl rfl, rfl⟩, by simp⟩
    · simp only [delete, hc, Bool.false_eq_true, if_false]
      rfl

theorem driverName_owing (s : Scope δ) (cls : ObjectClass) (client : UInt32) (e : Enum) :
    (s.owing e).driverName cls client =
      ((s.driverName cls client).1, (s.driverName cls client).2.owing e) := by
  rw [driverName, driverName, owing_names]
  cases s.names.lookup cls client with
  | some name => rfl
  | none =>
    dsimp only
    rw [owing_driver]
    cases Driver.bound s.driver (.generate cls) <;> rfl

theorem driverName_does (s : Scope δ) (c : Command) (cls : ObjectClass) (client : UInt32) :
    s.Does c (.bind cls) fun t => (t.driverName cls client).2 := by
  cases hn : s.names.lookup cls client with
  | some name =>
    refine does_nothing fun e => ?_
    simp only [driverName, owing_names, hn]
  | none =>
    cases hb : Driver.bound s.driver (.generate cls) with
    | false =>
      refine does_nothing fun e => ?_
      simp only [driverName, owing_names, hn, owing_driver, hb, Bool.false_eq_true, if_false]
    | true =>
      let made := (s.forward (.generate cls [0])).1
      refine does_two (a := .forward (.generate cls [0]))
        (b := .rename (s.names.insert cls client (made.headD 0)))
        ⟨.inr (.inr ⟨cls, rfl, rfl⟩), rfl⟩ rfl fun e => ?_
      simp only [driverName, owing_names, hn, owing_driver, hb, if_true]
      rfl

theorem setBinding_keeps (sh : Shadow) (cls : ObjectClass) (target : Enum) (name : UInt32) :
    Command.Keeps (.bind cls) sh (sh.setBinding cls target name) := by
  refine ⟨?_, ?_, fun h => (by cases h), fun _ => ?_⟩ <;> cases cls <;>
    simp only [Shadow.setBinding] <;> (repeat' split) <;> rfl

theorem bind_does (s : Scope δ) (c : Command) (cls : ObjectClass) (target : Enum)
    (name : UInt32) : s.Does c (.bind cls) (·.bind cls target name) := by
  have hheld : ∀ e, (s.owing e).shadow.binding? cls target = s.shadow.binding? cls target := by
    intro e
    cases cls <;> rfl
  cases hb : s.shadow.binding? cls target with
  | none =>
    refine does_one (a := .reject GL.invalidEnum) (by decide : GL.invalidEnum ≠ GL.noError) ?_
    intro e
    simp only [bind, hheld, hb]
    rfl
  | some held =>
    by_cases hn : held = name
    · refine does_one (a := .elide) trivial fun e => ?_
      simp only [bind, hheld, hb, if_pos hn]
      rfl
    · have hbound : (s.driverName cls name).2.Does c (.bind cls) fun t =>
          ({ t with shadow := t.shadow.setBinding cls target name }.submit
            (.bind cls target (s.driverName cls name).1)).2 :=
        does_two (a := .note (·.setBinding cls target name))
          (b := .submit (.bind cls target (s.driverName cls name).1))
          (fun t => setBinding_keeps t cls target name) ⟨.inl rfl, rfl⟩ fun _ => rfl
      refine ((driverName_does s c cls name).andThen (fun e => ?_) hbound).congr fun e => ?_
      · rw [driverName_owing]
      · simp only [bind, hheld, hb, if_neg hn]
        rw [driverName_owing]

/-! Queries -/

theorem isEnabled_does (s : Scope δ) (c : Command) (cap : Enum) :
    s.Does c .isEnabled fun t => (t.isEnabled cap).2 := by
  cases hcap : Capability.ofEnum? cap with
  | some known =>
    refine does_one (a := .elide) trivial fun e => ?_
    simp only [isEnabled, hcap]
    rfl
  | none =>
    refine does_one (a := .reject GL.invalidEnum) (by decide : GL.invalidEnum ≠ GL.noError) ?_
    intro e
    simp only [isEnabled, hcap]
    rfl

theorem checkFramebufferStatus_does (s : Scope δ) (c : Command) (target : Enum) :
    s.Does c .checkFramebufferStatus fun t => (t.checkFramebufferStatus target).2 := by
  by_cases ht : target = GL.framebuffer
  · refine does_one (a := .submit (.checkFramebufferStatus target)) ⟨.inl rfl, rfl⟩ fun e => ?_
    simp only [checkFramebufferStatus, if_pos ht]
    rfl
  · refine does_one (a := .reject GL.invalidEnum) (by decide : GL.invalidEnum ≠ GL.noError) ?_
    intro e
    simp only [checkFramebufferStatus, if_neg ht]
    rfl

theorem createShader_does (s : Scope δ) (c : Command) (kind : Enum) :
    s.Does c .createShader fun t => (t.createShader kind).2 := by
  by_cases hk : Legal.shaderKinds.contains kind
  · refine does_one (a := .forward (.createShader kind)) ⟨.inl rfl, rfl⟩ fun e => ?_
    simp only [createShader, if_pos hk]
    rfl
  · refine does_one (a := .reject GL.invalidEnum) (by decide : GL.invalidEnum ≠ GL.noError) ?_
    intro e
    simp only [createShader, if_neg hk]
    rfl

theorem location_does (s : Scope δ) (c : Command) (kind : LocationKind) (program : UInt32)
    (name : String) : s.Does c (.location kind) fun t => (t.location kind program name).2 := by
  have hcache : ∀ e, (s.owing e).shadow.locations = s.shadow.locations := fun _ => rfl
  cases hl : s.shadow.locations.lookup program kind name with
  | some held =>
    refine does_one (a := .elide) trivial fun e => ?_
    simp only [location, hcache, hl]
    rfl
  | none =>
    let told : Int32 := (s.submit (.location kind program name)).1
    by_cases ht : 0 ≤ told
    · refine does_two (a := .submit (.location kind program name)) (b := .note fun t =>
        { t with locations := t.locations.store program kind name told }) ⟨.inl rfl, rfl⟩ ?_ ?_
      · exact fun t => ⟨rfl, rfl, fun _ => rfl, fun h => by cases h⟩
      · intro e
        have ht' : (0 : Int32) ≤ ((s.owing e).submit (.location kind program name)).1 := ht
        simp only [location, hcache, hl, if_pos ht']
        rfl
    · refine does_one (a := .submit (.location kind program name)) ⟨.inl rfl, rfl⟩ fun e => ?_
      have ht' : ¬ (0 : Int32) ≤ ((s.owing e).submit (.location kind program name)).1 := ht
      simp only [location, hcache, hl, if_neg ht']
      rfl

theorem answerSize_owing (s : Scope δ) (pname : Enum) (e : Enum) :
    (s.owing e).answerSize pname = ((s.answerSize pname).1, (s.answerSize pname).2.owing e) := by
  rw [answerSize, answerSize]
  split
  · rfl
  · split <;> rfl

theorem answerSize_does (s : Scope δ) (pname : Enum) :
    s.Does (.getIntegerv pname) .getIntegerv fun t => (t.answerSize pname).2 := by
  by_cases hc : pname = GL.compressedTextureFormats
  · refine does_one (a := .forward (.getIntegerv GL.numCompressedTextureFormats [0]))
      ⟨.inl rfl, ?_⟩ fun e => ?_
    · rw [hc]
      decide
    · simp only [answerSize, if_pos hc]
      rfl
  · by_cases hs : pname = GL.shaderBinaryFormats
    · refine does_one (a := .forward (.getIntegerv GL.numShaderBinaryFormats [0]))
        ⟨.inl rfl, ?_⟩ fun e => ?_
      · rw [hs]
        decide
      · simp only [answerSize, if_neg hc, if_pos hs]
        rfl
    · refine does_nothing fun e => ?_
      simp only [answerSize, if_neg hc, if_neg hs]

theorem getIntegerv_does (s : Scope δ) (pname : Enum) :
    s.Does (.getIntegerv pname) .getIntegerv fun t => (t.getIntegerv pname).2 := by
  have hints : ∀ e, (s.owing e).shadow.integers? pname = s.shadow.integers? pname := fun _ => rfl
  cases hl : Limit.ofPname? pname with
  | some limit =>
    refine (limit_does s limit).congr fun e => ?_
    simp only [getIntegerv, hl]
  | none =>
    cases hcap : Capability.ofEnum? pname with
    | some cap =>
      refine does_one (a := .elide) trivial fun e => ?_
      simp only [getIntegerv, hl, hcap]
      rfl
    | none =>
      cases hi : s.shadow.integers? pname with
      | some values =>
        refine does_one (a := .elide) trivial fun e => ?_
        simp only [getIntegerv, hl, hcap, hints, hi]
        rfl
      | none =>
        by_cases hsize : (s.answerSize pname).1 = 0
        · refine (answerSize_does s pname).congr fun e => ?_
          simp only [getIntegerv, hl, hcap, hints, hi, answerSize_owing, if_pos hsize]
        · let asked : Call := .getIntegerv pname (List.replicate (s.answerSize pname).1 0)
          have hsubmit : (s.answerSize pname).2.Does (.getIntegerv pname) .getIntegerv
              fun t => (t.submit asked).2 :=
            does_one (a := .submit asked) ⟨.inl rfl, by simp [asked, Command.risks, hl]⟩
              fun _ => rfl
          refine ((answerSize_does s pname).andThen (fun e => ?_) hsubmit).congr fun e => ?_
          · rw [answerSize_owing]
          · simp only [getIntegerv, hl, hcap, hints, hi, answerSize_owing, if_neg hsize]
            rw [answerSize_owing]

end Scope

/-! Plans -/

namespace Plan

def Allowed (c : Command) (entry : EntryPoint) : Plan → Prop
  | rest | elide => True
  | reject error => error ≠ GL.noError
  | apply change call =>
    (∀ t, Command.Keeps entry t (change t)) ∧ Command.Makes entry call ∧ c.risks call = false
  | submit change call =>
    (∀ t, Command.Keeps entry t (change t)) ∧ Command.Makes entry call ∧ c.risks call = true
  | consult _ next => ∀ value, (next value).Allowed c entry

variable {c : Command} {entry : EntryPoint} {next : Plan}

theorem allowed_checkEnum {ok : Bool} (h : next.Allowed c entry) :
    (checkEnum ok next).Allowed c entry := by
  unfold checkEnum require
  split
  · exact h
  · exact (by decide : GL.invalidEnum ≠ GL.noError)

theorem allowed_checkValue {ok : Bool} (h : next.Allowed c entry) :
    (checkValue ok next).Allowed c entry := by
  unfold checkValue require
  split
  · exact h
  · exact (by decide : GL.invalidValue ≠ GL.noError)

theorem allowed_unlessHeld {α : Type} [DecidableEq α] {held wanted : α}
    (h : next.Allowed c entry) : (unlessHeld held wanted next).Allowed c entry := by
  unfold unlessHeld
  split
  · trivial
  · exact h

theorem run_does {δ : Type} [Driver δ] {p : Plan} (hp : p.Allowed c entry) (s : Scope δ) :
    s.Does c entry p.run := by
  induction p generalizing s with
  | rest => exact Scope.does_nothing fun _ => rfl
  | elide => exact Scope.does_one (a := .elide) trivial fun _ => rfl
  | reject error => exact Scope.does_one (a := .reject error) hp fun _ => rfl
  | apply change call =>
    exact Scope.does_two (a := .note change) (b := .forward call) hp.1 hp.2 fun _ => rfl
  | submit change call =>
    exact Scope.does_two (a := .note change) (b := .submit call) hp.1 hp.2 fun _ => rfl
  | consult limit next ih =>
    have hnext := ih (s.limit limit).1 (hp _) (s.limit limit).2
    refine ((s.limit_does limit).andThen (fun e => ?_) hnext).congr fun e => ?_
    · rw [Scope.limit_owing]
    · simp only [run, Scope.limit_owing]

theorem allowed_apply {change : Shadow → Shadow} {call : Call} (hc : call.entry = entry)
    (hr : c.risks call = false) (hk : ∀ t, Command.Keeps entry t (change t)) :
    (apply change call).Allowed c entry := ⟨hk, .inl hc, hr⟩

theorem allowed_submit {change : Shadow → Shadow} {call : Call} (hc : call.entry = entry)
    (hr : c.risks call = true) (hk : ∀ t, Command.Keeps entry t (change t)) :
    (submit change call).Allowed c entry := ⟨hk, .inl hc, hr⟩

theorem allowed_set {change : Shadow → Shadow} {call : Call} (hc : call.entry = entry)
    (hr : c.risks call = false)
    (hk : ∀ t, (change t).error = t.error ∧ (change t).driverMayKnow = t.driverMayKnow ∧
      (change t).bindings = t.bindings ∧ (change t).locations = t.locations) :
    (apply change call).Allowed c entry :=
  allowed_apply hc hr fun t => ⟨(hk t).1, (hk t).2.1, fun _ => (hk t).2.2.1, fun _ => (hk t).2.2.2⟩

theorem allowed_through {call : Call} (hc : call.entry = entry) (hr : c.risks call = true) :
    (submit id call).Allowed c entry :=
  allowed_submit hc hr fun _ => ⟨rfl, rfl, fun _ => rfl, fun _ => rfl⟩

theorem setCapability_allowed (s : Shadow) (cap : Enum) (on : Bool)
    (hc : (if on then Call.enable cap else Call.disable cap).entry = entry)
    (hr : c.risks (if on then Call.enable cap else Call.disable cap) = false) :
    (setCapability s cap on).Allowed c entry := by
  unfold setCapability
  split
  · exact (by decide : GL.invalidEnum ≠ GL.noError)
  · exact allowed_unlessHeld <| allowed_set hc hr fun _ => ⟨rfl, rfl, rfl, rfl⟩

theorem hint_allowed (s : Shadow) (target mode : Enum) :
    (hint s target mode).Allowed (.hint target mode) .hint := by
  unfold hint
  split
  · next ht =>
    refine allowed_unlessHeld <| allowed_checkEnum <|
      allowed_set rfl ?_ fun _ => ⟨rfl, rfl, rfl, rfl⟩
    simp [Command.risks, ht]
  · next ht =>
    refine allowed_checkEnum <| allowed_through rfl ?_
    simp [Command.risks, ht]

theorem pixelStorei_allowed (s : Shadow) (pname : Enum) (param : Int32) :
    (pixelStorei s pname param).Allowed (.pixelStorei pname param) .pixelStorei := by
  unfold pixelStorei
  split
  · exact allowed_unlessHeld <| allowed_checkValue <|
      allowed_set rfl rfl fun _ => ⟨rfl, rfl, rfl, rfl⟩
  · split
    · exact allowed_unlessHeld <| allowed_checkValue <|
        allowed_set rfl rfl fun _ => ⟨rfl, rfl, rfl, rfl⟩
    · exact (by decide : GL.invalidEnum ≠ GL.noError)

theorem stencil_allowed (s : Shadow) (face : Enum) (holds : StencilFace → Bool)
    (change : StencilFace → StencilFace) {call : Call} (hc : call.entry = entry)
    (hr : c.risks call = false) : (stencil s face holds change call).Allowed c entry :=
  allowed_checkEnum <| allowed_unlessHeld <| allowed_set hc hr fun _ => ⟨rfl, rfl, rfl, rfl⟩

theorem setAttribArray_allowed (s : Shadow) (index : UInt32) (on : Bool)
    (hc : (if on then Call.enableVertexAttribArray index
      else Call.disableVertexAttribArray index).entry = entry)
    (hr : c.risks (if on then Call.enableVertexAttribArray index
      else Call.disableVertexAttribArray index) = false) :
    (setAttribArray s index on).Allowed c entry :=
  fun _ => allowed_checkValue <| allowed_unlessHeld <|
    allowed_set hc hr fun _ => ⟨rfl, rfl, rfl, rfl⟩

theorem texImage2D_allowed (s : Shadow) (image : TexImage) :
    (texImage2D s image).Allowed (.texImage2D image) .texImage2D := by
  refine allowed_checkEnum <| allowed_checkValue fun _ => allowed_checkValue <|
    allowed_checkEnum <| allowed_checkEnum ?_
  split
  · exact (by decide : GL.invalidOperation ≠ GL.noError)
  · exact allowed_checkValue <| allowed_through rfl rfl

/-- A program's locations are dropped where it is linked or deleted. -/
theorem dropLocations_allowed {call : Call} (hc : call.entry = entry) (hr : c.risks call = true)
    (he : entry.relocates = true) (program : UInt32) :
    (dropLocations program call).Allowed c entry :=
  allowed_submit hc hr fun _ => ⟨rfl, rfl, fun _ => rfl, fun h => by rw [he] at h; cases h⟩

theorem ofCommand_allowed (s : Shadow) (hc : c.entry? = some entry) :
    (ofCommand s c).Allowed c entry := by
  cases c with
  | activeTexture texture =>
    cases hc
    exact allowed_unlessHeld <| allowed_checkEnum fun _ => allowed_checkEnum <|
      allowed_apply rfl rfl fun t => ⟨rfl, rfl, fun h => (by cases h), fun _ => rfl⟩
  | blendEquation _ | blendEquationSeparate _ _ | blendFunc _ _ | blendFuncSeparate _ | cullFace _
  | depthFunc _ | frontFace _ =>
    cases hc
    exact allowed_unlessHeld <| allowed_checkEnum <|
      allowed_set rfl rfl fun _ => ⟨rfl, rfl, rfl, rfl⟩
  | blendColor _ | clearColor _ | clearDepthf _ | clearStencil _ | colorMask _ | depthMask _
  | depthRangef _ _ | polygonOffset _ _ | sampleCoverage _ _ =>
    cases hc
    exact allowed_unlessHeld <| allowed_set rfl rfl fun _ => ⟨rfl, rfl, rfl, rfl⟩
  | lineWidth _ | scissor _ | viewport _ =>
    cases hc
    exact allowed_unlessHeld <| allowed_checkValue <|
      allowed_set rfl rfl fun _ => ⟨rfl, rfl, rfl, rfl⟩
  | enable cap =>
    cases hc
    exact setCapability_allowed s cap true rfl rfl
  | disable cap =>
    cases hc
    exact setCapability_allowed s cap false rfl rfl
  | hint target mode =>
    cases hc
    exact hint_allowed s target mode
  | pixelStorei pname param =>
    cases hc
    exact pixelStorei_allowed s pname param
  | stencilFunc _ | stencilFuncSeparate _ _ | stencilOp _ | stencilOpSeparate _ _ =>
    cases hc
    refine allowed_checkEnum ?_
    exact stencil_allowed s _ _ _ rfl rfl
  | stencilMask _ | stencilMaskSeparate _ _ =>
    cases hc
    unfold ofCommand stencilMask
    exact stencil_allowed s _ _ _ rfl rfl
  | bufferData _ _ _ _ =>
    cases hc
    exact allowed_checkEnum <| allowed_checkValue <| allowed_checkEnum <| allowed_checkValue <|
      allowed_through rfl rfl
  | texImage2D image =>
    cases hc
    exact texImage2D_allowed s image
  | bufferSubData _ _ _ | drawArrays _ _ _ =>
    cases hc
    exact allowed_checkEnum <| allowed_checkValue <| allowed_through rfl rfl
  | drawElements _ _ _ _ =>
    cases hc
    exact allowed_checkEnum <| allowed_checkValue <| allowed_checkEnum <| allowed_through rfl rfl
  | texParameteri _ _ _ | generateMipmap _ =>
    cases hc
    exact allowed_checkEnum <| allowed_through rfl rfl
  | clear _ =>
    cases hc
    exact allowed_checkValue <| allowed_through rfl rfl
  | shaderSource _ _ | compileShader _ | attachShader _ _ | flush | finish =>
    cases hc
    exact allowed_through rfl rfl
  | linkProgram program | deleteProgram program =>
    cases hc
    refine dropLocations_allowed ?_ ?_ ?_ program <;> rfl
  | useProgram program =>
    cases hc
    exact allowed_unlessHeld <|
      allowed_submit rfl rfl fun _ => ⟨rfl, rfl, fun _ => rfl, fun _ => rfl⟩
  | enableVertexAttribArray index =>
    cases hc
    exact setAttribArray_allowed s index true rfl rfl
  | disableVertexAttribArray index =>
    cases hc
    exact setAttribArray_allowed s index false rfl rfl
  | vertexAttribPointer _ _ =>
    cases hc
    exact fun _ => allowed_checkValue <| allowed_checkValue <| allowed_checkEnum <|
      allowed_checkValue <| allowed_unlessHeld <| allowed_set rfl rfl fun _ => ⟨rfl, rfl, rfl, rfl⟩
  | _ => trivial

end Plan

/-! Commands -/

namespace Scope

variable {δ : Type} [Driver δ] {s : Scope δ} {c : Command} {entry : EntryPoint}

theorem perform_does (s : Scope δ) (hc : c.entry? = some entry) (hn : c ≠ .getError) :
    s.Does c entry fun t => (t.perform c).2 := by
  cases c with
  | getError => exact absurd rfl hn
  | bindBuffer target name | bindTexture target name | bindFramebuffer target name
  | bindRenderbuffer target name =>
    cases hc
    exact bind_does s _ _ target name
  | genBuffers names | genTextures names | genFramebuffers names | genRenderbuffers names =>
    cases hc
    exact generate_does s _ _ names
  | deleteBuffers names | deleteTextures names | deleteFramebuffers names
  | deleteRenderbuffers names =>
    cases hc
    exact delete_does s _ _ names
  | getIntegerv pname =>
    cases hc
    exact getIntegerv_does s pname
  | isEnabled cap =>
    cases hc
    exact isEnabled_does s _ cap
  | checkFramebufferStatus target =>
    cases hc
    exact checkFramebufferStatus_does s _ target
  | createShader kind =>
    cases hc
    exact createShader_does s _ kind
  | createProgram =>
    cases hc
    exact does_one (a := .forward .createProgram) ⟨.inl rfl, rfl⟩ fun _ => rfl
  | getAttribLocation program name =>
    cases hc
    exact location_does s _ .attrib program name
  | getUniformLocation program name =>
    cases hc
    exact location_does s _ .uniform program name
  | _ => exact (Plan.run_does (Plan.ofCommand_allowed s.shadow hc) s).congr fun _ => rfl

/-- Every rendering command but the error query, let through or not. -/
theorem enter_does (s : Scope δ) (hc : c.entry? = some entry) (hn : c ≠ .getError) :
    s.Does c entry fun t => (t.enter entry c).2 := by
  cases hb : Driver.bound s.driver entry with
  | true =>
    refine (perform_does s hc hn).congr fun e => ?_
    simp only [enter, owing_driver, hb, if_true]
  | false =>
    refine does_one (a := .reject GL.invalidOperation)
      (by decide : GL.invalidOperation ≠ GL.noError) fun e => ?_
    simp only [enter, owing_driver, hb, Bool.false_eq_true, if_false, drop, if_neg hn]
    rfl

end Scope

end RenderRelay
