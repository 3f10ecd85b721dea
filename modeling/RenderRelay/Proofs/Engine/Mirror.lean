import RenderRelay.Driver.Recorder
import RenderRelay.Proofs.Engine.Fleet
import RenderRelay.Proofs.Engine.Plans

/-!
# The shadow mirrors the driver

A driver that is traced keeps the calls it was given. What the calls made for
a record since it was made come to, played back on a new context, is the value
state of the record's shadow, after every run of any number of engines. So
what was left out would have changed nothing, and what is answered without
the driver is what the driver holds.
-/

set_option autoImplicit false

namespace RenderRelay

def Driver.after {δ : Type} [Driver δ] (d : δ) (calls : List Call) : δ :=
  calls.foldl (fun d c => (Driver.perform d c).2) d

theorem Driver.after_append {δ : Type} [Driver δ] (d : δ) (as bs : List Call) :
    Driver.after d (as ++ bs) = Driver.after (Driver.after d as) bs := List.foldl_append ..

theorem ValueState.afterAll_append (v : ValueState) (as bs : List Call) :
    v.afterAll (as ++ bs) = (v.afterAll as).afterAll bs := List.foldl_append ..

/-! Operations of a scope -/

namespace Scope

variable {δ : Type} [Driver δ]

def Follows (s t : Scope δ) : Prop :=
  ∃ calls, t.driver = Driver.after s.driver calls ∧ t.shadow.attribs.Sound ∧
    t.shadow.values = s.shadow.values.afterAll calls

variable {s t u : Scope δ}

theorem follows_of_values (hd : t.driver = s.driver) (hs : t.shadow.attribs.Sound)
    (hv : t.shadow.values = s.shadow.values) : s.Follows t := ⟨[], hd, hs, hv⟩

theorem follows_refl (hs : s.shadow.attribs.Sound) : s.Follows s := follows_of_values rfl hs rfl

theorem Follows.trans (hst : s.Follows t) (htu : t.Follows u) : s.Follows u := by
  obtain ⟨as, hd, -, hv⟩ := hst
  obtain ⟨bs, hd', hs', hv'⟩ := htu
  exact ⟨as ++ bs, by rw [hd', hd, Driver.after_append], hs',
    by rw [hv', hv, ValueState.afterAll_append]⟩

theorem Follows.sound (hst : s.Follows t) : t.shadow.attribs.Sound := by
  obtain ⟨-, -, hs, -⟩ := hst
  exact hs

theorem forward_follows (hs : s.shadow.attribs.Sound) {c : Call}
    (hc : ∀ v : ValueState, v.after c = v) : s.Follows (s.forward c).2 :=
  ⟨[c], rfl, hs, (hc _).symm⟩

theorem submit_follows (hs : s.shadow.attribs.Sound) {c : Call}
    (hc : ∀ v : ValueState, v.after c = v) : s.Follows (s.submit c).2 :=
  ⟨[c], rfl, hs, (hc _).symm⟩

theorem reject_follows (hs : s.shadow.attribs.Sound) (e : Enum) : s.Follows (s.reject e) := by
  refine follows_of_values rfl ?_ ?_
  · show (s.shadow.recordError e).attribs.Sound
    unfold Shadow.recordError
    split <;> exact hs
  · show (s.shadow.recordError e).values = _
    unfold Shadow.recordError
    split <;> rfl

omit [Driver δ] in
theorem error_reject (s : Scope δ) {e : Enum} (he : e ≠ GL.noError) :
    (s.reject e).shadow.error ≠ GL.noError := by
  show (s.shadow.recordError e).error ≠ _
  unfold Shadow.recordError Shadow.acceptsError
  split
  · exact he
  · next h => exact fun hn => h (beq_iff_eq.mpr hn)

omit [Driver δ] in
theorem callsElided_reject (s : Scope δ) (e : Enum) :
    (s.reject e).stats.callsElided = s.stats.callsElided := by
  unfold reject
  dsimp only
  split <;> rfl

omit [Driver δ] in
theorem callsElided_drop (s : Scope δ) (c : Command) :
    (s.drop c).2.stats.callsElided = s.stats.callsElided := by
  unfold drop
  split
  · rfl
  · exact s.callsElided_reject _

theorem limit_follows (hs : s.shadow.attribs.Sound) (l : Limit) :
    s.Follows (s.limit l).2 ∧ (∃ limits, (s.limit l).2.shadow = { s.shadow with limits }) ∧
      (s.limit l).2.stats.callsElided = s.stats.callsElided := by
  unfold limit
  split
  · exact ⟨follows_refl hs, ⟨_, rfl⟩, rfl⟩
  · split
    · refine ⟨?_, ⟨_, rfl⟩, rfl⟩
      exact (forward_follows hs fun _ => rfl).trans (follows_of_values rfl hs rfl)
    · exact ⟨follows_refl hs, ⟨_, rfl⟩, rfl⟩

/-! Objects -/

theorem generate_follows (hs : s.shadow.attribs.Sound) (cls : ObjectClass) (client : List UInt32) :
    s.Follows (s.generate cls client) := by
  unfold generate
  split
  · exact follows_refl hs
  · exact (forward_follows hs fun _ => rfl).trans (follows_of_values rfl hs rfl)

theorem values_forgetAll {sh : Shadow} (hs : sh.attribs.Sound) (cls : ObjectClass)
    (names : List UInt32) : (names.foldl (·.forget cls ·) sh).values = sh.values ∧
      (names.foldl (·.forget cls ·) sh).attribs.Sound := by
  induction names generalizing sh with
  | nil => exact ⟨rfl, hs⟩
  | cons name names ih =>
    obtain ⟨hv, hs'⟩ := Shadow.values_forget hs cls name
    obtain ⟨hv', hs''⟩ := ih hs'
    exact ⟨hv'.trans hv, hs''⟩

theorem delete_follows (hs : s.shadow.attribs.Sound) (cls : ObjectClass) (client : List UInt32) :
    s.Follows (s.delete cls client) := by
  unfold delete
  split
  · exact follows_refl hs
  · obtain ⟨hv, hs'⟩ := values_forgetAll hs cls (client.filter (· ≠ 0))
    have hmid : s.Follows { s with
        names := (s.names.takeAll cls client).2
        shadow := (client.filter (· ≠ 0)).foldl (·.forget cls ·) s.shadow } :=
      follows_of_values rfl hs' hv
    exact hmid.trans (forward_follows hs' fun _ => rfl)

theorem driverName_follows (hs : s.shadow.attribs.Sound) (cls : ObjectClass) (client : UInt32) :
    s.Follows (s.driverName cls client).2 := by
  unfold driverName
  split
  · exact follows_refl hs
  · split
    · exact (forward_follows hs fun _ => rfl).trans (follows_of_values rfl hs rfl)
    · exact follows_refl hs

theorem bind_follows (hs : s.shadow.attribs.Sound) (cls : ObjectClass) (target : Enum)
    (name : UInt32) : s.Follows (s.bind cls target name) := by
  unfold bind
  split
  · exact reject_follows hs _
  · split
    · exact follows_of_values rfl hs rfl
    · have hn := driverName_follows hs cls name
      obtain ⟨hv, ha⟩ := (s.driverName cls name).2.shadow.values_setBinding cls target name
      have hs' : ((s.driverName cls name).2.shadow.setBinding cls target name).attribs.Sound := by
        rw [ha]
        exact hn.sound
      have hmid : (s.driverName cls name).2.Follows { (s.driverName cls name).2 with
          shadow := (s.driverName cls name).2.shadow.setBinding cls target name } :=
        follows_of_values rfl hs' hv
      exact (hn.trans hmid).trans (submit_follows hs' fun _ => rfl)

/-! Queries -/

theorem answerSize_follows (hs : s.shadow.attribs.Sound) (pname : Enum) :
    s.Follows (s.answerSize pname).2 := by
  have hcount : ∀ p, s.Follows (s.formatCount p).2 := fun p =>
    forward_follows (c := .getIntegerv p [0]) hs fun _ => rfl
  unfold answerSize
  split
  · exact hcount _
  · split
    · exact hcount _
    · exact follows_refl hs

theorem getIntegerv_follows (hs : s.shadow.attribs.Sound) (pname : Enum) :
    s.Follows (s.getIntegerv pname).2 := by
  unfold getIntegerv
  split
  · exact (limit_follows hs _).1
  · split
    · exact follows_of_values rfl hs rfl
    · split
      · exact follows_of_values rfl hs rfl
      · have hsize := answerSize_follows hs pname
        dsimp only
        split
        · exact hsize
        · exact hsize.trans (submit_follows hsize.sound fun _ => rfl)

theorem isEnabled_follows (hs : s.shadow.attribs.Sound) (cap : Enum) :
    s.Follows (s.isEnabled cap).2 := by
  unfold isEnabled
  split
  · exact follows_of_values rfl hs rfl
  · exact reject_follows hs _

theorem checkFramebufferStatus_follows (hs : s.shadow.attribs.Sound) (target : Enum) :
    s.Follows (s.checkFramebufferStatus target).2 := by
  unfold checkFramebufferStatus
  split
  · exact submit_follows hs fun _ => rfl
  · exact reject_follows hs _

theorem createShader_follows (hs : s.shadow.attribs.Sound) (kind : Enum) :
    s.Follows (s.createShader kind).2 := by
  unfold createShader
  split
  · exact forward_follows hs fun _ => rfl
  · exact reject_follows hs _

theorem location_follows (hs : s.shadow.attribs.Sound) (kind : LocationKind) (program : UInt32)
    (name : String) : s.Follows (s.location kind program name).2 := by
  unfold location
  split
  · exact follows_of_values rfl hs rfl
  · have hsubmit : s.Follows (s.submit (.location kind program name)).2 :=
      submit_follows hs fun _ => rfl
    dsimp only
    split
    · exact hsubmit.trans (follows_of_values rfl hs rfl)
    · exact hsubmit

theorem getError_follows (hs : s.shadow.attribs.Sound) : s.Follows s.getError.2 := by
  unfold getError
  dsimp only
  split
  · exact (follows_of_values rfl hs rfl : s.Follows { s with
      shadow := { s.shadow.clearError with driverMayKnow := false }
      stats := s.stats.driverAsked }).trans (forward_follows hs fun _ => rfl)
  · exact follows_of_values rfl hs rfl

/-! Commands -/

/-- What a command that stands for the call `want`, or for none, does: the
values go along with the calls; a setter that is left out would have changed
nothing, and one that is not was made or ended in an error. -/
structure Carries (s t : Scope δ) (want : Option Call) (calls : List Call) : Prop where
  driver : t.driver = Driver.after s.driver calls
  sound : t.shadow.attribs.Sound
  values : t.shadow.values = s.shadow.values.afterAll calls
  elided : s.stats.callsElided < t.stats.callsElided → ∀ call ∈ want,
    s.shadow.values.after call = s.shadow.values ∧ t.shadow.values = s.shadow.values
  settled : ∀ call ∈ want, s.stats.callsElided < t.stats.callsElided ∨ call ∈ calls ∨
    t.shadow.error ≠ GL.noError

theorem Follows.carries (hst : s.Follows t) : ∃ calls, s.Carries t none calls := by
  obtain ⟨calls, hd, hs, hv⟩ := hst
  exact ⟨calls, hd, hs, hv, fun _ _ hk => by (cases hk), fun _ hk => by cases hk⟩

theorem reject_carries (hs : s.shadow.attribs.Sound) {e : Enum} (he : e ≠ GL.noError)
    (want : Option Call) : ∃ calls, s.Carries (s.reject e) want calls := by
  obtain ⟨calls, hd, hs', hv⟩ := reject_follows hs e
  refine ⟨calls, hd, hs', hv, fun hlt => ?_, fun _ _ => .inr (.inr (s.error_reject he))⟩
  have hsame := s.callsElided_reject e
  omega

/-- The call of a setter is made, with the change that goes with it. -/
theorem call_carries {change : Shadow → Shadow} {call : Call} {want : Option Call}
    (hs : (change s.shadow).attribs.Sound)
    (hv : (change s.shadow).values = s.shadow.values.after call) (hk : ∀ k ∈ want, k = call)
    (hd : t.driver = Driver.after s.driver [call])
    (ht : ∃ known, t.shadow = { change s.shadow with driverMayKnow := known })
    (hcount : t.stats.callsElided = s.stats.callsElided) : s.Carries t want [call] := by
  obtain ⟨known, ht⟩ := ht
  constructor
  case driver => exact hd
  case sound =>
    rw [ht]
    exact hs
  case values =>
    rw [ht]
    exact hv
  case elided => exact fun hlt => by omega
  case settled => exact fun k hw => .inr (.inl (hk k hw ▸ List.mem_singleton_self k))

theorem Carries.behind {want : Option Call} {calls : List Call} (hst : s.Follows t)
    (hsame : t.shadow.values = s.shadow.values)
    (hcount : t.stats.callsElided = s.stats.callsElided) (htu : t.Carries u want calls) :
    ∃ calls, s.Carries u want calls := by
  obtain ⟨queries, hd, hs, hv⟩ := hst
  refine ⟨queries ++ calls, ?_, htu.sound, ?_, ?_, ?_⟩
  · rw [htu.driver, hd, Driver.after_append]
  · rw [htu.values, hv, ValueState.afterAll_append]
  · rw [← hcount, ← hsame]
    exact htu.elided
  · intro call hw
    rw [← hcount]
    exact (htu.settled call hw).imp_right (Or.imp_left (List.mem_append_right queries))

/-- A plan that has learned limits on the way still does what it is to do. -/
theorem run_carries {sh : Shadow} {want : Option Call} {p : Plan} (hp : p.Carries sh want)
    (hs : sh.attribs.Sound) (hl : ∃ limits, s.shadow = { sh with limits }) :
    ∃ calls, s.Carries (p.run s) want calls := by
  obtain ⟨limits, hl⟩ := hl
  have hs' : s.shadow.attribs.Sound := by
    rw [hl]
    exact hs
  have hvalues : s.shadow.values = sh.values := by
    rw [hl]
    rfl
  induction p generalizing s limits with
  | rest =>
    have hw : want = none := hp
    rw [hw]
    exact (follows_refl hs').carries
  | elide =>
    refine ⟨[], rfl, hs', rfl, fun _ call hk => ⟨?_, rfl⟩, fun _ _ => .inl (Nat.lt_succ_self _)⟩
    rw [hvalues]
    exact hp call hk
  | reject error => exact reject_carries hs' hp want
  | apply change call =>
    obtain ⟨hc, hv⟩ := hl ▸ hp.1 limits
    exact ⟨[call], call_carries hc (hvalues ▸ hv) hp.2 rfl ⟨_, rfl⟩ rfl⟩
  | submit change call =>
    obtain ⟨hc, hv⟩ := hl ▸ hp.1 limits
    exact ⟨[call], call_carries hc (hvalues ▸ hv) hp.2 rfl ⟨_, rfl⟩ rfl⟩
  | consult limit next ih =>
    obtain ⟨hf, ⟨learned, hlim⟩, hcount⟩ := limit_follows hs' limit
    have hsame : (s.limit limit).2.shadow.values = s.shadow.values := by
      rw [hlim]
      rfl
    have hl' : (s.limit limit).2.shadow = { sh with limits := learned } := by rw [hlim, hl]
    obtain ⟨calls, hrest⟩ := ih (s.limit limit).1 (hp _) learned hl' hf.sound (hsame.trans hvalues)
    exact hrest.behind hf hsame hcount

theorem perform_carries (hs : s.shadow.attribs.Sound) (c : Command) :
    ∃ calls, s.Carries (s.perform c).2 c.setting? calls := by
  cases c with
  | bindBuffer target name | bindTexture target name | bindFramebuffer target name
  | bindRenderbuffer target name => exact (bind_follows hs _ target name).carries
  | genBuffers names | genTextures names | genFramebuffers names | genRenderbuffers names =>
    exact (generate_follows hs _ names).carries
  | deleteBuffers names | deleteTextures names | deleteFramebuffers names
  | deleteRenderbuffers names => exact (delete_follows hs _ names).carries
  | getError => exact (getError_follows hs).carries
  | getIntegerv pname => exact (getIntegerv_follows hs pname).carries
  | isEnabled cap => exact (isEnabled_follows hs cap).carries
  | checkFramebufferStatus target => exact (checkFramebufferStatus_follows hs target).carries
  | createShader kind => exact (createShader_follows hs kind).carries
  | createProgram => exact (forward_follows (c := .createProgram) hs fun _ => rfl).carries
  | getAttribLocation program name => exact (location_follows hs .attrib program name).carries
  | getUniformLocation program name => exact (location_follows hs .uniform program name).carries
  | _ => exact run_carries (Plan.ofCommand_carries hs _) hs ⟨_, rfl⟩

theorem enter_carries (hs : s.shadow.attribs.Sound) (entry : EntryPoint) (c : Command) :
    ∃ calls, s.Carries (s.enter entry c).2 c.setting? calls := by
  unfold enter
  split
  · exact perform_carries hs c
  · unfold drop
    split
    · next hc =>
      rw [hc]
      exact (follows_refl hs).carries
    · exact reject_carries hs (by decide) _

/-! Answers without the driver -/

theorem enter_isEnabled (hb : Driver.bound s.driver .isEnabled = true) (cap : Enum) :
    (s.enter .isEnabled (.isEnabled cap)).1 = some (.bool (s.shadow.values.isEnabled cap)) := by
  have hvalue : (s.isEnabled cap).1 = s.shadow.values.isEnabled cap := by
    unfold isEnabled ValueState.isEnabled
    cases Capability.ofEnum? cap <;> rfl
  rw [enter, if_pos hb, ← hvalue]
  rfl

theorem getIntegerv_of_values {pname : Enum} {ints : List Int32}
    (hv : s.shadow.values.integers? pname = some ints) : s.getIntegerv pname = (ints, s.elide) := by
  unfold getIntegerv
  rw [Shadow.ofPname?_of_values hv]
  dsimp only
  cases hc : Capability.ofEnum? pname with
  | some c =>
    simp only [ValueState.integers?, hc, Option.some.injEq] at hv
    rw [← hv]
    rfl
  | none => rw [Shadow.integers?_of_values hc hv]

theorem enter_getIntegerv (hb : Driver.bound s.driver .getIntegerv = true) {pname : Enum}
    {ints : List Int32} (hv : s.shadow.values.integers? pname = some ints) :
    (s.enter .getIntegerv (.getIntegerv pname)).1 = some (.ints ints) := by
  have hperform : s.perform (.getIntegerv pname) = replying .ints (s.getIntegerv pname) := rfl
  rw [enter, if_pos hb, hperform, getIntegerv_of_values hv]
  rfl

end Scope

/-! Tracing -/

structure Traced (δ : Type) where
  driver : δ
  calls : List Call := []

section

variable {δ : Type} [Driver δ]

instance : Driver (Traced δ) where
  bound t := Driver.bound t.driver
  perform t c :=
    ((Driver.perform t.driver c).1, ⟨(Driver.perform t.driver c).2, t.calls ++ [c]⟩)

theorem Traced.calls_after (t : Traced δ) (calls : List Call) :
    (Driver.after t calls).calls = t.calls ++ calls := by
  induction calls generalizing t with
  | nil => exact (List.append_nil _).symm
  | cons c calls ih =>
    refine (ih _).trans ?_
    show t.calls ++ [c] ++ calls = _
    rw [List.append_assoc, List.singleton_append]

namespace Deed

def Elided (d : Deed δ) : Prop :=
  d.engine.server.stats.callsElided < d.after.server.stats.callsElided

instance (d : Deed δ) : Decidable d.Elided := inferInstanceAs (Decidable (_ < _))

def calls (d : Deed (Traced δ)) : List Call :=
  d.after.server.driver.calls.drop d.engine.server.driver.calls.length

structure Faithful (d : Deed (Traced δ)) (v : ValueState) : Prop where
  /-- A setter that is left out would have changed nothing. -/
  elided : d.Elided → ∀ call ∈ d.command.setting?, v.after call = v ∧ v.afterAll d.calls = v
  /-- One that is not left out was made, or leaves an error. -/
  settled : ∀ call ∈ d.command.setting?, d.Elided ∨ call ∈ d.calls ∨
    ∃ k, d.after.current = some k ∧ k.shadow.error ≠ GL.noError
  enabled : ∀ cap, d.command = .isEnabled cap →
    Driver.bound d.engine.server.driver .isEnabled = true →
    d.reply = some (.bool (v.isEnabled cap))
  integers : ∀ pname ints, d.command = .getIntegerv pname → v.integers? pname = some ints →
    Driver.bound d.engine.server.driver .getIntegerv = true → d.reply = some (.ints ints)

end Deed

/-- The calls that were made for a record, in order. Those of the display system set
no values and are not among them. -/
def callsOf (ledger : List (Deed (Traced δ))) : List Call := ledger.flatMap Deed.calls

theorem callsOf_concat (ds : List (Deed (Traced δ))) (d : Deed (Traced δ)) :
    callsOf (ds ++ [d]) = callsOf ds ++ d.calls := by
  simp [callsOf]

theorem Shadow.replay_append (as bs : List Call) :
    Shadow.replay (as ++ bs) = (Shadow.replay as).afterAll bs := ValueState.afterAll_append ..

structure Mirrors (ledger : List (Deed (Traced δ))) (shadow : Shadow) : Prop where
  sound : shadow.attribs.Sound
  values : shadow.values = Shadow.replay (callsOf ledger)
  faithful : ∀ before d later, ledger = before ++ d :: later →
    d.Faithful (Shadow.replay (callsOf before))

theorem Deed.reply_of_enter {e : Engine δ} {k : Current} (hk : e.current = some k) {c : Command}
    {entry : EntryPoint} (hc : c.entry? = some entry) :
    Deed.reply ⟨e, c⟩ = ((e.scope k).enter entry c).1 := by
  rw [Deed.reply, Engine.execute_rendering hk hc]

theorem Deed.after_of_enter {e : Engine δ} {k : Current} (hk : e.current = some k) {c : Command}
    {entry : EntryPoint} (hc : c.entry? = some entry) :
    Deed.after ⟨e, c⟩ = e.leave k ((e.scope k).enter entry c).2 := by
  rw [Deed.after, Engine.execute_rendering hk hc]

theorem Deed.calls_of_enter {e : Engine (Traced δ)} {k : Current} (hk : e.current = some k)
    {c : Command} {entry : EntryPoint} (hc : c.entry? = some entry) {calls : List Call}
    (hd : ((e.scope k).enter entry c).2.driver = Driver.after e.server.driver calls) :
    Deed.calls ⟨e, c⟩ = calls := by
  have hafter : (Deed.after ⟨e, c⟩).server.driver = Driver.after e.server.driver calls := by
    rw [Deed.after_of_enter hk hc]
    exact hd
  rw [Deed.calls, hafter, Traced.calls_after, List.drop_left]

theorem faithful_of_enter {e : Engine (Traced δ)} {k : Current} (hk : e.current = some k)
    {c : Command} {entry : EntryPoint} (hc : c.entry? = some entry)
    (hs : k.shadow.attribs.Sound) :
    Deed.Faithful ⟨e, c⟩ k.shadow.values ∧
      ((e.scope k).enter entry c).2.shadow.values = k.shadow.values.afterAll (Deed.calls ⟨e, c⟩) ∧
      ((e.scope k).enter entry c).2.shadow.attribs.Sound := by
  obtain ⟨calls, hcar⟩ := Scope.enter_carries (s := e.scope k) hs entry c
  have hcalls := Deed.calls_of_enter hk hc hcar.driver
  have hreply := Deed.reply_of_enter hk hc
  have hafter := Deed.after_of_enter hk hc
  refine ⟨?_, hcalls ▸ hcar.values, hcar.sound⟩
  constructor
  case elided =>
    intro hel call hcall
    rw [Deed.Elided, hafter] at hel
    obtain ⟨hsame, hv⟩ := hcar.elided hel call hcall
    rw [hcalls]
    exact ⟨hsame, hcar.values.symm.trans hv⟩
  case settled =>
    intro call hcall
    rw [Deed.Elided, hafter, hcalls]
    rcases hcar.settled call hcall with hel | hmem | herr
    · exact .inl hel
    · exact .inr (.inl hmem)
    · exact .inr (.inr ⟨_, rfl, herr⟩)
  case enabled =>
    rintro cap rfl hb
    cases hc
    rw [hreply]
    exact Scope.enter_isEnabled hb cap
  case integers =>
    rintro pname ints rfl hv hb
    cases hc
    rw [hreply]
    exact Scope.enter_getIntegerv hb hv

theorem mirrors_keeping :
    Fleet.Keeping (fun _ : Traced δ => True) fun ds shadow => Mirrors ds shadow where
  fresh := ⟨AttribList.empty_sound, rfl, fun before _ _ he => by simp at he⟩
  perform _ _ _ := trivial
  enter ds e k c entry hk hc _ hm := by
    obtain ⟨hf, hv, hs⟩ := faithful_of_enter hk hc hm.sound
    refine ⟨trivial, hs, ?_, ?_⟩
    · rw [callsOf_concat, Shadow.replay_append, ← hm.values]
      exact hv
    · refine forall_split_concat.mpr ⟨hm.faithful, ?_⟩
      rw [← hm.values]
      exact hf

end

namespace Fleet

variable {δ : Type} [Driver δ]

/-- After every run of any number of engines, the shadow of a record is what the
driver calls made for it come to, and what was left out or answered on the way
was what the driver would have done or answered. -/
theorem run_mirrored (d : δ) (names : NameTable) (moves : List Move) {h : Handle}
    {c : ContextRecord}
    (hv : ((start (⟨d, []⟩ : Traced δ) names).run moves).server.registry.record? h = some c) :
    ∃ shadow, (∀ t, ((start (⟨d, []⟩ : Traced δ) names).run moves).ShadowAt h t ↔ t = shadow) ∧
      Mirrors (((start (⟨d, []⟩ : Traced δ) names).run moves).ledger h) shadow := by
  have hk := (start_kept (d := (⟨d, []⟩ : Traced δ)) trivial names).run mirrors_keeping moves
  obtain ⟨shadow, hs⟩ := hk.custody.exists_shadowAt hv
  refine ⟨shadow, fun t => ⟨fun ht => hk.custody.shadowAt_unique ht hs, ?_⟩, hk.kept h shadow hs⟩
  rintro rfl
  exact hs

/-- A context that moves to another worker, while a second one is drawn to. -/
def switches : List Move :=
  [.execute 0 (.makeCurrent ⟨1⟩ ⟨3⟩ ⟨3⟩ ⟨7⟩), .execute 0 (.blendFunc GL.srcAlpha GL.one),
    .execute 0 (.stencilMaskSeparate GL.front 15), .execute 0 (.makeCurrent ⟨1⟩ ⟨4⟩ ⟨4⟩ ⟨8⟩),
    .execute 1 (.makeCurrent ⟨1⟩ ⟨3⟩ ⟨3⟩ ⟨7⟩), .execute 0 (.stencilMask 1),
    .execute 1 (.blendFuncSeparate ⟨GL.srcAlpha, GL.one, GL.srcAlpha, GL.one⟩),
    .execute 1 (.stencilMask 15), .drop 1]

/-- What the separate call would set again is left out, what is half set is not. -/
theorem run_mirrored_of_switches :
    callsOf (((start (⟨{}, []⟩ : Traced Recorder) {}).run switches).ledger ⟨0, 0⟩) =
      [.blendFunc GL.srcAlpha GL.one, .stencilMaskSeparate GL.front 15,
        .stencilMaskSeparate GL.frontAndBack 15] ∧
    ∃ shadow, ((start (⟨{}, []⟩ : Traced Recorder) {}).run switches).ShadowAt ⟨0, 0⟩ shadow ∧
      shadow.values = Shadow.replay [.blendFunc GL.srcAlpha GL.one,
        .stencilMaskSeparate GL.front 15, .stencilMaskSeparate GL.frontAndBack 15] := by
  have hcalls : callsOf (((start (⟨{}, []⟩ : Traced Recorder) {}).run switches).ledger ⟨0, 0⟩) =
      [.blendFunc GL.srcAlpha GL.one, .stencilMaskSeparate GL.front 15,
        .stencilMaskSeparate GL.frontAndBack 15] := by decide +kernel
  have hsome : (((start (⟨{}, []⟩ : Traced Recorder) {}).run switches).server.registry.record?
      ⟨0, 0⟩).isSome := by decide +kernel
  obtain ⟨c, hv⟩ := Option.isSome_iff_exists.mp hsome
  obtain ⟨shadow, hs, hm⟩ := run_mirrored ({} : Recorder) {} switches hv
  have hvalues := hm.values
  rw [hcalls] at hvalues
  exact ⟨hcalls, shadow, (hs shadow).mpr rfl, hvalues⟩

end Fleet

end RenderRelay
