import RenderRelay.Proofs.Engine.Conservation
import RenderRelay.Proofs.Engine.Refusals
import RenderRelay.Proofs.Engine.Shortcut
import RenderRelay.Proofs.Registry.Marks

/-!
# What the driver has confirmed

The driver is asked before the registry hears of anything. Where it cannot be asked,
or says no, records and workers stay as they are. Where it says yes and the registry
no, the worker ends with nothing, and what it had is in its record again.
-/

set_option autoImplicit false

namespace RenderRelay

open Function (update)
open Registry (Custody)

/-! ## Commands of the display system -/

namespace Command

def request? : Command → Option Call
  | getDisplay native => some (.getDisplay native)
  | initDisplay display => some (.initDisplay display)
  | terminateDisplay display => some (.terminateDisplay display)
  | chooseConfig display attribs max => some (.chooseConfig display attribs max)
  | createContext display config share attribs =>
    some (.createContext display config share attribs)
  | destroyContext display context => some (.destroyContext display context)
  | createWindowSurface display config window attribs =>
    some (.createWindowSurface display config window attribs)
  | createPbufferSurface display config attribs =>
    some (.createPbufferSurface display config attribs)
  | destroySurface display surface => some (.destroySurface display surface)
  | makeCurrent display draw read context => some (.makeCurrent display draw read context)
  | releaseThread => some .releaseThread
  | swapBuffers display surface => some (.swapBuffers display surface)
  | eglGetError => some .eglGetError
  | _ => none

/-- The reply that nothing came of a command of the display system. The error query has one
only where it cannot be made. -/
def failureReply? : Command → Option Reply
  | eglGetError => some (.int EGL.notInitialized)
  | c => c.blankReply?

def registers : Command → Bool
  | initDisplay _ | terminateDisplay _ | destroyContext .. | destroySurface .. | makeCurrent ..
  | releaseThread => true
  | _ => false

variable {c : Command} {call : Call}

theorem entry?_of_request (h : c.request? = some call) : c.entry? = none := by
  cases c <;> first | rfl | cases h

end Command

namespace Engine

variable {δ : Type} [Driver δ] {e e' : Engine δ} {c : Command} {call : Call}

def shortens (e : Engine δ) : Command → Bool
  | .makeCurrent display draw read context => e.holds display draw read context
  | _ => false

theorem ask_of_unbound (hb : Driver.bound e.server.driver call.entry = false) :
    e.ask call = (missing call, e) := by
  rw [ask, hb]
  rfl

theorem ask_of_bound (hb : Driver.bound e.server.driver call.entry = true) :
    e.ask call = e.call call := by
  rw [ask, hb]
  rfl

theorem missing_eq_failed (h : c.request? = some call) (hn : c ≠ .eglGetError) :
    missing call = call.failed := by
  cases c with
  | eglGetError => exact absurd rfl hn
  | _ => cases h <;> rfl

theorem manage_of_failed (h : c.request? = some call) (hn : c ≠ .eglGetError)
    (hm : ∀ display draw read context, c ≠ .makeCurrent display draw read context)
    (ha : e.ask call = (call.failed, e')) : e.manage c = (c.failureReply?, e') := by
  cases c with
  | eglGetError => exact absurd rfl hn
  | makeCurrent display draw read context => exact absurd rfl (hm display draw read context)
  | initDisplay _ | terminateDisplay _ | destroyContext _ _ | destroySurface _ _ | releaseThread
  | chooseConfig _ _ _ | getDisplay _ | createContext _ _ _ _ | createWindowSurface _ _ _ _
  | createPbufferSurface _ _ _ | swapBuffers _ _ =>
    cases h
    simp only [manage, replying, initDisplay, terminateDisplay, destroyContext, destroySurface,
      releaseThread, chooseConfig, ha]
    rfl
  | _ => cases h

theorem makeCurrent_of_failed {display : Display} {draw read : Surface} {context : Context}
    (hs : e.holds display draw read context = false)
    (hb : Driver.bound e.server.driver .eglMakeCurrent = true)
    (hf : (Driver.perform e.server.driver (.makeCurrent display draw read context)).1 = false) :
    e.makeCurrent display draw read context =
      (false, (e.call (.makeCurrent display draw read context)).2) := by
  have hcall : e.call (.makeCurrent display draw read context) =
      (false, (e.call (.makeCurrent display draw read context)).2) := Prod.ext hf rfl
  rw [makeCurrent_eq, hb, hs, makeCurrentAnew, hcall]
  rfl

theorem execute_of_unbound (h : c.request? = some call)
    (hb : Driver.bound e.server.driver call.entry = false) :
    e.execute c = (c.failureReply?, e) := by
  rw [execute_display (c.entry?_of_request h)]
  cases c with
  | eglGetError =>
    cases h
    simp only [manage, ask_of_unbound hb]
    rfl
  | makeCurrent display draw read context =>
    cases h
    have hb : Driver.bound e.server.driver .eglMakeCurrent = false := hb
    simp only [manage, makeCurrent_eq, hb]
    rfl
  | _ =>
    refine manage_of_failed h (by simp) (by simp) ?_
    rw [ask_of_unbound hb, missing_eq_failed h (by simp)]

theorem execute_of_failed (h : c.request? = some call) (hn : c ≠ .eglGetError)
    (hs : e.shortens c = false) (hb : Driver.bound e.server.driver call.entry = true)
    (hf : (Driver.perform e.server.driver call).1 = call.failed) :
    e.execute c = (c.failureReply?, (e.call call).2) := by
  rw [execute_display (c.entry?_of_request h)]
  cases c with
  | makeCurrent display draw read context =>
    cases h
    simp only [manage, makeCurrent_of_failed hs hb hf]
    rfl
  | _ =>
    refine manage_of_failed h hn (by simp) ?_
    rw [ask_of_bound hb]
    exact Prod.ext hf rfl

theorem registry_execute (e : Engine δ) (hc : c.registers = false) :
    (e.execute c).2.server.registry = e.server.registry := by
  cases hentry : c.entry? with
  | some entry =>
    cases hk : e.current with
    | none => rw [execute_idle hk hentry]
    | some k =>
      rw [execute_rendering hk hentry]
      rfl
  | none =>
    rw [execute_display hentry]
    cases c with
    | initDisplay _ | terminateDisplay _ | destroyContext _ _ | destroySurface _ _
    | makeCurrent _ _ _ _ | releaseThread => cases hc
    | getDisplay _ | chooseConfig _ _ _ | createContext _ _ _ _ | createWindowSurface _ _ _ _
    | createPbufferSurface _ _ _ | swapBuffers _ _ | eglGetError =>
      exact (e.asked_ask _ rfl).registry
    | _ => rfl

theorem makeCurrent_of_refused {display : Display} {draw read : Surface} {context : Context}
    {error : RegistryError} {r : Registry} {next : Option Current}
    (hs : e.holds display draw read context = false)
    (hb : Driver.bound e.server.driver .eglMakeCurrent = true)
    (ha : (Driver.perform e.server.driver (.makeCurrent display draw read context)).1 = true)
    (hm : e.server.registry.makeCurrent display draw read context e.current =
      (.error error, r, next)) :
    (e.makeCurrent display draw read context).1 = false ∧
      (e.makeCurrent display draw read context).2.server.registry = r.giveBack next ∧
      (e.makeCurrent display draw read context).2.current = none := by
  rw [makeCurrent_eq, hb, hs]
  unfold makeCurrentAnew call
  dsimp only
  rw [ha]
  dsimp only
  rw [hm]
  exact ⟨rfl, rfl, rfl⟩

end Engine

/-! ## What is refused -/

namespace Registry

variable {r r' : Registry} {out : Nat → Option Current} {display : Display} {draw read : Surface}
  {context : Context} {error : RegistryError} {next : Option Current}

/-- A record that cannot be handed out stays, and a new one may have been made for it. -/
theorem issue_of_error (h : (r.issue display draw read context).1 = .error error) :
    (r.issue display draw read context).2 = r ∨
      (r.issue display draw read context).2 = (r.add display context draw read).2 := by
  have hactivate : ∀ (r : Registry) g, (r.activate g draw read).1 = .error error →
      (r.activate g draw read).2 = r := by
    intro r g hg
    rcases r.activate_cases g draw read with ⟨c, shadow, -, -, -, he⟩ | ⟨e, he⟩
    · rw [he] at hg
      cases hg
    · rw [he]
  unfold issue findOrCreate at h ⊢
  split at h
  · exact .inl (hactivate _ _ h)
  split at h
  · exact .inl (hactivate _ _ h)
  · exact .inr (hactivate _ _ h)

/-- However it comes to a refusal, the worker has given back what it had. -/
theorem giveBack_of_error {own : Option Current}
    (h : r.makeCurrent display draw read context own = (.error error, r', next)) :
    r'.giveBack next = r.giveBack own ∨
      r'.giveBack next = ((r.giveBack own).add display context draw read).2 := by
  rw [makeCurrent_eq_issue] at h
  split at h
  · cases h
  split at h
  · cases h
    exact .inl rfl
  · obtain ⟨hresult, h⟩ := Prod.mk.inj h
    obtain ⟨rfl, rfl⟩ := Prod.mk.inj h
    cases hissue : ((r.giveBack own).issue display draw read context).1 with
    | ok k =>
      rw [hissue] at hresult
      cases hresult
    | error e => exact issue_of_error hissue

theorem Composed.handles (hr : r.Composed) {own : Option Current}
    (hh : r.Handles own r' next) : r'.Composed := by
  cases hh with
  | rest => exact hr
  | revive display => exact hr.initDisplay display
  | mark doomed => exact hr.mark doomed
  | release => exact hr.giveBack own
  | make display draw read context => exact hr.makeCurrent display draw read context own
  | refuse display draw read context =>
    exact (hr.makeCurrent display draw read context own).giveBack _

theorem record?_giveBack_self {k : Current} {c : ContextRecord}
    (hv : r.record? k.handle = some c) :
    (r.giveBack (some k)).record? k.handle = (c.returned k.shadow).outcome := by
  rw [giveBack, release_eq, record?, Arena.get?_alter, if_pos rfl,
    show r.arena.get? k.handle = some c from hv]
  rfl

theorem record?_giveBack_of_ne {own : Option Current} {h : Handle}
    (hne : ∀ k, own = some k → h ≠ k.handle) : (r.giveBack own).record? h = r.record? h := by
  cases own with
  | none => rfl
  | some k => exact record?_release_of_ne (hne k rfl)

/-- After a refusal the record that the worker had is idle, with its shadow and without what was
destroyed of it. All others are as they were. -/
theorem Custody.settled_of_error (hc : Custody r out) {w : Nat}
    (h : r.makeCurrent display draw read context (out w) = (.error error, r', next)) :
    (∀ k, out w = some k → ∃ c, r.record? k.handle = some c ∧
      (r'.giveBack next).record? k.handle = (c.returned k.shadow).outcome) ∧
    ∀ g c, r.record? g = some c → (∀ k, out w = some k → g ≠ k.handle) →
      (r'.giveBack next).record? g = some c := by
  have hback := (hc.giveBack w).1
  -- A new record takes the place of none, and leaves alone what was found.
  have hsame : ∀ g, (r.record? g).isSome = true →
      (r'.giveBack next).record? g = (r.giveBack (out w)).record? g := by
    intro g hg
    rcases giveBack_of_error h with he | he
    · rw [he]
    rw [he]
    cases hv : (r.giveBack (out w)).record? g with
    | some c => exact hback.spare.get?_insert_of_some _ hv
    | none =>
      by_contra hadd
      obtain ⟨d, hd⟩ := Option.ne_none_iff_exists'.mp hadd
      rcases hback.record?_add hd with hd | ⟨-, hn, hgeneration⟩
      · rw [hv] at hd
        cases hd
      · rw [r.giveBack_retires (out w) hn hgeneration] at hg
        cases hg
  constructor
  · intro k hk
    obtain ⟨c, hv, -⟩ := hc.held w k hk
    refine ⟨c, hv, ?_⟩
    rw [hsame k.handle (by rw [hv]; rfl), hk]
    exact record?_giveBack_self hv
  · intro g c hv hne
    rw [hsame g (by rw [hv]; rfl), record?_giveBack_of_ne hne, hv]

end Registry

/-! ## Runs -/

def Move.worker : Move → Nat
  | execute w _ | drop w => w

namespace Fleet

variable {δ : Type} [Driver δ] {f : Fleet δ}

theorem run_composed (d : δ) (names : NameTable) (moves : List Move) :
    ((start d names).run moves).server.registry.Composed := by
  induction moves using List.reverseRecOn with
  | nil => exact Registry.empty_composed
  | append_singleton moves m ih =>
    rw [run_concat]
    generalize (start d names).run moves = f at ih ⊢
    cases m with
    | drop w => exact ih.giveBack (f.out w)
    | execute w c =>
      have hx := (f.engine w).execute_executed c
      show ((f.engine w).execute c).2.server.registry.Composed
      generalize ((f.engine w).execute c).2 = e at hx
      cases hx with
      | display _ h => exact ih.handles h.registry
      | idle => exact ih
      | rendering hk _ => exact ih

theorem out_drops (f : Fleet δ) (ws : List Nat) (w : Nat) :
    (f.run (ws.map .drop)).out w = if w ∈ ws then none else f.out w := by
  induction ws generalizing f with
  | nil => simp [run]
  | cons v ws ih =>
    rw [List.map_cons]
    show ((f.move (.drop v)).run (ws.map .drop)).out w = _
    rw [ih]
    by_cases hv : w = v
    · subst hv
      simp [move, become, Engine.release]
    · simp [move, become, Engine.release, hv]

def Declines (f : Fleet δ) (w : Nat) (c : Command) (call : Call) : Prop :=
  Driver.bound f.server.driver call.entry = false ∨
    c ≠ .eglGetError ∧ (f.engine w).shortens c = false ∧
      (Driver.perform f.server.driver call).1 = call.failed

structure Disputed (f : Fleet δ) (w : Nat) (display : Display) (draw read : Surface)
    (context : Context) : Prop where
  bound : Driver.bound f.server.driver .eglMakeCurrent = true
  asked : (f.engine w).holds display draw read context = false
  accepted : (Driver.perform f.server.driver (.makeCurrent display draw read context)).1 = true
  refused : ∃ error, (f.server.registry.makeCurrent display draw read context (f.out w)).1 =
    .error error

/-- The worker that has run into a refusal has nothing; its record has taken everything back and
is settled, and what the others have is as it was. -/
structure Yields (f : Fleet δ) (w : Nat) (c : Command) : Prop where
  reply : ((f.engine w).execute c).1 = some (.bool false)
  out : (f.move (.execute w c)).out = update f.out w none
  own : ∀ k, f.out w = some k → ∃ record, f.server.registry.record? k.handle = some record ∧
    (f.move (.execute w c)).server.registry.record? k.handle =
      if record.doom.reaps then none else some (record.returned k.shadow).settled
  theirs : ∀ v k, v ≠ w → f.out v = some k →
    (f.move (.execute w c)).server.registry.record? k.handle =
      f.server.registry.record? k.handle

structure Confirms (f : Fleet δ) : Prop where
  /-- Without a driver that agrees, the reply says so, and records and workers are as before. -/
  declined : ∀ w c call, c.request? = some call → f.Declines w c call →
    ((f.engine w).execute c).1 = c.failureReply? ∧
      (f.move (.execute w c)).server.registry = f.server.registry ∧
      (f.move (.execute w c)).out = f.out
  confined : ∀ w c, c.registers = false →
    (f.move (.execute w c)).server.registry = f.server.registry
  disputed : ∀ w display draw read context, f.Disputed w display draw read context →
    f.Yields w (.makeCurrent display draw read context)
  /-- Once all engines that have something are dropped, every record is idle and unmarked. -/
  dropped : ∀ ws : List Nat, (∀ w k, f.out w = some k → w ∈ ws) →
    ∀ h c, (h, c) ∈ (f.run (ws.map .drop)).server.registry.records →
      c.active = false ∧ c.doom = {}

theorem move_declined (f : Fleet δ) {w : Nat} {c : Command} {call : Call}
    (hq : c.request? = some call) (h : f.Declines w c call) :
    ((f.engine w).execute c).1 = c.failureReply? ∧
      (f.move (.execute w c)).server.registry = f.server.registry ∧
      (f.move (.execute w c)).out = f.out := by
  have hsame : update f.out w (f.out w) = f.out := Function.update_eq_self w f.out
  show _ ∧ ((f.engine w).execute c).2.server.registry = _ ∧
    update f.out w ((f.engine w).execute c).2.current = _
  rcases h with hb | ⟨hn, hs, hf⟩
  · rw [Engine.execute_of_unbound (e := f.engine w) hq hb]
    exact ⟨rfl, rfl, hsame⟩
  · cases hb : Driver.bound f.server.driver call.entry with
    | false =>
      rw [Engine.execute_of_unbound (e := f.engine w) hq hb]
      exact ⟨rfl, rfl, hsame⟩
    | true =>
      rw [Engine.execute_of_failed (e := f.engine w) hq hn hs hb hf]
      exact ⟨rfl, rfl, hsame⟩

theorem move_disputed (hc : Custody f.server.registry f.out) {w : Nat} {display : Display}
    {draw read : Surface} {context : Context} (h : f.Disputed w display draw read context) :
    f.Yields w (.makeCurrent display draw read context) := by
  obtain ⟨error, hrefused⟩ := h.refused
  have hmade : f.server.registry.makeCurrent display draw read context (f.out w) =
      (.error error, (f.server.registry.makeCurrent display draw read context (f.out w)).2) :=
    Prod.ext hrefused rfl
  obtain ⟨hreply, hregistry, hcurrent⟩ := Engine.makeCurrent_of_refused (e := f.engine w)
    h.asked h.bound h.accepted hmade
  obtain ⟨hown, hothers⟩ := hc.settled_of_error hmade
  have hexec : (f.engine w).execute (.makeCurrent display draw read context) =
      Engine.replying .bool ((f.engine w).makeCurrent display draw read context) := rfl
  have hserver : (f.move (.execute w (.makeCurrent display draw read context))).server =
      ((f.engine w).makeCurrent display draw read context).2.server := rfl
  constructor
  case reply => rw [hexec, Engine.replying, hreply]
  case out =>
    show update f.out w ((f.engine w).makeCurrent display draw read context).2.current = _
    rw [hcurrent]
  case own =>
    intro k hk
    obtain ⟨record, hv, hv'⟩ := hown k hk
    refine ⟨record, hv, ?_⟩
    rw [hserver, hregistry, hv', ContextRecord.returned_outcome]
  case theirs =>
    intro v k hvw hk
    obtain ⟨record, hv, -⟩ := hc.held v k hk
    rw [hserver, hregistry, hv]
    exact hothers k.handle record hv fun own hown he => hvw (hc.apart v w k own hk hown he)

/-- In every run of any number of engines of one server, for every command that may come next. -/
theorem run_confirms (d : δ) (names : NameTable) (moves : List Move) :
    ((start d names).run moves).Confirms := by
  constructor
  case declined => exact fun w c call hq h => move_declined _ hq h
  case confined =>
    exact fun w c hc => (((start d names).run moves).engine w).registry_execute hc
  case disputed =>
    exact fun w _ _ _ _ h => move_disputed ((start_housed d names).run moves).custody h
  case dropped =>
    intro ws hws h c hmem
    have hrun : ((start d names).run moves).run (ws.map .drop) =
        (start d names).run (moves ++ ws.map .drop) := (List.foldl_append ..).symm
    have hout : ∀ w, (((start d names).run moves).run (ws.map .drop)).out w = none := by
      intro w
      rw [out_drops]
      split
      · rfl
      · next hw =>
        cases hk : ((start d names).run moves).out w with
        | none => rfl
        | some k => exact absurd (hws w k hk) hw
    rw [hrun] at hmem hout
    exact (run_composed d names _).idle_of_unheld ((start_housed d names).run _).custody hout hmem

theorem worker_of_out (d : δ) (names : NameTable) {moves : List Move} {w : Nat} {k : Current}
    (hk : ((start d names).run moves).out w = some k) : w ∈ moves.map Move.worker := by
  induction moves using List.reverseRecOn generalizing k with
  | nil => cases hk
  | append_singleton moves m ih =>
    rw [List.map_append, List.mem_append]
    by_cases hw : w = m.worker
    · exact .inr (by simp [hw])
    · rw [run_concat] at hk
      refine .inl (ih (k := k) ?_)
      rw [← hk]
      cases m with
      | execute v c | drop v => exact (Function.update_of_ne hw _ _).symm

/-- Two workers have a context each, of one of which the surface is destroyed. -/
def contested : List Move :=
  [.execute 1 (.makeCurrent ⟨1⟩ ⟨3⟩ ⟨3⟩ ⟨7⟩), .execute 0 (.makeCurrent ⟨1⟩ ⟨4⟩ ⟨4⟩ ⟨8⟩),
    .execute 0 (.destroySurface ⟨1⟩ ⟨4⟩)]

/-- The first worker asks for what the second has. It loses what it had, which then is without
its surface, and once both are gone nothing is marked. -/
theorem run_confirms_of_contested :
    ((start ({} : Recorder) {}).run contested).Disputed 0 ⟨1⟩ ⟨3⟩ ⟨3⟩ ⟨7⟩ ∧
      ((start ({} : Recorder) {}).run contested).Yields 0 (.makeCurrent ⟨1⟩ ⟨3⟩ ⟨3⟩ ⟨7⟩) ∧
      ∀ h c, (h, c) ∈ (((start ({} : Recorder) {}).run contested).run
        ((contested.map Move.worker).map .drop)).server.registry.records →
          c.active = false ∧ c.doom = {} := by
  have hdisputed : ((start ({} : Recorder) {}).run contested).Disputed 0 ⟨1⟩ ⟨3⟩ ⟨3⟩ ⟨7⟩ :=
    ⟨by decide +kernel, by decide +kernel, by decide +kernel, .contextBusy ⟨1⟩ ⟨7⟩, rfl⟩
  have hall := run_confirms ({} : Recorder) {} contested
  exact ⟨hdisputed, hall.disputed 0 _ _ _ _ hdisputed,
    hall.dropped _ fun _ _ hk => worker_of_out _ _ hk⟩

end Fleet

end RenderRelay
