import Mathlib.Data.List.DropRight
import RenderRelay.Proofs.Engine.Frames

/-!
# Error queries

What an error query answers is settled by the commands that its context was
given since the query before. If one of them made a call that may fail in the
driver, the driver answers, and otherwise the first error that one of them
raised. Other contexts, and the workers on which the context was current in
between, do not matter.
-/

set_option autoImplicit false

namespace RenderRelay

def firstError : List Enum → Enum
  | [] => GL.noError
  | e :: es => if e = GL.noError then firstError es else e

theorem firstError_append (es fs : List Enum) :
    firstError (es ++ fs) = firstError (firstError es :: fs) := by
  induction es with
  | nil => rfl
  | cons e es ih =>
    simp only [List.cons_append, firstError]
    split
    · exact ih
    · rfl

theorem firstError_singleton (e : Enum) : firstError [e] = e := by
  simp only [firstError]
  split
  · next he => exact he.symm
  · rfl

/-! Acts -/

def Act.raised : Act → Enum
  | reject error => error
  | _ => GL.noError

namespace Scope

variable {δ : Type} [Driver δ] {s : Scope δ} {c : Command} {entry : EntryPoint}

omit [Driver δ] in
theorem error_reject_eq (s : Scope δ) (error : Enum) :
    (s.reject error).shadow.error = firstError [s.shadow.error, error] := by
  show (s.shadow.recordError error).error = _
  unfold Shadow.recordError Shadow.acceptsError firstError
  simp only [beq_iff_eq, firstError_singleton]
  split <;> rfl

theorem error_act {a : Act} (ha : c.Allows entry a) :
    (s.act a).shadow.error = firstError [s.shadow.error, a.raised] := by
  have hnone : firstError [s.shadow.error, GL.noError] = s.shadow.error := by
    simp only [firstError, if_true]
    split
    · next he => exact he.symm
    · rfl
  cases a with
  | reject error => exact s.error_reject_eq error
  | note change => exact (ha s.shadow).error.trans hnone.symm
  | _ => exact hnone.symm

theorem error_acts {as : List Act} (has : ∀ a ∈ as, c.Allows entry a) :
    (s.acts as).shadow.error = firstError (s.shadow.error :: as.map Act.raised) := by
  induction as generalizing s with
  | nil => exact (firstError_singleton _).symm
  | cons a as ih =>
    obtain ⟨ha, has⟩ := List.forall_mem_cons.mp has
    refine (ih (s := s.act a) has).trans ?_
    rw [error_act ha, ← firstError_append]
    rfl

theorem driverMayKnow_act {a : Act} (ha : c.Allows entry a) :
    (s.act a).shadow.driverMayKnow = (s.shadow.driverMayKnow || a.call?.any c.risks) := by
  cases a with
  | reject error =>
    show (s.shadow.recordError error).driverMayKnow = _
    unfold Shadow.recordError
    split <;> simp [Act.call?]
  | forward call => simp [act, forward, Act.call?, ha.2]
  | submit call => simp [act, submit, forward, Act.call?, ha.2]
  | note change => exact (ha s.shadow).driverMayKnow.trans (Bool.or_false _).symm
  | _ => simp [act, elide, Act.call?]

theorem driverMayKnow_acts {as : List Act} (has : ∀ a ∈ as, c.Allows entry a) :
    (s.acts as).shadow.driverMayKnow =
      (s.shadow.driverMayKnow || (as.filterMap Act.call?).any c.risks) := by
  induction as generalizing s with
  | nil => simp [acts]
  | cons a as ih =>
    obtain ⟨ha, has⟩ := List.forall_mem_cons.mp has
    refine (ih (s := s.act a) has).trans ?_
    rw [driverMayKnow_act ha, Bool.or_assoc]
    cases hcall : a.call? <;> simp [hcall]

theorem driverErrorQueries_acts (s : Scope δ) (as : List Act) :
    (s.acts as).stats.driverErrorQueries = s.stats.driverErrorQueries := by
  induction as generalizing s with
  | nil => rfl
  | cons a as ih =>
    refine (ih (s.act a)).trans ?_
    cases a with
    | reject error =>
      simp only [act, reject]
      split <;> rfl
    | _ => rfl

/-! Commands -/

structure Raises (c : Command) (s t : Scope δ) (raised : Enum) (calls : List Call) : Prop where
  driver : t.driver = Driver.after s.driver calls
  error : t.shadow.error = firstError [s.shadow.error, raised]
  driverMayKnow : t.shadow.driverMayKnow = (s.shadow.driverMayKnow || calls.any c.risks)
  queries : t.stats.driverErrorQueries = s.stats.driverErrorQueries
  unasked : .getError ∉ calls

theorem eq_getError_of_entry (hc : c.entry? = some .getError) : c = .getError := by
  cases c <;> first | rfl | cases hc

/-- The error that is raised is the one that is left where none was pending. -/
theorem enter_raises (s : Scope δ) (hc : c.entry? = some entry) (hn : c ≠ .getError) :
    ∃ calls, Raises c s (s.enter entry c).2
      ((s.owing GL.noError).enter entry c).2.shadow.error calls := by
  obtain ⟨as, has, hdo⟩ := enter_does s hc hn
  have hs : (s.enter entry c).2 = s.acts as := hdo s.shadow.error
  have hclean : ((s.owing GL.noError).enter entry c).2 = (s.owing GL.noError).acts as :=
    hdo GL.noError
  have hleaves := acts_leave (s := s) has
  refine ⟨as.filterMap Act.call?, ?_⟩
  rw [hs, hclean]
  constructor
  case driver => exact hleaves.driver
  case error =>
    rw [error_acts has, error_acts has]
    show _ = firstError [_, firstError (as.map Act.raised)]
    rw [firstError, firstError, firstError_singleton]
  case driverMayKnow => exact driverMayKnow_acts has
  case queries => exact driverErrorQueries_acts s as
  case unasked =>
    intro hmem
    rcases hleaves.makes _ hmem with he | he | ⟨cls, -, he⟩
    · exact hn (eq_getError_of_entry (hc.trans (congrArg some he.symm)))
    · cases he
    · cases he

structure Asks (s : Scope δ) (reply : Option Reply) (t : Scope δ) : Prop where
  reply : reply = some (.enum (if s.shadow.driverMayKnow then
    (Driver.perform s.driver .getError).1 else s.shadow.error))
  driver : t.driver = Driver.after s.driver (if s.shadow.driverMayKnow then [.getError] else [])
  error : t.shadow.error = GL.noError
  driverMayKnow : t.shadow.driverMayKnow = false
  queries : t.stats.driverErrorQueries =
    s.stats.driverErrorQueries + if s.shadow.driverMayKnow then 1 else 0

theorem enter_asks (s : Scope δ) (hb : Driver.bound s.driver .getError = true) :
    s.Asks (s.enter .getError .getError).1 (s.enter .getError .getError).2 := by
  have henter : s.enter .getError .getError = replying .enum s.getError := if_pos hb
  rw [henter]
  have hknow : s.shadow.clearError.driverMayKnow = s.shadow.driverMayKnow := rfl
  unfold getError
  simp only [hknow]
  cases hk : s.shadow.driverMayKnow with
  | true => exact ⟨by rw [if_pos hk]; rfl, by rw [if_pos hk]; rfl, rfl, rfl, by rw [if_pos hk]; rfl⟩
  | false =>
    have hk' : ¬ s.shadow.driverMayKnow = true := by simp [hk]
    constructor
    case reply => rw [if_neg hk']; rfl
    case driver => rw [if_neg hk']; rfl
    case error => rfl
    case driverMayKnow => exact hk
    case queries => rw [if_neg hk']; rfl

end Scope

/-! Ledgers -/

def Engine.clean {δ : Type} (e : Engine δ) : Engine δ :=
  { e with current := e.current.map fun k => { k with shadow := k.shadow.clearError } }

section

variable {δ : Type} [Driver δ]

namespace Deed

def raised (d : Deed δ) : Enum :=
  ((d.engine.clean.execute d.command).2.current.map (·.shadow.error)).getD GL.noError

theorem raised_of_enter {e : Engine δ} {k : Current} (hk : e.current = some k) {c : Command}
    {entry : EntryPoint} (hc : c.entry? = some entry) :
    raised ⟨e, c⟩ = (((e.scope k).owing GL.noError).enter entry c).2.shadow.error := by
  have hclean : e.clean.current = some { k with shadow := k.shadow.clearError } := by
    simp [Engine.clean, hk]
  simp only [raised, Engine.execute_rendering hclean hc]
  rfl

def risky (d : Deed (Traced δ)) : Bool := d.calls.any d.command.risks

end Deed

omit [Driver δ] in
def sinceQuery (ledger : List (Deed δ)) : List (Deed δ) :=
  ledger.rtakeWhile (·.command ≠ .getError)

structure Deed.Settles (ledger : List (Deed (Traced δ))) (d : Deed (Traced δ)) : Prop where
  /-- The driver answers if it may know of an error, and else the first one raised counts. -/
  reply : d.command = .getError → d.reply = some (.enum (if (sinceQuery ledger).any risky then
    (Driver.perform d.engine.server.driver .getError).1
    else firstError ((sinceQuery ledger).map raised)))
  /-- Nothing is left for the next query. -/
  cleared : d.command = .getError → ∃ k, d.after.current = some k ∧
    k.shadow.error = GL.noError ∧ k.shadow.driverMayKnow = false
  /-- The driver is asked in just that case. -/
  calls : d.command = .getError →
    d.calls = if (sinceQuery ledger).any risky then [.getError] else []
  unasked : d.command ≠ .getError → .getError ∉ d.calls
  queries : d.after.server.stats.driverErrorQueries =
    d.engine.server.stats.driverErrorQueries + d.calls.count .getError

/-- What is pending is what the commands since the last query have raised. -/
structure Owes (ledger : List (Deed (Traced δ))) (shadow : Shadow) : Prop where
  error : shadow.error = firstError ((sinceQuery ledger).map Deed.raised)
  driverMayKnow : shadow.driverMayKnow = (sinceQuery ledger).any Deed.risky
  settled : ∀ before d later, ledger = before ++ d :: later → Deed.Settles before d

theorem owes_nil : Owes ([] : List (Deed (Traced δ))) .fresh :=
  ⟨rfl, rfl, fun before _ _ he => by simp at he⟩

variable {e : Engine (Traced δ)} {k : Current} {c : Command} {entry : EntryPoint}
  {ledger : List (Deed (Traced δ))}

theorem Owes.raise (ho : Owes ledger k.shadow) (hk : e.current = some k)
    (hc : c.entry? = some entry) (hn : c ≠ .getError) :
    Owes (ledger ++ [⟨e, c⟩]) ((e.scope k).enter entry c).2.shadow := by
  obtain ⟨calls, hr⟩ := (e.scope k).enter_raises hc hn
  have hcalls : Deed.calls ⟨e, c⟩ = calls := Deed.calls_of_enter hk hc hr.driver
  have hraised := Deed.raised_of_enter hk hc
  have hsince : sinceQuery (ledger ++ [⟨e, c⟩]) = sinceQuery ledger ++ [⟨e, c⟩] :=
    List.rtakeWhile_concat_pos _ _ _ (by simpa using hn)
  constructor
  case error =>
    rw [hsince, hr.error, List.map_append, firstError_append, ← ho.error]
    show _ = firstError [_, Deed.raised ⟨e, c⟩]
    rw [hraised]
    rfl
  case driverMayKnow =>
    rw [hsince, hr.driverMayKnow, List.any_append, ← ho.driverMayKnow, ← hcalls]
    simp [Deed.risky, Engine.scope]
  case settled =>
    refine forall_split_concat.mpr ⟨ho.settled, ?_⟩
    constructor
    case unasked => exact fun _ => hcalls ▸ hr.unasked
    case queries =>
      rw [hcalls, List.count_eq_zero.mpr hr.unasked, Deed.after_of_enter hk hc]
      exact hr.queries
    all_goals exact fun h => absurd h hn

theorem Owes.ask (ho : Owes ledger k.shadow) (hk : e.current = some k)
    (hb : Driver.bound e.server.driver .getError = true) :
    Owes (ledger ++ [⟨e, .getError⟩]) ((e.scope k).enter .getError .getError).2.shadow := by
  have ha := (e.scope k).enter_asks hb
  have hc : Command.getError.entry? = some .getError := rfl
  have hreply : Deed.reply ⟨e, .getError⟩ = _ := (Deed.reply_of_enter hk hc).trans ha.reply
  have hcalls : Deed.calls ⟨e, .getError⟩ = _ := Deed.calls_of_enter hk hc ha.driver
  have hafter := Deed.after_of_enter hk hc
  have hsince : sinceQuery (ledger ++ [⟨e, .getError⟩]) = [] :=
    List.rtakeWhile_concat_neg _ _ _ (by simp)
  have hknow : (e.scope k).shadow.driverMayKnow = (sinceQuery ledger).any Deed.risky :=
    ho.driverMayKnow
  have herror : (e.scope k).shadow.error = firstError ((sinceQuery ledger).map Deed.raised) :=
    ho.error
  constructor
  case error => rw [hsince, ha.error]; rfl
  case driverMayKnow => rw [hsince, ha.driverMayKnow]; rfl
  case settled =>
    refine forall_split_concat.mpr ⟨ho.settled, ?_⟩
    constructor
    case reply =>
      intro _
      rw [hreply, hknow, herror]
      rfl
    case cleared => exact fun _ => ⟨_, congrArg Engine.current hafter, ha.error, ha.driverMayKnow⟩
    case calls => exact fun _ => hcalls.trans (by rw [hknow])
    case unasked => exact fun h => absurd rfl h
    case queries =>
      rw [hcalls, hafter]
      refine ha.queries.trans ?_
      cases (e.scope k).shadow.driverMayKnow <;> rfl

structure Counted (m : Commons (Traced δ)) : Prop where
  bound : ∀ calls, Driver.bound (Driver.after m.driver calls) .getError = true
  queries : m.stats.driverErrorQueries = m.driver.calls.count .getError

theorem Counted.of_calls {m m' : Commons (Traced δ)} (hm : Counted m) {calls : List Call}
    (hd : m'.driver = Driver.after m.driver calls)
    (hq : m'.stats.driverErrorQueries = m.stats.driverErrorQueries + calls.count .getError) :
    Counted m' where
  bound more := by
    rw [hd, ← Driver.after_append]
    exact hm.bound (calls ++ more)
  queries := by rw [hq, hd, Traced.calls_after, List.count_append, hm.queries]

theorem owes_sharing :
    Fleet.Sharing (fun _ _ => True) (Counted (δ := δ)) fun _ ds shadow => Owes ds shadow where
  fresh _ _ := owes_nil
  manage m m' hm hi := by
    refine ⟨?_, fun _ _ h => h⟩
    cases hm with
    | rest => exact hi
    | elide => exact ⟨hi.bound, hi.queries⟩
    | call c hc =>
      have hne : Call.getError ∉ [c] := by
        intro hmem
        rw [← List.mem_singleton.mp hmem] at hc
        cases hc
      have hd : (Driver.perform m.driver c).2 = Driver.after m.driver [c] := rfl
      refine hi.of_calls hd ?_
      rw [List.count_eq_zero.mpr hne]
      rfl
  enter ds e k c entry hk hc _ hi ho := by
    by_cases hn : c = .getError
    · subst hn
      cases hc
      have ha := (e.scope k).enter_asks (hi.bound [])
      refine ⟨hi.of_calls ha.driver (ha.queries.trans ?_), ho.ask hk (hi.bound []), fun _ _ h => h⟩
      cases (e.scope k).shadow.driverMayKnow <;> rfl
    · obtain ⟨calls, hr⟩ := (e.scope k).enter_raises hc hn
      refine ⟨hi.of_calls hr.driver (hr.queries.trans ?_), ho.raise hk hc hn, fun _ _ h => h⟩
      rw [List.count_eq_zero.mpr hr.unasked]
      rfl

end

namespace Fleet

variable {δ : Type} [Driver δ]

/-- After every run of any number of engines on a driver with an error query, each
query was answered by the driver if a command that its context was given since the
query before, or since the context was made, made a call that may fail there, and
else with the first error that one of these commands raised, or with none. The
driver was asked in the first case only, and the counter counts just that. -/
theorem run_settled (d : δ) (names : NameTable)
    (hb : ∀ calls, Driver.bound (Driver.after d calls) .getError = true) (moves : List Move) :
    (∀ h before x later, ((start (⟨d, []⟩ : Traced δ) names).run moves).ledger h =
      before ++ x :: later → Deed.Settles before x) ∧
    ((start (⟨d, []⟩ : Traced δ) names).run moves).server.stats.driverErrorQueries =
      ((start (⟨d, []⟩ : Traced δ) names).run moves).server.driver.calls.count .getError := by
  have hcounted : Counted (⟨⟨d, []⟩, names, {}⟩ : Commons (Traced δ)) := by
    refine ⟨fun calls => ?_, rfl⟩
    rw [Traced.bound_after]
    exact hb calls
  have hr := (start_shared hcounted).run owes_sharing (heeds_of_forall (fun _ _ => trivial) _ moves)
  refine ⟨fun h before x later hx => ?_, hr.commons.queries⟩
  obtain ⟨shadow, -, ho⟩ := hr.of_ledger (h := h) (by simp [hx])
  exact ho.settled before x later hx

/-- Two errors in a context that moves to another worker, and a call that may fail. -/
def querying : List Move :=
  [.execute 0 (.makeCurrent ⟨1⟩ ⟨3⟩ ⟨3⟩ ⟨7⟩), .execute 0 (.cullFace 1),
    .execute 0 (.pixelStorei GL.packAlignment 3), .execute 0 (.makeCurrent ⟨1⟩ ⟨4⟩ ⟨4⟩ ⟨8⟩),
    .execute 0 .flush, .execute 1 (.makeCurrent ⟨1⟩ ⟨3⟩ ⟨3⟩ ⟨7⟩), .execute 1 .getError,
    .execute 1 .flush, .execute 1 .getError]

def faulty : Recorder := { errors := [GL.invalidOperation] }

/-- The first error counts as long as nothing was submitted in the context itself, and the
driver's once it was. -/
theorem run_settled_of_querying :
    ((((start (⟨faulty, []⟩ : Traced Recorder) {}).run querying).ledger ⟨0, 0⟩).map
        fun x => (x.command, x.reply, x.calls)) =
      [(.cullFace 1, none, []), (.pixelStorei GL.packAlignment 3, none, []),
        (.getError, some (.enum GL.invalidEnum), []), (.flush, none, [.flush]),
        (.getError, some (.enum GL.invalidOperation), [.getError])] ∧
    (∀ h before x later, ((start (⟨faulty, []⟩ : Traced Recorder) {}).run querying).ledger h =
      before ++ x :: later → Deed.Settles before x) ∧
    ((start (⟨faulty, []⟩ : Traced Recorder) {}).run querying).server.stats.driverErrorQueries =
      ((start (⟨faulty, []⟩ : Traced Recorder) {}).run querying).server.driver.calls.count
        .getError := by
  have hbound : ∀ calls, Driver.bound (Driver.after faulty calls) .getError = true := by
    intro calls
    rw [Recorder.bound_after]
    decide
  exact ⟨by decide +kernel, run_settled faulty {} hbound querying⟩

end Fleet

end RenderRelay
