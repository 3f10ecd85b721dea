import RenderRelay.Proofs.Engine.Frames

/-!
# Kept locations

A location is answered from the cache of a context only if the driver told it
to that context, and the context has neither linked nor deleted the program
since. What other contexts do to the program, the cache does not see.
-/

set_option autoImplicit false

namespace RenderRelay

def Call.relinks (program : UInt32) : Call → Bool
  | linkProgram p | deleteProgram p => p = program
  | _ => false

namespace Command

def asked? : Command → Option (LocationKind × UInt32 × String)
  | getAttribLocation program name => some (.attrib, program, name)
  | getUniformLocation program name => some (.uniform, program, name)
  | _ => none

end Command

namespace Scope

variable {δ : Type} [Driver δ] {s t : Scope δ} {c : Command} {entry : EntryPoint}

/-- A location kept in `t` was kept in `s`, and the program not touched, or was just told. -/
structure Relocates (s t : Scope δ) (calls : List Call) : Prop where
  driver : t.driver = Driver.after s.driver calls
  kept : ∀ program kind name location,
    t.shadow.locations.lookup program kind name = some location →
      (s.shadow.locations.lookup program kind name = some location ∧
        ∀ call ∈ calls, call.relinks program = false) ∨
      (calls = [.location kind program name] ∧
        (Driver.perform s.driver (.location kind program name)).1 = location)

theorem relocates_of_same {calls : List Call} (hd : t.driver = Driver.after s.driver calls)
    (hl : t.shadow.locations = s.shadow.locations)
    (hc : ∀ call ∈ calls, ∀ program, call.relinks program = false) : s.Relocates t calls :=
  ⟨hd, fun program _ _ _ h => .inl ⟨hl ▸ h, fun call hcall => hc call hcall program⟩⟩

theorem relinks_of_makes {call : Call} (hm : Command.Makes entry call)
    (he : entry.relocates = false) (program : UInt32) : call.relinks program = false := by
  cases call with
  | linkProgram p | deleteProgram p =>
    rcases hm with rfl | hm | ⟨cls, -, hm⟩
    · cases he
    · cases hm
    · cases hm
  | _ => rfl

theorem location_relocates (s : Scope δ) (kind : LocationKind) (program : UInt32)
    (name : String) : ∃ calls, s.Relocates (s.location kind program name).2 calls := by
  unfold location
  split
  · exact ⟨[], relocates_of_same rfl rfl (by simp)⟩
  · dsimp only
    split
    · refine ⟨[.location kind program name], rfl, fun p k n location h => ?_⟩
      have hstore : (s.shadow.locations.store program kind name
          (Driver.perform s.driver (.location kind program name)).1).lookup p k n =
            some location := h
      rw [LocationCache.lookup_store] at hstore
      split at hstore
      · next hkey =>
        obtain ⟨rfl, rfl, rfl⟩ := hkey
        exact .inr ⟨rfl, Option.some.inj hstore⟩
      · exact .inl ⟨hstore, by simp [Call.relinks]⟩
    · exact ⟨[.location kind program name], relocates_of_same rfl rfl (by simp [Call.relinks])⟩

/-- Linking and deleting drop the locations of the program before the driver is told. -/
theorem dropLocations_relocates (s : Scope δ) {program : UInt32} {call : Call}
    (hc : ∀ p, p ≠ program → call.relinks p = false) :
    s.Relocates ((Plan.dropLocations program call).run s) [call] := by
  refine ⟨rfl, fun p kind name location h => ?_⟩
  have hdrop : (s.shadow.locations.invalidate program).lookup p kind name = some location := h
  rw [LocationCache.lookup_invalidate] at hdrop
  split at hdrop
  · cases hdrop
  · next hne => exact .inl ⟨hdrop, by simpa using hc p (Ne.symm hne)⟩

theorem enter_relocates (s : Scope δ) (hc : c.entry? = some entry) :
    ∃ calls, s.Relocates (s.enter entry c).2 calls := by
  by_cases he : entry.relocates = true
  · unfold enter
    split
    · cases c with
      | linkProgram program | deleteProgram program =>
        refine ⟨_, s.dropLocations_relocates fun p hp => ?_⟩
        simp [Call.relinks, Ne.symm hp]
      | getAttribLocation program name => exact s.location_relocates .attrib program name
      | getUniformLocation program name => exact s.location_relocates .uniform program name
      | _ => cases hc <;> cases he
    · have hl := drop_leaves .getIntegerv s c
      exact ⟨[], relocates_of_same hl.driver (hl.locations rfl) (by simp)⟩
  · have he : entry.relocates = false := by simpa using he
    obtain ⟨calls, hl⟩ := s.enter_leaves hc
    exact ⟨calls, relocates_of_same hl.driver (hl.locations he)
      fun call hcall => relinks_of_makes (hl.makes call hcall) he⟩

/-- A location query that makes no call is answered with the location kept. -/
theorem answered_of_elided (s : Scope δ) (hc : c.entry? = some entry) {kind : LocationKind}
    {program : UInt32} {name : String} (ha : c.asked? = some (kind, program, name))
    (hel : s.stats.callsElided < (s.enter entry c).2.stats.callsElided) :
    ∃ location, (s.enter entry c).1 = some (.int location) ∧
      s.shadow.locations.lookup program kind name = some location := by
  have hperform : s.perform c = replying .int (s.location kind program name) := by
    cases c <;> cases ha <;> rfl
  unfold enter at hel ⊢
  split at hel
  · next hb =>
    rw [if_pos hb, hperform]
    rw [hperform] at hel
    unfold location at hel ⊢
    cases hl : s.shadow.locations.lookup program kind name with
    | some location => exact ⟨location, rfl, rfl⟩
    | none =>
      simp only [hl, replying] at hel
      split at hel <;> exact absurd hel (Nat.lt_irrefl _)
  · rw [s.callsElided_drop c] at hel
    exact absurd hel (Nat.lt_irrefl _)

end Scope

section

variable {δ : Type} [Driver δ]

/-- The driver told the location to the context of the ledger, and the context has
neither linked nor deleted the program since. -/
def Told (ledger : List (Deed (Traced δ))) (kind : LocationKind) (program : UInt32)
    (name : String) (location : Int32) : Prop :=
  ∃ older d newer, ledger = older ++ d :: newer ∧
    d.calls = [.location kind program name] ∧
    (Driver.perform d.engine.server.driver (.location kind program name)).1 = location ∧
    ∀ call ∈ callsOf newer, call.relinks program = false

variable {ledger : List (Deed (Traced δ))} {kind : LocationKind} {program : UInt32}
  {name : String} {location : Int32}

theorem Told.concat (h : Told ledger kind program name location) {d : Deed (Traced δ)}
    (hd : ∀ call ∈ d.calls, call.relinks program = false) :
    Told (ledger ++ [d]) kind program name location := by
  obtain ⟨older, a, newer, rfl, hcalls, htold, hnewer⟩ := h
  refine ⟨older, a, newer ++ [d], by simp, hcalls, htold, fun call hcall => ?_⟩
  rw [callsOf_concat] at hcall
  exact (List.mem_append.mp hcall).elim (hnewer call) (hd call)

theorem told_last {d : Deed (Traced δ)} (hcalls : d.calls = [.location kind program name])
    (htold : (Driver.perform d.engine.server.driver (.location kind program name)).1 = location) :
    Told (ledger ++ [d]) kind program name location :=
  ⟨ledger, d, [], rfl, hcalls, htold, by simp [callsOf]⟩

structure LocationsTold (ledger : List (Deed (Traced δ))) (shadow : Shadow) : Prop where
  kept : ∀ program kind name location,
    shadow.locations.lookup program kind name = some location →
      Told ledger kind program name location
  answered : ∀ before d later, ledger = before ++ d :: later →
    ∀ kind program name, d.command.asked? = some (kind, program, name) → d.Elided →
      ∃ location, d.reply = some (.int location) ∧ Told before kind program name location

theorem locationsTold_keeping :
    Fleet.Keeping (fun _ : Traced δ => True) fun ds shadow => LocationsTold ds shadow where
  fresh := ⟨fun _ _ _ _ h => (by cases h), fun before _ _ he => by simp at he⟩
  perform _ _ _ := trivial
  enter ds e k c entry hk hc _ ht := by
    obtain ⟨calls, hr⟩ := (e.scope k).enter_relocates hc
    have hcalls : Deed.calls ⟨e, c⟩ = calls := Deed.calls_of_enter hk hc hr.driver
    refine ⟨trivial, fun program kind name location hl => ?_, ?_⟩
    · rcases hr.kept program kind name location hl with ⟨hl, hnone⟩ | ⟨hone, htold⟩
      · exact (ht.kept program kind name location hl).concat (hcalls ▸ hnone)
      · exact told_last (hcalls.trans hone) htold
    · refine forall_split_concat.mpr ⟨ht.answered, fun kind program name ha hel => ?_⟩
      rw [Deed.Elided, Deed.after_of_enter hk hc] at hel
      obtain ⟨location, hreply, hl⟩ := (e.scope k).answered_of_elided hc ha hel
      exact ⟨location, (Deed.reply_of_enter hk hc).trans hreply,
        ht.kept program kind name location hl⟩

end

namespace Fleet

variable {δ : Type} [Driver δ]

/-- After every run of any number of engines, a location that was answered from
the cache had been told by the driver to the same context, and the context had
neither linked nor deleted the program in between. -/
theorem run_told (d : δ) (names : NameTable) (moves : List Move) {h : Handle}
    {before later : List (Deed (Traced δ))} {x : Deed (Traced δ)}
    (hx : ((start (⟨d, []⟩ : Traced δ) names).run moves).ledger h = before ++ x :: later)
    {kind : LocationKind} {program : UInt32} {name : String}
    (ha : x.command.asked? = some (kind, program, name)) (hel : x.Elided) :
    ∃ location, x.reply = some (.int location) ∧ Told before kind program name location := by
  have hk := (start_kept (d := (⟨d, []⟩ : Traced δ)) trivial names).run locationsTold_keeping moves
  obtain ⟨shadow, -, ht⟩ := hk.shared.of_ledger (h := h) (by simp [hx])
  exact ht.answered before x later hx kind program name ha hel

def relinking : List Move :=
  [.execute 0 (.makeCurrent ⟨1⟩ ⟨3⟩ ⟨3⟩ ⟨7⟩), .execute 0 (.getUniformLocation 3 "u_mvp"),
    .execute 0 (.linkProgram 3), .execute 0 (.getUniformLocation 3 "u_mvp"),
    .execute 0 (.getUniformLocation 3 "u_mvp")]

/-- The driver is asked a second time, but not a third. -/
theorem run_told_of_relinking :
    ∃ before x, ((start (⟨{}, []⟩ : Traced Recorder) {}).run relinking).ledger ⟨0, 0⟩ =
        before ++ [x] ∧ x.Elided ∧ callsOf before = [.location .uniform 3 "u_mvp",
          .linkProgram 3, .location .uniform 3 "u_mvp"] ∧
      ∃ location, x.reply = some (.int location) ∧ Told before .uniform 3 "u_mvp" location := by
  have hlast : ((((start (⟨{}, []⟩ : Traced Recorder) {}).run relinking).ledger ⟨0, 0⟩).getLast?.map
      fun x => (x.command, decide x.Elided)) = some (.getUniformLocation 3 "u_mvp", true) := by
    decide +kernel
  have hcalls : callsOf (((start (⟨{}, []⟩ : Traced Recorder) {}).run relinking).ledger
      ⟨0, 0⟩).dropLast = [.location .uniform 3 "u_mvp", .linkProgram 3,
        .location .uniform 3 "u_mvp"] := by
    decide +kernel
  obtain ⟨x, hsplit, hfacts⟩ := exists_last hlast
  simp only [Prod.mk.injEq, decide_eq_true_eq] at hfacts
  obtain ⟨hcommand, hel⟩ := hfacts
  have ha : x.command.asked? = some (.uniform, 3, "u_mvp") := by
    rw [hcommand]
    rfl
  exact ⟨_, x, hsplit, hel, hcalls, run_told ({} : Recorder) {} relinking hsplit ha hel⟩

def relinkingElsewhere : List Move :=
  [.execute 0 (.makeCurrent ⟨1⟩ ⟨3⟩ ⟨3⟩ ⟨7⟩), .execute 0 (.getUniformLocation 3 "u_mvp"),
    .execute 1 (.makeCurrent ⟨1⟩ ⟨4⟩ ⟨4⟩ ⟨8⟩), .execute 1 (.linkProgram 3),
    .execute 0 (.getUniformLocation 3 "u_mvp")]

/-- The location is answered from the cache all the same, though the program was
linked since the driver was last asked for it. -/
theorem stale_of_relinkingElsewhere :
    ∃ before x, ((start (⟨{}, []⟩ : Traced Recorder) {}).run relinkingElsewhere).ledger ⟨0, 0⟩ =
        before ++ [x] ∧ x.command = .getUniformLocation 3 "u_mvp" ∧ x.Elided ∧
      ∀ older newer, x.engine.server.driver.calls =
        older ++ .location .uniform 3 "u_mvp" :: newer → .linkProgram 3 ∈ newer := by
  have hlast : ((((start (⟨{}, []⟩ : Traced Recorder) {}).run relinkingElsewhere).ledger
      ⟨0, 0⟩).getLast?.map fun x => (x.command, decide x.Elided, x.engine.server.driver.calls)) =
        some (.getUniformLocation 3 "u_mvp", true, [.makeCurrent ⟨1⟩ ⟨3⟩ ⟨3⟩ ⟨7⟩,
          .location .uniform 3 "u_mvp", .makeCurrent ⟨1⟩ ⟨4⟩ ⟨4⟩ ⟨8⟩, .linkProgram 3]) := by
    decide +kernel
  obtain ⟨x, hsplit, hfacts⟩ := exists_last hlast
  simp only [Prod.mk.injEq, decide_eq_true_eq] at hfacts
  obtain ⟨hcommand, hel, hcalls⟩ := hfacts
  refine ⟨_, x, hsplit, hcommand, hel, ?_⟩
  intro older newer hlog
  rw [hcalls] at hlog
  -- The location was asked for once, just before the other context came up.
  rcases older with _ | ⟨_, _ | ⟨_, _ | ⟨_, _ | ⟨_, older⟩⟩⟩⟩
  · cases hlog
  · cases hlog
    exact .tail _ (.head _)
  · cases hlog
  · cases hlog
  · simp at hlog

end Fleet

end RenderRelay
