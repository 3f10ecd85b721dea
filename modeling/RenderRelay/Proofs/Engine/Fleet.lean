import Mathlib.Data.List.Basic
import RenderRelay.Proofs.Engine.Management
import RenderRelay.Proofs.Registry.Custody

/-!
# Fleets

Any number of engines on one server, given commands in any order. A command is
one move: nothing of another comes between its parts, though engines that run
side by side share the driver, and look names up and enter them under separate
locks of the name table. What is said of runs is said of moments between whole
commands.

Beside each record stands its ledger: the rendering commands that engines were
given while they held the record, since it was made. Whatever holds of an empty
ledger and the fresh shadow, and is kept by every rendering command, whether it
is given to the record or to another, holds of the ledger and the shadow of
every record.
-/

set_option autoImplicit false

namespace RenderRelay

open Function (update)
open Registry (Custody Passes ShadowAt)

/-! Commands of the display system -/

theorem Registry.Handles.passes {r r' : Registry} {out : Nat → Option Current} {w : Nat}
    {next : Option Current} (hh : r.Handles (out w) r' next) (hc : Custody r out) :
    Passes r out r' (update out w next) := by
  have hsame : update out w (out w) = out := Function.update_eq_self w out
  cases hh with
  | rest => exact hsame.symm ▸ (Registry.leaves_refl r).passes hc
  | revive display => exact hsame.symm ▸ (Registry.leaves_initDisplay r display).passes hc
  | mark doomed => exact hsame.symm ▸ (Registry.leaves_mark r doomed).passes hc
  | release => exact hc.passes_giveBack w
  | make display draw read context => exact hc.passes_makeCurrent w display draw read context rfl
  | refuse display draw read context =>
    exact (hc.passes_makeCurrent w display draw read context rfl).giveBack

namespace Engine

variable {δ : Type} [Driver δ]

variable {e : Engine δ}

/-- A rendering command works on the scope of the current context. -/
theorem execute_rendering {k : Current} (hk : e.current = some k) {c : Command}
    {entry : EntryPoint} (hc : c.entry? = some entry) :
    e.execute c =
      (((e.scope k).enter entry c).1, e.leave k ((e.scope k).enter entry c).2) := by
  unfold execute
  simp only [hc, hk]

theorem execute_idle (hk : e.current = none) {c : Command} {entry : EntryPoint}
    (hc : c.entry? = some entry) : e.execute c = (c.droppedReply, e) := by
  unfold execute
  simp only [hc, hk]

theorem execute_display {c : Command} (hc : c.entry? = none) : e.execute c = e.manage c := by
  unfold execute
  simp only [hc]

inductive Executed (e : Engine δ) (c : Command) : Engine δ → Prop where
  | display {e' : Engine δ} (hc : c.entry? = none) (h : e.Handled e') : Executed e c e'
  /-- A rendering command that finds no context. -/
  | idle (hk : e.current = none) : Executed e c e
  | rendering {k : Current} {entry : EntryPoint} (hk : e.current = some k)
    (hc : c.entry? = some entry) : Executed e c (e.leave k ((e.scope k).enter entry c).2)

theorem execute_executed (e : Engine δ) (c : Command) : e.Executed c (e.execute c).2 := by
  cases hc : c.entry? with
  | none =>
    rw [execute_display hc]
    exact .display hc (e.manage_handled c)
  | some entry =>
    cases hk : e.current with
    | none =>
      rw [execute_idle hk hc]
      exact .idle hk
    | some k =>
      rw [execute_rendering hk hc]
      exact .rendering hk hc

end Engine

/-! Fleets -/

theorem forall_split_concat {α : Type} {Q : List α → α → Prop} {xs : List α} {x : α} :
    (∀ before y later, xs ++ [x] = before ++ y :: later → Q before y) ↔
      (∀ before y later, xs = before ++ y :: later → Q before y) ∧ Q xs x := by
  constructor
  · refine fun h => ⟨fun before y later he => ?_, h xs x [] rfl⟩
    exact h before y (later ++ [x]) (by simp [he])
  · rintro ⟨hxs, hx⟩ before y later he
    rcases List.eq_nil_or_concat later with rfl | ⟨later, last, rfl⟩
    · obtain ⟨rfl, hy⟩ := List.append_inj' he rfl
      rw [← List.singleton_inj.mp hy]
      exact hx
    · have he : xs ++ [x] = (before ++ y :: later) ++ [last] := by simpa using he
      exact hxs before y later (List.append_inj_left' he rfl)

theorem exists_last {α β : Type} {xs : List α} {f : α → β} {y : β}
    (h : xs.getLast?.map f = some y) : ∃ x, xs = xs.dropLast ++ [x] ∧ f x = y := by
  obtain ⟨x, hx, hfx⟩ := Option.map_eq_some_iff.mp h
  exact ⟨x, (List.dropLast_append_getLast? x hx).symm, hfx⟩

/-- A command and the engine it was given to, as that was then. -/
structure Deed (δ : Type) where
  engine : Engine δ
  command : Command

namespace Deed

variable {δ : Type} [Driver δ]

def reply (d : Deed δ) : Option Reply := (d.engine.execute d.command).1

def after (d : Deed δ) : Engine δ := (d.engine.execute d.command).2

end Deed

inductive Move where
  | execute (worker : Nat) (command : Command)
  /-- The worker ends, and its engine gives back what it holds. -/
  | drop (worker : Nat)
  deriving DecidableEq, Repr

structure Fleet (δ : Type) where
  server : Server δ
  /-- What is current on each worker. -/
  out : Nat → Option Current := fun _ => none
  /-- What was done to each record since it was made. -/
  ledger : Handle → List (Deed δ) := fun _ => []

namespace Fleet

variable {δ : Type} {f : Fleet δ}

/-- No record was made yet. The server may know any names. -/
def start (d : δ) (names : NameTable) : Fleet δ := { server := { driver := d, names } }

def engine (f : Fleet δ) (w : Nat) : Engine δ := ⟨f.server, f.out w⟩

def ShadowAt (f : Fleet δ) (h : Handle) (shadow : Shadow) : Prop :=
  f.server.registry.ShadowAt f.out h shadow

def deeds (f : Fleet δ) (w : Nat) (c : Command) (h : Handle) : List (Deed δ) :=
  if c.entry?.isSome ∧ (f.out w).map Current.handle = some h then [⟨f.engine w, c⟩] else []

/-- The fleet once a worker's engine has become `e`. A record that is gone has no ledger. -/
def become (f : Fleet δ) (w : Nat) (e : Engine δ) (more : Handle → List (Deed δ)) : Fleet δ where
  server := e.server
  out := update f.out w e.current
  ledger h := if (e.server.registry.record? h).isSome then f.ledger h ++ more h else []

theorem engine_become (f : Fleet δ) (w : Nat) (e : Engine δ) (more : Handle → List (Deed δ)) :
    (f.become w e more).engine w = e := by
  simp only [engine, become, Function.update_self]

theorem ledger_become {w : Nat} {e : Engine δ} {more : Handle → List (Deed δ)} {h : Handle}
    {c : ContextRecord} (hv : e.server.registry.record? h = some c) :
    (f.become w e more).ledger h = f.ledger h ++ more h := by
  simp only [become, hv, Option.isSome_some, if_true]

theorem ledger_become_of_none {w : Nat} {e : Engine δ} {more : Handle → List (Deed δ)}
    {h : Handle} (hn : e.server.registry.record? h = none) : (f.become w e more).ledger h = [] := by
  simp only [become, hn, Option.isSome_none, Bool.false_eq_true, if_false]

theorem deeds_of_current {w : Nat} {k : Current} (hk : f.out w = some k) {c : Command}
    {entry : EntryPoint} (hc : c.entry? = some entry) (h : Handle) :
    f.deeds w c h = if h = k.handle then [⟨f.engine w, c⟩] else [] := by
  simp [deeds, hc, hk, eq_comm]

variable {ok : NameTable → Command → Prop} {I : Commons δ → Prop}
  {P : Commons δ → List (Deed δ) → Shadow → Prop}

/-- What is kept of what all records share, and of the ledger and the shadow of every record. -/
structure Shared (I : Commons δ → Prop) (P : Commons δ → List (Deed δ) → Shadow → Prop)
    (f : Fleet δ) : Prop where
  custody : Custody f.server.registry f.out
  commons : I f.server.commons
  blank : ∀ h, f.server.registry.record? h = none → f.ledger h = []
  kept : ∀ h shadow, f.ShadowAt h shadow → P f.server.commons (f.ledger h) shadow

theorem start_shared {d : δ} {names : NameTable} (hd : I ⟨d, names, {}⟩) :
    (start d names).Shared I P where
  custody := Registry.empty_custody
  commons := hd
  blank _ _ := rfl
  kept h shadow hs := by
    obtain ⟨c, hv, -⟩ := hs
    rw [show (start d names).server.registry.record? h = none from Registry.record?_empty h] at hv
    cases hv

/-- A record that has a ledger has a shadow. -/
theorem Shared.of_ledger (hf : f.Shared I P) {h : Handle} (hne : f.ledger h ≠ []) :
    ∃ shadow, f.ShadowAt h shadow ∧ P f.server.commons (f.ledger h) shadow := by
  cases hv : f.server.registry.record? h with
  | none => exact absurd (hf.blank h hv) hne
  | some c =>
    obtain ⟨shadow, hs⟩ := hf.custody.exists_shadowAt hv
    exact ⟨shadow, hs, hf.kept h shadow hs⟩

variable [Driver δ]

def move (f : Fleet δ) : Move → Fleet δ
  | .execute w c => f.become w ((f.engine w).execute c).2 (f.deeds w c)
  | .drop w => f.become w (f.engine w).release fun _ => []

def run (f : Fleet δ) (moves : List Move) : Fleet δ := moves.foldl move f

def Heeds (ok : NameTable → Command → Prop) : Fleet δ → List Move → Prop
  | _, [] => True
  | f, .execute w c :: moves => ok f.server.names c ∧ (f.move (.execute w c)).Heeds ok moves
  | f, .drop w :: moves => (f.move (.drop w)).Heeds ok moves

instance decidableHeeds (ok : NameTable → Command → Prop) [∀ names c, Decidable (ok names c)] :
    (f : Fleet δ) → (moves : List Move) → Decidable (f.Heeds ok moves)
  | _, [] => inferInstanceAs (Decidable True)
  | f, .execute w c :: moves =>
    have := decidableHeeds ok (f.move (.execute w c)) moves
    inferInstanceAs (Decidable (ok f.server.names c ∧ _))
  | f, .drop w :: moves => decidableHeeds ok (f.move (.drop w)) moves

/-- What has to be shown of single commands for it. -/
structure Sharing (ok : NameTable → Command → Prop) (I : Commons δ → Prop)
    (P : Commons δ → List (Deed δ) → Shadow → Prop) : Prop where
  fresh : ∀ m, I m → P m [] .fresh
  manage : ∀ m m', m.Managed m' → I m → I m' ∧ ∀ ds shadow, P m ds shadow → P m' ds shadow
  enter : ∀ ds (e : Engine δ) k c entry, e.current = some k → c.entry? = some entry →
    ok e.server.names c → I e.server.commons → P e.server.commons ds k.shadow →
    I ((e.scope k).enter entry c).2.commons ∧
      P ((e.scope k).enter entry c).2.commons (ds ++ [⟨e, c⟩])
        ((e.scope k).enter entry c).2.shadow ∧
      ∀ ds shadow, P e.server.commons ds shadow →
        P ((e.scope k).enter entry c).2.commons ds shadow

/-- Where shadows only pass to and from the registry, nothing is added to a ledger. -/
theorem Shared.pass (hf : f.Shared I P) (hp : Sharing ok I P) {w : Nat} {e : Engine δ}
    (hpass : Passes f.server.registry f.out e.server.registry (update f.out w e.current))
    (hm : f.server.commons.Managed e.server.commons) :
    (f.become w e fun _ => []).Shared I P := by
  obtain ⟨hi, hkeep⟩ := hp.manage _ _ hm hf.commons
  constructor
  case custody => exact hpass.custody
  case commons => exact hi
  case blank => exact fun h hn => ledger_become_of_none hn
  case kept =>
    intro h shadow hs
    have ⟨c, hv, _⟩ := hs
    rw [ledger_become hv, List.append_nil]
    rcases hpass.kept h shadow hs with hs | ⟨hn, rfl⟩
    · exact hkeep _ _ (hf.kept h shadow hs)
    · rw [hf.blank h hn]
      exact hp.fresh _ hi

/-- What a worker does to its shadow goes to the ledger of its record, and to no other. -/
theorem Shared.render (hf : f.Shared I P) (hp : Sharing ok I P) {w : Nat} {k : Current}
    (hk : f.out w = some k) {c : Command} {entry : EntryPoint} (hc : c.entry? = some entry)
    (hok : ok f.server.names c) : (f.move (.execute w c)).Shared I P := by
  have hk' : (f.engine w).current = some k := hk
  obtain ⟨hi, hstep, hothers⟩ := hp.enter _ _ _ _ _ hk' hc hok hf.commons
    (hf.kept _ _ (hf.custody.shadowAt_of_out hk))
  rw [Fleet.move, Engine.execute_rendering hk' hc]
  generalize ((f.engine w).scope k).enter entry c = entered at hi hstep hothers ⊢
  obtain ⟨reply, s⟩ := entered
  let k' : Current := { k with shadow := s.shadow }
  have hh : k'.handle = k.handle := rfl
  constructor
  case custody => exact hf.custody.rework hk hh
  case commons => exact hi
  case blank => exact fun h hn => ledger_become_of_none hn
  case kept =>
    intro h shadow hs
    have hs : f.server.registry.ShadowAt (update f.out w (some k')) h shadow := hs
    have ⟨_, hv, _⟩ := hs
    rw [ledger_become hv, deeds_of_current hk hc]
    by_cases hne : h = k.handle
    · subst hne
      rw [if_pos rfl, (hf.custody.shadowAt_rework hk hh).mp hs]
      exact hstep
    · rw [if_neg hne, List.append_nil]
      exact hothers _ _ (hf.kept h shadow ((Registry.shadowAt_rework_of_ne hk hh hne).mp hs))

theorem Shared.drop (hf : f.Shared I P) (hp : Sharing ok I P) (w : Nat) :
    (f.move (.drop w)).Shared I P :=
  hf.pass hp (hf.custody.passes_giveBack w) .rest

theorem Shared.execute (hf : f.Shared I P) (hp : Sharing ok I P) (w : Nat) {c : Command}
    (hok : ok f.server.names c) : (f.move (.execute w c)).Shared I P := by
  have hx := (f.engine w).execute_executed c
  generalize he : ((f.engine w).execute c).2 = e at hx
  cases hx with
  | display hc h =>
    have hnone : f.deeds w c = fun _ => [] := by
      funext h
      simp [deeds, hc]
    rw [Fleet.move, he, hnone]
    exact hf.pass hp (h.registry.passes hf.custody) h.commons
  | idle hk =>
    have hnone : f.deeds w c = fun _ => [] := by
      funext h
      simp [deeds, show f.out w = none from hk]
    rw [Fleet.move, he, hnone]
    exact hf.pass hp (Registry.Handles.rest.passes hf.custody) .rest
  | rendering hk hc => exact hf.render hp hk hc hok

theorem Shared.run (hf : f.Shared I P) (hp : Sharing ok I P) {moves : List Move}
    (hok : f.Heeds ok moves) : (f.run moves).Shared I P := by
  induction moves generalizing f with
  | nil => exact hf
  | cons m moves ih =>
    cases m with
    | execute w c => exact ih (hf.execute hp w hok.1) hok.2
    | drop w => exact ih (hf.drop hp w) hok

theorem heeds_of_forall (hok : ∀ names c, ok names c) (f : Fleet δ) (moves : List Move) :
    f.Heeds ok moves := by
  induction moves generalizing f with
  | nil => trivial
  | cons m moves ih =>
    cases m with
    | execute w c => exact ⟨hok _ _, ih _⟩
    | drop w => exact ih _

/-! What one record holds, whatever the others do -/

section Kept

variable {good : δ → Prop} {P : List (Deed δ) → Shadow → Prop}

/-- What is kept of every record: of its ledger and shadow, whatever driver is good. -/
structure Kept (good : δ → Prop) (P : List (Deed δ) → Shadow → Prop) (f : Fleet δ) : Prop where
  custody : Custody f.server.registry f.out
  driver : good f.server.driver
  blank : ∀ h, f.server.registry.record? h = none → f.ledger h = []
  kept : ∀ h shadow, f.ShadowAt h shadow → P (f.ledger h) shadow

omit [Driver δ] in
theorem start_kept {d : δ} (hd : good d) (names : NameTable) : (start d names).Kept good P :=
  have hs : (start d names).Shared (fun m => good m.driver) fun _ => P := start_shared hd
  ⟨hs.custody, hs.commons, hs.blank, hs.kept⟩

/-- What has to be shown of single calls and commands for it. -/
structure Keeping (good : δ → Prop) (P : List (Deed δ) → Shadow → Prop) : Prop where
  fresh : P [] .fresh
  perform : ∀ d c, good d → good (Driver.perform d c).2
  enter : ∀ ds (e : Engine δ) k c entry, e.current = some k → c.entry? = some entry →
    good e.server.driver → P ds k.shadow →
    good ((e.scope k).enter entry c).2.driver ∧
      P (ds ++ [⟨e, c⟩]) ((e.scope k).enter entry c).2.shadow

omit [Driver δ] in
theorem Kept.shared (hf : f.Kept good P) : f.Shared (fun m => good m.driver) fun _ => P :=
  ⟨hf.custody, hf.driver, hf.blank, hf.kept⟩

theorem Keeping.sharing (hp : Keeping good P) :
    Sharing (fun _ _ => True) (fun m => good m.driver) fun _ => P where
  fresh _ _ := hp.fresh
  manage m m' hm hd := by
    refine ⟨?_, fun _ _ h => h⟩
    cases hm with
    | rest | elide => exact hd
    | call c => exact hp.perform _ c hd
  enter ds e k c entry hk hc _ hd h := by
    obtain ⟨hd', h'⟩ := hp.enter ds e k c entry hk hc hd h
    exact ⟨hd', h', fun _ _ h => h⟩

theorem Kept.run (hf : f.Kept good P) (hp : Keeping good P) (moves : List Move) :
    (f.run moves).Kept good P := by
  have hr := hf.shared.run hp.sharing (heeds_of_forall (fun _ _ => trivial) f moves)
  exact ⟨hr.custody, hr.commons, hr.blank, hr.kept⟩

end Kept

end Fleet

end RenderRelay
