import RenderRelay.Proofs.Engine.Acts
import RenderRelay.Proofs.Engine.Isolation
import RenderRelay.Proofs.Engine.Mirror

/-!
# What commands leave alone

Most commands have nothing to do with object names, bindings or program
locations. What they leave alone is read off their entry point, and so is
what calls they may make.
-/

set_option autoImplicit false

namespace RenderRelay

namespace Scope

variable {δ : Type} [Driver δ]

structure Leaves (entry : EntryPoint) (s t : Scope δ) (calls : List Call) : Prop where
  driver : t.driver = Driver.after s.driver calls
  makes : ∀ call ∈ calls, Command.Makes entry call
  names : entry.renames = false → t.names = s.names
  bindings : entry.rebinds = false → t.shadow.bindings = s.shadow.bindings
  locations : entry.relocates = false → t.shadow.locations = s.shadow.locations

variable {s t u : Scope δ} {c : Command} {entry : EntryPoint}

theorem leaves_refl (entry : EntryPoint) (s : Scope δ) : Leaves entry s s [] :=
  ⟨rfl, by simp, fun _ => rfl, fun _ => rfl, fun _ => rfl⟩

theorem Leaves.trans {as bs : List Call} (hst : Leaves entry s t as) (htu : Leaves entry t u bs) :
    Leaves entry s u (as ++ bs) where
  driver := by rw [htu.driver, hst.driver, Driver.after_append]
  makes call hcall := (List.mem_append.mp hcall).elim (hst.makes call) (htu.makes call)
  names h := (htu.names h).trans (hst.names h)
  bindings h := (htu.bindings h).trans (hst.bindings h)
  locations h := (htu.locations h).trans (hst.locations h)

theorem leaves_call {call : Call} (hc : Command.Makes entry call)
    (hd : t.driver = (Driver.perform s.driver call).2) (hn : t.names = s.names)
    (hb : t.shadow.bindings = s.shadow.bindings)
    (hl : t.shadow.locations = s.shadow.locations) : Leaves entry s t [call] :=
  ⟨hd, by simpa using hc, fun _ => hn, fun _ => hb, fun _ => hl⟩

theorem reject_leaves (entry : EntryPoint) (s : Scope δ) (error : Enum) :
    Leaves entry s (s.reject error) [] := by
  have hsame : (s.shadow.recordError error).bindings = s.shadow.bindings ∧
      (s.shadow.recordError error).locations = s.shadow.locations := by
    unfold Shadow.recordError
    split <;> exact ⟨rfl, rfl⟩
  exact ⟨rfl, by simp, fun _ => rfl, fun _ => hsame.1, fun _ => hsame.2⟩

theorem drop_leaves (entry : EntryPoint) (s : Scope δ) (c : Command) :
    Leaves entry s (s.drop c).2 [] := by
  unfold drop
  split
  · exact leaves_refl entry s
  · exact reject_leaves entry s _

theorem act_leaves {a : Act} (ha : c.Allows entry a) :
    Leaves entry s (s.act a) a.call?.toList := by
  cases a with
  | elide => exact ⟨rfl, by simp [Act.call?], fun _ => rfl, fun _ => rfl, fun _ => rfl⟩
  | reject error => exact reject_leaves entry s error
  | forward call => exact leaves_call ha.1 rfl rfl rfl rfl
  | submit call => exact leaves_call ha.1 rfl rfl rfl rfl
  | note change =>
    have hk := ha s.shadow
    exact ⟨rfl, by simp [Act.call?], fun _ => rfl, hk.bindings, hk.locations⟩
  | rename names =>
    refine ⟨rfl, by simp [Act.call?], fun h => ?_, fun _ => rfl, fun _ => rfl⟩
    have hr : entry.renames = true := ha
    rw [hr] at h
    cases h

theorem acts_leave {as : List Act} (has : ∀ a ∈ as, c.Allows entry a) :
    Leaves entry s (s.acts as) (as.filterMap Act.call?) := by
  induction as generalizing s with
  | nil => exact leaves_refl entry s
  | cons a as ih =>
    obtain ⟨ha, has⟩ := List.forall_mem_cons.mp has
    have hcalls : (a :: as).filterMap Act.call? = a.call?.toList ++ as.filterMap Act.call? := by
      cases hcall : a.call? <;> simp [hcall]
    rw [hcalls]
    exact (act_leaves ha).trans (ih has)

theorem getError_leaves (s : Scope δ) : ∃ calls, Leaves .getError s s.getError.2 calls := by
  unfold getError
  dsimp only
  split
  · exact ⟨[.getError], leaves_call (.inl rfl) rfl rfl rfl rfl⟩
  · exact ⟨[], rfl, by simp, fun _ => rfl, fun _ => rfl, fun _ => rfl⟩

theorem enter_leaves (s : Scope δ) (hc : c.entry? = some entry) :
    ∃ calls, Leaves entry s (s.enter entry c).2 calls := by
  by_cases hn : c = .getError
  · subst hn
    cases hc
    unfold enter
    split
    · exact s.getError_leaves
    · exact ⟨[], leaves_refl _ s⟩
  · obtain ⟨as, has, hdo⟩ := enter_does s hc hn
    have hs : (s.enter entry c).2 = s.acts as := hdo s.shadow.error
    rw [hs]
    exact ⟨_, acts_leave has⟩

end Scope

/-! What calls leave bound -/

theorem Traced.driver_after {δ : Type} [Driver δ] (t : Traced δ) (calls : List Call) :
    (Driver.after t calls).driver = Driver.after t.driver calls := by
  induction calls generalizing t with
  | nil => rfl
  | cons c calls ih => exact ih _

theorem Traced.bound_after {δ : Type} [Driver δ] (t : Traced δ) (calls : List Call) :
    Driver.bound (Driver.after t calls) = Driver.bound (Driver.after t.driver calls) := by
  show Driver.bound (Driver.after t calls).driver = _
  rw [t.driver_after]

theorem Recorder.bound_after (r : Recorder) (calls : List Call) :
    Driver.bound (Driver.after r calls) = Driver.bound r := by
  induction calls generalizing r with
  | nil => rfl
  | cons c calls ih =>
    refine (ih (r.perform c).2).trans ?_
    funext e
    show (r.perform c).2.bound e = r.bound e
    rw [bound, bound, (r.sameOrders_perform c).1]

end RenderRelay
