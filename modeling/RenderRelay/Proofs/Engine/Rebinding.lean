import RenderRelay.Proofs.Engine.Frames

/-!
# What commands do to names and bindings

Few commands make, bind or delete objects. What becomes of the names and of
the bindings that a shadow holds goes with the calls that are made.
-/

set_option autoImplicit false

namespace RenderRelay

namespace Command

def generated? : Command → Option (ObjectClass × List UInt32)
  | genBuffers names => some (.buffer, names)
  | genTextures names => some (.texture, names)
  | genFramebuffers names => some (.framebuffer, names)
  | genRenderbuffers names => some (.renderbuffer, names)
  | _ => none

def bound? : Command → Option (ObjectClass × Enum × UInt32)
  | bindBuffer target name => some (.buffer, target, name)
  | bindTexture target name => some (.texture, target, name)
  | bindFramebuffer target name => some (.framebuffer, target, name)
  | bindRenderbuffer target name => some (.renderbuffer, target, name)
  | _ => none

/-- Objects are made only for distinct names that stand for none. -/
def Careful (names : NameTable) (c : Command) : Prop :=
  ∀ p ∈ c.generated?, p.2.Nodup ∧ 0 ∉ p.2 ∧ ∀ n ∈ p.2, names.lookup p.1 n = none

instance (names : NameTable) (c : Command) : Decidable (c.Careful names) :=
  -- The names of the list are to be gone through, not all names there can be.
  have (p : ObjectClass × List UInt32) : Decidable (∀ n ∈ p.2, names.lookup p.1 n = none) :=
    List.decidableBAll _ p.2
  inferInstanceAs (Decidable (∀ p ∈ c.generated?, _))

end Command

namespace Scope

variable {δ : Type} [Driver δ]

inductive Rebinds (c : Command) (s t : Scope δ) : List Call → Prop where
  | pass {calls : List Call} (hn : t.names = s.names)
    (hb : t.shadow.bindings = s.shadow.bindings) (hc : ∀ call ∈ calls, call.Idle) :
    Rebinds c s t calls
  | select {queries : List Call} {unit : Enum} (hu : Slot.HasUnit unit) (hn : t.names = s.names)
    (hb : t.shadow.bindings = { s.shadow with activeTexture := unit }.bindings)
    (hq : ∀ call ∈ queries, call.Idle) :
    Rebinds c s t (queries ++ [.activeTexture unit])
  | generate {cls : ObjectClass} {client : List UInt32} (hc : c.generated? = some (cls, client))
    (hn : t.names = s.names.insertAll cls client
      (Driver.perform s.driver (.generate cls (client.map fun _ => 0))).1)
    (hb : t.shadow.bindings = s.shadow.bindings) :
    Rebinds c s t [.generate cls (client.map fun _ => 0)]
  | delete {cls : ObjectClass} {client : List UInt32}
    (hn : t.names = (s.names.takeAll cls client).2)
    (hb : t.shadow.bindings =
      ((client.filter (· ≠ 0)).foldl (·.forget cls ·) s.shadow).bindings) :
    Rebinds c s t [.delete cls (s.names.takeAll cls client).1]
  | bind {cls : ObjectClass} {target : Enum} {name object : UInt32}
    (ht : (s.shadow.binding? cls target).isSome) (hl : s.names.lookup cls name = some object)
    (hn : t.names = s.names)
    (hb : t.shadow.bindings = (s.shadow.setBinding cls target name).bindings) :
    Rebinds c s t [.bind cls target object]
  /-- An object is made for the name that is bound. -/
  | make {cls : ObjectClass} {target : Enum} {name object : UInt32}
    (ht : (s.shadow.binding? cls target).isSome) (hl : s.names.lookup cls name = none)
    (ho : (Driver.perform s.driver (.generate cls [0])).1.headD 0 = object)
    (hn : t.names = s.names.insert cls name object)
    (hb : t.shadow.bindings = (s.shadow.setBinding cls target name).bindings) :
    Rebinds c s t [.generate cls [0], .bind cls target object]

variable {s t : Scope δ} {c : Command} {entry : EntryPoint}

theorem idle_of_makes {call : Call} (hm : Command.Makes entry call)
    (hr : entry.renames = false) (hb : entry.rebinds = false) : call.Idle := by
  have hentry : call.entry = entry ∨ call.entry = .getIntegerv := by
    rcases hm with hm | hm | ⟨cls, rfl, -⟩
    · exact .inl hm
    · exact .inr hm
    · cases hb
  cases call with
  | activeTexture _ | bind _ _ _ | delete _ _ =>
    rcases hentry with rfl | he
    · cases hb
    · cases he
  | generate _ _ =>
    rcases hentry with rfl | he
    · cases hr
    · cases he
  | _ => trivial

theorem Leaves.rebinds {calls : List Call} (hl : Leaves entry s t calls)
    (hr : entry.renames = false) (hb : entry.rebinds = false) (c : Command) :
    Rebinds c s t calls :=
  .pass (hl.names hr) (hl.bindings hb) fun call hcall => idle_of_makes (hl.makes call hcall) hr hb

def Binds (c : Command) (s t : Scope δ) : Prop :=
  ∃ calls, t.driver = Driver.after s.driver calls ∧ Rebinds c s t calls

theorem binds_refl (c : Command) (s : Scope δ) : Binds c s s := ⟨[], rfl, .pass rfl rfl (by simp)⟩

theorem Leaves.binds {calls : List Call} (hl : Leaves .getIntegerv s t calls) (c : Command) :
    Binds c s t := ⟨calls, hl.driver, hl.rebinds rfl rfl c⟩

theorem generate_binds {cls : ObjectClass} {client : List UInt32} (s : Scope δ)
    (hc : c.generated? = some (cls, client)) : Binds c s (s.generate cls client) := by
  unfold generate
  split
  · exact binds_refl c s
  · exact ⟨_, rfl, .generate hc rfl rfl⟩

theorem delete_binds (c : Command) (s : Scope δ) (cls : ObjectClass) (client : List UInt32) :
    Binds c s (s.delete cls client) := by
  unfold delete
  split
  · exact binds_refl c s
  · exact ⟨_, rfl, .delete rfl rfl⟩

theorem bind_binds (c : Command) (s : Scope δ) (cls : ObjectClass) (target : Enum)
    (name : UInt32) (hb : Driver.bound s.driver (.generate cls) = true) :
    Binds c s (s.bind cls target name) := by
  unfold bind
  cases ht : s.shadow.binding? cls target with
  | none => exact (reject_leaves .getIntegerv s _).binds c
  | some held =>
    dsimp only
    split
    · exact ⟨[], rfl, .pass rfl rfl (by simp)⟩
    · unfold driverName
      cases hl : s.names.lookup cls name with
      | some object => exact ⟨_, rfl, .bind (by rw [ht]; rfl) hl rfl rfl⟩
      | none =>
        rw [if_pos hb]
        exact ⟨_, rfl, .make (by rw [ht]; rfl) hl rfl rfl rfl⟩

theorem limit_leaves (s : Scope δ) (l : Limit) :
    ∃ calls, Leaves .getIntegerv s (s.limit l).2 calls := by
  have hdoes : s.Does .flush .getIntegerv fun t => (t.limit l).2 := s.limit_does l
  obtain ⟨as, has, hdo⟩ := hdoes
  have hs : (s.limit l).2 = s.acts as := hdo s.shadow.error
  rw [hs]
  exact ⟨_, acts_leave has⟩

theorem activeTexture_binds (c : Command) (s : Scope δ) (unit : Enum) :
    Binds c s ((Plan.activeTexture s.shadow unit).run s) := by
  unfold Plan.activeTexture Plan.unlessHeld
  split
  · exact ⟨[], rfl, .pass rfl rfl (by simp)⟩
  unfold Plan.checkEnum Plan.require
  split
  · next hu =>
    have hu : Slot.HasUnit unit := by simpa [Slot.HasUnit] using hu
    obtain ⟨queries, hl⟩ := s.limit_leaves .maxCombinedTextureImageUnits
    have hidle : ∀ call ∈ queries, call.Idle :=
      fun call hcall => idle_of_makes (hl.makes call hcall) rfl rfl
    simp only [Plan.run]
    split
    · refine ⟨queries ++ [.activeTexture unit], ?_, .select hu ?_ ?_ hidle⟩
      · rw [Driver.after_append, ← hl.driver]
        rfl
      · exact hl.names rfl
      · exact congrArg (fun b : Bindings => { b with activeTexture := unit }) (hl.bindings rfl)
    · exact (hl.trans (reject_leaves .getIntegerv _ _)).binds c
  · exact (reject_leaves .getIntegerv s _).binds c

theorem enter_binds (s : Scope δ) (hc : c.entry? = some entry)
    (hb : ∀ cls, Driver.bound s.driver (.generate cls) = true) :
    Binds c s (s.enter entry c).2 := by
  by_cases hidle : entry.renames = false ∧ entry.rebinds = false
  · obtain ⟨calls, hl⟩ := s.enter_leaves hc
    exact ⟨calls, hl.driver, hl.rebinds hidle.1 hidle.2 c⟩
  · unfold enter
    split
    · cases c with
      | bindBuffer target name | bindTexture target name | bindFramebuffer target name
      | bindRenderbuffer target name => exact bind_binds _ s _ target name (hb _)
      | genBuffers names | genTextures names | genFramebuffers names | genRenderbuffers names =>
        exact generate_binds s rfl
      | deleteBuffers names | deleteTextures names | deleteFramebuffers names
      | deleteRenderbuffers names => exact delete_binds _ s _ names
      | activeTexture unit => exact activeTexture_binds _ s unit
      | _ => cases hc <;> exact absurd ⟨rfl, rfl⟩ hidle
    · exact (drop_leaves .getIntegerv s c).binds c

theorem held_of_elided (s : Scope δ) (hc : c.entry? = some entry) {cls : ObjectClass}
    {target : Enum} {name : UInt32} (hbound : c.bound? = some (cls, target, name))
    (hel : s.stats.callsElided < (s.enter entry c).2.stats.callsElided) :
    s.shadow.binding? cls target = some name := by
  have hperform : s.perform c = (none, s.bind cls target name) := by
    cases c <;> cases hbound <;> rfl
  unfold enter at hel
  split at hel
  · rw [hperform] at hel
    unfold bind at hel
    cases ht : s.shadow.binding? cls target with
    | none =>
      simp only [ht, callsElided_reject] at hel
      exact absurd hel (Nat.lt_irrefl _)
    | some held =>
      simp only [ht] at hel
      split at hel
      · next heq => rw [heq]
      · -- An object may have been made on the way, but nothing was left out.
        have hname : (s.driverName cls name).2.stats.callsElided = s.stats.callsElided := by
          unfold driverName
          split
          · rfl
          · split <;> rfl
        exact absurd (hname ▸ hel) (Nat.lt_irrefl _)
  · rw [s.callsElided_drop c] at hel
    exact absurd hel (Nat.lt_irrefl _)

end Scope

end RenderRelay
