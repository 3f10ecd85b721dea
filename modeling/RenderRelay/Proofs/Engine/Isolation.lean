import RenderRelay.Driver.Recorder
import RenderRelay.Proofs.Engine.Direct
import RenderRelay.Proofs.Engine.Fleet

/-!
# Contexts are isolated

What a rendering command makes of a shadow depends on the command and on the
shadow, and on the driver only where it is asked for integers or locations or
for what it has bound. Where these answers are fixed, a context that shares
its server with others holds what it would hold alone, on any other server.
-/

set_option autoImplicit false

namespace RenderRelay

/-- The answers of a driver that a shadow depends on. -/
structure Answers where
  bound : EntryPoint → Bool
  integers : Enum → List Int32 → List Int32
  location : LocationKind → UInt32 → String → Int32

structure Steady {δ : Type} [Driver δ] (fixed : Answers) (good : δ → Prop) : Prop where
  bound : ∀ d, good d → Driver.bound d = fixed.bound
  integers : ∀ d, good d → ∀ pname values,
    (Driver.perform d (.getIntegerv pname values)).1 = fixed.integers pname values
  location : ∀ d, good d → ∀ kind program name,
    (Driver.perform d (.location kind program name)).1 = fixed.location kind program name
  perform : ∀ d c, good d → good (Driver.perform d c).2

/-! Two scopes with one shadow -/

namespace Scope

variable {δ ε : Type} {good : δ → Prop} {good' : ε → Prop}

/-- The shadows are the same and the drivers good. Names and counters may be any. -/
structure Alike (good : δ → Prop) (good' : ε → Prop) (s : Scope δ) (t : Scope ε) : Prop where
  shadow : s.shadow = t.shadow
  left : good s.driver
  right : good' t.driver

variable {s : Scope δ} {t : Scope ε}

theorem Alike.change (h : Alike good good' s t) (f : Shadow → Shadow) (names names' : NameTable)
    (stats stats' : Stats) :
    Alike good good' ⟨s.driver, names, stats, f s.shadow⟩ ⟨t.driver, names', stats', f t.shadow⟩ :=
  ⟨congrArg f h.shadow, h.left, h.right⟩

theorem Alike.elide (h : Alike good good' s t) : Alike good good' s.elide t.elide :=
  ⟨h.shadow, h.left, h.right⟩

theorem Alike.reject (h : Alike good good' s t) (e : Enum) :
    Alike good good' (s.reject e) (t.reject e) :=
  ⟨congrArg (·.recordError e) h.shadow, h.left, h.right⟩

theorem Alike.isEnabled (h : Alike good good' s t) (cap : Enum) :
    Alike good good' (s.isEnabled cap).2 (t.isEnabled cap).2 := by
  unfold Scope.isEnabled
  cases Capability.ofEnum? cap with
  | none => exact h.reject _
  | some c => exact h.elide

variable [Driver δ] [Driver ε] {fixed : Answers} (hg : Steady fixed good)
  (hg' : Steady fixed good')

include hg hg'

/-- The calls may differ: objects have other names in another driver. -/
theorem Alike.forward (h : Alike good good' s t) (c c' : Call) :
    Alike good good' (s.forward c).2 (t.forward c').2 :=
  ⟨h.shadow, hg.perform _ c h.left, hg'.perform _ c' h.right⟩

theorem Alike.submit (h : Alike good good' s t) (c c' : Call) :
    Alike good good' (s.submit c).2 (t.submit c').2 :=
  (h.change ({ · with driverMayKnow := true }) s.names t.names s.stats t.stats).forward hg hg' c c'

theorem Alike.bound (h : Alike good good' s t) (e : EntryPoint) :
    Driver.bound s.driver e = Driver.bound t.driver e := by
  rw [hg.bound _ h.left, hg'.bound _ h.right]

theorem Alike.integers (h : Alike good good' s t) (pname : Enum) (values : List Int32) :
    (s.forward (.getIntegerv pname values)).1 = (t.forward (.getIntegerv pname values)).1 :=
  (hg.integers _ h.left pname values).trans (hg'.integers _ h.right pname values).symm

theorem Alike.locations (h : Alike good good' s t) (kind : LocationKind) (program : UInt32)
    (name : String) : (s.submit (.location kind program name)).1 =
      (t.submit (.location kind program name)).1 :=
  (hg.location _ h.left kind program name).trans (hg'.location _ h.right kind program name).symm

theorem Alike.limit (h : Alike good good' s t) (l : Limit) :
    (s.limit l).1 = (t.limit l).1 ∧ Alike good good' (s.limit l).2 (t.limit l).2 := by
  unfold Scope.limit
  rw [h.shadow, h.bound hg hg']
  cases t.shadow.limits.cached? l with
  | some value => exact ⟨rfl, h⟩
  | none =>
    dsimp only
    split
    · have hv := h.integers hg hg' l.pname [l.minimum]
      have hf := h.forward hg hg' (.getIntegerv l.pname [l.minimum])
        (.getIntegerv l.pname [l.minimum])
      rw [hv]
      exact ⟨rfl, hf.change (fun sh => { sh with limits := sh.limits.record l _ }) _ _ _ _⟩
    · exact ⟨rfl, h⟩

/-! Objects -/

theorem Alike.generate (h : Alike good good' s t) (cls : ObjectClass) (client : List UInt32) :
    Alike good good' (s.generate cls client) (t.generate cls client) := by
  unfold Scope.generate
  split
  · exact h
  · exact (h.forward hg hg' _ _).change id _ _ _ _

theorem Alike.delete (h : Alike good good' s t) (cls : ObjectClass) (client : List UInt32) :
    Alike good good' (s.delete cls client) (t.delete cls client) := by
  unfold Scope.delete
  split
  · exact h
  · exact (h.change (fun sh => (client.filter (· ≠ 0)).foldl (·.forget cls ·) sh) _ _ _ _).forward
      hg hg' _ _

/-- Which name an object has is known to the name table, not to the shadow. -/
theorem Alike.driverName (h : Alike good good' s t) (cls : ObjectClass) (client : UInt32) :
    Alike good good' (s.driverName cls client).2 (t.driverName cls client).2 := by
  have hmade := h.forward hg hg' (.generate cls [0]) (.generate cls [0])
  unfold Scope.driverName
  rw [h.bound hg hg']
  cases s.names.lookup cls client <;> cases t.names.lookup cls client <;> dsimp only
  · split
    · exact hmade.change id _ _ _ _
    · exact h
  · split
    · exact ⟨h.shadow, hmade.left, h.right⟩
    · exact h
  · split
    · exact ⟨h.shadow, h.left, hmade.right⟩
    · exact h
  · exact h

theorem Alike.bind (h : Alike good good' s t) (cls : ObjectClass) (target : Enum) (name : UInt32) :
    Alike good good' (s.bind cls target name) (t.bind cls target name) := by
  unfold Scope.bind
  rw [h.shadow]
  cases t.shadow.binding? cls target with
  | none => exact h.reject _
  | some held =>
    dsimp only
    split
    · exact h.elide
    · exact ((h.driverName hg hg' cls name).change (·.setBinding cls target name) _ _ _ _).submit
        hg hg' _ _

/-! Queries -/

theorem Alike.formatCount (h : Alike good good' s t) (pname : Enum) :
    (s.formatCount pname).1 = (t.formatCount pname).1 ∧
      Alike good good' (s.formatCount pname).2 (t.formatCount pname).2 :=
  ⟨congrArg (fun values : List Int32 => (values.headD 0).toInt.toNat)
    (h.integers hg hg' pname [0]), h.forward hg hg' _ _⟩

theorem Alike.answerSize (h : Alike good good' s t) (pname : Enum) :
    (s.answerSize pname).1 = (t.answerSize pname).1 ∧
      Alike good good' (s.answerSize pname).2 (t.answerSize pname).2 := by
  unfold Scope.answerSize
  split
  · exact h.formatCount hg hg' _
  · split
    · exact h.formatCount hg hg' _
    · exact ⟨rfl, h⟩

theorem Alike.getIntegerv (h : Alike good good' s t) (pname : Enum) :
    Alike good good' (s.getIntegerv pname).2 (t.getIntegerv pname).2 := by
  unfold Scope.getIntegerv
  rw [h.shadow]
  cases Limit.ofPname? pname with
  | some limit => exact (h.limit hg hg' limit).2
  | none =>
    cases Capability.ofEnum? pname with
    | some cap => exact h.elide
    | none =>
      cases t.shadow.integers? pname with
      | some values => exact h.elide
      | none =>
        obtain ⟨hsize, hs⟩ := h.answerSize hg hg' pname
        dsimp only
        rw [hsize]
        split
        · exact hs
        · exact hs.submit hg hg' _ _

theorem Alike.checkFramebufferStatus (h : Alike good good' s t) (target : Enum) :
    Alike good good' (s.checkFramebufferStatus target).2 (t.checkFramebufferStatus target).2 := by
  unfold Scope.checkFramebufferStatus
  split
  · exact h.submit hg hg' _ _
  · exact h.reject _

theorem Alike.createShader (h : Alike good good' s t) (kind : Enum) :
    Alike good good' (s.createShader kind).2 (t.createShader kind).2 := by
  unfold Scope.createShader
  split
  · exact h.forward hg hg' _ _
  · exact h.reject _

theorem Alike.location (h : Alike good good' s t) (kind : LocationKind) (program : UInt32)
    (name : String) : Alike good good' (s.location kind program name).2
      (t.location kind program name).2 := by
  unfold Scope.location
  rw [h.shadow]
  cases t.shadow.locations.lookup program kind name with
  | some location => exact h.elide
  | none =>
    have hl := h.locations hg hg' kind program name
    have hs := h.submit hg hg' (.location kind program name) (.location kind program name)
    dsimp only
    rw [hl]
    split
    · exact hs.change (fun sh => { sh with
        locations := sh.locations.store program kind name _ }) _ _ _ _
    · exact hs

theorem Alike.getError (h : Alike good good' s t) :
    Alike good good' s.getError.2 t.getError.2 := by
  have hknown : s.shadow.clearError.driverMayKnow = t.shadow.clearError.driverMayKnow := by
    rw [h.shadow]
  unfold Scope.getError
  dsimp only
  rw [hknown]
  split
  · exact (h.change (fun sh => { sh.clearError with driverMayKnow := false }) s.names t.names
      s.stats.driverAsked t.stats.driverAsked).forward hg hg' .getError .getError
  · exact h.change (·.clearError) _ _ _ _

/-! Commands -/

theorem Alike.run (h : Alike good good' s t) (p : Plan) :
    Alike good good' (p.run s) (p.run t) := by
  induction p generalizing s t with
  | rest => exact h
  | elide => exact h.elide
  | reject error => exact h.reject error
  | apply change call =>
    exact (h.change change s.names t.names s.stats t.stats).forward hg hg' call call
  | submit change call =>
    exact (h.change change s.names t.names s.stats t.stats).submit hg hg' call call
  | consult limit next ih =>
    obtain ⟨hv, hl⟩ := h.limit hg hg' limit
    show Alike good good' ((next (s.limit limit).1).run (s.limit limit).2)
      ((next (t.limit limit).1).run (t.limit limit).2)
    rw [hv]
    exact ih _ hl

theorem Alike.runPlan (h : Alike good good' s t) (c : Command) :
    Alike good good' ((Plan.ofCommand s.shadow c).run s) ((Plan.ofCommand t.shadow c).run t) := by
  rw [← h.shadow]
  exact h.run hg hg' _

theorem Alike.perform (h : Alike good good' s t) (c : Command) :
    Alike good good' (s.perform c).2 (t.perform c).2 := by
  cases c with
  | bindBuffer target name | bindTexture target name | bindFramebuffer target name
  | bindRenderbuffer target name => exact h.bind hg hg' _ target name
  | genBuffers names | genTextures names | genFramebuffers names | genRenderbuffers names =>
    exact h.generate hg hg' _ names
  | deleteBuffers names | deleteTextures names | deleteFramebuffers names
  | deleteRenderbuffers names => exact h.delete hg hg' _ names
  | getError => exact h.getError hg hg'
  | getIntegerv pname => exact h.getIntegerv hg hg' pname
  | isEnabled cap => exact h.isEnabled cap
  | checkFramebufferStatus target => exact h.checkFramebufferStatus hg hg' target
  | createShader kind => exact h.createShader hg hg' kind
  | createProgram => exact h.forward hg hg' .createProgram .createProgram
  | getAttribLocation program name => exact h.location hg hg' .attrib program name
  | getUniformLocation program name => exact h.location hg hg' .uniform program name
  | _ => exact h.runPlan hg hg' _

theorem Alike.enter (h : Alike good good' s t) (entry : EntryPoint) (c : Command) :
    Alike good good' (s.enter entry c).2 (t.enter entry c).2 := by
  unfold Scope.enter
  rw [h.bound hg hg']
  split
  · exact h.perform hg hg' c
  · unfold Scope.drop
    split
    · exact h
    · exact h.reject _

end Scope

namespace Fleet

open Function (update)

variable {δ ε : Type} [Driver δ] [Driver ε]

structure Isolated (good : ε → Prop) (f : Fleet δ) : Prop where
  /-- Each record has one shadow. -/
  single : ∀ h c, f.server.registry.record? h = some c →
    ∃ shadow, ∀ t, f.ShadowAt h t ↔ t = shadow
  /-- It is what the commands of its ledger make of a fresh context on any
  engine with a good driver, whatever else the server of that engine holds. -/
  alone : ∀ h shadow, f.ShadowAt h shadow →
    ∀ (e : Engine ε) k, e.current = some k → k.shadow = .fresh → good e.server.driver →
      (e.after ((f.ledger h).map Deed.command)).current.map Current.shadow = some shadow
  /-- A rendering command changes neither the registry nor the shadow of a
  record that is not current on its worker. -/
  apart : ∀ w c, c.entry?.isSome → (f.move (.execute w c)).server.registry = f.server.registry ∧
    ∀ h shadow, (f.out w).map Current.handle ≠ some h →
      ((f.move (.execute w c)).ShadowAt h shadow ↔ f.ShadowAt h shadow)

theorem move_apart (f : Fleet δ) (w : Nat) {c : Command} (hc : c.entry?.isSome) :
    (f.move (.execute w c)).server.registry = f.server.registry ∧
      ∀ h shadow, (f.out w).map Current.handle ≠ some h →
        ((f.move (.execute w c)).ShadowAt h shadow ↔ f.ShadowAt h shadow) := by
  obtain ⟨entry, hc⟩ := Option.isSome_iff_exists.mp hc
  cases hk : f.out w with
  | none =>
    have hsame : update f.out w (f.engine w).current = f.out := Function.update_eq_self w f.out
    rw [Fleet.move, Engine.execute_idle hk hc]
    refine ⟨rfl, fun h shadow _ => ?_⟩
    show f.server.registry.ShadowAt (update f.out w (f.engine w).current) h shadow ↔ _
    rw [hsame]
    rfl
  | some k =>
    have hk' : (f.engine w).current = some k := hk
    rw [Fleet.move, Engine.execute_rendering hk' hc]
    refine ⟨rfl, fun h shadow hne => ?_⟩
    have hne : h ≠ k.handle := fun he => hne (he ▸ rfl)
    let k' : Current := { k with shadow := (((f.engine w).scope k).enter entry c).2.shadow }
    have hh : k'.handle = k.handle := rfl
    exact Registry.shadowAt_rework_of_ne hk hh hne

def Alone (good : ε → Prop) (ledger : List (Deed δ)) (shadow : Shadow) : Prop :=
  ∀ (e : Engine ε) k, e.current = some k → k.shadow = .fresh → good e.server.driver →
    good (e.after (ledger.map Deed.command)).server.driver ∧
      ∃ k', (e.after (ledger.map Deed.command)).current = some k' ∧ k'.shadow = shadow

variable {fixed : Answers} {good : δ → Prop} {good' : ε → Prop}

theorem alone_keeping (hg : Steady fixed good) (hg' : Steady fixed good') :
    Keeping good fun (ledger : List (Deed δ)) shadow => Alone good' ledger shadow where
  fresh _ k hk hf hd := ⟨hd, k, hk, hf⟩
  perform := hg.perform
  enter ledger e k c entry hk hc hd halone := by
    have hself : Scope.Alike good good (e.scope k) (e.scope k) := ⟨rfl, hd, hd⟩
    refine ⟨(hself.enter hg hg entry c).left, ?_⟩
    intro e' k₀ hk₀ hf hgood
    obtain ⟨hgood', k', hk', hshadow⟩ := halone e' k₀ hk₀ hf hgood
    have halike : Scope.Alike good good' (e.scope k)
        ((e'.after (ledger.map Deed.command)).scope k') := ⟨hshadow.symm, hd, hgood'⟩
    have hentered := halike.enter hg hg' entry c
    rw [List.map_append, List.map_singleton, Engine.after_append, Engine.after_singleton,
      Engine.execute_rendering hk' hc]
    exact ⟨hentered.right, _, rfl, hentered.shadow.symm⟩

/-- Whatever is done on a server by any number of engines, each context holds
what its own commands make of it. -/
theorem run_isolated (hg : Steady fixed good) (hg' : Steady fixed good') {d : δ} (hd : good d)
    (names : NameTable) (moves : List Move) : ((start d names).run moves).Isolated good' := by
  have hk := (start_kept hd names).run (alone_keeping hg hg') moves
  constructor
  case single =>
    intro h c hv
    obtain ⟨shadow, hs⟩ := hk.custody.exists_shadowAt hv
    refine ⟨shadow, fun t => ⟨fun ht => hk.custody.shadowAt_unique ht hs, ?_⟩⟩
    rintro rfl
    exact hs
  case alone =>
    intro h shadow hs e k hcur hf hgood
    obtain ⟨-, k', hk', hshadow⟩ := hk.kept h shadow hs e k hcur hf hgood
    rw [hk', ← hshadow]
    rfl
  case apart => exact fun w c hc => move_apart _ w hc

end Fleet

/-! A recording driver -/

namespace Recorder

def SameOrders (r r' : Recorder) : Prop :=
  r'.unbound = r.unbound ∧ r'.failing = r.failing ∧ r'.integers = r.integers

theorem sameOrders_answer (r : Recorder) (c : Call) : r.SameOrders (r.answer c).2 := by
  cases c
  case getError =>
    show r.SameOrders r.takeError.2
    unfold takeError
    split <;> exact ⟨rfl, rfl, rfl⟩
  all_goals exact ⟨rfl, rfl, rfl⟩

theorem sameOrders_perform (r : Recorder) (c : Call) : r.SameOrders (r.perform c).2 := by
  unfold perform
  by_cases hb : r.bound c.entry
  · rw [if_pos hb]
    exact sameOrders_answer { r with log := c :: r.log } c
  · rw [if_neg hb]
    exact ⟨rfl, rfl, rfl⟩

theorem perform_fst (r : Recorder) (c : Call) :
    (r.perform c).1 = if r.failing.contains c.entry then c.failed
      else if r.bound c.entry then ({ r with log := c :: r.log }.answer c).1
      else silent c := by
  unfold perform
  by_cases hb : r.bound c.entry
  · have hf := (sameOrders_answer { r with log := c :: r.log } c).2.1
    rw [if_pos hb, if_pos hb]
    dsimp only
    rw [hf]
  · rw [if_neg hb, if_neg hb]

def answers (r : Recorder) : Answers where
  bound := r.bound
  integers pname values := (r.perform (.getIntegerv pname values)).1
  location kind program name := (r.perform (.location kind program name)).1

theorem steady (r : Recorder) : Steady r.answers r.SameOrders where
  bound r' h := by
    obtain ⟨hu, -, -⟩ := h
    funext e
    show r'.bound e = r.bound e
    rw [bound, bound, hu]
  integers r' h pname values := by
    obtain ⟨hu, hf, hi⟩ := h
    have hanswer : ∀ r : Recorder, (r.answer (.getIntegerv pname values)).1 =
        fitted values.length ((r.integers.lookup pname).getD []) := fun _ => rfl
    show (r'.perform (.getIntegerv pname values)).1 = (r.perform (.getIntegerv pname values)).1
    rw [perform_fst, perform_fst, hanswer, hanswer, bound, bound, hu, hf, hi]
  location r' h kind program name := by
    obtain ⟨hu, hf, -⟩ := h
    have hanswer : ∀ r : Recorder, (r.answer (.location kind program name)).1 =
        locationOf name := fun _ => rfl
    show (r'.perform (.location kind program name)).1 = (r.perform (.location kind program name)).1
    rw [perform_fst, perform_fst, hanswer, hanswer, bound, bound, hu, hf]
  perform r' c h := by
    obtain ⟨hu, hf, hi⟩ := h
    obtain ⟨hu', hf', hi'⟩ := r'.sameOrders_perform c
    exact ⟨hu'.trans hu, hf'.trans hf, hi'.trans hi⟩

end Recorder

namespace Fleet

/-- A context that is destroyed and made again under its old name, and then
goes to a worker that drew to another. -/
def remaking : List Move :=
  [.execute 0 (.makeCurrent ⟨1⟩ ⟨3⟩ ⟨3⟩ ⟨7⟩), .execute 0 (.bindBuffer GL.arrayBuffer 5),
    .execute 1 (.makeCurrent ⟨1⟩ ⟨4⟩ ⟨4⟩ ⟨8⟩), .execute 1 (.destroyContext ⟨1⟩ ⟨7⟩),
    .execute 0 (.clearStencil 1), .execute 0 .releaseThread,
    .execute 0 (.makeCurrent ⟨1⟩ ⟨3⟩ ⟨3⟩ ⟨7⟩), .execute 0 (.clearStencil 3), .drop 0,
    .execute 1 (.clearStencil 2), .execute 1 (.makeCurrent ⟨1⟩ ⟨3⟩ ⟨3⟩ ⟨7⟩),
    .execute 1 (.genBuffers [5]), .execute 1 (.clearStencil 3)]

def hermit (names : NameTable) : Engine Recorder where
  server := { driver := {}, names }
  current := some ⟨⟨0, 0⟩, ⟨1⟩, ⟨7⟩, ⟨3⟩, ⟨3⟩, .fresh⟩

/-- Of the context that was made again nothing is left of the first. -/
theorem run_isolated_of_remaking :
    (((start ({} : Recorder) {}).run remaking).ledger ⟨0, 1⟩).map Deed.command =
      [.clearStencil 3, .genBuffers [5], .clearStencil 3] ∧
    ∃ shadow, ((start ({} : Recorder) {}).run remaking).ShadowAt ⟨0, 1⟩ shadow ∧
      ((hermit {}).after [.clearStencil 3, .genBuffers [5], .clearStencil 3]).current.map
        Current.shadow = some shadow := by
  have hledger : (((start ({} : Recorder) {}).run remaking).ledger ⟨0, 1⟩).map Deed.command =
      [.clearStencil 3, .genBuffers [5], .clearStencil 3] := by decide +kernel
  have hsome : (((start ({} : Recorder) {}).run remaking).server.registry.record?
      ⟨0, 1⟩).isSome := by decide +kernel
  obtain ⟨c, hv⟩ := Option.isSome_iff_exists.mp hsome
  have hgood : ({} : Recorder).SameOrders {} := ⟨rfl, rfl, rfl⟩
  have hi := run_isolated ({} : Recorder).steady ({} : Recorder).steady hgood {} remaking
  obtain ⟨shadow, hs⟩ := hi.single ⟨0, 1⟩ c hv
  have hs := (hs shadow).mpr rfl
  have halone := hi.alone ⟨0, 1⟩ shadow hs (hermit {}) _ rfl rfl hgood
  rw [hledger] at halone
  exact ⟨hledger, shadow, hs, halone⟩

end Fleet

end RenderRelay
