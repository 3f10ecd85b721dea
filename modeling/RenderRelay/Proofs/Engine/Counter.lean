import RenderRelay.Engine

/-!
# The count of handled records

No command looks at how many records were handled. An engine that was told of
more of them does the same and gives the same replies, and ends as the engine
that was not, with the same difference.
-/

set_option autoImplicit false

namespace RenderRelay

def Stats.noted (n : Nat) (s : Stats) : Stats :=
  { s with recordsDispatched := s.recordsDispatched + n }

def Scope.noted {δ : Type} (n : Nat) (s : Scope δ) : Scope δ := { s with stats := s.stats.noted n }

def Engine.noted {δ : Type} (n : Nat) (e : Engine δ) : Engine δ :=
  { e with server := { e.server with stats := e.server.stats.noted n } }

variable {δ : Type} (n : Nat)

namespace Scope

@[simp] theorem noted_driver (s : Scope δ) : (s.noted n).driver = s.driver := rfl

@[simp] theorem noted_names (s : Scope δ) : (s.noted n).names = s.names := rfl

@[simp] theorem noted_shadow (s : Scope δ) : (s.noted n).shadow = s.shadow := rfl

theorem reject_noted (s : Scope δ) (error : Enum) :
    (s.noted n).reject error = (s.reject error).noted n := by
  rw [reject, reject, noted_shadow]
  cases s.shadow.acceptsError <;> rfl

theorem isEnabled_noted (s : Scope δ) (cap : Enum) :
    (s.noted n).isEnabled cap = ((s.isEnabled cap).1, (s.isEnabled cap).2.noted n) := by
  rw [isEnabled, isEnabled, reject_noted]
  cases Capability.ofEnum? cap <;> rfl

theorem replying_noted {α : Type} (f : α → Reply) {p q : α × Scope δ}
    (hq : q = (p.1, p.2.noted n)) :
    replying f q = ((replying f p).1, (replying f p).2.noted n) := by
  rw [hq]
  rfl

variable [Driver δ]

theorem forward_noted (s : Scope δ) (c : Call) :
    (s.noted n).forward c = ((s.forward c).1, (s.forward c).2.noted n) := rfl

theorem submit_noted (s : Scope δ) (c : Call) :
    (s.noted n).submit c = ((s.submit c).1, (s.submit c).2.noted n) := rfl

theorem limit_noted (s : Scope δ) (limit : Limit) :
    (s.noted n).limit limit = ((s.limit limit).1, (s.limit limit).2.noted n) := by
  rw [Scope.limit, Scope.limit, noted_shadow]
  cases s.shadow.limits.cached? limit with
  | some value => rfl
  | none =>
    dsimp only
    rw [noted_driver]
    cases Driver.bound s.driver .getIntegerv <;> rfl

theorem generate_noted (s : Scope δ) (cls : ObjectClass) (client : List UInt32) :
    (s.noted n).generate cls client = (s.generate cls client).noted n := by
  rw [generate, generate]
  cases client.isEmpty <;> rfl

theorem delete_noted (s : Scope δ) (cls : ObjectClass) (client : List UInt32) :
    (s.noted n).delete cls client = (s.delete cls client).noted n := by
  rw [delete, delete]
  cases client.isEmpty <;> rfl

theorem driverName_noted (s : Scope δ) (cls : ObjectClass) (client : UInt32) :
    (s.noted n).driverName cls client =
      ((s.driverName cls client).1, (s.driverName cls client).2.noted n) := by
  rw [driverName, driverName, noted_names]
  cases s.names.lookup cls client with
  | some name => rfl
  | none =>
    dsimp only
    rw [noted_driver]
    cases Driver.bound s.driver (.generate cls) <;> rfl

theorem bind_noted (s : Scope δ) (cls : ObjectClass) (target : Enum) (name : UInt32) :
    (s.noted n).bind cls target name = (s.bind cls target name).noted n := by
  rw [bind, bind, noted_shadow]
  cases s.shadow.binding? cls target with
  | none => exact s.reject_noted n _
  | some held =>
    dsimp only
    by_cases h : held = name
    · rw [if_pos h, if_pos h]
      rfl
    · rw [if_neg h, if_neg h, driverName_noted]
      rfl

theorem answerSize_noted (s : Scope δ) (pname : Enum) :
    (s.noted n).answerSize pname = ((s.answerSize pname).1, (s.answerSize pname).2.noted n) := by
  rw [answerSize, answerSize]
  split
  · rfl
  · split <;> rfl

theorem getIntegerv_noted (s : Scope δ) (pname : Enum) :
    (s.noted n).getIntegerv pname = ((s.getIntegerv pname).1, (s.getIntegerv pname).2.noted n) := by
  rw [getIntegerv, getIntegerv, noted_shadow]
  cases Limit.ofPname? pname with
  | some limit =>
    dsimp only
    rw [limit_noted]
  | none =>
    cases Capability.ofEnum? pname with
    | some cap => rfl
    | none =>
      cases s.shadow.integers? pname with
      | some values => rfl
      | none =>
        dsimp only
        rw [answerSize_noted]
        split <;> rfl

theorem checkFramebufferStatus_noted (s : Scope δ) (target : Enum) :
    (s.noted n).checkFramebufferStatus target =
      ((s.checkFramebufferStatus target).1, (s.checkFramebufferStatus target).2.noted n) := by
  rw [checkFramebufferStatus, checkFramebufferStatus, reject_noted]
  split <;> rfl

theorem createShader_noted (s : Scope δ) (kind : Enum) :
    (s.noted n).createShader kind = ((s.createShader kind).1, (s.createShader kind).2.noted n) := by
  rw [createShader, createShader, reject_noted]
  split <;> rfl

theorem location_noted (s : Scope δ) (kind : LocationKind) (program : UInt32) (name : String) :
    (s.noted n).location kind program name =
      ((s.location kind program name).1, (s.location kind program name).2.noted n) := by
  rw [location, location, noted_shadow, submit_noted]
  cases s.shadow.locations.lookup program kind name with
  | some location => rfl
  | none =>
    dsimp only
    split <;> rfl

theorem getError_noted (s : Scope δ) :
    (s.noted n).getError = (s.getError.1, s.getError.2.noted n) := by
  rw [getError, getError]
  dsimp only
  rw [noted_shadow]
  split <;> rfl

end Scope

section

variable [Driver δ]

theorem Plan.run_noted (p : Plan) (s : Scope δ) : p.run (s.noted n) = (p.run s).noted n := by
  induction p generalizing s with
  | rest | elide | apply | submit => rfl
  | reject error => exact s.reject_noted n error
  | consult limit next ih =>
    rw [run, Scope.limit_noted]
    exact ih _ _

theorem Scope.perform_noted (s : Scope δ) (c : Command) :
    (s.noted n).perform c = ((s.perform c).1, (s.perform c).2.noted n) := by
  cases c with
  | bindBuffer | bindTexture | bindFramebuffer | bindRenderbuffer =>
    exact congrArg (Prod.mk none) (s.bind_noted n ..)
  | genBuffers | genTextures | genFramebuffers | genRenderbuffers =>
    exact congrArg (Prod.mk none) (s.generate_noted n ..)
  | deleteBuffers | deleteTextures | deleteFramebuffers | deleteRenderbuffers =>
    exact congrArg (Prod.mk none) (s.delete_noted n ..)
  | getError => exact replying_noted n .enum (s.getError_noted n)
  | getIntegerv pname => exact replying_noted n .ints (s.getIntegerv_noted n pname)
  | isEnabled cap => exact replying_noted n .bool (s.isEnabled_noted n cap)
  | checkFramebufferStatus target =>
    exact replying_noted n .enum (s.checkFramebufferStatus_noted n target)
  | createShader kind => exact replying_noted n .uint (s.createShader_noted n kind)
  | createProgram => exact replying_noted n .uint (s.forward_noted n .createProgram)
  | getAttribLocation program name =>
    exact replying_noted n .int (s.location_noted n .attrib program name)
  | getUniformLocation program name =>
    exact replying_noted n .int (s.location_noted n .uniform program name)
  | _ => exact congrArg (Prod.mk none) (Plan.run_noted n _ s)

theorem Scope.enter_noted (s : Scope δ) (entry : EntryPoint) (c : Command) :
    (s.noted n).enter entry c = ((s.enter entry c).1, (s.enter entry c).2.noted n) := by
  rw [enter, enter, perform_noted, drop, drop, reject_noted, noted_driver]
  split
  · rfl
  · split <;> rfl

end

namespace Engine

@[simp] theorem noted_zero (e : Engine δ) : e.noted 0 = e := rfl

theorem noted_noted (e : Engine δ) (m n : Nat) : (e.noted m).noted n = e.noted (m + n) := by
  simp [noted, Stats.noted, Nat.add_assoc]

@[simp] theorem noted_driver (e : Engine δ) : (e.noted n).server.driver = e.server.driver := rfl

@[simp] theorem noted_registry (e : Engine δ) :
    (e.noted n).server.registry = e.server.registry := rfl

@[simp] theorem noted_current (e : Engine δ) : (e.noted n).current = e.current := rfl

theorem noted_holds (e : Engine δ) (display : Display) (draw read : Surface) (context : Context) :
    (e.noted n).holds display draw read context = e.holds display draw read context := rfl

variable [Driver δ]

theorem call_noted (e : Engine δ) (c : Call) :
    (e.noted n).call c = ((e.call c).1, (e.call c).2.noted n) := rfl

theorem ask_noted (e : Engine δ) (c : Call) :
    (e.noted n).ask c = ((e.ask c).1, (e.ask c).2.noted n) := by
  rw [ask, ask, noted_driver]
  split <;> rfl

theorem initDisplay_noted (e : Engine δ) (display : Display) :
    (e.noted n).initDisplay display =
      ((e.initDisplay display).1, (e.initDisplay display).2.noted n) := by
  rw [initDisplay, initDisplay, ask_noted]
  cases e.ask (.initDisplay display) with
  | mk version e => cases version <;> rfl

theorem terminateDisplay_noted (e : Engine δ) (display : Display) :
    (e.noted n).terminateDisplay display =
      ((e.terminateDisplay display).1, (e.terminateDisplay display).2.noted n) := by
  rw [terminateDisplay, terminateDisplay, ask_noted]
  cases e.ask (.terminateDisplay display) with
  | mk ok e => cases ok <;> rfl

theorem chooseConfig_noted (e : Engine δ) (display : Display) (attribs : List Int32)
    (max : Int32) : (e.noted n).chooseConfig display attribs max =
      ((e.chooseConfig display attribs max).1, (e.chooseConfig display attribs max).2.noted n) := by
  rw [chooseConfig, chooseConfig, ask_noted]

theorem destroyContext_noted (e : Engine δ) (display : Display) (context : Context) :
    (e.noted n).destroyContext display context =
      ((e.destroyContext display context).1, (e.destroyContext display context).2.noted n) := by
  rw [destroyContext, destroyContext, ask_noted]
  cases e.ask (.destroyContext display context) with
  | mk ok e => cases ok <;> rfl

theorem destroySurface_noted (e : Engine δ) (display : Display) (surface : Surface) :
    (e.noted n).destroySurface display surface =
      ((e.destroySurface display surface).1, (e.destroySurface display surface).2.noted n) := by
  rw [destroySurface, destroySurface, ask_noted]
  cases e.ask (.destroySurface display surface) with
  | mk ok e => cases ok <;> rfl

theorem makeCurrent_noted (e : Engine δ) (display : Display) (draw read : Surface)
    (context : Context) :
    (e.noted n).makeCurrent display draw read context =
      ((e.makeCurrent display draw read context).1,
        (e.makeCurrent display draw read context).2.noted n) := by
  rw [makeCurrent, makeCurrent, call_noted, noted_holds, noted_driver]
  cases Driver.bound e.server.driver .eglMakeCurrent with
  | false => rfl
  | true =>
    cases e.holds display draw read context with
    | true => rfl
    | false =>
      cases e.call (.makeCurrent display draw read context) with
      | mk ok f =>
        cases ok with
        | false => rfl
        | true =>
          dsimp only
          rw [noted_registry n f, noted_current n f]
          cases f.server.registry.makeCurrent display draw read context f.current with
          | mk result rest => cases result <;> rfl

theorem releaseThread_noted (e : Engine δ) :
    (e.noted n).releaseThread = (e.releaseThread.1, e.releaseThread.2.noted n) := by
  rw [releaseThread, releaseThread, ask_noted]
  cases e.ask .releaseThread with
  | mk ok e => cases ok <;> rfl

theorem manage_noted (e : Engine δ) (c : Command) :
    (e.noted n).manage c = ((e.manage c).1, (e.manage c).2.noted n) := by
  cases c
  all_goals simp only [manage, replying, ask_noted, initDisplay_noted, terminateDisplay_noted,
    chooseConfig_noted, destroyContext_noted, destroySurface_noted, makeCurrent_noted,
    releaseThread_noted]

theorem execute_noted (e : Engine δ) (c : Command) :
    (e.noted n).execute c = ((e.execute c).1, (e.execute c).2.noted n) := by
  rw [execute, execute, noted_current]
  cases c.entry? with
  | none => exact e.manage_noted n c
  | some entry =>
    cases e.current with
    | none => rfl
    | some current =>
      have h := (e.scope current).enter_noted n entry c
      dsimp only
      rw [show (e.noted n).scope current = (e.scope current).noted n from rfl, h]
      rfl

end Engine

end RenderRelay
