import RenderRelay.Engine

/-!
# Commands of the display system

What a command of the display system comes to: at most one call of the display
library, and one of a few things done to the registry and to what the worker
holds. Whatever is kept by these is kept by all such commands.
-/

set_option autoImplicit false

namespace RenderRelay

/-- What the engines of a server share besides the registry. -/
structure Commons (δ : Type) where
  driver : δ
  names : NameTable
  stats : Stats

def Server.commons {δ : Type} (s : Server δ) : Commons δ := ⟨s.driver, s.names, s.stats⟩

def Scope.commons {δ : Type} (s : Scope δ) : Commons δ := ⟨s.driver, s.names, s.stats⟩

inductive Commons.Managed {δ : Type} [Driver δ] (m : Commons δ) : Commons δ → Prop where
  | rest : m.Managed m
  | elide : m.Managed { m with stats := m.stats.elided }
  | call (c : Call) (hc : c.entry.library = .egl) :
    m.Managed ⟨(Driver.perform m.driver c).2, m.names, m.stats.called⟩

inductive Registry.Handles (r : Registry) (own : Option Current) :
    Registry → Option Current → Prop where
  | rest : r.Handles own r own
  | revive (display : Display) : r.Handles own (r.initDisplay display) own
  | mark (doomed : Handle → ContextRecord → Option Doom) : r.Handles own (r.mark doomed).2 own
  | release : r.Handles own (r.giveBack own) none
  | make (display : Display) (draw read : Surface) (context : Context) :
    r.Handles own (r.makeCurrent display draw read context own).2.1
      (r.makeCurrent display draw read context own).2.2
  /-- What the registry refuses after all is given back. -/
  | refuse (display : Display) (draw read : Surface) (context : Context) :
    r.Handles own
      ((r.makeCurrent display draw read context own).2.1.giveBack
        (r.makeCurrent display draw read context own).2.2) none

namespace Engine

variable {δ : Type} [Driver δ]

structure Asked (e e' : Engine δ) : Prop where
  registry : e'.server.registry = e.server.registry
  current : e'.current = e.current
  commons : e.server.commons.Managed e'.server.commons

theorem asked_refl (e : Engine δ) : e.Asked e := ⟨rfl, rfl, .rest⟩

theorem asked_call (e : Engine δ) (c : Call) (hc : c.entry.library = .egl) :
    e.Asked (e.call c).2 := ⟨rfl, rfl, .call c hc⟩

theorem asked_ask (e : Engine δ) (c : Call) (hc : c.entry.library = .egl) :
    e.Asked (e.ask c).2 := by
  unfold ask
  split
  · exact e.asked_call c hc
  · exact e.asked_refl

structure Handled (e e' : Engine δ) : Prop where
  registry : e.server.registry.Handles e.current e'.server.registry e'.current
  commons : e.server.commons.Managed e'.server.commons

variable {e e' : Engine δ}

theorem Asked.handled (ha : e.Asked e') : e.Handled e' where
  registry := by
    rw [ha.registry, ha.current]
    exact .rest
  commons := ha.commons

theorem Asked.handled_setRegistry (ha : e.Asked e') {r : Registry}
    (hr : e'.server.registry.Handles e.current r e.current) : e.Handled (e'.setRegistry r) where
  registry := by
    rw [ha.registry] at hr
    show e.server.registry.Handles e.current r e'.current
    rw [ha.current]
    exact hr
  commons := ha.commons

theorem Asked.handled_release (ha : e.Asked e') : e.Handled e'.release where
  registry := by
    show e.server.registry.Handles e.current (e'.server.registry.giveBack e'.current) none
    rw [ha.registry, ha.current]
    exact .release
  commons := ha.commons

/-- Making current with the driver asked, whatever is current. -/
def makeCurrentAnew (e : Engine δ) (display : Display) (draw read : Surface) (context : Context) :
    Bool × Engine δ :=
  match e.call (.makeCurrent display draw read context) with
  | (false, e) => (false, e)
  | (true, e) =>
    let (result, registry, current) :=
      e.server.registry.makeCurrent display draw read context e.current
    let e := { e.setRegistry registry with current }
    match result with
    | .ok () => (true, e)
    | .error _ => (false, e.release)

theorem makeCurrent_eq (e : Engine δ) (display : Display) (draw read : Surface)
    (context : Context) : e.makeCurrent display draw read context =
      if !Driver.bound e.server.driver .eglMakeCurrent then (false, e)
      else if e.holds display draw read context then
        (true, { e with server := { e.server with stats := e.server.stats.elided } })
      else e.makeCurrentAnew display draw read context := rfl

theorem makeCurrentAnew_handled (e : Engine δ) (display : Display) (draw read : Surface)
    (context : Context) : e.Handled (e.makeCurrentAnew display draw read context).2 := by
  have hmake : e.server.registry.Handles e.current _ _ := .make display draw read context
  have hrefuse : e.server.registry.Handles e.current _ _ := .refuse display draw read context
  have hcommons := (e.asked_call (.makeCurrent display draw read context) rfl).commons
  unfold makeCurrentAnew call at *
  dsimp only at *
  cases (Driver.perform e.server.driver (.makeCurrent display draw read context)).1 with
  | false => exact ⟨.rest, hcommons⟩
  | true =>
    dsimp only
    generalize e.server.registry.makeCurrent display draw read context e.current = made
      at hmake hrefuse ⊢
    obtain ⟨_ | _, r', next⟩ := made
    · exact ⟨hrefuse, hcommons⟩
    · exact ⟨hmake, hcommons⟩

theorem manage_handled (e : Engine δ) (c : Command) : e.Handled (e.manage c).2 := by
  cases c with
  | initDisplay display =>
    have ha := e.asked_ask (.initDisplay display) rfl
    unfold manage initDisplay replying
    dsimp only
    generalize e.ask (.initDisplay display) = answer at ha ⊢
    obtain ⟨_ | _, e'⟩ := answer
    · exact ha.handled
    · exact ha.handled_setRegistry (.revive display)
  | terminateDisplay display =>
    have ha := e.asked_ask (.terminateDisplay display) rfl
    unfold manage terminateDisplay replying
    dsimp only
    generalize e.ask (.terminateDisplay display) = answer at ha ⊢
    obtain ⟨_ | _, e'⟩ := answer
    · exact ha.handled
    · exact ha.handled_setRegistry (.mark _)
  | destroyContext display context =>
    have ha := e.asked_ask (.destroyContext display context) rfl
    unfold manage destroyContext replying
    dsimp only
    generalize e.ask (.destroyContext display context) = answer at ha ⊢
    obtain ⟨_ | _, e'⟩ := answer
    · exact ha.handled
    · exact ha.handled_setRegistry (.mark _)
  | destroySurface display surface =>
    have ha := e.asked_ask (.destroySurface display surface) rfl
    unfold manage destroySurface replying
    dsimp only
    generalize e.ask (.destroySurface display surface) = answer at ha ⊢
    obtain ⟨_ | _, e'⟩ := answer
    · exact ha.handled
    · exact ha.handled_setRegistry (.mark _)
  | releaseThread =>
    have ha := e.asked_ask .releaseThread rfl
    unfold manage releaseThread replying
    dsimp only
    generalize e.ask .releaseThread = answer at ha ⊢
    obtain ⟨_ | _, e'⟩ := answer
    · exact ha.handled
    · exact ha.handled_release
  | makeCurrent display draw read context =>
    unfold manage replying
    dsimp only
    rw [makeCurrent_eq]
    split
    · exact e.asked_refl.handled
    split
    · exact ⟨.rest, .elide⟩
    · exact e.makeCurrentAnew_handled display draw read context
  | getDisplay | chooseConfig | createContext | createWindowSurface | createPbufferSurface
  | swapBuffers | eglGetError => exact (e.asked_ask _ rfl).handled
  | _ => exact e.asked_refl.handled

end Engine

end RenderRelay
