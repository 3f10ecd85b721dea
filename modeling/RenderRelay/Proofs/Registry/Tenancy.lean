import Mathlib.Logic.Function.Basic
import RenderRelay.Proofs.Registry.Orderly

/-!
# Tenancies

Any number of workers share a registry. Each has at most one context, in a
slot of its own: it gives back only what it has, and asks for a record
directly only when it has none. A context that is dropped without being given
back is had by nobody, but it is still out. Kept beside each context that is
out is what was done since it was handed out.
-/

set_option autoImplicit false

namespace RenderRelay

namespace Tenancy

/-- Who has a context: a worker, or nobody since the act that dropped it. -/
inductive Holder where
  | worker (name : Nat)
  | lost (act : Nat)
  deriving DecidableEq, Repr

inductive Act where
  | makeCurrent (worker : Nat) (display : Display) (draw read : Surface) (context : Context)
  | findOrCreate (worker : Nat) (display : Display) (draw read : Surface) (context : Context)
  | release (worker : Nat)
  /-- The worker loses its context without giving it back. -/
  | drop (worker : Nat)
  /-- The worker changes the shadow it has. -/
  | use (worker : Nat) (shadow : Shadow)
  | initDisplay (display : Display)
  /-- The caller, if one is named, passes the context it has. -/
  | terminateDisplay (caller : Option Nat) (display : Display)
  | destroyContext (display : Display) (context : Context)
  | destroySurface (display : Display) (surface : Surface)
  | teardown
  deriving DecidableEq, Repr

namespace Act

def worker? : Act → Option Nat
  | makeCurrent w .. => some w
  | findOrCreate w .. => some w
  | release w => some w
  | drop w => some w
  | use w _ => some w
  | terminateDisplay caller _ => caller
  | initDisplay _ => none
  | destroyContext .. => none
  | destroySurface .. => none
  | teardown => none

def handsTo (a : Act) (k : Holder) : Prop :=
  match a with
  | makeCurrent w .. => k = .worker w
  | findOrCreate w .. => k = .worker w
  | _ => False

def letsGo (a : Act) (k : Holder) : Prop :=
  match a with
  | makeCurrent w .. => k = .worker w
  | release w => k = .worker w
  | _ => False

end Act

/-- An act, and whether it was done by who had the context at that time. -/
structure Deed where
  act : Act
  own : Bool
  deriving DecidableEq, Repr

def Act.deedFor (a : Act) (k : Holder) : Deed := ⟨a, a.worker?.map Holder.worker = some k⟩

structure Holding where
  current : Current
  /-- What was done since it was handed out, the last deed in front. -/
  since : List Deed := []
  deriving DecidableEq, Repr

def Holding.noting (x : Holding) (d : Deed) : Holding := { x with since := d :: x.since }

end Tenancy

structure Tenancy where
  registry : Registry := {}
  held : Tenancy.Holder → Option Tenancy.Holding := fun _ => none
  /-- How many acts were done. -/
  acts : Nat := 0
  /-- How often a record was reaped from each slot. -/
  reaped : UInt32 → Nat := fun _ => 0

namespace Tenancy

open Function (update)

def currentOf (s : Tenancy) (w : Nat) : Option Current := (s.held (.worker w)).map Holding.current

def witnessed (a : Act) (held : Holder → Option Holding) : Holder → Option Holding :=
  fun k => (held k).map fun x => x.noting (a.deedFor k)

def outcome (s : Tenancy) (a : Act) : Registry × (Holder → Option Holding) :=
  let held := witnessed a s.held
  match a with
  | .makeCurrent w display draw read context =>
    match s.registry.makeCurrent display draw read context (s.currentOf w) with
    | (.ok (), registry, slot) =>
      (registry, update held (.worker w) (slot.map fun current => { current }))
    | (.error _, registry, slot) =>
      (registry, update held (.worker w)
        ((held (.worker w)).bind fun x => slot.map fun current => { x with current }))
  | .findOrCreate w display draw read context =>
    match s.currentOf w, s.registry.findOrCreate display draw read context with
    | none, (.ok current, registry) => (registry, update held (.worker w) (some { current }))
    | none, (.error _, registry) => (registry, held)
    | some _, _ => (s.registry, held)
  | .release w => (s.registry.giveBack (s.currentOf w), update held (.worker w) none)
  | .drop w =>
    (s.registry, update (update held (.lost s.acts) (held (.worker w))) (.worker w) none)
  | .use w shadow =>
    (s.registry, update held (.worker w) ((held (.worker w)).map fun x =>
      { x with current := { x.current with shadow } }))
  | .initDisplay display => (s.registry.initDisplay display, held)
  | .terminateDisplay caller display =>
    ((s.registry.terminateDisplay display (caller.bind s.currentOf)).2, held)
  | .destroyContext display context => ((s.registry.destroyContext display context).2, held)
  | .destroySurface display surface => (s.registry.destroySurface display surface, held)
  | .teardown => (s.registry.teardown.2, held)

/-- A slot goes to its next generation when its record is reaped. -/
def perform (s : Tenancy) (a : Act) : Tenancy where
  registry := (s.outcome a).1
  held := (s.outcome a).2
  acts := s.acts + 1
  reaped i := s.reaped i +
    if (s.outcome a).1.arena.generationAt i = s.registry.arena.generationAt i then 0 else 1

def run (s : Tenancy) (acts : List Act) : Tenancy := acts.foldl perform s

structure Bounded (s : Tenancy) : Prop where
  slots : s.registry.arena.slots.length < UInt32.size
  reaped : ∀ i, s.reaped i < UInt32.size

/-- What a deed destroys of a context that is out, besides what is destroyed of
it already. Its display counts as gone only where its holder terminated it and
it did not come up again. -/
def Deed.destroys (current : Current) (deed : Deed) (doom : Doom) : Doom :=
  match deed.act with
  | .initDisplay display =>
    if current.display = display then { doom with display := false } else doom
  | .terminateDisplay _ display =>
    if current.display = display ∧ deed.own then { doom with display := true } else doom
  | .destroyContext display context =>
    if current.display = display ∧ current.context = context then { doom with context := true }
    else doom
  | .destroySurface display surface =>
    if current.display = display then
      { doom with
        draw := doom.draw || current.draw = surface
        read := doom.read || current.read = surface }
    else doom
  | _ => doom

def doomOf (current : Current) (since : List Deed) : Doom :=
  since.foldr (Deed.destroys current) {}

structure Agrees (x : Holding) (c : ContextRecord) : Prop where
  active : c.active = true
  display : x.current.display = c.display
  context : x.current.context = c.context
  draw : x.current.draw = c.draw
  read : x.current.read = c.read
  doom : c.doom = doomOf x.current x.since

structure Coherent (r : Registry) (held : Holder → Option Holding) : Prop where
  orderly : r.Orderly
  owned : ∀ h c, r.record? h = some c → c.active = true →
    ∃ k x, held k = some x ∧ x.current.handle = h
  apart : ∀ k l x y, held k = some x → held l = some y →
    x.current.handle = y.current.handle → k = l
  agrees : ∀ k x c, held k = some x → r.record? x.current.handle = some c → Agrees x c
  torn : ∀ k x, held k = some x → r.record? x.current.handle = none →
    ∃ deed ∈ x.since, deed.act = .teardown
  issued : ∀ k x, held k = some x → r.arena.Issued x.current.handle

theorem start_coherent : Coherent {} fun _ => none where
  orderly := Registry.empty_orderly
  owned _ _ hh := absurd hh (by simp)
  apart _ _ _ _ hk := by cases hk
  agrees _ _ _ hk := by cases hk
  torn _ _ hk := by cases hk
  issued _ _ hk := by cases hk

end Tenancy

end RenderRelay
