import Mathlib.Logic.Function.Iterate
import RenderRelay.Channel
import RenderRelay.Engine

/-!
# Commands given to an engine directly

What a list of commands does to an engine that is given one after the other,
what its calls return, and the script that a server of these commands has to
follow: each is carried out, its reply is posted, and it is acknowledged.
-/

set_option autoImplicit false

namespace RenderRelay

def tokenAfter (n : Nat) : UInt32 := nextToken^[n] Ring.noToken

theorem tokenAfter_succ (n : Nat) : tokenAfter (n + 1) = nextToken (tokenAfter n) :=
  Function.iterate_succ_apply' nextToken n Ring.noToken

namespace Command

/-- The commands up to the first shutdown, which is the last of them. -/
def untilShutdown : List Command → List Command
  | [] => []
  | c :: cs => if c = .shutdown then [c] else c :: untilShutdown cs

theorem untilShutdown_append {cs : List Command} (h : .shutdown ∉ cs) (rest : List Command) :
    untilShutdown (cs ++ rest) = cs ++ untilShutdown rest := by
  induction cs with
  | nil => rfl
  | cons c cs ih =>
    have hc : c ≠ .shutdown := Ne.symm (List.ne_of_not_mem_cons h)
    rw [List.cons_append, untilShutdown, if_neg hc, ih (List.not_mem_of_not_mem_cons h),
      List.cons_append]

theorem untilShutdown_of_not_mem {cs : List Command} (h : .shutdown ∉ cs) :
    untilShutdown cs = cs := by
  have hu := untilShutdown_append h []
  rwa [List.append_nil, untilShutdown, List.append_nil] at hu

theorem untilShutdown_append_shutdown {cs : List Command} (h : .shutdown ∉ cs)
    (rest : List Command) : untilShutdown (cs ++ .shutdown :: rest) = cs ++ [.shutdown] := by
  rw [untilShutdown_append h, untilShutdown, if_pos rfl]

/-- The next command is among those up to the first shutdown if none before it is one. -/
theorem append_singleton_prefix {cs : List Command} (h : .shutdown ∉ cs) (c : Command)
    (rest : List Command) : cs ++ [c] <+: untilShutdown (cs ++ c :: rest) := by
  rw [untilShutdown_append h, untilShutdown]
  apply (List.prefix_append_right_inj cs).mpr
  split
  · exact List.prefix_rfl
  · exact ⟨_, rfl⟩

end Command

inductive Event where
  | passed (command : Command)
  | posted (token : UInt32) (reply : Reply)
  | acknowledged (token : UInt32)
  deriving DecidableEq, Repr

namespace Event

def command? : Event → Option Command
  | passed c => some c
  | _ => none

def isAcknowledgement : Event → Bool
  | acknowledged _ => true
  | _ => false

end Event

def passedOf (log : List Event) : List Command := log.filterMap Event.command?

def handledOf (log : List Event) : Nat := log.countP Event.isAcknowledgement

theorem passedOf_append (a b : List Event) : passedOf (a ++ b) = passedOf a ++ passedOf b :=
  List.filterMap_append ..

theorem handledOf_append (a b : List Event) : handledOf (a ++ b) = handledOf a + handledOf b :=
  List.countP_append ..

namespace Engine

variable {δ : Type} [Driver δ]

def after (e : Engine δ) (cs : List Command) : Engine δ := cs.foldl (fun e c => (e.execute c).2) e

def calls (e : Engine δ) : List Command → List (Command × Reply)
  | [] => []
  | c :: cs => ((e.execute c).1.map (c, ·)).toList ++ (e.execute c).2.calls cs

def handling (e : Engine δ) (token : UInt32) (c : Command) : List Event :=
  .passed c :: ((e.execute c).1.map (.posted token)).toList

def script (e : Engine δ) (k : Nat) : List Command → List Event
  | [] => []
  | c :: cs =>
    e.handling (tokenAfter (k + 1)) c ++
      .acknowledged (tokenAfter (k + 1)) :: (e.execute c).2.script (k + 1) cs

theorem after_append (e : Engine δ) (as bs : List Command) :
    e.after (as ++ bs) = (e.after as).after bs := List.foldl_append ..

theorem after_singleton (e : Engine δ) (c : Command) : e.after [c] = (e.execute c).2 := rfl

theorem calls_append (e : Engine δ) (as bs : List Command) :
    e.calls (as ++ bs) = e.calls as ++ (e.after as).calls bs := by
  induction as generalizing e with
  | nil => rfl
  | cons c as ih => rw [List.cons_append, calls, calls, ih, List.append_assoc]; rfl

theorem calls_singleton (e : Engine δ) (c : Command) :
    e.calls [c] = ((e.execute c).1.map (c, ·)).toList := List.append_nil _

theorem script_append (e : Engine δ) (k : Nat) (as bs : List Command) :
    e.script k (as ++ bs) = e.script k as ++ (e.after as).script (k + as.length) bs := by
  induction as generalizing e k with
  | nil => rfl
  | cons c as ih =>
    rw [List.cons_append, script, script, ih, List.append_assoc, List.cons_append,
      List.length_cons, Nat.add_assoc, Nat.add_comm 1]
    rfl

theorem script_append_singleton (e : Engine δ) (cs : List Command) (c : Command) :
    e.script 0 (cs ++ [c]) =
      e.script 0 cs ++ ((e.after cs).handling (tokenAfter (cs.length + 1)) c ++
        [.acknowledged (tokenAfter (cs.length + 1))]) := by
  rw [script_append, Nat.zero_add]
  rfl

theorem script_prefix {as bs : List Command} (h : as <+: bs) (e : Engine δ) (k : Nat) :
    e.script k as <+: e.script k bs := by
  obtain ⟨cs, rfl⟩ := h
  rw [script_append]
  exact List.prefix_append ..

theorem calls_prefix {as bs : List Command} (h : as <+: bs) (e : Engine δ) :
    e.calls as <+: e.calls bs := by
  obtain ⟨cs, rfl⟩ := h
  rw [calls_append]
  exact List.prefix_append ..

theorem length_calls_le (e : Engine δ) (cs : List Command) : (e.calls cs).length ≤ cs.length := by
  induction cs generalizing e with
  | nil => exact Nat.le_refl _
  | cons c cs ih =>
    have h := ih (e.execute c).2
    rw [calls, List.length_append, List.length_cons]
    cases (e.execute c).1 with
    | none => exact Nat.le_succ_of_le ((Nat.zero_add _).symm ▸ h)
    | some reply =>
      simp only [Option.map_some, Option.toList_some, List.length_singleton]
      omega

theorem length_script_le (e : Engine δ) (k : Nat) (cs : List Command) :
    (e.script k cs).length ≤ 3 * cs.length := by
  induction cs generalizing e k with
  | nil => exact Nat.le_refl _
  | cons c cs ih =>
    have h := ih (e.execute c).2 (k + 1)
    have hh : (e.handling (tokenAfter (k + 1)) c).length ≤ 2 := by
      rw [handling]
      cases (e.execute c).1 <;> simp
    rw [script, List.length_append, List.length_cons, List.length_cons]
    omega

theorem passedOf_handling (e : Engine δ) (token : UInt32) (c : Command) :
    passedOf (e.handling token c) = [c] := by
  rw [handling]
  cases (e.execute c).1 <;> rfl

theorem handledOf_handling (e : Engine δ) (token : UInt32) (c : Command) :
    handledOf (e.handling token c) = 0 := by
  rw [handling]
  cases (e.execute c).1 <;> rfl

theorem passedOf_script (e : Engine δ) (k : Nat) (cs : List Command) :
    passedOf (e.script k cs) = cs := by
  induction cs generalizing e k with
  | nil => rfl
  | cons c cs ih =>
    rw [script, passedOf_append, passedOf_handling]
    exact congrArg (c :: ·) (ih ..)

theorem handledOf_script (e : Engine δ) (k : Nat) (cs : List Command) :
    handledOf (e.script k cs) = cs.length := by
  induction cs generalizing e k with
  | nil => rfl
  | cons c cs ih =>
    have h := ih (e.execute c).2 (k + 1)
    rw [script, handledOf_append, handledOf_handling, handledOf, List.countP_cons_of_pos rfl]
    rw [handledOf] at h
    rw [h, List.length_cons, Nat.zero_add]

end Engine

end RenderRelay
