import RenderRelay.Command.Opcode
import RenderRelay.Engine

/-!
# Which commands are answered, and with what kind of reply

The kind of a command's reply is settled by its opcode: the state of the
engine, the entry points that the driver has bound and what becomes of the
arguments decide on the value only. There is a reply just where the client
waits for one.
-/

set_option autoImplicit false

namespace RenderRelay

def Opcode.replyKind? : Opcode → Option Reply.Kind
  | getDisplay => some .display
  | initDisplay => some .initialized
  | chooseConfig => some .configs
  | createContext => some .context
  | createWindowSurface | createPbufferSurface => some .surface
  | terminateDisplay | destroyContext | destroySurface | makeCurrent | releaseThread
  | swapBuffers | isEnabled => some .bool
  | eglGetError | getAttribLocation | getUniformLocation => some .int
  | getError | checkFramebufferStatus => some .enum
  | createShader | createProgram => some .uint
  | getIntegerv => some .ints
  | _ => none

namespace Command

theorem isSome_replyKind? (c : Command) : c.opcode.replyKind?.isSome = c.expectsReply := by
  cases c <;> rfl

/-- A dropped rendering command is answered as it would have been answered. -/
theorem droppedReply_kind {c : Command} {entry : EntryPoint} (h : c.entry? = some entry) :
    c.droppedReply.map Reply.kind = c.opcode.replyKind? := by
  cases c <;> first | rfl | cases h

end Command

variable {δ : Type} [Driver δ]

namespace Scope

theorem perform_kind (s : Scope δ) {c : Command} {entry : EntryPoint}
    (h : c.entry? = some entry) : (s.perform c).1.map Reply.kind = c.opcode.replyKind? := by
  cases c <;> first | rfl | cases h

theorem enter_kind (s : Scope δ) {c : Command} {entry : EntryPoint}
    (h : c.entry? = some entry) : (s.enter entry c).1.map Reply.kind = c.opcode.replyKind? := by
  rw [enter]
  split
  · exact s.perform_kind h
  · exact Command.droppedReply_kind h

end Scope

namespace Engine

/-- The only reply of the display system that is not built in one place. -/
theorem initDisplay_kind (e : Engine δ) (display : Display) :
    (e.initDisplay display).1.kind = .initialized := by
  rw [initDisplay]
  split <;> rfl

theorem manage_kind (e : Engine δ) {c : Command} (h : c.entry? = none) :
    (e.manage c).1.map Reply.kind = c.opcode.replyKind? := by
  cases c with
  | initDisplay display => exact congrArg some (e.initDisplay_kind display)
  | _ => first | rfl | cases h

theorem execute_kind (e : Engine δ) (c : Command) :
    (e.execute c).1.map Reply.kind = c.opcode.replyKind? := by
  rw [execute]
  split
  · next h => exact e.manage_kind h
  · next entry h =>
    split
    · exact Command.droppedReply_kind h
    · exact (e.scope _).enter_kind h

theorem execute_isSome (e : Engine δ) (c : Command) :
    (e.execute c).1.isSome = c.expectsReply := by
  rw [← c.isSome_replyKind?, ← e.execute_kind c, Option.isSome_map]

/-- A command is answered just where its client waits for an answer, and with
the kind of reply that goes with its opcode. -/
theorem execute_answers (e : Engine δ) (c : Command) :
    ((e.execute c).1.isSome ↔ c.expectsReply = true) ∧
      ∀ reply ∈ (e.execute c).1, c.opcode.replyKind? = some reply.kind := by
  refine ⟨by rw [e.execute_isSome c], fun reply h => ?_⟩
  rw [← e.execute_kind c, Option.mem_def.mp h, Option.map_some]

end Engine

end RenderRelay
