import RenderRelay.Driver.Call
import RenderRelay.Enumerant

/-!
# Drivers

A driver tells which entry points it has and answers calls of them. Callers
ask first whether an entry point is bound; a call of one that is not does
nothing, and its answer is the empty one.
-/

set_option autoImplicit false

namespace RenderRelay

class Driver (δ : Type) where
  bound : δ → EntryPoint → Bool
  perform : δ → (c : Call) → c.Answer × δ

/-- The answer that stands for nothing. -/
def AnswerKind.empty : (k : AnswerKind) → k.Value
  | nothing => ()
  | flag => false
  | enum => 0
  | int => 0
  | name => 0
  | display => .none
  | context => .none
  | surface => .none
  | version => none
  | configs => none
  | names => []
  | values => []

namespace Call

/-- The answer to a call of an entry point that is not bound. Arrays stay as they were passed. -/
def unanswered : (c : Call) → c.Answer
  | getError => GL.invalidOperation
  | location .. => (-1 : Int32)
  | generate _ names => names
  | getIntegerv _ values => values
  | c => c.entry.answer.empty

/-- The answer to a call that the driver fails. It gives no names, and leaves
the array of a query as it was passed. -/
def failed : (c : Call) → c.Answer
  | location .. => (-1 : Int32)
  | generate _ names => names.map fun _ => (0 : UInt32)
  | getIntegerv _ values => values
  | c => c.entry.answer.empty

end Call

end RenderRelay
