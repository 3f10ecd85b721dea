import RenderRelay.Command
import RenderRelay.Enumerant

/-!
# Vertex attributes

The descriptors of a context's vertex attributes. The first 32 are embedded.
Touching an index behind them moves all to a heap array of exactly the needed
size, and every later growth makes a new one.
-/

set_option autoImplicit false

namespace RenderRelay

structure VertexAttrib where
  enabled : Bool := false
  pointer : AttribPointer := ⟨4, GL.float, false, 0, 0⟩
  /-- The client's name of the array buffer that was bound when the pointer was set. -/
  buffer : UInt32 := 0
  current : Color := ⟨.zero, .zero, .zero, .one⟩
  deriving DecidableEq, Repr

namespace AttribList

def embeddedCount : Nat := 32

inductive Storage where
  | embedded (slots : Vector VertexAttrib embeddedCount)
  | heap (slots : Array VertexAttrib)
  deriving DecidableEq, Repr

namespace Storage

def get (s : Storage) (i : Nat) : VertexAttrib :=
  match s with
  | embedded slots => slots.toArray.getD i {}
  | heap slots => slots.getD i {}

def set (s : Storage) (i : Nat) (a : VertexAttrib) : Storage :=
  match s with
  | embedded slots => embedded (slots.setIfInBounds i a)
  | heap slots => heap (slots.setIfInBounds i a)

def map (f : VertexAttrib → VertexAttrib) : Storage → Storage
  | embedded slots => embedded (slots.map f)
  | heap slots => heap (slots.map f)

end Storage

end AttribList

structure AttribList where
  storage : AttribList.Storage := .embedded (Vector.replicate _ {})
  /-- One more than the highest index touched so far. -/
  count : Nat := 0
  heapAllocations : Nat := 0
  deriving DecidableEq, Repr

namespace AttribList

def isEmpty (l : AttribList) : Bool := l.count == 0

def isEmbedded (l : AttribList) : Bool :=
  match l.storage with
  | .embedded _ => true
  | .heap _ => false

def get? (l : AttribList) (i : Nat) : Option VertexAttrib :=
  if i < l.count then some (l.storage.get i) else none

/-- The descriptor at an index, or the default one where none was touched. -/
def get (l : AttribList) (i : Nat) : VertexAttrib := (l.get? i).getD {}

def toList (l : AttribList) : List VertexAttrib := (List.range l.count).map l.storage.get

def growTo (l : AttribList) (n : Nat) : AttribList :=
  if n ≤ embeddedCount && l.isEmbedded then { l with count := n }
  else {
    storage := .heap (l.toList ++ List.replicate (n - l.count) ({} : VertexAttrib)).toArray
    count := n
    heapAllocations := l.heapAllocations + 1 }

/-- Makes sure that there is a descriptor at `i`. -/
def touch (l : AttribList) (i : Nat) : AttribList := if i < l.count then l else l.growTo (i + 1)

/-- Changes the descriptor at `i`, which is touched by it. -/
def update (l : AttribList) (i : Nat) (f : VertexAttrib → VertexAttrib) : AttribList :=
  let l := l.touch i
  { l with storage := l.storage.set i (f (l.storage.get i)) }

/-- Forgets a buffer in every descriptor that reads from it. -/
def forgetBuffer (l : AttribList) (buffer : UInt32) : AttribList :=
  { l with storage := l.storage.map fun a => if a.buffer = buffer then { a with buffer := 0 } else a }

theorem length_toList (l : AttribList) : l.toList.length = l.count := by simp [toList]

theorem count_touch (l : AttribList) (i : Nat) : (l.touch i).count = max l.count (i + 1) := by
  unfold touch growTo
  split
  · omega
  · split <;> dsimp only <;> omega

theorem count_update (l : AttribList) (i : Nat) (f : VertexAttrib → VertexAttrib) :
    (l.update i f).count = max l.count (i + 1) :=
  count_touch l i

end AttribList

end RenderRelay
