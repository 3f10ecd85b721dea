import RenderRelay.Scalar

/-!
# Byte rings

A byte ring for one writer and one reader. Its memory appears twice in a row
in the address space, so a run of up to `capacity` bytes that starts inside
the memory is contiguous and no record is split at the wrap point. The
writer moves `head`, the reader moves `tail`, and `fill` counts the committed
bytes between them. Bytes stay where they are after they were read.
-/

set_option autoImplicit false

namespace RenderRelay

/-- How a side waits for the other: it asks again by itself, or sleeps until woken. -/
inductive WaitMode where
  | busyPoll
  | blocking
  deriving DecidableEq, Repr

/-- The answer to asking for something that the other side has to provide. -/
inductive Attempt (α : Type) where
  | ready (value : α)
  /-- It is not there, and asking again is left to the caller. -/
  | absent
  /-- The caller waits until the other side has moved. -/
  | waits

namespace Attempt

variable {α β : Type}

def map (f : α → β) : Attempt α → Attempt β
  | ready a => ready (f a)
  | absent => absent
  | waits => waits

/-- Asks once, in the way of the given mode. -/
def once (mode : WaitMode) (there : Bool) (value : α) : Attempt α :=
  if there then ready value
  else match mode with
    | .busyPoll => absent
    | .blocking => waits

/-- Asks until the answer is there, in either mode. -/
def persist (there : Bool) (value : α) : Attempt α := if there then ready value else waits

end Attempt

namespace Ring

structure Settings where
  /-- Requested bytes, before they are rounded up to whole pages. -/
  capacity : Nat := 1024 * 1024
  mode : WaitMode := .busyPoll
  /-- Where the file behind the memory is made. -/
  directory : String := "/dev/shm"
  /-- Pause between two questions, in nanoseconds. -/
  pollInterval : UInt64 := 100
  deriving DecidableEq, Repr

inductive SetupError where
  | capacityTooLarge (capacity : Nat)
  | backingFile (directory : String)
  deriving DecidableEq, Repr

def SetupError.message : SetupError → String
  | .capacityTooLarge n =>
    "ring capacity " ++ toString n ++ " bytes is not representable in a record header"
  | .backingFile dir => "failed to create ring backing file in " ++ dir

/-- Misuse of a ring by its holder. -/
inductive Misuse where
  | overrunsFree (count : Nat)
  | overrunsFilled (count : Nat)
  | foreignWriter
  deriving DecidableEq, Repr

def Misuse.message : Misuse → String
  | .overrunsFree n => "commit_write of " ++ toString n ++ " bytes overruns the free region"
  | .overrunsFilled n => "commit_read of " ++ toString n ++ " bytes overruns the filled region"
  | .foreignWriter => "clear called with halves of different rings"

inductive PushError where
  | full
  | tooLarge
  deriving DecidableEq, Repr

def pageSize : Nat := 4096

/-- Whole pages that hold `n` bytes; never none. -/
def roundToPage (n : Nat) : Nat := (max n 1 + (pageSize - 1)) / pageSize * pageSize

theorem le_roundToPage (n : Nat) : n ≤ roundToPage n := by
  simp only [roundToPage, pageSize]
  omega

theorem roundToPage_pos (n : Nat) : 0 < roundToPage n := by
  simp only [roundToPage, pageSize]
  omega

/-- The token of no record. -/
def noToken : UInt32 := 0

/-- Memory that is zero until it is written. Only the part up to the last
written cell is kept. -/
structure Memory where
  cells : Array UInt8 := #[]
  deriving Repr

namespace Memory

def get (m : Memory) (i : Nat) : UInt8 := m.cells.getD i 0

def put (m : Memory) (i : Nat) (b : UInt8) : Memory :=
  if i < m.cells.size then ⟨m.cells.setIfInBounds i b⟩
  else if i = m.cells.size then ⟨m.cells.push b⟩
  else ⟨(m.cells ++ Array.replicate (i - m.cells.size) 0).push b⟩

theorem get_put (m : Memory) (i j : Nat) (b : UInt8) :
    (m.put i b).get j = if i = j then b else m.get j := by
  simp only [put, get, Array.getD_eq_getD_getElem?]
  split
  · simp [Array.getElem?_setIfInBounds]
    grind
  · split
    · simp [Array.getElem?_push]
      grind
    · simp [Array.getElem?_push, Array.getElem?_append, Array.getElem?_replicate]
      grind

/-- The `count` cells from `start` on in a memory of `size` cells that begins
again behind its end. -/
def load (m : Memory) (size start count : Nat) : Bytes :=
  (List.range count).map fun i => m.get ((start + i) % size)

/-- Writes cells from `start` on in a memory of `size` cells that begins again
behind its end. -/
def store (m : Memory) (size start : Nat) : Bytes → Memory
  | [] => m
  | b :: bs => store (m.put (start % size) b) size (start + 1) bs

@[simp] theorem length_load (m : Memory) (size start count : Nat) :
    (m.load size start count).length = count := by
  simp [load]

theorem take_load (m : Memory) (size start count n : Nat) (h : n ≤ count) :
    (m.load size start count).take n = m.load size start n := by
  simp [load, ← List.map_take, List.take_range, Nat.min_eq_left h]

end Memory

end Ring

structure Ring where
  /-- Tells rings apart. -/
  id : Nat
  capacity : Nat
  memory : Ring.Memory
  head : Nat
  tail : Nat
  fill : Nat
  lastToken : UInt32
  mode : WaitMode
  pollInterval : UInt64
  deriving Repr

namespace Ring

/-- A fresh ring of zeros. `usable` tells where backing files can be made. A
capacity that a record's size field cannot express is refused first. -/
def create (id : Nat) (settings : Settings) (usable : String → Bool) : Except SetupError Ring :=
  let capacity := roundToPage settings.capacity
  if 0xFFFFFFFF ≤ capacity then .error (.capacityTooLarge capacity)
  else if !usable settings.directory then .error (.backingFile settings.directory)
  else .ok {
    id
    capacity
    memory := {}
    head := 0
    tail := 0
    fill := 0
    lastToken := noToken
    mode := settings.mode
    pollInterval := settings.pollInterval }

def free (r : Ring) : Nat := r.capacity - r.fill

def isEmpty (r : Ring) : Bool := r.fill == 0

/-- The first `n` bytes from the reader's cursor on. -/
def peek (r : Ring) (n : Nat) : Bytes := r.memory.load r.capacity r.tail n

/-- The committed bytes, oldest first. -/
def contents (r : Ring) : Bytes := r.peek r.fill

/-! The writing side -/

/-- The length of the free region. -/
def writable (r : Ring) : Attempt Nat := .once r.mode (0 < r.free) r.free

/-- Writes at the start of the free region without committing anything. -/
def stage (r : Ring) (bs : Bytes) : Ring := { r with memory := r.memory.store r.capacity r.head bs }

/-- Publishes the first `n` bytes of the free region. -/
def commitWrite (r : Ring) (n : Nat) : Except Misuse Ring :=
  if r.free < n then .error (.overrunsFree n)
  else .ok { r with head := (r.head + n) % r.capacity, fill := r.fill + n }

def append (r : Ring) (record : Bytes) : Ring :=
  { r with
    memory := r.memory.store r.capacity r.head record
    head := (r.head + record.length) % r.capacity
    fill := r.fill + record.length }

def tryPush (r : Ring) (record : Bytes) : Except PushError Ring :=
  if r.capacity < record.length then .error .tooLarge
  else if r.free < record.length then .error .full
  else .ok (r.append record)

/-- Copies a record in once there is room for it. -/
def push (r : Ring) (record : Bytes) : Attempt (Except PushError Ring) :=
  if r.capacity < record.length then .ready (.error .tooLarge)
  else .persist (record.length ≤ r.free) (.ok (r.append record))

/-! The reading side -/

/-- The committed bytes, once there are at least `min` and at least one. -/
def waitReadable (r : Ring) (min : Nat) : Attempt Bytes :=
  .once r.mode (max min 1 ≤ r.fill) r.contents

def readable (r : Ring) : Attempt Bytes := r.waitReadable 1

/-- Steps the reader's cursor over `n` bytes. -/
def skip (r : Ring) (n : Nat) : Ring :=
  { r with tail := (r.tail + n) % r.capacity, fill := r.fill - n }

/-- Gives the first `n` committed bytes back to the writer. -/
def commitRead (r : Ring) (n : Nat) : Except Misuse Ring :=
  if r.fill < n then .error (.overrunsFilled n) else .ok (r.skip n)

/-- Takes exactly `n` bytes, waiting for them, and for one byte at least. -/
def popExact (r : Ring) (n : Nat) : Attempt (Bytes × Ring) :=
  .persist (max n 1 ≤ r.fill) (r.peek n, r.skip n)

/-- Notes the token of the last record that was handled. -/
def acknowledge (r : Ring) (token : UInt32) : Ring := { r with lastToken := token }

/-- Empties the ring; `writer` names the ring whose writing side is handed in. -/
def clear (r : Ring) (writer : Nat) : Except Misuse Ring :=
  if writer = r.id then .ok { r with head := 0, tail := 0, fill := 0 } else .error .foreignWriter

/-! Small laws -/

@[simp] theorem length_contents (r : Ring) : r.contents.length = r.fill := by
  simp [contents, peek]

theorem length_peek (r : Ring) (n : Nat) : (r.peek n).length = n := by simp [peek]

theorem peek_eq_take (r : Ring) (n : Nat) (h : n ≤ r.fill) : r.peek n = r.contents.take n := by
  simp [contents, peek, Memory.take_load, h]

end Ring

end RenderRelay
