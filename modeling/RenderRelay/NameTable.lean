import RenderRelay.NameMap

/-!
# Driver names of client names

Clients choose object names by themselves. The table holds, for each class
of objects, which driver name stands behind a client name. Name zero means
"no object" on both sides and is never stored.
-/

set_option autoImplicit false

namespace RenderRelay

/-- The classes of objects whose names the driver gives out. -/
inductive ObjectClass where
  | buffer
  | texture
  | framebuffer
  | renderbuffer
  deriving DecidableEq, Repr

structure NameTable where
  map : NameMap (ObjectClass × UInt32) UInt32 := {}
  deriving DecidableEq, Repr

namespace NameTable

def size (t : NameTable) : Nat := t.map.size

def isEmpty (t : NameTable) : Bool := t.map.isEmpty

/-- The driver name behind a client name. -/
def lookup (t : NameTable) (cls : ObjectClass) (client : UInt32) : Option UInt32 :=
  if client = 0 then some 0 else t.map.lookup (cls, client)

def insert (t : NameTable) (cls : ObjectClass) (client driver : UInt32) : NameTable :=
  if client = 0 then t else ⟨t.map.insert (cls, client) driver⟩

def erase (t : NameTable) (cls : ObjectClass) (client : UInt32) : NameTable :=
  ⟨t.map.erase (cls, client)⟩

/-- Records names pair by pair; of two for one client name the later stays. -/
def insertAll (t : NameTable) (cls : ObjectClass) : List UInt32 → List UInt32 → NameTable
  | c :: client, d :: driver => (t.insert cls c d).insertAll cls client driver
  | _, _ => t

/-- Removes client names and gives the driver names that stood behind them, in
order. A name with nothing behind it gives zero, a repeated one only the first
time its driver name. -/
def takeAll (t : NameTable) (cls : ObjectClass) : List UInt32 → List UInt32 × NameTable
  | [] => ([], t)
  | c :: client =>
    let driver := if c = 0 then 0 else (t.map.lookup (cls, c)).getD 0
    let (rest, t) := (t.erase cls c).takeAll cls client
    (driver :: rest, t)

theorem lookup_zero (t : NameTable) (cls : ObjectClass) : t.lookup cls 0 = some 0 := rfl

theorem lookup_insert (t : NameTable) (cls c : ObjectClass) (client n driver : UInt32) :
    (t.insert cls client driver).lookup c n =
      if client ≠ 0 ∧ cls = c ∧ client = n then some driver else t.lookup c n := by
  by_cases h : client = 0
  · simp [insert, h]
  · by_cases hn : n = 0
    · subst hn
      simp [lookup, h]
    · simp [insert, lookup, h, hn, NameMap.lookup_insert, Prod.ext_iff]

end NameTable

end RenderRelay
