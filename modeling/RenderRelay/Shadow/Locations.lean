import RenderRelay.NameMap

/-!
# Program locations

Attribute and uniform locations that the driver has told, by program.
-/

set_option autoImplicit false

namespace RenderRelay

inductive LocationKind where
  | attrib
  | uniform
  deriving DecidableEq, Repr

/-- The locations of one program. -/
structure ProgramLocations where
  attribs : NameMap String Int32 := {}
  uniforms : NameMap String Int32 := {}
  deriving DecidableEq, Repr

namespace ProgramLocations

def table (p : ProgramLocations) : LocationKind → NameMap String Int32
  | .attrib => p.attribs
  | .uniform => p.uniforms

def store (p : ProgramLocations) (kind : LocationKind) (name : String) (location : Int32) :
    ProgramLocations :=
  match kind with
  | .attrib => { p with attribs := p.attribs.insert name location }
  | .uniform => { p with uniforms := p.uniforms.insert name location }

theorem lookup_table_store (p : ProgramLocations) (k kind : LocationKind) (n name : String)
    (location : Int32) :
    ((p.store k n location).table kind).lookup name =
      if k = kind ∧ n = name then some location else (p.table kind).lookup name := by
  cases k <;> cases kind <;> simp [store, table, NameMap.lookup_insert]

end ProgramLocations

structure LocationCache where
  programs : NameMap UInt32 ProgramLocations := {}
  deriving DecidableEq, Repr

namespace LocationCache

/-- Number of programs with locations. -/
def size (c : LocationCache) : Nat := c.programs.size

def isEmpty (c : LocationCache) : Bool := c.programs.isEmpty

def lookup (c : LocationCache) (program : UInt32) (kind : LocationKind) (name : String) :
    Option Int32 := do
  ((← c.programs.lookup program).table kind).lookup name

def store (c : LocationCache) (program : UInt32) (kind : LocationKind) (name : String)
    (location : Int32) : LocationCache :=
  let locations := (c.programs.lookup program).getD {}
  ⟨c.programs.insert program (locations.store kind name location)⟩

/-- Forgets all locations of a program. -/
def invalidate (c : LocationCache) (program : UInt32) : LocationCache :=
  ⟨c.programs.erase program⟩

theorem lookup_store (c : LocationCache) (p program : UInt32) (k kind : LocationKind)
    (n name : String) (location : Int32) :
    (c.store p k n location).lookup program kind name =
      if p = program ∧ k = kind ∧ n = name then some location
      else c.lookup program kind name := by
  simp only [lookup, store, NameMap.lookup_insert]
  by_cases hp : p = program
  · subst hp
    cases h : c.programs.lookup p with
    | none =>
      have he : (({} : ProgramLocations).table kind).lookup name = none := by cases kind <;> rfl
      simp [ProgramLocations.lookup_table_store, he]
    | some l => simp [ProgramLocations.lookup_table_store]
  · simp [hp]

theorem lookup_invalidate (c : LocationCache) (p program : UInt32) (kind : LocationKind)
    (name : String) :
    (c.invalidate p).lookup program kind name =
      if p = program then none else c.lookup program kind name := by
  simp only [lookup, invalidate, NameMap.lookup_erase]
  split <;> rfl

end LocationCache

end RenderRelay
