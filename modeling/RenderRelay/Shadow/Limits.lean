import RenderRelay.Enumerant

/-!
# Driver limits

Limits of the driver that a context asks for once. The first answer stands
for the lifetime of the context.
-/

set_option autoImplicit false

namespace RenderRelay

inductive Limit where
  | maxVertexAttribs
  | maxTextureSize
  | maxCubeMapTextureSize
  | maxRenderbufferSize
  | maxTextureImageUnits
  | maxCombinedTextureImageUnits
  | maxVaryingVectors
  | maxVertexUniformVectors
  | maxFragmentUniformVectors
  | maxVertexTextureImageUnits
  deriving DecidableEq, Repr

namespace Limit

def all : List Limit :=
  [.maxVertexAttribs, .maxTextureSize, .maxCubeMapTextureSize, .maxRenderbufferSize,
   .maxTextureImageUnits, .maxCombinedTextureImageUnits, .maxVaryingVectors,
   .maxVertexUniformVectors, .maxFragmentUniformVectors, .maxVertexTextureImageUnits]

def name : Limit → String
  | maxVertexAttribs => "MaxVertexAttribs"
  | maxTextureSize => "MaxTextureSize"
  | maxCubeMapTextureSize => "MaxCubeMapTextureSize"
  | maxRenderbufferSize => "MaxRenderbufferSize"
  | maxTextureImageUnits => "MaxTextureImageUnits"
  | maxCombinedTextureImageUnits => "MaxCombinedTextureImageUnits"
  | maxVaryingVectors => "MaxVaryingVectors"
  | maxVertexUniformVectors => "MaxVertexUniformVectors"
  | maxFragmentUniformVectors => "MaxFragmentUniformVectors"
  | maxVertexTextureImageUnits => "MaxVertexTextureImageUnits"

/-- The parameter that asks the driver for the limit. -/
def pname : Limit → Enum
  | maxVertexAttribs => GL.maxVertexAttribs
  | maxTextureSize => GL.maxTextureSize
  | maxCubeMapTextureSize => GL.maxCubeMapTextureSize
  | maxRenderbufferSize => GL.maxRenderbufferSize
  | maxTextureImageUnits => GL.maxTextureImageUnits
  | maxCombinedTextureImageUnits => GL.maxCombinedTextureImageUnits
  | maxVaryingVectors => GL.maxVaryingVectors
  | maxVertexUniformVectors => GL.maxVertexUniformVectors
  | maxFragmentUniformVectors => GL.maxFragmentUniformVectors
  | maxVertexTextureImageUnits => GL.maxVertexTextureImageUnits

def ofPname? (pname : Enum) : Option Limit := all.find? (·.pname == pname)

theorem ofPname?_pname (l : Limit) : ofPname? l.pname = some l := by cases l <;> rfl

/-- What every implementation guarantees; it stands in for an answer that the
driver cannot be asked for. -/
def minimum : Limit → Int32
  | maxVertexAttribs => 8
  | maxTextureSize => 64
  | maxCubeMapTextureSize => 16
  | maxRenderbufferSize => 1
  | maxTextureImageUnits => 8
  | maxCombinedTextureImageUnits => 8
  | maxVaryingVectors => 8
  | maxVertexUniformVectors => 128
  | maxFragmentUniformVectors => 16
  | maxVertexTextureImageUnits => 0

def index : Limit → Fin 10
  | maxVertexAttribs => 0
  | maxTextureSize => 1
  | maxCubeMapTextureSize => 2
  | maxRenderbufferSize => 3
  | maxTextureImageUnits => 4
  | maxCombinedTextureImageUnits => 5
  | maxVaryingVectors => 6
  | maxVertexUniformVectors => 7
  | maxFragmentUniformVectors => 8
  | maxVertexTextureImageUnits => 9

theorem index_injective {a b : Limit} (h : a.index = b.index) : a = b := by
  revert h
  cases a <;> cases b <;> decide

end Limit

structure Limits where
  answers : Vector (Option Int32) 10 := Vector.replicate 10 none
  deriving DecidableEq, Repr

namespace Limits

def cached? (l : Limits) (limit : Limit) : Option Int32 := l.answers[limit.index]

/-- Keeps the driver's answer unless there is one already. -/
def record (l : Limits) (limit : Limit) (value : Int32) : Limits :=
  match l.cached? limit with
  | some _ => l
  | none => ⟨l.answers.set limit.index (some value)⟩

theorem cached?_record (l : Limits) (a b : Limit) (value : Int32) :
    (l.record a value).cached? b =
      if a = b then some ((l.cached? a).getD value) else l.cached? b := by
  cases h : l.cached? a with
  | some v =>
    simp only [record, h]
    split
    · next hab => simp [← hab, h]
    · rfl
  | none =>
    have hr : l.record a value = ⟨l.answers.set a.index (some value)⟩ := by simp only [record, h]
    simp only [hr, cached?, Fin.getElem_fin, Vector.getElem_set, Fin.val_inj]
    by_cases hab : a = b
    · simp [hab]
    · have hi : a.index ≠ b.index := mt Limit.index_injective hab
      simp [hab, hi]

end Limits

end RenderRelay
