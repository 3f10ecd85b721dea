import RenderRelay.Proofs.Shadow.Attribs
import RenderRelay.Proofs.Shadow.Slots

/-!
# Deleted names

A list of names that is deleted is gone through name by name. What comes of it is said at
once: where a name of the list was bound, in whatever unit or attribute, nothing is bound,
and the rest of the shadow is the same.
-/

set_option autoImplicit false

namespace RenderRelay

def unlessGone (gone : List UInt32) (bound : UInt32) : UInt32 := if bound ∈ gone then 0 else bound

theorem unlessGone_nil : unlessGone [] = id := by
  funext bound
  exact if_neg List.not_mem_nil

@[simp] theorem unlessGone_zero (gone : List UInt32) : unlessGone gone 0 = 0 := ite_self 0

theorem unlessGone_without (name : UInt32) (gone : List UInt32) (bound : UInt32) :
    unlessGone gone (Shadow.without name bound) = unlessGone (name :: gone) bound := by
  unfold Shadow.without
  by_cases h : bound = name
  · rw [if_pos h, unlessGone_zero]
    exact (if_pos (h ▸ List.mem_cons_self)).symm
  · rw [if_neg h]
    simp only [unlessGone, List.mem_cons, h, false_or]

theorem unlessGone_filter (gone : List UInt32) :
    unlessGone (gone.filter (· ≠ 0)) = unlessGone gone := by
  funext bound
  by_cases h : bound = 0
  · rw [h, unlessGone_zero, unlessGone_zero]
  · simp [unlessGone, h]

namespace AttribList

theorem Storage.map_id (s : Storage) : s.map id = s := by
  cases s with
  | embedded slots => exact congrArg Storage.embedded (Vector.map_id _)
  | heap slots => exact congrArg Storage.heap (Array.map_id _)

theorem Storage.map_map (s : Storage) (f g : VertexAttrib → VertexAttrib) :
    (s.map f).map g = s.map (g ∘ f) := by
  cases s with
  | embedded slots => exact congrArg Storage.embedded Vector.map_map
  | heap slots => exact congrArg Storage.heap Array.map_map

def sweep (l : AttribList) (gone : List UInt32) : AttribList :=
  { l with storage := l.storage.map fun a => { a with buffer := unlessGone gone a.buffer } }

theorem sweep_nil (l : AttribList) : l.sweep [] = l := by
  unfold sweep
  rw [unlessGone_nil]
  exact congrArg (fun storage => { l with storage }) l.storage.map_id

theorem sweep_forgetBuffer (l : AttribList) (name : UInt32) (gone : List UInt32) :
    (l.forgetBuffer name).sweep gone = l.sweep (name :: gone) := by
  unfold sweep forgetBuffer
  rw [Storage.map_map]
  congr 2
  funext a
  rw [← unlessGone_without]
  unfold Shadow.without
  dsimp only [Function.comp_apply]
  split <;> rfl

theorem buffer_sweep (l : AttribList) (gone : List UInt32) (i : Nat) :
    ((l.sweep gone).get i).buffer = unlessGone gone (l.get i).buffer := by
  have hblank : ({ ({} : VertexAttrib) with buffer := unlessGone gone 0 } : VertexAttrib) = {} := by
    rw [unlessGone_zero]
  unfold get get? sweep
  dsimp only
  split
  · rw [Storage.get_map _ hblank]
    rfl
  · exact (unlessGone_zero gone).symm

end AttribList

namespace Shadow

def sweep (s : Shadow) (cls : ObjectClass) (gone : List UInt32) : Shadow :=
  match cls with
  | .buffer =>
    { s with
      arrayBuffer := unlessGone gone s.arrayBuffer
      elementArrayBuffer := unlessGone gone s.elementArrayBuffer
      attribs := s.attribs.sweep gone }
  | .texture =>
    { s with
      units := s.units.map fun u => ⟨unlessGone gone u.texture2D, unlessGone gone u.cubeMap⟩ }
  | .framebuffer => { s with framebuffer := unlessGone gone s.framebuffer }
  | .renderbuffer => { s with renderbuffer := unlessGone gone s.renderbuffer }

variable (s : Shadow) (cls : ObjectClass) (gone : List UInt32)

theorem sweep_nil : s.sweep cls [] = s := by
  cases cls with
  | texture =>
    unfold sweep
    rw [unlessGone_nil]
    exact congrArg (fun units => { s with units }) (Vector.map_id _)
  | buffer =>
    unfold sweep
    rw [unlessGone_nil, AttribList.sweep_nil]
    rfl
  | framebuffer | renderbuffer =>
    unfold sweep
    rw [unlessGone_nil]
    rfl

theorem sweep_forget (name : UInt32) :
    (s.forget cls name).sweep cls gone = s.sweep cls (name :: gone) := by
  cases cls with
  | texture =>
    simp only [sweep, forget, forgetTexture, Vector.map_map, Function.comp_def, unlessGone_without]
  | buffer => simp only [sweep, forget, forgetBuffer, unlessGone_without,
      AttribList.sweep_forgetBuffer]
  | framebuffer => simp only [sweep, forget, forgetFramebuffer, unlessGone_without]
  | renderbuffer => simp only [sweep, forget, forgetRenderbuffer, unlessGone_without]

theorem foldl_forget : gone.foldl (·.forget cls ·) s = s.sweep cls gone := by
  induction gone generalizing s with
  | nil => exact (s.sweep_nil cls).symm
  | cons name gone ih => rw [List.foldl_cons, ih, sweep_forget]

theorem foldl_forget_filter :
    (gone.filter (· ≠ 0)).foldl (·.forget cls ·) s = s.sweep cls gone := by
  rw [foldl_forget]
  cases cls <;> simp only [sweep, AttribList.sweep, unlessGone_filter]

theorem held?_sweep (slot : Slot) : (s.sweep cls gone).held? slot =
    (s.held? slot).map fun held => if slot.cls = cls ∧ held ∈ gone then 0 else held := by
  rw [← foldl_forget]
  exact s.held?_forgetAll cls gone slot

theorem activeTexture_sweep : (s.sweep cls gone).activeTexture = s.activeTexture := by
  cases cls <;> rfl

end Shadow

end RenderRelay
