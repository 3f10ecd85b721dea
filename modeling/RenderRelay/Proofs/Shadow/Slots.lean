import Mathlib.Logic.Function.Basic
import RenderRelay.Driver.Call
import RenderRelay.Shadow

/-!
# Binding slots

A context binds one object to each of its slots: to a target of a class and,
for textures, on a unit. The shadow holds a client name for every slot, the
driver holds an object, namely the one of the last bind call or none, if that
object was deleted since.
-/

set_option autoImplicit false

namespace RenderRelay

open Function (update)

structure Slot where
  cls : ObjectClass
  target : Enum
  /-- Zero but for textures. -/
  unit : Enum
  deriving DecidableEq, Repr

def Slot.on (unit : Enum) (cls : ObjectClass) (target : Enum) : Slot :=
  ⟨cls, target, if cls = .texture then unit else 0⟩

/-- Units that have a name. -/
def Slot.HasUnit (unit : Enum) : Prop := GL.texture0 ≤ unit ∧ unit ≤ GL.texture31

def Slot.Real (slot : Slot) : Prop :=
  if slot.cls = .texture then HasUnit slot.unit else slot.unit = 0

theorem Slot.on_real {unit : Enum} (hu : HasUnit unit) (cls : ObjectClass) (target : Enum) :
    (on unit cls target).Real := by
  cases cls <;> first | exact hu | rfl

/-! What the driver has bound -/

structure Holdings where
  unit : Enum := GL.texture0
  object : Slot → UInt32 := fun _ => 0

namespace Holdings

/-- What a call changes. Other objects of a class may be deleted with the one bound. -/
def after (b : Holdings) : Call → Holdings
  | .activeTexture unit => { b with unit }
  | .bind cls target name => { b with object := update b.object (.on b.unit cls target) name }
  | .delete cls names =>
    { b with object := fun slot =>
        if slot.cls = cls ∧ b.object slot ∈ names then 0 else b.object slot }
  | _ => b

def replay (calls : List Call) : Holdings := calls.foldl after {}

theorem replay_append (as bs : List Call) : replay (as ++ bs) = bs.foldl after (replay as) :=
  List.foldl_append ..

end Holdings

def Call.Idle : Call → Prop
  | .activeTexture _ | .bind .. | .delete .. | .generate .. => False
  | _ => True

theorem Holdings.after_of_idle (b : Holdings) {c : Call} (hc : c.Idle) : b.after c = b := by
  cases c <;> first | rfl | exact hc.elim

theorem Holdings.foldl_of_idle (b : Holdings) {calls : List Call} (hc : ∀ c ∈ calls, c.Idle) :
    calls.foldl after b = b := by
  induction calls with
  | nil => rfl
  | cons c calls ih =>
    obtain ⟨hc, hcalls⟩ := List.forall_mem_cons.mp hc
    rw [List.foldl_cons, b.after_of_idle hc, ih hcalls]

/-! What the shadow holds -/

structure Bindings where
  arrayBuffer : UInt32
  elementArrayBuffer : UInt32
  framebuffer : UInt32
  renderbuffer : UInt32
  activeTexture : Enum
  units : Vector TextureUnit textureUnitCount

namespace Shadow

def bindings (s : Shadow) : Bindings :=
  ⟨s.arrayBuffer, s.elementArrayBuffer, s.framebuffer, s.renderbuffer, s.activeTexture, s.units⟩

/-- The client name in a slot; none for a target the class does not have. -/
def held? (s : Shadow) (slot : Slot) : Option UInt32 :=
  { s with activeTexture := slot.unit }.binding? slot.cls slot.target

variable {s t : Shadow}

theorem held?_on (s : Shadow) (cls : ObjectClass) (target : Enum) :
    s.held? (.on s.activeTexture cls target) = s.binding? cls target := by
  cases cls <;> rfl

theorem held?_of_bindings (h : t.bindings = s.bindings) (slot : Slot) :
    t.held? slot = s.held? slot := by
  obtain ⟨cls, target, unit⟩ := slot
  obtain ⟨ha, he, hf, hr, -, hu⟩ := Bindings.mk.inj h
  cases cls <;> simp only [held?, binding?, Shadow.unit, activeUnit, ha, he, hf, hr, hu]

theorem activeTexture_setBinding (s : Shadow) (cls : ObjectClass) (target : Enum) (name : UInt32) :
    (s.setBinding cls target name).activeTexture = s.activeTexture := by
  unfold setBinding
  (repeat' split) <;> rfl

theorem activeTexture_forgetAll (s : Shadow) (cls : ObjectClass) (names : List UInt32) :
    (names.foldl (·.forget cls ·) s).activeTexture = s.activeTexture := by
  induction names generalizing s with
  | nil => rfl
  | cons name names ih =>
    refine (ih (s.forget cls name)).trans ?_
    cases cls <;> rfl

theorem activeUnit_inj {u v : Enum} (hu : Slot.HasUnit u) (hv : Slot.HasUnit v)
    (h : ({ s with activeTexture := u } : Shadow).activeUnit =
      ({ s with activeTexture := v } : Shadow).activeUnit) : u = v := by
  have hsub : ∀ w, Slot.HasUnit w → (w - GL.texture0).toNat = w.toNat - 0x84C0 ∧
      0x84C0 ≤ w.toNat ∧ w.toNat ≤ 0x84DF := by
    intro w hw
    have hlo : GL.texture0.toNat ≤ w.toNat := UInt32.le_iff_toNat_le.mp hw.1
    have hhi : w.toNat ≤ GL.texture31.toNat := UInt32.le_iff_toNat_le.mp hw.2
    exact ⟨UInt32.toNat_sub_of_le _ _ hw.1, hlo, hhi⟩
  have hmin := congrArg Fin.val h
  have htotal : textureUnitCount = 32 := rfl
  simp only [activeUnit, htotal] at hmin
  obtain ⟨hu', hulo, huhi⟩ := hsub u hu
  obtain ⟨hv', hvlo, hvhi⟩ := hsub v hv
  apply UInt32.toNat_inj.mp
  omega

/-- The texture names of another unit stay, those of the active one are set. -/
theorem units_setUnit (s : Shadow) (u : TextureUnit) {unit : Enum}
    (hs : Slot.HasUnit s.activeTexture) (hu : Slot.HasUnit unit) :
    { s.setUnit u with activeTexture := unit }.unit =
      if unit = s.activeTexture then u else { s with activeTexture := unit }.unit := by
  show (s.units.set s.activeUnit u)[({ s with activeTexture := unit } : Shadow).activeUnit] = _
  rw [Fin.getElem_fin, Vector.getElem_set]
  by_cases he : unit = s.activeTexture
  · subst he
    rw [if_pos rfl, if_pos rfl]
  · have hne : s.activeUnit.val ≠ ({ s with activeTexture := unit } : Shadow).activeUnit.val :=
      fun h => he (activeUnit_inj hu hs (s := s) (Fin.ext h.symm))
    rw [if_neg hne, if_neg he]
    rfl

theorem held?_setBinding_of_ne (s : Shadow) {cls : ObjectClass} (target : Enum) (name : UInt32)
    {slot : Slot} (hc : slot.cls ≠ cls) :
    (s.setBinding cls target name).held? slot = s.held? slot := by
  obtain ⟨c, t, unit⟩ := slot
  cases cls <;> cases c <;> first
    | exact absurd rfl hc
    | (simp only [setBinding]
       (repeat' split) <;> rfl)

theorem held?_setTexture {target : Enum} (name : UInt32)
    (htarget : (s.binding? .texture target).isSome) (hs : Slot.HasUnit s.activeTexture)
    {t unit : Enum} (hu : Slot.HasUnit unit) :
    (s.setBinding .texture target name).held? ⟨.texture, t, unit⟩ =
      if t = target ∧ unit = s.activeTexture then some name else s.held? ⟨.texture, t, unit⟩ := by
  have hheld : ∀ s' : Shadow, s'.held? ⟨.texture, t, unit⟩ =
      if t = GL.texture2D then some { s' with activeTexture := unit }.unit.texture2D
      else if t = GL.textureCubeMap then some { s' with activeTexture := unit }.unit.cubeMap
      else none := fun _ => rfl
  have hset := fun u => s.units_setUnit u hs hu
  have hactive : unit = s.activeTexture → { s with activeTexture := unit }.unit = s.unit := by
    rintro rfl
    rfl
  simp only [binding?] at htarget
  rw [hheld s]
  generalize { s with activeTexture := unit }.unit = old at hset hactive
  split at htarget
  · next ht =>
    have hnew : s.setBinding .texture target name = s.setUnit { s.unit with texture2D := name } :=
      if_pos ht
    rw [hnew, hheld, hset]
    grind
  · next ht =>
    split at htarget
    · next ht' =>
      have hnew : s.setBinding .texture target name = s.setUnit { s.unit with cubeMap := name } :=
        (if_neg ht).trans (if_pos ht')
      rw [hnew, hheld, hset]
      grind
    · cases htarget

/-- A name that is bound goes to the slot of the target, and to no other. -/
theorem held?_setBinding {cls : ObjectClass} {target : Enum} (name : UInt32)
    (htarget : (s.binding? cls target).isSome) (hs : Slot.HasUnit s.activeTexture) {slot : Slot}
    (hslot : slot.Real) : (s.setBinding cls target name).held? slot =
      if slot = .on s.activeTexture cls target then some name else s.held? slot := by
  obtain ⟨c, t, unit⟩ := slot
  by_cases hc : c = cls
  · subst hc
    have hon : (⟨c, t, unit⟩ : Slot) = .on s.activeTexture c target ↔
        t = target ∧ (c = .texture → unit = s.activeTexture) := by
      cases c <;> simp_all [Slot.on, Slot.Real]
    simp only [hon]
    cases c with
    | texture => simpa using held?_setTexture name htarget hs hslot
    | _ => grind [held?, binding?, setBinding]
  · rw [s.held?_setBinding_of_ne target name hc, if_neg fun h => hc (congrArg Slot.cls h)]

theorem held?_forget (s : Shadow) (cls : ObjectClass) (name : UInt32) (slot : Slot) :
    (s.forget cls name).held? slot =
      (s.held? slot).map fun held => if slot.cls = cls ∧ held = name then 0 else held := by
  obtain ⟨c, t, unit⟩ := slot
  by_cases hc : c = cls
  · subst hc
    cases c with
    | texture =>
      have hunit : { s.forgetTexture name with activeTexture := unit }.unit =
          ⟨without name { s with activeTexture := unit }.unit.texture2D,
            without name { s with activeTexture := unit }.unit.cubeMap⟩ := by
        simp only [Shadow.unit, forgetTexture, Fin.getElem_fin, Vector.getElem_map]
        rfl
      simp only [held?, binding?, forget, hunit, without]
      grind
    | _ => grind [held?, binding?, forget, forgetBuffer, forgetFramebuffer, forgetRenderbuffer,
        without]
  · have hsame : (s.forget cls name).held? ⟨c, t, unit⟩ = s.held? ⟨c, t, unit⟩ := by
      cases cls <;> cases c <;> first | exact absurd rfl hc | rfl
    rw [hsame]
    simp [hc]

theorem held?_forgetAll (s : Shadow) (cls : ObjectClass) (names : List UInt32) (slot : Slot) :
    (names.foldl (·.forget cls ·) s).held? slot =
      (s.held? slot).map fun held => if slot.cls = cls ∧ held ∈ names then 0 else held := by
  induction names generalizing s with
  | nil => simp
  | cons name names ih =>
    rw [List.foldl_cons, ih, held?_forget, Option.map_map]
    congr 1
    funext held
    by_cases hc : slot.cls = cls <;> by_cases hn : held = name <;> simp [hc, hn]

end Shadow

end RenderRelay
