import Mathlib.Algebra.Ring.Nat
import Mathlib.Order.Bounds.Basic
import RenderRelay.Proofs.Engine.Redundancy

/-!
# Uploads stay within what the client sent

The driver reads an image row by row from where the client's bytes lie, and knows of
no end but the one it works out. So the rows have to be counted as the driver counts
them: with the alignment that it was told last, which the shadow holds, and without
padding behind the last row.
-/

set_option autoImplicit false

namespace RenderRelay

/-! ## What the driver reads of an image -/

namespace Image

variable {pixel width height alignment n : Nat}

/-- Where each row starts at the least multiple of the alignment that the row before
leaves free, every byte of every pixel is among the first `n`. -/
def Within (pixel width height alignment n : Nat) : Prop :=
  ∀ stride, IsLeast {m | alignment ∣ m ∧ width * pixel ≤ m} stride →
    ∀ y < height, ∀ x < width, ∀ b < pixel, y * stride + x * pixel + b < n

theorem roundUp_isLeast (n : Nat) (ha : 0 < alignment) :
    IsLeast {m | alignment ∣ m ∧ n ≤ m} (roundUp n alignment) := by
  refine ⟨⟨Nat.dvd_mul_left .., le_roundUp n alignment ha⟩, ?_⟩
  rintro m ⟨⟨q, rfl⟩, hn⟩
  have hq : (n + alignment - 1) / alignment < q + 1 := by
    rw [Nat.div_lt_iff_lt_mul ha, Nat.add_mul, Nat.mul_comm q]
    omega
  rw [roundUp, Nat.mul_comm alignment]
  exact Nat.mul_le_mul_right _ (Nat.lt_succ_iff.mp hq)

theorem roundUp_lt (n : Nat) (ha : 0 < alignment) : roundUp n alignment < n + alignment := by
  have hle := Nat.div_mul_le_self (n + alignment - 1) alignment
  unfold roundUp
  omega

theorem stride_isLeast (pixel width : Nat) (ha : 0 < alignment) :
    IsLeast {m | alignment ∣ m ∧ width * pixel ≤ m} (stride pixel width alignment) := by
  rw [Nat.mul_comm width]
  exact roundUp_isLeast _ ha

theorem within_iff (ha : 0 < alignment) (hp : 0 < pixel)
    (hs : size? pixel width height alignment = some n) (len : Nat) :
    Within pixel width height alignment len ↔ n ≤ len := by
  have hstride := stride_isLeast pixel width ha
  unfold size? at hs
  split at hs
  · next hzero =>
    obtain rfl := Option.some.inj hs
    refine iff_of_true (fun _ _ y hy x hx => ?_) (Nat.zero_le _)
    omega
  · next hzero =>
    obtain ⟨-, hs⟩ := Option.ite_none_right_eq_some.mp hs
    obtain rfl := Option.some.inj hs
    obtain ⟨hw, hh⟩ := not_or.mp hzero
    constructor
    · intro h
      have hlast := h _ hstride (height - 1) (by omega) (width - 1) (by omega) (pixel - 1)
        (by omega)
      have hrow : (width - 1) * pixel + pixel = pixel * width := by
        rw [← Nat.succ_mul, Nat.succ_eq_add_one, Nat.sub_add_cancel (by omega), Nat.mul_comm]
      rw [Nat.mul_comm (height - 1)] at hlast
      omega
    · intro hlen s hleast y hy x hx b hb
      obtain rfl := hleast.unique hstride
      have hrows : y * stride pixel width alignment ≤ (height - 1) * stride pixel width alignment :=
        Nat.mul_le_mul_right _ (by omega)
      have hrow : (x + 1) * pixel ≤ width * pixel := Nat.mul_le_mul_right _ hx
      rw [Nat.add_mul, Nat.one_mul, Nat.mul_comm width] at hrow
      rw [Nat.mul_comm (height - 1)] at hrows
      omega

/-- The size of every image that a texture may have can be expressed. -/
theorem isSome_size? (hp : pixel ≤ 4) (hw : width < 2 ^ 31) (hh : height < 2 ^ 31)
    (ha : 0 < alignment) (ha' : alignment ≤ 8) :
    (size? pixel width height alignment).isSome = true := by
  have hrow : pixel * width ≤ 4 * (2 ^ 31 - 1) := Nat.mul_le_mul hp (by omega)
  have hstride : stride pixel width alignment ≤ 2 ^ 33 + 3 := by
    have hlt := roundUp_lt (pixel * width) ha
    unfold stride
    omega
  have hrows : stride pixel width alignment * (height - 1) ≤ (2 ^ 33 + 3) * (2 ^ 31 - 2) :=
    Nat.mul_le_mul hstride (by omega)
  have hmax : UInt64.size = 2 ^ 64 := rfl
  unfold size?
  split
  · rfl
  · dsimp only
    rw [if_pos ⟨by omega, by omega⟩]
    rfl

theorem pixelSize?_bounds {format type : Enum} (h : pixelSize? format type = some pixel) :
    0 < pixel ∧ pixel ≤ 4 := by
  unfold pixelSize? at h
  split at h
  · repeat' (split at h; · cases h; decide)
    cases h
  · repeat' (split at h; · cases h; decide)
    cases h

end Image

def TexImage.Within (image : TexImage) (alignment : Int32) (n : Nat) : Prop :=
  ∃ pixel, Image.pixelSize? image.format image.type = some pixel ∧
    Image.Within pixel image.width.toInt.toNat image.height.toInt.toNat alignment.toInt.toNat n

theorem TexImage.extent_lt (extent : Int32) : extent.toInt.toNat < 2 ^ 31 := by
  have hlt := extent.toInt_lt
  omega

theorem Legal.alignment_bounds {alignment : Int32} (h : alignment ∈ Legal.alignments) :
    0 < alignment.toInt.toNat ∧ alignment.toInt.toNat ≤ 8 := by
  simp only [Legal.alignments, List.mem_cons, List.not_mem_nil, or_false] at h
  rcases h with rfl | rfl | rfl | rfl <;> decide

/-- An image has a size, and covers what is read of it where it is not shorter than that. -/
theorem TexImage.exists_size {image : TexImage} {alignment : Int32}
    (ha : alignment ∈ Legal.alignments) {pixel : Nat}
    (hp : Image.pixelSize? image.format image.type = some pixel) :
    ∃ size, Image.size? pixel image.width.toInt.toNat image.height.toInt.toNat
        alignment.toInt.toNat = some size ∧
      ∀ n, image.Within alignment n ↔ size ≤ n := by
  obtain ⟨hpixel, hpixel'⟩ := Image.pixelSize?_bounds hp
  obtain ⟨ha, ha'⟩ := Legal.alignment_bounds ha
  obtain ⟨size, hsize⟩ := Option.isSome_iff_exists.mp
    (Image.isSome_size? hpixel' (extent_lt image.width) (extent_lt image.height) ha ha')
  refine ⟨size, hsize, fun n => ?_⟩
  rw [← Image.within_iff ha hpixel hsize]
  constructor
  · rintro ⟨pixel', hp', h⟩
    obtain rfl := Option.some.inj (hp.symm.trans hp')
    exact h
  · exact fun h => ⟨pixel, hp, h⟩

theorem Plan.covers_iff {image : TexImage} {alignment : Int32}
    (ha : alignment ∈ Legal.alignments) {pixel : Nat}
    (hp : Image.pixelSize? image.format image.type = some pixel) :
    covers image pixel alignment = true ↔
      ∀ bytes ∈ image.pixels, image.Within alignment bytes.length := by
  obtain ⟨size, hsize, hwithin⟩ := TexImage.exists_size ha hp
  simp only [covers, hsize, hwithin, Option.any_some, Option.all_eq_true, decide_eq_true_eq,
    Option.mem_def]

/-! ## The alignment that the driver was told -/

def Call.unpacking? : Call → Option Int32
  | pixelStorei pname param => if pname = GL.unpackAlignment then some param else none
  | _ => none

def unpacking (calls : List Call) : Int32 := (calls.filterMap Call.unpacking?).getLast?.getD 4

namespace ValueState

theorem unpackAlignment_setCapability (v : ValueState) (cap : Enum) (on : Bool) :
    (v.setCapability cap on).unpackAlignment = v.unpackAlignment := by
  unfold setCapability
  split <;> rfl

theorem unpackAlignment_onFaces (v : ValueState) (face : Enum) (f : StencilFace → StencilFace) :
    (v.onFaces face f).unpackAlignment = v.unpackAlignment := by
  unfold onFaces
  repeat' split
  all_goals rfl

theorem unpackAlignment_after (v : ValueState) (call : Call) :
    (v.after call).unpackAlignment = call.unpacking?.getD v.unpackAlignment := by
  cases call with
  | pixelStorei pname param =>
    by_cases hp : pname = GL.packAlignment
    · subst hp
      rfl
    by_cases hu : pname = GL.unpackAlignment
    · subst hu
      rfl
    · simp [after, Call.unpacking?, hp, hu]
  | hint target mode =>
    by_cases ht : target = GL.generateMipmapHint <;> simp [after, Call.unpacking?, ht]
  | enable cap | disable cap => exact v.unpackAlignment_setCapability cap _
  | stencilFuncSeparate face _ | stencilMaskSeparate face _ | stencilOpSeparate face _ =>
    exact v.unpackAlignment_onFaces face _
  | _ => rfl

end ValueState

theorem Shadow.unpackAlignment_replay (calls : List Call) :
    (replay calls).unpackAlignment = unpacking calls := by
  induction calls using List.reverseRecOn with
  | nil => rfl
  | append_singleton calls call ih =>
    rw [replay_append]
    show ((replay calls).after call).unpackAlignment = _
    rw [ValueState.unpackAlignment_after, ih]
    cases h : call.unpacking? <;> simp [unpacking, h]

/-! ## What is uploaded -/

namespace Plan

variable {P : Call → Prop} {next : Plan} {δ : Type} [Driver δ]

def Tells (P : Call → Prop) : Plan → Prop
  | rest | elide | reject _ => True
  | apply _ call | submit _ call => P call
  | consult _ next => ∀ value, (next value).Tells P

theorem tells_require {ok : Bool} {error : Enum} :
    (require ok error next).Tells P ↔ (ok = true → next.Tells P) := by
  unfold require
  cases ok <;> simp [Tells]

@[simp] theorem tells_checkEnum {ok : Bool} :
    (checkEnum ok next).Tells P ↔ (ok = true → next.Tells P) := tells_require

@[simp] theorem tells_checkValue {ok : Bool} :
    (checkValue ok next).Tells P ↔ (ok = true → next.Tells P) := tells_require

theorem Tells.run {p : Plan} (hp : p.Tells P) (s : Scope δ) :
    ∃ calls, (p.run s).driver = Driver.after s.driver calls ∧
      ∀ call ∈ calls, P call ∨ call.entry.unrestricted = true := by
  induction p generalizing s with
  | rest | elide | reject error => exact ⟨[], rfl, by simp⟩
  | apply change call | submit change call =>
    exact ⟨[call], rfl, by simpa using .inl hp⟩
  | consult limit next ih =>
    obtain ⟨queries, hd, hq⟩ := s.limit_queries limit
    obtain ⟨calls, hd', hcalls⟩ := ih _ (hp _) (s.limit limit).2
    refine ⟨queries ++ calls, ?_, fun call hcall => ?_⟩
    · rw [Driver.after_append, ← hd, ← hd']
      rfl
    · rcases List.mem_append.mp hcall with hcall | hcall
      · exact .inr (hq call hcall)
      · exact hcalls call hcall

/-- The driver is given the image only if the client's bytes cover what it reads. -/
theorem texImage2D_tells {s : Shadow} (ha : s.unpackAlignment ∈ Legal.alignments)
    (image : TexImage) : (texImage2D s image).Tells fun call => call = .texImage2D image ∧
      ∀ bytes ∈ image.pixels, image.Within s.unpackAlignment bytes.length := by
  simp only [texImage2D, tells_checkEnum, tells_checkValue, Tells]
  intro _ _ value _ _ _
  split
  · trivial
  · next pixel hp =>
    rw [tells_checkValue, covers_iff ha hp]
    exact fun hwithin => ⟨rfl, hwithin⟩

/-- An image that is in order but for its bytes is told to the driver if they cover what it
reads, and refused otherwise. -/
theorem run_texImage2D {s : Scope δ} {image : TexImage} {l : Limit}
    (hl : (Command.texImage2D image).limit? = some l)
    (ha : s.shadow.unpackAlignment ∈ Legal.alignments)
    (h : (Call.texImage2D image).Documented (s.limit l).2.shadow.known) :
    ((∀ bytes ∈ image.pixels, image.Within s.shadow.unpackAlignment bytes.length) →
      (texImage2D s.shadow image).run s = ((s.limit l).2.submit (.texImage2D image)).2) ∧
    ((¬ ∀ bytes ∈ image.pixels, image.Within s.shadow.unpackAlignment bytes.length) →
      (texImage2D s.shadow image).run s = (s.limit l).2.reject GL.invalidValue) := by
  obtain ⟨htarget, hlevel, hwidth, hheight, hborder, hmax, hformat, htype, hpixel⟩ := h
  obtain ⟨pixel, hp⟩ := Option.isSome_iff_exists.mp hpixel
  have hmax := hmax l hl
  rw [← Scope.limit_eq_known] at hmax
  obtain rfl := Option.some.inj hl
  have hrun : (texImage2D s.shadow image).run s =
      (checkValue (covers image pixel s.shadow.unpackAlignment)
        (submit id (.texImage2D image))).run (s.limit
          (if image.target = GL.texture2D then .maxTextureSize else .maxCubeMapTextureSize)).2 := by
    simp only [texImage2D, checkEnum, checkValue, require, List.contains_iff_mem, htarget, hlevel,
      hwidth, hheight, hborder, hformat, htype, hmax, hp, run, decide_true, Bool.and_true,
      BEq.rfl, if_true]
  rw [hrun, ← covers_iff ha hp]
  constructor
  · intro hcovers
    rw [hcovers]
    rfl
  · intro hcovers
    rw [Bool.eq_false_iff.mpr hcovers]
    rfl

end Plan

/-! ## Runs -/

section

variable {δ : Type} [Driver δ]

theorem Commons.Managed.calls {m m' : Commons δ} (h : m.Managed m') :
    ∃ calls, m'.driver = Driver.after m.driver calls ∧
      ∀ call ∈ calls, call.entry.library = .egl := by
  cases h with
  | rest | elide => exact ⟨[], rfl, by simp⟩
  | call c hc => exact ⟨[c], rfl, by simpa using hc⟩

variable {e : Engine (Traced δ)} {c : Command} {image : TexImage}

/-- The calls of a command are those that the driver was given meanwhile. -/
theorem Deed.calls_of_after {calls : List Call}
    (hd : (e.execute c).2.server.driver = Driver.after e.server.driver calls) :
    Deed.calls ⟨e, c⟩ = calls := by
  show (e.execute c).2.server.driver.calls.drop e.server.driver.calls.length = calls
  rw [hd, Traced.calls_after, List.drop_left]

/-- Only a command for an image, on a current context, tells the driver of one. -/
theorem Deed.command_of_texImage2D (h : Call.texImage2D image ∈ Deed.calls ⟨e, c⟩) :
    ∃ k image', e.current = some k ∧ c = .texImage2D image' := by
  have hx := e.execute_executed c
  generalize he : (e.execute c).2 = e' at hx
  cases hx with
  | display hc hhandled =>
    obtain ⟨calls, hd, hegl⟩ := hhandled.commons.calls
    rw [calls_of_after (he ▸ hd)] at h
    cases hegl _ h
  | idle hk =>
    have hd : (e.execute c).2.server.driver = Driver.after e.server.driver [] := by rw [he]; rfl
    rw [calls_of_after hd] at h
    cases h
  | @rendering k entry hk hc =>
    obtain ⟨calls, hl⟩ := (e.scope k).enter_leaves hc
    rw [calls_of_enter hk hc hl.driver] at h
    have hentry : entry = .texImage2D := by
      rcases hl.makes _ h with rfl | hq | ⟨cls, -, hg⟩
      · rfl
      · cases hq
      · cases hg
    subst hentry
    cases c with
    | texImage2D image' => exact ⟨k, image', hk, rfl⟩
    | _ => cases hc

theorem Deed.within_of_texImage2D {k : Current} (hk : e.current = some k)
    (ha : k.shadow.unpackAlignment ∈ Legal.alignments) {image' : TexImage}
    (h : Call.texImage2D image' ∈ Deed.calls ⟨e, .texImage2D image⟩) : image' = image ∧
      ∀ bytes ∈ image.pixels, image.Within k.shadow.unpackAlignment bytes.length := by
  have hcalls : ∀ calls, ((e.scope k).enter .texImage2D (.texImage2D image)).2.driver =
      Driver.after e.server.driver calls → Deed.calls ⟨e, .texImage2D image⟩ = calls :=
    fun _ => calls_of_enter hk rfl
  unfold Scope.enter at hcalls
  split at hcalls
  · obtain ⟨calls, hd, hp⟩ := (Plan.texImage2D_tells ha image).run (e.scope k)
    rw [hcalls calls hd] at h
    rcases hp _ h with ⟨hsame, hwithin⟩ | hq
    · exact ⟨Call.texImage2D.inj hsame, hwithin⟩
    · cases hq
  · rw [hcalls [] rfl] at h
    cases h

end

namespace Fleet

variable {δ : Type} [Driver δ] (d : δ) (names : NameTable) (moves : List Move)

/-- A context holds the alignment that the driver was told last on its behalf, and
that is a legal one. -/
theorem traced_unpacking {w : Nat} {k : Current} (hk : (traced d names moves).out w = some k) :
    k.shadow.unpackAlignment = unpacking (callsOf ((traced d names moves).ledger k.handle)) ∧
      k.shadow.unpackAlignment ∈ Legal.alignments := by
  have hkept := (start_kept (d := (⟨d, []⟩ : Traced δ)) trivial names).run mirrors_keeping moves
  have hs := hkept.custody.shadowAt_of_out hk
  constructor
  · rw [← Shadow.unpackAlignment_replay]
    exact congrArg ValueState.unpackAlignment (hkept.kept _ _ hs).values
  · exact (traced_legal d names moves hs).unpackAlignment

def learned (f : Fleet (Traced δ)) (w : Nat) (k : Current) (l : Limit) : Scope (Traced δ) :=
  (((f.engine w).scope k).limit l).2

/-- What becomes of an image that is in order but for its bytes, where the driver unpacks
by the alignment. -/
structure Judges (f : Fleet (Traced δ)) (w : Nat) (k : Current) (image : TexImage) (l : Limit)
    (alignment : Int32) : Prop where
  /-- What is read of the image has a size. -/
  sized : ∃ pixel size, Image.pixelSize? image.format image.type = some pixel ∧
    Image.size? pixel image.width.toInt.toNat image.height.toInt.toNat alignment.toInt.toNat =
      some size ∧ ∀ n, image.Within alignment n ↔ size ≤ n
  forwards : Call.texImage2D image ∈ Deed.calls ⟨f.engine w, .texImage2D image⟩ ↔
    ∀ bytes ∈ image.pixels, image.Within alignment bytes.length
  refuses : (∃ bytes ∈ image.pixels, ¬ image.Within alignment bytes.length) →
    f.Renders w k (.texImage2D image) none ((f.learned w k l).refused GL.invalidValue)

theorem traced_judges {w : Nat} {k : Current} (hk : (traced d names moves).out w = some k)
    (hb : Driver.bound (traced d names moves).server.driver .texImage2D = true)
    {image : TexImage} {l : Limit} (hl : (Command.texImage2D image).limit? = some l)
    (h : (Call.texImage2D image).Documented
      ((traced d names moves).learned w k l).shadow.known) :
    (traced d names moves).Judges w k image l
      (unpacking (callsOf ((traced d names moves).ledger k.handle))) := by
  obtain ⟨hsame, ha⟩ := traced_unpacking d names moves hk
  rw [← hsame]
  generalize traced d names moves = f at hk hb h
  have henter : ((f.engine w).scope k).enter .texImage2D (.texImage2D image) =
      (none, (Plan.texImage2D k.shadow image).run ((f.engine w).scope k)) := if_pos hb
  obtain ⟨hmakes, hrefuses⟩ := Plan.run_texImage2D (s := (f.engine w).scope k) hl ha h
  constructor
  case sized =>
    obtain ⟨pixel, hp⟩ := Option.isSome_iff_exists.mp h.2.2.2.2.2.2.2.2
    obtain ⟨size, hsize, hwithin⟩ := TexImage.exists_size ha hp
    exact ⟨pixel, size, hp, hsize, hwithin⟩
  case forwards =>
    constructor
    · exact fun hmem => (Deed.within_of_texImage2D hk ha hmem).2
    · intro hwithin
      obtain ⟨queries, hq, -⟩ := ((f.engine w).scope k).limit_queries l
      have hq : (f.learned w k l).driver = Driver.after (f.engine w).server.driver queries := hq
      have hdriver : (((f.engine w).scope k).enter .texImage2D (.texImage2D image)).2.driver =
          Driver.after (f.engine w).server.driver (queries ++ [.texImage2D image]) := by
        rw [henter, Driver.after_append, ← hq]
        exact congrArg Scope.driver (hmakes hwithin)
      rw [Deed.calls_of_enter hk rfl hdriver]
      simp
  case refuses =>
    rintro ⟨bytes, hbytes, hnot⟩
    refine renders_enter hk rfl ?_
    rw [henter, ← Scope.reject_eq_refused]
    exact congrArg (Prod.mk none) (hrefuses fun hall => hnot (hall bytes hbytes))

/-- In every run of any number of engines, an image that the driver is given covers what the
driver reads of it, with the alignment that it was told last on behalf of the context; and the
bytes for a buffer are as many as are asked for. An image that is in order but for its bytes is
given to the driver just if it covers what is read. If not, it is refused as a value out of
range. The number of bytes to compare with can always be expressed. -/
theorem run_uploads_within (w : Nat) :
    (∀ c image, Call.texImage2D image ∈ Deed.calls ⟨(traced d names moves).engine w, c⟩ →
      c = .texImage2D image ∧ ∃ k, (traced d names moves).out w = some k ∧
        ∀ bytes ∈ image.pixels, image.Within
          (unpacking (callsOf ((traced d names moves).ledger k.handle))) bytes.length) ∧
    (∀ c target size bytes usage, Call.bufferData target size (some bytes) usage ∈
        Deed.calls ⟨(traced d names moves).engine w, c⟩ → size.toInt ≤ bytes.length) ∧
    ∀ k image l, (traced d names moves).out w = some k →
      Driver.bound (traced d names moves).server.driver .texImage2D = true →
      (Command.texImage2D image).limit? = some l →
      (Call.texImage2D image).Documented
        ((traced d names moves).learned w k l).shadow.known →
      (traced d names moves).Judges w k image l
        (unpacking (callsOf ((traced d names moves).ledger k.handle))) := by
  refine ⟨fun c image h => ?_, fun c target size bytes usage h => ?_, ?_⟩
  · obtain ⟨k, image', hk, rfl⟩ := Deed.command_of_texImage2D h
    obtain ⟨hsame, ha⟩ := traced_unpacking d names moves hk
    obtain ⟨rfl, hwithin⟩ := Deed.within_of_texImage2D hk ha h
    exact ⟨rfl, k, hk, hsame ▸ hwithin⟩
  · obtain ⟨calls, hd, htold⟩ := ((traced d names moves).engine w).execute_tells c
    rw [Deed.calls_of_after hd] at h
    rcases htold _ h with ⟨-, -, -, hdata⟩ | ⟨width, hw, -⟩
    · exact hdata bytes rfl
    · cases hw
  · intro k image l hk hb hl h
    exact traced_judges d names moves hk hb hl h

def evenRows : List Move :=
  [.execute 0 (.makeCurrent ⟨1⟩ ⟨3⟩ ⟨3⟩ ⟨7⟩), .execute 0 (.pixelStorei GL.unpackAlignment 2)]

def twoRows (n : Nat) : TexImage :=
  ⟨GL.texture2D, 0, 6407, 3, 2, 0, GL.rgb, GL.unsignedByte, some (List.replicate n 0)⟩

theorem twoRows_within_iff (n m : Nat) : (twoRows n).Within 2 m ↔ 19 ≤ m := by
  have ha : (2 : Int32) ∈ Legal.alignments := by decide
  have hp : Image.pixelSize? (twoRows n).format (twoRows n).type = some 3 := rfl
  obtain ⟨size, hsize, hwithin⟩ := TexImage.exists_size ha hp
  have hbytes : Image.size? 3 3 2 2 = some 19 := by decide
  obtain rfl : 19 = size := Option.some.inj (hbytes.symm.trans hsize)
  exact hwithin m

theorem twoRows_documented (n : Nat) {known : Limit → Int32} (h : known .maxTextureSize = 64) :
    (Call.texImage2D (twoRows n)).Documented known := by
  have hextent : (3 : Int32) ≤ 64 ∧ (2 : Int32) ≤ 64 := by decide
  refine ⟨(by decide : GL.texture2D ∈ Legal.imageTargets), (by decide : (0 : Int32) ≤ 0),
    (by decide : (0 : Int32) ≤ 3), (by decide : (0 : Int32) ≤ 2), rfl, ?_,
    (by decide : GL.rgb ∈ Legal.pixelFormats),
    (by decide : GL.unsignedByte ∈ Legal.pixelTypes), rfl⟩
  rintro l hl
  cases hl
  show 3 ≤ known .maxTextureSize ∧ 2 ≤ known .maxTextureSize
  rwa [h]

def smallTextures : Recorder := { integers := [(GL.maxTextureSize, [64])] }

/-- One byte of padding lies between the rows, and none behind them. -/
theorem run_uploads_within_of_evenRows :
    ∃ k, (traced smallTextures {} evenRows).out 0 = some k ∧
      Call.texImage2D (twoRows 19) ∈
        Deed.calls ⟨(traced smallTextures {} evenRows).engine 0, .texImage2D (twoRows 19)⟩ ∧
      (traced smallTextures {} evenRows).Renders 0 k (.texImage2D (twoRows 18)) none
        (((traced smallTextures {} evenRows).learned 0 k .maxTextureSize).refused
          GL.invalidValue) := by
  have hout : ((traced smallTextures {} evenRows).out 0).map (fun k =>
      (unpacking (callsOf ((traced smallTextures {} evenRows).ledger k.handle)),
        ((traced smallTextures {} evenRows).learned 0 k .maxTextureSize).shadow.known
          .maxTextureSize)) = some (2, 64) := by decide +kernel
  obtain ⟨k, hk, hsame⟩ := Option.map_eq_some_iff.mp hout
  obtain ⟨hunpacking, hknown⟩ := Prod.mk.inj hsame
  obtain ⟨-, -, hjudges⟩ := run_uploads_within smallTextures {} evenRows 0
  have hboth := fun n => hjudges k (twoRows n) .maxTextureSize hk (by decide +kernel) rfl
    (twoRows_documented n hknown)
  rw [hunpacking] at hboth
  refine ⟨k, hk, (hboth 19).forwards.mpr ?_, (hboth 18).refuses ⟨_, rfl, ?_⟩⟩
  · rintro bytes hbytes
    obtain rfl := Option.some.inj hbytes
    rw [twoRows_within_iff, List.length_replicate]
  · rw [twoRows_within_iff, List.length_replicate]
    decide

end Fleet

end RenderRelay
