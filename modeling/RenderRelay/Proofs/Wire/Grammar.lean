import RenderRelay.Proofs.Wire.RoundTrip

/-!
# The grammar of records

Which bytes stand for a command: those that are written for it, but a flag
that is set may be any byte other than zero, and the padding may be any bytes.
Reading accepts exactly these, and takes no more off the input than the size
in the header says.
-/

set_option autoImplicit false

namespace RenderRelay.Wire

def Field.Spells : (f : Field) → f.Value → Bytes → Prop
  | .flag, b, bs => ∃ x, bs = [x] ∧ b = (x != 0)
  | .mask, m, bs => ∃ r g b a, bs = [r, g, b, a] ∧ m = ⟨r != 0, g != 0, b != 0, a != 0⟩
  | .optionalBlob, none, bs => bs = Field.writeFlag false
  | .optionalBlob, some data, bs => ∃ x, x ≠ 0 ∧ bs = x :: Field.writeBlob data
  | f, v, bs => bs = f.write v

def Arguments.Spells : (fs : List Field) → Arguments fs → Bytes → Prop
  | [], (), bs => bs = []
  | f :: fs, (v, vs), bs =>
    ∃ front back, bs = front ++ back ∧ f.Spells v front ∧ Arguments.Spells fs vs back

/-! What a reader takes -/

def Reader.Takes {α : Type} (x : Reader α) (Stands : α → Bytes → Prop) : Prop :=
  ∀ input a rest, x input = .ok (a, rest) → ∃ bs, input = bs ++ rest ∧ Stands a bs

namespace Reader

variable {α β : Type} {x : Reader α} {P : α → Bytes → Prop}

theorem takes_pure (a : α) : (pure a : Reader α).Takes fun b bs => b = a ∧ bs = [] := by
  intro input b rest h
  cases h
  exact ⟨[], rfl, rfl, rfl⟩

theorem takes_bind {f : α → Reader β} {Q : α → β → Bytes → Prop} (hx : x.Takes P)
    (hf : ∀ a, (f a).Takes (Q a)) :
    (x >>= f).Takes fun b bs => ∃ a front back, bs = front ++ back ∧ P a front ∧ Q a b back := by
  intro input b rest h
  have h : (x input >>= fun p => f p.1 p.2) = .ok (b, rest) := h
  cases hp : x input with
  | error e =>
    rw [hp] at h
    cases h
  | ok p =>
    rw [hp] at h
    obtain ⟨front, hinput, hfront⟩ := hx input p.1 p.2 hp
    obtain ⟨back, hback, hq⟩ := hf p.1 p.2 b rest h
    refine ⟨front ++ back, ?_, p.1, front, back, rfl, hfront, hq⟩
    rw [hinput, hback, List.append_assoc]

theorem takes_mono {Q : α → Bytes → Prop} (hx : x.Takes P) (h : ∀ a bs, P a bs → Q a bs) :
    x.Takes Q := by
  intro input a rest hr
  obtain ⟨bs, hbs, hp⟩ := hx input a rest hr
  exact ⟨bs, hbs, h a bs hp⟩

theorem takes_map (f : α → β) (hx : x.Takes P) :
    (f <$> x).Takes fun b bs => ∃ a, b = f a ∧ P a bs := by
  refine takes_mono (takes_bind hx fun a => takes_pure (f a)) ?_
  rintro b _ ⟨a, front, _, rfl, hp, rfl, rfl⟩
  exact ⟨a, rfl, by rwa [List.append_nil]⟩

theorem bytes_takes (n : Nat) : (bytes n).Takes fun bs taken => taken = bs ∧ bs.length = n := by
  intro input bs rest h
  rw [bytes] at h
  split at h
  · next front tail hc =>
    cases h
    obtain ⟨hn, rfl⟩ := (chop_eq_some_iff n input bs rest).mp hc
    exact ⟨bs, rfl, rfl, hn⟩
  · cases h

def Undoes (x : Reader α) (write : α → Bytes) : Prop := x.Takes fun a bs => bs = write a

theorem undoes_map {write : α → Bytes} (hx : x.Undoes write) (f : α → β) {g : β → α}
    (hg : ∀ a, g (f a) = a) : (f <$> x).Undoes fun b => write (g b) := by
  refine takes_mono (takes_map f hx) ?_
  rintro b bs ⟨a, rfl, rfl⟩
  dsimp only
  rw [hg]

end Reader

open Reader

namespace Field

theorem word_undoes : Reader.word.Undoes writeWord := by
  refine takes_mono (takes_map _ (bytes_takes 4)) ?_
  rintro n bs ⟨_, rfl, rfl, hl⟩
  have hn := natLE_lt bs
  have hb := bytesLE_natLE bs
  rw [hl] at hn hb
  rw [writeWord, UInt32.toNat_ofNat_of_lt' hn, hb]

theorem wide_undoes : Reader.wide.Undoes writeWide := by
  refine takes_mono (takes_map _ (bytes_takes 8)) ?_
  rintro n bs ⟨_, rfl, rfl, hl⟩
  have hn := natLE_lt bs
  have hb := bytesLE_natLE bs
  rw [hl] at hn hb
  rw [writeWide, UInt64.toNat_ofNat_of_lt' hn, hb]

theorem int_undoes : Reader.int.Undoes fun n => writeWord n.toUInt32 :=
  undoes_map word_undoes UInt32.toInt32 fun n => n.toUInt32_toInt32

theorem long_undoes : Reader.long.Undoes fun n => writeWide n.toUInt64 :=
  undoes_map wide_undoes UInt64.toInt64 fun n => n.toUInt64_toInt64

theorem single_undoes : Reader.single.Undoes writeSingle :=
  undoes_map word_undoes Single.mk fun _ => rfl

theorem flag_byte (x : UInt8) (rest : Bytes) :
    Reader.flag (x :: rest) = .ok (x != 0, rest) := by
  have hx : (natLE [x] != 0) = (x != 0) := by
    rw [natLE, natLE, Nat.mul_zero, Nat.add_zero, Bool.eq_iff_iff, bne_iff_ne, bne_iff_ne]
    exact not_congr (UInt8.toNat_inj (b := 0))
  show Except.ok (natLE [x] != 0, rest) = _
  rw [hx]

theorem flag_takes : Reader.flag.Takes fun b bs => ∃ x, bs = [x] ∧ b = (x != 0) := by
  intro input b rest h
  cases input with
  | nil => cases h
  | cons x tail =>
    rw [flag_byte] at h
    cases h
    exact ⟨[x], rfl, x, rfl, rfl⟩

theorem flag_reads_byte (x : UInt8) : Reader.flag.Reads [x] (x != 0) := flag_byte x

theorem count_takes : Reader.count.Takes fun n bs => bs = bytesLE 4 n := by
  have hcheck : ∀ n : UInt32, Reader.Takes (fun input => (if input.length < n.toNat
      then Reader.fail .unexpectedEnd else pure n.toNat : Reader Nat) input)
      fun m bs => m = n.toNat ∧ bs = [] := by
    intro n input m rest h
    dsimp only at h
    split at h
    · cases h
    · exact takes_pure n.toNat input m rest h
  refine takes_mono (takes_bind word_undoes hcheck) ?_
  rintro m bs ⟨n, front, back, rfl, rfl, rfl, rfl⟩
  exact List.append_nil _

theorem times_takes {α : Type} {item : Reader α} {write : α → Bytes} (hi : item.Undoes write)
    (n : Nat) (done : List α) :
    (Reader.times item n done).Takes fun ys bs =>
      ∃ xs, ys = done.reverse ++ xs ∧ xs.length = n ∧ bs = xs.flatMap write := by
  induction n generalizing done with
  | zero =>
    refine takes_mono (takes_pure done.reverse) ?_
    rintro ys bs ⟨rfl, rfl⟩
    exact ⟨[], (List.append_nil _).symm, rfl, rfl⟩
  | succ n ih =>
    refine takes_mono (takes_bind hi fun x => ih (x :: done)) ?_
    rintro ys bs ⟨x, front, back, rfl, rfl, xs, rfl, rfl, rfl⟩
    exact ⟨x :: xs, by rw [List.reverse_cons, List.append_assoc]; rfl, rfl, rfl⟩

theorem list_undoes {α : Type} {item : Reader α} {write : α → Bytes} (hi : item.Undoes write) :
    (Reader.list item).Undoes (writeList write) := by
  refine takes_mono (takes_bind count_takes fun n => times_takes hi n []) ?_
  rintro ys bs ⟨n, front, back, rfl, rfl, xs, rfl, rfl, rfl⟩
  rfl

theorem blob_undoes : Reader.blob.Undoes writeBlob := by
  refine takes_mono (takes_bind count_takes bytes_takes) ?_
  rintro bs taken ⟨n, front, back, rfl, rfl, rfl, rfl⟩
  rfl

theorem toByteArray_of_fromUTF8 {a : ByteArray} {s : String} (h : String.fromUTF8? a = some s) :
    s.toByteArray = a := by
  unfold String.fromUTF8? at h
  split at h
  · cases h
    rfl
  · cases h

theorem text_undoes : Reader.text.Undoes writeText := by
  refine takes_mono (takes_bind (Q := fun n s back => ∃ bs front rest, back = front ++ rest ∧
    (front = bs ∧ bs.length = n.toNat) ∧ s.toByteArray.data.toList = bs ∧ rest = [])
    word_undoes fun n => takes_bind (bytes_takes n.toNat) fun bs => ?_) ?_
  · intro input s rest h
    cases ht : String.fromUTF8? ⟨bs.toArray⟩ with
    | none =>
      rw [ht] at h
      cases h
    | some t =>
      rw [ht] at h
      cases h
      exact ⟨[], rfl, by rw [toByteArray_of_fromUTF8 ht], rfl⟩
  · rintro s _ ⟨n, front, _, rfl, rfl, bs, front, back, rfl, ⟨rfl, hl⟩, hs, rfl⟩
    rw [writeText, writeBlob, hs, hl, List.append_nil]
    rfl

theorem read_takes (f : Field) : f.read.Takes f.Spells := by
  cases f with
  | flag => exact flag_takes
  | mask =>
    refine takes_mono (takes_bind flag_takes fun r => takes_bind flag_takes fun g =>
      takes_bind flag_takes fun b => takes_bind flag_takes fun a => takes_pure _) ?_
    rintro m _ ⟨_, _, _, rfl, ⟨r, rfl, rfl⟩, _, _, _, rfl, ⟨g, rfl, rfl⟩, _, _, _, rfl,
      ⟨b, rfl, rfl⟩, _, _, _, rfl, ⟨a, rfl, rfl⟩, rfl, rfl⟩
    exact ⟨r, g, b, a, rfl, rfl⟩
  | word => exact word_undoes
  | int => exact int_undoes
  | long => exact long_undoes
  | wide => exact wide_undoes
  | single => exact single_undoes
  | color =>
    refine takes_mono (takes_bind single_undoes fun r => takes_bind single_undoes fun g =>
      takes_bind single_undoes fun b => takes_bind single_undoes fun a => takes_pure _) ?_
    rintro c _ ⟨r, _, _, rfl, rfl, g, _, _, rfl, rfl, b, _, _, rfl, rfl, a, _, _, rfl, rfl,
      rfl, rfl⟩
    simp only [Spells, write, List.append_assoc, List.append_nil]
  | words => exact list_undoes word_undoes
  | ints => exact list_undoes int_undoes
  | wides => exact list_undoes wide_undoes
  | text => exact text_undoes
  | texts => exact list_undoes text_undoes
  | blob => exact blob_undoes
  | optionalBlob =>
    have hrest : ∀ b : Bool, Reader.Takes (if b then some <$> Reader.blob else pure none)
        fun v bs => v.isSome = b ∧ bs = v.elim [] writeBlob := by
      intro b
      cases b with
      | false =>
        refine takes_mono (takes_pure none) ?_
        rintro v bs ⟨rfl, rfl⟩
        exact ⟨rfl, rfl⟩
      | true =>
        refine takes_mono (takes_map some blob_undoes) ?_
        rintro v bs ⟨data, rfl, rfl⟩
        exact ⟨rfl, rfl⟩
    refine takes_mono (takes_bind flag_takes hrest) ?_
    rintro v _ ⟨b, _, back, rfl, ⟨x, rfl, rfl⟩, hx, rfl⟩
    cases v with
    | none =>
      have hx : x = 0 := by simpa using hx.symm
      rw [hx]
      rfl
    | some data => exact ⟨x, by simpa using hx.symm, rfl⟩

theorem reads_of_spells {f : Field} {v : f.Value} {bs : Bytes} (hs : f.Spells v bs)
    (hl : bs.length < UInt32.size) : f.read.Reads bs v := by
  cases f with
  | flag =>
    obtain ⟨x, rfl, rfl⟩ := hs
    exact flag_reads_byte x
  | mask =>
    obtain ⟨r, g, b, a, rfl, rfl⟩ := hs
    exact reads_bind (flag_reads_byte r) <| reads_bind (flag_reads_byte g) <|
      reads_bind (flag_reads_byte b) <|
      reads_last (fun alpha => ChannelMask.mk (r != 0) (g != 0) (b != 0) alpha) (flag_reads_byte a)
  | optionalBlob =>
    cases v with
    | none =>
      obtain rfl := hs
      exact write_reads .optionalBlob none hl
    | some data =>
      obtain ⟨x, hx, rfl⟩ := hs
      have hset : (x != 0) = true := by simpa using hx
      have hflag := flag_reads_byte x
      rw [hset] at hflag
      rw [List.length_cons] at hl
      exact reads_bind hflag (reads_last some (blob_reads (by omega)))
  | word | int | long | wide | single | color | words | ints | wides | text | texts | blob =>
    obtain rfl := hs
    exact write_reads _ v hl

theorem length_of_spells {f : Field} {v : f.Value} {bs : Bytes} (hs : f.Spells v bs) :
    bs.length = (f.write v).length := by
  cases f with
  | flag =>
    obtain ⟨x, rfl, rfl⟩ := hs
    rfl
  | mask =>
    obtain ⟨r, g, b, a, rfl, rfl⟩ := hs
    rfl
  | optionalBlob =>
    cases v with
    | none =>
      obtain rfl := hs
      rfl
    | some data =>
      obtain ⟨x, -, rfl⟩ := hs
      rfl
  | word | int | long | wide | single | color | words | ints | wides | text | texts | blob =>
    obtain rfl := hs
    rfl

theorem spells_write (f : Field) (v : f.Value) : f.Spells v (f.write v) := by
  cases f with
  | flag => exact ⟨if v then 1 else 0, rfl, by cases v <;> rfl⟩
  | mask =>
    obtain ⟨r, g, b, a⟩ := v
    refine ⟨if r then 1 else 0, if g then 1 else 0, if b then 1 else 0, if a then 1 else 0, rfl, ?_⟩
    cases r <;> cases g <;> cases b <;> cases a <;> rfl
  | optionalBlob =>
    cases v with
    | none => rfl
    | some data => exact ⟨1, by decide, rfl⟩
  | word | int | long | wide | single | color | words | ints | wides | text | texts | blob => rfl

end Field

namespace Arguments

variable {fs : List Field}

theorem read_takes (fs : List Field) : (Arguments.read fs).Takes (Arguments.Spells fs) := by
  induction fs with
  | nil =>
    refine takes_mono (takes_pure ()) ?_
    rintro _ bs ⟨rfl, rfl⟩
    rfl
  | cons f fs ih =>
    refine takes_mono
      (takes_bind f.read_takes fun v => takes_bind ih fun vs => takes_pure (v, vs)) ?_
    rintro _ _ ⟨v, front, _, rfl, hv, vs, back, _, rfl, hvs, rfl, rfl⟩
    exact ⟨front, back, by rw [List.append_nil], hv, hvs⟩

theorem reads_of_spells {args : Arguments fs} {bs : Bytes} (hs : Arguments.Spells fs args bs)
    (hl : bs.length < UInt32.size) : (Arguments.read fs).Reads bs args := by
  induction fs generalizing bs with
  | nil =>
    obtain rfl := hs
    exact reads_pure ()
  | cons f fs ih =>
    obtain ⟨v, vs⟩ := args
    obtain ⟨front, back, rfl, hv, hvs⟩ := hs
    rw [List.length_append] at hl
    exact reads_bind (Field.reads_of_spells hv (by omega))
      (reads_last (v, ·) (ih hvs (by omega)))

theorem length_of_spells {args : Arguments fs} {bs : Bytes} (hs : Arguments.Spells fs args bs) :
    bs.length = (Arguments.write fs args).length := by
  induction fs generalizing bs with
  | nil =>
    obtain rfl := hs
    rfl
  | cons f fs ih =>
    obtain ⟨v, vs⟩ := args
    obtain ⟨front, back, rfl, hv, hvs⟩ := hs
    rw [write, List.length_append, List.length_append, Field.length_of_spells hv, ih hvs]

theorem spells_write (fs : List Field) (args : Arguments fs) :
    Arguments.Spells fs args (Arguments.write fs args) := by
  induction fs with
  | nil => rfl
  | cons f fs ih => exact ⟨_, _, rfl, f.spells_write args.1, ih args.2⟩

end Arguments

/-! Records -/

theorem readPayload_eq_ok_iff {fs : List Field} {bs : Bytes} {args : Arguments fs}
    (hl : bs.length < UInt32.size) :
    readPayload fs bs = .ok args ↔
      ∃ payload padding, bs = payload ++ padding ∧ padding.length < alignment ∧
        Arguments.Spells fs args payload := by
  constructor
  · intro h
    rw [readPayload] at h
    split at h
    · cases h
    · next as rest hr =>
      split at h
      · cases h
      · next hrest =>
        cases h
        obtain ⟨payload, rfl, hs⟩ := Arguments.read_takes fs bs _ rest hr
        exact ⟨payload, rest, rfl, Nat.lt_of_not_le hrest, hs⟩
  · rintro ⟨payload, padding, rfl, hp, hs⟩
    rw [List.length_append] at hl
    rw [readPayload, Arguments.reads_of_spells hs (by omega) padding]
    exact if_neg (Nat.not_le_of_lt hp)

theorem Header.write_ofBytes {bs : Bytes} (hl : bs.length = headerSize) :
    (Header.ofBytes bs).write = bs := by
  have hword : ∀ word : Bytes, word.length = 4 →
      bytesLE 4 (UInt32.ofNat (natLE word)).toNat = word := by
    intro word hw
    have hn := natLE_lt word
    have hb := bytesLE_natLE word
    rw [hw] at hn hb
    rw [UInt32.toNat_ofNat_of_lt' hn, hb]
  have hl : bs.length = 12 := hl
  have hlast : (bs.drop 8).take 4 = (bs.drop 4).drop 4 := by
    rw [List.drop_drop, List.take_of_length_le]
    simp [hl]
  rw [Header.write, Header.ofBytes, hword _ (by simp [hl]), hword _ (by simp [hl]),
    hword _ (by simp [hl]), hlast, List.append_assoc, List.take_append_drop, List.take_append_drop]

theorem Header.parse_eq_ok_iff {input : Bytes} {h : Header} :
    Header.parse input = .ok h ↔
      headerSize ≤ h.length ∧ h.length % alignment = 0 ∧ ∃ rest, input = h.write ++ rest := by
  constructor
  · intro hp
    rw [Header.parse] at hp
    split at hp
    · cases hp
    · next front rest hc =>
      obtain ⟨hf, rfl⟩ := (chop_eq_some_iff ..).mp hc
      dsimp only at hp
      split at hp
      · cases hp
      · next hbad =>
        cases hp
        simp only [Bool.or_eq_true, decide_eq_true_eq, bne_iff_ne, not_or, Nat.not_lt,
          ne_eq, Decidable.not_not] at hbad
        exact ⟨hbad.1, hbad.2, rest, by rw [Header.write_ofBytes hf]⟩
  · rintro ⟨hl, ha, rest, rfl⟩
    exact Header.parse_write hl ha rest

theorem body_eq_ok_iff {h : Header} {rest bs : Bytes} :
    body h (h.write ++ rest) = .ok bs ↔
      bs.length = h.length - headerSize ∧ ∃ behind, rest = bs ++ behind := by
  rw [body, List.drop_left' h.length_write]
  constructor
  · intro hb
    split at hb
    · cases hb
    · next front behind hc =>
      cases hb
      obtain ⟨hf, rfl⟩ := (chop_eq_some_iff ..).mp hc
      exact ⟨hf, behind, rfl⟩
  · rintro ⟨hl, behind, rfl⟩
    rw [← hl, chop_append]

/-- The input starts with a record of the arguments: a header, bytes that stand for them, and
less padding than would make a word. -/
structure Holds (input : Bytes) (h : Header) {fs : List Field} (args : Arguments fs) : Prop where
  covers : headerSize ≤ h.length
  aligned : h.length % alignment = 0
  whole : h.length ≤ input.length
  parts : ∃ payload padding, input.take h.length = h.write ++ (payload ++ padding) ∧
    Arguments.Spells fs args payload ∧ padding.length < alignment

theorem holds_iff {input : Bytes} {h : Header} {fs : List Field} {args : Arguments fs} :
    Holds input h args ↔ Header.parse input = .ok h ∧
      ∃ bs, body h input = .ok bs ∧ readPayload fs bs = .ok args := by
  have hsize : h.length < UInt32.size := h.size.toNat_lt
  constructor
  · rintro ⟨hl, ha, hw, payload, padding, hparts, hs, hpad⟩
    have hlength := congrArg List.length hparts
    rw [List.length_take, Nat.min_eq_left hw, List.length_append, h.length_write] at hlength
    have hinput : input = h.write ++ (payload ++ padding ++ input.drop h.length) := by
      rw [← List.append_assoc, ← hparts, List.take_append_drop]
    have hb : body h input = .ok (payload ++ padding) := by
      rw [hinput]
      exact body_eq_ok_iff.mpr ⟨by omega, _, rfl⟩
    exact ⟨Header.parse_eq_ok_iff.mpr ⟨hl, ha, _, hinput⟩, _, hb,
      (readPayload_eq_ok_iff (by omega)).mpr ⟨payload, padding, rfl, hpad, hs⟩⟩
  · rintro ⟨hp, bs, hb, hr⟩
    obtain ⟨hl, ha, rest, rfl⟩ := Header.parse_eq_ok_iff.mp hp
    obtain ⟨hbs, behind, rfl⟩ := body_eq_ok_iff.mp hb
    obtain ⟨payload, padding, rfl, hpad, hs⟩ := (readPayload_eq_ok_iff (by omega)).mp hr
    have htotal : (h.write ++ (payload ++ padding)).length = h.length := by
      rw [List.length_append, h.length_write, hbs]
      omega
    constructor
    case covers => exact hl
    case aligned => exact ha
    case whole =>
      rw [← List.append_assoc, List.length_append, htotal]
      exact Nat.le_add_right ..
    case parts =>
      refine ⟨payload, padding, ?_, hs, hpad⟩
      rw [← List.append_assoc, List.take_left' htotal]

theorem holds_congr {input : Bytes} {h : Header} {fs gs : List Field} {args : Arguments fs}
    {as : Arguments gs} (hf : fs = gs) (ha : HEq args as) :
    Holds input h args ↔ Holds input h as := by
  subst hf
  rw [eq_of_heq ha]

namespace Holds

variable {input : Bytes} {h : Header} {fs : List Field} {args : Arguments fs}

/-- The size is that of the record which is written for the arguments. -/
theorem length_eq (hd : Holds input h args) (opcode token : UInt32) :
    h.length = (record opcode token (Arguments.write fs args)).length := by
  obtain ⟨hl, ha, hw, payload, padding, hparts, hs, hpad⟩ := hd
  have hlength := congrArg List.length hparts
  rw [List.length_take, Nat.min_eq_left hw, List.length_append, h.length_write,
    List.length_append, Arguments.length_of_spells hs] at hlength
  rw [length_record, recordSize, alignUp]
  simp only [alignment] at ha hpad ⊢
  omega

theorem header_eq (hd : Holds input h args) :
    headerOf h.opcode h.token (Arguments.write fs args) = h := by
  have hlength := hd.length_eq h.opcode h.token
  rw [length_record] at hlength
  rw [headerOf, ← hlength]
  exact congrArg (Header.mk h.opcode · h.token) h.size.ofNat_toNat

theorem of_take_eq (hd : Holds input h args) {other : Bytes}
    (ho : other.take h.length = input.take h.length) : Holds other h args where
  covers := hd.covers
  aligned := hd.aligned
  whole := by
    have hlength := congrArg List.length ho
    rw [List.length_take, List.length_take, Nat.min_eq_left hd.whole] at hlength
    omega
  parts := ho ▸ hd.parts

theorem cut (hd : Holds input h args) {n : Nat} (hn : n < h.length) :
    Header.parse (input.take n) = .error .unexpectedEnd ∨
      Header.parse (input.take n) = .ok h ∧ body h (input.take n) = .error .unexpectedEnd := by
  obtain ⟨payload, padding, hparts, -, -⟩ := hd.parts
  have hw := hd.whole
  have hinput : input = h.write ++ (payload ++ padding ++ input.drop h.length) := by
    rw [← List.append_assoc, ← hparts, List.take_append_drop]
  by_cases hh : n < headerSize
  · have hc : chop headerSize (input.take n) = none := by
      rw [chop_eq_none_iff, List.length_take]
      omega
    exact .inl (by rw [Header.parse, hc])
  · have hwrite := h.length_write
    obtain ⟨rest, hrest⟩ : ∃ rest, input.take n = h.write ++ rest := by
      rw [hinput, List.take_append, List.take_of_length_le (by omega)]
      exact ⟨_, rfl⟩
    have hc : chop (h.length - headerSize) ((input.take n).drop headerSize) = none := by
      rw [chop_eq_none_iff, List.length_drop, List.length_take]
      omega
    exact .inr ⟨Header.parse_eq_ok_iff.mpr ⟨hd.covers, hd.aligned, rest, hrest⟩,
      by rw [body, hc]⟩

end Holds

/-! Commands -/

structure Describes (input : Bytes) (h : Header) (c : Command) : Prop where
  covers : headerSize ≤ h.length
  aligned : h.length % alignment = 0
  whole : h.length ≤ input.length
  opcode : h.opcode = c.opcode.number
  parts : ∃ payload padding, input.take h.length = h.write ++ (payload ++ padding) ∧
    Arguments.Spells c.opcode.signature c.arguments payload ∧ padding.length < alignment

theorem describes_iff {input : Bytes} {h : Header} {c : Command} :
    Describes input h c ↔ Holds input h c.arguments ∧ h.opcode = c.opcode.number := by
  constructor
  · exact fun hd => ⟨⟨hd.covers, hd.aligned, hd.whole, hd.parts⟩, hd.opcode⟩
  · exact fun ⟨hd, ho⟩ => ⟨hd.covers, hd.aligned, hd.whole, ho, hd.parts⟩

theorem decodeCommand_eq_ok_iff_parts {input : Bytes} {h : Header} {c : Command} :
    decodeCommand input = .ok (h, c) ↔ Header.parse input = .ok h ∧ ∃ bs, body h input = .ok bs ∧
      ∃ op args, Opcode.ofNumber? h.opcode = some op ∧ readPayload op.signature bs = .ok args ∧
        c = .ofArguments op args := by
  constructor
  · intro hd
    rw [decodeCommand] at hd
    cases hp : Header.parse input with
    | error e =>
      rw [hp] at hd
      cases hd
    | ok g =>
      rw [hp] at hd
      cases hb : body g input with
      | error e =>
        simp only [bind, Except.bind, hb] at hd
        cases hd
      | ok bs =>
        simp only [bind, Except.bind, hb] at hd
        cases ho : Opcode.ofNumber? g.opcode with
        | none =>
          simp only [ho] at hd
          cases hd
        | some op =>
          simp only [ho] at hd
          cases hr : readPayload op.signature bs with
          | error e =>
            rw [hr] at hd
            cases hd
          | ok args =>
            rw [hr] at hd
            cases hd
            exact ⟨rfl, bs, hb, op, args, ho, hr, rfl⟩
  · rintro ⟨hp, bs, hb, op, args, ho, hr, rfl⟩
    exact decodeCommand_of_parts hp hb ho hr

theorem decodeCommand_eq_ok_iff {input : Bytes} {h : Header} {c : Command} :
    decodeCommand input = .ok (h, c) ↔ Describes input h c := by
  rw [decodeCommand_eq_ok_iff_parts, describes_iff, holds_iff]
  constructor
  · rintro ⟨hp, bs, hb, op, args, ho, hr, rfl⟩
    have hd := holds_iff.mpr ⟨hp, bs, hb, hr⟩
    rw [← holds_iff]
    refine ⟨(holds_congr (by rw [Command.opcode_ofArguments])
      (Command.arguments_ofArguments op args)).mpr hd, ?_⟩
    rw [Command.opcode_ofArguments]
    exact (Opcode.number_of_ofNumber? ho).symm
  · rintro ⟨⟨hp, bs, hb, hr⟩, ho⟩
    refine ⟨hp, bs, hb, c.opcode, c.arguments, ?_, hr, c.ofArguments_arguments.symm⟩
    rw [ho, Opcode.ofNumber?_number]

namespace Describes

variable {input : Bytes} {h : Header} {c : Command}

theorem holds (hd : Describes input h c) : Holds input h c.arguments := (describes_iff.mp hd).1

/-- The size is that of the record which is written for the command. -/
theorem length_eq (hd : Describes input h c) : h.length = (encodeCommand h.token c).length :=
  hd.holds.length_eq c.opcode.number h.token

theorem decode_encode (hd : Describes input h c) :
    decodeCommand (encodeCommand h.token c) = .ok (h, c) := by
  have hsize : (encodeCommand h.token c).length < UInt32.size := by
    rw [← hd.length_eq]
    exact h.size.toNat_lt
  have hr := decodeCommand_encodeCommand hsize []
  rwa [List.append_nil, commandHeader, ← hd.opcode, hd.holds.header_eq] at hr

theorem of_take_eq (hd : Describes input h c) {other : Bytes}
    (ho : other.take h.length = input.take h.length) : Describes other h c :=
  describes_iff.mpr ⟨hd.holds.of_take_eq ho, hd.opcode⟩

theorem decode_cut (hd : Describes input h c) {n : Nat} (hn : n < h.length) :
    decodeCommand (input.take n) = .error .unexpectedEnd := by
  rcases hd.holds.cut hn with hp | ⟨hp, hb⟩
  · rw [decodeCommand, hp]
    rfl
  · rw [decodeCommand, hp]
    simp only [bind, Except.bind, hb]

end Describes

/-- A command is read just where the input describes it. Then the size is that
of the record written for it, which is read back alike; nothing behind the
record is looked at, and no shorter piece of it will do. -/
theorem decodeCommand_exact (input : Bytes) (h : Header) (c : Command) :
    (decodeCommand input = .ok (h, c) ↔ Describes input h c) ∧
    (decodeCommand input = .ok (h, c) →
      h.length = (encodeCommand h.token c).length ∧
      decodeCommand (encodeCommand h.token c) = .ok (h, c) ∧
      (∀ other : Bytes, other.take h.length = input.take h.length →
        decodeCommand other = .ok (h, c)) ∧
      ∀ n < h.length, decodeCommand (input.take n) = .error .unexpectedEnd) := by
  refine ⟨decodeCommand_eq_ok_iff, fun hd => ?_⟩
  have hd := decodeCommand_eq_ok_iff.mp hd
  refine ⟨hd.length_eq, hd.decode_encode, fun other ho => ?_, fun n hn => hd.decode_cut hn⟩
  exact decodeCommand_eq_ok_iff.mpr (hd.of_take_eq ho)

/-- A record with a flag of seven and padding that is not zero, and a byte behind it. -/
def looseRecord : Bytes :=
  [0x0C, 0x03, 0, 0, 36, 0, 0, 0, 5, 0, 0, 0, 0x92, 0x88, 0, 0, 7, 2, 0, 0, 0, 0xAA, 0xBB,
    2, 0, 0, 0, 0, 0, 0, 0, 0xE4, 0x88, 0, 0, 0xFF, 1]

theorem decodeCommand_exact_of_loose :
    let h : Header := ⟨0x030C, 36, 5⟩
    let c : Command := .bufferData 0x8892 (some [0xAA, 0xBB]) 2 0x88E4
    decodeCommand looseRecord = .ok (h, c) ∧ encodeCommand 5 c ≠ looseRecord.take 36 ∧
      Describes looseRecord h c ∧ (encodeCommand 5 c).length = 36 ∧
      decodeCommand (encodeCommand 5 c) = .ok (h, c) ∧
      decodeCommand (looseRecord.take 35) = .error .unexpectedEnd := by
  intro h c
  have hd : decodeCommand looseRecord = .ok (h, c) := by cbv
  obtain ⟨hiff, hthen⟩ := decodeCommand_exact looseRecord h c
  obtain ⟨hlength, hback, -, hcut⟩ := hthen hd
  exact ⟨hd, by decide, hiff.mp hd, hlength.symm, hback, hcut 35 (by decide)⟩

end RenderRelay.Wire
