import RenderRelay.Wire.Record

/-!
# Reading what was written

Every field, every payload and every record is read back from what was
written for it, whatever follows. Counts are 32 bits wide; a record whose
size can be expressed has no longer list than that, since an element takes a
byte at least.
-/

set_option autoImplicit false

namespace RenderRelay.Wire

def Reader.Reads {α : Type} (x : Reader α) (bs : Bytes) (a : α) : Prop :=
  ∀ rest : Bytes, x (bs ++ rest) = .ok (a, rest)

namespace Reader

variable {α β : Type}

theorem reads_bind {x : Reader α} {f : α → Reader β} {bs cs : Bytes} {a : α} {b : β}
    (hx : x.Reads bs a) (hf : (f a).Reads cs b) : (x >>= f).Reads (bs ++ cs) b := by
  intro rest
  rw [List.append_assoc]
  show (x (bs ++ (cs ++ rest)) >>= fun p => f p.1 p.2) = _
  rw [hx]
  exact hf rest

theorem reads_pure (a : α) : (pure a : Reader α).Reads [] a := fun _ => rfl

theorem reads_map {x : Reader α} {bs : Bytes} {a : α} (f : α → β) (hx : x.Reads bs a) :
    (f <$> x).Reads bs (f a) := by
  intro rest
  show (x (bs ++ rest) >>= fun p => pure (f p.1, p.2)) = _
  rw [hx]
  rfl

theorem reads_then {x : Reader α} {f : α → Reader β} {bs : Bytes} {a : α} {b : β}
    (hx : x.Reads bs a) (hf : (f a).Reads [] b) : (x >>= f).Reads bs b := by
  have h := reads_bind hx hf
  rwa [List.append_nil] at h

theorem reads_last {x : Reader α} {bs : Bytes} {a : α} (f : α → β) (hx : x.Reads bs a) :
    (x >>= fun v => pure (f v)).Reads bs (f a) :=
  reads_then hx (reads_pure (f a))

theorem bytes_reads (bs : Bytes) : (bytes bs.length).Reads bs bs := by
  intro rest
  rw [bytes, chop_append]

theorem bytes_reads_of_length {n : Nat} {bs : Bytes} (h : bs.length = n) :
    (bytes n).Reads bs bs := h ▸ bytes_reads bs

end Reader

open Reader

namespace Field

theorem word_reads (n : UInt32) : Reader.word.Reads (writeWord n) n := by
  have h := reads_map (UInt32.ofNat <| natLE ·)
    (bytes_reads_of_length (length_bytesLE 4 n.toNat))
  simp only [natLE_bytesLE] at h
  rw [show n.toNat % span 4 = n.toNat from Nat.mod_eq_of_lt n.toNat_lt, UInt32.ofNat_toNat] at h
  exact h

theorem wide_reads (n : UInt64) : Reader.wide.Reads (writeWide n) n := by
  have h := reads_map (UInt64.ofNat <| natLE ·)
    (bytes_reads_of_length (length_bytesLE 8 n.toNat))
  simp only [natLE_bytesLE] at h
  rw [show n.toNat % span 8 = n.toNat from Nat.mod_eq_of_lt n.toNat_lt, UInt64.ofNat_toNat] at h
  exact h

theorem flag_reads (b : Bool) : Reader.flag.Reads (writeFlag b) b := by
  intro rest
  cases b <;> rfl

theorem int_reads (n : Int32) : Reader.int.Reads (writeWord n.toUInt32) n :=
  reads_map UInt32.toInt32 (word_reads n.toUInt32)

theorem long_reads (n : Int64) : Reader.long.Reads (writeWide n.toUInt64) n :=
  reads_map UInt64.toInt64 (wide_reads n.toUInt64)

theorem single_reads (x : Single) : Reader.single.Reads (writeSingle x) x :=
  reads_map Single.mk (word_reads x.bits)

theorem count_reads {α : Type} {f : Nat → Reader α} {n : Nat} {bs : Bytes} {a : α}
    (hn : n < UInt32.size) (hl : n ≤ bs.length) (hf : (f n).Reads bs a) :
    (Reader.count >>= f).Reads (bytesLE 4 n ++ bs) a := by
  intro rest
  have hw := word_reads (UInt32.ofNat n) (bs ++ rest)
  have hm : (UInt32.ofNat n).toNat = n := UInt32.toNat_ofNat_of_lt' hn
  rw [writeWord, hm] at hw
  have hc : Reader.count (bytesLE 4 n ++ (bs ++ rest)) = .ok (n, bs ++ rest) := by
    show (Reader.word (bytesLE 4 n ++ (bs ++ rest)) >>= fun p =>
      (if p.2.length < p.1.toNat then Reader.fail .unexpectedEnd else pure p.1.toNat) p.2) = _
    rw [hw]
    show (if (bs ++ rest).length < (UInt32.ofNat n).toNat
      then Reader.fail .unexpectedEnd else pure (UInt32.ofNat n).toNat : Reader Nat) _ = _
    rw [hm, if_neg (by rw [List.length_append]; omega)]
    rfl
  rw [List.append_assoc]
  show (Reader.count (bytesLE 4 n ++ (bs ++ rest)) >>= fun p => f p.1 p.2) = _
  rw [hc]
  exact hf rest

theorem times_reads {α : Type} {item : Reader α} {write : α → Bytes} {xs : List α}
    (hx : ∀ x ∈ xs, item.Reads (write x) x) (done : List α) :
    (Reader.times item xs.length done).Reads (xs.flatMap write) (done.reverse ++ xs) := by
  induction xs generalizing done with
  | nil => simpa [Reader.times] using reads_pure done.reverse
  | cons x xs ih =>
    have hrest := ih (fun y hy => hx y (by simp [hy])) (x :: done)
    rw [List.reverse_cons, List.append_assoc] at hrest
    exact reads_bind (hx x (by simp)) hrest

theorem length_le_flatMap {α : Type} {write : α → Bytes} {xs : List α}
    (hw : ∀ x ∈ xs, 0 < (write x).length) : xs.length ≤ (xs.flatMap write).length := by
  induction xs with
  | nil => simp
  | cons x xs ih =>
    have h := ih fun y hy => hw y (by simp [hy])
    have hx := hw x (by simp)
    simp only [List.length_cons, List.flatMap_cons, List.length_append]
    omega

theorem list_reads {α : Type} {item : Reader α} {write : α → Bytes} {xs : List α}
    (hl : (writeList write xs).length < UInt32.size) (hw : ∀ x ∈ xs, 0 < (write x).length)
    (hx : ∀ x ∈ xs, item.Reads (write x) x) : (Reader.list item).Reads (writeList write xs) xs := by
  have hle := length_le_flatMap hw
  rw [writeList, List.length_append, length_bytesLE] at hl
  exact count_reads (by omega) hle (times_reads hx [])

theorem blob_reads {bs : Bytes} (hl : (writeBlob bs).length < UInt32.size) :
    Reader.blob.Reads (writeBlob bs) bs := by
  rw [writeBlob, List.length_append, length_bytesLE] at hl
  exact count_reads (by omega) (Nat.le_refl _) (bytes_reads bs)

theorem text_reads {s : String} (hl : (writeText s).length < UInt32.size) :
    Reader.text.Reads (writeText s) s := by
  rw [writeText, writeBlob] at hl ⊢
  generalize hb : s.toByteArray.data.toList = bs at hl ⊢
  rw [List.length_append, length_bytesLE] at hl
  have hn : (UInt32.ofNat bs.length).toNat = bs.length :=
    UInt32.toNat_ofNat_of_lt' (show bs.length < UInt32.size by omega)
  have hw := word_reads (UInt32.ofNat bs.length)
  rw [writeWord, hn] at hw
  have hs : String.fromUTF8? ⟨bs.toArray⟩ = some s := by
    subst hb
    exact dif_pos s.isValidUTF8
  refine reads_bind hw ?_
  refine reads_then (bytes_reads_of_length hn.symm) ?_
  rw [hs]
  exact reads_pure s

theorem length_writeText_pos (s : String) : 0 < (writeText s).length := by
  rw [writeText, writeBlob, List.length_append, length_bytesLE]
  omega

theorem length_le_of_mem {α : Type} {write : α → Bytes} {xs : List α} {x : α} (hx : x ∈ xs) :
    (write x).length ≤ (writeList write xs).length := by
  obtain ⟨front, back, rfl⟩ := List.append_of_mem hx
  simp only [writeList, List.length_append, List.flatMap_append, List.flatMap_cons]
  omega

theorem write_reads (f : Field) (v : f.Value) (hl : (f.write v).length < UInt32.size) :
    f.read.Reads (f.write v) v := by
  cases f with
  | flag => exact flag_reads v
  | mask =>
    rw [write, List.append_assoc, List.append_assoc]
    exact reads_bind (flag_reads _) <| reads_bind (flag_reads _) <| reads_bind (flag_reads _) <|
      reads_last (fun alpha => ChannelMask.mk v.red v.green v.blue alpha) (flag_reads _)
  | word => exact word_reads v
  | int => exact int_reads v
  | long => exact long_reads v
  | wide => exact wide_reads v
  | single => exact single_reads v
  | color =>
    rw [write, List.append_assoc, List.append_assoc]
    exact reads_bind (single_reads _) <| reads_bind (single_reads _) <|
      reads_bind (single_reads _) <|
      reads_last (fun alpha => Color.mk v.red v.green v.blue alpha) (single_reads _)
  | words => exact list_reads hl (fun n _ => by simp [writeWord]) fun n _ => word_reads n
  | ints => exact list_reads hl (fun n _ => by simp [writeWord]) fun n _ => int_reads n
  | wides => exact list_reads hl (fun n _ => by simp [writeWide]) fun n _ => wide_reads n
  | text => exact text_reads hl
  | texts =>
    exact list_reads hl (fun s _ => length_writeText_pos s) fun s hs =>
      text_reads (Nat.lt_of_le_of_lt (length_le_of_mem hs) hl)
  | blob => exact blob_reads hl
  | optionalBlob =>
    cases v with
    | none => exact fun rest => rfl
    | some bs =>
      rw [write, List.length_append] at hl
      exact reads_bind (flag_reads true) (reads_last some (blob_reads (by omega)))

end Field

theorem Arguments.write_reads (fs : List Field) (args : Arguments fs)
    (hl : (Arguments.write fs args).length < UInt32.size) :
    (Arguments.read fs).Reads (Arguments.write fs args) args := by
  induction fs with
  | nil => exact reads_pure ()
  | cons f fs ih =>
    obtain ⟨v, vs⟩ := args
    rw [write, List.length_append] at hl
    exact reads_bind (f.write_reads v (by omega)) (reads_last (v, ·) (ih vs (by omega)))

/-! Records -/

theorem Header.ofBytes_write (h : Header) : Header.ofBytes h.write = h := by
  have hword (n : UInt32) : UInt32.ofNat (natLE (bytesLE 4 n.toNat)) = n := by
    rw [natLE_bytesLE, show n.toNat % span 4 = n.toNat from Nat.mod_eq_of_lt n.toNat_lt,
      UInt32.ofNat_toNat]
  have h4 : (h.write.drop 4).take 4 = bytesLE 4 h.size.toNat := by
    simp [Header.write]
  have h8 : (h.write.drop 8).take 4 = bytesLE 4 h.token.toNat := by
    rw [Header.write, List.drop_left' (by simp), List.take_of_length_le (by simp)]
  have h0 : h.write.take 4 = bytesLE 4 h.opcode.toNat := by
    simp [Header.write]
  rw [Header.ofBytes, h0, h4, h8, hword, hword, hword]

theorem Header.length_write (h : Header) : h.write.length = headerSize := by
  simp [Header.write, headerSize]

theorem Header.parse_write {h : Header} (hl : headerSize ≤ h.length)
    (ha : h.length % alignment = 0) (rest : Bytes) : Header.parse (h.write ++ rest) = .ok h := by
  have hc := chop_append h.write rest
  rw [h.length_write] at hc
  have hn : ¬ h.length < headerSize := by omega
  rw [Header.parse, hc]
  simp [Header.ofBytes_write, hn, ha]

def headerOf (opcode token : UInt32) (payload : Bytes) : Header :=
  ⟨opcode, UInt32.ofNat (recordSize payload.length), token⟩

def padding (payload : Bytes) : Bytes :=
  List.replicate (recordSize payload.length - headerSize - payload.length) 0

theorem record_eq (opcode token : UInt32) (payload : Bytes) :
    record opcode token payload =
      (headerOf opcode token payload).write ++ (payload ++ padding payload) := by
  rw [← List.append_assoc]
  rfl

theorem length_padding_lt (payload : Bytes) : (padding payload).length < alignment := by
  have h := alignUp_lt (headerSize + payload.length)
  have hp : 0 < alignment := by decide
  rw [padding, List.length_replicate, recordSize]
  omega

theorem headerSize_le_recordSize (n : Nat) : headerSize ≤ recordSize n :=
  Nat.le_trans (Nat.le_add_right ..) (le_alignUp _)

theorem length_headerOf {opcode token : UInt32} {payload : Bytes}
    (hl : (record opcode token payload).length < UInt32.size) :
    (headerOf opcode token payload).length = (record opcode token payload).length := by
  rw [length_record] at hl ⊢
  exact UInt32.toNat_ofNat_of_lt' hl

theorem parse_header_of_record {opcode token : UInt32} {payload : Bytes}
    (hl : (record opcode token payload).length < UInt32.size) (rest : Bytes) :
    Header.parse ((headerOf opcode token payload).write ++ rest) =
      .ok (headerOf opcode token payload) := by
  have hh := length_headerOf hl
  rw [length_record] at hh
  exact Header.parse_write (hh ▸ headerSize_le_recordSize _) (by rw [hh]; exact alignUp_mod _) rest

theorem parse_record {opcode token : UInt32} {payload : Bytes}
    (hl : (record opcode token payload).length < UInt32.size) (rest : Bytes) :
    Header.parse (record opcode token payload ++ rest) =
      .ok (headerOf opcode token payload) := by
  rw [record_eq, List.append_assoc]
  exact parse_header_of_record hl _

theorem body_record {opcode token : UInt32} {payload : Bytes}
    (hl : (record opcode token payload).length < UInt32.size) (rest : Bytes) :
    body (headerOf opcode token payload) (record opcode token payload ++ rest) =
      .ok (payload ++ padding payload) := by
  have hh := length_headerOf hl
  have hw := (headerOf opcode token payload).length_write
  have hb : (headerOf opcode token payload).length - headerSize =
      (payload ++ padding payload).length := by
    rw [hh, record_eq, List.length_append, hw]
    omega
  rw [body, hb, record_eq, List.append_assoc, List.drop_left' hw, chop_append]

theorem readPayload_write {fs : List Field} {args : Arguments fs} {rest : Bytes}
    (hl : (Arguments.write fs args).length < UInt32.size) (hr : rest.length < alignment) :
    readPayload fs (Arguments.write fs args ++ rest) = .ok args := by
  rw [readPayload, Arguments.write_reads fs args hl rest]
  exact if_neg (by omega)

theorem length_payload_le (opcode token : UInt32) (payload : Bytes) :
    payload.length ≤ (record opcode token payload).length := by
  rw [length_record]
  exact Nat.le_trans (Nat.le_add_left ..) (le_alignUp _)

def commandHeader (token : UInt32) (c : Command) : Header :=
  headerOf c.opcode.number token (Arguments.write c.opcode.signature c.arguments)

def replyHeader (token : UInt32) (r : Reply) : Header :=
  headerOf r.kind.number token (Arguments.write r.kind.signature r.arguments)

theorem decodeCommand_of_parts {input bs : Bytes} {h : Header} {op : Opcode}
    {args : Arguments op.signature} (hp : Header.parse input = .ok h)
    (hb : body h input = .ok bs) (ho : Opcode.ofNumber? h.opcode = some op)
    (hr : readPayload op.signature bs = .ok args) :
    decodeCommand input = .ok (h, .ofArguments op args) := by
  simp [decodeCommand, hp, hb, ho, hr, bind, Except.bind, pure, Except.pure]

theorem decodeReply_of_parts {input bs : Bytes} {h : Header} {k : Reply.Kind}
    {args : Arguments k.signature} (hp : Header.parse input = .ok h)
    (hb : body h input = .ok bs) (ho : Reply.Kind.ofNumber? h.opcode = some k)
    (hr : readPayload k.signature bs = .ok args) :
    decodeReply input = .ok (h, .ofArguments k args) := by
  simp [decodeReply, hp, hb, ho, hr, bind, Except.bind, pure, Except.pure]

/-- Every command is read back from its record, whatever follows. -/
theorem decodeCommand_encodeCommand {token : UInt32} {c : Command}
    (hl : (encodeCommand token c).length < UInt32.size) (rest : Bytes) :
    decodeCommand (encodeCommand token c ++ rest) = .ok (commandHeader token c, c) := by
  have hw := Nat.lt_of_le_of_lt (length_payload_le ..) hl
  have h := decodeCommand_of_parts (parse_record hl rest) (body_record hl rest)
    (Opcode.ofNumber?_number c.opcode) (readPayload_write hw (length_padding_lt _))
  rwa [Command.ofArguments_arguments] at h

/-- Every reply is read back from its record, whatever follows. -/
theorem decodeReply_encodeReply {token : UInt32} {r : Reply}
    (hl : (encodeReply token r).length < UInt32.size) (rest : Bytes) :
    decodeReply (encodeReply token r ++ rest) = .ok (replyHeader token r, r) := by
  have hw := Nat.lt_of_le_of_lt (length_payload_le ..) hl
  have h := decodeReply_of_parts (parse_record hl rest) (body_record hl rest)
    (Reply.Kind.ofNumber?_number r.kind) (readPayload_write hw (length_padding_lt _))
  rwa [Reply.ofArguments_arguments] at h

/-- The record of a command goes behind what was written before, is filled up
with zeros, and is read back whatever follows it. A record whose size can be
expressed has no list, text or blob whose count cannot. -/
theorem appendCommand_readable (token : UInt32) (c : Command) (out rest : Bytes)
    (hl : recordSize (Arguments.write c.opcode.signature c.arguments).length < UInt32.size) :
    ∃ h r, appendCommand token c out = out ++ r ∧
      r.length = recordSize (Arguments.write c.opcode.signature c.arguments).length ∧
      r.length % alignment = 0 ∧
      (∃ n < alignment, r = h.write ++ Arguments.write c.opcode.signature c.arguments ++
        List.replicate n 0) ∧
      h.opcode = c.opcode.number ∧ h.length = r.length ∧ h.token = token ∧
      decodeCommand (r ++ rest) = .ok (h, c) := by
  have hlength :=
    length_record c.opcode.number token (Arguments.write c.opcode.signature c.arguments)
  have hsize : (encodeCommand token c).length < UInt32.size := by
    rw [encodeCommand, hlength]
    exact hl
  have hpad := length_padding_lt (Arguments.write c.opcode.signature c.arguments)
  rw [padding, List.length_replicate] at hpad
  refine ⟨commandHeader token c, encodeCommand token c, appendCommand_eq token c out, hlength, ?_,
    ⟨_, hpad, rfl⟩, rfl, length_headerOf hsize, rfl, decodeCommand_encodeCommand hsize rest⟩
  rw [encodeCommand, hlength]
  exact alignUp_mod _

theorem appendCommand_readable_of_sources :
    let c : Command := .shaderSource 7 ["void main();", "", "é"]
    recordSize (Arguments.write c.opcode.signature c.arguments).length = 48 ∧
    ∃ h r, appendCommand 0xFFFFFFFF c [1, 2, 3] = [1, 2, 3] ++ r ∧ r.length = 48 ∧
      decodeCommand (r ++ [4]) = .ok (h, c) := by
  intro c
  have hl : recordSize (Arguments.write c.opcode.signature c.arguments).length = 48 := by decide
  obtain ⟨h, r, happend, hlength, -, -, -, -, -, hdecode⟩ :=
    appendCommand_readable 0xFFFFFFFF c [1, 2, 3] [4] (by rw [hl]; decide)
  exact ⟨hl, h, r, happend, hlength.trans hl, hdecode⟩

end RenderRelay.Wire
