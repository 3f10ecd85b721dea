import RenderRelay.Proofs.Wire.Grammar

/-!
# Replies on the wire

A reply travels as a command does, in a record with its kind in place of the opcode. Kinds
with the same fields differ in nothing but that number. What is written for a reply is
read back as that reply and as no other, and whatever is read as a reply has the size of
what would be written for it.
-/

set_option autoImplicit false

namespace RenderRelay.Wire

theorem decodeReply_eq_ok_iff_parts {input : Bytes} {h : Header} {r : Reply} :
    decodeReply input = .ok (h, r) ↔ Header.parse input = .ok h ∧ ∃ bs, body h input = .ok bs ∧
      ∃ k args, Reply.Kind.ofNumber? h.opcode = some k ∧
        readPayload k.signature bs = .ok args ∧ r = .ofArguments k args := by
  constructor
  · intro hd
    rw [decodeReply] at hd
    cases hp : Header.parse input with
    | error e =>
      rw [hp] at hd
      cases hd
    | ok g =>
      rw [hp] at hd
      cases hb : body g input with
      | error e =>
        simp only [bind, Except.bind, hb] at hd
        cases hd
      | ok bs =>
        simp only [bind, Except.bind, hb] at hd
        cases hk : Reply.Kind.ofNumber? g.opcode with
        | none =>
          simp only [hk] at hd
          cases hd
        | some k =>
          simp only [hk] at hd
          cases hr : readPayload k.signature bs with
          | error e =>
            rw [hr] at hd
            cases hd
          | ok args =>
            rw [hr] at hd
            cases hd
            exact ⟨rfl, bs, hb, k, args, hk, hr, rfl⟩
  · rintro ⟨hp, bs, hb, k, args, hk, hr, rfl⟩
    exact decodeReply_of_parts hp hb hk hr

/-- A reply is read just where the input starts with a record of its arguments, under the
number of its kind. -/
theorem decodeReply_eq_ok_iff {input : Bytes} {h : Header} {r : Reply} :
    decodeReply input = .ok (h, r) ↔ Holds input h r.arguments ∧ h.opcode = r.kind.number := by
  rw [decodeReply_eq_ok_iff_parts, holds_iff]
  constructor
  · rintro ⟨hp, bs, hb, k, args, hk, hr, rfl⟩
    have hd := holds_iff.mpr ⟨hp, bs, hb, hr⟩
    rw [← holds_iff]
    refine ⟨(holds_congr (by rw [Reply.kind_ofArguments])
      (Reply.arguments_ofArguments k args)).mpr hd, ?_⟩
    rw [Reply.kind_ofArguments]
    exact (Reply.Kind.number_of_ofNumber? hk).symm
  · rintro ⟨⟨hp, bs, hb, hr⟩, hk⟩
    refine ⟨hp, bs, hb, r.kind, r.arguments, ?_, hr, r.ofArguments_arguments.symm⟩
    rw [hk, Reply.Kind.ofNumber?_number]

section Decoded

variable {input : Bytes} {h : Header} {r : Reply} (hd : decodeReply input = .ok (h, r))
include hd

theorem length_of_decodeReply : h.length = (encodeReply h.token r).length :=
  (decodeReply_eq_ok_iff.mp hd).1.length_eq r.kind.number h.token

theorem decodeReply_encode : decodeReply (encodeReply h.token r) = .ok (h, r) := by
  obtain ⟨hh, hk⟩ := decodeReply_eq_ok_iff.mp hd
  have hsize : (encodeReply h.token r).length < UInt32.size := by
    rw [← length_of_decodeReply hd]
    exact h.size.toNat_lt
  have hr := decodeReply_encodeReply hsize []
  rwa [List.append_nil, replyHeader, ← hk, hh.header_eq] at hr

theorem decodeReply_cut {n : Nat} (hn : n < h.length) :
    decodeReply (input.take n) = .error .unexpectedEnd := by
  rcases (decodeReply_eq_ok_iff.mp hd).1.cut hn with hp | ⟨hp, hb⟩
  · rw [decodeReply, hp]
    rfl
  · rw [decodeReply, hp]
    simp only [bind, Except.bind, hb]

end Decoded

/-- Records of replies that start the same input are of the same reply, with the same token. -/
theorem encodeReply_inj {token token' : UInt32} {r r' : Reply} {rest rest' : Bytes}
    (hl : (encodeReply token r).length < UInt32.size)
    (hl' : (encodeReply token' r').length < UInt32.size)
    (he : encodeReply token r ++ rest = encodeReply token' r' ++ rest') :
    token = token' ∧ r = r' := by
  have hsame := (decodeReply_encodeReply hl rest).symm.trans
    ((congrArg decodeReply he).trans (decodeReply_encodeReply hl' rest'))
  obtain ⟨hh, hr⟩ := Prod.mk.inj (Except.ok.inj hsame)
  exact ⟨congrArg Header.token hh, hr⟩

/-- The record of a reply goes behind what was written before, is filled up with zeros, and is
read back whatever follows it; no other reply starts the same way. A record whose size can
be expressed has no list whose count cannot. And whatever is read as a reply has the size of
what is written for it, which is read alike, and no shorter piece of it will do. -/
theorem appendReply_survives (token : UInt32) (r : Reply) (out rest : Bytes)
    (hl : recordSize (Arguments.write r.kind.signature r.arguments).length < UInt32.size) :
    (∃ h bs, appendReply token r out = out ++ bs ∧
      (∃ n < alignment, bs = h.write ++ Arguments.write r.kind.signature r.arguments ++
        List.replicate n 0) ∧
      bs.length % alignment = 0 ∧ h.length = bs.length ∧ h.opcode = r.kind.number ∧
      h.token = token ∧ decodeReply (bs ++ rest) = .ok (h, r) ∧
      ∀ token' r' rest', (encodeReply token' r').length < UInt32.size →
        bs ++ rest = encodeReply token' r' ++ rest' → token = token' ∧ r = r') ∧
    ∀ input h v, decodeReply input = .ok (h, v) →
      h.opcode = v.kind.number ∧ h.length = (encodeReply h.token v).length ∧
      decodeReply (encodeReply h.token v) = .ok (h, v) ∧
      ∀ n < h.length, decodeReply (input.take n) = .error .unexpectedEnd := by
  have hlength :=
    length_record r.kind.number token (Arguments.write r.kind.signature r.arguments)
  have hsize : (encodeReply token r).length < UInt32.size := by
    rw [encodeReply, hlength]
    exact hl
  have hpad := length_padding_lt (Arguments.write r.kind.signature r.arguments)
  rw [padding, List.length_replicate] at hpad
  refine ⟨⟨replyHeader token r, encodeReply token r, appendReply_eq token r out, ⟨_, hpad, rfl⟩,
    ?_, length_headerOf hsize, rfl, rfl, decodeReply_encodeReply hsize rest,
    fun _ _ _ hl' => encodeReply_inj hsize hl'⟩, fun input h v hd => ?_⟩
  · rw [encodeReply, hlength]
    exact alignUp_mod _
  · exact ⟨(decodeReply_eq_ok_iff.mp hd).2, length_of_decodeReply hd, decodeReply_encode hd,
      fun n hn => decodeReply_cut hd hn⟩

/-- An enumerant behind another byte: its bytes are no number's record, and are not read
without the last of them. -/
theorem appendReply_survives_of_enum :
    ∃ h bs, appendReply 7 (.enum 0x506) [0xFF] = 0xFF :: bs ∧ bs.length = 16 ∧
      decodeReply (bs ++ [9]) = .ok (h, .enum 0x506) ∧
      decodeReply ((bs ++ [9]).take 15) = .error .unexpectedEnd ∧
      ∀ rest', bs ++ [9] ≠ encodeReply 7 (.uint 0x506) ++ rest' := by
  obtain ⟨⟨h, bs, happend, -, -, hlength, -, -, hdecode, hother⟩, hread⟩ :=
    appendReply_survives 7 (.enum 0x506) [0xFF] [9] (by decide)
  have hbs : bs = encodeReply 7 (.enum 0x506) := by
    rw [appendReply_eq] at happend
    exact (List.append_cancel_left happend).symm
  have hsize : bs.length = 16 := by
    rw [hbs]
    decide
  refine ⟨h, bs, happend, hsize, hdecode, ?_, fun rest' he => ?_⟩
  · exact (hread _ _ _ hdecode).2.2.2 15 (by omega)
  · cases (hother 7 _ rest' (by decide) he).2

end RenderRelay.Wire
