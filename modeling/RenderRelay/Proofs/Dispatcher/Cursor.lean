import RenderRelay.Proofs.Channel.Stream
import RenderRelay.Proofs.Wire.Grammar

/-!
# The record at the cursor

A dispatcher goes by the size that a header gives, and by nothing else in the
record. A header that makes no sense stops it where it is. Any other record is
stepped over as a whole and its token acknowledged, whether it decodes or not.
-/

set_option autoImplicit false

namespace RenderRelay

namespace Wire

theorem Header.parse_append {front : Bytes} (hl : front.length = headerSize) (rest : Bytes) :
    parse (front ++ rest) = parse front := by
  have hfront := (chop_eq_some_iff headerSize front front []).mpr ⟨hl, (List.append_nil _).symm⟩
  have hboth := (chop_eq_some_iff headerSize (front ++ rest) front rest).mpr ⟨hl, rfl⟩
  rw [parse, parse, hfront, hboth]

theorem Header.parse_take {input : Bytes} (hl : headerSize ≤ input.length) :
    parse (input.take headerSize) = parse input := by
  have h := parse_append (List.length_take_of_le hl) (input.drop headerSize)
  rw [List.take_append_drop] at h
  exact h.symm

def Whole (record : Bytes) : Prop :=
  (Header.parse record).toOption.map Header.length = some record.length

instance (record : Bytes) : Decidable (Whole record) := inferInstanceAs (Decidable (_ = _))

theorem whole_iff {record : Bytes} :
    Whole record ↔ ∃ h, Header.parse record = .ok h ∧ h.length = record.length := by
  unfold Whole
  cases Header.parse record <;> simp [Except.toOption]

def tokenOf? (record : Bytes) : Option UInt32 := (Header.parse record).toOption.map Header.token

def command? (record : Bytes) : Option (UInt32 × Command) :=
  (decodeCommand record).toOption.map fun p => (p.1.token, p.2)

theorem command?_eq_some {record : Bytes} {h : Header} (hp : Header.parse record = .ok h)
    {t : UInt32} {c : Command} (hc : command? record = some (t, c)) :
    t = h.token ∧ decodeCommand record = .ok (h, c) := by
  unfold command? at hc
  cases hd : decodeCommand record with
  | error e =>
    rw [hd] at hc
    cases hc
  | ok p =>
    obtain ⟨h', c'⟩ := p
    rw [hd] at hc
    obtain ⟨hp', -⟩ := decodeCommand_eq_ok_iff_parts.mp hd
    obtain rfl : h = h' := Except.ok.inj (hp.symm.trans hp')
    cases hc
    exact ⟨rfl, rfl⟩

theorem command?_eq_none {record : Bytes} :
    command? record = none ↔ ∃ e, decodeCommand record = .error e := by
  unfold command?
  cases decodeCommand record <;> simp [Except.toOption]

end Wire

open Wire

namespace Dispatcher

variable {δ : Type} {d : Dispatcher δ} {h : Header}

structure At (d : Dispatcher δ) (h : Header) : Prop where
  parsed : Header.parse (d.channel.commands.peek headerSize) = .ok h
  covers : headerSize ≤ h.length
  fits : h.length ≤ d.channel.commands.capacity
  whole : h.length ≤ d.channel.commands.fill

theorem header_of_at (ha : d.At h) : d.header = .ready (.ok h) := by
  have hcovers := ha.covers
  have hwhole := ha.whole
  rw [header, if_neg (by omega), ha.parsed]
  dsimp only
  rw [if_neg (by have := ha.fits; omega), Attempt.persist, if_pos (by simpa using ha.whole)]

theorem at_of_header (hd : d.header = .ready (.ok h)) : d.At h := by
  unfold header at hd
  dsimp only at hd
  split at hd
  · cases hd
  split at hd
  · cases hd
  next hp =>
  split at hd
  · cases hd
  next hc =>
  unfold Attempt.persist at hd
  split at hd
  · next hw =>
    cases hd
    exact ⟨hp, (Header.parse_eq_ok_iff.mp hp).1, by omega, by simpa using hw⟩
  · cases hd

theorem at_of_contents {record rest : Bytes} (hp : Header.parse record = .ok h)
    (hl : h.length = record.length) (hc : record.length ≤ d.channel.commands.capacity)
    (hcontents : d.channel.commands.contents = record ++ rest) : d.At h := by
  have hf := Ring.fill_of_contents hcontents
  have hcovers := (Header.parse_eq_ok_iff.mp hp).1
  refine ⟨?_, hcovers, hl ▸ hc, by omega⟩
  rw [Ring.peek_eq_take _ _ (by omega), hcontents, List.take_append_of_le_length (by omega),
    Header.parse_take (by omega), hp]

structure Advances (d : Dispatcher δ) (h : Header) (d' : Dispatcher δ) : Prop where
  commands : d'.channel.commands = (d.channel.commands.skip h.length).acknowledge h.token
  contents : d'.channel.commands.contents = d.channel.commands.contents.drop h.length
  fill : d'.channel.commands.fill + h.length = d.channel.commands.fill
  lastToken : d'.channel.commands.lastToken = h.token

theorem advances_of_commands (ha : d.At h) {d' : Dispatcher δ}
    (hd : d'.channel.commands = (d.channel.commands.skip h.length).acknowledge h.token) :
    Advances d h d' where
  commands := hd
  contents := by
    rw [hd]
    exact Ring.skip_contents ha.whole
  fill := by
    rw [hd]
    exact Nat.sub_add_cancel ha.whole
  lastToken := by
    rw [hd]
    rfl

theorem commands_of_postReply {ch ch' : Channel} {t : UInt32} {reply : Reply}
    {result : Except TransportError Unit} (hp : ch.postReply t reply = .ready (result, ch')) :
    ch'.commands = ch.commands := by
  unfold Channel.postReply at hp
  dsimp only at hp
  split at hp <;> cases hp <;> rfl

variable [Driver δ]

theorem advances_of_handle (ha : d.At h) {c : Command} {outcome : Outcome} {d' : Dispatcher δ}
    (hd : d.handle h c = .ready (.ok outcome, d')) : d.Advances h d' := by
  unfold handle at hd
  dsimp only at hd
  split at hd
  · cases hd
    exact advances_of_commands ha rfl
  · next reply _ =>
    cases hp : d.channel.postReply h.token reply with
    | absent | waits =>
      rw [hp] at hd
      cases hd
    | ready posted =>
      obtain ⟨_ | _, channel⟩ := posted
      · rw [hp] at hd
        cases hd
      · rw [hp] at hd
        cases hd
        refine advances_of_commands ha ?_
        rw [← commands_of_postReply hp]
        rfl

structure InStep (d : Dispatcher δ) : Prop where
  /-- A header that makes no sense stops the dispatcher, and nothing changes. -/
  refused : headerSize ≤ d.channel.commands.fill →
    ∀ e, Header.parse (d.channel.commands.peek headerSize) = .error e →
      d.step = .ready (.error (.corruptRecord e), d)
  /-- So does one whose record the ring cannot hold. -/
  oversized : headerSize ≤ d.channel.commands.fill →
    ∀ h, Header.parse (d.channel.commands.peek headerSize) = .ok h →
      d.channel.commands.capacity < h.length →
        d.step = .ready (.error (.corruptRecord (.badSize h.size)), d)
  /-- A record that does not decode is stepped over. -/
  skipped : ∀ h, d.At h → ∀ e, decodeCommand (d.channel.commands.peek h.length) = .error e →
    d.step = .ready (.ok .goOn, d.finish h)
  /-- A step that succeeds has given a whole record back. -/
  advances : ∀ outcome d', d.step = .ready (.ok outcome, d') → ∃ h, d.At h ∧ d.Advances h d'

theorem step_of_at (ha : d.At h) :
    d.step = match decodeCommand (d.channel.commands.peek h.length) with
      | .error _ => .ready (.ok .goOn, d.finish h)
      | .ok (_, c) => d.handle h c := by
  unfold step
  generalize hd : d.header = result
  obtain rfl : result = .ready (.ok h) := hd.symm.trans (header_of_at ha)
  rfl

theorem step_of_error {e : DispatchError} (hd : d.header = .ready (.error e)) :
    d.step = .ready (.error e, d) := by
  rw [step, hd]

theorem inStep (d : Dispatcher δ) : d.InStep where
  refused hf e hp := by
    apply step_of_error
    rw [header, if_neg (by omega), hp]
  oversized hf h hp hc := by
    apply step_of_error
    rw [header, if_neg (by omega), hp]
    exact if_pos hc
  skipped h ha e hd := by rw [step_of_at ha, hd]
  advances outcome d' hs := by
    cases hd : d.header with
    | absent | waits =>
      rw [step, hd] at hs
      cases hs
    | ready result =>
      cases result with
      | error e =>
        rw [step_of_error hd] at hs
        cases hs
      | ok h =>
        have ha := at_of_header hd
        refine ⟨h, ha, ?_⟩
        rw [step_of_at ha] at hs
        split at hs
        · cases hs
          exact advances_of_commands ha rfl
        · exact advances_of_handle ha hs

end Dispatcher

end RenderRelay
