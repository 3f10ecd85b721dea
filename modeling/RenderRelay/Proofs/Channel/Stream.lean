import RenderRelay.Dispatcher
import RenderRelay.Proofs.Engine.Direct
import RenderRelay.Proofs.Ring.View
import RenderRelay.Proofs.Wire.RoundTrip

/-!
# Records in rings

A command ring holds the records of the commands that were sent and not yet
given back, in their order. From its front the dispatcher reads just the
command that was sent; from the front of a reply ring the client takes just
the reply that was posted.
-/

set_option autoImplicit false

namespace RenderRelay

open Wire

namespace Ring

variable {r : Ring} {bs rest : Bytes}

theorem fill_of_contents (h : r.contents = bs ++ rest) : r.fill = bs.length + rest.length := by
  rw [← length_contents, h, List.length_append]

theorem peek_of_contents (h : r.contents = bs ++ rest) : r.peek bs.length = bs := by
  have hf := fill_of_contents h
  rw [peek_eq_take r _ (by omega), h, List.take_left]

theorem skip_sound_of_contents (hr : r.Sound) (h : r.contents = bs ++ rest) :
    (r.skip bs.length).Sound := by
  have hf := fill_of_contents h
  exact skip_sound hr (by omega)

theorem skip_contents_of_contents (h : r.contents = bs ++ rest) :
    (r.skip bs.length).contents = rest := by
  have hf := fill_of_contents h
  rw [skip_contents (by omega), h, List.drop_left]

theorem peek_header {opcode token : UInt32} {payload : Bytes}
    (h : r.contents = record opcode token payload ++ rest) :
    r.peek headerSize = (headerOf opcode token payload).write := by
  rw [record_eq, List.append_assoc] at h
  have hp := peek_of_contents h
  rwa [Header.length_write] at hp

theorem free_of_empty (h : r.contents = []) : r.free = r.capacity := by
  have hf : r.fill = 0 := by rw [← length_contents, h, List.length_nil]
  rw [free, hf, Nat.sub_zero]

end Ring

namespace Wire

variable {t : UInt32} {c : Command}

theorem length_encodeCommand (t u : UInt32) (c : Command) :
    (encodeCommand t c).length = (encodeCommand u c).length := by
  rw [encodeCommand, length_record, encodeCommand, length_record]

theorem length_encodeReply (t u : UInt32) (reply : Reply) :
    (encodeReply t reply).length = (encodeReply u reply).length := by
  rw [encodeReply, length_record, encodeReply, length_record]

theorem headerSize_le_encodeCommand (t : UInt32) (c : Command) :
    headerSize ≤ (encodeCommand t c).length := by
  rw [encodeCommand, length_record]
  exact headerSize_le_recordSize _

theorem headerSize_le_encodeReply (t : UInt32) (reply : Reply) :
    headerSize ≤ (encodeReply t reply).length := by
  rw [encodeReply, length_record]
  exact headerSize_le_recordSize _

theorem encodeReply_ne_nil (t : UInt32) (reply : Reply) : encodeReply t reply ≠ [] := by
  intro h
  have hl := headerSize_le_encodeReply t reply
  rw [h] at hl
  exact absurd hl (by decide)

def records (k : Nat) : List Command → Bytes
  | [] => []
  | c :: cs => encodeCommand (tokenAfter (k + 1)) c ++ records (k + 1) cs

theorem records_append (k : Nat) (as bs : List Command) :
    records k (as ++ bs) = records k as ++ records (k + as.length) bs := by
  induction as generalizing k with
  | nil => rfl
  | cons c as ih =>
    rw [List.cons_append, records, records, ih, List.append_assoc, List.length_cons,
      Nat.add_assoc k 1, Nat.add_comm 1]

theorem records_singleton (k : Nat) (c : Command) :
    records k [c] = encodeCommand (tokenAfter (k + 1)) c := List.append_nil _

end Wire

namespace Channel

theorem create_eq {settings : Ring.Settings} {usable : String → Bool} {ch : Channel}
    (h : create settings usable = .ok ch) :
    Ring.create 0 settings usable = .ok ch.commands ∧
      Ring.create 1 settings usable = .ok ch.replies ∧ ch.issued = Ring.noToken := by
  rw [create] at h
  cases hc : Ring.create 0 settings usable with
  | error e =>
    rw [hc] at h
    cases h
  | ok commands =>
    cases hr : Ring.create 1 settings usable with
    | error e =>
      rw [hc, hr] at h
      cases h
    | ok replies =>
      rw [hc, hr] at h
      cases h
      exact ⟨rfl, rfl, rfl⟩

theorem send_of_le {ch : Channel} {c : Command}
    (hl : (encodeCommand (nextToken ch.issued) c).length ≤ ch.commands.capacity) :
    ch.send c =
      if (encodeCommand (nextToken ch.issued) c).length ≤ ch.commands.free then
        .ready (.ok (nextToken ch.issued),
          { ch with
            commands := ch.commands.append (encodeCommand (nextToken ch.issued) c)
            issued := nextToken ch.issued })
      else .waits := by
  rw [send, Ring.push_of_le hl]
  by_cases hf : (encodeCommand (nextToken ch.issued) c).length ≤ ch.commands.free
  · rw [if_pos hf, if_pos hf]
  · rw [if_neg hf, if_neg hf]

theorem postReply_of_le {ch : Channel} {t : UInt32} {reply : Reply}
    (hl : (encodeReply t reply).length ≤ ch.replies.capacity) :
    ch.postReply t reply =
      if (encodeReply t reply).length ≤ ch.replies.free then
        .ready (.ok (), { ch with replies := ch.replies.append (encodeReply t reply) })
      else .waits := by
  rw [postReply, Ring.push_of_le hl]
  by_cases hf : (encodeReply t reply).length ≤ ch.replies.free
  · rw [if_pos hf, if_pos hf]
  · rw [if_neg hf, if_neg hf]

theorem takeReply_of_empty {ch : Channel} (h : ch.replies.contents = []) (t : UInt32) :
    ch.takeReply t = .waits := by
  have hf : ch.replies.fill = 0 := by rw [← Ring.length_contents, h, List.length_nil]
  rw [takeReply, Ring.takeRecord, if_pos (by rw [hf]; decide)]
  rfl

theorem takeReply_of_contents {ch : Channel} {t : UInt32} {reply : Reply} {rest : Bytes}
    (hl : (encodeReply t reply).length < UInt32.size)
    (h : ch.replies.contents = encodeReply t reply ++ rest) :
    ch.takeReply t = .ready (.ok reply,
      { ch with replies := ch.replies.skip (encodeReply t reply).length }) := by
  have hf := Ring.fill_of_contents h
  have hs := headerSize_le_encodeReply t reply
  have hh : (replyHeader t reply).length = (encodeReply t reply).length := length_headerOf hl
  have hp : Header.parse (ch.replies.peek headerSize) = .ok (replyHeader t reply) := by
    rw [Ring.peek_header h, ← List.append_nil (Header.write _)]
    exact parse_header_of_record hl []
  have hd := decodeReply_encodeReply hl []
  rw [List.append_nil] at hd
  have hm : min (replyHeader t reply).length ch.replies.fill = (encodeReply t reply).length := by
    omega
  rw [takeReply, Ring.takeRecord, if_neg (by omega), hp]
  dsimp only
  rw [Attempt.persist, if_pos (by simp only [decide_eq_true_eq]; omega), hm,
    Ring.peek_of_contents h, hd, hh]
  exact congrArg Attempt.ready (Prod.ext (if_pos rfl) rfl)

end Channel

namespace Dispatcher

variable {δ : Type} {d : Dispatcher δ} {t : UInt32} {c : Command} {rest : Bytes}

theorem header_of_empty (h : d.channel.commands.contents = []) : d.header = .waits := by
  have hf : d.channel.commands.fill = 0 := by rw [← Ring.length_contents, h, List.length_nil]
  rw [header, if_pos (by rw [hf]; decide)]

/-- The header in front is that of the command that was sent first. -/
theorem header_of_contents (hl : (encodeCommand t c).length ≤ d.channel.commands.capacity)
    (hc : d.channel.commands.capacity < UInt32.size)
    (h : d.channel.commands.contents = encodeCommand t c ++ rest) :
    d.header = .ready (.ok (commandHeader t c)) := by
  have hf := Ring.fill_of_contents h
  have hs := headerSize_le_encodeCommand t c
  have hl' : (encodeCommand t c).length < UInt32.size := by omega
  have hh : (commandHeader t c).length = (encodeCommand t c).length := length_headerOf hl'
  have hp : Header.parse (d.channel.commands.peek headerSize) = .ok (commandHeader t c) := by
    rw [Ring.peek_header h, ← List.append_nil (Header.write _)]
    exact parse_header_of_record hl' []
  rw [header, if_neg (by omega), hp]
  dsimp only
  rw [if_neg (by omega), Attempt.persist, if_pos (by simp only [decide_eq_true_eq]; omega)]

theorem decode_of_contents (hl : (encodeCommand t c).length < UInt32.size)
    (h : d.channel.commands.contents = encodeCommand t c ++ rest) :
    decodeCommand (d.channel.commands.peek (commandHeader t c).length) =
      .ok (commandHeader t c, c) := by
  have hh : (commandHeader t c).length = (encodeCommand t c).length := length_headerOf hl
  have hd := decodeCommand_encodeCommand hl []
  rw [List.append_nil] at hd
  rw [hh, Ring.peek_of_contents h, hd]

end Dispatcher

end RenderRelay
