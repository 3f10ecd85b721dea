import RenderRelay.Proofs.Channel.Stream
import RenderRelay.Proofs.Ring.Queue

/-!
# Lengths on the wire

The size of a record and the count of every list, text and blob in it are
written with 32 bits. A writer that refuses what 32 bits cannot express would
have written every record that enters a ring just the same: no ring has a
capacity beyond that, and an element takes a byte at least.
-/

set_option autoImplicit false

namespace RenderRelay

open Wire

namespace Wire

/-! ## A writer that refuses to truncate -/

def checkedCount (n : Nat) : Option Bytes := if n < UInt32.size then some (bytesLE 4 n) else none

namespace Field

def checkedList {α : Type} (item : α → Option Bytes) (xs : List α) : Option Bytes := do
  let count ← checkedCount xs.length
  let items ← xs.mapM item
  return count ++ items.flatten

def checkedBlob (bs : Bytes) : Option Bytes := (checkedCount bs.length).map (· ++ bs)

def checkedText (s : String) : Option Bytes := checkedBlob s.toByteArray.data.toList

/-- Writes a value as `write` does, but refuses a count that it would have to cut off. -/
def writeChecked : (f : Field) → f.Value → Option Bytes
  | words, ns => checkedList (fun n => some (writeWord n)) ns
  | ints, ns => checkedList (fun n => some (writeWord n.toUInt32)) ns
  | wides, ns => checkedList (fun n => some (writeWide n)) ns
  | text, s => checkedText s
  | texts, ss => checkedList checkedText ss
  | blob, bs => checkedBlob bs
  | optionalBlob, some bs => (checkedBlob bs).map (writeFlag true ++ ·)
  | f, v => some (f.write v)

end Field

def Arguments.writeChecked : (fs : List Field) → Arguments fs → Option Bytes
  | [], () => some []
  | f :: fs, (v, vs) => do
    let front ← f.writeChecked v
    let back ← writeChecked fs vs
    return front ++ back

def checkedRecord (opcode token : UInt32) (payload : Bytes) : Option Bytes :=
  (checkedCount (recordSize payload.length)).map fun size =>
    bytesLE 4 opcode.toNat ++ size ++ bytesLE 4 token.toNat ++ payload ++ padding payload

def checkedCommand (token : UInt32) (c : Command) : Option Bytes :=
  (Arguments.writeChecked c.opcode.signature c.arguments).bind (checkedRecord c.opcode.number token)

def checkedReply (token : UInt32) (r : Reply) : Option Bytes :=
  (Arguments.writeChecked r.kind.signature r.arguments).bind (checkedRecord r.kind.number token)

theorem checkedCount_of_lt {n : Nat} (h : n < UInt32.size) : checkedCount n = some (bytesLE 4 n) :=
  if_pos h

namespace Field

theorem checkedList_of_lt {α : Type} {item : α → Option Bytes} {write : α → Bytes} {xs : List α}
    (hl : (writeList write xs).length < UInt32.size) (hw : ∀ x ∈ xs, 0 < (write x).length)
    (hx : ∀ x ∈ xs, item x = some (write x)) : checkedList item xs = some (writeList write xs) := by
  have hle := length_le_flatMap hw
  rw [writeList, List.length_append, length_bytesLE] at hl
  have hm : xs.mapM item = some (xs.map write) := by
    clear hle hl hw
    induction xs with
    | nil => rfl
    | cons x xs ih =>
      rw [List.mapM_cons, hx x (by simp), ih fun y hy => hx y (by simp [hy])]
      rfl
  rw [checkedList, checkedCount_of_lt (by omega), hm]
  rfl

theorem checkedBlob_of_lt {bs : Bytes} (hl : (writeBlob bs).length < UInt32.size) :
    checkedBlob bs = some (writeBlob bs) := by
  rw [writeBlob, List.length_append, length_bytesLE] at hl
  rw [checkedBlob, checkedCount_of_lt (by omega)]
  rfl

theorem checkedText_of_lt {s : String} (hl : (writeText s).length < UInt32.size) :
    checkedText s = some (writeText s) := checkedBlob_of_lt hl

theorem writeChecked_of_lt (f : Field) (v : f.Value) (hl : (f.write v).length < UInt32.size) :
    f.writeChecked v = some (f.write v) := by
  cases f with
  | words | ints => exact checkedList_of_lt hl (fun n _ => by simp [writeWord]) fun _ _ => rfl
  | wides => exact checkedList_of_lt hl (fun n _ => by simp [writeWide]) fun _ _ => rfl
  | text => exact checkedText_of_lt hl
  | blob => exact checkedBlob_of_lt hl
  | texts =>
    exact checkedList_of_lt hl (fun s _ => length_writeText_pos s) fun s hs =>
      checkedText_of_lt (Nat.lt_of_le_of_lt (length_le_of_mem hs) hl)
  | optionalBlob =>
    cases v with
    | none => rfl
    | some bs =>
      rw [write, List.length_append] at hl
      rw [writeChecked, checkedBlob_of_lt (by omega)]
      rfl
  | flag | mask | word | int | long | wide | single | color => rfl

end Field

theorem Arguments.writeChecked_of_lt (fs : List Field) (args : Arguments fs)
    (hl : (Arguments.write fs args).length < UInt32.size) :
    Arguments.writeChecked fs args = some (Arguments.write fs args) := by
  induction fs with
  | nil => rfl
  | cons f fs ih =>
    obtain ⟨v, vs⟩ := args
    rw [write, List.length_append] at hl
    rw [writeChecked, f.writeChecked_of_lt v (by omega), ih vs (by omega)]
    rfl

theorem checkedRecord_of_lt {opcode token : UInt32} {payload : Bytes}
    (hl : (record opcode token payload).length < UInt32.size) :
    checkedRecord opcode token payload = some (record opcode token payload) := by
  rw [length_record] at hl
  have hsize : (UInt32.ofNat (recordSize payload.length)).toNat = recordSize payload.length :=
    UInt32.toNat_ofNat_of_lt' hl
  rw [checkedRecord, checkedCount_of_lt hl, record, Header.write, hsize]
  rfl

theorem checkedCommand_of_lt {token : UInt32} {c : Command}
    (hl : (encodeCommand token c).length < UInt32.size) :
    checkedCommand token c = some (encodeCommand token c) := by
  have hw := Nat.lt_of_le_of_lt (length_payload_le ..) hl
  rw [checkedCommand, Arguments.writeChecked_of_lt _ _ hw]
  exact checkedRecord_of_lt hl

theorem checkedReply_of_lt {token : UInt32} {r : Reply}
    (hl : (encodeReply token r).length < UInt32.size) :
    checkedReply token r = some (encodeReply token r) := by
  have hw := Nat.lt_of_le_of_lt (length_payload_le ..) hl
  rw [checkedReply, Arguments.writeChecked_of_lt _ _ hw]
  exact checkedRecord_of_lt hl

end Wire

/-! ## Rings in use -/

namespace Ring

def InUse (r : Ring) : Prop :=
  ∃ id settings usable fresh ops answers,
    create id settings usable = .ok fresh ∧ fresh.run ops = some (answers, r)

variable {r s : Ring}

theorem perform_capacity {op : Op} {a : Answer} (h : r.perform op = some (a, s)) :
    s.capacity = r.capacity := by
  cases op with
  | writable | readable | waitReadable =>
    rw [perform] at h
    obtain ⟨v, hv⟩ := eq_of_fold h
    rw [(Prod.mk.inj hv).2]
  | write =>
    rw [perform] at h
    obtain ⟨v, hv⟩ := eq_of_fold h
    rw [(Prod.mk.inj hv).2]
    rfl
  | acknowledge =>
    rw [← (Prod.mk.inj (Option.some.inj h)).2]
    rfl
  | commitWrite => grind [perform, commitWrite]
  | tryPush => grind [perform, tryPush, append]
  | push => grind [perform, push, append, Attempt.persist]
  | commitRead => grind [perform, commitRead, skip]
  | popExact => grind [perform, popExact, skip, Attempt.persist]
  | clear => grind [perform, clear]

theorem run_capacity {ops : List Op} {answers : List Answer}
    (h : r.run ops = some (answers, s)) : s.capacity = r.capacity := by
  induction ops generalizing r answers with
  | nil =>
    cases h
    rfl
  | cons op ops ih =>
    rw [run] at h
    split at h
    · cases h
    · next a t ht =>
      obtain ⟨⟨as, u⟩, hu, hs⟩ := Option.map_eq_some_iff.mp h
      cases hs
      exact (ih hu).trans (perform_capacity ht)

theorem InUse.sound (hr : r.InUse) : r.Sound := by
  obtain ⟨id, settings, usable, fresh, ops, answers, hc, hrun⟩ := hr
  have halike := run_alike (create_holds hc) ops
  rw [hrun] at halike
  generalize (Queue.empty id fresh.capacity settings.mode).run ops = y at halike
  cases halike with
  | some hxy => exact hxy.2.sound

theorem InUse.capacity_lt (hr : r.InUse) : r.capacity < 0xFFFFFFFF := by
  obtain ⟨id, settings, usable, fresh, ops, answers, hc, hrun⟩ := hr
  obtain ⟨hlt, hfresh⟩ := create_eq hc
  rw [run_capacity hrun, hfresh]
  exact hlt

theorem inUse_of_create {id : Nat} {settings : Settings} {usable : String → Bool}
    (h : create id settings usable = .ok r) : r.InUse :=
  ⟨id, settings, usable, r, [], [], h, rfl⟩

theorem push_cases (hr : r.InUse) (record : Bytes) :
    (r.capacity < record.length ∧ r.push record = .ready (.error .tooLarge)) ∨
      (record.length ≤ r.free ∧ record.length < UInt32.size ∧
        r.push record = .ready (.ok (r.append record)) ∧
        (r.append record).contents = r.contents ++ record) ∨
      (r.free < record.length ∧ record.length ≤ r.capacity ∧ r.push record = .waits) := by
  have hlt := hr.capacity_lt
  have hle : r.free ≤ r.capacity := Nat.sub_le ..
  by_cases hl : record.length ≤ r.capacity
  · have hp := push_of_le hl
    by_cases hf : record.length ≤ r.free
    · rw [if_pos hf] at hp
      exact .inr (.inl ⟨hf, by simp only [UInt32.size]; omega, hp, append_contents hr.sound hf⟩)
    · rw [if_neg hf] at hp
      exact .inr (.inr ⟨by omega, hl, hp⟩)
  · exact .inl ⟨by omega, if_pos (by omega)⟩

end Ring

namespace Channel

structure Carries (before after : Ring) (record : Bytes) (h : Header) (token : UInt32) : Prop where
  contents_eq : after.contents = before.contents ++ record
  length_eq : h.length = record.length
  token_eq : h.token = token
  parses : ∀ rest, Header.parse (record ++ rest) = .ok h

/-- A command that can never fit is refused and no ring changes; one that is sent adds one
record, which a writer that refuses to truncate would have written alike, and which is read as
this command. -/
structure SendsWhole (ch : Channel) (c : Command) : Prop where
  refused : ch.commands.capacity < (encodeCommand (nextToken ch.issued) c).length →
    ∃ after, ch.send c = .ready (.error (.tooLarge
      (encodeCommand (nextToken ch.issued) c).length ch.commands.capacity), after) ∧
      after.commands = ch.commands ∧ after.replies = ch.replies
  sent_iff : (∃ token after, ch.send c = .ready (.ok token, after)) ↔
    (encodeCommand (nextToken ch.issued) c).length ≤ ch.commands.free
  sent : ∀ token after, ch.send c = .ready (.ok token, after) →
    after.replies = ch.replies ∧ ∃ record h,
      Carries ch.commands after.commands record h token ∧
      checkedCommand token c = some record ∧ ∀ rest, decodeCommand (record ++ rest) = .ok (h, c)

structure PostsWhole (ch : Channel) (token : UInt32) (reply : Reply) : Prop where
  refused : ch.replies.capacity < (encodeReply token reply).length →
    ch.postReply token reply = .ready (.error (.tooLarge
      (encodeReply token reply).length ch.replies.capacity), ch)
  posted_iff : (∃ after, ch.postReply token reply = .ready (.ok (), after)) ↔
    (encodeReply token reply).length ≤ ch.replies.free
  posted : ∀ after, ch.postReply token reply = .ready (.ok (), after) →
    after.commands = ch.commands ∧ ∃ record h,
      Carries ch.replies after.replies record h token ∧
      checkedReply token reply = some record ∧
      ∀ rest, decodeReply (record ++ rest) = .ok (h, reply)

variable {ch : Channel}

theorem carries_of_append {before : Ring} {opcode token : UInt32} {payload : Bytes}
    (hl : (record opcode token payload).length < UInt32.size)
    (happend : (before.append (record opcode token payload)).contents =
      before.contents ++ record opcode token payload) :
    Carries before (before.append (record opcode token payload)) (record opcode token payload)
      (headerOf opcode token payload) token :=
  ⟨happend, length_headerOf hl, rfl, parse_record hl⟩

theorem sendsWhole (hc : ch.commands.InUse) (c : Command) : ch.SendsWhole c := by
  have hle : ch.commands.free ≤ ch.commands.capacity := Nat.sub_le ..
  rcases Ring.push_cases hc (encodeCommand (nextToken ch.issued) c) with
    ⟨hl, hp⟩ | ⟨hf, hl, hp, happend⟩ | ⟨hf, hl, hp⟩
  · -- It can never fit.
    have hs : ch.send c = .ready (.error (.tooLarge
        (encodeCommand (nextToken ch.issued) c).length ch.commands.capacity),
        { ch with issued := nextToken ch.issued }) := by
      simp only [send, hp]
    refine ⟨fun _ => ⟨_, hs, rfl, rfl⟩, ?_, ?_⟩
    · simp only [hs, Attempt.ready.injEq, Prod.mk.injEq, reduceCtorEq, false_and, exists_false,
        false_iff]
      omega
    · intro token after h
      cases hs.symm.trans h
  · -- There is room for it.
    have hs : ch.send c = .ready (.ok (nextToken ch.issued), { ch with
        commands := ch.commands.append (encodeCommand (nextToken ch.issued) c)
        issued := nextToken ch.issued }) := by
      simp only [send, hp]
    refine ⟨fun h => absurd h (by omega), ⟨fun _ => hf, fun _ => ⟨_, _, hs⟩⟩, ?_⟩
    intro token after h
    cases hs.symm.trans h
    exact ⟨rfl, _, _, carries_of_append hl happend, checkedCommand_of_lt hl,
      decodeCommand_encodeCommand hl⟩
  · -- It has to wait.
    have hs : ch.send c = .waits := by simp only [send, hp]
    refine ⟨fun h => absurd h (by omega), ?_, ?_⟩
    · simp only [hs, reduceCtorEq, exists_false, false_iff]
      omega
    · intro token after h
      cases hs.symm.trans h

theorem postsWhole (hr : ch.replies.InUse) (token : UInt32) (reply : Reply) :
    ch.PostsWhole token reply := by
  have hle : ch.replies.free ≤ ch.replies.capacity := Nat.sub_le ..
  rcases Ring.push_cases hr (encodeReply token reply) with
    ⟨hl, hp⟩ | ⟨hf, hl, hp, happend⟩ | ⟨hf, hl, hp⟩
  · have hs : ch.postReply token reply = .ready (.error (.tooLarge
        (encodeReply token reply).length ch.replies.capacity), ch) := by
      simp only [postReply, hp]
    refine ⟨fun _ => hs, ?_, ?_⟩
    · simp only [hs, Attempt.ready.injEq, Prod.mk.injEq, reduceCtorEq, false_and, exists_false,
        false_iff]
      omega
    · intro after h
      cases hs.symm.trans h
  · have hs : ch.postReply token reply = .ready (.ok (), { ch with
        replies := ch.replies.append (encodeReply token reply) }) := by
      simp only [postReply, hp]
    refine ⟨fun h => absurd h (by omega), ⟨fun _ => hf, fun _ => ⟨_, hs⟩⟩, ?_⟩
    intro after h
    cases hs.symm.trans h
    exact ⟨rfl, _, _, carries_of_append hl happend, checkedReply_of_lt hl,
      decodeReply_encodeReply hl⟩
  · have hs : ch.postReply token reply = .waits := by simp only [postReply, hp]
    refine ⟨fun h => absurd h (by omega), ?_, ?_⟩
    · simp only [hs, reduceCtorEq, exists_false, false_iff]
      omega
    · intro after h
      cases hs.symm.trans h

/-- Whatever is sent or posted, of any size, into rings in any state, goes in whole and is read
back, or not at all. -/
theorem lengths_exact (hc : ch.commands.InUse) (hr : ch.replies.InUse) :
    (∀ c, ch.SendsWhole c) ∧ ∀ token reply, ch.PostsWhole token reply :=
  ⟨sendsWhole hc, postsWhole hr⟩

/-- Over rings of a page, texts within a list are sent, a blob that is longer than the page is
refused, and a list of words is posted. -/
theorem lengths_exact_of_page :
    let page (id : Nat) : Ring := ⟨id, 4096, {}, 0, 0, 0, Ring.noToken, .busyPoll, 100⟩
    let ch : Channel := ⟨page 0, page 1, Ring.noToken⟩
    let long : Command := .bufferSubData 0x8892 0 (List.replicate 5000 0)
    Channel.create { capacity := 1 } (fun _ => true) = .ok ch ∧
      (∃ token after, ch.send (.shaderSource 7 ["void main();", "", "é"]) =
        .ready (.ok token, after) ∧ after.commands.fill = 48) ∧
      (∃ after, ch.send long = .ready (.error (.tooLarge 5028 4096), after)) ∧
      (∃ after, ch.postReply 9 (.ints [3, -1]) = .ready (.ok (), after)) ∧
      (∀ c, ch.SendsWhole c) ∧ ∀ token reply, ch.PostsWhole token reply := by
  intro page ch long
  have hc : Channel.create { capacity := 1 } (fun _ => true) = .ok ch := rfl
  obtain ⟨hcommands, hreplies, -⟩ := create_eq hc
  obtain ⟨hsends, hposts⟩ :=
    lengths_exact (Ring.inUse_of_create hcommands) (Ring.inUse_of_create hreplies)
  refine ⟨hc, ⟨_, _, rfl, by decide +kernel⟩, ?_, ?_, hsends, hposts⟩
  · have hl : (encodeCommand (nextToken ch.issued) long).length = 5028 := by
      rw [encodeCommand, length_record]
      decide +kernel
    obtain ⟨after, hs, -⟩ := (hsends long).refused (by rw [hl]; decide)
    rw [hl] at hs
    exact ⟨after, hs⟩
  · exact (hposts 9 _).posted_iff.mpr (by decide +kernel)

end Channel

end RenderRelay
