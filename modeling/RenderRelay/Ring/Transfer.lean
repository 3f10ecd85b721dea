import RenderRelay.Ring

/-!
# Transfers

A writer that pushes a list of records and a reader that pops a list of
lengths, over one ring. Either side moves whenever its next operation need
not wait.
-/

set_option autoImplicit false

namespace RenderRelay

structure Transfer where
  ring : Ring
  records : List Bytes
  reads : List Nat
  /-- What the reader has got, latest first. -/
  taken : List Bytes

namespace Transfer

def start (ring : Ring) (records : List Bytes) (reads : List Nat) : Transfer :=
  ⟨ring, records, reads, []⟩

def popped (t : Transfer) : List Bytes := t.taken.reverse

/-- The writer completes its next push, if it need not wait. A record that
can never fit is given up. -/
def produce? (t : Transfer) : Option Transfer :=
  match t.records with
  | [] => none
  | record :: rest =>
    match t.ring.push record with
    | .ready (.ok ring) => some { t with ring, records := rest }
    | .ready (.error _) => some { t with records := rest }
    | _ => none

/-- The reader completes its next pop, if it need not wait. -/
def consume? (t : Transfer) : Option Transfer :=
  match t.reads with
  | [] => none
  | n :: rest =>
    match t.ring.popExact n with
    | .ready (bytes, ring) => some { t with ring, reads := rest, taken := bytes :: t.taken }
    | _ => none

/-- Operations that are still to do. -/
def pending (t : Transfer) : Nat := t.records.length + t.reads.length

theorem pending_produce? {t u : Transfer} (h : t.produce? = some u) : u.pending < t.pending := by
  unfold produce? at h
  split at h
  · simp at h
  · next hr =>
    split at h <;> simp only [Option.some.injEq, reduceCtorEq] at h <;> subst h <;>
      simp only [pending, hr, List.length_cons] <;> omega

theorem pending_consume? {t u : Transfer} (h : t.consume? = some u) : u.pending < t.pending := by
  unfold consume? at h
  split at h
  · simp at h
  · next hr =>
    split at h <;> simp only [Option.some.injEq, reduceCtorEq] at h
    subst h
    simp only [pending, hr, List.length_cons]
    omega

/-- Runs until both sides are done or wait, the writer first. -/
def run (t : Transfer) : Transfer :=
  match h : t.produce? with
  | some u =>
    have := pending_produce? h
    run u
  | none =>
    match h : t.consume? with
    | some u =>
      have := pending_consume? h
      run u
    | none => t
termination_by t.pending

end Transfer

end RenderRelay
