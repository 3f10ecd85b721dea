import RenderRelay.Proofs.Engine.Names
import RenderRelay.Proofs.Engine.Rebinding

/-!
# Bindings that are left out

A bind is left out if the shadow holds the client name already. The object
that is bound then is the one that the name stands for, unless the object was
deleted through another context: a shadow does not see that, and goes on
holding a name that may stand for a later object by then.
-/

set_option autoImplicit false

namespace RenderRelay

/-! Names that were given out and deleted -/

namespace Call

def names (cls : ObjectClass) : (c : Call) → c.Answer → List UInt32
  | .generate k _, names => if k = cls then names else []
  | _, _ => []

def Nameless : Call → Prop
  | .generate .. | .delete .. => False
  | _ => True

theorem Idle.nameless {call : Call} (h : call.Idle) : call.Nameless := by
  cases call with
  | generate _ _ | delete _ _ => exact h.elim
  | _ => trivial

def deleted (calls : List Call) (cls : ObjectClass) : List UInt32 :=
  calls.flatMap fun
    | .delete k names => if k = cls then names else []
    | _ => []

theorem deleted_append (as bs : List Call) (cls : ObjectClass) :
    deleted (as ++ bs) cls = deleted as cls ++ deleted bs cls := List.flatMap_append

theorem deleted_of_nameless {calls : List Call} (h : ∀ call ∈ calls, call.Nameless)
    (cls : ObjectClass) :
    deleted calls cls = [] := by
  induction calls with
  | nil => rfl
  | cons call calls ih =>
    obtain ⟨hcall, hcalls⟩ := List.forall_mem_cons.mp h
    rw [← List.singleton_append, deleted_append, ih hcalls]
    cases call <;> first | rfl | exact hcall.elim

end Call

namespace Driver

variable {δ : Type} [Driver δ]

def given : δ → List Call → ObjectClass → List UInt32
  | _, [], _ => []
  | d, call :: calls, cls =>
    call.names cls (Driver.perform d call).1 ++ given (Driver.perform d call).2 calls cls

/-- No name is given out twice, and none is zero. -/
def Fresh (d : δ) (calls : List Call) : Prop :=
  ∀ cls, (given d calls cls).Nodup ∧ 0 ∉ given d calls cls

variable (d : δ)

theorem given_append (as bs : List Call) (cls : ObjectClass) :
    given d (as ++ bs) cls = given d as cls ++ given (Driver.after d as) bs cls := by
  induction as generalizing d with
  | nil => rfl
  | cons call as ih =>
    simp only [List.cons_append, given, ih, List.append_assoc]
    rfl

theorem given_of_nameless {calls : List Call} (h : ∀ call ∈ calls, call.Nameless)
    (cls : ObjectClass) :
    given d calls cls = [] := by
  induction calls generalizing d with
  | nil => rfl
  | cons call calls ih =>
    obtain ⟨hcall, hcalls⟩ := List.forall_mem_cons.mp h
    rw [given, ih _ hcalls]
    cases call <;> first | rfl | exact hcall.elim

theorem fresh_of_append {as bs : List Call} (h : Fresh d (as ++ bs)) : Fresh d as := by
  intro cls
  obtain ⟨hn, h0⟩ := h cls
  rw [given_append] at hn h0
  exact ⟨(List.nodup_append.mp hn).1, fun hmem => h0 (List.mem_append_left _ hmem)⟩

end Driver

section

variable {δ : Type} [Driver δ]

/-- After the calls, names stand for live objects again, and what a name stood for
before it stands for still, or that is deleted. -/
structure Renamed (d : δ) (log : List Call) (names : NameTable) (calls : List Call)
    (names' : NameTable) : Prop where
  sound : names'.Sound (Driver.given d (log ++ calls)) (Call.deleted (log ++ calls))
  agrees : ∀ cls n object, names.Agrees (Call.deleted log) cls n object →
    names'.Agrees (Call.deleted (log ++ calls)) cls n object

variable {d : δ} {log calls : List Call} {names : NameTable}
  (hs : names.Sound (Driver.given d log) (Call.deleted log))

include hs

theorem renamed_of_nameless (hc : ∀ call ∈ calls, call.Nameless) :
    Renamed d log names calls names := by
  have hgiven : Driver.given d (log ++ calls) = Driver.given d log := by
    funext cls
    rw [Driver.given_append, Driver.given_of_nameless _ hc, List.append_nil]
  have hdeleted : Call.deleted (log ++ calls) = Call.deleted log := by
    funext cls
    rw [Call.deleted_append, Call.deleted_of_nameless hc, List.append_nil]
  exact ⟨by rw [hgiven, hdeleted]; exact hs, by rw [hdeleted]; exact fun _ _ _ h => h⟩

theorem renamed_insertAll {cls : ObjectClass} {client driver : List UInt32}
    (hnone : ∀ n ∈ client, names.lookup cls n = none)
    (hgiven : ∀ c, Driver.given (Driver.after d log) calls c = if cls = c then driver else [])
    (hdeleted : ∀ c, Call.deleted calls c = []) (hfresh : Driver.Fresh d (log ++ calls)) :
    Renamed d log names calls (names.insertAll cls client driver) := by
  have hdel : Call.deleted (log ++ calls) = Call.deleted log := by
    funext c
    rw [Call.deleted_append, hdeleted, List.append_nil]
  constructor
  · rw [hdel]
    have hmade : ∀ c, Driver.given d (log ++ calls) c =
        Driver.given d log c ++ if cls = c then driver else [] := by
      intro c
      rw [Driver.given_append, hgiven]
    refine hs.insertAll hmade (hfresh cls).1 fun h0 => absurd ?_ (hfresh cls).2
    rw [hmade, if_pos rfl]
    exact List.mem_append_right _ h0
  · rw [hdel]
    exact fun _ _ _ h => h.insertAll hnone

omit [Driver δ] hs in
theorem deleted_takeAll (names : NameTable) (log : List Call) (cls c : ObjectClass)
    (client : List UInt32) :
    Call.deleted (log ++ [.delete cls (names.takeAll cls client).1]) c =
      Call.deleted log c ++ if cls = c then (names.takeAll cls client).1 else [] := by
  rw [Call.deleted_append]
  exact congrArg _ (List.append_nil _)

theorem renamed_takeAll (cls : ObjectClass) (client : List UInt32)
    (hfresh : Driver.Fresh d log) : Renamed d log names [.delete cls (names.takeAll cls client).1]
      (names.takeAll cls client).2 := by
  have hgiven : Driver.given d (log ++ [.delete cls (names.takeAll cls client).1]) =
      Driver.given d log := by
    funext c
    rw [Driver.given_append]
    exact List.append_nil _
  have hdel := fun c => deleted_takeAll names log cls c client
  have h0 := (hfresh cls).2
  constructor
  · rw [hgiven]
    refine hs.takeAll (fun h => absurd h h0) fun c object h => ?_
    rw [hdel, List.mem_append] at h
    refine h.imp_right fun h => ?_
    split at h
    · next hc => exact ⟨hc, h⟩
    · cases h
  · exact fun _ _ _ h => h.takeAll hs h0 hdel

end

/-! One command -/

structure Driver.MakesObjects {δ : Type} [Driver δ] (d : δ) : Prop where
  bound : ∀ calls cls, Driver.bound (Driver.after d calls) (.generate cls) = true
  fills : ∀ calls cls names,
    (Driver.perform (Driver.after d calls) (.generate cls names)).1.length = names.length

section

variable {δ : Type} [Driver δ]

theorem Scope.Rebinds.renamed {d : δ} {c : Command} {s t : Scope (Traced δ)} {calls : List Call}
    (hr : Scope.Rebinds c s t calls) (hcare : c.Careful s.names) (hmakes : Driver.MakesObjects d)
    (hplayed : s.driver.driver = Driver.after d s.driver.calls)
    (hs : s.names.Sound (Driver.given d s.driver.calls) (Call.deleted s.driver.calls))
    (hfresh : Driver.Fresh d (s.driver.calls ++ calls)) :
    Renamed d s.driver.calls s.names calls t.names := by
  have hfill := hmakes.fills s.driver.calls
  rw [← hplayed] at hfill
  cases hr with
  | pass hn hb hc =>
    rw [hn]
    exact renamed_of_nameless hs fun call hcall => (hc call hcall).nameless
  | select hu hn hb hq =>
    rw [hn]
    refine renamed_of_nameless hs fun call hcall => ?_
    rcases List.mem_append.mp hcall with hcall | hcall
    · exact (hq call hcall).nameless
    · rw [List.mem_singleton.mp hcall]
      trivial
  | bind ht hl hn hb =>
    rw [hn]
    refine renamed_of_nameless hs fun call hcall => ?_
    rw [List.mem_singleton.mp hcall]
    trivial
  | @generate cls client hc hn hb =>
    rw [hn]
    refine renamed_insertAll hs (hcare _ hc).2.2 (fun c => ?_) (fun _ => rfl) hfresh
    rw [← hplayed]
    exact List.append_nil _
  | @make cls target name object ht hl ho hn hb =>
    obtain ⟨o, hone⟩ := List.length_eq_one_iff.mp (hfill cls [0])
    have hobject : o = object := by
      have ho : (Driver.perform s.driver.driver (.generate cls [0])).1.headD 0 = object := ho
      rw [hone] at ho
      exact ho
    have hinsert : t.names = s.names.insertAll cls [name] [object] := hn
    rw [hinsert]
    refine renamed_insertAll hs (by simpa using hl) (fun c => ?_) (fun _ => rfl) hfresh
    rw [← hplayed]
    refine (List.append_nil _).trans ?_
    rw [hone, hobject]
    rfl
  | @delete cls client hn hb =>
    rw [hn]
    exact renamed_takeAll hs cls client (Driver.fresh_of_append d hfresh)

end

/-! What the shadow of a context holds -/

/-- The shadow holds, slot by slot, names of the objects that the driver has bound in the
context, as far as these are not deleted. The context itself leaves none bound that is. -/
structure Tracks (log own : List Call) (names : NameTable) (shadow : Shadow) : Prop where
  unit : (Holdings.replay own).unit = shadow.activeTexture
  hasUnit : Slot.HasUnit shadow.activeTexture
  agrees : ∀ slot : Slot, slot.Real → ∀ held, shadow.held? slot = some held →
    names.Agrees (Call.deleted log) slot.cls held ((Holdings.replay own).object slot)
  undeleted : ∀ slot, (Holdings.replay own).object slot ≠ 0 →
    (Holdings.replay own).object slot ∉ Call.deleted own slot.cls
  mine : ∀ cls object, object ∈ Call.deleted own cls → object ∈ Call.deleted log cls

theorem tracks_fresh (log : List Call) (names : NameTable) : Tracks log [] names .fresh where
  unit := rfl
  hasUnit := ⟨by decide, by decide⟩
  agrees slot _ held hheld := by
    have hzero : held = 0 := by
      obtain ⟨cls, target, unit⟩ := slot
      have hunit : ({ Shadow.fresh with activeTexture := unit } : Shadow).unit = {} := by
        simp [Shadow.unit, Shadow.fresh]
      cases cls <;> simp only [Shadow.held?, Shadow.binding?, hunit] at hheld <;>
        grind [Shadow.fresh]
    subst hzero
    exact .inl (names.lookup_zero slot.cls)
  undeleted _ h := absurd rfl h
  mine _ _ h := nomatch h

section

variable {δ : Type} [Driver δ] {d : δ} {log own calls : List Call} {names names' : NameTable}
  {shadow shadow' : Shadow}

theorem Tracks.mine_append (ht : Tracks log own names shadow) (calls : List Call)
    (cls : ObjectClass) (object : UInt32) (h : object ∈ Call.deleted (own ++ calls) cls) :
    object ∈ Call.deleted (log ++ calls) cls := by
  rw [Call.deleted_append, List.mem_append] at h ⊢
  exact h.imp_left (ht.mine cls object)

/-- What is done in one context is seen in no other, but for objects that are deleted. -/
theorem Tracks.elsewhere (ht : Tracks log own names shadow)
    (hr : Renamed d log names calls names') : Tracks (log ++ calls) own names' shadow where
  unit := ht.unit
  hasUnit := ht.hasUnit
  agrees slot hslot held hheld := hr.agrees _ _ _ (ht.agrees slot hslot held hheld)
  undeleted := ht.undeleted
  mine cls object h := by
    rw [Call.deleted_append]
    exact List.mem_append_left _ (ht.mine cls object h)

theorem Tracks.keep (ht : Tracks log own names shadow) (hr : Renamed d log names calls names')
    (hobject : (Holdings.replay (own ++ calls)).object = (Holdings.replay own).object)
    (hheld : ∀ slot, shadow'.held? slot = shadow.held? slot)
    (hdel : ∀ cls, Call.deleted calls cls = [])
    (hunit : (Holdings.replay (own ++ calls)).unit = shadow'.activeTexture)
    (hu : Slot.HasUnit shadow'.activeTexture) :
    Tracks (log ++ calls) (own ++ calls) names' shadow' where
  unit := hunit
  hasUnit := hu
  agrees slot hslot held h := by
    rw [hobject]
    exact (ht.elsewhere hr).agrees slot hslot held (hheld slot ▸ h)
  undeleted slot h := by
    rw [hobject] at h ⊢
    rw [Call.deleted_append, hdel, List.append_nil]
    exact ht.undeleted slot h
  mine := ht.mine_append calls

theorem Tracks.bind (ht : Tracks log own names shadow) (hr : Renamed d log names calls names')
    {cls : ObjectClass} {target : Enum} {name object : UInt32}
    (htarget : (shadow.binding? cls target).isSome)
    (hcalls : calls.foldl Holdings.after (Holdings.replay own) =
      (Holdings.replay own).after (.bind cls target object))
    (hdel : ∀ cls, Call.deleted calls cls = []) (hl : names'.lookup cls name = some object)
    (hb : shadow'.bindings = (shadow.setBinding cls target name).bindings) :
    Tracks (log ++ calls) (own ++ calls) names' shadow' := by
  have hafter : Holdings.replay (own ++ calls) =
      (Holdings.replay own).after (.bind cls target object) :=
    (Holdings.replay_append own calls).trans hcalls
  have hactive : shadow'.activeTexture = shadow.activeTexture := by
    refine (congrArg Bindings.activeTexture hb).trans ?_
    exact shadow.activeTexture_setBinding cls target name
  have hobject : ∀ slot, (Holdings.replay (own ++ calls)).object slot =
      if slot = .on shadow.activeTexture cls target then object
      else (Holdings.replay own).object slot := by
    intro slot
    rw [hafter, ← ht.unit]
    exact Function.update_apply ..
  constructor
  case unit => rw [hafter, hactive]; exact ht.unit
  case hasUnit => exact hactive ▸ ht.hasUnit
  case agrees =>
    intro slot hslot held h
    rw [Shadow.held?_of_bindings hb,
      Shadow.held?_setBinding name htarget ht.hasUnit hslot] at h
    rw [hobject]
    split at h
    · next hon =>
      subst hon
      rw [if_pos rfl, ← Option.some.inj h]
      exact .inl hl
    · next hon =>
      rw [if_neg hon]
      exact (ht.elsewhere hr).agrees slot hslot held h
  case undeleted =>
    intro slot h
    rw [hobject] at h ⊢
    split at h
    · next hon =>
      subst hon
      rw [if_pos rfl]
      -- A name that stands for an object is not zero, and the object is alive.
      have hname : name ≠ 0 := by
        rintro rfl
        exact h (Option.some.inj hl).symm
      exact fun hmem => hr.sound.live cls name object hname hl (ht.mine_append calls _ _ hmem)
    · next hon =>
      rw [if_neg hon, Call.deleted_append, hdel, List.append_nil]
      exact ht.undeleted slot h
  case mine => exact ht.mine_append calls

theorem Tracks.delete (ht : Tracks log own names shadow)
    (hs : names.Sound (Driver.given d log) (Call.deleted log)) (hfresh : Driver.Fresh d log)
    (cls : ObjectClass) (client : List UInt32)
    (hb : shadow'.bindings = ((client.filter (· ≠ 0)).foldl (·.forget cls ·) shadow).bindings) :
    Tracks (log ++ [.delete cls (names.takeAll cls client).1])
      (own ++ [.delete cls (names.takeAll cls client).1]) (names.takeAll cls client).2 shadow' := by
  have hdel := fun c => deleted_takeAll names log cls c client
  have hown := fun c => deleted_takeAll names own cls c client
  have hactive : shadow'.activeTexture = shadow.activeTexture := by
    refine (congrArg Bindings.activeTexture hb).trans ?_
    exact shadow.activeTexture_forgetAll cls _
  have hobject : ∀ slot, (Holdings.replay
      (own ++ [.delete cls (names.takeAll cls client).1])).object slot =
        if slot.cls = cls ∧ (Holdings.replay own).object slot ∈ (names.takeAll cls client).1 then 0
        else (Holdings.replay own).object slot := by
    intro slot
    rw [Holdings.replay_append]
    rfl
  constructor
  case unit =>
    rw [Holdings.replay_append, hactive]
    exact ht.unit
  case hasUnit => exact hactive ▸ ht.hasUnit
  case agrees =>
    intro slot hslot held' h
    rw [Shadow.held?_of_bindings hb, Shadow.held?_forgetAll] at h
    obtain ⟨held, hheld, rfl⟩ := Option.map_eq_some_iff.mp h
    have ha := ht.agrees slot hslot held hheld
    rw [hobject]
    by_cases hc : slot.cls = cls
    · subst hc
      simpa only [true_and] using ha.forget hs (hfresh slot.cls).2 hdel
    · rw [if_neg fun h => hc h.1, if_neg fun h => hc h.1]
      exact ha.takeAll hs (hfresh cls).2 hdel
  case undeleted =>
    intro slot h
    rw [hobject] at h ⊢
    split at h
    · exact absurd rfl h
    · next hkeep =>
      rw [if_neg hkeep, hown, List.mem_append]
      rintro (hmem | hmem)
      · exact ht.undeleted slot h hmem
      · split at hmem
        · next hc => exact hkeep ⟨hc.symm, hmem⟩
        · cases hmem
  case mine => exact ht.mine_append _

/-- Every command that a context is given keeps what its shadow holds in step. -/
theorem Scope.Rebinds.tracks {c : Command} {s t : Scope (Traced δ)} (hr : Scope.Rebinds c s t calls)
    (hs : s.names.Sound (Driver.given d log) (Call.deleted log)) (hfresh : Driver.Fresh d log)
    (hren : Renamed d log s.names calls t.names) (ht : Tracks log own s.names s.shadow) :
    Tracks (log ++ calls) (own ++ calls) t.names t.shadow := by
  cases hr with
  | pass hn hb hc =>
    have hidle : Holdings.replay (own ++ calls) = Holdings.replay own := by
      rw [Holdings.replay_append, Holdings.foldl_of_idle _ hc]
    have hactive : t.shadow.activeTexture = s.shadow.activeTexture :=
      congrArg Bindings.activeTexture hb
    refine ht.keep hren (by rw [hidle]) (Shadow.held?_of_bindings hb)
      (Call.deleted_of_nameless fun call hcall => (hc call hcall).nameless) ?_ ?_
    · rw [hidle, hactive]
      exact ht.unit
    · exact hactive ▸ ht.hasUnit
  | @select queries unit hu hn hb hq =>
    have hselect : Holdings.replay (own ++ (queries ++ [.activeTexture unit])) =
        { Holdings.replay own with unit } := by
      rw [Holdings.replay_append, List.foldl_append, Holdings.foldl_of_idle _ hq]
      rfl
    have hactive : t.shadow.activeTexture = unit := congrArg Bindings.activeTexture hb
    refine ht.keep hren (by rw [hselect]) (fun slot => Shadow.held?_of_bindings hb slot) ?_ ?_ ?_
    · intro cls
      rw [Call.deleted_append, Call.deleted_of_nameless fun call hcall => (hq call hcall).nameless]
      rfl
    · rw [hselect, hactive]
    · exact hactive ▸ hu
  | @generate cls client hc hn hb =>
    have hactive : t.shadow.activeTexture = s.shadow.activeTexture :=
      congrArg Bindings.activeTexture hb
    refine ht.keep hren ?_ (Shadow.held?_of_bindings hb) (fun _ => rfl) ?_ (hactive ▸ ht.hasUnit)
    · rw [Holdings.replay_append]
      rfl
    · rw [Holdings.replay_append, hactive]
      exact ht.unit
  | bind htarget hl hn hb => exact ht.bind hren htarget rfl (fun _ => rfl) (hn ▸ hl) hb
  | @make cls target name object htarget hl ho hn hb =>
    have hname : name ≠ 0 := by
      rintro rfl
      cases hl
    have hlookup : t.names.lookup cls name = some object := by
      rw [hn, NameTable.lookup_insert, if_pos ⟨hname, rfl, rfl⟩]
    exact ht.bind hren htarget rfl (fun _ => rfl) hlookup hb
  | @delete cls client hn hb =>
    rw [hn]
    exact ht.delete hs hfresh cls client hb

end

/-! Fleets -/

def Call.Deletes (calls : List Call) (cls : ObjectClass) (object : UInt32) : Prop :=
  object ≠ 0 ∧ object ∈ Call.deleted calls cls

def Holdings.bound (b : Holdings) (cls : ObjectClass) (target : Enum) : UInt32 :=
  b.object (.on b.unit cls target)

section

variable {δ : Type} [Driver δ]

/-- What a bind, if it was left out, would have bound: the object that its context has
bound already, unless that is deleted, and if so, not by the context itself. -/
structure Deed.Spared (before : List (Deed (Traced δ))) (x : Deed (Traced δ)) : Prop where
  current : ∀ cls target name, x.command.bound? = some (cls, target, name) → x.Elided →
    (x.engine.server.names.lookup cls name =
        some ((Holdings.replay (callsOf before)).bound cls target) ↔
      ¬ Call.Deletes x.engine.server.driver.calls cls
        ((Holdings.replay (callsOf before)).bound cls target))
  elsewhere : ∀ cls target,
    ¬ Call.Deletes (callsOf before) cls ((Holdings.replay (callsOf before)).bound cls target)

/-- What all engines share: the names of the driver's objects. -/
structure Lively (d : δ) (m : Commons (Traced δ)) : Prop where
  played : m.driver.driver = Driver.after d m.driver.calls
  sound : Driver.Fresh d m.driver.calls →
    m.names.Sound (Driver.given d m.driver.calls) (Call.deleted m.driver.calls)

structure Binding (m : Commons (Traced δ)) (ledger : List (Deed (Traced δ))) (shadow : Shadow) :
    Prop where
  tracks : Tracks m.driver.calls (callsOf ledger) m.names shadow
  spared : ∀ before x later, ledger = before ++ x :: later → Deed.Spared before x

variable {d : δ} {m m' : Commons (Traced δ)} {ledger : List (Deed (Traced δ))} {shadow : Shadow}

theorem driver_after (hplayed : m.driver.driver = Driver.after d m.driver.calls)
    (m' : Commons (Traced δ)) (calls : List Call) (hd : m'.driver = Driver.after m.driver calls) :
    m'.driver.driver = Driver.after d m'.driver.calls ∧
      m'.driver.calls = m.driver.calls ++ calls := by
  rw [hd, Traced.calls_after]
  refine ⟨?_, rfl⟩
  rw [Traced.driver_after, hplayed, Driver.after_append]

/-- The objects that other contexts know change only in that some are deleted. -/
theorem Binding.elsewhere (hb : Binding m ledger shadow) {calls : List Call}
    (hcalls : m'.driver.calls = m.driver.calls ++ calls)
    (hr : Renamed d m.driver.calls m.names calls m'.names) : Binding m' ledger shadow :=
  ⟨hcalls ▸ hb.tracks.elsewhere hr, hb.spared⟩

/-- A bind that is left out finds its name held. -/
theorem spared_of_tracks {e : Engine (Traced δ)} {k : Current} {c : Command} {entry : EntryPoint}
    (hk : e.current = some k) (hc : c.entry? = some entry)
    (hs : e.server.names.Sound (Driver.given d e.server.driver.calls)
      (Call.deleted e.server.driver.calls))
    (ht : Tracks e.server.driver.calls (callsOf ledger) e.server.names k.shadow) :
    Deed.Spared ledger ⟨e, c⟩ where
  current cls target name hbound hel := by
    rw [Deed.Elided, Deed.after_of_enter hk hc] at hel
    have hheld : k.shadow.binding? cls target = some name :=
      (e.scope k).held_of_elided hc hbound hel
    rw [← Shadow.held?_on, ← ht.unit] at hheld
    exact hs.lookup_iff (ht.agrees _ (Slot.on_real (ht.unit ▸ ht.hasUnit) cls target) _ hheld)
  elsewhere cls target h := ht.undeleted _ h.1 h.2

/-- A command that may be given renames objects as the driver has given and deleted them. -/
theorem Lively.enter {e : Engine (Traced δ)} (hi : Lively d e.server.commons)
    (hmakes : Driver.MakesObjects d) (k : Current) {c : Command} {entry : EntryPoint}
    (hc : c.entry? = some entry) (hcare : c.Careful e.server.names) :
    ∃ calls, ((e.scope k).enter entry c).2.driver = Driver.after e.server.driver calls ∧
      Scope.Rebinds c (e.scope k) ((e.scope k).enter entry c).2 calls ∧
      (Driver.Fresh d (e.server.driver.calls ++ calls) →
        Renamed d e.server.driver.calls e.server.names calls
          ((e.scope k).enter entry c).2.names) := by
  have hbound : ∀ cls, Driver.bound (e.scope k).driver (.generate cls) = true := by
    intro cls
    have hplayed := hmakes.bound e.server.commons.driver.calls cls
    rwa [← hi.played] at hplayed
  obtain ⟨calls, hd, hr⟩ := (e.scope k).enter_binds hc hbound
  refine ⟨calls, hd, hr, fun hf => ?_⟩
  exact hr.renamed hcare hmakes hi.played (hi.sound (Driver.fresh_of_append d hf)) hf

theorem binding_sharing (hmakes : Driver.MakesObjects d) :
    Fleet.Sharing (fun names c => c.Careful names) (Lively d) fun m ds shadow =>
      Driver.Fresh d m.driver.calls → Binding m ds shadow where
  fresh m _ _ := ⟨tracks_fresh _ _, fun before _ _ he => by simp at he⟩
  manage m m' hm hi := by
    cases hm with
    | rest | elide => exact ⟨⟨hi.played, hi.sound⟩, fun _ _ h hf => ⟨(h hf).tracks, (h hf).spared⟩⟩
    | call c hc =>
      have hnameless : ∀ call ∈ [c], call.Nameless := by
        intro call hcall
        rw [List.mem_singleton.mp hcall]
        cases c <;> trivial
      have hren : Driver.Fresh d (m.driver.calls ++ [c]) →
          Renamed d m.driver.calls m.names [c] m.names :=
        fun hf => renamed_of_nameless (hi.sound (Driver.fresh_of_append d hf)) hnameless
      refine ⟨⟨?_, fun hf => (hren hf).sound⟩, fun ds shadow h hf => ?_⟩
      · exact (driver_after hi.played _ [c] rfl).1
      · exact (h (Driver.fresh_of_append d hf)).elsewhere rfl (hren hf)
  enter ds e k c entry hk hc hcare hi hb := by
    obtain ⟨calls, hd, hr, hren⟩ := hi.enter hmakes k hc hcare
    have hcalls : Deed.calls ⟨e, c⟩ = calls := Deed.calls_of_enter hk hc hd
    generalize ((e.scope k).enter entry c).2 = s' at hd hr hren ⊢
    obtain ⟨hplayed, hlog⟩ := driver_after hi.played s'.commons calls hd
    rw [hlog]
    refine ⟨⟨hplayed, fun hf => ?_⟩, fun hf => ?_, fun ds shadow h hf => ?_⟩
    · rw [hlog] at hf ⊢
      exact (hren hf).sound
    · have hbefore := Driver.fresh_of_append d hf
      have hsound := hi.sound hbefore
      have hkept := hb hbefore
      constructor
      case tracks =>
        rw [hlog, callsOf_concat, hcalls]
        exact hr.tracks hsound hbefore (hren hf) hkept.tracks
      case spared =>
        exact forall_split_concat.mpr ⟨hkept.spared, spared_of_tracks hk hc hsound hkept.tracks⟩
    · exact (h (Driver.fresh_of_append d hf)).elsewhere hlog (hren hf)

end

namespace Recorder

theorem length_generate (r : Recorder) (cls : ObjectClass) (names : List UInt32) :
    (r.perform (.generate cls names)).1.length = names.length := by
  have hanswer : ∀ r : Recorder, (r.answer (.generate cls names)).1.length = names.length := by
    intro r
    show ((List.range names.length).map _).length = _
    rw [List.length_map, List.length_range]
  rw [perform_fst]
  split
  · exact List.length_map _
  · split
    · exact hanswer _
    · rfl

theorem makesObjects {r : Recorder} (hr : r.unbound = []) : Driver.MakesObjects r where
  bound calls cls := by
    rw [Recorder.bound_after]
    show r.bound _ = true
    simp [bound, hr]
  fills calls cls names := length_generate _ cls names

end Recorder

namespace Fleet

variable {δ : Type} [Driver δ]

/-- After every run of any number of engines on a driver that gives fresh names, in
which objects are made for names that stand for none: a bind that was left out
would have bound the object that its context has bound already, unless the object
is deleted, and then another context has deleted it. -/
theorem run_spared (d : δ) (hmakes : Driver.MakesObjects d) {moves : List Move}
    (hcare : (start (⟨d, []⟩ : Traced δ) {}).Heeds (fun names c => c.Careful names) moves)
    (hfresh : Driver.Fresh d ((start (⟨d, []⟩ : Traced δ) {}).run moves).server.driver.calls)
    {h : Handle} {before later : List (Deed (Traced δ))} {x : Deed (Traced δ)}
    (hx : ((start (⟨d, []⟩ : Traced δ) {}).run moves).ledger h = before ++ x :: later) :
    Deed.Spared before x := by
  have hlively : Lively d (⟨⟨d, []⟩, {}, {}⟩ : Commons (Traced δ)) :=
    ⟨rfl, fun _ => NameTable.empty_sound⟩
  have hr := (start_shared hlively).run (binding_sharing hmakes) hcare
  obtain ⟨shadow, -, hb⟩ := hr.of_ledger (h := h) (by simp [hx])
  exact (hb hfresh).spared before x later hx

def rebinding : List Move :=
  [.execute 0 (.makeCurrent ⟨1⟩ ⟨3⟩ ⟨3⟩ ⟨7⟩), .execute 0 (.genBuffers [5]),
    .execute 0 (.bindBuffer GL.arrayBuffer 5), .execute 1 (.makeCurrent ⟨1⟩ ⟨4⟩ ⟨4⟩ ⟨8⟩),
    .execute 1 (.genBuffers [6]), .execute 1 (.bindBuffer GL.arrayBuffer 5),
    .execute 1 (.deleteBuffers [6]), .execute 0 (.bindBuffer GL.arrayBuffer 5)]

/-- Each context binds it once, and the third bind is left out. -/
theorem run_spared_of_rebinding :
    ∃ before x, ((start (⟨{}, []⟩ : Traced Recorder) {}).run rebinding).ledger ⟨0, 0⟩ =
        before ++ [x] ∧ x.command.bound? = some (.buffer, GL.arrayBuffer, 5) ∧ x.Elided ∧
      x.engine.server.names.lookup .buffer 5 = some 1000 ∧
      (Holdings.replay (callsOf before)).bound .buffer GL.arrayBuffer = 1000 ∧
      Deed.Spared before x := by
  have hcare : (start (⟨{}, []⟩ : Traced Recorder) {}).Heeds (fun names c => c.Careful names)
      rebinding := by
    decide +kernel
  have hfresh : Driver.Fresh ({} : Recorder)
      ((start (⟨{}, []⟩ : Traced Recorder) {}).run rebinding).server.driver.calls := by
    intro cls
    cases cls <;> decide +kernel
  have hlast : ((((start (⟨{}, []⟩ : Traced Recorder) {}).run rebinding).ledger ⟨0, 0⟩).getLast?.map
      fun x => (x.command, decide x.Elided, x.engine.server.names.lookup .buffer 5)) =
        some (.bindBuffer GL.arrayBuffer 5, true, some 1000) := by
    decide +kernel
  have hbound : (Holdings.replay (callsOf (((start (⟨{}, []⟩ : Traced Recorder) {}).run
      rebinding).ledger ⟨0, 0⟩).dropLast)).bound .buffer GL.arrayBuffer = 1000 := by
    decide +kernel
  obtain ⟨x, hsplit, hfacts⟩ := exists_last hlast
  simp only [Prod.mk.injEq, decide_eq_true_eq] at hfacts
  obtain ⟨hcommand, hel, hlookup⟩ := hfacts
  refine ⟨_, x, hsplit, ?_, hel, hlookup, hbound,
    run_spared ({} : Recorder) (Recorder.makesObjects rfl) hcare hfresh hsplit⟩
  rw [hcommand]
  rfl

/-- A buffer that is bound in a context is deleted and made again in another. -/
def remakingElsewhere : List Move :=
  [.execute 0 (.makeCurrent ⟨1⟩ ⟨3⟩ ⟨3⟩ ⟨7⟩), .execute 0 (.genBuffers [5]),
    .execute 0 (.bindBuffer GL.arrayBuffer 5), .execute 1 (.makeCurrent ⟨1⟩ ⟨4⟩ ⟨4⟩ ⟨8⟩),
    .execute 1 (.deleteBuffers [5]), .execute 1 (.genBuffers [5]),
    .execute 0 (.bindBuffer GL.arrayBuffer 5)]

/-- The bind is left out all the same, though the name stands for a new buffer and the
old one, which the context has not deleted, is the one bound. -/
theorem stale_of_remakingElsewhere :
    (start (⟨{}, []⟩ : Traced Recorder) {}).Heeds (fun names c => c.Careful names)
      remakingElsewhere ∧
    Driver.Fresh ({} : Recorder)
      ((start (⟨{}, []⟩ : Traced Recorder) {}).run remakingElsewhere).server.driver.calls ∧
    ∃ before x, ((start (⟨{}, []⟩ : Traced Recorder) {}).run remakingElsewhere).ledger ⟨0, 0⟩ =
        before ++ [x] ∧ x.command.bound? = some (.buffer, GL.arrayBuffer, 5) ∧ x.Elided ∧
      x.engine.server.names.lookup .buffer 5 = some 1001 ∧
      (Holdings.replay (callsOf before)).bound .buffer GL.arrayBuffer = 1000 := by
  have hlast : ((((start (⟨{}, []⟩ : Traced Recorder) {}).run remakingElsewhere).ledger
      ⟨0, 0⟩).getLast?.map
        fun x => (x.command, decide x.Elided, x.engine.server.names.lookup .buffer 5)) =
          some (.bindBuffer GL.arrayBuffer 5, true, some 1001) := by
    decide +kernel
  have hbound : (Holdings.replay (callsOf (((start (⟨{}, []⟩ : Traced Recorder) {}).run
      remakingElsewhere).ledger ⟨0, 0⟩).dropLast)).bound .buffer GL.arrayBuffer = 1000 := by
    decide +kernel
  obtain ⟨x, hsplit, hfacts⟩ := exists_last hlast
  simp only [Prod.mk.injEq, decide_eq_true_eq] at hfacts
  obtain ⟨hcommand, hel, hlookup⟩ := hfacts
  refine ⟨by decide +kernel, fun cls => ?_, _, x, hsplit, ?_,
    hel, hlookup, hbound⟩
  · cases cls <;> decide +kernel
  · rw [hcommand]
    rfl

end Fleet

end RenderRelay
