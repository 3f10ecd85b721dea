import Mathlib.Data.List.Induction
import Mathlib.Data.List.Nodup
import RenderRelay.Proofs.Engine.Bindings

/-!
# Objects are conserved

Objects are made where a client asks for names, or binds a name that stands for
none, and go where a client deletes names. All engines of a server share the table
of names. An object that the driver has made stands behind one client name until the
driver is told to delete it, which it is told once; a client can list what it likes.
Only where a client makes objects for a name that stands for one already, the old
object is lost.
-/

set_option autoImplicit false

namespace RenderRelay

/-! What a command does to names -/

namespace Commons

variable {δ : Type} [Driver δ]

/-- What the calls of a command do to names; `wanted` are those that it asks objects for. -/
inductive Renames (wanted : Option (ObjectClass × List UInt32)) (m m' : Commons δ) :
    List Call → Prop where
  | pass {calls : List Call} (hn : m'.names = m.names) (hc : ∀ call ∈ calls, call.Nameless) :
    Renames wanted m m' calls
  | generate {cls : ObjectClass} {client : List UInt32} (hw : wanted = some (cls, client))
    (hn : m'.names = m.names.insertAll cls client
      (Driver.perform m.driver (.generate cls (client.map fun _ => 0))).1) :
    Renames wanted m m' [.generate cls (client.map fun _ => 0)]
  /-- An object is made for a name that stands for none. -/
  | make {cls : ObjectClass} {name : UInt32} {calls : List Call}
    (hl : m.names.lookup cls name = none)
    (hn : m'.names = m.names.insert cls name
      ((Driver.perform m.driver (.generate cls [0])).1.headD 0))
    (hc : ∀ call ∈ calls, call.Nameless) : Renames wanted m m' (.generate cls [0] :: calls)
  | delete {cls : ObjectClass} {client : List UInt32}
    (hn : m'.names = (m.names.takeAll cls client).2) :
    Renames wanted m m' [.delete cls (m.names.takeAll cls client).1]

end Commons

namespace Scope

variable {δ : Type} [Driver δ]

def Renames (wanted : Option (ObjectClass × List UInt32)) (s t : Scope δ) : Prop :=
  ∃ calls, t.driver = Driver.after s.driver calls ∧ s.commons.Renames wanted t.commons calls

variable {s t : Scope δ} {c : Command} {entry : EntryPoint}
  {wanted : Option (ObjectClass × List UInt32)}

theorem nameless_of_makes {call : Call} (hm : Command.Makes entry call)
    (hr : entry.renames = false) : call.Nameless := by
  have hentry : call.entry = entry ∨ call.entry = .getIntegerv := by
    rcases hm with hm | hm | ⟨cls, rfl, -⟩
    · exact .inl hm
    · exact .inr hm
    · cases hr
  cases call with
  | generate _ _ | delete _ _ =>
    rcases hentry with rfl | he
    · cases hr
    · cases he
  | _ => trivial

theorem Leaves.renames {calls : List Call} (hl : Leaves entry s t calls)
    (hr : entry.renames = false) (wanted : Option (ObjectClass × List UInt32)) :
    Renames wanted s t :=
  ⟨calls, hl.driver, .pass (hl.names hr) fun call hcall =>
    nameless_of_makes (hl.makes call hcall) hr⟩

theorem generate_renames (s : Scope δ) (cls : ObjectClass) (client : List UInt32) :
    Renames (some (cls, client)) s (s.generate cls client) := by
  unfold generate
  split
  · exact (leaves_refl .getIntegerv s).renames rfl _
  · exact ⟨_, rfl, .generate rfl rfl⟩

theorem delete_renames (s : Scope δ) (cls : ObjectClass) (client : List UInt32) :
    Renames wanted s (s.delete cls client) := by
  unfold delete
  split
  · exact (leaves_refl .getIntegerv s).renames rfl _
  · exact ⟨_, rfl, .delete rfl⟩

/-- Where the driver cannot make an object, the client name is passed on, and none is kept. -/
theorem bind_renames (s : Scope δ) (cls : ObjectClass) (target : Enum) (name : UInt32) :
    Renames wanted s (s.bind cls target name) := by
  unfold bind
  split
  · exact (reject_leaves .getIntegerv s _).renames rfl _
  split
  · exact ⟨[], rfl, .pass rfl (by simp)⟩
  have hbind : ∀ object, ∀ call ∈ [Call.bind cls target object], call.Nameless := by
    intro object call hcall
    rw [List.mem_singleton.mp hcall]
    trivial
  unfold driverName
  cases hl : s.names.lookup cls name with
  | some object => exact ⟨_, rfl, .pass rfl (hbind object)⟩
  | none =>
    cases Driver.bound s.driver (.generate cls) with
    | true => exact ⟨_, rfl, .make hl rfl (hbind _)⟩
    | false => exact ⟨_, rfl, .pass rfl (hbind name)⟩

theorem enter_renames (s : Scope δ) (hc : c.entry? = some entry) :
    Renames c.generated? s (s.enter entry c).2 := by
  cases hr : entry.renames with
  | false =>
    obtain ⟨calls, hl⟩ := s.enter_leaves hc
    exact hl.renames hr _
  | true =>
    unfold enter
    split
    · cases c with
      | bindBuffer target name | bindTexture target name | bindFramebuffer target name
      | bindRenderbuffer target name => exact s.bind_renames _ target name
      | genBuffers names | genTextures names | genFramebuffers names | genRenderbuffers names =>
        exact s.generate_renames _ names
      | deleteBuffers names | deleteTextures names | deleteFramebuffers names
      | deleteRenderbuffers names => exact s.delete_renames _ names
      | _ => cases hc <;> cases hr
    · exact (drop_leaves .getIntegerv s c).renames rfl _

end Scope

/-! The table against what was given and deleted -/

/-- The objects that the calls end. Zero, which goes for names that stand for none, is no object. -/
def Call.ended (calls : List Call) (cls : ObjectClass) : List UInt32 :=
  (Call.deleted calls cls).filter (· ≠ 0)

theorem Call.mem_ended {calls : List Call} {cls : ObjectClass} {object : UInt32}
    (h : object ≠ 0) : object ∈ Call.ended calls cls ↔ object ∈ Call.deleted calls cls := by
  simp [Call.ended, h]

theorem Call.count_deleted {calls : List Call} {cls : ObjectClass} {object : UInt32}
    (hn : (Call.ended calls cls).Nodup) (h : object ≠ 0) (hmem : object ∈ Call.deleted calls cls) :
    (Call.deleted calls cls).count object = 1 := by
  rw [← List.count_eq_one_of_mem hn ((mem_ended h).mpr hmem), ended, List.count_filter]
  simpa using h

theorem Call.mem_deleted {calls : List Call} {cls : ObjectClass} {objects : List UInt32}
    (h : .delete cls objects ∈ calls) {object : UInt32} (hmem : object ∈ objects) :
    object ∈ Call.deleted calls cls := List.mem_flatMap.mpr ⟨_, h, by simpa using hmem⟩

namespace Driver

variable {δ : Type} [Driver δ]

def Distinct (d : δ) (calls : List Call) : Prop := ∀ cls, (given d calls cls).Nodup

def Fills (d : δ) : Prop :=
  ∀ calls cls names, (perform (after d calls) (.generate cls names)).1.length = names.length

theorem distinct_of_append {d : δ} {as bs : List Call} (h : Distinct d (as ++ bs)) :
    Distinct d as := by
  intro cls
  have hcls := h cls
  rw [given_append] at hcls
  exact (List.nodup_append.mp hcls).1

end Driver

namespace NameTable

/-- Every object stands behind one name, and none that was deleted does; none was deleted twice. -/
structure Tallied (t : NameTable) (given ended : ObjectClass → List UInt32) : Prop where
  sound : t.Sound given ended
  zeroFree : t.ZeroFree
  once : ∀ cls, (ended cls).Nodup

/-- No object is lost: each stands behind a name until it is deleted. -/
def Covers (t : NameTable) (given ended : ObjectClass → List UInt32) : Prop :=
  ∀ cls d, d ≠ 0 → d ∈ given cls → (∃ n, t.map.lookup (cls, n) = some d) ∨ d ∈ ended cls

variable {t : NameTable} {given ended given' : ObjectClass → List UInt32} {cls : ObjectClass}
  {client driver : List UInt32}

theorem Tallied.injective (ht : t.Tallied given ended) (cls : ObjectClass) (n m d : UInt32)
    (h : t.map.lookup (cls, n) = some d) (h' : t.map.lookup (cls, m) = some d) : n = m := by
  obtain ⟨hn, h⟩ := (ht.zeroFree.stored_iff cls n d).mp h
  obtain ⟨hm, h'⟩ := (ht.zeroFree.stored_iff cls m d).mp h'
  exact ht.sound.injective cls n m d hn hm h h'

theorem Tallied.made (ht : t.Tallied given ended) {n d : UInt32}
    (h : t.map.lookup (cls, n) = some d) : d ∈ given cls := by
  obtain ⟨hn, h⟩ := (ht.zeroFree.stored_iff cls n d).mp h
  exact ht.sound.made cls n d hn h

theorem Tallied.live (ht : t.Tallied given ended) {n d : UInt32}
    (h : t.map.lookup (cls, n) = some d) : d ∉ ended cls := by
  obtain ⟨hn, h⟩ := (ht.zeroFree.stored_iff cls n d).mp h
  exact ht.sound.live cls n d hn h

/-- Where none is lost, the objects given are those in the table and those deleted. -/
theorem Tallied.mem_given_iff (ht : t.Tallied given ended) (hc : t.Covers given ended)
    {d : UInt32} (hd : d ≠ 0) :
    (d ∈ given cls ↔ (∃ n, t.map.lookup (cls, n) = some d) ∨ d ∈ ended cls) ∧
      ¬ ((∃ n, t.map.lookup (cls, n) = some d) ∧ d ∈ ended cls) := by
  refine ⟨⟨hc cls d hd, ?_⟩, fun ⟨⟨n, h⟩, hdead⟩ => ht.live h hdead⟩
  rintro (⟨n, h⟩ | hdead)
  · exact ht.made h
  · exact ht.sound.unmade cls d hd hdead

theorem empty_tallied : ({} : NameTable).Tallied (fun _ => []) fun _ => [] :=
  ⟨empty_sound, fun _ => rfl, fun _ => List.nodup_nil⟩

theorem Tallied.insertAll (ht : t.Tallied given ended) (h0 : 0 ∉ ended cls)
    (hgiven : ∀ c, given' c = given c ++ if cls = c then driver else [])
    (hfresh : (given' cls).Nodup) : (t.insertAll cls client driver).Tallied given' ended :=
  ⟨ht.sound.insertAll hgiven hfresh fun _ => h0, ht.zeroFree.insertAll cls client driver, ht.once⟩

/-- Objects made for distinct names that stood for none push out none, and all are kept. -/
theorem Covers.insertAll (hz : t.ZeroFree) (hc : t.Covers given ended)
    (hlength : driver.length = client.length) (hn : client.Nodup) (h0 : 0 ∉ client)
    (hnone : ∀ n ∈ client, t.lookup cls n = none)
    (hgiven : ∀ c, given' c = given c ++ if cls = c then driver else []) :
    (t.insertAll cls client driver).Covers given' ended := by
  have hz' := hz.insertAll cls client driver
  intro c d hd hmem
  rw [hgiven, List.mem_append] at hmem
  rcases hmem with hold | hnew
  · refine (hc c d hd hold).imp_left fun ⟨n, h⟩ => ⟨n, ?_⟩
    obtain ⟨hn0, h⟩ := (hz.stored_iff c n d).mp h
    refine (hz'.stored_iff c n d).mpr ⟨hn0, ?_⟩
    rw [lookup_insertAll_of_not_mem]
    · exact h
    · rintro ⟨rfl, hmem⟩
      rw [hnone n hmem] at h
      cases h
  · split at hnew
    · next hcls =>
      subst hcls
      -- The client name at the object's place in the list is the one it is made for.
      have hpaired : d ∈ (client.zip driver).map Prod.snd := by
        rw [List.map_snd_zip (Nat.le_of_eq hlength)]
        exact hnew
      obtain ⟨⟨n, d⟩, hpair, rfl⟩ := List.mem_map.mp hpaired
      have hname : n ≠ 0 := fun h => h0 (h ▸ (List.of_mem_zip hpair).1)
      exact .inl ⟨n, (hz'.stored_iff cls n d).mpr
        ⟨hname, lookup_insertAll_of_zip t cls hn h0 hpair⟩⟩
    · cases hnew

variable {ended' : ObjectClass → List UInt32}
  (hended : ∀ c, ended' c = ended c ++
    if cls = c then (t.takeAll cls client).1.filter (· ≠ 0) else [])

include hended

theorem Tallied.takeAll (ht : t.Tallied given ended) (h0 : 0 ∉ ended cls) :
    (t.takeAll cls client).2.Tallied given ended' := by
  constructor
  case sound =>
    refine ht.sound.takeAll (fun _ => ?_) fun c d hd => ?_
    · simp [hended, h0]
    · rw [hended, List.mem_append] at hd
      refine hd.imp_right fun hd => ?_
      split at hd
      · next hc => exact ⟨hc, (List.mem_filter.mp hd).1⟩
      · cases hd
  case zeroFree => exact ht.zeroFree.takeAll cls client
  case once =>
    intro c
    rw [hended]
    split
    · next hc =>
      subst hc
      refine List.nodup_append.mpr ⟨ht.once cls, nodup_takeAll (ht.sound.injective cls) client, ?_⟩
      -- What is taken out stood behind a name, so it was not deleted before.
      rintro d hdead _ htaken rfl
      obtain ⟨htaken, hd⟩ := List.mem_filter.mp htaken
      have hd : d ≠ 0 := by simpa using hd
      obtain ⟨n, -, hn, h⟩ := (mem_takeAll t cls client hd).mp htaken
      exact ht.sound.live cls n d hn h hdead
    · rw [List.append_nil]
      exact ht.once c

theorem Covers.takeAll (hz : t.ZeroFree) (hc : t.Covers given ended) :
    (t.takeAll cls client).2.Covers given ended' := by
  intro c d hd hmem
  rw [hended, List.mem_append]
  rcases hc c d hd hmem with ⟨n, h⟩ | hdead
  · obtain ⟨hn, h⟩ := (hz.stored_iff c n d).mp h
    by_cases hgone : cls = c ∧ n ∈ client
    · obtain ⟨rfl, hclient⟩ := hgone
      have htaken := (mem_takeAll t cls client hd).mpr ⟨n, hclient, hn, h⟩
      rw [if_pos rfl]
      exact .inr (.inr (List.mem_filter.mpr ⟨htaken, by simpa using hd⟩))
    · refine .inl ⟨n, ((hz.takeAll cls client).stored_iff c n d).mpr ⟨hn, ?_⟩⟩
      rw [lookup_takeAll, if_neg fun h => hgone ⟨h.1, h.2.1⟩]
      exact h
  · exact .inr (.inl hdead)

end NameTable

/-! One command -/

namespace Commons

variable {δ : Type} [Driver δ] {d : δ} {log calls : List Call} {m m' : Commons (Traced δ)}
  {wanted : Option (ObjectClass × List UInt32)}

def Tallied (d : δ) (log : List Call) (m : Commons (Traced δ)) : Prop :=
  m.names.Tallied (Driver.given d log) (Call.ended log)

def Covers (d : δ) (log : List Call) (m : Commons (Traced δ)) : Prop :=
  m.names.Covers (Driver.given d log) (Call.ended log)

theorem zero_not_mem_ended (log : List Call) (cls : ObjectClass) : 0 ∉ Call.ended log cls := by
  simp [Call.ended]

theorem ended_append (log : List Call) {calls : List Call}
    (h : ∀ cls, Call.deleted calls cls = []) : Call.ended (log ++ calls) = Call.ended log := by
  funext cls
  rw [Call.ended, Call.deleted_append, h, List.append_nil]
  rfl

theorem ended_takeAll (names : NameTable) (log : List Call) (cls c : ObjectClass)
    (client : List UInt32) :
    Call.ended (log ++ [.delete cls (names.takeAll cls client).1]) c = Call.ended log c ++
      if cls = c then (names.takeAll cls client).1.filter (· ≠ 0) else [] := by
  rw [Call.ended, deleted_takeAll, List.filter_append]
  split <;> rfl

/-- What the driver gives at a call that makes objects, and at the nameless ones behind it. -/
theorem given_generate (hplayed : m.driver.driver = Driver.after d log) (cls c : ObjectClass)
    (names : List UInt32) (hc : ∀ call ∈ calls, call.Nameless) :
    Driver.given d (log ++ .generate cls names :: calls) c = Driver.given d log c ++
      if cls = c then (Driver.perform m.driver (.generate cls names)).1 else [] := by
  rw [Driver.given_append, ← hplayed, Driver.given, Driver.given_of_nameless _ hc, List.append_nil]
  rfl

theorem deleted_generate (cls c : ObjectClass) (names : List UInt32)
    (hc : ∀ call ∈ calls, call.Nameless) : Call.deleted (.generate cls names :: calls) c = [] := by
  rw [← List.singleton_append, Call.deleted_append, Call.deleted_of_nameless hc]
  rfl

theorem untouched_of_nameless (d : δ) (log : List Call) (hc : ∀ call ∈ calls, call.Nameless) :
    Driver.given d (log ++ calls) = Driver.given d log ∧
      Call.ended (log ++ calls) = Call.ended log := by
  constructor
  · funext cls
    rw [Driver.given_append, Driver.given_of_nameless _ hc, List.append_nil]
  · exact ended_append log (Call.deleted_of_nameless hc)

theorem given_delete (d : δ) (log : List Call) (cls : ObjectClass) (objects : List UInt32) :
    Driver.given d (log ++ [.delete cls objects]) = Driver.given d log := by
  funext c
  rw [Driver.given_append]
  exact List.append_nil _

theorem length_made (hfill : Driver.Fills d) (hplayed : m.driver.driver = Driver.after d log)
    (cls : ObjectClass) (names : List UInt32) :
    (Driver.perform m.driver (.generate cls names)).1.length = names.length := by
  have hlength := hfill log cls names
  rw [← hplayed] at hlength
  exact hlength

theorem insertAll_of_made (hfill : Driver.Fills d) (hplayed : m.driver.driver = Driver.after d log)
    {cls : ObjectClass} {name : UInt32} (hn : m'.names = m.names.insert cls name
      ((Driver.perform m.driver (.generate cls [0])).1.headD 0)) :
    m'.names = m.names.insertAll cls [name] (Driver.perform m.driver (.generate cls [0])).1 := by
  obtain ⟨object, hobject⟩ := List.length_eq_one_iff.mp (length_made hfill hplayed cls [0])
  rw [hn, hobject]
  rfl

variable (hr : m.Renames wanted m' calls) (hplayed : m.driver.driver = Driver.after d log)

include hr hplayed

/-- Whatever a command lists, on a driver that gives no name twice. -/
theorem Renames.tallied (hfill : Driver.Fills d) (ht : m.Tallied d log)
    (hdistinct : Driver.Distinct d (log ++ calls)) : m'.Tallied d (log ++ calls) := by
  unfold Tallied at ht ⊢
  cases hr with
  | pass hn hc =>
    obtain ⟨hgiven, hended⟩ := untouched_of_nameless d log hc
    rw [hn, hgiven, hended]
    exact ht
  | @generate cls client hw hn =>
    rw [hn, ended_append log fun c => deleted_generate cls c _ (by simp)]
    refine ht.insertAll (zero_not_mem_ended log cls) (fun c => ?_) (hdistinct cls)
    exact given_generate hplayed cls c _ (by simp)
  | @make cls name rest hl hn hc =>
    rw [insertAll_of_made hfill hplayed hn, ended_append log fun c => deleted_generate cls c _ hc]
    refine ht.insertAll (zero_not_mem_ended log cls) (fun c => ?_) (hdistinct cls)
    exact given_generate hplayed cls c _ hc
  | @delete cls client hn =>
    rw [hn, given_delete]
    exact ht.takeAll (fun c => ended_takeAll m.names log cls c client) (zero_not_mem_ended log cls)

/-- No object is lost where objects are made only for distinct names that stand for none. -/
theorem Renames.covers (hfill : Driver.Fills d) (ht : m.Tallied d log) (hcovers : m.Covers d log)
    (hcare : ∀ p ∈ wanted, p.2.Nodup ∧ 0 ∉ p.2 ∧ ∀ n ∈ p.2, m.names.lookup p.1 n = none) :
    m'.Covers d (log ++ calls) := by
  unfold Covers at hcovers ⊢
  cases hr with
  | pass hn hc =>
    obtain ⟨hgiven, hended⟩ := untouched_of_nameless d log hc
    rw [hn, hgiven, hended]
    exact hcovers
  | @generate cls client hw hn =>
    obtain ⟨hnodup, h0, hnone⟩ := hcare _ hw
    have hlength := length_made hfill hplayed cls (client.map fun _ => 0)
    rw [List.length_map] at hlength
    rw [hn, ended_append log fun c => deleted_generate cls c _ (by simp)]
    refine hcovers.insertAll ht.zeroFree hlength hnodup h0 hnone fun c => ?_
    exact given_generate hplayed cls c _ (by simp)
  | @make cls name rest hl hn hc =>
    have hname : name ≠ 0 := by
      rintro rfl
      cases hl
    rw [insertAll_of_made hfill hplayed hn, ended_append log fun c => deleted_generate cls c _ hc]
    refine hcovers.insertAll ht.zeroFree (length_made hfill hplayed cls [0]) (by simp)
      (by simpa using hname.symm) (by simpa using hl) fun c => ?_
    exact given_generate hplayed cls c _ hc
  | @delete cls client hn =>
    rw [hn, given_delete]
    exact hcovers.takeAll (fun c => ended_takeAll m.names log cls c client) ht.zeroFree

omit hplayed

theorem Renames.behind_of_delete (hz : m.names.ZeroFree) {cls : ObjectClass}
    {objects : List UInt32} (hdel : .delete cls objects ∈ calls) {object : UInt32}
    (hmem : object ∈ objects) (h0 : object ≠ 0) :
    ∃ n, m.names.map.lookup (cls, n) = some object := by
  cases hr with
  | pass hn hc => exact (hc _ hdel).elim
  | generate hw hn => cases List.mem_singleton.mp hdel
  | make hl hn hc =>
    rcases List.mem_cons.mp hdel with he | hdel
    · cases he
    · exact (hc _ hdel).elim
  | @delete k client hn =>
    obtain ⟨rfl, rfl⟩ := Call.delete.inj (List.mem_singleton.mp hdel)
    obtain ⟨n, -, hn0, h⟩ := (m.names.mem_takeAll cls client h0).mp hmem
    exact ⟨n, (hz.stored_iff cls n object).mpr ⟨hn0, h⟩⟩

end Commons

/-! Fleets -/

def Move.generated? : Move → Option (ObjectClass × List UInt32)
  | .execute _ c => c.generated?
  | .drop _ => none

namespace Fleet

variable {δ : Type} [Driver δ]

theorem run_concat (f : Fleet δ) (moves : List Move) (a : Move) :
    f.run (moves ++ [a]) = (f.run moves).move a := List.foldl_concat ..

theorem heeds_concat {ok : NameTable → Command → Prop} {f : Fleet δ} {moves : List Move}
    {a : Move} (h : f.Heeds ok (moves ++ [a])) :
    f.Heeds ok moves ∧ ∀ w c, a = .execute w c → ok (f.run moves).server.names c := by
  induction moves generalizing f with
  | nil =>
    refine ⟨trivial, ?_⟩
    rintro w c rfl
    exact h.1
  | cons b moves ih =>
    cases b with
    | execute w c => exact ⟨⟨h.1, (ih h.2).1⟩, (ih h.2).2⟩
    | drop w => exact ⟨(ih h).1, (ih h).2⟩

theorem move_renames (f : Fleet δ) (a : Move) :
    ∃ calls, (f.move a).server.driver = Driver.after f.server.driver calls ∧
      f.server.commons.Renames a.generated? (f.move a).server.commons calls := by
  cases a with
  | drop w => exact ⟨[], rfl, .pass rfl (by simp)⟩
  | execute w c =>
    have hx := (f.engine w).execute_executed c
    show ∃ calls, ((f.engine w).execute c).2.server.commons.driver = _ ∧
      f.server.commons.Renames c.generated? ((f.engine w).execute c).2.server.commons calls
    generalize ((f.engine w).execute c).2 = e at hx ⊢
    cases hx with
    | display _ h =>
      have hm := h.commons
      generalize e.server.commons = m' at hm ⊢
      cases hm with
      | rest | elide => exact ⟨[], rfl, .pass rfl (by simp)⟩
      | call call hlib =>
        refine ⟨[call], rfl, .pass rfl fun k hk => ?_⟩
        rw [List.mem_singleton.mp hk]
        cases call <;> trivial
    | idle => exact ⟨[], rfl, .pass rfl (by simp)⟩
    | @rendering k _ _ hentry => exact ((f.engine w).scope k).enter_renames hentry

def traced (d : δ) (names : NameTable) (moves : List Move) : Fleet (Traced δ) :=
  (start (⟨d, []⟩ : Traced δ) names).run moves

theorem engine_traced (d : δ) (names : NameTable) (moves : List Move) (w : Nat) (c : Command) :
    (traced d names (moves ++ [.execute w c])).engine w =
      (((traced d names moves).engine w).execute c).2 := by
  rw [traced, run_concat, ← traced, move, engine_become]

theorem traced_played (d : δ) (moves : List Move) : (traced d {} moves).server.driver.driver =
    Driver.after d (traced d {} moves).server.driver.calls := by
  induction moves using List.reverseRecOn with
  | nil => rfl
  | append_singleton moves a ih =>
    obtain ⟨calls, hd, -⟩ := (traced d {} moves).move_renames a
    rw [traced, run_concat, ← traced, hd]
    rw [Traced.driver_after, Traced.calls_after, ih, Driver.after_append]

theorem traced_concat (d : δ) (moves : List Move) (a : Move) : ∃ calls,
    (traced d {} (moves ++ [a])).server.driver.calls =
        (traced d {} moves).server.driver.calls ++ calls ∧
      (traced d {} moves).server.commons.Renames a.generated?
        (traced d {} (moves ++ [a])).server.commons calls := by
  obtain ⟨calls, hd, hr⟩ := (traced d {} moves).move_renames a
  have hnext : traced d {} (moves ++ [a]) = (traced d {} moves).move a := run_concat ..
  rw [hnext]
  exact ⟨calls, by rw [hd, Traced.calls_after], hr⟩

variable {d : δ} (hfill : Driver.Fills d)

include hfill

/-- Whatever clients list, the table goes with what was given and deleted. -/
theorem traced_tallied {moves : List Move}
    (hdistinct : Driver.Distinct d (traced d {} moves).server.driver.calls) :
    (traced d {} moves).server.commons.Tallied d (traced d {} moves).server.driver.calls := by
  induction moves using List.reverseRecOn with
  | nil => exact NameTable.empty_tallied
  | append_singleton moves a ih =>
    obtain ⟨calls, hlog, hr⟩ := traced_concat d moves a
    rw [hlog] at hdistinct ⊢
    exact hr.tallied (traced_played d moves) hfill (ih (Driver.distinct_of_append hdistinct))
      hdistinct

theorem traced_covers {moves : List Move}
    (hdistinct : Driver.Distinct d (traced d {} moves).server.driver.calls)
    (hcare : (start (⟨d, []⟩ : Traced δ) {}).Heeds (fun names c => c.Careful names) moves) :
    (traced d {} moves).server.commons.Covers d (traced d {} moves).server.driver.calls := by
  induction moves using List.reverseRecOn with
  | nil => exact fun _ _ _ h => by cases h
  | append_singleton moves a ih =>
    obtain ⟨calls, hlog, hr⟩ := traced_concat d moves a
    obtain ⟨hbefore, hlast⟩ := heeds_concat hcare
    rw [hlog] at hdistinct ⊢
    have hdistinct := Driver.distinct_of_append hdistinct
    refine hr.covers (traced_played d moves) hfill (traced_tallied hfill hdistinct)
      (ih hdistinct hbefore) ?_
    cases a with
    | execute w c => exact hlast w c rfl
    | drop w => exact fun p hp => by cases hp

omit hfill in
theorem traced_log_append (d : δ) (before later : List Move) : ∃ calls,
    (traced d {} (before ++ later)).server.driver.calls =
      (traced d {} before).server.driver.calls ++ calls := by
  induction later using List.reverseRecOn with
  | nil => exact ⟨[], by simp⟩
  | append_singleton later a ih =>
    obtain ⟨calls, ih⟩ := ih
    obtain ⟨more, hlog, -⟩ := traced_concat d (before ++ later) a
    exact ⟨calls ++ more, by rw [← List.append_assoc, hlog, ih, List.append_assoc]⟩

/-- After every run of any number of engines on a driver that gives no name twice, each
object that the table has stands behind one client name, which is not zero. What a driver
is told to delete it has given, stood behind a name just before, and is deleted this once.
If objects are only made for distinct names that stand for none, the objects given are those
in the table and those deleted, and none is both. -/
theorem run_conserves {moves : List Move}
    (hdistinct : Driver.Distinct d (traced d {} moves).server.driver.calls) :
    (∀ cls, (traced d {} moves).server.names.map.lookup (cls, 0) = none) ∧
    (∀ cls n m object, (traced d {} moves).server.names.map.lookup (cls, n) = some object →
      (traced d {} moves).server.names.map.lookup (cls, m) = some object → n = m) ∧
    (∀ before a later, moves = before ++ a :: later → ∃ calls,
      (traced d {} (before ++ [a])).server.driver.calls =
        (traced d {} before).server.driver.calls ++ calls ∧
      ∀ cls objects, .delete cls objects ∈ calls → ∀ object ∈ objects, object ≠ 0 →
        object ∈ Driver.given d (traced d {} before).server.driver.calls cls ∧
        (∃ n, (traced d {} before).server.names.map.lookup (cls, n) = some object) ∧
        (Call.deleted (traced d {} moves).server.driver.calls cls).count object = 1) ∧
    ((start (⟨d, []⟩ : Traced δ) {}).Heeds (fun names c => c.Careful names) moves →
      ∀ cls object, object ≠ 0 →
        (object ∈ Driver.given d (traced d {} moves).server.driver.calls cls ↔
          (∃ n, (traced d {} moves).server.names.map.lookup (cls, n) = some object) ∨
            object ∈ Call.deleted (traced d {} moves).server.driver.calls cls) ∧
        ¬ ((∃ n, (traced d {} moves).server.names.map.lookup (cls, n) = some object) ∧
          object ∈ Call.deleted (traced d {} moves).server.driver.calls cls)) := by
  have ht := traced_tallied hfill hdistinct
  refine ⟨ht.zeroFree, ht.injective, fun before a later hsplit => ?_, fun hcare cls object h0 => ?_⟩
  · obtain ⟨calls, hlog, hr⟩ := traced_concat d before a
    obtain ⟨more, hrest⟩ := traced_log_append d (before ++ [a]) later
    have hmoves : traced d {} moves = traced d {} (before ++ [a] ++ later) := by
      rw [hsplit, List.append_assoc, List.singleton_append]
    rw [hmoves, hrest, hlog, List.append_assoc] at hdistinct
    have hbefore := traced_tallied hfill (Driver.distinct_of_append hdistinct)
    refine ⟨calls, hlog, fun cls objects hdel object hmem h0 => ?_⟩
    obtain ⟨n, hn⟩ := hr.behind_of_delete hbefore.zeroFree hdel hmem h0
    refine ⟨hbefore.made hn, ⟨n, hn⟩, ?_⟩
    refine Call.count_deleted (ht.once cls) h0 ?_
    rw [hmoves, hrest, hlog, List.append_assoc, Call.deleted_append, Call.deleted_append]
    have hdeleted := Call.mem_deleted hdel hmem
    exact List.mem_append_right _ (List.mem_append_left _ hdeleted)
  · have hcovers := traced_covers hfill hdistinct hcare
    rw [← Call.mem_ended h0]
    exact ht.mem_given_iff hcovers h0

omit hfill

/-- Textures are made in one context, one of them only when it is bound, and deleted in
another, where the client lists a name twice, zero, and a name that stands for none. -/
def repeating : List Move :=
  [.execute 0 (.makeCurrent ⟨1⟩ ⟨3⟩ ⟨3⟩ ⟨7⟩), .execute 0 (.genTextures [5, 6]),
    .execute 0 (.bindTexture GL.texture2D 9), .execute 1 (.makeCurrent ⟨1⟩ ⟨4⟩ ⟨4⟩ ⟨8⟩),
    .execute 1 (.deleteTextures [6, 6, 0, 77, 9]), .execute 1 (.genTextures [6])]

/-- Two textures are deleted, once each, and the name that is used again stands for a new one. -/
theorem run_conserves_of_repeating :
    (traced ({} : Recorder) {} repeating).server.driver.calls =
      [.makeCurrent ⟨1⟩ ⟨3⟩ ⟨3⟩ ⟨7⟩, .generate .texture [0, 0], .generate .texture [0],
        .bind .texture GL.texture2D 1002, .makeCurrent ⟨1⟩ ⟨4⟩ ⟨4⟩ ⟨8⟩,
        .delete .texture [1001, 0, 0, 0, 1002], .generate .texture [0]] ∧
    (Call.deleted (traced ({} : Recorder) {} repeating).server.driver.calls .texture).count 1001 =
      1 ∧
    (∃ n, (traced ({} : Recorder) {} repeating).server.names.map.lookup (.texture, n) = some 1003) ∧
    1003 ∉ Call.deleted (traced ({} : Recorder) {} repeating).server.driver.calls .texture := by
  have hfill : Driver.Fills ({} : Recorder) :=
    fun calls cls names => Recorder.length_generate _ cls names
  have hdistinct : Driver.Distinct ({} : Recorder)
      (traced ({} : Recorder) {} repeating).server.driver.calls := by
    intro cls
    cases cls <;> decide +kernel
  have hcare : (start (⟨{}, []⟩ : Traced Recorder) {}).Heeds (fun names c => c.Careful names)
      repeating := by decide +kernel
  have hdeletes : (traced ({} : Recorder) {} (repeating.take 5)).server.driver.calls =
      (traced ({} : Recorder) {} (repeating.take 4)).server.driver.calls ++
        [.delete .texture [1001, 0, 0, 0, 1002]] := by decide +kernel
  have hgiven : 1003 ∈ Driver.given ({} : Recorder)
      (traced ({} : Recorder) {} repeating).server.driver.calls .texture := by decide +kernel
  have hlive : 1003 ∉ Call.deleted (traced ({} : Recorder) {} repeating).server.driver.calls
      .texture := by decide +kernel
  obtain ⟨-, -, hdeleted, hkept⟩ := run_conserves hfill hdistinct
  obtain ⟨calls, hlog, hcalls⟩ := hdeleted (repeating.take 4) _ _ rfl
  have hcall : calls = [.delete .texture [1001, 0, 0, 0, 1002]] :=
    List.append_cancel_left (hlog.symm.trans hdeletes)
  refine ⟨by decide +kernel, ?_, ?_, hlive⟩
  · exact (hcalls .texture _ (by rw [hcall]; exact .head _) 1001 (.head _) (by decide)).2.2
  · exact ((hkept hcare .texture 1003 (by decide)).1.mp hgiven).resolve_right hlive

end Fleet

end RenderRelay
