import Mathlib.Algebra.Group.Nat.Even
import RenderRelay.Driver.Bench
import RenderRelay.Proofs.Engine.Confirmation

/-!
# Where attribute lists end

A function takes an attribute list two words at a time, a name and its value, until the
end marker stands in the place of a name. It has no length to stop at. Whatever is
passed has the marker as its last word. But behind an odd number of words this is the
place of a value: if none of the names is the marker, the function runs past the end.
-/

set_option autoImplicit false

namespace RenderRelay

def Call.attributes? : Call → Option (List Int32)
  | chooseConfig _ attribs _ | createContext _ _ _ attribs | createWindowSurface _ _ _ attribs
  | createPbufferSurface _ _ attribs => some attribs
  | _ => none

def Command.attributes? (c : Command) : Option (List Int32) := c.request?.bind Call.attributes?

namespace Native

/-! ## Reading a list -/

/-- The names and values that a function takes from a list, if it finds an end. -/
def read? : List Int32 → Option (List (Int32 × Int32))
  | [] => none
  | [name] => if name = EGL.none then some [] else none
  | name :: value :: rest =>
    if name = EGL.none then some [] else (read? rest).map ((name, value) :: ·)

/-- A name is the end marker. -/
def Marked (list : List Int32) : Prop := ∃ i : Nat, list[2 * i]? = some EGL.none

def words (pairs : List (Int32 × Int32)) : List Int32 := pairs.flatMap fun p => [p.1, p.2]

variable {name value : Int32} {attribs list rest : List Int32} {pairs : List (Int32 × Int32)}

theorem not_marked_nil : ¬ Marked [] := by
  rintro ⟨i, hi⟩
  cases hi

theorem marked_singleton : Marked [name] ↔ name = EGL.none := by
  constructor
  · rintro ⟨_ | i, hi⟩
    · exact Option.some.inj hi
    · cases hi
  · rintro rfl
    exact ⟨0, rfl⟩

theorem marked_cons_cons :
    Marked (name :: value :: rest) ↔ name = EGL.none ∨ Marked rest := by
  constructor
  · rintro ⟨_ | i, hi⟩
    · exact .inl (Option.some.inj hi)
    · exact .inr ⟨i, hi⟩
  · rintro (rfl | ⟨i, hi⟩)
    · exact ⟨0, rfl⟩
    · exact ⟨i + 1, hi⟩

/-- A function stays within the list just if one of the names is the marker. -/
theorem isSome_read?_iff (list : List Int32) : (read? list).isSome = true ↔ Marked list := by
  induction list using read?.induct with
  | case1 => simp [read?, not_marked_nil]
  | case2 => simp [read?, marked_singleton]
  | case3 name hname => simp [read?, marked_singleton, hname]
  | case4 value rest => simp [read?, marked_cons_cons]
  | case5 name value rest hname ih => simp [read?, marked_cons_cons, hname, ih]

theorem eq_words_of_read? (h : read? list = some pairs) :
    ∃ rest, list = words pairs ++ EGL.none :: rest := by
  induction list using read?.induct generalizing pairs with
  | case1 => cases h
  | case2 =>
    cases h
    exact ⟨[], rfl⟩
  | case3 name hname => simp [read?, hname] at h
  | case4 value rest =>
    cases h
    exact ⟨value :: rest, rfl⟩
  | case5 name value rest hname ih =>
    rw [read?, if_neg hname] at h
    obtain ⟨pairs, hread, rfl⟩ := Option.map_eq_some_iff.mp h
    obtain ⟨behind, rfl⟩ := ih hread
    exact ⟨behind, rfl⟩

/-- The marker behind a list is in the place of a name if the list has an even length. -/
theorem marked_concat (attribs : List Int32) :
    Marked (attribs ++ [EGL.none]) ↔ Even attribs.length ∨ Marked attribs := by
  induction attribs using read?.induct with
  | case1 => simp [marked_singleton]
  | case2 => simp [marked_cons_cons, marked_singleton]
  | case3 name hname => simp [marked_cons_cons, marked_singleton, not_marked_nil, hname]
  | case4 value rest => simp [marked_cons_cons]
  | case5 name value rest hname ih =>
    simp [marked_cons_cons, hname, ih, Nat.even_add_one]

/-! ## What is passed -/

/-- What a function can make of the list that it is passed for the client's. -/
structure Ends (attribs list : List Int32) : Prop where
  /-- The client's list stands in front. -/
  sent : attribs <+: list
  /-- The last word is the end marker, wherever that is. -/
  last : list.getLast? = some EGL.none
  marked : Marked list ↔ Even attribs.length ∨ Marked attribs
  /-- The function stays within the list. -/
  within : (read? list).isSome = true ↔ Even attribs.length ∨ Marked attribs
  /-- It takes nothing that the client has not sent. -/
  taken : ∀ pairs, read? list = some pairs → words pairs <+: attribs

theorem ends_concat (attribs : List Int32) : Ends attribs (attribs ++ [EGL.none]) := by
  constructor
  case sent => exact List.prefix_append ..
  case last => exact List.getLast?_concat
  case marked => exact marked_concat attribs
  case within => rw [isSome_read?_iff, marked_concat]
  case taken =>
    intro pairs hr
    obtain ⟨rest, hwords⟩ := eq_words_of_read? hr
    have hlength := congrArg List.length hwords
    simp only [List.length_append, List.length_cons, List.length_nil] at hlength
    have hpairs : words pairs <+: attribs ++ [EGL.none] := ⟨_, hwords.symm⟩
    exact List.prefix_of_prefix_length_le hpairs (List.prefix_append ..) (by omega)

theorem ends_self (hodd : ¬ Even attribs.length) (hlast : attribs.getLast? = some EGL.none) :
    Ends attribs attribs := by
  constructor
  case sent => exact ⟨[], List.append_nil attribs⟩
  case last => exact hlast
  case marked => exact (or_iff_right hodd).symm
  case within => rw [isSome_read?_iff, or_iff_right hodd]
  case taken =>
    intro pairs hr
    obtain ⟨rest, hwords⟩ := eq_words_of_read? hr
    exact ⟨_, hwords.symm⟩

theorem terminated_ends (attribs : List Int32) : Ends attribs (terminated attribs) := by
  unfold terminated
  split
  · next h =>
    obtain ⟨hodd, hlast⟩ := h
    exact ends_self (by rw [Nat.not_even_iff, hodd]) hlast
  · exact ends_concat attribs

theorem attributes?_passed (c : Call) :
    (passed c).attributes? = c.attributes?.map terminated := by
  cases c with
  | bufferData target size data usage => cases data <;> rfl
  | _ => rfl

theorem entry_passed (c : Call) : (passed c).entry = c.entry := by
  cases c with
  | bufferData target size data usage => cases data <;> rfl
  | _ => rfl

/-! ## What functions are called with -/

variable {η : Type}

def sight? (n : Native η) (c : Call) : Option (Function × Call) :=
  if passable c then (n.function? c.entry).map fun f => (f, passed c) else none

variable {n n' : Native η} {c call : Call} {f : Function}

theorem sight?_of_table (h : n'.table = n.table) (c : Call) : n'.sight? c = n.sight? c := by
  unfold sight? function?
  rw [h]

theorem sight?_of_attributes (ha : c.attributes? = some attribs)
    (hf : n.function? c.entry = some f) : n.sight? c = some (f, passed c) := by
  have hp : passable c = true := by
    cases c <;> first | rfl | cases ha
  rw [sight?, hp, hf]
  rfl

theorem ends_of_sight? (h : n.sight? c = some (f, call)) (hl : call.attributes? = some list) :
    ∃ attribs, c.attributes? = some attribs ∧ Ends attribs list := by
  unfold sight? at h
  obtain ⟨-, h⟩ := Option.ite_none_right_eq_some.mp h
  obtain ⟨_, -, he⟩ := Option.map_eq_some_iff.mp h
  obtain ⟨-, rfl⟩ := Prod.mk.inj he
  rw [attributes?_passed] at hl
  obtain ⟨attribs, hattribs, rfl⟩ := Option.map_eq_some_iff.mp hl
  exact ⟨attribs, hattribs, terminated_ends attribs⟩

/-- A machine, and which functions were called on it with what. -/
structure Logging (η : Type) where
  host : η
  log : List (Function × Call) := []

variable [Host η]

instance : Host (Logging η) where
  opens m := Host.opens m.host
  exported m := Host.exported m.host
  procAddress m f symbol :=
    ((Host.procAddress m.host f symbol).1, { m with host := (Host.procAddress m.host f symbol).2 })
  invoke m f c := ((Host.invoke m.host f c).1, ⟨(Host.invoke m.host f c).2, m.log ++ [(f, c)]⟩)

def logging (n : Native η) : Native (Logging η) := ⟨⟨n.host, []⟩, n.table⟩

theorem perform_logging (n : Native (Logging η)) (c : Call) :
    (n.perform c).2.table = n.table ∧
      (n.perform c).2.host.log = n.host.log ++ (n.sight? c).toList := by
  unfold perform sight?
  cases n.function? c.entry <;> cases passable c <;> simp [Host.invoke]

theorem after_logging (n : Native (Logging η)) (calls : List Call) :
    (Driver.after n calls).table = n.table ∧
      (Driver.after n calls).host.log = n.host.log ++ calls.filterMap n.sight? := by
  induction calls using List.reverseRecOn with
  | nil => exact ⟨rfl, (List.append_nil _).symm⟩
  | append_singleton calls c ih =>
    obtain ⟨htable, hlog⟩ := ih
    obtain ⟨htable', hlog'⟩ := perform_logging (Driver.after n calls) c
    rw [Driver.after_append]
    refine ⟨htable'.trans htable, hlog'.trans ?_⟩
    rw [hlog, sight?_of_table htable, List.filterMap_append, List.append_assoc]
    cases h : n.sight? c <;> simp [h]

end Native

/-! ## From commands to functions -/

theorem Call.attributes?_of_makes {c : Command} {entry : EntryPoint} {call : Call}
    (hc : c.entry? = some entry) (h : Command.Makes entry call) : call.attributes? = none := by
  have hlibrary : call.entry.library = .gles := by
    rcases h with h | h | ⟨cls, -, h⟩
    · rw [h]
      cases c <;> cases hc <;> rfl
    · rw [h]
      rfl
    · rw [h]
      rfl
  cases call <;> first | rfl | cases hlibrary

namespace Engine

variable {δ : Type} [Driver δ] {c : Command} {call : Call}

theorem driver_ask (e : Engine δ) (call : Call) : (e.ask call).2.server.driver =
    Driver.after e.server.driver
      (if Driver.bound e.server.driver call.entry then [call] else []) := by
  unfold ask
  split <;> rfl

/-- Whatever is made of the answer, the driver is left as the call has left it. -/
theorem driver_manage (e : Engine δ) (h : c.request? = some call)
    (hm : ∀ display draw read context, c ≠ .makeCurrent display draw read context) :
    (e.manage c).2.server.driver = (e.ask call).2.server.driver := by
  cases c with
  | makeCurrent display draw read context => exact absurd rfl (hm display draw read context)
  | initDisplay _ | terminateDisplay _ | destroyContext _ _ | destroySurface _ _ | releaseThread =>
    cases h
    simp only [manage, replying, initDisplay, terminateDisplay, destroyContext, destroySurface,
      releaseThread]
    split <;> simp only [*, setRegistry, release]
  | getDisplay _ | chooseConfig _ _ _ | createContext _ _ _ _ | createWindowSurface _ _ _ _
  | createPbufferSurface _ _ _ | swapBuffers _ _ | eglGetError =>
    cases h
    rfl
  | _ => cases h

theorem driver_makeCurrentAnew (e : Engine δ) (display : Display) (draw read : Surface)
    (context : Context) : (e.makeCurrentAnew display draw read context).2.server.driver =
      Driver.after e.server.driver [.makeCurrent display draw read context] := by
  unfold makeCurrentAnew call
  dsimp only
  cases (Driver.perform e.server.driver (.makeCurrent display draw read context)).1 with
  | false => rfl
  | true =>
    dsimp only
    generalize e.server.registry.makeCurrent display draw read context e.current = made
    obtain ⟨_ | _, r, next⟩ := made <;> rfl

theorem manage_calls (e : Engine δ) (h : c.request? = some call) :
    ∃ calls, (e.manage c).2.server.driver = Driver.after e.server.driver calls ∧
      ∀ made ∈ calls, made = call := by
  by_cases hm : ∃ display draw read context, c = .makeCurrent display draw read context
  · obtain ⟨display, draw, read, context, rfl⟩ := hm
    cases h
    simp only [manage, replying, makeCurrent_eq]
    split
    · exact ⟨[], rfl, by simp⟩
    split
    · exact ⟨[], rfl, by simp⟩
    · exact ⟨_, e.driver_makeCurrentAnew display draw read context, by simp⟩
  · refine ⟨_, (e.driver_manage h fun _ _ _ _ hc => hm ⟨_, _, _, _, hc⟩).trans
      (e.driver_ask call), fun made hmade => ?_⟩
    split at hmade
    · exact List.mem_singleton.mp hmade
    · cases hmade

theorem execute_passes (e : Engine δ) (c : Command) :
    ∃ calls, (e.execute c).2.server.driver = Driver.after e.server.driver calls ∧
      ∀ call ∈ calls, ∀ attribs, call.attributes? = some attribs →
        c.attributes? = some attribs := by
  cases hentry : c.entry? with
  | some entry =>
    cases hk : e.current with
    | none =>
      rw [execute_idle hk hentry]
      exact ⟨[], rfl, by simp⟩
    | some k =>
      rw [execute_rendering hk hentry]
      obtain ⟨calls, hl⟩ := (e.scope k).enter_leaves hentry
      refine ⟨calls, hl.driver, fun call hcall attribs ha => ?_⟩
      rw [Call.attributes?_of_makes hentry (hl.makes call hcall)] at ha
      cases ha
  | none =>
    rw [execute_display hentry]
    cases hr : c.request? with
    | none =>
      refine ⟨[], ?_, by simp⟩
      cases c <;> first | rfl | cases hr
    | some request =>
      obtain ⟨calls, hd, hcalls⟩ := e.manage_calls hr
      refine ⟨calls, hd, fun call hcall attribs ha => ?_⟩
      rw [Command.attributes?, hr, Option.bind_some, ← hcalls call hcall, ha]

theorem execute_of_attributes (e : Engine δ) {attribs : List Int32} (h : c.request? = some call)
    (ha : call.attributes? = some attribs)
    (hb : Driver.bound e.server.driver call.entry = true) :
    (e.execute c).2.server.driver = (Driver.perform e.server.driver call).2 := by
  have hm : ∀ display draw read context, c ≠ .makeCurrent display draw read context := by
    rintro display draw read context rfl
    cases h
    cases ha
  rw [execute_display (c.entry?_of_request h), e.driver_manage h hm, e.driver_ask, hb]
  rfl

end Engine

namespace Fleet

theorem move_passes {δ : Type} [Driver δ] (f : Fleet δ) (m : Move) :
    ∃ calls, (f.move m).server.driver = Driver.after f.server.driver calls ∧
      ∀ call ∈ calls, ∀ attribs, call.attributes? = some attribs →
        ∃ w c, m = .execute w c ∧ c.attributes? = some attribs := by
  cases m with
  | execute w c =>
    obtain ⟨calls, hd, hcalls⟩ := (f.engine w).execute_passes c
    exact ⟨calls, hd, fun call hcall attribs ha => ⟨w, c, rfl, hcalls call hcall attribs ha⟩⟩
  | drop w => exact ⟨[], rfl, by simp⟩

open Native (Host Logging)

variable {η : Type} [Host η] (n : Native η) (names : NameTable) (moves : List Move)

def logged : Fleet (Native (Logging η)) := (start n.logging names).run moves

theorem logged_concat (m : Move) :
    logged n names (moves ++ [m]) = (logged n names moves).move m := run_concat ..

def invocations : List (Native.Function × Call) := (logged n names moves).server.driver.host.log

theorem table_logged : (logged n names moves).server.driver.table = n.table := by
  induction moves using List.reverseRecOn with
  | nil => rfl
  | append_singleton moves m ih =>
    obtain ⟨calls, hd, -⟩ := (logged n names moves).move_passes m
    rw [logged_concat, hd, (Native.after_logging _ calls).1, ih]

theorem ends_of_invocations {f : Native.Function} {call : Call} {list : List Int32}
    (h : (f, call) ∈ invocations n names moves) (hl : call.attributes? = some list) :
    ∃ w c attribs, Move.execute w c ∈ moves ∧ c.attributes? = some attribs ∧
      Native.Ends attribs list := by
  induction moves using List.reverseRecOn with
  | nil => cases h
  | append_singleton moves m ih =>
    obtain ⟨calls, hd, hcalls⟩ := (logged n names moves).move_passes m
    rw [invocations, logged_concat, hd, (Native.after_logging _ calls).2, List.mem_append] at h
    rcases h with h | h
    · obtain ⟨w, c, attribs, hmem, hends⟩ := ih h
      exact ⟨w, c, attribs, List.mem_append_left _ hmem, hends⟩
    · obtain ⟨made, hmade, hsight⟩ := List.mem_filterMap.mp h
      obtain ⟨attribs, ha, hends⟩ := Native.ends_of_sight? hsight hl
      obtain ⟨w, c, rfl, hc⟩ := hcalls made hmade attribs ha
      exact ⟨w, c, attribs, by simp, hc, hends⟩

/-- In every run of any number of engines on a native driver, a function that is passed an
attribute list is passed the list of some client's command, or this with one end marker behind
it. Each such command whose function was found has it called with its list. The function stays
within what it is passed just if an even number of words was sent, or one of the names among
them is the marker; and then it takes nothing that was not sent. -/
theorem run_lists_end :
    (∀ f call list, (f, call) ∈ invocations n names moves → call.attributes? = some list →
      ∃ w c attribs, Move.execute w c ∈ moves ∧ c.attributes? = some attribs ∧
        Native.Ends attribs list) ∧
    ∀ w c call attribs f, c.request? = some call → call.attributes? = some attribs →
      n.function? call.entry = some f → ∃ passed list,
        invocations n names (moves ++ [.execute w c]) = invocations n names moves ++ [(f, passed)] ∧
        passed.entry = call.entry ∧ passed.attributes? = some list ∧
        Native.Ends attribs list := by
  refine ⟨fun f call list h hl => ends_of_invocations n names moves h hl, ?_⟩
  intro w c call attribs f hr ha hf
  have hf : (logged n names moves).server.driver.function? call.entry = some f := by
    rw [← hf, Native.function?, Native.function?, table_logged]
  have hb : Driver.bound (logged n names moves).server.driver call.entry = true :=
    Option.isSome_iff_exists.mpr ⟨f, hf⟩
  have hd := ((logged n names moves).engine w).execute_of_attributes hr ha hb
  refine ⟨Native.passed call, Native.terminated attribs, ?_, Native.entry_passed call, ?_,
    Native.terminated_ends attribs⟩
  · show (logged n names (moves ++ [.execute w c])).server.driver.host.log = _
    rw [logged_concat]
    refine (congrArg (fun d => d.host.log) hd).trans ?_
    refine (Native.perform_logging _ call).2.trans ?_
    show _ ++ ((logged n names moves).server.driver.sight? call).toList = _
    rw [Native.sight?_of_attributes ha hf]
    rfl
  · rw [Native.attributes?_passed, ha]
    rfl

def contextMaker : Native Bench where
  host := { displayExports := some [⟨"egl", "eglCreateContext"⟩], renderExports := none }
  table := [(.eglCreateContext, ⟨"egl", "eglCreateContext"⟩)]

def versioned : Command := .createContext ⟨1⟩ ⟨2⟩ ⟨0⟩ [12440, 2]

/-- A name and its value are read. -/
theorem run_lists_end_of_versioned :
    ∃ passed list, invocations contextMaker {} [.execute 0 versioned] =
        [(⟨"egl", "eglCreateContext"⟩, passed)] ∧ passed.attributes? = some list ∧
      [12440, 2] <+: list ∧ (Native.read? list).isSome = true ∧
      ∃ w c attribs, Move.execute w c ∈ [Move.execute 0 versioned] ∧
        c.attributes? = some attribs ∧ Native.Ends attribs list := by
  obtain ⟨passed, list, hlog, -, hl, hends⟩ := (run_lists_end contextMaker {} []).2 0 versioned
    (.createContext ⟨1⟩ ⟨2⟩ ⟨0⟩ [12440, 2]) [12440, 2] ⟨"egl", "eglCreateContext"⟩ rfl rfl rfl
  have hlog : invocations contextMaker {} [.execute 0 versioned] =
    [(⟨"egl", "eglCreateContext"⟩, passed)] := hlog
  refine ⟨passed, list, hlog, hl, hends.sent, hends.within.mpr (.inl (by decide)), ?_⟩
  exact (run_lists_end contextMaker {} [.execute 0 versioned]).1 _ passed list
    (hlog ▸ List.mem_singleton_self _) hl

/-- A name without a value is sent. The function takes the marker for the value, and finds no
end behind it. -/
theorem unended_of_unvalued :
    invocations contextMaker {} [.execute 0 (.createContext ⟨1⟩ ⟨2⟩ ⟨0⟩ [12440])] =
        [(⟨"egl", "eglCreateContext"⟩, .createContext ⟨1⟩ ⟨2⟩ ⟨0⟩ [12440, EGL.none])] ∧
      ¬ Native.Marked [12440, EGL.none] ∧ Native.read? [12440, EGL.none] = none := by
  refine ⟨by decide +kernel, ?_, by decide⟩
  rw [← Native.isSome_read?_iff]
  decide

end Fleet

end RenderRelay
