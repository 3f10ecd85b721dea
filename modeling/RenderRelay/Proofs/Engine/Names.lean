import RenderRelay.NameTable

/-!
# Driver names of live objects

A name table whose names were made by a driver that never gives a name twice.
No two client names stand for one object, none stands for a deleted one, and a
client name goes on standing for its object until that is deleted.
-/

set_option autoImplicit false

namespace RenderRelay.NameTable

theorem lookup_erase (t : NameTable) (cls c : ObjectClass) (client n : UInt32) :
    (t.erase cls client).lookup c n =
      if cls = c ∧ client = n ∧ n ≠ 0 then none else t.lookup c n := by
  by_cases hn : n = 0
  · subst hn
    simp [lookup]
  · simp [erase, lookup, hn, NameMap.lookup_erase, Prod.ext_iff]

/-! Many names at once -/

theorem lookup_insertAll_of_not_mem (t : NameTable) {cls c : ObjectClass} {client : List UInt32}
    (driver : List UInt32) {n : UInt32} (h : ¬ (cls = c ∧ n ∈ client)) :
    (t.insertAll cls client driver).lookup c n = t.lookup c n := by
  induction client generalizing t driver with
  | nil => rfl
  | cons client rest ih =>
    cases driver with
    | nil => rfl
    | cons d driver =>
      have hne : ¬ (client ≠ 0 ∧ cls = c ∧ client = n) := by
        rintro ⟨-, rfl, rfl⟩
        exact h ⟨rfl, List.mem_cons_self⟩
      rw [insertAll, ih _ _ fun hmem => h ⟨hmem.1, List.mem_cons_of_mem _ hmem.2⟩,
        lookup_insert, if_neg hne]

/-- Each of distinct client names gets the driver name at its place. -/
theorem lookup_insertAll_of_zip (t : NameTable) (cls : ObjectClass) {client driver : List UInt32}
    (hn : client.Nodup) (h0 : 0 ∉ client) {n d : UInt32} (h : (n, d) ∈ client.zip driver) :
    (t.insertAll cls client driver).lookup cls n = some d := by
  induction client generalizing t driver with
  | nil => cases h
  | cons client rest ih =>
    cases driver with
    | nil => cases h
    | cons e driver =>
      obtain ⟨hc, hn⟩ := List.nodup_cons.mp hn
      rw [insertAll]
      rcases List.mem_cons.mp h with he | h
      · obtain ⟨rfl, rfl⟩ := Prod.mk.inj he
        have hne : n ≠ 0 := fun he => h0 (he ▸ List.mem_cons_self)
        rw [lookup_insertAll_of_not_mem _ _ fun hmem => hc hmem.2, lookup_insert,
          if_pos ⟨hne, rfl, rfl⟩]
      · exact ih _ hn (fun h0' => h0 (List.mem_cons_of_mem _ h0')) h

theorem lookup_takeAll (t : NameTable) (cls c : ObjectClass) (client : List UInt32) (n : UInt32) :
    (t.takeAll cls client).2.lookup c n =
      if cls = c ∧ n ∈ client ∧ n ≠ 0 then none else t.lookup c n := by
  induction client generalizing t with
  | nil => simp [takeAll]
  | cons client rest ih =>
    show ((t.erase cls client).takeAll cls rest).2.lookup c n = _
    rw [ih, lookup_erase]
    have hcomm : n = client ↔ client = n := eq_comm
    by_cases hc : cls = c <;> by_cases hn : n = 0 <;> by_cases he : client = n <;>
      simp [hc, hn, he, hcomm]

theorem eq_behind_iff (t : NameTable) (cls : ObjectClass) (client : UInt32) {d : UInt32}
    (hd : d ≠ 0) : d = (if client = 0 then 0 else (t.map.lookup (cls, client)).getD 0) ↔
      client ≠ 0 ∧ t.lookup cls client = some d := by
  by_cases hc : client = 0
  · simp [hc, hd]
  · simp only [hc, if_false, lookup, ne_eq, not_false_iff, true_and]
    cases t.map.lookup (cls, client) with
    | none => simp [hd]
    | some d' => simp [eq_comm]

theorem lookup_erase_eq_some (t : NameTable) (cls : ObjectClass) {client n d : UInt32}
    (hn : n ≠ 0) : (t.erase cls client).lookup cls n = some d ↔
      client ≠ n ∧ t.lookup cls n = some d := by
  rw [lookup_erase]
  by_cases hc : client = n <;> simp [hc, hn]

theorem mem_takeAll (t : NameTable) (cls : ObjectClass) (client : List UInt32) {d : UInt32}
    (hd : d ≠ 0) : d ∈ (t.takeAll cls client).1 ↔
      ∃ n ∈ client, n ≠ 0 ∧ t.lookup cls n = some d := by
  induction client generalizing t with
  | nil => simp [takeAll]
  | cons client rest ih =>
    show d ∈ _ :: ((t.erase cls client).takeAll cls rest).1 ↔ _
    rw [List.mem_cons, eq_behind_iff t cls client hd, ih]
    constructor
    · rintro (⟨h0, h⟩ | ⟨n, hn, h0, h⟩)
      · exact ⟨client, List.mem_cons_self, h0, h⟩
      · exact ⟨n, List.mem_cons_of_mem _ hn, h0, ((lookup_erase_eq_some t cls h0).mp h).2⟩
    · rintro ⟨n, hn, h0, h⟩
      by_cases hc : client = n
      · exact .inl ⟨hc ▸ h0, hc ▸ h⟩
      · rcases List.mem_cons.mp hn with rfl | hn
        · exact absurd rfl hc
        · exact .inr ⟨n, hn, h0, (lookup_erase_eq_some t cls h0).mpr ⟨hc, h⟩⟩

/-- However often a client name is listed, what stands behind it is taken out once. -/
theorem nodup_takeAll {t : NameTable} {cls : ObjectClass}
    (hinj : ∀ n m d, n ≠ 0 → m ≠ 0 → t.lookup cls n = some d → t.lookup cls m = some d → n = m)
    (client : List UInt32) : ((t.takeAll cls client).1.filter (· ≠ 0)).Nodup := by
  induction client generalizing t with
  | nil => exact List.nodup_nil
  | cons client rest ih =>
    have htail : (((t.erase cls client).takeAll cls rest).1.filter (· ≠ 0)).Nodup := by
      refine ih fun n m d hn hm h h' => ?_
      exact hinj n m d hn hm ((lookup_erase_eq_some t cls hn).mp h).2
        ((lookup_erase_eq_some t cls hm).mp h').2
    show (List.filter _ (_ :: ((t.erase cls client).takeAll cls rest).1)).Nodup
    generalize hhead : (if client = 0 then 0 else (t.map.lookup (cls, client)).getD 0) = d
    by_cases hd : d = 0
    · simpa [hd] using htail
    · rw [List.filter_cons_of_pos (by simpa using hd), List.nodup_cons]
      refine ⟨fun hmem => ?_, htail⟩
      obtain ⟨h0, h⟩ := (eq_behind_iff t cls client hd).mp hhead.symm
      obtain ⟨n, -, hn, h'⟩ := (mem_takeAll _ cls rest hd).mp (List.mem_filter.mp hmem).1
      obtain ⟨hne, h'⟩ := (lookup_erase_eq_some t cls hn).mp h'
      exact hne (hinj client n d h0 hn h h')

/-! Zero -/

def ZeroFree (t : NameTable) : Prop := ∀ cls, t.map.lookup (cls, 0) = none

theorem ZeroFree.insert {t : NameTable} (h : t.ZeroFree) (cls : ObjectClass) (n d : UInt32) :
    (t.insert cls n d).ZeroFree := by
  intro c
  by_cases hn : n = 0
  · rw [NameTable.insert, if_pos hn]
    exact h c
  · simp [NameTable.insert, hn, NameMap.lookup_insert, h c]

theorem ZeroFree.insertAll {t : NameTable} (h : t.ZeroFree) (cls : ObjectClass)
    (client driver : List UInt32) : (t.insertAll cls client driver).ZeroFree := by
  induction client generalizing t driver with
  | nil => exact h
  | cons n client ih =>
    cases driver with
    | nil => exact h
    | cons d driver => exact ih (h.insert cls n d) driver

theorem ZeroFree.takeAll {t : NameTable} (h : t.ZeroFree) (cls : ObjectClass)
    (client : List UInt32) : (t.takeAll cls client).2.ZeroFree := by
  induction client generalizing t with
  | nil => exact h
  | cons n client ih =>
    have herase : (t.erase cls n).ZeroFree := by
      intro c
      simp [erase, NameMap.lookup_erase, h c]
    exact ih herase

/-- Where nothing is kept for zero, what is kept for a name is what stands behind it. -/
theorem ZeroFree.stored_iff {t : NameTable} (h : t.ZeroFree) (cls : ObjectClass) (n d : UInt32) :
    t.map.lookup (cls, n) = some d ↔ n ≠ 0 ∧ t.lookup cls n = some d := by
  by_cases hn : n = 0
  · simp [hn, h cls]
  · simp [lookup, hn]

/-! Live names -/

/-- The names in the table, against those that the driver has given out and those
that it was told to delete. -/
structure Sound (t : NameTable) (given deleted : ObjectClass → List UInt32) : Prop where
  made : ∀ cls n d, n ≠ 0 → t.lookup cls n = some d → d ∈ given cls
  injective : ∀ cls n m d, n ≠ 0 → m ≠ 0 → t.lookup cls n = some d → t.lookup cls m = some d → n = m
  live : ∀ cls n d, n ≠ 0 → t.lookup cls n = some d → d ∉ deleted cls
  unmade : ∀ cls d, d ≠ 0 → d ∈ deleted cls → d ∈ given cls

theorem empty_sound : ({} : NameTable).Sound (fun _ => []) fun _ => [] := by
  have hnone : ∀ cls n d, n ≠ 0 → ({} : NameTable).lookup cls n = some d → False := by
    intro cls n d hn h
    rw [lookup, if_neg hn] at h
    cases h
  exact ⟨fun cls n d hn h => (hnone cls n d hn h).elim,
    fun cls n _ d hn _ h => (hnone cls n d hn h).elim,
    fun cls n d hn h => (hnone cls n d hn h).elim, fun _ _ _ h => by cases h⟩

/-- Whether an object is the one behind a client name, or was one and is deleted. -/
def Agrees (t : NameTable) (deleted : ObjectClass → List UInt32) (cls : ObjectClass)
    (n d : UInt32) : Prop :=
  t.lookup cls n = some d ∨ d ≠ 0 ∧ d ∈ deleted cls

variable {t : NameTable} {given deleted given' deleted' : ObjectClass → List UInt32}

/-- An object that agrees is the one behind the name exactly if it is not deleted. -/
theorem Sound.lookup_iff (hs : t.Sound given deleted) {cls : ObjectClass} {n d : UInt32}
    (ha : t.Agrees deleted cls n d) :
    t.lookup cls n = some d ↔ ¬ (d ≠ 0 ∧ d ∈ deleted cls) := by
  constructor
  · rintro h ⟨hd, hdel⟩
    by_cases hn : n = 0
    · subst hn
      exact hd (Option.some.inj h).symm
    · exact hs.live cls n d hn h hdel
  · exact fun h => ha.resolve_right h

section

variable {cls : ObjectClass} {client driver : List UInt32}

theorem Sound.mono (hs : t.Sound given deleted) (hgrow : ∀ c d, d ∈ given c → d ∈ given' c) :
    t.Sound given' deleted :=
  ⟨fun c n d hn h => hgrow c d (hs.made c n d hn h), hs.injective, hs.live,
    fun c d hd hdel => hgrow c d (hs.unmade c d hd hdel)⟩

/-- The driver gives out a new name. What stood behind the client name before, if anything,
stands behind none then. -/
theorem Sound.insert (hs : t.Sound given deleted) {n d : UInt32} (hnew : d ∉ given cls)
    (hdead : d ∉ deleted cls) (hgiven : ∀ c, given' c = given c ++ if cls = c then [d] else []) :
    (t.insert cls n d).Sound given' deleted := by
  have hgrow : ∀ c e, e ∈ given c → e ∈ given' c := by
    intro c e he
    rw [hgiven]
    exact List.mem_append_left _ he
  have hcases : ∀ {c m e}, (t.insert cls n d).lookup c m = some e →
      (cls = c ∧ n = m ∧ d = e) ∨ t.lookup c m = some e := by
    intro c m e h
    rw [lookup_insert] at h
    split at h
    · next hc => exact .inl ⟨hc.2.1, hc.2.2, Option.some.inj h⟩
    · exact .inr h
  constructor
  case made =>
    intro c m e hm h
    rcases hcases h with ⟨rfl, -, rfl⟩ | h
    · rw [hgiven, if_pos rfl]
      exact List.mem_append_right _ (List.mem_singleton_self d)
    · exact hgrow c e (hs.made c m e hm h)
  case injective =>
    intro c m m' e hm hm' h h'
    rcases hcases h with ⟨rfl, rfl, rfl⟩ | h <;> rcases hcases h' with ⟨hc, rfl, he⟩ | h'
    · rfl
    · exact absurd (hs.made cls m' d hm' h') hnew
    · subst hc he
      exact absurd (hs.made cls m d hm h) hnew
    · exact hs.injective c m m' e hm hm' h h'
  case live =>
    intro c m e hm h
    rcases hcases h with ⟨rfl, -, rfl⟩ | h
    · exact hdead
    · exact hs.live c m e hm h
  case unmade => exact fun c e he hdel => hgrow c e (hs.unmade c e he hdel)

/-- The driver gives out new names, whatever client names they are for. -/
theorem Sound.insertAll (hs : t.Sound given deleted)
    (hgiven : ∀ c, given' c = given c ++ if cls = c then driver else [])
    (hfresh : (given' cls).Nodup) (h0 : 0 ∈ driver → 0 ∉ deleted cls) :
    (t.insertAll cls client driver).Sound given' deleted := by
  induction client generalizing t driver given with
  | nil =>
    refine hs.mono fun c d hd => ?_
    rw [hgiven]
    exact List.mem_append_left _ hd
  | cons n client ih =>
    cases driver with
    | nil =>
      refine hs.mono fun c d hd => ?_
      rw [hgiven]
      exact List.mem_append_left _ hd
    | cons d driver =>
      have hmade : given' cls = given cls ++ d :: driver := by rw [hgiven, if_pos rfl]
      have hnew : d ∉ given cls := by
        rw [hmade, List.nodup_append] at hfresh
        exact fun hd => hfresh.2.2 d hd d List.mem_cons_self rfl
      have hdead : d ∉ deleted cls := by
        by_cases hd : d = 0
        · subst hd
          exact h0 List.mem_cons_self
        · exact fun hdel => hnew (hs.unmade cls d hd hdel)
      refine ih (hs.insert hnew hdead fun c => rfl) (fun c => ?_) fun h => h0 (.tail _ h)
      rw [hgiven]
      split <;> simp

/-- What stood behind a name before stands behind it still. -/
theorem Agrees.insertAll (hnone : ∀ n ∈ client, t.lookup cls n = none) {c : ObjectClass}
    {n d : UInt32} (ha : t.Agrees deleted c n d) :
    (t.insertAll cls client driver).Agrees deleted c n d := by
  refine ha.imp_left fun h => ?_
  rw [lookup_insertAll_of_not_mem]
  · exact h
  · rintro ⟨rfl, hmem⟩
    rw [hnone n hmem] at h
    cases h

/-- Names are taken out, and the driver is told to delete what stood behind them. -/
theorem Sound.takeAll (hs : t.Sound given deleted) (h0 : 0 ∈ given cls → 0 ∉ deleted' cls)
    (hdel : ∀ c, ∀ d ∈ deleted' c, d ∈ deleted c ∨ cls = c ∧ d ∈ (t.takeAll cls client).1) :
    (t.takeAll cls client).2.Sound given deleted' := by
  have hbefore : ∀ c n d, (t.takeAll cls client).2.lookup c n = some d → n ≠ 0 →
      t.lookup c n = some d ∧ ¬ (cls = c ∧ n ∈ client) := by
    intro c n d h hne
    rw [lookup_takeAll] at h
    split at h
    · cases h
    · next hkeep => exact ⟨h, fun hmem => hkeep ⟨hmem.1, hmem.2, hne⟩⟩
  constructor
  case made => exact fun c n d hne h => hs.made c n d hne (hbefore c n d h hne).1
  case injective =>
    exact fun c n m d hne hne' h h' =>
      hs.injective c n m d hne hne' (hbefore c n d h hne).1 (hbefore c m d h' hne').1
  case live =>
    intro c n d hne h hmem
    obtain ⟨h, hkeep⟩ := hbefore c n d h hne
    rcases hdel c d hmem with hold | ⟨rfl, htaken⟩
    · exact hs.live c n d hne h hold
    · have hd : d ≠ 0 := by
        rintro rfl
        exact h0 (hs.made cls n 0 hne h) hmem
      obtain ⟨m, hm, hm0, h'⟩ := (mem_takeAll t cls client hd).mp htaken
      exact hkeep ⟨rfl, hs.injective cls n m d hne hm0 h h' ▸ hm⟩
  case unmade =>
    intro c d hd hmem
    rcases hdel c d hmem with hold | ⟨rfl, htaken⟩
    · exact hs.unmade c d hd hold
    · obtain ⟨n, -, hn0, h⟩ := (mem_takeAll t cls client hd).mp htaken
      exact hs.made cls n d hn0 h

theorem Agrees.takeAll (hs : t.Sound given deleted) (h0 : 0 ∉ given cls)
    (hdel : ∀ c, deleted' c = deleted c ++ if cls = c then (t.takeAll cls client).1 else [])
    {c : ObjectClass} {n d : UInt32} (ha : t.Agrees deleted c n d) :
    (t.takeAll cls client).2.Agrees deleted' c n d := by
  unfold Agrees
  rw [lookup_takeAll, hdel]
  rcases ha with h | ⟨hd, hmem⟩
  · split
    · next hgone =>
      obtain ⟨rfl, hmem, hne⟩ := hgone
      have hd : d ≠ 0 := by
        rintro rfl
        exact h0 (hs.made cls n 0 hne h)
      rw [if_pos rfl]
      exact .inr ⟨hd, List.mem_append_right _ ((mem_takeAll t cls client hd).mpr ⟨n, hmem, hne, h⟩)⟩
    · exact .inl h
  · exact .inr ⟨hd, List.mem_append_left _ hmem⟩

/-- Who deletes names forgets them, and is left without the objects behind them. -/
theorem Agrees.forget (hs : t.Sound given deleted) (h0 : 0 ∉ given cls)
    (hdel : ∀ c, deleted' c = deleted c ++ if cls = c then (t.takeAll cls client).1 else [])
    {n d : UInt32} (ha : t.Agrees deleted cls n d) :
    (t.takeAll cls client).2.Agrees deleted' cls (if n ∈ client.filter (· ≠ 0) then 0 else n)
      (if d ∈ (t.takeAll cls client).1 then 0 else d) := by
  have hlookup := hs.lookup_iff ha
  have hafter : (t.takeAll cls client).2.Agrees deleted' cls n d := ha.takeAll hs h0 hdel
  by_cases hd : d = 0
  · -- Nothing is bound, or an object that is deleted: then nothing is forgotten.
    subst hd
    have hn : n = 0 := Decidable.byContradiction fun hn =>
      h0 (hs.made cls n 0 hn (hlookup.mpr fun h => h.1 rfl))
    subst hn
    simpa using hafter
  · by_cases hmem : d ∈ (t.takeAll cls client).1
    · obtain ⟨m, hm, hm0, h⟩ := (mem_takeAll t cls client hd).mp hmem
      have hlive : ¬ (d ≠ 0 ∧ d ∈ deleted cls) := fun hdead => hs.live cls m d hm0 h hdead.2
      have hn0 : n ≠ 0 := by
        rintro rfl
        exact hd (Option.some.inj (hlookup.mpr hlive)).symm
      have hn : n = m := hs.injective cls n m d hn0 hm0 (hlookup.mpr hlive) h
      have hforgot : n ∈ client.filter (· ≠ 0) := by simpa [hn] using ⟨hm, hm0⟩
      rw [if_pos hmem, if_pos hforgot]
      exact .inl rfl
    · rw [if_neg hmem]
      split
      · next hforgot =>
        rw [List.mem_filter] at hforgot
        have hn0 : n ≠ 0 := by simpa using hforgot.2
        have hdead : d ≠ 0 ∧ d ∈ deleted cls := Decidable.byContradiction fun hlive =>
          hmem ((mem_takeAll t cls client hd).mpr ⟨n, hforgot.1, hn0, hlookup.mpr hlive⟩)
        refine .inr ⟨hd, ?_⟩
        rw [hdel]
        exact List.mem_append_left _ hdead.2
      · exact hafter

end

end RenderRelay.NameTable
