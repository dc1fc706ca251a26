/-
**WHAT EVERY STORE OF A SCHEDULE APPLY HAS IN COMMON.**

A stop can leave the store anywhere between two writes. What the next run relies on is a property
of the store alone (`Inv`): mapping rows carry the ids derived from their keys, a confirmed pair is
linked, created and planned, a derived scene-shoot stream is empty or holds the one planning event,
a pair's claim is free or held by the pair's own scene shoot, and nothing else was planned.

Each kind of write keeps it (`Inv.setDayRow` … `Inv.setShoot`), and so do the two protocols:

- `wp_resolveDay`: a day is always resolved, to the id derived from its key;
- `wp_planPair`: a pair is planned and confirmed exactly when the order fits and the scene is
  alive at the version the worker passes; otherwise the run fails.
-/
import Breakdown.Ai.ScheduleApply
import Mathlib.Data.Nat.Digits.Defs

namespace Breakdown.Ai

open EventLog Stepwise Reservations List Function Entity MappingTable

/-! ## §1. Sort keys and versions -/

theorem toList_toString_isLexical (n : Nat) : (toString n).toList.all isLexical := by
  have hdigit : ∀ c : Char, c.isDigit = true → isLexical c = true := by
    intro c hc
    simp only [Char.isDigit, Bool.and_eq_true, decide_eq_true_eq] at hc
    simp only [isLexical, Bool.and_eq_true, decide_eq_true_eq, Char.le_def]
    exact ⟨UInt32.le_trans (by decide) hc.1, UInt32.le_trans hc.2 (by decide)⟩
  rw [all_eq_true]
  intro c hc
  rw [Nat.toString_eq_repr, Nat.repr, String.toList_ofList] at hc
  exact hdigit c (Nat.isDigit_of_mem_toDigits (by decide) (by decide) hc)

theorem length_toString_le (h : n ≤ u32Max) : (toString n).toList.length ≤ 10 := by
  rw [Nat.toString_eq_repr, Nat.repr, String.toList_ofList]
  refine Nat.toDigits_length 10 n 10 (by decide) ?_
  unfold u32Max at h
  omega

/-- A 32-bit order is a sort key. -/
theorem sortKey_zeroPadded (h : order ≤ u32Max) :
    sortKey (zeroPadded order) = .ok ⟨zeroPadded order⟩ := by
  have hchars : (zeroPadded order).toList =
      replicate (8 - (toString order).length) '0' ++ (toString order).toList := by
    simp [zeroPadded]
  have hlen := length_toString_le h
  rw [sortKey, LexicalSortKey.new_ok]
  · rw [hchars]
    simp
  · rw [hchars, length_append, length_replicate]
    omega
  · rw [hchars, all_append, toList_toString_isLexical, all_replicate]
    simp
    exact Or.inr (by decide)

/-- So is the order key of a created day. -/
theorem sortKey_day (id : Uuid) :
    sortKey ("day-" ++ id.toDisplay) = .ok ⟨"day-" ++ id.toDisplay⟩ := by
  have hchars : ("day-" ++ id.toDisplay).toList = ['d', 'a', 'y', '-'] ++ id.toDisplay.toList := by
    simp
  rw [sortKey, LexicalSortKey.new_ok]
  · rw [hchars]
    simp
  · rw [hchars, length_append, Uuid.length_toDisplay]
    decide
  · rw [hchars, all_append, Uuid.toDisplay_isLexical]
    decide

/-! ## §2. Pairs -/

/-- A (scene, day) pair. -/
abbrev ScenePair := Uuid × ShootingDayId

section Pairs

variable (env : ApplyEnv) (req : ScheduleApplyRequest)

/-- The day of a row. -/
def rowDayId (item : ScheduledRow) : ShootingDayId :=
  ⟨env.deriveId (dayKey req.previewId (dayRef env item.1 item.2))⟩

/-- The pair of a row. -/
def rowPair (item : ScheduledRow) : ScenePair := (item.1.id, rowDayId env req item)

/-- The pairs of the preview. -/
def pairs : List ScenePair := req.preview.rows.map (rowPair env req)

/-- The scene shoot of a pair. -/
def shootId (p : ScenePair) : SceneShootId := ⟨env.deriveId (pairKey req.previewId p.1 p.2)⟩

/-- The claim of a pair. -/
def claimKey (p : ScenePair) : String := sceneShootPairKey env.pairHash p.1 p.2.uuid

/-- The digests tell the pairs of the preview apart. -/
structure CollisionFree : Prop where
  shootId_inj : ∀ p ∈ pairs env req, ∀ q ∈ pairs env req,
    shootId env req p = shootId env req q → p = q
  claimKey_inj : ∀ p ∈ pairs env req, ∀ q ∈ pairs env req, claimKey env p = claimKey env q → p = q

end Pairs

/-! ## §3. The invariant -/

/-- The stream numbers its events: the scene's version is the stream's. -/
def Numbered (log : List SceneEvent) : Prop :=
  (Entity.replay SceneAggregate log).version = log.length

/-- The scene lists the day. -/
def Linked (s : Store) (p : ScenePair) : Prop :=
  p.2 ∈ (Entity.replay SceneAggregate (s.scenes p.1)).shootingDayIds

/-- The scene shoot of the pair is planned, and nothing else happened to it. -/
def Planned (env : ApplyEnv) (req : ScheduleApplyRequest) (s : Store) (p : ScenePair) : Prop :=
  ∃ order, s.shoots (shootId env req p) =
    [.sceneShootPlanned (shootId env req p) p.1 p.2 order .planned .initial]

/-- Everything an apply has to do for a pair is done. -/
structure Settled (env : ApplyEnv) (req : ScheduleApplyRequest) (s : Store) (p : ScenePair) :
    Prop where
  linked : Linked s p
  created : s.days p.2 ≠ []
  planned : Planned env req s p

theorem Settled.of_eq (h : Settled env req s p) (hscenes : t.scenes = s.scenes)
    (hdays : t.days = s.days) (hshoots : t.shoots = s.shoots) : Settled env req t p where
  linked := by
    unfold Linked
    rw [hscenes]
    exact h.linked
  created := by
    rw [hdays]
    exact h.created
  planned := by
    unfold Planned
    rw [hshoots]
    exact h.planned

/-- The mapping table says that the pair is done. -/
def PairConfirmed (req : ScheduleApplyRequest) (s : Store) (p : ScenePair) : Prop :=
  s.mappings.Confirmed (pairKey req.previewId p.1 p.2)

instance (req : ScheduleApplyRequest) (s : Store) (p : ScenePair) :
    Decidable (PairConfirmed req s p) :=
  inferInstanceAs (Decidable (MappingTable.Confirmed _ _))

/-- **THE INVARIANT** of every store between `initial` and the end of a run. -/
structure Inv (env : ApplyEnv) (req : ScheduleApplyRequest) (initial s : Store) : Prop where
  /-- A day row carries the derived id; a confirmed one names a day that exists. -/
  dayRows : ∀ ref row, s.mappings (dayKey req.previewId ref) = some row →
    row.aggregateId = env.deriveId (dayKey req.previewId ref) ∧
      (row.isReserved = false → s.days ⟨row.aggregateId⟩ ≠ [])
  /-- A pair row carries the derived id; a confirmed one is settled. -/
  pairRows : ∀ p ∈ pairs env req, ∀ row, s.mappings (pairKey req.previewId p.1 p.2) = some row →
      row.aggregateId = env.deriveId (pairKey req.previewId p.1 p.2) ∧
        (row.isReserved = false → Settled env req s p)
  /-- The scene shoot of a pair is planned or not there yet. -/
  shoots : ∀ p ∈ pairs env req, s.shoots (shootId env req p) = [] ∨ Planned env req s p
  /-- The claim of a pair is its own scene shoot's or not there yet. -/
  claims : ∀ p ∈ pairs env req, s.claims (claimKey env p) = [] ∨
    ∃ time, s.claims (claimKey env p) = [⟨.reserved (shootId env req p).uuid, time⟩]
  /-- Every other scene shoot is as it was. -/
  others : ∀ id, (∀ p ∈ pairs env req, id ≠ shootId env req p) → s.shoots id = initial.shoots id
  /-- The scenes number their events. -/
  scenes : ∀ p ∈ pairs env req, Numbered (s.scenes p.1)

section Writes

variable {env : ApplyEnv} {req : ScheduleApplyRequest} {initial s : Store}

theorem pairKey_ne_dayKey (previewId) (p : ScenePair) (ref) :
    pairKey previewId p.1 p.2 ≠ dayKey previewId ref := by
  intro h
  cases congrArg MappingKey.aggregateKind h

/-- Equal pair keys derive equal ids. -/
theorem CollisionFree.pairKey_inj (hfree : CollisionFree env req) (hp : p ∈ pairs env req)
    (hq : q ∈ pairs env req) (h : pairKey req.previewId p.1 p.2 = pairKey req.previewId q.1 q.2) : p = q :=
  hfree.shootId_inj p hp q hq (by rw [shootId, shootId, h])

theorem reserved_of_not_confirmed {table : MappingTable} {key id row} (hopen : ¬ table.Confirmed key)
    (hrow : table key = some row) (hid : row.aggregateId = id) : row = ⟨id, 0⟩ := by
  have hreserved : row.isReserved = true := by
    by_contra hconfirmed
    exact hopen ⟨row, hrow, by simpa using hconfirmed⟩
  obtain ⟨_, version⟩ := row
  obtain rfl : version = 0 := by simpa [MappingRow.isReserved] using hreserved
  rw [← hid]

section

variable (h : Inv env req initial s)
include h

/-- A write to the row of a day. -/
theorem Inv.setDayRow (ref) (version : AggregateVersion)
    (hcreated : version ≠ 0 → s.days ⟨env.deriveId (dayKey req.previewId ref)⟩ ≠ []) :
    Inv env req initial { s with
      mappings := update s.mappings (dayKey req.previewId ref)
        (some ⟨env.deriveId (dayKey req.previewId ref), version⟩) } := { h with
  dayRows ref' mapping hmapping := by
    by_cases hkey : dayKey req.previewId ref' = dayKey req.previewId ref
    · simp only [hkey, update_self] at hmapping ⊢
      cases hmapping
      exact ⟨rfl, fun hconfirmed => hcreated (by simpa [MappingRow.isReserved] using hconfirmed)⟩
    · simp only [update_of_ne hkey] at hmapping
      exact h.dayRows ref' mapping hmapping
  pairRows p hp mapping hmapping := by
    simp only [update_of_ne (pairKey_ne_dayKey req.previewId p ref)] at hmapping
    obtain ⟨hid, hdone⟩ := h.pairRows p hp mapping hmapping
    exact ⟨hid, fun hm => (hdone hm).of_eq rfl rfl rfl⟩ }

/-- A write to the row of a pair. -/
theorem Inv.setPairRow (hfree : CollisionFree env req) (hp : p ∈ pairs env req) (version)
    (hsettled : version ≠ 0 → Settled env req s p) : Inv env req initial { s with
      mappings := update s.mappings (pairKey req.previewId p.1 p.2)
        (some ⟨env.deriveId (pairKey req.previewId p.1 p.2), version⟩) } := { h with
  dayRows ref mapping hmapping := by
    simp only [update_of_ne (pairKey_ne_dayKey req.previewId p ref).symm] at hmapping
    exact h.dayRows ref mapping hmapping
  pairRows q hq mapping hmapping := by
    by_cases hqp : q = p
    · subst hqp
      simp only [update_self] at hmapping
      cases hmapping
      exact ⟨rfl, fun hconfirmed => (hsettled (by
        simpa [MappingRow.isReserved] using hconfirmed)).of_eq rfl rfl rfl⟩
    · have hne : pairKey req.previewId q.1 q.2 ≠ pairKey req.previewId p.1 p.2 :=
        fun heq => hqp (hfree.pairKey_inj hq hp heq)
      simp only [update_of_ne hne] at hmapping
      obtain ⟨hid, hdone⟩ := h.pairRows q hq mapping hmapping
      exact ⟨hid, fun hm => (hdone hm).of_eq rfl rfl rfl⟩ }

/-- Days are only created. -/
theorem Inv.setDays (hgrow : ∀ id, s.days id ≠ [] → days id ≠ []) :
    Inv env req initial { s with days } := { h with
  dayRows ref mapping hmapping := by
    obtain ⟨hid, hdone⟩ := h.dayRows ref mapping hmapping
    exact ⟨hid, fun hm => hgrow _ (hdone hm)⟩
  pairRows p hp mapping hmapping := by
    obtain ⟨hid, hdone⟩ := h.pairRows p hp mapping hmapping
    exact ⟨hid, fun hm =>
      ⟨(hdone hm).linked, hgrow _ (hdone hm).created, (hdone hm).planned⟩⟩ }

/-- A scene only gains days. -/
theorem Inv.setScene (id) (hnumbered : Numbered (s.scenes id) → Numbered log)
    (hgrow : (replay SceneAggregate (s.scenes id)).shootingDayIds ⊆
      (replay SceneAggregate log).shootingDayIds) :
    Inv env req initial { s with scenes := update s.scenes id log } := { h with
  pairRows p hp mapping hmapping := by
    obtain ⟨hid, hdone⟩ := h.pairRows p hp mapping hmapping
    refine ⟨hid, fun hm => ⟨?_, (hdone hm).created, (hdone hm).planned⟩⟩
    have hlinked := (hdone hm).linked
    unfold Linked at hlinked ⊢
    by_cases hp1 : p.1 = id
    · simp only [hp1, update_self] at hlinked ⊢
      exact hgrow hlinked
    · simpa only [update_of_ne hp1] using hlinked
  scenes p hp := by
    by_cases hp1 : p.1 = id
    · have hnum := h.scenes p hp
      simp only [hp1, update_self] at hnum ⊢
      exact hnumbered hnum
    · simpa only [update_of_ne hp1] using h.scenes p hp }

/-- A pair is claimed for its own scene shoot. -/
theorem Inv.setClaim (hfree : CollisionFree env req) (hp : p ∈ pairs env req) (time) :
    Inv env req initial { s with
      claims := update s.claims (claimKey env p)
        [⟨.reserved (shootId env req p).uuid, time⟩] } := { h with
  pairRows q hq mapping hmapping := by
    obtain ⟨hid, hdone⟩ := h.pairRows q hq mapping hmapping
    exact ⟨hid, fun hm => (hdone hm).of_eq rfl rfl rfl⟩
  claims q hq := by
    by_cases hkey : claimKey env q = claimKey env p
    · obtain rfl := hfree.claimKey_inj q hq p hp hkey
      refine .inr ⟨time, ?_⟩
      simp
    · simp only [update_of_ne hkey]
      exact h.claims q hq }

/-- A pair's scene shoot is planned. -/
theorem Inv.setShoot (hfree : CollisionFree env req) (hp : p ∈ pairs env req) (order) :
    Inv env req initial { s with
      shoots := update s.shoots (shootId env req p)
        [.sceneShootPlanned (shootId env req p) p.1 p.2 order .planned .initial] } := by
  have hplanned : ∀ q ∈ pairs env req, Planned env req s q → Planned env req { s with
        shoots := update s.shoots (shootId env req p)
          [.sceneShootPlanned (shootId env req p) p.1 p.2 order .planned .initial] } q := by
    rintro q hq ⟨order', hq'⟩
    by_cases hid : shootId env req q = shootId env req p
    · obtain rfl := hfree.shootId_inj q hq p hp hid
      exact ⟨order, update_self ..⟩
    · exact ⟨order', by simp only [update_of_ne hid]; exact hq'⟩
  exact {
    dayRows := h.dayRows
    pairRows q hq mapping hmapping := by
      obtain ⟨hid, hdone⟩ := h.pairRows q hq mapping hmapping
      exact ⟨hid, fun hm =>
        ⟨(hdone hm).linked, (hdone hm).created, hplanned q hq (hdone hm).planned⟩⟩
    shoots q hq := by
      by_cases hid : shootId env req q = shootId env req p
      · obtain rfl := hfree.shootId_inj q hq p hp hid
        exact .inr ⟨order, update_self ..⟩
      · rcases h.shoots q hq with hnil | hq'
        · exact .inl (by simp only [update_of_ne hid]; exact hnil)
        · exact .inr (hplanned q hq hq')
    claims := h.claims
    others id hid := by
      simp only [update_of_ne (hid p hp)]
      exact h.others id hid
    scenes := h.scenes }

end

end Writes

/-! ## §4. Resolving a day -/

/-- What resolving a day leaves: the day with the derived id exists, scenes and pair rows are
untouched. -/
structure DayResolved (env : ApplyEnv) (req : ScheduleApplyRequest) (ref : String) (s t : Store)
    (day : AppliedDay) : Prop where
  id : day.id = ⟨env.deriveId (dayKey req.previewId ref)⟩
  created : t.days day.id ≠ []
  scenes : t.scenes = s.scenes
  pairRows : ∀ p : ScenePair, t.mappings (pairKey req.previewId p.1 p.2) =
    s.mappings (pairKey req.previewId p.1 p.2)
  days : ∀ id, s.days id ≠ [] → t.days id ≠ []

section Days

variable {env : ApplyEnv} {req : ScheduleApplyRequest} {initial s : Store}

theorem update_ne_nil {ι α : Type} [DecidableEq ι] {f} {i : ι} {xs : List α} (hxs : xs ≠ []) :
    ∀ j, f j ≠ [] → update f i xs j ≠ [] := by
  intro j hj
  by_cases hji : j = i
  · subst hji
    rwa [update_self]
  · rwa [update_of_ne hji]

section

variable (h : Inv env req initial s)
include h

/-- A day that is not confirmed is free or reserved with the derived id. -/
theorem Inv.dayRow_own (hopen : ¬ s.mappings.Confirmed (dayKey req.previewId ref)) :
    ∀ row, s.mappings (dayKey req.previewId ref) = some row →
      row = ⟨env.deriveId (dayKey req.previewId ref), 0⟩ := by
  intro row hrow
  obtain ⟨hid, -⟩ := h.dayRows ref row hrow
  exact reserved_of_not_confirmed hopen hrow hid

/-- Creating the day: appended now or by an earlier run. -/
theorem wp_createShootingDay (cmd : CreateShootingDay)
    {Q : Except DomainError AggregateVersion → Store → Prop}
    (hQ : ∀ version log, version ≠ 0 → log ≠ [] →
      Inv env req initial { s with days := update s.days cmd.id log } →
      Q (.ok version) { s with days := update s.days cmd.id log }) :
    wp (Inv env req initial) (mapResult recoverVersion (createShootingDay cmd)) Q s := by
  obtain ⟨hlog, version, hversion, hrecover⟩ := recoverVersion_create (σ := ShootingDayAggregate)
    (s.days cmd.id) (show isStateIdempotent _ (ShootingDayCommand.create cmd) = false from rfl)
    (show handle _ (ShootingDayCommand.create cmd) = .ok _ from rfl)
  have hne : (SoleWriter.create ShootingDayAggregate (.create cmd) (s.days cmd.id)).1 ≠ [] := by
    rw [hlog]
    split
    · simp
    · assumption
  have hinv := h.setDays (update_ne_nil (f := s.days) (i := cmd.id) hne)
  rw [wp_mapResult, createShootingDay, wp_atomic]
  refine ⟨hinv, ?_⟩
  rw [hrecover]
  exact hQ version _ hversion hne hinv

/-- Reserve, create, confirm: whatever an earlier run left of it, the day is there afterwards. -/
theorem wp_driveDay {draft : DayDraft} (hpreview : draft.previewId = req.previewId)
    (hopen : ¬ s.mappings.Confirmed (dayKey req.previewId draft.draftRef)) :
    wp (Inv env req initial) (driveDay env draft)
      (fun r t => ∃ day, r = .ok day ∧ DayResolved env req draft.draftRef s t day) s := by
  obtain ⟨previewId, ref, episodeId, label, date⟩ := draft
  obtain rfl : previewId = req.previewId := hpreview
  dsimp only at hopen
  simp only [driveDay, DayPorts.driveDay, applyPorts, wp_bind, wp_ofExcept, sortKey_day,
    reserveMapping, wp_atomic,
    reserve_own (h.dayRow_own hopen)]
  have hreserved := h.setDayRow ref 0 (absurd rfl)
  refine ⟨hreserved, wp_createShootingDay hreserved _ ?_⟩
  intro version log hversion hne hinv
  simp only [insertMapping, wp_atomic, wp_pure]
  have hinsert := insert_reserved s.mappings (dayKey req.previewId ref)
    (env.deriveId (dayKey req.previewId ref)) hversion
  dsimp only [AiImportMapping.reservation] at hinsert hinv ⊢
  rw [hinsert]
  have hcreated : update s.days (⟨env.deriveId (dayKey req.previewId ref)⟩ : ShootingDayId)
      log ⟨env.deriveId (dayKey req.previewId ref)⟩ ≠ [] := by
    rwa [update_self]
  have hconfirmed := hinv.setDayRow ref version (fun _ => hcreated)
  simp only [update_idem] at hconfirmed
  exact ⟨hconfirmed, _, rfl, {
    id := rfl
    created := hcreated
    scenes := rfl
    pairRows p := update_of_ne (pairKey_ne_dayKey req.previewId p ref) ..
    days := update_ne_nil hne }⟩

/-- **A DAY IS ALWAYS RESOLVED**, to the id derived from its key. -/
theorem wp_resolveDay (draft : DayDraft) (hpreview : draft.previewId = req.previewId) :
    wp (Inv env req initial) (resolveDay env draft)
      (fun r t => ∃ day, r = .ok day ∧ DayResolved env req draft.draftRef s t day) s := by
  simp only [resolveDay, DayPorts.resolveDay, applyPorts, wp_bind, findMapping, wp_read, hpreview]
  by_cases hopen : s.mappings.Confirmed (dayKey req.previewId draft.draftRef)
  · obtain ⟨row, hrow, hconfirmed⟩ := hopen
    obtain ⟨hid, hcreated⟩ := h.dayRows _ row hrow
    simp only [find, hrow, Option.map_some, Option.filter_some, hconfirmed, Bool.not_false, if_true, wp_pure]
    exact ⟨_, rfl, by rw [hid], hcreated hconfirmed, rfl, fun _ => rfl, fun _ hne => hne⟩
  · have hfilter : (s.mappings.find (dayKey req.previewId draft.draftRef)).filter (!·.isReserved) =
        none := by
      rw [Option.filter_eq_none_iff]
      intro mapping hmapping hconfirmed
      exact hopen (find_any_iff.mp (by rw [hmapping]; exact hconfirmed))
    simp only [hfilter]
    exact wp_driveDay h hpreview hopen

end

end Days

/-! ## §5. Linking a scene -/

/-- The scene is alive at the version the worker is about to pass. -/
structure SceneReady (s : Store) (sceneId : Uuid) (version : AggregateVersion) : Prop where
  current : version = (s.scenes sceneId).length
  exists_ : version ≠ 0
  alive : (Entity.replay SceneAggregate (s.scenes sceneId)).deleted = false

instance (s : Store) (sceneId : Uuid) (version : AggregateVersion) :
    Decidable (SceneReady s sceneId version) :=
  decidable_of_iff (version = (s.scenes sceneId).length ∧ version ≠ 0 ∧
      (Entity.replay SceneAggregate (s.scenes sceneId)).deleted = false)
    ⟨fun h => ⟨h.1, h.2.1, h.2.2⟩, fun h => ⟨h.1, h.2, h.3⟩⟩

section Link

variable {log : List SceneEvent} {version : AggregateVersion}

/-- Scheduling a scene that is not linked yet. -/
theorem handle_schedule {self : SceneAggregate} (cmd) (halive : self.deleted = false)
    (hversion : cmd.version = self.version) (hnew : cmd.shootingDayId ∉ self.shootingDayIds) :
    self.handle (.scheduleOnShootingDay cmd) =
      .ok [.shootingDayScheduled self.id cmd.shootingDayId self.version.next] := by
  simp [SceneAggregate.handle, SceneAggregate.scheduleOnShootingDay,
    SceneAggregate.checkNotDeleted, SceneAggregate.checkVersion, halive, hversion, hnew]

/-- A living scene is linked when the worker passes its version: by an event, or because it was
linked before. -/
theorem schedule_ready (hnumbered : Numbered log) (hcurrent : version = log.length)
    (hexists : version ≠ 0) (halive : (replay SceneAggregate log).deleted = false) (sceneId day) :
    ∃ log', SoleWriter.update SceneAggregate version
        (.scheduleOnShootingDay ⟨sceneId, day, version⟩) log = (log', .ok log'.length) ∧
      Numbered log' ∧ log'.length ≠ 0 ∧ day ∈ (replay SceneAggregate log').shootingDayIds ∧
      (replay SceneAggregate log).shootingDayIds ⊆ (replay SceneAggregate log').shootingDayIds ∧
      (replay SceneAggregate log').deleted = false := by
  by_cases hlinked : day ∈ (replay SceneAggregate log).shootingDayIds
  · have hidem : isStateIdempotent (replay SceneAggregate log)
        (SceneCommand.scheduleOnShootingDay ⟨sceneId, day, version⟩) = true := by
      simp [isStateIdempotent, SceneAggregate.isStateIdempotent, halive, hlinked]
    rw [SoleWriter.update_current hcurrent hexists, if_pos hidem]
    exact ⟨log, by rw [hcurrent], hnumbered, hcurrent ▸ hexists, hlinked, List.Subset.refl _, halive⟩
  · have hidem : isStateIdempotent (replay SceneAggregate log)
        (SceneCommand.scheduleOnShootingDay ⟨sceneId, day, version⟩) = false := by
      simp [isStateIdempotent, SceneAggregate.isStateIdempotent, hlinked]
    have hhandle := handle_schedule ⟨sceneId, day, version⟩ halive
      (hcurrent.trans hnumbered.symm) hlinked
    rw [SoleWriter.update_appends hcurrent hexists hidem hhandle]
    refine ⟨_, by rw [length_append]; rfl, ?_, by simp, ?_, ?_, ?_⟩
    · simp [Numbered, Entity.apply, SceneAggregate.apply, AggregateVersion.next,
        show (replay SceneAggregate log).version = log.length from hnumbered]
    · simp [Entity.apply, SceneAggregate.apply, hlinked]
    · simp [Entity.apply, SceneAggregate.apply, hlinked]
    · simpa [Entity.apply, SceneAggregate.apply] using halive

/-- Otherwise the stream stays as it is and the worker is refused. -/
theorem schedule_refused (log sceneId day) (hnot : ¬ (version = log.length ∧ version ≠ 0 ∧
      (replay SceneAggregate log).deleted = false)) : ∃ e, SoleWriter.update SceneAggregate version
      (.scheduleOnShootingDay ⟨sceneId, day, version⟩) log = (log, .error e) := by
  by_cases hstale : version ≠ log.length ∨ version = 0
  · obtain ⟨current, hupdate⟩ := SoleWriter.update_stale (σ := SceneAggregate)
      (.scheduleOnShootingDay ⟨sceneId, day, version⟩) hstale
    exact ⟨_, hupdate⟩
  · -- at its version, so the scene is deleted
    rw [not_or, not_not] at hstale
    have hdeleted : (replay SceneAggregate log).deleted = true := by
      by_contra halive
      exact hnot ⟨hstale.1, hstale.2, by simpa using halive⟩
    rw [SoleWriter.update_current hstale.1 hstale.2]
    simp [isStateIdempotent, SceneAggregate.isStateIdempotent, handle,
      SceneAggregate.handle, SceneAggregate.scheduleOnShootingDay, SceneAggregate.checkNotDeleted,
      hdeleted]

end Link

/-! ## §6. Planning a pair -/

section Plan

variable {env : ApplyEnv} {req : ScheduleApplyRequest} {initial s : Store}

variable {p : ScenePair} {row : ShootingScheduleRow}

section

variable (h : Inv env req initial s)
include h

/-- A pair that is not confirmed is free or reserved with the derived id. -/
theorem Inv.pairRow_own (hp : p ∈ pairs env req) (hopen : ¬ PairConfirmed req s p) :
    ∀ row, s.mappings (pairKey req.previewId p.1 p.2) = some row →
      row = ⟨env.deriveId (pairKey req.previewId p.1 p.2), 0⟩ := by
  intro row hrow
  obtain ⟨hid, -⟩ := h.pairRows p hp row hrow
  exact reserved_of_not_confirmed hopen hrow hid

/-- The pair's claim is granted: it is free, or an earlier run took it for the same scene shoot. -/
theorem wp_reserveClaim (hfree : CollisionFree env req) (hp : p ∈ pairs env req) (conflict)
    (hQ : ∀ claim claims, Inv env req initial { s with claims } → Q (.ok claim) { s with claims }) :
    wp (Inv env req initial)
      (reserveClaim env (claimKey env p) (shootId env req p).uuid conflict) Q s := by
  rw [reserveClaim, wp_atomic]
  rcases h.claims p hp with hnil | ⟨time, hown⟩
  · have hobstacle : claimObstacle (claimKey env p) (shootId env req p).uuid
        (s.claims (claimKey env p)) = .claimableAtFreshStream := by
      rw [hnil]
      rfl
    simp only [hobstacle]
    rw [hnil]
    exact ⟨h.setClaim hfree hp env.now, hQ _ _ (h.setClaim hfree hp env.now)⟩
  · have hobstacle : claimObstacle (claimKey env p) (shootId env req p).uuid
        (s.claims (claimKey env p)) =
          .ownedBySelf ⟨claimKey env p, (shootId env req p).uuid, 0⟩ := by
      rw [hown]
      exact if_pos rfl
    simp only [hobstacle]
    exact ⟨h, hQ _ s.claims h⟩

/-- Planning on the pair's own stream: the first run appends, a later one is told the version. -/
theorem wp_executePlan (hfree : CollisionFree env req)
    (hp : p ∈ pairs env req) (order) (hQ : ∀ reply shoots, (∀ e, reply ≠ .error (.handle e)) →
      recoverVersion (mapExecutedResult reply) = .ok 1 → Inv env req initial { s with shoots } →
      Planned env req { s with shoots } p → Q (.ok reply) { s with shoots }) :
    wp (Inv env req initial) (executePlan ⟨shootId env req p, p.1, p.2, order⟩) Q s := by
  rw [executePlan, wp_atomic]
  dsimp only
  rcases h.shoots p hp with hnil | ⟨order', hlog⟩
  · have hfresh : SoleWriter.executeOn SceneShootAggregate (s.shoots (shootId env req p)) .empty
        (.plan ⟨shootId env req p, p.1, p.2, order⟩) =
        ([.sceneShootPlanned (shootId env req p) p.1 p.2 order .planned .initial], .ok (.executed
            [(0, .sceneShootPlanned (shootId env req p) p.1 p.2 order .planned .initial)])) := by
      rw [hnil, SoleWriter.executeOn_eq]
      rfl
    have hinv := h.setShoot hfree hp order
    rw [hfresh]
    refine ⟨hinv, hQ _ _ (fun e => nofun) rfl hinv ⟨order, ?_⟩⟩
    simp
  · have htaken : SoleWriter.executeOn SceneShootAggregate (s.shoots (shootId env req p)) .empty
        (.plan ⟨shootId env req p, p.1, p.2, order⟩) =
        (s.shoots (shootId env req p), .error (.incorrectExpectedVersion (.current 0) .empty)) := by
      rw [hlog, SoleWriter.executeOn_eq]
      rfl
    rw [htaken, update_eq_self]
    exact ⟨h, hQ _ s.shoots (fun e => nofun) rfl h ⟨order', hlog⟩⟩

/-- **THE SCENE SHOOT OF A PAIR IS PLANNED**, whatever an earlier run left of it. -/
theorem wp_planSceneShoot (hfree : CollisionFree env req) (hp : p ∈ pairs env req) (order)
    (hQ : ∀ claims shoots, Inv env req initial { s with claims, shoots } →
      Planned env req { s with claims, shoots } p → Q (.ok 1) { s with claims, shoots }) :
    wp (Inv env req initial) (mapResult recoverVersion
      (planSceneShoot env ⟨shootId env req p, p.1, p.2, order⟩)) Q s := by
  simp only [wp_mapResult, planSceneShoot, wp_bind]
  refine wp_reserveClaim h hfree hp _ ?_
  intro claim claims hinv
  refine wp_executePlan hinv hfree hp order ?_
  intro reply shoots hreply hversion hinv' hplanned
  -- the create was not rejected, so the claim is kept
  have hkeep : compensateCreateClaim env claim reply = pure () := by
    unfold compensateCreateClaim
    split
    · next e => exact absurd rfl (hreply e)
    · rfl
  simp only [hkeep, wp_pure, wp_ofExcept, hversion]
  exact hQ claims shoots hinv' hplanned

end

/-- The fallback counter after a row. -/
def nextFallback (fallbackOrder : Nat) (row : ShootingScheduleRow) : Nat := match row.order with
  | some _ => fallbackOrder
  | none => fallbackOrder + 1

/-- There is an order for the row. -/
def OrderFits (fallbackOrder : Nat) (row : ShootingScheduleRow) : Prop :=
  nextFallback fallbackOrder row ≤ u32Max

theorem rowOrder_fits (h : OrderFits fallbackOrder row) :
    ∃ order ≤ u32Max, rowOrder fallbackOrder row = .ok (order, nextFallback fallbackOrder row) := by
  unfold OrderFits nextFallback at h
  unfold rowOrder nextFallback
  cases hrow : row.order with
  | some order => exact ⟨order.toNat, Nat.le_pred_of_lt order.toNat_lt, rfl⟩
  | none =>
    rw [hrow] at h
    exact ⟨fallbackOrder + 1, h, if_pos h⟩

theorem rowOrder_exhausted (hbound : fallbackOrder ≤ u32Max)
    (h : ¬ OrderFits fallbackOrder row) : ∃ e, rowOrder fallbackOrder row = .error e := by
  unfold OrderFits nextFallback at h
  unfold rowOrder
  cases hrow : row.order with
  | some =>
    rw [hrow] at h
    exact absurd hbound h
  | none =>
    rw [hrow] at h
    exact ⟨_, if_neg h⟩

/-- What planning a pair leaves behind. -/
structure PairPlanned (env : ApplyEnv) (req : ScheduleApplyRequest) (s t : Store)
    (locals locals' : ApplyLocals) (p : ScenePair) (row : ShootingScheduleRow) : Prop where
  confirmed : PairConfirmed req t p
  otherRows : ∀ q ∈ pairs env req, q ≠ p →
    t.mappings (pairKey req.previewId q.1 q.2) = s.mappings (pairKey req.previewId q.1 q.2)
  otherScenes : ∀ id, id ≠ p.1 → t.scenes id = s.scenes id
  ready : SceneReady t p.1 (t.scenes p.1).length
  versions : locals'.sceneVersions =
    Function.update locals.sceneVersions p.1 (some (t.scenes p.1).length)
  fallback : locals'.fallbackOrder = nextFallback locals.fallbackOrder row
  dayByKey : locals'.dayByKey = locals.dayByKey
  days : t.days = s.days

/-- **A PAIR IS PLANNED EXACTLY WHEN THE ORDER FITS AND THE SCENE IS READY**; otherwise the run
fails. -/
theorem wp_planPair (h : Inv env req initial s) (hfree : CollisionFree env req)
    (hp : (scene.id, day.id) ∈ pairs env req) (hcreated : s.days day.id ≠ [])
    (hopen : ¬ PairConfirmed req s (scene.id, day.id))
    (hversion : locals.sceneVersions scene.id = some version) (hbound : locals.fallbackOrder ≤ u32Max) :
    wp (Inv env req initial) (planPair env req locals scene row day) (fun r t => match r with
      | .ok locals' => (OrderFits locals.fallbackOrder row ∧ SceneReady s scene.id version) ∧
          PairPlanned env req s t locals locals' (scene.id, day.id) row
      | .error _ => ¬ (OrderFits locals.fallbackOrder row ∧ SceneReady s scene.id version)) s := by
  simp only [planPair, wp_bind, wp_ofExcept]
  by_cases hfits : OrderFits locals.fallbackOrder row
  · obtain ⟨order, horder, hrowOrder⟩ := rowOrder_fits hfits
    simp only [hrowOrder, sortKey_zeroPadded horder, hversion, reserveMapping, wp_atomic,
      reserve_own (h.pairRow_own hp hopen)]
    have hreserved := h.setPairRow hfree hp 0 (absurd rfl)
    refine ⟨hreserved, ?_⟩
    simp only [scheduleScene, wp_atomic]
    by_cases hready : SceneReady s scene.id version
    · obtain ⟨log, hupdate, hnumbered, hne, hlinked, hgrow, halive⟩ := schedule_ready
        (h.scenes _ hp) hready.current hready.exists_ hready.alive scene.id day.id
      have hscheduled := hreserved.setScene scene.id (fun _ => hnumbered) hgrow
      rw [hupdate]
      refine ⟨hscheduled, ?_⟩
      refine wp_planSceneShoot hscheduled hfree hp _ ?_
      intro claims shoots hinv hplanned
      have hinsert := insert_reserved s.mappings (pairKey req.previewId scene.id day.id)
        (env.deriveId (pairKey req.previewId scene.id day.id)) Nat.one_ne_zero
      simp only [insertMapping, wp_atomic, wp_pure]
      dsimp only [AiImportMapping.reservation] at hinsert hinv ⊢
      rw [hinsert]
      have hself : update s.scenes scene.id log scene.id = log := update_self ..
      have hconfirmed := hinv.setPairRow hfree hp 1 (fun _ =>
        ⟨by unfold Linked; simp only [update_self]; exact hlinked, hcreated, hplanned⟩)
      simp only [update_idem] at hconfirmed
      refine ⟨hconfirmed, ⟨hfits, hready⟩, ?_⟩
      exact {
        confirmed := confirmed_update _ _ _ Nat.one_ne_zero
        otherRows q hq hne := by
          have hkey : pairKey req.previewId q.1 q.2 ≠ pairKey req.previewId scene.id day.id :=
            fun heq => hne (hfree.pairKey_inj hq hp heq)
          simp only [update_of_ne hkey]
        otherScenes id hid := by
          simp only [update_of_ne hid]
        ready := by
          dsimp only
          rw [hself]
          exact ⟨congrArg length hself.symm, hne, by simp only [update_self]; exact halive⟩
        versions := by simp only [hself]
        fallback := rfl
        dayByKey := rfl
        days := rfl }
    · -- the worker is refused, and the reservation stays for the next run
      obtain ⟨e, hupdate⟩ := schedule_refused (s.scenes scene.id) scene.id day.id
        (fun hall => hready ⟨hall.1, hall.2.1, hall.2.2⟩)
      rw [hupdate, update_eq_self]
      exact ⟨hreserved, fun hboth => hready hboth.2⟩
  · obtain ⟨e, hexhausted⟩ := rowOrder_exhausted hbound hfits
    simp only [hexhausted]
    exact fun hready => hfits hready.1

end Plan

end Breakdown.Ai
