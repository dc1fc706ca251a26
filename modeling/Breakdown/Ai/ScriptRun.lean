/-
**THE SCRIPT APPLY KEEPS ITS INVARIANT.**

One lemma per function of the worker: it keeps `ScriptInv` among others, and if it succeeds it
leaves what the functions around it count on. Most leave nothing but the invariant; the two links
of a scene leave the link, and the caches of a run only grow (`ScriptLocals.Kept`).

- `grants_assignFigureToScene`, `grants_scheduleRowOnDay`: a link that was reported is there;
- `grants_rows`: the rows that were worked off are linked;
- `kept_applyScript`: a run keeps the invariant, whatever runs beside it.
-/
import Breakdown.Ai.ScriptWalk
import Mathlib.Data.List.Forall2

namespace Breakdown.Ai

open EventLog Stepwise List Function Entity

/-! ## §1. What the answers of a scene mean -/

/-- A command that never has nothing to do is answered with a version when it was appended. -/
theorem dispatchScene_ok (hseen : seen <+: log)
    (hidem : ∀ agg : SceneAggregate, agg.isStateIdempotent cmd = false)
    (hok : (dispatchScene cmd seen log).2 = .ok version) :
    version ≠ 0 ∧ (dispatchScene cmd seen log).1 ≠ [] := by
  unfold dispatchScene at hok ⊢
  cases hexpected : expectation SceneAggregate cmd with
  | error =>
    rw [hexpected] at hok
    cases hok
  | ok expected =>
    rw [hexpected] at hok
    have hfollows : (EntityActorState.load SceneAggregate seen).Follows log := ⟨seen, hseen, rfl⟩
    obtain ⟨events, hdecided, hlog, rfl⟩ := handleExecute_ok hidem hfollows hok
    have hpos : events.length ≠ 0 := fun h => hdecided.nonempty (length_eq_zero_iff.mp h)
    dsimp only
    rw [hlog]
    refine ⟨fun h => hpos (Nat.eq_zero_of_add_eq_zero_left h), fun h => ?_⟩
    exact hdecided.nonempty (append_eq_nil_iff.mp h).2

/-- A create leaves a stream, and answers with a version of it. -/
theorem createScene_ok (hseen : seen <+: log)
    (hok : createdNow (dispatchScene (.create c) seen log).2 = .ok outcome) :
    outcome.version ≠ 0 ∧ (dispatchScene (.create c) seen log).1 ≠ [] := by
  cases hreply : (dispatchScene (.create c) seen log).2 with
  | ok version =>
    rw [hreply] at hok
    cases hok
    exact dispatchScene_ok hseen (fun _ => rfl) hreply
  | error e =>
    rw [hreply] at hok
    cases e <;> simp only [createdNow, reduceCtorEq] at hok
    next expected current =>
    split at hok
    · next hcurrent =>
      cases hok
      refine ⟨hcurrent, (dispatchScene_grows hseen rfl).exists_ ?_⟩
      -- an actor of an empty stream has nothing to refuse the create with
      rintro rfl
      obtain rfl := prefix_nil.mp hseen
      cases hreply
    · cases hok

/-- A create on a scene that exists makes nothing. -/
theorem createScene_length (hseen : seen <+: log) (hne : log ≠ []) :
    ¬ log.length < (dispatchScene (.create c) seen log).1.length := by
  obtain hsame | ⟨expected, events, hexpected, hdecided, -⟩ := dispatchScene_cases hseen (.create c)
  · rw [hsame]
    exact Nat.lt_irrefl _
  · cases hexpected
    exact absurd (sceneGrows_create hdecided).1 hne

section Links

variable {seen log : List SceneEvent}

/-- An actor that has seen the whole scene decides an update as the only writer would. -/
theorem dispatchScene_update (log)
    (hupdate : Versioned.dispatching SceneAggregate cmd = .update version) :
    dispatchScene cmd log log = SoleWriter.update SceneAggregate version cmd log := by
  simp only [dispatchScene, expectation, hupdate]
  rfl

/-- **A LINKING COMMAND THAT MET ITS SCENE LINKS IT**; only version 0 and a deleted scene refuse
it. -/
theorem link_of_met (linked : SceneAggregate → Prop) (e : SceneAggregate → SceneEvent)
    (hupdate : Versioned.dispatching SceneAggregate cmd = .update version)
    (hidem : ∀ scene, ¬ linked scene → isStateIdempotent scene cmd = false)
    (hhandle : ∀ scene : SceneAggregate, ¬ linked scene → version = scene.version →
      handle scene cmd = if scene.deleted then .error (.deleted scene.id) else .ok [e scene])
    (happly : ∀ scene, ¬ linked scene → linked (scene.apply (e scene)))
    (hkeeps : linked (replay SceneAggregate log) →
      linked (replay SceneAggregate (dispatchScene cmd seen log).1))
    (hnumbered : log ≠ [] → Numbered log)
    (hmet : (seen = log ∧ version = log.length) ∨ linked (replay SceneAggregate log)) :
    linked (replay SceneAggregate (dispatchScene cmd seen log).1) ∨
      ∃ refusal, (dispatchScene cmd seen log).2 = .error refusal ∧
        (refusal = .versionConflict 0 0 ∨ ∃ id, refusal = .notFound .sceneNotFound "scene" id) := by
  by_cases hthere : linked (replay SceneAggregate log)
  · exact .inl (hkeeps hthere)
  obtain ⟨rfl, hversion⟩ := hmet.resolve_right hthere
  rw [dispatchScene_update seen hupdate]
  by_cases hzero : version = 0
  · subst hzero
    exact .inr ⟨_, rfl, .inl rfl⟩
  have hne : seen ≠ [] := by
    rintro rfl
    exact hzero hversion
  have hidem := hidem _ hthere
  have hcurrent := hhandle _ hthere (by rw [hversion, hnumbered hne])
  cases hdeleted : (replay SceneAggregate seen).deleted with
  | false =>
    rw [hdeleted] at hcurrent
    rw [SoleWriter.update_appends hversion hzero hidem hcurrent, replay_append]
    exact .inl (happly _ hthere)
  | true =>
    rw [hdeleted] at hcurrent
    rw [SoleWriter.update_current hversion hzero, hidem, hcurrent]
    exact .inr ⟨_, rfl, .inr ⟨_, rfl⟩⟩

/-- An assignment that met its scene and was taken for done is done. -/
theorem assigned_of_ok (hseen : seen <+: log) (hnumbered : log ≠ [] → Numbered log)
    (hmet : SceneDispatch.Met ⟨.assignCharacter c, seen, log, again⟩)
    (hok : assignedVersion c.version (dispatchScene (.assignCharacter c) seen log).2 = .ok version) :
    c.characterId ∈ (replay SceneAggregate
      (dispatchScene (.assignCharacter c) seen log).1).assignedCharacters := by
  refine (link_of_met (c.characterId ∈ ·.assignedCharacters)
    (fun scene => .characterAssigned scene.id c.characterId scene.version.next) rfl
    (fun _ _ => rfl) ?_ ?_ (fun h => (dispatchScene_grows hseen rfl).characters _ h) hnumbered
    hmet).resolve_right ?_
  · intro scene hthere hcurrent
    show SceneAggregate.assignCharacter _ c = _
    unfold SceneAggregate.assignCharacter SceneAggregate.checkNotDeleted SceneAggregate.checkVersion
    cases scene.deleted <;> simp [hcurrent, hthere]
  · intro scene hthere
    simp [SceneAggregate.apply, hthere]
  · rintro ⟨_, hrefused, rfl | ⟨id, rfl⟩⟩ <;>
      · rw [hrefused] at hok
        cases hok

/-- So is a day. -/
theorem scheduled_of_ok (hseen : seen <+: log) (hnumbered : log ≠ [] → Numbered log)
    (hmet : SceneDispatch.Met ⟨.scheduleOnShootingDay c, seen, log, again⟩)
    (hok : recoverVersion (dispatchScene (.scheduleOnShootingDay c) seen log).2 = .ok version) :
    c.shootingDayId ∈ (replay SceneAggregate
      (dispatchScene (.scheduleOnShootingDay c) seen log).1).shootingDayIds := by
  refine (link_of_met (c.shootingDayId ∈ ·.shootingDayIds)
    (fun scene => .shootingDayScheduled scene.id c.shootingDayId scene.version.next) rfl ?_ ?_ ?_
    (fun h => (dispatchScene_grows hseen rfl).days _ h) hnumbered hmet).resolve_right ?_
  · intro scene hthere
    show SceneAggregate.isStateIdempotent _ _ = false
    simp [SceneAggregate.isStateIdempotent, hthere]
  · intro scene hthere hcurrent
    show SceneAggregate.scheduleOnShootingDay _ c = _
    unfold SceneAggregate.scheduleOnShootingDay SceneAggregate.checkNotDeleted
      SceneAggregate.checkVersion
    cases scene.deleted <;> simp [hcurrent, hthere]
  · intro scene hthere
    simp [SceneAggregate.apply, hthere]
  · rintro ⟨_, hrefused, rfl | ⟨id, rfl⟩⟩ <;>
      · rw [hrefused] at hok
        cases hok

end Links

/-! ## §2. Beats and links -/

section Walk

variable {env : ScriptEnv} {req : ApplyScriptRequest} {m : AiImportMapping}

theorem kept_settleBeat (hbeat : m.key.aggregateKind.isBeat) (sceneVersion version attempt) :
    Kept env req (settleBeat m sceneVersion version attempt) := by
  have hconfirm : ∀ version, Kept env req (confirm m version) := by
    refine safe_confirm ?_ ?_ ?_
    · intro h
      rw [h] at hbeat
      cases hbeat
    · intro h
      rw [h] at hbeat
      cases hbeat
    · intro h
      rw [hbeat] at h
      cases h
  unfold settleBeat
  split
  · exact (hconfirm _).bind fun _ => Safe.pure _
  · exact (hconfirm _).bind fun _ => Safe.pure _
  · split
    · exact Safe.fail _
    · exact Safe.pure _

theorem beatAddress_isBeat (row outfit) : (beatAddress row outfit).kind.isBeat := by
  unfold beatAddress
  split <;> rfl

theorem kept_applyOutfitBeat (sceneId characterId) (hbeat : beat.kind.isBeat)
    (outfitId sceneVersion) :
    Kept env req (applyOutfitBeat req sceneId characterId beat outfitId sceneVersion) := by
  refine (Safe.ofExcept _).bind fun ordinal => ?_
  intro w
  refine wpiOk.bind (wpiOk_findOrReserve (by rfl) ?_) fun m t _ hrow => ?_
  · intro h
    rw [show MappingKey.aggregateKind ⟨req.previewId, beat.draftRef, beat.kind, ordinal⟩ =
      beat.kind from rfl, hbeat] at h
    cases h
  obtain ⟨hkey, -⟩ := hrow
  have hkind : m.key.aggregateKind.isBeat = true := by
    rw [hkey]
    exact hbeat
  have hsend : ∀ version, Kept env req (caught (sceneCommand (some m.key)
      (.addOutfitBeat ⟨sceneId, characterId, outfitId, none, version⟩))) :=
    fun version => (safe_addOutfitBeat hkind _).caught
  split
  · exact Safe.pure _ t
  · refine (hsend _).bind (fun attempt => ?_) t
    split
    · split
      · exact (hsend _).bind fun again => kept_settleBeat hkind _ _ again
      · exact Safe.pure _
    · exact kept_settleBeat hkind _ _ _

/-- **A LINK THAT WAS TAKEN FOR DONE IS THERE**, as long as the commands met their scenes. -/
theorem grants_link {f} (linked : SceneAggregate → Prop) (hkeeps : cmd.unlinks = false)
    (hlink : ∀ {seen log again} {version : AggregateVersion}, seen <+: log →
      (log ≠ [] → Numbered log) → SceneDispatch.Met ⟨cmd, seen, log, again⟩ →
      f (dispatchScene cmd seen log).2 = .ok version →
      linked (replay SceneAggregate (dispatchScene cmd seen log).1)) (w) :
    Grants env req (mapResult f (sceneCommand none cmd))
      (fun _ t => AllMet t → linked (replay SceneAggregate (t.base.scenes cmd.id))) w := by
  refine wpiOk_mapResult (wpi_sceneUpdate (Q := fun r t => ∀ reached, f r = .ok reached → AllMet t →
    linked (replay SceneAggregate (t.base.scenes cmd.id))) hkeeps ?_) ?_
  · intro t _ hI reached hok hmet
    have hmetBefore : AllMet t := fun d hd => hmet d (mem_cons_of_mem _ hd)
    show linked (replay SceneAggregate (actOn t.base.scenes cmd _ cmd.id))
    rw [actOn, update_self]
    exact hlink (t.seen_le _) ((hI.links hmetBefore).numbered cmd.id) (hmet _ mem_cons_self) hok
  · intro r reached t _ hr hok
    exact hr reached hok

theorem grants_assignFigureToScene (sceneId figureId version w) :
    Grants env req (assignFigureToScene sceneId figureId version)
      (fun _ t => AllMet t → figureId ∈ t.figuresOf sceneId) w :=
  grants_link (figureId ∈ ·.assignedCharacters) rfl assigned_of_ok w

theorem grants_scheduleScene (sceneId day version w) : Grants env req (mapResult recoverVersion
        (sceneCommand none (.scheduleOnShootingDay ⟨sceneId, day, version⟩)))
      (fun _ t => AllMet t → Linked t.base (sceneId, day)) w :=
  grants_link (day ∈ ·.shootingDayIds) rfl scheduled_of_ok w

/-- A pair that was worked off is linked. -/
theorem grants_linkPair (sceneId day sceneVersion plannedOrder w) :
    Grants env req (linkPair env req sceneId day sceneVersion plannedOrder)
      (fun _ t => AllMet t → Linked t.base (sceneId, day)) w := by
  unfold linkPair
  refine wpiOk.bind (wpiOk_reserveMapping (by rfl) fun _ => rfl) fun reservation t _ hrow => ?_
  have hid : reservation.aggregateId = env.deriveId (pairKey req.previewId sceneId day) := by
    rw [← hrow.1]
    exact hrow.2.id (by rw [hrow.1]; exact ⟨rfl, nofun⟩)
  refine (grants_scheduleScene sceneId day sceneVersion t).bind fun _ u _ hlinked => ?_
  refine (((kept_planShootFor rfl (by exact hid)).mapResult _) u).bind fun version v hlater _ => ?_
  refine (wpiOk_insertMapping ?_ ?_).mono fun _ x hx _ hmet => ?_
  · refine RowOk.of_id ?_ fun _ => ?_
    · show reservation.key.aggregateKind ≠ _
      rw [hrow.1]
      exact nofun
    · show reservation.aggregateId = env.deriveId reservation.key
      rw [hid, hrow.1]
  · intro p hkey hmet
    obtain rfl : (sceneId, day) = p := pairKey_inj (hrow.1.symm.trans hkey)
    exact hlater.days _ (hlinked (hlater.allMet hmet))
  · have hfrom : Later u x := hlater.trans hx
    exact hfrom.days _ (hlinked (hfrom.allMet hmet))

/-- **A DAY THAT WAS TAKEN FOR SCHEDULED IS SCHEDULED**, now or by an earlier run. -/
theorem grants_scheduleRowOnDay (sceneId day sceneVersion fallbackOrder w) :
    Grants env req (scheduleRowOnDay env req sceneId day sceneVersion fallbackOrder)
      (fun _ t => AllMet t → Linked t.base (sceneId, day)) w := by
  unfold scheduleRowOnDay
  refine wpiOk.bind (Safe.ofExcept _ _) fun order t _ _ => ?_
  refine wpiOk.bind (Safe.ofExcept _ _) fun plannedOrder t _ _ => ?_
  refine wpiOk.bind (Q := fun stored t => stored.any (!·.isReserved) = true →
    AllMet t → Linked t.base (sceneId, day)) ?_ fun stored t _ hstored => ?_
  · refine wpiOk_read (f := fun w : ScriptStore =>
    w.base.mappings.find (pairKey req.previewId sceneId day)) ?_
    intro u _ hI hconfirmed hmet
    exact (hI.links hmet).linked (sceneId, day) (MappingTable.find_any_iff.mp hconfirmed)
  split
  · next hconfirmed => exact wpiOk_pure.mpr (hstored hconfirmed)
  · refine (grants_linkPair sceneId day sceneVersion plannedOrder t).bind fun _ u _ hlinked => ?_
    exact wpiOk_pure.mpr hlinked

/-! ## §3. Scenes, figures, episodes and days -/

/-- A scene is only created under the id derived for its row. -/
theorem kept_createSceneReserved
    (hid : candidateId = env.deriveId ⟨req.previewId, draftRef, .scene, primaryOrdinal⟩)
    (episodeId details) :
    Kept env req (createSceneReserved req draftRef candidateId episodeId details) := by
  intro w
  unfold createSceneReserved
  refine wpiOk.bind (wpiOk_reserveMapping (by rfl) fun _ => hid) fun reservation t _ hrow => ?_
  obtain ⟨hkey, hrow⟩ := hrow
  have hkind : reservation.key.aggregateKind = .scene := by rw [hkey]
  refine wpiOk.bind (wpiOk_caught (wpi_sceneCommand (Q := fun r u => ∀ outcome,
    createdNow r = .ok outcome →
      outcome.version ≠ 0 ∧ u.base.scenes reservation.aggregateId ≠ []) rfl ?_ ?_ ?_))
    fun attempt u _ hattempt => ?_
  · intro u hu k hk _ hgrown
    cases hk
    cases hreserved : reservation.isReserved with
    | true => exact hrow.derived (by rw [hkind]; rfl) fun _ => hreserved
    | false =>
      -- somebody confirmed the row first, so the scene exists
      exact absurd hgrown
        (createScene_length (u.seen_le _) (hu.scenes _ (hrow.exists_ hkind hreserved)))
  · intro k hk hbeat
    cases hk
    rw [hkind] at hbeat
    cases hbeat
  · intro u _ _ outcome hok
    obtain ⟨hversion, hne⟩ := createScene_ok (u.seen_le _) hok
    refine ⟨hversion, ?_⟩
    show actOn u.base.scenes _ _ reservation.aggregateId ≠ []
    rw [actOn, SceneCommand.id, update_self]
    exact hne
  refine wpiOk.bind (Q := fun outcome v => outcome.version ≠ 0 ∧
    v.base.scenes reservation.aggregateId ≠ []) (wpiOk_ofExcept.mpr hattempt)
    fun outcome v _ hcreated => ?_
  refine wpiOk.bind (wpiOk_insertMapping ?_ ?_) fun _ _ _ _ => wpiOk_pure.mpr trivial
  · refine ⟨fun _ hreserved => ?_, fun _ _ => hcreated.2⟩
    exact absurd (by simpa [MappingRow.isReserved] using hreserved hkind) hcreated.1
  · intro p hp
    have : MappingKind.scene = .sceneShoot :=
      hkind.symm.trans (congrArg MappingKey.aggregateKind hp)
    cases this

theorem kept_applySceneRow (episodeId row) : Kept env req (applySceneRow env req episodeId row) := by
  intro w
  unfold applySceneRow
  refine wpiOk.bind (wpiOk_findMapping (by rfl)) fun stored t _ hstored => ?_
  split
  · next mapping =>
    obtain ⟨hkey, hrow⟩ := hstored mapping rfl
    split
    · next hreserved =>
      have hid : mapping.aggregateId = env.deriveId ⟨req.previewId, row.draftRef, .scene,
          primaryOrdinal⟩ := by
        rw [← hkey]
        exact hrow.derived (by rw [hkey]; rfl) fun _ => hreserved
      exact (kept_createSceneReserved hid episodeId _).bind (fun _ => Safe.pure _) t
    · exact Safe.pure _ t
  · split
    · exact (kept_createSceneReserved rfl episodeId _).bind (fun _ => Safe.pure _) t
    · next cmd hcmd =>
      refine wpiOk.bind (Q := fun version u => version ≠ 0 ∧ u.base.scenes cmd.id ≠ [])
        (wpi_sceneUpdate rfl ?_) fun version u _ hupdated => ?_
      · intro u _ _ version hok
        obtain ⟨hversion, hne⟩ := dispatchScene_ok (u.seen_le _) (fun _ => rfl) hok
        refine ⟨hversion, ?_⟩
        show actOn u.base.scenes _ _ cmd.id ≠ []
        rw [actOn, SceneCommand.id, update_self]
        exact hne
      refine wpiOk.bind (wpiOk_insertMapping ?_ ?_) fun _ _ _ _ => wpiOk_pure.mpr trivial
      · refine ⟨fun _ hreserved => ?_, fun _ _ => hupdated.2⟩
        exact absurd (by simpa [MappingRow.isReserved] using hreserved rfl) hupdated.1
      · intro p hp
        cases congrArg MappingKey.aggregateKind hp

/-! ## §4. The caches of a run -/

/-- The caches only grow. -/
structure ScriptLocals.Grown (old new : ScriptLocals) : Prop where
  figures : ∀ ref figure, old.figures ref = some figure → new.figures ref = some figure
  episodes : ∀ ref episode, old.resolvedEpisodes ref = some episode →
    new.resolvedEpisodes ref = some episode
  days : ∀ ref day, old.resolvedDays ref = some day → new.resolvedDays ref = some day

/-- The caches only grow, and the rows recorded so far stay. -/
structure ScriptLocals.Kept (old new : ScriptLocals) : Prop extends old.Grown new where
  applied : new.result.applied = old.result.applied

theorem ScriptLocals.Grown.trans {a b c : ScriptLocals} (hab : a.Grown b) (hbc : b.Grown c) :
    a.Grown c where
  figures ref figure h := hbc.figures ref figure (hab.figures ref figure h)
  episodes ref episode h := hbc.episodes ref episode (hab.episodes ref episode h)
  days ref day h := hbc.days ref day (hab.days ref day h)

/-- A change to neither the caches nor the rows. -/
theorem ScriptLocals.Kept.of_eq {old new : ScriptLocals} (hfigures : new.figures = old.figures)
    (hepisodes : new.resolvedEpisodes = old.resolvedEpisodes)
    (hdays : new.resolvedDays = old.resolvedDays)
    (happlied : new.result.applied = old.result.applied) : old.Kept new := by
  refine ⟨⟨?_, ?_, ?_⟩, happlied⟩
  · rw [hfigures]
    exact fun _ _ h => h
  · rw [hepisodes]
    exact fun _ _ h => h
  · rw [hdays]
    exact fun _ _ h => h

theorem ScriptLocals.Kept.refl (locals : ScriptLocals) : locals.Kept locals :=
  .of_eq rfl rfl rfl rfl

theorem ScriptLocals.Kept.trans {a b c : ScriptLocals} (hab : a.Kept b) (hbc : b.Kept c) :
    a.Kept c :=
  ⟨hab.toGrown.trans hbc.toGrown, hbc.applied.trans hab.applied⟩

/-- Entering a reference that was free keeps the others. -/
theorem update_free {α : Type} {f} {ref : String} (hfree : f ref = none) (value : α) :
    ∀ ref' a, f ref' = some a → update f ref (some value) ref' = some a := by
  intro ref' a h
  by_cases hsame : ref' = ref
  · rw [hsame, hfree] at h
    cases h
  · rwa [update_of_ne hsame]

/-- The figures of a character: entered once, and kept. -/
theorem grants_resolveFigure (figures character w) :
    Grants env req (resolveFigure env req figures character)
      (fun r _ => (∀ ref figure, figures ref = some figure → r.1 ref = some figure) ∧
        ∃ figure, r.1 (characterMappingRef character.identity) = some figure) w := by
  unfold resolveFigure
  dsimp only
  split
  · next figure hcached => exact wpiOk_pure.mpr ⟨fun _ _ h => h, figure, hcached⟩
  · next hfree =>
    refine wpiOk.bind (wpiOk_findMapping (by rfl)) fun stored t _ hstored => ?_
    split
    · exact wpiOk_pure.mpr ⟨update_free hfree _, _, update_self ..⟩
    · refine wpiOk.bind (wpiOk_orReserve (by rfl) (fun _ => rfl) hstored) fun mapping u _ hrow => ?_
      have hm : HeldRow env mapping :=
        .of_row (by decide : MappingKind.isDerived .character) (by exact nofun) hrow
      unfold driveFigure
      refine wpiOk.bind ((safe_creating hm.kind.1 hm.id fun _ => ⟨rfl, rfl, rfl, rfl⟩).mapResult _ u)
        fun attempt v _ _ => ?_
      split
      · refine wpiOk.bind (kept_confirm hm _ v) fun _ _ _ _ => ?_
        exact wpiOk_pure.mpr ⟨update_free hfree _, _, update_self ..⟩
      · split
        · exact wpiOk_fail
        · exact wpiOk_pure.mpr ⟨update_free hfree _, _, update_self ..⟩

/-- The episode of a row, as the caches have it. -/
def RowEpisode (locals : ScriptLocals) (row : SceneApplyPlan) (episodeId : EpisodeId) : Prop :=
  match row.episode with
  | .existing id => episodeId = id
  | .new episodeRef _ _ => ∃ created, locals.resolvedEpisodes episodeRef = some (episodeId, created)

theorem RowEpisode.grown (h : RowEpisode old row episodeId)
    (hkept : old.Grown new) : RowEpisode new row episodeId := by
  unfold RowEpisode at h ⊢
  split at h
  · exact h
  · obtain ⟨created, h⟩ := h
    exact ⟨created, hkept.episodes _ _ h⟩

theorem grants_rowEpisode (locals : ScriptLocals) (row w) :
    Grants env req (rowEpisode env req locals row)
      (fun r _ => locals.Kept r.2 ∧ RowEpisode r.2 row r.1.1) w := by
  cases hepisode : row.episode with
  | existing =>
    simp only [rowEpisode, RowEpisode, hepisode]
    exact wpiOk_pure.mpr ⟨.refl _, rfl⟩
  | new =>
    simp only [rowEpisode, RowEpisode, hepisode]
    split
    · exact wpiOk_fail
    · split
      · next resolved hcached => exact wpiOk_pure.mpr ⟨.refl _, resolved.2, hcached⟩
      · next hfree =>
        refine wpiOk.bind (kept_createEpisodeReserved _ _ _ _ w) fun created t _ _ => ?_
        refine wpiOk_pure.mpr
          ⟨⟨⟨fun _ _ h => h, update_free hfree created, fun _ _ h => h⟩, rfl⟩, ?_⟩
        exact ⟨created.2, by simp⟩

theorem grants_groupDay (locals : ScriptLocals) (episodeId dayRef label) (w : ScriptStore) :
    Grants env req (groupDay env req locals episodeId dayRef label)
      (fun r _ => locals.Kept r.2 ∧ r.2.resolvedDays (scriptDayRef episodeId dayRef) = some r.1)
      w := by
  unfold groupDay
  split
  · next day hcached => exact wpiOk_pure.mpr ⟨.refl _, hcached⟩
  · next hfree =>
    refine wpiOk.bind (kept_resolveDay rfl w) fun day t _ _ => ?_
    refine wpiOk_pure.mpr
      ⟨⟨⟨fun _ _ h => h, fun _ _ h => h, update_free hfree day⟩, rfl⟩, ?_⟩
    simp

/-! ### Lanes -/

theorem ScriptLocals.kept_report (locals : ScriptLocals) (outfits) :
    locals.Kept (locals.report outfits) := .of_eq rfl rfl rfl rfl

theorem grants_rowBeat (row : SceneApplyPlan) (sceneId characterId outfit outfitId)
    (locals : ScriptLocals) (sceneVersion : AggregateVersion) (w : ScriptStore) :
    Grants env req (rowBeat req row sceneId characterId outfit outfitId locals sceneVersion)
      (fun r _ => locals.Kept r.1) w := by
  unfold rowBeat
  refine wpiOk.bind (kept_applyOutfitBeat sceneId characterId (beatAddress_isBeat row outfit)
    outfitId sceneVersion w) fun settled t _ _ => ?_
  refine wpiOk_pure.mpr ?_
  dsimp only
  split
  · exact .of_eq rfl rfl rfl rfl
  · exact .refl _
  · exact locals.kept_report _

theorem grants_laneOutfit (row : SceneApplyPlan) (sceneId characterId state outfit) (w : ScriptStore) :
    Grants env req (laneOutfit env req row sceneId characterId state outfit)
      (fun r _ => state.1.Kept r.1) w := by
  unfold laneOutfit
  split
  · unfold continuedOutfit
    refine wpiOk.bind (kept_resolveContinuedOutfit _ w) fun resolved t _ _ => ?_
    split
    · exact wpiOk_pure.mpr (state.1.kept_report _)
    · exact grants_rowBeat ..
  · unfold ownOutfit
    refine wpiOk.bind (kept_applyOutfitPieces row outfit w) fun pieces t _ _ => ?_
    split
    · exact wpiOk_pure.mpr (state.1.kept_report _)
    · dsimp only
      refine wpiOk.bind (kept_applyOutfit row outfit characterId _ t) fun applied u _ _ => ?_
      split
      · exact wpiOk_pure.mpr (.of_eq rfl rfl rfl rfl)
      · refine (grants_rowBeat ..).mono fun r v _ hkept => ?_
        exact ⟨⟨hkept.figures, hkept.episodes, hkept.days⟩, hkept.applied⟩

theorem grants_applyLane (row : SceneApplyPlan) (sceneId state lane) (w : ScriptStore) :
    Grants env req (applyLane env req row sceneId state lane) (fun r _ => state.1.Kept r.1) w := by
  unfold applyLane
  split
  · refine wpiOk_foldM (fun _ (r : ScriptLocals × AggregateVersion) _ => state.1.Kept r.1) ?_
      (ScriptLocals.Kept.refl _)
    intro done outfit rest r t _ _ hkept
    exact (grants_laneOutfit ..).mono fun r' u _ h => hkept.trans h
  · exact wpiOk_pure.mpr (state.1.kept_report _)
  · exact wpiOk_pure.mpr (state.1.kept_report _)

/-! ## §5. Rows and runs -/

/-- **WHAT AN APPLIED ROW PROMISES**: each of its characters has been looked up, the figures that
were found are in the scene, and so is the day of its group. -/
structure RowLinked (locals : ScriptLocals) (w : ScriptStore) (row : SceneApplyPlan)
    (scene : UuidVersion) : Prop where
  figures : ∀ character ∈ row.characters, ∃ figure,
    locals.figures (characterMappingRef character.identity) = some figure ∧
      ∀ found, figure = .resolved found → found.aggregateId ∈ w.figuresOf scene.aggregateId
  day : ∀ dayRef label, row.shootingDay = .group dayRef label → ∃ episodeId day,
    RowEpisode locals row episodeId ∧
      locals.resolvedDays (scriptDayRef episodeId dayRef) = some day ∧
        Linked w.base (scene.aggregateId, day.id)

theorem RowLinked.later (h : RowLinked locals w row scene)
    (hlocals : locals.Grown locals') (hlater : Later w w') : RowLinked locals' w' row scene where
  figures character hmem := by
    obtain ⟨figure, hfigure, hassigned⟩ := h.figures character hmem
    exact ⟨figure, hlocals.figures _ _ hfigure,
      fun found hfound => hlater.figures _ _ (hassigned found hfound)⟩
  day dayRef label hgroup := by
    obtain ⟨episodeId, day, hepisode, hday, hlinked⟩ := h.day dayRef label hgroup
    exact ⟨episodeId, day, hepisode.grown hlocals, hlocals.days _ _ hday, hlater.days _ hlinked⟩

/-- The figures of a row are looked up one after the other. -/
theorem grants_rowFigures (characters : List CharacterApplyPlan) (locals w) :
    Grants env req (foldM (rowFigure env req) characters locals)
      (fun locals' _ => locals.Kept locals' ∧ ∀ character ∈ characters, ∃ figure,
        locals'.figures (characterMappingRef character.identity) = some figure) w := by
  refine wpiOk_foldM (fun (done : List CharacterApplyPlan) (locals' : ScriptLocals) _ =>
    locals.Kept locals' ∧ ∀ character ∈ done, ∃ figure,
      locals'.figures (characterMappingRef character.identity) = some figure) ?_
    ⟨.refl _, by intro _ h; cases h⟩
  intro done character rest before t _ _ hbefore
  obtain ⟨hkept, hdone⟩ := hbefore
  refine wpiOk.bind (grants_resolveFigure before.figures character t) fun r u _ hr => ?_
  obtain ⟨hgrown, hnew⟩ := hr
  refine wpiOk_pure.mpr ⟨hkept.trans ⟨⟨hgrown, fun _ _ h => h, fun _ _ h => h⟩, rfl⟩, ?_⟩
  intro character' hmem
  rcases mem_append.mp hmem with hold | hlast
  · obtain ⟨figure, hfigure⟩ := hdone character' hold
    exact ⟨figure, hgrown _ _ hfigure⟩
  · rw [mem_singleton.mp hlast]
    exact hnew

/-- The figures that were found are assigned one after the other. -/
theorem grants_assignLanes (figures sceneId lanes version w) :
    Grants env req (foldM (assignLane figures sceneId) lanes version)
      (fun _ t => AllMet t → ∀ lane ∈ lanes, ∀ found,
        figures (characterMappingRef lane.character.identity) = some (.resolved found) →
          found.aggregateId ∈ t.figuresOf sceneId) w := by
  refine wpiOk_foldM (fun (done : List SceneBeatLane) _ t => AllMet t → ∀ lane ∈ done, ∀ found,
    figures (characterMappingRef lane.character.identity) = some (.resolved found) →
      found.aggregateId ∈ t.figuresOf sceneId) ?_ nofun
  intro done lane rest version t _ _ hdone
  have hlane : Grants env req (assignLane figures sceneId version lane) (fun _ u => AllMet u →
      ∀ found, figures (characterMappingRef lane.character.identity) = some (.resolved found) →
        found.aggregateId ∈ u.figuresOf sceneId) t := by
    unfold assignLane
    split
    · next figure hfigure =>
      refine (grants_assignFigureToScene sceneId figure.aggregateId version t).mono ?_
      intro _ u _ hassigned hmet found hfound
      rw [hfigure] at hfound
      cases hfound
      exact hassigned hmet
    · next hnone =>
      refine wpiOk_pure.mpr ?_
      intro _ found hfound
      exact absurd hfound (hnone found)
  refine hlane.mono fun _ u hu hassigned hmet lane' hmem found hfound => ?_
  rcases mem_append.mp hmem with hold | hlast
  · exact hu.figures _ _ (hdone (hu.allMet hmet) lane' hold found hfound)
  · rw [mem_singleton.mp hlast] at hfound
    exact hassigned hmet found hfound

/-- The day of a row. -/
theorem grants_rowShootingDay (row : SceneApplyPlan) {episodeId} (sceneId)
    (hepisode : RowEpisode locals row episodeId) (version w) :
    Grants env req (rowShootingDay env req row episodeId sceneId locals version)
      (fun locals' t => locals.Kept locals' ∧ (AllMet t → ∀ dayRef label,
        row.shootingDay = .group dayRef label → ∃ episodeId day, RowEpisode locals' row episodeId ∧
          locals'.resolvedDays (scriptDayRef episodeId dayRef) = some day ∧
            Linked t.base (sceneId, day.id))) w := by
  cases hgroup : row.shootingDay with
  | none =>
    simp only [rowShootingDay, hgroup]
    refine wpiOk_pure.mpr ⟨.refl _, ?_⟩
    intro _ dayRef label h
    cases h
  | group dayRef label =>
    simp only [rowShootingDay, hgroup]
    refine wpiOk.bind (grants_groupDay locals episodeId dayRef label w) fun r t _ hday => ?_
    obtain ⟨hkept, hcached⟩ := hday
    refine wpiOk.bind (grants_scheduleRowOnDay sceneId r.1.id version r.2.fallbackOrder t)
      fun scheduled u _ hlinked => ?_
    refine wpiOk_pure.mpr ⟨hkept.trans (.of_eq rfl rfl rfl rfl), ?_⟩
    intro hmet dayRef' label' h
    cases h
    have hgrown := hepisode.grown hkept.toGrown
    exact ⟨episodeId, r.1, hgrown.grown ⟨fun _ _ h => h, fun _ _ h => h, fun _ _ h => h⟩, hcached,
      hlinked hmet⟩

/-- **A ROW THAT WAS WORKED OFF IS LINKED**, and recorded as one scene. -/
theorem grants_applyScriptRow (locals : ScriptLocals) (row w) :
    Grants env req (applyScriptRow env req locals row)
      (fun locals' t => locals.Grown locals' ∧ ∃ scene,
        locals'.result.applied = locals.result.applied ++ [scene] ∧
          (AllMet t → RowLinked locals' t row scene)) w := by
  unfold applyScriptRow
  refine wpiOk.bind (grants_rowEpisode locals row w) fun episode t1 _ hepisode => ?_
  obtain ⟨hkept1, hepisode⟩ := hepisode
  refine wpiOk.bind (kept_applySceneRow episode.1.1 row t1) fun scene t2 _ _ => ?_
  refine wpiOk.bind (grants_rowFigures row.characters _ t2) fun locals3 t3 _ hfigures => ?_
  obtain ⟨hkept3, hknown⟩ := hfigures
  refine wpiOk.bind (Safe.foldM (fun version outfit => ?_) _ _ t3) fun version4 t4 _ _ => ?_
  · exact (Safe.ofExcept _).bind fun _ => (safe_findMapping _).bind fun _ => Safe.pure _
  refine wpiOk.bind (grants_assignLanes locals3.figures scene.1.aggregateId (sceneBeatLanes row)
    version4 t4) fun version5 t5 _ hassigned => ?_
  refine wpiOk.bind (Q := fun (r : ScriptLocals × AggregateVersion) _ => locals3.Kept r.1) ?_
    fun r t6 h56 hkept6 => ?_
  · refine wpiOk_foldM (fun _ (r : ScriptLocals × AggregateVersion) _ => locals3.Kept r.1) ?_
      (ScriptLocals.Kept.refl _)
    intro done lane rest r t _ _ hkept
    exact (grants_applyLane ..).mono fun r' u _ h => hkept.trans h
  -- what was recorded for the row before its figures
  have hgrown13 : episode.2.Grown locals3 := ⟨hkept3.figures, hkept3.episodes, hkept3.days⟩
  have hgrown6 : episode.2.Grown r.1 := hgrown13.trans hkept6.toGrown
  refine (grants_rowShootingDay row scene.1.aggregateId (hepisode.grown hgrown6) r.2 t6).mono ?_
  intro locals7 t7 h67 hday
  obtain ⟨hkept7, hday⟩ := hday
  have hgrown37 : locals3.Grown locals7 := hkept6.toGrown.trans hkept7.toGrown
  refine ⟨hkept1.toGrown.trans (hgrown13.trans hgrown37), scene.1, ?_, ?_⟩
  · rw [hkept7.applied, hkept6.applied, hkept3.applied]
    show episode.2.result.applied ++ [scene.1] = _
    rw [hkept1.applied]
  · intro hmet
    refine ⟨?_, hday hmet⟩
    intro character hmem
    obtain ⟨figure, hfigure⟩ := hknown character hmem
    refine ⟨figure, hgrown37.figures _ _ hfigure, ?_⟩
    rintro found rfl
    have h57 : Later t5 t7 := h56.trans h67
    have hlane : (⟨character, row.outfits.filter (·.characterIdentity = character.identity)⟩ :
        SceneBeatLane) ∈ sceneBeatLanes row := mem_map.mpr ⟨character, hmem, rfl⟩
    exact h57.figures _ _ (hassigned (h57.allMet hmet) _ hlane found hfigure)

/-- **THE LOOP OVER THE ROWS**: every row of the plan got its scene, and is linked to it. -/
theorem grants_rows (plan w) :
    Grants env req (foldM (applyScriptRow env req) plan.scenes (startScript plan))
      (fun locals t => AllMet t →
        List.Forall₂ (RowLinked locals t) plan.scenes locals.result.applied) w := by
  refine wpiOk_foldM (fun done (locals : ScriptLocals) t => AllMet t →
    List.Forall₂ (RowLinked locals t) done locals.result.applied) ?_ (fun _ => .nil)
  intro done row rest locals t _ _ hdone
  refine (grants_applyScriptRow locals row t).mono fun locals' u hu hrow hmet => ?_
  obtain ⟨hgrown, scene, happlied, hlinked⟩ := hrow
  rw [happlied]
  refine rel_append ?_ (.cons (hlinked hmet) .nil)
  exact (hdone (hu.allMet hmet)).imp fun _ _ h => h.later hgrown hu

theorem kept_runScriptApply : Kept env req (runScriptApply env req) := by
  refine Safe.bind ?_ fun planned => (Safe.ofExcept planned).bind fun plan => ?_
  · exact fun w => wpiOk_read fun _ _ _ => trivial
  intro w
  refine wpiOk.bind ((grants_rows plan w).mono fun _ _ _ _ => trivial) fun locals t _ _ => ?_
  exact (Safe.ofExcept _).bind (fun _ => Safe.pure _) t

theorem kept_interfere : Kept env req interfere := Safe.atomic fun _ hI => hI.othersAct

/-- **A RUN KEEPS THE INVARIANT**, whatever runs beside it. -/
theorem kept_applyScript : Kept env req (applyScript env req) := by
  refine (Safe.ofExcept _).bind fun claimed => ?_
  split
  · exact kept_runScriptApply.bind fun _ => kept_interfere.bind fun _ => Safe.pure _
  · exact Safe.fail _

end Walk

end Breakdown.Ai
