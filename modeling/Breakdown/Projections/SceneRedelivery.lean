/-
**SCENES WITH STALE EVENTS**: single events of a projected
stream delivered again, in any order.

The guard in front of the outfit beats compares with the version of the scene's row, and it is there
so that a stale event brings back nothing. But the events about details, characters and shooting
days write the row and their own rows without asking, and they set the version back to their own.

- `redelivery_keeps_iff`: nothing comes back and the version stays exactly if no such event but the
  last one is delivered again — and, where the scene is deleted, no creation;
- `stale_events_resurrect`: a character that was removed is back, and then so is its outfit beat.
-/
import Breakdown.Projections.SceneReplay

namespace Breakdown.Projections

open Tables Fallible List Entity Table

namespace SceneProjector

/-! ## §1. Deliveries -/

/-- One delivery. A refused one is rolled back. -/
def deliver (db : SceneTables) (event : StoredEvent SceneEvent) : SceneTables :=
  match handle db event with
  | .ok after => after
  | .error _ => db

/-- Deliveries one after the other. -/
def redeliver (db : SceneTables) (events : List (StoredEvent SceneEvent)) : SceneTables :=
  events.foldl deliver db

variable {db : SceneTables} {event : StoredEvent SceneEvent}
  {events : List (StoredEvent SceneEvent)}

theorem deliver_of_ok {after} (h : handle db event = .ok after) : deliver db event = after := by
  rw [deliver, h]

theorem projectedDays_deliver (db event) : (deliver db event).projectedDays = db.projectedDays := by
  unfold deliver handle
  by_cases hskips : skips db event.data = true
  · rw [if_pos hskips]
  · rw [if_neg hskips]
    cases htexts : event.data.texts.all storable with
    | false => rfl
    | true =>
      cases hparents : hasParents db event.data with
      | false => rfl
      | true => exact projectedDays_step db event

theorem projectedDays_redeliver (db events) :
    (redeliver db events).projectedDays = db.projectedDays := by
  unfold redeliver
  induction events generalizing db with
  | nil => rfl
  | cons e events ih => rw [foldl_cons, ih, projectedDays_deliver]

/-- Deliveries that each change nothing. -/
theorem redeliver_eq_self (h : ∀ e ∈ events, deliver db e = db) : redeliver db events = db := by
  unfold redeliver
  induction events with
  | nil => rfl
  | cons e events ih =>
    rw [foldl_cons, h e mem_cons_self]
    exact ih fun e' he' => h e' (mem_cons_of_mem e he')

/-- An event that claims no version sets the row of its scene to its own. -/
theorem deliver_version (hbeat : event.data.isBeat = false) (hkept : event.data.isDeletion = false)
    (hrow : (db.scenes event.data.id).isSome ∨ event.data.isCreation)
    (haccepts : Accepts db event.data) :
    ((deliver db event).scenes event.data.id).map (·.stamp.version) = some event.data.version := by
  -- what claims no version is never skipped, and `touch_parent` asks for none
  have hskips : skips db event.data = false := by rw [skips, hbeat, Bool.false_and]
  rw [deliver_of_ok ((handle_iff hskips hrow).mpr ⟨haccepts, rfl⟩)]
  obtain ⟨row, hnext, hversion⟩ := step_row hkept hrow
  rw [hnext, Option.map_some, hversion]

/-! ## §2. How a stream ends -/

theorem isDeletion_of_isCreation {e : SceneEvent} (h : e.isCreation) : e.isDeletion = false := by
  cases e with
  | sceneDeleted => cases h
  | _ => rfl

theorem isCreation_of_isBeat {e : SceneEvent} (h : e.isBeat) : e.isCreation = false := by
  cases e with
  | sceneCreated => cases h
  | _ => rfl

/-- Only the last event of a stream may be a deletion, and then the scene is deleted. -/
theorem stream_ends (h : SceneStream (events.map (·.data))) :
    ∃ before last, events = before ++ [last] ∧ (∀ e ∈ before, e.data.isDeletion = false) ∧
      (replay SceneAggregate (events.map (·.data))).deleted = last.data.isDeletion := by
  have hne : events ≠ [] := by simpa using h.ne_nil
  obtain ⟨before, last, rfl⟩ := eq_nil_or_concat events |>.resolve_left hne
  rw [concat_eq_append, map_append, map_singleton] at h ⊢
  refine ⟨before, last, rfl, ?_⟩
  by_cases hnil : before = []
  · subst hnil
    refine ⟨fun e he => absurd he not_mem_nil, ?_⟩
    have hfirst : last.data.Founds := h.starts rfl
    rw [isDeletion_of_isCreation (isCreation_of_founds hfirst)]
    show (apply (init : SceneAggregate) last.data).deleted = false
    generalize last.data = e at hfirst
    obtain ⟨cmd⟩ := hfirst
    rfl
  · obtain ⟨hlive, hemits⟩ := h.emits_last (by simpa using hnil)
    refine ⟨fun e he => ?_, ?_⟩
    · -- a deletion would have been the last event
      by_contra hdeletion
      have hdeleted : Deletable.deleted (replay SceneAggregate (before.map (·.data))) = true :=
        replay_deleted (mem_map_of_mem he) (eq_true_of_ne_false hdeletion)
      rw [show Deletable.deleted _ = _ from hlive] at hdeleted
      cases hdeleted
    · rw [replay_concat]
      generalize last.data = e at hemits
      cases hemits with
      | deleted => rfl
      | _ => exact hlive

/-- The row of a scene that is not deleted has the version of the last event. -/
theorem stream_version (hrun : SceneStream (events.map (·.data)))
    (hkept : ∀ e ∈ events, e.data.isDeletion = false) :
    ((events.foldl step start).scenes (replay SceneAggregate (events.map (·.data))).id).map
        (·.stamp.version) = some (replay SceneAggregate (events.map (·.data))).version := by
  induction events using reverseRecOn with
  | nil => exact absurd rfl hrun.ne_nil
  | append_singleton events e =>
    have hid := id_of_mem hrun (e := e.data) (by simp)
    have hrow : ((events.foldl step start).scenes e.data.id).isSome ∨ e.data.isCreation = true := by
      by_cases hnil : events = []
      · subst hnil
        exact .inr (isCreation_of_founds (hrun.starts rfl))
      · have hmap : events.map (·.data) <+: (events ++ [e]).map (·.data) :=
          (prefix_append events [e]).map _
        have hne : events.map (·.data) ≠ [] := by simpa using hnil
        have hbefore := hrun.shorter hmap hne
        rw [hid, ← hrun.unchanged SceneAggregate.id hmap hne (·.emits.id_apply)]
        exact .inl (stream_row hbefore fun e' he' => hkept e' (mem_append_left _ he'))
    obtain ⟨row, hnext, hversion⟩ := step_row (hkept e (by simp)) hrow
    rw [← hid, foldl_append]
    show ((step (events.foldl step start) e).scenes e.data.id).map _ = _
    rw [hnext, Option.map_some, hversion, map_append, map_singleton]
    exact congrArg some (version_replay (σ := SceneAggregate) _ _).symm

/-- An event with the version of the aggregate is the last one. -/
theorem eq_last (hcounted : Counted SceneAggregate (events.map (·.data))) (he : e ∈ events)
    (hversion : e.data.version = (replay SceneAggregate (events.map (·.data))).version) :
    [e] <:+ events := by
  obtain ⟨before, last, rfl⟩ := eq_nil_or_concat events |>.resolve_left (ne_nil_of_mem he)
  rw [concat_eq_append] at *
  have hlast : (replay SceneAggregate ((before ++ [last]).map (·.data))).version =
      last.data.version := by
    rw [map_append, map_singleton]
    exact version_replay (σ := SceneAggregate) _ _
  have hrising := hcounted.rising
  rw [pairwise_map, pairwise_append] at hrising
  obtain he | he := mem_append.mp he
  · have hlt := hrising.2.2 e he last (mem_singleton_self last)
    exact absurd (hversion.trans hlast) (Nat.ne_of_lt hlt)
  · rw [mem_singleton.mp he]
    exact suffix_append before [last]

/-! ## §3. A scene that is gone -/

/-- No row of the scene is left. -/
structure Gone (db : SceneTables) (id : Uuid) : Prop where
  row : db.scenes id = none
  characters : ∀ characterId, db.characters (id, characterId) = none
  shootingDays : ∀ shootingDayId, db.shootingDays (id, shootingDayId) = none
  beats : ∀ characterId order, db.beats (id, characterId, order) = none

theorem gone_deleted (db) (h : event.data.isDeletion) : Gone (step db event) event.data.id := by
  obtain ⟨e, t⟩ := event
  cases e with
  | sceneDeleted id =>
    refine ⟨?_, fun _ => ?_, fun _ => ?_, fun _ _ => ?_⟩ <;>
      simp [step, effect, delete, deleteWhere, SceneEvent.id]
  | _ => cases h

theorem handle_deletion {after} (hdeletion : event.data.isDeletion)
    (h : handle db event = .ok after) : after = step db event := by
  obtain ⟨e, t⟩ := event
  cases e with
  | sceneDeleted =>
    cases h
    rfl
  | _ => cases hdeletion

/-- Where the scene is gone, an event that is not its creation is refused or has no effect. -/
theorem effect_gone (h : Gone db e.id) (hcreation : e.isCreation = false)
    (hskips : skips db e = false) (hparents : hasParents db e) (updatedAt) :
    effect db updatedAt e = db := by
  have hguard : ∀ version, guardParent db e.id version = false := by
    intro version
    rw [guardParent, h.row]
    rfl
  have hrow : (db.scenes e.id).isSome = false := by
    rw [h.row]
    rfl
  have hscenes : ∀ f, db.scenes.modify e.id f = db.scenes := fun f => modify_eq_self f h.row
  cases e with
  | sceneCreated => cases hcreation
  | sceneDetailsUpdated => exact SceneTables.ext rfl (hscenes _) rfl rfl rfl
  -- an insert of a child meets the foreign key
  | characterAssigned id =>
    rw [hasParents, show (db.scenes id).isSome = false from hrow] at hparents
    cases hparents
  | shootingDayScheduled id =>
    rw [hasParents, show (db.scenes id).isSome = false from hrow] at hparents
    cases hparents
  | characterRemoved id characterId =>
    exact SceneTables.ext rfl (hscenes _) (delete_eq_self (h.characters characterId)) rfl rfl
  | shootingDayUnscheduled id shootingDayId =>
    exact SceneTables.ext rfl (hscenes _) rfl
      (delete_eq_self (h.shootingDays shootingDayId)) rfl
  | sceneDeleted id =>
    refine SceneTables.ext rfl (delete_eq_self h.row) (deleteWhere_eq_self ?_)
      (deleteWhere_eq_self ?_) (deleteWhere_eq_self ?_)
    · rintro ⟨id', characterId⟩ hid
      obtain rfl : id' = id := by simpa using hid
      exact h.characters characterId
    · rintro ⟨id', shootingDayId⟩ hid
      obtain rfl : id' = id := by simpa using hid
      exact h.shootingDays shootingDayId
    · rintro ⟨id', characterId, order⟩ hid
      obtain rfl : id' = id := by simpa using hid
      exact h.beats characterId order
  | outfitBeatAdded id | outfitBeatUpdated id | outfitBeatRemoved id | outfitBeatsCleared id =>
    -- a beat finds no row to claim
    rw [skips, hguard] at hskips
    cases hskips

theorem deliver_gone (h : Gone db event.data.id) (hcreation : event.data.isCreation = false) :
    deliver db event = db := by
  unfold deliver handle
  cases hskips : skips db event.data with
  | true => rfl
  | false =>
    cases htexts : event.data.texts.all storable with
    | false => rfl
    | true =>
      cases hparents : hasParents db event.data with
      | false => rfl
      | true => exact effect_gone h hcreation hskips hparents _

/-! ## §4. Redelivery -/

/-- Nothing came back: the row of the scene is at the version of the aggregate, or gone with it, and
no row that `db` does not have is there. -/
structure Keeps (scene : SceneAggregate) (db after : SceneTables) : Prop where
  version : (after.scenes scene.id).map (·.stamp.version) =
    if scene.deleted then none else some scene.version
  characters : ∀ characterId, db.characters (scene.id, characterId) = none →
    after.characters (scene.id, characterId) = none
  shootingDays : ∀ shootingDayId, db.shootingDays (scene.id, shootingDayId) = none →
    after.shootingDays (scene.id, shootingDayId) = none
  beats : ∀ characterId order, db.beats (scene.id, characterId, order) = none →
    after.beats (scene.id, characterId, order) = none

/-- The events that may be delivered again: beats, of the others the last one; and where the scene is
deleted, everything but its creation. -/
def Harmless (scene : SceneAggregate) (e : SceneEvent) : Prop :=
  e.isBeat = true ∨ if scene.deleted then e.isCreation = false else e.version = scene.version

instance (scene : SceneAggregate) (e : SceneEvent) : Decidable (Harmless scene e) := by
  unfold Harmless
  infer_instance

section Redelivery

variable {start db : SceneTables} {events again : List (StoredEvent SceneEvent)}

/-- What a projected stream leaves, if the scene is not deleted and if it is. -/
theorem projected_ends (hrun : SceneStream (events.map (·.data)))
    (hcounted : Counted SceneAggregate (events.map (·.data)))
    (hproject : project handle start events = .ok db) :
    (∀ e ∈ events, e.data.isDeletion = false → Accepts db e.data) ∧
      (((replay SceneAggregate (events.map (·.data))).deleted = false ∧
          (∀ e ∈ events, e.data.isDeletion = false) ∧ db = events.foldl step start) ∨
        ((replay SceneAggregate (events.map (·.data))).deleted ∧
          Gone db (replay SceneAggregate (events.map (·.data))).id)) := by
  obtain ⟨before, last, rfl, hkept, hdeleted⟩ := stream_ends hrun
  rw [hdeleted]
  cases hlast : last.data.isDeletion with
  | false =>
    have hall : ∀ e ∈ before ++ [last], e.data.isDeletion = false := by
      intro e he
      obtain he | he := mem_append.mp he
      · exact hkept e he
      · rw [mem_singleton.mp he]
        exact hlast
    obtain ⟨haccepts, rfl⟩ := (project_eq hrun hcounted hall).mp hproject
    have hdays := accepts_congr (projectedDays_foldl (before ++ [last]) start)
    exact ⟨fun e he _ => (hdays _).mpr (haccepts e he), .inl ⟨rfl, hall, rfl⟩⟩
  | true =>
    -- the events before the deletion are a stream of their own
    obtain ⟨mid, hmid, hfinal⟩ := project_concat.mp hproject
    have hmap : before.map (·.data) <+: (before ++ [last]).map (·.data) :=
      (prefix_append before [last]).map _
    have hne : before ≠ [] := by
      rintro rfl
      rw [isDeletion_of_isCreation (isCreation_of_founds (hrun.starts rfl))] at hlast
      cases hlast
    have hbefore := hrun.shorter hmap (by simpa using hne)
    obtain ⟨haccepts, rfl⟩ := (project_eq hbefore (hcounted.of_seen hmap) hkept).mp hmid
    obtain rfl := handle_deletion hlast hfinal
    refine ⟨fun e he hkept' => ?_, .inr ⟨rfl, ?_⟩⟩
    · obtain he | he := mem_append.mp he
      · have hdays := (projectedDays_step (before.foldl step start) last).trans
          (projectedDays_foldl before start)
        exact (accepts_congr hdays _).mpr (haccepts e he)
      · rw [mem_singleton.mp he, hlast] at hkept'
        cases hkept'
    · rw [← id_of_mem hrun (e := last.data) (by simp)]
      exact gone_deleted _ hlast

/-- Right after the stream everything is as it should be. -/
theorem keeps_projected (hrun : SceneStream (events.map (·.data)))
    (hcounted : Counted SceneAggregate (events.map (·.data)))
    (hproject : project handle start events = .ok db) :
    Keeps (replay SceneAggregate (events.map (·.data))) db db := by
  refine ⟨?_, fun _ h => h, fun _ h => h, fun _ _ h => h⟩
  obtain ⟨-, ⟨hlive, hkept, rfl⟩ | ⟨hdeleted, hgone⟩⟩ := projected_ends hrun hcounted hproject
  · rw [hlive]
    exact stream_version hrun hkept
  · rw [hdeleted, hgone.row]
    rfl

/-- A stale beat is skipped. -/
theorem deliver_stale_beat (hbeat : event.data.isBeat)
    (hrow : (db.scenes event.data.id).map (·.stamp.version) = some version)
    (hstale : event.data.version ≤ version) : deliver db event = db := by
  refine deliver_of_ok (if_pos ?_)
  obtain ⟨row, hsome, rfl⟩ := Option.map_eq_some_iff.mp hrow
  unfold skips guardParent
  rw [hbeat, hsome, Option.any_some, decide_eq_false (Nat.not_lt.mpr hstale)]
  rfl

/-- **WHAT IS HARMLESS CHANGES NOTHING AT ALL.** -/
theorem deliver_harmless (hrun : SceneStream (events.map (·.data)))
    (hcounted : Counted SceneAggregate (events.map (·.data)))
    (hproject : project handle start events = .ok db) (he : e ∈ events)
    (h : Harmless (replay SceneAggregate (events.map (·.data))) e.data) : deliver db e = db := by
  obtain ⟨haccepts, ⟨hlive, hkept, rfl⟩ | ⟨hdeleted, hgone⟩⟩ := projected_ends hrun hcounted hproject
  -- a beat is skipped; the last event is a suffix of the stream, which may be projected again
  · have hmem : e.data ∈ events.map (·.data) := mem_map_of_mem he
    by_cases hbeat : e.data.isBeat = true
    · have hversion := @stream_version events start hrun hkept
      rw [← id_of_mem hrun hmem] at hversion
      exact deliver_stale_beat hbeat hversion (hcounted.version_le hmem)
    · have hlast := h.resolve_left hbeat
      rw [hlive] at hlast
      have hdays := accepts_congr (projectedDays_foldl events start)
      have hagain := project_again hrun hcounted hkept
        (fun e' he' => (hdays _).mp (haccepts e' he' (hkept e' he'))) (eq_last hcounted he hlast)
      rw [project_singleton] at hagain
      exact deliver_of_ok hagain
  · rw [← id_of_mem hrun (mem_map_of_mem he)] at hgone
    refine deliver_gone hgone ?_
    rw [Harmless, hdeleted] at h
    obtain hbeat | hcreation := h
    · exact isCreation_of_isBeat hbeat
    · exact hcreation

/-- A delivery after which the version is still right was harmless. -/
theorem harmless_of_version (hrun : SceneStream (events.map (·.data)))
    (hcounted : Counted SceneAggregate (events.map (·.data)))
    (hproject : project handle start events = .ok db) (he : e ∈ events)
    (hdays : before.projectedDays = db.projectedDays)
    (hbefore : Keeps (replay SceneAggregate (events.map (·.data))) db before)
    (hafter : Keeps (replay SceneAggregate (events.map (·.data))) db (deliver before e)) :
    Harmless (replay SceneAggregate (events.map (·.data))) e.data := by
  have hid := id_of_mem hrun (mem_map_of_mem he)
  have hversion := hafter.version
  have hrow := hbefore.version
  rw [← hid] at hversion hrow
  by_cases hbeat : e.data.isBeat = true
  · exact .inl hbeat
  · right
    obtain ⟨haccepts, ⟨hlive, hkept, -⟩ | ⟨hdeleted, -⟩⟩ := projected_ends hrun hcounted hproject
    · rw [hlive] at hversion hrow ⊢
      have hsome : (before.scenes e.data.id).isSome := by
        rw [← Option.isSome_map, hrow]
        rfl
      -- the delivery sets the version to its own, so its own is the one of the scene
      have hset := deliver_version (eq_false_of_ne_true hbeat) (hkept e he) (.inl hsome)
        ((accepts_congr hdays _).mpr (haccepts e he (hkept e he)))
      rw [hset] at hversion
      exact Option.some.inj hversion
    · rw [hdeleted] at hversion ⊢
      -- a creation brings the row of the scene back
      refine eq_false_of_ne_true fun hcreation => ?_
      have hkept := isDeletion_of_isCreation hcreation
      have hset := deliver_version (eq_false_of_ne_true hbeat) hkept (.inr hcreation)
        ((accepts_congr hdays _).mpr (haccepts e he hkept))
      rw [hset] at hversion
      cases hversion

/-- **STALE EVENTS BRING NOTHING BACK EXACTLY IF THEY ARE HARMLESS.** `db` is what projecting the
whole stream left; single events of it are delivered again, in any order and number. -/
theorem redelivery_keeps_iff (h : History SceneAggregate (events.map (·.data)))
    (hfounded : Founded SceneAggregate (events.map (·.data)))
    (hproject : project handle start events = .ok db) (hagain : ∀ e ∈ again, e ∈ events) :
    (∀ pre, pre <+: again →
        Keeps (Entity.replay SceneAggregate (events.map (·.data))) db (redeliver db pre)) ↔
      ∀ e ∈ again, Harmless (Entity.replay SceneAggregate (events.map (·.data))) e.data := by
  have hrun := sceneStream_of_history h hfounded
  have hcounted := h.counted hfounded
  constructor
  · intro hkeeps e he
    obtain ⟨pre, post, rfl⟩ := append_of_mem he
    have hbefore := hkeeps pre (prefix_append _ _)
    have hafter := hkeeps (pre ++ [e]) ⟨post, by simp⟩
    rw [redeliver, foldl_append] at hafter
    exact harmless_of_version hrun hcounted hproject (hagain e he) (projectedDays_redeliver db pre)
      hbefore hafter
  · intro hharmless pre hpre
    have hself : redeliver db pre = db := by
      refine redeliver_eq_self fun e he => ?_
      have hmem := hpre.subset he
      exact deliver_harmless hrun hcounted hproject (hagain e hmem) (hharmless e hmem)
    rw [hself]
    exact keeps_projected hrun hcounted hproject

end Redelivery

/-- The tables after the events, starting from nothing but a shooting day. -/
def projected (events : List (StoredEvent SceneEvent)) : SceneTables :=
  match project handle emptySceneTables events with
  | .ok db => db
  | .error _ => emptySceneTables

theorem project_projected (h : (project handle emptySceneTables events).isOk) :
    project handle emptySceneTables events = .ok (projected events) := by
  unfold projected
  cases hproject : project handle emptySceneTables events with
  | ok => rfl
  | error =>
    rw [hproject] at h
    cases h

/-- A scene with a beat that ends on a shooting day. -/
def scheduledLast : List (StoredEvent SceneEvent) := recordedAt 2000 <| callAll SceneAggregate
    [.create ⟨1, ⟨2⟩, {}, .manual⟩, .assignCharacter ⟨1, 3, 1⟩, .addOutfitBeat ⟨1, 3, 4, none, 2⟩,
      .scheduleOnShootingDay ⟨1, ⟨6⟩, 3⟩]

/-- The last two events in turn. -/
theorem redelivery_keeps_scheduledLast : let again := scheduledLast.drop 2 ++ scheduledLast.drop 2
    again.length = 4 ∧ ∀ pre, pre <+: again →
      Keeps (replay SceneAggregate (scheduledLast.map (·.data))) (projected scheduledLast)
        (redeliver (projected scheduledLast) pre) := by
  intro again
  refine ⟨by decide +kernel, (redelivery_keeps_iff ?_ ?_ (project_projected (by decide +kernel)) ?_).mpr ?_⟩
  · rw [scheduledLast, map_data_recordedAt]
    exact (calls_callAll _).history
  · exact ⟨.sceneCreated 1 ⟨2⟩ {} [] .manual 1, by decide +kernel, rfl⟩
  · decide +kernel
  · decide +kernel

/-- A character with an outfit beat, taken out of the scene. -/
def droppedCharacter : List (StoredEvent SceneEvent) := recordedAt 2000 <| callAll SceneAggregate
    [.create ⟨1, ⟨2⟩, {}, .manual⟩, .assignCharacter ⟨1, 3, 1⟩, .addOutfitBeat ⟨1, 3, 4, none, 2⟩,
      .removeCharacter ⟨1, 3, 3⟩]

/-- **STALE EVENTS RESURRECT.** The assignment is delivered again: it sets the scene back to version 2
and the character is back. Then the guard lets the beat through, and it is back as well. -/
theorem stale_events_resurrect : History SceneAggregate (droppedCharacter.map (·.data)) ∧
      project handle emptySceneTables droppedCharacter = .ok (projected droppedCharacter) ∧
      (projected droppedCharacter).characters (1, 3) = none ∧
      (projected droppedCharacter).beats (1, 3, 0) = none ∧
      ((projected droppedCharacter).scenes 1).map (·.stamp.version) = some 5 ∧
      ∃ assigned beat, assigned ∈ droppedCharacter ∧ beat ∈ droppedCharacter ∧
        (redeliver (projected droppedCharacter) [assigned]).characters (1, 3) = some 2 ∧
        ((redeliver (projected droppedCharacter) [assigned]).scenes 1).map (·.stamp.version) = some 2 ∧
        (redeliver (projected droppedCharacter) [assigned, beat]).beats (1, 3, 0) =
          some ⟨4, none, 3⟩ := by
  refine ⟨?_, project_projected (by decide +kernel), by decide +kernel, by decide +kernel,
    by decide +kernel, ⟨.characterAssigned 1 3 2, 2000⟩, ⟨.outfitBeatAdded 1 3 4 0 none 3, 2000⟩,
    by decide +kernel, by decide +kernel, by decide +kernel, by decide +kernel, by decide +kernel⟩
  rw [droppedCharacter, map_data_recordedAt]
  exact (calls_callAll _).history

end SceneProjector

end Breakdown.Projections
