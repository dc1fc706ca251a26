/-
**THE STREAMS OF SCENES**, event by event.

One command of a scene records two events: a character that is removed takes its outfit beats along,
and they go first. All other commands record one.

- `handle_allowed`: what each accepted command records, and what it found;
- `sceneStream_of_history`: every history from the creation on is a stream of such events;
- `sceneBeats`: the outfit beats as children of the scene, told apart by character and
  order.
-/
import Breakdown.Aggregates.ChildIds
import Breakdown.Aggregates.SceneBeats

namespace Breakdown

open Fallible SceneAggregate

namespace SceneAggregate

/-! ## §1. What commands record -/

/-- The events that a scene lets commands record after it was created. -/
inductive Emits (self : SceneAggregate) : SceneEvent → Prop
  | detailsUpdated (details : SceneDetails) :
      Emits self (.sceneDetailsUpdated self.id details self.version.next)
  | characterAssigned (characterId : Uuid) (hnew : characterId ∉ self.assignedCharacters) :
      Emits self (.characterAssigned self.id characterId self.version.next)
  | characterRemoved (characterId : Uuid) :
      Emits self (.characterRemoved self.id characterId self.version.next)
  | shootingDayScheduled (shootingDayId : ShootingDayId) (hnew : shootingDayId ∉ self.shootingDayIds) :
      Emits self (.shootingDayScheduled self.id shootingDayId self.version.next)
  | shootingDayUnscheduled (shootingDayId : ShootingDayId) :
      Emits self (.shootingDayUnscheduled self.id shootingDayId self.version.next)
  | outfitBeatAdded (characterId outfitId : Uuid) (order : Nat) (note : Option String)
      (hbound : order < 2 ^ 32) :
      Emits self (.outfitBeatAdded self.id characterId outfitId order note self.version.next)
  | outfitBeatUpdated (characterId : Uuid) (order : Nat) (outfitId : Uuid) (note : Option String)
      (hmem : (characterId, order) ∈ self.beatKeys) :
      Emits self (.outfitBeatUpdated self.id characterId order outfitId note self.version.next)
  | outfitBeatRemoved (characterId : Uuid) (order : Nat)
      (hmem : (characterId, order) ∈ self.beatKeys) :
      Emits self (.outfitBeatRemoved self.id characterId order self.version.next)
  | outfitBeatsCleared (characterId : Uuid) :
      Emits self (.outfitBeatsCleared self.id characterId self.version.next)
  | deleted : Emits self (.sceneDeleted self.id self.version.next)

/-- The events that a scene lets follow: none after its deletion. -/
structure Records (scene : SceneAggregate) (e : SceneEvent) : Prop where
  live : scene.deleted = false
  emits : scene.Emits e

theorem checkNotDeleted_eq_ok {self : SceneAggregate} :
    self.checkNotDeleted = .ok u ↔ self.deleted = false := by
  simp [checkNotDeleted]

/-- A beat is there at the order. -/
theorem any_order_iff {self : SceneAggregate} {characterId} :
    (self.beatsOf characterId).any (·.order = order) ↔ (characterId, order) ∈ self.beatKeys := by
  simp [beatsOf, beatKeys, SceneOutfitBeat.key]

/-- **WHAT AN ACCEPTED COMMAND RECORDS**: events that the scene lets follow one by one. -/
theorem handle_allowed {self : SceneAggregate} (h : self.handle cmd = .ok events)
    (hcmd : ∀ c, cmd ≠ .create c) : Allowed Records self events := by
  cases cmd with
  | create c => exact absurd rfl (hcmd c)
  | updateDetails =>
    simp only [handle, updateDetails, check_eq_ok, checkNotDeleted_eq_ok] at h
    obtain ⟨hlive, -, -, hevents⟩ := h
    cases hevents
    exact allowed_singleton ⟨hlive, .detailsUpdated _⟩
  | assignCharacter =>
    simp only [handle, assignCharacter, check_eq_ok, checkNotDeleted_eq_ok, ensure_eq_ok] at h
    obtain ⟨hlive, -, hnew, hevents⟩ := h
    cases hevents
    exact allowed_singleton ⟨hlive, .characterAssigned _ (by simpa using hnew)⟩
  | removeCharacter =>
    simp only [handle, removeCharacter, check_eq_ok, checkNotDeleted_eq_ok] at h
    obtain ⟨hlive, -, -, hevents⟩ := h
    split at hevents
    · cases hevents
      exact allowed_singleton ⟨hlive, .characterRemoved _⟩
    · -- the second event is recorded by the scene without the beats
      cases hevents
      exact ⟨⟨hlive, .outfitBeatsCleared _⟩, allowed_singleton ⟨hlive, .characterRemoved _⟩⟩
  | addOutfitBeat =>
    simp only [handle, addOutfitBeat, check_eq_ok, checkNotDeleted_eq_ok] at h
    obtain ⟨hlive, -, -, -, hevents⟩ := h
    cases hevents
    -- the order is a `u32`, wrapped around or not
    refine allowed_singleton ⟨hlive, .outfitBeatAdded _ _ _ _ ?_⟩
    split
    · exact Nat.mod_lt _ (by omega)
    · omega
  | updateOutfitBeat =>
    simp only [handle, updateOutfitBeat, check_eq_ok, checkNotDeleted_eq_ok, ensure_eq_ok,
      any_order_iff] at h
    obtain ⟨hlive, -, -, hmem, hevents⟩ := h
    cases hevents
    exact allowed_singleton ⟨hlive, .outfitBeatUpdated _ _ _ _ hmem⟩
  | removeOutfitBeat =>
    simp only [handle, removeOutfitBeat, check_eq_ok, checkNotDeleted_eq_ok] at h
    obtain ⟨hlive, -, -, hevents⟩ := h
    -- one beat, or all of the character
    split at hevents
    · simp only [check_eq_ok, ensure_eq_ok, any_order_iff] at hevents
      cases hevents.2
      exact allowed_singleton ⟨hlive, .outfitBeatRemoved _ _ hevents.1⟩
    · simp only [check_eq_ok] at hevents
      cases hevents.2
      exact allowed_singleton ⟨hlive, .outfitBeatsCleared _⟩
  | scheduleOnShootingDay =>
    simp only [handle, scheduleOnShootingDay, check_eq_ok, checkNotDeleted_eq_ok, ensure_eq_ok] at h
    obtain ⟨hlive, -, hnew, hevents⟩ := h
    cases hevents
    exact allowed_singleton ⟨hlive, .shootingDayScheduled _ (by simpa using hnew)⟩
  | unscheduleFromShootingDay =>
    simp only [handle, unscheduleFromShootingDay, check_eq_ok, checkNotDeleted_eq_ok] at h
    obtain ⟨hlive, -, -, hevents⟩ := h
    cases hevents
    exact allowed_singleton ⟨hlive, .shootingDayUnscheduled _⟩
  | delete =>
    simp only [handle, delete] at h
    split at h
    · cases h
      trivial
    · next hlive =>
      split at h
      · cases h
      · cases h
        exact allowed_singleton ⟨by simpa using hlive, .deleted⟩

end SceneAggregate

/-! ## §2. Streams -/

/-- The event a stream of a scene starts with: nobody is in the scene. -/
inductive SceneEvent.Founds : SceneEvent → Prop
  | created (cmd : CreateScene) :
      Founds (.sceneCreated cmd.id cmd.episodeId cmd.details [] cmd.source .initial)

/-- The streams that start with the creation of a scene, event by event. -/
abbrev SceneStream : List SceneEvent → Prop := EventRun SceneEvent.Founds SceneAggregate.Records

/-- Every history of accepted commands that starts with the creation is such a stream. -/
theorem sceneStream_of_history (h : History SceneAggregate log)
    (hfounded : Founded SceneAggregate log) : SceneStream log := by
  refine h.eventRun hfounded ?_ ?_
  · intro cmd events hcmd hhandle
    cases cmd with
    | create c =>
      cases hhandle
      exact ⟨_, rfl, .created c⟩
    | _ => cases hcmd
  · intro scene cmd events hcmd hhandle
    refine handle_allowed hhandle ?_
    rintro c rfl
    exact hcmd rfl

/-- The beat an event adds. -/
def SceneEvent.addedBeat : SceneEvent → Option (Uuid × Nat)
  | .outfitBeatAdded _ characterId _ order _ _ => some (characterId, order)
  | _ => none

/-- The outfit beats of a scene, told apart by character and order. -/
def sceneBeats : ChildList SceneEvent.Founds SceneAggregate.Records (Uuid × Nat) where
  ids := beatKeys
  added := SceneEvent.addedBeat
  init := rfl
  first := by
    rintro e ⟨cmd⟩
    exact ⟨rfl, rfl⟩
  add := by
    rintro scene e a ⟨-, hemits⟩ hadded
    cases hemits with
    | outfitBeatAdded =>
      cases hadded
      exact List.map_append
    | _ => cases hadded
  keep := by
    rintro scene e ⟨-, hemits⟩ hadded
    cases hemits with
    | outfitBeatAdded => cases hadded
    | outfitBeatRemoved | outfitBeatsCleared => exact List.filter_sublist.map _
    -- an update rewrites a beat in its place
    | outfitBeatUpdated characterId order outfitId note =>
      show ((updateBeat characterId order _ scene.outfitBeats).map (·.key)).Sublist _
      rw [map_key_updateBeat]
      exact .refl _
    | _ => exact .refl _

/-- What no event but the creation sets. -/
theorem SceneAggregate.Emits.id_apply {self : SceneAggregate} (h : self.Emits e) :
    (self.apply e).id = self.id := by
  cases h with
  | _ => rfl

end Breakdown
