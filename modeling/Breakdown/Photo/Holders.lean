/-
**WHO CAN HOLD A PHOTO: PIECES, OUTFITS AND SCENE SHOOTS.**

The three aggregates with a photo list, seen through the reference-counting library: every event is
an `Effect` on the list, and the list of a replayed aggregate is what its effects hold.

- `PhotoHolder.contains_replay`, `PhotoHolder.deleted_replay`: the photo list and the tombstone of
  a stream, read off its effects;
- `Careful`: what an accepted command may do to the list;
- `SceneShootAggregate.handle_photos`: a scene shoot unlinks whatever it is told to.
-/
import Breakdown.Lib.RefCount
import Breakdown.Aggregates.Wardrobe
import Breakdown.Aggregates.Shooting

namespace Breakdown

open RefCount Fallible List SceneShootEvent Entity

/-! ## §1. Photo holders -/

/-- An aggregate with a photo list. -/
class PhotoHolder (σ : Type) {ε κ χ : outParam Type} [Entity σ ε κ χ] where
  photos : σ → List Uuid
  deleted : σ → Bool
  effect : ε → Effect Uuid
  contains_init : ∀ p, (photos init).contains p = false := by exact fun _ => rfl
  deleted_init : deleted init = false := by rfl
  contains_apply : ∀ (s : σ) (e : ε) (p : Uuid),
    (photos (apply s e)).contains p = (effect e).apply (fun p => (photos s).contains p) p
  deleted_apply : ∀ (s : σ) (e : ε), deleted (apply s e) = (deleted s || effect e == .closed)

namespace PhotoHolder

variable (σ : Type) {ε κ χ : Type} [Entity σ ε κ χ] [PhotoHolder σ]

/-- The photo effects of a stream. -/
def effects (log : List ε) : List (Effect Uuid) := log.map (effect σ)

@[simp] theorem effects_nil : effects σ ([] : List ε) = [] := rfl

@[simp] theorem effects_append (log events) :
    effects σ (log ++ events) = effects σ log ++ effects σ events := map_append

@[simp] theorem effects_singleton (e) : effects σ [e] = [effect σ e] := rfl

theorem effects_prefix (h : log <+: log') :
    effects σ log <+: effects σ log' := List.IsPrefix.map _ h

/-- The photos an aggregate lists are those its effects hold. -/
theorem contains_replay (log p) : (photos (replay σ log)).contains p = held (effects σ log) p := by
  induction log using reverseRecOn generalizing p with
  | nil => exact contains_init p
  | append_singleton log e ih =>
    rw [replay_append, foldl_cons, foldl_nil, contains_apply, effects_append,
      effects_singleton, held_concat]
    congr 1
    funext q
    exact ih q

theorem deleted_replay (log) : deleted (replay σ log) = closed (effects σ log) := by
  induction log using reverseRecOn with
  | nil => exact deleted_init
  | append_singleton log e ih =>
    rw [replay_append, foldl_cons, foldl_nil, deleted_apply, ih, effects_append,
      effects_singleton, closed_concat]

/-- What an accepted command may do to a photo list: nothing, or one event that neither starts with
photos nor unlinks a photo that is not listed. -/
def Careful (s : σ) (events : List ε) : Prop :=
  events = [] ∨ ∃ e, events = [e] ∧ (∀ items, effect σ e = .reset items → items = []) ∧
    ∀ p, effect σ e = .unlinked p → (photos s).contains p = true

variable {σ}

/-- Careful commands keep a stream's effects well-formed. -/
theorem Careful.wellFormed (hwf : WellFormed (effects σ log))
    (h : Careful σ (replay σ log) events) : WellFormed (effects σ (log ++ events)) := by
  obtain rfl | ⟨e, rfl, hreset, hunlinked⟩ := h
  · rwa [append_nil]
  · rw [effects_append, effects_singleton]
    refine hwf.concat hreset fun p hp => ?_
    rw [← contains_replay]
    exact hunlinked p hp

end PhotoHolder

/-! ## §2. Pieces -/

def PieceEvent.photoEffect : PieceEvent → Effect Uuid
  | .pieceCreated _ _ _ _ _ _ photos _ => .reset photos
  | .piecePhotoLinked _ photoId _ => .linked photoId
  | .piecePhotoUnlinked _ photoId _ => .unlinked photoId
  | .pieceDeleted _ _ => .closed
  | _ => .other

theorem contains_pushNew (photos : List Uuid) (q p : Uuid) :
    (if photos.contains q then photos else photos ++ [q]).contains p =
      (p == q || photos.contains p) := by
  rw [Bool.eq_iff_iff]
  split
  · next hq =>
    rw [contains_iff_mem] at hq
    simp only [contains_iff_mem, Bool.or_eq_true, beq_iff_eq]
    exact ⟨.inr, fun h => h.elim (fun hpq => hpq ▸ hq) id⟩
  · simp [or_comm]

theorem contains_filterNe (photos : List Uuid) (q p : Uuid) :
    (photos.filter (· ≠ q)).contains p = (p != q && photos.contains p) := by
  rw [Bool.eq_iff_iff]
  simp [and_comm]

instance : PhotoHolder PieceAggregate where
  photos := fun self => self.photos
  deleted := fun self => self.deleted
  effect := PieceEvent.photoEffect
  contains_apply self e p := by
    cases e <;> first
        | exact contains_pushNew ..
        | exact contains_filterNe ..
        | rfl
  deleted_apply self e := by
    cases e <;> simp [apply, PieceAggregate.apply, PieceEvent.photoEffect]

/-! ## §3. Outfits -/

def OutfitEvent.photoEffect : OutfitEvent → Effect Uuid
  | .outfitCreated _ _ _ _ photos _ _ => .reset photos
  | .outfitVariantCreated _ _ _ _ _ photos _ _ => .reset photos
  | .outfitPhotoLinked _ photoId _ => .linked photoId
  | .outfitPhotoUnlinked _ photoId _ => .unlinked photoId
  | .outfitDeleted _ _ => .closed
  | _ => .other

instance : PhotoHolder OutfitAggregate where
  photos := fun self => self.photos
  deleted := fun self => self.deleted
  effect := OutfitEvent.photoEffect
  contains_apply self e p := by
    cases e <;> first
        | exact contains_pushNew ..
        | exact contains_filterNe ..
        | rfl
  deleted_apply self e := by
    cases e <;> simp [apply, OutfitAggregate.apply, OutfitEvent.photoEffect]

/-! ## §4. Scene shoots -/

def SceneShootEvent.photoEffect : SceneShootEvent → Effect Uuid
  | .sceneShootPlanned .. => .reset []
  | .continuityPhotoLinked _ photoId _ => .linked photoId.uuid
  | .continuityPhotoUnlinked _ photoId _ => .unlinked photoId.uuid
  | .sceneShootDeleted _ _ => .closed
  | _ => .other

theorem photoId_uuid_injective : Function.Injective PhotoId.uuid := by
  rintro ⟨a⟩ ⟨b⟩ rfl
  rfl

instance : PhotoHolder SceneShootAggregate where
  photos := fun self => self.continuityPhotos.map PhotoId.uuid
  deleted := fun self => self.deleted
  effect := photoEffect
  contains_apply self e p := by
    cases e with
    | continuityPhotoLinked =>
      rw [Bool.eq_iff_iff]
      simp [apply, SceneShootAggregate.apply, photoEffect, Effect.apply, or_comm]
    | continuityPhotoUnlinked =>
      rw [Bool.eq_iff_iff]
      simp only [apply, SceneShootAggregate.apply, photoEffect, Effect.apply,
        List.contains_iff_mem, List.mem_map, List.mem_filter, decide_eq_true_eq, Bool.and_eq_true,
        bne_iff_ne, ne_eq]
      constructor
      · rintro ⟨q, ⟨hq, hne⟩, rfl⟩
        exact ⟨fun h => hne (photoId_uuid_injective h), q, hq, rfl⟩
      · rintro ⟨hne, q, hq, rfl⟩
        exact ⟨q, ⟨hq, fun h => hne (congrArg PhotoId.uuid h)⟩, rfl⟩
    | _ => rfl
  deleted_apply self e := by
    cases e <;> simp [apply, SceneShootAggregate.apply, photoEffect]

namespace SceneShootAggregate

/-- The photo a command unlinks. -/
def unlinkedPhoto : SceneShootCommand → Option PhotoId
  | .unlinkContinuityPhoto cmd => some cmd.photoId
  | _ => none

/-- A scene shoot is as careful as the unlink commands it is given. -/
theorem handle_photos (h : self.handle cmd = .ok events)
    (hunlink : ∀ p, unlinkedPhoto cmd = some p → p ∈ self.continuityPhotos) :
    PhotoHolder.Careful SceneShootAggregate self events := by
  have hmem : ∀ p, unlinkedPhoto cmd = some p →
      (self.continuityPhotos.map PhotoId.uuid).contains p.uuid = true := by
    intro p hp
    exact contains_iff_mem.2 (mem_map_of_mem (hunlink p hp))
  have hemits : events = [] ∨ ∃ e, events = [e] ∧
      (∀ items, e.photoEffect = .reset items → items = []) ∧
      ∀ p, e.photoEffect = .unlinked p → ∃ q, unlinkedPhoto cmd = some q ∧ q.uuid = p := by
    cases cmd <;>
      simp only [handle, plan, replan, start, setActualOrder, finish, skip, addNote, updateNote,
        removeNote, linkContinuityPhoto, unlinkContinuityPhoto, delete, check_eq_ok,
        ensure_eq_ok] at h <;>
      grind [photoEffect, unlinkedPhoto]
  obtain rfl | ⟨e, rfl, hreset, hunlinked⟩ := hemits
  · exact .inl rfl
  · refine .inr ⟨e, rfl, hreset, fun p hp => ?_⟩
    obtain ⟨q, hq, rfl⟩ := hunlinked p hp
    exact hmem q hq

end SceneShootAggregate

end Breakdown
