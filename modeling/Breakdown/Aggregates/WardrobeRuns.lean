/-
**THE STREAMS OF PIECES AND OUTFITS**, event by event.

Every accepted command on a piece or an outfit records at most one event. `Emits` says which, and
what the command found; `PieceRun` and `OutfitRun` are the streams that start with the creation and
go on like that.

- `PieceAggregate.handle_cases`, `pieceRun_of_history`: pieces;
- `OutfitAggregate.handle_cases`, `outfitRun_of_history`: outfits.
-/
import Breakdown.Aggregates.Versions
import Breakdown.EventStore.EventRuns

namespace Breakdown

open Fallible OutfitAggregate PieceAggregate

/-! ## §1. Pieces -/

namespace PieceAggregate

/-- The events that a piece lets commands record after it was created. -/
inductive Emits (self : PieceAggregate) : PieceEvent → Prop
  | renamed (name : String) : Emits self (.pieceRenamed self.id name self.version.next)
  | notesUpdated (notes : String) : Emits self (.pieceNotesUpdated self.id notes self.version.next)
  | addedToSeason (seasonId : SeasonId) (hnew : seasonId ∉ self.seasons) :
      Emits self (.pieceAddedToSeason self.id seasonId.uuid self.version.next)
  | removedFromSeason (seasonId : SeasonId) (hmem : seasonId ∈ self.seasons) :
      Emits self (.pieceRemovedFromSeason self.id seasonId.uuid self.version.next)
  | detailAdded (detail : PieceDetail) :
      Emits self (.pieceDetailAdded self.id detail self.version.next)
  | detailUpdated (detail : PieceDetail) (hmem : detail.id ∈ self.details.map (·.id)) :
      Emits self (.pieceDetailUpdated self.id detail self.version.next)
  | detailRemoved (detailId : Uuid) (hmem : detailId ∈ self.details.map (·.id)) :
      Emits self (.pieceDetailRemoved self.id detailId self.version.next)
  | categorySet (categoryId : Option CostumeCategoryId) :
      Emits self (.pieceCategorySet self.id categoryId self.version.next)
  | photoLinked (photoId : Uuid) (hnew : photoId ∉ self.photos) :
      Emits self (.piecePhotoLinked self.id photoId self.version.next)
  | photoUnlinked (photoId : Uuid) (hmem : photoId ∈ self.photos) :
      Emits self (.piecePhotoUnlinked self.id photoId self.version.next)
  | deleted : Emits self (.pieceDeleted self.id self.version.next)

/-- The events that a piece lets follow: none after its deletion. -/
structure Records (piece : PieceAggregate) (e : PieceEvent) : Prop where
  live : piece.deleted = false
  emits : piece.Emits e

variable {self : PieceAggregate} {events : List PieceEvent}

/-- What the checks of an update leave to its body. -/
theorem mutate_eq_ok {version} (h : self.mutate version body = .ok events) :
    self.deleted = false ∧ body = .ok events := by
  simp only [mutate, check_eq_ok, ensure_eq_ok, Bool.not_eq_true'] at h
  exact ⟨h.1, h.2.2⟩

theorem mem_detailIds :
    self.details.any (·.id = detailId) = true ↔ detailId ∈ self.details.map (·.id) := by
  simp

/-- What an accepted creation records. -/
theorem create_eq_ok (h : self.create cmd = .ok events) : ∃ name, events =
      [.pieceCreated cmd.id name cmd.categoryId (cmd.seasonId.map (·.uuid)) "" [] [] .initial] := by
  unfold create at h
  obtain ⟨name, -, hevents⟩ := seq_eq_ok.mp (check_eq_ok.mp h).2
  cases hevents
  exact ⟨name, rfl⟩

/-- **WHAT AN ACCEPTED COMMAND RECORDS**: nothing, or one event the piece allows. -/
theorem handle_cases (h : self.handle cmd = .ok events) (hcmd : ∀ c, cmd ≠ .create c) :
    events = [] ∨ ∃ e, events = [e] ∧ self.Records e := by
  cases cmd with
  | create c => exact absurd rfl (hcmd c)
  | rename =>
    obtain ⟨hlive, hbody⟩ := mutate_eq_ok h
    -- the name is trimmed first; a name the piece has records nothing
    obtain ⟨name, -, hevents⟩ := seq_eq_ok.mp hbody
    split at hevents
    · cases hevents
      exact .inl rfl
    · cases hevents
      exact .inr ⟨_, rfl, hlive, .renamed _⟩
  | updateNotes =>
    obtain ⟨hlive, hbody⟩ := mutate_eq_ok h
    cases (check_eq_ok.mp hbody).2
    exact .inr ⟨_, rfl, hlive, .notesUpdated _⟩
  | addToSeason =>
    obtain ⟨hlive, hbody⟩ := mutate_eq_ok h
    split at hbody
    · cases hbody
      exact .inl rfl
    · next hnew =>
      cases hbody
      exact .inr ⟨_, rfl, hlive, .addedToSeason _ (by simpa using hnew)⟩
  | removeFromSeason =>
    obtain ⟨hlive, hbody⟩ := mutate_eq_ok h
    split at hbody
    · next hmem =>
      cases hbody
      exact .inr ⟨_, rfl, hlive, .removedFromSeason _ (by simpa using hmem)⟩
    · cases hbody
      exact .inl rfl
  | addDetail =>
    obtain ⟨hlive, hbody⟩ := mutate_eq_ok h
    cases hbody
    exact .inr ⟨_, rfl, hlive, .detailAdded _⟩
  | updateDetail =>
    obtain ⟨hlive, hbody⟩ := mutate_eq_ok h
    simp only [check_eq_ok, ensure_eq_ok, mem_detailIds] at hbody
    cases hbody.2
    exact .inr ⟨_, rfl, hlive, .detailUpdated _ hbody.1⟩
  | removeDetail =>
    obtain ⟨hlive, hbody⟩ := mutate_eq_ok h
    simp only [check_eq_ok, ensure_eq_ok, mem_detailIds] at hbody
    cases hbody.2
    exact .inr ⟨_, rfl, hlive, .detailRemoved _ hbody.1⟩
  | setCategory =>
    obtain ⟨hlive, hbody⟩ := mutate_eq_ok h
    split at hbody
    · cases hbody
      exact .inl rfl
    · cases hbody
      exact .inr ⟨_, rfl, hlive, .categorySet _⟩
  | linkPhoto =>
    obtain ⟨hlive, hbody⟩ := mutate_eq_ok h
    simp only [check_eq_ok, ensure_eq_ok] at hbody
    cases hbody.2
    exact .inr ⟨_, rfl, hlive, .photoLinked _ (by simpa using hbody.1)⟩
  | unlinkPhoto =>
    obtain ⟨hlive, hbody⟩ := mutate_eq_ok h
    simp only [check_eq_ok, ensure_eq_ok] at hbody
    cases hbody.2
    exact .inr ⟨_, rfl, hlive, .photoUnlinked _ (by simpa using hbody.1)⟩
  | delete =>
    simp only [handle, delete] at h
    split at h
    · cases h
      exact .inl rfl
    · next hlive =>
      split at h
      · cases h
      · cases h
        exact .inr ⟨_, rfl, by simpa using hlive, .deleted⟩

theorem Emits.id_apply (h : self.Emits e) : (self.apply e).id = self.id := by
  cases h with
  | _ => rfl

end PieceAggregate

/-- The event a stream of a piece starts with: no notes, details or photos. -/
inductive PieceEvent.Founds : PieceEvent → Prop
  | created (id : Uuid) (name : String) (categoryId : Option CostumeCategoryId)
      (seasonId : Option Uuid) :
      Founds (.pieceCreated id name categoryId seasonId "" [] [] .initial)

/-- The streams that start with the creation of a piece, event by event. -/
abbrev PieceRun : List PieceEvent → Prop := EventRun PieceEvent.Founds PieceAggregate.Records

/-- Every history of accepted commands that starts with the creation is such a stream. -/
theorem pieceRun_of_history (h : History PieceAggregate log)
    (hfounded : Founded PieceAggregate log) : PieceRun log := by
  refine h.eventRun hfounded ?_ ?_
  · intro cmd events hcmd hhandle
    cases cmd with
    | create c =>
      have hcreate : create {} c = .ok events := hhandle
      obtain ⟨name, rfl⟩ := create_eq_ok hcreate
      exact ⟨_, rfl, .created ..⟩
    | _ => cases hcmd
  · intro piece cmd events hcmd hhandle
    have hcreate : ∀ c, cmd ≠ .create c := by
      rintro c rfl
      exact hcmd rfl
    exact allowed_of_cases (handle_cases hhandle hcreate)

/-! ## §2. Outfits -/

namespace OutfitAggregate

/-- The events that an outfit lets commands record after it was created. -/
inductive Emits (self : OutfitAggregate) : OutfitEvent → Prop
  | renamed (name : String) : Emits self (.outfitRenamed self.id name self.version.next)
  | notesUpdated (notes : String) : Emits self (.outfitNotesUpdated self.id notes self.version.next)
  | pieceAdded (pieceId : Uuid) (hnew : pieceId ∉ self.pieceIds) :
      Emits self (.outfitPieceAdded self.id pieceId self.pieceIds.length self.version.next)
  | pieceRemoved (pieceId : Uuid) (hmem : pieceId ∈ self.pieceIds) :
      Emits self (.outfitPieceRemoved self.id pieceId self.version.next)
  | photoLinked (photoId : Uuid) : Emits self (.outfitPhotoLinked self.id photoId self.version.next)
  | photoUnlinked (photoId : Uuid) :
      Emits self (.outfitPhotoUnlinked self.id photoId self.version.next)
  | deleted : Emits self (.outfitDeleted self.id self.version.next)

/-- The events that an outfit lets follow: none after its deletion. -/
structure Records (outfit : OutfitAggregate) (e : OutfitEvent) : Prop where
  live : outfit.deleted = false
  emits : outfit.Emits e

variable {self : OutfitAggregate} {events : List OutfitEvent}

theorem mutate_eq_ok {version} (h : self.mutate version body = .ok events) :
    self.deleted = false ∧ body = .ok events := by
  simp only [mutate, check_eq_ok, ensure_eq_ok, Bool.not_eq_true'] at h
  exact ⟨h.1, h.2.2⟩

/-- What an accepted creation records. -/
theorem create_eq_ok (h : self.create cmd = .ok events) : ∃ name, events =
      [.outfitCreated cmd.id cmd.characterId name (dedupPieces cmd.pieceIds) [] "" .initial] := by
  unfold create at h
  obtain ⟨name, -, hevents⟩ := seq_eq_ok.mp (check_eq_ok.mp h).2
  cases hevents
  exact ⟨name, rfl⟩

/-- …and of a variant. -/
theorem createVariant_eq_ok (h : self.createVariant cmd = .ok events) : ∃ name, events =
      [.outfitVariantCreated cmd.id cmd.sourceOutfitId cmd.characterId name
        (dedupPieces cmd.pieceIds) [] cmd.notes .initial] := by
  unfold createVariant at h
  obtain ⟨name, -, hevents⟩ := seq_eq_ok.mp (check_eq_ok.mp h).2
  cases hevents
  exact ⟨name, rfl⟩

/-- **WHAT AN ACCEPTED COMMAND RECORDS**: nothing, or one event the outfit allows. -/
theorem handle_cases (h : self.handle cmd = .ok events) (hcmd : ∀ c, cmd ≠ .create c)
    (hvariant : ∀ c, cmd ≠ .createVariant c) :
    events = [] ∨ ∃ e, events = [e] ∧ self.Records e := by
  cases cmd with
  | create c => exact absurd rfl (hcmd c)
  | createVariant c => exact absurd rfl (hvariant c)
  | rename =>
    obtain ⟨hlive, hbody⟩ := mutate_eq_ok h
    obtain ⟨name, -, hevents⟩ := seq_eq_ok.mp hbody
    split at hevents
    · cases hevents
      exact .inl rfl
    · cases hevents
      exact .inr ⟨_, rfl, hlive, .renamed _⟩
  | updateNotes =>
    obtain ⟨hlive, hbody⟩ := mutate_eq_ok h
    cases (check_eq_ok.mp hbody).2
    exact .inr ⟨_, rfl, hlive, .notesUpdated _⟩
  | addPiece =>
    obtain ⟨hlive, hbody⟩ := mutate_eq_ok h
    -- a piece that is there records nothing
    split at hbody
    · cases hbody
      exact .inl rfl
    · next hnew =>
      cases (check_eq_ok.mp hbody).2
      exact .inr ⟨_, rfl, hlive, .pieceAdded _ (by simpa using hnew)⟩
  | removePiece =>
    obtain ⟨hlive, hbody⟩ := mutate_eq_ok h
    split at hbody
    · next hmem =>
      cases hbody
      exact .inr ⟨_, rfl, hlive, .pieceRemoved _ (by simpa using hmem)⟩
    · cases hbody
      exact .inl rfl
  | linkPhoto =>
    obtain ⟨hlive, hbody⟩ := mutate_eq_ok h
    split at hbody
    · cases hbody
      exact .inl rfl
    · cases hbody
      exact .inr ⟨_, rfl, hlive, .photoLinked _⟩
  | unlinkPhoto =>
    obtain ⟨hlive, hbody⟩ := mutate_eq_ok h
    split at hbody
    · cases hbody
      exact .inr ⟨_, rfl, hlive, .photoUnlinked _⟩
    · cases hbody
      exact .inl rfl
  | delete =>
    simp only [handle, delete] at h
    split at h
    · cases h
      exact .inl rfl
    · next hlive =>
      split at h
      · cases h
      · cases h
        exact .inr ⟨_, rfl, by simpa using hlive, .deleted⟩

theorem Emits.id_apply (h : self.Emits e) : (self.apply e).id = self.id := by
  cases h with
  | _ => rfl

end OutfitAggregate

/-- The event a stream of an outfit starts with: no piece twice, no photo. -/
inductive OutfitEvent.Founds : OutfitEvent → Prop
  | created (id characterId : Uuid) (name : String) (pieceIds : List Uuid) :
      Founds (.outfitCreated id characterId name (dedupPieces pieceIds) [] ""
        .initial)
  | variantCreated (id sourceOutfitId characterId : Uuid) (name : String) (pieceIds : List Uuid)
      (notes : String) :
      Founds (.outfitVariantCreated id sourceOutfitId characterId name
        (dedupPieces pieceIds) [] notes .initial)

/-- The streams that start with the creation of an outfit or a variant, event by event. -/
abbrev OutfitRun : List OutfitEvent → Prop := EventRun OutfitEvent.Founds OutfitAggregate.Records

/-- Every history of accepted commands that starts with the creation is such a stream. -/
theorem outfitRun_of_history (h : History OutfitAggregate log)
    (hfounded : Founded OutfitAggregate log) : OutfitRun log := by
  refine h.eventRun hfounded ?_ ?_
  · intro cmd events hcmd hhandle
    cases cmd with
    | create c =>
      have hcreate : create {} c = .ok events := hhandle
      obtain ⟨name, rfl⟩ := create_eq_ok hcreate
      exact ⟨_, rfl, .created ..⟩
    | createVariant c =>
      have hcreate : createVariant {} c = .ok events := hhandle
      obtain ⟨name, rfl⟩ := createVariant_eq_ok hcreate
      exact ⟨_, rfl, .variantCreated ..⟩
    | _ => cases hcmd
  · intro outfit cmd events hcmd hhandle
    have hcreate : ∀ c, cmd ≠ .create c := by
      rintro c rfl
      exact hcmd rfl
    have hvariant : ∀ c, cmd ≠ .createVariant c := by
      rintro c rfl
      exact hcmd rfl
    exact allowed_of_cases (handle_cases hhandle hcreate hvariant)

end Breakdown
