/-
**WHERE STREAMS START AND WHERE THEY END.**

A create expects an empty stream and an update a version, so neither can be the wrong first event.
That leaves the commands sent without expectation: `ensure_day_open`, `add_note`, and the deletes of
the dev reset. The delete handlers recognise an absent aggregate by its nil id — but the ids of a
default scene shoot and of a default shooting day are freshly drawn, never nil.

- `streams_start_with_their_creation`: no stream is fabricated, unless one of those two deletes hits
  a stream that is empty;
- `deletes_fabricate_streams`: which they do;
- `deletion_is_final`: after the deletion nothing is appended, and nothing but
  another delete is accepted.
-/
import Breakdown.Aggregates.Versions
import Breakdown.EventStore.SoleWriter

namespace Breakdown

open EventLog Fallible

/-! ## §1. The first event -/

/-- Calls that meet `ok` never let a stream start with anything but its creation. -/
def StartsWithCreation (σ : Type) {ε κ χ : Type} [Entity σ ε κ χ] [Versioned σ ε κ χ]
    (ok : List ε → κ → Prop) : Prop :=
  ∀ log, Calls σ ok log → log = [] ∨ Founded σ log

/-- A command without expectation that is refused by the default state, or does nothing to it, cannot
be the first to write. -/
theorem StartsWithCreation.of_founds [Entity σ ε κ χ] [Versioned σ ε κ χ]
    [LawfulVersioned σ ε κ χ] (hok : ∀ cmd, ok [] cmd → Founds σ cmd) : StartsWithCreation σ ok :=
  fun _ h => h.founded hok

/-- No delete reaches a shooting day that does not exist. -/
def KnownDay (log : List ShootingDayEvent) : ShootingDayCommand → Prop
  | .delete _ => log ≠ []
  | _ => True

/-- No delete reaches a scene shoot that does not exist, and no note names the day id that
`ShootingDayId::default()` has just drawn for it. -/
def KnownShoot (log : List SceneShootEvent) : SceneShootCommand → Prop
  | .delete _ => log ≠ []
  | .addNote cmd => log = [] → cmd.shootingDayId ≠ (Entity.init : SceneShootAggregate).shootingDayId
  | _ => True

/-- Deletes of an absent scene, piece, outfit, character or episode are refused. -/
theorem SceneAggregate.founds (cmd) : Founds SceneAggregate cmd := by
  intro hfree events h
  cases cmd with
  | delete => cases h
  | _ => cases hfree

theorem PieceAggregate.founds (cmd) : Founds PieceAggregate cmd := by
  intro hfree events h
  cases cmd with
  | delete => cases h
  | _ => cases hfree

theorem OutfitAggregate.founds (cmd) : Founds OutfitAggregate cmd := by
  intro hfree events h
  cases cmd with
  | delete => cases h
  | _ => cases hfree

theorem CharacterAggregate.founds (cmd) : Founds CharacterAggregate cmd := by
  intro hfree events h
  cases cmd with
  | delete => cases h
  | _ => cases hfree

theorem EpisodeAggregate.founds (cmd) : Founds EpisodeAggregate cmd := by
  intro hfree events h
  cases cmd with
  | delete => cases h
  | _ => cases hfree

/-- The probe of a day writes nothing, also when there is no day. -/
theorem ShootingDayAggregate.founds (hok : KnownDay [] cmd) : Founds ShootingDayAggregate cmd := by
  intro hfree events h
  cases cmd with
  | delete => exact absurd rfl hok
  | ensureOpen =>
    cases h
    rfl
  | _ => cases hfree

/-- A note is checked against the day of the shoot. -/
theorem SceneShootAggregate.founds (hok : KnownShoot [] cmd) : Founds SceneShootAggregate cmd := by
  intro hfree events h
  cases cmd with
  | delete => exact absurd rfl hok
  | addNote =>
    simp only [Entity.handle, handle, addNote, checkDayAssociation, check_eq_ok, ensure_eq_ok,
      decide_eq_true_eq] at h
    exact absurd h.2.1.symm (hok rfl)
  | _ => cases hfree

/-- An aggregate without free commands. -/
theorem Founds.of_expectation [Entity σ ε κ χ] [Versioned σ ε κ χ]
    (h : Versioned.dispatching σ cmd ≠ .free) : Founds σ cmd :=
  fun hfree => absurd hfree h

/-- **STREAMS START WITH THEIR CREATION**, in every sequence of adapter calls and dev-reset deletes in
which no delete reaches an absent scene shoot or shooting day; and the other five deletes are
refused by an absent aggregate. -/
theorem streams_start_with_their_creation (scene : DeleteScene) (piece : DeletePiece)
    (outfit : DeleteOutfit) (character : DeleteCharacter) (episode : DeleteEpisode) :
    (StartsWithCreation SceneAggregate (fun _ _ => True) ∧
      StartsWithCreation PieceAggregate (fun _ _ => True) ∧
      StartsWithCreation OutfitAggregate (fun _ _ => True) ∧
      StartsWithCreation CharacterAggregate (fun _ _ => True) ∧
      StartsWithCreation EpisodeAggregate (fun _ _ => True) ∧
      StartsWithCreation PhotoAggregate (fun _ _ => True) ∧
      StartsWithCreation SeasonAggregate (fun _ _ => True) ∧
      StartsWithCreation BlockAggregate (fun _ _ => True) ∧
      StartsWithCreation CostumeCategoryAggregate (fun _ _ => True) ∧
      StartsWithCreation SettingsAggregate (fun _ _ => True) ∧
      StartsWithCreation AiConfig (fun _ _ => True) ∧
      StartsWithCreation ShootingDayAggregate KnownDay ∧
      StartsWithCreation SceneShootAggregate KnownShoot) ∧
    SoleWriter.executeOn SceneAggregate [] .any (.delete scene) =
      ([], .error (.handle (.notFound scene.id))) ∧
    SoleWriter.executeOn PieceAggregate [] .any (.delete piece) =
      ([], .error (.handle (.notFound piece.id))) ∧
    SoleWriter.executeOn OutfitAggregate [] .any (.delete outfit) =
      ([], .error (.handle (.notFound outfit.id))) ∧
    SoleWriter.executeOn CharacterAggregate [] .any (.delete character) =
      ([], .error (.handle (.notFound character.id))) ∧
    SoleWriter.executeOn EpisodeAggregate [] .any (.delete episode) =
      ([], .error (.handle (.notFound episode.id))) := by
  refine ⟨⟨?_, ?_, ?_, ?_, ?_, ?_, ?_, ?_, ?_, ?_, ?_, ?_, ?_⟩, ?_, ?_, ?_, ?_, ?_⟩
  · exact .of_founds fun cmd _ => SceneAggregate.founds cmd
  · exact .of_founds fun cmd _ => PieceAggregate.founds cmd
  · exact .of_founds fun cmd _ => OutfitAggregate.founds cmd
  · exact .of_founds fun cmd _ => CharacterAggregate.founds cmd
  · exact .of_founds fun cmd _ => EpisodeAggregate.founds cmd
  -- the other six have no command without expectation
  iterate 4
    · exact .of_founds fun cmd _ => .of_expectation (by cases cmd <;> simp)
  · exact .of_founds fun dispatch _ => .of_expectation (by cases h : dispatch.command <;> simp [h])
  · exact .of_founds fun cmd _ => .of_expectation (by cases cmd <;> simp)
  · exact .of_founds fun cmd h => ShootingDayAggregate.founds h
  · exact .of_founds fun cmd h => SceneShootAggregate.founds h
  all_goals rfl

/-- **TWO DELETES FABRICATE STREAMS.** Deleting a scene shoot or a shooting day that never existed
appends the deletion to an empty stream. -/
theorem deletes_fabricate_streams :
    (∃ log, Calls SceneShootAggregate (fun _ _ => True) log ∧ log ≠ [] ∧
      ¬Founded SceneShootAggregate log) ∧
    (∃ log, Calls ShootingDayAggregate (fun _ _ => True) log ∧ log ≠ [] ∧
      ¬Founded ShootingDayAggregate log) := by
  have hshoot : callAll SceneShootAggregate [.delete ⟨⟨⟨7⟩⟩⟩] =
      [.sceneShootDeleted ⟨.placeholderV7⟩ 2] := by decide +kernel
  have hday : callAll ShootingDayAggregate [.delete ⟨⟨⟨7⟩⟩⟩] =
      [.shootingDayDeleted ⟨.placeholderV7⟩ 2] := by decide +kernel
  refine ⟨⟨_, calls_callAll [.delete ⟨⟨⟨7⟩⟩⟩], ?_, ?_⟩, ⟨_, calls_callAll [.delete ⟨⟨⟨7⟩⟩⟩], ?_, ?_⟩⟩
  · rw [hshoot]
    simp
  · rw [hshoot]
    rintro ⟨e, he, hcreation⟩
    cases he
    cases hcreation
  · rw [hday]
    simp
  · rw [hday]
    rintro ⟨e, he, hcreation⟩
    cases he
    cases hcreation

/-! ## §2. The last event -/

/-- An aggregate that can be deleted. -/
class Deletable (σ : Type) (ε κ χ : outParam Type) [Entity σ ε κ χ] where
  deleted : σ → Bool
  isDeletion : ε → Bool
  isDelete : κ → Bool
  /-- The flag is set by the deletion and never taken back. -/
  deleted_apply : ∀ {s : σ} {e : ε}, deleted s = true ∨ isDeletion e = true →
    deleted (Entity.apply s e) = true := by
      intro s e h
      cases e <;> simp_all [apply]
  not_idempotent : ∀ {s : σ} {cmd : κ}, deleted s = true →
    Entity.isStateIdempotent s cmd = false := by exact fun _ => rfl
  /-- A deleted aggregate answers a delete without events and everything else with an error. -/
  handle_ends : ∀ {s : σ} {cmd : κ}, deleted s = true →
    Ends (fun events => isDelete cmd = true ∧ events = []) (fun _ => isDelete cmd = false)
      (Entity.handle s cmd) := by
        intro s cmd h
        cases cmd <;> simp [h]

section Deletion

variable {σ ε κ χ : Type} [Entity σ ε κ χ] [Deletable σ ε κ χ]

theorem foldl_deleted {s : σ} (events : List ε) (h : Deletable.deleted s) :
    Deletable.deleted (events.foldl Entity.apply s) := by
  induction events generalizing s with
  | nil => exact h
  | cons e rest ih => exact ih (Deletable.deleted_apply (.inl h))

/-- The deletion is in the stream, so the aggregate is deleted. -/
theorem replay_deleted (he : e ∈ log) (hdeletion : Deletable.isDeletion σ e) :
    Deletable.deleted (Entity.replay σ log) := by
  obtain ⟨before, after, rfl⟩ := List.append_of_mem he
  rw [replay_append, List.foldl_cons]
  exact foldl_deleted after (Deletable.deleted_apply (.inr hdeletion))

/-- Where only the deletion sets the flag, a stream without one is not deleted. -/
theorem replay_not_deleted (hinit : Deletable.deleted (Entity.init : σ) = false)
    (hflag : ∀ (s : σ) (e : ε),
      Deletable.deleted (Entity.apply s e) = (Deletable.isDeletion σ e || Deletable.deleted s))
    (hkept : ∀ e ∈ log, Deletable.isDeletion σ e = false) :
    Deletable.deleted (Entity.replay σ log) = false := by
  suffices h : ∀ s : σ, Deletable.deleted s = false →
      Deletable.deleted (log.foldl Entity.apply s) = false from h _ hinit
  induction log with
  | nil => exact fun s hs => hs
  | cons e rest ih =>
    intro s hs
    refine ih (fun e' he' => hkept e' (List.mem_cons_of_mem e he')) _ ?_
    rw [hflag, hkept e List.mem_cons_self, hs]
    rfl

/-- A stream with a deletion in it decides no further events. -/
theorem not_decided_of_deleted
    (h : Deletable.deleted (Entity.replay σ log)) : ¬Decided σ log expected cmd events :=
  fun hdecided => hdecided.nonempty ((Deletable.handle_ends h).ok hdecided.handled).2

end Deletion

/-- **WHAT A DELETION ENDS**, for every stream it is in and every further command: no actor appends
anything, however far its cache lags; and an actor at the end of the stream answers everything
but a delete with an error. -/
structure DeletionIsFinal (σ : Type) {ε κ χ : Type} [Entity σ ε κ χ] [Deletable σ ε κ χ] : Prop where
  silent : ∀ {log : List ε} {e : ε}, e ∈ log → Deletable.isDeletion σ e = true →
    ∀ {st : EntityActorState σ}, st.Follows log →
    ∀ (expected : ExpectedVersion) (cmd : κ) (outcome : AppendOutcome) (retries : Nat),
      (handleExecute st log expected cmd outcome retries).2.1 = log
  refused : ∀ {log : List ε} {e : ε}, e ∈ log → Deletable.isDeletion σ e = true →
    ∀ (expected : ExpectedVersion) (cmd : κ), Deletable.isDelete σ cmd = false →
      ∃ err, (SoleWriter.executeOn σ log expected cmd).2 = .error err

theorem deletionIsFinal [Entity σ ε κ χ] [Deletable σ ε κ χ] : DeletionIsFinal σ where
  silent {log e} he hdeletion st hfollows expected cmd outcome retries := by
    obtain ⟨-, hlog, -⟩ | ⟨events, hdecided, -⟩ :=
      handleExecute_cases retries hfollows (Eq.refl (handleExecute st log expected cmd outcome retries))
    · exact hlog
    · exact absurd hdecided (not_decided_of_deleted (replay_deleted he hdeletion))
  refused {log e} he hdeletion expected cmd hcmd := by
    have hdeleted := replay_deleted he hdeletion
    rw [SoleWriter.executeOn_eq]
    unfold SoleWriter.decideOn
    rw [Deletable.not_idempotent hdeleted]
    split
    · -- the handler is asked, and a deleted aggregate has only one way to answer
      cases hhandle : Entity.handle (Entity.replay σ log) cmd with
      | error => exact ⟨_, rfl⟩
      | ok =>
        have hdelete := ((Deletable.handle_ends hdeleted).ok hhandle).1
        rw [hcmd] at hdelete
        cases hdelete
    · exact ⟨_, rfl⟩

/-! ### The seven deletable aggregates -/

attribute [local simp] Entity.apply Entity.handle

/-- The last event of a scene. -/
@[simp] def SceneEvent.isDeletion : SceneEvent → Bool
  | .sceneDeleted .. => true
  | _ => false

open SceneAggregate in
instance : Deletable SceneAggregate _ _ _ where
  deleted := SceneAggregate.deleted
  isDeletion := SceneEvent.isDeletion
  isDelete
    | .delete _ => true
    | _ => false
  not_idempotent {s cmd} h := by cases cmd <;> simp [Entity.isStateIdempotent, isStateIdempotent, h]

/-- The last event of a scene shoot. -/
@[simp] def SceneShootEvent.isDeletion : SceneShootEvent → Bool
  | .sceneShootDeleted .. => true
  | _ => false

open SceneShootAggregate in
instance : Deletable SceneShootAggregate _ _ _ where
  deleted := SceneShootAggregate.deleted
  isDeletion := SceneShootEvent.isDeletion
  isDelete
    | .delete _ => true
    | _ => false

open ShootingDayAggregate in
instance : Deletable ShootingDayAggregate _ _ _ where
  deleted := ShootingDayAggregate.deleted
  isDeletion
    | .shootingDayDeleted .. => true
    | _ => false
  isDelete
    | .delete _ => true
    | _ => false

/-- The last event of a piece. -/
@[simp] def PieceEvent.isDeletion : PieceEvent → Bool
  | .pieceDeleted .. => true
  | _ => false

open PieceAggregate in
instance : Deletable PieceAggregate _ _ _ where
  deleted := PieceAggregate.deleted
  isDeletion := PieceEvent.isDeletion
  isDelete
    | .delete _ => true
    | _ => false

/-- The last event of an outfit. -/
@[simp] def OutfitEvent.isDeletion : OutfitEvent → Bool
  | .outfitDeleted .. => true
  | _ => false

open OutfitAggregate in
instance : Deletable OutfitAggregate _ _ _ where
  deleted := OutfitAggregate.deleted
  isDeletion := OutfitEvent.isDeletion
  isDelete
    | .delete _ => true
    | _ => false

open CharacterAggregate in
instance : Deletable CharacterAggregate _ _ _ where
  deleted := CharacterAggregate.deleted
  isDeletion
    | .characterDeleted .. => true
    | _ => false
  isDelete
    | .delete _ => true
    | _ => false

open EpisodeAggregate in
instance : Deletable EpisodeAggregate _ _ _ where
  deleted := EpisodeAggregate.deleted
  isDeletion
    | .episodeDeleted .. => true
    | _ => false
  isDelete
    | .delete _ => true
    | _ => false

/-- **DELETION IS TERMINAL**, for all seven aggregates that can be deleted. -/
theorem deletion_is_final : DeletionIsFinal SceneAggregate ∧ DeletionIsFinal SceneShootAggregate ∧
    DeletionIsFinal ShootingDayAggregate ∧ DeletionIsFinal PieceAggregate ∧
    DeletionIsFinal OutfitAggregate ∧ DeletionIsFinal CharacterAggregate ∧
    DeletionIsFinal EpisodeAggregate :=
  ⟨deletionIsFinal, deletionIsFinal, deletionIsFinal, deletionIsFinal, deletionIsFinal,
    deletionIsFinal, deletionIsFinal⟩

/-- A deleted scene takes no character any more. -/
theorem deletion_is_final_scene : ∃ err, (SoleWriter.executeOn SceneAggregate
      (callAll SceneAggregate [.create ⟨⟨1⟩, ⟨⟨2⟩⟩, {}, .manual⟩, .delete ⟨⟨1⟩⟩]) (.exact 1)
      (.assignCharacter ⟨⟨1⟩, ⟨3⟩, 2⟩)).2 = .error err := by
  have hdeleted : SceneEvent.sceneDeleted ⟨1⟩ 2 ∈
      callAll SceneAggregate [.create ⟨⟨1⟩, ⟨⟨2⟩⟩, {}, .manual⟩, .delete ⟨⟨1⟩⟩] := by decide +kernel
  exact deletion_is_final.1.refused hdeleted rfl _ _ rfl

end Breakdown
