/-
**COMMANDS WITHOUT EFFECT, AND WHAT THEIR CALLERS HEAR.**

Repeating a command should be harmless: many handlers return no events when the aggregate already is
what the command asks for, and their comments promise the caller the current version. The reply of
the actor is an empty list then, and it is the method of the adapter that has to read it as a
success. The methods of pieces and outfits do. Five methods hand it to `map_version_only`, which
knows an empty list only as a conflict.

Per kind: the methods (`infra/src/event_store/command_adapters.rs`) and the commands that are refused
that way; the handlers are gone through once (`LawfulAdapters`).

- `noops_answered`: a command without effect is answered with the current version, unless it is
  one of the five or the actor lags behind its stream;
- `noops_that_conflict`: the five.
-/
import Breakdown.Aggregates.Versions
import Breakdown.EventStore.Methods
import Breakdown.Membership.Aggregate

namespace Breakdown

open EventLog Fallible

/-! ## §1. The methods of the thirteen kinds -/

/-! ### Scenes -/

/-- `SceneCommands`; the delete belongs to the dev reset. -/
def SceneCommand.method : SceneCommand → Option Method
  | .delete _ => none
  | _ => some {}

attribute [local simp] Entity.handle

instance : Adapters SceneAggregate _ _ _ := ⟨SceneCommand.method, fun _ => false⟩

open SceneAggregate in
/-- Scheduling has an idempotency hook; no other command of a scene is ever without effect. -/
instance : LawfulAdapters SceneAggregate _ _ _ where
  noop {s cmd method} hnoop hmethod := by
    cases cmd with
    | delete => cases hmethod
    | scheduleOnShootingDay c =>
      cases hmethod
      -- the handler never returns an empty list, so it was the hook
      refine ⟨⟨c.version, rfl⟩, .inr ⟨rfl, rfl, .inl ?_⟩⟩
      refine hnoop.resolve_right ?_
      intro hhandle
      have hends : Ends (fun events => events ≠ []) (fun _ => True)
          (Entity.handle s (.scheduleOnShootingDay c : SceneCommand)) := by
        simp
      exact hends.ok hhandle rfl
    | removeOutfitBeat c =>
      refine absurd hnoop (not_noop rfl ?_)
      obtain ⟨id, characterId, _ | order, version⟩ := c <;> simp
    | _ =>
      refine absurd hnoop (not_noop rfl ?_)
      simp

/-! ### Scene shoots -/

/-- `SceneShootCommands`: what belongs to the shooting itself looks at the day first. -/
def SceneShootCommand.method : SceneShootCommand → Option Method
  | .plan _ | .replan _ | .linkContinuityPhoto _ | .unlinkContinuityPhoto _ => some {}
  | .start _ | .setActualOrder _ | .finish _ | .skip _ | .addNote _ | .updateNote _
  | .removeNote _ => some { checksDay := true }
  | .delete _ => none

/-- Starting again at the same time. -/
def SceneShootCommand.refused : SceneShootCommand → Bool
  | .start _ => true
  | _ => false

instance : Adapters SceneShootAggregate _ _ _ :=
  ⟨SceneShootCommand.method, SceneShootCommand.refused⟩

open SceneShootAggregate in
instance : LawfulAdapters SceneShootAggregate _ _ _ where
  noop {s cmd method} hnoop hmethod := by
    cases cmd with
    | delete => cases hmethod
    -- the same start again; the method locks the day first
    | start c =>
      cases hmethod
      exact ⟨⟨c.version, rfl⟩, .inl ⟨rfl, rfl, rfl⟩⟩
    | _ c =>
      refine absurd hnoop (not_noop rfl ?_)
      simp

/-! ### Shooting days -/

/-- `ShootingDayCommands`; the probe is sent by the methods of scene shoots, and wrapping waits for
them. -/
def ShootingDayCommand.method : ShootingDayCommand → Option Method
  | .create _ | .rename _ | .reschedule _ | .reorder _ | .archive _ => some {}
  | .wrap _ => some { checksDay := true }
  | .ensureOpen _ | .delete _ => none

/-- Wrapping again. -/
def ShootingDayCommand.refused : ShootingDayCommand → Bool
  | .wrap _ => true
  | _ => false

instance : Adapters ShootingDayAggregate _ _ _ :=
  ⟨ShootingDayCommand.method, ShootingDayCommand.refused⟩

open ShootingDayAggregate in
instance : LawfulAdapters ShootingDayAggregate _ _ _ where
  noop {s cmd method} hnoop hmethod := by
    cases cmd with
    | delete | ensureOpen => cases hmethod
    | wrap c =>
      cases hmethod
      exact ⟨⟨c.version, rfl⟩, .inl ⟨rfl, rfl, rfl⟩⟩
    | _ =>
      refine absurd hnoop (not_noop rfl ?_)
      simp

/-! ### Pieces -/

/-- `PieceCommands`. -/
def PieceCommand.method : PieceCommand → Option Method
  | .rename _ | .addToSeason _ | .removeFromSeason _ | .setCategory _ =>
    some { mapping := .stateBasedNoop }
  | .create _ | .updateNotes _ | .addDetail _ | .updateDetail _ | .removeDetail _ | .linkPhoto _
  | .unlinkPhoto _ => some {}
  | .delete _ => none

instance : Adapters PieceAggregate _ _ _ := ⟨PieceCommand.method, fun _ => false⟩

open PieceAggregate in
instance : LawfulAdapters PieceAggregate _ _ _ where
  noop {s cmd method} hnoop hmethod := by
    cases cmd with
    | delete => cases hmethod
    -- the four that may find nothing to do, and whose methods know it
    | rename c | addToSeason c | removeFromSeason c | setCategory c =>
      cases hmethod
      exact ⟨⟨c.version, rfl⟩, .inr ⟨rfl, rfl, .inr rfl⟩⟩
    | _ c =>
      refine absurd hnoop (not_noop rfl ?_)
      simp

/-! ### Outfits -/

/-- `OutfitCommands`. -/
def OutfitCommand.method : OutfitCommand → Option Method
  | .rename _ | .addPiece _ | .removePiece _ | .linkPhoto _ | .unlinkPhoto _ =>
    some { mapping := .stateBasedNoop }
  | .create _ | .createVariant _ | .updateNotes _ => some {}
  | .delete _ => none

instance : Adapters OutfitAggregate _ _ _ := ⟨OutfitCommand.method, fun _ => false⟩

open OutfitAggregate in
instance : LawfulAdapters OutfitAggregate _ _ _ where
  noop {s cmd method} hnoop hmethod := by
    cases cmd with
    | delete => cases hmethod
    | rename c | addPiece c | removePiece c | linkPhoto c | unlinkPhoto c =>
      cases hmethod
      exact ⟨⟨c.version, rfl⟩, .inr ⟨rfl, rfl, .inr rfl⟩⟩
    | _ =>
      refine absurd hnoop (not_noop rfl ?_)
      simp

/-! ### Photos -/

/-- `PhotoCommands`. -/
def PhotoCommand.method : PhotoCommand → Option Method
  | _ => some {}

/-- Normalizing again, and generating a variant that is already there. -/
def PhotoCommand.refused : PhotoCommand → Bool
  | .normalizeOriginal _ | .generateVariant _ => true
  | _ => false

instance : Adapters PhotoAggregate _ _ _ := ⟨PhotoCommand.method, PhotoCommand.refused⟩

open PhotoAggregate in
instance : LawfulAdapters PhotoAggregate _ _ _ where
  noop {s cmd method} hnoop hmethod := by
    cases cmd with
    -- a redelivered upload asks for what is there
    | normalizeOriginal c | generateVariant c =>
      cases hmethod
      exact ⟨⟨c.version, rfl⟩, .inl ⟨rfl, rfl, rfl⟩⟩
    | _ c =>
      refine absurd hnoop (not_noop rfl ?_)
      simp

/-! ### Seasons, blocks, episodes -/

/-- `SeasonCommands`. -/
instance : Adapters SeasonAggregate _ _ _ := ⟨fun _ => some {}, fun _ => false⟩

open SeasonAggregate in
instance : LawfulAdapters SeasonAggregate _ _ _ := {}

/-- `BlockCommands`. -/
instance : Adapters BlockAggregate _ _ _ := ⟨fun _ => some {}, fun _ => false⟩

open BlockAggregate in
instance : LawfulAdapters BlockAggregate _ _ _ := {}

/-- `EpisodeCommands`; the delete belongs to the dev reset. -/
def EpisodeCommand.method : EpisodeCommand → Option Method
  | .delete _ => none
  | _ => some {}

instance : Adapters EpisodeAggregate _ _ _ := ⟨EpisodeCommand.method, fun _ => false⟩

open EpisodeAggregate in
instance : LawfulAdapters EpisodeAggregate _ _ _ := {}

/-! ### Characters -/

/-- `CharacterCommands`; the delete belongs to the dev reset. -/
def CharacterCommand.method : CharacterCommand → Option Method
  | .delete _ => none
  | _ => some {}

/-- Naming the category the character has. -/
def CharacterCommand.refused : CharacterCommand → Bool
  | .updateCategory _ => true
  | _ => false

instance : Adapters CharacterAggregate _ _ _ := ⟨CharacterCommand.method, CharacterCommand.refused⟩

open CharacterAggregate in
instance : LawfulAdapters CharacterAggregate _ _ _ where
  noop {s cmd method} hnoop hmethod := by
    cases cmd with
    | delete => cases hmethod
    | updateCategory c =>
      cases hmethod
      exact ⟨⟨c.version, rfl⟩, .inl ⟨rfl, rfl, rfl⟩⟩
    | _ =>
      refine absurd hnoop (not_noop rfl ?_)
      simp

/-! ### Costume categories -/

/-- `CostumeCategoryCommands`. -/
instance : Adapters CostumeCategoryAggregate _ _ _ := ⟨fun _ => some {}, fun _ => false⟩

open CostumeCategoryAggregate in
instance : LawfulAdapters CostumeCategoryAggregate _ _ _ := {}

/-! ### Settings and AI configurations -/

/-- `SettingsCommands`. -/
instance : Adapters SettingsAggregate _ _ _ := ⟨fun _ => some {}, fun _ => false⟩

open SettingsAggregate in
instance : LawfulAdapters SettingsAggregate _ _ _ where
  noop {s dispatch method} hnoop hmethod := by
    obtain ⟨actor, cmd⟩ := dispatch
    cases cmd with
    | _ =>
      refine absurd hnoop (not_noop rfl ?_)
      simp [entity_handle, -Entity.handle]

/-- `AiConfigCommands`. -/
instance : Adapters AiConfig _ _ _ := ⟨fun _ => some {}, fun _ => false⟩

open AiConfig in
instance : LawfulAdapters AiConfig _ _ _ where
  noop {s cmd method} hnoop hmethod := by
    cases cmd with
    | update =>
      refine absurd hnoop (not_noop rfl ?_)
      simp only [Entity.handle, handle, update]
      split <;> simp
    | _ =>
      refine absurd hnoop (not_noop rfl ?_)
      simp

/-! ### Memberships -/

/-- A membership counts no versions, and every command it accepts has an event. -/
theorem BlockMembership.not_noop (s : BlockMembership) (call : MembershipCall) : ¬Noop s call := by
  rintro (hhook | hhandle)
  · cases hhook
  · obtain ⟨e, hevents, -⟩ := handle_allowed (show s.handle call = .ok [] from hhandle)
    cases hevents

/-! ## §2. What the callers hear -/

/-- **COMMANDS WITHOUT EFFECT ARE ANSWERED WITH THE CURRENT VERSION**, whatever the retries, except
for the five refused ones and for actors that lag behind their stream. -/
theorem noops_answered (outcome : AppendOutcome) (retries : Nat) :
    NoopsAnswered SceneAggregate outcome retries ∧
    NoopsAnswered SceneShootAggregate outcome retries ∧
    NoopsAnswered ShootingDayAggregate outcome retries ∧
    NoopsAnswered PieceAggregate outcome retries ∧ NoopsAnswered OutfitAggregate outcome retries ∧
    NoopsAnswered PhotoAggregate outcome retries ∧ NoopsAnswered SeasonAggregate outcome retries ∧
    NoopsAnswered BlockAggregate outcome retries ∧ NoopsAnswered EpisodeAggregate outcome retries ∧
    NoopsAnswered CharacterAggregate outcome retries ∧
    NoopsAnswered CostumeCategoryAggregate outcome retries ∧
    NoopsAnswered SettingsAggregate outcome retries ∧ NoopsAnswered AiConfig outcome retries ∧
    ∀ (s : BlockMembership) (call : MembershipCall), ¬Noop s call :=
  ⟨noopsAnswered, noopsAnswered, noopsAnswered, noopsAnswered, noopsAnswered, noopsAnswered,
    noopsAnswered, noopsAnswered, noopsAnswered, noopsAnswered, noopsAnswered, noopsAnswered,
    noopsAnswered, BlockMembership.not_noop⟩

/-- The command would change nothing and is called with the current version, on an actor that has seen
the stream and on a day that is open; its caller hears of a conflict. -/
def ConflictsOn (σ : Type) {ε κ χ : Type} [Entity σ ε κ χ] [Versioned σ ε κ χ] [IntoDomainError χ]
    [Adapters σ ε κ χ] (log : List ε) (cmd : κ) : Prop :=
  ∃ method, NoopCall σ log (EntityActorState.load σ log) cmd method ∧
    callMethod method (.ok ()) (EntityActorState.load σ log) log cmd .acknowledged conflictRetries =
      (log, .error (.conflict .domainConflict "command produced no events"))

theorem conflictsOn_callAll [Entity σ ε κ χ] [Versioned σ ε κ χ]
    [LawfulVersioned σ ε κ χ] [IntoDomainError χ] [Adapters σ ε κ χ] [LawfulAdapters σ ε κ χ]
    (hfounded : Founded σ (callAll σ cmds))
    (hnoop : Entity.handle (Entity.replay σ (callAll σ cmds)) cmd = .ok [])
    (hmethod : Adapters.method σ cmd = some method) (hcurrent : Versioned.dispatching σ cmd =
      .update (Versioned.version (Entity.replay σ (callAll σ cmds))))
    (hcall : callMethod method (.ok ()) (EntityActorState.load σ (callAll σ cmds)) (callAll σ cmds)
      cmd .acknowledged conflictRetries =
        (callAll σ cmds, .error (.conflict .domainConflict "command produced no events"))) :
    ConflictsOn σ (callAll σ cmds) cmd := by
  refine ⟨method, ?_, hcall⟩
  exact {
    history := (calls_callAll cmds).history
    founded := hfounded
    follows := EntityActorState.follows_load _
    noop := .inr hnoop
    method := hmethod
    current := hcurrent }

/-- A figure of the main cast. -/
def annasStream : List CharacterEvent := callAll CharacterAggregate [.create ⟨1, ⟨2⟩, "Anna", .mainCast⟩]

/-- A shoot that was started. -/
def startedShoot : List SceneShootEvent := callAll SceneShootAggregate
    [.plan ⟨⟨⟨1⟩⟩, ⟨2⟩, ⟨⟨3⟩⟩, ⟨"a"⟩⟩, .start ⟨⟨⟨1⟩⟩, ⟨⟨3⟩⟩, 10, 1⟩]

/-- A day that was wrapped. -/
def wrappedDay : List ShootingDayEvent := callAll ShootingDayAggregate
    [.create ⟨⟨⟨1⟩⟩, ⟨2⟩, none, ⟨"a"⟩, none, .manual⟩, .wrap ⟨⟨⟨1⟩⟩, 1, 10⟩]

/-- A photo with its original normalized and its thumbnail generated. -/
def finishedPhoto : List PhotoEvent := callAll PhotoAggregate
    [.upload ⟨⟨⟨1⟩⟩, "image/png", 9, .piece ⟨2⟩⟩, .normalizeOriginal ⟨⟨⟨1⟩⟩, 8, false, 1⟩,
      .generateVariant ⟨⟨⟨1⟩⟩, .thumb, 3, 2⟩]

/-- **FIVE NO-OPS THAT CONFLICT**: a figure is given the category it has, a shoot is started again at
the same time, a wrapped day is wrapped, a normalized photo is normalized, and a variant that is
there is generated. -/
theorem noops_that_conflict :
    ConflictsOn CharacterAggregate annasStream (.updateCategory ⟨1, .mainCast, 1⟩) ∧
    ConflictsOn SceneShootAggregate startedShoot (.start ⟨⟨⟨1⟩⟩, ⟨⟨3⟩⟩, 10, 2⟩) ∧
    ConflictsOn ShootingDayAggregate wrappedDay (.wrap ⟨⟨⟨1⟩⟩, 2, 20⟩) ∧
    ConflictsOn PhotoAggregate finishedPhoto (.normalizeOriginal ⟨⟨⟨1⟩⟩, 8, false, 3⟩) ∧
    ConflictsOn PhotoAggregate finishedPhoto (.generateVariant ⟨⟨⟨1⟩⟩, .thumb, 3, 3⟩) := by
  have hphoto : Founded PhotoAggregate finishedPhoto := ⟨_, rfl, rfl⟩
  refine ⟨?_, ?_, ?_, ?_, ?_⟩
  · exact conflictsOn_callAll ⟨_, rfl, rfl⟩ rfl rfl rfl (by decide +kernel)
  · exact conflictsOn_callAll ⟨_, rfl, rfl⟩ rfl rfl rfl (by decide +kernel)
  · exact conflictsOn_callAll ⟨_, rfl, rfl⟩ rfl rfl rfl (by decide +kernel)
  · exact conflictsOn_callAll hphoto rfl rfl rfl (by decide +kernel)
  · exact conflictsOn_callAll hphoto rfl rfl rfl (by decide +kernel)

end Breakdown
