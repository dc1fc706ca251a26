/-
**APPLYING A SCRIPT PREVIEW** (`ApplyWorker` of
`infra/src/ai/workers.rs`).

For every planned row the worker resolves the episode, drives the scene, resolves the figures,
assigns them to the scene, drives each outfit (pieces, look, beat) and links the scene to its
shooting day. A refusal by the domain is recorded per outfit; an outage ends the run.

Every dispatch carries the scene version the worker believes in. When the stream turns out to have
moved, `assign_figure_to_scene` and `schedule_row_on_day` take over the version it reached and go on
WITHOUT sending the command again; `apply_outfit_beat` sends it once more.

- `applyPiece`, `applyOutfit`, `applyOutfitBeat`: the outfit chain;
- `assignFigureToScene`, `scheduleRowOnDay`: the two links of a scene;
- `runScriptApply`, `applyScript`: the run.

Progress frames, the heartbeat and log lines are left out.
-/
import Breakdown.Ai.ScriptStore

namespace Breakdown.Ai

open EventLog Stepwise Function

/-! ## §1. Versions, ordinals and names -/

/-- `is_infra_outage`. -/
def isInfraOutage : DomainError → Bool
  | .serviceUnavailable _ => true
  | .internal _ => true
  | _ => false

structure CreateOutcome where
  version : AggregateVersion
  appended : Bool

/-- `created_now`. -/
def createdNow : Except DomainError AggregateVersion → Except DomainError CreateOutcome
  | .ok version => .ok ⟨version, true⟩
  | .error (.versionConflict expected current) =>
    if current ≠ 0 then .ok ⟨current, false⟩ else .error (.versionConflict expected current)
  | .error e => .error e

/-- `ordinal_of`. -/
def ordinalOf (index : Nat) : Except DomainError Int := if index < 2 ^ 31 then .ok index
  else .error (.validation .domainValidation
    "AI apply row index exceeds the mapping ordinal range")

/-- A name cut to what the aggregate takes, or a neutral one. -/
def nameOr (neutral name : String) : String :=
  if (trimText name).isEmpty then neutral else String.ofList ((trimText name).toList.take 120)

/-- `outfit_name`. -/
def outfitName (outfit : OutfitApplyPlan) : String := nameOr "Outfit" outfit.name

/-- `piece_name`. -/
def pieceName (piece : PieceApplyPlan) : String := nameOr "Kleidungsstück" piece.name

/-- `PiecePhases::CREATED`. -/
def pieceCreated : AggregateVersion := .initial

/-- `PiecePhases::CATEGORIZED`. -/
def pieceCategorized : AggregateVersion := 2

/-- `PiecePhases::notes_version`. -/
def notesVersion (hasCategory : Bool) : AggregateVersion := if hasCategory then 3 else 2

/-- `OUTFIT_CREATED`. -/
def outfitCreated : AggregateVersion := .initial

/-- `OUTFIT_NOTED`. -/
def outfitNoted : AggregateVersion := 2

/-! ## §2. The outfit chain -/

/-- Done, or refused for this row. -/
inductive ChainStep (α : Type)
  | done (value : α)
  | refused (reason : UnappliedOutfitReason) (detail : String)

/-- An outage ends the run, anything else is a refusal of this row. -/
def refuse {α : Type} (reason : UnappliedOutfitReason) (error : DomainError) :
    Script (ChainStep α) :=
  if isInfraOutage error then fail error else pure (.refused reason error.toDisplay)

/-- The next step of a chain, unless it was refused. -/
def ChainStep.next {α β : Type} (step : ChainStep α) (f : α → Script (ChainStep β)) :
    Script (ChainStep β) :=
  match step with
  | .done value => f value
  | .refused reason detail => pure (.refused reason detail)

/-- The first step of `apply_piece`: the version reached, and whether the piece was created now. -/
def drivePiece (req : ApplyScriptRequest) (piece : PieceApplyPlan) (mapping : AiImportMapping) :
    Script (ChainStep (AggregateVersion × Bool)) :=
  if mapping.aggregateVersion < pieceCreated then do
    let attempt ← caught (createPiece mapping.key
      ⟨mapping.aggregateId, pieceName piece, none, some req.seasonId⟩)
    match createdNow attempt with
    | .ok outcome => do
        confirm mapping outcome.version
        pure (.done (outcome.version, outcome.appended))
    | .error e => refuse .pieceRejected e
  else pure (.done (mapping.aggregateVersion, false))

/-- The second step of `apply_piece`: a refused category is not worth the piece. -/
def categorizePiece (piece : PieceApplyPlan) (mapping : AiImportMapping)
    (version : AggregateVersion) : Script AggregateVersion :=
  match piece.categoryId with
  | none => pure version
  | some categoryId =>
    if version < pieceCategorized then do
      let attempt ← caught (setPieceCategory ⟨mapping.aggregateId, some categoryId, version⟩)
      match attempt with
      | .ok next => do
          confirm mapping next
          pure next
      | .error e =>
        if isInfraOutage e then fail e
        else pure (match recoverVersion (.error e) with
          | .ok recovered => recovered
          | .error _ => version)
    else pure version

/-- The step of a chain that writes notes, if there are any and they are still owed. -/
def noteStep (mapping : AiImportMapping) (notes : Option String) (owed : Bool)
    (send : String → Script AggregateVersion) : Script (ChainStep Unit) :=
  match notes with
  | none => pure (.done ())
  | some notes =>
    if owed then do
      let attempt ← caught (mapResult recoverVersion (send notes))
      match attempt with
      | .ok reached => do
          confirm mapping reached
          pure (.done ())
      | .error e => refuse .notesRejected e
    else pure (.done ())

/-- The third step of `apply_piece`. -/
def notePiece (piece : PieceApplyPlan) (mapping : AiImportMapping) (version : AggregateVersion) :
    Script (ChainStep Unit) :=
  noteStep mapping piece.notes (version < notesVersion piece.categoryId.isSome) fun notes =>
    updatePieceNotes ⟨mapping.aggregateId, notes, version⟩

/-- `apply_piece`. -/
def applyPiece (env : ScriptEnv) (req : ApplyScriptRequest) (row : SceneApplyPlan)
    (piece : PieceApplyPlan) : Script (ChainStep (Uuid × Bool)) := do
  let ordinal ← ofExcept (ordinalOf piece.ordinal)
  let key : MappingKey := ⟨req.previewId, row.draftRef, .piece, ordinal⟩
  let mapping ← findOrReserve key (env.deriveId key)
  let created ← drivePiece req piece mapping
  created.next fun (version, appended) => do
    let version ← categorizePiece piece mapping version
    let noted ← notePiece piece mapping version
    noted.next fun _ => pure (.done (mapping.aggregateId, appended))

structure PieceChainOutcome where
  created : Nat
  pieceIds : List Uuid

/-- One more piece of an outfit, unless an earlier one was refused. -/
def applyNextPiece (env : ScriptEnv) (req : ApplyScriptRequest) (row : SceneApplyPlan)
    (soFar : ChainStep PieceChainOutcome) (piece : PieceApplyPlan) :
    Script (ChainStep PieceChainOutcome) :=
  soFar.next fun pieces => do
    let applied ← applyPiece env req row piece
    applied.next fun (pieceId, appended) =>
      pure (.done ⟨if appended then pieces.created + 1 else pieces.created,
        pieces.pieceIds ++ [pieceId]⟩)

/-- `apply_outfit_pieces`. -/
def applyOutfitPieces (env : ScriptEnv) (req : ApplyScriptRequest) (row : SceneApplyPlan)
    (outfit : OutfitApplyPlan) : Script (ChainStep PieceChainOutcome) :=
  foldM (applyNextPiece env req row) outfit.pieces (.done ⟨0, []⟩)

/-- Add a piece that a recovered outfit may lack. -/
def readdPiece (id : Uuid) (reached : AggregateVersion) (pieceId : Uuid) :
    Script AggregateVersion := do
  let attempt ← caught (mapResult recoverVersion (addPieceToOutfit ⟨id, pieceId, reached⟩))
  match attempt with
  | .ok next => pure (max reached next)
  | .error e => if isInfraOutage e then fail e else pure reached

/-- The archived-season check in front of `CreateOutfit`. -/
def seasonGate (env : ScriptEnv) (key : MappingKey) : Script (ChainStep Unit) :=
  match env.findSeason key with
  | .ok true => pure (.refused .bindingRejected
      (DomainError.conflict .domainConflict "target season is archived").toDisplay)
  | .ok false => pure (.done ())
  | .error e =>
    if isInfraOutage e then fail e
    else pure (.refused .bindingRejected
      (DomainError.conflict .domainConflict "target season could not be resolved").toDisplay)

/-- The first step of `apply_outfit`: the version reached, and whether the outfit was created now. -/
def driveOutfit (env : ScriptEnv) (outfit : OutfitApplyPlan) (characterId : Uuid)
    (pieceIds : List Uuid) (mapping : AiImportMapping) :
    Script (ChainStep (AggregateVersion × Bool)) :=
  if mapping.aggregateVersion < outfitCreated then do
    let gate ← seasonGate env mapping.key
    gate.next fun _ => do
      let id := mapping.aggregateId
      let attempt ← caught (createOutfit mapping.key
        ⟨id, characterId, outfitName outfit, pieceIds⟩)
      match createdNow attempt with
      | .ok ⟨version, true⟩ => do
          confirm mapping version
          pure (.done (version, true))
      | .ok ⟨current, false⟩ => do
          -- the stream exists already: add the pieces it may lack instead of creating it
          let reached ← foldM (readdPiece id) pieceIds current
          confirm mapping reached
          pure (.done (reached, false))
      | .error e => refuse .createRejected e
  else pure (.done (mapping.aggregateVersion, false))

/-- The second step of `apply_outfit`; whether notes are owed was judged before the first. -/
def noteOutfit (outfit : OutfitApplyPlan) (mapping : AiImportMapping) (version : AggregateVersion) :
    Script (ChainStep Unit) :=
  noteStep mapping outfit.notes (mapping.aggregateVersion < outfitNoted) fun notes =>
    updateOutfitNotes ⟨mapping.aggregateId, notes, version⟩

structure OutfitChainOutcome where
  created : Bool
  outfitId : Uuid

/-- `apply_outfit`. -/
def applyOutfit (env : ScriptEnv) (req : ApplyScriptRequest) (row : SceneApplyPlan)
    (outfit : OutfitApplyPlan) (characterId : Uuid) (pieceIds : List Uuid) :
    Script (ChainStep OutfitChainOutcome) := do
  let ordinal ← ofExcept (ordinalOf outfit.ordinal)
  let kind := if outfit.fromContinuitySelection then .outfitContinuity else .outfit
  let key : MappingKey := ⟨req.previewId, row.draftRef, kind, ordinal⟩
  let mapping ← findOrReserve key (env.deriveId key)
  let created ← driveOutfit env outfit characterId pieceIds mapping
  created.next fun (version, created) => do
    let noted ← noteOutfit outfit mapping version
    noted.next fun _ => pure (.done ⟨created, mapping.aggregateId⟩)

/-- `resolve_continued_outfit`. -/
def resolveContinuedOutfit (req : ApplyScriptRequest) (continuation : ContinuationPlan) :
    Script (Option Uuid) := do
  let ordinal ← ofExcept (ordinalOf continuation.sourceOutfitOrdinal)
  let stored ← onBase (findMapping ⟨req.previewId, continuation.sourceDraftRef, .outfit, ordinal⟩)
  match stored with
  | some mapping =>
    pure (if outfitCreated ≤ mapping.aggregateVersion then some mapping.aggregateId else none)
  | none => pure none

/-! ## §3. Beats -/

/-- How a beat fared. -/
inductive BeatAttempt
  | appended
  | settled
  | refused (error : DomainError)

structure BeatAddress where
  kind : MappingKind
  draftRef : String
  ordinal : Nat

/-- `beat_address`. -/
def beatAddress (row : SceneApplyPlan) (outfit : OutfitApplyPlan) : BeatAddress :=
  if outfit.fromContinuitySelection then
    ⟨.sceneOutfitBeatContinuity, row.draftRef, outfit.beatOrdinal⟩
  else ⟨.sceneOutfitBeat, characterMappingRef outfit.characterIdentity, outfit.beatOrdinal⟩

/-- How a sent beat ended, except for a moved stream. -/
def settleBeat (mapping : AiImportMapping) (sceneVersion version : AggregateVersion) :
    Except DomainError AggregateVersion → Script (BeatAttempt × AggregateVersion)
  | .ok next => do
      confirm mapping next
      pure (.appended, next)
  | .error (.validation .sceneValidation _) => do
      confirm mapping version
      pure (.settled, max sceneVersion version)
  | .error e => if isInfraOutage e then fail e else pure (.refused e, sceneVersion)

/-- `apply_outfit_beat`, with the scene version it leaves: a moved stream gets the beat once more. -/
def applyOutfitBeat (req : ApplyScriptRequest) (sceneId characterId : Uuid) (beat : BeatAddress)
    (outfitId : Uuid) (sceneVersion : AggregateVersion) :
    Script (BeatAttempt × AggregateVersion) := do
  let ordinal ← ofExcept (ordinalOf beat.ordinal)
  let mapping ← findOrReserve ⟨req.previewId, beat.draftRef, beat.kind, ordinal⟩ sceneId
  if !mapping.isReserved then pure (.settled, max sceneVersion mapping.aggregateVersion)
  else do
    let send := fun version : AggregateVersion =>
      caught (sceneCommand (some mapping.key) (.addOutfitBeat ⟨sceneId, characterId, outfitId, none, version⟩))
    let attempt ← send sceneVersion
    match attempt with
    | .error (.versionConflict expected current) =>
      if current ≠ 0 then do
        let again ← send current
        settleBeat mapping sceneVersion current again
      else pure (.refused (.versionConflict expected current), sceneVersion)
    | other => settleBeat mapping sceneVersion sceneVersion other

/-! ## §4. The two links of a scene -/

/-- `assign_figure_to_scene`, on the answer to the command. -/
def assignedVersion (version : AggregateVersion) :
    Except DomainError AggregateVersion → Except DomainError AggregateVersion
  | .error (.conflict .sceneCharacterAlreadyAssigned _) => .ok version
  | attempt => recoverVersion attempt

/-- `assign_figure_to_scene`: the scene version it leaves. -/
def assignFigureToScene (sceneId figureId : Uuid) (version : AggregateVersion) :
    Script AggregateVersion :=
  mapResult (assignedVersion version)
    (sceneCommand none (.assignCharacter ⟨sceneId, figureId, version⟩))

/-- The work of `schedule_row_on_day` on a pair that is not confirmed yet. -/
def linkPair (env : ScriptEnv) (req : ApplyScriptRequest) (sceneId : Uuid) (day : ShootingDayId)
    (sceneVersion : AggregateVersion) (plannedOrder : LexicalSortKey) : Script Unit := do
  let key := pairKey req.previewId sceneId day
  let reservation ← onBase (reserveMapping (.reservation key (env.deriveId key)))
  let sceneShootId : SceneShootId := ⟨reservation.aggregateId⟩
  -- a moved stream counts as linked
  let _ ← mapResult recoverVersion
    (sceneCommand none (.scheduleOnShootingDay ⟨sceneId, day, sceneVersion⟩))
  let version ← mapResult recoverVersion (planShootFor env key
    { id := sceneShootId, sceneId, shootingDayId := day, plannedOrder })
  confirm reservation version

/-- `schedule_row_on_day`: whether it planned the pair, and the order counter it leaves. The scene
version it also advances is not read any more. -/
def scheduleRowOnDay (env : ScriptEnv) (req : ApplyScriptRequest) (sceneId : Uuid)
    (day : ShootingDayId) (sceneVersion : AggregateVersion) (fallbackOrder : Nat) :
    Script (Bool × Nat) := do
  -- the order is used up before the pair is looked at
  let order ← ofExcept (if fallbackOrder + 1 ≤ u32Max then .ok (fallbackOrder + 1)
    else .error (.validation .domainValidation "cannot allocate a unique fallback planned order"))
  let plannedOrder ← ofExcept (sortKey (zeroPadded order))
  let stored ← onBase (findMapping (pairKey req.previewId sceneId day))
  if stored.any (!·.isReserved) then pure (false, order)
  else do
    linkPair env req sceneId day sceneVersion plannedOrder
    pure (true, order)

/-! ## §5. Scenes, figures and episodes -/

structure UuidVersion where
  aggregateId : Uuid
  version : AggregateVersion
  deriving DecidableEq

inductive AppliedRowState
  | appliedNow
  | alreadyApplied

/-- `planned_details`. -/
def plannedDetails : SceneApplyCommand → SceneDetails
  | .create cmd => cmd.details
  | .update cmd => cmd.details

/-- `create_scene_reserved`. -/
def createSceneReserved (req : ApplyScriptRequest) (draftRef : String) (candidateId : Uuid)
    (episodeId : EpisodeId) (details : SceneDetails) : Script (Uuid × CreateOutcome) := do
  let reservation ← onBase (reserveMapping (.reservation
    ⟨req.previewId, draftRef, .scene, primaryOrdinal⟩ candidateId))
  let id := reservation.aggregateId
  let attempt ← caught (sceneCommand (some reservation.key) (.create {
    id, episodeId, details
    source := .aiExtracted req.previewId.uuid (some reservation.key.draftRef) }))
  let outcome ← ofExcept (createdNow attempt)
  confirm reservation outcome.version
  pure (id, outcome)

/-- A row whose scene was created under its reserved id. -/
def appliedScene (created : Uuid × CreateOutcome) : UuidVersion × AppliedRowState :=
  (⟨created.1, created.2.version⟩, if created.2.appended then .appliedNow else .alreadyApplied)

/-- `apply_scene_row`: a confirmed row is done, a reserved one is created under its id whatever the
reviewer decided. -/
def applySceneRow (env : ScriptEnv) (req : ApplyScriptRequest) (episodeId : EpisodeId)
    (row : SceneApplyPlan) : Script (UuidVersion × AppliedRowState) := do
  let key : MappingKey := ⟨req.previewId, row.draftRef, .scene, primaryOrdinal⟩
  let stored ← onBase (findMapping key)
  match stored with
  | some mapping =>
    if mapping.isReserved then do
      let created ← createSceneReserved req row.draftRef mapping.aggregateId episodeId
        (plannedDetails row.scene)
      pure (appliedScene created)
    else pure (⟨mapping.aggregateId, mapping.aggregateVersion⟩, .alreadyApplied)
  | none =>
    match row.scene with
    | .create _ => do
        let created ← createSceneReserved req row.draftRef (env.deriveId key) episodeId
          (plannedDetails row.scene)
        pure (appliedScene created)
    | .update cmd => do
        let version ← sceneCommand none (.updateDetails cmd)
        onBase (insertMapping ⟨⟨cmd.id, version⟩, key⟩)
        pure (⟨cmd.id, version⟩, .appliedNow)

/-- `Figure`. -/
inductive Figure
  | resolved (figure : UuidVersion)
  | unavailable (detail : String)
  deriving DecidableEq

/-- The figures of a run, by mapping reference. -/
abbrev Figures := String → Option Figure

/-- Create a figure that is not confirmed yet. -/
def driveFigure (req : ApplyScriptRequest) (figures : Figures) (character : CharacterApplyPlan)
    (mapping : AiImportMapping) : Script (Figures × Bool) := do
  let ref := characterMappingRef character.identity
  let attempt ← caught (createCharacter mapping.key
    ⟨mapping.aggregateId, req.seasonId, character.name, character.category⟩)
  match createdNow attempt with
  | .ok outcome => do
      confirm mapping outcome.version
      pure (update figures ref
        (some (.resolved ⟨mapping.aggregateId, outcome.version⟩)), outcome.appended)
  | .error e =>
    if isInfraOutage e then fail e
    else pure (update figures ref (some (.unavailable e.toDisplay)), false)

/-- `resolve_figure`: the figures afterwards, and whether a character was created now. -/
def resolveFigure (env : ScriptEnv) (req : ApplyScriptRequest) (figures : Figures)
    (character : CharacterApplyPlan) : Script (Figures × Bool) := do
  let ref := characterMappingRef character.identity
  match figures ref with
  | some _ => pure (figures, false)
  | none => do
      let key : MappingKey := ⟨req.previewId, ref, .character, primaryOrdinal⟩
      let stored ← onBase (findMapping key)
      match stored.filter (!·.isReserved) with
      | some confirmed =>
        pure (update figures ref
          (some (.resolved ⟨confirmed.aggregateId, confirmed.aggregateVersion⟩)), false)
      | none => do
          let mapping ← orReserve stored key (env.deriveId key)
          driveFigure req figures character mapping

/-- `create_episode_reserved`. -/
def createEpisodeReserved (env : ScriptEnv) (req : ApplyScriptRequest) (projectId : ProjectId)
    (episodeRef : String) (number : Int) (name : Option String) : Script (EpisodeId × Bool) := do
  let key : MappingKey := ⟨req.previewId, episodeRef, .episode, primaryOrdinal⟩
  let stored ← onBase (findMapping key)
  let candidateId := match stored with
    | some mapping => mapping.aggregateId
    | none => env.deriveId key
  let reservation ← onBase (reserveMapping (.reservation key candidateId))
  let attempt ← caught (createEpisode env reservation.key
    ⟨reservation.aggregateId, req.blockId, projectId, number, name⟩)
  let outcome ← ofExcept (createdNow attempt)
  confirm reservation outcome.version
  pure (⟨reservation.aggregateId⟩, outcome.appended)

/-! ## §6. The run -/

structure AppliedEpisode where
  id : EpisodeId
  number : Option Int
  name : Option String
  appliedCount : Nat
  deriving DecidableEq

/-- The label an entry of the summary gets. -/
def episodeLabel (knownEpisodes : List AppliedEpisodeIdentity) (episodeId : EpisodeId)
    (requested : Option (Option Int × Option String)) : Option (Option Int × Option String) :=
  requested.or ((knownEpisodes.find? (·.id = episodeId)).map fun known =>
    (some known.number, known.name))

/-- `record_applied_episode`. -/
def recordAppliedEpisode (knownEpisodes : List AppliedEpisodeIdentity) (episodeId : EpisodeId)
    (requested : Option (Option Int × Option String)) : List AppliedEpisode → List AppliedEpisode
  | [] =>
    let (number, name) := (episodeLabel knownEpisodes episodeId requested).getD (none, none)
    [⟨episodeId, number, name, 1⟩]
  | entry :: rest =>
    if entry.id = episodeId then
      let (number, name) := if entry.number.isNone && entry.name.isNone then
        (episodeLabel knownEpisodes episodeId requested).getD (none, none)
        else (entry.number, entry.name)
      ⟨entry.id, number, name, entry.appliedCount + 1⟩ :: rest
    else entry :: recordAppliedEpisode knownEpisodes episodeId requested rest

/-- What the apply reports. -/
structure ScriptApplyResult where
  applied : List UuidVersion
  createdCharacters : Nat
  createdPieces : Nat
  createdOutfits : Nat
  createdOutfitBeats : Nat
  createdEpisodes : Nat
  createdDays : Nat
  plannedSceneShoots : Nat
  unappliedOutfits : List UnappliedOutfit
  appliedEpisodes : List AppliedEpisode
  deriving DecidableEq

/-- The local variables of `run_script_apply`. -/
structure ScriptLocals where
  result : ScriptApplyResult
  figures : Figures
  resolvedEpisodes : String → Option (EpisodeId × Bool)
  resolvedDays : String → Option AppliedDay
  fallbackOrder : Nat

def startScript (plan : ScriptApplyPlan) : ScriptLocals where
  result := ⟨[], 0, 0, 0, 0, 0, 0, 0, plan.unappliedOutfits, []⟩
  figures _ := none
  resolvedEpisodes _ := none
  resolvedDays _ := none
  fallbackOrder := 0

/-- `unapplied`. -/
def unapplied (row : SceneApplyPlan) (outfit : OutfitApplyPlan) (reason : UnappliedOutfitReason)
    (detail : Option String) : UnappliedOutfit :=
  ⟨row.draftRef, outfit.ordinal, outfit.characterName, outfit.name, reason, detail⟩

/-- Report outfits that were not applied. -/
def ScriptLocals.report (locals : ScriptLocals) (outfits : List UnappliedOutfit) : ScriptLocals :=
  { locals with
    result := { locals.result with
      unappliedOutfits := locals.result.unappliedOutfits ++ outfits } }

/-- The episode of a row, and whether this run created it. -/
def rowEpisode (env : ScriptEnv) (req : ApplyScriptRequest) (locals : ScriptLocals)
    (row : SceneApplyPlan) : Script ((EpisodeId × Bool) × ScriptLocals) :=
  match row.episode with
  | .existing episodeId => pure ((episodeId, false), locals)
  | .new episodeRef number name =>
    match req.projectId with
    | none => fail (.validation .domainValidation
        "apply cannot create an episode without a series context")
    | some projectId =>
      match locals.resolvedEpisodes episodeRef with
      | some resolved => pure (resolved, locals)
      | none => do
          let created ← createEpisodeReserved env req projectId episodeRef number name
          pure (created, { locals with
            result := { locals.result with
              createdEpisodes := if created.2 then locals.result.createdEpisodes + 1
                else locals.result.createdEpisodes }
            resolvedEpisodes := update locals.resolvedEpisodes episodeRef (some created) })

/-- Enter an applied row into the result. -/
def ScriptLocals.recordRow (locals : ScriptLocals) (req : ApplyScriptRequest)
    (row : SceneApplyPlan) (episode : EpisodeId × Bool) (scene : UuidVersion)
    (state : AppliedRowState) : ScriptLocals :=
  let requested := match row.episode, episode.2 with
    | .new _ number name, true => some (some number, name)
    | _, _ => none
  { locals with
    result := { locals.result with
      applied := locals.result.applied ++ [scene]
      appliedEpisodes := match state with
        | .appliedNow => recordAppliedEpisode req.knownEpisodes episode.1 requested
            locals.result.appliedEpisodes
        | .alreadyApplied => locals.result.appliedEpisodes } }

/-- Resolve one figure of a row. -/
def rowFigure (env : ScriptEnv) (req : ApplyScriptRequest) (locals : ScriptLocals)
    (character : CharacterApplyPlan) : Script ScriptLocals := do
  let (figures, created) ← resolveFigure env req locals.figures character
  pure { locals with
    figures
    result := { locals.result with
      createdCharacters := if created then locals.result.createdCharacters + 1
        else locals.result.createdCharacters } }

/-- The highest scene version any beat row of the row knows. -/
def beatVersion (req : ApplyScriptRequest) (row : SceneApplyPlan) (version : AggregateVersion)
    (outfit : OutfitApplyPlan) : Script AggregateVersion := do
  let address := beatAddress row outfit
  let ordinal ← ofExcept (ordinalOf address.ordinal)
  let stored ← onBase (findMapping ⟨req.previewId, address.draftRef, address.kind, ordinal⟩)
  pure (match stored with
    | some mapping => max version mapping.aggregateVersion
    | none => version)

/-- Assign the figure of a lane, if it was resolved. -/
def assignLane (figures : Figures) (sceneId : Uuid) (version : AggregateVersion)
    (lane : SceneBeatLane) : Script AggregateVersion :=
  match figures (characterMappingRef lane.character.identity) with
  | some (.resolved figure) => assignFigureToScene sceneId figure.aggregateId version
  | _ => pure version

/-- Put a beat into the scene and account for it. -/
def rowBeat (req : ApplyScriptRequest) (row : SceneApplyPlan) (sceneId characterId : Uuid)
    (outfit : OutfitApplyPlan) (outfitId : Uuid) (locals : ScriptLocals)
    (sceneVersion : AggregateVersion) : Script (ScriptLocals × AggregateVersion) := do
  let (attempt, sceneVersion) ← applyOutfitBeat req sceneId characterId (beatAddress row outfit)
    outfitId sceneVersion
  pure (match attempt with
    | .appended => { locals with
        result := { locals.result with
          createdOutfitBeats := locals.result.createdOutfitBeats + 1 } }
    | .settled => locals
    | .refused e => locals.report [unapplied row outfit .beatRejected (some e.toDisplay)],
    sceneVersion)

/-- A continued look: only the beat, for the outfit of the source row. -/
def continuedOutfit (req : ApplyScriptRequest) (row : SceneApplyPlan) (sceneId characterId : Uuid)
    (outfit : OutfitApplyPlan) (continuation : ContinuationPlan) (locals : ScriptLocals)
    (sceneVersion : AggregateVersion) : Script (ScriptLocals × AggregateVersion) := do
  let resolved ← resolveContinuedOutfit req continuation
  match resolved with
  | none => pure (locals.report [unapplied row outfit .continuityUnresolved
      (some ("source outfit of row " ++ continuation.sourceDraftRef ++
        " was not created by this apply"))], sceneVersion)
  | some outfitId => rowBeat req row sceneId characterId outfit outfitId locals sceneVersion

/-- A look of its own: pieces, outfit, beat. -/
def ownOutfit (env : ScriptEnv) (req : ApplyScriptRequest) (row : SceneApplyPlan)
    (sceneId characterId : Uuid) (outfit : OutfitApplyPlan) (locals : ScriptLocals)
    (sceneVersion : AggregateVersion) : Script (ScriptLocals × AggregateVersion) := do
  let pieces ← applyOutfitPieces env req row outfit
  match pieces with
  | .refused reason detail =>
    pure (locals.report [unapplied row outfit reason (some detail)], sceneVersion)
  | .done pieces => do
      let locals := { locals with
        result := { locals.result with
          createdPieces := locals.result.createdPieces + pieces.created } }
      let applied ← applyOutfit env req row outfit characterId pieces.pieceIds
      match applied with
      | .refused reason detail =>
        pure (locals.report [unapplied row outfit reason (some detail)], sceneVersion)
      | .done applied =>
        let locals := { locals with
          result := { locals.result with
            createdOutfits := if applied.created then locals.result.createdOutfits + 1
              else locals.result.createdOutfits } }
        rowBeat req row sceneId characterId outfit applied.outfitId locals sceneVersion

/-- One outfit of a lane. -/
def laneOutfit (env : ScriptEnv) (req : ApplyScriptRequest) (row : SceneApplyPlan)
    (sceneId characterId : Uuid) (state : ScriptLocals × AggregateVersion)
    (outfit : OutfitApplyPlan) : Script (ScriptLocals × AggregateVersion) :=
  match outfit.continuation with
  | some continuation =>
    continuedOutfit req row sceneId characterId outfit continuation state.1 state.2
  | none => ownOutfit env req row sceneId characterId outfit state.1 state.2

/-- The outfits of a lane. -/
def applyLane (env : ScriptEnv) (req : ApplyScriptRequest) (row : SceneApplyPlan) (sceneId : Uuid)
    (state : ScriptLocals × AggregateVersion) (lane : SceneBeatLane) :
    Script (ScriptLocals × AggregateVersion) :=
  match state.1.figures (characterMappingRef lane.character.identity) with
  | some (.resolved figure) =>
    foldM (laneOutfit env req row sceneId figure.aggregateId) lane.beats state
  | some (.unavailable detail) =>
    pure (state.1.report (lane.beats.map (unapplied row · .characterUnavailable (some detail))),
      state.2)
  | none =>
    pure (state.1.report (lane.beats.map (unapplied row · .characterNotPlanned none)), state.2)

/-- The key of a day group: a day number repeats from episode to episode. -/
def scriptDayRef (episodeId : EpisodeId) (dayRef : String) : String :=
  episodeId.uuid.toDisplay ++ ":" ++ dayRef

/-- The day of a group: from this run, or resolved now. -/
def groupDay (env : ScriptEnv) (req : ApplyScriptRequest) (locals : ScriptLocals)
    (episodeId : EpisodeId) (dayRef : String) (label : Option String) :
    Script (AppliedDay × ScriptLocals) :=
  match locals.resolvedDays (scriptDayRef episodeId dayRef) with
  | some day => pure (day, locals)
  | none => do
      let day ← dayLinker.resolveDay env.toApplyEnv
        ⟨req.previewId, scriptDayRef episodeId dayRef, episodeId, label, none⟩
      pure (day, { locals with
        result := { locals.result with
          createdDays := if day.created then locals.result.createdDays + 1
            else locals.result.createdDays }
        resolvedDays := update locals.resolvedDays (scriptDayRef episodeId dayRef) (some day) })

/-- The shooting day of a row. -/
def rowShootingDay (env : ScriptEnv) (req : ApplyScriptRequest) (row : SceneApplyPlan)
    (episodeId : EpisodeId) (sceneId : Uuid) (locals : ScriptLocals)
    (sceneVersion : AggregateVersion) : Script ScriptLocals :=
  match row.shootingDay with
  | .none => pure locals
  | .group dayRef label => do
      let (day, locals) ← groupDay env req locals episodeId dayRef label
      let (scheduled, fallbackOrder) ← scheduleRowOnDay env req sceneId day.id sceneVersion
        locals.fallbackOrder
      pure { locals with
        fallbackOrder
        result := { locals.result with
          plannedSceneShoots := if scheduled then locals.result.plannedSceneShoots + 1
            else locals.result.plannedSceneShoots } }

/-- One row of the plan. -/
def applyScriptRow (env : ScriptEnv) (req : ApplyScriptRequest) (locals : ScriptLocals)
    (row : SceneApplyPlan) : Script ScriptLocals := do
  let (episode, locals) ← rowEpisode env req locals row
  let (scene, state) ← applySceneRow env req episode.1 row
  let locals ← foldM (rowFigure env req) row.characters
    (locals.recordRow req row episode scene state)
  let lanes := sceneBeatLanes row
  let version ← foldM (beatVersion req row) (lanes.flatMap (·.beats)) scene.version
  let version ← foldM (assignLane locals.figures scene.aggregateId) lanes version
  let (locals, version) ← foldM (applyLane env req row scene.aggregateId) lanes (locals, version)
  rowShootingDay env req row episode.1 scene.aggregateId locals version

/-- `run_script_apply`, with the local variables it ends with. -/
def runScriptApply (env : ScriptEnv) (req : ApplyScriptRequest) : Script ScriptLocals := do
  let planned ← read fun w => req.plan w.base.mappings
  let plan ← ofExcept planned
  let locals ← foldM (applyScriptRow env req) plan.scenes (startScript plan)
  ofExcept (if req.telemetry then env.recordTelemetry else .ok ())
  pure locals

/-- `apply_script`; others act once more before the caller hears of the result. -/
def applyScript (env : ScriptEnv) (req : ApplyScriptRequest) : Script ScriptApplyResult := do
  let claimed ← ofExcept env.claimApplyRun
  if claimed then do
    let locals ← runScriptApply env req
    interfere
    pure locals.result
  else fail (.conflict .aiImportApplyInFlight
    "another apply run already owns this job's progress slot")

end Breakdown.Ai
