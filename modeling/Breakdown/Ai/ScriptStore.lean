/-
**WHAT APPLYING A SCRIPT PREVIEW READS AND WRITES**
(the plan of `core/src/ai/preview.rs`, the ports of `ApplyWorker` in `infra/src/ai/workers.rs`).

The script apply drives scenes, characters, pieces, outfits, episodes, days and scene shoots, and
keeps its place in the mapping table. Other users go on editing scenes meanwhile. Their commands
touch scene streams only, and the worker sees a scene stream only through its own scene commands;
so it is enough to let them act right before each of those, and once more at the end of a run.

A scene command is answered by the actor its instance keeps for the scene. That actor may not have
seen what other instances appended since; it refuses on what it has seen, and only an append makes
it read on.

The store remembers every scene command of the worker together with the stream it met and what the
actor had seen of it, and every creation and outfit beat together with the mapping key it was made
for.

- `ScriptStore`: streams, mapping table, the pending actions of others, how far the asked actors
  lag, and what was sent and made so far;
- `sceneCommand`: others act, then an actor that may lag answers the command;
- `executeAt_scene`: so does the actor of any instance.

Confidences and what a plan carries for reports only are left out.
-/
import Breakdown.Aggregates.Versions
import Breakdown.Ai.ScheduleApply

namespace Breakdown.Ai

open EventLog Stepwise Reservations Function EntityActorState

/-! ## §1. The plan -/

inductive SceneApplyCommand
  | create (cmd : CreateScene)
  | update (cmd : UpdateSceneDetails)

inductive PlannedShootingDay
  | none
  | group (dayRef : String) (label : Option String)

inductive PlannedEpisode
  | existing (episodeId : EpisodeId)
  | new (episodeRef : String) (number : Int) (name : Option String)

structure CharacterApplyPlan where
  name : String
  identity : String
  category : CharacterCategory

structure PieceApplyPlan where
  ordinal : Nat
  name : String
  categoryId : Option CostumeCategoryId
  notes : Option String

structure ContinuationPlan where
  sourceDraftRef : String
  sourceOutfitOrdinal : Nat

/-- A look to apply. -/
structure OutfitApplyPlan where
  ordinal : Nat
  characterIdentity : String
  characterName : String
  name : String
  notes : Option String
  pieces : List PieceApplyPlan
  continuation : Option ContinuationPlan
  beatOrdinal : Nat
  fromContinuitySelection : Bool

/-- A row to apply. -/
structure SceneApplyPlan where
  draftRef : String
  episode : PlannedEpisode
  shootingDay : PlannedShootingDay
  scene : SceneApplyCommand
  characters : List CharacterApplyPlan
  outfits : List OutfitApplyPlan

inductive UnappliedOutfitReason
  | characterNotPlanned
  | characterUnavailable
  | pieceRejected
  | createRejected
  | notesRejected
  | bindingRejected
  | beatRejected
  | continuityUnresolved
  deriving DecidableEq

structure UnappliedOutfit where
  draftRef : String
  ordinal : Nat
  characterName : String
  name : String
  reason : UnappliedOutfitReason
  detail : Option String
  deriving DecidableEq

/-- The rows to apply, and what is left out. -/
structure ScriptApplyPlan where
  scenes : List SceneApplyPlan
  unappliedOutfits : List UnappliedOutfit

/-- `character_mapping_ref`. -/
def characterMappingRef (identity : String) : String := "@character/" ++ identity

/-- One lane of `scene_beat_lanes`: a figure of the row with its outfits, in plan order. -/
structure SceneBeatLane where
  character : CharacterApplyPlan
  beats : List OutfitApplyPlan

/-- `scene_beat_lanes`. -/
def sceneBeatLanes (row : SceneApplyPlan) : List SceneBeatLane :=
  row.characters.map fun character =>
    ⟨character, row.outfits.filter (·.characterIdentity = character.identity)⟩

structure AppliedEpisodeIdentity where
  id : EpisodeId
  number : Int
  name : Option String

/-- `ApplyScriptRequest`. What the preview and the decisions of the reviewer come to is the plan:
`resolved_decisions` and `plan_scene_apply`, with the refusals of the planner already mapped. -/
structure ApplyScriptRequest where
  previewId : AiImportJobId
  plan : MappingTable → Except DomainError ScriptApplyPlan
  seasonId : SeasonId
  projectId : Option ProjectId
  blockId : BlockId
  knownEpisodes : List AppliedEpisodeIdentity
  /-- `telemetry.is_some()`. -/
  telemetry : Bool

/-! ## §2. The store -/

/-- A scene command of somebody else; it takes nothing out of a scene. -/
structure ForeignCommand where
  cmd : SceneCommand
  keeps : cmd.unlinks = false

/-- A scene command of the worker, with what it met. -/
structure SceneDispatch where
  cmd : SceneCommand
  /-- What the asked actor had seen of the stream. -/
  seen : List SceneEvent
  log : List SceneEvent
  /-- Something was made before for the key the command is sent for. -/
  again : Bool

/-- Everything a script apply reads and writes. -/
structure ScriptStore where
  base : Store
  characters : Uuid → List CharacterEvent
  episodes : Uuid → List EpisodeEvent
  pieces : Uuid → List PieceEvent
  outfits : Uuid → List OutfitEvent
  /-- What others will do, one batch before each scene command of the worker. -/
  others : List (List ForeignCommand)
  /-- How many of the last events of its scene the asked actor has not seen, one number for each
      scene command of the worker; after the last of them, no actor lags. -/
  lags : List Nat
  /-- The scene commands of all runs so far, newest first. -/
  sent : List SceneDispatch
  /-- The aggregates that got a creation event or an outfit beat from a run, with the mapping key it
      was made for, newest first. -/
  made : List (MappingKey × Uuid)

/-- What the actor that is asked next has seen of a scene. -/
def ScriptStore.seen (w : ScriptStore) (id : Uuid) : List SceneEvent :=
  (w.base.scenes id).take ((w.base.scenes id).length - w.lags.headD 0)

theorem ScriptStore.seen_le (w : ScriptStore) (id) : w.seen id <+: w.base.scenes id :=
  ⟨_, List.take_append_drop ..⟩

/-- How many creations and beats were made for the key. -/
def ScriptStore.timesMade (w : ScriptStore) (key : MappingKey) : Nat :=
  (w.made.map Prod.fst).count key

/-- What the code takes from outside. -/
structure ScriptEnv extends ApplyEnv where
  /-- What `season_repo.find_by_id` answers when the outfit of the key is about to be created: is
      the target season archived? -/
  findSeason : MappingKey → Except DomainError Bool
  /-- `queue.claim_apply_run`. -/
  claimApplyRun : Except DomainError Bool
  /-- `queue.record_telemetry`. -/
  recordTelemetry : Except DomainError Unit

/-- A program of the script apply. -/
abbrev Script (α : Type) := Prog ScriptStore DomainError α

/-- A program over the part shared with the schedule apply. -/
def onBase {α : Type} (x : Apply α) : Script α :=
  within ScriptStore.base (fun w base => { w with base }) x

theorem onBase_atomic (f : Store → Store × Except DomainError α) : onBase (atomic f) =
      atomic fun w : ScriptStore => ({ w with base := (f w.base).1 }, (f w.base).2) := rfl

/-! ## §3. Scene commands -/

/-- `SceneCommandsImpl`: a create expects an empty stream, an update the version it names, and the
development reset deletes scenes at whatever version they are. The actor that answers has seen
`seen` of the stream `log`. -/
def dispatchScene (cmd : SceneCommand) (seen log : List SceneEvent) :
    List SceneEvent × Except DomainError AggregateVersion :=
  match expectation SceneAggregate cmd with
  | .error e => (log, .error e)
  | .ok expected =>
    let executed := handleExecute (load SceneAggregate seen) log expected cmd .acknowledged
      conflictRetries
    (executed.2.1, mapExecutedResult executed.2.2)

/-- **WHICHEVER INSTANCE IS ASKED**, its actor has seen some part of the scene, and answers as
`dispatchScene` does. -/
theorem executeAt_scene (s : ActorSystem Uuid SceneAggregate) (i id)
    (hexpected : expectation SceneAggregate cmd = .ok expected) :
    ∃ seen, seen <+: s.streams id ∧ dispatchScene cmd seen (s.streams id) =
      ((s.executeAt i id expected cmd .acknowledged).1.streams id,
        mapExecutedResult (s.executeAt i id expected cmd .acknowledged).2) := by
  obtain ⟨seen, hseen, hactor⟩ := s.actorOrStart_follows i id
  refine ⟨seen, hseen, ?_⟩
  simp only [dispatchScene, hexpected, ActorSystem.executeAt, ActorSystem.put_streams, update_self,
    hactor]
  rfl

/-- A command on the scenes, answered by an actor that has seen `seen`. -/
def actOn (scenes : Uuid → List SceneEvent) (cmd : SceneCommand) (seen : List SceneEvent) :
    Uuid → List SceneEvent :=
  update scenes cmd.id (dispatchScene cmd seen (scenes cmd.id)).1

/-- Others do what they do next. What a lagging actor refuses changes nothing, and what it appends is
decided on the whole stream; so it is enough to ask actors that have seen it. -/
def ScriptStore.othersAct (w : ScriptStore) : ScriptStore := match w.others with
  | [] => w
  | batch :: rest =>
    { w with
      base := { w.base with
        scenes := batch.foldl (fun scenes foreign =>
          actOn scenes foreign.cmd (scenes foreign.cmd.id)) w.base.scenes }
      others := rest }

/-- Let others act. -/
def interfere : Script Unit := atomic fun w => (w.othersAct, .ok ())

/-- What is made of it when the stream of `id` went from `before` to `after` for `key`. -/
def madeFor {ε : Type} (key : MappingKey) (id : Uuid) (before after : List ε) :
    List (MappingKey × Uuid) :=
  if before.length < after.length then [(key, id)] else []

/-- The store after a command, with what the command met. A creation and a beat are made for a key. -/
def ScriptStore.send (w : ScriptStore) (key : Option MappingKey) (cmd : SceneCommand) :
    ScriptStore :=
  let log := w.base.scenes cmd.id
  let seen := w.seen cmd.id
  { w with
    base := { w.base with scenes := actOn w.base.scenes cmd seen }
    lags := w.lags.tail
    sent := ⟨cmd, seen, log, key.any fun key => w.timesMade key ≠ 0⟩ :: w.sent
    made := (key.elim [] fun key =>
      madeFor key cmd.id log (dispatchScene cmd seen log).1) ++ w.made }

/-- Send a command. -/
def sendScene (key : Option MappingKey) (cmd : SceneCommand) : Script AggregateVersion :=
  atomic fun w =>
    (w.send key cmd, (dispatchScene cmd (w.seen cmd.id) (w.base.scenes cmd.id)).2)

/-- A scene command of the worker. -/
def sceneCommand (key : Option MappingKey) (cmd : SceneCommand) : Script AggregateVersion := do
  interfere
  sendScene key cmd

/-! ## §4. The other ports -/

/-- `character_commands.create`. -/
def createCharacter (key : MappingKey) (cmd : CreateCharacter) : Script AggregateVersion :=
  atomic fun w =>
    let log := w.characters cmd.id
    let created := SoleWriter.create CharacterAggregate (.create cmd) log
    ({ w with
        characters := update w.characters cmd.id created.1
        made := madeFor key cmd.id log created.1 ++ w.made }, created.2)

/-- `PieceCommands::create`. -/
def createPiece (key : MappingKey) (cmd : CreatePiece) : Script AggregateVersion := atomic fun w =>
    let log := w.pieces cmd.id
    let created := SoleWriter.create PieceAggregate (.create cmd) log
    ({ w with
        pieces := update w.pieces cmd.id created.1
        made := madeFor key cmd.id log created.1 ++ w.made }, created.2)

/-- `PieceCommands::set_category`. -/
def setPieceCategory (cmd : SetPieceCategory) : Script AggregateVersion := atomic fun w =>
    let updated := SoleWriter.updateOrNoop PieceAggregate cmd.version (.setCategory cmd)
      (w.pieces cmd.id)
    ({ w with pieces := update w.pieces cmd.id updated.1 }, updated.2)

/-- `PieceCommands::update_notes`. -/
def updatePieceNotes (cmd : UpdatePieceNotes) : Script AggregateVersion := atomic fun w =>
    let updated := SoleWriter.update PieceAggregate cmd.version (.updateNotes cmd)
      (w.pieces cmd.id)
    ({ w with pieces := update w.pieces cmd.id updated.1 }, updated.2)

/-- `OutfitCommands::create`. -/
def createOutfit (key : MappingKey) (cmd : CreateOutfit) : Script AggregateVersion :=
  atomic fun w =>
    let log := w.outfits cmd.id
    let created := SoleWriter.create OutfitAggregate (.create cmd) log
    ({ w with
        outfits := update w.outfits cmd.id created.1
        made := madeFor key cmd.id log created.1 ++ w.made }, created.2)

/-- `OutfitCommands::add_piece`. -/
def addPieceToOutfit (cmd : AddPieceToOutfit) : Script AggregateVersion := atomic fun w =>
    let updated := SoleWriter.updateOrNoop OutfitAggregate cmd.version (.addPiece cmd)
      (w.outfits cmd.id)
    ({ w with outfits := update w.outfits cmd.id updated.1 }, updated.2)

/-- `OutfitCommands::update_notes`. -/
def updateOutfitNotes (cmd : UpdateOutfitNotes) : Script AggregateVersion := atomic fun w =>
    let updated := SoleWriter.update OutfitAggregate cmd.version (.updateNotes cmd)
      (w.outfits cmd.id)
    ({ w with outfits := update w.outfits cmd.id updated.1 }, updated.2)

/-- `shooting_day_commands.create`. -/
def createDayFor (key : MappingKey) (cmd : CreateShootingDay) : Script AggregateVersion :=
  atomic fun w =>
    let log := w.base.days cmd.id
    let created := SoleWriter.create ShootingDayAggregate (.create cmd) log
    ({ w with
        base := { w.base with days := update w.base.days cmd.id created.1 }
        made := madeFor key cmd.id.uuid log created.1 ++ w.made }, created.2)

/-- A create under a claim: claim, execute, give the claim back if it was rejected. -/
def createClaimed {ε χ : Type} [IntoDomainError χ] (env : ScriptEnv) (claimKey : String) (id : Uuid)
    (conflict : DomainError) (execute : Script (Reply ε χ)) : Script AggregateVersion := do
  let claim ← onBase (reserveClaim env.toApplyEnv claimKey id conflict)
  let reply ← execute
  onBase (compensateCreateClaim env.toApplyEnv claim reply)
  ofExcept (mapExecutedResult reply)

/-- Execute `CreateEpisode` on an empty stream. -/
def executeCreateEpisode (key : MappingKey) (cmd : CreateEpisode) :
    Script (Reply EpisodeEvent EpisodeError) :=
  atomic fun w =>
    let log := w.episodes cmd.id
    let executed := SoleWriter.executeOn EpisodeAggregate log .empty (.create cmd)
    ({ w with
        episodes := update w.episodes cmd.id executed.1
        made := madeFor key cmd.id log executed.1 ++ w.made }, .ok executed.2)

/-- `episode_commands.create`: claim the number, then create. -/
def createEpisode (env : ScriptEnv) (key : MappingKey) (cmd : CreateEpisode) :
    Script AggregateVersion :=
  createClaimed env (episodeNumberKey cmd.projectId.uuid cmd.number) cmd.id
    (.conflict .episodeNumberAlreadyExists "episode number already taken")
    (executeCreateEpisode key cmd)

/-- Execute `PlanSceneShoot` on an empty stream. -/
def executePlanFor (key : MappingKey) (cmd : PlanSceneShoot) :
    Script (Reply SceneShootEvent SceneShootError) :=
  atomic fun w =>
    let log := w.base.shoots cmd.id
    let executed := SoleWriter.executeOn SceneShootAggregate log .empty (.plan cmd)
    ({ w with
        base := { w.base with shoots := update w.base.shoots cmd.id executed.1 }
        made := madeFor key cmd.id.uuid log executed.1 ++ w.made }, .ok executed.2)

/-- `scene_shoot_commands.plan`: claim the pair, then create. -/
def planShootFor (env : ScriptEnv) (key : MappingKey) (cmd : PlanSceneShoot) :
    Script AggregateVersion :=
  createClaimed env (sceneShootPairKey env.pairHash cmd.sceneId cmd.shootingDayId.uuid) cmd.id.uuid
    (.conflict .sceneShootPairAlreadyExists "scene is already scheduled on this shooting day")
    (executePlanFor key cmd)

/-- `day_linker`: the day machinery of the schedule apply, built from the worker's own ports. -/
def dayLinker : DayPorts ScriptStore where
  find key := onBase (findMapping key)
  reserve mapping := onBase (reserveMapping mapping)
  insert mapping := onBase (insertMapping mapping)
  createDay := createDayFor

/-- `confirm`: advance a mapping row to the version the aggregate reached. -/
def confirm (mapping : AiImportMapping) (version : AggregateVersion) : Script Unit :=
  onBase (insertMapping { mapping with aggregateVersion := version })

/-- The row that was found, or the key reserved now. -/
def orReserve (stored : Option AiImportMapping) (key : MappingKey) (id : Uuid) :
    Script AiImportMapping :=
  match stored with
  | some mapping => pure mapping
  | none => onBase (reserveMapping (.reservation key id))

/-- The row of a key, reserved now if there is none. -/
def findOrReserve (key : MappingKey) (id : Uuid) : Script AiImportMapping := do
  let stored ← onBase (findMapping key)
  orReserve stored key id

end Breakdown.Ai
