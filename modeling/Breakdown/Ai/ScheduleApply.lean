/-
**APPLYING A MERGED SHOOTING SCHEDULE**
(`infra/src/ai/schedule_apply.rs`, the `plan` adapter of `command_adapters.rs`).

A merged preview lists scenes with the schedule rows that mention them. For every row the worker
resolves the shooting day (creating it on first sight), links the scene to the day, plans a scene
shoot for the pair and confirms it in the mapping table. The three effects are separate writes to
separate streams, so the run is a program that can be stopped between any two of them.

`derive_id` and the pair key are truncated SHA-256 digests and parameters here, as is how a date is
printed. The scores of a preview and what else its rows display are left out.

- `resolveDay`, `planPair`: the two protocols reserve / create / confirm;
- `apply`: the worker, one pass over the rows.
-/
import Breakdown.Ai.Mapping
import Breakdown.Ai.Preview
import Breakdown.Lib.Stepwise
import Breakdown.Reservations.Store

namespace Breakdown.Ai

open EventLog Stepwise Reservations Function

/-! ## §1. The merged preview -/

/-- `SceneView`, as far as the worker reads it. -/
structure SceneView where
  id : Uuid
  episodeId : EpisodeId
  version : AggregateVersion

/-- `ShootingScheduleRow`, as far as the worker reads it. -/
structure ShootingScheduleRow where
  shootingDayLabel : Option String
  date : Option NaiveDate
  order : Option UInt32

structure MergedScene where
  scene : SceneView
  scheduleRows : List ShootingScheduleRow

structure MergedPreview where
  scenes : List MergedScene := []
  unmatchedScheduleRows : List ShootingScheduleRow := []
  unmatchedScriptScenes : List SceneView := []

/-- `ensure_merge_applyable`. -/
def ensureMergeApplyable (preview : MergedPreview) : Except ApplyGateError Unit :=
  if preview.unmatchedScheduleRows ≠ [] then
    .error (.unmatchedScheduleRows preview.unmatchedScheduleRows.length)
  else if preview.unmatchedScriptScenes ≠ [] then
    .error (.unmatchedScriptScenes preview.unmatchedScriptScenes.length)
  else .ok ()

/-- A row with the scene it is about. -/
abbrev ScheduledRow := SceneView × ShootingScheduleRow

/-- The two nested loops of the worker, flattened. -/
def MergedPreview.rows (preview : MergedPreview) : List ScheduledRow :=
  preview.scenes.flatMap fun merged => merged.scheduleRows.map (merged.scene, ·)

structure ScheduleApplyRequest where
  previewId : AiImportJobId
  preview : MergedPreview

/-! ## §2. The store -/

/-- Everything the worker reads and writes: event streams, claims and the mapping table. -/
structure Store where
  scenes : Uuid → List SceneEvent
  days : ShootingDayId → List ShootingDayEvent
  shoots : SceneShootId → List SceneShootEvent
  claims : String → List StoredEvent
  mappings : MappingTable

/-- What the code takes from outside: digests, the calendar and the clock. -/
structure ApplyEnv where
  /-- `derive_id`: SHA-256 of the whole mapping key, cut to an id. -/
  deriveId : MappingKey → Uuid
  pairHash : PairHash
  /-- `NaiveDate::to_string`. -/
  renderDate : NaiveDate → String
  now : Timestamp

/-- A program of the apply worker. -/
abbrev Apply (α : Type) := Prog Store DomainError α

/-- `mappings.find`. -/
def findMapping (key : MappingKey) : Apply (Option AiImportMapping) := read (·.mappings.find key)

/-- `mappings.reserve`. -/
def reserveMapping (mapping : AiImportMapping) : Apply AiImportMapping := atomic fun s =>
    ({ s with mappings := (s.mappings.reserve mapping).1 }, .ok (s.mappings.reserve mapping).2)

/-- `mappings.insert`. -/
def insertMapping (mapping : AiImportMapping) : Apply Unit :=
  atomic fun s => ({ s with mappings := s.mappings.insert mapping }, .ok ())

/-- `shooting_day_commands.create`. -/
def createShootingDay (cmd : CreateShootingDay) : Apply AggregateVersion := atomic fun s =>
    let created := SoleWriter.create ShootingDayAggregate (.create cmd) (s.days cmd.id)
    ({ s with days := update s.days cmd.id created.1 }, created.2)

/-- `schedule_scene`. -/
def scheduleScene (sceneId : Uuid) (shootingDayId : ShootingDayId) (version : AggregateVersion) :
    Apply AggregateVersion :=
  atomic fun s =>
    let updated := SoleWriter.update SceneAggregate version
      (.scheduleOnShootingDay ⟨sceneId, shootingDayId, version⟩) (s.scenes sceneId)
    ({ s with scenes := update s.scenes sceneId updated.1 }, updated.2)

/-- `ReservationStore::reserve` of a process that nobody competes with. -/
def reserveClaim (env : ApplyEnv) (key : String) (aggregateId : Uuid) (conflict : DomainError) :
    Apply ReservationClaim :=
  atomic fun s =>
    let log := s.claims key
    let claimed : Store := { s with
      claims := update s.claims key (log ++ [⟨.reserved aggregateId, env.now⟩]) }
    match claimObstacle key aggregateId log with
    | .claimableAtFreshStream => (claimed, .ok ⟨key, aggregateId, log.length⟩)
    | .claimable _ => (claimed, .ok ⟨key, aggregateId, log.length⟩)
    | .ownedBySelf claim => (s, .ok claim)
    | .permanent => (s, .error conflict)

/-- `compensate_create_claim`: a rejected create gives its claim back, if it still stands. -/
def compensateCreateClaim {ε χ : Type} (env : ApplyEnv) (claim : ReservationClaim)
    (reply : Reply ε χ) : Apply Unit :=
  match reply with
  | .error (.handle _) => atomic fun s =>
    let log := s.claims claim.key
    let released : Store := { s with
      claims := update s.claims claim.key
        (log ++ [⟨.released claim.aggregateId, env.now⟩]) }
    if versionOf log = .current claim.claimVersion then (released, .ok ()) else (s, .ok ())
  | _ => pure ()

/-- Execute `PlanSceneShoot` on an empty stream. -/
def executePlan (cmd : PlanSceneShoot) : Apply (Reply SceneShootEvent SceneShootError) :=
  atomic fun s =>
    let executed := SoleWriter.executeOn SceneShootAggregate (s.shoots cmd.id) .empty (.plan cmd)
    ({ s with shoots := update s.shoots cmd.id executed.1 }, .ok executed.2)

/-- `scene_shoot_commands.plan`: claim the pair, then create. -/
def planSceneShoot (env : ApplyEnv) (cmd : PlanSceneShoot) : Apply AggregateVersion := do
  let claim ← reserveClaim env
    (sceneShootPairKey env.pairHash cmd.sceneId cmd.shootingDayId.uuid) cmd.id.uuid
    (.conflict .sceneShootPairAlreadyExists "scene is already scheduled on this shooting day")
  let reply ← executePlan cmd
  compensateCreateClaim env claim reply
  ofExcept (mapExecutedResult reply)

/-! ## §3. Days -/

structure AppliedDay where
  id : ShootingDayId
  version : AggregateVersion
  created : Bool
  deriving DecidableEq

/-- The draft reference of a row's day: episode, date and label. -/
def dayRef (env : ApplyEnv) (scene : SceneView) (row : ShootingScheduleRow) : String :=
  "shooting-day:" ++ scene.episodeId.uuid.toDisplay ++ ":" ++
    ((row.date.map env.renderDate).getD "") ++ ":" ++ row.shootingDayLabel.getD ""

/-- The mapping key of a day. -/
def dayKey (previewId : AiImportJobId) (draftRef : String) : MappingKey :=
  ⟨previewId, draftRef, .shootingDay, primaryOrdinal⟩

structure DayDraft where
  previewId : AiImportJobId
  draftRef : String
  episodeId : EpisodeId
  label : Option String
  date : Option NaiveDate

/-- `LexicalSortKey::new`, with its error as the worker reports it. -/
def sortKey (text : String) : Except DomainError LexicalSortKey :=
  match LexicalSortKey.new text with
  | .ok key => .ok key
  | .error e => .error (.validation .domainValidation e.toDisplay)

/-- The ports of `ScheduleApplyWorker` that resolving a day goes through. -/
structure DayPorts (S : Type) where
  find : MappingKey → Prog S DomainError (Option AiImportMapping)
  reserve : AiImportMapping → Prog S DomainError AiImportMapping
  insert : AiImportMapping → Prog S DomainError Unit
  /-- Create the day of the key. -/
  createDay : MappingKey → CreateShootingDay → Prog S DomainError AggregateVersion

/-- Reserve, create and confirm a day that is not confirmed yet. -/
def DayPorts.driveDay {S : Type} (ports : DayPorts S) (env : ApplyEnv) (draft : DayDraft) :
    Prog S DomainError AppliedDay := do
  let key := dayKey draft.previewId draft.draftRef
  let orderKey ← ofExcept (sortKey ("day-" ++ (env.deriveId key).toDisplay))
  let reservation ← ports.reserve (.reservation key (env.deriveId key))
  let id : ShootingDayId := ⟨reservation.aggregateId⟩
  let version ← mapResult recoverVersion (ports.createDay key {
    id, episodeId := draft.episodeId, label := draft.label, orderKey, date := draft.date
    source := .aiExtracted draft.previewId.uuid (some draft.draftRef) })
  ports.insert { reservation with aggregateId := id.uuid, aggregateVersion := version }
  pure ⟨id, version, true⟩

/-- `resolve_day`: only a confirmed mapping is a finished day. -/
def DayPorts.resolveDay {S : Type} (ports : DayPorts S) (env : ApplyEnv) (draft : DayDraft) :
    Prog S DomainError AppliedDay := do
  let mapping ← ports.find (dayKey draft.previewId draft.draftRef)
  match mapping.filter (!·.isReserved) with
  | some mapping => pure ⟨⟨mapping.aggregateId⟩, mapping.aggregateVersion, false⟩
  | none => ports.driveDay env draft

/-- The ports of the schedule apply itself. -/
def applyPorts : DayPorts Store where
  find := findMapping
  reserve := reserveMapping
  insert := insertMapping
  createDay _ := createShootingDay

def driveDay (env : ApplyEnv) (draft : DayDraft) : Apply AppliedDay := applyPorts.driveDay env draft

def resolveDay (env : ApplyEnv) (draft : DayDraft) : Apply AppliedDay :=
  applyPorts.resolveDay env draft

/-! ## §4. The loop -/

/-- The local variables of `apply`. -/
structure ApplyLocals where
  dayByKey : String → Option AppliedDay
  sceneVersions : Uuid → Option AggregateVersion
  fallbackOrder : Nat
  createdDays : Nat
  plannedSceneShoots : Nat

/-- `u32::MAX`. -/
def u32Max : Nat := 2 ^ 32 - 1

/-- `max_supplied_order`. -/
def maxSuppliedOrder (rows : List ScheduledRow) : Nat :=
  (rows.filterMap (·.2.order)).foldl (fun highest order => max highest order.toNat) 0

/-- Enter a scene into `scene_versions`. -/
def recordVersion (versions : Uuid → Option AggregateVersion) (merged : MergedScene) :
    Uuid → Option AggregateVersion :=
  update versions merged.scene.id (some merged.scene.version)

/-- The locals before the loop; of a scene listed twice the last version counts. -/
def startLocals (preview : MergedPreview) : ApplyLocals where
  dayByKey _ := none
  sceneVersions := preview.scenes.foldl recordVersion fun _ => none
  fallbackOrder := maxSuppliedOrder preview.rows
  createdDays := 0
  plannedSceneShoots := 0

/-- The draft reference of a (scene, day) pair. -/
def pairRef (sceneId : Uuid) (dayId : ShootingDayId) : String :=
  "scene-shoot:" ++ sceneId.toDisplay ++ ":" ++ dayId.uuid.toDisplay

/-- The mapping key of a (scene, day) pair. -/
def pairKey (previewId : AiImportJobId) (sceneId : Uuid) (dayId : ShootingDayId) : MappingKey :=
  ⟨previewId, pairRef sceneId dayId, .sceneShoot, primaryOrdinal⟩

/-- The day of a row: from this run, or resolved now. -/
def rowDay (env : ApplyEnv) (req : ScheduleApplyRequest) (locals : ApplyLocals)
    (item : ScheduledRow) : Apply (AppliedDay × ApplyLocals) :=
  let draftRef := dayRef env item.1 item.2
  match locals.dayByKey draftRef with
  | some day => pure (day, locals)
  | none => do
      let day ← resolveDay env
        ⟨req.previewId, draftRef, item.1.episodeId, item.2.shootingDayLabel, item.2.date⟩
      pure (day, { locals with
        createdDays := if day.created then locals.createdDays + 1 else locals.createdDays
        dayByKey := update locals.dayByKey draftRef (some day) })

/-- `format!("{order:08}")`. -/
def zeroPadded (order : Nat) : String := let digits := toString order
  String.ofList (List.replicate (8 - digits.length) '0' ++ digits.toList)

/-- The order of a row, or the next one above every supplied order. -/
def rowOrder (fallbackOrder : Nat) (row : ShootingScheduleRow) : Except DomainError (Nat × Nat) :=
  match row.order with
  | some order => .ok (order.toNat, fallbackOrder)
  | none =>
    if fallbackOrder + 1 ≤ u32Max then .ok (fallbackOrder + 1, fallbackOrder + 1)
    else .error (.validation .domainValidation "cannot allocate a unique fallback planned order")

/-- The work on a pair that is not confirmed yet. -/
def planPair (env : ApplyEnv) (req : ScheduleApplyRequest) (locals : ApplyLocals)
    (scene : SceneView) (row : ShootingScheduleRow) (day : AppliedDay) : Apply ApplyLocals := do
  -- the order first: it can fail, and must not leave the scene already scheduled
  let (order, fallbackOrder) ← ofExcept (rowOrder locals.fallbackOrder row)
  let plannedOrder ← ofExcept (sortKey (zeroPadded order))
  let key := pairKey req.previewId scene.id day.id
  let reservation ← reserveMapping (.reservation key (env.deriveId key))
  let sceneShootId : SceneShootId := ⟨reservation.aggregateId⟩
  let sceneVersion ← ofExcept (match locals.sceneVersions scene.id with
    | some version => .ok version
    | none => .error (.validation .domainValidation
        ("missing scene version for " ++ scene.id.toDisplay)))
  let sceneVersion ← scheduleScene scene.id day.id sceneVersion
  let version ← mapResult recoverVersion (planSceneShoot env {
    id := sceneShootId, sceneId := scene.id, shootingDayId := day.id, plannedOrder })
  insertMapping { reservation with
    aggregateId := sceneShootId.uuid, aggregateVersion := version }
  pure { locals with
    sceneVersions := update locals.sceneVersions scene.id (some sceneVersion)
    fallbackOrder
    plannedSceneShoots := locals.plannedSceneShoots + 1 }

/-- One row of the schedule. -/
def applyRow (env : ApplyEnv) (req : ScheduleApplyRequest) (locals : ApplyLocals)
    (item : ScheduledRow) : Apply ApplyLocals := do
  let (day, locals) ← rowDay env req locals item
  let mapping ← findMapping (pairKey req.previewId item.1.id day.id)
  if mapping.any (!·.isReserved) then pure locals
  else planPair env req locals item.1 item.2 day

/-- What the apply reports. -/
structure ScheduleApplyResult where
  createdDays : Nat
  plannedSceneShoots : Nat
  deriving DecidableEq

/-- The gate, with its error as the worker reports it. -/
def mergeGate (preview : MergedPreview) : Except DomainError Unit :=
  match ensureMergeApplyable preview with
  | .ok () => .ok ()
  | .error e => .error (.conflict .domainConflict e.toDisplay)

/-- `ScheduleApplyWorker::apply`. -/
def apply (env : ApplyEnv) (req : ScheduleApplyRequest) : Apply ScheduleApplyResult := do
  ofExcept (mergeGate req.preview)
  let locals ← foldM (applyRow env req) req.preview.rows (startLocals req.preview)
  pure ⟨locals.createdDays, locals.plannedSceneShoots⟩

end Breakdown.Ai
