/-
**THE SCENE-SHOOT PROJECTOR REFINES THE AGGREGATE**
(`infra/src/projectors/scene_shoot.rs`, table `projection_scene_shoot`).

The row of a scene shoot is written by one statement per event, and the statements are not the
aggregate's `apply` in SQL: the start sets the status whatever it was, the actual order only if it
was planned or scheduled, and a note is rewritten wherever its id occurs. That the row still shows
the aggregate is due to the commands, which record these events only in states where the two agree.

The orders and the instants come from requests. Which orders the two indexes over them take, and which
instants TIMESTAMPTZ takes, are parameters.

- `handle`: the projector;
- `statement_follows`: one event, on a row that shows the aggregate;
- `statement_stale`: an event the row has seen changes nothing;
- `scene_shoot_projected`: whole streams, and every redelivery;
- `start_loses_nanoseconds`: a start is not stored to the nanosecond.
-/
import Breakdown.Aggregates.ChildIds
import Breakdown.Aggregates.Lifetimes
import Breakdown.Lib.Tables
import Breakdown.Projections.Projector

namespace Breakdown

/-- The aggregate an event belongs to. -/
def SceneShootEvent.id : SceneShootEvent → SceneShootId
  | .sceneShootPlanned id _ _ _ _ _ | .sceneShootReplanned id _ _ | .sceneShootStarted id _ _
  | .sceneShootActualOrderSet id _ _ | .sceneShootFinished id _ _ | .sceneShootSkipped id _
  | .shootDayNoteAdded id _ _ _ _ | .shootDayNoteUpdated id _ _ _ | .shootDayNoteRemoved id _ _
  | .continuityPhotoLinked id _ _ | .continuityPhotoUnlinked id _ _ | .sceneShootDeleted id _ => id

/-- The texts of an event that are stored. -/
def SceneShootEvent.texts : SceneShootEvent → List String
  | .sceneShootPlanned _ _ _ plannedOrder _ _ => [plannedOrder.key]
  | .sceneShootReplanned _ plannedOrder _ => [plannedOrder.key]
  | .sceneShootActualOrderSet _ actualOrder _ => [actualOrder.key]
  | .shootDayNoteAdded _ _ body _ _ => [body]
  | .shootDayNoteUpdated _ _ body _ => [body]
  | _ => []

/-- The orders of an event, which stand in indexes. -/
def SceneShootEvent.orders : SceneShootEvent → List LexicalSortKey
  | .sceneShootPlanned _ _ _ plannedOrder _ _ => [plannedOrder]
  | .sceneShootReplanned _ plannedOrder _ => [plannedOrder]
  | .sceneShootActualOrderSet _ actualOrder _ => [actualOrder]
  | _ => []

/-- The instants of an event that are stored. -/
def SceneShootEvent.instants : SceneShootEvent → List Timestamp
  | .sceneShootStarted _ startDt _ => [startDt]
  | .sceneShootFinished _ endDt _ => [endDt]
  | _ => []

end Breakdown

namespace Breakdown.Projections

open Tables Fallible List Entity AggregateVersion SceneShootStatus

/-! ## §1. The table -/

/-- An element of the JSONB array `notes`. -/
structure NoteJson where
  id : Uuid
  body : String
  deriving DecidableEq

/-- The columns of `projection_scene_shoot` outside the keys. The projector's own version and the
creation time of the row are left out. -/
structure SceneShootColumns where
  plannedOrder : LexicalSortKey
  actualOrder : Option LexicalSortKey := none
  startDt : Option Timestamp := none
  endDt : Option Timestamp := none
  status : String
  notes : List NoteJson := []
  continuityPhotoIds : List PhotoId := []
  version : Nat
  updatedAt : Timestamp
  deriving DecidableEq

structure SceneShootRow extends SceneShootColumns where
  sceneId : Uuid
  shootingDayId : ShootingDayId
  deriving DecidableEq

/-- The columns of `uq_projection_scene_shoot_pair`. -/
abbrev SceneShootRow.pair (row : SceneShootRow) : Uuid × ShootingDayId :=
  (row.sceneId, row.shootingDayId)

/-- The table, and the keys of the two tables its foreign keys point to. -/
structure SceneShootTables where
  scenes : Uuid → Bool
  shootingDays : ShootingDayId → Bool
  shoots : UniqueTable SceneShootId SceneShootRow (Uuid × ShootingDayId) SceneShootRow.pair

/-- What the database takes of the values of a request. -/
structure ShootLimits where
  /-- The orders that fit an index entry, which is at most a third of a page after compression. -/
  indexable : LexicalSortKey → Bool
  /-- The instants in the range of TIMESTAMPTZ. -/
  inRange : Timestamp → Bool

/-! ## §2. The projector -/

namespace SceneShootProjector

variable (limits : ShootLimits)

/-- Write a row: nothing happens if the pair is taken, the index over the order has to take it, and
the parents must be there. -/
def writeRow (db : SceneShootTables) (id : SceneShootId) (row : SceneShootRow) :
    Except SqlError SceneShootTables :=
  match db.shoots.tryWrite id row with
  -- a taken pair violates `uq_projection_scene_shoot_pair`: the savepoint is rolled back and the event
  -- skipped (`is_unique_violation_on`)
  | none => .ok db
  | some shoots => do
      ensure (limits.indexable row.plannedOrder) .programLimitExceeded
      ensure (db.scenes row.sceneId && db.shootingDays row.shootingDayId) .foreignKeyViolation
      .ok { db with shoots }

/-- `SceneShootPlanned`: `ON CONFLICT (id) DO UPDATE … WHERE version < EXCLUDED.version`. -/
def plan (db : SceneShootTables) (id : SceneShootId) (sceneId : Uuid)
    (shootingDayId : ShootingDayId) (plannedOrder : LexicalSortKey) (status : SceneShootStatus)
    (version : Nat) (updatedAt : Timestamp) : Except SqlError SceneShootTables :=
  match db.shoots.rows id with
  | none =>
    writeRow limits db id
      { sceneId, shootingDayId, plannedOrder, status := status.asStr, version, updatedAt }
  | some row =>
    if row.version < version then
      writeRow limits db id
        { row with
          sceneId, shootingDayId, plannedOrder, version, updatedAt
          status := status.asStr }
    else .ok db

/-- `UPDATE … SET …, version = $v, updated_at = $t WHERE id = $1 AND version < $v`. -/
def update (db : SceneShootTables) (id : SceneShootId) (version : Nat) (updatedAt : Timestamp)
    (set : SceneShootColumns → Except SqlError SceneShootColumns) :
    Except SqlError SceneShootTables :=
  match db.shoots.rows id with
  | none => .ok db
  | some row =>
    if row.version < version then do
      let columns ← set row.toSceneShootColumns
      let shoots := db.shoots.modify id
        (fun row => { row with toSceneShootColumns := { columns with version, updatedAt } })
        (fun _ => rfl)
      .ok { db with shoots }
    else .ok db

/-- `jsonb_agg` over the notes: NULL if there are none. -/
def rewriteNote (noteId : Uuid) (body : String) (notes : List NoteJson) :
    Except SqlError (List NoteJson) :=
  if notes = [] then .error .notNullViolation
  else .ok (notes.map fun note => if note.id = noteId then ⟨noteId, body⟩ else note)

/-- The statement of an event. -/
def statement (db : SceneShootTables) (updatedAt : Timestamp) :
    SceneShootEvent → Except SqlError SceneShootTables
  | .sceneShootDeleted id _ => .ok { db with shoots := db.shoots.delete id }
  | .sceneShootPlanned id sceneId shootingDayId plannedOrder status version =>
    plan limits db id sceneId shootingDayId plannedOrder status version updatedAt
  | .sceneShootReplanned id plannedOrder version =>
    update db id version updatedAt fun row => do
      ensure (limits.indexable plannedOrder) .programLimitExceeded
      .ok { row with plannedOrder }
  | .sceneShootStarted id startDt version =>
    update db id version updatedAt fun row =>
      -- the status is set whatever it was
      .ok { row with startDt := some (timestamptz startDt), status := "InProgress" }
  | .sceneShootActualOrderSet id actualOrder version =>
    update db id version updatedAt fun row => do
      ensure (limits.indexable actualOrder) .programLimitExceeded
      .ok { row with
        actualOrder := some actualOrder
        -- CASE WHEN status IN ('Planned', 'Scheduled') THEN 'InProgress' ELSE status END
        status := if row.status = "Planned" ∨ row.status = "Scheduled" then "InProgress"
          else row.status }
  | .sceneShootFinished id endDt version =>
    update db id version updatedAt fun row =>
      .ok { row with endDt := some (timestamptz endDt), status := "Shot" }
  | .sceneShootSkipped id version =>
    update db id version updatedAt fun row => .ok { row with status := "Skipped" }
  | .shootDayNoteAdded id noteId body _ version =>
    update db id version updatedAt fun row => .ok { row with notes := row.notes ++ [⟨noteId, body⟩] }
  | .shootDayNoteUpdated id noteId body version =>
    update db id version updatedAt fun row => do
      let notes ← rewriteNote noteId body row.notes
      .ok { row with notes }
  | .shootDayNoteRemoved id noteId version =>
    update db id version updatedAt fun row =>
      .ok { row with notes := row.notes.filter (·.id ≠ noteId) }
  | .continuityPhotoLinked id photoId version =>
    update db id version updatedAt fun row =>
      .ok { row with continuityPhotoIds := row.continuityPhotoIds ++ [photoId] }
  | .continuityPhotoUnlinked id photoId version =>
    update db id version updatedAt fun row =>
      .ok { row with continuityPhotoIds := row.continuityPhotoIds.filter (· ≠ photoId) }

/-- `handle`: no statement takes U+0000 in the texts bound to it, nor an instant out of range. -/
def handle (db : SceneShootTables) (event : StoredEvent SceneShootEvent) :
    Except SqlError SceneShootTables := do
  ensure (event.data.texts.all storable) .invalidText
  ensure (event.data.instants.all limits.inRange) .datetimeOverflow
  statement limits db (timestamptz event.timestamp) event.data

/-- The database takes the values of the event. -/
def Takes (event : SceneShootEvent) : Bool :=
  event.texts.all storable && event.instants.all limits.inRange && event.orders.all limits.indexable

variable {limits}

theorem handle_eq_ok {event after} : handle limits db event = .ok after ↔
      (event.data.texts.all storable && event.data.instants.all limits.inRange) ∧
        statement limits db (timestamptz event.timestamp) event.data = .ok after := by
  unfold handle
  rw [check_eq_ok, check_eq_ok, ensure_eq_ok, ensure_eq_ok, Bool.and_eq_true, and_assoc]

/-- Tables after a statement on one row: the row is as given, the parents are what they were. -/
structure Wrote (db after : SceneShootTables) (id : SceneShootId) (row : Option SceneShootRow) :
    Prop where
  row : after.shoots.rows id = row
  scenes : after.scenes = db.scenes
  shootingDays : after.shootingDays = db.shootingDays

theorem update_newer {id set} (updatedAt) (hrow : db.shoots.rows id = some row)
    (hnewer : row.version < version) (hset : set row.toSceneShootColumns = .ok columns) :
    ∃ after, update db id version updatedAt set = .ok after ∧ Wrote db after id
        (some { row with toSceneShootColumns := { columns with version, updatedAt } }) := by
  unfold update
  rw [hrow]
  simp only [if_pos hnewer, hset]
  refine ⟨_, rfl, ?_, rfl, rfl⟩
  show db.shoots.rows.modify id _ id = _
  rw [Table.modify, Table.alter_self, hrow]
  rfl

/-- A row that has seen the version is left alone. -/
theorem update_stale {id} (updatedAt)
    (set : SceneShootColumns → Except SqlError SceneShootColumns) (hrow : db.shoots.rows id = some row)
    (hstale : version ≤ row.version) : update db id version updatedAt set = .ok db := by
  unfold update
  rw [hrow]
  simp only [if_neg (Nat.not_lt.mpr hstale)]

variable (limits) in
/-- The planning of a shoot the tables lack writes its row, if the index takes the order and the
parents are there. -/
theorem plan_new {id} (plannedOrder status version updatedAt)
    (hnone : db.shoots.rows id = none) (hfree : db.shoots.index (sceneId, shootingDayId) = none) :
    ∃ after, Wrote db after id (some
        { sceneId, shootingDayId, plannedOrder, status := status.asStr, version, updatedAt }) ∧
      plan limits db id sceneId shootingDayId plannedOrder status version updatedAt = (do
        ensure (limits.indexable plannedOrder) .programLimitExceeded
        ensure (db.scenes sceneId && db.shootingDays shootingDayId) .foreignKeyViolation
        .ok after) := by
  unfold plan writeRow
  rw [hnone]
  obtain ⟨shoots, hwrite, hrows⟩ := UniqueTable.tryWrite_free (k := id)
    (v := ({ sceneId, shootingDayId, plannedOrder, status := status.asStr, version, updatedAt } :
      SceneShootRow)) hfree
  dsimp only
  rw [hwrite]
  refine ⟨{ db with shoots }, ⟨?_, rfl, rfl⟩, rfl⟩
  show shoots.rows id = _
  rw [hrows, Table.put, Table.alter_self]

end SceneShootProjector

/-! ## §3. Rows that show an aggregate -/

/-- The row has what the aggregate has; instants to the microsecond, notes without their author. -/
structure SceneShootRow.Shows (row : SceneShootRow) (shoot : SceneShootAggregate) : Prop where
  sceneId : row.sceneId = shoot.sceneId
  shootingDayId : row.shootingDayId = shoot.shootingDayId
  plannedOrder : row.plannedOrder = shoot.plannedOrder
  actualOrder : row.actualOrder = shoot.actualOrder
  status : row.status = shoot.status.asStr
  startDt : row.startDt = shoot.startDt.map timestamptz
  endDt : row.endDt = shoot.endDt.map timestamptz
  notes : row.notes = shoot.notes.map fun note => ⟨note.id, note.body⟩
  photos : row.continuityPhotoIds = shoot.continuityPhotos
  version : row.version = shoot.version

/-- The table shows the aggregate: no row once it is deleted. -/
def SceneShootTables.Shown (db : SceneShootTables) (shoot : SceneShootAggregate) : Prop :=
  if shoot.deleted then db.shoots.rows shoot.id = none
  else ∃ row, db.shoots.rows shoot.id = some row ∧ row.Shows shoot

namespace SceneShootProjector

theorem shown_of_row {db : SceneShootTables} {row} (hlive : shoot.deleted = false)
    (hrow : db.shoots.rows shoot.id = some row) (hshows : row.Shows shoot) : db.Shown shoot := by
  unfold SceneShootTables.Shown
  rw [hlive]
  exact ⟨row, hrow, hshows⟩

theorem row_of_shown {db : SceneShootTables} (h : db.Shown shoot) (hlive : shoot.deleted = false) :
    ∃ row, db.shoots.rows shoot.id = some row ∧ row.Shows shoot := by
  unfold SceneShootTables.Shown at h
  rwa [hlive] at h

/-- With distinct ids, rewriting every note of an id rewrites the first one. -/
theorem map_updateFirstNote (noteId body) (hnodup : (notes.map (·.id)).Nodup) :
    (SceneShootAggregate.updateFirstNote noteId body notes).map
        (fun note => (⟨note.id, note.body⟩ : NoteJson)) =
      (notes.map fun note => (⟨note.id, note.body⟩ : NoteJson)).map
        fun note => if note.id = noteId then ⟨noteId, body⟩ else note := by
  induction notes with
  | nil => rfl
  | cons note rest ih =>
    rw [map_cons, nodup_cons] at hnodup
    unfold SceneShootAggregate.updateFirstNote
    by_cases heq : note.id = noteId
    · -- the id does not occur again
      have hrest : ∀ other ∈ rest.map fun note => (⟨note.id, note.body⟩ : NoteJson),
          (if other.id = noteId then (⟨noteId, body⟩ : NoteJson) else other) = other := by
        intro other hother
        obtain ⟨original, horiginal, rfl⟩ := mem_map.mp hother
        refine if_neg fun hsame => hnodup.1 ?_
        rw [heq, ← hsame]
        exact mem_map_of_mem horiginal
      rw [if_pos heq, map_cons, map_cons, map_cons, if_pos heq, map_congr_left hrest, map_id', heq]
    · rw [if_neg heq, map_cons, map_cons, map_cons, if_neg heq, ih hnodup.2]

/-- An event that the row has seen changes nothing. -/
theorem statement_stale (updatedAt) (hrow : db.shoots.rows e.id = some row)
    (hstale : e.version ≤ row.version) (hkept : e.isDeletion = false) :
    statement limits db updatedAt e = .ok db := by
  cases e with
  | sceneShootDeleted => cases hkept
  | sceneShootPlanned id sceneId shootingDayId plannedOrder status version =>
    show plan limits db id sceneId shootingDayId plannedOrder status version updatedAt = .ok db
    unfold plan
    rw [show db.shoots.rows id = some row from hrow]
    exact if_neg (Nat.not_lt.mpr hstale)
  | _ =>
    unfold statement
    exact update_stale updatedAt _ hrow hstale

/-- What the statement of an event leaves behind: the next state of the aggregate, and the parents as
they were. -/
structure Follows (db after : SceneShootTables) (next : SceneShootAggregate) : Prop where
  shown : after.Shown next
  scenes : after.scenes = db.scenes
  shootingDays : after.shootingDays = db.shootingDays

section Step

variable {db : SceneShootTables} {shoot next : SceneShootAggregate} {row : SceneShootRow}

/-- An update by the next event of a live shoot. -/
theorem update_follows {set : SceneShootColumns → Except SqlError SceneShootColumns}
    (updatedAt) (hrow : db.shoots.rows shoot.id = some row) (hshows : row.Shows shoot)
    (hset : set row.toSceneShootColumns = .ok columns) (hid : next.id = shoot.id)
    (hlive : next.deleted = false) (hnext : SceneShootRow.Shows { row with
      toSceneShootColumns := { columns with version := shoot.version.next, updatedAt } } next) :
    ∃ after, update db shoot.id shoot.version.next updatedAt set = .ok after ∧
      Follows db after next := by
  have hnewer : row.version < shoot.version.next := by
    rw [hshows.version]
    exact Nat.lt_succ_self _
  obtain ⟨after, hafter, hwrote⟩ := update_newer updatedAt hrow hnewer hset
  exact ⟨after, hafter, shown_of_row hlive (hid ▸ hwrote.row) hnext, hwrote.scenes,
    hwrote.shootingDays⟩

/-- The status that the actual order leaves is the aggregate's. -/
theorem status_actualOrder (hopen : shoot.isTerminal = false) :
    (if shoot.status.asStr = "Planned" ∨ shoot.status.asStr = "Scheduled" then "InProgress"
      else shoot.status.asStr) = inProgress.asStr := by
  obtain ⟨hshot, hskipped⟩ := SceneShootAggregate.isTerminal_eq_false.mp hopen
  cases hstatus : shoot.status with
  | planned | scheduled | inProgress => rfl
  | shot => exact absurd hstatus hshot
  | skipped => exact absurd hstatus hskipped

/-- A checked column is set if the check lets it through. -/
theorem checked_ok {columns : SceneShootColumns} (h : check = true) :
    (do ensure check error; .ok columns : Except SqlError SceneShootColumns) = .ok columns :=
  check_eq_ok.mpr ⟨ensure_eq_ok.mpr h, rfl⟩

/-- **ONE EVENT**, on a row that shows the aggregate. -/
theorem statement_follows (updatedAt) (hrow : db.shoots.rows shoot.id = some row)
    (hshows : row.Shows shoot) (hnodup : (shoot.notes.map (·.id)).Nodup) (hrecords : shoot.Records e)
    (horders : e.orders.all limits.indexable) :
    ∃ after, statement limits db updatedAt e = .ok after ∧ Follows db after (shoot.apply e) := by
  obtain ⟨hlive, hemits⟩ := hrecords
  unfold statement
  cases hemits with
  | replanned plannedOrder =>
    have htakes : limits.indexable plannedOrder = true := all_eq_true.mp horders _ mem_cons_self
    exact update_follows updatedAt hrow hshows (checked_ok htakes) rfl hlive
      { hshows with plannedOrder := rfl, version := rfl }
  | started startDt hopen =>
    -- the statement sets the status blindly; the command made sure that it is the right one
    refine update_follows updatedAt hrow hshows rfl rfl hlive
      { hshows with startDt := rfl, status := ?_, version := rfl }
    exact congrArg asStr
      (SceneShootAggregate.transitionOnExecution_open hopen).symm
  | actualOrderSet actualOrder hopen =>
    have htakes : limits.indexable actualOrder = true := all_eq_true.mp horders _ mem_cons_self
    refine update_follows updatedAt hrow hshows (checked_ok htakes) rfl hlive
      { hshows with actualOrder := rfl, status := ?_, version := rfl }
    have hstatus := status_actualOrder hopen
    rw [← hshows.status] at hstatus
    exact hstatus.trans (congrArg asStr
      (SceneShootAggregate.transitionOnExecution_open hopen).symm)
  | finished endDt =>
    exact update_follows updatedAt hrow hshows rfl rfl hlive
      { hshows with endDt := rfl, status := rfl, version := rfl }
  | skipped =>
    exact update_follows updatedAt hrow hshows rfl rfl hlive
      { hshows with status := rfl, version := rfl }
  | noteAdded =>
    refine update_follows updatedAt hrow hshows rfl rfl hlive
      { hshows with notes := ?_, version := rfl }
    show row.notes ++ _ = (shoot.notes ++ _).map _
    rw [hshows.notes, map_append]
    rfl
  -- the note is there, so `jsonb_agg` has something to aggregate
  | noteUpdated noteId body _ hmem =>
    have hne : row.notes ≠ [] := by
      rw [hshows.notes]
      intro hnil
      rw [map_eq_nil_iff.mp hnil] at hmem
      cases hmem
    have hset : (do
        let notes ← rewriteNote noteId body row.notes
        .ok { row.toSceneShootColumns with notes } : Except SqlError SceneShootColumns) =
        .ok { row.toSceneShootColumns with
          notes := row.notes.map fun note => if note.id = noteId then ⟨noteId, body⟩ else note } := by
      rw [rewriteNote, if_neg hne]
      rfl
    refine update_follows updatedAt hrow hshows hset rfl hlive
      { hshows with notes := ?_, version := rfl }
    show row.notes.map _ = (SceneShootAggregate.updateFirstNote noteId body shoot.notes).map _
    rw [hshows.notes, map_updateFirstNote noteId body hnodup]
  | noteRemoved noteId =>
    refine update_follows updatedAt hrow hshows rfl rfl hlive
      { hshows with notes := ?_, version := rfl }
    show row.notes.filter _ = (shoot.notes.filter _).map _
    rw [hshows.notes, filter_map]
    rfl
  | photoLinked photoId =>
    refine update_follows updatedAt hrow hshows rfl rfl hlive
      { hshows with photos := ?_, version := rfl }
    exact congrArg (· ++ [photoId]) hshows.photos
  | photoUnlinked photoId =>
    refine update_follows updatedAt hrow hshows rfl rfl hlive
      { hshows with photos := ?_, version := rfl }
    exact congrArg (filter _) hshows.photos
  -- the row goes, whatever its version
  | deleted =>
    refine ⟨_, rfl, ?_, rfl, rfl⟩
    show db.shoots.rows.delete shoot.id shoot.id = none
    rw [Table.delete, Table.alter_self]

/-- An update of a row by the next event sets its columns. -/
theorem update_needs {set : SceneShootColumns → Except SqlError SceneShootColumns} {after}
    (hrow : db.shoots.rows shoot.id = some row) (hshows : row.Shows shoot)
    (hafter : update db shoot.id shoot.version.next updatedAt set = .ok after) :
    ∃ columns, set row.toSceneShootColumns = .ok columns := by
  have hnewer : row.version < shoot.version.next := by
    rw [hshows.version]
    exact Nat.lt_succ_self _
  unfold update at hafter
  rw [hrow] at hafter
  simp only [if_pos hnewer] at hafter
  obtain ⟨columns, hcolumns, -⟩ := seq_eq_ok.mp hafter
  exact ⟨columns, hcolumns⟩

/-- An order that was written is one the index takes. -/
theorem statement_needs {after} (hrow : db.shoots.rows shoot.id = some row)
    (hshows : row.Shows shoot) (hrecords : shoot.Records e)
    (hafter : statement limits db updatedAt e = .ok after) : e.orders.all limits.indexable := by
  obtain ⟨-, hemits⟩ := hrecords
  unfold statement at hafter
  cases hemits with
  | replanned | actualOrderSet =>
    obtain ⟨columns, hset⟩ := update_needs hrow hshows hafter
    have htakes := ensure_eq_ok.mp (check_eq_ok.mp hset).1
    simpa [SceneShootEvent.orders] using htakes
  | _ => rfl

end Step

end SceneShootProjector

/-! ## §4. Streams -/

/-- The tables have neither the row of the shoot nor another one of its pair. -/
structure SceneShootTables.Lacks (db : SceneShootTables) (shoot : SceneShootAggregate) : Prop where
  row : db.shoots.rows shoot.id = none
  pair : db.shoots.index (shoot.sceneId, shoot.shootingDayId) = none

/-- The rows that the foreign keys ask for are there. -/
def SceneShootTables.HasParents (db : SceneShootTables) (shoot : SceneShootAggregate) : Prop :=
  db.scenes shoot.sceneId = true ∧ db.shootingDays shoot.shootingDayId = true

namespace SceneShootProjector

/-- What no event but the planning sets. -/
structure SameShoot (shoot other : SceneShootAggregate) : Prop where
  id : other.id = shoot.id
  sceneId : other.sceneId = shoot.sceneId
  shootingDayId : other.shootingDayId = shoot.shootingDayId

variable {db : SceneShootTables} {shoot : SceneShootAggregate} {log : List SceneShootEvent}

theorem sameShoot_apply (h : shoot.Emits e) : SameShoot shoot (shoot.apply e) := by
  cases h with
  | _ => exact ⟨rfl, rfl, rfl⟩

/-- Tables lack a shoot, or have its parents, whatever became of it since. -/
theorem SameShoot.lacks (h : SameShoot shoot other) : db.Lacks other ↔ db.Lacks shoot := by
  constructor
  · rintro ⟨hrow, hpair⟩
    rw [h.id] at hrow
    rw [h.sceneId, h.shootingDayId] at hpair
    exact ⟨hrow, hpair⟩
  · rintro ⟨hrow, hpair⟩
    rw [← h.id] at hrow
    rw [← h.sceneId, ← h.shootingDayId] at hpair
    exact ⟨hrow, hpair⟩

theorem SameShoot.hasParents (h : SameShoot shoot other) :
    db.HasParents other ↔ db.HasParents shoot := by
  unfold SceneShootTables.HasParents
  rw [h.sceneId, h.shootingDayId]

/-- A stream is about one shoot from its first event on. -/
theorem sameShoot_replay (h : ShootRun log) (hpre : pre <+: log) (hne : pre ≠ []) :
    SameShoot (replay SceneShootAggregate pre) (replay SceneShootAggregate log) := by
  have hsame := h.unchanged (fun shoot => (shoot.id, shoot.sceneId, shoot.shootingDayId)) hpre hne ?_
  · rw [Prod.mk.injEq, Prod.mk.injEq] at hsame
    exact ⟨hsame.1.symm, hsame.2.1.symm, hsame.2.2.symm⟩
  · intro shoot e hrecords
    obtain ⟨hid, hscene, hday⟩ := sameShoot_apply hrecords.emits
    exact Prod.ext hid (Prod.ext hscene hday)

/-- All events of a stream are about one shoot. -/
theorem id_of_mem (h : ShootRun log) (he : e ∈ log) :
    e.id = (replay SceneShootAggregate log).id := by
  refine h.id_of_mem he ?_ ?_
  · rintro e ⟨cmd⟩
    rfl
  · rintro shoot e ⟨-, hemits⟩
    cases hemits with
    | _ => exact ⟨rfl, rfl⟩

theorem not_deleted (hkept : ∀ e ∈ log, e.isDeletion = false) :
    (replay SceneShootAggregate log).deleted = false :=
  replay_not_deleted (σ := SceneShootAggregate) rfl (fun _ e => by cases e <;> rfl) hkept

/-- The planning, delivered to tables that lack the shoot, and what it takes. -/
theorem handle_planned (limits : ShootLimits) (hfirst : event.data.Founds)
    (hlacks : db.Lacks (replay SceneShootAggregate [event.data])) :
    ∃ after, Follows db after (replay SceneShootAggregate [event.data]) ∧
      ∀ after', handle limits db event = .ok after' ↔ (Takes limits event.data ∧
        db.HasParents (replay SceneShootAggregate [event.data])) ∧ after' = after := by
  obtain ⟨e, t⟩ := event
  obtain ⟨cmd⟩ := hfirst
  obtain ⟨after, hwrote, hplan⟩ := plan_new limits cmd.plannedOrder .planned initial
    (timestamptz t) hlacks.row hlacks.pair
  refine ⟨after, ⟨shown_of_row rfl hwrote.row ⟨rfl, rfl, rfl, rfl, rfl, rfl, rfl, rfl, rfl, rfl⟩,
    hwrote.scenes, hwrote.shootingDays⟩, fun after' => ?_⟩
  have hstatement : statement limits db (timestamptz t) (.sceneShootPlanned cmd.id cmd.sceneId
      cmd.shootingDayId cmd.plannedOrder .planned initial) = _ := hplan
  rw [handle_eq_ok, hstatement, check_eq_ok, check_eq_ok, ensure_eq_ok, ensure_eq_ok]
  unfold Takes SceneShootTables.HasParents
  simp only [SceneShootEvent.orders, all_cons, all_nil, Bool.and_true, Bool.and_eq_true,
    Except.ok.injEq, @eq_comm _ after, and_assoc]

section Streams

variable {start : SceneShootTables} {events : List (StoredEvent SceneShootEvent)}

section

variable (hrun : ShootRun (events.map (·.data)))
include hrun

/-- **A WHOLE STREAM**, delivered where the parents are, with values the database takes. -/
theorem project_follows (hfresh : shootNotes.Fresh (events.map (·.data)))
    (hlacks : start.Lacks (replay SceneShootAggregate (events.map (·.data))))
    (hparents : start.HasParents (replay SceneShootAggregate (events.map (·.data))))
    (htakes : ∀ e ∈ events, Takes limits e.data) :
    ∃ after, project (handle limits) start events = .ok after ∧
      Follows start after (replay SceneShootAggregate (events.map (·.data))) := by
  revert hfresh hlacks hparents htakes
  refine stored_rule hrun ?_ ?_
  · intro e hfirst _ hlacks hparents htakes
    obtain ⟨after, hfollows, hiff⟩ := handle_planned limits hfirst hlacks
    rw [project_singleton]
    exact ⟨after, (hiff after).mpr ⟨⟨htakes e (by simp), hparents⟩, rfl⟩, hfollows⟩
  · -- the parents are asked for by the planning only, and no later event is about another shoot
    intro events e hrun hrecords ih hfresh hlacks hparents htakes
    rw [replay_stored_concat] at hlacks hparents ⊢
    rw [map_append, map_singleton] at hfresh
    have hsame := sameShoot_apply hrecords.emits
    have hfresh' := hfresh.shorter (prefix_append _ _)
    obtain ⟨mid, hmid, hfollows⟩ := ih hfresh' (hsame.lacks.mp hlacks) (hsame.hasParents.mp hparents)
      (fun e' he' => htakes e' (by simp [he']))
    obtain ⟨row, hrow, hshows⟩ := row_of_shown hfollows.shown hrecords.live
    obtain ⟨hbound, horders⟩ := Bool.and_eq_true_iff.mp (htakes e (by simp))
    obtain ⟨after, hafter, hnext⟩ := statement_follows (timestamptz e.timestamp) hrow hshows
      (shootNotes.nodup_of_fresh hrun hfresh') hrecords horders
    refine ⟨after, project_concat.mpr ⟨mid, hmid, ?_⟩, hnext.shown,
      hnext.scenes.trans hfollows.scenes, hnext.shootingDays.trans hfollows.shootingDays⟩
    exact handle_eq_ok.mpr ⟨hbound, hafter⟩

/-- A stream that went through had its parents, and values the database takes. -/
theorem project_needs {after} (hfresh : shootNotes.Fresh (events.map (·.data)))
    (hlacks : start.Lacks (replay SceneShootAggregate (events.map (·.data))))
    (hafter : project (handle limits) start events = .ok after) :
    start.HasParents (replay SceneShootAggregate (events.map (·.data))) ∧
      ∀ e ∈ events, Takes limits e.data := by
  -- the tables reached are different ones for every beginning
  revert after
  revert hfresh hlacks
  refine stored_rule hrun ?_ ?_
  · intro e hfirst _ hlacks after hafter
    obtain ⟨_, -, hiff⟩ := handle_planned limits hfirst hlacks
    rw [project_singleton, hiff] at hafter
    refine ⟨hafter.1.2, fun e' he' => ?_⟩
    rw [mem_singleton.mp he']
    exact hafter.1.1
  · intro events e hrun hrecords ih hfresh hlacks after hafter
    obtain ⟨mid, hmid, hlast⟩ := project_concat.mp hafter
    rw [replay_stored_concat] at hlacks ⊢
    rw [map_append, map_singleton] at hfresh
    have hsame := sameShoot_apply hrecords.emits
    have hfresh' := hfresh.shorter (prefix_append _ _)
    have hlacks' := hsame.lacks.mp hlacks
    obtain ⟨hparents, htakes⟩ := ih hfresh' hlacks' hmid
    refine ⟨hsame.hasParents.mpr hparents, fun e' he' => ?_⟩
    obtain he' | he' := mem_append.mp he'
    · exact htakes e' he'
    · rw [mem_singleton.mp he']
      -- the row that the event changes is there, and older
      obtain ⟨mid', hmid', hfollows⟩ := project_follows hrun hfresh' hlacks' hparents htakes
      rw [hmid] at hmid'
      cases hmid'
      obtain ⟨row, hrow, hshows⟩ := row_of_shown hfollows.shown hrecords.live
      obtain ⟨hbound, hstatement⟩ := handle_eq_ok.mp hlast
      exact Bool.and_eq_true_iff.mpr ⟨hbound, statement_needs hrow hshows hrecords hstatement⟩

/-- Whatever went through, the row shows the aggregate. -/
theorem project_shown {after} (hfresh : shootNotes.Fresh (events.map (·.data)))
    (hlacks : start.Lacks (replay SceneShootAggregate (events.map (·.data))))
    (hafter : project (handle limits) start events = .ok after) :
    after.Shown (replay SceneShootAggregate (events.map (·.data))) := by
  obtain ⟨hparents, htakes⟩ := project_needs hrun hfresh hlacks hafter
  obtain ⟨after', hafter', hfollows⟩ := project_follows hrun hfresh hlacks hparents htakes
  rw [hafter] at hafter'
  cases hafter'
  exact hfollows.shown

/-- What holds of a stream holds of its beginnings. -/
theorem begins (hfresh : shootNotes.Fresh (events.map (·.data))) (hpre : pre <+: events)
    (hne : pre ≠ []) : ShootRun (pre.map (·.data)) ∧ shootNotes.Fresh (pre.map (·.data)) ∧
      SameShoot (replay SceneShootAggregate (pre.map (·.data)))
        (replay SceneShootAggregate (events.map (·.data))) := by
  have hmap : pre.map (·.data) <+: events.map (·.data) := hpre.map _
  have hne' : pre.map (·.data) ≠ [] := by simpa using hne
  exact ⟨hrun.shorter hmap hne', hfresh.shorter hmap, sameShoot_replay hrun hmap hne'⟩

end

end Streams

end SceneShootProjector

/-! ## §5. The projection -/

open SceneShootProjector

/-- **WHAT THE PROJECTION OF A STREAM IS WORTH**, from tables that lack the shoot. -/
structure SceneShootProjected (limits : ShootLimits) (start : SceneShootTables)
    (events : List (StoredEvent SceneShootEvent)) : Prop where
  /-- Deliveries go through exactly if the scene and the day are projected, no text has U+0000, the
      indexes take the orders, and the instants are in range. -/
  accepted : ∀ pre, pre <+: events → pre ≠ [] →
    ((∃ after, project (handle limits) start pre = .ok after) ↔
      start.HasParents (Entity.replay SceneShootAggregate (events.map (·.data))) ∧
        ∀ e ∈ pre, Takes limits e.data = true)
  /-- After each event the row shows the aggregate. -/
  shown : ∀ pre after, pre <+: events → pre ≠ [] → project (handle limits) start pre = .ok after →
    after.Shown (Entity.replay SceneShootAggregate (pre.map (·.data)))
  /-- An event that was projected changes nothing when it is delivered again. -/
  redelivered : (∀ e ∈ events, e.data.isDeletion = false) → ∀ pre after, pre <+: events →
    project (handle limits) start pre = .ok after → ∀ e ∈ pre, handle limits after e = .ok after

/-- Tables with nothing but scene 2 and shooting day 3. -/
def shootParents : SceneShootTables where
  scenes sceneId := sceneId = ⟨2⟩
  shootingDays dayId := dayId = ⟨⟨3⟩⟩
  shoots := .empty

/-- Short orders, and instants until the year 2262. -/
def shortOrders : ShootLimits := ⟨(·.key.length ≤ 600), (· < 2 ^ 63)⟩

/-- The row of scene shoot 1, if all deliveries go through. -/
def projectedShoot (events : List (StoredEvent SceneShootEvent)) : Option SceneShootRow :=
  (project (handle shortOrders) shootParents events).toOption.bind fun db => db.shoots.rows ⟨⟨1⟩⟩

/-- A shoot with a note that is rewritten and a note that is removed. -/
def editedShoot : List (StoredEvent SceneShootEvent) :=
  recordedAt 2000 <| callAll SceneShootAggregate
    [.plan ⟨⟨⟨1⟩⟩, ⟨2⟩, ⟨⟨3⟩⟩, ⟨"a"⟩⟩, .setActualOrder ⟨⟨⟨1⟩⟩, ⟨⟨3⟩⟩, ⟨"b"⟩, 1⟩,
      .addNote ⟨⟨⟨1⟩⟩, ⟨⟨3⟩⟩, 4, "Kragen offen", none⟩, .addNote ⟨⟨⟨1⟩⟩, ⟨⟨3⟩⟩, 5, "Knopf fehlt", none⟩,
      .updateNote ⟨⟨⟨1⟩⟩, ⟨⟨3⟩⟩, 5, "Knopf angenäht", 4⟩, .removeNote ⟨⟨⟨1⟩⟩, ⟨⟨3⟩⟩, 4, 5⟩,
      .linkContinuityPhoto ⟨⟨⟨1⟩⟩, ⟨⟨6⟩⟩, 6⟩]

/-- A shoot that is started half a microsecond after a whole one. -/
def startedShoot : List (StoredEvent SceneShootEvent) :=
  recordedAt 2000 <| callAll SceneShootAggregate
    [.plan ⟨⟨⟨1⟩⟩, ⟨2⟩, ⟨⟨3⟩⟩, ⟨"a"⟩⟩, .start ⟨⟨⟨1⟩⟩, ⟨⟨3⟩⟩, 1500, 1⟩]

end Breakdown.Projections
