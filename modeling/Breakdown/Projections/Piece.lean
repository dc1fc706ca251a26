/-
**THE PIECE PROJECTOR** (`infra/src/projectors/piece.rs`, tables
`projection_piece`, `projection_piece_season`, `projection_piece_detail` and
`projection_piece_photo`).

Here it is the other way round than with scenes: the row of a piece is only written at a lower
version, the rows of its seasons, details and photos always.

- `effect`, `handle`: the projector;
- `effect_shows`: one event keeps the tables in step with the aggregate, if its details have
  distinct ids;
- `project_eq`: delivered in order, every event of a stream takes effect;
- `project_again`: delivering a suffix of a stream again changes nothing.
-/
import Breakdown.Aggregates.ChildIds
import Breakdown.Aggregates.Lifetimes
import Breakdown.Lib.Tables
import Breakdown.Lib.Writes
import Breakdown.Projections.Projector

namespace Breakdown

def PieceDetail.texts (detail : PieceDetail) : List String := detail.subject.toList ++ [detail.text]

/-- The texts of an event that are stored. -/
def PieceEvent.texts : PieceEvent → List String
  | .pieceCreated _ name _ _ notes details _ _ => name :: notes :: details.flatMap (·.texts)
  | .pieceRenamed _ name _ => [name]
  | .pieceNotesUpdated _ notes _ => [notes]
  | .pieceDetailAdded _ detail _ => detail.texts
  | .pieceDetailUpdated _ detail _ => detail.texts
  | _ => []

end Breakdown

namespace Breakdown.Projections

open Tables Writes Fallible List Entity Table

/-! ## §1. The tables -/

/-- `projection_piece`. The projector's own version is left out. -/
structure PieceRow where
  name : String
  categoryId : Option CostumeCategoryId
  categoryName : Option String
  notes : String
  version : Nat
  updatedAt : Timestamp

/-- `projection_piece_detail`, outside its key. -/
structure DetailRow where
  subject : Option String
  text : String

/-- The tables of the projector, and the names in `projection_costume_category`. -/
@[ext] structure PieceTables where
  categoryNames : CostumeCategoryId → Option String
  pieces : Table Uuid PieceRow
  seasons : Table (Uuid × Uuid) Unit
  details : Table (Uuid × Uuid) DetailRow
  photos : Table (Uuid × Uuid) Unit

/-! ## §2. The projector -/

namespace PieceProjector

/-- `UPDATE … SET …, version = $v, updated_at = $t WHERE id = $1 AND version < $v`. -/
def update (db : PieceTables) (id : Uuid) (version : Nat) (updatedAt : Timestamp)
    (set : PieceRow → PieceRow) : PieceTables :=
  { db with
    pieces := db.pieces.modify id fun row =>
      if row.version < version then { set row with version, updatedAt } else row }

/-- `INSERT … ON CONFLICT (id) DO UPDATE … WHERE projection_piece.version < EXCLUDED.version`. -/
def upsert (row : PieceRow) : Option PieceRow → Option PieceRow
  | none => some row
  | some old => if old.version < row.version then some row else some old

/-- `touch_parent`. -/
def touchParent (db : PieceTables) (id : Uuid) (version : Nat) (updatedAt : Timestamp) :
    PieceTables :=
  update db id version updatedAt fun row => row

/-- `upsert_detail`. -/
def upsertDetail (details : Table (Uuid × Uuid) DetailRow) (id : Uuid) (detail : PieceDetail) :
    Table (Uuid × Uuid) DetailRow :=
  details.put (id, detail.id) ⟨detail.subject, detail.text⟩

/-- `INSERT … ON CONFLICT DO NOTHING` of a season or photo. -/
def insertChild (children : Table (Uuid × Uuid) Unit) (id child : Uuid) :
    Table (Uuid × Uuid) Unit :=
  children.insertNew (id, child) ()

/-- The statements of an event. A deletion takes the rows of the children along. -/
def effect (db : PieceTables) (updatedAt : Timestamp) : PieceEvent → PieceTables
  | .pieceDeleted id _ =>
    { db with
      pieces := db.pieces.delete id
      seasons := db.seasons.deleteWhere (·.1 = id)
      details := db.details.deleteWhere (·.1 = id)
      photos := db.photos.deleteWhere (·.1 = id) }
  | .pieceCreated id name categoryId seasonId notes details photos version =>
    let row : PieceRow :=
      ⟨name, categoryId, categoryId.bind db.categoryNames, notes, version, updatedAt⟩
    { db with
      pieces := db.pieces.alter id (upsert row)
      -- the children are written even if the row was not
      seasons := seasonId.toList.foldl (fun seasons seasonId => insertChild seasons id seasonId)
        db.seasons
      details := details.foldl (fun rows detail => upsertDetail rows id detail) db.details
      photos := photos.foldl (fun photos photoId => insertChild photos id photoId) db.photos }
  | .pieceRenamed id name version => update db id version updatedAt fun row => { row with name }
  | .pieceNotesUpdated id notes version =>
    update db id version updatedAt fun row => { row with notes }
  | .pieceCategorySet id categoryId version =>
    update db id version updatedAt fun row =>
      -- `resolve_category_name`: a category that is not projected has no name
      { row with categoryId, categoryName := categoryId.bind db.categoryNames }
  | .pieceAddedToSeason id seasonId version =>
    touchParent { db with seasons := insertChild db.seasons id seasonId } id version updatedAt
  | .pieceRemovedFromSeason id seasonId version =>
    touchParent { db with seasons := db.seasons.delete (id, seasonId) } id version updatedAt
  | .pieceDetailAdded id detail version =>
    touchParent { db with details := upsertDetail db.details id detail } id version updatedAt
  | .pieceDetailUpdated id detail version =>
    touchParent { db with details := upsertDetail db.details id detail } id version updatedAt
  | .pieceDetailRemoved id detailId version =>
    touchParent { db with details := db.details.delete (id, detailId) } id version updatedAt
  | .piecePhotoLinked id photoId version =>
    touchParent { db with photos := insertChild db.photos id photoId } id version updatedAt
  | .piecePhotoUnlinked id photoId version =>
    touchParent { db with photos := db.photos.delete (id, photoId) } id version updatedAt

/-- The foreign keys of the rows that an event inserts; a row that is there has its piece. -/
def hasParents (db : PieceTables) : PieceEvent → Bool
  | .pieceAddedToSeason id _ _ | .pieceDetailAdded id _ _ | .pieceDetailUpdated id _ _
  | .piecePhotoLinked id _ _ => (db.pieces id).isSome
  | _ => true

/-- `handle`. No statement takes U+0000 in the texts bound to it. -/
def handle (db : PieceTables) (event : StoredEvent PieceEvent) : Except SqlError PieceTables := do
  ensure (event.data.texts.all storable) .invalidText
  ensure (hasParents db event.data) .foreignKeyViolation
  .ok (effect db (timestamptz event.timestamp) event.data)

end PieceProjector

/-! ## §3. One event -/

/-- The tables have what the aggregate has. -/
structure PieceTables.Shows (db : PieceTables) (piece : PieceAggregate) : Prop where
  row : ∃ row, db.pieces piece.id = some row ∧ row.name = piece.name ∧ row.notes = piece.notes ∧
    row.categoryId = piece.categoryId ∧ row.version = piece.version
  seasons : db.seasons.Lists piece.id (piece.seasons.map (·.uuid))
  details : ∀ detail : PieceDetail,
    db.details (piece.id, detail.id) = some ⟨detail.subject, detail.text⟩ ↔ detail ∈ piece.details
  photos : db.photos.Lists piece.id piece.photos

namespace PieceProjector

section Step

variable {db : PieceTables} {piece : PieceAggregate}

/-- The row of the piece, after the next event has written it. -/
theorem shows_row (h : db.Shows piece) (hpieces : changed.pieces = db.pieces) (updatedAt)
    (set : PieceRow → PieceRow) {next : PieceAggregate} (hid : next.id = piece.id)
    (hversion : next.version = piece.version.next)
    (hset : ∀ row : PieceRow, row.name = piece.name → row.notes = piece.notes →
      row.categoryId = piece.categoryId → (set row).name = next.name ∧ (set row).notes = next.notes ∧
        (set row).categoryId = next.categoryId) :
    ∃ row, (update changed piece.id piece.version.next updatedAt set).pieces next.id = some row ∧
      row.name = next.name ∧ row.notes = next.notes ∧ row.categoryId = next.categoryId ∧
        row.version = next.version := by
  obtain ⟨row, hrow, hname, hnotes, hcategory, hold⟩ := h.row
  have hnewer : row.version < piece.version.next := by
    rw [hold]
    exact Nat.lt_succ_self _
  obtain ⟨hname', hnotes', hcategory'⟩ := hset row hname hnotes hcategory
  refine ⟨{ set row with version := piece.version.next, updatedAt }, ?_, hname', hnotes', hcategory',
    hversion.symm⟩
  show changed.pieces.modify piece.id _ next.id = _
  rw [hid, Table.modify, Table.alter_self, hpieces, hrow, Option.map_some, if_pos hnewer]

theorem touch_row (h : db.Shows piece) (hpieces : changed.pieces = db.pieces) (updatedAt)
    {next : PieceAggregate} (hid : next.id = piece.id) (hversion : next.version = piece.version.next)
    (hname : next.name = piece.name) (hnotes : next.notes = piece.notes)
    (hcategory : next.categoryId = piece.categoryId) :
    ∃ row, (touchParent changed piece.id piece.version.next updatedAt).pieces next.id = some row ∧
      row.name = next.name ∧ row.notes = next.notes ∧ row.categoryId = next.categoryId ∧
        row.version = next.version :=
  shows_row h hpieces updatedAt _ hid hversion fun _ hrow hrow' hrow'' =>
    ⟨hrow.trans hname.symm, hrow'.trans hnotes.symm, hrow''.trans hcategory.symm⟩

/-- With distinct ids, an update replaces the one detail of its id. -/
theorem mem_upsertDetail (hnodup : (details.map (·.id)).Nodup)
    (hmem : detail.id ∈ details.map (·.id)) : other ∈ PieceAggregate.upsertDetail detail details ↔
      other = detail ∨ (other.id ≠ detail.id ∧ other ∈ details) := by
  induction details with
  | nil => cases hmem
  | cons first rest ih =>
    rw [map_cons, nodup_cons] at hnodup
    unfold PieceAggregate.upsertDetail
    by_cases heq : first.id = detail.id
    · -- no other detail has the id
      have hrest : other ∈ rest → other.id ≠ detail.id := by
        intro hother hid
        rw [heq, ← hid] at hnodup
        exact hnodup.1 (mem_map_of_mem hother)
      rw [if_pos heq, mem_cons, mem_cons]
      constructor
      · rintro (rfl | hother)
        · exact .inl rfl
        · exact .inr ⟨hrest hother, .inr hother⟩
      · rintro (rfl | ⟨hne, rfl | hother⟩)
        · exact .inl rfl
        · exact absurd heq hne
        · exact .inr hother
    · rw [map_cons, mem_cons] at hmem
      rw [if_neg heq, mem_cons, mem_cons, ih hnodup.2 (hmem.resolve_left (Ne.symm heq))]
      constructor
      · rintro (rfl | rfl | ⟨hne, hother⟩)
        · exact .inr ⟨heq, .inl rfl⟩
        · exact .inl rfl
        · exact .inr ⟨hne, .inr hother⟩
      · rintro (rfl | ⟨hne, rfl | hother⟩)
        · exact .inr (.inl rfl)
        · exact .inl rfl
        · exact .inr (.inr ⟨hne, hother⟩)

theorem upsertDetail_iff (rows id detail other) :
    upsertDetail rows id detail (id, other.id) = some ⟨other.subject, other.text⟩ ↔ other = detail ∨
        (other.id ≠ detail.id ∧ rows (id, other.id) = some ⟨other.subject, other.text⟩) := by
  rw [upsertDetail, put, alter_apply]
  obtain ⟨otherId, subject, text⟩ := other
  obtain ⟨detailId, subject', text'⟩ := detail
  by_cases heq : otherId = detailId
  · subst heq
    simp [eq_comm]
  · simp [heq]

/-- **ONE EVENT KEEPS THE TABLES IN STEP**, if the details have distinct ids before and after it. -/
theorem effect_shows (h : db.Shows piece) (updatedAt) (hemits : piece.Emits e)
    (hkept : e.isDeletion = false) (hnodup : (piece.details.map (·.id)).Nodup)
    (hfresh : ∀ detailId, e.addedDetail = some detailId → detailId ∉ piece.details.map (·.id)) :
    (effect db updatedAt e).Shows (piece.apply e) := by
  cases hemits with
  | deleted => cases hkept
  | renamed =>
    exact ⟨shows_row h rfl _ _ rfl rfl fun _ _ hnotes hcategory => ⟨rfl, hnotes, hcategory⟩, h.seasons,
      h.details, h.photos⟩
  | notesUpdated =>
    exact ⟨shows_row h rfl _ _ rfl rfl fun _ hname _ hcategory => ⟨hname, rfl, hcategory⟩, h.seasons,
      h.details, h.photos⟩
  | categorySet =>
    exact ⟨shows_row h rfl _ _ rfl rfl fun _ hname hnotes _ => ⟨hname, hnotes, rfl⟩, h.seasons,
      h.details, h.photos⟩
  -- the aggregate keeps seasons as typed ids, the table bare ones
  | addedToSeason seasonId hnew =>
    refine ⟨touch_row h rfl _ rfl rfl rfl rfl rfl, ?_, h.details, h.photos⟩
    show (insertChild db.seasons _ _).Lists piece.id (map _ (if _ then _ else _))
    rw [if_neg (by simpa using hnew), map_append]
    exact h.seasons.insertNew _ _
  | removedFromSeason seasonId =>
    refine ⟨touch_row h rfl _ rfl rfl rfl rfl rfl, ?_, h.details, h.photos⟩
    have hseasons : (piece.seasons.filter (· ≠ (⟨seasonId.uuid⟩ : SeasonId))).map (·.uuid) =
        (piece.seasons.map (·.uuid)).filter (· ≠ seasonId.uuid) := by
      rw [filter_map]
      congr 1
      refine filter_congr fun other _ => ?_
      cases other
      simp
    show (db.seasons.delete _).Lists piece.id (map _ (filter _ _))
    rw [hseasons]
    exact h.seasons.delete _
  | detailAdded detail =>
    refine ⟨touch_row h rfl _ rfl rfl rfl rfl rfl, h.seasons, fun other => ?_, h.photos⟩
    show upsertDetail db.details piece.id detail (piece.id, other.id) = _ ↔ _
    have hnew : other ∈ piece.details → other.id ≠ detail.id := by
      intro hother hid
      exact hfresh _ rfl (hid ▸ mem_map_of_mem hother)
    rw [upsertDetail_iff, h.details]
    show _ ↔ other ∈ piece.details ++ [detail]
    rw [mem_append, mem_singleton, or_comm]
    exact ⟨fun hmem => hmem.imp (·.2) id, fun hmem => hmem.imp (fun hother => ⟨hnew hother, hother⟩) id⟩
  -- the table has one row per id; distinct ids make that the detail the aggregate replaces
  | detailUpdated detail hmem =>
    refine ⟨touch_row h rfl _ rfl rfl rfl rfl rfl, h.seasons, fun other => ?_, h.photos⟩
    show upsertDetail db.details piece.id detail (piece.id, other.id) = _ ↔
      other ∈ PieceAggregate.upsertDetail detail piece.details
    rw [upsertDetail_iff, h.details, mem_upsertDetail hnodup hmem]
  | detailRemoved detailId =>
    refine ⟨touch_row h rfl _ rfl rfl rfl rfl rfl, h.seasons, fun other => ?_, h.photos⟩
    show db.details.delete (piece.id, detailId) (piece.id, other.id) = _ ↔
      other ∈ piece.details.filter _
    rw [delete, alter_apply, mem_filter, ← h.details]
    by_cases heq : other.id = detailId
    · simp [heq]
    · simp [heq]
  | photoLinked photoId hnew =>
    refine ⟨touch_row h rfl _ rfl rfl rfl rfl rfl, h.seasons, h.details, ?_⟩
    show (insertChild db.photos _ _).Lists piece.id (if _ then _ else _)
    rw [if_neg (by simpa using hnew)]
    exact h.photos.insertNew _ _
  | photoUnlinked photoId =>
    exact ⟨touch_row h rfl _ rfl rfl rfl rfl rfl, h.seasons, h.details, h.photos.delete photoId⟩

end Step

/-! ## §4. Streams -/

/-- An event that takes effect. -/
def step (db : PieceTables) (event : StoredEvent PieceEvent) : PieceTables :=
  effect db (timestamptz event.timestamp) event.data

/-- An event delivered where its piece is. -/
theorem handle_iff {after} (hrow : (db.pieces event.data.id).isSome ∨ event.data.isCreation) :
    handle db event = .ok after ↔ event.data.texts.all storable ∧ after = step db event := by
  have hparents : hasParents db event.data = true := by
    obtain ⟨e, t⟩ := event
    cases e with
    -- only these insert a child, so only these need the row
    | pieceAddedToSeason | pieceDetailAdded | pieceDetailUpdated | piecePhotoLinked =>
      exact hrow.resolve_right (by simp)
    | _ => rfl
  unfold handle
  rw [check_eq_ok, check_eq_ok, ensure_eq_ok, ensure_eq_ok, Except.ok.injEq]
  exact ⟨fun ⟨htexts, _, hafter⟩ => ⟨htexts, hafter.symm⟩,
    fun ⟨htexts, hafter⟩ => ⟨htexts, hparents, hafter.symm⟩⟩

theorem upsert_isSome (row old) : (upsert row old).isSome := by
  unfold upsert
  split
  · rfl
  · split <;> rfl

/-- An event that is not a deletion leaves the row of its piece behind. -/
theorem step_row (hkept : event.data.isDeletion = false)
    (hrow : (db.pieces event.data.id).isSome ∨ event.data.isCreation) :
    ((step db event).pieces event.data.id).isSome := by
  obtain ⟨e, t⟩ := event
  cases e with
  | pieceDeleted => cases hkept
  | pieceCreated id =>
    show (db.pieces.alter id (upsert _) id).isSome
    rw [alter_self]
    exact upsert_isSome _ _
  | _ id =>
    show (db.pieces.modify id _ id).isSome
    rw [Table.modify, Table.alter_self, Option.isSome_map]
    exact hrow.resolve_right (by simp)

/-- Events about one piece that stays; it is there, or they create it. -/
theorem project_present {after id} (hids : ∀ e ∈ events, e.data.id = id)
    (hkept : ∀ e ∈ events, e.data.isDeletion = false)
    (hrow : (db.pieces id).isSome ∨ ∀ e ∈ events.head?, e.data.isCreation) :
    project handle db events = .ok after ↔
      (∀ e ∈ events, e.data.texts.all storable) ∧ after = events.foldl step db := by
  refine project_kept (F := fun e => e.data.id = id ∧ e.data.isDeletion = false)
    (R := fun db => (db.pieces id).isSome) ?_ ?_ (fun e he => ⟨hids e he, hkept e he⟩) hrow
  · rintro db e after ⟨rfl, -⟩ hrow
    exact handle_iff hrow
  · rintro db e ⟨rfl, hkept⟩ hrow
    exact step_row hkept hrow

end PieceProjector

/-- The tables have no row of the piece. -/
structure PieceTables.Lacks (db : PieceTables) (id : Uuid) : Prop where
  row : db.pieces id = none
  seasons : ∀ seasonId, db.seasons (id, seasonId) = none
  details : ∀ detailId, db.details (id, detailId) = none
  photos : ∀ photoId, db.photos (id, photoId) = none

namespace PieceProjector

/-- All events of a stream are about one piece. -/
theorem id_of_mem (h : PieceRun log) (he : e ∈ log) : e.id = (replay PieceAggregate log).id := by
  refine h.id_of_mem he ?_ ?_
  · rintro e ⟨id, name, categoryId, seasonId⟩
    rfl
  · rintro piece e ⟨-, hemits⟩
    cases hemits with
    | _ => exact ⟨rfl, rfl⟩

theorem isCreation_of_founds {e : PieceEvent} (h : e.Founds) : e.isCreation := by
  cases h with
  | created => rfl

/-- The creation, on tables that lack the piece. -/
theorem step_created (hfirst : event.data.Founds) (hlacks : db.Lacks event.data.id) :
    (step db event).Shows (replay PieceAggregate [event.data]) := by
  obtain ⟨e, t⟩ := event
  obtain ⟨id, name, categoryId, seasonId⟩ := hfirst
  refine ⟨?_, ?_, ?_, ?_⟩
  · refine ⟨⟨name, categoryId, categoryId.bind db.categoryNames, "", AggregateVersion.initial,
      timestamptz t⟩, ?_, rfl, rfl, rfl, rfl⟩
    show db.pieces.alter id (upsert _) id = _
    rw [alter_self, show db.pieces id = none from hlacks.row]
    rfl
  · have hnone : db.seasons.Lists id [] := by
      intro other
      rw [show db.seasons (id, other) = none from hlacks.seasons other]
      simp
    cases seasonId with
    | none => exact hnone
    | some seasonId => exact hnone.insertNew seasonId ()
  · intro detail
    show db.details (id, detail.id) = _ ↔ detail ∈ []
    rw [show db.details (id, detail.id) = none from hlacks.details _]
    simp
  · intro photoId
    show (db.photos (id, photoId)).isSome ↔ photoId ∈ []
    rw [show db.photos (id, photoId) = none from hlacks.photos photoId]
    simp

section Streams

variable {start : PieceTables} {events : List (StoredEvent PieceEvent)}

/-- **DELIVERED IN ORDER, EVERY EVENT OF A STREAM TAKES EFFECT.** -/
theorem project_eq {after : PieceTables} (hrun : PieceRun (events.map (·.data)))
    (hkept : ∀ e ∈ events, e.data.isDeletion = false) : project handle start events = .ok after ↔
      (∀ e ∈ events, e.data.texts.all storable) ∧ after = events.foldl step start := by
  refine project_present (fun e he => id_of_mem hrun (mem_map_of_mem he)) hkept (.inr ?_)
  intro e he
  obtain ⟨rest, rfl⟩ := head?_eq_some_iff.mp he
  exact isCreation_of_founds (hrun.starts rfl)

/-- **A WHOLE STREAM**: the tables show the aggregate, if the details have distinct ids. -/
theorem foldl_step_shows (hrun : PieceRun (events.map (·.data)))
    (hlacks : start.Lacks (replay PieceAggregate (events.map (·.data))).id)
    (hkept : ∀ e ∈ events, e.data.isDeletion = false)
    (hfresh : pieceDetails.Fresh (events.map (·.data))) :
    (events.foldl step start).Shows (replay PieceAggregate (events.map (·.data))) := by
  revert hlacks hkept hfresh
  refine stored_rule hrun ?_ ?_
  · intro e hfirst hlacks _ _
    have hid : e.data.id = _ := id_of_mem (.first hfirst) mem_cons_self
    exact step_created hfirst (hid ▸ hlacks)
  · -- the details of the aggregate so far have distinct ids, and the event adds no other one
    intro events e hrun hrecords ih hlacks hkept hfresh
    rw [replay_stored_concat] at hlacks ⊢
    rw [map_append, map_singleton] at hfresh
    rw [foldl_append]
    have hfresh' := hfresh.shorter (prefix_append _ _)
    have hid := hrecords.emits.id_apply
    have hbefore := ih (hid ▸ hlacks) (fun e' he' => hkept e' (by simp [he'])) hfresh'
    exact effect_shows hbefore _ hrecords.emits (hkept e (by simp))
      (pieceDetails.nodup_of_fresh hrun hfresh')
      (fun detailId hadded => hfresh _ _ [] detailId rfl hadded)

end Streams

/-! ## §5. Replayed -/

theorem seasons_rewritten : Rewritten step PieceTables.seasons id := by
  rintro ⟨e, t⟩
  cases e with
  | pieceCreated id name categoryId seasonId =>
    exact ⟨_, .foldl (fun seasonId => .insertNew (id, seasonId) ()) seasonId.toList, fun _ => rfl⟩
  | pieceAddedToSeason id seasonId => exact ⟨_, .insertNew (id, seasonId) (), fun _ => rfl⟩
  | pieceRemovedFromSeason id seasonId => exact ⟨_, .delete (id, seasonId), fun _ => rfl⟩
  | pieceDeleted id => exact ⟨_, .deleteWhere (·.1 = id), fun _ => rfl⟩
  | _ => exact ⟨_, .refl, fun _ => rfl⟩

theorem photos_rewritten : Rewritten step PieceTables.photos id := by
  rintro ⟨e, t⟩
  cases e with
  | pieceCreated id name categoryId seasonId notes details photos =>
    exact ⟨_, .foldl (fun photoId => .insertNew (id, photoId) ()) photos, fun _ => rfl⟩
  | piecePhotoLinked id photoId => exact ⟨_, .insertNew (id, photoId) (), fun _ => rfl⟩
  | piecePhotoUnlinked id photoId => exact ⟨_, .delete (id, photoId), fun _ => rfl⟩
  | pieceDeleted id => exact ⟨_, .deleteWhere (·.1 = id), fun _ => rfl⟩
  | _ => exact ⟨_, .refl, fun _ => rfl⟩

/-- The last detail of an id counts. -/
theorem details_rewritten : Rewritten step PieceTables.details id := by
  rintro ⟨e, t⟩
  cases e with
  | pieceCreated id name categoryId seasonId notes details =>
    exact ⟨_, .foldl (fun detail => .put (id, detail.id) ⟨detail.subject, detail.text⟩) details,
      fun _ => rfl⟩
  | pieceDetailAdded id detail | pieceDetailUpdated id detail =>
    exact ⟨_, .put (id, detail.id) ⟨detail.subject, detail.text⟩, fun _ => rfl⟩
  | pieceDetailRemoved id detailId => exact ⟨_, .delete (id, detailId), fun _ => rfl⟩
  | pieceDeleted id => exact ⟨_, .deleteWhere (·.1 = id), fun _ => rfl⟩
  | _ => exact ⟨_, .refl, fun _ => rfl⟩

/-- An event that the row of its piece has passed does not touch the row. -/
theorem step_pieces_stale (hrow : db.pieces event.data.id = some row)
    (hstale : event.data.version ≤ row.version) (hkept : event.data.isDeletion = false) :
    (step db event).pieces = db.pieces := by
  have hnot : ¬ row.version < event.data.version := Nat.not_lt.mpr hstale
  obtain ⟨e, t⟩ := event
  cases e with
  | pieceDeleted => cases hkept
  | pieceCreated id =>
    refine alter_eq_self ?_
    rw [show db.pieces id = some row from hrow]
    exact if_neg hnot
  | _ id =>
    refine alter_eq_self ?_
    rw [show db.pieces id = some row from hrow]
    exact congrArg some (if_neg hnot)

theorem categoryNames_step (db event) : (step db event).categoryNames = db.categoryNames := by
  obtain ⟨e, t⟩ := event
  cases e with
  | _ => rfl

/-- Events that the row of their piece has passed leave all rows of pieces. -/
theorem foldl_stale {id row} {events : List (StoredEvent PieceEvent)}
    (hrow : db.pieces id = some row) (hstale : ∀ e ∈ events, e.data.version ≤ row.version)
    (hids : ∀ e ∈ events, e.data.id = id) (hkept : ∀ e ∈ events, e.data.isDeletion = false) :
    (events.foldl step db).pieces = db.pieces ∧
      (events.foldl step db).categoryNames = db.categoryNames := by
  induction events generalizing db with
  | nil => exact ⟨rfl, rfl⟩
  | cons e events ih =>
    rw [forall_mem_cons] at hstale hids hkept
    obtain rfl := hids.1
    have hstep := step_pieces_stale hrow hstale.1 hkept.1
    obtain ⟨hpieces, hnames⟩ := ih (hstep ▸ hrow) hstale.2 hids.2 hkept.2
    exact ⟨hpieces.trans hstep, hnames.trans (categoryNames_step db e)⟩

/-- **DELIVERING A SUFFIX OF A STREAM AGAIN CHANGES NOTHING.** -/
theorem project_again {start} (hrun : PieceRun (events.map (·.data)))
    (hcounted : Counted PieceAggregate (events.map (·.data)))
    (hkept : ∀ e ∈ events, e.data.isDeletion = false)
    (htexts : ∀ e ∈ events, e.data.texts.all storable)
    (hshows : (events.foldl step start).Shows (replay PieceAggregate (events.map (·.data))))
    (hagain : again <:+ events) :
    project handle (events.foldl step start) again = .ok (events.foldl step start) := by
  obtain ⟨row, hrow, -, -, -, hversion⟩ := hshows.row
  have hmem : ∀ e ∈ again, e ∈ events := fun e he => hagain.subset he
  have hids : ∀ e ∈ again, e.data.id = (replay PieceAggregate (events.map (·.data))).id :=
    fun e he => id_of_mem hrun (mem_map_of_mem (hmem e he))
  have hkept' : ∀ e ∈ again, e.data.isDeletion = false := fun e he => hkept e (hmem e he)
  -- the row has passed all of them, and the children are written by what comes last
  refine (project_present hids hkept' (.inl (by rw [hrow]; rfl))).mpr
    ⟨fun e he => htexts e (hmem e he), ?_⟩
  have hstale : ∀ e ∈ again, e.data.version ≤ row.version := by
    intro e he
    rw [hversion]
    exact hcounted.version_le (mem_map_of_mem (hmem e he))
  obtain ⟨hpieces, hnames⟩ := foldl_stale hrow hstale hids hkept'
  exact (PieceTables.ext hnames hpieces (seasons_rewritten.replay hagain start)
    (details_rewritten.replay hagain start) (photos_rewritten.replay hagain start)).symm

end PieceProjector

end Breakdown.Projections
