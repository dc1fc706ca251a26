/-
**THE OUTFIT PROJECTOR** (`infra/src/projectors/outfit.rs`, tables
`projection_outfit`, `projection_outfit_piece` and `projection_outfit_photo`) **AND WHAT IS READ
FROM IT** (`enrich` of `infra/src/queries/outfit.rs`).

A piece that is added to an outfit gets the number of pieces in it as its position, and the query
sorts by position, then id. After a removal that number may be the position of a piece that is
still there, or lie below it.

- `effect`, `handle`, `enrich`: the projector and the query;
- `step_rows`: what an event does to the rows of its outfit;
- `project_eq`: delivered in order, every event of a stream takes effect;
- `outfit_read_order`: the pieces are read as the aggregate has them, all the way, exactly if
  every event adds its rows behind the rows there;
- `added_piece_overtakes`: a piece that is added last is not read last.
-/
import Mathlib.Data.Prod.Lex
import Breakdown.Lib.Rows
import Breakdown.Projections.Piece

namespace Breakdown

/-- The texts of an event that are stored. -/
def OutfitEvent.texts : OutfitEvent → List String
  | .outfitCreated _ _ name _ _ notes _ => [name, notes]
  | .outfitVariantCreated _ _ _ name _ _ notes _ => [name, notes]
  | .outfitRenamed _ name _ => [name]
  | .outfitNotesUpdated _ notes _ => [notes]
  | _ => []

end Breakdown

namespace Breakdown.Projections

open Tables Fallible List Entity

/-! ## §1. The tables -/

/-- `projection_outfit`. The projector's own version is left out. -/
structure OutfitRow where
  characterId : Uuid
  name : String
  variantOf : Option Uuid
  notes : String
  version : Nat
  updatedAt : Timestamp

/-- `projection_outfit_piece`. -/
structure OutfitPieceRow where
  outfitId : Uuid
  pieceId : Uuid
  position : Int

def OutfitPieceRow.key (row : OutfitPieceRow) : Uuid × Uuid := (row.outfitId, row.pieceId)

/-- `ORDER BY op.position, op.piece_id`; ids compare byte by byte. -/
def OutfitPieceRow.sortKey (row : OutfitPieceRow) : Int ×ₗ Nat :=
  toLex (row.position, row.pieceId.asU128.toNat)

/-- `projection_outfit_photo`. -/
structure OutfitPhotoRow where
  outfitId : Uuid
  photoId : Uuid

def OutfitPhotoRow.key (row : OutfitPhotoRow) : Uuid × Uuid := (row.outfitId, row.photoId)

/-- The tables of the projector, and `projection_piece`, which the query joins. -/
structure OutfitTables where
  projectedPieces : Table Uuid PieceRow
  outfits : Table Uuid OutfitRow
  pieces : RowList OutfitPieceRow (Uuid × Uuid) OutfitPieceRow.key
  photos : RowList OutfitPhotoRow (Uuid × Uuid) OutfitPhotoRow.key

/-- The pieces of one outfit, in the order of their insertion. -/
def OutfitTables.rowsOf (db : OutfitTables) (id : Uuid) : List OutfitPieceRow :=
  db.pieces.rows.filter (·.outfitId = id)

/-! ## §2. The query -/

/-- `OutfitPieceView`. -/
structure OutfitPieceView where
  pieceId : Uuid
  name : Option String
  categoryId : Option CostumeCategoryId
  categoryName : Option String
  position : Int

/-- What `enrich` adds to a view. The content type, size and variants of the photos are left out. -/
structure OutfitParts where
  pieceIds : List Uuid
  pieces : List OutfitPieceView
  photoIds : List Uuid

/-- `LEFT JOIN projection_piece`. -/
def pieceView (db : OutfitTables) (row : OutfitPieceRow) : OutfitPieceView :=
  let piece := db.projectedPieces row.pieceId
  { pieceId := row.pieceId
    name := piece.map (·.name)
    categoryId := piece.bind (·.categoryId)
    categoryName := piece.bind (·.categoryName)
    position := row.position }

/-- `enrich`. -/
def enrich (db : OutfitTables) (id : Uuid) : OutfitParts :=
  -- one query; the ids are collected from its rows
  let rows := orderBy OutfitPieceRow.sortKey (db.rowsOf id)
  { pieceIds := rows.map (·.pieceId)
    pieces := rows.map (pieceView db)
    photoIds := (orderBy (fun row : OutfitPhotoRow => row.photoId.asU128.toNat)
      (db.photos.rows.filter (·.outfitId = id))).map (·.photoId) }

/-! ## §3. The projector -/

namespace OutfitProjector

/-- `UPDATE … SET …, version = $v, updated_at = $t WHERE id = $1 AND version < $v`. -/
def update (db : OutfitTables) (id : Uuid) (version : Nat) (updatedAt : Timestamp)
    (set : OutfitRow → OutfitRow) : OutfitTables :=
  { db with
    outfits := db.outfits.modify id fun row =>
      if row.version < version then { set row with version, updatedAt } else row }

/-- `touch_parent`. -/
def touchParent (db : OutfitTables) (id : Uuid) (version : Nat) (updatedAt : Timestamp) :
    OutfitTables :=
  update db id version updatedAt fun row => row

/-- `INSERT … ON CONFLICT (id) DO UPDATE … WHERE projection_outfit.version < EXCLUDED.version`. -/
def upsert (row : OutfitRow) : Option OutfitRow → Option OutfitRow
  | none => some row
  | some old => if old.version < row.version then some row else some old

/-- `upsert_outfit`. -/
def upsertOutfit (db : OutfitTables) (id : Uuid) (row : OutfitRow) : OutfitTables :=
  { db with outfits := db.outfits.alter id (upsert row) }

/-- The rows of the pieces of a creation. -/
def createdRows (id : Uuid) (pieceIds : List Uuid) : List OutfitPieceRow :=
  pieceIds.zipIdx.map fun (pieceId, position) => ⟨id, pieceId, tryI32 position⟩

/-- The pieces and photos of a creation. -/
def insertChildren (db : OutfitTables) (id : Uuid) (pieceIds photos : List Uuid) : OutfitTables :=
  { db with
    pieces := db.pieces.insertAll (createdRows id pieceIds)
    photos := db.photos.insertAll (photos.map fun photoId => ⟨id, photoId⟩) }

/-- The statements of an event. A deletion takes the rows of the children along. -/
def effect (db : OutfitTables) (updatedAt : Timestamp) : OutfitEvent → OutfitTables
  | .outfitDeleted id _ =>
    { db with
      outfits := db.outfits.delete id
      pieces := db.pieces.deleteWhere (·.outfitId = id)
      photos := db.photos.deleteWhere (·.outfitId = id) }
  | .outfitCreated id characterId name pieceIds photos notes version =>
    insertChildren (upsertOutfit db id ⟨characterId, name, none, notes, version, updatedAt⟩) id
      pieceIds photos
  | .outfitVariantCreated id sourceOutfitId characterId name pieceIds photos notes version =>
    insertChildren
      (upsertOutfit db id ⟨characterId, name, some sourceOutfitId, notes, version, updatedAt⟩) id
      pieceIds photos
  | .outfitRenamed id name version => update db id version updatedAt fun row => { row with name }
  | .outfitNotesUpdated id notes version =>
    update db id version updatedAt fun row => { row with notes }
  | .outfitPieceAdded id pieceId position version =>
    -- ON CONFLICT (outfit_id, piece_id) DO NOTHING
    touchParent { db with pieces := db.pieces.insertNew ⟨id, pieceId, tryI32 position⟩ } id version
      updatedAt
  | .outfitPieceRemoved id pieceId version =>
    touchParent
      { db with
        pieces := db.pieces.deleteWhere fun row => row.outfitId = id ∧ row.pieceId = pieceId } id
      version updatedAt
  | .outfitPhotoLinked id photoId version =>
    touchParent { db with photos := db.photos.insertNew ⟨id, photoId⟩ } id version updatedAt
  | .outfitPhotoUnlinked id photoId version =>
    touchParent
      { db with
        photos := db.photos.deleteWhere fun row => row.outfitId = id ∧ row.photoId = photoId } id
      version updatedAt

/-- The foreign keys of the rows that an event inserts. -/
def hasParents (db : OutfitTables) : OutfitEvent → Bool
  | .outfitPieceAdded id _ _ _ | .outfitPhotoLinked id _ _ => (db.outfits id).isSome
  | _ => true

/-- `handle`. No statement takes U+0000 in the texts bound to it. -/
def handle (db : OutfitTables) (event : StoredEvent OutfitEvent) : Except SqlError OutfitTables := do
  ensure (event.data.texts.all storable) .invalidText
  ensure (hasParents db event.data) .foreignKeyViolation
  .ok (effect db (timestamptz event.timestamp) event.data)

/-! ## §4. Streams -/

/-- An event that takes effect. -/
def step (db : OutfitTables) (event : StoredEvent OutfitEvent) : OutfitTables :=
  effect db (timestamptz event.timestamp) event.data

variable {db after : OutfitTables} {e : OutfitEvent} {event : StoredEvent OutfitEvent}

/-- An event delivered where its outfit is. -/
theorem handle_iff (hrow : (db.outfits event.data.id).isSome ∨ event.data.isCreation) :
    handle db event = .ok after ↔ event.data.texts.all storable ∧ after = step db event := by
  have hparents : hasParents db event.data = true := by
    obtain ⟨e, t⟩ := event
    cases e with
    -- only these insert a child of an outfit that should be there already
    | outfitPieceAdded | outfitPhotoLinked => exact hrow.resolve_right (by simp)
    | _ => rfl
  unfold handle
  rw [check_eq_ok, check_eq_ok, ensure_eq_ok, ensure_eq_ok, Except.ok.injEq]
  exact ⟨fun ⟨htexts, _, hafter⟩ => ⟨htexts, hafter.symm⟩,
    fun ⟨htexts, hafter⟩ => ⟨htexts, hparents, hafter.symm⟩⟩

theorem upsertOutfit_isSome (db id row) : ((upsertOutfit db id row).outfits id).isSome := by
  show (db.outfits.alter id (upsert row) id).isSome
  rw [Table.alter_self]
  cases db.outfits id with
  | none => rfl
  | some =>
    show Option.isSome (if _ then _ else _) = true
    split <;> rfl

/-- An event that is not a deletion leaves the row of its outfit behind. -/
theorem step_row (hkept : event.data.isDeletion = false)
    (hrow : (db.outfits event.data.id).isSome ∨ event.data.isCreation) :
    ((step db event).outfits event.data.id).isSome := by
  obtain ⟨e, t⟩ := event
  cases e with
  | outfitDeleted => cases hkept
  | outfitCreated id | outfitVariantCreated id => exact upsertOutfit_isSome db id _
  | _ id =>
    show (db.outfits.modify id _ id).isSome
    rw [Table.modify, Table.alter_self, Option.isSome_map]
    exact hrow.resolve_right (by simp)

/-- All events of a stream are about one outfit. -/
theorem id_of_mem (h : OutfitRun log) (he : e ∈ log) : e.id = (replay OutfitAggregate log).id := by
  refine h.id_of_mem he ?_ ?_
  · intro e hfirst
    cases hfirst with
    | _ => rfl
  · rintro outfit e ⟨-, hemits⟩
    cases hemits with
    | _ => exact ⟨rfl, rfl⟩

theorem isCreation_of_founds (h : e.Founds) : e.isCreation := by
  cases h with
  | _ => rfl

/-- **DELIVERED IN ORDER, EVERY EVENT OF A STREAM TAKES EFFECT.** -/
theorem project_eq (hrun : OutfitRun (events.map (·.data)))
    (hkept : ∀ e ∈ events, e.data.isDeletion = false) : project handle start events = .ok after ↔
      (∀ e ∈ events, e.data.texts.all storable) ∧ after = events.foldl step start := by
  let id := (replay OutfitAggregate (events.map (·.data))).id
  refine project_kept (F := fun e => e.data.id = id ∧ e.data.isDeletion = false)
    (C := fun e => e.data.isCreation) (R := fun db => (db.outfits id).isSome) ?_ ?_
    (fun e he => ⟨id_of_mem hrun (mem_map_of_mem he), hkept e he⟩) (.inr ?_)
  · rintro db e after ⟨hid, -⟩ hrow
    exact handle_iff (hid ▸ hrow)
  · rintro db e ⟨hid, hkept⟩ hrow
    exact hid ▸ step_row hkept (hid ▸ hrow)
  · intro e he
    obtain ⟨rest, rfl⟩ := head?_eq_some_iff.mp he
    exact isCreation_of_founds (hrun.starts rfl)

/-! ## §5. The rows of one outfit -/

/-- The rows an event inserts. -/
def addedRows : OutfitEvent → List OutfitPieceRow
  | .outfitCreated id _ _ pieceIds _ _ _ => createdRows id pieceIds
  | .outfitVariantCreated id _ _ _ pieceIds _ _ _ => createdRows id pieceIds
  | .outfitPieceAdded id pieceId position _ => [⟨id, pieceId, tryI32 position⟩]
  | _ => []

/-- The piece an event takes out. -/
def removedPiece : OutfitEvent → Option Uuid
  | .outfitPieceRemoved _ pieceId _ => some pieceId
  | _ => none

theorem map_pieceId_createdRows (id pieceIds) :
    (createdRows id pieceIds).map (·.pieceId) = pieceIds := by
  rw [createdRows, map_map]
  show pieceIds.zipIdx.map Prod.fst = pieceIds
  rw [zipIdx_map_fst]

theorem outfitId_of_mem_addedRows (h : row ∈ addedRows e) : row.outfitId = e.id := by
  have hcreated : ∀ {id pieceIds}, row ∈ createdRows id pieceIds → row.outfitId = id := by
    intro id pieceIds hmem
    obtain ⟨entry, -, rfl⟩ := mem_map.mp hmem
    rfl
  cases e with
  | outfitCreated | outfitVariantCreated => exact hcreated h
  | outfitPieceAdded =>
    rw [mem_singleton.mp h]
    rfl
  | _ => cases h

/-- New rows of an outfit go behind its rows. -/
theorem rowsOf_insertAll {id} (hid : ∀ row ∈ new, row.outfitId = id)
    (hnodup : ((db.rowsOf id ++ new).map (·.pieceId)).Nodup) :
    (db.pieces.insertAll new).rows.filter (·.outfitId = id) = db.rowsOf id ++ new := by
  rw [map_append, nodup_append] at hnodup
  obtain ⟨-, hnew, hdisjoint⟩ := hnodup
  rw [RowList.rows_insertAll, filter_append]
  · congr 1
    exact filter_eq_self.mpr fun row hrow => by simpa using hid row hrow
  · rw [map_append, nodup_append]
    refine ⟨db.pieces.unique, ?_, ?_⟩
    · refine List.Nodup.of_map Prod.snd ?_
      rw [map_map]
      exact hnew
    · -- a row with the key of a new one would be of this outfit
      rintro key hold key' hadded rfl
      obtain ⟨row, hrow, rfl⟩ := mem_map.mp hold
      obtain ⟨row', hrow', hkey⟩ := mem_map.mp hadded
      have houtfit : row'.outfitId = row.outfitId := congrArg Prod.fst hkey
      have hof : row ∈ db.rowsOf id :=
        mem_filter.mpr ⟨hrow, decide_eq_true (houtfit.symm.trans (hid row' hrow'))⟩
      exact hdisjoint _ (mem_map_of_mem hof) _ (mem_map_of_mem hrow')
        (congrArg Prod.snd hkey).symm

/-- **WHAT AN EVENT DOES TO THE ROWS OF ITS OUTFIT**, if the pieces it adds are not in there. -/
theorem step_rows (hkept : event.data.isDeletion = false)
    (hnodup : ((db.rowsOf event.data.id ++ addedRows event.data).map (·.pieceId)).Nodup) :
    (step db event).rowsOf event.data.id =
      (db.rowsOf event.data.id).filter (fun row => removedPiece event.data ≠ some row.pieceId) ++
        addedRows event.data := by
  -- three kinds of events insert, one deletes, the others leave the rows alone
  have hadded := rowsOf_insertAll (fun _ hrow => outfitId_of_mem_addedRows hrow) hnodup
  obtain ⟨e, t⟩ := event
  cases e with
  | outfitDeleted => cases hkept
  | outfitCreated | outfitVariantCreated | outfitPieceAdded =>
    rw [filter_eq_self.mpr (by simp [removedPiece])]
    exact hadded
  | outfitPieceRemoved id =>
    show (db.pieces.rows.filter _).filter _ = (db.pieces.rows.filter _).filter _ ++ []
    rw [append_nil, filter_filter, filter_filter]
    refine filter_congr fun row _ => ?_
    by_cases hid : row.outfitId = id
    · simp [removedPiece, OutfitEvent.id, hid, eq_comm]
    · simp [OutfitEvent.id, hid]
  | _ =>
    rw [filter_eq_self.mpr (by simp [removedPiece])]
    exact (append_nil _).symm

/-- The pieces of an outfit are told apart. -/
theorem dedupPieces_nodup (pieceIds) : (OutfitAggregate.dedupPieces pieceIds).Nodup := by
  unfold OutfitAggregate.dedupPieces
  -- what is collected so far is the invariant of the fold
  suffices h : ∀ out : List Uuid, out.Nodup → (pieceIds.foldl (fun out pieceId =>
      if out.contains pieceId then out else out ++ [pieceId]) out).Nodup from h [] .nil
  induction pieceIds with
  | nil => exact fun out hout => hout
  | cons pieceId pieceIds ih =>
    intro out hout
    rw [foldl_cons]
    refine ih _ ?_
    split
    · exact hout
    · next hnew => exact hout.append (nodup_singleton _) (by simpa using hnew)

/-- The next event of a stream adds pieces that are not there, behind those that are, or takes one
out. -/
theorem emits_pieceIds {outfit : OutfitAggregate} (hemits : outfit.Emits e)
    (hrows : rows.map (·.pieceId) = outfit.pieceIds) (hnodup : outfit.pieceIds.Nodup)
    (hkept : e.isDeletion = false) : ((rows ++ addedRows e).map (·.pieceId)).Nodup ∧
      (rows.filter (fun row => removedPiece e ≠ some row.pieceId) ++ addedRows e).map (·.pieceId) =
        (outfit.apply e).pieceIds := by
  have hsame : (rows ++ ([] : List OutfitPieceRow)).map (·.pieceId) = outfit.pieceIds := by
    rw [append_nil, hrows]
  cases hemits with
  | deleted => cases hkept
  | pieceAdded pieceId hnew =>
    have happly : (outfit.apply (.outfitPieceAdded outfit.id pieceId outfit.pieceIds.length
        outfit.version.next)).pieceIds = outfit.pieceIds ++ [pieceId] :=
      if_neg (by simpa using hnew)
    rw [happly, filter_eq_self.mpr (by simp [removedPiece]), map_append, hrows]
    show (outfit.pieceIds ++ [pieceId]).Nodup ∧ _
    exact ⟨hnodup.append (nodup_singleton _) (by simpa using hnew), rfl⟩
  | pieceRemoved =>
    refine ⟨hsame ▸ hnodup, ?_⟩
    show (rows.filter _ ++ []).map _ = outfit.pieceIds.filter _
    rw [append_nil, ← hrows, filter_map]
    congr 1
    refine filter_congr fun row _ => ?_
    simp [removedPiece, eq_comm]
  | _ =>
    rw [filter_eq_self.mpr (by simp [removedPiece])]
    exact ⟨hsame ▸ hnodup, hsame⟩

/-- What the rows of the outfit are after the events so far. -/
structure Follows (db : OutfitTables) (outfit : OutfitAggregate) : Prop where
  pieceIds : (db.rowsOf outfit.id).map (·.pieceId) = outfit.pieceIds
  nodup : outfit.pieceIds.Nodup

section Streams

variable {start : OutfitTables} {events : List (StoredEvent OutfitEvent)}

theorem follows_created (hfirst : event.data.Founds) (hlacks : start.rowsOf event.data.id = []) :
    Follows (step start event) (replay OutfitAggregate [event.data]) ∧
      (step start event).rowsOf event.data.id = addedRows event.data := by
  have hadded : (addedRows event.data).map (·.pieceId) =
        (replay OutfitAggregate [event.data]).pieceIds ∧
      (replay OutfitAggregate [event.data]).pieceIds.Nodup ∧
      event.data.isDeletion = false ∧
      event.data.id = (replay OutfitAggregate [event.data]).id := by
    -- both creations record the pieces without repetitions
    generalize event.data = e at hfirst
    cases hfirst with
    | created id characterId name pieceIds
    | variantCreated id sourceOutfitId characterId name pieceIds =>
      exact ⟨map_pieceId_createdRows .., dedupPieces_nodup pieceIds, rfl, rfl⟩
  obtain ⟨hpieces, hnodup, hkept, hid⟩ := hadded
  have hrows := @step_rows start event hkept
    (by rw [hlacks, nil_append, hpieces]; exact hnodup)
  rw [hlacks, filter_nil, nil_append] at hrows
  refine ⟨⟨?_, hnodup⟩, hrows⟩
  rw [← hid, hrows, hpieces]

/-- **ALONG A STREAM**: the rows are the pieces of the aggregate in the order it has them, and the next
event takes rows out or adds some behind. -/
theorem follows_step {e : StoredEvent OutfitEvent} {outfit} (hemits : outfit.Emits e.data)
    (hkept : e.data.isDeletion = false) (h : Follows db outfit) (hid : e.data.id = outfit.id) :
    Follows (step db e) (outfit.apply e.data) ∧ (step db e).rowsOf outfit.id =
        (db.rowsOf outfit.id).filter (fun row => removedPiece e.data ≠ some row.pieceId) ++
          addedRows e.data := by
  obtain ⟨hnodup, hpieces⟩ := emits_pieceIds hemits h.pieceIds h.nodup hkept
  rw [← hid] at hnodup hpieces ⊢
  have hrows := step_rows hkept hnodup
  refine ⟨⟨?_, ?_⟩, hrows⟩
  · rw [hemits.id_apply, ← hid, hrows, hpieces]
  -- what is left of the old rows and the new ones is part of all of them
  · rw [← hpieces]
    refine hnodup.sublist (List.Sublist.map _ ?_)
    exact filter_sublist.append_right _

/-- The events so far. -/
theorem follows_foldl (hrun : OutfitRun (events.map (·.data)))
    (hkept : ∀ e ∈ events, e.data.isDeletion = false)
    (hlacks : start.rowsOf (replay OutfitAggregate (events.map (·.data))).id = []) :
    Follows (events.foldl step start) (replay OutfitAggregate (events.map (·.data))) := by
  revert hlacks hkept
  refine stored_rule hrun ?_ ?_
  · intro e hfirst _ hlacks
    have hid : e.data.id = _ := id_of_mem (.first hfirst) mem_cons_self
    exact (follows_created hfirst (hid ▸ hlacks)).1
  · intro events e hrun hrecords ih hkept hlacks
    rw [replay_stored_concat] at hlacks ⊢
    rw [foldl_append]
    have hsame := hrecords.emits.id_apply
    have hid := id_of_mem (hrun.step hrecords) (e := e.data) (by simp)
    rw [replay_concat] at hid
    have hbefore := ih (fun e' he' => hkept e' (mem_append_left _ he')) (hsame ▸ hlacks)
    exact (follows_step hrecords.emits (hkept e (by simp)) hbefore (hid.trans hsame)).1

/-- The rows of the outfit after one more event. -/
theorem rows_next {e} (hrun : OutfitRun ((events ++ [e]).map (·.data)))
    (hkept : ∀ e' ∈ events ++ [e], e'.data.isDeletion = false) (hlacks : start.rowsOf e.data.id = []) :
    ((events ++ [e]).foldl step start).rowsOf e.data.id =
      ((events.foldl step start).rowsOf e.data.id).filter
        (fun row => removedPiece e.data ≠ some row.pieceId) ++ addedRows e.data := by
  have hid := id_of_mem hrun (e := e.data) (by simp)
  rw [foldl_append]
  by_cases hnil : events = []
  · subst hnil
    have hrows := (follows_created (hrun.starts rfl) hlacks).2
    rw [foldl_nil, hlacks]
    exact hrows
  · have hne : events.map (·.data) ≠ [] := by simpa using hnil
    rw [map_append, map_singleton] at hrun hid
    rw [replay_concat] at hid
    have hemits := (hrun.emits_last hne).emits
    have hsame := hid.trans hemits.id_apply
    have hbefore := follows_foldl (hrun.shorter (prefix_append _ _) hne)
      (fun e' he' => hkept e' (mem_append_left _ he')) (hsame ▸ hlacks)
    have hrows := (follows_step hemits (hkept e (by simp)) hbefore hsame).2
    rw [← hsame] at hrows
    exact hrows

end Streams

/-! ## §6. The order of reading -/

/-- The rows are sorted as the query sorts them. -/
def InOrder (rows : List OutfitPieceRow) : Prop := rows.Pairwise fun a b => a.sortKey ≤ b.sortKey

/-- The rows an event inserts are sorted, and behind the rows of the outfit. -/
structure AddsBehind (db : OutfitTables) (e : OutfitEvent) : Prop where
  sorted : InOrder (addedRows e)
  behind : ∀ row ∈ db.rowsOf e.id, ∀ new ∈ addedRows e, row.sortKey ≤ new.sortKey

/-- One more event keeps the order exactly if it adds its rows behind. -/
theorem inOrder_next (h : InOrder (db.rowsOf e.id)) :
    InOrder ((db.rowsOf e.id).filter (fun row => removedPiece e ≠ some row.pieceId) ++ addedRows e) ↔
      AddsBehind db e := by
  unfold InOrder at h ⊢
  rw [pairwise_append]
  constructor
  · rintro ⟨-, hadded, hbehind⟩
    refine ⟨hadded, fun row hrow new hnew => hbehind row (mem_filter.mpr ⟨hrow, ?_⟩) new hnew⟩
    -- an event that takes a piece out adds none
    cases e with
    | outfitPieceRemoved => cases hnew
    | _ => simp [removedPiece]
  · rintro ⟨hadded, hbehind⟩
    exact ⟨h.sublist filter_sublist, hadded,
      fun row hrow new hnew => hbehind row (mem_of_mem_filter hrow) new hnew⟩

end OutfitProjector

open OutfitProjector

/-- The events of one outfit that is not deleted, and tables without pieces of it. -/
structure OutfitLife (start : OutfitTables) (events : List (StoredEvent OutfitEvent)) : Prop where
  history : History OutfitAggregate (events.map (·.data))
  founded : Founded OutfitAggregate (events.map (·.data))
  kept : ∀ e ∈ events, e.data.isDeletion = false
  lacks : start.rowsOf (Entity.replay OutfitAggregate (events.map (·.data))).id = []

namespace OutfitLife

variable {start : OutfitTables} {events pre : List (StoredEvent OutfitEvent)}

section

variable (h : OutfitLife start events)
include h

theorem stream : OutfitRun (events.map (·.data)) := outfitRun_of_history h.history h.founded

theorem id_eq (he : e ∈ events) : e.data.id = (replay OutfitAggregate (events.map (·.data))).id :=
  id_of_mem h.stream (mem_map_of_mem he)

/-- The events so far are a stream of the same outfit. -/
theorem begins (hpre : pre <+: events) (hne : pre ≠ []) :
    OutfitRun (pre.map (·.data)) ∧ (∀ e ∈ pre, e.data.isDeletion = false) ∧
      (replay OutfitAggregate (pre.map (·.data))).id =
        (replay OutfitAggregate (events.map (·.data))).id := by
  have hmap : pre.map (·.data) <+: events.map (·.data) := hpre.map _
  have hne' : pre.map (·.data) ≠ [] := by simpa using hne
  exact ⟨h.stream.shorter hmap hne', fun e he => h.kept e (hpre.subset he),
    h.stream.unchanged OutfitAggregate.id hmap hne' (·.emits.id_apply)⟩

/-- The tables after the events so far. -/
theorem project_iff {after} (hpre : pre <+: events) : project handle start pre = .ok after ↔
      (∀ e ∈ pre, e.data.texts.all storable) ∧ after = pre.foldl step start := by
  by_cases hne : pre = []
  · subst hne
    rw [project_nil, Except.ok.injEq]
    exact ⟨fun h => ⟨fun e he => absurd he not_mem_nil, h.symm⟩, fun h => h.2.symm⟩
  · obtain ⟨hstream, hkept, -⟩ := h.begins hpre hne
    exact project_eq hstream hkept

/-- **READ AS THE AGGREGATE HAS THEM, OR OUT OF ORDER.** -/
theorem read_iff (hpre : pre <+: events) (hne : pre ≠ []) :
    (enrich (pre.foldl step start) (replay OutfitAggregate (events.map (·.data))).id).pieceIds =
        (replay OutfitAggregate (pre.map (·.data))).pieceIds ↔
      InOrder ((pre.foldl step start).rowsOf
        (replay OutfitAggregate (events.map (·.data))).id) := by
  obtain ⟨hstream, hkept, hid⟩ := h.begins hpre hne
  have hfollows := follows_foldl hstream hkept (hid ▸ h.lacks)
  have hpieces := hfollows.pieceIds
  have hnodup := hfollows.nodup
  rw [hid] at hpieces
  rw [← hpieces] at hnodup ⊢
  exact map_orderBy_eq_iff _ hnodup

/-- The rows stay in order exactly if every event adds its rows behind. -/
theorem inOrder_iff : (∀ pre, pre <+: events → InOrder ((pre.foldl step start).rowsOf
        (replay OutfitAggregate (events.map (·.data))).id)) ↔
      ∀ pre e post, events = pre ++ e :: post → AddsBehind (pre.foldl step start) e.data := by
  have hstep : ∀ pre e, pre ++ [e] <+: events →
      InOrder ((pre.foldl step start).rowsOf (replay OutfitAggregate (events.map (·.data))).id) →
        (InOrder (((pre ++ [e]).foldl step start).rowsOf
            (replay OutfitAggregate (events.map (·.data))).id) ↔
          AddsBehind (pre.foldl step start) e.data) := by
    intro pre e hpre hbefore
    obtain ⟨hstream, hkept, -⟩ := h.begins hpre (by simp)
    have hmem : e ∈ events := hpre.subset (by simp)
    have hlacks := h.lacks
    rw [← h.id_eq hmem] at hlacks hbefore ⊢
    rw [rows_next hstream hkept hlacks]
    exact inOrder_next hbefore
  constructor
  · intro hall pre e post hsplit
    have hpre : pre ++ [e] <+: events := ⟨post, by rw [hsplit]; simp⟩
    exact (hstep pre e hpre (hall pre ((prefix_append _ _).trans hpre))).mp (hall _ hpre)
  · intro hadds pre hpre
    induction pre using reverseRecOn with
    | nil =>
      rw [foldl_nil, h.lacks]
      exact .nil
    | append_singleton pre e ih =>
      obtain ⟨post, hsplit⟩ := hpre
      refine (hstep pre e ⟨post, hsplit⟩ (ih ?_)).mpr (hadds pre e post (by rw [← hsplit]; simp))
      exact ⟨[e] ++ post, by rw [← hsplit]; simp⟩

end

end OutfitLife

/-- After every event the pieces are read as the aggregate has them. -/
def ReadsAsAdded (start : OutfitTables) (events : List (StoredEvent OutfitEvent)) : Prop :=
  ∀ pre, pre <+: events → pre ≠ [] → ∃ after, project handle start pre = .ok after ∧
    (enrich after (Entity.replay OutfitAggregate (events.map (·.data))).id).pieceIds =
      (Entity.replay OutfitAggregate (pre.map (·.data))).pieceIds

/-- The database takes the texts, and every event adds its rows behind the rows there. -/
structure AddsInOrder (start : OutfitTables) (events : List (StoredEvent OutfitEvent)) : Prop where
  texts : ∀ e ∈ events, e.data.texts.all storable = true
  behind : ∀ pre e post before, events = pre ++ e :: post → project handle start pre = .ok before →
    AddsBehind before e.data

/-- **THE ORDER OF READING.** The pieces are read as the aggregate has them, all the way, exactly if
every event adds its rows behind the rows there. -/
theorem outfit_read_order {start : OutfitTables} {events : List (StoredEvent OutfitEvent)}
    (h : OutfitLife start events) : ReadsAsAdded start events ↔ AddsInOrder start events := by
  constructor
  · intro hread
    have hne : events ≠ [] := by simpa using h.founded.ne_nil
    obtain ⟨all, hall, -⟩ := hread events (prefix_refl events) hne
    have horder : ∀ pre, pre <+: events → InOrder ((pre.foldl step start).rowsOf
        (replay OutfitAggregate (events.map (·.data))).id) := by
      intro pre hpre
      by_cases hnil : pre = []
      · subst hnil
        rw [foldl_nil, h.lacks]
        exact .nil
      · obtain ⟨after, hafter, hids⟩ := hread pre hpre hnil
        obtain ⟨-, rfl⟩ := (h.project_iff hpre).mp hafter
        exact (h.read_iff hpre hnil).mp hids
    refine ⟨((h.project_iff (prefix_refl events)).mp hall).1, ?_⟩
    intro pre e post before hsplit hbefore
    obtain ⟨-, rfl⟩ := (h.project_iff ⟨e :: post, hsplit.symm⟩).mp hbefore
    exact h.inOrder_iff.mp horder pre e post hsplit
  · rintro ⟨htexts, hadds⟩ pre hpre hne
    have hproject : ∀ pre, pre <+: events →
        project handle start pre = .ok (pre.foldl step start) := fun pre hpre =>
      (h.project_iff hpre).mpr ⟨fun e he => htexts e (hpre.subset he), rfl⟩
    have horder := h.inOrder_iff.mpr fun pre e post hsplit =>
      hadds pre e post _ hsplit (hproject pre ⟨e :: post, hsplit.symm⟩)
    exact ⟨_, hproject pre hpre, (h.read_iff hpre hne).mpr (horder pre hpre)⟩

/-- Tables without outfits. -/
def noOutfits : OutfitTables where
  projectedPieces _ := none
  outfits _ := none
  pieces := .empty
  photos := .empty

/-- The pieces that are read after the events, if they all go through. -/
def readAfter (events : List (StoredEvent OutfitEvent)) (id : Uuid) : Option (List Uuid) :=
  (project handle noOutfits events).toOption.map fun db => (enrich db id).pieceIds

/-- An outfit of three pieces that gets a fourth for the last one. -/
def swappedLast : List (StoredEvent OutfitEvent) := recordedAt 2000 <| callAll OutfitAggregate
    [.create ⟨1, 2, "Ausgehuniform", [11, 12, 13]⟩, .removePiece ⟨1, 13, 1⟩, .addPiece ⟨1, 10, 2⟩]

/-- An outfit of three pieces that gets a fourth for the first one. -/
def swappedFirst : List (StoredEvent OutfitEvent) := recordedAt 2000 <| callAll OutfitAggregate
    [.create ⟨1, 2, "Ausgehuniform", [11, 12, 13]⟩, .removePiece ⟨1, 11, 1⟩, .addPiece ⟨1, 10, 2⟩]

theorem outfitLife_callAll (hfounded : Founded OutfitAggregate (callAll OutfitAggregate cmds))
    (hkept : ∀ e ∈ callAll OutfitAggregate cmds, e.isDeletion = false) :
    OutfitLife noOutfits (recordedAt 2000 (callAll OutfitAggregate cmds)) := by
  have hdata := map_data_recordedAt 2000 (callAll OutfitAggregate cmds)
  refine ⟨hdata.symm ▸ (calls_callAll _).history, hdata.symm ▸ hfounded, fun e he => ?_, rfl⟩
  exact hkept _ (hdata ▸ mem_map_of_mem he)

/-- The order of reading, checked one beginning after the other. -/
theorem readsAsAdded_of_inits (h : ∀ pre ∈ events.inits, pre ≠ [] →
      readAfter pre (replay OutfitAggregate (events.map (·.data))).id =
        some (replay OutfitAggregate (pre.map (·.data))).pieceIds) :
    ReadsAsAdded noOutfits events := by
  intro pre hpre hne
  have hread := h pre (mem_inits pre events |>.mpr hpre) hne
  unfold readAfter at hread
  cases hproject : project handle noOutfits pre with
  | error =>
    rw [hproject] at hread
    cases hread
  | ok after =>
    rw [hproject] at hread
    exact ⟨after, rfl, Option.some.inj hread⟩

theorem outfit_read_order_swappedLast :
    readAfter swappedLast 1 = some [11, 12, 10] ∧ AddsInOrder noOutfits swappedLast := by
  refine ⟨by decide +kernel, (outfit_read_order (outfitLife_callAll ?_ ?_)).mp ?_⟩
  · exact ⟨.outfitCreated 1 2 "Ausgehuniform" [11, 12, 13] [] "" 1, by decide +kernel, rfl⟩
  · decide +kernel
  · exact readsAsAdded_of_inits (by decide +kernel)

/-- **A PIECE THAT IS ADDED LAST IS NOT READ LAST.** Piece 13 is at position 2. After the first of
three pieces is gone, the next one gets position 2 as well, and the lower id is read first. -/
theorem added_piece_overtakes : OutfitLife noOutfits swappedFirst ∧
      (Entity.replay OutfitAggregate (swappedFirst.map (·.data))).pieceIds = [12, 13, 10] ∧
      readAfter swappedFirst 1 = some [12, 10, 13] := by
  refine ⟨outfitLife_callAll ?_ ?_, by decide +kernel, by decide +kernel⟩
  · exact ⟨.outfitCreated 1 2 "Ausgehuniform" [11, 12, 13] [] "" 1, by decide +kernel, rfl⟩
  · decide +kernel

end Breakdown.Projections
