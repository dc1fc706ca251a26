/-
**THE SCENE PROJECTOR** (`infra/src/projectors/scene.rs`, tables
`projection_scene`, `projection_scene_character`, `projection_scene_shooting_day` and
`projection_scene_outfit_assignment`).

The row of a scene and the rows of its characters and days are written whatever version they have.
Only the outfit beats are guarded: a beat event first claims the version of the scene's row and is
skipped if the row is there already.

- `effect`, `handle`: the projector;
- `effect_shows`: one event keeps the tables in step with the aggregate, if no beat
  is added under a character and order that are there;
- `fresh_of_shows`: and only then;
- `project_eq`: delivered in order, every event of a stream takes effect.
-/
import Breakdown.Aggregates.Lifetimes
import Breakdown.Aggregates.SceneStreams
import Breakdown.Lib.Tables
import Breakdown.Projections.Projector

namespace Breakdown

/-- The aggregate an event belongs to. -/
def SceneEvent.id : SceneEvent → Uuid
  | .sceneCreated id _ _ _ _ _ | .sceneDetailsUpdated id _ _ | .characterAssigned id _ _
  | .characterRemoved id _ _ | .shootingDayScheduled id _ _ | .shootingDayUnscheduled id _ _
  | .outfitBeatAdded id _ _ _ _ _ | .outfitBeatUpdated id _ _ _ _ _ | .outfitBeatRemoved id _ _ _
  | .outfitBeatsCleared id _ _ | .sceneDeleted id _ => id

def SceneDetails.texts (details : SceneDetails) : List String :=
  details.location.toList ++ details.mood.toList ++ details.summary.toList ++
    details.scriptDay.toList

def SceneSource.texts : SceneSource → List String
  | .manual => []
  | .aiExtracted _ externalRef => externalRef.toList

/-- The texts of an event that are stored. -/
def SceneEvent.texts : SceneEvent → List String
  | .sceneCreated _ _ details _ source _ => details.texts ++ source.texts
  | .sceneDetailsUpdated _ details _ => details.texts
  | .outfitBeatAdded _ _ _ _ note _ => note.toList
  | .outfitBeatUpdated _ _ _ _ note _ => note.toList
  | _ => []

/-- The events that claim the version of the scene first. -/
def SceneEvent.isBeat : SceneEvent → Bool
  | .outfitBeatAdded .. | .outfitBeatUpdated .. | .outfitBeatRemoved .. | .outfitBeatsCleared .. =>
    true
  | _ => false

/-- The shooting day an event links to. -/
def SceneEvent.scheduledDay : SceneEvent → Option ShootingDayId
  | .shootingDayScheduled _ shootingDayId _ => some shootingDayId
  | _ => none

end Breakdown

namespace Breakdown.Projections

open Tables Fallible List Entity Table

/-! ## §1. The tables -/

structure SceneDetailColumns where
  sceneNumber : Option Int
  location : Option String
  mood : Option String
  isScheduleSet : Bool
  summary : Option String
  scriptDay : Option String

/-- The columns of the details; the scene number is bound `as i32`. -/
def detailColumns (details : SceneDetails) : SceneDetailColumns where
  sceneNumber := details.sceneNumber.map asI32
  location := details.location
  mood := details.mood
  isScheduleSet := details.isScheduleSet
  summary := details.summary
  scriptDay := details.scriptDay

/-- What every event writes to the row of its scene. -/
structure Stamp where
  version : Nat
  updatedAt : Timestamp

/-- `projection_scene`. The projector's own version is left out, as in the other tables. -/
@[ext] structure SceneRow where
  episodeId : EpisodeId
  source : SceneSource
  details : SceneDetailColumns
  stamp : Stamp

/-- `projection_scene_outfit_assignment`, outside its key. -/
structure BeatRow where
  outfitId : Uuid
  note : Option String
  version : Nat
  deriving DecidableEq

/-- The tables of the projector, and the keys of `projection_shooting_day`. -/
@[ext] structure SceneTables where
  projectedDays : ShootingDayId → Bool
  scenes : Table Uuid SceneRow
  characters : Table (Uuid × Uuid) Nat
  shootingDays : Table (Uuid × ShootingDayId) Nat
  beats : Table (Uuid × Uuid × Int) BeatRow

/-! ## §2. The projector -/

namespace SceneProjector

/-- `touch_parent`. -/
def touchParent (db : SceneTables) (id : Uuid) (stamp : Stamp) : SceneTables :=
  { db with scenes := db.scenes.modify id fun row => { row with stamp } }

/-- `guard_parent`: is the row there, at a lower version? Its own write of the version is repeated by
`touch_parent`. -/
def guardParent (db : SceneTables) (id : Uuid) (version : Nat) : Bool :=
  (db.scenes id).any (·.stamp.version < version)

/-- The statements of an event, once it is not skipped. A deletion takes the rows of the children
along (`ON DELETE CASCADE`). -/
def effect (db : SceneTables) (updatedAt : Timestamp) : SceneEvent → SceneTables
  | .sceneDeleted id _ =>
    { db with
      scenes := db.scenes.delete id
      characters := db.characters.deleteWhere (·.1 = id)
      shootingDays := db.shootingDays.deleteWhere (·.1 = id)
      beats := db.beats.deleteWhere (·.1 = id) }
  -- INSERT … ON CONFLICT (id) DO UPDATE: a row that is there is overwritten, whatever its version
  | .sceneCreated id episodeId details assignedCharacters source version =>
    { db with
      scenes := db.scenes.put id ⟨episodeId, source, detailColumns details, ⟨version, updatedAt⟩⟩
      characters := assignedCharacters.foldl (fun characters characterId =>
        characters.put (id, characterId) version) db.characters }
  -- UPDATE … WHERE id = $1: no version is compared here either
  | .sceneDetailsUpdated id details version =>
    { db with
      scenes := db.scenes.modify id fun row =>
        { row with details := detailColumns details, stamp := ⟨version, updatedAt⟩ } }
  | .characterAssigned id characterId version =>
    touchParent { db with characters := db.characters.put (id, characterId) version } id
      ⟨version, updatedAt⟩
  | .characterRemoved id characterId version =>
    touchParent { db with characters := db.characters.delete (id, characterId) } id
      ⟨version, updatedAt⟩
  | .shootingDayScheduled id shootingDayId version =>
    touchParent { db with shootingDays := db.shootingDays.put (id, shootingDayId) version } id
      ⟨version, updatedAt⟩
  | .shootingDayUnscheduled id shootingDayId version =>
    touchParent { db with shootingDays := db.shootingDays.delete (id, shootingDayId) } id
      ⟨version, updatedAt⟩
  -- the four beat events have claimed the version by now
  | .outfitBeatAdded id characterId outfitId order note version =>
    touchParent
      { db with beats := db.beats.put (id, characterId, asI32 order) ⟨outfitId, note, version⟩ } id
      ⟨version, updatedAt⟩
  | .outfitBeatUpdated id characterId order outfitId note version =>
    touchParent
      { db with
        beats := db.beats.modify (id, characterId, asI32 order)
          fun _ => ⟨outfitId, note, version⟩ } id
      ⟨version, updatedAt⟩
  | .outfitBeatRemoved id characterId order version =>
    touchParent { db with beats := db.beats.delete (id, characterId, asI32 order) } id
      ⟨version, updatedAt⟩
  | .outfitBeatsCleared id characterId version =>
    touchParent
      { db with beats := db.beats.deleteWhere fun key => key.1 = id ∧ key.2.1 = characterId } id
      ⟨version, updatedAt⟩

/-- The foreign keys of the rows that an event inserts. A row that is there has its parents, so it
does no harm to ask for them again; a beat is inserted after its scene was claimed. -/
def hasParents (db : SceneTables) : SceneEvent → Bool
  | .characterAssigned id _ _ => (db.scenes id).isSome
  | .shootingDayScheduled id shootingDayId _ =>
    (db.scenes id).isSome && db.projectedDays shootingDayId
  | _ => true

/-- A beat event that does not get the version of its scene. -/
def skips (db : SceneTables) (e : SceneEvent) : Bool := e.isBeat && !guardParent db e.id e.version

/-- `handle`. No statement takes U+0000 in the texts bound to it. -/
def handle (db : SceneTables) (event : StoredEvent SceneEvent) : Except SqlError SceneTables :=
  if skips db event.data then .ok db
  else do
    ensure (event.data.texts.all storable) .invalidText
    ensure (hasParents db event.data) .foreignKeyViolation
    .ok (effect db (timestamptz event.timestamp) event.data)

end SceneProjector

/-! ## §3. Tables that show an aggregate -/

/-- What is worn in a beat, if it is at the given character and order. -/
def wornAt (key : Uuid × Nat) (beat : SceneOutfitBeat) : Option (Uuid × Option String) :=
  if beat.key = key then some (beat.outfitId, beat.note) else none

theorem filterMap_wornAt_pos {key} (beat beats) (h : beat.key = key) :
    (beat :: beats).filterMap (wornAt key) =
      (beat.outfitId, beat.note) :: beats.filterMap (wornAt key) :=
  filterMap_cons_some (if_pos h)

theorem filterMap_wornAt_neg {key} (beat beats) (h : beat.key ≠ key) :
    (beat :: beats).filterMap (wornAt key) = beats.filterMap (wornAt key) :=
  filterMap_cons_none (if_neg h)

/-- The outfits and notes of the beats at one character and order. -/
def beatsAt (scene : SceneAggregate) (key : Uuid × Nat) : List (Uuid × Option String) :=
  scene.outfitBeats.filterMap (wornAt key)

def BeatRow.worn (row : BeatRow) : Uuid × Option String := (row.outfitId, row.note)

/-- The tables have what the aggregate has: its details and version, its characters, its days, and at
every character and order the one beat, if there is one. -/
structure SceneTables.Shows (db : SceneTables) (scene : SceneAggregate) : Prop where
  row : ∃ row, db.scenes scene.id = some row ∧ row.details = detailColumns scene.details ∧
    row.stamp.version = scene.version
  characters : db.characters.Lists scene.id scene.assignedCharacters
  shootingDays : db.shootingDays.Lists scene.id scene.shootingDayIds
  beats : ∀ characterId order, order < 2 ^ 32 → beatsAt scene (characterId, order) =
      (db.beats (scene.id, characterId, asI32 order)).toList.map BeatRow.worn

namespace SceneProjector

section Beats

variable (scene : SceneAggregate) (id characterId outfitId : Uuid) (order : Nat)
  (note : Option String) (version : AggregateVersion) (key : Uuid × Nat)

theorem beatsAt_added :
    beatsAt (scene.apply (.outfitBeatAdded id characterId outfitId order note version)) key =
      beatsAt scene key ++ if (characterId, order) = key then [(outfitId, note)] else [] := by
  show (scene.outfitBeats ++ [_]).filterMap _ = scene.outfitBeats.filterMap _ ++ _
  rw [filterMap_append]
  congr 1
  by_cases h : (characterId, order) = key
  · rw [filterMap_wornAt_pos ⟨characterId, outfitId, order, note⟩ [] h, if_pos h]
    rfl
  · rw [filterMap_wornAt_neg ⟨characterId, outfitId, order, note⟩ [] h, if_neg h]
    rfl

/-- Beats are taken out, but none at the key. -/
theorem filterMap_wornAt_kept (beats : List SceneOutfitBeat) {kept}
    (hkept : ∀ beat, beat.key = key → kept beat) :
    (beats.filter kept).filterMap (wornAt key) = beats.filterMap (wornAt key) := by
  rw [filterMap_filter]
  refine filterMap_congr fun beat _ => ?_
  by_cases hkey : beat.key = key
  · rw [hkept beat hkey, if_pos rfl]
  · rw [wornAt, if_neg hkey, ite_self]

/-- All beats at the key are taken out. -/
theorem filterMap_wornAt_dropped (beats : List SceneOutfitBeat) {kept}
    (hdropped : ∀ beat, beat.key = key → kept beat = false) :
    (beats.filter kept).filterMap (wornAt key) = [] := by
  rw [filterMap_filter, filterMap_eq_nil_iff]
  intro beat _
  by_cases hkey : beat.key = key
  · rw [hdropped beat hkey]
    rfl
  · rw [wornAt, if_neg hkey, ite_self]

theorem beatsAt_removed :
    beatsAt (scene.apply (.outfitBeatRemoved id characterId order version)) key =
      if (characterId, order) = key then [] else beatsAt scene key := by
  split
  · next heq =>
    refine filterMap_wornAt_dropped key scene.outfitBeats fun beat hbeat => ?_
    rw [← heq] at hbeat
    cases hbeat
    simp
  · next hne =>
    refine filterMap_wornAt_kept key scene.outfitBeats fun beat hbeat => ?_
    have hother : ¬(beat.characterId = characterId ∧ beat.order = order) := by
      rintro ⟨rfl, rfl⟩
      exact hne hbeat
    rw [Bool.not_eq_true', ← Bool.not_eq_true]
    simpa using hother

theorem beatsAt_cleared : beatsAt (scene.apply (.outfitBeatsCleared id characterId version)) key =
      if characterId = key.1 then [] else beatsAt scene key := by
  split
  · next heq =>
    refine filterMap_wornAt_dropped key scene.outfitBeats fun beat hbeat => ?_
    rw [heq, ← hbeat]
    simp [SceneOutfitBeat.key]
  · next hne =>
    refine filterMap_wornAt_kept key scene.outfitBeats fun beat hbeat => ?_
    have hother : beat.characterId ≠ characterId := by
      rintro rfl
      exact hne (congrArg Prod.fst hbeat)
    simpa using hother

/-- An update rewrites the first beat at its key. -/
theorem beatsAt_updated :
    beatsAt (scene.apply (.outfitBeatUpdated id characterId order outfitId note version)) key =
      if (characterId, order) = key then match beatsAt scene key with
        | [] => []
        | _ :: rest => (outfitId, note) :: rest else beatsAt scene key := by
  unfold beatsAt
  -- by induction on the beats: the first one at the updated key is rewritten, and the search ends there
  show (SceneAggregate.updateBeat characterId order _ scene.outfitBeats).filterMap _ = _
  induction scene.outfitBeats with
  | nil => split <;> rfl
  | cons beat beats ih =>
    unfold SceneAggregate.updateBeat
    by_cases hfirst : beat.characterId = characterId ∧ beat.order = order
    · obtain ⟨rfl, rfl⟩ := hfirst
      rw [if_pos ⟨rfl, rfl⟩]
      by_cases hkey : beat.key = key
      · rw [filterMap_wornAt_pos { beat with outfitId, note } beats hkey,
          filterMap_wornAt_pos beat beats hkey]
        exact (if_pos hkey).symm
      · rw [filterMap_wornAt_neg { beat with outfitId, note } beats hkey,
          filterMap_wornAt_neg beat beats hkey]
        exact (if_neg hkey).symm
    · rw [if_neg hfirst]
      by_cases hkey : beat.key = key
      -- a beat at the key that is not the updated one: the update is about another key
      · have hne : (characterId, order) ≠ key := by
          rintro rfl
          cases hkey
          exact hfirst ⟨rfl, rfl⟩
        rw [if_neg hne] at ih ⊢
        rw [filterMap_wornAt_pos beat _ hkey, filterMap_wornAt_pos beat _ hkey, ih]
      · rw [filterMap_wornAt_neg beat _ hkey, filterMap_wornAt_neg beat _ hkey]
        exact ih

theorem beatsAt_eq_nil {scene key} : beatsAt scene key = [] ↔ key ∉ scene.beatKeys := by
  unfold beatsAt SceneAggregate.beatKeys wornAt
  rw [filterMap_eq_nil_iff]
  simp

end Beats

/-! ## §4. One event -/

section Step

variable {db : SceneTables} {scene : SceneAggregate}

theorem touchParent_row {id row} (stamp) (h : db.scenes id = some row) :
    (touchParent db id stamp).scenes id = some { row with stamp } := by
  show db.scenes.modify id _ id = _
  rw [Table.modify, Table.alter_self, h]
  rfl

/-- An event that leaves the details alone touches the row of its scene. -/
theorem shows_row (h : db.Shows scene) (hscenes : changed.scenes = db.scenes) (stamp)
    {next : SceneAggregate} (hid : next.id = scene.id) (hdetails : next.details = scene.details)
    (hversion : stamp.version = next.version) :
    ∃ row, (touchParent changed scene.id stamp).scenes next.id = some row ∧
      row.details = detailColumns next.details ∧ row.stamp.version = next.version := by
  obtain ⟨row, hrow, hcolumns, -⟩ := h.row
  rw [← hscenes] at hrow
  rw [hid, hdetails]
  exact ⟨_, touchParent_row stamp hrow, hcolumns, hversion⟩

/-- Two `u32` orders have the same key exactly when they are the same. -/
theorem beatKey_eq {id characterId characterId' : Uuid} (h : order < 2 ^ 32)
    (h' : order' < 2 ^ 32) : (id, characterId', asI32 order') = (id, characterId, asI32 order) ↔
      (characterId, order) = (characterId', order') := by
  simp only [Prod.mk.injEq, true_and, asI32_inj h' h]
  exact ⟨fun h => ⟨h.1.symm, h.2.symm⟩, fun h => ⟨h.1.symm, h.2.symm⟩⟩

/-- **ONE EVENT KEEPS THE TABLES IN STEP**, if it adds no beat that is there. -/
theorem effect_shows (h : db.Shows scene) (updatedAt) (hemits : scene.Emits e)
    (hkept : e.isDeletion = false) (hbounded : ∀ key ∈ scene.beatKeys, key.2 < 2 ^ 32)
    (hfresh : ∀ key, e.addedBeat = some key → key ∉ scene.beatKeys) :
    (effect db updatedAt e).Shows (scene.apply e) := by
  cases hemits with
  | deleted => cases hkept
  | detailsUpdated details =>
    refine ⟨?_, h.characters, h.shootingDays, h.beats⟩
    obtain ⟨row, hrow, -, -⟩ := h.row
    refine ⟨{ row with details := detailColumns details, stamp := ⟨scene.version.next, updatedAt⟩ },
      ?_, rfl, rfl⟩
    show db.scenes.modify scene.id _ scene.id = _
    rw [Table.modify, Table.alter_self, hrow]
    rfl
  | characterAssigned characterId hnew =>
    refine ⟨shows_row h rfl _ rfl rfl rfl, ?_, h.shootingDays, h.beats⟩
    show (db.characters.put _ _).Lists scene.id (if _ then _ else _)
    rw [if_neg (by simpa using hnew)]
    exact h.characters.put characterId _
  | characterRemoved characterId =>
    exact ⟨shows_row h rfl _ rfl rfl rfl, h.characters.delete characterId, h.shootingDays, h.beats⟩
  | shootingDayScheduled shootingDayId hnew =>
    refine ⟨shows_row h rfl _ rfl rfl rfl, h.characters, ?_, h.beats⟩
    show (db.shootingDays.put _ _).Lists scene.id (if _ then _ else _)
    rw [if_neg (by simpa using hnew)]
    exact h.shootingDays.put shootingDayId _
  | shootingDayUnscheduled shootingDayId =>
    exact ⟨shows_row h rfl _ rfl rfl rfl, h.characters, h.shootingDays.delete shootingDayId, h.beats⟩
  | outfitBeatAdded characterId outfitId order note hbound =>
    refine ⟨shows_row h rfl _ rfl rfl rfl, h.characters, h.shootingDays, fun other order' h' => ?_⟩
    show _ = (db.beats.put _ _ (scene.id, other, asI32 order')).toList.map _
    -- a fresh key has no beat yet, so the put row is the only one
    rw [beatsAt_added, put, alter_apply, if_congr (beatKey_eq hbound h') rfl rfl]
    split
    · next heq =>
      rw [beatsAt_eq_nil.mpr (heq ▸ hfresh _ rfl)]
      rfl
    · rw [append_nil]
      exact h.beats other order' h'
  | outfitBeatUpdated characterId order outfitId note hmem =>
    have hbound : order < 2 ^ 32 := hbounded _ hmem
    refine ⟨shows_row h rfl _ rfl rfl rfl, h.characters, h.shootingDays, fun other order' h' => ?_⟩
    show _ = (db.beats.modify _ _ (scene.id, other, asI32 order')).toList.map _
    rw [beatsAt_updated, Table.modify, Table.alter_apply, if_congr (beatKey_eq hbound h') rfl rfl]
    split
    · next heq =>
      -- the beat is there, so its row is, and there is no other beat at its key
      have hbeats := h.beats other order' h'
      have hne : beatsAt scene (other, order') ≠ [] := by
        rw [← heq, Ne, beatsAt_eq_nil]
        exact not_not_intro hmem
      cases hrow : db.beats (scene.id, other, asI32 order') with
      | none =>
        rw [hrow] at hbeats
        exact absurd hbeats hne
      | some =>
        rw [hbeats, hrow]
        rfl
    · exact h.beats other order' h'
  | outfitBeatRemoved characterId order hmem =>
    have hbound : order < 2 ^ 32 := hbounded _ hmem
    refine ⟨shows_row h rfl _ rfl rfl rfl, h.characters, h.shootingDays, fun other order' h' => ?_⟩
    show _ = (db.beats.delete _ (scene.id, other, asI32 order')).toList.map _
    rw [beatsAt_removed, delete, alter_apply, if_congr (beatKey_eq hbound h') rfl rfl]
    split
    · rfl
    · exact h.beats other order' h'
  | outfitBeatsCleared characterId =>
    refine ⟨shows_row h rfl _ rfl rfl rfl, h.characters, h.shootingDays, fun other order' h' => ?_⟩
    have hrow : (effect db updatedAt (.outfitBeatsCleared scene.id characterId
        scene.version.next)).beats (scene.id, other, asI32 order') =
          if other = characterId then none else db.beats (scene.id, other, asI32 order') := by
      simp [effect, touchParent, deleteWhere]
    rw [beatsAt_cleared]
    show _ = ((effect db updatedAt _).beats (scene.id, other, asI32 order')).toList.map _
    rw [hrow]
    by_cases heq : characterId = other
    · rw [if_pos heq, if_pos heq.symm]
      rfl
    · rw [if_neg heq, if_neg (Ne.symm heq)]
      exact h.beats other order' h'

/-- **AND ONLY THEN**: the tables have one beat at every key. -/
theorem fresh_of_shows {key} (hemits : scene.Emits e) (hadded : e.addedBeat = some key)
    (hnext : db.Shows (scene.apply e)) : key ∉ scene.beatKeys := by
  cases hemits with
  | outfitBeatAdded characterId outfitId order note hbound =>
    cases hadded
    have hbeats := hnext.beats characterId order hbound
    rw [beatsAt_added, if_pos rfl] at hbeats
    -- a table holds at most one row at a key, and the added beat is one already
    have hlength := congrArg length hbeats
    rw [length_append, length_map, length_singleton] at hlength
    have hone : ∀ row : Option BeatRow, row.toList.length ≤ 1 := by
      intro row
      cases row <;> simp
    have hle := hone (db.beats ((scene.apply (.outfitBeatAdded scene.id characterId outfitId order note
      scene.version.next)).id, characterId, asI32 order))
    rw [← beatsAt_eq_nil, ← length_eq_zero_iff]
    omega
  | _ => cases hadded

end Step

/-! ## §5. Streams -/

/-- An event that takes effect. -/
def step (db : SceneTables) (event : StoredEvent SceneEvent) : SceneTables :=
  effect db (timestamptz event.timestamp) event.data

/-- What the database asks of an event whose scene is there: no U+0000, and a projected day. -/
structure Accepts (db : SceneTables) (e : SceneEvent) : Prop where
  texts : e.texts.all storable = true
  day : ∀ shootingDayId, e.scheduledDay = some shootingDayId → db.projectedDays shootingDayId = true

theorem projectedDays_step (db event) : (step db event).projectedDays = db.projectedDays := by
  obtain ⟨e, t⟩ := event
  cases e <;> rfl

variable {db : SceneTables} {events : List (StoredEvent SceneEvent)}

theorem accepts_congr (h : db'.projectedDays = db.projectedDays) (e) :
    Accepts db' e ↔ Accepts db e := by
  constructor
  · exact fun ha => ⟨ha.texts, fun day hday => h ▸ ha.day day hday⟩
  · exact fun ha => ⟨ha.texts, fun day hday => by rw [h]; exact ha.day day hday⟩

/-- What it takes that the parents are there. -/
theorem hasParents_iff (hrow : (db.scenes e.id).isSome ∨ e.isCreation) : hasParents db e ↔
      ∀ shootingDayId, e.scheduledDay = some shootingDayId → db.projectedDays shootingDayId := by
  cases e with
  | characterAssigned id | shootingDayScheduled id =>
    have hsome : (db.scenes id).isSome := hrow.resolve_right (by simp)
    simp [hasParents, hsome, SceneEvent.scheduledDay]
  | _ => simp [hasParents, SceneEvent.scheduledDay]

/-- An event that is not skipped, delivered where its scene is. -/
theorem handle_iff {after} (hskips : skips db event.data = false)
    (hrow : (db.scenes event.data.id).isSome ∨ event.data.isCreation) :
    handle db event = .ok after ↔ Accepts db event.data ∧ after = step db event := by
  unfold handle
  rw [if_neg (by simp [hskips]), check_eq_ok, check_eq_ok, ensure_eq_ok, ensure_eq_ok,
    hasParents_iff hrow, Except.ok.injEq]
  exact ⟨fun ⟨htexts, hday, hafter⟩ => ⟨⟨htexts, hday⟩, hafter.symm⟩,
    fun ⟨haccepts, hafter⟩ => ⟨haccepts.texts, haccepts.day, hafter.symm⟩⟩

/-- A row at a lower version lets every event through. -/
theorem not_skips {row} (hrow : db.scenes e.id = some row) (hnewer : row.stamp.version < e.version) :
    skips db e = false := by
  unfold skips guardParent
  rw [hrow, Option.any_some, decide_eq_true hnewer, Bool.not_true, Bool.and_false]

/-- An event that is not a deletion leaves the row of its scene behind, with its version. -/
theorem step_row (hkept : event.data.isDeletion = false)
    (hrow : (db.scenes event.data.id).isSome ∨ event.data.isCreation) :
    ∃ row, (step db event).scenes event.data.id = some row ∧
      row.stamp.version = event.data.version := by
  obtain ⟨e, t⟩ := event
  cases e with
  | sceneDeleted => cases hkept
  | sceneCreated id episodeId details assignedCharacters source version =>
    refine ⟨⟨episodeId, source, detailColumns details, ⟨version, timestamptz t⟩⟩, ?_, rfl⟩
    show db.scenes.put id _ id = _
    rw [put, alter_self]
  | sceneDetailsUpdated id details version =>
    obtain ⟨row, hrow⟩ := Option.isSome_iff_exists.mp (hrow.resolve_right (by simp))
    refine ⟨{ row with details := detailColumns details, stamp := ⟨version, timestamptz t⟩ }, ?_, rfl⟩
    show db.scenes.modify id _ id = _
    rw [Table.modify, Table.alter_self, show db.scenes id = some row from hrow]
    rfl
  | _ =>
    obtain ⟨row, hrow⟩ := Option.isSome_iff_exists.mp (hrow.resolve_right (by simp))
    exact ⟨_, touchParent_row _ hrow, rfl⟩

/-- Events about one scene that is there, at a version below theirs, and their versions rise. -/
structure Below (db : SceneTables) (id : Uuid) (events : List (StoredEvent SceneEvent)) : Prop where
  row : ∃ row, db.scenes id = some row ∧ ∀ e ∈ events, row.stamp.version < e.data.version
  ids : ∀ e ∈ events, e.data.id = id
  kept : ∀ e ∈ events, e.data.isDeletion = false
  rising : events.Pairwise fun a b => a.data.version < b.data.version

/-- After an event of rising versions the later ones are still to come. -/
theorem below_step (hkept : ∀ e' ∈ e :: events, e'.data.isDeletion = false)
    (hids : ∀ e' ∈ events, e'.data.id = e.data.id)
    (hrising : (e :: events).Pairwise fun a b => a.data.version < b.data.version)
    (hrow : (db.scenes e.data.id).isSome ∨ e.data.isCreation) :
    Below (step db e) e.data.id events := by
  obtain ⟨row, hnext, hversion⟩ := step_row (hkept e mem_cons_self) hrow
  obtain ⟨hfirst, hrest⟩ := pairwise_cons.mp hrising
  exact ⟨⟨row, hnext, fun e' he' => hversion ▸ hfirst e' he'⟩, hids,
    fun e' he' => hkept e' (mem_cons_of_mem e he'), hrest⟩

theorem Below.isSome (h : Below db e.data.id (e :: events)) :
    (db.scenes e.data.id).isSome ∨ e.data.isCreation := by
  obtain ⟨row, hrow, -⟩ := h.row
  rw [hrow]
  exact .inl rfl

/-- **EVENTS OF RISING VERSIONS ALL TAKE EFFECT**, on a row below them. -/
theorem project_rising {id after} (h : Below db id events) : project handle db events = .ok after ↔
      (∀ e ∈ events, Accepts db e.data) ∧ after = events.foldl step db := by
  -- the row stays below the events to come, and no event adds a day
  refine project_steps (A := fun e => Accepts db e.data)
    (Q := fun db' rest => Below db' id rest ∧ db'.projectedDays = db.projectedDays) ?_ ?_ ⟨h, rfl⟩
  · rintro db' e rest after ⟨hbelow, hdays⟩
    obtain rfl := hbelow.ids e mem_cons_self
    obtain ⟨row, hrow, hnewer⟩ := hbelow.row
    rw [handle_iff (not_skips hrow (hnewer e mem_cons_self)) hbelow.isSome, accepts_congr hdays]
  · rintro db' e rest ⟨hbelow, hdays⟩
    obtain rfl := hbelow.ids e mem_cons_self
    exact ⟨below_step hbelow.kept (fun e' he' => hbelow.ids e' (mem_cons_of_mem e he'))
      hbelow.rising hbelow.isSome, (projectedDays_step db' e).trans hdays⟩

end SceneProjector

/-- The tables have no row of a child of the scene, as it is before the scene itself is there. -/
structure SceneTables.Lacks (db : SceneTables) (id : Uuid) : Prop where
  characters : ∀ characterId, db.characters (id, characterId) = none
  shootingDays : ∀ shootingDayId, db.shootingDays (id, shootingDayId) = none
  beats : ∀ characterId order, db.beats (id, characterId, order) = none

/-- Tables with nothing but shooting day 6. -/
def emptySceneTables : SceneTables where
  projectedDays day := day = ⟨6⟩
  scenes _ := none
  characters _ := none
  shootingDays _ := none
  beats _ := none

theorem emptySceneTables_lacks (id) : emptySceneTables.Lacks id :=
  ⟨fun _ => rfl, fun _ => rfl, fun _ _ => rfl⟩

namespace SceneProjector

/-- All events of a stream are about one scene. -/
theorem id_of_mem (h : SceneStream log) (he : e ∈ log) : e.id = (replay SceneAggregate log).id := by
  refine h.id_of_mem he ?_ ?_
  · rintro e ⟨cmd⟩
    rfl
  · rintro scene e ⟨-, hemits⟩
    cases hemits with
    | _ => exact ⟨rfl, rfl⟩

theorem bounded (h : SceneStream log) :
    ∀ key ∈ (replay SceneAggregate log).beatKeys, key.2 < 2 ^ 32 := by
  intro key hkey
  have hadded := sceneBeats.ids_subset h hkey
  obtain ⟨e, he, hkey⟩ := mem_filterMap.mp hadded
  -- the beat was added by an event behind the creation, and adding checks the bound
  obtain ⟨pre, post, hlog⟩ := append_of_mem he
  have hne : pre ≠ [] := by
    rintro rfl
    rw [(sceneBeats.first (h.starts hlog)).1] at hkey
    cases hkey
  cases (h.emits hlog hne).emits with
  | outfitBeatAdded characterId outfitId order note hbound =>
    cases hkey
    exact hbound
  | _ => cases hkey

theorem isCreation_of_founds {e : SceneEvent} (h : e.Founds) : e.isCreation := by
  cases h with
  | created => rfl

theorem isBeat_of_founds {e : SceneEvent} (h : e.Founds) : e.isBeat = false := by
  cases h with
  | created => rfl

/-- The creation, on tables that lack the scene. -/
theorem step_created (hfirst : event.data.Founds) (hlacks : db.Lacks event.data.id) :
    (step db event).Shows (replay SceneAggregate [event.data]) := by
  obtain ⟨e, t⟩ := event
  obtain ⟨cmd⟩ := hfirst
  refine ⟨?_, ?_, ?_, ?_⟩
  · refine ⟨⟨cmd.episodeId, cmd.source, detailColumns cmd.details,
      ⟨AggregateVersion.initial, timestamptz t⟩⟩, ?_, rfl, rfl⟩
    show db.scenes.put cmd.id _ cmd.id = _
    rw [put, alter_self]
  · intro characterId
    show (db.characters (cmd.id, characterId)).isSome ↔ characterId ∈ []
    rw [show db.characters (cmd.id, characterId) = none from hlacks.characters characterId]
    simp
  · intro shootingDayId
    show (db.shootingDays (cmd.id, shootingDayId)).isSome ↔ shootingDayId ∈ []
    rw [show db.shootingDays (cmd.id, shootingDayId) = none from hlacks.shootingDays shootingDayId]
    simp
  · intro characterId order _
    show [] = (db.beats (cmd.id, characterId, asI32 order)).toList.map _
    rw [show db.beats (cmd.id, characterId, asI32 order) = none from hlacks.beats ..]
    rfl

section Streams

variable {start : SceneTables} {events : List (StoredEvent SceneEvent)}

/-- **DELIVERED IN ORDER, EVERY EVENT OF A STREAM TAKES EFFECT.** -/
theorem project_eq {after : SceneTables} (hrun : SceneStream (events.map (·.data)))
    (hcounted : Counted SceneAggregate (events.map (·.data)))
    (hkept : ∀ e ∈ events, e.data.isDeletion = false) : project handle start events = .ok after ↔
      (∀ e ∈ events, Accepts start e.data) ∧ after = events.foldl step start := by
  cases events with
  | nil => exact absurd rfl hrun.ne_nil
  | cons e events =>
    have hfirst : e.data.Founds := hrun.starts rfl
    have hcreation := Or.inr (a := (start.scenes e.data.id).isSome) (isCreation_of_founds hfirst)
    have hskips : skips start e.data = false := by
      rw [skips, isBeat_of_founds hfirst, Bool.false_and]
    have hids : ∀ e' ∈ events, e'.data.id = e.data.id := by
      intro e' he'
      have hmem : e'.data ∈ (e :: events).map (·.data) := mem_map_of_mem (mem_cons_of_mem e he')
      rw [id_of_mem hrun hmem, ← id_of_mem hrun mem_cons_self]
    have hrising := hcounted.rising
    rw [pairwise_map] at hrising
    have hdays := accepts_congr (projectedDays_step start e)
    -- the creation makes the row, the events behind it find it below them
    simp only [project_cons, handle_iff hskips hcreation, forall_mem_cons, foldl_cons]
    constructor
    · rintro ⟨mid, ⟨haccepts, rfl⟩, hafter⟩
      obtain ⟨hrest, rfl⟩ := (project_rising (below_step hkept hids hrising hcreation)).mp hafter
      exact ⟨⟨haccepts, fun e' he' => (hdays _).mp (hrest e' he')⟩, rfl⟩
    · rintro ⟨⟨haccepts, hrest⟩, rfl⟩
      refine ⟨_, ⟨haccepts, rfl⟩, (project_rising (below_step hkept hids hrising hcreation)).mpr ?_⟩
      exact ⟨fun e' he' => (hdays _).mpr (hrest e' he'), rfl⟩

/-- **A WHOLE STREAM**: the tables show the aggregate, if no beat is added that is there. -/
theorem foldl_step_shows (hrun : SceneStream (events.map (·.data)))
    (hlacks : start.Lacks (replay SceneAggregate (events.map (·.data))).id)
    (hkept : ∀ e ∈ events, e.data.isDeletion = false)
    (hfresh : sceneBeats.Fresh (events.map (·.data))) :
    (events.foldl step start).Shows (replay SceneAggregate (events.map (·.data))) := by
  revert hlacks hkept hfresh
  refine stored_rule hrun ?_ ?_
  · intro e hfirst hlacks _ _
    have hid : e.data.id = _ := id_of_mem (.first hfirst) mem_cons_self
    exact step_created hfirst (hid ▸ hlacks)
  · -- the last event is recorded by the aggregate that the tables show by induction
    intro events e hrun hrecords ih hlacks hkept hfresh
    rw [replay_stored_concat] at hlacks ⊢
    rw [map_append, map_singleton] at hfresh
    rw [foldl_append]
    have hfresh' := hfresh.shorter (prefix_append _ _)
    have hbefore := ih (hrecords.emits.id_apply ▸ hlacks) (fun e' he' => hkept e' (by simp [he']))
      hfresh'
    exact effect_shows hbefore _ hrecords.emits (hkept e (by simp)) (bounded hrun)
      (fun key hkey => hfresh _ _ [] key rfl hkey)

end Streams

end SceneProjector

end Breakdown.Projections
