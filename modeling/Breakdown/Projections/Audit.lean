/-
**THE AUDIT TRAIL** (`infra/src/projectors/audit.rs`, table
`projection_audit`).

Thirteen projectors write one row per event. A row is recognised by `event_key`, a text made of the
category, the aggregate's id, the type of the event and its JSON payload; a row whose key is taken is
dropped, so that an event that is delivered again leaves nothing behind. Two different events with the
same content are therefore one row. The events of twelve kinds carry a version that rises along their
stream; those of a membership carry none, and a user who is invited, removed and invited again leaves two
equal events.

`serde_json` (the payload text), and which keys the unique index takes, are parameters: an index entry
of more than a third of a page is refused, and how long a text may be depends on how well it compresses.
The index over `actor` is left out: an actor is the subject of a token that was verified, not a text of
a request.

- `eventKey_inj`: the key determines the event, if the payload does;
- `complete_iff_keys`: one row per event, if and only if no two keys are equal;
- `audit_trail`: for whole collections of histories;
- `reinvited_member_lost`: an invitation that is never audited.
-/
import Breakdown.Lib.Rows
import Breakdown.Lib.Words
import Breakdown.Membership.Authority
import Breakdown.Projections.EntityIds

namespace Breakdown

/-! ## §1. Metadata -/

inductive Provenance
  | human
  | saga (name : String)
  | system

/-- `Provenance::as_str`. -/
def Provenance.asStr : Provenance → String
  | .human => "Human"
  | .saga name => name
  | .system => "System"

structure EventMetadata where
  actor : Option UserId
  provenance : Provenance
  projectId : Option ProjectId

end Breakdown

namespace Breakdown.Projections

open Fallible Tables Words List RowList

/-! ## §2. Audited events -/

inductive AuditCategory
  | season
  | block
  | episode
  | scene
  | sceneShoot
  | shootingDay
  | character
  | piece
  | outfit
  | costumeCategory
  | photo
  | membership
  | settings
  deriving DecidableEq

/-- `AuditCategory::entity_type`. -/
def AuditCategory.entityType : AuditCategory → String
  | .season => "season"
  | .block => "block"
  | .episode => "episode"
  | .scene => "scene"
  | .sceneShoot => "scene_shoot"
  | .shootingDay => "shooting_day"
  | .character => "character"
  | .piece => "piece"
  | .outfit => "outfit"
  | .costumeCategory => "costume_category"
  | .photo => "photo"
  | .membership => "membership"
  | .settings => "settings"

/-- The data of an event of one of the audited categories. -/
inductive AuditedEvent
  | season (e : SeasonEvent)
  | block (e : BlockEvent)
  | episode (e : EpisodeEvent)
  | scene (e : SceneEvent)
  | sceneShoot (e : SceneShootEvent)
  | shootingDay (e : ShootingDayEvent)
  | character (e : CharacterEvent)
  | piece (e : PieceEvent)
  | outfit (e : OutfitEvent)
  | costumeCategory (e : CostumeCategoryEvent)
  | photo (e : PhotoEvent)
  | membership (e : MembershipEvent)
  | settings (e : SettingsEvent)
  deriving DecidableEq

/-- `event_type()`. -/
def AuditedEvent.eventType : AuditedEvent → String
  | .season (.seasonCreated ..) => "SeasonCreated"
  | .season (.seasonRenamed ..) => "SeasonRenamed"
  | .season (.seasonArchived ..) => "SeasonArchived"
  | .block (.blockCreated ..) => "BlockCreated"
  | .block (.blockTimeSpanUpdated ..) => "BlockTimeSpanUpdated"
  | .episode (.episodeCreated ..) => "EpisodeCreated"
  | .episode (.episodeRenamed ..) => "EpisodeRenamed"
  | .episode (.episodeDeleted ..) => "EpisodeDeleted"
  | .scene (.sceneCreated ..) => "SceneCreated"
  | .scene (.sceneDetailsUpdated ..) => "SceneDetailsUpdated"
  | .scene (.characterAssigned ..) => "CharacterAssigned"
  | .scene (.characterRemoved ..) => "CharacterRemoved"
  | .scene (.shootingDayScheduled ..) => "ShootingDayScheduled"
  | .scene (.shootingDayUnscheduled ..) => "ShootingDayUnscheduled"
  | .scene (.outfitBeatAdded ..) => "OutfitBeatAdded"
  | .scene (.outfitBeatUpdated ..) => "OutfitBeatUpdated"
  | .scene (.outfitBeatRemoved ..) => "OutfitBeatRemoved"
  | .scene (.outfitBeatsCleared ..) => "OutfitBeatsCleared"
  | .scene (.sceneDeleted ..) => "SceneDeleted"
  | .sceneShoot (.sceneShootPlanned ..) => "SceneShootPlanned"
  | .sceneShoot (.sceneShootReplanned ..) => "SceneShootReplanned"
  | .sceneShoot (.sceneShootStarted ..) => "SceneShootStarted"
  | .sceneShoot (.sceneShootActualOrderSet ..) => "SceneShootActualOrderSet"
  | .sceneShoot (.sceneShootFinished ..) => "SceneShootFinished"
  | .sceneShoot (.sceneShootSkipped ..) => "SceneShootSkipped"
  | .sceneShoot (.shootDayNoteAdded ..) => "ShootDayNoteAdded"
  | .sceneShoot (.shootDayNoteUpdated ..) => "ShootDayNoteUpdated"
  | .sceneShoot (.shootDayNoteRemoved ..) => "ShootDayNoteRemoved"
  | .sceneShoot (.continuityPhotoLinked ..) => "ContinuityPhotoLinked"
  | .sceneShoot (.continuityPhotoUnlinked ..) => "ContinuityPhotoUnlinked"
  | .sceneShoot (.sceneShootDeleted ..) => "SceneShootDeleted"
  | .shootingDay (.shootingDayCreated ..) => "ShootingDayCreated"
  | .shootingDay (.shootingDayRenamed ..) => "ShootingDayRenamed"
  | .shootingDay (.shootingDayRescheduled ..) => "ShootingDayRescheduled"
  | .shootingDay (.shootingDayReordered ..) => "ShootingDayReordered"
  | .shootingDay (.shootingDayArchived ..) => "ShootingDayArchived"
  | .shootingDay (.shootingDayWrapped ..) => "ShootingDayWrapped"
  | .shootingDay (.shootingDayDeleted ..) => "ShootingDayDeleted"
  | .character (.characterCreated ..) => "CharacterCreated"
  | .character (.measurementsUpdated ..) => "MeasurementsUpdated"
  | .character (.contactInfoUpdated ..) => "ContactInfoUpdated"
  | .character (.categoryChanged ..) => "CharacterCategoryChanged"
  | .character (.characterDeleted ..) => "CharacterDeleted"
  | .piece (.pieceCreated ..) => "PieceCreated"
  | .piece (.pieceRenamed ..) => "PieceRenamed"
  | .piece (.pieceNotesUpdated ..) => "PieceNotesUpdated"
  | .piece (.pieceAddedToSeason ..) => "PieceAddedToSeason"
  | .piece (.pieceRemovedFromSeason ..) => "PieceRemovedFromSeason"
  | .piece (.pieceDetailAdded ..) => "PieceDetailAdded"
  | .piece (.pieceDetailUpdated ..) => "PieceDetailUpdated"
  | .piece (.pieceDetailRemoved ..) => "PieceDetailRemoved"
  | .piece (.pieceCategorySet ..) => "PieceCategorySet"
  | .piece (.piecePhotoLinked ..) => "PiecePhotoLinked"
  | .piece (.piecePhotoUnlinked ..) => "PiecePhotoUnlinked"
  | .piece (.pieceDeleted ..) => "PieceDeleted"
  | .outfit (.outfitCreated ..) => "OutfitCreated"
  | .outfit (.outfitVariantCreated ..) => "OutfitVariantCreated"
  | .outfit (.outfitRenamed ..) => "OutfitRenamed"
  | .outfit (.outfitNotesUpdated ..) => "OutfitNotesUpdated"
  | .outfit (.outfitPieceAdded ..) => "OutfitPieceAdded"
  | .outfit (.outfitPieceRemoved ..) => "OutfitPieceRemoved"
  | .outfit (.outfitPhotoLinked ..) => "OutfitPhotoLinked"
  | .outfit (.outfitPhotoUnlinked ..) => "OutfitPhotoUnlinked"
  | .outfit (.outfitDeleted ..) => "OutfitDeleted"
  | .costumeCategory (.costumeCategoryCreated ..) => "CostumeCategoryCreated"
  | .costumeCategory (.costumeCategoryRenamed ..) => "CostumeCategoryRenamed"
  | .costumeCategory (.costumeCategoryReordered ..) => "CostumeCategoryReordered"
  | .costumeCategory (.costumeCategoryArchived ..) => "CostumeCategoryArchived"
  | .photo (.photoUploaded ..) => "PhotoUploaded"
  | .photo (.originalNormalized ..) => "OriginalNormalized"
  | .photo (.variantGenerated ..) => "VariantGenerated"
  | .photo (.variantFailed ..) => "VariantFailed"
  | .photo (.photoDeleted ..) => "PhotoDeleted"
  | .membership (.memberInvited ..) => "MemberInvited"
  | .membership (.invitationAccepted ..) => "InvitationAccepted"
  | .membership (.roleGranted ..) => "RoleGranted"
  | .membership (.memberRemoved ..) => "MemberRemoved"
  | .membership (.ownerBootstrapped ..) => "OwnerBootstrapped"
  | .settings (.credentialBound ..) => "CredentialBound"
  | .settings (.credentialRotated ..) => "CredentialRotated"
  | .settings (.credentialRevoked ..) => "CredentialRevoked"

namespace AuditedEvent

/-- The category whose projector is handed the event. -/
def category : AuditedEvent → AuditCategory
  | .season _ => .season
  | .block _ => .block
  | .episode _ => .episode
  | .scene _ => .scene
  | .sceneShoot _ => .sceneShoot
  | .shootingDay _ => .shootingDay
  | .character _ => .character
  | .piece _ => .piece
  | .outfit _ => .outfit
  | .costumeCategory _ => .costumeCategory
  | .photo _ => .photo
  | .membership _ => .membership
  | .settings _ => .settings

/-- `entity_id`: the id in the event, of a membership its block. -/
def entityId : AuditedEvent → Uuid
  | .season e => e.id
  | .block e => e.id
  | .episode e => e.id
  | .scene e => e.id
  | .sceneShoot e => e.id.uuid
  | .shootingDay e => e.id.uuid
  | .character e => e.id
  | .piece e => e.id
  | .outfit e => e.id
  | .costumeCategory e => e.id
  | .photo e => e.id.uuid
  | .membership e => e.block.uuid
  | .settings e => e.id

/-- An event that creates its aggregate. A membership has none. -/
def isCreation : AuditedEvent → Bool
  | .season e => e.isCreation
  | .block e => e.isCreation
  | .episode e => e.isCreation
  | .scene e => e.isCreation
  | .sceneShoot e => e.isCreation
  | .shootingDay e => e.isCreation
  | .character e => e.isCreation
  | .piece e => e.isCreation
  | .outfit e => e.isCreation
  | .costumeCategory e => e.isCreation
  | .photo e => e.isCreation
  | .membership _ => false
  | .settings e => e.isCreation

end AuditedEvent

/-- `kameo_es::Event`. The store gives every record an id of its own. -/
structure AuditEvent where
  id : Uuid
  data : AuditedEvent
  metadata : Option EventMetadata
  timestamp : Timestamp

/-! ## §3. The projectors -/

/-- A row of `projection_audit`. The payload column is kept as its JSON text; the projector's own version
is left out. -/
structure AuditRow where
  id : Uuid
  eventKey : String
  entityType : String
  entityId : String
  eventType : String
  blockId : Uuid
  projectId : Option Uuid
  actor : Option String
  provenance : String
  payload : String
  occurredAt : Timestamp

/-- `projection_audit`: `event_key` is UNIQUE. -/
abbrev AuditTable := RowList AuditRow String AuditRow.eventKey

/-- `extract_metadata`. The project id is printed there and parsed again by the caller. -/
def extractMetadata (event : AuditEvent) : Option String × String × Option Uuid :=
  match event.metadata with
  | some m => (m.actor.map (·.sub), m.provenance.asStr, m.projectId.map (·.uuid))
  | none => (none, "Human", none)

/-- A JSON text with the escape `\u0000`, which JSONB refuses. -/
def escapesNul : List Char → Bool
  | '\\' :: 'u' :: '0' :: '0' :: '0' :: '0' :: _ => true
  | '\\' :: _ :: rest => escapesNul rest
  | _ :: rest => escapesNul rest
  | [] => false

section Projector

variable (payload : AuditedEvent → String) (indexable : String → Bool)

/-- `event_key`. -/
def eventKey (data : AuditedEvent) : String :=
  data.category.entityType ++ ":" ++ data.entityId.toDisplay ++ ":" ++ data.eventType ++ ":" ++
    payload data

/-- The values `write_audit_row` binds. -/
def auditRow (event : AuditEvent) : AuditRow :=
  let (actor, provenance, projectId) := extractMetadata event
  { id := event.id
    eventKey := eventKey payload event.data
    entityType := event.data.category.entityType
    entityId := event.data.entityId.toDisplay
    eventType := event.data.eventType
    -- `Uuid::parse_str` of the text above
    blockId := event.data.entityId
    projectId, actor, provenance
    payload := payload event.data
    occurredAt := timestamptz event.timestamp }

/-- The texts are ones the columns take. -/
def AuditRow.storableTexts (row : AuditRow) : Bool :=
  ([row.eventKey, row.entityType, row.entityId, row.eventType, row.provenance] ++
    row.actor.toList).all storable && !escapesNul row.payload.toList

/-- `write_audit_row`: `INSERT … ON CONFLICT (event_key) DO NOTHING`. -/
def writeAuditRow (table : AuditTable) (row : AuditRow) : Except SqlError AuditTable := do
  ensure row.storableTexts .invalidText
  if table.holds row.eventKey then
    return table
  else
    -- only a row that is really inserted has to fit the index and to have an id of its own
    ensure (indexable row.eventKey) .programLimitExceeded
    ensure (table.rows.all (·.id ≠ row.id)) .uniqueViolation
    return table.insertNew row

/-- The `handle` of the thirteen audit projectors. -/
def AuditProjector.handle (table : AuditTable) (event : AuditEvent) : Except SqlError AuditTable :=
  writeAuditRow indexable table (auditRow payload event)

/-- Events delivered one after the other. -/
def AuditProjector.run (deliveries : List AuditEvent) : Except SqlError AuditTable :=
  deliveries.foldlM (AuditProjector.handle payload indexable) .empty

/-- The database takes the values of the event. -/
def Takes (event : AuditEvent) : Bool :=
  (auditRow payload event).storableTexts && indexable (eventKey payload event.data)

end Projector

/-! ## §4. The key determines the event -/

theorem colon_notMem_hexDigits (len n) : ':' ∉ hexDigits len n := by
  induction len generalizing n with
  | zero => simp [hexDigits]
  | succ len ih =>
    have hdigit : ∀ d : Fin 16, ':' ≠ Nat.digitChar d := by decide
    simp only [hexDigits, mem_append, mem_singleton, not_or]
    exact ⟨ih (n / 16), hdigit ⟨n % 16, Nat.mod_lt n (by omega)⟩⟩

theorem colon_notMem_toDisplay (id : Uuid) : ':' ∉ id.toDisplay.toList := by
  have hdigits := colon_notMem_hexDigits 32 id.asU128.toNat
  rw [Uuid.toList_toDisplay]
  simp only [mem_append, mem_cons, not_or]
  -- five groups of digits and the dashes between them
  have hgroup : ∀ start len, ':' ∉ ((hexDigits 32 id.asU128.toNat).drop start).take len :=
    fun start len hmem => hdigits (mem_of_mem_drop (mem_of_mem_take hmem))
  exact ⟨hgroup 0 8, by decide, hgroup 8 4, by decide, hgroup 12 4, by decide, hgroup 16 4, by decide,
    hgroup 20 12⟩

theorem AuditCategory.colon_notMem (category : AuditCategory) :
    ':' ∉ category.entityType.toList := by
  cases category <;> decide

theorem AuditedEvent.colon_notMem (data : AuditedEvent) : ':' ∉ data.eventType.toList := by
  cases data with
  | _ e => cases e <;> simp [eventType]

theorem AuditCategory.entityType_inj {a b : AuditCategory} (h : a.entityType = b.entityType) :
    a = b := by
  cases a <;> cases b <;> first | rfl | simp [entityType] at h

theorem toList_eventKey (payload : AuditedEvent → String) (data) :
    (eventKey payload data).toList = data.category.entityType.toList ++ ':' ::
      (data.entityId.toDisplay.toList ++ ':' :: (data.eventType.toList ++ ':' ::
        (payload data).toList)) := by
  simp [eventKey]

variable {payload : AuditedEvent → String} {category : AuditCategory} {log : List AuditedEvent}

/-- Equal keys have equal categories and payloads: none of the parts before the payload holds a
colon. -/
theorem eventKey_parts {a b : AuditedEvent} (h : eventKey payload a = eventKey payload b) :
    a.category = b.category ∧ payload a = payload b := by
  have hchars := congrArg String.toList h
  rw [toList_eventKey, toList_eventKey] at hchars
  obtain ⟨hcategory, hchars⟩ :=
    split_at_separator a.category.colon_notMem b.category.colon_notMem hchars
  obtain ⟨-, hchars⟩ := split_at_separator (colon_notMem_toDisplay a.entityId)
    (colon_notMem_toDisplay b.entityId) hchars
  obtain ⟨-, hchars⟩ := split_at_separator a.colon_notMem b.colon_notMem hchars
  exact ⟨AuditCategory.entityType_inj (String.toList_inj.mp hcategory), String.toList_inj.mp hchars⟩

/-- The payload text tells events of one category apart. -/
def Faithful (payload : AuditedEvent → String) (events : List AuditEvent) : Prop :=
  ∀ a ∈ events, ∀ b ∈ events, a.data.category = b.data.category →
    payload a.data = payload b.data → a.data = b.data

theorem eventKey_inj (hfaithful : Faithful payload events) (ha : a ∈ events)
    (hb : b ∈ events) (h : eventKey payload a.data = eventKey payload b.data) : a.data = b.data := by
  obtain ⟨hcategory, hpayload⟩ := eventKey_parts h
  exact hfaithful a ha b hb hcategory hpayload

/-- Equal events have equal keys. -/
theorem nodup_data_of_keys {events : List AuditEvent}
    (h : (events.map fun e => eventKey payload e.data).Nodup) : (events.map (·.data)).Nodup := by
  have hkeys : ((events.map (·.data)).map (eventKey payload)).Nodup := by
    rw [map_map]
    exact h
  exact hkeys.of_map

/-! ## §5. Deliveries -/

section Deliveries

variable {payload : AuditedEvent → String} {indexable : String → Bool} {recorded : List AuditEvent}

/-- Every row is one of a recorded event, under a key that the index took. -/
def RowsOf (payload : AuditedEvent → String) (indexable : String → Bool) (recorded : List AuditEvent)
    (table : AuditTable) : Prop :=
  ∀ row ∈ table.rows, indexable row.eventKey = true ∧ ∃ e ∈ recorded, row = auditRow payload e

@[simp] theorem auditRow_eventKey (e) :
    (auditRow payload e).eventKey = eventKey payload e.data := rfl

/-- **ONE DELIVERY**: the row is offered if the database takes its values. -/
theorem handle_iff (hids : (recorded.map (·.id)).Nodup) {after}
    (hrows : RowsOf payload indexable recorded table) (he : e ∈ recorded) :
    AuditProjector.handle payload indexable table e = .ok after ↔
      Takes payload indexable e ∧ after = table.insertNew (auditRow payload e) := by
  unfold AuditProjector.handle writeAuditRow Takes
  rw [check_eq_ok, ensure_eq_ok, Bool.and_eq_true, auditRow_eventKey]
  by_cases hheld : table.holds (eventKey payload e.data) = true
  · -- the key is taken, so the index took it once
    obtain ⟨row, hrow, hkey⟩ := mem_map.mp (holds_iff.mp hheld)
    have hindexable := (hrows row hrow).1
    rw [hkey] at hindexable
    have hsame : table.insertNew (auditRow payload e) = table := insertNew_of_holds hheld
    simp only [hheld, hindexable, hsame, if_true, and_true, pure, Except.pure, Except.ok.injEq]
    exact and_congr_right fun _ => eq_comm
  · -- no other record has the id of this one
    have hfree : table.rows.all (·.id ≠ (auditRow payload e).id) = true := by
      rw [all_eq_true]
      intro row hrow
      obtain ⟨-, e', he', rfl⟩ := hrows row hrow
      rw [decide_eq_true_eq]
      intro hid
      obtain rfl := inj_on_of_nodup_map hids he' he hid
      exact hheld (holds_iff.mpr (mem_map.mpr ⟨_, hrow, rfl⟩))
    simp only [hheld, Bool.false_eq_true, if_false, check_eq_ok, ensure_eq_ok, pure,
      Except.pure, Except.ok.injEq]
    rw [and_assoc, and_iff_right hfree]
    exact and_congr_right fun _ => and_congr_right fun _ => eq_comm

theorem RowsOf.insertNew (hrows : RowsOf payload indexable recorded table) (he : e ∈ recorded)
    (htakes : Takes payload indexable e) :
    RowsOf payload indexable recorded (table.insertNew (auditRow payload e)) := by
  intro row hrow
  obtain hrow | rfl := mem_insertNew hrow
  · exact hrows row hrow
  · exact ⟨((Bool.and_eq_true _ _).mp htakes).2, e, he, rfl⟩

/-- **MANY DELIVERIES.** -/
theorem foldlM_iff (hids : (recorded.map (·.id)).Nodup) {deliveries : List AuditEvent}
    (hdeliveries : ∀ e ∈ deliveries, e ∈ recorded) {table after}
    (hrows : RowsOf payload indexable recorded table) :
    deliveries.foldlM (AuditProjector.handle payload indexable) table = .ok after ↔
      (∀ e ∈ deliveries, Takes payload indexable e) ∧
        after = table.insertAll (deliveries.map (auditRow payload)) := by
  induction deliveries generalizing table with
  | nil =>
    simp only [foldlM_nil, pure, Except.pure, Except.ok.injEq, map_nil]
    exact ⟨fun h => ⟨by simp, h.symm⟩, fun h => h.2.symm⟩
  | cons e deliveries ih =>
    have he := hdeliveries e mem_cons_self
    have hrest : ∀ e' ∈ deliveries, e' ∈ recorded :=
      fun e' he' => hdeliveries e' (mem_cons_of_mem e he')
    rw [foldlM_cons, seq_eq_ok, forall_mem_cons, map_cons]
    constructor
    · rintro ⟨mid, hmid, hafter⟩
      obtain ⟨htakes, rfl⟩ := (handle_iff hids hrows he).mp hmid
      obtain ⟨hall, rfl⟩ := (ih hrest (hrows.insertNew he htakes)).mp hafter
      exact ⟨⟨htakes, hall⟩, rfl⟩
    · rintro ⟨⟨htakes, hall⟩, rfl⟩
      exact ⟨_, (handle_iff hids hrows he).mpr ⟨htakes, rfl⟩,
        (ih hrest (hrows.insertNew he htakes)).mpr ⟨hall, rfl⟩⟩

/-- Every recorded event is delivered, in whatever order and however often; nothing else is. -/
def Delivers (deliveries recorded : List AuditEvent) : Prop := ∀ e, e ∈ deliveries ↔ e ∈ recorded

/-- All deliveries go through, and the table ends up with exactly one row for every event. -/
def Complete (payload : AuditedEvent → String) (indexable : String → Bool)
    (recorded deliveries : List AuditEvent) : Prop :=
  ∃ table, AuditProjector.run payload indexable deliveries = .ok table ∧
    table.rows.Perm (recorded.map (auditRow payload))

/-- **ONE ROW PER EVENT, IF AND ONLY IF NO TWO KEYS ARE EQUAL.** -/
theorem complete_iff_keys {deliveries : List AuditEvent} (hids : (recorded.map (·.id)).Nodup)
    (hdelivers : Delivers deliveries recorded) : Complete payload indexable recorded deliveries ↔
      (∀ e ∈ recorded, Takes payload indexable e) ∧
        (recorded.map fun e => eventKey payload e.data).Nodup := by
  have hrun : ∀ after, AuditProjector.run payload indexable deliveries = .ok after ↔
      (∀ e ∈ deliveries, Takes payload indexable e = true) ∧
        after = empty.insertAll (deliveries.map (auditRow payload)) :=
    fun after => foldlM_iff hids (fun e he => (hdelivers e).mp he) nofun
  have hoffered : ∀ row, row ∈ deliveries.map (auditRow payload) ↔
      row ∈ recorded.map (auditRow payload) := by
    intro row
    simp only [mem_map, hdelivers _]
  have hperm : (insertAll (.empty : AuditTable) (deliveries.map (auditRow payload))).rows.Perm
      (recorded.map (auditRow payload)) ↔ (recorded.map fun e => eventKey payload e.data).Nodup := by
    rw [insertAll_perm_iff hoffered, map_map]
    rfl
  unfold Complete
  simp only [hrun, hdelivers _]
  constructor
  · rintro ⟨table, ⟨htakes, rfl⟩, hrows⟩
    exact ⟨htakes, hperm.mp hrows⟩
  · rintro ⟨htakes, hkeys⟩
    exact ⟨_, ⟨htakes, rfl⟩, hperm.mpr hkeys⟩

end Deliveries

/-! ## §6. Histories -/

/-- The events are those of a history of accepted commands on one aggregate of the category. -/
def AuditCategory.Accepted : AuditCategory → List AuditedEvent → Prop
  | .season, log => ∃ events, History SeasonAggregate events ∧ log = events.map .season
  | .block, log => ∃ events, History BlockAggregate events ∧ log = events.map .block
  | .episode, log => ∃ events, History EpisodeAggregate events ∧ log = events.map .episode
  | .scene, log => ∃ events, History SceneAggregate events ∧ log = events.map .scene
  | .sceneShoot, log => ∃ events, History SceneShootAggregate events ∧ log = events.map .sceneShoot
  | .shootingDay, log => ∃ events, History ShootingDayAggregate events ∧ log = events.map .shootingDay
  | .character, log => ∃ events, History CharacterAggregate events ∧ log = events.map .character
  | .piece, log => ∃ events, History PieceAggregate events ∧ log = events.map .piece
  | .outfit, log => ∃ events, History OutfitAggregate events ∧ log = events.map .outfit
  | .costumeCategory, log =>
    ∃ events, History CostumeCategoryAggregate events ∧ log = events.map .costumeCategory
  | .photo, log => ∃ events, History PhotoAggregate events ∧ log = events.map .photo
  | .membership, log => ∃ events, Decisions BlockMembership events ∧ log = events.map .membership
  | .settings, log =>
    ∃ events, History SettingsAggregate events ∧ log = events.map fun e => .settings e.data

section Kinds

variable {σ ε κ χ : Type} [Entity σ ε κ χ] [Versioned σ ε κ χ] [LawfulVersioned σ ε κ χ]
  {wrap : ε → AuditedEvent}

/-- Events that carry a version do not repeat in a stream. -/
theorem nodup_of_history
    (hversion : ∀ {a b}, wrap a = wrap b → Versioned.eventVersion σ a = Versioned.eventVersion σ b)
    (h : History σ events) : (events.map wrap).Nodup := by
  rw [List.Nodup, pairwise_map]
  refine h.rising.imp fun hlt heq => ?_
  have hsame := hversion heq
  omega

theorem named_of_history [Identified σ ε κ χ] [LawfulIdentified σ ε κ χ]
    (hid : ∀ e, (wrap e).entityId = Identified.eventId σ e)
    (hcreation : ∀ e, (wrap e).isCreation = Versioned.isCreation σ e)
    (h : History σ events) (hfirst : (events.map wrap).head? = some first)
    (hcreates : first.isCreation) (hdata : data ∈ events.map wrap) :
    data.entityId = first.entityId := by
  rw [head?_map, Option.map_eq_some_iff] at hfirst
  obtain ⟨e, he, rfl⟩ := hfirst
  obtain ⟨e', he', rfl⟩ := mem_map.mp hdata
  rw [hcreation] at hcreates
  rw [hid, hid]
  refine h.named_first ⟨e, he, hcreates⟩ (fun e'' he'' => ?_) he'
  rw [he, Option.mem_some_iff] at he''
  rw [he'']

end Kinds

/-- **IN TWELVE CATEGORIES NO EVENT IS RECORDED TWICE IN A STREAM.** -/
theorem AuditCategory.Accepted.nodup (h : category.Accepted log)
    (hcategory : category ≠ .membership) : log.Nodup := by
  cases category with
  | membership => exact absurd rfl hcategory
  | settings =>
    obtain ⟨events, hevents, rfl⟩ := h
    refine nodup_of_history (fun {a b} heq => ?_) hevents
    injection heq with heq
    exact congrArg SettingsEvent.version heq
  | _ =>
    obtain ⟨events, hevents, rfl⟩ := h
    refine nodup_of_history (fun {a b} heq => ?_) hevents
    injection heq with heq
    rw [heq]

/-- A stream that starts with its creation names one aggregate. -/
theorem AuditCategory.Accepted.named (h : category.Accepted log)
    (hfirst : log.head? = some first) (hcreates : first.isCreation) (hdata : data ∈ log) :
    data.entityId = first.entityId := by
  cases category with
  | membership =>
    obtain ⟨events, -, rfl⟩ := h
    rw [head?_map, Option.map_eq_some_iff] at hfirst
    obtain ⟨e, -, rfl⟩ := hfirst
    cases hcreates
  | _ =>
    obtain ⟨events, hevents, rfl⟩ := h
    exact named_of_history (fun _ => rfl) (fun _ => rfl) hevents hfirst hcreates hdata

/-- All events of a stream are of its category. -/
theorem AuditCategory.Accepted.category_eq (h : category.Accepted log) (hdata : data ∈ log) :
    data.category = category := by
  cases category with
  | _ =>
    obtain ⟨events, -, rfl⟩ := h
    obtain ⟨e, -, rfl⟩ := mem_map.mp hdata
    rfl

/-- The stream of one aggregate. -/
structure AuditStream where
  category : AuditCategory
  id : Uuid
  log : List AuditEvent

/-- The data of the events. -/
def AuditStream.data (stream : AuditStream) : List AuditedEvent := stream.log.map (·.data)

/-- The commands were addressed to the stream: it starts with a creation of its own aggregate, or
is a membership, of which every event names the block. -/
def AuditStream.Named (stream : AuditStream) : Prop :=
  (∃ first, stream.data.head? = some first ∧ first.isCreation = true ∧ first.entityId = stream.id) ∨
    ∀ data ∈ stream.data, data.entityId = stream.id

/-- **A COLLECTION OF HISTORIES**: any number of aggregates of the audited categories. -/
structure AuditHistories where
  streams : List AuditStream
  accepted : ∀ stream ∈ streams, stream.category.Accepted stream.data
  distinct : (streams.map fun stream => (stream.category, stream.id)).Nodup
  /-- The store gives every record an id of its own. -/
  recordIds : ((streams.flatMap (·.log)).map (·.id)).Nodup

namespace AuditHistories

variable (histories : AuditHistories)

def recorded : List AuditEvent := histories.streams.flatMap (·.log)

/-- No membership has an event twice. -/
def Once : Prop := ∀ stream ∈ histories.streams, stream.category = .membership → stream.data.Nodup

/-- No two streams have an event in common. -/
def Apart : Prop := histories.streams.Pairwise fun a b => a.data.Disjoint b.data

variable {histories}

theorem data_recorded :
    histories.recorded.map (·.data) = histories.streams.flatMap AuditStream.data := by
  unfold recorded
  rw [map_flatMap]
  rfl

/-- **NO EVENT IS RECORDED TWICE, IF AND ONLY IF** no membership repeats one and no two streams share
one. -/
theorem nodup_data_iff : (histories.recorded.map (·.data)).Nodup ↔ histories.Once ∧ histories.Apart := by
  rw [data_recorded, nodup_flatMap]
  constructor
  · rintro ⟨honce, hapart⟩
    exact ⟨fun stream hstream _ => honce stream hstream, hapart⟩
  · rintro ⟨honce, hapart⟩
    refine ⟨fun stream hstream => ?_, hapart⟩
    by_cases hcategory : stream.category = .membership
    · exact honce stream hstream hcategory
    · exact (histories.accepted stream hstream).nodup hcategory

theorem entityId_eq (hstream : stream ∈ histories.streams) (hnamed : stream.Named)
    (hdata : data ∈ stream.data) : data.entityId = stream.id := by
  obtain ⟨first, hfirst, hcreates, hid⟩ | hall := hnamed
  · rw [(histories.accepted stream hstream).named hfirst hcreates hdata, hid]
  · exact hall data hdata

/-- Streams that name their own aggregate share no event. -/
theorem apart_of_named (hnamed : ∀ stream ∈ histories.streams, stream.Named) : histories.Apart := by
  have hdistinct := pairwise_map.mp histories.distinct
  refine hdistinct.imp_of_mem ?_
  intro a b ha hb hne data hda hdb
  -- an event names its category and its aggregate
  have hcategory := (histories.accepted a ha).category_eq hda
  have hcategory' := (histories.accepted b hb).category_eq hdb
  have hid := entityId_eq ha (hnamed a ha) hda
  have hid' := entityId_eq hb (hnamed b hb) hdb
  exact hne (by rw [← hcategory, ← hcategory', ← hid, ← hid'])

end AuditHistories

/-! ## §7. The audit trail -/

/-- **WHAT THE AUDIT TRAIL OF A COLLECTION OF HISTORIES IS WORTH**, once all of it was delivered. -/
structure AuditTrail (payload : AuditedEvent → String) (indexable : String → Bool)
    (histories : AuditHistories) (deliveries : List AuditEvent) : Prop where
  /-- There is exactly one row per event if and only if the database takes the values of all events, no
      membership has an event twice, and no two streams have an event in common. -/
  complete_iff : Complete payload indexable histories.recorded deliveries ↔
    (∀ e ∈ histories.recorded, Takes payload indexable e = true) ∧ histories.Once ∧ histories.Apart
  /-- Streams whose commands were addressed to them never do. -/
  apart : (∀ stream ∈ histories.streams, stream.Named) → histories.Apart

theorem audit_trail {payload : AuditedEvent → String} (indexable : String → Bool)
    {histories : AuditHistories} {deliveries : List AuditEvent}
    (hfaithful : Faithful payload histories.recorded)
    (hdelivers : Delivers deliveries histories.recorded) :
    AuditTrail payload indexable histories deliveries where
  complete_iff := by
    have hids : (histories.recorded.map (·.id)).Nodup := histories.recordIds
    rw [complete_iff_keys hids hdelivers, ← AuditHistories.nodup_data_iff]
    refine and_congr_right fun _ => ?_
    refine ⟨nodup_data_of_keys, fun hdata => ?_⟩
    refine hdata.of_map.map_on fun a ha b hb hkey => ?_
    exact inj_on_of_nodup_map hdata ha hb (eventKey_inj hfaithful ha hb hkey)
  apart := AuditHistories.apart_of_named

/-- A season, and a block with its owner. -/
def seasonAndBlock : AuditHistories where
  streams := [⟨.season, 7, [⟨1, .season (.seasonCreated 7 ⟨8⟩ 1 none 1), none, 1000⟩]⟩,
      ⟨.membership, 9, [⟨2, .membership (.ownerBootstrapped ⟨9⟩ ⟨"anna"⟩ .costumeAssistant),
        some ⟨some ⟨"anna"⟩, .human, some ⟨8⟩⟩, 2000⟩]⟩]
  accepted := by
    have hseason : History SeasonAggregate [.seasonCreated 7 ⟨8⟩ 1 none 1] :=
      (calls_callAll [SeasonCommand.create ⟨7, ⟨8⟩, 1, none⟩]).history
    have howner : Decisions BlockMembership [.ownerBootstrapped ⟨9⟩ ⟨"anna"⟩ .costumeAssistant] :=
      decisions_membershipCalls [⟨none, .bootstrapOwner ⟨⟨9⟩, ⟨"anna"⟩, .costumeAssistant⟩⟩]
    intro stream hstream
    obtain rfl | rfl := by simpa using hstream
    · exact ⟨_, hseason, rfl⟩
    · exact ⟨_, howner, rfl⟩
  distinct := by decide
  recordIds := by decide

/-- The payloads of the two events (`serde_json`, with the keys in order). -/
def seasonAndBlockJson : AuditedEvent → String
  | .season _ => "\x7b\"SeasonCreated\":\x7b\"id\":\"00000000-0000-0000-0000-000000000007\"," ++
      "\"number\":1,\"series_id\":\"00000000-0000-0000-0000-000000000008\",\"title\":null," ++
      "\"version\":1\x7d\x7d"
  | _ => "\x7b\"OwnerBootstrapped\":\x7b\"block_id\":\"00000000-0000-0000-0000-000000000009\"," ++
      "\"role\":\"costume_assistant\",\"user_id\":\"anna\"\x7d\x7d"

/-- Both are audited, the second one although it is delivered twice. -/
theorem audit_trail_season_and_block :
    Complete seasonAndBlockJson (fun key => key.length ≤ 2000) seasonAndBlock.recorded
      (seasonAndBlock.recorded ++ seasonAndBlock.recorded.drop 1) := by
  have hrecorded : seasonAndBlock.recorded.map (·.data.category) = [.season, .membership] := rfl
  have htrail : AuditTrail seasonAndBlockJson (fun key => key.length ≤ 2000) seasonAndBlock
      (seasonAndBlock.recorded ++ seasonAndBlock.recorded.drop 1) := by
    refine audit_trail _ ?_ ?_
    · -- the two are of different categories
      intro a ha b hb hcategory _
      have hnodup : (seasonAndBlock.recorded.map (·.data.category)).Nodup := by
        rw [hrecorded]
        decide
      rw [inj_on_of_nodup_map hnodup ha hb hcategory]
    · intro e
      rw [mem_append, or_iff_left_of_imp (mem_of_mem_drop ·)]
  refine htrail.complete_iff.mpr ⟨by decide +kernel, ?_, htrail.apart ?_⟩
  · intro stream hstream _
    obtain rfl | rfl := by simpa [seasonAndBlock] using hstream
    · decide
    · decide
  · intro stream hstream
    obtain rfl | rfl := by simpa [seasonAndBlock] using hstream
    · exact .inl ⟨_, rfl, rfl, rfl⟩
    · exact .inr (by decide)

/-- The events as the records of one log. -/
def recordsOf (data : List AuditedEvent) : List AuditEvent :=
  data.zipIdx.map fun (data, k) => ⟨⟨BitVec.ofNat 128 k⟩, data, none, 1000 * k⟩

theorem map_data_recordsOf (data) : (recordsOf data).map (·.data) = data := by
  unfold recordsOf
  rw [map_map]
  exact zipIdx_map_fst 0 data

/-- Anna founds the block and invites Ben, who accepts, leaves and is invited again. -/
def reinvited : List MembershipCall := [⟨none, .bootstrapOwner ⟨⟨1⟩, ⟨"anna"⟩, .costumeAssistant⟩⟩,
    ⟨some ⟨"anna"⟩, .invite ⟨⟨1⟩, ⟨"ben"⟩, .wardrobeSupervisor⟩⟩,
    ⟨some ⟨"ben"⟩, .acceptInvitation ⟨⟨1⟩, ⟨"ben"⟩⟩⟩,
    ⟨some ⟨"ben"⟩, .leaveBlock ⟨⟨1⟩⟩⟩,
    ⟨some ⟨"anna"⟩, .invite ⟨⟨1⟩, ⟨"ben"⟩, .wardrobeSupervisor⟩⟩]

def reinvitedBlock : AuditHistories where
  streams := [⟨.membership, 1, recordsOf ((membershipCalls reinvited).map .membership)⟩]
  accepted stream hstream := by
    obtain rfl := List.mem_singleton.mp hstream
    refine ⟨_, decisions_membershipCalls reinvited, ?_⟩
    exact map_data_recordsOf _
  distinct := by decide
  recordIds := by decide +kernel

/-- **THE SECOND INVITATION IS NEVER AUDITED**, whatever the payload looks like: five events are recorded
and delivered in order, and there are not five rows. -/
theorem reinvited_member_lost : reinvitedBlock.recorded.length = 5 ∧
      ∀ (payload : AuditedEvent → String) (indexable : String → Bool),
        ¬ Complete payload indexable reinvitedBlock.recorded reinvitedBlock.recorded := by
  refine ⟨by decide +kernel, fun payload indexable hcomplete => ?_⟩
  have hids : (reinvitedBlock.recorded.map (·.id)).Nodup := reinvitedBlock.recordIds
  have hkeys := ((complete_iff_keys hids fun _ => Iff.rfl).mp hcomplete).2
  -- events 1 and 4 are equal
  have hdata := nodup_data_of_keys hkeys
  revert hdata
  decide +kernel

end Breakdown.Projections
