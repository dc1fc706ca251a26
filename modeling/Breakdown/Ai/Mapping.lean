/-
**THE MAPPING TABLE OF THE APPLY WORKERS**
(`infra/src/ai/mapping.rs`, `core/src/ai/ports.rs`, `derive_id` and `recover_version` of
`infra/src/ai/schedule_apply.rs`).

Every aggregate an apply creates is addressed by a key of the preview. Before the create command
the key is RESERVED with an id derived from it, afterwards it is CONFIRMED with the version the
stream reached. A retry finds the row: a confirmed one ends the work, a reserved one is driven
again onto the same id.

- `reserve_own`: a key nobody else took is reserved with the id asked for;
- `insert_reserved`: a confirmation replaces a reservation;
- `recoverVersion_create`: creating on the reserved stream always answers a version.
-/
import Breakdown.EventStore.SoleWriter

namespace Breakdown.Ai

open EventLog Function Entity

structure AiImportJobId where
  uuid : Uuid
  deriving DecidableEq

/-- `mapping_kind`. -/
inductive MappingKind
  | scene
  | character
  | piece
  | outfit
  | shootingDay
  | sceneShoot
  | sceneOutfitBeat
  | outfitContinuity
  | sceneOutfitBeatContinuity
  | episode
  deriving DecidableEq

/-- The primary key of `projection_ai_import_mapping`. -/
structure MappingKey where
  previewId : AiImportJobId
  draftRef : String
  aggregateKind : MappingKind
  ordinal : Int
  deriving DecidableEq

/-- `PRIMARY_ORDINAL`. -/
def primaryOrdinal : Int := 0

/-- What a row says about its key. -/
structure MappingRow where
  aggregateId : Uuid
  aggregateVersion : AggregateVersion

/-- `AiImportMapping::is_reserved`. -/
def MappingRow.isReserved (row : MappingRow) : Bool := row.aggregateVersion = 0

/-- `AiImportMapping`: a row with its key. -/
structure AiImportMapping extends MappingRow where
  key : MappingKey

/-- `AiImportMapping::reservation`. -/
def AiImportMapping.reservation (key : MappingKey) (aggregateId : Uuid) : AiImportMapping :=
  ⟨⟨aggregateId, 0⟩, key⟩

/-- The table, by key. -/
abbrev MappingTable := MappingKey → Option MappingRow

namespace MappingTable

/-- `find`. -/
def find (table : MappingTable) (key : MappingKey) : Option AiImportMapping :=
  (table key).map fun row => ⟨row, key⟩

/-- `reserve`: insert if absent, and the winning row. -/
def reserve (table : MappingTable) (mapping : AiImportMapping) : MappingTable × AiImportMapping :=
  match table mapping.key with
  | some winner => (table, ⟨winner, mapping.key⟩)
  | none => (Function.update table mapping.key (some mapping.toMappingRow), mapping)

/-- `insert`: a row only ever advances to a higher version. -/
def insert (table : MappingTable) (mapping : AiImportMapping) : MappingTable :=
  match table mapping.key with
  | some row =>
    if row.aggregateVersion < mapping.aggregateVersion then
      Function.update table mapping.key (some mapping.toMappingRow)
    else table
  | none => Function.update table mapping.key (some mapping.toMappingRow)

/-- The aggregate behind the key is known to exist. -/
def Confirmed (table : MappingTable) (key : MappingKey) : Prop :=
  ∃ row, table key = some row ∧ row.isReserved = false

instance (table : MappingTable) (key : MappingKey) : Decidable (table.Confirmed key) :=
  decidable_of_iff ((table key).any fun row => !row.isReserved) (by
    unfold Confirmed
    cases table key <;> simp)

variable {table : MappingTable} {key : MappingKey} {mapping : AiImportMapping}

/-- The worker's test for a confirmed row. -/
theorem find_any_iff : (table.find key).any (!·.isReserved) ↔ table.Confirmed key := by
  unfold find Confirmed
  cases table key <;> simp

theorem update_cases (h : update table mapping.key (some mapping.toMappingRow) key = some row) :
    table key = some row ∨ (key = mapping.key ∧ row = mapping.toMappingRow) := by
  by_cases heq : key = mapping.key
  · subst heq
    rw [update_self] at h
    cases h
    exact .inr ⟨rfl, rfl⟩
  · rw [update_of_ne heq] at h
    exact .inl h

/-- Where the rows after an `insert` come from. -/
theorem insert_cases (h : table.insert mapping key = some row) :
    table key = some row ∨ (key = mapping.key ∧ row = mapping.toMappingRow) := by
  unfold insert at h
  cases hrow : table mapping.key with
  | some =>
    simp only [hrow] at h
    split at h
    · exact update_cases h
    · exact .inl h
  | none =>
    simp only [hrow] at h
    exact update_cases h

/-- Where the rows after a `reserve` come from. -/
theorem reserve_cases (h : (table.reserve mapping).1 key = some row) :
    table key = some row ∨ (key = mapping.key ∧ row = mapping.toMappingRow) := by
  unfold reserve at h
  cases hrow : table mapping.key with
  | some =>
    simp only [hrow] at h
    exact .inl h
  | none =>
    simp only [hrow] at h
    exact update_cases h

/-- The winner of a reservation is what the table says afterwards. -/
theorem reserve_winner (table : MappingTable) (mapping : AiImportMapping) :
    ∃ row, (table.reserve mapping).1 mapping.key = some row ∧
      (table.reserve mapping).2 = ⟨row, mapping.key⟩ := by
  unfold reserve
  cases hrow : table mapping.key with
  | some winner => exact ⟨winner, hrow, rfl⟩
  | none => exact ⟨mapping.toMappingRow, update_self .., rfl⟩

/-- A key that is free or reserved with the same id ends up reserved with that id. -/
theorem reserve_own {id} (hold : ∀ row, table key = some row → row = ⟨id, 0⟩) :
    table.reserve (.reservation key id) =
      (update table key (some ⟨id, 0⟩), .reservation key id) := by
  have hkey : (AiImportMapping.reservation key id).key = key := rfl
  cases hrow : table key with
  | none =>
    simp only [reserve, hkey, hrow]
    rfl
  | some row =>
    obtain rfl := hold row hrow
    simp only [reserve, hkey, hrow]
    rw [← hrow, update_eq_self]
    rfl

/-- A confirmation replaces the reservation. -/
theorem insert_reserved (table key id) (hversion : version ≠ 0) :
    MappingTable.insert (update table key (some ⟨id, 0⟩)) ⟨⟨id, version⟩, key⟩ =
      update table key (some ⟨id, version⟩) := by
  have hlt : (⟨id, 0⟩ : MappingRow).aggregateVersion < version := Nat.pos_of_ne_zero hversion
  simp only [insert, update_self, if_pos hlt, update_idem]

/-- The key just confirmed is confirmed. -/
theorem confirmed_update (table key id) (hversion : version ≠ 0) :
    Confirmed (update table key (some ⟨id, version⟩)) key := by
  refine ⟨⟨id, version⟩, ?_, ?_⟩
  · rw [update_self]
  · simpa [MappingRow.isReserved] using hversion

end MappingTable

/-- `recover_version`: the conflict of a create on a reserved stream is our own earlier append. -/
def recoverVersion : Except DomainError AggregateVersion → Except DomainError AggregateVersion
  | .ok version => .ok version
  | .error (.versionConflict expected current) =>
    if current ≠ 0 then .ok current else .error (.versionConflict expected current)
  | .error e => .error e

section Create

variable {σ ε κ χ : Type} [Entity σ ε κ χ] [IntoDomainError χ]

/-- **CREATING ON A RESERVED STREAM ALWAYS ANSWERS A VERSION**: the first time by appending, every
later time by reporting what is there. -/
theorem recoverVersion_create (log) (hidem : isStateIdempotent (init : σ) cmd = false)
    (hhandle : handle (init : σ) cmd = .ok [e]) :
    (SoleWriter.create σ cmd log).1 = (if log = [] then [e] else log) ∧
      ∃ version, version ≠ 0 ∧ recoverVersion (SoleWriter.create σ cmd log).2 = .ok version := by
  by_cases hlog : log = []
  · subst hlog
    rw [SoleWriter.create_empty hidem hhandle]
    exact ⟨rfl, 1, by decide, rfl⟩
  · have hlen : log.length ≠ 0 := by simpa using hlog
    rw [SoleWriter.create_taken hlog, if_neg hlog]
    exact ⟨rfl, log.length, hlen, if_pos hlen⟩

end Create

end Breakdown.Ai
