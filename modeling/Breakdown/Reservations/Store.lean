/-
**RESERVATION KEYS, CLAIM LIFECYCLE AND THE FOUR KEYED AGGREGATES**
(`infra/src/reservations/{event,store}.rs`, the create adapters of `command_adapters.rs`).

A number (or a scene/day pair) is unique because creating its aggregate first claims a KEY: one
stream per key, appended to under an expected version. A claim is Reserved, then Released or
Consumed; only a Released key can be reserved again.

The four aggregates that are created under a claim form one family indexed by `ReservationKind`;
the system model is generic in it. What the family has to provide is proved here:

- `createdKey_fromKey`: the key a create event realizes names its own kind;
- `handle_create`: on an untouched stream every create is accepted, with one event that
  realizes exactly the claimed key;
- `createdKey_of_handle`: no other command emits a create event.
-/
import Breakdown.Aggregates.Versions

namespace Breakdown.Reservations

open EventLog Entity

/-! ## §1. Keys and kinds -/

/-- `ReservationKind`: the four invariants that are guarded by a claim. -/
inductive ReservationKind
  | episodeNumber
  | seasonNumber
  | blockNumber
  | sceneShootPair
  deriving DecidableEq

/-- `ReservationKind::from_key`. -/
def ReservationKind.fromKey (key : String) : Option ReservationKind :=
  if key.startsWith "epnum-" then some .episodeNumber
  else if key.startsWith "seasnum-" then some .seasonNumber
  else if key.startsWith "blocknum-" then some .blockNumber
  else if key.startsWith "sspair-" then some .sceneShootPair
  else none

/-- The shape shared by the three number keys. -/
def numberKey (head : String) (projectId : Uuid) (number : Int) : String :=
  head ++ (projectId.simple ++ "-" ++ toString number)

/-- `episode_number_key`. -/
def episodeNumberKey : Uuid → Int → String := numberKey "epnum-"

/-- `season_number_key`. -/
def seasonNumberKey : Uuid → Int → String := numberKey "seasnum-"

/-- `block_number_key`. -/
def blockNumberKey : Uuid → Int → String := numberKey "blocknum-"

/-- The first 12 bytes of the SHA-256 of two ids, one after the other. -/
abbrev PairHash := Uuid → Uuid → BitVec 96

/-- `scene_shoot_pair_key`. -/
def sceneShootPairKey (pairHash : PairHash) (sceneId shootingDayId : Uuid) : String :=
  "sspair-" ++ String.ofList (hexDigits 24 (pairHash sceneId shootingDayId).toNat)

theorem startsWith_self_append (head rest : String) : (head ++ rest).startsWith head := by
  rw [String.startsWith_string_iff, String.toList_append]
  exact List.prefix_append _ _

theorem fromKey_episodeNumberKey (projectId number) :
    ReservationKind.fromKey (episodeNumberKey projectId number) = some .episodeNumber := by
  unfold ReservationKind.fromKey episodeNumberKey numberKey
  rw [startsWith_self_append, if_pos rfl]

theorem fromKey_seasonNumberKey (projectId number) :
    ReservationKind.fromKey (seasonNumberKey projectId number) = some .seasonNumber := by
  unfold ReservationKind.fromKey seasonNumberKey numberKey
  rw [if_neg (by simp), startsWith_self_append, if_pos rfl]

theorem fromKey_blockNumberKey (projectId number) :
    ReservationKind.fromKey (blockNumberKey projectId number) = some .blockNumber := by
  unfold ReservationKind.fromKey blockNumberKey numberKey
  rw [if_neg (by simp), if_neg (by simp), startsWith_self_append, if_pos rfl]

theorem fromKey_sceneShootPairKey (pairHash sceneId shootingDayId) :
    ReservationKind.fromKey (sceneShootPairKey pairHash sceneId shootingDayId)
      = some .sceneShootPair := by
  unfold ReservationKind.fromKey sceneShootPairKey
  rw [if_neg (by simp), if_neg (by simp), if_neg (by simp), startsWith_self_append, if_pos rfl]

/-! ## §2. The claim lifecycle -/

/-- `ReservationEvent`. -/
inductive ReservationEvent
  /-- A command claimed the key. -/
  | reserved (aggregateId : Uuid)
  /-- The holder gave the key back. -/
  | released (aggregateId : Uuid)
  /-- The claimed aggregate exists: the claim is true for good. -/
  | consumed (aggregateId : Uuid)
  deriving DecidableEq

/-- Who holds the key after the event. -/
def ReservationEvent.holder : ReservationEvent → Option Uuid
  | .reserved aggregateId | .consumed aggregateId => some aggregateId
  | .released _ => none

/-- A lifecycle event as the store keeps it, with the time of its append. -/
structure StoredEvent where
  event : ReservationEvent
  timestamp : Nat

/-- `ReservationClaim`. -/
structure ReservationClaim where
  key : String
  aggregateId : Uuid
  claimVersion : Nat

/-- `ClaimObstacle`: why an append to a reservation stream conflicted. -/
inductive ClaimObstacle
  | ownedBySelf (claim : ReservationClaim)
  | claimable (at_ : Nat)
  | claimableAtFreshStream
  | permanent

/-- `claim_obstacle`: decided on the LAST event of the stream. A Reserved or Consumed claim of the
caller's own aggregate is handed out again, with the version of that event. -/
def claimObstacle (key : String) (aggregateId : Uuid) (log : List StoredEvent) : ClaimObstacle :=
  match lastEvent log with
  | none => .claimableAtFreshStream
  | some (version, last) =>
    match last.event with
    | .reserved holder =>
      if holder = aggregateId then .ownedBySelf ⟨key, aggregateId, version⟩ else .permanent
    | .released _ => .claimable version
    | .consumed holder =>
      if holder = aggregateId then .ownedBySelf ⟨key, aggregateId, version⟩ else .permanent

/-- `RESERVE_RETRY_BUDGET`. -/
def reserveRetryBudget : Nat := 3

/-- `claim_is_too_young`: also when the stamp lies in the future. -/
def claimIsTooYoung (timestamp now claimTtl : Nat) : Bool :=
  now < timestamp || now - timestamp < claimTtl

theorem claimIsTooYoung_eq_false :
    claimIsTooYoung timestamp now claimTtl = false ↔ timestamp + claimTtl ≤ now := by
  unfold claimIsTooYoung
  simp only [Bool.or_eq_false_iff, decide_eq_false_iff_not]
  omega

/-! ## §3. The aggregates created under a claim -/

namespace ReservationKind

/-- The aggregate state behind a kind (`aggregate_category`). -/
def State : ReservationKind → Type
  | .episodeNumber => EpisodeAggregate
  | .seasonNumber => SeasonAggregate
  | .blockNumber => BlockAggregate
  | .sceneShootPair => SceneShootAggregate

def Event : ReservationKind → Type
  | .episodeNumber => EpisodeEvent
  | .seasonNumber => SeasonEvent
  | .blockNumber => BlockEvent
  | .sceneShootPair => SceneShootEvent

def Command : ReservationKind → Type
  | .episodeNumber => EpisodeCommand
  | .seasonNumber => SeasonCommand
  | .blockNumber => BlockCommand
  | .sceneShootPair => SceneShootCommand

def Error : ReservationKind → Type
  | .episodeNumber => EpisodeError
  | .seasonNumber => SeasonError
  | .blockNumber => BlockError
  | .sceneShootPair => SceneShootError

instance instEntity : (kind : ReservationKind) →
    Entity kind.State kind.Event kind.Command kind.Error
  | .episodeNumber => inferInstanceAs (Entity EpisodeAggregate _ _ _)
  | .seasonNumber => inferInstanceAs (Entity SeasonAggregate _ _ _)
  | .blockNumber => inferInstanceAs (Entity BlockAggregate _ _ _)
  | .sceneShootPair => inferInstanceAs (Entity SceneShootAggregate _ _ _)

/-- The key a create event realizes; `none` for every other event (`verify_realized_key`). -/
def createdKey (pairHash : PairHash) : (kind : ReservationKind) → kind.Event → Option String
  | .episodeNumber, .episodeCreated _ _ projectId number _ _ =>
    some (episodeNumberKey projectId.uuid number)
  | .seasonNumber, .seasonCreated _ projectId number _ _ =>
    some (seasonNumberKey projectId.uuid number)
  | .blockNumber, .blockCreated _ _ projectId number _ _ _ =>
    some (blockNumberKey projectId.uuid number)
  | .sceneShootPair, .sceneShootPlanned _ sceneId shootingDayId _ _ _ =>
    some (sceneShootPairKey pairHash sceneId shootingDayId.uuid)
  | _, _ => none

/-- The create command of the aggregate. -/
def isCreate : (kind : ReservationKind) → kind.Command → Bool
  | .episodeNumber, .create _ => true
  | .seasonNumber, .create _ => true
  | .blockNumber, .create _ => true
  | .sceneShootPair, .plan _ => true
  | _, _ => false

end ReservationKind

/-- One aggregate stream: `{aggregate_category}-{id}`. -/
structure AggregateRef where
  kind : ReservationKind
  id : Uuid
  deriving DecidableEq

/-- A create request as it reaches its adapter. -/
inductive CreateRequest
  | episode (cmd : CreateEpisode)
  | season (cmd : CreateSeason)
  | block (cmd : CreateBlock)
  | sceneShoot (cmd : PlanSceneShoot)

namespace CreateRequest

def kind : CreateRequest → ReservationKind
  | .episode _ => .episodeNumber
  | .season _ => .seasonNumber
  | .block _ => .blockNumber
  | .sceneShoot _ => .sceneShootPair

/-- The id the caller chose for the new aggregate. -/
def id : CreateRequest → Uuid
  | .episode cmd => cmd.id
  | .season cmd => cmd.id
  | .block cmd => cmd.id
  | .sceneShoot cmd => cmd.id.uuid

def aggregate (req : CreateRequest) : AggregateRef := ⟨req.kind, req.id⟩

/-- The key the adapter reserves. -/
def key (pairHash : PairHash) : CreateRequest → String
  | .episode cmd => episodeNumberKey cmd.projectId.uuid cmd.number
  | .season cmd => seasonNumberKey cmd.projectId.uuid cmd.number
  | .block cmd => blockNumberKey cmd.projectId.uuid cmd.number
  | .sceneShoot cmd => sceneShootPairKey pairHash cmd.sceneId cmd.shootingDayId.uuid

/-- The command the adapter executes once the key is reserved. -/
def command : (req : CreateRequest) → req.aggregate.kind.Command
  | .episode cmd => EpisodeCommand.create cmd
  | .season cmd => SeasonCommand.create cmd
  | .block cmd => BlockCommand.create cmd
  | .sceneShoot cmd => SceneShootCommand.plan cmd

/-- The error the adapter answers with when the key is taken. -/
def conflict : CreateRequest → DomainError
  | .episode _ => .conflict .episodeNumberAlreadyExists "episode number already taken"
  | .season _ => .conflict .seasonNumberAlreadyExists "season number already taken"
  | .block _ => .conflict .blockNumberAlreadyExists "block number already taken"
  | .sceneShoot _ =>
    .conflict .sceneShootPairAlreadyExists "scene is already scheduled on this shooting day"

end CreateRequest

/-! ## §4. What the family provides -/

section Family

variable {pairHash : PairHash}

/-- The key a create event realizes names the kind of its aggregate. -/
theorem createdKey_fromKey {key} (h : kind.createdKey pairHash e = some key) :
    ReservationKind.fromKey key = some kind := by
  cases kind with
  | episodeNumber =>
    cases e <;> cases h
    exact fromKey_episodeNumberKey ..
  | seasonNumber =>
    cases e <;> cases h
    exact fromKey_seasonNumberKey ..
  | blockNumber =>
    cases e <;> cases h
    exact fromKey_blockNumberKey ..
  | sceneShootPair =>
    cases e <;> cases h
    exact fromKey_sceneShootPairKey ..

theorem key_fromKey (req : CreateRequest) :
    ReservationKind.fromKey (req.key pairHash) = some req.kind := by
  cases req with
  | episode => exact fromKey_episodeNumberKey ..
  | season => exact fromKey_seasonNumberKey ..
  | block => exact fromKey_blockNumberKey ..
  | sceneShoot => exact fromKey_sceneShootPairKey ..

/-- On an untouched stream every create is accepted: one event, which realizes the key that was
reserved for it. -/
theorem handle_create (pairHash) (req : CreateRequest) :
    ∃ e, handle (σ := req.aggregate.kind.State) init req.command = .ok [e] ∧
      req.aggregate.kind.createdKey pairHash e = some (req.key pairHash) := by
  cases req with
  | episode | season | block | sceneShoot => exact ⟨_, rfl, rfl⟩

/-- No other command emits a create event. -/
theorem createdKey_of_handle {kind : ReservationKind} {st : kind.State} {cmd events e}
    (hcmd : kind.isCreate cmd = false) (h : handle st cmd = .ok events) (he : e ∈ events) :
    kind.createdKey pairHash e = none := by
  cases kind with
  | episodeNumber =>
    have hkept := isCreation_of_handle (σ := EpisodeAggregate)
      (by cases cmd <;> cases hcmd <;> nofun) h he
    cases e with
    | episodeCreated => cases hkept
    | _ => rfl
  | seasonNumber =>
    have hkept := isCreation_of_handle (σ := SeasonAggregate)
      (by cases cmd <;> cases hcmd <;> nofun) h he
    cases e with
    | seasonCreated => cases hkept
    | _ => rfl
  | blockNumber =>
    have hkept := isCreation_of_handle (σ := BlockAggregate)
      (by cases cmd <;> cases hcmd; nofun) h he
    cases e with
    | blockCreated => cases hkept
    | _ => rfl
  | sceneShootPair =>
    have hkept := isCreation_of_handle (σ := SceneShootAggregate)
      (by cases cmd <;> cases hcmd <;> nofun) h he
    cases e with
    | sceneShootPlanned => cases hkept
    | _ => rfl

/-- The creates have no idempotency hook. -/
theorem isStateIdempotent_eq_false {kind : ReservationKind} (st : kind.State) (cmd) :
    isStateIdempotent st cmd = false := by
  cases kind <;> rfl

/-- A cache at version `empty` is untouched, so it never rejects a create. -/
theorem execute_create_ne_handle (req : CreateRequest) {st : EntityActorState req.aggregate.kind.State}
    {log} (hf : st.Follows log) (e : req.aggregate.kind.Error) :
    st.execute .empty req.command ≠ .error (.handle e) := by
  intro h
  unfold EntityActorState.execute at h
  split at h
  · cases h
  · next hv =>
    simp only [Bool.not_eq_true, Bool.not_eq_false', isSatisfiedBy_empty] at hv
    have hinit : st.entity = init := Snapshot.Follows.eq_init hf hv
    obtain ⟨ev, hev, -⟩ := handle_create (fun _ _ => 0) req
    rw [isStateIdempotent_eq_false, if_neg (by simp), hinit, hev] at h
    cases h

/-- What a create expected on an empty stream is decided with. -/
theorem decided_create (pairHash) (req : CreateRequest) {log events}
    (h : Decided req.aggregate.kind.State log .empty req.command events) :
    log = [] ∧ ∃ e, events = [e] ∧
      req.aggregate.kind.createdKey pairHash e = some (req.key pairHash) := by
  have hlog : log = [] := by simpa using h.satisfied
  subst hlog
  obtain ⟨e, he, hkey⟩ := handle_create pairHash req
  have hhandled := h.handled
  rw [replay_nil, he] at hhandled
  cases hhandled
  exact ⟨rfl, e, rfl, hkey⟩

end Family

end Breakdown.Reservations
