/-
**THE MEMBERSHIP PROJECTOR REFINES THE BLOCK**
(`infra/src/projectors/membership.rs`, table `projection_membership`).

One row per block and user. An invitation and a bootstrap write the whole row; accepting and granting
are plain UPDATEs, which do nothing where there is no row and never ask whether the user is pending or
active. That the rows are still the entries of the block is due to the commands: nobody accepts without
a pending entry, and roles are granted to active members only.

A user id is a text of the request, of any length. Which of them the primary key's index takes is a
parameter, as for the audit trail.

- `effect`, `handle`: the projector;
- `effect_shows`: one event that the block allows;
- `foldl_again`: a suffix of the events may take effect once more, whatever they are;
- `membership_projected`: whole streams;
- `nul_user_not_projected`: a user id with the character U+0000 is never projected.
-/
import Breakdown.Lib.Tables
import Breakdown.Membership.Authority
import Breakdown.Projections.Projector

namespace Breakdown

/-! ## §1. Tokens -/

/-- `Role::as_str`. -/
def Role.asStr : Role → String
  | .costumeDesigner => "costume_designer"
  | .wardrobeSupervisor => "wardrobe_supervisor"
  | .costumeAssistant => "costume_assistant"
  | .opsAdmin => "ops_admin"

/-- `Role::from_token`. -/
def Role.fromToken (token : String) : Option Role :=
  if token = "costume_designer" then some .costumeDesigner
  else if token = "wardrobe_supervisor" then some .wardrobeSupervisor
  else if token = "costume_assistant" then some .costumeAssistant
  else if token = "ops_admin" then some .opsAdmin
  else none

inductive MembershipStateKind
  | pending
  | active
  deriving DecidableEq

/-- `MembershipStateKind::as_str`. -/
def MembershipStateKind.asStr : MembershipStateKind → String
  | .pending => "pending"
  | .active => "active"

/-- `MembershipStateKind::from_token`. -/
def MembershipStateKind.fromToken (token : String) : Option MembershipStateKind :=
  if token = "pending" then some .pending
  else if token = "active" then some .active
  else none

@[simp] theorem Role.fromToken_asStr (role) : Role.fromToken role.asStr = some role := by
  cases role <;> decide

@[simp] theorem MembershipStateKind.fromToken_asStr (kind) : fromToken kind.asStr = some kind := by
  cases kind <;> decide

end Breakdown

namespace Breakdown.Projections

open Fallible Tables Writes List MembershipStateKind MembershipEvent

/-! ## §2. The projector -/

/-- `projection_membership`, outside its key. The projector's own version is left out. -/
structure MembershipRow where
  role : String
  state : String
  joinedAt : Timestamp
  updatedAt : Timestamp

abbrev MembershipTable := Table (BlockId × UserId) MembershipRow

/-- The entry a row stands for (`map_membership_row`); unknown tokens are an error. -/
def MembershipRow.read (row : MembershipRow) : Option MembershipState :=
  match Role.fromToken row.role, fromToken row.state with
  | some role, some .pending => some (.pending role)
  | some role, some .active => some (.active role)
  | _, _ => none

namespace MembershipProjector

/-- The statement of an event. -/
def effect (db : MembershipTable) (updatedAt : Timestamp) : MembershipEvent → MembershipTable
  | .memberInvited blockId userId role =>
    db.put (blockId, userId) ⟨role.asStr, pending.asStr, updatedAt, updatedAt⟩
  | .invitationAccepted blockId userId role =>
    db.modify (blockId, userId) fun _ =>
      ⟨role.asStr, active.asStr, updatedAt, updatedAt⟩
  | .roleGranted blockId userId role =>
    db.modify (blockId, userId) fun row => { row with role := role.asStr, updatedAt }
  | .memberRemoved blockId userId => db.delete (blockId, userId)
  | .ownerBootstrapped blockId userId role =>
    db.put (blockId, userId) ⟨role.asStr, active.asStr, updatedAt, updatedAt⟩

/-- An event that takes effect. -/
def step (db : MembershipTable) (event : StoredEvent MembershipEvent) : MembershipTable :=
  effect db (timestamptz event.timestamp) event.data

/-- The events whose statement inserts a row. An UPDATE leaves the key as it is. -/
def inserts : MembershipEvent → Bool
  | .memberInvited .. | .ownerBootstrapped .. => true
  | .invitationAccepted .. | .roleGranted .. | .memberRemoved .. => false

variable (indexable : UserId → Bool)

/-- `MembershipProjector::handle`. The user id is bound in every statement, and part of the primary
key of a row that is inserted. -/
def handle (db : MembershipTable) (event : StoredEvent MembershipEvent) :
    Except SqlError MembershipTable := do
  ensure (storable event.data.user.sub) .invalidText
  ensure (!inserts event.data || indexable event.data.user) .programLimitExceeded
  return step db event

/-- The database takes the user id of the event. -/
def Takes (event : MembershipEvent) : Bool :=
  storable event.user.sub && (!inserts event || indexable event.user)

/-- The rows of the block are the entries of the aggregate. -/
def Shows (db : MembershipTable) (blockId : BlockId) (self : BlockMembership) : Prop :=
  ∀ userId, (db (blockId, userId)).map MembershipRow.read = (self.entry userId).map some

variable {indexable} {db : MembershipTable}

theorem handle_iff {after} :
    handle indexable db event = .ok after ↔ Takes indexable event.data ∧ after = step db event := by
  unfold handle Takes
  simp only [check_eq_ok, ensure_eq_ok, pure, Except.pure, Except.ok.injEq, Bool.and_eq_true,
    and_assoc, @eq_comm _ after]

/-- Delivered in order, every event takes effect. -/
theorem project_eq {after} : project (handle indexable) db events = .ok after ↔
      (∀ e ∈ events, Takes indexable e.data) ∧ after = events.foldl step db := by
  refine project_steps
    (A := fun e : StoredEvent MembershipEvent => Takes indexable e.data = true)
    (Q := fun _ _ => True) ?_ ?_ trivial
  · intro db e rest after _
    exact handle_iff
  · intro db e rest _
    trivial

/-! ## §3. The rows are the entries -/

/-- What an event makes of the row of its user. -/
def change (updatedAt : Timestamp) : MembershipEvent → Option MembershipRow → Option MembershipRow
  | .memberInvited _ _ role, _ => some ⟨role.asStr, pending.asStr, updatedAt, updatedAt⟩
  | .invitationAccepted _ _ role, row =>
    row.map fun _ => ⟨role.asStr, active.asStr, updatedAt, updatedAt⟩
  | .roleGranted _ _ role, row => row.map fun row => { row with role := role.asStr, updatedAt }
  | .memberRemoved _ _, _ => none
  | .ownerBootstrapped _ _ role, _ => some ⟨role.asStr, active.asStr, updatedAt, updatedAt⟩

/-- Every statement is about the row of one user. -/
theorem effect_eq (db updatedAt e) :
    effect db updatedAt e = db.alter (e.block, e.user) (change updatedAt e) := by
  cases e <;> rfl

attribute [local simp] MembershipRow.read change write

/-- **ONE EVENT THAT THE BLOCK ALLOWS** keeps the rows in step with the entries. -/
theorem effect_shows (updatedAt) (hshows : Shows db blockId self)
    (hblock : e.block = blockId) (hallows : self.Allows e) :
    Shows (effect db updatedAt e) blockId (self.apply e) := by
  intro userId
  rw [effect_eq]
  by_cases huser : e.user = userId
  · subst huser
    subst hblock
    rw [Table.alter_self, BlockMembership.entry_apply_user]
    have hrow := hshows e.user
    cases hallows with
    | @invited userId blockId role hnone => simp
    | @accepted userId role blockId hpending =>
      -- there is a row to update, because the user is pending
      rw [user, block, hpending] at hrow
      obtain ⟨row, hsome, -⟩ := Option.map_eq_some_iff.mp hrow
      simp [block, user, hsome, hpending]
    | @granted userId old blockId role hactive =>
      -- the row is active, and stays so
      rw [user, block, hactive] at hrow
      obtain ⟨row, hsome, hread⟩ := Option.map_eq_some_iff.mp hrow
      have hstate : fromToken row.state = some .active := by
        unfold MembershipRow.read at hread
        split at hread
        · cases hread
        · next h => exact h
        · cases hread
      simp [block, user, hsome, hstate, hactive, isActive]
    | @removed userId old blockId hactive => simp
    | bootstrapped => simp
  · have hkey : (blockId, userId) ≠ (e.block, e.user) := fun h => huser (congrArg Prod.snd h).symm
    rw [Table.alter_of_ne _ _ hkey, BlockMembership.entry_apply_of_ne self huser]
    exact hshows userId

/-- Event by event. -/
theorem foldl_shows {blockId} {events : List (StoredEvent MembershipEvent)}
    (hshows : Shows db blockId self) (hblock : ∀ e ∈ events, e.data.block = blockId)
    (hallowed : Allowed BlockMembership.Allows self (events.map (·.data))) :
    Shows (events.foldl step db) blockId ((events.map (·.data)).foldl Entity.apply self) := by
  induction events generalizing db self with
  | nil => exact hshows
  | cons e events ih =>
    refine ih ?_ (fun e' he' => hblock e' (mem_cons_of_mem e he')) hallowed.2
    exact effect_shows _ hshows (hblock e mem_cons_self) hallowed.1

end MembershipProjector

/-- Every event of a history is one that the block allowed. -/
theorem allowed_of_decisions (h : Decisions BlockMembership log) :
    Allowed BlockMembership.Allows (Entity.init : BlockMembership) log := by
  induction h with
  | nil => trivial
  | step before hdecided ih =>
    obtain ⟨e, rfl, hallows⟩ := BlockMembership.handle_allowed hdecided.handled
    exact allowed_append.mpr ⟨ih, allowed_singleton hallows⟩

namespace MembershipProjector

/-! ## §4. Replaying -/

/-- The role of a row and the time of its last change. -/
theorem role_rewritten : Rewritten step id fun row => (row.role, row.updatedAt) := by
  rintro ⟨e, t⟩
  cases e with
  | memberInvited blockId userId | ownerBootstrapped blockId userId =>
    exact ⟨_, .put (blockId, userId) _, fun _ => rfl⟩
  | invitationAccepted blockId userId role | roleGranted blockId userId role =>
    exact ⟨_, .modify (blockId, userId) (role.asStr, timestamptz t) fun _ => by rfl, fun _ => rfl⟩
  | memberRemoved blockId userId => exact ⟨_, .delete (blockId, userId), fun _ => rfl⟩

/-- The state of a row and the time it was entered. -/
theorem state_rewritten : Rewritten step id fun row => (row.state, row.joinedAt) := by
  rintro ⟨e, t⟩
  cases e with
  | memberInvited blockId userId | ownerBootstrapped blockId userId =>
    exact ⟨_, .put (blockId, userId) _, fun _ => rfl⟩
  | invitationAccepted blockId userId =>
    exact ⟨_, .modify (blockId, userId) _ fun _ => by rfl, fun _ => rfl⟩
  | roleGranted blockId userId =>
    exact ⟨_, .modify_other (blockId, userId) fun _ => by rfl, fun _ => rfl⟩
  | memberRemoved blockId userId => exact ⟨_, .delete (blockId, userId), fun _ => rfl⟩

/-- The two pairs of columns are the whole row. -/
theorem row_ext {row row' : Option MembershipRow}
    (hrole : row.map (fun row => (row.role, row.updatedAt)) =
      row'.map fun row => (row.role, row.updatedAt))
    (hstate : row.map (fun row => (row.state, row.joinedAt)) =
      row'.map fun row => (row.state, row.joinedAt)) : row = row' := by
  cases row with
  | none => exact (Option.map_eq_none_iff.mp hrole.symm).symm
  | some row =>
    cases row' with
    | none => cases hrole
    | some row' =>
      obtain ⟨role, state, joinedAt, updatedAt⟩ := row
      obtain ⟨role', state', joinedAt', updatedAt'⟩ := row'
      simp only [Option.map_some, Option.some.injEq, Prod.mk.injEq] at hrole hstate
      obtain ⟨rfl, rfl⟩ := hrole
      obtain ⟨rfl, rfl⟩ := hstate
      rfl

/-- **A SUFFIX OF THE EVENTS MAY TAKE EFFECT ONCE MORE**, whatever the events are. -/
theorem foldl_again (hagain : again <:+ events) (db) :
    again.foldl step (events.foldl step db) = events.foldl step db := by
  funext key
  exact row_ext (role_rewritten.replay_view hagain db key)
    (state_rewritten.replay_view hagain db key)

end MembershipProjector

/-! ## §5. Whole streams -/

/-- **WHAT THE PROJECTION OF A BLOCK IS WORTH**, from tables without rows of the block. -/
structure MembershipProjected (indexable : UserId → Bool) (blockId : BlockId) (db : MembershipTable)
    (events : List (StoredEvent MembershipEvent)) : Prop where
  /-- The deliveries go through exactly if no user id has a U+0000 and the index takes those that are
      inserted. -/
  accepted_iff : (∃ after, project (MembershipProjector.handle indexable) db events = .ok after) ↔
    ∀ e ∈ events, MembershipProjector.Takes indexable e.data = true
  /-- After each event the rows of the block are the entries of the aggregate. -/
  shown : ∀ {delivered : List (StoredEvent MembershipEvent)} {after : MembershipTable},
    delivered <+: events → project (MembershipProjector.handle indexable) db delivered = .ok after →
      MembershipProjector.Shows after blockId
        (Entity.replay BlockMembership (delivered.map (·.data)))
  /-- Delivering a suffix again leaves every row as it is. -/
  again : ∀ {after : MembershipTable} {again : List (StoredEvent MembershipEvent)},
    project (MembershipProjector.handle indexable) db events = .ok after → again <:+ events →
      project (MembershipProjector.handle indexable) after again = .ok after

/-- **THE MEMBERSHIP PROJECTOR REFINES THE BLOCK**, in every history of accepted commands on it. -/
theorem membership_projected (indexable : UserId → Bool) {blockId : BlockId} {db : MembershipTable}
    {events : List (StoredEvent MembershipEvent)}
    (hdecisions : Decisions BlockMembership (events.map (·.data)))
    (hblock : ∀ e ∈ events, e.data.block = blockId)
    (hempty : ∀ userId, db (blockId, userId) = none) :
    MembershipProjected indexable blockId db events where
  accepted_iff := by
    simp only [MembershipProjector.project_eq, exists_and_left, exists_eq, and_true]
  shown {delivered after} hdelivered hproject := by
    obtain ⟨-, rfl⟩ := MembershipProjector.project_eq.mp hproject
    obtain ⟨rest, rfl⟩ := hdelivered
    have hallowed := allowed_of_decisions hdecisions
    rw [map_append, allowed_append] at hallowed
    refine MembershipProjector.foldl_shows ?_ (fun e he => hblock e (mem_append_left rest he))
      hallowed.1
    -- before the first event there are neither rows nor entries
    intro userId
    rw [hempty userId]
    rfl
  again {after again} hproject hagain := by
    obtain ⟨haccepted, rfl⟩ := MembershipProjector.project_eq.mp hproject
    refine MembershipProjector.project_eq.mpr ⟨fun e he => haccepted e (hagain.subset he), ?_⟩
    exact (MembershipProjector.foldl_again hagain db).symm

/-- Ben leaves and comes back. -/
theorem membership_projected_rejoined :
    MembershipProjected (·.sub.length ≤ 600) ⟨1⟩ (fun _ => none)
      (recordedAt 0 (membershipCalls rejoined)) := by
  refine membership_projected _ ?_ ?_ (fun _ => rfl)
  · rw [map_data_recordedAt]
    exact decisions_membershipCalls rejoined
  · decide +kernel

/-- Anna founds the block and invites a user whose id holds a U+0000. -/
def nulInvited : List MembershipCall := [⟨none, .bootstrapOwner ⟨⟨1⟩, ⟨"anna"⟩, .costumeAssistant⟩⟩,
    ⟨some ⟨"anna"⟩, .invite ⟨⟨1⟩, ⟨"b\x00"⟩, .wardrobeSupervisor⟩⟩]

/-- **A USER ID WITH A U+0000 IS NEVER PROJECTED**: the invitation is recorded, and its delivery
refused, although the index would take any id. -/
theorem nul_user_not_projected : Decisions BlockMembership (membershipCalls nulInvited) ∧
      (Entity.replay BlockMembership (membershipCalls nulInvited)).entry ⟨"b\x00"⟩ =
        some (.pending .wardrobeSupervisor) ∧
      project (MembershipProjector.handle fun _ => true) (fun _ => none)
        (recordedAt 0 (membershipCalls nulInvited)) = .error .invalidText := by
  refine ⟨decisions_membershipCalls nulInvited, by decide +kernel, ?_⟩
  rfl

end Breakdown.Projections
