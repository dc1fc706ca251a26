/-
**WHO IS IN A BLOCK** (`core/src/membership/`).

One stream per block holds the entries of its users: a PENDING invitation with the proposed role, or
an ACTIVE member with a role. Membership carries no version of its own; every command is sent
without an expectation and the handlers alone decide what is allowed.

`project_id` of the commands is audit metadata and left out.

- `handle_allowed`: what each accepted command emits, and what it found in the block;
- `membership_replays`: applying events and then a suffix of them again changes nothing, for any
  events whatsoever.
-/
import Mathlib.Data.Finmap
import Breakdown.EventStore.Histories
import Breakdown.Lib.Writes

namespace Breakdown

open Fallible Writes Finmap

/-! ## §1. The aggregate -/

/-- `Role`. -/
inductive Role
  | costumeDesigner
  | wardrobeSupervisor
  | costumeAssistant
  | opsAdmin
  deriving DecidableEq

/-- Where a user stands in a block: invited, or a member. -/
inductive MembershipState
  | pending (role : Role)
  | active (role : Role)
  deriving DecidableEq

/-- The aggregate: the entries of the users of one block. -/
structure BlockMembership where
  /-- `BlockId::default()` draws a fresh v7 id. -/
  blockId : BlockId := ⟨.placeholderV7⟩
  members : Finmap fun _ : UserId => MembershipState := ∅

/-- What happens in a block; the events carry no version. -/
inductive MembershipEvent
  | memberInvited (blockId : BlockId) (userId : UserId) (role : Role)
  | invitationAccepted (blockId : BlockId) (userId : UserId) (role : Role)
  | roleGranted (blockId : BlockId) (userId : UserId) (role : Role)
  | memberRemoved (blockId : BlockId) (userId : UserId)
  | ownerBootstrapped (blockId : BlockId) (userId : UserId) (role : Role)
  deriving DecidableEq

/-- Why a handler refuses a command. -/
inductive MembershipError
  | validationError (message : String)
  | alreadyInvited (userId : UserId)
  | noPendingInvitation (userId : UserId)
  | notActiveMember (userId : UserId)
  | missingActor
  | bootstrapNotAllowed (id : BlockId)
  | notFound (id : BlockId)

/-- Propose a role to a user. -/
structure InviteMember where
  blockId : BlockId
  userId : UserId
  role : Role

/-- The invited user joins. -/
structure AcceptInvitation where
  blockId : BlockId
  userId : UserId

/-- Give an active member another role. -/
structure GrantRole where
  blockId : BlockId
  userId : UserId
  role : Role

/-- Take an active member out of the block. -/
structure RemoveMember where
  blockId : BlockId
  userId : UserId

/-- Who leaves is the actor of the command. -/
structure LeaveBlock where
  blockId : BlockId

/-- Make a user the first member of an empty block. -/
structure BootstrapOwner where
  blockId : BlockId
  userId : UserId
  role : Role

/-- The six commands. -/
inductive MembershipCommand
  | invite (cmd : InviteMember)
  | acceptInvitation (cmd : AcceptInvitation)
  | grantRole (cmd : GrantRole)
  | removeMember (cmd : RemoveMember)
  | leaveBlock (cmd : LeaveBlock)
  | bootstrapOwner (cmd : BootstrapOwner)

/-- A command with the actor of its metadata, if it has any. -/
structure MembershipCall where
  actor : Option UserId
  command : MembershipCommand

namespace BlockMembership

variable (self : BlockMembership)

/-- What a handler returns. -/
abbrev Handled := Except MembershipError (List MembershipEvent)

/-- The entry of a user. -/
def entry (userId : UserId) : Option MembershipState :=
  self.members.lookup userId

/-- `Apply for BlockMembership`: a grant only touches an active member. -/
def apply : MembershipEvent → BlockMembership
  | .memberInvited blockId userId role =>
    { blockId, members := self.members.insert userId (.pending role) }
  | .invitationAccepted blockId userId role =>
    { blockId, members := self.members.insert userId (.active role) }
  | .roleGranted blockId userId role =>
    { blockId
      -- `if let Some(MembershipState::Active …)`: a grant to anybody else changes nothing
      members := match self.members.lookup userId with
        | some (.active _) => self.members.insert userId (.active role)
        | _ => self.members }
  | .memberRemoved blockId userId => { blockId, members := self.members.erase userId }
  | .ownerBootstrapped blockId userId role =>
    { blockId, members := self.members.insert userId (.active role) }

/-- `Command<InviteMember>`. -/
def invite (cmd : InviteMember) : Handled := do
  ensure (self.entry cmd.userId).isNone (.alreadyInvited cmd.userId)
  .ok [.memberInvited cmd.blockId cmd.userId cmd.role]

/-- `Command<AcceptInvitation>`: the role is the invited one. -/
def acceptInvitation (cmd : AcceptInvitation) : Handled :=
  match self.entry cmd.userId with
  | some (.pending role) => .ok [.invitationAccepted cmd.blockId cmd.userId role]
  | _ => .error (.noPendingInvitation cmd.userId)

/-- The check of the commands that are about an active member. -/
def ifActive (userId : UserId) (event : MembershipEvent) : Handled :=
  match self.entry userId with
  | some (.active _) => .ok [event]
  | _ => .error (.notActiveMember userId)

/-- `Command<GrantRole>`. -/
def grantRole (cmd : GrantRole) : Handled :=
  self.ifActive cmd.userId (.roleGranted cmd.blockId cmd.userId cmd.role)

/-- `Command<RemoveMember>`. -/
def removeMember (cmd : RemoveMember) : Handled :=
  self.ifActive cmd.userId (.memberRemoved cmd.blockId cmd.userId)

/-- `Command<LeaveBlock>`: the actor removes itself. -/
def leaveBlock (actor : Option UserId) (cmd : LeaveBlock) : Handled :=
  match actor with
  | none => .error .missingActor
  | some userId => self.ifActive userId (.memberRemoved cmd.blockId userId)

/-- `Command<BootstrapOwner>`: only while the block has no entries. -/
def bootstrapOwner (cmd : BootstrapOwner) : Handled := do
  ensure (self.members = ∅) (.bootstrapNotAllowed cmd.blockId)
  .ok [.ownerBootstrapped cmd.blockId cmd.userId cmd.role]

/-- The handler of each command; only leaving asks for the actor. -/
def handle (call : MembershipCall) : Handled :=
  match call.command with
  | .invite cmd => self.invite cmd
  | .acceptInvitation cmd => self.acceptInvitation cmd
  | .grantRole cmd => self.grantRole cmd
  | .removeMember cmd => self.removeMember cmd
  | .leaveBlock cmd => self.leaveBlock call.actor cmd
  | .bootstrapOwner cmd => self.bootstrapOwner cmd

instance : Entity BlockMembership MembershipEvent MembershipCall MembershipError :=
  { init := {}, apply, handle }

end BlockMembership

instance : IntoDomainError MembershipError where
  intoDomainError
    | .validationError message => .validation .membershipValidation message
    | .alreadyInvited _ =>
      .conflict .membershipAlreadyInvited "user already has a pending invitation"
    | .noPendingInvitation _ => .conflict .membershipNoPendingInvitation "no pending invitation"
    | .notActiveMember _ => .conflict .membershipNotActiveMember "user is not an active member"
    | .missingActor => .validation .membershipMissingActor "leave requires an authenticated actor"
    | .bootstrapNotAllowed _ =>
      .conflict .membershipBootstrapNotAllowed "bootstrap is only allowed on an empty block"
    | .notFound id => .notFound .membershipNotFound "membership" id.uuid

/-! ## §2. One event -/

namespace MembershipEvent

/-- The user an event is about. -/
def user : MembershipEvent → UserId
  | .memberInvited _ userId _ | .invitationAccepted _ userId _ | .roleGranted _ userId _
  | .memberRemoved _ userId | .ownerBootstrapped _ userId _ => userId

/-- The block an event is about. -/
def block : MembershipEvent → BlockId
  | .memberInvited blockId _ _ | .invitationAccepted blockId _ _ | .roleGranted blockId _ _
  | .memberRemoved blockId _ | .ownerBootstrapped blockId _ _ => blockId

/-- What an event writes to the entry of its user. -/
def write : MembershipEvent → Write (Option MembershipState)
  | .memberInvited _ _ role => .put (some (.pending role))
  | .invitationAccepted _ _ role | .ownerBootstrapped _ _ role => .put (some (.active role))
  | .roleGranted _ _ role => .replace (some (.active role))
  | .memberRemoved _ _ => .put none

end MembershipEvent

/-- The entry of an active member. -/
def isActive : Option MembershipState → Bool
  | some (.active _) => true
  | _ => false

namespace BlockMembership

@[simp] theorem apply_blockId (self : BlockMembership) (e) : (self.apply e).blockId = e.block := by
  cases e <;> rfl

/-- Other users' entries are left alone. -/
theorem entry_apply_of_ne (self : BlockMembership) (hne : e.user ≠ userId) :
    (self.apply e).entry userId = self.entry userId := by
  have hne' : userId ≠ e.user := fun h => hne h.symm
  cases e with
  | memberInvited | invitationAccepted | ownerBootstrapped => exact lookup_insert_of_ne _ hne'
  | memberRemoved => exact lookup_erase_ne hne'
  | roleGranted =>
    simp only [entry, apply]
    split
    · exact lookup_insert_of_ne _ hne'
    · rfl

/-- The user's own entry is written to. -/
theorem entry_apply_user (self : BlockMembership) (e) :
    (self.apply e).entry e.user = e.write.act isActive (self.entry e.user) := by
  cases e with
  | memberInvited | invitationAccepted | ownerBootstrapped => exact lookup_insert _
  | memberRemoved => exact lookup_erase _ _
  | roleGranted blockId userId =>
    simp only [entry, apply, MembershipEvent.user, MembershipEvent.write, Write.act_replace]
    -- `replace` writes to live cells only, as the grant does to active members
    cases hentry : self.members.lookup userId with
    | none => simp [hentry, isActive]
    | some state =>
      cases state with
      | pending => simp [hentry, isActive]
      | active => simp [isActive]

/-! ## §3. Replaying -/

/-- The entries, one cell per user. -/
def entries : Column apply UserId (Option MembershipState) where
  cell := entry
  live := isActive
  writes e userId := by
    by_cases huser : e.user = userId
    · subst huser
      exact ⟨e.write, by cases e <;> simp [MembershipEvent.write, isActive], (entry_apply_user · e)⟩
    · exact ⟨.keep, trivial, (entry_apply_of_ne · huser)⟩

/-- The block, which every event names. -/
def block : Column apply Unit BlockId where
  cell self _ := self.blockId
  live _ := true
  writes e _ := ⟨.put e.block, trivial, (apply_blockId · e)⟩

theorem ext_entry {a b : BlockMembership} (hblock : a.blockId = b.blockId)
    (hentry : ∀ userId, a.entry userId = b.entry userId) : a = b := by
  cases a
  cases b
  congr
  exact ext_lookup hentry

end BlockMembership

/-- **MEMBERSHIP REPLAYS**: after any events, applying the last of them again changes neither the block
nor any entry. -/
theorem membership_replays (before again : List MembershipEvent) :
    Entity.replay BlockMembership (before ++ again ++ again) =
      Entity.replay BlockMembership (before ++ again) := by
  have hsuffix : again <:+ before ++ again := List.suffix_append before again
  rw [replay_append]
  apply BlockMembership.ext_entry
  · exact BlockMembership.block.replay hsuffix _ ()
  · exact fun userId => BlockMembership.entries.replay hsuffix _ userId

/-! ## §4. What commands emit -/

/-- The events a block lets commands emit. -/
inductive BlockMembership.Allows (self : BlockMembership) : MembershipEvent → Prop
  | invited {userId : UserId} (blockId : BlockId) (role : Role)
      (hnone : self.entry userId = none) : Allows self (.memberInvited blockId userId role)
  | accepted {userId : UserId} {role : Role} (blockId : BlockId)
      (hpending : self.entry userId = some (.pending role)) :
      Allows self (.invitationAccepted blockId userId role)
  | granted {userId : UserId} {old : Role} (blockId : BlockId) (role : Role)
      (hactive : self.entry userId = some (.active old)) :
      Allows self (.roleGranted blockId userId role)
  | removed {userId : UserId} {old : Role} (blockId : BlockId)
      (hactive : self.entry userId = some (.active old)) :
      Allows self (.memberRemoved blockId userId)
  | bootstrapped (blockId : BlockId) (userId : UserId) (role : Role)
      (hempty : self.members = ∅) : Allows self (.ownerBootstrapped blockId userId role)

namespace BlockMembership

theorem ifActive_eq_ok {self : BlockMembership} {userId}
    (h : self.ifActive userId event = .ok events) :
    events = [event] ∧ ∃ role, self.entry userId = some (.active role) := by
  unfold ifActive at h
  split at h
  · next role hactive =>
    cases h
    exact ⟨rfl, role, hactive⟩
  · cases h

/-- **WHAT AN ACCEPTED COMMAND EMITS**: one event, which the block allows. -/
theorem handle_allowed {self : BlockMembership} (h : self.handle call = .ok events) :
    ∃ e, events = [e] ∧ self.Allows e := by
  obtain ⟨actor, command⟩ := call
  cases command with
  | invite =>
    simp only [handle, invite, check_eq_ok, ensure_eq_ok, Option.isNone_iff_eq_none] at h
    cases h.2
    exact ⟨_, rfl, .invited _ _ h.1⟩
  | acceptInvitation =>
    simp only [handle, acceptInvitation] at h
    split at h
    · next role hpending =>
      cases h
      exact ⟨_, rfl, .accepted _ hpending⟩
    · cases h
  | grantRole =>
    obtain ⟨rfl, old, hactive⟩ := ifActive_eq_ok h
    exact ⟨_, rfl, .granted _ _ hactive⟩
  | removeMember =>
    obtain ⟨rfl, old, hactive⟩ := ifActive_eq_ok h
    exact ⟨_, rfl, .removed _ hactive⟩
  | leaveBlock =>
    -- without an actor there is nobody to leave
    cases actor with
    | none => cases h
    | some =>
      obtain ⟨rfl, old, hactive⟩ := ifActive_eq_ok h
      exact ⟨_, rfl, .removed _ hactive⟩
  | bootstrapOwner =>
    simp only [handle, bootstrapOwner, check_eq_ok, ensure_eq_ok, decide_eq_true_eq] at h
    cases h.2
    exact ⟨_, rfl, .bootstrapped _ _ _ h.1⟩

end BlockMembership

end Breakdown
