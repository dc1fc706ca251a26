/-
**WHERE A MEMBER'S ROLE COMES FROM.**

Nothing checks the version of a membership stream, and invites, accepts, grants, removals, leaves and
bootstraps of all users interleave freely. Still every active member can be traced back through the
history of the block:

- `Standing`: what the history says about an entry;
- `standing_of_decisions`: every entry of every block stands on its history;
- `membership_authority`: an active member was bootstrapped into an empty block, or accepted its
  latest invitation; since then it was neither removed nor did it leave, and its role is the last
  one granted.
-/
import Breakdown.Membership.Aggregate

namespace Breakdown

open List Entity MembershipEvent BlockMembership

/-! ## §1. Histories of one user -/

namespace MembershipEvent

/-- The event invites the user. -/
def invites (userId : UserId) : MembershipEvent → Bool
  | .memberInvited _ other _ => other = userId
  | _ => false

/-- The user is removed or leaves. -/
def removes (userId : UserId) : MembershipEvent → Bool
  | .memberRemoved _ other => other = userId
  | _ => false

/-- The role the event grants the user. -/
def grants (userId : UserId) : MembershipEvent → Option Role
  | .roleGranted _ other role => if other = userId then some role else none
  | _ => none

end MembershipEvent

/-- The role of the last grant to the user, if there is one. -/
def lastGrant (userId : UserId) (events : List MembershipEvent) : Option Role :=
  (events.filterMap (·.grants userId)).getLast?

/-- `pre` made the event a valid origin of the user's membership, with the given role. -/
inductive Origin (userId : UserId) (role : Role) (pre : List MembershipEvent) :
    MembershipEvent → Prop
  /-- The user was bootstrapped while the block had no entries. -/
  | bootstrapped (blockId : BlockId)
      (hempty : (Entity.replay BlockMembership pre).members = ∅) :
      Origin userId role pre (.ownerBootstrapped blockId userId role)
  /-- The user accepted; its latest invitation so far offered the role. -/
  | accepted {before between : List MembershipEvent} (inviting blockId : BlockId)
      (hpre : pre = before ++ .memberInvited inviting userId role :: between)
      (hlatest : ∀ e ∈ between, e.invites userId = false) :
      Origin userId role pre (.invitationAccepted blockId userId role)

/-- After the origin of its membership a user only gets roles. -/
def OnlyGrants (userId : UserId) (events : List MembershipEvent) : Prop :=
  ∀ e ∈ events, e.user = userId → (e.grants userId).isSome = true

/-- What the history of a block says about the entry of a user. -/
def Standing (log : List MembershipEvent) (userId : UserId) : Option MembershipState → Prop
  | none => True
  | some (.pending role) => ∃ before inviting between,
      log = before ++ .memberInvited inviting userId role :: between ∧
        ∀ e ∈ between, e.user ≠ userId
  | some (.active role) => ∃ pre origin post initial,
      log = pre ++ origin :: post ∧ Origin userId initial pre origin ∧ OnlyGrants userId post ∧
        role = (lastGrant userId post).getD initial

namespace MembershipEvent

variable {e : MembershipEvent} {userId : UserId}

theorem grants_of_ne (h : e.user ≠ userId) : e.grants userId = none := by
  cases e with
  | roleGranted => exact if_neg h
  | _ => rfl

theorem invites_of_ne (h : e.user ≠ userId) : e.invites userId = false := by
  cases e with
  | memberInvited => exact decide_eq_false h
  | _ => rfl

theorem removes_of_ne (h : e.user ≠ userId) : e.removes userId = false := by
  cases e with
  | memberRemoved => exact decide_eq_false h
  | _ => rfl

/-- A grant neither invites nor removes. -/
theorem only_grants (h : (e.grants userId).isSome) :
    e.invites userId = false ∧ e.removes userId = false := by
  cases e with
  | roleGranted => exact ⟨rfl, rfl⟩
  | _ => cases h

end MembershipEvent

theorem OnlyGrants.not_invited (h : OnlyGrants userId events) :
    ∀ e ∈ events, e.invites userId = false ∧ e.removes userId = false := by
  intro e he
  by_cases huser : e.user = userId
  · exact only_grants (h e he huser)
  · exact ⟨invites_of_ne huser, removes_of_ne huser⟩

theorem OnlyGrants.concat (h : OnlyGrants userId events)
    (he : e.user = userId → (e.grants userId).isSome) : OnlyGrants userId (events ++ [e]) := by
  intro e' he'
  obtain hmem | hmem := mem_append.mp he'
  · exact h e' hmem
  · rw [mem_singleton.mp hmem]
    exact he

theorem onlyGrants_nil (userId) : OnlyGrants userId [] := by
  intro e he
  cases he

/-- The last grant is the newest one. -/
theorem lastGrant_concat (userId events e) :
    lastGrant userId (events ++ [e]) = (e.grants userId).or (lastGrant userId events) := by
  unfold lastGrant
  rw [filterMap_append]
  cases hgrant : e.grants userId with
  | none | some => simp [hgrant]

/-! ## §2. Every entry stands -/

/-- Events about others leave a standing as it is. -/
theorem Standing.of_ne {entry} (h : Standing log userId entry) (hne : e.user ≠ userId) :
    Standing (log ++ [e]) userId entry := by
  -- the witness of the standing stays; the event goes behind it
  cases entry with
  | none => trivial
  | some state =>
    cases state with
    | pending =>
      obtain ⟨before, inviting, between, hlog, hothers⟩ := h
      refine ⟨before, inviting, between ++ [e], by rw [hlog]; simp, ?_⟩
      intro e' he'
      obtain hmem | hmem := mem_append.mp he'
      · exact hothers e' hmem
      · rw [mem_singleton.mp hmem]
        exact hne
    | active =>
      obtain ⟨pre, origin, post, initial, hlog, horigin, honly, hrole⟩ := h
      refine ⟨pre, origin, post ++ [e], initial, by rw [hlog]; simp, horigin,
        honly.concat (fun huser => absurd huser hne), ?_⟩
      rw [lastGrant_concat, grants_of_ne hne, Option.none_or]
      exact hrole

/-- The event of an accepted command leaves its user standing. -/
theorem Standing.of_allows (hallows : (replay BlockMembership log).Allows e)
    (h : Standing log e.user ((replay BlockMembership log).entry e.user)) :
    Standing (log ++ [e]) e.user (((replay BlockMembership log).apply e).entry e.user) := by
  rw [entry_apply_user]
  cases hallows with
  | @invited userId blockId role hnone => exact ⟨log, blockId, [], rfl, nofun⟩
  | @accepted userId role blockId hpending =>
    -- the pending entry stands on the latest invitation
    rw [user, hpending] at h
    obtain ⟨before, inviting, between, hlog, hothers⟩ := h
    refine ⟨log, _, [], role, rfl, .accepted inviting blockId hlog ?_, onlyGrants_nil _, rfl⟩
    exact fun e he => invites_of_ne (hothers e he)
  -- the origin stays what it was, and the grant is the last one
  | @granted userId old blockId role hactive =>
    rw [user, hactive] at h ⊢
    obtain ⟨pre, origin, post, initial, hlog, horigin, honly, -⟩ := h
    have hgrants : (roleGranted blockId userId role).grants userId = some role := if_pos rfl
    refine ⟨pre, origin, post ++ [.roleGranted blockId userId role], initial, ?_, horigin,
      honly.concat (fun _ => by rw [hgrants]; rfl), ?_⟩
    · rw [hlog, append_assoc, cons_append]
    · rw [lastGrant_concat, hgrants]
      rfl
  | @removed userId old blockId hactive => trivial
  | bootstrapped blockId userId role hempty =>
    exact ⟨log, _, [], role, rfl, .bootstrapped blockId hempty, onlyGrants_nil _, rfl⟩

/-- **EVERY ENTRY STANDS ON THE HISTORY OF ITS BLOCK.** -/
theorem standing_of_decisions (h : Decisions BlockMembership log) (userId) :
    Standing log userId ((replay BlockMembership log).entry userId) := by
  induction h with
  | nil => trivial
  | @step log expected call events before hdecided ih =>
    obtain ⟨e, rfl, hallows⟩ := handle_allowed hdecided.handled
    rw [replay_append, foldl_cons, foldl_nil]
    show Standing _ _ (((replay BlockMembership log).apply e).entry userId)
    -- every command records one event, and that is about one user
    by_cases huser : e.user = userId
    · subst huser
      exact Standing.of_allows hallows ih
    · rw [entry_apply_of_ne _ huser]
      exact ih.of_ne huser

/-! ## §3. Authority -/

/-- **THE AUTHORITY OF AN ACTIVE MEMBER.** Somewhere in the history the user was bootstrapped into an
empty block or accepted its latest invitation. Since then nobody invited or removed it and it did
not leave; its role is the last one granted since, or else the one it started with. -/
theorem membership_authority {log : List MembershipEvent} (h : Decisions BlockMembership log)
    {userId : UserId} {role : Role}
    (hactive : (Entity.replay BlockMembership log).entry userId = some (.active role)) :
    ∃ pre origin post initial, log = pre ++ origin :: post ∧ Origin userId initial pre origin ∧
      (∀ e ∈ post, e.invites userId = false ∧ e.removes userId = false) ∧
      role = (lastGrant userId post).getD initial := by
  have hstanding := standing_of_decisions h userId
  rw [hactive] at hstanding
  obtain ⟨pre, origin, post, initial, hlog, horigin, honly, hrole⟩ := hstanding
  exact ⟨pre, origin, post, initial, hlog, horigin, honly.not_invited, hrole⟩

/-- One process sends the calls, one after the other. -/
def membershipCalls (calls : List MembershipCall) : List MembershipEvent :=
  calls.foldl (fun log call =>
    (handleExecute (EntityActorState.load BlockMembership log) log .any call .acknowledged
      conflictRetries).2.1) []

theorem decisions_membershipCalls (calls) : Decisions BlockMembership (membershipCalls calls) := by
  unfold membershipCalls
  suffices h : ∀ log, Decisions BlockMembership log →
      Decisions BlockMembership (calls.foldl _ log) from h [] .nil
  induction calls with
  | nil => exact fun log h => h
  | cons call rest ih =>
    exact fun log h => ih _ (h.handleExecute (EntityActorState.follows_load log) ..)

/-- Anna founds the block and invites Ben, who accepts, leaves, is invited with another role, accepts
and is promoted. -/
def rejoined : List MembershipCall := [⟨none, .bootstrapOwner ⟨⟨1⟩, ⟨"anna"⟩, .costumeAssistant⟩⟩,
    ⟨some ⟨"anna"⟩, .invite ⟨⟨1⟩, ⟨"ben"⟩, .wardrobeSupervisor⟩⟩,
    ⟨some ⟨"ben"⟩, .acceptInvitation ⟨⟨1⟩, ⟨"ben"⟩⟩⟩,
    ⟨some ⟨"ben"⟩, .leaveBlock ⟨⟨1⟩⟩⟩,
    ⟨some ⟨"anna"⟩, .invite ⟨⟨1⟩, ⟨"ben"⟩, .costumeAssistant⟩⟩,
    ⟨some ⟨"ben"⟩, .acceptInvitation ⟨⟨1⟩, ⟨"ben"⟩⟩⟩,
    ⟨some ⟨"anna"⟩, .grantRole ⟨⟨1⟩, ⟨"ben"⟩, .costumeDesigner⟩⟩]

theorem membership_authority_rejoined :
    ∃ pre origin post initial, membershipCalls rejoined = pre ++ origin :: post ∧
      Origin ⟨"ben"⟩ initial pre origin ∧
      (∀ e ∈ post, e.invites ⟨"ben"⟩ = false ∧ e.removes ⟨"ben"⟩ = false) ∧
      Role.costumeDesigner = (lastGrant ⟨"ben"⟩ post).getD initial :=
  membership_authority (decisions_membershipCalls rejoined) (by decide +kernel)

end Breakdown
