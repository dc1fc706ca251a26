/-
**THE PERMITS STAY WITHIN THEIR LIMITS, WHATEVER THE PROCESSES DO.**

Counting and inserting happen under a lock that renewals and deletions do not take, so what an
admission has counted may change before it commits. It can only get less: renewals rewrite rows and
deletions remove them, and nobody else inserts while the lock is held.

- `step_within`: no statement takes the permits above the limits (`Within`);
- `step_revives_iff`: an expired permit is made live again by a renewal that writes its row after
  the expiry it was checked against, and by nothing else;
- `permits_stay_bounded`: both, over every run;
- `late_renewal_revives`: a run in which an expired permit does come back.
-/
import Breakdown.Ai.Permits
import Breakdown.Lib.Transition
import Mathlib.Data.List.Nodup

namespace Breakdown.Ai

open Transition List

/-! ## §1. The limits -/

section Limits

variable {limits : Limits} {db db' : PermitDb} {action : PermitAction}

/-- The rows as the ceilings count them. -/
def PermitDb.keys (db : PermitDb) : List (Uuid × String) := db.rows.map PermitRow.key

/-- The keys that remain after a transaction's deletions. -/
def keysLeft (keys : List (Uuid × String)) (deleted : List Uuid) : List (Uuid × String) :=
  keys.filter fun key => !deleted.contains key.1

/-- The keys of one user. -/
def userKeys (keys : List (Uuid × String)) (user : String) : Nat := keys.countP (·.2 = user)

theorem map_key_visible (db : PermitDb) (deleted) :
    (db.visible deleted).map PermitRow.key = keysLeft db.keys deleted := by
  unfold PermitDb.visible PermitDb.keys keysLeft
  rw [filter_map]
  rfl

theorem length_visible (db : PermitDb) (deleted) :
    (db.visible deleted).length = (keysLeft db.keys deleted).length := by
  rw [← map_key_visible, length_map]

theorem countP_visible (db : PermitDb) (deleted user) :
    (db.visible deleted).countP (·.userId = user) = userKeys (keysLeft db.keys deleted) user := by
  unfold userKeys
  rw [← map_key_visible, countP_map]
  rfl

theorem keys_extendRow (db : PermitDb) (id expiresAt) :
    (db.extendRow id expiresAt).keys = db.keys := by
  unfold PermitDb.keys PermitDb.extendRow
  rw [map_map]
  apply map_congr_left
  intro row _
  simp only [Function.comp_apply]
  split <;> rfl

/-- Admission may go on: the keys it counted leave room, for the table and for the user. -/
def HasRoom (limits : Limits) (db : PermitDb) (deleted : List Uuid) : Prop :=
  (keysLeft db.keys deleted).length < limits.maxGlobal

def HasUserRoom (limits : Limits) (db : PermitDb) (deleted : List Uuid) (user : String) : Prop :=
  userKeys (keysLeft db.keys deleted) user < limits.maxPerUser

/-- What a transaction in progress may rely on. -/
def TxOk (limits : Limits) (db : PermitDb) (tx : Nat) : Tx → Prop
  | .sweeping _ _ => db.advisoryLock = some tx
  | .counted _ deleted => db.advisoryLock = some tx ∧ HasRoom limits db deleted
  | .admitted acquire deleted =>
    db.advisoryLock = some tx ∧ HasRoom limits db deleted ∧
      HasUserRoom limits db deleted acquire.userId
  | .inserted acquire deleted row =>
    db.advisoryLock = some tx ∧ HasRoom limits db deleted ∧
      HasUserRoom limits db deleted acquire.userId ∧ row.userId = acquire.userId ∧
      row.id ∈ db.issued ∧ row.id ∉ db.keys.map Prod.fst
  | .waiting _ | .refused _ | .renewing _ _ _ _ | .deleting _ => True

/-- **THE INVARIANT OF ADMISSION.** It bounds ALL rows, expired or not: the counts of the source do
not look at the expiry either. -/
structure Within (limits : Limits) (db : PermitDb) : Prop where
  nodup : (db.keys.map Prod.fst).Nodup
  issued : ∀ id ∈ db.keys.map Prod.fst, id ∈ db.issued
  global : db.keys.length ≤ limits.maxGlobal
  perUser : ∀ user, userKeys db.keys user ≤ limits.maxPerUser
  txs : ∀ tx phase, db.txs tx = some phase → TxOk limits db tx phase

theorem Within.initial (limits clock) : Within limits (PermitDb.initial clock) where
  nodup := nodup_nil
  issued := nofun
  global := Nat.zero_le _
  perUser _ := Nat.zero_le _
  txs := nofun

/-- Fewer rows keep what a transaction relies on. -/
theorem TxOk.mono (h : TxOk limits db tx phase) (hkeys : db'.keys.Sublist db.keys)
    (hissued : ∀ id ∈ db.issued, id ∈ db'.issued)
    (hlock : db.advisoryLock = some tx → db'.advisoryLock = some tx) : TxOk limits db' tx phase := by
  have hleft : ∀ deleted, (keysLeft db'.keys deleted).Sublist (keysLeft db.keys deleted) :=
    fun deleted => hkeys.filter _
  have hroom : ∀ deleted, HasRoom limits db deleted → HasRoom limits db' deleted :=
    fun deleted hroom => Nat.lt_of_le_of_lt (hleft deleted).length_le hroom
  have huser : ∀ deleted user, HasUserRoom limits db deleted user →
      HasUserRoom limits db' deleted user :=
    fun deleted user hroom => Nat.lt_of_le_of_lt (hleft deleted).countP_le hroom
  cases phase with
  | waiting | refused | renewing | deleting => trivial
  | sweeping => exact hlock h
  | counted => exact ⟨hlock h.1, hroom _ h.2⟩
  | admitted => exact ⟨hlock h.1, hroom _ h.2.1, huser _ _ h.2.2⟩
  | inserted =>
    obtain ⟨hheld, hglobal, hown, hrow, hid, hnew⟩ := h
    exact ⟨hlock hheld, hroom _ hglobal, huser _ _ hown, hrow, hissued _ hid,
      fun hmem => hnew ((hkeys.map Prod.fst).subset hmem)⟩

section

variable (h : Within limits db)
include h

/-- **ONE TRANSACTION MOVES.** The rows stay; the others rely on what they relied on, and the one
that moved has what its new phase needs. -/
theorem Within.move (hkeys : db'.keys = db.keys) (hissued : ∀ id ∈ db.issued, id ∈ db'.issued)
    (htxs : db'.txs = fun other => if other = tx then some phase else db.txs other)
    (hlock : ∀ other, other ≠ tx → db.advisoryLock = some other → db'.advisoryLock = some other)
    (hphase : TxOk limits db' tx phase) : Within limits db' where
  nodup := hkeys ▸ h.nodup
  issued id hid := hissued id (h.issued id (hkeys ▸ hid))
  global := hkeys ▸ h.global
  perUser := hkeys ▸ h.perUser
  txs other phase' hother := by
    rw [htxs] at hother
    simp only at hother
    split at hother
    · next heq =>
      cases hother
      exact heq ▸ hphase
    · next hne =>
      exact (h.txs other phase' hother).mono (hkeys ▸ List.Sublist.refl _) hissued
        (hlock other hne)

/-- **ONE TRANSACTION ENDS**, leaving rows within the limits that are no more than there were — or one
more, if it was the holder of the advisory lock, so that nobody else relies on a count. -/
theorem Within.finish (hnodup : ((rows.map PermitRow.key).map Prod.fst).Nodup)
    (hissued : ∀ id ∈ (rows.map PermitRow.key).map Prod.fst, id ∈ db.issued)
    (hglobal : rows.length ≤ limits.maxGlobal)
    (hperUser : ∀ user, userKeys (rows.map PermitRow.key) user ≤ limits.maxPerUser)
    (hfewer : db.advisoryLock ≠ some tx → (rows.map PermitRow.key).Sublist db.keys) :
    Within limits ({ db with rows }.endTx tx) where
  nodup := hnodup
  issued := hissued
  global := by
    unfold PermitDb.keys
    rw [length_map]
    exact hglobal
  perUser := hperUser
  txs other phase hother := by
    simp only [PermitDb.endTx] at hother
    split at hother
    · cases hother
    · next hne =>
      have hok := h.txs other phase hother
      by_cases hheld : db.advisoryLock = some tx
      · -- the lock was `tx`'s, so the other transaction is in a phase that relies on nothing
        have hnot : db.advisoryLock ≠ some other := by
          intro hlock
          rw [hheld] at hlock
          exact hne (Option.some.inj hlock).symm
        cases phase with
        | waiting | refused | renewing | deleting => trivial
        | sweeping => exact absurd hok hnot
        | counted | admitted | inserted => exact absurd hok.1 hnot
      · refine hok.mono (hfewer hheld) (fun id hid => hid) ?_
        intro hlock
        simp only [PermitDb.endTx, if_neg hheld]
        exact hlock

/-- The rows a transaction leaves untouched are within the limits, and no more than there were. -/
theorem Within.finish_fewer (hfewer : (rows.map PermitRow.key).Sublist db.keys) :
    Within limits ({ db with rows }.endTx tx) := by
  have hlen : rows.length ≤ db.keys.length := by
    have := hfewer.length_le
    rwa [length_map] at this
  refine h.finish (h.nodup.sublist (hfewer.map _)) ?_ (Nat.le_trans hlen h.global) ?_ (fun _ => hfewer)
  · exact fun id hid => h.issued id ((hfewer.map Prod.fst).subset hid)
  · exact fun user => Nat.le_trans hfewer.countP_le (h.perUser user)

/-- Committing the row of an admitted call fills the room that was counted. -/
theorem Within.commit_inserted (hphase : db.txs tx = some (.inserted acquire deleted row)) :
    Within limits ({ db with rows := db.visible deleted ++ [row] }.endTx tx) := by
  obtain ⟨hheld, hroom, huser, hown, hid, hnew⟩ := h.txs tx _ hphase
  have hkeys : (db.visible deleted ++ [row]).map PermitRow.key =
      keysLeft db.keys deleted ++ [row.key] := by
    rw [map_append, map_key_visible]
    rfl
  have hleft : (keysLeft db.keys deleted).Sublist db.keys := filter_sublist
  refine h.finish ?_ ?_ ?_ ?_ (fun hnot => absurd hheld hnot)
  · rw [hkeys, map_append, map_cons, map_nil]
    refine List.Nodup.append (h.nodup.sublist (hleft.map _)) (nodup_singleton _) ?_
    intro id hmem hrow
    rw [mem_singleton] at hrow
    subst hrow
    exact hnew ((hleft.map Prod.fst).subset hmem)
  · intro id hmem
    rw [hkeys, map_append, mem_append] at hmem
    cases hmem with
    | inl hold => exact h.issued id ((hleft.map Prod.fst).subset hold)
    | inr hrow =>
      rw [map_cons, map_nil, mem_singleton] at hrow
      exact hrow ▸ hid
  · rw [length_append, length_visible, length_singleton]
    exact hroom
  · intro user
    unfold userKeys
    rw [hkeys, countP_append, countP_singleton]
    by_cases hu : row.userId = user
    · subst hu
      rw [if_pos (by simp [PermitRow.key])]
      unfold HasUserRoom userKeys at huser
      rw [← hown] at huser
      exact huser
    · rw [if_neg (by simp [PermitRow.key, hu])]
      exact Nat.le_trans hleft.countP_le (h.perUser user)

/-- **STEP.** No statement takes the permits above the limits. -/
theorem step_within (hstep : permitStep limits db action = some db') : Within limits db' := by
  cases changes_of_step hstep with
  | clock =>
    exact ⟨h.nodup, h.issued, h.global, h.perUser, fun tx phase hphase =>
      (h.txs tx phase hphase).mono (List.Sublist.refl _) (fun _ hid => hid) fun hl => hl⟩
  | nothing => exact h
  | waits | refuses | evaluates | deletes =>
    exact h.move rfl (fun _ hid => hid) rfl (fun _ _ hl => hl) trivial
  | locks tx acquire hfree =>
    refine h.move rfl (fun _ hid => hid) rfl ?_ rfl
    intro other _ hl
    rw [hfree] at hl
    cases hl
  | sweeps tx acquire deleted id hbefore =>
    exact h.move rfl (fun _ hid => hid) rfl (fun _ _ hl => hl) (h.txs tx _ hbefore)
  | counts tx acquire deleted hbefore hroom =>
    rw [length_visible] at hroom
    exact h.move rfl (fun _ hid => hid) rfl (fun _ _ hl => hl) ⟨h.txs tx _ hbefore, hroom⟩
  | admits tx acquire deleted hbefore hroom =>
    rw [countP_visible] at hroom
    obtain ⟨hheld, hglobal⟩ := h.txs tx _ hbefore
    exact h.move rfl (fun _ hid => hid) rfl (fun _ _ hl => hl) ⟨hheld, hglobal, hroom⟩
  | inserts tx acquire deleted row hbefore hfresh huser =>
    obtain ⟨hheld, hglobal, hown⟩ := h.txs tx _ hbefore
    have hnew : row.id ∉ db.keys.map Prod.fst := fun hmem => hfresh (h.issued _ hmem)
    exact h.move rfl (fun _ hid => mem_cons_of_mem _ hid) rfl (fun _ _ hl => hl)
      ⟨hheld, hglobal, hown, huser, mem_cons_self, hnew⟩
  | extend tx id lease newExpiry seen _ _ row _ expiresAt =>
    show Within limits ({ db with rows := (db.extendRow id expiresAt).rows }.endTx tx)
    exact h.finish_fewer (keys_extendRow db id expiresAt ▸ List.Sublist.refl _)
  | commits tx phase hbefore =>
    cases phase with
    | inserted => exact h.commit_inserted hbefore
    | _ =>
      refine h.finish_fewer ?_
      simp only [Tx.added, append_nil, map_key_visible]
      exact filter_sublist
  | ends => exact h.finish_fewer (List.Sublist.refl _)

end

end Limits

/-! ## §2. Expiry is final, unless a renewal is late -/

section Expiry

variable {limits : Limits} {db db' : PermitDb} {action : PermitAction} {id : Uuid}

/-- **THE CONDITION ON A STATEMENT.** A renewal that still uses what it evaluated before it got its
row, and that gives the row a live expiry, finds the permit live. -/
def inTime (db : PermitDb) : PermitAction → Bool
  | .renewWrite tx =>
    match db.txs tx with
    | some (.renewing id _ newExpiry seen) =>
      db.rows.all fun row =>
        !(row.id = id && row.revision = seen && db.clock < newExpiry) || row.isLive db.clock
    | _ => true
  | _ => true

/-- The permit has expired and is not coming back: no live row has its id, and nobody is about to
commit one. -/
structure Lapsed (id : Uuid) (db : PermitDb) : Prop where
  issued : id ∈ db.issued
  notAdded : ∀ tx phase, db.txs tx = some phase → ∀ row ∈ phase.added, row.id ≠ id
  expired : ∀ row ∈ db.rows, row.id = id → row.isLive db.clock = false

theorem mem_keys_of_mem (h : row ∈ db.rows) : row.id ∈ db.keys.map Prod.fst :=
  mem_map_of_mem (mem_map_of_mem h)

/-- The id is the primary key. -/
theorem Within.row_eq (h : Within limits db) (hrow : row ∈ db.rows)
    (hother : other ∈ db.rows) (hid : row.id = other.id) : row = other := by
  have hnodup := h.nodup
  unfold PermitDb.keys at hnodup
  rw [map_map] at hnodup
  exact inj_on_of_nodup_map hnodup hrow hother hid

theorem Within.lapsed (h : Within limits db) (hrow : row ∈ db.rows)
    (hexpired : row.isLive db.clock = false) : Lapsed row.id db where
  issued := h.issued _ (mem_keys_of_mem hrow)
  notAdded tx phase hphase added hadded hid := by
    have hok := h.txs tx phase hphase
    cases phase with
    | inserted =>
      rw [Tx.added, mem_singleton] at hadded
      subst hadded
      exact hok.2.2.2.2.2 (hid ▸ mem_keys_of_mem hrow)
    | _ => cases hadded
  expired other hother hid := h.row_eq hrow hother hid.symm ▸ hexpired

/-- A transaction that moves on without a new row keeps a permit lapsed. -/
theorem Lapsed.move (h : Lapsed id db) (hclock : db'.clock = db.clock)
    (hrows : db'.rows = db.rows) (hissued : ∀ other ∈ db.issued, other ∈ db'.issued)
    (htxs : db'.txs = fun other => if other = tx then some phase else db.txs other)
    (hadded : ∀ row ∈ phase.added, row.id ≠ id) : Lapsed id db' where
  issued := hissued _ h.issued
  notAdded other phase' hother := by
    rw [htxs] at hother
    simp only at hother
    split at hother
    · cases hother
      exact hadded
    · exact h.notAdded other phase' hother
  expired := by
    rw [hclock, hrows]
    exact h.expired

/-- So does a transaction that ends, if its rows with the id have expired. -/
theorem Lapsed.finish (h : Lapsed id db)
    (hrows : ∀ row ∈ rows, row.id = id → row.isLive db.clock = false) :
    Lapsed id ({ db with rows }.endTx tx) where
  issued := h.issued
  notAdded other phase hother := by
    simp only [PermitDb.endTx] at hother
    split at hother
    · cases hother
    · exact h.notAdded other phase hother
  expired := hrows

/-- **A RENEWAL IN TIME EXTENDS NO LAPSED PERMIT.** -/
theorem extend_lapsed (hwithin : Within limits db) (h : Lapsed id db) (htime : inTime db action)
    (haction : action = .renewWrite tx)
    (hbefore : db.txs tx = some (.renewing permit lease newExpiry seen))
    (hfound : db.rows.find? (·.id = permit) = some found)
    (hchecked : (found.revision = seen ∧ expiresAt = newExpiry) ∨
      (found.revision ≠ seen ∧ found.isLive db.clock)) :
    ∀ row ∈ (db.extendRow permit expiresAt).rows, row.id = id → row.isLive db.clock = false := by
  intro row hrow hid
  have hmem : found ∈ db.rows := mem_of_find?_eq_some hfound
  have hpermit : found.id = permit := by simpa using find?_some hfound
  obtain ⟨old, hold, hrow⟩ := mem_map.1 hrow
  split at hrow
  · next hsame =>
    subst hrow
    have heq : found = old := hwithin.row_eq hmem hold (hpermit.trans hsame.symm)
    subst heq
    have hdead : found.isLive db.clock = false := h.expired found hmem hid
    cases hchecked with
    | inr hagain =>
      rw [hdead] at hagain
      exact absurd hagain.2 Bool.false_ne_true
    | inl hkept =>
      -- the values from before the wait are used: the condition says that they are not live
      rw [haction] at htime
      simp only [inTime, hbefore, all_eq_true] at htime
      have hlate := htime found hmem
      rw [hdead] at hlate
      simp only [hpermit, hkept.1, decide_true, Bool.true_and, Bool.or_false,
        Bool.not_eq_true', decide_eq_false_iff_not] at hlate
      simpa [PermitRow.isLive, PermitRow.extend, hkept.2] using hlate
  · subst hrow
    exact h.expired old hold hid

/-- **STEP.** A lapsed permit stays lapsed under every statement that meets the condition. -/
theorem step_lapsed (hwithin : Within limits db) (h : Lapsed id db)
    (htime : inTime db action) (hstep : permitStep limits db action = some db') :
    Lapsed id db' := by
  cases changes_of_step hstep with
  | clock =>
    refine ⟨h.issued, h.notAdded, ?_⟩
    intro row hrow hid
    have hexpired := h.expired row hrow hid
    simp only [PermitRow.isLive, decide_eq_false_iff_not] at hexpired ⊢
    exact fun hlive => hexpired (Nat.lt_of_le_of_lt (Nat.le_add_right _ _) hlive)
  | nothing => exact h
  | waits | locks | refuses | deletes => exact h.move rfl rfl (fun _ hm => hm) rfl nofun
  | sweeps | counts | admits | evaluates => exact h.move rfl rfl (fun _ hm => hm) rfl nofun
  | inserts tx acquire deleted row _ hfresh =>
    refine h.move rfl rfl (fun _ hm => mem_cons_of_mem _ hm) rfl ?_
    intro new hnew hid
    rw [Tx.added, mem_singleton] at hnew
    subst hnew
    exact hfresh (hid ▸ h.issued)
  | extend tx permit lease newExpiry seen haction hbefore found hfound expiresAt hchecked =>
    show Lapsed id ({ db with rows := (db.extendRow permit expiresAt).rows }.endTx tx)
    exact h.finish (extend_lapsed hwithin h htime haction hbefore hfound hchecked)
  | commits tx phase hbefore =>
    refine h.finish ?_
    intro row hrow hid
    cases mem_append.1 hrow with
    | inl hold => exact h.expired row (mem_filter.1 hold).1 hid
    | inr hnew => exact absurd hid (h.notAdded tx phase hbefore row hnew)
  | ends => exact h.finish h.expired

/-- No permit that had expired is live afterwards. -/
def ExpiryKept (db db' : PermitDb) : Prop := ∀ row ∈ db.rows, row.isLive db.clock = false →
    ∀ row' ∈ db'.rows, row'.id = row.id → row'.isLive db'.clock = false

/-- A late renewal does bring its permit back. -/
theorem late_revives (hwithin : Within limits db) (htime : inTime db action ≠ true)
    (hstep : permitStep limits db action = some db') : ¬ ExpiryKept db db' := by
  unfold inTime at htime
  split at htime
  · next tx =>
    split at htime
    · next permit lease newExpiry seen hbefore =>
      rw [ne_eq, all_eq_true] at htime
      simp only [not_forall] at htime
      obtain ⟨row, hrow, hlate⟩ := htime
      simp only [Bool.or_eq_true, Bool.not_eq_true', Bool.and_eq_false_imp, Bool.and_eq_true,
        decide_eq_true_eq, decide_eq_false_iff_not, not_or, Bool.not_eq_true, not_forall,
        not_not] at hlate
      obtain ⟨⟨⟨hid, hseen⟩, hnew⟩, hdead⟩ := hlate
      obtain ⟨⟨after, reply⟩, hwrite, hafter⟩ := Option.map_eq_some_iff.1 hstep
      subst hafter
      simp only [permitStatement, writeRenewal, hbefore] at hwrite
      split at hwrite
      · cases hwrite
      · cases hfind : db.rows.find? (·.id = permit) with
        | none =>
          rw [find?_eq_none] at hfind
          exact absurd (decide_eq_true hid) (hfind row hrow)
        | some found =>
          have hsame : found = row := by
            refine hwithin.row_eq (mem_of_find?_eq_some hfind) hrow ?_
            rw [hid]
            simpa using find?_some hfind
          subst hsame
          simp only [hfind, if_pos hseen] at hwrite
          cases hwrite
          intro hkept
          have hmem : found.extend newExpiry ∈ (db.extendRow permit newExpiry).rows :=
            mem_map.2 ⟨found, hrow, if_pos hid⟩
          have hnot : decide (db.clock < newExpiry) = false := hkept found hrow hdead _ hmem rfl
          exact of_decide_eq_false hnot hnew
    · exact absurd rfl htime
  · exact absurd rfl htime

/-- **WHAT REVIVES A PERMIT.** A statement leaves every expired permit expired exactly when it meets
the condition. -/
theorem step_revives_iff (hwithin : Within limits db)
    (hstep : permitStep limits db action = some db') : ExpiryKept db db' ↔ inTime db action := by
  constructor
  · intro hkept
    by_contra hlate
    exact late_revives hwithin hlate hstep hkept
  · intro htime row hrow hexpired row' hrow' hid
    exact (step_lapsed hwithin (hwithin.lapsed hrow hexpired) htime hstep).expired row' hrow' hid

end Expiry

/-! ## §3. Every run -/

section Run

variable {limits : Limits} {clock : Timestamp} {s t : PermitDb}

/-- Every state the processes can reach is within the limits. -/
theorem within_of_runs (h : Runs (permitStep limits) anyStep (.initial clock) s) :
    Within limits s :=
  h.invariant (Within limits) (.initial limits clock) fun _ _ _ hs _ hstep => step_within hs hstep

/-- The live permits are among the rows. -/
theorem Within.live_le (h : Within limits s) : s.rows.countP (·.isLive s.clock) ≤ limits.maxGlobal := by
  have hglobal := h.global
  unfold PermitDb.keys at hglobal
  rw [length_map] at hglobal
  exact Nat.le_trans countP_le_length hglobal

theorem Within.live_user_le (h : Within limits s) (user) :
    s.rows.countP (fun row => row.userId = user && row.isLive s.clock) ≤ limits.maxPerUser := by
  have huser := h.perUser user
  unfold userKeys PermitDb.keys at huser
  rw [countP_map] at huser
  refine Nat.le_trans (countP_mono_left ?_) huser
  intro row _ hrow
  rw [Bool.and_eq_true] at hrow
  exact hrow.1

/-- An expired permit stays expired in every run whose renewals are in time. -/
theorem expiryKept_of_runs (hwithin : Within limits s)
    (h : Runs (permitStep limits) (fun db action => inTime db action) s t) : ExpiryKept s t := by
  intro row hrow hexpired
  have hboth : Within limits t ∧ Lapsed row.id t := by
    refine h.invariant (fun db => Within limits db ∧ Lapsed row.id db)
      ⟨hwithin, hwithin.lapsed hrow hexpired⟩ ?_
    intro db action db' hdb htime hstep
    exact ⟨step_within hdb.1 hstep, step_lapsed hdb.1 hdb.2 htime hstep⟩
  exact hboth.2.expired

/-- **THE PERMITS STAY BOUNDED, AND EXPIRY IS FINAL WHILE RENEWALS ARE IN TIME.** In every reachable
state the live permits are within both limits. From every reachable state, an expired permit stays
expired in every run in which no renewal writes its row after the expiry it was checked against;
and a statement that does so is the only one that revives a permit. -/
theorem permits_stay_bounded (h : Runs (permitStep limits) anyStep (.initial clock) s) :
    s.rows.countP (·.isLive s.clock) ≤ limits.maxGlobal ∧
      (∀ user, s.rows.countP (fun row => row.userId = user && row.isLive s.clock) ≤
        limits.maxPerUser) ∧
      (∀ t, Runs (permitStep limits) (fun db action => inTime db action = true) s t →
        ExpiryKept s t) ∧ ∀ action t, permitStep limits s action = some t →
        (ExpiryKept s t ↔ inTime s action = true) := by
  have hwithin := within_of_runs h
  refine ⟨hwithin.live_le, hwithin.live_user_le, ?_, ?_⟩
  · intro t hrun
    exact expiryKept_of_runs hwithin hrun
  · intro action t hstep
    exact step_revives_iff hwithin hstep

/-- Two permits in all, two for a user. -/
def twoPermits : Limits := ⟨2, 2, by decide, by decide⟩

/-- `try_acquire_as` without contention. -/
def acquireAlone (tx : Nat) (userId : String) (id : Uuid) : List PermitAction :=
  [.begin tx userId "worker" 30, .lock tx, .countGlobal tx, .countUser tx, .insert tx id, .commit tx]

/-- A permit is acquired, renewed and expires; the next acquisition sweeps it. -/
def renewedOnce : List PermitAction :=
  acquireAlone 1 "ada" 7 ++ [.tick 29, .renew 2 7 30, .renewWrite 2, .tick 30] ++
    [.begin 3 "ada" "worker" 30, .lock 3, .sweep 3 7, .countGlobal 3]

theorem permits_stay_bounded_renewedOnce :
    ∃ s, Runs (permitStep twoPermits) anyStep (.initial 0) s ∧
      (s.rows.any fun row => row.id = 7 && !row.isLive s.clock) = true ∧
      s.rows.countP (·.isLive s.clock) ≤ 2 ∧
      ∀ t, Runs (permitStep twoPermits) (fun db action => inTime db action = true) s t →
        ExpiryKept s t := by
  refine exists_runs_imp renewedOnce (P := fun s =>
    (s.rows.any fun row => row.id = 7 && !row.isLive s.clock) = true) (by decide +kernel) ?_
  intro s hs hexpired
  obtain ⟨hglobal, _, hkept, _⟩ := permits_stay_bounded hs
  exact ⟨hexpired, hglobal, hkept⟩

/-- A renewal is checked one second before the expiry while a claim that takes over the job has the
row locked. -/
def renewalWaits : List PermitAction :=
  acquireAlone 1 "ada" 7 ++ [.tick 29, .reconcile 2 7, .renew 3 7 30, .tick 2]

/-- **AN EXPIRED PERMIT COMES BACK.** The renewal waits for the row until the permit has expired; the
claim rolls back, and the renewal writes the expiry it had computed before. -/
theorem late_renewal_revives : ∃ s t, Runs (permitStep twoPermits) anyStep (.initial 0) s ∧
      Runs (permitStep twoPermits) anyStep s t ∧
      (s.rows.any fun row => row.id = 7 && !row.isLive s.clock) = true ∧
      (t.rows.any fun row => row.id = 7 && row.isLive t.clock) = true := by
  have hall : (run (guarded (permitStep twoPermits) anyStep) (.initial 0) renewalWaits).map
      (fun s => (s.rows.any fun row => row.id = 7 && !row.isLive s.clock) &&
        ((run (guarded (permitStep twoPermits) anyStep) s [.rollback 2, .renewWrite 3]).map
          fun t => t.rows.any fun row => row.id = 7 && row.isLive t.clock) == some true) =
      some true := by decide +kernel
  obtain ⟨s, hs, htest⟩ := Option.map_eq_some_iff.1 hall
  rw [Bool.and_eq_true, beq_iff_eq] at htest
  obtain ⟨t, ht, hlive⟩ := Option.map_eq_some_iff.1 htest.2
  exact ⟨s, t, runsOfRun hs, runsOfRun ht, htest.1, hlive⟩

end Run

end Breakdown.Ai
