/-
**A LIVE CREDENTIAL KEEPS ITS SECRET, IF ITS EVENT IS
ACKNOWLEDGED.**

A key that some call is about to destroy must be DEAD: not the key of a live binding, and not a key
another call may still bring to life. The key of a superseded row is dead, because every stored key
is fresh and a binding never goes back to an earlier one. The key of a failed command is dead only
if the command really failed: an event that was appended and reported as an error leaves a live
binding whose key the route then destroys.

- `Dead`, `Inv`, `secretStep_inv`: the invariant, kept by every step under the condition;
- `live_secret_present`: in every run in which no create or rotate event is appended
                                    without its acknowledgement (`reportsAppend`);
- `lost_ack_destroys_live_secret`: one lost acknowledgement, and a live binding without a secret.
-/
import Breakdown.EventStore.Histories
import Breakdown.Lib.Transition
import Breakdown.Settings.SecretSystem

namespace Breakdown.Settings

open EventLog Fallible Transition List Function Entity SettingsAggregate

/-! ## §1. What dispatched commands do -/

/-- The key a command refers to. -/
def commandKey : SettingsCommand → Option String
  | .create cmd => some cmd.vaultKeyId
  | .rotate cmd => some cmd.vaultKeyId
  | .revoke _ => none

/-- A route dispatches the key it has stored. -/
theorem command_key {row dispatch} {request : CredentialCall}
    (h : request.command hasRole row = .ok dispatch) :
    commandKey dispatch.command = request.newKey := by
  refine Ends.ok (P := fun d => commandKey d.command = request.newKey) (Q := fun _ => True) ?_ h
  cases request <;> cases row <;>
    simp [CredentialCall.command, foundRow, requireOwnedSettingsBinding, commandKey,
      CredentialCall.newKey]

/-- The key a state is live with. -/
def liveOf (s : SettingsAggregate) : Option String :=
  if s.bindingState = some .active then some s.vaultKeyId else none

/-- A decided command lists exactly its own key, and leaves the binding live with that key, or not
live at all. -/
theorem decided_live (hdec : Decided SettingsAggregate log expected dispatch events) :
    (∀ key, Lists events key → commandKey dispatch.command = some key) ∧
      liveOf (replay SettingsAggregate (log ++ events)) = commandKey dispatch.command := by
  obtain ⟨data, hdata, rfl⟩ := handle_recorded hdec.handled
  obtain ⟨actor, command⟩ := dispatch
  rw [replay_append]
  have hone : ∀ {d : SettingsEvent} {key : String},
      Lists ([d].map fun d => (⟨d, some actor⟩ : Recorded SettingsEvent)) key →
        d.vaultKey = some key := by
    rintro d key ⟨e, he, hk⟩
    rw [map_singleton, mem_singleton] at he
    subst he
    exact hk
  cases command with
  | create =>
    obtain rfl := create_ok (replay SettingsAggregate log) hdata
    exact ⟨fun key hl => hone hl, rfl⟩
  | rotate =>
    obtain ⟨-, -, -, rfl⟩ := rotate_ok hdata
    exact ⟨fun key hl => hone hl, rfl⟩
  | revoke =>
    obtain ⟨-, -, rfl⟩ := revoke_ok hdata
    exact ⟨fun key hl => hone hl, rfl⟩

/-! ## §2. The invariant -/

/-- No live binding has the key, and no call that has stored it may still dispatch it. -/
structure Dead (w : World) (key : String) : Prop where
  stored : w.secrets key ≠ .absent
  pending : ∀ c call, w.calls c = some call → call.phase.stored = true →
    call.request.newKey ≠ some key
  live : ∀ id, w.liveKey id ≠ some key

/-- The invariant of every run. -/
structure Inv (w : World) : Prop where
  streams : ∀ id, SettingsStream id (w.settings.streams id)
  /-- The checks of every call have passed. -/
  routed : ∀ c call, w.calls c = some call →
    ∃ hasRole row, call.request.command hasRole row = .ok call.dispatch
  /-- A key in a stream has been stored. -/
  listed : ∀ id key, Lists (w.settings.streams id) key → w.secrets key ≠ .absent
  /-- **The claim itself.** -/
  live : ∀ id key, w.liveKey id = some key → w.secrets key = .present
  /-- A stored key that is not yet dispatched is intact and in no stream. -/
  pending : ∀ c call key, w.calls c = some call → call.phase.stored = true →
    call.request.newKey = some key →
    w.secrets key = .present ∧ ∀ id, ¬Lists (w.settings.streams id) key
  /-- Two calls never have the same stored key. -/
  distinct : ∀ c c' call call' key, w.calls c = some call → w.calls c' = some call' →
    call.phase.stored = true → call'.phase.stored = true → call.request.newKey = some key →
    call'.request.newKey = some key → c = c'
  /-- The key a call has read is one its binding has listed. -/
  viewed : ∀ c call key, w.calls c = some call → call.phase.early = true →
    call.viewKey = some key → Lists (w.settings.streams call.request.id) key
  doomed : ∀ c call key result, w.calls c = some call → call.phase = .destroying key result →
    Dead w key

theorem inv_init : Inv World.init where
  streams _ := .inl rfl
  routed c call h := by
    cases h
  listed := by
    rintro id key ⟨e, he, -⟩
    cases he
  live id key h := by
    cases h
  pending c call key h := by
    cases h
  distinct c c' call call' key h := by
    cases h
  viewed c call key h := by
    cases h
  doomed c call key result h := by
    cases h

variable {w : World} {c : CallId} {call : Call}

variable {key : String}

/-- The key of a live binding stands in its stream. -/
theorem Inv.lists_live (h : Inv w) {id} (hl : w.liveKey id = some key) :
    Lists (w.settings.streams id) key := by
  unfold World.liveKey at hl
  split at hl
  · next hactive =>
    cases hl
    obtain hnil | ⟨creator, provider, hstream⟩ := h.streams id
    · unfold ActorSystem.entityAt at hactive
      rw [hnil] at hactive
      cases hactive
    · exact hstream.lists_replay
  · cases hl

/-- The call has stored the key and may still dispatch it. -/
def Holds (w : World) (c : CallId) (key : String) : Prop :=
  ∃ call, w.calls c = some call ∧ call.phase.stored = true ∧ call.request.newKey = some key

theorem Inv.held (h : Inv w) (hholds : Holds w c key) :
    w.secrets key = .present ∧ ∀ id, ¬Lists (w.settings.streams id) key := by
  obtain ⟨call, hcall, hstored, hkey⟩ := hholds
  exact h.pending c call key hcall hstored hkey

theorem Inv.held_once (h : Inv w) (hholds : Holds w c key) (hholds' : Holds w c' key) : c = c' := by
  obtain ⟨call, hcall, hstored, hkey⟩ := hholds
  obtain ⟨call', hcall', hstored', hkey'⟩ := hholds'
  exact h.distinct c c' call call' key hcall hcall' hstored hstored' hkey hkey'

theorem Dead.not_held (h : Dead w key) : ¬Holds w c key := by
  rintro ⟨call, hcall, hstored, hkey⟩
  exact h.pending c call hcall hstored hkey

/-- No live binding has the key, and no call but `c` may still dispatch it. -/
structure DeadBut (w : World) (c : CallId) (key : String) : Prop where
  stored : w.secrets key ≠ .absent
  pending : ∀ c', c' ≠ c → ¬Holds w c' key
  live : ∀ id, w.liveKey id ≠ some key

/-- The key of a call that stops before it has dispatched is dead, apart from the call itself. -/
theorem Inv.deadBut_of_holds (h : Inv w) (hholds : Holds w c key) : DeadBut w c key := by
  obtain ⟨hpresent, hunlisted⟩ := h.held hholds
  refine ⟨by rw [hpresent]; simp, ?_, ?_⟩
  · intro c' hne hother
    exact hne (h.held_once hother hholds)
  · intro id hlive
    exact hunlisted id (h.lists_live hlive)

/-- **WHAT A STEP THAT MOVES ONE CALL HAS TO SHOW**: how the store and the Vault look afterwards, what
the moved call stands for, and that it did not spoil anything for the others. -/
structure Moved (w : World) (c : CallId) (new : Call) (w' : World) : Prop where
  streams : ∀ id, SettingsStream id (w'.settings.streams id)
  grows : ∀ id, w.settings.streams id <+: w'.settings.streams id
  listed : ∀ id key, Lists (w'.settings.streams id) key → w'.secrets key ≠ .absent
  live : ∀ id key, w'.liveKey id = some key → w'.secrets key = .present
  routed : ∃ hasRole row, new.request.command hasRole row = .ok new.dispatch
  holds : ∀ key, new.phase.stored = true → new.request.newKey = some key →
    w'.secrets key = .present ∧ (∀ id, ¬Lists (w'.settings.streams id) key) ∧
      ∀ c', c' ≠ c → ¬Holds w c' key
  viewed : ∀ key, new.phase.early = true → new.viewKey = some key →
    Lists (w'.settings.streams new.request.id) key
  doomed : ∀ key result, new.phase = .destroying key result →
    w'.secrets key ≠ .absent ∧ (∀ c', c' ≠ c → ¬Holds w c' key) ∧ ∀ id, w'.liveKey id ≠ some key
  /-- The other calls keep what they have stored. -/
  othersHold : ∀ c' key, c' ≠ c → Holds w c' key →
    w'.secrets key = .present ∧ ∀ id, ¬Lists (w'.settings.streams id) key
  /-- What was dead stays dead. -/
  dead : ∀ key, Dead w key → w'.secrets key ≠ .absent ∧
    (new.phase.stored = true → new.request.newKey ≠ some key) ∧ ∀ id, w'.liveKey id ≠ some key

theorem Inv.moved (h : Inv w) (hcalls : w'.calls = update w.calls c (some new))
    (hm : Moved w c new w') : Inv w' := by
  -- a call of the new world is the moved one, or was there before
  have hback : ∀ c' call', w'.calls c' = some call' →
      (c' = c ∧ call' = new) ∨ (c' ≠ c ∧ w.calls c' = some call') := by
    intro c' call' hc'
    rw [hcalls] at hc'
    exact update_some_cases hc'
  refine ⟨hm.streams, ?_, hm.listed, hm.live, ?_, ?_, ?_, ?_⟩
  · intro c' call' hc'
    obtain ⟨-, rfl⟩ | ⟨-, hold⟩ := hback c' call' hc'
    · exact hm.routed
    · exact h.routed c' call' hold
  · intro c' call' key hc' hs hk
    obtain ⟨-, rfl⟩ | ⟨hne, hold⟩ := hback c' call' hc'
    · obtain ⟨hpresent, hunlisted, -⟩ := hm.holds key hs hk
      exact ⟨hpresent, hunlisted⟩
    · exact hm.othersHold c' key hne ⟨call', hold, hs, hk⟩
  · intro c₁ c₂ call₁ call₂ key h₁ h₂ hs₁ hs₂ hk₁ hk₂
    obtain ⟨rfl, rfl⟩ | ⟨hne₁, hold₁⟩ := hback c₁ call₁ h₁
    · obtain ⟨rfl, -⟩ | ⟨hne₂, hold₂⟩ := hback c₂ call₂ h₂
      · rfl
      · exact absurd ⟨call₂, hold₂, hs₂, hk₂⟩ ((hm.holds key hs₁ hk₁).2.2 c₂ hne₂)
    · obtain ⟨rfl, rfl⟩ | ⟨-, hold₂⟩ := hback c₂ call₂ h₂
      · exact absurd ⟨call₁, hold₁, hs₁, hk₁⟩ ((hm.holds key hs₂ hk₂).2.2 c₁ hne₁)
      · exact h.distinct c₁ c₂ call₁ call₂ key hold₁ hold₂ hs₁ hs₂ hk₁ hk₂
  · intro c' call' key hc' he hk
    obtain ⟨-, rfl⟩ | ⟨-, hold⟩ := hback c' call' hc'
    · exact hm.viewed key he hk
    · exact (h.viewed c' call' key hold he hk).mono (hm.grows _)
  · intro c' call' key result hc' hp
    obtain ⟨-, rfl⟩ | ⟨-, hold⟩ := hback c' call' hc'
    · obtain ⟨hstored, hothers, hlive⟩ := hm.doomed key result hp
      refine ⟨hstored, ?_, hlive⟩
      intro c₁ call₁ h₁ hs₁ hk₁
      obtain ⟨-, rfl⟩ | ⟨hne, hold₁⟩ := hback c₁ call₁ h₁
      · rw [hp] at hs₁
        cases hs₁
      · exact hothers c₁ hne ⟨call₁, hold₁, hs₁, hk₁⟩
    · have hdead := h.doomed c' call' key result hold hp
      obtain ⟨hstored, hnew, hlive⟩ := hm.dead key hdead
      refine ⟨hstored, ?_, hlive⟩
      intro c₁ call₁ h₁ hs₁
      obtain ⟨-, rfl⟩ | ⟨-, hold₁⟩ := hback c₁ call₁ h₁
      · exact hnew hs₁
      · exact hdead.pending c₁ call₁ hold₁ hs₁

/-- A call moves on without touching the store. It may become doomed to destroy a key that is dead
apart from the call itself. -/
theorem Inv.setPhase (h : Inv w) (hcall : w.calls c = some call)
    (hstored : phase.stored → call.phase.stored) (hearly : phase.early → call.phase.early)
    (hdoom : ∀ key result, phase = .destroying key result → DeadBut w c key) :
    Inv (w.setPhase c call phase) := by
  refine h.moved (c := c) rfl ?_
  exact {
    streams := h.streams
    grows _ := prefix_rfl
    listed := h.listed
    live := h.live
    routed := h.routed c call hcall
    holds key hs hk := by
      have hholds : Holds w c key := ⟨call, hcall, hstored hs, hk⟩
      obtain ⟨hpresent, hunlisted⟩ := h.held hholds
      exact ⟨hpresent, hunlisted, (h.deadBut_of_holds hholds).pending⟩
    viewed key he hk := h.viewed c call key hcall (hearly he) hk
    doomed key result hp := by
      have hdead := hdoom key result hp
      exact ⟨hdead.stored, hdead.pending, hdead.live⟩
    othersHold _ _ _ hholds := h.held hholds
    dead _ hdead := ⟨hdead.stored, fun hs => hdead.pending c call hcall (hstored hs), hdead.live⟩ }

/-- A call that has dispatched has nothing left to keep. -/
theorem Inv.finish (h : Inv w) (hcall : w.calls c = some call) (outcome) :
    Inv (w.setPhase c call (.finished outcome)) := by
  refine h.setPhase hcall ?_ ?_ ?_
  · exact nofun
  · exact nofun
  · exact nofun

/-- The key that is destroyed before the answer. -/
theorem destroyThen_key {key} (h : destroyThen key result = .destroying k result') :
    key = some k := by
  cases key with
  | none => cases h
  | some =>
    cases h
    rfl

/-- A call that has stored its key gives up and destroys it. -/
theorem Inv.compensate (h : Inv w) (hcall : w.calls c = some call) (hstored : call.phase.stored)
    (result) : Inv (w.setPhase c call (destroyThen call.request.newKey result)) := by
  have hearly : call.phase.early = true := by
    cases hphase : call.phase <;> rw [hphase] at hstored <;> first | rfl | cases hstored
  refine h.setPhase hcall (fun _ => hstored) (fun _ => hearly) ?_
  intro key _ hp
  exact h.deadBut_of_holds ⟨call, hcall, hstored, destroyThen_key hp⟩

/-! ## §3. The steps that touch a key -/

/-- A row shows a key its binding has listed. -/
theorem lists_row {id} (h : SettingsStream id log)
    (hrow : projectSettings (log.take n) = some row) : Lists log row.vaultKeyId := by
  have hne : log.take n ≠ [] := by
    intro hnil
    rw [hnil] at hrow
    cases hrow
  have hseen : log.take n <+: log := ⟨_, take_append_drop n log⟩
  obtain rfl | ⟨creator, provider, hstream⟩ := h
  · exact absurd take_nil hne
  · obtain ⟨row', hrow', -, -, -, hlists⟩ := (hstream.prefix_ hseen hne).project
    rw [hrow] at hrow'
    cases hrow'
    exact hlists.mono hseen

theorem spawn_inv (h : Inv w) (i request) (hasRole : Bool) (n) :
    Inv (spawn w c i request hasRole n) := by
  unfold spawn
  simp only
  split
  · exact h
  · next dispatch hcmd =>
    -- a new call holds a stored key only in name: a revocation has none
    have hnone : ∀ key, (if request.newKey.isSome then Phase.storing else .dispatching).stored = true →
        request.newKey ≠ some key := by
      intro key hs hk
      rw [hk] at hs
      cases hs
    refine h.moved (c := c) rfl ?_
    exact {
      streams := h.streams
      grows _ := prefix_rfl
      listed := h.listed
      live := h.live
      routed := ⟨_, _, hcmd⟩
      holds key hs hk := absurd hk (hnone key hs)
      viewed key _ hv := by
        simp only at hv
        split at hv
        · rw [Option.map_eq_some_iff] at hv
          obtain ⟨row, hrow, rfl⟩ := hv
          exact lists_row (h.streams request.id) hrow
        · cases hv
      doomed key result hp := by
        simp only at hp
        split at hp <;> cases hp
      othersHold _ _ _ hholds := h.held hholds
      dead key hdead := ⟨hdead.stored, hnone key, hdead.live⟩ }

/-- A key that was absent is stored, and its call goes on to dispatch it. -/
theorem store_inv (h : Inv w) (hcall : w.calls c = some call) (hphase : call.phase = .storing)
    (hkey : call.request.newKey = some key) (habsent : w.secrets key = .absent) (succeeds) :
    Inv (store w c call key succeeds) := by
  unfold store
  split
  · -- nothing that mentions a stored key mentions this one
    have hsecret : ∀ {k : String}, w.secrets k ≠ .absent →
        update w.secrets key Secret.present k = w.secrets k := by
      intro k hk
      refine update_of_ne ?_ ..
      rintro rfl
      exact hk habsent
    have hstored : ∀ {k : String}, w.secrets k ≠ .absent →
        update w.secrets key Secret.present k ≠ .absent := by
      intro k hk
      rwa [hsecret hk]
    have hpresent : ∀ {k : String}, w.secrets k = .present →
        update w.secrets key Secret.present k = .present := by
      intro k hk
      rw [hsecret (by rw [hk]; simp), hk]
    refine h.moved (c := c) rfl ?_
    exact {
      streams := h.streams
      grows _ := prefix_rfl
      listed id k hl := hstored (h.listed id k hl)
      live id k hl := hpresent (h.live id k hl)
      routed := h.routed c call hcall
      holds k _ hk := by
        obtain rfl : key = k := Option.some.inj (hkey.symm.trans hk)
        refine ⟨update_self .., fun id hl => h.listed id key hl habsent, ?_⟩
        intro c' _ hholds
        have hheld := (h.held hholds).1
        rw [habsent] at hheld
        cases hheld
      viewed k _ hk := h.viewed c call k hcall (by rw [hphase]; rfl) hk
      doomed k result hp := by
        simp only at hp
        split at hp <;> cases hp
      othersHold c' k _ hholds := by
        obtain ⟨hheld, hunlisted⟩ := h.held hholds
        exact ⟨hpresent hheld, hunlisted⟩
      dead k hdead := by
        refine ⟨hstored hdead.stored, ?_, hdead.live⟩
        intro _ hk
        obtain rfl : key = k := Option.some.inj (hkey.symm.trans hk)
        exact hdead.stored habsent }
  · exact h.finish hcall _

section Append

variable {settings : ActorSystem Uuid SettingsAggregate} {expected : ExpectedVersion}
  {events : List (Recorded SettingsEvent)}

/-- A key is listed now if it was, or if it is the call's own. -/
theorem lists_appended {request : CredentialCall}
    (hkeys : ∀ key, Lists events key → request.newKey = some key)
    (hstreams : settings.streams = update w.settings.streams request.id
      (w.settings.streams request.id ++ events)) {id key} (hl : Lists (settings.streams id) key) :
    Lists (w.settings.streams id) key ∨ request.newKey = some key := by
  rw [hstreams] at hl
  by_cases hid : id = request.id
  · rw [hid, update_self] at hl
    obtain ⟨e, he, hk⟩ := hl
    obtain hold | hnew := mem_append.1 he
    · exact .inl (hid ▸ ⟨e, hold, hk⟩)
    · exact .inr (hkeys key ⟨e, hnew, hk⟩)
  · rw [update_of_ne hid] at hl
    exact .inl hl

/-- The command's event is appended. The call stops, or goes on to destroy the key it has read. -/
theorem append_inv (h : Inv w) (hcall : w.calls c = some call) (hphase : call.phase = .dispatching)
    {phase : Phase} (hexp : expectation SettingsAggregate call.dispatch = .ok expected)
    (hdec : Decided SettingsAggregate (w.settings.streams call.request.id) expected call.dispatch
      events) (hstreams : settings.streams = update w.settings.streams call.request.id
      (w.settings.streams call.request.id ++ events)) (hlate : phase.early = false)
    (hdoom : ∀ key result, phase = .destroying key result → call.viewKey = some key) :
    Inv (({ w with settings } : World).setPhase c call phase) := by
  obtain ⟨hasRole, row, hcmd⟩ := h.routed c call hcall
  have hholds : ∀ {key : String}, call.request.newKey = some key → Holds w c key := fun hk =>
    ⟨call, hcall, by rw [hphase]; rfl, hk⟩
  obtain ⟨hkeys, hliveNew⟩ := decided_live hdec
  rw [command_key hcmd] at hkeys hliveNew
  have hlists : ∀ {id : Uuid} {key : String}, Lists (settings.streams id) key →
      Lists (w.settings.streams id) key ∨ call.request.newKey = some key :=
    lists_appended hkeys hstreams
  -- the binding is live with the call's own key now, the others are as they were
  have hlive : ∀ {id : Uuid} {key : String},
      (({ w with settings } : World).setPhase c call phase).liveKey id = some key →
      w.liveKey id = some key ∧ id ≠ call.request.id ∨ call.request.newKey = some key := by
    intro id key hl
    replace hl : liveOf (replay SettingsAggregate (settings.streams id)) = some key := hl
    rw [hstreams] at hl
    by_cases hid : id = call.request.id
    · rw [hid, update_self, hliveNew] at hl
      exact .inr hl
    · rw [update_of_ne hid] at hl
      exact .inl ⟨hl, hid⟩
  have hnotStored : phase.stored ≠ true := by
    cases phase <;> first | exact Bool.false_ne_true | cases hlate
  refine h.moved (c := c) rfl ?_
  exact {
    streams id := by
      show SettingsStream id (settings.streams id)
      rw [hstreams]
      by_cases hid : id = call.request.id
      · rw [hid, update_self]
        exact settingsStream_decided (h.streams _) (command_route hcmd hexp) hdec
      · rw [update_of_ne hid]
        exact h.streams id
    grows id := by
      show _ <+: settings.streams id
      rw [hstreams]
      by_cases hid : id = call.request.id
      · rw [hid, update_self]
        exact prefix_append ..
      · rw [update_of_ne hid]
    listed id key hl := by
      obtain hold | hnew := hlists hl
      · exact h.listed id key hold
      · exact (h.deadBut_of_holds (hholds hnew)).stored
    live id key hl := by
      obtain ⟨hold, -⟩ | hnew := hlive hl
      · exact h.live id key hold
      · exact (h.held (hholds hnew)).1
    routed := ⟨hasRole, row, hcmd⟩
    holds _ hs := absurd hs hnotStored
    viewed key he := by
      rw [show phase.early = true from he] at hlate
      cases hlate
    doomed := by
      -- the key that was read is superseded: it is in the stream, the new one was in none
      intro key result hp
      have hview := h.viewed c call key hcall (by rw [hphase]; rfl) (hdoom key result hp)
      refine ⟨h.listed _ key hview, fun c' _ hheld => (h.held hheld).2 _ hview, ?_⟩
      intro id hl
      obtain ⟨hold, hne⟩ | hnew := hlive hl
      · exact hne (SettingsStream.lists_unique (h.streams id) (h.streams _) (h.lists_live hold) hview)
      · exact (h.held (hholds hnew)).2 _ hview
    othersHold c' key hne hheld := by
      refine ⟨(h.held hheld).1, ?_⟩
      intro id hl
      obtain hold | hnew := hlists hl
      · exact (h.held hheld).2 id hold
      · exact hne (h.held_once hheld (hholds hnew))
    dead key hdead := by
      refine ⟨hdead.stored, fun hs => absurd hs hnotStored, ?_⟩
      intro id hl
      obtain ⟨hold, -⟩ | hnew := hlive hl
      · exact hdead.live id hold
      · exact hdead.not_held (hholds hnew) }

end Append

/-- A dead key is destroyed. -/
theorem destroy_inv (h : Inv w) (hcall : w.calls c = some call)
    (hphase : call.phase = .destroying key result) (succeeds) :
    Inv (destroy w c call key result succeeds) := by
  have hdead := h.doomed c call key result hcall hphase
  have hdestroyed : Inv (w.setSecret key .destroyed) := by
    have hstored : ∀ {k : String}, w.secrets k ≠ .absent →
        update w.secrets key Secret.destroyed k ≠ .absent := by
      intro k hk
      by_cases hkk : k = key
      · rw [hkk, update_self]
        simp
      · rwa [update_of_ne hkk]
    have hpresent : ∀ {k : String}, k ≠ key → w.secrets k = .present →
        update w.secrets key Secret.destroyed k = .present := by
      intro k hk hp
      rwa [update_of_ne hk]
    refine ⟨h.streams, h.routed, fun id k hl => hstored (h.listed id k hl), ?_, ?_, h.distinct,
      h.viewed, ?_⟩
    · intro id k hl
      refine hpresent ?_ (h.live id k hl)
      rintro rfl
      exact hdead.live id hl
    · intro c' call' k hc' hs hk
      obtain ⟨hheld, hno⟩ := h.pending c' call' k hc' hs hk
      refine ⟨hpresent ?_ hheld, hno⟩
      rintro rfl
      exact hdead.pending c' call' hc' hs hk
    · intro c' call' k r hc' hp
      have hd := h.doomed c' call' k r hc' hp
      exact ⟨hstored hd.stored, hd.pending, hd.live⟩
  unfold destroy
  split
  · exact hdestroyed.finish hcall _
  · exact h.finish hcall _

/-! ## §4. Runs -/

/-- No create or rotate is dispatched whose append goes through without its acknowledgement. -/
def reportsAppend (w : World) : Action → Bool
  | .dispatch c outcome =>
    match w.calls c with
    | some call => call.request.newKey.isNone || outcome ≠ .lostAck
    | none => true
  | _ => true

/-- The actors do not matter, only the streams. -/
theorem Inv.sameStreams (h : Inv w) (hsame : settings.streams = w.settings.streams) :
    Inv { w with settings } := by
  have hlive : ∀ id, ({ w with settings } : World).liveKey id = w.liveKey id := by
    intro id
    unfold World.liveKey ActorSystem.entityAt
    rw [hsame]
  refine ⟨hsame ▸ h.streams, h.routed, hsame ▸ h.listed, ?_, hsame ▸ h.pending, h.distinct,
    hsame ▸ h.viewed, ?_⟩
  · intro id key hl
    exact h.live id key (hlive id ▸ hl)
  · intro c' call' key result hc' hp
    have hd := h.doomed c' call' key result hc' hp
    exact ⟨hd.stored, hd.pending, fun id => hlive id ▸ hd.live id⟩

theorem dispatch_inv (h : Inv w) (hcall : w.calls c = some call) (hphase : call.phase = .dispatching)
    (hreports : reportsAppend w (.dispatch c outcome)) :
    Inv (dispatchCommand w c call outcome) := by
  have hstored : call.phase.stored = true := by rw [hphase]; rfl
  unfold dispatchCommand
  split
  · exact h.compensate hcall hstored _
  · next expected hexp =>
    rcases hex : w.settings.executeAt call.instanceId call.request.id expected call.dispatch outcome
      with ⟨settings, reply⟩
    simp only
    obtain ⟨events, hdec, hstreams, hreply⟩ | ⟨hsame, hreply⟩ :=
      ActorSystem.executeAt_reply (fun _ => rfl) hex
    · refine append_inv h hcall hphase hexp hdec hstreams ?_ ?_
      · unfold afterDispatch destroyThen
        split <;> split <;> rfl
      · intro key result hp
        obtain rfl | ⟨e, rfl, hlost⟩ := hreply
        · -- reported as appended: the key that was read
          rw [mapExecutedResult_numbered hdec.nonempty] at hp
          exact destroyThen_key hp
        · -- a lost acknowledgement: then the command is a revocation
          simp only [reportsAppend, hcall, hlost, ne_eq, not_true_eq_false, decide_false,
            Bool.or_false, Option.isNone_iff_eq_none] at hreports
          obtain ⟨e', he'⟩ := mapExecutedResult_error (ε := Recorded SettingsEvent) e
          rw [he', afterDispatch, hreports] at hp
          cases hp
    · -- nothing was appended, and no success is reported
      have herr : ∃ e, mapExecutedResult reply = .error e := by
        cases reply with
        | error e => exact mapExecutedResult_error e
        | ok r =>
          rw [hreply r rfl]
          exact ⟨_, rfl⟩
      obtain ⟨e, he⟩ := herr
      rw [he]
      exact (h.sameStreams hsame).compensate hcall hstored _

theorem validate_inv (h : Inv w) (hcall : w.calls c = some call) (hphase : call.phase = .validating)
    (succeeds) : Inv (validate w c call succeeds) := by
  have hstored : call.phase.stored = true := by rw [hphase]; rfl
  cases succeeds with
  | true =>
    refine h.setPhase hcall (fun _ => hstored) (fun _ => by rw [hphase]; rfl) ?_
    intro key result hp
    cases hp
  | false => exact h.compensate hcall hstored _

/-- **EVERY STEP THAT REPORTS ITS APPEND KEEPS THE INVARIANT.** -/
theorem secretStep_inv (h : Inv w) (hreports : reportsAppend w a)
    (hs : secretStep w a = some w') : Inv w' := by
  cases a with simp only [secretStep] at hs
  | spawn c i request hasRole n =>
    split at hs
    · cases hs
    · cases hs
      exact spawn_inv h i request hasRole n
  | store c succeeds =>
    split at hs
    · next hcall =>
      split at hs
      · next key hkey =>
        split at hs
        · next habsent =>
          cases hs
          exact store_inv h hcall rfl hkey habsent succeeds
        · cases hs
      · cases hs
    · cases hs
  | validate c succeeds =>
    split at hs
    · next hcall =>
      cases hs
      exact validate_inv h hcall rfl succeeds
    · cases hs
  | dispatch =>
    split at hs
    · next hcall =>
      cases hs
      exact dispatch_inv h hcall rfl hreports
    · cases hs
  | destroy c succeeds =>
    split at hs
    · next hcall =>
      cases hs
      exact destroy_inv h hcall rfl succeeds
    · cases hs
  | giveUp =>
    split at hs
    · next call hcall =>
      cases hs
      exact h.finish hcall .gaveUp
    · cases hs
  | stopActor =>
    cases hs
    exact h.sameStreams rfl

/-- **A LIVE CREDENTIAL KEEPS ITS SECRET.** In every run in which no create or rotate event is
appended without its acknowledgement: whenever a binding is active with a key, the secret stored
under the key is there. -/
theorem live_secret_present {w : World}
    (hrun : Runs secretStep (fun w a => reportsAppend w a = true) World.init w) {id : Uuid}
    {key : String} (hactive : (w.settings.entityAt id).bindingState = some .active)
    (hkey : (w.settings.entityAt id).vaultKeyId = key) : w.secrets key = .present := by
  have hinv : Inv w := hrun.invariant Inv inv_init fun _ _ _ h hc hs => secretStep_inv h hc hs
  refine hinv.live id key ?_
  unfold World.liveKey
  rw [if_pos hactive, hkey]

/-! ## §5. An acknowledged rotation and one that is not -/

/-- User a binds GDrive credential 1 under the rotation key 11. -/
def createTrace : List Action :=
  [.spawn 0 0 (.createGDrive ⟨"a"⟩ 1 11) true 0, .store 0 true, .dispatch 0 .acknowledged]

/-- User a rotates it to the rotation key 12; the append ends as `outcome` says. -/
def rotateTrace (outcome : AppendOutcome) : List Action :=
  [.spawn 1 0 (.rotateGDrive ⟨"a"⟩ 1 12 1) true 1, .store 1 true, .validate 1 true,
   .dispatch 1 outcome, .destroy 1 true]

/-- Acknowledged: the superseded key is destroyed, the new one is there. -/
theorem live_secret_present_rotated :
    ∃ w, Runs secretStep (fun w a => reportsAppend w a = true) World.init w ∧
      w.secrets (bindingKey 1 (some 11)) = .destroyed ∧
      w.secrets (bindingKey 1 (some 12)) = .present := by
  refine exists_runs_imp (createTrace ++ rotateTrace .acknowledged)
    (P := fun w => (w.settings.entityAt 1).bindingState = some .active ∧
      (w.settings.entityAt 1).vaultKeyId = bindingKey 1 (some 12) ∧
      w.secrets (bindingKey 1 (some 11)) = .destroyed) (by decide +kernel) ?_
  intro w hw ⟨hactive, hkey, hold⟩
  exact ⟨hold, live_secret_present hw hactive hkey⟩

/-- The rotation event is appended, its acknowledgement is lost, and the route compensates: the
binding is active with a key whose secret is destroyed. -/
theorem lost_ack_destroys_live_secret : ∃ w, Runs secretStep anyStep World.init w ∧
      (w.settings.entityAt 1).bindingState = some .active ∧
      (w.settings.entityAt 1).vaultKeyId = bindingKey 1 (some 12) ∧
      w.secrets (bindingKey 1 (some 12)) = .destroyed :=
  exists_runs (createTrace ++ rotateTrace .lostAck) (by decide +kernel)

end Breakdown.Settings
