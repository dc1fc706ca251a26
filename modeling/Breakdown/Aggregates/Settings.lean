/-
**CREDENTIAL BINDINGS** (`core/src/settings/*`,
`infra/src/projectors/settings.rs`, the key names of `infra/src/vault.rs`).

A binding refers to a Vault secret by an opaque key; the secret itself never enters an event. Who
created a binding is not in its events either: it is the actor in the metadata of the bind event,
and the projector copies it into the read model once.

- `SettingsAggregate.handle`, `projectSettings`: the aggregate and its read-model row;
- `BindingStream`: the shape of every stream: bound once, then rotated or revoked, the provider
  fixed, every key one of the binding's own;
- `BindingStream.project`: a row names the true creator and provider, at any lag;
- `bindingKey_inj`: keys of different bindings differ.
-/
import Mathlib.Tactic.SplitIfs
import Breakdown.EventStore.EntityActor
import Breakdown.Lib.Fallible

namespace Breakdown

open Fallible List

/-! ## §1. Events with their metadata -/

/-- An event as stored: its data, and the actor of its metadata. -/
structure Recorded (ε : Type) where
  data : ε
  actor : Option UserId

/-- A command with the metadata it is executed under; every event it emits gets the same actor. -/
structure Dispatch (κ : Type) where
  actor : UserId
  command : κ

/-! ## §2. The aggregate -/

/-- Whether the key of a binding can be used. -/
inductive CredentialBindingState
  | active
  | revoked
  /-- Only ever a view state: the Vault cannot be reached. -/
  | unreachable
  deriving DecidableEq

/-- The binding of a provider to a key that Vault holds. -/
structure SettingsAggregate where
  id : Uuid := .nil
  provider : String := ""
  vaultKeyId : String := ""
  vaultVersion : Nat := 0
  bindingState : Option CredentialBindingState := none
  version : AggregateVersion := .initial

/-- What happens to a binding. -/
inductive SettingsEvent
  | credentialBound (id : Uuid) (provider vaultKeyId : String) (vaultVersion : Nat)
      (version : AggregateVersion)
  | credentialRotated (id : Uuid) (provider vaultKeyId : String) (vaultVersion : Nat)
      (version : AggregateVersion)
  | credentialRevoked (id : Uuid) (version : AggregateVersion)
  deriving DecidableEq

/-- Why a binding command is refused. -/
inductive SettingsError
  | emptyProvider
  | emptyVaultKey
  | providerMismatch
  | notFound
  | alreadyRevoked
  | versionMismatch (expected actual : AggregateVersion)

/-- Bind a key that Vault holds. -/
structure CreateCredentialBinding where
  id : Uuid
  provider : String
  vaultKeyId : String
  vaultVersion : Nat

/-- Replace the key. -/
structure RotateCredentialBinding where
  id : Uuid
  provider : String
  vaultKeyId : String
  vaultVersion : Nat
  version : AggregateVersion

/-- Give the key up. -/
structure RevokeCredential where
  id : Uuid
  version : AggregateVersion

/-- The commands of a binding. -/
inductive SettingsCommand
  | create (cmd : CreateCredentialBinding)
  | rotate (cmd : RotateCredentialBinding)
  | revoke (cmd : RevokeCredential)

namespace SettingsAggregate

/-- `Apply for SettingsAggregate`. -/
def apply (self : SettingsAggregate) : SettingsEvent → SettingsAggregate
  | .credentialBound id provider vaultKeyId vaultVersion version =>
    { id, provider, vaultKeyId, vaultVersion, bindingState := some .active, version }
  | .credentialRotated _ provider vaultKeyId vaultVersion version =>
    { self with provider, vaultKeyId, vaultVersion, bindingState := some .active, version }
  | .credentialRevoked _ version => { self with bindingState := some .revoked, version }

/-- `Command<CreateCredentialBinding>`: the stream's emptiness is checked by the adapter. -/
def create (_self : SettingsAggregate) (cmd : CreateCredentialBinding) :
    Except SettingsError (List SettingsEvent) :=
  if isBlank cmd.provider then .error .emptyProvider
  else if isBlank cmd.vaultKeyId then .error .emptyVaultKey
  else .ok [.credentialBound cmd.id cmd.provider cmd.vaultKeyId cmd.vaultVersion .initial]

/-- `Command<RotateCredentialBinding>`. -/
def rotate (self : SettingsAggregate) (cmd : RotateCredentialBinding) :
    Except SettingsError (List SettingsEvent) :=
  if self.bindingState.isNone then .error .notFound
  else if self.bindingState = some .revoked then .error .alreadyRevoked
  else if isBlank cmd.provider then .error .emptyProvider
  else if cmd.provider ≠ self.provider then .error .providerMismatch
  else if isBlank cmd.vaultKeyId then .error .emptyVaultKey
  else if cmd.version ≠ self.version then .error (.versionMismatch cmd.version self.version)
  else .ok [.credentialRotated self.id cmd.provider cmd.vaultKeyId cmd.vaultVersion
    self.version.next]

/-- `Command<RevokeCredential>`. -/
def revoke (self : SettingsAggregate) (cmd : RevokeCredential) :
    Except SettingsError (List SettingsEvent) :=
  if self.bindingState.isNone then .error .notFound
  else if self.bindingState = some .revoked then .error .alreadyRevoked
  else if cmd.version ≠ self.version then .error (.versionMismatch cmd.version self.version)
  else .ok [.credentialRevoked self.id self.version.next]

variable {events : List SettingsEvent}

/-- What an accepted create says, and the event it emits. -/
theorem create_ok (self : SettingsAggregate) (h : self.create cmd = .ok events) : events =
      [.credentialBound cmd.id cmd.provider cmd.vaultKeyId cmd.vaultVersion .initial] := by
  unfold create at h
  split at h
  · cases h
  · split at h
    · cases h
    · cases h
      rfl

/-- What an accepted rotation says, and the event it emits. -/
theorem rotate_ok {self : SettingsAggregate} (h : self.rotate cmd = .ok events) :
    self.bindingState.isSome ∧ cmd.provider = self.provider ∧ cmd.version = self.version ∧
      events = [.credentialRotated self.id cmd.provider cmd.vaultKeyId cmd.vaultVersion
        self.version.next] := by
  unfold rotate at h
  split_ifs at h with hnone _ _ hprov _ hver
  cases h
  refine ⟨?_, by simpa using hprov, by simpa using hver, rfl⟩
  rw [Option.isSome_iff_ne_none]
  simpa using hnone

/-- What an accepted revocation says, and the event it emits. -/
theorem revoke_ok {self : SettingsAggregate} (h : self.revoke cmd = .ok events) :
    self.bindingState.isSome ∧ cmd.version = self.version ∧
      events = [.credentialRevoked self.id self.version.next] := by
  unfold revoke at h
  split_ifs at h with hnone _ hver
  cases h
  refine ⟨?_, by simpa using hver, rfl⟩
  rw [Option.isSome_iff_ne_none]
  simpa using hnone

/-- The handler of each command. -/
def handle (self : SettingsAggregate) : SettingsCommand → Except SettingsError (List SettingsEvent)
  | .create cmd => self.create cmd
  | .rotate cmd => self.rotate cmd
  | .revoke cmd => self.revoke cmd

end SettingsAggregate

instance : Entity SettingsAggregate (Recorded SettingsEvent) (Dispatch SettingsCommand)
    SettingsError where
  init := {}
  apply self e := self.apply e.data
  handle self dispatch := match self.handle dispatch.command with
    | .error e => .error e
    | .ok events => .ok (events.map fun data => ⟨data, some dispatch.actor⟩)

instance : IntoDomainError SettingsError where
  intoDomainError
    | .emptyProvider => .validation .settingsEmptyProvider "credential provider must not be empty"
    | .emptyVaultKey => .validation .settingsEmptyVaultKey "vault key reference must not be empty"
    | .providerMismatch =>
      .conflict .settingsProviderMismatch "credential provider cannot change during rotation"
    | .notFound => .notFound .settingsNotFound "settings-credential" .nil
    | .alreadyRevoked => .conflict .settingsAlreadyRevoked "credential binding is already revoked"
    | .versionMismatch expected actual => .versionConflict expected actual

/-! ## §3. The read model -/

/-- The row of the settings projection. -/
structure SettingsView where
  id : Uuid
  provider : String
  vaultKeyId : String
  vaultVersion : Nat
  bindingState : CredentialBindingState
  version : AggregateVersion
  /-- Who created the binding; `none` only for rows older than actor metadata. -/
  owner : Option UserId
  deriving DecidableEq

/-- `SettingsProjector::handle` on the row of one binding. Only a newer version overwrites; a
rotation leaves the owner alone. -/
def projectEvent (row : Option SettingsView) (e : Recorded SettingsEvent) : Option SettingsView :=
  match e.data, row with
  | .credentialBound id provider vaultKeyId vaultVersion version, none =>
    some ⟨id, provider, vaultKeyId, vaultVersion, .active, version, e.actor⟩
  | .credentialBound id provider vaultKeyId vaultVersion version, some row =>
    if row.version < version then
      some ⟨id, provider, vaultKeyId, vaultVersion, .active, version, e.actor⟩
    else some row
  | .credentialRotated _ provider vaultKeyId vaultVersion version, some row =>
    if row.version < version then
      some { row with provider, vaultKeyId, vaultVersion, bindingState := .active, version }
    else some row
  | .credentialRevoked _ version, some row =>
    if row.version < version then some { row with bindingState := .revoked, version }
    else some row
  | _, none => none

/-- The row after the projector has handled these events of a binding. -/
def projectSettings (log : List (Recorded SettingsEvent)) : Option SettingsView :=
  log.foldl projectEvent none

/-- `ORDER BY version DESC LIMIT 1`, one row at a time. -/
def newerRow (best : Option SettingsView) (row : SettingsView) : Option SettingsView :=
  match best with
  | none => some row
  | some b => if b.version < row.version then some row else some b

/-- `find_by_vault_key` over the rows of the table: the newest row that has the key. -/
def findByVaultKey (rows : List SettingsView) (vaultKeyId : String) : Option SettingsView :=
  (rows.filter (·.vaultKeyId == vaultKeyId)).foldl newerRow none

/-- What `find_by_vault_key` finds is a row of the table that has the key. -/
theorem findByVaultKey_mem {vaultKeyId} (h : findByVaultKey rows vaultKeyId = some row) :
    row ∈ rows ∧ row.vaultKeyId = vaultKeyId := by
  have hfold : ∀ (l : List SettingsView) (best : Option SettingsView),
      l.foldl newerRow best = some row → best = some row ∨ row ∈ l := by
    intro l
    induction l with
    | nil => exact fun best hb => .inl hb
    | cons r rest ih =>
      intro best hb
      obtain hbest | hmem := ih _ hb
      · unfold newerRow at hbest
        split at hbest
        · cases hbest
          exact .inr mem_cons_self
        · split at hbest
          · cases hbest
            exact .inr mem_cons_self
          · exact .inl hbest
      · exact .inr (mem_cons_of_mem r hmem)
  obtain hnone | hmem := hfold _ none h
  · cases hnone
  · rw [mem_filter, beq_iff_eq] at hmem
    exact hmem

/-! ## §4. Vault keys -/

/-- The key a secret is stored under: `settings-{id}` for a plain credential (`store`),
`settings-{id}-{uuid}` for each GDrive bundle (`store_gdrive`). -/
def bindingKey (settingsId : Uuid) : Option Uuid → String
  | none => "settings-" ++ settingsId.toDisplay
  | some rotation => "settings-" ++ settingsId.toDisplay ++ "-" ++ rotation.toDisplay

/-- Both forms start with the id they belong to. -/
theorem bindingKey_toList (settingsId rotation) : ∃ rest, (bindingKey settingsId rotation).toList =
      "settings-".toList ++ (settingsId.toDisplay.toList ++ rest) := by
  cases rotation with
  | none => exact ⟨[], by simp [bindingKey]⟩
  | some r => exact ⟨'-' :: r.toDisplay.toList, by simp [bindingKey]⟩

/-- A key names its binding. -/
theorem bindingKey_inj (h : bindingKey a r = bindingKey b s) : a = b := by
  obtain ⟨restA, hA⟩ := bindingKey_toList a r
  obtain ⟨restB, hB⟩ := bindingKey_toList b s
  have hl : "settings-".toList ++ (a.toDisplay.toList ++ restA) =
      "settings-".toList ++ (b.toDisplay.toList ++ restB) := by
    rw [← hA, ← hB, h]
  have htail := append_cancel_left hl
  obtain ⟨hid, -⟩ := append_inj htail
    (by rw [Uuid.length_toDisplay, Uuid.length_toDisplay])
  exact Uuid.toDisplay_inj (String.toList_inj.1 hid)

/-! ## §5. The shape of a binding's stream -/

/-- The key an event puts into the binding. -/
def SettingsEvent.vaultKey : SettingsEvent → Option String
  | .credentialBound _ _ vaultKeyId _ _ => some vaultKeyId
  | .credentialRotated _ _ vaultKeyId _ _ => some vaultKeyId
  | .credentialRevoked .. => none

/-- The stream has put the key into the binding at some time. -/
def Lists (log : List (Recorded SettingsEvent)) (vaultKeyId : String) : Prop :=
  ∃ e ∈ log, e.data.vaultKey = some vaultKeyId

instance (log : List (Recorded SettingsEvent)) (vaultKeyId : String) :
    Decidable (Lists log vaultKeyId) := inferInstanceAs (Decidable (∃ e ∈ log, _))

theorem Lists.append {vaultKeyId} (h : Lists log vaultKeyId) (events) :
    Lists (log ++ events) vaultKeyId := by
  obtain ⟨e, he, hk⟩ := h
  exact ⟨e, mem_append_left _ he, hk⟩

theorem Lists.mono {vaultKeyId} (h : Lists log vaultKeyId) (hle : log <+: log') :
    Lists log' vaultKeyId := by
  obtain ⟨rest, rfl⟩ := hle
  exact h.append rest

/-- Who created the binding: the actor of its first event. -/
def bindingCreator (log : List (Recorded SettingsEvent)) : Option UserId := match log.head? with
  | some ⟨.credentialBound .., actor⟩ => actor
  | _ => none

/-- The provider the binding was created for. -/
def bindingProvider (log : List (Recorded SettingsEvent)) : Option String := match log.head? with
  | some ⟨.credentialBound _ provider _ _ _, _⟩ => some provider
  | _ => none

/-- The stream of binding `id`, created by `creator` for `provider`: bound once, then rotated and
revoked, the provider fixed, every key one of the binding's own. -/
inductive BindingStream (id : Uuid) (creator : UserId) (provider : String) :
    List (Recorded SettingsEvent) → Prop
  | bound (rotation : Option Uuid) (vaultVersion : Nat) (version : AggregateVersion) :
      BindingStream id creator provider
        [⟨.credentialBound id provider (bindingKey id rotation) vaultVersion version, some creator⟩]
  | rotated {log : List (Recorded SettingsEvent)} (h : BindingStream id creator provider log)
      (rotation : Option Uuid) (vaultVersion : Nat) (version : AggregateVersion)
      (actor : Option UserId) :
      BindingStream id creator provider (log ++
        [⟨.credentialRotated id provider (bindingKey id rotation) vaultVersion version, actor⟩])
  | revoked {log : List (Recorded SettingsEvent)} (h : BindingStream id creator provider log)
      (version : AggregateVersion) (actor : Option UserId) :
      BindingStream id creator provider (log ++ [⟨.credentialRevoked id version, actor⟩])

namespace BindingStream

variable {id : Uuid} {creator : UserId} {provider : String} {log : List (Recorded SettingsEvent)}

section

variable (h : BindingStream id creator provider log)
include h

theorem ne_nil : log ≠ [] := by
  cases h <;> simp

/-- The creator and the provider are those of the first event. -/
theorem head : ∃ key vaultVersion version, log.head? =
      some ⟨.credentialBound id provider key vaultVersion version, some creator⟩ := by
  induction h with
  | bound => exact ⟨_, _, _, rfl⟩
  | rotated h _ _ _ _ ih | revoked h _ _ ih =>
    obtain ⟨key, vv, v, hhead⟩ := ih
    exact ⟨key, vv, v, by rw [head?_append, hhead]; rfl⟩

theorem creator_eq : bindingCreator log = some creator := by
  obtain ⟨_, _, _, hhead⟩ := h.head
  rw [bindingCreator, hhead]

theorem provider_eq : bindingProvider log = some provider := by
  obtain ⟨_, _, _, hhead⟩ := h.head
  rw [bindingProvider, hhead]

/-- A stream has one creator and one provider. -/
theorem unique (h' : BindingStream id creator' provider' log) :
    creator = creator' ∧ provider = provider' := by
  exact ⟨Option.some.inj (h.creator_eq.symm.trans h'.creator_eq),
    Option.some.inj (h.provider_eq.symm.trans h'.provider_eq)⟩

theorem key_own {vaultKeyId} (hl : Lists log vaultKeyId) :
    ∃ rotation, vaultKeyId = bindingKey id rotation := by
  obtain ⟨e, he, hk⟩ := hl
  induction h with
  | bound rotation =>
    rw [mem_singleton] at he
    subst he
    cases hk
    exact ⟨rotation, rfl⟩
  | rotated _ rotation _ _ _ ih =>
    rw [mem_append, mem_singleton] at he
    obtain hold | rfl := he
    · exact ih hold
    · cases hk
      exact ⟨rotation, rfl⟩
  | revoked _ _ _ ih =>
    rw [mem_append, mem_singleton] at he
    obtain hold | rfl := he
    · exact ih hold
    · cases hk

/-- Every non-empty prefix is such a stream again: any lag shows a binding of the same creator and
provider. -/
theorem prefix_ (hseen : seen <+: log)
    (hne : seen ≠ []) : BindingStream id creator provider seen := by
  induction h with
  | bound rotation vaultVersion version =>
    have hpos := length_pos_iff.2 hne
    have hle := hseen.length_le
    rw [length_singleton] at hle
    rw [hseen.eq_of_length (by rw [length_singleton]; omega)]
    exact .bound rotation vaultVersion version
  | rotated h rotation vaultVersion version actor ih =>
    obtain heq | hle := prefix_concat_iff.1 hseen
    · rw [heq]
      exact .rotated h rotation vaultVersion version actor
    · exact ih hle
  | revoked h version actor ih =>
    obtain heq | hle := prefix_concat_iff.1 hseen
    · rw [heq]
      exact .revoked h version actor
    · exact ih hle

/-- The folded state knows the id and the provider. -/
theorem replay : (Entity.replay SettingsAggregate log).id = id ∧
      (Entity.replay SettingsAggregate log).provider = provider ∧
      (Entity.replay SettingsAggregate log).bindingState.isSome := by
  induction h with
  | bound => exact ⟨rfl, rfl, rfl⟩
  | rotated _ _ _ _ _ ih =>
    rw [replay_append]
    exact ⟨ih.1, rfl, rfl⟩
  | revoked _ _ _ ih =>
    rw [replay_append]
    exact ⟨ih.1, ih.2.1, rfl⟩

/-- The key of the folded state is one the stream has listed. -/
theorem lists_replay : Lists log (Entity.replay SettingsAggregate log).vaultKeyId := by
  induction h with
  | bound => exact ⟨_, mem_singleton_self _, rfl⟩
  | rotated =>
    rw [replay_append]
    exact ⟨_, mem_append_right _ (mem_singleton_self _), rfl⟩
  | revoked _ _ _ ih =>
    rw [replay_append]
    exact ih.append _

/-- **A ROW TELLS THE TRUTH.** The projected row of a binding names its creator and its provider
and a key the binding has listed. -/
theorem project : ∃ row, projectSettings log = some row ∧ row.id = id ∧ row.provider = provider ∧
      row.owner = some creator ∧ Lists log row.vaultKeyId := by
  induction h with
  | bound => exact ⟨_, rfl, rfl, rfl, rfl, _, mem_singleton_self _, rfl⟩
  | @rotated log _ rotation vaultVersion version actor ih =>
    obtain ⟨row, hrow, hid, hprov, howner, hkey⟩ := ih
    rw [projectSettings, foldl_append, ← projectSettings, hrow, foldl_cons, foldl_nil]
    simp only [projectEvent]
    split
    · exact ⟨_, rfl, hid, rfl, howner, _, mem_append_right _ (mem_singleton_self _), rfl⟩
    · exact ⟨row, rfl, hid, hprov, howner, hkey.append _⟩
  | @revoked log _ version actor ih =>
    obtain ⟨row, hrow, hid, hprov, howner, hkey⟩ := ih
    rw [projectSettings, foldl_append, ← projectSettings, hrow, foldl_cons, foldl_nil]
    simp only [projectEvent]
    split
    · exact ⟨_, rfl, hid, hprov, howner, hkey.append _⟩
    · exact ⟨row, rfl, hid, hprov, howner, hkey.append _⟩

end

end BindingStream

end Breakdown
