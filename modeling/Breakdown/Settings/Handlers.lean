/-
**WHAT THE CREDENTIAL ROUTES CHECK AND DISPATCH**
(`api/src/handlers/mod.rs`: `create_credential`, `create_gdrive_credential`,
`rotate_gdrive_credential`, `revoke_settings`; the settings adapters of `command_adapters.rs`).

Every route checks the caller's role, the two that change a binding also read its row and check its
owner. What is left is one command for the settings aggregate.

- `CredentialCall.command`: the checks of a route, and the command it dispatches;
- `SettingsStream`: a stream is empty or a `BindingStream`;
- `settingsStream_decided`: every dispatched command keeps it so.
-/
import Breakdown.EventStore.ActorSystem
import Breakdown.Aggregates.Versions

namespace Breakdown.Settings

open EventLog Fallible Entity

/-! ## §1. The routes -/

/-- A request to one of the credential routes. `id` and `rotation` are what `Uuid::now_v7()` gives
where the route makes them up. -/
inductive CredentialCall
  | create (caller : UserId) (id : Uuid) (provider : String)
  | createGDrive (caller : UserId) (id : Uuid) (rotation : Uuid)
  | rotateGDrive (caller : UserId) (id : Uuid) (rotation : Uuid) (version : AggregateVersion)
  | revoke (caller : UserId) (id : Uuid) (version : AggregateVersion)

/-- The binding a call is about. -/
def CredentialCall.id : CredentialCall → Uuid
  | .create _ id _ | .createGDrive _ id _ | .rotateGDrive _ id _ _ | .revoke _ id _ => id

/-- `require_owned_settings_binding`. -/
def requireOwnedSettingsBinding (view : SettingsView) (caller : UserId) : Except ApiError Unit :=
  ensure (view.owner = some caller)
    (.settingsBindingForbidden "the credential binding is not owned by the authenticated caller")

/-- `find_by_id` on the row a route reads. -/
def foundRow (id : Uuid) : Option SettingsView → Except ApiError SettingsView
  | some view => .ok view
  | none => .error (.domain (.notFound .settingsNotFound "settings" id))

/-- The version `store_secret` reports for every new key. -/
def storedVaultVersion : Nat := 1

/-- What a route checks, and the command it dispatches. `hasRole` is the answer of the membership
gate, `row` the projected row of the binding at the time the route reads it. -/
def CredentialCall.command (hasRole : Bool) (row : Option SettingsView) :
    CredentialCall → Except ApiError (Dispatch SettingsCommand)
  | .create caller id provider => do
      ensure hasRole (.settingsForbidden "not authorized to manage external credentials")
      ensure (!isBlank provider) (.validation "provider must not be empty")
      .ok ⟨caller, .create ⟨id, provider, bindingKey id none, storedVaultVersion⟩⟩
  | .createGDrive caller id rotation => do
      ensure hasRole (.settingsForbidden "not authorized to manage external credentials")
      .ok ⟨caller, .create ⟨id, "gdrive", bindingKey id (some rotation), storedVaultVersion⟩⟩
  | .rotateGDrive caller id rotation version => do
      ensure hasRole (.settingsForbidden "not authorized to manage external credentials")
      let view ← foundRow id row
      requireOwnedSettingsBinding view caller
      ensure (view.provider = "gdrive" && view.bindingState ≠ .revoked)
        (.conflict "non-revoked GDrive credential binding required")
      .ok ⟨caller, .rotate ⟨id, "gdrive", bindingKey id (some rotation), storedVaultVersion, version⟩⟩
  | .revoke caller id version => do
      ensure hasRole (.settingsForbidden "not authorized to manage external credentials")
      let view ← foundRow id row
      requireOwnedSettingsBinding view caller
      .ok ⟨caller, .revoke ⟨id, version⟩⟩

/-! ## §2. The shape of the streams -/

/-- A settings stream: no event yet, or the stream of a binding. -/
def SettingsStream (id : Uuid) (log : List (Recorded SettingsEvent)) : Prop :=
  log = [] ∨ ∃ creator provider, BindingStream id creator provider log

variable {log : List (Recorded SettingsEvent)} {dispatch : Dispatch SettingsCommand}

/-- A growing settings stream keeps its creator and its provider. -/
theorem SettingsStream.grown {id} (h' : SettingsStream id log')
    (h : BindingStream id creator provider log) (hle : log <+: log') :
    BindingStream id creator provider log' := by
  obtain rfl | ⟨creator', provider', hstream⟩ := h'
  · exact absurd (List.prefix_nil.1 hle) h.ne_nil
  · obtain ⟨rfl, rfl⟩ := h.unique (hstream.prefix_ hle h.ne_nil)
    exact hstream

theorem SettingsStream.lists {id} (h : SettingsStream id log) (hl : Lists log key) :
    ∃ creator provider, BindingStream id creator provider log := by
  obtain rfl | hstream := h
  · obtain ⟨e, he, -⟩ := hl
    cases he
  · exact hstream

/-- A key is listed by one binding only: it starts with the binding's id. -/
theorem SettingsStream.lists_unique {id} (h : SettingsStream id log)
    (h' : SettingsStream id' log') (hl : Lists log key) (hl' : Lists log' key) : id = id' := by
  obtain ⟨creator, provider, hstream⟩ := h.lists hl
  obtain ⟨creator', provider', hstream'⟩ := h'.lists hl'
  obtain ⟨r, hr⟩ := hstream.key_own hl
  obtain ⟨r', hr'⟩ := hstream'.key_own hl'
  exact bindingKey_inj (hr.symm.trans hr')

/-- Commands the routes dispatch for binding `id`. -/
inductive RouteCommand (id : Uuid) : SettingsCommand → ExpectedVersion → Prop
  | create (provider : String) (rotation : Option Uuid) :
      RouteCommand id (.create ⟨id, provider, bindingKey id rotation, storedVaultVersion⟩) .empty
  | rotate (provider : String) (rotation : Option Uuid) (version : AggregateVersion)
      (expected : ExpectedVersion) :
      RouteCommand id
        (.rotate ⟨id, provider, bindingKey id rotation, storedVaultVersion, version⟩) expected
  | revoke (version : AggregateVersion) (expected : ExpectedVersion) :
      RouteCommand id (.revoke ⟨id, version⟩) expected

theorem command_route {row} {call : CredentialCall} (h : call.command hasRole row = .ok dispatch)
    (hexp : expectation SettingsAggregate dispatch = .ok expected) :
    RouteCommand call.id dispatch.command expected := by
  cases call with
  | create caller id provider =>
    simp only [CredentialCall.command, check_eq_ok] at h
    obtain ⟨-, -, hd⟩ := h
    cases hd
    cases hexp
    exact .create provider none
  | createGDrive caller id rotation =>
    simp only [CredentialCall.command, check_eq_ok] at h
    obtain ⟨-, hd⟩ := h
    cases hd
    cases hexp
    exact .create "gdrive" (some rotation)
  | rotateGDrive caller id rotation version =>
    simp only [CredentialCall.command, check_eq_ok] at h
    obtain ⟨-, hd⟩ := h
    obtain ⟨view, -, hd⟩ := seq_eq_ok.1 hd
    simp only [check_eq_ok] at hd
    obtain ⟨-, -, hd⟩ := hd
    cases hd
    exact .rotate "gdrive" (some rotation) version expected
  | revoke caller id version =>
    simp only [CredentialCall.command, check_eq_ok] at h
    obtain ⟨-, hd⟩ := h
    obtain ⟨view, -, hd⟩ := seq_eq_ok.1 hd
    simp only [check_eq_ok] at hd
    obtain ⟨-, hd⟩ := hd
    cases hd
    exact .revoke version expected

/-- The recorded events of an accepted command carry the dispatching actor. -/
theorem handle_recorded {self : SettingsAggregate}
    (h : handle self dispatch = .ok events) : ∃ data, self.handle dispatch.command = .ok data ∧
      events = data.map fun d => ⟨d, some dispatch.actor⟩ := by
  simp only [handle] at h
  cases hdata : self.handle dispatch.command with
  | error =>
    rw [hdata] at h
    cases h
  | ok data =>
    rw [hdata] at h
    cases h
    exact ⟨data, rfl, rfl⟩

/-- A command decided on a settings stream extends it to a settings stream. -/
theorem settingsStream_decided {id : Uuid} (h : SettingsStream id log)
    (hroute : RouteCommand id dispatch.command expected)
    (hdec : Decided SettingsAggregate log expected dispatch events) :
    SettingsStream id (log ++ events) := by
  obtain ⟨data, hdata, rfl⟩ := handle_recorded hdec.handled
  obtain ⟨actor, command⟩ := dispatch
  simp only at hroute hdata ⊢
  cases hroute with
  | create provider rotation =>
    -- a create expects an empty stream
    have hsat := hdec.satisfied
    rw [isSatisfiedBy_empty, versionOf_eq_empty] at hsat
    subst hsat
    obtain rfl := SettingsAggregate.create_ok (replay SettingsAggregate []) hdata
    exact .inr ⟨actor, provider, .bound rotation _ _⟩
  | rotate provider rotation =>
    obtain ⟨hsome, hprov, -, rfl⟩ := SettingsAggregate.rotate_ok hdata
    obtain rfl | ⟨creator, provider', hstream⟩ := h
    · cases hsome
    · obtain ⟨hid, hprov', -⟩ := hstream.replay
      simp only at hprov
      rw [hprov'] at hprov
      subst hprov
      rw [hid]
      exact .inr ⟨creator, provider, hstream.rotated rotation _ _ _⟩
  | revoke =>
    obtain ⟨hsome, -, rfl⟩ := SettingsAggregate.revoke_ok hdata
    obtain rfl | ⟨creator, provider', hstream⟩ := h
    · cases hsome
    · obtain ⟨hid, -, -⟩ := hstream.replay
      rw [hid]
      exact .inr ⟨creator, provider', hstream.revoked _ _⟩

end Breakdown.Settings
