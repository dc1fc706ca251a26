/-
**SECRETS IN THE VAULT, REFERENCES IN THE STREAM**
(`create_gdrive_credential`, `rotate_gdrive_credential`, `revoke_settings` and `create_credential`
of `api/src/handlers/mod.rs`; `store_secret`, `destroy` of `infra/src/vault.rs`).

A route first stores a secret under a fresh key, then dispatches the command that refers to it. If
the command reports an error, the route destroys the key it has just stored; if a rotation or a
revocation succeeds, it destroys the key it has read from the settings row before.

Two systems, no transaction across them: storing, validating, dispatching and destroying are
separate actions, rows may lag behind, and an append may go through without an acknowledgement.
-/
import Breakdown.Settings.Handlers

namespace Breakdown.Settings

open EventLog Fallible

/-! ## §1. The Vault -/

/-- What the Vault holds under a key. A destroyed key never comes back. -/
inductive Secret
  | absent
  | present
  | destroyed
  deriving DecidableEq

/-! ## §2. Calls -/

/-- The key a route stores its secret under. -/
def CredentialCall.newKey : CredentialCall → Option String
  | .create _ id _ => some (bindingKey id none)
  | .createGDrive _ id rotation => some (bindingKey id (some rotation))
  | .rotateGDrive _ id rotation _ => some (bindingKey id (some rotation))
  | .revoke .. => none

/-- Does the route read the settings row first? -/
def CredentialCall.readsRow : CredentialCall → Bool
  | .create .. | .createGDrive .. => false
  | .rotateGDrive .. | .revoke .. => true

/-- Only a rotation validates the stored bundle against the provider. -/
def CredentialCall.validates : CredentialCall → Bool
  | .rotateGDrive .. => true
  | _ => false

/-- How a call ended. -/
inductive CallOutcome
  | answered (result : Except ApiError AggregateVersion)
  /-- The request was dropped or its instance crashed. -/
  | gaveUp

/-- Where a credential call stands. -/
inductive Phase
  /-- About to store the secret. -/
  | storing
  /-- A rotation, about to validate the stored bundle. -/
  | validating
  /-- About to dispatch the command. -/
  | dispatching
  /-- About to destroy a key, best effort; the answer is settled. -/
  | destroying (key : String) (result : Except ApiError AggregateVersion)
  | finished (outcome : CallOutcome)

/-- The call has stored its secret and not yet dispatched. -/
def Phase.stored : Phase → Bool
  | .validating | .dispatching => true
  | .storing | .destroying .. | .finished _ => false

/-- The call has not yet dispatched. -/
def Phase.early : Phase → Bool
  | .storing | .validating | .dispatching => true
  | .destroying .. | .finished _ => false

/-- A call past its checks. -/
structure Call where
  instanceId : InstanceId
  request : CredentialCall
  /-- The command the checks let through. -/
  dispatch : Dispatch SettingsCommand
  /-- The key of the row the route has read. -/
  viewKey : Option String
  phase : Phase

/-- The bindings, the Vault and the calls. -/
structure World where
  settings : ActorSystem Uuid SettingsAggregate
  secrets : String → Secret
  calls : CallId → Option Call

namespace World

def init : World where
  settings := .init
  secrets := fun _ => .absent
  calls := fun _ => none

def setPhase (w : World) (c : CallId) (call : Call) (phase : Phase) : World :=
  { w with calls := Function.update w.calls c (some { call with phase }) }

def setSecret (w : World) (key : String) (secret : Secret) : World :=
  { w with secrets := Function.update w.secrets key secret }

/-- The key a live binding refers to. -/
def liveKey (w : World) (id : Uuid) : Option String :=
  if (w.settings.entityAt id).bindingState = some .active then
    some (w.settings.entityAt id).vaultKeyId
  else none

end World

/-- Destroy a key if there is one, then answer. -/
def destroyThen (key : Option String) (result : Except ApiError AggregateVersion) : Phase :=
  match key with
  | some key => .destroying key result
  | none => .finished (.answered result)

/-! ## §3. The steps -/

/-- The checks of a route. `n` is how many events of the binding the row reflects. -/
def spawn (w : World) (c : CallId) (i : InstanceId) (request : CredentialCall) (hasRole : Bool)
    (n : Nat) : World :=
  let row := projectSettings ((w.settings.streams request.id).take n)
  match request.command hasRole row with
  | .error _ => w
  | .ok dispatch =>
    let viewKey := if request.readsRow then row.map (·.vaultKeyId) else none
    let phase := if request.newKey.isSome then .storing else .dispatching
    let call : Call := ⟨i, request, dispatch, viewKey, phase⟩
    { w with calls := Function.update w.calls c (some call) }

/-- `store_secret` under the fresh key; a failed store has cleaned up after itself. -/
def store (w : World) (c : CallId) (call : Call) (key : String) (succeeds : Bool) : World :=
  if succeeds then
    (w.setSecret key .present).setPhase c call
      (if call.request.validates then .validating else .dispatching)
  else
    w.setPhase c call
      (.finished (.answered (.error (.domain (.serviceUnavailable "vault unavailable")))))

/-- `validate_from_vault`: if it fails, the stored key is destroyed again. -/
def validate (w : World) (c : CallId) (call : Call) (succeeds : Bool) : World := w.setPhase c call
    (if succeeds then .dispatching
     else destroyThen call.request.newKey
      (.error (.serviceUnavailable "credential provider is temporarily unavailable")))

/-- The answer of the adapter decides which key is destroyed: the one just stored if it is an error,
the one that was read if a rotation or a revocation went through. -/
def afterDispatch (call : Call) (result : Except DomainError AggregateVersion) : Phase :=
  match result with
  | .ok version => destroyThen call.viewKey (.ok version)
  | .error e => destroyThen call.request.newKey (.error (.domain e))

/-- Dispatch the command and act on what is reported. -/
def dispatchCommand (w : World) (c : CallId) (call : Call) (outcome : AppendOutcome) : World :=
  match expectation SettingsAggregate call.dispatch with
  | .error e => w.setPhase c call (afterDispatch call (.error e))
  | .ok expected =>
    let (settings, reply) :=
      w.settings.executeAt call.instanceId call.request.id expected call.dispatch outcome
    ({ w with settings } : World).setPhase c call (afterDispatch call (mapExecutedResult reply))

/-- `destroy`, best effort: it is logged and ignored if it fails. -/
def destroy (w : World) (c : CallId) (call : Call) (key : String)
    (result : Except ApiError AggregateVersion) (succeeds : Bool) : World :=
  (if succeeds then w.setSecret key .destroyed else w).setPhase c call
    (.finished (.answered result))

/-- What can happen, in any order. -/
inductive Action
  | spawn (c : CallId) (i : InstanceId) (request : CredentialCall) (hasRole : Bool) (n : Nat)
  | store (c : CallId) (succeeds : Bool)
  | validate (c : CallId) (succeeds : Bool)
  | dispatch (c : CallId) (outcome : AppendOutcome)
  | destroy (c : CallId) (succeeds : Bool)
  | giveUp (c : CallId)
  | stopActor (i : InstanceId) (id : Uuid)

/-- One action. `none`: the action is not enabled. A key is made of fresh UUIDs, so a route never
stores under a key that was used before. -/
def secretStep (w : World) : Action → Option World
  | .spawn c i request hasRole n =>
    match w.calls c with
    | some _ => none
    | none => some (spawn w c i request hasRole n)
  | .store c succeeds =>
    match w.calls c with
    | some ⟨i, request, dispatch, viewKey, .storing⟩ =>
      match request.newKey with
      | some key =>
        if w.secrets key = .absent then
          some (store w c ⟨i, request, dispatch, viewKey, .storing⟩ key succeeds)
        else none
      | none => none
    | _ => none
  | .validate c succeeds =>
    match w.calls c with
    | some ⟨i, request, dispatch, viewKey, .validating⟩ =>
      some (validate w c ⟨i, request, dispatch, viewKey, .validating⟩ succeeds)
    | _ => none
  | .dispatch c outcome =>
    match w.calls c with
    | some ⟨i, request, dispatch, viewKey, .dispatching⟩ =>
      some (dispatchCommand w c ⟨i, request, dispatch, viewKey, .dispatching⟩ outcome)
    | _ => none
  | .destroy c succeeds =>
    match w.calls c with
    | some ⟨i, request, dispatch, viewKey, .destroying key result⟩ =>
      some (destroy w c ⟨i, request, dispatch, viewKey, .destroying key result⟩ key result
        succeeds)
    | _ => none
  | .giveUp c =>
    match w.calls c with
    | some call => some (w.setPhase c call (.finished .gaveUp))
    | none => none
  | .stopActor i id => some { w with settings := w.settings.stop i id }

end Breakdown.Settings
