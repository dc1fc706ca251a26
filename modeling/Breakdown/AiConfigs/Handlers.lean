/-
**WHAT THE AI-CONFIG ROUTES CHECK BEFORE THEY DISPATCH**
(`api/src/handlers/mod.rs`: `create_ai_config`, `update_ai_config`, `revoke_ai_config` and the
vault-key checks they share).

The aggregate only sees opaque key ids. Whose they are and which provider they belong to is
checked at the edge, against the settings read model, and an update decides WHICH keys to check by
resolving omitted fields against the config view it has read. The aggregate resolves the same
fields against its own state.

Each route call is one step of the system below. A route may read any earlier state of its config
(projection lag), and any rows the settings projection has shown; it writes once, by dispatching one
command through its instance's actor.
-/
import Breakdown.Settings.Handlers

namespace Breakdown.AiConfigs

open EventLog Fallible Settings

/-! ## §1. The vault-key checks -/

/-- `forbidden_vault_key`. -/
def forbiddenVaultKey : ApiError :=
  .aiConfigVaultKeyForbidden "the submitted vault key is not owned by the authenticated caller"

/-- `forbidden_ai_config`. -/
def forbiddenAiConfig : ApiError := .aiConfigForbidden "not authorized to manage AI configuration"

/-- `require_owned_vault_key`: the binding exists and is the caller's. Its provider is not looked
at. -/
def requireOwnedVaultKey (rows : List SettingsView) (vaultKeyId : String) (caller : UserId) :
    Except ApiError Unit :=
  ensure ((findByVaultKey rows vaultKeyId).any fun view => view.owner = some caller)
    forbiddenVaultKey

/-- `validate_replacement_vault_key`: the caller's, and an active binding of the provider. -/
def validateReplacementVaultKey (rows : List SettingsView) (vaultKeyId : String)
    (provider : LlmProvider) (caller : UserId) : Except ApiError Unit := do
  let binding := findByVaultKey rows vaultKeyId
  ensure (binding.bind (·.owner) = some caller) forbiddenVaultKey
  ensure (binding.any fun view => view.provider = provider.asStr && view.bindingState = .active)
    (.aiConfigProviderMismatch
      "the submitted vault key is not an active credential of the requested provider")

/-- `validate_decision_vault_key`: the extraction key shared within one provider, or a key of its
own. -/
def validateDecisionVaultKey (rows : List SettingsView) (decisionVaultKeyId : String)
    (decisionProvider : LlmProvider) (extractionVaultKeyId : String)
    (extractionProvider : LlmProvider) (caller : UserId) : Except ApiError Unit :=
  if decisionVaultKeyId = extractionVaultKeyId then
    ensure (decisionProvider = extractionProvider)
      (.aiConfigProviderMismatch ("the decision vault key may only be shared with the extraction " ++
        "key within the same provider"))
  else validateReplacementVaultKey rows decisionVaultKeyId decisionProvider caller

/-! ## §2. The routes -/

structure CreateAiConfigRequest where
  provider : LlmProvider
  assistantModel : String
  imageModel : Option String
  prompts : List (DocumentKind × String)
  vaultKeyId : String
  costDisplayPreference : CostDisplayPreference
  decisionProvider : Option LlmProvider
  decisionModel : Option String
  decisionVaultKeyId : Option String

/-- The decision fields are three-valued, as in `UpdateAiConfig`. -/
structure UpdateAiConfigRequest where
  provider : LlmProvider
  assistantModel : String
  imageModel : Option String
  prompts : List (DocumentKind × String)
  vaultKeyId : String
  costDisplayPreference : Option CostDisplayPreference
  decisionProvider : Option (Option LlmProvider)
  decisionModel : Option (Option String)
  decisionVaultKeyId : Option (Option String)
  version : AggregateVersion

/-- `create_ai_config` up to its dispatch. `hasRole` is the answer of the credential-role gate. -/
def createAiConfig (hasRole : Bool) (rows : List SettingsView) (caller : UserId) (id : Uuid)
    (request : CreateAiConfigRequest) : Except ApiError CreateAiConfig := do
  ensure hasRole forbiddenAiConfig
  requireOwnedVaultKey rows request.vaultKeyId caller
  (match request.decisionProvider, request.decisionVaultKeyId with
    | some decisionProvider, some decisionVaultKeyId =>
      validateDecisionVaultKey rows decisionVaultKeyId decisionProvider request.vaultKeyId
        request.provider caller
    | _, _ => .ok ())
  .ok
    { id, userId := caller, provider := request.provider
      assistantModel := request.assistantModel, imageModel := request.imageModel
      prompts := request.prompts, vaultKeyId := request.vaultKeyId
      costDisplayPreference := request.costDisplayPreference
      decisionProvider := request.decisionProvider, decisionModel := request.decisionModel
      decisionVaultKeyId := request.decisionVaultKeyId }

/-- The decision provider and key after the update, as the ROUTE resolves them: omitted fields come
from the view it has read. -/
def effectiveDecision (view : AiConfig) (request : UpdateAiConfigRequest) :
    Option LlmProvider × Option String :=
  (request.decisionProvider.getD view.decisionProvider,
   request.decisionVaultKeyId.getD view.decisionVaultKeyId)

/-- Does the update, seen from the view, change which keys are used for which provider? -/
def bindingChanged (view : AiConfig) (request : UpdateAiConfigRequest) : Bool :=
  (effectiveDecision view request).1 ≠ view.decisionProvider ||
    (effectiveDecision view request).2 ≠ view.decisionVaultKeyId ||
    some request.provider ≠ view.provider || request.vaultKeyId ≠ view.vaultKeyId

/-- `update_ai_config` up to its dispatch. -/
def updateAiConfig (hasRole : Bool) (view : AiConfig) (rows : List SettingsView) (caller : UserId)
    (id : Uuid) (request : UpdateAiConfigRequest) : Except ApiError UpdateAiConfig := do
  ensure hasRole forbiddenAiConfig
  ensure (view.userId = caller) forbiddenAiConfig
  -- an unchanged key was checked when it was introduced
  (if request.vaultKeyId ≠ view.vaultKeyId then
    validateReplacementVaultKey rows request.vaultKeyId request.provider caller
  else .ok ())
  (match bindingChanged view request, effectiveDecision view request with
    | true, (some decisionProvider, some decisionVaultKeyId) =>
      validateDecisionVaultKey rows decisionVaultKeyId decisionProvider request.vaultKeyId
        request.provider caller
    | _, _ => .ok ())
  .ok
    { id, provider := request.provider, assistantModel := request.assistantModel
      imageModel := request.imageModel, prompts := request.prompts
      vaultKeyId := request.vaultKeyId, costDisplayPreference := request.costDisplayPreference
      decisionProvider := request.decisionProvider, decisionModel := request.decisionModel
      decisionVaultKeyId := request.decisionVaultKeyId, version := request.version }

/-- `revoke_ai_config` up to its dispatch. -/
def revokeAiConfig (hasRole : Bool) (view : AiConfig) (caller : UserId) (id : Uuid)
    (version : AggregateVersion) : Except ApiError RevokeAiConfig := do
  ensure hasRole forbiddenAiConfig
  ensure (view.userId = caller) forbiddenAiConfig
  .ok { id, version }

/-! ## §3. The system -/

/-- The bindings and the configurations. -/
structure World where
  settings : ActorSystem Uuid SettingsAggregate
  configs : ActorSystem Uuid AiConfig

namespace World

def init : World := ⟨.init, .init⟩

/-- The row of a binding after the projector has handled the first `n` of its events. -/
def settingsRow (w : World) (id : Uuid) (n : Nat) : Option SettingsView :=
  projectSettings ((w.settings.streams id).take n)

/-- The view of a config after the projector has handled the first `n` of its events; there is no
row before the first one. -/
def configView (w : World) (id : Uuid) (n : Nat) : Option AiConfig :=
  match (w.configs.streams id).take n with
  | [] => none
  | seen => some (Entity.replay AiConfig seen)

/-- The row is what the projector made of some earlier state of its binding. -/
def isProjected (w : World) (row : SettingsView) : Bool :=
  (w.settings.streams row.id).inits.any fun seen => projectSettings seen = some row

/-- Dispatch a command of an AI-config route. -/
def dispatchConfig (w : World) (i : InstanceId) (id : Uuid) (cmd : AiConfigCommand)
    (outcome : AppendOutcome) : World :=
  match expectation AiConfig cmd with
  | .error _ => w
  | .ok expected => { w with configs := (w.configs.executeAt i id expected cmd outcome).1 }

end World

/-- The routes, and the end of a cached actor. -/
inductive Action
  /-- A credential route, reading its row after `n` projected events. -/
  | credential (i : InstanceId) (call : CredentialCall) (hasRole : Bool) (n : Nat)
      (outcome : AppendOutcome)
  /-- `create_ai_config`, seeing the settings rows `rows`; `id` is the fresh id it makes up. -/
  | create (i : InstanceId) (hasRole : Bool) (rows : List SettingsView) (caller : UserId)
      (id : Uuid) (request : CreateAiConfigRequest) (outcome : AppendOutcome)
  /-- `update_ai_config`, reading its view after `n` projected events. -/
  | update (i : InstanceId) (hasRole : Bool) (n : Nat) (rows : List SettingsView) (caller : UserId)
      (id : Uuid) (request : UpdateAiConfigRequest) (outcome : AppendOutcome)
  | revoke (i : InstanceId) (hasRole : Bool) (n : Nat) (caller : UserId) (id : Uuid)
      (version : AggregateVersion) (outcome : AppendOutcome)
  | stopSettingsActor (i : InstanceId) (id : Uuid)
  | stopConfigActor (i : InstanceId) (id : Uuid)

/-- One action. `none`: the action is not enabled (rows the projection never showed). A call whose
checks fail leaves the world as it is. -/
def step (w : World) : Action → Option World
  | .credential i call hasRole n outcome =>
    match call.command hasRole (w.settingsRow call.id n) with
    | .error _ => some w
    | .ok dispatch =>
      match expectation SettingsAggregate dispatch with
      | .error _ => some w
      | .ok expected =>
        some { w with
          settings := (w.settings.executeAt i call.id expected dispatch outcome).1 }
  | .create i hasRole rows caller id request outcome =>
    if rows.all w.isProjected then
      match createAiConfig hasRole rows caller id request with
      | .error _ => some w
      | .ok cmd => some (w.dispatchConfig i id (.create cmd) outcome)
    else none
  | .update i hasRole n rows caller id request outcome =>
    if rows.all w.isProjected then
      match w.configView id n with
      | none => some w
      | some view =>
        match updateAiConfig hasRole view rows caller id request with
        | .error _ => some w
        | .ok cmd => some (w.dispatchConfig i id (.update cmd) outcome)
    else none
  | .revoke i hasRole n caller id version outcome =>
    match w.configView id n with
    | none => some w
    | some view =>
      match revokeAiConfig hasRole view caller id version with
      | .error _ => some w
      | .ok cmd => some (w.dispatchConfig i id (.revoke cmd) outcome)
  | .stopSettingsActor i id => some { w with settings := w.settings.stop i id }
  | .stopConfigActor i id => some { w with configs := w.configs.stop i id }

end Breakdown.AiConfigs
