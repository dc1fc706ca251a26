/-
**THE AI IMPORT CONFIGURATION OF A USER**
(`core/src/ai/{aggregate,commands,events,decision}.rs`).

A configuration pairs a provider with a Vault key (the assistant slot) and, optionally, a second
provider, model and key (the decision slot). An update may set, clear or OMIT each decision field;
an omitted field keeps what the AGGREGATE holds at that moment.

- `AiConfig.handle`: create, update, revoke;
- `DecisionSlotValid`: the slot is unset as a whole, or set as a whole;
- `AiConfig.handle_update`: everything an accepted update says about the state it was made on;
- `ConfigStream.replay`: every key of a state stands in one of its events.
-/
import Breakdown.EventStore.EntityActor
import Breakdown.Lib.Fallible

namespace Breakdown

open Fallible List Entity

/-! ## §1. Providers and the decision catalog -/

/-- The LLM services. -/
inductive LlmProvider
  | openAI
  | gemini
  | openRouter
  | euRouter
  | neuralwatt
  | openCodeGo
  | openCode
  | ollama
  deriving DecidableEq

/-- `LlmProvider::as_str`. -/
def LlmProvider.asStr : LlmProvider → String
  | .openAI => "openai"
  | .gemini => "gemini"
  | .openRouter => "openrouter"
  | .euRouter => "eurouter"
  | .neuralwatt => "neuralwatt"
  | .openCodeGo => "opencode-go"
  | .openCode => "opencode"
  | .ollama => "ollama"

/-- `is_decision_capable`. -/
def isDecisionCapable : LlmProvider → Bool
  | .neuralwatt | .euRouter | .openRouter => true
  | _ => false

/-- `curated_decision_model_ids`. -/
def curatedDecisionModelIds : LlmProvider → List String
  | .neuralwatt => ["clef-flash", "clef"]
  | .euRouter => ["clef-flash", "metis"]
  | .openRouter =>
    ["cloudflare/clef-flash", "cloudflare/clef", "typesafe/jev-1.14",
     "perplexity/pplx-decider-flash-v1.2", "liquid/d1"]
  | _ => []

/-- `is_curated_decision_model`. -/
def isCuratedDecisionModel (provider : LlmProvider) (model : String) : Bool :=
  (curatedDecisionModelIds provider).contains model

/-- The two kinds of documents that are imported. -/
inductive DocumentKind
  | script
  | schedule
  deriving DecidableEq

/-- The unit in which a user is shown the costs. -/
inductive CostDisplayPreference
  | token
  | energy

/-! ## §2. State, events, commands -/

/-- The LLM configuration of one user. -/
structure AiConfig where
  id : Uuid := .nil
  userId : UserId := ⟨""⟩
  provider : Option LlmProvider := none
  assistantModel : String := ""
  imageModel : Option String := none
  prompts : List (DocumentKind × String) := []
  vaultKeyId : String := ""
  costDisplayPreference : CostDisplayPreference := .token
  decisionProvider : Option LlmProvider := none
  decisionModel : Option String := none
  decisionVaultKeyId : Option String := none
  revoked : Bool := false
  version : AggregateVersion := .initial

/-- The fields of `AiConfigEvent::Created`. -/
structure AiConfigCreated where
  id : Uuid
  userId : UserId
  provider : LlmProvider
  assistantModel : String
  imageModel : Option String
  prompts : List (DocumentKind × String)
  vaultKeyId : String
  costDisplayPreference : CostDisplayPreference
  decisionProvider : Option LlmProvider
  decisionModel : Option String
  decisionVaultKeyId : Option String
  version : AggregateVersion

/-- The fields of `AiConfigEvent::Updated`: the decision slot is already resolved. -/
structure AiConfigUpdated where
  id : Uuid
  provider : LlmProvider
  assistantModel : String
  imageModel : Option String
  prompts : List (DocumentKind × String)
  vaultKeyId : String
  costDisplayPreference : Option CostDisplayPreference
  decisionProvider : Option LlmProvider
  decisionModel : Option String
  decisionVaultKeyId : Option String
  version : AggregateVersion

/-- What happens to a configuration. -/
inductive AiConfigEvent
  | created (e : AiConfigCreated)
  | updated (e : AiConfigUpdated)
  | revoked (id : Uuid) (version : AggregateVersion)

/-- Why a configuration command is refused. -/
inductive AiConfigError
  | emptyProvider
  | emptyModel
  | emptyPrompt
  | emptyVaultKey
  | providerMismatch
  | decisionProviderUnsupported
  | decisionProviderRequired
  | emptyDecisionModel
  | decisionModelUnknown
  | emptyDecisionVaultKey
  | notFound
  | alreadyRevoked
  | versionMismatch (expected actual : AggregateVersion)

/-- Found the configuration of a user. -/
structure CreateAiConfig where
  id : Uuid
  userId : UserId
  provider : LlmProvider
  assistantModel : String
  imageModel : Option String
  prompts : List (DocumentKind × String)
  vaultKeyId : String
  costDisplayPreference : CostDisplayPreference
  decisionProvider : Option LlmProvider
  decisionModel : Option String
  decisionVaultKeyId : Option String

/-- The decision fields are three-valued: `none` omits the field, `some none` clears it,
`some (some v)` sets it. -/
structure UpdateAiConfig where
  id : Uuid
  provider : LlmProvider
  assistantModel : String
  imageModel : Option String
  prompts : List (DocumentKind × String)
  vaultKeyId : String
  costDisplayPreference : Option CostDisplayPreference
  decisionProvider : Option (Option LlmProvider)
  decisionModel : Option (Option String)
  decisionVaultKeyId : Option (Option String)
  version : AggregateVersion

/-- Revoke the configuration. -/
structure RevokeAiConfig where
  id : Uuid
  version : AggregateVersion

/-- The commands of a configuration. -/
inductive AiConfigCommand
  | create (cmd : CreateAiConfig)
  | update (cmd : UpdateAiConfig)
  | revoke (cmd : RevokeAiConfig)

/-! ## §3. The aggregate -/

/-- `validate_fields`. -/
def validateFields (assistantModel vaultKeyId : String) (prompts : List (DocumentKind × String)) :
    Except AiConfigError Unit := do
  ensure (!isBlank assistantModel) .emptyModel
  ensure (!isBlank vaultKeyId) .emptyVaultKey
  ensure (!prompts.any fun p => isBlank p.2) .emptyPrompt

/-- `validate_decision_config`: the slot as a whole. The catalog is consulted only for a model that
changes. -/
def validateDecisionConfig (provider : Option LlmProvider) (model vaultKeyId : Option String)
    (modelUnchanged : Bool) : Except AiConfigError Unit :=
  match provider, model, vaultKeyId with
  | some provider, some model, some vaultKeyId => do
      ensure (isDecisionCapable provider) .decisionProviderUnsupported
      ensure (!isBlank model) .emptyDecisionModel
      ensure (modelUnchanged || isCuratedDecisionModel provider model) .decisionModelUnknown
      ensure (!isBlank vaultKeyId) .emptyDecisionVaultKey
  | none, none, none => .ok ()
  -- partially set is always invalid
  | _, _, _ => .error .decisionProviderRequired

namespace AiConfig

/-- `Apply for AiConfig`. -/
def apply (self : AiConfig) : AiConfigEvent → AiConfig
  | .created e =>
    { id := e.id, userId := e.userId, provider := some e.provider
      assistantModel := e.assistantModel, imageModel := e.imageModel, prompts := e.prompts
      vaultKeyId := e.vaultKeyId, costDisplayPreference := e.costDisplayPreference
      decisionProvider := e.decisionProvider, decisionModel := e.decisionModel
      decisionVaultKeyId := e.decisionVaultKeyId, revoked := false, version := e.version }
  | .updated e =>
    { self with
      provider := some e.provider, assistantModel := e.assistantModel, imageModel := e.imageModel
      prompts := e.prompts, vaultKeyId := e.vaultKeyId
      costDisplayPreference := e.costDisplayPreference.getD self.costDisplayPreference
      decisionProvider := e.decisionProvider, decisionModel := e.decisionModel
      decisionVaultKeyId := e.decisionVaultKeyId, revoked := false, version := e.version }
  | .revoked _ version => { self with revoked := true, version }

/-- `Command<CreateAiConfig>`. -/
def create (_self : AiConfig) (cmd : CreateAiConfig) : Except AiConfigError (List AiConfigEvent) := do
  validateFields cmd.assistantModel cmd.vaultKeyId cmd.prompts
  validateDecisionConfig cmd.decisionProvider cmd.decisionModel cmd.decisionVaultKeyId false
  .ok [.created
    { id := cmd.id, userId := cmd.userId, provider := cmd.provider
      assistantModel := cmd.assistantModel, imageModel := cmd.imageModel, prompts := cmd.prompts
      vaultKeyId := cmd.vaultKeyId, costDisplayPreference := cmd.costDisplayPreference
      decisionProvider := cmd.decisionProvider, decisionModel := cmd.decisionModel
      decisionVaultKeyId := cmd.decisionVaultKeyId, version := .initial }]

/-- The event an accepted update emits: omitted decision fields are resolved from the aggregate's
own state. -/
def resolveUpdate (self : AiConfig) (cmd : UpdateAiConfig) : AiConfigUpdated where
  id := self.id
  provider := cmd.provider
  assistantModel := cmd.assistantModel
  imageModel := cmd.imageModel
  prompts := cmd.prompts
  vaultKeyId := cmd.vaultKeyId
  costDisplayPreference := cmd.costDisplayPreference
  decisionProvider := cmd.decisionProvider.getD self.decisionProvider
  decisionModel := cmd.decisionModel.getD self.decisionModel
  decisionVaultKeyId := cmd.decisionVaultKeyId.getD self.decisionVaultKeyId
  version := self.version.next

/-- `Command<UpdateAiConfig>`. -/
def update (self : AiConfig) (cmd : UpdateAiConfig) : Except AiConfigError (List AiConfigEvent) :=
  match self.provider with
  | none => .error .notFound
  | some currentProvider => do
      ensure (!self.revoked) .alreadyRevoked
      -- the current key cannot be handed to another provider
      ensure (currentProvider = cmd.provider || cmd.vaultKeyId ≠ self.vaultKeyId) .providerMismatch
      ensure (cmd.version = self.version) (.versionMismatch cmd.version self.version)
      validateFields cmd.assistantModel cmd.vaultKeyId cmd.prompts
      let e := self.resolveUpdate cmd
      let modelUnchanged :=
        self.decisionProvider = e.decisionProvider && self.decisionModel = e.decisionModel
      validateDecisionConfig e.decisionProvider e.decisionModel e.decisionVaultKeyId modelUnchanged
      .ok [.updated e]

/-- `Command<RevokeAiConfig>`. -/
def revoke (self : AiConfig) (cmd : RevokeAiConfig) : Except AiConfigError (List AiConfigEvent) := do
  ensure self.provider.isSome .notFound
  ensure (!self.revoked) .alreadyRevoked
  ensure (cmd.version = self.version) (.versionMismatch cmd.version self.version)
  .ok [.revoked self.id self.version.next]

/-- The handler of each command. -/
def handle (self : AiConfig) : AiConfigCommand → Except AiConfigError (List AiConfigEvent)
  | .create cmd => self.create cmd
  | .update cmd => self.update cmd
  | .revoke cmd => self.revoke cmd

end AiConfig

instance : Entity AiConfig AiConfigEvent AiConfigCommand AiConfigError where
  init := {}
  apply := AiConfig.apply
  handle := AiConfig.handle

instance : IntoDomainError AiConfigError where
  intoDomainError
    | .notFound => .notFound .aiConfigNotFound "ai-config" .nil
    | .versionMismatch expected actual => .versionConflict expected actual
    | .providerMismatch => .conflict .aiConfigProviderMismatch "provider cannot change"
    | .alreadyRevoked => .conflict .aiConfigAlreadyRevoked "already revoked"
    | .emptyProvider => .validation .aiConfigEmptyProvider "provider must not be empty"
    | .emptyModel => .validation .aiConfigEmptyModel "assistant model must not be empty"
    | .emptyPrompt => .validation .aiConfigEmptyPrompt "prompt must not be empty"
    | .emptyVaultKey => .validation .aiConfigEmptyVaultKey "vault key reference must not be empty"
    | .decisionProviderUnsupported =>
      .validation .aiConfigDecisionProviderUnsupported "provider does not host decision models"
    | .decisionProviderRequired =>
      .validation .aiConfigDecisionIncomplete "decision model configuration is incomplete"
    | .emptyDecisionModel =>
      .validation .aiConfigDecisionModelEmpty "decision model must not be empty"
    | .decisionModelUnknown =>
      .validation .aiConfigDecisionModelUnknown "decision model is not curated for the provider"
    | .emptyDecisionVaultKey =>
      .validation .aiConfigDecisionVaultKeyEmpty "decision vault key reference must not be empty"

/-! ## §4. What accepted commands say -/

/-- The decision slot is unset as a whole, or set as a whole with a provider that hosts decision
models, a model and a key. -/
def DecisionSlotValid (provider : Option LlmProvider) (model vaultKeyId : Option String) : Prop :=
  (provider = none ∧ model = none ∧ vaultKeyId = none) ∨
    ∃ p m k, provider = some p ∧ model = some m ∧ vaultKeyId = some k ∧
      isDecisionCapable p = true ∧ isBlank m = false ∧ isBlank k = false

theorem validateDecisionConfig_ok {provider vaultKeyId}
    (h : validateDecisionConfig provider model vaultKeyId modelUnchanged = .ok ()) :
    DecisionSlotValid provider model vaultKeyId := by
  unfold validateDecisionConfig at h
  split at h
  · next p m k =>
    simp only [check_eq_ok, ensure_eq_ok] at h
    obtain ⟨hcap, hmodel, -, hkey⟩ := h
    exact .inr ⟨p, m, k, rfl, rfl, rfl, hcap, by simpa using hmodel, by simpa using hkey⟩
  · exact .inl ⟨rfl, rfl, rfl⟩
  · cases h

namespace AiConfig

variable {events : List AiConfigEvent}

/-- An accepted create emits the one event that carries the command's own values. -/
theorem handle_create {self : AiConfig} (h : self.create cmd = .ok events) :
    ∃ e, events = [.created e] ∧ e.id = cmd.id ∧ e.userId = cmd.userId ∧
      e.provider = cmd.provider ∧ e.vaultKeyId = cmd.vaultKeyId ∧
      e.decisionProvider = cmd.decisionProvider ∧ e.decisionVaultKeyId = cmd.decisionVaultKeyId ∧
      DecisionSlotValid e.decisionProvider e.decisionModel e.decisionVaultKeyId := by
  simp only [create, check_eq_ok] at h
  obtain ⟨-, hslot, hev⟩ := h
  cases hev
  exact ⟨_, rfl, rfl, rfl, rfl, rfl, rfl, rfl, validateDecisionConfig_ok hslot⟩

/-- Everything an accepted update says about the state it was made on. -/
theorem handle_update {self : AiConfig} (h : self.update cmd = .ok events) :
    events = [.updated (self.resolveUpdate cmd)] ∧ cmd.version = self.version ∧
      (cmd.vaultKeyId = self.vaultKeyId → self.provider = some cmd.provider) ∧
      DecisionSlotValid (self.resolveUpdate cmd).decisionProvider
        (self.resolveUpdate cmd).decisionModel (self.resolveUpdate cmd).decisionVaultKeyId := by
  unfold update at h
  split at h
  · cases h
  · next current hcur =>
    simp only [check_eq_ok, ensure_eq_ok] at h
    obtain ⟨-, hprov, hver, -, hslot, hev⟩ := h
    cases hev
    refine ⟨rfl, by simpa using hver, ?_, validateDecisionConfig_ok hslot⟩
    intro hkey
    rw [hcur]
    simp only [hkey, ne_eq, not_true_eq_false, decide_false, Bool.or_false, decide_eq_true_eq]
      at hprov
    rw [hprov]

theorem handle_revoke {self : AiConfig} (h : self.revoke cmd = .ok events) :
    events = [.revoked self.id self.version.next] := by
  simp only [revoke, check_eq_ok] at h
  obtain ⟨-, -, -, hev⟩ := h
  cases hev
  rfl

end AiConfig

/-! ## §5. Keys in states and in events -/

/-- The Vault keys an event puts into the configuration. -/
def AiConfigEvent.keys : AiConfigEvent → List String
  | .created e => e.vaultKeyId :: e.decisionVaultKeyId.toList
  | .updated e => e.vaultKeyId :: e.decisionVaultKeyId.toList
  | .revoked .. => []

/-- The Vault keys a configuration refers to. -/
def AiConfig.keys (self : AiConfig) : List String :=
  self.vaultKeyId :: self.decisionVaultKeyId.toList

/-- The user of a stream, read off its first event. -/
def streamUser (log : List AiConfigEvent) : Option UserId := match log.head? with
  | some (.created e) => some e.userId
  | _ => none

/-- The event that founds a configuration. -/
def AiConfigEvent.isCreated : AiConfigEvent → Bool
  | .created _ => true
  | _ => false

/-- The stream was created by its first event and by no other. -/
structure ConfigStream (user : UserId) (log : List AiConfigEvent) : Prop where
  owner : streamUser log = some user
  created : ∀ e ∈ log.tail, e.isCreated = false

namespace ConfigStream

variable {user : UserId} {log : List AiConfigEvent}

section

variable (h : ConfigStream user log)
include h

theorem ne_nil : log ≠ [] := by
  rintro rfl
  cases h.owner

theorem append (hev : ∀ e ∈ events, e.isCreated = false) : ConfigStream user (log ++ events) := by
  cases log with
  | nil => exact absurd rfl h.ne_nil
  | cons =>
    refine ⟨h.owner, ?_⟩
    intro e he
    rw [cons_append, tail_cons, mem_append] at he
    exact he.elim (h.created e) (hev e)

theorem prefix_ (hseen : seen <+: log) (hne : seen ≠ []) : ConfigStream user seen := by
  obtain ⟨rest, rfl⟩ := hseen
  cases seen with
  | nil => exact absurd rfl hne
  | cons =>
    refine ⟨h.owner, ?_⟩
    intro e he
    exact h.created e (mem_append_left rest he)

/-- The folded state belongs to the stream's user, exists, and holds only keys of the stream. -/
theorem replay : (replay AiConfig log).userId = user ∧ (replay AiConfig log).provider.isSome ∧
      ∀ k ∈ (replay AiConfig log).keys, ∃ e ∈ log, k ∈ e.keys := by
  induction log using reverseRecOn with
  | nil => exact absurd rfl h.ne_nil
  | append_singleton log e ih =>
    rw [replay_append, foldl_cons, foldl_nil]
    show (AiConfig.apply _ e).userId = user ∧ (AiConfig.apply _ e).provider.isSome = true ∧
      ∀ k ∈ (AiConfig.apply _ e).keys, ∃ e' ∈ log ++ [e], k ∈ e'.keys
    have hlast : e ∈ log ++ [e] := mem_append_right _ (mem_singleton_self e)
    by_cases hnil : log = []
    · -- the creating event
      subst hnil
      cases e with
      | created c =>
        have huser : c.userId = user := Option.some.inj h.owner
        exact ⟨huser, rfl, fun k hk => ⟨_, hlast, hk⟩⟩
      | updated | revoked => cases h.owner
    · obtain ⟨huser, hprov, hkeys⟩ := ih (h.prefix_ (prefix_append ..) hnil)
      cases e with
      | created c =>
        have hnot := h.created (.created c) (by
          cases log with
          | nil => exact absurd rfl hnil
          | cons => exact mem_append_right _ (mem_singleton_self _))
        cases hnot
      | updated => exact ⟨huser, rfl, fun k hk => ⟨_, hlast, hk⟩⟩
      | revoked =>
        refine ⟨huser, hprov, ?_⟩
        intro k hk
        obtain ⟨e', he', hk'⟩ := hkeys k hk
        exact ⟨e', mem_append_left _ he', hk'⟩

end

end ConfigStream

end Breakdown
