/-
**EACH SLOT PAIRS A PROVIDER WITH ONE OF ITS OWN KEYS.**

With up-to-date views the route and the aggregate resolve an update alike, so every key an update
introduces is checked against its provider and every key it keeps was paired before. The gap is in
`create_ai_config`: it checks that the key is the caller's, not which provider it belongs to.

- `Paired`, `update_paired`: an accepted update on an up-to-date view keeps the pairing;
- `config_slots_paired`: every reachable config is paired, if every create names a key of
                                    the provider it asks for (`createNamesProvider`);
- `create_pairs_foreign_provider`: a create that does not.
-/
import Breakdown.AiConfigs.Ownership

namespace Breakdown.AiConfigs

open EventLog Fallible Settings Transition Entity

/-! ## §1. The pairing -/

/-- The key belongs to a binding for the provider. -/
def KeyNames (settings : ActorSystem Uuid SettingsAggregate) (key provider : String) : Prop :=
  ∃ user, BoundTo settings key user provider

/-- Both slots pair a provider with one of its keys; the decision slot is set or unset as a whole. -/
structure Paired (settings : ActorSystem Uuid SettingsAggregate) (c : AiConfig) : Prop where
  assistant : ∃ p, c.provider = some p ∧ KeyNames settings c.vaultKeyId p.asStr
  slot : DecisionSlotValid c.decisionProvider c.decisionModel c.decisionVaultKeyId
  decision : ∀ p k, c.decisionProvider = some p → c.decisionVaultKeyId = some k →
    KeyNames settings k p.asStr

theorem Paired.mono (h : Paired settings c) (hinv : SettingsInv settings')
    (hle : ∀ sid, settings.streams sid <+: settings'.streams sid) : Paired settings' c where
  assistant := by
    obtain ⟨p, hp, user, hbound⟩ := h.assistant
    exact ⟨p, hp, user, hbound.mono hinv hle⟩
  slot := h.slot
  decision p k hp hk := by
    obtain ⟨user, hbound⟩ := h.decision p k hp hk
    exact ⟨user, hbound.mono hinv hle⟩

/-- Every configuration pairs its keys with their providers. -/
structure PairedInv (w : World) : Prop where
  settings : SettingsInv w.settings
  configs : ∀ id, w.configs.streams id = [] ∨ Paired w.settings (w.configs.entityAt id)

theorem pairedInv_init : PairedInv World.init where
  settings _ := .inl rfl
  configs _ := .inl rfl

/-! ## §2. The conditions -/

/-- The view an update reads is up to date. -/
def viewCurrent (w : World) : Action → Bool
  | .update _ _ n _ _ id _ _ => (w.configs.streams id).length ≤ n
  | _ => true

/-- The binding a create finds for its vault key is one of the provider it asks for. -/
def createNamesProvider : Action → Bool
  | .create _ _ rows _ _ request _ =>
    (findByVaultKey rows request.vaultKeyId).all fun row => row.provider = request.provider.asStr
  | _ => true

theorem configView_current {w : World} {id} (h : w.configView id n = some view)
    (hn : (w.configs.streams id).length ≤ n) : view = w.configs.entityAt id := by
  unfold World.configView at h
  rw [List.take_of_length_le hn] at h
  split at h
  · cases h
  · cases h
    rfl

/-! ## §3. The step -/

theorem replay_created (e) :
    replay AiConfig [.created e] = (replay AiConfig []).apply (.created e) := rfl

/-- A create that names a key of its provider pairs both slots. -/
theorem create_paired {w : World} {id}
    (hinv : SettingsInv w.settings) (hrows : rows.all w.isProjected)
    (hroute : createAiConfig hasRole rows caller id request = .ok cmd)
    (hevents : (replay AiConfig []).create cmd = .ok events)
    (hnames : (findByVaultKey rows request.vaultKeyId).all
      (fun row => row.provider = request.provider.asStr)) :
    Paired w.settings (replay AiConfig events) := by
  obtain ⟨-, hprov, hkey, hdp, hdk, ⟨row, hfind, hbound⟩, hdecision⟩ :=
    createAiConfig_ok hinv hrows hroute
  obtain ⟨e, rfl, -, -, hep, hek, hedp, hedk, hslot⟩ := AiConfig.handle_create hevents
  have hrow : row.provider = request.provider.asStr := by
    simpa [hfind] using hnames
  have hassistant : KeyNames w.settings request.vaultKeyId request.provider.asStr :=
    ⟨caller, by rw [← hrow]; exact hbound⟩
  rw [replay_created]
  refine ⟨⟨e.provider, rfl, ?_⟩, hslot, ?_⟩
  · show KeyNames w.settings e.vaultKeyId e.provider.asStr
    rw [hek, hkey, hep, hprov]
    exact hassistant
  · intro p k hp hk
    have hp' : request.decisionProvider = some p := by
      rw [← hdp, ← hedp]
      exact hp
    have hk' : request.decisionVaultKeyId = some k := by
      rw [← hdk, ← hedk]
      exact hk
    obtain ⟨rfl, rfl⟩ | hb := hdecision p k hp' hk'
    · exact hassistant
    · exact ⟨caller, hb⟩

/-- An accepted update on an up-to-date view keeps both slots paired. -/
theorem update_paired {w : World} {id}
    (hinv : SettingsInv w.settings) (hpaired : Paired w.settings (w.configs.entityAt id))
    (hrows : rows.all w.isProjected)
    (hroute : updateAiConfig hasRole (w.configs.entityAt id) rows caller id request = .ok cmd)
    (hevents : (w.configs.entityAt id).update cmd = .ok events) :
    Paired w.settings (events.foldl AiConfig.apply (w.configs.entityAt id)) := by
  obtain ⟨-, hprov, hkey, hdp, hdk, hkeyOk, hdecOk⟩ := updateAiConfig_ok hinv hrows hroute
  obtain ⟨rfl, -, hkept, hslot⟩ := AiConfig.handle_update hevents
  rw [hkey, hprov] at hkept
  -- the assistant key was checked, or it is the current key and keeps its provider
  have hassistant : KeyNames w.settings request.vaultKeyId request.provider.asStr := by
    obtain hsame | hbound := hkeyOk
    · obtain ⟨p, hp, hnames⟩ := hpaired.assistant
      rw [hkept hsame] at hp
      cases hp
      rw [hsame]
      exact hnames
    · exact ⟨caller, hbound⟩
  refine ⟨⟨request.provider, congrArg some hprov, ?_⟩, hslot, ?_⟩
  · show KeyNames w.settings cmd.vaultKeyId _
    rw [hkey]
    exact hassistant
  · intro p k hp hk
    -- route and aggregate resolve the slot alike
    have heff : effectiveDecision (w.configs.entityAt id) request = (some p, some k) := by
      unfold effectiveDecision
      rw [← hdp, ← hdk]
      exact Prod.ext hp hk
    obtain hunchanged | ⟨rfl, rfl⟩ | hbound := hdecOk p k heff
    · simp only [bindingChanged, heff, Bool.or_eq_false_iff, decide_eq_false_iff_not, not_not]
        at hunchanged
      exact hpaired.decision p k hunchanged.1.1.1.symm hunchanged.1.1.2.symm
    · exact hassistant
    · exact ⟨caller, hbound⟩

/-- **EVERY STEP UNDER THE CONDITIONS KEEPS THE PAIRING.** -/
theorem step_pairedInv {w w' : World} (h : PairedInv w) (hcurrent : viewCurrent w a)
    (hnames : createNamesProvider a) (hs : step w a = some w') : PairedInv w' := by
  obtain ⟨hsettings, hle⟩ := step_settings h.settings hs
  refine ⟨hsettings, ?_⟩
  intro id
  have heffect := step_configs hs id
  unfold ActorSystem.entityAt
  cases heffect with
  | unchanged heq =>
    rw [heq]
    exact (h.configs id).imp_right fun hp => hp.mono hsettings hle
  | created ha hrows hroute hnil hevents heq =>
    subst ha
    rw [heq]
    exact .inr ((create_paired h.settings hrows hroute hevents hnames).mono hsettings hle)
  | updated ha hrows hview hroute hevents heq =>
    subst ha
    simp only [viewCurrent, decide_eq_true_eq] at hcurrent
    rw [configView_current hview hcurrent] at hroute
    rw [heq, replay_append]
    obtain hnil | hpaired := h.configs id
    · -- a config without events is not found
      unfold AiConfig.update ActorSystem.entityAt at hevents
      rw [hnil] at hevents
      cases hevents
    · exact .inr ((update_paired h.settings hpaired hrows hroute hevents).mono hsettings hle)
  | revoked hevents heq =>
    rw [heq, replay_append]
    obtain rfl := AiConfig.handle_revoke hevents
    obtain hnil | hpaired := h.configs id
    · unfold AiConfig.revoke ActorSystem.entityAt at hevents
      rw [hnil] at hevents
      cases hevents
    · -- a revocation leaves both slots alone
      have hmono := hpaired.mono hsettings hle
      exact .inr ⟨hmono.assistant, hmono.slot, hmono.decision⟩

/-! ## §4. Runs -/

/-- The key is listed by a binding, and whatever binding lists it names the provider. -/
def KeyOfProvider (w : World) (key provider : String) : Prop :=
  (∃ sid, Lists (w.settings.streams sid) key) ∧ ∀ sid, Lists (w.settings.streams sid) key →
      bindingProvider (w.settings.streams sid) = some provider

theorem KeyNames.keyOfProvider (hinv : SettingsInv w.settings)
    (h : KeyNames w.settings key provider) : KeyOfProvider w key provider := by
  obtain ⟨user, hbound⟩ := h
  refine ⟨⟨hbound.choose, hbound.choose_spec.2⟩, ?_⟩
  intro sid hl
  exact (hbound.lists hinv hl).provider_eq

/-- **SLOTS ARE PAIRED.** In every run with up-to-date views whose creates name a key of the
provider they ask for: in every config the binding of the assistant key names the assistant
provider, the decision slot is unset or set as a whole, and the binding of the decision key names
the decision provider. -/
theorem config_slots_paired {w : World}
    (hrun : Runs step (fun w a => viewCurrent w a = true ∧ createNamesProvider a = true)
      World.init w) {id : Uuid} (hexists : w.configs.streams id ≠ []) :
    (∃ p, (w.configs.entityAt id).provider = some p ∧
        KeyOfProvider w (w.configs.entityAt id).vaultKeyId p.asStr) ∧
      DecisionSlotValid (w.configs.entityAt id).decisionProvider
        (w.configs.entityAt id).decisionModel (w.configs.entityAt id).decisionVaultKeyId ∧
      ∀ p k, (w.configs.entityAt id).decisionProvider = some p →
        (w.configs.entityAt id).decisionVaultKeyId = some k → KeyOfProvider w k p.asStr := by
  have hinv : PairedInv w :=
    hrun.invariant PairedInv pairedInv_init fun _ _ _ h hc hs => step_pairedInv h hc.1 hc.2 hs
  obtain hnil | hpaired := hinv.configs id
  · exact absurd hnil hexists
  · obtain ⟨p, hp, hnames⟩ := hpaired.assistant
    refine ⟨⟨p, hp, hnames.keyOfProvider hinv.settings⟩, hpaired.slot, ?_⟩
    intro dp dk hdp hdk
    exact (hpaired.decision dp dk hdp hdk).keyOfProvider hinv.settings

/-- The shared slot of user a: filled from an up-to-date view, then asked for user b's key. -/
theorem config_slots_paired_shared_slot :
    ∃ w, Runs step (fun w a => viewCurrent w a = true ∧ createNamesProvider a = true) World.init w ∧
      ∀ p k, (w.configs.entityAt 9).decisionProvider = some p →
        (w.configs.entityAt 9).decisionVaultKeyId = some k → KeyOfProvider w k p.asStr := by
  exact exists_runs_imp (sharedSlotTrace ++ [foreignKeyUpdate 2])
    (P := fun w => w.configs.streams 9 ≠ []) (by decide +kernel)
    fun w hw hexists => (config_slots_paired hw hexists).2.2

/-- User a binds an OpenAI credential. -/
def openAiRow : SettingsView := ⟨1, "openai", bindingKey 1 none, 1, .active, 1, some ⟨"a"⟩⟩

/-- One create, with up-to-date rows, names user a's OpenAI key for a Neuralwatt configuration and is
accepted. -/
theorem create_pairs_foreign_provider :
    ∃ w, Runs step (fun w a => viewCurrent w a = true) World.init w ∧
      (w.configs.entityAt 9).provider = some .neuralwatt ∧
      (w.configs.entityAt 9).vaultKeyId = bindingKey 1 none ∧
      Lists (w.settings.streams 1) (bindingKey 1 none) ∧
      projectSettings (w.settings.streams 1) = some openAiRow ∧
      bindingProvider (w.settings.streams 1) = some "openai" :=
  exists_runs [.credential 0 (.create ⟨"a"⟩ 1 "openai") true 0 .acknowledged,
    .create 0 true [openAiRow] ⟨"a"⟩ 9
      ⟨.neuralwatt, "m", none, [], bindingKey 1 none, .token, none, none, none⟩ .acknowledged]
    (by decide +kernel)

end Breakdown.AiConfigs
