/-
**A CONFIGURATION REFERS TO KEYS OF ITS OWN USER.**

The edge checks cover every key a caller introduces, at any projection lag, with one exception. A
route decides whether to check the decision key by resolving the decision provider against the view
it has read. If the view shows no decision provider and the request omits it, the route checks
nothing; the aggregate, which has a provider by then, accepts the key unseen.

- `BoundTo`: a key, the creator and the provider of the binding that lists it;
- `Inv`, `step_inv`: every key in a config's events is bound to the config's user;
- `config_keys_owned`: so is every key of every reachable config, if every update sees the
                               decision provider it relies on (`seesDecisionProvider`);
- `stale_view_stores_foreign_key`: a stale view, and a foreign key stored.
-/
import Breakdown.Lib.Transition
import Breakdown.AiConfigs.Handlers

namespace Breakdown.AiConfigs

open EventLog Fallible Settings Transition List Entity

/-! ## §1. Keys and the bindings they belong to -/

/-- The key is listed by a binding that `user` created for `provider`. -/
def BoundTo (settings : ActorSystem Uuid SettingsAggregate) (key : String) (user : UserId)
    (provider : String) : Prop :=
  ∃ sid, BindingStream sid user provider (settings.streams sid) ∧ Lists (settings.streams sid) key

/-- Every settings stream has the shape of one binding. -/
def SettingsInv (settings : ActorSystem Uuid SettingsAggregate) : Prop :=
  ∀ sid, SettingsStream sid (settings.streams sid)

variable {settings settings' : ActorSystem Uuid SettingsAggregate} {key : String} {user : UserId}
  {provider : String}

/-- A key stays bound to its creator and provider. -/
theorem BoundTo.mono (h : BoundTo settings key user provider) (hinv : SettingsInv settings')
    (hle : ∀ sid, settings.streams sid <+: settings'.streams sid) :
    BoundTo settings' key user provider := by
  obtain ⟨sid, hstream, hlists⟩ := h
  exact ⟨sid, (hinv sid).grown hstream (hle sid), hlists.mono (hle sid)⟩

/-- Whatever binding lists a bound key is the one it is bound to. -/
theorem BoundTo.lists (h : BoundTo settings key user provider) (hinv : SettingsInv settings)
    (hl : Lists (settings.streams sid) key) :
    BindingStream sid user provider (settings.streams sid) := by
  obtain ⟨sid', hstream, hlists⟩ := h
  obtain rfl := SettingsStream.lists_unique (hinv sid') (hinv sid) hlists hl
  exact hstream

/-! ## §2. What the edge checks establish -/

section Checks

variable {w : World} {rows : List SettingsView} {caller : UserId}

section

variable (hinv : SettingsInv w.settings)
include hinv

/-- A row the projection has shown names the creator and the provider of its key. -/
theorem projected_row (hrows : rows.all w.isProjected)
    (hfind : findByVaultKey rows key = some row) :
    ∃ user, row.owner = some user ∧ BoundTo w.settings key user row.provider := by
  obtain ⟨hmem, hkey⟩ := findByVaultKey_mem hfind
  have hproj := all_eq_true.1 hrows row hmem
  simp only [World.isProjected, any_eq_true, mem_inits, decide_eq_true_eq] at hproj
  obtain ⟨seen, hseen, hrow⟩ := hproj
  have hne : seen ≠ [] := by
    rintro rfl
    cases hrow
  obtain hnil | ⟨creator, provider, hstream⟩ := hinv row.id
  · rw [hnil] at hseen
    exact absurd (prefix_nil.1 hseen) hne
  · obtain ⟨row', hrow', -, hprov, howner, hlists⟩ := (hstream.prefix_ hseen hne).project
    rw [hrow] at hrow'
    cases hrow'
    rw [hkey] at hlists
    rw [hprov]
    exact ⟨creator, howner, row.id, hstream, hlists.mono hseen⟩

theorem requireOwnedVaultKey_ok (hrows : rows.all w.isProjected) (h :
    requireOwnedVaultKey rows key caller = .ok ()) :
    ∃ row, findByVaultKey rows key = some row ∧ BoundTo w.settings key caller row.provider := by
  unfold requireOwnedVaultKey at h
  rw [ensure_eq_ok] at h
  cases hfind : findByVaultKey rows key with
  | none =>
    rw [hfind] at h
    cases h
  | some row =>
    obtain ⟨user, howner, hbound⟩ := projected_row hinv hrows hfind
    have huser : user = caller := by
      simpa [hfind, howner] using h
    subst huser
    exact ⟨row, rfl, hbound⟩

theorem validateReplacementVaultKey_ok (hrows : rows.all w.isProjected) {provider}
    (h : validateReplacementVaultKey rows key provider caller = .ok ()) :
    BoundTo w.settings key caller provider.asStr := by
  unfold validateReplacementVaultKey at h
  rw [check_eq_ok, ensure_eq_ok, ensure_eq_ok] at h
  obtain ⟨howns, hactive⟩ := h
  cases hfind : findByVaultKey rows key with
  | none =>
    rw [hfind] at hactive
    cases hactive
  | some row =>
    obtain ⟨user, howner, hbound⟩ := projected_row hinv hrows hfind
    have huser : user = caller := by
      simpa [hfind, howner] using howns
    have hprov : row.provider = provider.asStr := by
      simp [hfind] at hactive
      exact hactive.1
    rw [← huser, ← hprov]
    exact hbound

theorem validateDecisionVaultKey_ok (hrows : rows.all w.isProjected) {decisionProvider provider}
    (h : validateDecisionVaultKey rows key decisionProvider extractionKey provider caller = .ok ()) :
    (key = extractionKey ∧ decisionProvider = provider) ∨
      BoundTo w.settings key caller decisionProvider.asStr := by
  unfold validateDecisionVaultKey at h
  split at h
  · next heq =>
    rw [ensure_eq_ok, decide_eq_true_eq] at h
    exact .inl ⟨heq, h⟩
  · exact .inr (validateReplacementVaultKey_ok hinv hrows h)

end

end Checks

/-! ## §3. What a step does -/

variable {w : World} {rows : List SettingsView}

/-- A credential route keeps the shape of every settings stream, and streams only grow. -/
theorem step_settings (hinv : SettingsInv w.settings) (hs : step w a = some w') :
    SettingsInv w'.settings ∧ ∀ sid, w.settings.streams sid <+: w'.settings.streams sid := by
  have hsame : w'.settings = w.settings →
      SettingsInv w'.settings ∧ ∀ sid, w.settings.streams sid <+: w'.settings.streams sid := by
    intro heq
    rw [heq]
    exact ⟨hinv, fun sid => prefix_rfl⟩
  have hdispatch : ∀ i id cmd outcome, (w.dispatchConfig i id cmd outcome).settings = w.settings := by
    intro i id cmd outcome
    unfold World.dispatchConfig
    split <;> rfl
  cases a with simp only [step] at hs
  | credential i call hasRole n outcome =>
    split at hs
    · cases hs
      exact hsame rfl
    · next dispatch hcmd =>
      split at hs
      · cases hs
        exact hsame rfl
      · next expected hexp =>
        cases hs
        have hadv := w.settings.executeAt_advance i call.id expected dispatch outcome
        refine ⟨?_, hadv.prefix_⟩
        intro sid
        obtain heq | ⟨rfl, events, hdec, heq⟩ := hadv.at_ sid
        · show SettingsStream sid _
          rw [heq]
          exact hinv sid
        · show SettingsStream call.id _
          rw [heq]
          exact settingsStream_decided (hinv call.id) (command_route hcmd hexp) hdec
  | create =>
    split at hs
    · split at hs <;> cases hs
      · exact hsame rfl
      · exact hsame (hdispatch ..)
    · cases hs
  | update =>
    split at hs
    · split at hs
      · cases hs
        exact hsame rfl
      · split at hs <;> cases hs
        · exact hsame rfl
        · exact hsame (hdispatch ..)
    · cases hs
  | revoke =>
    split at hs
    · cases hs
      exact hsame rfl
    · split at hs <;> cases hs
      · exact hsame rfl
      · exact hsame (hdispatch ..)
  | stopSettingsActor =>
    cases hs
    exact ⟨hinv, fun sid => prefix_rfl⟩
  | stopConfigActor =>
    cases hs
    exact hsame rfl

/-- Where new events of a config come from: a route whose checks passed, decided on the whole
stream. -/
inductive ConfigEffect (w : World) (a : Action) (id : Uuid) (log' : List AiConfigEvent) : Prop
  | unchanged (heq : log' = w.configs.streams id)
  | created {i : InstanceId} {hasRole : Bool} {rows : List SettingsView} {caller : UserId}
      {request : CreateAiConfigRequest} {outcome : AppendOutcome} {cmd : CreateAiConfig}
      {events : List AiConfigEvent} (ha : a = .create i hasRole rows caller id request outcome)
      (hrows : rows.all w.isProjected = true)
      (hroute : createAiConfig hasRole rows caller id request = .ok cmd)
      (hnil : w.configs.streams id = [])
      (hevents : (Entity.replay AiConfig []).create cmd = .ok events) (heq : log' = events)
  | updated {i : InstanceId} {hasRole : Bool} {n : Nat} {rows : List SettingsView}
      {caller : UserId} {request : UpdateAiConfigRequest} {outcome : AppendOutcome}
      {view : AiConfig} {cmd : UpdateAiConfig} {events : List AiConfigEvent}
      (ha : a = .update i hasRole n rows caller id request outcome)
      (hrows : rows.all w.isProjected = true) (hview : w.configView id n = some view)
      (hroute : updateAiConfig hasRole view rows caller id request = .ok cmd)
      (hevents : (w.configs.entityAt id).update cmd = .ok events)
      (heq : log' = w.configs.streams id ++ events)
  | revoked {cmd : RevokeAiConfig} {events : List AiConfigEvent}
      (hevents : (w.configs.entityAt id).revoke cmd = .ok events)
      (heq : log' = w.configs.streams id ++ events)

/-- A dispatched config command leaves a stream alone or appends to its own what the whole stream
decides, under the adapter's expectation. -/
theorem dispatchConfig_at (w : World) (i id cmd) (outcome : AppendOutcome) (id' : Uuid) :
    (w.dispatchConfig i id cmd outcome).configs.streams id' = w.configs.streams id' ∨
      id' = id ∧ ∃ expected events, expectation AiConfig cmd = .ok expected ∧
        Decided AiConfig (w.configs.streams id) expected cmd events ∧
        (w.dispatchConfig i id cmd outcome).configs.streams id' =
          w.configs.streams id ++ events := by
  unfold World.dispatchConfig
  split
  · exact .inl rfl
  · next expected hexp =>
    have hadv := w.configs.executeAt_advance i id expected cmd outcome
    obtain heq | ⟨rfl, events, hdec, heq⟩ := hadv.at_ id'
    · exact .inl heq
    · exact .inr ⟨rfl, expected, events, hexp, hdec, heq⟩

theorem step_configs (hs : step w a = some w') (id : Uuid) :
    ConfigEffect w a id (w'.configs.streams id) := by
  cases a with simp only [step] at hs
  | credential =>
    split at hs
    · cases hs
      exact .unchanged rfl
    · split at hs <;> cases hs <;> exact .unchanged rfl
  | create i hasRole rows caller id' request outcome =>
    split at hs
    · next hrows =>
      split at hs
      · cases hs
        exact .unchanged rfl
      · next cmd hroute =>
        cases hs
        obtain heq | ⟨rfl, expected, events, hexp, hdec, heq⟩ :=
          dispatchConfig_at w i id' (.create cmd) outcome id
        · exact .unchanged heq
        · -- a create expects an empty stream
          cases hexp
          have hnil := hdec.satisfied
          rw [isSatisfiedBy_empty, versionOf_eq_empty] at hnil
          have hevents := hdec.handled
          rw [hnil] at hevents
          rw [hnil, nil_append] at heq
          exact .created rfl hrows hroute hnil hevents heq
    · cases hs
  | update i hasRole n rows caller id' request outcome =>
    split at hs
    · next hrows =>
      split at hs
      · cases hs
        exact .unchanged rfl
      · next view hview =>
        split at hs
        · cases hs
          exact .unchanged rfl
        · next cmd hroute =>
          cases hs
          obtain heq | ⟨rfl, expected, events, -, hdec, heq⟩ :=
            dispatchConfig_at w i id' (.update cmd) outcome id
          · exact .unchanged heq
          · exact .updated rfl hrows hview hroute hdec.handled heq
    · cases hs
  | revoke i hasRole n caller id' version outcome =>
    split at hs
    · cases hs
      exact .unchanged rfl
    · split at hs
      · cases hs
        exact .unchanged rfl
      · next cmd hroute =>
        cases hs
        obtain heq | ⟨rfl, expected, events, -, hdec, heq⟩ :=
          dispatchConfig_at w i id' (.revoke cmd) outcome id
        · exact .unchanged heq
        · exact .revoked hdec.handled heq
  | stopSettingsActor | stopConfigActor =>
    cases hs
    exact .unchanged rfl

/-- What the update route has established when it dispatches. -/
theorem updateAiConfig_ok {id} (hinv : SettingsInv w.settings) (hrows : rows.all w.isProjected)
    (h : updateAiConfig hasRole view rows caller id request = .ok cmd) :
    view.userId = caller ∧ cmd.provider = request.provider ∧
      cmd.vaultKeyId = request.vaultKeyId ∧ cmd.decisionProvider = request.decisionProvider ∧
      cmd.decisionVaultKeyId = request.decisionVaultKeyId ∧ (request.vaultKeyId = view.vaultKeyId ∨
        BoundTo w.settings request.vaultKeyId caller request.provider.asStr) ∧
      (∀ p k, effectiveDecision view request = (some p, some k) →
        bindingChanged view request = false ∨
          (k = request.vaultKeyId ∧ p = request.provider) ∨ BoundTo w.settings k caller p.asStr) := by
  simp only [updateAiConfig, check_eq_ok, ensure_eq_ok, decide_eq_true_eq] at h
  obtain ⟨-, huser, hkey, hdecision, hcmd⟩ := h
  cases hcmd
  refine ⟨huser, rfl, rfl, rfl, rfl, ?_, ?_⟩
  · by_cases hsame : request.vaultKeyId = view.vaultKeyId
    · exact .inl hsame
    · rw [if_pos hsame] at hkey
      exact .inr (validateReplacementVaultKey_ok hinv hrows hkey)
  · intro p k heff
    cases hchanged : bindingChanged view request with
    | false => exact .inl rfl
    | true =>
      rw [hchanged, heff] at hdecision
      exact .inr (validateDecisionVaultKey_ok hinv hrows hdecision)

theorem createAiConfig_ok {id} (hinv : SettingsInv w.settings) (hrows : rows.all w.isProjected)
    (h : createAiConfig hasRole rows caller id request = .ok cmd) :
    cmd.userId = caller ∧ cmd.provider = request.provider ∧
      cmd.vaultKeyId = request.vaultKeyId ∧ cmd.decisionProvider = request.decisionProvider ∧
      cmd.decisionVaultKeyId = request.decisionVaultKeyId ∧
      (∃ row, findByVaultKey rows request.vaultKeyId = some row ∧
        BoundTo w.settings request.vaultKeyId caller row.provider) ∧
      (∀ p k, request.decisionProvider = some p → request.decisionVaultKeyId = some k →
        (k = request.vaultKeyId ∧ p = request.provider) ∨ BoundTo w.settings k caller p.asStr) := by
  simp only [createAiConfig, check_eq_ok, ensure_eq_ok] at h
  obtain ⟨-, hkey, hdecision, hcmd⟩ := h
  cases hcmd
  refine ⟨rfl, rfl, rfl, rfl, rfl, requireOwnedVaultKey_ok hinv hrows hkey, ?_⟩
  intro p k hp hk
  rw [hp, hk] at hdecision
  exact validateDecisionVaultKey_ok hinv hrows hdecision

/-! ## §4. The invariant -/

/-- The stream of a config of `user`, all of whose keys are bound to `user`. -/
def OwnedStream (settings : ActorSystem Uuid SettingsAggregate) (user : UserId)
    (log : List AiConfigEvent) : Prop :=
  ConfigStream user log ∧ ∀ e ∈ log, ∀ k ∈ e.keys, ∃ provider, BoundTo settings k user provider

/-- Every configuration refers to keys of its user. -/
structure Inv (w : World) : Prop where
  settings : SettingsInv w.settings
  configs : ∀ id, w.configs.streams id = [] ∨
    ∃ user, OwnedStream w.settings user (w.configs.streams id)

theorem inv_init : Inv World.init where
  settings _ := .inl rfl
  configs _ := .inl rfl

theorem OwnedStream.mono (h : OwnedStream settings user log) (hinv : SettingsInv settings')
    (hle : ∀ sid, settings.streams sid <+: settings'.streams sid) :
    OwnedStream settings' user log := by
  refine ⟨h.1, ?_⟩
  intro e he k hk
  obtain ⟨provider, hbound⟩ := h.2 e he k hk
  exact ⟨provider, hbound.mono hinv hle⟩

/-- The keys of a state are bound to the user of its stream. -/
theorem OwnedStream.replay (h : OwnedStream settings user log)
    (hk : k ∈ (replay AiConfig log).keys) : ∃ provider, BoundTo settings k user provider := by
  obtain ⟨e, he, hke⟩ := h.1.replay.2.2 k hk
  exact h.2 e he k hke

/-- A view is the state after some non-empty prefix of the stream. -/
theorem configView_eq {id} (h : w.configView id n = some view) :
    ∃ seen, seen <+: w.configs.streams id ∧ seen ≠ [] ∧ view = replay AiConfig seen := by
  unfold World.configView at h
  split at h
  · cases h
  · next seen hne =>
    cases h
    exact ⟨_, take_prefix .., hne, rfl⟩

/-- Does the update see the decision provider it relies on? Only an update that introduces a
decision key and omits the provider relies on one: then the view must show a provider, or the
aggregate must have none. -/
def seesDecisionProvider (w : World) : Action → Bool
  | .update _ _ n _ _ id request _ =>
    match request.decisionProvider, request.decisionVaultKeyId, w.configView id n with
    | none, some (some _), some view =>
      view.decisionProvider.isSome || (w.configs.entityAt id).decisionProvider.isNone
    | _, _, _ => true
  | _ => true

/-- Every key of the event an accepted update emits is bound to the config's user. -/
theorem update_keys_owned {id}
    (hinv : SettingsInv w.settings) (howned : OwnedStream w.settings user (w.configs.streams id))
    (hrows : rows.all w.isProjected) (hview : w.configView id n = some view)
    (hroute : updateAiConfig hasRole view rows caller id request = .ok cmd)
    (hevents : (w.configs.entityAt id).update cmd = .ok events)
    (hsees : seesDecisionProvider w (.update i hasRole n rows caller id request outcome)) :
    ∀ e ∈ events, ∀ k ∈ e.keys, ∃ provider, BoundTo w.settings k user provider := by
  obtain ⟨seen, hseen, hne, rfl⟩ := configView_eq hview
  obtain ⟨huser, -, hkey, hdp, hdk, hkeyOk, hdecOk⟩ := updateAiConfig_ok hinv hrows hroute
  obtain ⟨rfl, -, -, hslot⟩ := AiConfig.handle_update hevents
  have hseenOwned : OwnedStream w.settings user seen :=
    ⟨howned.1.prefix_ hseen hne, fun e he => howned.2 e (hseen.subset he)⟩
  have hcaller : caller = user := by
    rw [← huser]
    exact (howned.1.prefix_ hseen hne).replay.1
  subst hcaller
  -- the assistant key: introduced and checked, or a key of the state that was read
  have hassistant : ∃ provider, BoundTo w.settings request.vaultKeyId caller provider := by
    obtain hsame | hbound := hkeyOk
    · exact hseenOwned.replay (by rw [hsame]; exact mem_cons_self)
    · exact ⟨_, hbound⟩
  intro e he k hk
  rw [mem_singleton] at he
  subst he
  simp only [AiConfigEvent.keys, mem_cons, Option.mem_toList] at hk
  obtain hk | hk := hk
  · -- the update's own vault key
    have hk' : k = request.vaultKeyId := hk.trans hkey
    rw [hk']
    exact hassistant
  · have hres : request.decisionVaultKeyId.getD (w.configs.entityAt id).decisionVaultKeyId =
        some k := by
      rw [← hdk]
      exact hk
    cases hreq : request.decisionVaultKeyId with
    | none =>
      -- omitted: the aggregate keeps its own key
      rw [hreq] at hres
      refine howned.replay (mem_cons_of_mem _ ?_)
      rw [Option.mem_toList]
      exact hres
    | some field =>
      rw [hreq] at hres
      have hfield : field = some k := hres
      subst hfield
      have heffKey : (effectiveDecision (replay AiConfig seen) request).2 = some k := by
        simp [effectiveDecision, hreq]
      cases heff : (effectiveDecision (replay AiConfig seen) request).1 with
      | some p =>
        obtain hunchanged | ⟨rfl, -⟩ | hbound := hdecOk p k (Prod.ext heff heffKey)
        · -- nothing changed: the key is the one that was read
          simp only [bindingChanged, Bool.or_eq_false_iff, decide_eq_false_iff_not, not_not]
            at hunchanged
          refine hseenOwned.replay (mem_cons_of_mem _ ?_)
          rw [Option.mem_toList, ← hunchanged.1.1.2]
          exact heffKey
        · exact hassistant
        · exact ⟨_, hbound⟩
      | none =>
        -- the route checks nothing here, and the aggregate refuses a key without a provider
        exfalso
        have hkeySome : (AiConfig.resolveUpdate (w.configs.entityAt id) cmd).decisionVaultKeyId =
            some k := hk
        have hprovNone : (AiConfig.resolveUpdate (w.configs.entityAt id) cmd).decisionProvider =
            none := by
          show cmd.decisionProvider.getD _ = none
          rw [hdp]
          cases hrp : request.decisionProvider with
          | some =>
            simp only [effectiveDecision, hrp, Option.getD_some] at heff
            exact heff
          | none =>
            simp only [effectiveDecision, hrp, Option.getD_none] at heff
            simp only [seesDecisionProvider, hrp, hreq, hview, heff, Option.isSome_none,
              Bool.false_or, Option.isNone_iff_eq_none] at hsees
            exact hsees
        obtain ⟨-, -, hnone⟩ | ⟨p, _, _, hp, -⟩ := hslot
        · rw [hkeySome] at hnone
          cases hnone
        · rw [hprovNone] at hp
          cases hp

/-- **EVERY STEP THAT SEES THE DECISION PROVIDER KEEPS THE INVARIANT.** -/
theorem step_inv (h : Inv w) (hsees : seesDecisionProvider w a) (hs : step w a = some w') :
    Inv w' := by
  obtain ⟨hsettings, hle⟩ := step_settings h.settings hs
  refine ⟨hsettings, ?_⟩
  intro id
  have hold : ∀ {user : UserId}, OwnedStream w.settings user (w.configs.streams id) →
      OwnedStream w'.settings user (w.configs.streams id) := fun ho => ho.mono hsettings hle
  cases step_configs hs id with
  | unchanged heq =>
    rw [heq]
    obtain hnil | ⟨user, ho⟩ := h.configs id
    · exact .inl hnil
    · exact .inr ⟨user, hold ho⟩
  | @created i hasRole rows caller request outcome cmd events ha hrows hroute hnil hevents heq =>
    obtain ⟨huser, -, hkey, hdp, hdk, ⟨row, -, hbound⟩, hdecision⟩ :=
      createAiConfig_ok h.settings hrows hroute
    obtain ⟨e, rfl, -, heu, -, hek, hedp, hedk, hslot⟩ := AiConfig.handle_create hevents
    rw [heq]
    refine .inr ⟨caller, OwnedStream.mono ⟨⟨?_, ?_⟩, ?_⟩ hsettings hle⟩
    · show some e.userId = some caller
      rw [heu, huser]
    · intro e' he'
      cases he'
    · intro e' he' k hk
      rw [mem_singleton] at he'
      subst he'
      simp only [AiConfigEvent.keys, mem_cons, Option.mem_toList] at hk
      obtain hk | hk := hk
      · rw [hk, hek, hkey]
        exact ⟨_, hbound⟩
      · -- a decision key comes with a decision provider, and was checked
        obtain ⟨-, -, hnone⟩ | ⟨p, _, k', hp, -, hk', -⟩ := hslot
        · rw [hk] at hnone
          cases hnone
        · rw [hk] at hk'
          cases hk'
          rw [hedp, hdp] at hp
          rw [hedk, hdk] at hk
          obtain ⟨rfl, -⟩ | hb := hdecision p k hp hk
          · exact ⟨_, hbound⟩
          · exact ⟨_, hb⟩
  | @updated i hasRole n rows caller request outcome view cmd events ha hrows hview hroute hevents
      heq =>
    rw [heq]
    obtain hnil | ⟨user, ho⟩ := h.configs id
    · -- there is no view of a stream without events
      obtain ⟨seen, hseen, hne, -⟩ := configView_eq hview
      rw [hnil] at hseen
      exact absurd (prefix_nil.1 hseen) hne
    · rw [ha] at hsees
      have hnew := update_keys_owned h.settings ho hrows hview hroute hevents hsees
      obtain ⟨rfl, -⟩ := AiConfig.handle_update hevents
      refine .inr ⟨user, OwnedStream.mono ⟨ho.1.append ?_, ?_⟩ hsettings hle⟩
      · intro e he
        rw [mem_singleton] at he
        subst he
        rfl
      · intro e he
        rw [mem_append] at he
        exact he.elim (ho.2 e) (hnew e)
  | @revoked cmd events hevents heq =>
    rw [heq]
    obtain rfl := AiConfig.handle_revoke hevents
    obtain hnil | ⟨user, ho⟩ := h.configs id
    · -- a config that does not exist cannot be revoked
      unfold AiConfig.revoke ActorSystem.entityAt at hevents
      rw [hnil] at hevents
      cases hevents
    · refine .inr ⟨user, OwnedStream.mono ⟨ho.1.append ?_, ?_⟩ hsettings hle⟩
      · intro e he
        rw [mem_singleton] at he
        subst he
        rfl
      · intro e he k hk
        rw [mem_append, mem_singleton] at he
        obtain he | rfl := he
        · exact ho.2 e he k hk
        · cases hk

/-! ## §5. Runs -/

/-- **NO FOREIGN CREDENTIALS.** In every run whose updates see the decision provider they rely on:
every key of every config is listed by a binding, and whatever binding lists it was created by
the config's own user. -/
theorem config_keys_owned {w : World}
    (hrun : Runs step (fun w a => seesDecisionProvider w a = true) World.init w) {id : Uuid}
    (hexists : w.configs.streams id ≠ []) {key : String}
    (hkey : key ∈ (w.configs.entityAt id).keys) :
    (∃ sid, Lists (w.settings.streams sid) key) ∧ ∀ sid, Lists (w.settings.streams sid) key →
        bindingCreator (w.settings.streams sid) = some (w.configs.entityAt id).userId := by
  have hinv : Inv w := hrun.invariant Inv inv_init fun _ _ _ h hc hs => step_inv h hc hs
  obtain hnil | ⟨user, ho⟩ := hinv.configs id
  · exact absurd hnil hexists
  · obtain ⟨provider, hbound⟩ := ho.replay hkey
    have huser : (w.configs.entityAt id).userId = user := ho.1.replay.1
    refine ⟨⟨hbound.choose, hbound.choose_spec.2⟩, ?_⟩
    intro sid hl
    rw [huser]
    exact (hbound.lists hinv.settings hl).creator_eq

/-! ## §6. A fresh view and a stale one -/

/-- A request that sets the decision slot to OpenRouter's `cloudflare/clef` with the given key. -/
def decisionUpdate (provider : Option (Option LlmProvider)) (model : Option (Option String))
    (vaultKeyId decisionVaultKeyId : String) (version : AggregateVersion) :
    UpdateAiConfigRequest where
  provider := .openRouter
  assistantModel := "m"
  imageModel := none
  prompts := []
  vaultKeyId := vaultKeyId
  costDisplayPreference := none
  decisionProvider := provider
  decisionModel := model
  decisionVaultKeyId := some (some decisionVaultKeyId)
  version := version

/-- User a binds credential 1, user b binds credential 2, both of OpenRouter; user a creates config 9
with their own key and no decision slot, then fills the slot, sharing the key. -/
def sharedSlotTrace : List Action := let keyA := bindingKey 1 none
  let rows : List SettingsView := [⟨1, "openrouter", keyA, 1, .active, 1, some ⟨"a"⟩⟩]
  [.credential 0 (.create ⟨"a"⟩ 1 "openrouter") true 0 .acknowledged,
   .credential 0 (.create ⟨"b"⟩ 2 "openrouter") true 0 .acknowledged,
   .create 0 true rows ⟨"a"⟩ 9
     ⟨.openRouter, "m", none, [], keyA, .token, none, none, none⟩ .acknowledged,
   .update 0 true 1 rows ⟨"a"⟩ 9
     (decisionUpdate (some (some .openRouter)) (some (some "cloudflare/clef")) keyA keyA 1)
     .acknowledged]

/-- User a names user b's key as the decision key and omits provider and model. -/
def foreignKeyUpdate (seen : Nat) : Action := .update 0 true seen [] ⟨"a"⟩ 9
    (decisionUpdate none none (bindingKey 1 none) (bindingKey 2 none) 2) .acknowledged

/-- With an up-to-date view the foreign key is refused, and the slot keeps user a's own key. -/
theorem config_keys_owned_shared_slot :
    ∃ w, Runs step (fun w a => seesDecisionProvider w a = true) World.init w ∧
      (w.configs.entityAt 9).decisionVaultKeyId = some (bindingKey 1 none) ∧
      ∀ sid, Lists (w.settings.streams sid) (bindingKey 1 none) →
        bindingCreator (w.settings.streams sid) = some (w.configs.entityAt 9).userId := by
  refine exists_runs_imp (sharedSlotTrace ++ [foreignKeyUpdate 2])
    (P := fun w => w.configs.streams 9 ≠ [] ∧
      (w.configs.entityAt 9).decisionVaultKeyId = some (bindingKey 1 none)) (by decide +kernel) ?_
  intro w hw ⟨hexists, hkey⟩
  refine ⟨hkey, (config_keys_owned hw hexists ?_).2⟩
  rw [AiConfig.keys, hkey]
  exact mem_cons_of_mem _ mem_cons_self

/-- With a view from before the slot was filled, the route checks nothing, and the aggregate pairs its
own provider and model with user b's key. -/
theorem stale_view_stores_foreign_key :
    ∃ w, Runs step anyStep World.init w ∧ (w.configs.entityAt 9).userId = ⟨"a"⟩ ∧
      (w.configs.entityAt 9).decisionVaultKeyId = some (bindingKey 2 none) ∧
      Lists (w.settings.streams 2) (bindingKey 2 none) ∧
      bindingCreator (w.settings.streams 2) = some ⟨"b"⟩ :=
  exists_runs (sharedSlotTrace ++ [foreignKeyUpdate 1]) (by decide +kernel)

end Breakdown.AiConfigs
