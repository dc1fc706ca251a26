/-
**WHAT EVERY OPERATION OF A SCRIPT APPLY KEEPS.**

Runs of one preview may overlap, stop anywhere, and share the scenes with everybody else. What
they rely on is a property of the store that every single operation keeps (`Inv`):

- the mapping rows of the preview carry the ids derived from their keys, except that a confirmed
  scene row may name a scene that existed before, and everything made for a key was made under the
  derived id (`Derived`);
- as long as the linking commands met the scenes they were made for, a confirmed pair is linked
  (`LinksOk`);
- as long as every beat that is sent again finds itself its figure's last one, no beat key led to
  two beats.

And every operation only adds: figures and days of a scene, and commands sent (`Later`).

- `dispatchScene_cases`: whatever its actor has seen, a scene command leaves the stream alone or
  appends what the whole of it decides;
- `ScriptInv.step`: what keeps the invariant;
- `wpi_sceneCommand`: a scene command of the worker keeps it among any others.
-/
import Breakdown.Ai.ScheduleInvariant
import Breakdown.Ai.ScriptApply
import Breakdown.Lib.Interference

namespace Breakdown.Ai

open EventLog Stepwise Reservations List Entity MappingTable EntityActorState

/-! ## §1. Scene streams -/

/-- What happens to a scene stream while nobody takes anything out of the scene. -/
structure SceneGrows (log log' : List SceneEvent) : Prop where
  characters : ∀ c ∈ (replay SceneAggregate log).assignedCharacters,
    c ∈ (replay SceneAggregate log').assignedCharacters
  days : ∀ d ∈ (replay SceneAggregate log).shootingDayIds,
    d ∈ (replay SceneAggregate log').shootingDayIds
  numbered : (log ≠ [] → Numbered log) → log' ≠ [] → Numbered log'
  exists_ : log ≠ [] → log' ≠ []

theorem SceneGrows.refl (log) : SceneGrows log log :=
  ⟨fun _ h => h, fun _ h => h, fun h => h, fun h => h⟩

theorem SceneGrows.trans (hab : SceneGrows a b) (hbc : SceneGrows b c) : SceneGrows a c where
  characters x hx := hbc.characters x (hab.characters x hx)
  days x hx := hbc.days x (hab.days x hx)
  numbered h := hbc.numbered (hab.numbered h)
  exists_ h := hbc.exists_ (hab.exists_ h)

/-- **WHATEVER ITS ACTOR HAS SEEN**, a command leaves the stream alone, or appends what the whole
stream decides. -/
theorem dispatchScene_cases (hseen : seen <+: log) (cmd : SceneCommand) :
    (dispatchScene cmd seen log).1 = log ∨ ∃ expected events,
      expectation SceneAggregate cmd = .ok expected ∧
        Decided SceneAggregate log expected cmd events ∧
          (dispatchScene cmd seen log).1 = log ++ events := by
  unfold dispatchScene
  cases hexpected : expectation SceneAggregate cmd with
  | error => exact .inl rfl
  | ok expected =>
    have hfollows : (load SceneAggregate seen).Follows log := ⟨seen, hseen, rfl⟩
    obtain ⟨-, hlog, -⟩ | ⟨events, hdecided, hlog, -, -⟩ :=
      handleExecute_cases conflictRetries hfollows (Eq.refl
        (handleExecute (load SceneAggregate seen) log expected cmd .acknowledged conflictRetries))
    · exact .inl hlog
    · exact .inr ⟨expected, events, rfl, hdecided, hlog⟩

/-- An update is only decided on a scene that exists. -/
theorem exists_of_decided (h : Decided SceneAggregate log expected cmd events)
    (hupdate : Versioned.dispatching SceneAggregate cmd = .update version)
    (hexpected : expectation SceneAggregate cmd = .ok expected) : log ≠ [] := by
  simp only [expectation, hupdate] at hexpected
  exact ((exactly_satisfied version).mp ⟨expected, hexpected, h.satisfied⟩).1

/-- An accepted update appends one event and takes nothing out. -/
theorem sceneGrows_update (hne : log ≠ []) (h : Decided SceneAggregate log expected cmd events)
    (hkeeps : cmd.unlinks = false) (hcreate : ∀ c, cmd ≠ .create c) :
    SceneGrows log (log ++ events) := by
  obtain ⟨e, rfl, hadv⟩ := SceneAggregate.handle_advances h.handled hkeeps hcreate
  have hreplay : replay SceneAggregate (log ++ [e]) = (replay SceneAggregate log).apply e := by
    rw [replay_append]
    rfl
  refine ⟨?_, ?_, ?_, fun _ => by simp⟩
  · rw [hreplay]
    exact hadv.characters
  · rw [hreplay]
    exact hadv.days
  · intro hnum _
    unfold Numbered at hnum ⊢
    rw [hreplay, hadv.version, hnum hne, length_append]
    rfl

/-- An accepted create founds an empty stream. -/
theorem sceneGrows_create (h : Decided SceneAggregate log .empty (.create c) events) :
    log = [] ∧ SceneGrows log (log ++ events) := by
  obtain rfl : log = [] := by simpa using h.satisfied
  obtain rfl : [SceneEvent.sceneCreated c.id c.episodeId c.details [] c.source .initial] = events :=
    Except.ok.inj h.handled
  refine ⟨rfl, ?_, ?_, ?_, fun h => absurd rfl h⟩
  · exact nofun
  · exact nofun
  · intro _ _
    rfl

/-- **NO COMMAND BUT THE UNLINKING ONES TAKES ANYTHING OUT OF A SCENE.** -/
theorem dispatchScene_grows (hseen : seen <+: log) (hkeeps : cmd.unlinks = false) :
    SceneGrows log (dispatchScene cmd seen log).1 := by
  obtain hsame | ⟨expected, events, hexpected, hdecided, hlog⟩ := dispatchScene_cases hseen cmd
  · rw [hsame]
    exact SceneGrows.refl log
  · rw [hlog]
    cases cmd with
    | create c =>
      cases hexpected
      exact (sceneGrows_create hdecided).2
    | removeCharacter | unscheduleFromShootingDay | delete => cases hkeeps
    | updateDetails | assignCharacter | addOutfitBeat | updateOutfitBeat | removeOutfitBeat
    | scheduleOnShootingDay =>
      exact sceneGrows_update (exists_of_decided hdecided rfl hexpected) hdecided hkeeps nofun

theorem actOn_grows {scenes : Uuid → List SceneEvent} (hseen : seen <+: scenes cmd.id)
    (hkeeps : cmd.unlinks = false) (id) : SceneGrows (scenes id) (actOn scenes cmd seen id) := by
  unfold actOn
  by_cases hid : id = cmd.id
  · rw [hid, Function.update_self]
    exact dispatchScene_grows hseen hkeeps
  · rw [Function.update_of_ne hid]
    exact SceneGrows.refl _

theorem batch_grows (batch : List ForeignCommand) (scenes : Uuid → List SceneEvent) (id) :
    SceneGrows (scenes id) (batch.foldl (fun scenes foreign =>
      actOn scenes foreign.cmd (scenes foreign.cmd.id)) scenes id) := by
  induction batch generalizing scenes with
  | nil => exact SceneGrows.refl _
  | cons foreign batch ih =>
    exact (actOn_grows prefix_rfl foreign.keeps id).trans (ih _)

theorem othersAct_grows (w : ScriptStore) (id) :
    SceneGrows (w.base.scenes id) (w.othersAct.base.scenes id) := by
  unfold ScriptStore.othersAct
  cases w.others with
  | nil => exact SceneGrows.refl _
  | cons batch => exact batch_grows batch w.base.scenes id

/-! ## §2. The invariant -/

/-- The characters of a scene. -/
def ScriptStore.figuresOf (w : ScriptStore) (sceneId : Uuid) : List Uuid :=
  (replay SceneAggregate (w.base.scenes sceneId)).assignedCharacters

/-- A linking command met the version it was made for, at an actor that had seen the whole scene, or
a scene that has the link already. -/
def SceneDispatch.Met (d : SceneDispatch) : Prop := match d.cmd with
  | .assignCharacter c => (d.seen = d.log ∧ c.version = d.log.length) ∨
      c.characterId ∈ (replay SceneAggregate d.log).assignedCharacters
  | .scheduleOnShootingDay c => (d.seen = d.log ∧ c.version = d.log.length) ∨
      c.shootingDayId ∈ (replay SceneAggregate d.log).shootingDayIds
  | _ => True

/-- Every linking command so far met what it was made for. -/
def AllMet (w : ScriptStore) : Prop := ∀ d ∈ w.sent, d.Met

/-- A beat that is sent although its key has one already finds that its figure's last beat is the one
it would add: nothing came behind it. -/
def SceneDispatch.StillLast (d : SceneDispatch) : Prop := match d.cmd with
  | .addOutfitBeat c => d.again = true →
      ∃ beat ∈ SceneAggregate.lastBeat ((replay SceneAggregate d.log).beatsOf c.characterId),
        beat.outfitId = c.outfitId ∧ beat.note = c.note
  | _ => True

/-- Every beat that was sent again so far was still the last one of its figure. -/
def AllStillLast (w : ScriptStore) : Prop := ∀ d ∈ w.sent, d.StillLast

/-- The scenes number their events, and the confirmed pairs of the preview are linked. -/
structure LinksOk (preview : AiImportJobId) (w : ScriptStore) : Prop where
  numbered : ∀ id, w.base.scenes id ≠ [] → Numbered (w.base.scenes id)
  linked : ∀ p : ScenePair, w.base.mappings.Confirmed (pairKey preview p.1 p.2) → Linked w.base p

/-- The kinds under which beats are recorded; the other kinds stand for an aggregate of their own. -/
def MappingKind.isBeat : MappingKind → Bool
  | .sceneOutfitBeat => true
  | .sceneOutfitBeatContinuity => true
  | _ => false

/-- What a mapping row says. -/
structure RowOk (derive : MappingKey → Uuid) (w : ScriptStore) (m : AiImportMapping) : Prop where
  derived : m.key.aggregateKind.isBeat = false →
    (m.key.aggregateKind = .scene → m.isReserved = true) → m.aggregateId = derive m.key
  exists_ : m.key.aggregateKind = .scene → m.isReserved = false → w.base.scenes m.aggregateId ≠ []

/-- Rows and everything made for a key carry derived ids. -/
structure Derived (derive : MappingKey → Uuid) (preview : AiImportJobId) (w : ScriptStore) :
    Prop where
  rows : ∀ key row, key.previewId = preview → w.base.mappings key = some row →
    RowOk derive w ⟨row, key⟩
  made : ∀ key id, (key, id) ∈ w.made → key.aggregateKind.isBeat = false → id = derive key

/-- **THE INVARIANT** of every store a run of the preview can meet. -/
structure ScriptInv (derive : MappingKey → Uuid) (preview : AiImportJobId) (w : ScriptStore) :
    Prop where
  links : AllMet w → LinksOk preview w
  derived : Derived derive preview w
  beats : AllStillLast w → ∀ key, key.aggregateKind.isBeat = true → w.timesMade key ≤ 1

/-- Nothing was taken out. -/
structure Later (w w' : ScriptStore) : Prop where
  figures : ∀ sceneId, ∀ f ∈ w.figuresOf sceneId, f ∈ w'.figuresOf sceneId
  days : ∀ p, Linked w.base p → Linked w'.base p
  sent : ∀ d ∈ w.sent, d ∈ w'.sent
  scenes : ∀ id, w.base.scenes id ≠ [] → w'.base.scenes id ≠ []

theorem Later.refl (w) : Later w w := ⟨fun _ _ h => h, fun _ h => h, fun _ h => h, fun _ h => h⟩

theorem Later.trans (hab : Later a b) (hbc : Later b c) : Later a c where
  figures id f hf := hbc.figures id f (hab.figures id f hf)
  days p hp := hbc.days p (hab.days p hp)
  sent d hd := hbc.sent d (hab.sent d hd)
  scenes id hid := hbc.scenes id (hab.scenes id hid)

instance : IsPreorder ScriptStore Later where
  refl := Later.refl
  trans _ _ _ := Later.trans

theorem Later.allMet (h : Later w w') (hmet : AllMet w') : AllMet w :=
  fun d hd => hmet d (h.sent d hd)

theorem Later.allStillLast (h : Later w w') (hlast : AllStillLast w') : AllStillLast w :=
  fun d hd => hlast d (h.sent d hd)

theorem RowOk.later (h : RowOk derive w m) (hlater : Later w w') : RowOk derive w' m where
  derived := h.derived
  exists_ hkind hconfirmed := hlater.scenes _ (h.exists_ hkind hconfirmed)

/-! ## §3. The operations -/

section Operations

variable {derive : MappingKey → Uuid} {preview : AiImportJobId} {w w' : ScriptStore}

theorem later_of_grows (hscenes : ∀ id, SceneGrows (w.base.scenes id) (w'.base.scenes id))
    (hsent : ∀ d ∈ w.sent, d ∈ w'.sent) : Later w w' where
  figures id := (hscenes id).characters
  days p := (hscenes p.1).days p.2
  sent := hsent
  scenes id := (hscenes id).exists_

/-- **WHAT KEEPS THE INVARIANT**: scenes grow, no pair is confirmed that was not, the rows are right,
what is made is made under derived ids, and no beat is made a second time. -/
theorem ScriptInv.step (h : ScriptInv derive preview w)
    (hscenes : ∀ id, SceneGrows (w.base.scenes id) (w'.base.scenes id))
    (hsent : ∀ d ∈ w.sent, d ∈ w'.sent)
    (hpairs : ∀ p : ScenePair, w'.base.mappings.Confirmed (pairKey preview p.1 p.2) →
      w.base.mappings.Confirmed (pairKey preview p.1 p.2) ∨ (AllMet w' → Linked w'.base p))
    (hrows : ∀ key row, key.previewId = preview → w'.base.mappings key = some row →
      w.base.mappings key = some row ∨ RowOk derive w' ⟨row, key⟩)
    (hmade : ∀ key id, (key, id) ∈ w'.made →
      (key, id) ∈ w.made ∨ (key.aggregateKind.isBeat = false → id = derive key))
    (hbeats : AllStillLast w' → ∀ key, key.aggregateKind.isBeat = true →
      w.timesMade key ≤ 1 → w'.timesMade key ≤ 1) :
    Later w w' ∧ ScriptInv derive preview w' := by
  have hlater : Later w w' := later_of_grows hscenes hsent
  refine ⟨hlater, ?_, ⟨?_, ?_⟩, ?_⟩
  · intro hmet
    have hlinks := h.links (hlater.allMet hmet)
    refine ⟨?_, ?_⟩
    · intro id hne
      exact (hscenes id).numbered (hlinks.numbered id) hne
    · intro p hconfirmed
      rcases hpairs p hconfirmed with hold | hnew
      · exact hlater.days p (hlinks.linked p hold)
      · exact hnew hmet
  · intro key row hkey hrow
    rcases hrows key row hkey hrow with hold | hnew
    · exact (h.derived.rows key row hkey hold).later hlater
    · exact hnew
  · intro key id hmem hkind
    rcases hmade key id hmem with hold | hnew
    · exact h.derived.made key id hold hkind
    · exact hnew hkind
  · intro hlast key hbeat
    exact hbeats hlast key hbeat (h.beats (hlater.allStillLast hlast) key hbeat)

/-- Something is made for a key when the stream grew. -/
theorem mem_madeFor {id} {before after : List ε} (h : (key', id') ∈ madeFor key id before after) :
    key' = key ∧ id' = id ∧ before.length < after.length := by
  unfold madeFor at h
  split at h
  · next hgrown =>
    obtain ⟨rfl, rfl⟩ := Prod.mk.inj (mem_singleton.mp h)
    exact ⟨rfl, rfl, hgrown⟩
  · cases h

/-- What is made for one key does not count for another. -/
theorem count_madeFor_of_ne (hne : key ≠ other) (id) (before after : List ε) (made) :
    ((madeFor key id before after ++ made).map Prod.fst).count other =
      (made.map Prod.fst).count other := by
  unfold madeFor
  split
  · simp [hne]
  · rfl

/-- One operation makes at most one thing. -/
theorem count_madeFor_le (key other id) (before after : List ε) (made) :
    ((madeFor key id before after ++ made).map Prod.fst).count other ≤
      (made.map Prod.fst).count other + 1 := by
  have hone : ((madeFor key id before after).map Prod.fst).count other ≤ 1 := by
    unfold madeFor
    split
    · exact count_le_length
    · exact Nat.zero_le 1
  rw [map_append, count_append]
  omega

/-- An operation on other streams, which may have made aggregates of their own. -/
theorem ScriptInv.frame {new} (h : ScriptInv derive preview w)
    (hscenes : w'.base.scenes = w.base.scenes) (hmappings : w'.base.mappings = w.base.mappings)
    (hsent : w'.sent = w.sent) (hmade : w'.made = new ++ w.made)
    (hnew : ∀ key id, (key, id) ∈ new → key.aggregateKind.isBeat = false ∧ id = derive key) :
    Later w w' ∧ ScriptInv derive preview w' := by
  refine h.step ?_ ?_ ?_ ?_ ?_ ?_
  · intro id
    rw [hscenes]
    exact SceneGrows.refl _
  · rw [hsent]
    exact fun _ hd => hd
  · rw [hmappings]
    exact fun _ hp => .inl hp
  · rw [hmappings]
    exact fun _ _ _ hrow => .inl hrow
  · intro key id hmem
    rw [hmade] at hmem
    exact (mem_append.mp hmem).symm.imp (fun hold => hold) fun hmem _ => (hnew key id hmem).2
  · intro _ beat hbeat hle
    have hzero : (new.map Prod.fst).count beat = 0 := by
      refine count_eq_zero.mpr fun hmem => ?_
      obtain ⟨⟨key, id⟩, hthere, rfl⟩ := mem_map.mp hmem
      rw [(hnew key id hthere).1] at hbeat
      cases hbeat
    unfold ScriptStore.timesMade
    rw [hmade, map_append, count_append, hzero, Nat.zero_add]
    exact hle

/-- Others act. -/
theorem ScriptInv.othersAct (h : ScriptInv derive preview w) :
    Later w w.othersAct ∧ ScriptInv derive preview w.othersAct := by
  have hbase : w.othersAct.base.mappings = w.base.mappings ∧ w.othersAct.sent = w.sent ∧
      w.othersAct.made = w.made := by
    unfold ScriptStore.othersAct
    split <;> exact ⟨rfl, rfl, rfl⟩
  obtain ⟨hmappings, hsent, hmade⟩ := hbase
  refine h.step (othersAct_grows w) ?_ ?_ ?_ ?_ ?_
  · rw [hsent]
    exact fun _ hd => hd
  · rw [hmappings]
    exact fun _ hp => .inl hp
  · rw [hmappings]
    exact fun _ _ _ hrow => .inl hrow
  · rw [hmade]
    exact fun _ _ hmem => .inl hmem
  · unfold ScriptStore.timesMade
    rw [hmade]
    exact fun _ _ _ hle => hle

/-- Rows are written. -/
theorem ScriptInv.setRows (h : ScriptInv derive preview w)
    (hrows : ∀ key row, key.previewId = preview → mappings key = some row →
      w.base.mappings key = some row ∨ RowOk derive w ⟨row, key⟩)
    (hpairs : ∀ p : ScenePair, mappings.Confirmed (pairKey preview p.1 p.2) →
      w.base.mappings.Confirmed (pairKey preview p.1 p.2) ∨ (AllMet w → Linked w.base p)) :
    Later w { w with base := { w.base with mappings } } ∧
      ScriptInv derive preview { w with base := { w.base with mappings } } := by
  refine h.step (fun _ => SceneGrows.refl _) (fun _ hd => hd) hpairs ?_ (fun _ _ hmem => .inl hmem)
    (fun _ _ _ hle => hle)
  intro key row hkey hrow
  rcases hrows key row hkey hrow with hold | hnew
  · exact .inl hold
  · exact .inr (hnew.later (later_of_grows (fun _ => SceneGrows.refl _) fun _ hd => hd))

/-- **THE GUARD OF THE SCENE**: a beat that equals its figure's last one is not added. -/
theorem addOutfitBeat_stays (hseen : seen <+: log)
    (hlast : ∃ beat ∈ SceneAggregate.lastBeat ((replay SceneAggregate log).beatsOf c.characterId),
      beat.outfitId = c.outfitId ∧ beat.note = c.note) :
    (dispatchScene (.addOutfitBeat c) seen log).1 = log := by
  obtain hsame | ⟨_, events, -, hdecided, -⟩ := dispatchScene_cases hseen (.addOutfitBeat c)
  · exact hsame
  · obtain ⟨beat, hbeat, houtfit, hnote⟩ := hlast
    have hhandled : (replay SceneAggregate log).addOutfitBeat c = .ok events := hdecided.handled
    simp only [SceneAggregate.addOutfitBeat, Fallible.check_eq_ok] at hhandled
    obtain ⟨-, -, -, hguard, -⟩ := hhandled
    rw [Option.mem_def.mp hbeat] at hguard
    simp [houtfit, hnote] at hguard

/-- A command of the worker. What is sent for a beat key is a beat; it is not made again while it is
its figure's last one. -/
theorem ScriptInv.send (h : ScriptInv derive preview w) (hkeeps : cmd.unlinks = false)
    (hmade : ∀ k, key = some k → k.aggregateKind.isBeat = false →
      (w.base.scenes cmd.id).length <
        (dispatchScene cmd (w.seen cmd.id) (w.base.scenes cmd.id)).1.length → cmd.id = derive k)
    (hbeat : ∀ k, key = some k → k.aggregateKind.isBeat = true → ∃ c, cmd = .addOutfitBeat c) :
    Later w (w.send key cmd) ∧ ScriptInv derive preview (w.send key cmd) := by
  refine h.step (actOn_grows (w.seen_le _) hkeeps) (fun _ hd => mem_cons_of_mem _ hd)
    (fun _ hp => .inl hp) (fun _ _ _ hrow => .inl hrow) ?_ ?_
  · intro key' id hmem
    cases key with
    | none => exact .inl hmem
    | some k =>
      refine (mem_append.mp hmem).symm.imp (fun hold => hold) fun hnew hkind => ?_
      obtain ⟨rfl, rfl, hgrown⟩ := mem_madeFor hnew
      exact hmade _ rfl hkind hgrown
  · intro hlast beat hkind hle
    cases key with
    | none => exact hle
    | some k =>
      by_cases hk : k = beat
      · subst hk
        by_cases hfirst : w.timesMade k = 0
        · have hone := count_madeFor_le k k cmd.id (w.base.scenes cmd.id)
            (dispatchScene cmd (w.seen cmd.id) (w.base.scenes cmd.id)).1 w.made
          unfold ScriptStore.timesMade at hfirst ⊢
          rw [hfirst] at hone
          exact hone
        · obtain ⟨c, rfl⟩ := hbeat k rfl hkind
          have hstays := addOutfitBeat_stays (w.seen_le _)
            (hlast _ mem_cons_self (by simpa using hfirst))
          unfold ScriptStore.timesMade ScriptStore.send
          dsimp only [Option.elim]
          rw [hstays, madeFor, if_neg (Nat.lt_irrefl _)]
          exact hle
      · show ((madeFor k _ _ _ ++ w.made).map Prod.fst).count beat ≤ 1
        rw [count_madeFor_of_ne hk]
        exact hle

end Operations

/-- The key of a pair tells the pair. -/
theorem pairKey_inj {p q : ScenePair} (h : pairKey preview p.1 p.2 = pairKey preview q.1 q.2) :
    p = q := by
  have hchars := congrArg String.toList (congrArg MappingKey.draftRef h)
  simp only [pairKey, pairRef, String.toList_append, append_assoc] at hchars
  -- both ids print with 36 characters
  obtain ⟨-, hrest⟩ := append_inj hchars rfl
  obtain ⟨hscene, hrest⟩ := append_inj hrest (by simp only [Uuid.length_toDisplay])
  obtain ⟨-, hday⟩ := append_inj hrest rfl
  have h1 : p.1 = q.1 := Uuid.toDisplay_inj (String.toList_inj.mp hscene)
  have h2 : p.2.uuid = q.2.uuid := Uuid.toDisplay_inj (String.toList_inj.mp hday)
  obtain ⟨p1, ⟨p2⟩⟩ := p
  obtain ⟨q1, ⟨q2⟩⟩ := q
  cases h1
  cases h2
  rfl

/-! ## §4. Ports -/

section Ports

variable {derive : MappingKey → Uuid} {preview : AiImportJobId} {w : ScriptStore}

variable {key : MappingKey} {m : AiImportMapping}

/-- A port that writes neither scenes nor rows, and creates under the derived id. -/
theorem safe_creating {α : Type} {f : ScriptStore → ScriptStore × Except DomainError α} {ε : Type}
    {before after : ScriptStore → List ε} {id : Uuid} (hkey : key.aggregateKind.isBeat = false)
    (hid : id = derive key)
    (h : ∀ w, (f w).1.base.scenes = w.base.scenes ∧ (f w).1.base.mappings = w.base.mappings ∧
      (f w).1.sent = w.sent ∧ (f w).1.made = madeFor key id (before w) (after w) ++ w.made) :
    Safe (ScriptInv derive preview) Later (atomic f) := by
  refine Safe.atomic fun w hI => ?_
  obtain ⟨hscenes, hmappings, hsent, hmade⟩ := h w
  refine hI.frame hscenes hmappings hsent hmade ?_
  intro key' id' hmem
  obtain ⟨rfl, rfl, -⟩ := mem_madeFor hmem
  exact ⟨hkey, hid⟩

/-- A port that only updates. -/
theorem safe_updating {α : Type} {f : ScriptStore → ScriptStore × Except DomainError α}
    (h : ∀ w, (f w).1.base.scenes = w.base.scenes ∧ (f w).1.base.mappings = w.base.mappings ∧
      (f w).1.sent = w.sent ∧ (f w).1.made = w.made) :
    Safe (ScriptInv derive preview) Later (atomic f) := by
  refine Safe.atomic fun w hI => ?_
  obtain ⟨hscenes, hmappings, hsent, hmade⟩ := h w
  exact hI.frame hscenes hmappings hsent (show _ = [] ++ w.made from hmade) nofun

/-! ### The mapping table -/

/-- A row that was found says what rows say. -/
theorem wpiOk_findMapping (hkey : key.previewId = preview) :
    wpiOk (ScriptInv derive preview) Later (onBase (findMapping key))
      (fun stored t => ∀ m, stored = some m → m.key = key ∧ RowOk derive t m) w := by
  refine wpiOk_read (f := fun w : ScriptStore => w.base.mappings.find key) ?_
  intro t _ hI m hm
  obtain ⟨row, hrow, rfl⟩ := Option.map_eq_some_iff.mp hm
  exact ⟨rfl, hI.derived.rows key row hkey hrow⟩

theorem safe_findMapping (key) : Safe (ScriptInv derive preview) Later (onBase (findMapping key)) :=
  fun _ => wpiOk_read (f := fun w : ScriptStore => w.base.mappings.find key) fun _ _ _ => trivial

/-- A reservation with the derived id, whoever won it. -/
theorem wpiOk_reserveMapping {id} (hkey : key.previewId = preview)
    (hid : key.aggregateKind.isBeat = false → id = derive key) :
    wpiOk (ScriptInv derive preview) Later (onBase (reserveMapping (.reservation key id)))
      (fun m t => m.key = key ∧ RowOk derive t m) w := by
  have hown : ∀ t, RowOk derive t (.reservation key id) := by
    intro t
    refine ⟨fun hbeat _ => hid hbeat, fun _ hconfirmed => ?_⟩
    cases hconfirmed
  rw [reserveMapping, onBase_atomic]
  have hrows : ∀ t, ScriptInv derive preview t → ∀ key' row, key'.previewId = preview →
      (t.base.mappings.reserve (.reservation key id)).1 key' = some row →
      t.base.mappings key' = some row ∨ RowOk derive t ⟨row, key'⟩ := by
    intro t _ key' row _ hrow
    rcases reserve_cases hrow with hold | ⟨rfl, rfl⟩
    · exact .inl hold
    · exact .inr (hown t)
  refine wpiOk_atomic ?_ ?_
  · intro t _ hI
    refine hI.setRows (hrows t hI) ?_
    rintro p ⟨row, hrow, hconfirmed⟩
    rcases reserve_cases hrow with hold | ⟨-, rfl⟩
    · exact .inl ⟨row, hold, hconfirmed⟩
    · cases hconfirmed
  · intro t m _ hI hm
    cases hm
    obtain ⟨row, hrow, hwinner⟩ := reserve_winner t.base.mappings (.reservation key id)
    rw [hwinner]
    have hok : RowOk derive t ⟨row, key⟩ := by
      rcases hrows t hI key row hkey hrow with hold | hnew
      · exact hI.derived.rows key row hkey hold
      · exact hnew
    exact ⟨rfl, hok.later (later_of_grows (fun _ => SceneGrows.refl _) fun _ hd => hd)⟩

/-- A row is written that says what rows say; a pair only when it is linked. -/
theorem wpiOk_insertMapping (hrow : RowOk derive w m)
    (hpair : ∀ p : ScenePair, m.key = pairKey preview p.1 p.2 → AllMet w → Linked w.base p) :
    wpiOk (ScriptInv derive preview) Later (onBase (insertMapping m)) (fun _ _ => True) w := by
  rw [insertMapping, onBase_atomic]
  refine wpiOk_atomic ?_ fun _ _ _ _ _ => trivial
  intro t hlater hI
  refine hI.setRows ?_ ?_
  · intro key row _ hinsert
    rcases insert_cases hinsert with hold | ⟨rfl, rfl⟩
    · exact .inl hold
    · exact .inr (hrow.later hlater)
  · rintro p ⟨row, hinsert, hconfirmed⟩
    rcases insert_cases hinsert with hold | ⟨hkey, -⟩
    · exact .inl ⟨row, hold, hconfirmed⟩
    · exact .inr fun hmet => hlater.days p (hpair p hkey.symm (hlater.allMet hmet))

/-- The kinds whose rows always carry the derived id. -/
def MappingKind.isDerived (kind : MappingKind) : Prop := kind.isBeat = false ∧ kind ≠ .scene

instance : DecidablePred MappingKind.isDerived := fun _ => inferInstanceAs (Decidable (_ ∧ _))

theorem RowOk.id (h : RowOk derive w m) (hkind : m.key.aggregateKind.isDerived) :
    m.aggregateId = derive m.key :=
  h.derived hkind.1 fun hscene => absurd hscene hkind.2

/-- Outside scenes a row is right when its id is. -/
theorem RowOk.of_id (hscene : m.key.aggregateKind ≠ .scene)
    (hid : m.key.aggregateKind.isBeat = false → m.aggregateId = derive m.key) : RowOk derive w m :=
  ⟨fun hbeat _ => hid hbeat, fun h => absurd h hscene⟩

theorem safe_confirm (hscene : m.key.aggregateKind ≠ .scene)
    (hshoot : m.key.aggregateKind ≠ .sceneShoot)
    (hid : m.key.aggregateKind.isBeat = false → m.aggregateId = derive m.key) (version) :
    Safe (ScriptInv derive preview) Later (confirm m version) := by
  intro w
  refine wpiOk_insertMapping (RowOk.of_id hscene hid) ?_
  intro p hkey
  exact absurd (congrArg MappingKey.aggregateKind hkey) hshoot

theorem wpiOk_orReserve {id} (hkey : key.previewId = preview)
    (hid : key.aggregateKind.isBeat = false → id = derive key)
    (hstored : ∀ m, stored = some m → m.key = key ∧ RowOk derive w m) :
    wpiOk (ScriptInv derive preview) Later (orReserve stored key id)
      (fun m t => m.key = key ∧ RowOk derive t m) w := by
  unfold orReserve
  cases stored with
  | none => exact wpiOk_reserveMapping hkey hid
  | some m => exact wpiOk_pure.mpr (hstored m rfl)

theorem wpiOk_findOrReserve {id} (hkey : key.previewId = preview)
    (hid : key.aggregateKind.isBeat = false → id = derive key) :
    wpiOk (ScriptInv derive preview) Later (findOrReserve key id)
      (fun m t => m.key = key ∧ RowOk derive t m) w :=
  (wpiOk_findMapping hkey).bind fun _ _ _ hstored => wpiOk_orReserve hkey hid hstored

/-! ### Scene commands -/

/-- **A SCENE COMMAND** among others: it is decided on a later store, and may use the invariant
there. -/
theorem wpi_sceneCommand {key} (hkeeps : cmd.unlinks = false)
    (hmade : ∀ t, Later w t → ∀ k, key = some k → k.aggregateKind.isBeat = false →
      (t.base.scenes cmd.id).length <
        (dispatchScene cmd (t.seen cmd.id) (t.base.scenes cmd.id)).1.length → cmd.id = derive k)
    (hbeat : ∀ k, key = some k → k.aggregateKind.isBeat = true → ∃ c, cmd = .addOutfitBeat c)
    (hQ : ∀ t, Later w t → ScriptInv derive preview t →
      Q (dispatchScene cmd (t.seen cmd.id) (t.base.scenes cmd.id)).2 (t.send key cmd)) :
    wpi (ScriptInv derive preview) Later (sceneCommand key cmd) Q w := by
  refine wpi_bind.mpr (wpi_atomic.mpr ?_)
  intro t hlater hI
  refine ⟨hI.othersAct, wpi_atomic.mpr ?_⟩
  intro u hu hIu
  have hlater' : Later w u := (hlater.trans hI.othersAct.1).trans hu
  exact ⟨hIu.send hkeeps (hmade u hlater') hbeat, hQ u hlater' hIu⟩

/-- A scene command that is sent for no key. -/
theorem wpi_sceneUpdate (hkeeps : cmd.unlinks = false)
    (hQ : ∀ t, Later w t → ScriptInv derive preview t →
      Q (dispatchScene cmd (t.seen cmd.id) (t.base.scenes cmd.id)).2 (t.send none cmd)) :
    wpi (ScriptInv derive preview) Later (sceneCommand none cmd) Q w :=
  wpi_sceneCommand hkeeps (fun _ _ _ h => nomatch h) (fun _ h => nomatch h) hQ

/-- A beat, for its key. -/
theorem safe_addOutfitBeat {key : MappingKey} (hbeat : key.aggregateKind.isBeat = true) (c) :
    Safe (ScriptInv derive preview) Later (sceneCommand (some key) (.addOutfitBeat c)) := by
  intro w
  refine wpi_sceneCommand rfl ?_ (fun _ _ _ => ⟨c, rfl⟩) fun _ _ _ _ _ => trivial
  intro t _ k hk hno
  cases hk
  rw [hbeat] at hno
  cases hno

end Ports

end Breakdown.Ai
