/-
**WHEN A KEY BELONGS TO AT MOST ONE AGGREGATE.**

A reaper releases a claim whose Reserved event is `claimTtl` old and whose aggregate stream is
absent. So a create is safe exactly as long as its claim's EVENT is young. `reserve` however hands
an existing claim out again without refreshing that event, so "within `claimTtl` of the moment
`reserve` returned" is not enough:

- `recovered_claim_creates_twice`: a run that meets that bound and ends with two episodes of one
  number;
- `Excl`, `excl_step`: while creates are made under a young claim, the key of a realized
  aggregate is held by it and no release of that claim is under way;
- `reservation_exclusive`: in every such run a key is realized by at most one aggregate.
-/
import Breakdown.Reservations.Finality

namespace Breakdown.Reservations

open EventLog Transition List Function World

/-! ## §1. Timing conditions on the create attempts -/

/-- The create is attempted within `claimTtl` of the moment the call's `reserve` returned. -/
def attemptTimely (claimTtl : Nat) (w : World) : Action → Bool
  | .executeAttempt c _ =>
    match w.calls c with
    | some ⟨_, _, .executing _ reservedAt _⟩ => w.now ≤ reservedAt + claimTtl
    | _ => true
  | _ => true

/-- A create attempt that finds its aggregate stream still empty is made within `claimTtl` of the
Reserved event of the claim it holds. -/
def claimYoung (claimTtl : Nat) (w : World) : Action → Bool
  | .executeAttempt c _ =>
    match w.calls c with
    | some ⟨_, req, .executing claim _ _⟩ =>
      !(w.streams req.aggregate).isEmpty ||
        match (w.reservations claim.key)[claim.claimVersion]? with
        | some e => w.now < e.timestamp + claimTtl
        | none => true
    | _ => true
  | _ => true

/-- The aggregate's stream has a create event of this key. -/
def HasCreate (pairHash : PairHash) (w : World) (key : String) (a : AggregateRef) : Prop :=
  ∃ e ∈ w.streams a, a.kind.createdKey pairHash e = some key

instance (pairHash : PairHash) (w : World) (key : String) (a : AggregateRef) :
    Decidable (HasCreate pairHash w key a) := inferInstanceAs (Decidable (∃ e ∈ w.streams a, _))

variable {claimTtl : Nat} {pairHash : PairHash} {w w' : World}

variable {key : String} {a : AggregateRef} {kind : ReservationKind} {claimed : Uuid} {version : Nat}
  {r : ReaperId}

theorem Inv.realized_of_hasCreate (h : Inv claimTtl pairHash w) (hc : HasCreate pairHash w key a) :
    Realized pairHash w key a := by
  obtain ⟨e, he, hkey⟩ := hc
  cases hs : w.streams a with
  | nil =>
    rw [hs] at he
    cases he
  | cons first rest =>
    rw [hs] at he
    obtain rfl | hrest := mem_cons.1 he
    · exact ⟨e, rest, hs, hkey⟩
    · -- a create event further down would contradict `creates`
      have hnone := h.creates a e (by rw [hs]; exact hrest)
      rw [hkey] at hnone
      cases hnone

/-! ## §2. The key of a realized aggregate stays its own -/

/-- A reaper is about to release the key at this version. -/
def ReleasePending (w : World) (key : String) (version : Nat) : Prop :=
  ∃ r kind claimed verdict, w.reapers r = .writing kind key claimed version verdict ∧
    verdict ≠ .matching

/-- The last event of the key's stream is a claim of the aggregate, and it is not being released. -/
def HeldBy (w : World) (key : String) (id : Uuid) : Prop :=
  ∃ version e, lastEvent (w.reservations key) = some (version, e) ∧
    e.event.holder = some id ∧ ¬ ReleasePending w key version

/-- Every realized aggregate holds its key. -/
def Excl (pairHash : PairHash) (w : World) : Prop :=
  ∀ key a, Realized pairHash w key a → HeldBy w key a.id

theorem realized_fromKey (h : Realized pairHash w key a) :
    ReservationKind.fromKey key = some a.kind := by
  obtain ⟨e, rest, -, hkey⟩ := h
  exact createdKey_fromKey hkey

section

variable (h : Excl pairHash w)
include h

/-- Two aggregates cannot both hold a key. -/
theorem Excl.unique (ha : Realized pairHash w key a) (hb : Realized pairHash w key b) : a = b := by
  obtain ⟨va, ea, hlasta, heva, -⟩ := h key a ha
  obtain ⟨vb, eb, hlastb, hevb, -⟩ := h key b hb
  have hsame : ea = eb := by
    rw [hlasta] at hlastb
    cases hlastb
    rfl
  subst hsame
  have hid : a.id = b.id := Option.some.inj (heva.symm.trans hevb)
  have hkind : a.kind = b.kind :=
    Option.some.inj ((realized_fromKey ha).symm.trans (realized_fromKey hb))
  cases a
  cases b
  simp only at hid hkind
  rw [hid, hkind]

/-- The reaper that has seen an old claim as the last event of a realized key is looking at the
realizing aggregate. -/
theorem Excl.eq_claimed (ha : Realized pairHash w key a)
    (hkind : ReservationKind.fromKey key = some kind) (hold : OldClaim claimTtl w key claimed version)
    (hlast : lastEvent (w.reservations key) = some (version, e)) : a = ⟨kind, claimed⟩ := by
  obtain ⟨v, e', hlast', hev', -⟩ := h key a ha
  rw [hlast] at hlast'
  cases hlast'
  obtain ⟨ts, hat, -⟩ := hold
  have he := (eventAt_of_lastEvent hlast).unique hat
  subst he
  have hid : a.id = claimed := (Option.some.inj hev').symm
  have hk : a.kind = kind := Option.some.inj ((realized_fromKey ha).symm.trans hkind)
  cases a
  simp only at hid hk
  rw [hid, hk]

/-! ## §3. One lemma per kind of update -/

/-- The invariant reads streams, reservations and reapers; fewer realized keys and fewer pending
releases keep it. -/
theorem Excl.of_le (hres : w'.reservations = w.reservations)
    (hreal : ∀ key a, Realized pairHash w' key a → Realized pairHash w key a)
    (hpend : ∀ key version, ReleasePending w' key version → ReleasePending w key version) :
    Excl pairHash w' := by
  intro key a ha
  obtain ⟨version, e, hlast, hev, hnot⟩ := h key a (hreal key a ha)
  exact ⟨version, e, by rw [hres]; exact hlast, hev, fun hp => hnot (hpend key version hp)⟩

/-- Moving a reaper to a phase that does not release a realized key's claim. -/
theorem Excl.setReaper (hphase : ∀ kind key claimed version verdict,
      phase = .writing kind key claimed version verdict → verdict ≠ .matching →
      ∀ a e, Realized pairHash w key a → lastEvent (w.reservations key) = some (version, e) →
        False) : Excl pairHash (w.setReaper r phase) := by
  intro key a ha
  obtain ⟨version, e, hlast, hev, hnot⟩ := h key a ha
  refine ⟨version, e, hlast, hev, ?_⟩
  rintro ⟨r', kind, claimed, verdict, hr', hverdict⟩
  by_cases hrr : r' = r
  · subst hrr
    simp only [setReaper, update_self] at hr'
    exact hphase kind key claimed version verdict hr' hverdict a e ha hlast
  · simp only [World.setReaper, update_of_ne hrr] at hr'
    exact hnot ⟨r', kind, claimed, verdict, hr', hverdict⟩

/-- An append to a key that no aggregate realizes. -/
theorem Excl.appendReservation (hfree : ∀ a, ¬ Realized pairHash w key a) :
    Excl pairHash (w.setReservation key (w.reservations key ++ [e])) := by
  intro key' a ha
  have hne : key' ≠ key := by
    rintro rfl
    exact hfree a ha
  obtain ⟨version, e', hlast, hev, hnot⟩ := h key' a ha
  refine ⟨version, e', ?_, hev, hnot⟩
  simpa only [setReservation, update_of_ne hne] using hlast

/-! ## §4. One lemma per action that touches what the invariant reads -/

theorem Excl.reserveAppend (hinv : Inv claimTtl pairHash w)
    (outcome) (hc : w.calls c = some call) (hphase : call.phase = .appending n casAt) :
    Excl pairHash (reserveAppend pairHash w c call n casAt outcome) := by
  unfold Reservations.reserveAppend
  rcases happ : appendLifecycle (w.reservations (call.request.key pairHash))
    (casAt.elim ExpectedVersion.empty ExpectedVersion.exact) ⟨.reserved call.request.id, w.now⟩
    outcome with ⟨log, result⟩
  simp only [happ]
  obtain ⟨rfl, -⟩ | ⟨hsat, rfl, -⟩ := appendLifecycle_cases happ
  · rw [setReservation_self]
    exact h
  · refine Excl.appendReservation h ?_
    -- a realized key is neither fresh nor released
    intro a ha
    obtain ⟨version, e, hlast, hholder, -⟩ := h _ a ha
    obtain ⟨x, hx⟩ := hinv.released_of_satisfied hc hphase hsat hlast
    rw [hx] at hholder
    cases hholder

end

/-- A call that attempts its create under a young claim holds the key, and nobody is about to
release it. -/
theorem Inv.heldBy_of_young (hinv : Inv claimTtl pairHash w)
    (hc : w.calls c = some ⟨i, req, .executing claim reservedAt n⟩)
    (hyoung : claimYoung claimTtl w (.executeAttempt c outcome))
    (hempty : w.streams req.aggregate = []) : HeldBy w (req.key pairHash) req.id := by
  obtain ⟨hkey, hid, e, hev, hevent⟩ := hinv.calls c _ hc
  simp only at hkey hid
  have hfresh : w.now < e.timestamp + claimTtl := by
    have hev' : (w.reservations claim.key)[claim.claimVersion]? = some e := hev
    simpa [claimYoung, hc, hempty, hev'] using hyoung
  rw [hkey, hid] at *
  obtain hres | hcons := hevent
  · -- the Reserved event is young, so nothing follows it
    have hlen : (w.reservations (req.key pairHash)).length = claim.claimVersion + 1 := by
      obtain ⟨hlt, -⟩ := List.getElem?_eq_some_iff.1 hev
      by_contra hlen
      have hsucc : claim.claimVersion + 1 < (w.reservations (req.key pairHash)).length := by omega
      have hnext := hinv.lifecycle _ _ e _ hev (getElem?_eq_getElem hsucc)
      obtain ⟨x, y, hrel, -⟩ | ⟨x, -, -, hold⟩ := hnext
      · rw [hres] at hrel
        cases hrel
      · omega
    refine ⟨claim.claimVersion, e, lastEvent_of_eventAt hev hlen, by rw [hres]; rfl, ?_⟩
    -- and every reaper that is about to write there has seen an old event
    rintro ⟨r, kind, claimed, verdict, hr, -⟩
    obtain ⟨-, ⟨ts, hts, hold⟩, -⟩ := hinv.reaperOk hr
    have he := hev.unique hts
    subst he
    simp only at hfresh
    omega
  · -- a Consumed claim is realized, but the stream is empty
    obtain ⟨kind, hkind, e', rest, hs, -⟩ := hinv.consumed _ _ req.id e.timestamp (by
      rw [← hcons]
      exact hev)
    rw [key_fromKey] at hkind
    cases hkind
    have hs' : w.streams req.aggregate = e' :: rest := hs
    rw [hempty] at hs'
    cases hs'

section

variable (h : Excl pairHash w)
include h

theorem Excl.executeAttempt (hinv : Inv claimTtl pairHash w) (outcome)
    (hc : w.calls c = some ⟨i, req, .executing claim reservedAt n⟩)
    (hyoung : claimYoung claimTtl w (.executeAttempt c outcome)) :
    Excl pairHash (executeAttempt w c ⟨i, req, .executing claim reservedAt n⟩ claim reservedAt n
      outcome) := by
  unfold Reservations.executeAttempt
  simp only
  split
  · next st log reply ha =>
    obtain ⟨-, hlog⟩ := hinv.attempt_create ha
    obtain rfl | ⟨hnil, e, rfl, hkey⟩ := hlog
    · rw [setStream_self]
      exact h
    · -- the create event was appended: the only newly realized key is the call's own
      have hheld := hinv.heldBy_of_young hc hyoung hnil
      intro key a hreal
      by_cases ha : a = req.aggregate
      · subst ha
        obtain ⟨e', rest, hs, hkey'⟩ := hreal
        simp only [setCall_streams, setActor_streams, setStream, update_self, cons.injEq] at hs
        obtain ⟨rfl, -⟩ := hs
        rw [hkey] at hkey'
        cases hkey'
        exact hheld
      · refine h key a ?_
        obtain ⟨e', rest, hs, hkey'⟩ := hreal
        simp only [setCall_streams, setActor_streams, setStream, update_of_ne ha] at hs
        exact ⟨e', rest, hs, hkey'⟩
  · exact h

theorem Excl.executeOther (hinv : Inv claimTtl pairHash w)
    (i a expected cmd outcome) (hcmd : a.kind.isCreate cmd = false) :
    Excl pairHash (executeOther w i a expected cmd outcome) := by
  unfold Reservations.executeOther
  rcases hex : handleExecute (w.actorOrStart i a) (w.streams a) expected cmd outcome
    conflictRetries with ⟨st, log, reply⟩
  simp only
  obtain ⟨-, rfl, -⟩ | ⟨events, hdec, rfl, -⟩ :=
    handleExecute_cases conflictRetries (hinv.actorOrStart i a) hex
  · rw [setStream_self]
    exact h
  · -- the appended events create nothing, so every realized key was realized before
    refine Excl.of_le h rfl ?_ (fun _ _ hp => hp)
    intro key b hreal
    obtain ⟨e, rest, hs, hkey⟩ := hreal
    by_cases hb : b = a
    · subst hb
      simp only [setActor_streams, setStream, update_self] at hs
      cases hold : w.streams b with
      | nil =>
        rw [hold, nil_append] at hs
        have hmem : e ∈ events := by rw [hs]; exact mem_cons_self
        rw [createdKey_of_handle hcmd hdec.handled hmem] at hkey
        cases hkey
      | cons first tl =>
        rw [hold, cons_append] at hs
        cases hs
        exact ⟨e, tl, hold, hkey⟩
    · simp only [setActor_streams, setStream, update_of_ne hb] at hs
      exact ⟨e, rest, hs, hkey⟩

theorem Excl.reapProbe (hinv : Inv claimTtl pairHash w)
    (hr : w.reapers r = .probing kind key claimed version) :
    Excl pairHash (reapProbe w r kind key claimed version) := by
  obtain ⟨hkind, hold⟩ := hinv.reaperOk hr
  unfold Reservations.reapProbe
  apply h.setReaper
  intro kind' key' claimed' version' verdict hphase hverdict a e ha hlast
  split at hphase
  · next hempty =>
    cases hphase
    -- the probed stream is empty, but it would be the realizing one
    obtain rfl := h.eq_claimed ha hkind hold hlast
    obtain ⟨first, rest, hs, -⟩ := ha
    rw [hs] at hempty
    cases hempty
  · cases hphase

theorem Excl.reapVerify (hinv : Inv claimTtl pairHash w)
    (hr : w.reapers r = .verifying kind key claimed version) :
    Excl pairHash (reapVerify pairHash w r kind key claimed version) := by
  obtain ⟨hkind, hold⟩ := hinv.reaperOk hr
  unfold Reservations.reapVerify
  apply h.setReaper
  intro kind' key' claimed' version' verdict hphase hverdict a e ha hlast
  split at hphase
  · cases hphase
  · next realized hhead =>
    have hok := verdict_of_head key hhead
    cases hphase
    obtain rfl := h.eq_claimed ha hkind hold hlast
    split at hok
    · next heq => exact hverdict (if_pos heq)
    · exact RealizedElse.not_realized hok ha

theorem Excl.reapWrite (hinv : Inv claimTtl pairHash w) (outcome)
    (hr : w.reapers r = .writing kind key claimed version verdict) :
    Excl pairHash (reapWrite w r key claimed version verdict outcome) := by
  obtain ⟨hkind, hold, hverdict⟩ := hinv.reaperOk hr
  unfold Reservations.reapWrite
  rcases happ : appendLifecycle (w.reservations key) (.exact version)
    ⟨verdict.event claimed, w.now⟩ outcome with ⟨log, result⟩
  simp only
  obtain ⟨rfl, -⟩ | ⟨hsat, rfl, -⟩ := appendLifecycle_cases happ
  · rw [setReservation_self]
    exact h.setReaper (by intro _ _ _ _ _ hp; cases hp)
  · simp only [isSatisfiedBy_exact, versionOf_eq_current] at hsat
    refine Excl.setReaper ?_ (by intro _ _ _ _ _ hp; cases hp)
    intro key' a ha
    by_cases hk : key' = key
    · subst hk
      obtain ⟨ts, hev, -⟩ := id hold
      have hlast := lastEvent_of_eventAt hev hsat
      obtain rfl := h.eq_claimed ha hkind hold hlast
      obtain ⟨v, e', hlast', -, hnot⟩ := h key' _ ha
      rw [hlast] at hlast'
      cases hlast'
      -- a release at the last version of a realized key is never pending
      have hmatching : verdict = .matching := by
        by_contra hne
        exact hnot ⟨r, kind, claimed, verdict, hr, hne⟩
      subst hmatching
      refine ⟨(w.reservations key').length, ⟨.consumed claimed, w.now⟩, ?_, rfl, ?_⟩
      · simp only [setReservation, update_self, Verdict.event]
        exact lastEvent_concat ..
      · -- nobody has seen an event at the new version yet
        rintro ⟨r', kind', claimed', verdict', hr', -⟩
        have hok' := hinv.reapers r'
        rw [show w.reapers r' = _ from hr'] at hok'
        obtain ⟨-, ⟨ts', hev', -⟩, -⟩ := hok'
        obtain ⟨hlt, -⟩ := List.getElem?_eq_some_iff.1 hev'
        omega
    · obtain ⟨v, e', hlast', hholder, hnot⟩ := h key' a ha
      refine ⟨v, e', ?_, hholder, hnot⟩
      simpa only [setReservation, update_of_ne hk] using hlast'

/-! ## §5. Steps and runs -/

/-- A step that makes its create under a young claim keeps every realized key held. -/
theorem excl_step (hinv : Inv claimTtl pairHash w)
    (hyoung : claimYoung claimTtl w action) (hstep : step claimTtl pairHash w action = some w') :
    Excl pairHash w' := by
  cases stepped_of_step hstep with
  | tick | spawn | reserveClassify | resyncActor | giveUp | stopActor => exact h
  | reserveAppend outcome hc => exact h.reserveAppend hinv outcome hc rfl
  | executeAttempt outcome hc => exact h.executeAttempt hinv outcome hc hyoung
  | compensate outcome hc => exact absurd (hinv.calls _ _ hc) id
  | executeOther hcmd => exact h.executeOther hinv _ _ _ _ _ (by simpa using hcmd)
  | reapRead =>
    unfold reapRead
    split
    · exact h.setReaper nofun
    · exact h
  | reapCheck =>
    refine h.setReaper ?_
    intro kind key claimed version verdict hp
    split at hp <;> cases hp
  | reapProbe hr => exact h.reapProbe hinv hr
  | reapVerify hr => exact h.reapVerify hinv hr
  | reapWrite outcome hr => exact h.reapWrite hinv outcome hr
  | reapFail => exact h.setReaper nofun

end

theorem init_excl : Excl pairHash init := by
  rintro key a ⟨e, rest, hs, -⟩
  cases hs

/-- **RESERVATION EXCLUSIVITY UNDER YOUNG CLAIMS.** In every run in which each create attempt on a
still empty stream is made within `claimTtl` of the Reserved event of its claim, at most one
aggregate stream has a create event of a given key. -/
theorem reservation_exclusive (claimTtl : Nat) (pairHash : PairHash) {w : World}
    (hrun : Runs (step claimTtl pairHash) (fun w a => claimYoung claimTtl w a = true) World.init w)
    {key : String} {a b : AggregateRef} (ha : HasCreate pairHash w key a)
    (hb : HasCreate pairHash w key b) : a = b := by
  have hboth : Inv claimTtl pairHash w ∧ Excl pairHash w :=
    hrun.invariant (fun v => Inv claimTtl pairHash v ∧ Excl pairHash v) ⟨init_inv, init_excl⟩
      fun _ _ _ hi hy hs => ⟨step_inv hi.1 hs, excl_step hi.2 hi.1 hy hs⟩
  obtain ⟨hinv, hexcl⟩ := hboth
  exact hexcl.unique (hinv.realized_of_hasCreate ha) (hinv.realized_of_hasCreate hb)

/-- One episode is created under its claim. -/
def createTrace : List Action :=
  [.spawn 0 0 (episodeThree 1), .reserveAppend 0 .acknowledged, .executeAttempt 0 .acknowledged]

theorem reservation_exclusive_episode :
    ∃ w, Runs (step 600 fun _ _ => 0) (fun w a => claimYoung 600 w a = true) World.init w ∧
      HasCreate (fun _ _ => 0) w ((episodeThree 1).key fun _ _ => 0) ⟨.episodeNumber, 1⟩ ∧
      ∀ b, HasCreate (fun _ _ => 0) w ((episodeThree 1).key fun _ _ => 0) b →
        b = ⟨.episodeNumber, 1⟩ := by
  refine exists_runs_imp createTrace (P := fun w => HasCreate (fun _ _ => 0) w
    ((episodeThree 1).key fun _ _ => 0) ⟨.episodeNumber, 1⟩) (by decide +kernel) ?_
  intro w hw hcreate
  exact ⟨hcreate, fun b hb => reservation_exclusive 600 _ hw hb hcreate⟩

/-! ## §6. The bound on `reserve` alone is not enough -/

/-- Episode 1 reserves number 3 and its first attempt gives up. A second attempt recovers the claim
at the last second of its life; the reaper releases the orphan; episode 2 reserves and creates
number 3; then the second attempt creates it as well, one second after its own `reserve`. -/
def recoveredClaimTrace (pairHash : PairHash) : List Action :=
  [.spawn 0 0 (episodeThree 1), .reserveAppend 0 .acknowledged, .giveUp 0, .tick 599,
   .spawn 1 0 (episodeThree 1), .reserveAppend 1 .acknowledged, .reserveClassify 1 true,
   .tick 1,
   .reapRead 0 ((episodeThree 1).key pairHash) 1, .reapCheck 0, .reapProbe 0,
   .reapWrite 0 .acknowledged,
   .spawn 2 0 (episodeThree 2), .reserveAppend 2 .acknowledged, .reserveClassify 2 true,
   .reserveAppend 2 .acknowledged, .executeAttempt 2 .acknowledged,
   .executeAttempt 1 .acknowledged]

/-- Every attempt of the run is made within `claimTtl` of the moment its `reserve` returned, yet two
episodes of one project get the number 3. -/
theorem recovered_claim_creates_twice :
    ∃ w, Runs (step 600 fun _ _ => 0) (fun w a => attemptTimely 600 w a = true) World.init w ∧
      HasCreate (fun _ _ => 0) w ((episodeThree 1).key fun _ _ => 0) ⟨.episodeNumber, 1⟩ ∧
      HasCreate (fun _ _ => 0) w ((episodeThree 1).key fun _ _ => 0) ⟨.episodeNumber, 2⟩ :=
  exists_runs (recoveredClaimTrace fun _ _ => 0) (by decide +kernel)

end Breakdown.Reservations
