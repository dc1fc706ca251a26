/-
**WHAT HOLDS IN EVERY INTERLEAVING** of create calls and reaper
passes, whatever the timing.

Streams only grow (`step_grows`), so a fact about an event that has been read stays true. The
invariant `Inv` therefore only says what each party KNOWS:

- a call that will re-reserve at a version has seen a Released event there; a call with a claim has
  seen its own Reserved or Consumed event (`CallOk`);
- a reaper that will write at a version has seen there a Reserved event at least `claimTtl` old, and
  what it knows about the aggregate stream is still so (`ReaperOk`);
- a reservation stream is a path of the claim lifecycle: Released is followed by Reserved, an OLD
  Reserved by Released or Consumed of the same aggregate, and Consumed by nothing;
- no call ever compensates: on an empty stream every create is accepted.

`step_inv` keeps it over one step and `runs_inv` over every run.
-/
import Breakdown.Lib.Transition
import Breakdown.Reservations.System

namespace Breakdown.Reservations

open EventLog Transition List Function ReservationKind ExpectedVersion EntityActorState

/-! ## §1. Streams only grow -/

namespace World

variable (w : World)

@[simp] theorem setReservation_self (key) : w.setReservation key (w.reservations key) = w := by
  simp [setReservation]

@[simp] theorem setStream_self (a) : w.setStream a (w.streams a) = w := by
  simp [setStream]

theorem setCall_streams (c call) : (w.setCall c call).streams = w.streams := rfl

theorem setActor_streams (i a st) : (w.setActor i a st).streams = w.streams := rfl

end World

/-- Time passes and streams are extended; nothing is ever taken back. -/
structure Grows (w w' : World) : Prop where
  now : w.now ≤ w'.now
  reservations : ∀ key, w.reservations key <+: w'.reservations key
  streams : ∀ a, w.streams a <+: w'.streams a

namespace Grows

theorem refl (w) : Grows w w := ⟨le_refl _, fun _ => prefix_rfl, fun _ => prefix_rfl⟩

theorem trans (h₁ : Grows w₁ w₂) (h₂ : Grows w₂ w₃) : Grows w₁ w₃ where
  now := le_trans h₁.now h₂.now
  reservations key := (h₁.reservations key).trans (h₂.reservations key)
  streams a := (h₁.streams a).trans (h₂.streams a)

theorem setCall (w c call) : Grows w (w.setCall c call) :=
  ⟨le_refl _, fun _ => prefix_rfl, fun _ => prefix_rfl⟩

theorem setReaper (w r p) : Grows w (w.setReaper r p) :=
  ⟨le_refl _, fun _ => prefix_rfl, fun _ => prefix_rfl⟩

theorem setActor (w i a st) : Grows w (w.setActor i a st) :=
  ⟨le_refl _, fun _ => prefix_rfl, fun _ => prefix_rfl⟩

theorem setReservation (h : w.reservations key <+: log) : Grows w (w.setReservation key log) := by
  refine ⟨le_refl _, fun key' => ?_, fun _ => prefix_rfl⟩
  by_cases hk : key' = key
  · subst hk
    simpa [World.setReservation] using h
  · simp [World.setReservation, hk]

theorem setStream {w a log} (h : w.streams a <+: log) : Grows w (w.setStream a log) := by
  refine ⟨le_refl _, fun _ => prefix_rfl, fun b => ?_⟩
  by_cases hb : b = a
  · subst hb
    simpa [World.setStream] using h
  · simp [World.setStream, hb]

end Grows

/-- What a lifecycle append did: nothing, or it added its event to a stream that stood where it was
expected. -/
theorem appendLifecycle_cases (h : appendLifecycle log expected e outcome = (log', result)) :
    (log' = log ∧ (result = .ok none ∨ result = .error storeFailure)) ∨
      (expected.isSatisfiedBy (versionOf log) ∧ log' = log ++ [e] ∧
        (result = .ok (some log.length) ∨ result = .error storeFailure)) := by
  unfold appendLifecycle at h
  split at h
  · next happ =>
    cases h
    obtain ⟨hv, rfl⟩ := tryAppend_eq_some.1 happ
    exact .inr ⟨hv, rfl, .inl rfl⟩
  · cases h
    exact .inl ⟨rfl, .inl rfl⟩
  · next happ =>
    cases h
    obtain ⟨hv, rfl⟩ := tryAppend_eq_some.1 happ
    exact .inr ⟨hv, rfl, .inr rfl⟩
  · cases h
    exact .inl ⟨rfl, .inr rfl⟩
  · cases h
    exact .inl ⟨rfl, .inr rfl⟩

/-! ## §2. What one step does -/

section Stepped

variable (claimTtl : Nat) (pairHash : PairHash) (w : World)

/-- The steps as a relation: one case per action, with what has to hold for it to be enabled. The
invariants below are proved case by case from it. -/
inductive Stepped : Action → World → Prop
  | tick (seconds) : Stepped (.tick seconds) { w with now := w.now + seconds }
  | spawn {c} (i req) (hc : w.calls c = none) :
      Stepped (.spawn c i req) (w.setCall c ⟨i, req, .appending 0 none⟩)
  | reserveAppend {c i req n casAt} (outcome)
      (hc : w.calls c = some ⟨i, req, .appending n casAt⟩) :
      Stepped (.reserveAppend c outcome)
        (reserveAppend pairHash w c ⟨i, req, .appending n casAt⟩ n casAt outcome)
  | reserveClassify {c i req n} (readOk) (hc : w.calls c = some ⟨i, req, .classifying n⟩) :
      Stepped (.reserveClassify c readOk)
        (reserveClassify pairHash w c ⟨i, req, .classifying n⟩ n readOk)
  | executeAttempt {c i req claim reservedAt n} (outcome)
      (hc : w.calls c = some ⟨i, req, .executing claim reservedAt n⟩) :
      Stepped (.executeAttempt c outcome)
        (executeAttempt w c ⟨i, req, .executing claim reservedAt n⟩ claim reservedAt n outcome)
  | resyncActor {c i req claim reservedAt n}
      (hc : w.calls c = some ⟨i, req, .resyncing claim reservedAt n⟩) :
      Stepped (.resyncActor c)
        (resyncActor w c ⟨i, req, .resyncing claim reservedAt n⟩ claim reservedAt n)
  | compensate {c i req claim result} (outcome)
      (hc : w.calls c = some ⟨i, req, .compensating claim result⟩) :
      Stepped (.compensate c outcome)
        (compensate w c ⟨i, req, .compensating claim result⟩ claim result outcome)
  | giveUp {c call} (hc : w.calls c = some call) : Stepped (.giveUp c)
        (w.setCall c { call with phase := .finished .gaveUp })
  | stopActor (i a) : Stepped (.stopActor i a) (w.setActor i a none)
  | executeOther {i a expected cmd outcome} (hcmd : ¬ a.kind.isCreate cmd = true) :
      Stepped (.executeOther i a expected cmd outcome)
        (executeOther w i a expected cmd outcome)
  | reapRead {r} (key claimed) (hr : w.reapers r = .idle) :
      Stepped (.reapRead r key claimed) (reapRead w r key claimed)
  | reapCheck {r kind key claimed version state}
      (hr : w.reapers r = .loaded kind key claimed version state) :
      Stepped (.reapCheck r)
        (reapCheck claimTtl w r kind key claimed version state)
  | reapProbe {r kind key claimed version}
      (hr : w.reapers r = .probing kind key claimed version) :
      Stepped (.reapProbe r) (reapProbe w r kind key claimed version)
  | reapVerify {r kind key claimed version}
      (hr : w.reapers r = .verifying kind key claimed version) :
      Stepped (.reapVerify r) (reapVerify pairHash w r kind key claimed version)
  | reapWrite {r kind key claimed version verdict} (outcome)
      (hr : w.reapers r = .writing kind key claimed version verdict) :
      Stepped (.reapWrite r outcome)
        (reapWrite w r key claimed version verdict outcome)
  | reapFail (r) : Stepped (.reapFail r) (w.setReaper r .idle)

end Stepped

theorem stepped_of_step (h : step claimTtl pairHash w action = some w') :
    Stepped claimTtl pairHash w action w' := by
  cases action <;> simp only [step] at h
  case tick | stopActor | reapFail =>
    cases h
    constructor
  all_goals
    split at h <;> cases h
    constructor
    assumption

/-! ## §3. Facts about streams that stay true -/

/-- The event at a version of a reservation stream. -/
def EventAt (w : World) (key : String) (version : Nat) (e : StoredEvent) : Prop :=
  (w.reservations key)[version]? = some e

/-- The aggregate's first event is the create event of this key. -/
def Realized (pairHash : PairHash) (w : World) (key : String) (a : AggregateRef) : Prop :=
  ∃ e rest, w.streams a = e :: rest ∧ a.kind.createdKey pairHash e = some key

/-- The aggregate exists, under another key. -/
def RealizedElse (pairHash : PairHash) (w : World) (key : String) (a : AggregateRef) : Prop :=
  ∃ e rest, w.streams a = e :: rest ∧ a.kind.createdKey pairHash e ≠ some key

section Mono

variable {pairHash : PairHash} {w w' : World} {key : String}

variable {version : Nat} {e : StoredEvent} {a : AggregateRef}

theorem EventAt.mono (h : EventAt w key version e) (hg : Grows w w') :
    EventAt w' key version e := by
  obtain ⟨rest, hrest⟩ := hg.reservations key
  obtain ⟨hlt, he⟩ := List.getElem?_eq_some_iff.1 h
  unfold EventAt
  rw [← hrest, getElem?_append_left hlt]
  exact h

theorem EventAt.unique (h : EventAt w key version e) (h' : EventAt w key version e') : e = e' :=
  Option.some.inj (h.symm.trans h')

theorem eventAt_of_lastEvent (h : lastEvent (w.reservations key) = some (version, e)) :
    EventAt w key version e := by
  obtain ⟨pre, hlog, rfl⟩ := lastEvent_eq_some h
  unfold EventAt
  rw [hlog]
  simp

/-- The event at the version after which nothing follows is the last one. -/
theorem lastEvent_of_eventAt (h : EventAt w key version e)
    (hlen : (w.reservations key).length = version + 1) :
    lastEvent (w.reservations key) = some (version, e) := by
  unfold EventAt at h
  unfold lastEvent
  rw [getLast?_eq_getElem?, hlen, Nat.add_sub_cancel, h]
  rfl

theorem streams_cons_mono {e rest} (h : w.streams a = e :: rest) (hg : Grows w w') :
    ∃ rest', w'.streams a = e :: rest' := by
  obtain ⟨more, hmore⟩ := hg.streams a
  exact ⟨rest ++ more, by rw [← hmore, h]; rfl⟩

theorem Realized.mono (h : Realized pairHash w key a) (hg : Grows w w') :
    Realized pairHash w' key a := by
  obtain ⟨e, rest, hs, hkey⟩ := h
  obtain ⟨rest', hs'⟩ := streams_cons_mono hs hg
  exact ⟨e, rest', hs', hkey⟩

theorem RealizedElse.mono (h : RealizedElse pairHash w key a) (hg : Grows w w') :
    RealizedElse pairHash w' key a := by
  obtain ⟨e, rest, hs, hkey⟩ := h
  obtain ⟨rest', hs'⟩ := streams_cons_mono hs hg
  exact ⟨e, rest', hs', hkey⟩

theorem RealizedElse.not_realized (h : RealizedElse pairHash w key a) :
    ¬ Realized pairHash w key a := by
  rintro ⟨e, rest, hs, hkey⟩
  obtain ⟨e', rest', hs', hkey'⟩ := h
  rw [hs] at hs'
  cases hs'
  exact hkey' hkey

end Mono

/-! ## §4. The invariant -/

section Invariant

variable (claimTtl : Nat) (pairHash : PairHash)

/-- What a call knows in each phase. -/
def CallOk (w : World) (call : Call) : Prop := match call.phase with
  | .appending _ (some version) =>
    ∃ x ts, EventAt w (call.request.key pairHash) version ⟨.released x, ts⟩
  | .executing claim _ _ | .resyncing claim _ _ =>
    claim.key = call.request.key pairHash ∧ claim.aggregateId = call.request.id ∧
      ∃ e, EventAt w claim.key claim.claimVersion e ∧
        (e.event = .reserved claim.aggregateId ∨ e.event = .consumed claim.aggregateId)
  | .compensating _ _ => False
  | _ => True

/-- An old Reserved event of the aggregate stands at the version. -/
def OldClaim (w : World) (key : String) (claimed : Uuid) (version : Nat) : Prop :=
  ∃ ts, EventAt w key version ⟨.reserved claimed, ts⟩ ∧ ts + claimTtl ≤ w.now

/-- What a verdict says about the claimed aggregate. An absent stream is only known to have BEEN
absent, so the orphan verdict says nothing. -/
def VerdictOk (w : World) (key : String) (a : AggregateRef) : Verdict → Prop
  | .orphan => True
  | .mismatch => RealizedElse pairHash w key a
  | .matching => Realized pairHash w key a

/-- What a reaper knows in each phase. -/
def ReaperOk (w : World) : ReaperPhase → Prop
  | .idle => True
  | .loaded kind key _ version state => fromKey key = some kind ∧ EventAt w key version state
  | .probing kind key claimed version | .verifying kind key claimed version =>
    fromKey key = some kind ∧ OldClaim claimTtl w key claimed version
  | .writing kind key claimed version verdict =>
    fromKey key = some kind ∧ OldClaim claimTtl w key claimed version ∧
      VerdictOk pairHash w key ⟨kind, claimed⟩ verdict

/-- Which event may follow which on a reservation stream. -/
def LifecycleStep (now : Nat) (e e' : StoredEvent) : Prop :=
  (∃ x y, e.event = .released x ∧ e'.event = .reserved y) ∨
    ∃ x, e.event = .reserved x ∧ (e'.event = .released x ∨ e'.event = .consumed x) ∧
      e.timestamp + claimTtl ≤ now

/-- The invariant of every run. -/
structure Inv (w : World) : Prop where
  /-- Cached actors lag behind their streams but never disagree. -/
  actors : ∀ i a st, w.actors i a = some st → st.Follows (w.streams a)
  /-- A create event is the first event of its stream. -/
  creates : ∀ a, ∀ e ∈ (w.streams a).tail, a.kind.createdKey pairHash e = none
  calls : ∀ c call, w.calls c = some call → CallOk pairHash w call
  reapers : ∀ r, ReaperOk claimTtl pairHash w (w.reapers r)
  /-- Reservation streams are paths of the claim lifecycle. -/
  lifecycle : ∀ key version e e', EventAt w key version e → EventAt w key (version + 1) e' →
    LifecycleStep claimTtl w.now e e'
  /-- A Consumed claim is true. -/
  consumed : ∀ key version x ts, EventAt w key version ⟨.consumed x, ts⟩ →
    ∃ kind, fromKey key = some kind ∧ Realized pairHash w key ⟨kind, x⟩

end Invariant

section Preserved

variable {claimTtl : Nat} {pairHash : PairHash} {w w' : World}

variable {key : String} {call : Call} {claimed : Uuid} {version : Nat} {c : CallId} {r : ReaperId}
  {kind : ReservationKind}

theorem CallOk.mono (h : CallOk pairHash w call) (hg : Grows w w') : CallOk pairHash w' call := by
  unfold CallOk at h ⊢
  split at h
  · obtain ⟨x, ts, hev⟩ := h
    exact ⟨x, ts, hev.mono hg⟩
  iterate 2
    · obtain ⟨hkey, hid, e, hev, he⟩ := h
      exact ⟨hkey, hid, e, hev.mono hg, he⟩
  · exact h
  · trivial

theorem OldClaim.mono (h : OldClaim claimTtl w key claimed version) (hg : Grows w w') :
    OldClaim claimTtl w' key claimed version := by
  obtain ⟨ts, hev, hold⟩ := h
  exact ⟨ts, hev.mono hg, le_trans hold hg.now⟩

theorem VerdictOk.mono (h : VerdictOk pairHash w key a verdict) (hg : Grows w w') :
    VerdictOk pairHash w' key a verdict := by
  cases verdict with
  | orphan => trivial
  | mismatch => exact RealizedElse.mono h hg
  | matching => exact Realized.mono h hg

theorem ReaperOk.mono (h : ReaperOk claimTtl pairHash w phase) (hg : Grows w w') :
    ReaperOk claimTtl pairHash w' phase := by
  cases phase with
  | idle => trivial
  | loaded | probing | verifying => exact ⟨h.1, h.2.mono hg⟩
  | writing => exact ⟨h.1, h.2.1.mono hg, h.2.2.mono hg⟩

theorem LifecycleStep.mono (h : LifecycleStep claimTtl now e e') (hle : now ≤ now') :
    LifecycleStep claimTtl now' e e' := by
  obtain h | ⟨x, he, he', hold⟩ := h
  · exact .inl h
  · exact .inr ⟨x, he, he', le_trans hold hle⟩

/-! ## §5. One lemma per kind of update -/

section

variable (h : Inv claimTtl pairHash w)
include h

theorem Inv.setCall (hcall : CallOk pairHash w call) :
    Inv claimTtl pairHash (w.setCall c call) := { h with
  calls c' call' hc' := by
    obtain ⟨rfl, rfl⟩ | ⟨-, hc'⟩ := update_some_cases hc'
    · exact hcall.mono (Grows.setCall ..)
    · exact (h.calls c' call' hc').mono (Grows.setCall ..)
  reapers r := (h.reapers r).mono (Grows.setCall ..) }

theorem Inv.setReaper (hphase : ReaperOk claimTtl pairHash w phase) :
    Inv claimTtl pairHash (w.setReaper r phase) := { h with
  calls c call hc := (h.calls c call hc).mono (Grows.setReaper ..)
  reapers r' := by
    by_cases hrr : r' = r
    · subst hrr
      simp only [World.setReaper, update_self]
      exact hphase.mono (Grows.setReaper ..)
    · simp only [World.setReaper, update_of_ne hrr]
      exact (h.reapers r').mono (Grows.setReaper ..) }

theorem Inv.setActor {i a actor} (hactor : ∀ st, actor = some st → st.Follows (w.streams a)) :
    Inv claimTtl pairHash (w.setActor i a actor) := { h with
  actors j b st hst := by
    by_cases hj : j = i
    · subst hj
      by_cases hb : b = a
      · subst hb
        simp only [World.setActor, update_self] at hst
        exact hactor st hst
      · simp only [World.setActor, update_self, update_of_ne hb] at hst
        exact h.actors j b st hst
    · simp only [World.setActor, update_of_ne hj] at hst
      exact h.actors j b st hst
  calls c call hc := (h.calls c call hc).mono (Grows.setActor ..)
  reapers r := (h.reapers r).mono (Grows.setActor ..) }

theorem Inv.tick (seconds) : Inv claimTtl pairHash { w with now := w.now + seconds } := by
  have hg : Grows w { w with now := w.now + seconds } :=
    ⟨Nat.le_add_right .., fun _ => prefix_rfl, fun _ => prefix_rfl⟩
  exact { h with
    calls c call hc := (h.calls c call hc).mono hg
    reapers r := (h.reapers r).mono hg
    lifecycle key version e e' he he' := (h.lifecycle key version e e' he he').mono hg.now }

/-- Extending an aggregate stream: create events may only start it. -/
theorem Inv.appendStream {a events}
    (hcreate : ∀ e ∈ (w.streams a ++ events).tail, a.kind.createdKey pairHash e = none) :
    Inv claimTtl pairHash (w.setStream a (w.streams a ++ events)) := by
  have hg : Grows w (w.setStream a (w.streams a ++ events)) := Grows.setStream (prefix_append _ _)
  exact { h with
    actors i b st hst := Snapshot.Follows.mono (h.actors i b st hst) (hg.streams b)
    creates b := by
      by_cases hb : b = a
      · subst hb
        simpa only [World.setStream, update_self] using hcreate
      · simpa only [World.setStream, update_of_ne hb] using h.creates b
    calls c call hc := (h.calls c call hc).mono hg
    reapers r := (h.reapers r).mono hg
    consumed key version x ts hev := by
      obtain ⟨kind, hkind, hreal⟩ := h.consumed key version x ts hev
      exact ⟨kind, hkind, hreal.mono hg⟩ }

/-- Extending a reservation stream: the new event has to continue the lifecycle. -/
theorem Inv.appendReservation
    (hnext : ∀ version last, lastEvent (w.reservations key) = some (version, last) →
      LifecycleStep claimTtl w.now last e) (hconsumed : ∀ x, e.event = .consumed x →
      ∃ kind, fromKey key = some kind ∧ Realized pairHash w key ⟨kind, x⟩) :
    Inv claimTtl pairHash (w.setReservation key (w.reservations key ++ [e])) := by
  have hg : Grows w (w.setReservation key (w.reservations key ++ [e])) :=
    Grows.setReservation (prefix_append _ _)
  -- an event of the new stream is an old one, or the new one at the end
  have hcases : ∀ key' version e',
      EventAt (w.setReservation key (w.reservations key ++ [e])) key' version e' →
      EventAt w key' version e' ∨
        (key' = key ∧ version = (w.reservations key).length ∧ e' = e) := by
    intro key' version e' hev
    by_cases hk : key' = key
    · subst hk
      simp only [EventAt, World.setReservation, update_self] at hev
      rw [getElem?_append] at hev
      split at hev
      · exact .inl hev
      · next hge =>
        obtain ⟨hlt, heq⟩ := List.getElem?_eq_some_iff.1 hev
        simp only [length_singleton] at hlt
        refine .inr ⟨rfl, by omega, ?_⟩
        rw [← heq, getElem_singleton]
    · simp only [EventAt, World.setReservation, update_of_ne hk] at hev
      exact .inl hev
  exact { h with
    calls c call hc := (h.calls c call hc).mono hg
    reapers r := (h.reapers r).mono hg
    lifecycle key' version e₁ e₂ h₁ h₂ := by
      obtain hold₂ | ⟨rfl, hver, rfl⟩ := hcases _ _ _ h₂
      · obtain hold₁ | ⟨rfl, hver, rfl⟩ := hcases _ _ _ h₁
        · exact h.lifecycle key' version e₁ e₂ hold₁ hold₂
        · -- the new event is last, so nothing old stands behind it
          obtain ⟨hlt, -⟩ := List.getElem?_eq_some_iff.1 hold₂
          omega
      · obtain hold₁ | ⟨-, hver', -⟩ := hcases _ _ _ h₁
        · exact hnext version e₁ (lastEvent_of_eventAt hold₁ (by omega))
        · omega
    consumed key' version x ts hev := by
      obtain hev | ⟨rfl, -, rfl⟩ := hcases _ _ _ hev
      · obtain ⟨kind, hkind, hreal⟩ := h.consumed key' version x ts hev
        exact ⟨kind, hkind, hreal.mono hg⟩
      · obtain ⟨kind, hkind, hreal⟩ := hconsumed x rfl
        exact ⟨kind, hkind, hreal.mono hg⟩ }

/-! ## §6. One lemma per action -/

theorem Inv.actorOrStart (i a) : (w.actorOrStart i a).Follows (w.streams a) := by
  unfold World.actorOrStart
  cases hst : w.actors i a with
  | none => exact follows_load _
  | some st => exact h.actors i a st hst

theorem Inv.reaperOk (hr : w.reapers r = phase) : ReaperOk claimTtl pairHash w phase :=
  hr ▸ h.reapers r

/-- A reservation that meets its expectation finds an empty stream, or the Released event seen. -/
theorem Inv.released_of_satisfied (hc : w.calls c = some call)
    (hphase : call.phase = .appending n casAt) (hsat : (casAt.elim empty exact).isSatisfiedBy
      (versionOf (w.reservations (call.request.key pairHash))))
    (hlast : lastEvent (w.reservations (call.request.key pairHash)) = some (version, last)) :
    ∃ x, last.event = .released x := by
  cases casAt with
  | none =>
    simp only [Option.elim_none, isSatisfiedBy_empty, versionOf_eq_empty] at hsat
    rw [hsat] at hlast
    cases hlast
  | some =>
    simp only [Option.elim_some, isSatisfiedBy_exact, versionOf_eq_current] at hsat
    have hok := h.calls c call hc
    simp only [CallOk, hphase] at hok
    obtain ⟨x, ts, hev⟩ := hok
    rw [lastEvent_of_eventAt hev hsat] at hlast
    cases hlast
    exact ⟨x, rfl⟩

theorem Inv.reserveAppend (outcome) (hc : w.calls c = some call)
    (hphase : call.phase = .appending n casAt) :
    Inv claimTtl pairHash (reserveAppend pairHash w c call n casAt outcome) := by
  unfold Reservations.reserveAppend
  rcases happ : appendLifecycle (w.reservations (call.request.key pairHash))
    (casAt.elim empty exact) ⟨.reserved call.request.id, w.now⟩
    outcome with ⟨log, result⟩
  simp only [happ]
  obtain ⟨rfl, hres⟩ | ⟨hsat, rfl, hres⟩ := appendLifecycle_cases happ
  · rw [World.setReservation_self]
    refine h.setCall ?_
    obtain rfl | rfl := hres <;> trivial
  · refine Inv.setCall (h.appendReservation (fun version last hlast => ?_) nofun) ?_
    · obtain ⟨x, hx⟩ := h.released_of_satisfied hc hphase hsat hlast
      exact .inl ⟨x, _, hx, rfl⟩
    · obtain rfl | rfl := hres
      · refine ⟨rfl, rfl, ⟨.reserved call.request.id, w.now⟩, ?_, .inl rfl⟩
        simp [EventAt, World.setReservation]
      · trivial

theorem Inv.reserveClassify (n readOk) :
    Inv claimTtl pairHash (reserveClassify pairHash w c call n readOk) := by
  unfold Reservations.reserveClassify
  refine h.setCall ?_
  cases readOk with
  | false => trivial
  | true =>
    simp only [if_true, claimObstacle]
    cases hlast : lastEvent (w.reservations (call.request.key pairHash)) with
    | none =>
      simp only
      split <;> trivial
    | some last =>
      obtain ⟨version, e⟩ := last
      have hev := eventAt_of_lastEvent hlast
      cases hee : e.event with
      | reserved holder =>
        by_cases hh : holder = call.request.id
        · simp only [hee, hh, if_true]
          exact ⟨rfl, rfl, e, hev, .inl (hh ▸ hee)⟩
        · simp only [hee, hh, if_false]
          trivial
      | released x =>
        simp only [hee]
        split
        · exact ⟨x, e.timestamp, by rw [← hee]; exact hev⟩
        · trivial
      | consumed holder =>
        by_cases hh : holder = call.request.id
        · simp only [hee, hh, if_true]
          exact ⟨rfl, rfl, e, hev, .inr (hh ▸ hee)⟩
        · simp only [hee, hh, if_false]
          trivial

/-- What one attempt of a create did: nothing to the stream, or it started the stream with the
create event of the call's own key. -/
theorem Inv.attempt_create {req : CreateRequest}
    {st : EntityActorState req.aggregate.kind.State} {log : List req.aggregate.kind.Event}
    {reply : Reply req.aggregate.kind.Event req.aggregate.kind.Error}
    (ha : attempt (w.actorOrStart i req.aggregate) (w.streams req.aggregate) .empty req.command
      outcome = .done st log reply) : st.Follows log ∧ (log = w.streams req.aggregate ∨
        w.streams req.aggregate = [] ∧ ∃ e, log = [e] ∧
          req.aggregate.kind.createdKey pairHash e = some (req.key pairHash)) := by
  have hf := h.actorOrStart i req.aggregate
  obtain ⟨rfl, rfl, -⟩ | ⟨events, hdec, rfl, hreply⟩ := attempt_done hf ha
  · exact ⟨hf, .inl rfl⟩
  · obtain ⟨hnil, e, rfl, hkey⟩ := decided_create pairHash req hdec
    refine ⟨?_, .inr ⟨hnil, e, by rw [hnil]; rfl, hkey⟩⟩
    obtain ⟨rfl, -⟩ | ⟨rfl, -⟩ := hreply
    · exact follows_load _
    · exact hf.append [e]

theorem Inv.executeAttempt {claim} {reservedAt n : Nat} (outcome)
    (hc : w.calls c = some call) (hphase : call.phase = .executing claim reservedAt n) :
    Inv claimTtl pairHash (executeAttempt w c call claim reservedAt n outcome) := by
  have hok : CallOk pairHash w call := h.calls c call hc
  unfold Reservations.executeAttempt
  simp only
  split
  · next st log reply ha =>
    obtain ⟨hst, hlog⟩ := h.attempt_create ha
    -- the stream after the attempt, then the actor, then the call
    have hstream : Inv claimTtl pairHash (w.setStream call.request.aggregate log) := by
      obtain rfl | ⟨hnil, e, rfl, -⟩ := hlog
      · rw [World.setStream_self]
        exact h
      · have happend : Inv claimTtl pairHash (w.setStream call.request.aggregate
            (w.streams call.request.aggregate ++ [e])) := h.appendStream (by simp [hnil])
        rwa [hnil] at happend
    have hactor : ∀ st', some st = some st' →
        st'.Follows ((w.setStream call.request.aggregate log).streams call.request.aggregate) := by
      intro st' hst'
      cases hst'
      simpa [World.setStream] using hst
    refine (hstream.setActor hactor).setCall ?_
    unfold afterExecute
    split
    · -- a handler rejection would need a create to be refused on an empty stream
      exact absurd (attempt_handle_error ha)
        (execute_create_ne_handle call.request (h.actorOrStart _ _) _)
    · trivial
  · refine h.setCall ?_
    split
    · trivial
    · simpa only [CallOk, hphase] using hok

theorem Inv.resyncActor {claim reservedAt n} (hc : w.calls c = some call)
    (hphase : call.phase = .resyncing claim reservedAt n) :
    Inv claimTtl pairHash (resyncActor w c call claim reservedAt n) := by
  have hok : CallOk pairHash w call := h.calls c call hc
  unfold Reservations.resyncActor
  refine Inv.setCall (h.setActor ?_) (CallOk.mono (w := w) ?_ (Grows.setActor ..))
  · intro st hst
    cases hst
    rw [(h.actorOrStart _ _).resync_eq]
    exact follows_load _
  · simpa only [CallOk, hphase] using hok

theorem Inv.executeOther (i a expected cmd outcome) (hcmd : a.kind.isCreate cmd = false) :
    Inv claimTtl pairHash (executeOther w i a expected cmd outcome) := by
  unfold Reservations.executeOther
  rcases hex : handleExecute (w.actorOrStart i a) (w.streams a) expected cmd outcome
    conflictRetries with ⟨st, log, reply⟩
  simp only
  obtain ⟨hst, rfl, -⟩ | ⟨events, hdec, rfl, hst, -⟩ :=
    handleExecute_cases conflictRetries (h.actorOrStart i a) hex
  · rw [World.setStream_self]
    refine h.setActor ?_
    intro st' hst'
    cases hst'
    exact hst
  · have hstream : Inv claimTtl pairHash (w.setStream a (w.streams a ++ events)) := by
      refine h.appendStream ?_
      intro e he
      have hmem : e ∈ (w.streams a).tail ∨ e ∈ events := by
        cases hs : w.streams a with
        | nil =>
          rw [hs] at he
          exact .inr (mem_of_mem_tail he)
        | cons =>
          rw [hs] at he
          exact mem_append.1 he
      obtain he | he := hmem
      · exact h.creates a e he
      · exact createdKey_of_handle hcmd hdec.handled he
    refine hstream.setActor ?_
    intro st' hst'
    cases hst'
    simpa [World.setStream] using hst

theorem Inv.reapRead (r key claimed) : Inv claimTtl pairHash (reapRead w r key claimed) := by
  unfold Reservations.reapRead
  split
  · next kind version state hkind hlast => exact h.setReaper ⟨hkind, eventAt_of_lastEvent hlast⟩
  · exact h

theorem Inv.reapCheck (hr : w.reapers r = .loaded kind key claimed version state) :
    Inv claimTtl pairHash (reapCheck claimTtl w r kind key claimed version state) := by
  obtain ⟨hkind, hev⟩ := h.reaperOk hr
  unfold Reservations.reapCheck
  refine h.setReaper ?_
  split
  · trivial
  · next hcond =>
    simp only [ne_eq, Bool.or_eq_true, decide_eq_true_eq, not_or, Decidable.not_not,
      Bool.not_eq_true] at hcond
    obtain ⟨hres, hold⟩ := hcond
    refine ⟨hkind, state.timestamp, ?_, claimIsTooYoung_eq_false.1 hold⟩
    rw [← hres]
    exact hev

theorem Inv.reapProbe (hr : w.reapers r = .probing kind key claimed version) :
    Inv claimTtl pairHash (reapProbe w r kind key claimed version) := by
  obtain ⟨hkind, hold⟩ := h.reaperOk hr
  unfold Reservations.reapProbe
  refine h.setReaper ?_
  split
  · exact ⟨hkind, hold, trivial⟩
  · exact ⟨hkind, hold⟩

end

/-- The first event of a stream decides which key the aggregate realizes. -/
theorem verdict_of_head (key)
    (hhead : (w.streams ⟨kind, claimed⟩).head?.bind (kind.createdKey pairHash) = some realized) :
    VerdictOk pairHash w key ⟨kind, claimed⟩ (if realized = key then .matching else .mismatch) := by
  obtain ⟨e, he, hkey⟩ := Option.bind_eq_some_iff.1 hhead
  obtain ⟨rest, hs⟩ := head?_eq_some_iff.1 he
  split
  · next heq => exact ⟨e, rest, hs, heq ▸ hkey⟩
  · next hne =>
    refine ⟨e, rest, hs, ?_⟩
    intro hk
    rw [hkey] at hk
    exact hne (Option.some.inj hk)

theorem Inv.reapVerify (h : Inv claimTtl pairHash w)
    (hr : w.reapers r = .verifying kind key claimed version) :
    Inv claimTtl pairHash (reapVerify pairHash w r kind key claimed version) := by
  obtain ⟨hkind, hold⟩ := h.reaperOk hr
  unfold Reservations.reapVerify
  refine h.setReaper ?_
  split
  · trivial
  · next hhead => exact ⟨hkind, hold, verdict_of_head key hhead⟩

theorem Inv.reapWrite (h : Inv claimTtl pairHash w) (outcome)
    (hr : w.reapers r = .writing kind key claimed version verdict) :
    Inv claimTtl pairHash (reapWrite w r key claimed version verdict outcome) := by
  obtain ⟨hkind, ⟨ts, hev, hold⟩, hverdict⟩ := h.reaperOk hr
  unfold Reservations.reapWrite
  rcases happ : appendLifecycle (w.reservations key) (.exact version)
    ⟨verdict.event claimed, w.now⟩ outcome with ⟨log, result⟩
  simp only
  obtain ⟨rfl, -⟩ | ⟨hsat, rfl, -⟩ := appendLifecycle_cases happ
  · rw [World.setReservation_self]
    exact h.setReaper trivial
  · simp only [isSatisfiedBy_exact, versionOf_eq_current] at hsat
    refine Inv.setReaper (h.appendReservation ?_ ?_) trivial
    · -- the event seen is still the last one: an old Reserved of the same aggregate
      intro version' last hlast
      rw [lastEvent_of_eventAt hev hsat] at hlast
      cases hlast
      refine .inr ⟨claimed, rfl, ?_, hold⟩
      cases verdict with
      | orphan | mismatch => exact .inl rfl
      | matching => exact .inr rfl
    · intro x hx
      cases verdict with
      | orphan | mismatch => cases hx
      | matching =>
        cases hx
        exact ⟨kind, hkind, hverdict⟩

/-! ## §7. Steps and runs -/

/-- Every step keeps the invariant. -/
theorem step_inv {action} (h : Inv claimTtl pairHash w)
    (hstep : step claimTtl pairHash w action = some w') : Inv claimTtl pairHash w' := by
  cases stepped_of_step hstep with
  | tick seconds => exact h.tick seconds
  | spawn | giveUp => exact h.setCall trivial
  | reserveAppend outcome hc => exact h.reserveAppend outcome hc rfl
  | reserveClassify => exact h.reserveClassify ..
  | executeAttempt outcome hc => exact h.executeAttempt outcome hc rfl
  | resyncActor hc => exact h.resyncActor hc rfl
  | compensate outcome hc =>
    -- no call ever compensates
    exact absurd (h.calls _ _ hc) id
  | stopActor => exact h.setActor (by simp)
  | executeOther hcmd => exact h.executeOther _ _ _ _ _ (by simpa using hcmd)
  | reapRead => exact h.reapRead ..
  | reapCheck hr => exact h.reapCheck hr
  | reapProbe hr => exact h.reapProbe hr
  | reapVerify hr => exact h.reapVerify hr
  | reapWrite outcome hr => exact h.reapWrite outcome hr
  | reapFail => exact h.setReaper trivial

/-- A lifecycle append extends its stream. -/
theorem Grows.appendLifecycle
    (h : appendLifecycle (w.reservations key) expected e outcome = (log, result)) :
    Grows w (w.setReservation key log) := by
  apply Grows.setReservation
  obtain ⟨rfl, -⟩ | ⟨-, rfl, -⟩ := appendLifecycle_cases h
  · exact prefix_rfl
  · exact prefix_append _ _

/-- Every step only extends what is there. -/
theorem step_grows {action : Action} (h : Inv claimTtl pairHash w)
    (hstep : step claimTtl pairHash w action = some w') : Grows w w' := by
  cases stepped_of_step hstep with
  | tick => exact ⟨Nat.le_add_right .., fun _ => prefix_rfl, fun _ => prefix_rfl⟩
  | spawn | reserveClassify | giveUp => exact Grows.setCall ..
  | reserveAppend | compensate => exact (Grows.appendLifecycle rfl).trans (Grows.setCall ..)
  | executeAttempt =>
    unfold executeAttempt
    simp only
    split
    · next st log reply ha =>
      refine Grows.trans (Grows.setStream ?_) ((Grows.setActor ..).trans (Grows.setCall ..))
      obtain ⟨-, rfl | ⟨hnil, e, rfl, -⟩⟩ := h.attempt_create ha
      · exact prefix_rfl
      · rw [hnil]
        exact nil_prefix
    · exact Grows.setCall ..
  | resyncActor => exact (Grows.setActor ..).trans (Grows.setCall ..)
  | stopActor => exact Grows.setActor ..
  | @executeOther i a expected cmd outcome hcmd =>
    unfold executeOther
    rcases hex : handleExecute (w.actorOrStart i a) (w.streams a) expected cmd outcome
      conflictRetries with ⟨st, log, reply⟩
    refine Grows.trans (Grows.setStream ?_) (Grows.setActor ..)
    obtain ⟨-, rfl, -⟩ | ⟨events, -, rfl, -⟩ :=
      handleExecute_cases conflictRetries (h.actorOrStart i a) hex
    · exact prefix_rfl
    · exact prefix_append _ _
  | reapRead =>
    unfold reapRead
    split
    · exact Grows.setReaper ..
    · exact Grows.refl w
  | reapCheck | reapProbe | reapVerify | reapFail => exact Grows.setReaper ..
  | reapWrite => exact (Grows.appendLifecycle rfl).trans (Grows.setReaper ..)

theorem init_inv : Inv claimTtl pairHash World.init where
  actors i a st h := by cases h
  creates a e he := by cases he
  calls c call h := by cases h
  reapers r := trivial
  lifecycle key version e e' h := by cases h
  consumed key version x ts h := by cases h

/-- **THE INVARIANT OF EVERY RUN**, under any condition on its steps. -/
theorem runs_inv (h : Inv claimTtl pairHash w) (hr : Runs (step claimTtl pairHash) C w w') :
    Inv claimTtl pairHash w' :=
  hr.invariant (Inv claimTtl pairHash) h fun _ _ _ hi _ hs => step_inv hi hs

/-- Streams only grow over whole runs. -/
theorem runs_grows (h : Inv claimTtl pairHash w) (hr : Runs (step claimTtl pairHash) C w w') :
    Grows w w' := by
  have hboth : Inv claimTtl pairHash w' ∧ Grows w w' :=
    hr.invariant (fun v => Inv claimTtl pairHash v ∧ Grows w v) ⟨h, Grows.refl w⟩
      fun _ _ _ hi _ hs => ⟨step_inv hi.1 hs, hi.2.trans (step_grows hi.1 hs)⟩
  exact hboth.2

end Preserved

end Breakdown.Reservations
