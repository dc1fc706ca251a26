/-
**A CONSUMED CLAIM IS TRUE AND FINAL**, in every interleaving.

The own-claim recovery of `reserve` hands out a releasable claim for a Consumed event, so finality
rests on no call ever compensating: a create is expected on an empty stream, and an empty stream
accepts it.

- `Inv.consumed_last`: nothing ever follows a Consumed event;
- `LateReserve`, `late_step`: what a reserve of the key can do once it is consumed;
- `consumed_claim_final`: truth, finality, and the answers of every later reserve.
-/
import Breakdown.Reservations.Invariants

namespace Breakdown.Reservations

open EventLog Transition List

variable {claimTtl : Nat} {pairHash : PairHash} {w w' : World}

/-! ## §1. Nothing follows a Consumed event -/

variable {version ts : Nat} {key : String} {holder : Uuid}

theorem Inv.consumed_last (h : Inv claimTtl pairHash w)
    (hev : EventAt w key version ⟨.consumed x, ts⟩) :
    lastEvent (w.reservations key) = some (version, ⟨.consumed x, ts⟩) := by
  apply lastEvent_of_eventAt hev
  obtain ⟨hlt, -⟩ := List.getElem?_eq_some_iff.1 hev
  by_contra hlen
  -- a successor would have to continue the lifecycle
  have hsucc : version + 1 < (w.reservations key).length := by omega
  have hnext : EventAt w key (version + 1) (w.reservations key)[version + 1] :=
    getElem?_eq_getElem hsucc
  obtain ⟨y, z, hrel, -⟩ | ⟨y, hres, -, -⟩ := h.lifecycle key version _ _ hev hnext
  · cases hrel
  · cases hres

/-- A consumed reservation stream never changes again. -/
theorem reservations_eq_of_consumed (h : Inv claimTtl pairHash w)
    (hr : Runs (step claimTtl pairHash) C w w') (hev : EventAt w key version ⟨.consumed x, ts⟩) :
    w'.reservations key = w.reservations key := by
  have hg := runs_grows h hr
  have hlen : ∀ v : World, Inv claimTtl pairHash v → EventAt v key version ⟨.consumed x, ts⟩ →
      (v.reservations key).length = version + 1 := by
    intro v hv hevv
    obtain ⟨pre, hpre, hprelen⟩ := lastEvent_eq_some (hv.consumed_last hevv)
    rw [hpre, length_append, length_singleton, hprelen]
  have hlen_w := hlen w h hev
  have hlen_w' := hlen w' (runs_inv h hr) (hev.mono hg)
  exact ((hg.reservations key).eq_of_length (by rw [hlen_w, hlen_w'])).symm

/-! ## §2. Reserve calls that start after the claim was consumed -/

/-- Where a reserve of a consumed key can stand: it has not finished its first attempt, or it was
answered — with the claim for the holder, with the conflict error for everyone else, or with a
failure of the store. -/
def LateReserve (key : String) (holder : Uuid) (version : Nat) (call : Call) : Prop :=
  match call.phase with
  | .appending n casAt => n = 0 ∧ casAt = none
  | .classifying n => n = 0
  | .executing claim _ _ | .resyncing claim _ _ =>
    call.request.id = holder ∧ claim = ⟨key, holder, version⟩
  | .compensating _ _ => False
  | .finished (.reserveFailed e) =>
    e = storeFailure ∨ (call.request.id ≠ holder ∧ e = call.request.conflict)
  | .finished (.replied _) => call.request.id = holder
  | .finished .gaveUp => True

/-- The append of a late reserve conflicts. -/
theorem reserveAppend_late
    (hlast : lastEvent (w.reservations key) = some (version, ⟨.consumed holder, ts⟩))
    (hkey : call.request.key pairHash = key) :
    reserveAppend pairHash w c call 0 none .acknowledged =
      w.setCall c { call with phase := .classifying 0 } := by
  obtain ⟨pre, hpre, -⟩ := lastEvent_eq_some hlast
  have hnone : tryAppend (w.reservations key) .empty
      [(⟨.reserved call.request.id, w.now⟩ : StoredEvent)] = none := by
    rw [tryAppend_eq_none, hpre, Bool.eq_false_iff]
    simp
  unfold reserveAppend
  simp only [hkey, Option.elim_none, appendLifecycle, hnone, World.setReservation_self]

/-- The obstacle read of a late reserve: the claim for the holder, the conflict for the others. -/
theorem reserveClassify_late
    (hlast : lastEvent (w.reservations key) = some (version, ⟨.consumed holder, ts⟩))
    (hkey : call.request.key pairHash = key) (n) :
    reserveClassify pairHash w c call n true = w.setCall c { call with
        phase := if call.request.id = holder then .executing ⟨key, holder, version⟩ w.now 0
          else .finished (.reserveFailed call.request.conflict) } := by
  unfold reserveClassify claimObstacle
  simp only [hkey, hlast, if_true]
  by_cases hid : call.request.id = holder
  · simp [hid]
  · simp [hid, Ne.symm hid]

/-- The late reserves of a key, among the calls that did not exist in `w₀`. -/
def LateOk (pairHash : PairHash) (w₀ : World) (key : String) (holder : Uuid) (version : Nat)
    (v : World) : Prop :=
  ∀ c call, w₀.calls c = none → v.calls c = some call → call.request.key pairHash = key →
    LateReserve key holder version call

/-- A step that sets one call keeps the others; `calls` is all that `LateOk` reads. -/
theorem LateOk.setCall {w₀ v u : World} (h : LateOk pairHash w₀ key holder version v)
    (hu : u.calls = v.calls) (hnew : w₀.calls c = none → call.request.key pairHash = key →
      LateReserve key holder version call) :
    LateOk pairHash w₀ key holder version (u.setCall c call) := by
  intro c' call' hw₀ hc' hkey
  obtain ⟨rfl, rfl⟩ | ⟨-, hc'⟩ := update_some_cases hc'
  · exact hnew hw₀ hkey
  · exact h c' call' hw₀ (hu ▸ hc') hkey

/-- A late reserve appends nothing, whatever the store answers. -/
theorem appendLifecycle_late (hlast : lastEvent log = some (version, last))
    (h : appendLifecycle log .empty e outcome = (log', result)) :
    result = .ok none ∨ result = .error storeFailure := by
  obtain ⟨-, hres⟩ | ⟨hsat, -, -⟩ := appendLifecycle_cases h
  · exact hres
  · simp only [isSatisfiedBy_empty, versionOf_eq_empty] at hsat
    rw [hsat] at hlast
    cases hlast

/-- One step of the whole system keeps every late reserve where it may stand. -/
theorem late_step {w₀ : World}
    (hlast : lastEvent (w.reservations key) = some (version, ⟨.consumed holder, ts⟩))
    (hinv : Inv claimTtl pairHash w) (h : LateOk pairHash w₀ key holder version w)
    (hstep : step claimTtl pairHash w action = some w') :
    LateOk pairHash w₀ key holder version w' := by
  cases stepped_of_step hstep with
  | tick | stopActor | executeOther | reapCheck | reapProbe | reapVerify | reapWrite | reapFail =>
    exact h
  | spawn => exact h.setCall rfl fun _ _ => ⟨rfl, rfl⟩
  | @reserveAppend c i req n casAt outcome hc =>
    unfold reserveAppend
    rcases happ : appendLifecycle (w.reservations (req.key pairHash))
      (casAt.elim ExpectedVersion.empty ExpectedVersion.exact) ⟨.reserved req.id, w.now⟩
      outcome with ⟨log, result⟩
    simp only [happ]
    refine h.setCall rfl fun hw₀ hkey => ?_
    obtain ⟨rfl, rfl⟩ := h c _ hw₀ hc hkey
    simp only at hkey
    rw [hkey] at happ
    obtain rfl | rfl := appendLifecycle_late hlast happ
    · rfl
    · exact .inl rfl
  | @reserveClassify c i req n readOk hc =>
    refine h.setCall rfl fun hw₀ hkey => ?_
    cases readOk with
    | false => exact .inl rfl
    | true =>
      simp only [if_true, show req.key pairHash = key from hkey, claimObstacle, hlast]
      by_cases hid : holder = req.id
      · simp only [hid, if_true]
        exact ⟨rfl, rfl⟩
      · simp only [hid, if_false]
        exact .inr ⟨Ne.symm hid, rfl⟩
  | @executeAttempt c i req claim reservedAt n outcome hc =>
    unfold executeAttempt
    simp only
    split
    · next st log reply ha =>
      refine h.setCall rfl fun hw₀ hkey => ?_
      obtain ⟨hid, -⟩ := h c _ hw₀ hc hkey
      unfold afterExecute
      split
      · exact absurd (attempt_handle_error ha)
          (execute_create_ne_handle req (hinv.actorOrStart _ _) _)
      · exact hid
    · refine h.setCall rfl fun hw₀ hkey => ?_
      obtain ⟨hid, hclaim⟩ := h c _ hw₀ hc hkey
      split
      · exact hid
      · exact ⟨hid, hclaim⟩
  | @resyncActor c i req claim reservedAt n hc =>
    refine h.setCall rfl fun hw₀ hkey => ?_
    obtain ⟨hid, hclaim⟩ := h c ⟨i, req, .resyncing claim reservedAt n⟩ hw₀ hc hkey
    exact ⟨hid, hclaim⟩
  | compensate outcome hc => exact absurd (hinv.calls _ _ hc) id
  | giveUp => exact h.setCall rfl fun _ _ => trivial
  | reapRead =>
    unfold reapRead
    split <;> exact h

/-- Late reserves over whole runs. -/
theorem late_runs (h : Inv claimTtl pairHash w) (hev : EventAt w key version ⟨.consumed holder, ts⟩)
    (hr : Runs (step claimTtl pairHash) C w w') : LateOk pairHash w key holder version w' := by
  have hboth := hr.invariant
    (fun v => Inv claimTtl pairHash v ∧ EventAt v key version ⟨.consumed holder, ts⟩ ∧
      LateOk pairHash w key holder version v)
    ⟨h, hev, by intro c call hnone hsome; rw [hnone] at hsome; cases hsome⟩
    (by
      rintro v action v' ⟨hinv, hevv, hlate⟩ - hs
      exact ⟨step_inv hinv hs, hevv.mono (step_grows hinv hs),
        late_step (hinv.consumed_last hevv) hinv hlate hs⟩)
  exact hboth.2.2

/-! ## §3. The result -/

/-- **CONSUMED CLAIMS ARE TRUE AND FINAL.** If a reservation stream contains Consumed of `x` in a
reachable state, then the aggregate's first event is the create event of that key; the stream
ends with that event and never changes again; and a reserve of the key that starts later appends
nothing: it is answered with the claim if it is for `x` and with the conflict error otherwise,
unless the store itself fails. -/
theorem consumed_claim_final (claimTtl : Nat) (pairHash : PairHash) {w w' : World} {key : String}
    {x : Uuid} (hw : Runs (step claimTtl pairHash) anyStep World.init w)
    (hconsumed : ∃ e ∈ w.reservations key, e.event = .consumed x)
    (hw' : Runs (step claimTtl pairHash) anyStep w w') :
    (∃ kind first rest, ReservationKind.fromKey key = some kind ∧
        w.streams ⟨kind, x⟩ = first :: rest ∧ kind.createdKey pairHash first = some key) ∧
      ∃ version ts, lastEvent (w.reservations key) = some (version, ⟨.consumed x, ts⟩) ∧
        w'.reservations key = w.reservations key ∧
        ∀ c call, w.calls c = none → w'.calls c = some call → call.request.key pairHash = key →
          LateReserve key x version call ∧ (∀ n casAt, call.phase = .appending n casAt →
            step claimTtl pairHash w' (.reserveAppend c .acknowledged) =
              some (w'.setCall c { call with phase := .classifying 0 })) ∧
          (∀ n, call.phase = .classifying n → step claimTtl pairHash w' (.reserveClassify c true) =
              some (w'.setCall c { call with
                phase := if call.request.id = x then .executing ⟨key, x, version⟩ w'.now 0
                  else .finished (.reserveFailed call.request.conflict) })) := by
  have hinv : Inv claimTtl pairHash w := runs_inv init_inv hw
  obtain ⟨⟨event, ts⟩, hmem, rfl⟩ := hconsumed
  obtain ⟨version, hev⟩ := mem_iff_getElem?.1 hmem
  have hlast := hinv.consumed_last hev
  have hsame := reservations_eq_of_consumed hinv hw' hev
  refine ⟨?_, version, ts, hlast, hsame, ?_⟩
  · obtain ⟨kind, hkind, first, rest, hs, hkey⟩ := hinv.consumed key version x ts hev
    exact ⟨kind, first, rest, hkind, hs, hkey⟩
  · intro c call hnone hsome hkey
    have hlate := late_runs hinv hev hw' c call hnone hsome hkey
    have hlast' : lastEvent (w'.reservations key) = some (version, ⟨.consumed x, ts⟩) := by
      rw [hsame]
      exact hlast
    refine ⟨hlate, ?_, ?_⟩
    · intro n casAt hphase
      obtain ⟨i, req, phase⟩ := call
      simp only at hphase
      subst hphase
      obtain ⟨rfl, rfl⟩ := hlate
      simp only [step, hsome]
      exact congrArg some (reserveAppend_late hlast' hkey)
    · intro n hphase
      obtain ⟨i, req, phase⟩ := call
      simp only at hphase
      subst hphase
      simp only [step, hsome]
      exact congrArg some (reserveClassify_late hlast' hkey n)

/-- Episode 3 of a project, under a chosen aggregate id. -/
def episodeThree (id : Uuid) : CreateRequest :=
  .episode { id, blockId := ⟨10⟩, projectId := ⟨20⟩, number := 3, name := none }

/-- An episode is created and, once its claim is old enough, the reaper consumes the claim. -/
def consumedTrace (pairHash : PairHash) : List Action :=
  [.spawn 0 0 (episodeThree 1), .reserveAppend 0 .acknowledged, .executeAttempt 0 .acknowledged,
   .tick 600, .reapRead 0 ((episodeThree 1).key pairHash) 1, .reapCheck 0, .reapProbe 0,
   .reapVerify 0, .reapWrite 0 .acknowledged]

/-- Later another episode asks for the same number. -/
def lateTrace : List Action :=
  [.spawn 1 0 (episodeThree 2), .reserveAppend 1 .acknowledged, .reserveClassify 1 true]

theorem consumed_claim_final_episode : ∃ w w', Runs (step 600 fun _ _ => 0) anyStep World.init w ∧
      Runs (step 600 fun _ _ => 0) anyStep w w' ∧
      (∃ e ∈ w.reservations ((episodeThree 1).key fun _ _ => 0), e.event = .consumed 1) ∧
      (w'.calls 1).isSome = true ∧ w'.reservations ((episodeThree 1).key fun _ _ => 0) =
        w.reservations ((episodeThree 1).key fun _ _ => 0) := by
  obtain ⟨w, hw, hconsumed, hlate⟩ : ∃ w, Runs (step 600 fun _ _ => 0) anyStep World.init w ∧
      (∃ e ∈ w.reservations ((episodeThree 1).key fun _ _ => 0), e.event = .consumed 1) ∧
      ∃ w' ∈ run (guarded (step 600 fun _ _ => 0) anyStep) w lateTrace, (w'.calls 1).isSome = true :=
    exists_runs (consumedTrace fun _ _ => 0) (by decide +kernel)
  obtain ⟨w', hw', hcall⟩ := exists_runs lateTrace hlate
  obtain ⟨-, version, ts, -, hsame, -⟩ := consumed_claim_final 600 _ hw hconsumed hw'
  exact ⟨w, w', hw, hw', hconsumed, hcall, hsame⟩

end Breakdown.Reservations
