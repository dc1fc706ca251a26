/-
**A WRAPPED DAY STAYS FROZEN, IF ITS PROBES ARE FRESH.**

The lock keeps a wrap and an execution command of one day apart. What it cannot do is make the
probe see another instance's wrap: the probe is answered by a cached day actor, and a probe emits no
event, so the cache never meets a version conflict that would make it re-read the stream.

- `Inv`, `step_inv`: a call past its probe holds its day's lock, and the day is open;
- `step_executionEvents`: so no step adds an execution event to a shoot of a wrapped day;
- `wrapped_day_final`: nor does any run whose probes are fresh (`probeFresh`);
- `stale_probe_starts_on_wrapped_day`: with a stale probe, a run that does;
- `shoots_keep_lifecycle`: the life of a shoot goes on as planned, in any run.
-/
import Breakdown.Aggregates.ShootLifecycle
import Breakdown.Lib.Transition
import Breakdown.WrapFinality.System

namespace Breakdown.WrapFinality

open EventLog Fallible Transition List Function SceneShootAggregate ActorSystem ShootingDayCommand

/-! ## §1. The invariant -/

/-- `ShootingDayWrapped` has been appended for the day. -/
def wrapped (w : World) (day : ShootingDayId) : Bool := (w.days.streams day).any (·.isWrap)

/-- The start, actual-order, finish, skip and note events of a scene shoot. -/
def executionEvents (w : World) (id : SceneShootId) : List SceneShootEvent :=
  (w.shoots.streams id).filter (·.isExecution)

/-- Every probe is answered by an actor whose cached state has the wrap if the stream has one. -/
def probeFresh (w : World) : Action → Bool
  | .probe c _ =>
    match w.calls c with
    | some ⟨i, .execution _ day _, .probing⟩ =>
      !wrapped w day || (w.days.actorOrStart i day).entity.wrappedAt.isSome
    | _ => true
  | _ => true

/-- The invariant of every run whose probes are fresh. -/
structure Inv (w : World) : Prop where
  /-- A call between `lock_day` and its return holds the lock. -/
  held : ∀ c call, w.calls c = some call → call.phase.locked = true →
    w.locks (lockKey call.request.day) = some c
  /-- The day of an execution command past its probe is open. -/
  opened : ∀ c call, w.calls c = some call → call.phase.admitted = true →
    ∀ cmd day h, call.request = .execution cmd day h → wrapped w day = false

theorem Phase.locked_of_admitted {phase : Phase} (h : phase.admitted) : phase.locked := by
  cases phase <;> first | rfl | cases h

theorem inv_init : Inv World.init where
  held c call h := by
    cases h
  opened c call h := by
    cases h

namespace Inv

variable {w : World}

/-- A call moves on without touching the locks. -/
theorem setCall (h : Inv w)
    (hheld : call.phase.locked → w.locks (lockKey call.request.day) = some c)
    (hopen : call.phase.admitted →
      ∀ cmd day hd, call.request = .execution cmd day hd → wrapped w day = false) :
    Inv (w.setCall c call) where
  held c' call' hc hl := by
    obtain ⟨rfl, rfl⟩ | ⟨-, hc⟩ := update_some_cases hc
    · exact hheld hl
    · exact h.held c' call' hc hl
  opened c' call' hc hl := by
    obtain ⟨rfl, rfl⟩ | ⟨-, hc⟩ := update_some_cases hc
    · exact hopen hl
    · exact h.opened c' call' hc hl

/-- A free lock is taken by a call that did not hold one. -/
theorem lock (h : Inv w) (hfree : w.locks key = none) (c) :
    Inv { w with locks := update w.locks key (some c) } := { h with
  held c' call' hc hl := by
    have hne : lockKey call'.request.day ≠ key := by
      intro heq
      have hheld := h.held c' call' hc hl
      rw [heq, hfree] at hheld
      cases hheld
    show update w.locks key (some c) _ = _
    rw [update_of_ne hne]
    exact h.held c' call' hc hl }

/-- A call returns and drops its guard. -/
theorem finish (h : Inv w) (hcall : w.calls c = some call) (outcome) :
    Inv (w.finish c call outcome) where
  held c' call' hc hl := by
    obtain ⟨rfl, rfl⟩ | ⟨hcc, hc⟩ := update_some_cases hc
    · -- the call itself is finished
      cases hl
    · have hheld := h.held c' call' hc hl
      simp only [World.finish]
      split
      · next hlock =>
        -- the released lock was this call's, so not the other one's
        have hne : lockKey call'.request.day ≠ lockKey call.request.day := by
          intro heq
          rw [heq, h.held c call hcall hlock] at hheld
          exact hcc (Option.some.inj hheld).symm
        rw [update_of_ne hne]
        exact hheld
      · exact hheld
  opened c' call' hc hl := by
    obtain ⟨rfl, rfl⟩ | ⟨-, hc⟩ := update_some_cases hc
    · cases hl
    · exact h.opened c' call' hc hl

/-- The shooting days change without wrapping one that an admitted command relies on. -/
theorem setDays (h : Inv w) (hopen : ∀ c call, w.calls c = some call → call.phase.admitted →
      ∀ cmd day hd, call.request = .execution cmd day hd →
        (days.streams day).any (·.isWrap) = (w.days.streams day).any (·.isWrap)) :
    Inv { w with days } := { h with
  opened c call hc hl cmd day hd hreq := by
    show (days.streams day).any (·.isWrap) = false
    rw [hopen c call hc hl cmd day hd hreq]
    exact h.opened c call hc hl cmd day hd hreq }

/-- The invariant is not about the scene shoots. -/
theorem setShoots (h : Inv w) (shoots) : Inv { w with shoots } := ⟨h.held, h.opened⟩

end Inv

/-! ## §2. What commands do to the streams -/

variable {w w' : World} {day : ShootingDayId} {expected : ExpectedVersion} {i : InstanceId}
  {c : CallId} {a : Action} {cmd : SceneShootCommand}

/-- A command other than `wrap` wraps nothing. -/
theorem isWrap_advance {days : ActorSystem ShootingDayId ShootingDayAggregate} {id cmd streams}
    (hcmd : isWrapCommand cmd = false) (h : days.Advance id expected cmd streams) (day) :
    (streams day).any (·.isWrap) = (days.streams day).any (·.isWrap) := by
  obtain heq | ⟨rfl, events, hdec, heq⟩ := h.at_ day
  · rw [heq]
  · have hquiet : events.any (·.isWrap) = false := by
      rw [any_eq_false]
      intro e he
      have hne : ∀ c, cmd ≠ .wrap c := by
        rintro c rfl
        cases hcmd
      simp [ShootingDayAggregate.handle_wrapped hdec.handled hne he]
    rw [heq, any_append, hquiet, Bool.or_false]

/-- A stream that stays planned on `day` while it grows was planned on `day`, or was empty and is
planned just now. -/
theorem plannedDay_append (h : plannedDay (log ++ events) = some day) : plannedDay log = some day ∨
      log = [] ∧ plannedDay events = some day := by
  cases log with
  | nil => exact .inr ⟨rfl, h⟩
  | cons => exact .inl h

/-! ## §3. The probe -/

/-- The probe neither appends nor conflicts; it answers from the cached state. -/
theorem handleExecute_ensureOpen (st : EntityActorState ShootingDayAggregate) (log cmd outcome)
    (n : Nat) : handleExecute st log .any (ensureOpen cmd) outcome n =
      (st, log, match st.entity.ensureOpen cmd with
        | .ok _ => .ok (.executed [])
        | .error e => .error (.handle e)) := by
  have hattempt : attempt st log .any (ensureOpen cmd) outcome =
      .done st log (match st.entity.ensureOpen cmd with
        | .ok _ => .ok (.executed [])
        | .error e => .error (.handle e)) := by
    have hh : Entity.handle st.entity (ensureOpen cmd) = st.entity.ensureOpen cmd := rfl
    have hi : Entity.isStateIdempotent st.entity (ensureOpen cmd) = false := rfl
    unfold attempt EntityActorState.execute
    rw [hh, hi]
    unfold ShootingDayAggregate.ensureOpen
    by_cases hdel : st.entity.deleted = true
    · simp [hdel]
    · by_cases hwrap : st.entity.wrappedAt.isSome = true
      · simp [hdel, hwrap]
      · simp [hdel, hwrap]
  cases n with
  | zero | succ => simp only [handleExecute, hattempt]

/-- A probe that lets the command through was answered by an open cached day. -/
theorem ensureDayOpen_executeAt {days days' : ActorSystem ShootingDayId ShootingDayAggregate}
    (h : days.executeAt i day .any (.ensureOpen ⟨day⟩) outcome = (days', reply))
    (hok : ensureDayOpen reply = .ok ()) :
    (days.actorOrStart i day).entity.wrappedAt.isSome = false := by
  have hreply : reply = (handleExecute (days.actorOrStart i day) (days.streams day) .any
      (ensureOpen ⟨day⟩) outcome conflictRetries).2.2 :=
    (congrArg Prod.snd h).symm
  rw [handleExecute_ensureOpen] at hreply
  by_contra hwrap
  rw [Bool.not_eq_false] at hwrap
  -- the cached day is wrapped, so the reply is the handler's rejection
  subst hreply
  unfold ShootingDayAggregate.ensureOpen at hok
  by_cases hdel : (days.actorOrStart i day).entity.deleted = true
  · simp [hdel, ensureDayOpen] at hok
  · simp [hdel, hwrap, ensureDayOpen] at hok

/-! ## §4. The invariant is kept -/

/-- What follows an attempt keeps the invariant: the call returns, or it goes on holding its lock. -/
theorem afterAttempt_inv [IntoDomainError χ] (h : Inv w)
    (hcall : w.calls c = some call) (hphase : call.phase = .executing expected retries)
    (reply : Option (Reply ε χ)) : Inv (afterAttempt w c call expected retries reply) := by
  unfold afterAttempt
  split
  · exact h.finish hcall _
  · split
    · exact h.finish hcall _
    · refine h.setCall (fun _ => ?_) (fun _ => ?_)
      · exact h.held c call hcall (by rw [hphase]; rfl)
      · exact h.opened c call hcall (by rw [hphase]; rfl)

theorem acquire_inv (h : Inv w) (hcall : w.calls c = some ⟨i, req, .locking⟩)
    (hfree : w.locks (lockKey req.day) = none) : Inv (acquire w c ⟨i, req, .locking⟩) := by
  have hlocked := h.lock hfree c
  unfold acquire
  cases req with
  | wrap =>
    simp only
    split
    · refine hlocked.setCall (fun _ => update_self ..) (fun _ => ?_)
      intro cmd' day hd hreq
      cases hreq
    · exact h.finish hcall _
  | execution => exact hlocked.setCall (fun _ => update_self ..) nofun

theorem probe_inv (h : Inv w) (hcall : w.calls c = some ⟨i, .execution cmd day hday, .probing⟩)
    (hfresh : probeFresh w (.probe c outcome)) :
    Inv (probe w c ⟨i, .execution cmd day hday, .probing⟩ cmd day outcome) := by
  unfold probe
  rcases hex : w.days.executeAt i day .any (.ensureOpen ⟨day⟩) outcome with ⟨days, reply⟩
  simp only
  have hheld := h.held c _ hcall rfl
  have hsame := isWrap_advance rfl (executeAt_cases hex)
  have hdays : Inv { w with days } := h.setDays fun _ _ _ _ _ day' _ _ => hsame day'
  have hcall' : ({ w with days } : World).calls c =
      some ⟨i, .execution cmd day hday, .probing⟩ := hcall
  split
  · next hok _ =>
    refine hdays.setCall (fun _ => hheld) (fun _ => ?_)
    intro cmd' day' hd' hreq
    obtain ⟨rfl, rfl⟩ : cmd = cmd' ∧ day = day' := by
      cases hreq
      exact ⟨rfl, rfl⟩
    -- the probe let the command through, so the cached day is open; it is fresh, so the stream is
    have hcached := ensureDayOpen_executeAt hex hok
    show (days.streams day).any (·.isWrap) = false
    rw [hsame day]
    by_contra hw
    rw [Bool.not_eq_false] at hw
    have hw' : wrapped w day = true := hw
    simp [probeFresh, hcall, hw', hcached] at hfresh
  · exact hdays.finish hcall' _
  · exact hdays.finish hcall' _

theorem executeAttempt_inv (h : Inv w)
    (hcall : w.calls c = some ⟨i, req, .executing expected n⟩) (outcome : AppendOutcome) :
    Inv (executeAttempt w c ⟨i, req, .executing expected n⟩ expected n outcome) := by
  unfold executeAttempt
  cases req with
  | wrap cmd =>
    simp only
    rcases hex : w.days.attemptAt i cmd.id expected (.wrap cmd) outcome with ⟨days, reply⟩
    have hdays : Inv { w with days } := by
      refine h.setDays ?_
      intro c' call' hc' hadm cmd' day' hd' hreq
      -- the other call holds the lock of its day, the wrap that of its own: they differ
      have hne : day' ≠ cmd.id := by
        rintro rfl
        have hother := h.held c' call' hc' (Phase.locked_of_admitted hadm)
        rw [hreq] at hother
        have hown := h.held c _ hcall rfl
        have hcc : c' = c := Option.some.inj (hother.symm.trans hown)
        subst hcc
        rw [hcall] at hc'
        cases hc'
        cases hreq
      obtain heq | ⟨hid, -⟩ := (attemptAt_cases hex).at_ day'
      · rw [heq]
      · exact absurd hid hne
    exact afterAttempt_inv hdays hcall rfl reply
  | execution cmd day hd =>
    simp only
    rcases w.shoots.attemptAt i (commandId cmd) expected cmd outcome with ⟨shoots, reply⟩
    exact afterAttempt_inv (h.setShoots shoots) hcall rfl reply

theorem resyncActor_inv (h : Inv w) (hcall : w.calls c = some ⟨i, req, .resyncing expected n⟩) :
    Inv (resyncActor w c ⟨i, req, .resyncing expected n⟩ expected n) := by
  have hheld := h.held c _ hcall rfl
  have hopen := h.opened c _ hcall rfl
  unfold resyncActor
  cases req with
  | wrap cmd =>
    have hdays : Inv { w with days := w.days.resyncAt i cmd.id } :=
      h.setDays fun _ _ _ _ _ _ _ _ => by rw [resyncAt_streams]
    refine hdays.setCall (fun _ => hheld) (fun _ => ?_)
    intro cmd' day hd hreq
    cases hreq
  | execution => exact (h.setShoots _).setCall (fun _ => hheld) (fun _ => hopen)

/-- **EVERY STEP WHOSE PROBE IS FRESH KEEPS THE INVARIANT.** -/
theorem step_inv (h : Inv w) (hfresh : probeFresh w a) (hs : step w a = some w') : Inv w' := by
  cases a with simp only [step] at hs
  | spawn =>
    split at hs
    · cases hs
    · cases hs
      exact h.setCall nofun nofun
  | acquire =>
    split at hs
    · next i req hcall =>
      split at hs
      · next hfree =>
        cases hs
        exact acquire_inv h hcall (Option.isNone_iff_eq_none.1 hfree)
      · cases hs
    · cases hs
  | lockFails | giveUp =>
    split at hs
    · next hcall =>
      cases hs
      exact h.finish hcall _
    · cases hs
  | probe =>
    split at hs
    · next hcall =>
      cases hs
      exact probe_inv h hcall hfresh
    · cases hs
  | executeAttempt c outcome =>
    split at hs
    · next hcall =>
      cases hs
      exact executeAttempt_inv h hcall outcome
    · cases hs
  | resyncActor =>
    split at hs
    · next hcall =>
      cases hs
      exact resyncActor_inv h hcall
    · cases hs
  | shootCommand =>
    split at hs
    · cases hs
      exact h.setShoots _
    · cases hs
  | dayCommand =>
    split at hs
    · cases hs
    · next hcmd =>
      cases hs
      refine h.setDays fun _ _ _ _ _ day' _ _ => ?_
      exact isWrap_advance (by simpa using hcmd) (executeAt_advance ..) day'
  | stopDayActor =>
    cases hs
    exact h.setDays fun _ _ _ _ _ _ _ _ => rfl
  | stopShootActor =>
    cases hs
    exact h.setShoots _

/-! ## §5. What a step does to the streams -/

section Frame

variable {ε χ : Type} [IntoDomainError χ] (w : World) (c : CallId) (call : Call)
  (expected : ExpectedVersion) (n : Nat) (reply : Option (Reply ε χ))

@[simp] theorem afterAttempt_days : (afterAttempt w c call expected n reply).days = w.days := by
  unfold afterAttempt
  split
  · rfl
  · split <;> rfl

@[simp] theorem afterAttempt_shoots :
    (afterAttempt w c call expected n reply).shoots = w.shoots := by
  unfold afterAttempt
  split
  · rfl
  · split <;> rfl

@[simp] theorem acquire_days : (acquire w c call).days = w.days := by
  unfold acquire
  split
  · split <;> rfl
  · rfl

@[simp] theorem acquire_shoots : (acquire w c call).shoots = w.shoots := by
  unfold acquire
  split
  · split <;> rfl
  · rfl

theorem probe_days (cmd day outcome) : (probe w c call cmd day outcome).days =
      (w.days.executeAt call.instanceId day .any (.ensureOpen ⟨day⟩) outcome).1 := by
  unfold probe
  simp only
  split <;> rfl

theorem probe_shoots (cmd day outcome) : (probe w c call cmd day outcome).shoots = w.shoots := by
  unfold probe
  simp only
  split <;> rfl

end Frame

/-- The stream of a shooting day only grows. -/
theorem step_days (hs : step w a = some w') (day) : w.days.streams day <+: w'.days.streams day := by
  unfold step at hs
  split at hs
  all_goals try (split at hs)
  all_goals try (split at hs)
  all_goals try (cases hs; done)
  all_goals cases hs
  all_goals try exact prefix_rfl
  · rw [acquire_days]
  · rw [probe_days]
    exact (executeAt_advance ..).prefix_ day
  · next i req expected n hcall =>
    unfold executeAttempt
    cases req with
    | wrap =>
      rw [afterAttempt_days]
      exact (attemptAt_advance ..).prefix_ day
    | execution => rw [afterAttempt_days]
  · next i req expected n hcall =>
    unfold resyncActor
    cases req with
    | wrap cmd =>
      show _ <+: (w.days.resyncAt i cmd.id).streams day
      rw [resyncAt_streams]
    | execution => exact prefix_rfl
  · exact (executeAt_advance ..).prefix_ day

/-- Where new events of a scene shoot come from. -/
inductive ShootEffect (w : World) (id : SceneShootId) (log' : List SceneShootEvent) : Prop
  | unchanged (heq : log' = w.shoots.streams id)
  /-- A command that takes no lock. -/
  | unlocked {cmd : SceneShootCommand} {expected : ExpectedVersion} {events : List SceneShootEvent}
      (hday : cmd.executionDay = none)
      (hsent : Versioned.dispatching SceneShootAggregate cmd = .create → expected = .empty)
      (decided : Decided SceneShootAggregate (w.shoots.streams id) expected cmd events)
      (heq : log' = w.shoots.streams id ++ events)
  /-- An execution command past its probe. -/
  | locked {c : CallId} {call : Call} {cmd : SceneShootCommand} {day : ShootingDayId}
      {hday : cmd.executionDay = some day} {expected : ExpectedVersion}
      {events : List SceneShootEvent} (hcall : w.calls c = some call)
      (hadm : call.phase.admitted = true) (hreq : call.request = .execution cmd day hday)
      (decided : Decided SceneShootAggregate (w.shoots.streams id) expected cmd events)
      (heq : log' = w.shoots.streams id ++ events)

/-- Every event of a scene shoot was decided on its whole stream, by an unlocked command or by one
past its probe. -/
theorem step_shoots (hs : step w a = some w') (id) : ShootEffect w id (w'.shoots.streams id) := by
  unfold step at hs
  split at hs
  all_goals try (split at hs)
  all_goals try (split at hs)
  all_goals try (cases hs; done)
  all_goals cases hs
  all_goals try exact .unchanged rfl
  · exact .unchanged (by rw [acquire_shoots])
  · exact .unchanged (by rw [probe_shoots])
  · next i req expected n hcall =>
    unfold executeAttempt
    cases req with
    | wrap => exact .unchanged (by rw [afterAttempt_shoots])
    | execution cmd =>
      rw [afterAttempt_shoots]
      have hadv := w.shoots.attemptAt_advance i (commandId cmd) expected cmd ‹AppendOutcome›
      obtain heq | ⟨rfl, events, hdec, heq⟩ := hadv.at_ id
      · exact .unchanged heq
      · exact .locked hcall rfl rfl hdec heq
  · next i req expected n hcall =>
    unfold resyncActor
    cases req with
    | wrap => exact .unchanged rfl
    | execution cmd =>
      refine .unchanged ?_
      show (w.shoots.resyncAt i (commandId cmd)).streams id = _
      rw [resyncAt_streams]
  · next i cmd outcome _ _ expected hday hexp =>
    have hadv := w.shoots.executeAt_advance i (commandId cmd) expected cmd outcome
    obtain heq | ⟨rfl, events, hdec, heq⟩ := hadv.at_ id
    · exact .unchanged heq
    · refine .unlocked hday (fun hcreate => ?_) hdec heq
      rw [expectation, hcreate] at hexp
      exact (Except.ok.inj hexp).symm

theorem ShootEffect.append {id} (h : ShootEffect w id log') :
    ∃ events, log' = w.shoots.streams id ++ events := by
  cases h with
  | unchanged heq => exact ⟨[], by rw [heq, append_nil]⟩
  | unlocked _ _ _ heq | locked _ _ _ _ heq => exact ⟨_, heq⟩

theorem step_wrapped (hs : step w a = some w') (hw : wrapped w day) : wrapped w' day := by
  obtain ⟨rest, hrest⟩ := step_days hs day
  unfold wrapped at hw ⊢
  rw [← hrest, any_append, hw, Bool.true_or]

/-- No step takes a scene shoot out of its history: a `plan` expects an empty stream. -/
theorem step_history {id} (h : History SceneShootAggregate (w.shoots.streams id))
    (hs : step w a = some w') : History SceneShootAggregate (w'.shoots.streams id) := by
  cases step_shoots hs id with
  | unchanged heq => exact heq ▸ h
  | unlocked _ hsent hdec heq => exact heq ▸ h.step hsent hdec
  | @locked _ _ cmd _ hday _ _ _ _ _ hdec heq =>
    refine heq ▸ h.step (fun hcreate => ?_) hdec
    cases cmd with
    | plan => cases hday
    | _ => cases hcreate

/-- No step adds an execution event to a shoot planned on a wrapped day. -/
theorem step_executionEvents (h : Inv w) (hs : step w a = some w') (hw : wrapped w day) {id}
    (hhistory : History SceneShootAggregate (w.shoots.streams id))
    (hplan : plannedDay (w'.shoots.streams id) = some day) :
    executionEvents w' id = executionEvents w id := by
  unfold executionEvents
  cases step_shoots hs id with
  | unchanged heq => rw [heq]
  | @unlocked cmd expected events hday hsent hdec heq =>
    have hquiet : events.filter (·.isExecution) = [] := by
      obtain rfl | ⟨e, rfl, -, hnone⟩ := handle_emits hdec.handled
      · rfl
      · simp [hnone hday]
    rw [heq, filter_append, hquiet, append_nil]
  | @locked c call cmd cmdDay hday expected events hcall hadm hreq hdec heq =>
    exfalso
    obtain rfl | ⟨e, rfl, hemits, -⟩ := handle_emits hdec.handled
    · exact hdec.nonempty rfl
    · obtain ⟨hexecution, hown⟩ := hemits cmdDay hday
      rw [heq] at hplan
      obtain hold | ⟨-, hnew⟩ := plannedDay_append hplan
      · -- the shoot's own day is the command's day, and the command passed its probe
        obtain rfl : cmdDay = day := hown.symm.trans (shootingDayId_of_plannedDay hhistory hold)
        rw [h.opened c call hcall hadm cmd cmdDay hday hreq] at hw
        cases hw
      · -- an execution event does not plan
        cases e with
        | sceneShootPlanned => cases hexecution
        | _ => cases hnew

/-! ## §6. Runs -/

/-- **WRAP FINALITY.** In every run whose probes are fresh: once `ShootingDayWrapped` is in the
stream of `day`, the execution events of every scene shoot planned on `day` stay as they are. -/
theorem wrapped_day_final {w w' : World} {day : ShootingDayId} {id : SceneShootId}
    (hrun : Runs step (fun w a => probeFresh w a = true) World.init w)
    (hwrapped : wrapped w day = true) (hlater : Runs step (fun w a => probeFresh w a = true) w w')
    (hplan : SceneShootAggregate.plannedDay (w'.shoots.streams id) = some day) :
    executionEvents w' id = executionEvents w id := by
  have hstart : Inv w ∧ History SceneShootAggregate (w.shoots.streams id) :=
    hrun.invariant (fun v => Inv v ∧ History SceneShootAggregate (v.shoots.streams id))
      ⟨inv_init, .nil⟩ fun _ _ _ h hc hs => ⟨step_inv h.1 hc hs, step_history h.2 hs⟩
  have hall : (Inv w' ∧ History SceneShootAggregate (w'.shoots.streams id)) ∧ wrapped w' day = true ∧ w.shoots.streams id <+: w'.shoots.streams id ∧
      (plannedDay (w'.shoots.streams id) = some day →
        executionEvents w' id = executionEvents w id) := by
    refine hlater.invariant (fun v =>
      (Inv v ∧ History SceneShootAggregate (v.shoots.streams id)) ∧ wrapped v day = true ∧
      w.shoots.streams id <+: v.shoots.streams id ∧
      (plannedDay (v.shoots.streams id) = some day → executionEvents v id = executionEvents w id))
      ⟨hstart, hwrapped, prefix_rfl, fun _ => rfl⟩ ?_
    intro v a v' hv hc hs
    obtain ⟨⟨hvi, hhistory⟩, hvw, hgrown, hkeep⟩ := hv
    obtain ⟨events, heq⟩ := (step_shoots hs id).append
    refine ⟨⟨step_inv hvi hc hs, step_history hhistory hs⟩, step_wrapped hs hvw, ?_, ?_⟩
    · rw [heq]
      exact hgrown.trans (prefix_append ..)
    · intro hplan'
      rw [step_executionEvents hvi hs hvw hhistory hplan']
      rw [heq] at hplan'
      obtain hold | ⟨hnil, -⟩ := plannedDay_append hplan'
      · exact hkeep hold
      · -- planned on the day only now: there was no event before
        rw [hnil, prefix_nil] at hgrown
        unfold executionEvents
        rw [hnil, hgrown]
  exact hall.2.2.2 hplan

/-- **SCENE SHOOTS KEEP TO THEIR LIFE CYCLE ON ALL INSTANCES.** Whatever the probes answer, however far
the caches lag and whichever appends are retried: the stream of a shoot is a history of accepted
commands, each decided on all events before it, and event by event a planned shoot's life. -/
theorem shoots_keep_lifecycle (h : Runs step anyStep World.init w) (id : SceneShootId) :
    History SceneShootAggregate (w.shoots.streams id) ∧
      (Founded SceneShootAggregate (w.shoots.streams id) → ShootRun (w.shoots.streams id)) := by
  have hhistory := h.invariant (fun w => History SceneShootAggregate (w.shoots.streams id))
    .nil (fun _ _ _ hbefore _ hs => step_history hbefore hs)
  exact ⟨hhistory, shootRun_of_history hhistory⟩

/-! ## §7. A fresh probe and a stale one -/

/-- Day 7 is created through instance 1, whose day actor keeps running; scene shoot 9 is planned on
it. -/
def plannedTrace : List Action :=
  [.dayCommand 1 ⟨7⟩ .empty (.create ⟨⟨7⟩, ⟨1⟩, none, ⟨"a"⟩, none, .manual⟩) .acknowledged,
   .shootCommand 1 (.plan ⟨⟨9⟩, 5, ⟨7⟩, ⟨"a"⟩⟩) .acknowledged]

/-- Instance 0 wraps day 7. -/
def wrapTrace : List Action :=
  [.spawn 0 0 (.wrap ⟨⟨7⟩, 1, 100⟩), .acquire 0, .executeAttempt 0 .acknowledged]

/-- Instance `i` starts scene shoot 9, naming its planned version. -/
def startTrace (c : CallId) (i : InstanceId) : List Action :=
  [.spawn c i (.execution (.start ⟨⟨9⟩, ⟨7⟩, 200, 1⟩) ⟨7⟩ rfl), .acquire c, .probe c .acknowledged]

/-- Started before the wrap, then frozen: a later skip is probed through an instance that loads the
day afresh, and its call ends without an event. -/
theorem wrapped_day_final_skip : ∃ w w', Runs step (fun w a => probeFresh w a = true) World.init w ∧
      wrapped w ⟨7⟩ = true ∧ Runs step (fun w a => probeFresh w a = true) w w' ∧
      executionEvents w' ⟨9⟩ = executionEvents w ⟨9⟩ := by
  obtain ⟨w, hw, hwrapped, hlater⟩ : ∃ w, Runs step (fun w a => probeFresh w a = true) World.init w ∧
      wrapped w ⟨7⟩ = true ∧ ∃ w' ∈ run (guarded step fun w a => probeFresh w a = true) w
        [.spawn 2 0 (.execution (.skip ⟨⟨9⟩, ⟨7⟩, 2⟩) ⟨7⟩ rfl), .acquire 2, .probe 2 .acknowledged],
          plannedDay (w'.shoots.streams ⟨9⟩) = some ⟨7⟩ :=
    exists_runs (plannedTrace ++ startTrace 1 1 ++ [.executeAttempt 1 .acknowledged] ++ wrapTrace)
      (by decide +kernel)
  obtain ⟨w', hw', hplan⟩ := exists_runs _ hlater
  exact ⟨w, w', hw, hwrapped, hw', wrapped_day_final hw hwrapped hw' hplan⟩

/-- Instance 0 wraps the day. Instance 1 still has the open day cached, takes the lock, passes its
probe and starts the shoot: an execution event after the wrap. -/
theorem stale_probe_starts_on_wrapped_day :
    ∃ w w', Runs step anyStep World.init w ∧ wrapped w ⟨7⟩ = true ∧ Runs step anyStep w w' ∧
      SceneShootAggregate.plannedDay (w'.shoots.streams ⟨9⟩) = some ⟨7⟩ ∧
      executionEvents w ⟨9⟩ = [] ∧ executionEvents w' ⟨9⟩ = [.sceneShootStarted ⟨9⟩ 200 2] := by
  obtain ⟨w, hw, hwrapped, hnone, hlater⟩ : ∃ w, Runs step anyStep World.init w ∧
      wrapped w ⟨7⟩ = true ∧ executionEvents w ⟨9⟩ = [] ∧ ∃ w' ∈ run (guarded step anyStep) w
        (startTrace 1 1 ++ [.executeAttempt 1 .acknowledged]),
          plannedDay (w'.shoots.streams ⟨9⟩) = some ⟨7⟩ ∧
          executionEvents w' ⟨9⟩ = [.sceneShootStarted ⟨9⟩ 200 2] :=
    exists_runs (plannedTrace ++ wrapTrace) (by decide +kernel)
  obtain ⟨w', hw', hday, hstarted⟩ := exists_runs _ hlater
  exact ⟨w, w', hw, hwrapped, hw', hday, hnone, hstarted⟩

/-- The start after the wrap breaks the day's freeze, not the shoot's life. -/
theorem shoots_keep_lifecycle_stale : ∃ log, log.length = 2 ∧ ShootRun log := by
  obtain ⟨w, hw, hlength, hfounded⟩ : ∃ w, Runs step anyStep World.init w ∧
      (w.shoots.streams ⟨9⟩).length = 2 ∧
      (w.shoots.streams ⟨9⟩).head? = some (plannedEvent ⟨⟨9⟩, 5, ⟨7⟩, ⟨"a"⟩⟩) :=
    exists_runs (plannedTrace ++ wrapTrace ++ startTrace 1 1 ++ [.executeAttempt 1 .acknowledged])
      (by decide +kernel)
  exact ⟨_, hlength, (shoots_keep_lifecycle hw ⟨9⟩).2 ⟨_, hfounded, rfl⟩⟩

end Breakdown.WrapFinality
