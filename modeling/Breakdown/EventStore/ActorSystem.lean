/-
**ONE STORE, MANY INSTANCES, ONE CACHED ACTOR PER STREAM EACH.**

The streams of one aggregate type together with the actors every API instance keeps for them. An
actor may lag behind its stream; it never disagrees with it. That is a field of the structure, so
no operation has to be shown to keep it twice.

- `ActorSystem.attemptAt`: one decision and append through an instance's actor;
- `ActorSystem.executeAt`: the whole retry loop as one step;
- `ActorSystem.attemptAt_cases`, `ActorSystem.executeAt_cases`: the stream is left alone, or it
  grows by what the WHOLE stream decides.
-/
import Mathlib.Logic.Function.Basic
import Breakdown.EventStore.EntityActor

namespace Breakdown

open EventLog List Function EntityActorState

/-! ## §1. Streams and the actors on them -/

/-- The streams of an aggregate type, indexed by `ι`, and each instance's running actors. -/
structure ActorSystem (ι σ : Type) {ε κ χ : Type} [Entity σ ε κ χ] where
  streams : ι → List ε
  actors : InstanceId → ι → Option (EntityActorState σ)
  /-- The store's index: the streams that may have events. -/
  index : List ι
  /-- Every running actor is the fold of a prefix of its stream. -/
  follows : ∀ i id st, actors i id = some st → st.Follows (streams id)
  indexed : ∀ id, id ∉ index → streams id = []

namespace ActorSystem

variable {ι σ ε κ χ : Type} [Entity σ ε κ χ]

/-- No events, no actors. -/
def init : ActorSystem ι σ where
  streams := fun _ => []
  actors := fun _ _ => none
  index := []
  follows i id st h := by
    cases h
  indexed := fun _ _ => rfl

variable (s : ActorSystem ι σ)

/-- The actor an instance answers from: the running one, or one started now, which reads the whole
stream (`on_start`). -/
def actorOrStart (i : InstanceId) (id : ι) : EntityActorState σ :=
  (s.actors i id).getD (load σ (s.streams id))

theorem actorOrStart_follows (i id) : (s.actorOrStart i id).Follows (s.streams id) := by
  unfold actorOrStart
  cases h : s.actors i id with
  | none => exact follows_load _
  | some st => exact s.follows i id st h

/-- What every empty stream has, every stream has if the indexed ones do. -/
def decidableForallStreams (P : ι → List ε → Prop) [∀ id log, Decidable (P id log)]
    (hnil : ∀ id, P id []) : Decidable (∀ id, P id (s.streams id)) :=
  decidable_of_iff (∀ id ∈ s.index, P id (s.streams id)) <| by
    constructor
    · intro h id
      by_cases hid : id ∈ s.index
      · exact h id hid
      · rw [s.indexed id hid]
        exact hnil id
    · intro h id _
      exact h id

/-- The entity a stream stands for. -/
def entityAt (id : ι) : σ := Entity.replay σ (s.streams id)

variable [DecidableEq ι]

/-- Replace an instance's actor and let its stream grow. -/
def put (i : InstanceId) (id : ι) (st : EntityActorState σ) (log : List ε) (hst : st.Follows log)
    (hlog : s.streams id <+: log) : ActorSystem ι σ where
  streams := update s.streams id log
  actors := update s.actors i (update (s.actors i) id (some st))
  index := if id ∈ s.index then s.index else id :: s.index
  indexed id' hid' := by
    have hne : id' ≠ id := by
      rintro rfl
      split at hid'
      · next hmem => exact hid' hmem
      · exact hid' List.mem_cons_self
    rw [update_of_ne hne]
    refine s.indexed id' fun hmem => hid' ?_
    split
    · exact hmem
    · exact List.mem_cons_of_mem id hmem
  follows j id' st' h := by
    by_cases hid : id' = id
    · subst hid
      rw [update_self]
      by_cases hj : j = i
      · subst hj
        rw [update_self, update_self] at h
        cases h
        exact hst
      · -- another instance's actor lags a little more than before
        rw [update_of_ne hj] at h
        exact Snapshot.Follows.mono (s.follows j id' st' h) hlog
    · rw [update_of_ne hid]
      by_cases hj : j = i
      · subst hj
        rw [update_self, update_of_ne hid] at h
        exact s.follows j id' st' h
      · rw [update_of_ne hj] at h
        exact s.follows j id' st' h

variable {i : InstanceId} {outcome : AppendOutcome} {st : EntityActorState σ} {s' : ActorSystem ι σ}

@[simp] theorem put_streams {id log hst hlog} :
    (s.put i id st log hst hlog).streams = update s.streams id log := rfl

/-- The actor stops (evicted, crashed); the next command starts it anew. -/
def stop (i : InstanceId) (id : ι) : ActorSystem ι σ where
  streams := s.streams
  actors := update s.actors i (update (s.actors i) id none)
  index := s.index
  indexed := s.indexed
  follows j id' st h := by
    by_cases hj : j = i
    · subst hj
      rw [update_self] at h
      by_cases hid : id' = id
      · subst hid
        rw [update_self] at h
        cases h
      · rw [update_of_ne hid] at h
        exact s.follows j id' st h
    · rw [update_of_ne hj] at h
      exact s.follows j id' st h

/-- Re-read the stream into an instance's actor (`resync_with_db`). -/
def resyncAt (i : InstanceId) (id : ι) : ActorSystem ι σ :=
  s.put i id ((s.actorOrStart i id).resync (s.streams id)) (s.streams id)
    (by
      rw [(s.actorOrStart_follows i id).resync_eq]
      exact follows_load _)
    List.prefix_rfl

@[simp] theorem resyncAt_streams (i id) : (s.resyncAt i id).streams = s.streams := by
  simp [resyncAt]

/-! ## §2. Commands -/

/-- What a command did to the streams: nothing, or it appended to `id` the events that the whole
stream of `id` decides. -/
inductive Advance (s : ActorSystem ι σ) (id : ι) (expected : ExpectedVersion) (cmd : κ) :
    (ι → List ε) → Prop
  | unchanged : Advance s id expected cmd s.streams
  | appended {events : List ε} (decided : Decided σ (s.streams id) expected cmd events) :
      Advance s id expected cmd (update s.streams id (s.streams id ++ events))

theorem attempt_follows (hf : st.Follows log)
    (h : attempt st log expected cmd outcome = .done st' log' reply) :
    st'.Follows log' ∧ log <+: log' := by
  obtain ⟨rfl, rfl, -⟩ | ⟨events, -, rfl, ⟨rfl, -⟩ | ⟨rfl, -⟩⟩ := attempt_done hf h
  · exact ⟨hf, prefix_rfl⟩
  · exact ⟨follows_load _, prefix_append ..⟩
  · exact ⟨hf.append events, prefix_append ..⟩

/-- One decision and append through the actor of instance `i`; `none` is a version conflict of the
append, after which the actor re-reads the stream. -/
def attemptAt (i : InstanceId) (id : ι) (expected : ExpectedVersion) (cmd : κ)
    (outcome : AppendOutcome) : ActorSystem ι σ × Option (Reply ε χ) :=
  match h : attempt (s.actorOrStart i id) (s.streams id) expected cmd outcome with
  | .done st log reply =>
    (s.put i id st log (attempt_follows (s.actorOrStart_follows i id) h).1
      (attempt_follows (s.actorOrStart_follows i id) h).2, some reply)
  | .conflict => (s, none)

theorem attemptAt_cases {s : ActorSystem ι σ} {id expected cmd reply}
    (h : s.attemptAt i id expected cmd outcome = (s', reply)) :
    s.Advance id expected cmd s'.streams := by
  unfold attemptAt at h
  split at h
  · next st log r ha =>
    cases h
    rw [put_streams]
    obtain ⟨-, rfl, -⟩ | ⟨events, hdec, rfl, -⟩ := attempt_done (s.actorOrStart_follows i id) ha
    · rw [update_eq_self]
      exact .unchanged
    · exact .appended hdec
  · cases h
    exact .unchanged

theorem attemptAt_advance (i id expected cmd outcome) :
    s.Advance id expected cmd (s.attemptAt i id expected cmd outcome).1.streams :=
  attemptAt_cases rfl

theorem handleExecute_follows (hf : st.Follows log) :
    (handleExecute st log expected cmd outcome retries).1.Follows
        (handleExecute st log expected cmd outcome retries).2.1 ∧
      log <+: (handleExecute st log expected cmd outcome retries).2.1 := by
  rcases hex : handleExecute st log expected cmd outcome retries with ⟨st', log', reply⟩
  obtain ⟨hst, rfl, -⟩ | ⟨events, -, rfl, hst, -⟩ := handleExecute_cases retries hf hex
  · exact ⟨hst, prefix_rfl⟩
  · exact ⟨hst, prefix_append ..⟩

/-- The whole of `Message<Execute>::handle`, run without interruption. -/
def executeAt (i : InstanceId) (id : ι) (expected : ExpectedVersion) (cmd : κ)
    (outcome : AppendOutcome) : ActorSystem ι σ × Reply ε χ :=
  let result := handleExecute (s.actorOrStart i id) (s.streams id) expected cmd outcome
    conflictRetries
  (s.put i id result.1 result.2.1 (handleExecute_follows (s.actorOrStart_follows i id)).1
    (handleExecute_follows (s.actorOrStart_follows i id)).2, result.2.2)

theorem executeAt_cases {s : ActorSystem ι σ} {id expected cmd reply}
    (h : s.executeAt i id expected cmd outcome = (s', reply)) :
    s.Advance id expected cmd s'.streams := by
  unfold executeAt at h
  rcases hex : handleExecute (s.actorOrStart i id) (s.streams id) expected cmd outcome
    conflictRetries with ⟨st, log, r⟩
  obtain ⟨rfl, rfl⟩ := Prod.mk.inj h
  rw [put_streams, hex]
  obtain ⟨-, rfl, -⟩ | ⟨events, hdec, rfl, -⟩ :=
    handleExecute_cases conflictRetries (s.actorOrStart_follows i id) hex
  · rw [update_eq_self]
    exact .unchanged
  · exact .appended hdec

theorem executeAt_advance (i id expected cmd outcome) :
    s.Advance id expected cmd (s.executeAt i id expected cmd outcome).1.streams :=
  executeAt_cases rfl

/-- A command leaves the other streams and their actors alone. -/
theorem executeAt_actorOrStart_of_ne {id} (hid : id' ≠ id) (expected cmd outcome) :
    (s.executeAt i id expected cmd outcome).1.actorOrStart j id' = s.actorOrStart j id' := by
  simp only [actorOrStart, executeAt, put, update_of_ne hid]
  by_cases hj : j = i
  · rw [hj, update_self, update_of_ne hid]
  · rw [update_of_ne hj]

/-- **WHAT A REPLY TELLS ABOUT THE STREAM**, for a command without an idempotency hook: events and an
acknowledgement, events and a lost acknowledgement, or no events and no success. -/
theorem executeAt_reply {s : ActorSystem ι σ} {id expected cmd reply}
    (hidem : ∀ st : σ, Entity.isStateIdempotent st cmd = false)
    (h : s.executeAt i id expected cmd outcome = (s', reply)) :
    (∃ events, Decided σ (s.streams id) expected cmd events ∧
        s'.streams = update s.streams id (s.streams id ++ events) ∧
        (reply = .ok (.executed (numbered (s.streams id).length events)) ∨
          ∃ e, reply = .error e ∧ outcome = .lostAck)) ∨
      s'.streams = s.streams ∧ ∀ r, reply = .ok r → r = .executed [] := by
  unfold executeAt at h
  obtain ⟨rfl, rfl⟩ := Prod.mk.inj h
  rw [put_streams]
  have hnot : ∀ v, (handleExecute (s.actorOrStart i id) (s.streams id) expected cmd outcome
      conflictRetries).2.2 ≠ .ok (.idempotent v) := by
    intro v
    refine handleExecute_done (fun _ reply => reply ≠ .ok (.idempotent v)) ?_ (by simp) _ _
    rintro st st' log' reply ha rfl
    have hhook := attempt_idempotent ha
    rw [hidem] at hhook
    cases hhook
  have hlost : ∀ e, (handleExecute (s.actorOrStart i id) (s.streams id) expected cmd outcome
      conflictRetries).2.2 = .error e → (handleExecute (s.actorOrStart i id) (s.streams id)
        expected cmd outcome conflictRetries).2.1 ≠ s.streams id → outcome = .lostAck := by
    refine fun e => handleExecute_done
      (fun log reply => reply = .error e → log ≠ s.streams id → outcome = .lostAck) ?_ ?_ _ _
    · rintro st st' log' reply ha rfl hne
      exact attempt_lostAck ha hne
    · intro _ hne
      exact absurd rfl hne
  rcases hex : handleExecute (s.actorOrStart i id) (s.streams id) expected cmd outcome
    conflictRetries with ⟨st, log, r⟩
  rw [hex] at hnot hlost
  obtain ⟨-, rfl, hempty⟩ | ⟨events, hdec, rfl, -, hreply⟩ :=
    handleExecute_cases conflictRetries (s.actorOrStart_follows i id) hex
  · refine .inr ⟨update_eq_self .., ?_⟩
    intro result hr
    cases result with
    | executed evs => rw [hempty evs hr]
    | idempotent v => exact absurd hr (hnot v)
  · refine .inl ⟨events, hdec, rfl, hreply.imp_right ?_⟩
    intro hdb
    refine ⟨_, hdb, hlost _ hdb ?_⟩
    simpa using hdec.nonempty

variable {s} {id : ι} {expected : ExpectedVersion} {cmd : κ} {streams : ι → List ε}

section

variable (h : s.Advance id expected cmd streams)
include h

/-- Streams only grow. -/
theorem Advance.prefix_ (id') : s.streams id' <+: streams id' := by
  cases h with
  | unchanged => exact prefix_rfl
  | appended =>
    by_cases hid : id' = id
    · subst hid
      rw [update_self]
      exact prefix_append ..
    · rw [update_of_ne hid]

/-- What a stream holds after a command it did not hold before: events the command was decided with
on the whole stream. -/
theorem Advance.at_ (id') : streams id' = s.streams id' ∨
      id' = id ∧ ∃ events, Decided σ (s.streams id) expected cmd events ∧
        streams id' = s.streams id ++ events := by
  cases h with
  | unchanged => exact .inl rfl
  | appended hdec =>
    by_cases hid : id' = id
    · subst hid
      exact .inr ⟨rfl, _, hdec, update_self ..⟩
    · exact .inl (update_of_ne hid ..)

/-- What every stream has, every stream has after a command that keeps it on its own stream. -/
theorem Advance.forall_streams (P : ι → List ε → Prop) (hold : ∀ id', P id' (s.streams id'))
    (hnew : ∀ events, Decided σ (s.streams id) expected cmd events →
      P id (s.streams id ++ events)) (id') : P id' (streams id') := by
  obtain heq | ⟨rfl, events, hdec, heq⟩ := h.at_ id'
  · rw [heq]
    exact hold id'
  · rw [heq]
    exact hnew events hdec

end

end ActorSystem

end Breakdown
