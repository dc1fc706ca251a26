/-
**STREAMS, EVENT BY EVENT.**

A command decides on the state it finds and may record several events at once; projectors and
replays see one event after the other. An aggregate says which event a stream may start with and
which one a state lets follow; then every history of accepted commands is a run of such events.

- `History.eventRun`: from the commands to the events;
- `EventRun.shorter`: the beginning of a run is a run;
- `EventRun.emits`: what each event of a run found;
- `EventRun.invariant`: what every event keeps holds at the end;
- `EventRun.relates`: what every event relates is related across the run;
- `EventRun.id_of_mem`: a run is about one aggregate.
-/
import Breakdown.EventStore.Histories

namespace Breakdown

open List Entity

variable {σ ε κ χ : Type} [Entity σ ε κ χ]

/-- Each of the events is one that the state before it lets follow. -/
def Allowed (Emits : σ → ε → Prop) : σ → List ε → Prop
  | _, [] => True
  | s, e :: events => Emits s e ∧ Allowed Emits (Entity.apply s e) events

/-- The streams that start with one of the `First` events and go on with events that the replayed
state lets follow. -/
inductive EventRun (First : ε → Prop) (Emits : σ → ε → Prop) : List ε → Prop
  | first {e : ε} (hfirst : First e) : EventRun First Emits [e]
  | step {log : List ε} {e : ε} (before : EventRun First Emits log)
      (hemits : Emits (Entity.replay σ log) e) : EventRun First Emits (log ++ [e])

theorem replay_concat (log e) : replay σ (log ++ [e]) = apply (replay σ log) e := by
  rw [replay_append]
  rfl

variable {Emits : σ → ε → Prop}

theorem allowed_singleton (h : Emits s e) : Allowed Emits s [e] := ⟨h, trivial⟩

/-- Commands that record at most one event. -/
theorem allowed_of_cases (h : events = [] ∨ ∃ e, events = [e] ∧ Emits s e) :
    Allowed Emits s events := by
  obtain rfl | ⟨e, rfl, hemits⟩ := h
  · trivial
  · exact allowed_singleton hemits

/-- Events that follow one by one, in two parts. -/
theorem allowed_append : Allowed Emits s (events ++ more) ↔
      Allowed Emits s events ∧ Allowed Emits (events.foldl apply s) more := by
  induction events generalizing s with
  | nil => exact (iff_of_eq (true_and _)).symm
  | cons e events ih =>
    show Emits s e ∧ Allowed Emits (apply s e) (events ++ more) ↔ _
    rw [ih, ← and_assoc]
    rfl

/-- A stream of one event has no other beginning than itself. -/
theorem eq_of_singleton_begins (hpre : pre <+: [e]) (hne : pre ≠ []) : pre = [e] := by
  have hpos := length_pos_of_ne_nil hne
  have hle := hpre.length_le
  rw [length_singleton] at hle
  exact hpre.eq_of_length (by rw [length_singleton]; omega)

namespace EventRun

variable {First : ε → Prop} {Emits : σ → ε → Prop}

variable {log pre : List ε}

theorem ne_nil (h : EventRun First Emits log) : log ≠ [] := by
  cases h with
  | first | step => simp

/-- The events of one command follow one by one. -/
theorem append (h : EventRun First Emits log)
    (hallowed : Allowed Emits (replay σ log) events) : EventRun First Emits (log ++ events) := by
  induction events generalizing log with
  | nil =>
    rw [append_nil]
    exact h
  | cons e events ih =>
    have hrest := hallowed.2
    rw [← replay_concat] at hrest
    have hrun := ih (.step h hallowed.1) hrest
    rwa [append_assoc, singleton_append] at hrun

/-- The beginning of a run is a run. -/
theorem shorter (h : EventRun First Emits log) (hpre : pre <+: log) (hne : pre ≠ []) :
    EventRun First Emits pre := by
  induction h with
  | first hfirst =>
    rw [eq_of_singleton_begins hpre hne]
    exact .first hfirst
  | step before hemits ih =>
    obtain rfl | hpre := prefix_concat_iff.mp hpre
    · exact .step before hemits
    · exact ih hpre

/-- What the last event found. -/
theorem emits_last (h : EventRun First Emits (pre ++ [e])) (hne : pre ≠ []) :
    Emits (replay σ pre) e := by
  generalize hlog : pre ++ [e] = log at h
  cases h with
  | @first e' _ =>
    have hpre : pre <+: [e'] := ⟨[e], hlog⟩
    rw [eq_of_singleton_begins hpre hne] at hlog
    cases hlog
  | step before hemits =>
    obtain ⟨rfl, heq⟩ := append_inj' hlog rfl
    cases heq
    exact hemits

section

variable (h : EventRun First Emits log)
include h

/-- What each event but the first one found. -/
theorem emits (hlog : log = pre ++ e :: post) (hne : pre ≠ []) : Emits (replay σ pre) e := by
  have hpre : pre ++ [e] <+: log := ⟨post, by rw [hlog]; simp⟩
  exact (h.shorter hpre (by simp)).emits_last hne

/-- How a run starts. -/
theorem starts (hlog : log = e :: post) : First e := by
  have hpre : [e] <+: log := ⟨post, by rw [hlog]; simp⟩
  -- the beginning of length one is a run as well, and cannot be a step
  have hone := h.shorter hpre (by simp)
  generalize hsingle : [e] = one at hone
  cases hone with
  | first hfirst =>
    cases hsingle
    exact hfirst
  | step before =>
    have hlength := congrArg length hsingle
    exact absurd (by simpa using hlength) before.ne_nil

/-- **WHAT EVERY EVENT KEEPS HOLDS AT THE END.** -/
theorem invariant {P : σ → Prop} (hfirst : ∀ {e}, First e → P (apply init e))
    (hstep : ∀ {s e}, P s → Emits s e → P (apply s e)) : P (replay σ log) := by
  induction h with
  | first h => exact hfirst h
  | step before hemits ih =>
    rw [replay_concat]
    exact hstep ih hemits

/-- **WHAT EVERY EVENT RELATES IS RELATED ACROSS THE RUN**, from any of its beginnings on. -/
theorem relates {R : σ → σ → Prop} (hpre : pre <+: log)
    (hne : pre ≠ []) (hrefl : ∀ s, R s s) (htrans : ∀ {s t u}, R s t → R t u → R s u)
    (hstep : ∀ {s e}, Emits s e → R s (apply s e)) : R (replay σ pre) (replay σ log) := by
  induction h with
  | first =>
    rw [eq_of_singleton_begins hpre hne]
    exact hrefl _
  | step before hemits ih =>
    -- the beginning is the whole run, or one of what was there before its last event
    obtain rfl | hpre := prefix_concat_iff.mp hpre
    · exact hrefl _
    · rw [replay_concat]
      exact htrans (ih hpre) (hstep hemits)

end

/-- What no event changes is what it was after the first one. -/
theorem unchanged {α : Type} (field : σ → α) (h : EventRun First Emits log) (hpre : pre <+: log)
    (hne : pre ≠ []) (hstep : ∀ {s e}, Emits s e → field (apply s e) = field s) :
    field (replay σ pre) = field (replay σ log) :=
  h.relates (R := fun s t => field s = field t) hpre hne (fun _ => rfl) Eq.trans
    fun hemits => (hstep hemits).symm

/-- All events of a run are about one aggregate. -/
theorem id_of_mem {ι : Type} {id : σ → ι} {eventId : ε → ι} (h : EventRun First Emits log)
    (he : e ∈ log) (hfirst : ∀ {e}, First e → eventId e = id (apply init e))
    (hstep : ∀ {s e}, Emits s e → eventId e = id s ∧ id (apply s e) = id s) :
    eventId e = id (replay σ log) := by
  induction h with
  | first hstart =>
    rw [mem_singleton.mp he]
    exact hfirst hstart
  | step before hemits ih =>
    obtain ⟨hlast, hkeeps⟩ := hstep hemits
    rw [replay_concat, hkeeps]
    obtain he | he := mem_append.mp he
    · exact ih he
    · rw [mem_singleton.mp he]
      exact hlast

end EventRun

/-- **FROM COMMANDS TO EVENTS.** A create records one event that a stream may start with, and every
other command events that the state it finds lets follow. -/
theorem History.eventRun [Versioned σ ε κ χ] [LawfulVersioned σ ε κ χ] (h : History σ log)
    (hfounded : Founded σ log)
    (hcreate : ∀ {cmd : κ} {events : List ε}, Versioned.dispatching σ cmd = .create →
      handle (init : σ) cmd = .ok events → ∃ e, events = [e] ∧ First e)
    (hhandle : ∀ {s : σ} {cmd : κ} {events : List ε}, Versioned.dispatching σ cmd ≠ .create →
      handle s cmd = .ok events → Allowed Emits s events) : EventRun First Emits log := by
  refine h.rule hfounded ?_ ?_
  · intro cmd events hcmd hok
    obtain ⟨e, rfl, hfirst⟩ := hcreate hcmd hok
    exact .first hfirst
  · intro log cmd events _ hrun hcmd hok
    exact hrun.append (hhandle hcmd hok)

end Breakdown
