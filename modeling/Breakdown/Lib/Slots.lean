/-
**WHO HOLDS A SLOT, AND WHAT THEY WROTE SINCE.**

Parties claim a slot, write to it and release it. A claim takes the slot from whoever holds it; writes and
releases count only from the party that holds the slot at the time, however late the others' arrive.
`after` computes from what was done who holds the slot now, since when, and what they wrote since then.

- `after_concat`: one more act;
- `after_eq_some`: the holder is the last party to claim, it has not released the slot since, and what
  counts as written are its own writes since that claim.
-/
import Mathlib.Data.List.Induction

namespace Breakdown.Slots

open List

variable {τ ω π : Type}

/-- What a party does. -/
inductive Act (τ ω π : Type)
  | claim (party : τ) (since : ω)
  | write (party : τ) (item : π)
  | release (party : τ)

/-- One party holds the slot. -/
structure Tenure (τ ω π : Type) where
  holder : τ
  since : ω
  /-- What it wrote since, in order. -/
  written : List π := []

namespace Act

/-- A claim by anyone. -/
def isClaim : Act τ ω π → Bool
  | .claim .. => true
  | _ => false

variable [DecidableEq τ]

/-- A release by the party. -/
def isReleaseBy (party : τ) : Act τ ω π → Bool
  | .release p => p = party
  | _ => false

/-- What the party wrote. -/
def writtenBy (party : τ) : Act τ ω π → Option π
  | .write p item => if p = party then some item else none
  | _ => none

end Act

variable [DecidableEq τ]

/-- One act. -/
def step (held : Option (Tenure τ ω π)) : Act τ ω π → Option (Tenure τ ω π)
  | .claim party since => some ⟨party, since, []⟩
  | .write party item =>
    held.map fun t => if t.holder = party then { t with written := t.written ++ [item] } else t
  | .release party => held.filter fun t => t.holder ≠ party

/-- Who holds the slot after the acts. -/
def after (acts : List (Act τ ω π)) : Option (Tenure τ ω π) := acts.foldl step none

theorem after_append (acts more : List (Act τ ω π)) :
    after (acts ++ more) = more.foldl step (after acts) := foldl_append ..

theorem after_concat (acts : List (Act τ ω π)) (act : Act τ ω π) :
    after (acts ++ [act]) = step (after acts) act := after_append acts [act]

/-- The holder's own writes count, and its release frees the slot. -/
theorem step_of_holder (t : Tenure τ ω π) :
    (∀ item, step (some t) (.write t.holder item) = some { t with written := t.written ++ [item] }) ∧
      step (some t) (.release t.holder) = none :=
  ⟨fun item => by simp [step], by simp [step, Option.filter]⟩

/-- Somebody else's write or release does not count. -/
theorem step_of_other {held : Option (Tenure τ ω π)} (h : held.map (·.holder) ≠ some party) :
    (∀ item, step held (.write party item) = held) ∧ step held (.release party) = held := by
  cases held with
  | none => exact ⟨fun _ => rfl, rfl⟩
  | some t =>
    have hne : t.holder ≠ party := fun heq => h (congrArg some heq)
    exact ⟨fun item => by simp [step, hne], by simp [step, hne]⟩

/-- **THE HOLDER IS THE LAST PARTY TO CLAIM**: it has not released the slot since, and what counts as
written are its own writes since. -/
theorem after_eq_some {t : Tenure τ ω π} (h : after acts = some t) :
    ∃ pre post, acts = pre ++ .claim t.holder t.since :: post ∧
      (∀ act ∈ post, act.isClaim = false ∧ act.isReleaseBy t.holder = false) ∧
      t.written = post.filterMap (Act.writtenBy t.holder) := by
  induction acts using reverseRecOn generalizing t with
  | nil => cases h
  | append_singleton acts act ih =>
    rw [after_concat] at h
    cases act with
    | claim =>
      cases h
      exact ⟨acts, [], rfl, by simp, rfl⟩
    | write party item =>
      obtain ⟨before, hbefore, hafter⟩ := Option.map_eq_some_iff.mp h
      obtain ⟨pre, post, rfl, hpost, hwritten⟩ := ih hbefore
      have hkept : t.holder = before.holder ∧ t.since = before.since := by
        rw [← hafter]
        split <;> exact ⟨rfl, rfl⟩
      refine ⟨pre, post ++ [.write party item], by rw [hkept.1, hkept.2]; simp, ?_, ?_⟩
      · intro act hact
        obtain hact | hact := mem_append.mp hact
        · rw [hkept.1]
          exact hpost act hact
        · rw [mem_singleton.mp hact]
          exact ⟨rfl, rfl⟩
      · rw [hkept.1, filterMap_append, ← hwritten, ← hafter]
        by_cases hparty : before.holder = party
        · simp [Act.writtenBy, hparty]
        · simp [Act.writtenBy, hparty, Ne.symm hparty]
    | release party =>
      obtain ⟨hbefore, hother⟩ := Option.filter_eq_some_iff.mp h
      obtain ⟨pre, post, rfl, hpost, hwritten⟩ := ih hbefore
      refine ⟨pre, post ++ [.release party], by simp, ?_, by simp [Act.writtenBy, hwritten]⟩
      intro act hact
      obtain hact | hact := mem_append.mp hact
      · exact hpost act hact
      · rw [mem_singleton.mp hact]
        have hne : t.holder ≠ party := by simpa using hother
        exact ⟨rfl, decide_eq_false (Ne.symm hne)⟩

end Breakdown.Slots
