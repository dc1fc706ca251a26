/-
**COUNTING REFERENCES FROM DELIVERED EVENT LOGS.**

A family of logs, indexed by `ι`, says which items each holder holds: events link an item, unlink
it, reset the whole list or close the holder. A counter is fed the logs event by event, each log in
its own order, and may have seen only a prefix of each. A table of links may lag behind in the
same way.

- `Covers`: each item is held, in the prefixes the counter has seen, by at most as many
  holders as its count says;
- `Covers.deliver`: feeding the next event of any log keeps that;
- `Covers.not_held`: a count of zero means that nobody holds the item NOW, provided no link of it
  is still undelivered;
- `Shows`, `Shows.project`, `Shows.not_held`: the same for the table of links.
-/
import Mathlib.Data.Set.Card

namespace Breakdown.RefCount

open List Function Set

variable {ι π : Type} [DecidableEq π]

/-! ## §1. What a log holds -/

/-- What an event does to the items of its holder. -/
inductive Effect (π : Type)
  /-- The holder starts (over) with these items. -/
  | reset (items : List π)
  | linked (item : π)
  | unlinked (item : π)
  /-- The holder is gone; its items stay listed. -/
  | closed
  /-- Nothing about items. -/
  | other
  deriving DecidableEq

/-- Which items are held after the event. -/
def Effect.apply (has : π → Bool) : Effect π → π → Bool
  | .reset items => fun p => items.contains p
  | .linked q => fun p => p == q || has p
  | .unlinked q => fun p => p != q && has p
  | .closed => has
  | .other => has

/-- Which items are held after a log. -/
def held (log : List (Effect π)) : π → Bool := log.foldl Effect.apply fun _ => false

/-- Is the holder gone? -/
def closed (log : List (Effect π)) : Bool := log.contains .closed

@[simp] theorem held_nil (p) : held ([] : List (Effect π)) p = false := rfl

@[simp] theorem held_concat (log : List (Effect π)) (e : Effect π) :
    held (log ++ [e]) = e.apply (held log) := by
  simp [held]

@[simp] theorem closed_concat (log : List (Effect π)) (e : Effect π) :
    closed (log ++ [e]) = (closed log || e == .closed) := by
  rw [closed, contains_append, contains_cons, contains_nil, Bool.or_false,
    BEq.comm (a := Effect.closed)]
  rfl

omit [DecidableEq π] in
/-- One more event of a log: its prefix grows by that event. -/
theorem take_succ_eq {log : List (Effect π)} (h : log[k]? = some e) :
    log.take (k + 1) = log.take k ++ [e] := by
  rw [take_add_one, h]
  rfl

/-- An event that neither links the item nor starts with items does not make it held. -/
theorem held_of_apply {e : Effect π} (hreset : ∀ items, e = .reset items → items = [])
    (hlinked : e ≠ .linked p) (h : e.apply has p) : has p := by
  cases e with
  | reset items =>
    rw [hreset items rfl] at h
    simp [Effect.apply] at h
  | linked =>
    simp only [Effect.apply, Bool.or_eq_true, beq_iff_eq] at h
    rcases h with rfl | h
    · exact absurd rfl hlinked
    · exact h
  | unlinked =>
    simp only [Effect.apply, Bool.and_eq_true] at h
    exact h.2
  | closed | other => exact h

/-! ## §2. Well-formed logs -/

/-- Holders start empty and unlink only what they hold. -/
structure WellFormed (log : List (Effect π)) : Prop where
  resetEmpty : ∀ (k : Nat) (items : List π), log[k]? = some (Effect.reset items) → items = []
  unlinkedHeld : ∀ (k : Nat) (p : π), log[k]? = some (Effect.unlinked p) → held (log.take k) p = true

theorem wellFormed_nil : WellFormed ([] : List (Effect π)) :=
  ⟨fun _ _ h => by simp at h, fun _ _ h => by simp at h⟩

/-- A well-formed log may grow by an event that fits what the log holds. -/
theorem WellFormed.concat (h : WellFormed log) {e : Effect π}
    (hreset : ∀ items, e = .reset items → items = [])
    (hunlinked : ∀ p, e = .unlinked p → held log p) : WellFormed (log ++ [e]) := by
  have hcases : ∀ k e', (log ++ [e])[k]? = some e' →
      log[k]? = some e' ∧ (log ++ [e]).take k = log.take k ∨
        e' = e ∧ (log ++ [e]).take k = log := by
    intro k e' hk
    rcases Nat.lt_trichotomy k log.length with hlt | rfl | hgt
    · rw [getElem?_append_left hlt] at hk
      exact .inl ⟨hk, take_append_of_le_length hlt.le⟩
    · rw [getElem?_concat_length] at hk
      exact .inr ⟨(Option.some.inj hk).symm, take_left⟩
    · rw [getElem?_eq_none (by simp; omega)] at hk
      cases hk
  constructor
  · intro k items hk
    obtain ⟨hold, -⟩ | ⟨hnew, -⟩ := hcases k _ hk
    · exact h.resetEmpty k items hold
    · exact hreset items hnew.symm
  · intro k p hk
    obtain ⟨hold, htake⟩ | ⟨hnew, htake⟩ := hcases k _ hk
    · rw [htake]
      exact h.unlinkedHeld k p hold
    · rw [htake]
      exact hunlinked p hnew.symm

/-- Every link of the item stands before position `k`. -/
def LinksWithin (p : π) (k : Nat) (log : List (Effect π)) : Prop := Effect.linked p ∉ log.drop k

instance (p : π) (k : Nat) (log : List (Effect π)) : Decidable (LinksWithin p k log) :=
  inferInstanceAs (Decidable (_ ∉ _))

omit [DecidableEq π] in
theorem linksWithin_nil (p : π) (k) : LinksWithin p k [] := by
  simp [LinksWithin]

/-- **WITHOUT A LATER LINK, WHAT IS HELD NOW WAS HELD ALREADY.** -/
theorem WellFormed.held_take {log : List (Effect π)} (h : WellFormed log) {p : π}
    (hlinks : LinksWithin p k log) (hheld : held log p) : held (log.take k) p := by
  -- induction on how many events follow position `k`
  have hall : ∀ n, held (log.take (k + n)) p = true → held (log.take k) p = true := by
    intro n
    induction n with
    | zero => exact id
    | succ n ih =>
      intro hn
      apply ih
      rw [← Nat.add_assoc] at hn
      cases hget : log[k + n]? with
      | none =>
        rw [getElem?_eq_none_iff] at hget
        rwa [take_of_length_le (by omega), ← take_of_length_le hget] at hn
      | some =>
        rw [take_succ_eq hget, held_concat] at hn
        refine held_of_apply (fun items he => h.resetEmpty _ items (he ▸ hget)) ?_ hn
        rintro rfl
        refine hlinks (mem_of_getElem? (i := n) ?_)
        rw [getElem?_drop, hget]
  apply hall log.length
  rwa [take_of_length_le (by omega)]

/-! ## §3. Counters -/

/-- What a counter does with an event: links count up, unlinks count down, never below zero. -/
def record (count : π → Nat) : Effect π → π → Nat
  | .linked p => Function.update count p (count p + 1)
  | .unlinked p => Function.update count p (count p - 1)
  | .reset _ | .closed | .other => count

/-- The holders of an item as far as the counter has seen the logs. -/
def holders (logs : ι → List (Effect π)) (seen : ι → Nat) (p : π) : Set ι :=
  {i | held ((logs i).take (seen i)) p = true}

/-- The counter counts every holder it has seen. -/
structure Covers (count : π → Nat) (logs : ι → List (Effect π)) (seen : ι → Nat) : Prop where
  within : ∀ i, seen i ≤ (logs i).length
  bound : ∀ p, (holders logs seen p).encard ≤ count p

variable {count : π → Nat} {logs logs' : ι → List (Effect π)} {seen : ι → Nat}

/-- A counter that has seen nothing. -/
theorem covers_restart (count : π → Nat) (logs : ι → List (Effect π)) :
    Covers count logs fun _ => 0 where
  within _ := Nat.zero_le _
  bound p := by
    have hnone : holders logs (fun _ => 0) p = ∅ := by
      ext i
      simp [holders]
    rw [hnone, encard_empty]
    exact zero_le

/-- Growing logs do not change what was seen of them. -/
theorem Covers.grow (h : Covers count logs seen) (hgrow : ∀ i, logs i <+: logs' i) :
    Covers count logs' seen where
  within i := (h.within i).trans (hgrow i).length_le
  bound p := by
    have hsame : holders logs' seen p = holders logs seen p := by
      ext i
      obtain ⟨rest, hrest⟩ := hgrow i
      simp only [holders, mem_ofPred_eq]
      rw [← hrest, take_append_of_le_length (h.within i)]
    rw [hsame]
    exact h.bound p

section Deliver

variable [DecidableEq ι]

/-- **FEEDING ONE EVENT.** Whichever log it comes from, the counter still covers the holders. -/
theorem Covers.deliver (h : Covers count logs seen) {i : ι} (hwf : WellFormed (logs i))
    (hget : (logs i)[seen i]? = some e) :
    Covers (record count e) logs (update seen i (seen i + 1)) where
  within j := by
    by_cases hj : j = i
    · subst hj
      rw [update_self]
      exact (List.getElem?_eq_some_iff.1 hget).1
    · rw [update_of_ne hj]
      exact h.within j
  bound p := by
    -- only the holder whose log was read can have changed sides
    have hself : i ∈ holders logs (update seen i (seen i + 1)) p ↔
        e.apply (held ((logs i).take (seen i))) p = true := by
      simp only [holders, mem_ofPred_eq, update_self]
      rw [take_succ_eq hget, held_concat]
    have hother : ∀ j, j ≠ i → (j ∈ holders logs (update seen i (seen i + 1)) p ↔
        j ∈ holders logs seen p) := by
      intro j hj
      simp only [holders, mem_ofPred_eq, update_of_ne hj]
    have hsub : ∀ {A : Set ι}, (∀ j, j ≠ i → j ∈ holders logs seen p → j ∈ A) →
        (e.apply (held ((logs i).take (seen i))) p = true → i ∈ A) →
        holders logs (update seen i (seen i + 1)) p ⊆ A := by
      intro A hoth hslf j hj
      by_cases hji : j = i
      · subst hji
        exact hslf (hself.1 hj)
      · exact hoth j hji ((hother j hji).1 hj)
    have hkeep : e.apply (held ((logs i).take (seen i))) p = held ((logs i).take (seen i)) p →
        (holders logs (update seen i (seen i + 1)) p).encard ≤ count p := by
      intro hsame
      refine (encard_le_encard (hsub (fun j _ hj => hj) ?_)).trans (h.bound p)
      intro hslf
      rwa [hsame] at hslf
    cases e with
    | reset =>
      have hnil := hwf.resetEmpty _ _ hget
      subst hnil
      refine (encard_le_encard (hsub (fun j _ hj => hj) ?_)).trans (h.bound p)
      simp [Effect.apply]
    | linked q =>
      by_cases hpq : p = q
      · subst hpq
        simp only [record, update_self]
        calc (holders logs (update seen i (seen i + 1)) p).encard
            ≤ (insert i (holders logs seen p)).encard :=
              encard_le_encard (hsub (fun j _ hj => mem_insert_of_mem i hj)
                fun _ => mem_insert i _)
          _ ≤ (holders logs seen p).encard + 1 := encard_insert_le _ i
          _ ≤ (count p + 1 : Nat) := by
              rw [Nat.cast_add, Nat.cast_one]
              exact add_le_add_left (h.bound p) 1
      · simp only [record, update_of_ne hpq]
        exact hkeep (by simp [Effect.apply, hpq])
    | unlinked q =>
      by_cases hpq : p = q
      · subst hpq
        simp only [record, update_self]
        have hmem : i ∈ holders logs seen p := hwf.unlinkedHeld _ _ hget
        -- the log that was read held the item and holds it no longer
        have hle : (holders logs (update seen i (seen i + 1)) p).encard + 1 ≤ count p := by
          calc (holders logs (update seen i (seen i + 1)) p).encard + 1
              ≤ (holders logs seen p \ {i}).encard + 1 := add_le_add_left (encard_le_encard (hsub
                  (fun j hji hj => mem_sdiff_singleton.2 ⟨hj, hji⟩) (by simp [Effect.apply]))) 1
            _ = (holders logs seen p).encard := encard_sdiff_singleton_add_one hmem
            _ ≤ count p := h.bound p
        cases hc : count p with
        | zero =>
          rw [hc] at hle
          simp at hle
        | succ =>
          rw [hc, Nat.cast_add, Nat.cast_one] at hle
          simpa using (ENat.add_le_add_iff_right ENat.one_ne_top).1 hle
      · simp only [record, update_of_ne hpq]
        exact hkeep (by simp [Effect.apply, hpq])
    | closed | other => exact hkeep rfl

end Deliver

/-- **ZERO MEANS UNUSED**, once every link of the item has been delivered. -/
theorem Covers.not_held (h : Covers count logs seen) (hzero : count p = 0)
    (hwf : WellFormed (logs i)) (hlinks : LinksWithin p (seen i) (logs i)) :
    held (logs i) p = false := by
  rw [Bool.eq_false_iff]
  intro hheld
  have hmem : i ∈ holders logs seen p := hwf.held_take hlinks hheld
  have hb := h.bound p
  rw [hzero, Nat.cast_zero, nonpos_iff_eq_zero, encard_eq_zero] at hb
  rw [hb] at hmem
  exact hmem

/-! ## §4. Link tables -/

section Table

variable [DecidableEq ι]

/-- What the projector of a link table does with an event of holder `i`: insert unless present,
delete the row, or let the holder's removal cascade to its rows. -/
def projectRow (rows : List (ι × π)) (i : ι) : Effect π → List (ι × π)
  | .reset items => items.foldl (fun rows p => if (i, p) ∈ rows then rows else rows ++ [(i, p)]) rows
  | .linked p => if (i, p) ∈ rows then rows else rows ++ [(i, p)]
  | .unlinked p => rows.filter (· ≠ (i, p))
  | .closed => rows.filter (·.1 ≠ i)
  | .other => rows

/-- The table has a row for every item an open holder holds, as far as it was projected. -/
structure Shows (rows : List (ι × π)) (logs : ι → List (Effect π)) (seen : ι → Nat) : Prop where
  within : ∀ i, seen i ≤ (logs i).length
  row : ∀ i p, held ((logs i).take (seen i)) p = true → closed ((logs i).take (seen i)) = false →
    (i, p) ∈ rows

variable {rows : List (ι × π)}

omit [DecidableEq ι] in
theorem shows_nil (logs : ι → List (Effect π)) : Shows [] logs fun _ => 0 where
  within _ := Nat.zero_le _
  row i p h := by
    simp at h

omit [DecidableEq ι] in
theorem Shows.grow (h : Shows rows logs seen) (hgrow : ∀ i, logs i <+: logs' i) :
    Shows rows logs' seen where
  within i := (h.within i).trans (hgrow i).length_le
  row i p := by
    obtain ⟨rest, hrest⟩ := hgrow i
    rw [← hrest, take_append_of_le_length (h.within i)]
    exact h.row i p

/-- Rows of other holders are left alone. -/
theorem projectRow_other (hji : j ≠ i) (p) (hreset : ∀ items, e = .reset items → items = [])
    (hmem : (j, p) ∈ rows) : (j, p) ∈ projectRow rows i e := by
  cases e with
  | reset items =>
    rw [hreset items rfl]
    exact hmem
  | linked =>
    simp only [projectRow]
    split
    · exact hmem
    · exact mem_append_left _ hmem
  | unlinked | closed => simpa [projectRow, hji] using hmem
  | other => exact hmem

/-- **PROJECTING ONE EVENT** keeps the table showing what is held. -/
theorem Shows.project (h : Shows rows logs seen) {i : ι} (hwf : WellFormed (logs i))
    (hget : (logs i)[seen i]? = some e) :
    Shows (projectRow rows i e) logs (update seen i (seen i + 1)) where
  within j := by
    by_cases hj : j = i
    · subst hj
      rw [update_self]
      exact (List.getElem?_eq_some_iff.1 hget).1
    · rw [update_of_ne hj]
      exact h.within j
  row := by
    have hreset : ∀ items, e = .reset items → items = [] := by
      rintro items rfl
      exact hwf.resetEmpty _ _ hget
    intro j p
    by_cases hj : j = i
    · subst hj
      rw [update_self, take_succ_eq hget, held_concat, closed_concat]
      intro hheld hopen
      simp only [Bool.or_eq_false_iff] at hopen
      cases e with
      | reset items =>
        rw [hreset items rfl] at hheld
        simp [Effect.apply] at hheld
      | linked =>
        simp only [Effect.apply, Bool.or_eq_true, beq_iff_eq] at hheld
        simp only [projectRow]
        rcases hheld with rfl | hheld
        · split
          · next hmem => exact hmem
          · simp
        · have hmem := h.row j p hheld hopen.1
          split
          · exact hmem
          · exact mem_append_left _ hmem
      | unlinked =>
        simp only [Effect.apply, Bool.and_eq_true, bne_iff_ne, ne_eq] at hheld
        have hmem := h.row j p hheld.2 hopen.1
        simpa [projectRow, hheld.1] using hmem
      | closed => simp at hopen
      | other => exact h.row j p hheld hopen.1
    · rw [update_of_ne hj]
      intro hheld hopen
      exact projectRow_other hj p hreset (h.row j p hheld hopen)

/-- How many rows name the item. -/
def countRows (rows : List (ι × π)) (p : π) : Nat := rows.countP fun row => row.2 = p

omit [DecidableEq ι] in
/-- No row means no open holder, once the table shows every link of the item. -/
theorem Shows.not_held (h : Shows rows logs seen) (hzero : countRows rows p = 0)
    (hwf : WellFormed (logs i)) (hlinks : LinksWithin p (seen i) (logs i))
    (hopen : closed (logs i) = false) : held (logs i) p = false := by
  rw [Bool.eq_false_iff]
  intro hheld
  have hopen' : closed ((logs i).take (seen i)) = false := by
    rw [Bool.eq_false_iff] at hopen ⊢
    intro hc
    simp only [closed, contains_iff_mem] at hc
    exact hopen (contains_iff_mem.2 (mem_of_mem_take hc))
  have hmem := h.row i p (hwf.held_take hlinks hheld) hopen'
  rw [countRows, countP_eq_zero] at hzero
  exact hzero _ hmem (by simp)

end Table

end Breakdown.RefCount
