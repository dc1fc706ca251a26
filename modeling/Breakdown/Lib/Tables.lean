/-
**TABLES OF A RELATIONAL DATABASE**, as far as single-row statements go.

A table maps primary keys to rows. The statements of a projector read at most the row they write:

- `put`: `INSERT … ON CONFLICT DO UPDATE`;
- `insertNew`: `INSERT … ON CONFLICT DO NOTHING`;
- `modify`: `UPDATE … WHERE key`;
- `delete`, `deleteWhere`: `DELETE … WHERE key`, and by a part of the key.

A second unique constraint is an index beside the rows. `UniqueTable` carries the proof that the
index is the one of its rows, so a table that violates the constraint cannot be built.
-/
import Mathlib.Logic.Function.Basic

namespace Breakdown.Tables

open Function

/-! ## §1. Tables by primary key -/

/-- The rows of a table, by primary key. -/
abbrev Table (κ ν : Type) := κ → Option ν

namespace Table

variable {κ ν : Type} [DecidableEq κ]

/-- The row of one key, replaced by what becomes of it. -/
def alter (t : Table κ ν) (k : κ) (f : Option ν → Option ν) : Table κ ν :=
  Function.update t k (f (t k))

/-- `INSERT … ON CONFLICT DO UPDATE` of every column. -/
def put (t : Table κ ν) (k : κ) (v : ν) : Table κ ν := t.alter k fun _ => some v

/-- `INSERT … ON CONFLICT DO NOTHING`. -/
def insertNew (t : Table κ ν) (k : κ) (v : ν) : Table κ ν := t.alter k fun row => row.or (some v)

/-- `UPDATE … WHERE key`. -/
def modify (t : Table κ ν) (k : κ) (f : ν → ν) : Table κ ν := t.alter k (Option.map f)

/-- `DELETE … WHERE key`. -/
def delete (t : Table κ ν) (k : κ) : Table κ ν := t.alter k fun _ => none

/-- `DELETE … WHERE` a part of the key. -/
def deleteWhere (t : Table κ ν) (p : κ → Bool) : Table κ ν := fun k => if p k then none else t k

@[simp] theorem alter_self (t : Table κ ν) (k : κ) (f : Option ν → Option ν) :
    t.alter k f k = f (t k) :=
  update_self ..

theorem alter_of_ne (t : Table κ ν) (f : Option ν → Option ν) (h : k' ≠ k) :
    t.alter k f k' = t k' :=
  update_of_ne h ..

theorem alter_apply (t : Table κ ν) (k k' : κ) (f : Option ν → Option ν) :
    t.alter k f k' = if k' = k then f (t k') else t k' := by
  by_cases h : k' = k
  · subst h
    rw [alter_self, if_pos rfl]
  · rw [alter_of_ne t f h, if_neg h]

/-- A row that stays as it is. -/
theorem alter_eq_self {t : Table κ ν} (h : f (t k) = t k) : t.alter k f = t := by
  unfold alter
  rw [h, update_eq_self]

/-! Statements that find no row. -/

theorem modify_eq_self {t : Table κ ν} (f : ν → ν) (h : t k = none) : t.modify k f = t := by
  refine alter_eq_self ?_
  rw [h]
  rfl

theorem delete_eq_self {t : Table κ ν} (h : t k = none) : t.delete k = t := alter_eq_self h.symm

theorem deleteWhere_eq_self {κ ν : Type} {t : Table κ ν} {p} (h : ∀ k, p k → t k = none) :
    t.deleteWhere p = t := by
  funext k
  unfold deleteWhere
  split
  · next hk => exact (h k hk).symm
  · rfl

/-- The rows of one parent are the members of a list. -/
def Lists {κ α ν : Type} (t : Table (κ × α) ν) (k : κ) (members : List α) : Prop :=
  ∀ a, (t (k, a)).isSome ↔ a ∈ members

section Lists

variable {κ α ν : Type} [DecidableEq κ] [DecidableEq α] {t : Table (κ × α) ν} {k : κ}
  {members : List α}

/-- A row is there afterwards, whatever it was before. -/
theorem Lists.alter_some (h : t.Lists k members) (added : α) (hf : ∀ row, (f row).isSome) :
    Lists (t.alter (k, added) f) k (members ++ [added]) := by
  intro a
  rw [alter_apply, List.mem_append, List.mem_singleton]
  by_cases heq : a = added
  -- the row of the added member itself, then the rows beside it
  · rw [heq, if_pos rfl]
    exact ⟨fun _ => .inr rfl, fun _ => hf _⟩
  · rw [if_neg (fun hkey => heq (congrArg Prod.snd hkey)), h a]
    exact ⟨.inl, fun hmem => hmem.resolve_right heq⟩

theorem Lists.put (h : t.Lists k members) (added v) :
    Lists (t.put (k, added) v) k (members ++ [added]) :=
  h.alter_some added fun _ => rfl

theorem Lists.insertNew (h : t.Lists k members) (added v) :
    Lists (t.insertNew (k, added) v) k (members ++ [added]) :=
  h.alter_some added fun row => by cases row <;> rfl

theorem Lists.delete (h : t.Lists k members) (removed : α) :
    Lists (t.delete (k, removed)) k (members.filter (· ≠ removed)) := by
  intro a
  rw [Table.delete, alter_apply, List.mem_filter]
  by_cases heq : a = removed
  · simp [heq]
  · rw [if_neg (fun hkey => heq (congrArg Prod.snd hkey)), h a]
    simp [heq]

end Lists

end Table

/-! ## §2. Tables with a second unique constraint -/

/-- A table whose rows differ in the column, with the index of the constraint. -/
structure UniqueTable (κ ν ι : Type) (column : ν → ι) where
  rows : Table κ ν
  index : ι → Option κ
  indexed : ∀ {i k}, index i = some k ↔ ∃ v, rows k = some v ∧ column v = i

namespace UniqueTable

variable {κ ν ι : Type} {column : ν → ι}

/-- An empty table. -/
def empty : UniqueTable κ ν ι column where
  rows _ := none
  index _ := none
  indexed := by simp

variable [DecidableEq κ]

/-- The index without the entries of a key. -/
def unindex (t : UniqueTable κ ν ι column) (k : κ) (i : ι) : Option κ :=
  if t.index i = some k then none else t.index i

theorem unindex_eq_some {t : UniqueTable κ ν ι column} :
    t.unindex k i = some k' ↔ k' ≠ k ∧ ∃ v, t.rows k' = some v ∧ column v = i := by
  rw [← t.indexed]
  unfold unindex
  split
  · next h =>
    rw [h]
    simp [eq_comm]
  · next h =>
    constructor
    · intro h'
      refine ⟨?_, h'⟩
      rintro rfl
      exact h h'
    · exact fun h' => h'.2

/-- `DELETE … WHERE key`. -/
def delete (t : UniqueTable κ ν ι column) (k : κ) : UniqueTable κ ν ι column where
  rows := t.rows.delete k
  index := t.unindex k
  indexed {i k'} := by
    rw [unindex_eq_some, Table.delete, Table.alter_apply]
    by_cases h : k' = k
    · simp [h]
    · simp [h]

/-- `UPDATE … WHERE key` of columns outside the constraint. -/
def modify (t : UniqueTable κ ν ι column) (k : κ) (f : ν → ν)
    (hf : ∀ v, column (f v) = column v) : UniqueTable κ ν ι column where
  rows := t.rows.modify k f
  index := t.index
  indexed {i k'} := by
    rw [t.indexed, Table.modify, Table.alter_apply]
    split
    · simp [hf]
    · rfl

variable [DecidableEq ι]

/-- Write a row unless another key has its value of the column. -/
def write (t : UniqueTable κ ν ι column) (k : κ) (v : ν)
    (hfree : ∀ k', t.index (column v) = some k' → k' = k) : UniqueTable κ ν ι column where
  rows := t.rows.put k v
  index i := if i = column v then some k else t.unindex k i
  indexed {i k'} := by
    rw [Table.put, Table.alter_apply]
    -- the new value points to the key; other values lose the key and keep the rest
    by_cases hi : i = column v
    · subst hi
      rw [if_pos rfl]
      by_cases hk : k' = k
      · simp [hk]
      · rw [if_neg hk, ← t.indexed]
        constructor
        · intro h
          cases h
          exact absurd rfl hk
        · exact fun h => absurd (hfree k' h) hk
    · rw [if_neg hi, unindex_eq_some]
      by_cases hk : k' = k
      · simp [hk, Ne.symm hi]
      · simp [hk]

/-- `write`, or nothing if the constraint is violated. -/
def tryWrite (t : UniqueTable κ ν ι column) (k : κ) (v : ν) : Option (UniqueTable κ ν ι column) :=
  if hfree : ∀ k' ∈ t.index (column v), k' = k then some (t.write k v hfree) else none

theorem tryWrite_free {t : UniqueTable κ ν ι column} (hfree : t.index (column v) = none) :
    ∃ t', t.tryWrite k v = some t' ∧ t'.rows = t.rows.put k v := by
  have hnone : ∀ k' ∈ t.index (column v), k' = k := by
    rw [hfree]
    intro k' hk'
    cases hk'
  exact ⟨_, dif_pos hnone, rfl⟩

end UniqueTable

end Breakdown.Tables
