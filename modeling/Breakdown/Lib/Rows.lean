/-
**TABLES THAT ARE LISTED.**

A statement finds its row by key; a query may return many rows, and then their order matters.
`RowList` is a table as the list of its rows, in the order they were inserted; it carries the proof
that no two rows have the same key.

- `rows_insertAll`: rows with keys of their own go behind the rows there;
- `insertAll_perm_iff`: rows offered to an empty table are all there exactly once if and only if no
  two of them share a key;
- `map_orderBy_eq_iff`: `ORDER BY` returns the rows as they were inserted exactly if their sort
  keys rise along the list.
-/
import Mathlib.Data.List.Nodup
import Mathlib.Data.List.Perm.Basic
import Mathlib.Data.List.Sort

namespace Breakdown.Tables

open List

/-! ## §1. Rows in the order of their insertion -/

/-- A table as the list of its rows. -/
@[ext] structure RowList (ν κ : Type) (key : ν → κ) where
  rows : List ν
  unique : (rows.map key).Nodup

namespace RowList

variable {ν κ : Type} {key : ν → κ}

/-- An empty table. -/
def empty : RowList ν κ key := ⟨[], .nil⟩

/-- `DELETE … WHERE`. -/
def deleteWhere (t : RowList ν κ key) (p : ν → Bool) : RowList ν κ key where
  rows := t.rows.filter fun row => !p row
  unique := t.unique.sublist (List.filter_sublist.map key)

variable [DecidableEq κ]

/-- `INSERT … ON CONFLICT DO NOTHING`. -/
def insertNew (t : RowList ν κ key) (row : ν) : RowList ν κ key :=
  if h : key row ∈ t.rows.map key then t
  else
    { rows := t.rows ++ [row]
      unique := by
        rw [List.map_append]
        exact t.unique.append (List.nodup_singleton _) (by simpa using h) }

/-- One such statement for each row. -/
def insertAll (t : RowList ν κ key) (new : List ν) : RowList ν κ key := new.foldl insertNew t

variable {t : RowList ν κ key}

theorem rows_insertNew (h : key row ∉ t.rows.map key) :
    (t.insertNew row).rows = t.rows ++ [row] := by
  rw [insertNew, dif_neg h]

/-- **ROWS WITH KEYS OF THEIR OWN GO BEHIND THE ROWS THERE.** -/
theorem rows_insertAll (h : ((t.rows ++ new).map key).Nodup) :
    (t.insertAll new).rows = t.rows ++ new := by
  unfold insertAll
  -- one row at a time; the rows still to come differ from those there and from each other
  induction new generalizing t with
  | nil => exact (append_nil _).symm
  | cons row new ih =>
    have hnew : key row ∉ t.rows.map key := by
      rw [map_append, map_cons] at h
      exact fun hmem => disjoint_of_nodup_append h hmem mem_cons_self
    have hrows := rows_insertNew hnew
    rw [foldl_cons, ih, hrows, append_assoc, singleton_append]
    rw [hrows, append_assoc, singleton_append]
    exact h

/-- The key is taken. -/
def holds (t : RowList ν κ key) (k : κ) : Bool := t.rows.any fun row => key row = k

theorem holds_iff : t.holds k ↔ k ∈ t.rows.map key := by
  simp [holds]

theorem insertNew_of_holds (h : t.holds (key row)) : t.insertNew row = t := by
  rw [insertNew, dif_pos (holds_iff.mp h)]

theorem mem_insertNew (h : r ∈ (t.insertNew row).rows) : r ∈ t.rows ∨ r = row := by
  by_cases hheld : key row ∈ t.rows.map key
  · rw [insertNew, dif_pos hheld] at h
    exact .inl h
  · rw [rows_insertNew hheld] at h
    simpa using h

theorem subset_insertNew (t : RowList ν κ key) (row) : t.rows ⊆ (t.insertNew row).rows := by
  by_cases hheld : key row ∈ t.rows.map key
  · rw [insertNew, dif_pos hheld]
    exact List.Subset.refl t.rows
  · rw [rows_insertNew hheld]
    exact subset_append_left t.rows [row]

theorem key_mem_insertNew (t : RowList ν κ key) (row) :
    key row ∈ (t.insertNew row).rows.map key := by
  by_cases hheld : key row ∈ t.rows.map key
  · rw [insertNew, dif_pos hheld]
    exact hheld
  · rw [rows_insertNew hheld]
    simp

theorem mem_insertAll (h : r ∈ (t.insertAll new).rows) : r ∈ t.rows ∨ r ∈ new := by
  unfold insertAll at h
  induction new generalizing t with
  | nil => exact .inl h
  | cons row new ih =>
    obtain h | h := ih h
    · obtain h | rfl := mem_insertNew h
      · exact .inl h
      · exact .inr mem_cons_self
    · exact .inr (mem_cons_of_mem _ h)

theorem subset_insertAll (t : RowList ν κ key) (new) : t.rows ⊆ (t.insertAll new).rows := by
  unfold insertAll
  induction new generalizing t with
  | nil => exact List.Subset.refl t.rows
  | cons row new ih => exact List.Subset.trans (subset_insertNew t row) (ih _)

theorem key_mem_insertAll (h : r ∈ new) : key r ∈ (t.insertAll new).rows.map key := by
  induction new generalizing t with
  | nil => cases h
  | cons row new ih =>
    obtain rfl | h := mem_cons.mp h
    · exact map_subset key (subset_insertAll (t.insertNew r) new) (key_mem_insertNew t r)
    · exact ih h

/-- **EVERY ROW EXACTLY ONCE, IF AND ONLY IF NO TWO SHARE A KEY**, in whatever order and however often the
rows are offered to an empty table. -/
theorem insertAll_perm_iff {rows} (hoffered : ∀ r, r ∈ offered ↔ r ∈ rows) :
    ((empty : RowList ν κ key).insertAll offered).rows.Perm rows ↔ (rows.map key).Nodup := by
  have hkept := ((empty : RowList ν κ key).insertAll offered).unique
  have hmem : ∀ r ∈ ((empty : RowList ν κ key).insertAll offered).rows, r ∈ rows := by
    intro r hr
    obtain hr | hr := mem_insertAll hr
    · cases hr
    · exact (hoffered r).mp hr
  constructor
  · intro hperm
    exact (hperm.map key).nodup_iff.mp hkept
  · intro hkeys
    refine (perm_ext_iff_of_nodup hkept.of_map hkeys.of_map).mpr fun r => ⟨hmem r, fun hr => ?_⟩
    -- some row with the key is kept, and it is this one
    have hkey : key r ∈ ((empty : RowList ν κ key).insertAll offered).rows.map key :=
      key_mem_insertAll ((hoffered r).mpr hr)
    obtain ⟨r', hr', hsame⟩ := mem_map.mp hkey
    rwa [← inj_on_of_nodup_map hkeys (hmem r' hr') hr hsame]

end RowList

/-! ## §2. Rows in order -/

section OrderBy

variable {ν ι α : Type} [LinearOrder ι] (sortKey : ν → ι)

/-- `ORDER BY`. -/
def orderBy (rows : List ν) : List ν := rows.insertionSort fun a b => sortKey a ≤ sortKey b

theorem orderBy_perm (rows) : (orderBy sortKey rows).Perm rows := perm_insertionSort _ rows

theorem orderBy_pairwise (rows) : (orderBy sortKey rows).Pairwise fun a b => sortKey a ≤ sortKey b := by
  have : Std.Total fun a b : ν => sortKey a ≤ sortKey b := ⟨fun a b => le_total _ _⟩
  have : IsTrans ν fun a b => sortKey a ≤ sortKey b := ⟨fun _ _ _ => le_trans⟩
  exact pairwise_insertionSort _ rows

/-- Lists of the same rows are the same if they are as seen through a column without repetitions. -/
theorem eq_of_map_eq {f : ν → α} {rows rows' : List ν} (hperm : rows'.Perm rows)
    (hnodup : (rows.map f).Nodup) (h : rows'.map f = rows.map f) : rows' = rows := by
  -- the column tells the rows apart, so equal entries at a place are equal rows
  have hinj := inj_on_of_nodup_map hnodup
  refine ext_getElem hperm.length_eq fun i hi hi' => ?_
  refine hinj (hperm.mem_iff.mp (getElem_mem hi)) (getElem_mem hi') ?_
  have hget := getElem_of_eq h (by simpa using hi)
  simpa using hget

/-- **`ORDER BY` RETURNS THE ROWS AS THEY WERE INSERTED EXACTLY IF THEY ARE SORTED.** -/
theorem map_orderBy_eq_iff {f : ν → α} {rows : List ν} (hnodup : (rows.map f).Nodup) :
    (orderBy sortKey rows).map f = rows.map f ↔ rows.Pairwise fun a b => sortKey a ≤ sortKey b := by
  constructor
  · intro h
    rw [← eq_of_map_eq (orderBy_perm sortKey rows) hnodup h]
    exact orderBy_pairwise sortKey rows
  · intro h
    rw [orderBy, h.insertionSort_eq]

variable {sortKey} in
/-- Sorting by a key that tells the rows apart forgets their order. -/
theorem orderBy_eq_of_perm {name : ν → α} (hname : ∀ {a b}, sortKey a = sortKey b → name a = name b)
    (hnodup : (rows.map name).Nodup) (hperm : rows'.Perm rows) :
    orderBy sortKey rows' = orderBy sortKey rows := by
  have hsorted := (orderBy_perm sortKey rows').trans (hperm.trans (orderBy_perm sortKey rows).symm)
  refine hsorted.eq_of_pairwise ?_ (orderBy_pairwise sortKey rows') (orderBy_pairwise sortKey rows)
  intro a b ha hb hab hba
  have ha' := hperm.mem_iff.mp ((orderBy_perm sortKey rows').mem_iff.mp ha)
  have hb' := (orderBy_perm sortKey rows).mem_iff.mp hb
  exact inj_on_of_nodup_map hnodup ha' hb' (hname (le_antisymm hab hba))

end OrderBy

end Breakdown.Tables
