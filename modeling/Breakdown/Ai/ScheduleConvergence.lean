/-
**DOES A STOPPED SCHEDULE APPLY CONVERGE?**

A run that was stopped anywhere is called again with the same stored preview. The mapping table
makes it skip what is confirmed and drive on what is reserved; but the scene versions come from the
preview. A scene the stopped run has already linked to a day is past its version, so the retry is
refused as soon as one of the scene's pairs is still open.

- `wp_applyRow`: one row of the loop, from any store the invariant holds in;
- `wp_apply`: the call succeeds EXACTLY when the store is `Retryable`, and then it settles
  every pair;
- `schedule_apply_converges`: the same for the call after a stopped run;
- `schedule_apply_converges_stopped`: a run stopped between two scenes, and its retry;
- `linked_scene_blocks_retry`: a run stopped right after it linked a scene.
-/
import Breakdown.Ai.ScheduleInvariant
import Mathlib.Data.List.Induction
import Mathlib.Tactic.Tauto

namespace Breakdown.Ai

open EventLog Stepwise Reservations List Function

/-! ## §1. What is still to do -/

section Pending

variable (env : ApplyEnv) (req : ScheduleApplyRequest) (s : Store)

/-- The rows whose pair is neither confirmed nor seen before. -/
def pendingRows : (seen : List ScenePair) → List ScheduledRow → List ScheduledRow
  | _, [] => []
  | seen, item :: rest =>
    if rowPair env req item ∈ seen ∨ PairConfirmed req s (rowPair env req item) then
      pendingRows (rowPair env req item :: seen) rest
    else item :: pendingRows (rowPair env req item :: seen) rest

/-- The rows a run has to work on. -/
def pending : List ScheduledRow := pendingRows env req s [] req.preview.rows

/-- Rows that have to draw a fallback order. -/
def unordered (rows : List ScheduledRow) : Nat := rows.countP (·.2.order.isNone)

/-- **WHEN A CALL SUCCEEDS**: the preview passes the gate, every scene that still has work is alive
at the version the preview recorded, and there are orders enough. -/
structure Retryable : Prop where
  gate : ensureMergeApplyable req.preview = .ok ()
  scenes : ∀ item ∈ pending env req s, SceneReady s item.1.id item.1.version
  orders : maxSuppliedOrder req.preview.rows + unordered (pending env req s) ≤ u32Max

variable {env req s}

theorem pendingRows_concat (seen done item) :
    pendingRows env req s seen (done ++ [item]) = pendingRows env req s seen done ++
      if (rowPair env req item ∈ seen ∨ rowPair env req item ∈ done.map (rowPair env req)) ∨
        PairConfirmed req s (rowPair env req item) then [] else [item] := by
  induction done generalizing seen with
  | nil => simp [pendingRows]
  | cons first rest ih =>
    have hseen : (rowPair env req item ∈ rowPair env req first :: seen ∨
        rowPair env req item ∈ rest.map (rowPair env req)) ↔
        (rowPair env req item ∈ seen ∨
          rowPair env req item ∈ (first :: rest).map (rowPair env req)) := by
      simp only [mem_cons, map_cons]
      tauto
    rw [cons_append, pendingRows, pendingRows]
    split
    · rw [ih]
      simp only [hseen]
    · rw [ih, cons_append]
      simp only [hseen]

theorem mem_of_mem_pendingRows (h : item ∈ pendingRows env req s seen rows) : item ∈ rows := by
  induction rows generalizing seen with
  | nil => cases h
  | cons first rest ih =>
    rw [pendingRows] at h
    split at h
    · exact mem_cons_of_mem _ (ih h)
    · rcases mem_cons.mp h with rfl | h
      · exact mem_cons_self
      · exact mem_cons_of_mem _ (ih h)

end Pending

/-! ## §2. The versions a run starts with -/

/-- A scene has one version in a preview, however often it is listed. -/
def VersionsAgree (preview : MergedPreview) : Prop :=
  ∀ m ∈ preview.scenes, ∀ m' ∈ preview.scenes, m.scene.id = m'.scene.id →
    m.scene.version = m'.scene.version

theorem foldl_versions (scenes : List MergedScene) (versions : Uuid → Option AggregateVersion)
    (hm : m ∈ scenes) : ∃ m' ∈ scenes, m'.scene.id = m.scene.id ∧
      scenes.foldl recordVersion versions m.scene.id = some m'.scene.version := by
  induction scenes using reverseRecOn with
  | nil => cases hm
  | append_singleton rest last ih =>
    rw [foldl_append, foldl_cons, foldl_nil, recordVersion]
    by_cases hlast : m.scene.id = last.scene.id
    · refine ⟨last, by simp, hlast.symm, ?_⟩
      rw [hlast, update_self]
    · rw [update_of_ne hlast]
      have hrest : m ∈ rest := by
        rcases mem_append.mp hm with h | h
        · exact h
        · rw [mem_singleton.mp h] at hlast
          exact absurd rfl hlast
      obtain ⟨m', hm', hid, hversion⟩ := ih hrest
      exact ⟨m', mem_append_left _ hm', hid, hversion⟩

theorem mem_rows {preview : MergedPreview} (h : item ∈ preview.rows) :
    ∃ m ∈ preview.scenes, m.scene = item.1 := by
  obtain ⟨m, hm, hitem⟩ := mem_flatMap.mp h
  obtain ⟨row, -, rfl⟩ := mem_map.mp hitem
  exact ⟨m, hm, rfl⟩

/-- The loop starts with the preview's version of every scene. -/
theorem startLocals_version {preview : MergedPreview} (hagree : VersionsAgree preview)
    (h : item ∈ preview.rows) :
    (startLocals preview).sceneVersions item.1.id = some item.1.version := by
  obtain ⟨m, hm, hscene⟩ := mem_rows h
  obtain ⟨m', hm', hid, hversion⟩ := foldl_versions preview.scenes (fun _ => none) hm
  rw [hagree m' hm' m hm hid, hscene] at hversion
  exact hversion

/-! ## §3. The loop -/

section Loop

variable {env : ApplyEnv} {req : ScheduleApplyRequest} {initial start s : Store}

/-- What holds of the rows worked off so far, for a run that began in `start`. -/
structure LoopInv (env : ApplyEnv) (req : ScheduleApplyRequest) (initial start : Store)
    (done : List ScheduledRow) (locals : ApplyLocals) (s : Store) : Prop where
  inv : Inv env req initial s
  confirmed : ∀ p ∈ pairs env req, PairConfirmed req s p ↔
    PairConfirmed req start p ∨ p ∈ done.map (rowPair env req)
  dayByKey : ∀ ref day, locals.dayByKey ref = some day →
    day.id = ⟨env.deriveId (dayKey req.previewId ref)⟩ ∧ s.days day.id ≠ []
  /-- A scene without pending rows so far is as it was. -/
  untouched : ∀ id, (∀ item ∈ pendingRows env req start [] done, item.1.id ≠ id) →
    s.scenes id = start.scenes id ∧
      locals.sceneVersions id = (startLocals req.preview).sceneVersions id
  /-- Of every other scene the run knows the version. -/
  touched : ∀ item ∈ pendingRows env req start [] done,
    locals.sceneVersions item.1.id = some (s.scenes item.1.id).length ∧
      SceneReady s item.1.id (s.scenes item.1.id).length
  fallback : locals.fallbackOrder =
    maxSuppliedOrder req.preview.rows + unordered (pendingRows env req start [] done)

/-- The rows worked off so far had what they needed. -/
structure ReadyFor (env : ApplyEnv) (req : ScheduleApplyRequest) (start : Store)
    (done : List ScheduledRow) : Prop where
  scenes : ∀ item ∈ pendingRows env req start [] done, SceneReady start item.1.id item.1.version
  orders : maxSuppliedOrder req.preview.rows + unordered (pendingRows env req start [] done) ≤
    u32Max

variable {done : List ScheduledRow} {item : ScheduledRow} {locals : ApplyLocals}

theorem ReadyFor.of_concat (h : ReadyFor env req start (done ++ [item])) :
    ReadyFor env req start done := by
  obtain ⟨hscenes, horders⟩ := h
  rw [pendingRows_concat] at hscenes horders
  refine ⟨fun item hitem => hscenes item (mem_append_left _ hitem), ?_⟩
  rw [unordered, countP_append] at horders
  unfold unordered
  omega

theorem PairConfirmed.congr
    (h : t.mappings (pairKey req.previewId p.1 p.2) = s.mappings (pairKey req.previewId p.1 p.2)) :
    PairConfirmed req t p ↔ PairConfirmed req s p := by
  unfold PairConfirmed MappingTable.Confirmed
  rw [h]

section

variable (h : LoopInv env req initial start done locals s)
include h

/-- Resolving the day of a row works off nothing yet. -/
theorem LoopInv.resolved (hinv : Inv env req initial t) (hday : DayResolved env req ref s t day)
    (hdays : locals'.dayByKey = update locals.dayByKey ref (some day))
    (hversions : locals'.sceneVersions = locals.sceneVersions)
    (hfallback : locals'.fallbackOrder = locals.fallbackOrder) :
    LoopInv env req initial start done locals' t where
  inv := hinv
  confirmed p hp := (PairConfirmed.congr (hday.pairRows p)).trans (h.confirmed p hp)
  dayByKey ref' day' hday' := by
    rw [hdays] at hday'
    by_cases href : ref' = ref
    · subst href
      rw [update_self] at hday'
      cases hday'
      exact ⟨hday.id, hday.created⟩
    · rw [update_of_ne href] at hday'
      obtain ⟨hid, hcreated⟩ := h.dayByKey ref' day' hday'
      exact ⟨hid, hday.days _ hcreated⟩
  untouched id hid := by
    rw [hday.scenes, hversions]
    exact h.untouched id hid
  touched item hitem := by
    obtain ⟨hversion, hready⟩ := h.touched item hitem
    rw [hday.scenes, hversions]
    refine ⟨hversion, ?_⟩
    obtain ⟨-, hexists, halive⟩ := hready
    exact ⟨by rw [hday.scenes], hexists, by rwa [hday.scenes]⟩
  fallback := hfallback.trans h.fallback

theorem wp_rowDay (item) :
    wp (Inv env req initial) (rowDay env req locals item) (fun r t => ∃ day locals',
      r = .ok (day, locals') ∧ day.id = rowDayId env req item ∧ t.days day.id ≠ [] ∧
        LoopInv env req initial start done locals' t) s := by
  cases hday : locals.dayByKey (dayRef env item.1 item.2) with
  | some day =>
    obtain ⟨hid, hcreated⟩ := h.dayByKey _ day hday
    simp only [rowDay, hday, wp_pure]
    exact ⟨day, locals, rfl, hid, hcreated, h⟩
  | none =>
    simp only [rowDay, hday, wp_bind]
    refine wp_mono (wp_and_inv (wp_resolveDay h.inv _ rfl) h.inv) ?_
    rintro r t ⟨⟨day, rfl, hresolved⟩, hinv⟩
    simp only [wp_pure]
    exact ⟨day, _, rfl, hresolved.id, hresolved.created, h.resolved hinv hresolved rfl rfl rfl⟩

/-- A confirmed pair is skipped. -/
theorem LoopInv.pendingRows_skip (hitem : rowPair env req item ∈ pairs env req)
    (hconfirmed : PairConfirmed req s (rowPair env req item)) :
    pendingRows env req start [] (done ++ [item]) = pendingRows env req start [] done := by
  have hdone := (h.confirmed _ hitem).mp hconfirmed
  rw [pendingRows_concat, if_pos, append_nil]
  rcases hdone with hstart | hdone
  · exact .inr hstart
  · exact .inl (.inr hdone)

/-- An open pair is pending. -/
theorem LoopInv.pendingRows_open (hitem : rowPair env req item ∈ pairs env req)
    (hopen : ¬ PairConfirmed req s (rowPair env req item)) :
    pendingRows env req start [] (done ++ [item]) = pendingRows env req start [] done ++ [item] := by
  rw [h.confirmed _ hitem, not_or] at hopen
  rw [pendingRows_concat, if_neg]
  rintro ((hnil | hdone) | hstart)
  · cases hnil
  · exact hopen.2 hdone
  · exact hopen.1 hstart

end

theorem mem_map_concat : p ∈ (done ++ [item]).map (rowPair env req) ↔
      p ∈ done.map (rowPair env req) ∨ p = rowPair env req item := by
  simp

theorem LoopInv.skip (h : LoopInv env req initial start done locals s)
    (hitem : rowPair env req item ∈ pairs env req)
    (hconfirmed : PairConfirmed req s (rowPair env req item)) :
    LoopInv env req initial start (done ++ [item]) locals s where
  inv := h.inv
  confirmed p hp := by
    rw [mem_map_concat, ← or_assoc, ← h.confirmed p hp]
    constructor
    · exact .inl
    · rintro (hp' | rfl)
      · exact hp'
      · exact hconfirmed
  dayByKey := h.dayByKey
  untouched := by
    rw [h.pendingRows_skip hitem hconfirmed]
    exact h.untouched
  touched := by
    rw [h.pendingRows_skip hitem hconfirmed]
    exact h.touched
  fallback := by
    rw [h.pendingRows_skip hitem hconfirmed]
    exact h.fallback

theorem unordered_concat (rows item base) :
    base + unordered (rows ++ [item]) = nextFallback (base + unordered rows) item.2 := by
  unfold unordered nextFallback
  rw [countP_append]
  cases horder : item.2.order <;> simp [horder, Nat.add_assoc]

/-- A planned pair is worked off. -/
theorem LoopInv.planned (h : LoopInv env req initial start done locals s)
    (hitem : rowPair env req item ∈ pairs env req)
    (hopen : ¬ PairConfirmed req s (rowPair env req item)) (hinv : Inv env req initial t)
    (hplanned : PairPlanned env req s t locals locals' (rowPair env req item) item.2) :
    LoopInv env req initial start (done ++ [item]) locals' t where
  inv := hinv
  confirmed p hp := by
    rw [mem_map_concat, ← or_assoc, ← h.confirmed p hp]
    by_cases hpi : p = rowPair env req item
    · subst hpi
      exact iff_of_true hplanned.confirmed (.inr rfl)
    · rw [PairConfirmed.congr (hplanned.otherRows p hp hpi)]
      exact (or_iff_left hpi).symm
  dayByKey ref day hday := by
    rw [hplanned.dayByKey] at hday
    rw [hplanned.days]
    exact h.dayByKey ref day hday
  untouched id hid := by
    rw [h.pendingRows_open hitem hopen] at hid
    have hne : id ≠ (rowPair env req item).1 := (hid item (by simp)).symm
    rw [hplanned.otherScenes id hne, hplanned.versions, update_of_ne hne]
    exact h.untouched id fun other hother => hid other (mem_append_left _ hother)
  touched other hother := by
    rw [h.pendingRows_open hitem hopen] at hother
    by_cases hid : other.1.id = (rowPair env req item).1
    · rw [hplanned.versions, hid, update_self]
      exact ⟨rfl, hplanned.ready⟩
    · have hdone : other ∈ pendingRows env req start [] done := by
        rcases mem_append.mp hother with hdone | hlast
        · exact hdone
        · rw [mem_singleton.mp hlast] at hid
          exact absurd rfl hid
      obtain ⟨hversion, hready⟩ := h.touched other hdone
      rw [hplanned.versions, update_of_ne hid, hplanned.otherScenes _ hid]
      obtain ⟨-, hexists, halive⟩ := hready
      exact ⟨hversion, by rw [hplanned.otherScenes _ hid], hexists,
        by rwa [hplanned.otherScenes _ hid]⟩
  fallback := by
    rw [h.pendingRows_open hitem hopen, unordered_concat, ← h.fallback]
    exact hplanned.fallback

/-- The worker has a version for the scene of the next row, and the scene is ready for it exactly
when it was ready in the store the run began with. -/
theorem LoopInv.version (h : LoopInv env req initial start done locals s)
    (hagree : VersionsAgree req.preview) (hdone : ∀ other ∈ done, other ∈ req.preview.rows)
    (hitem : item ∈ req.preview.rows) (hready : ReadyFor env req start done) :
    ∃ version, locals.sceneVersions item.1.id = some version ∧
      (SceneReady s item.1.id version ↔ SceneReady start item.1.id item.1.version) := by
  by_cases htouched : ∃ other ∈ pendingRows env req start [] done, other.1.id = item.1.id
  · -- linked by this run: its version is known, and it was ready for the earlier row
    obtain ⟨other, hother, hid⟩ := htouched
    obtain ⟨hversion, hnow⟩ := h.touched other hother
    have hbefore := hready.scenes other hother
    obtain ⟨m, hm, hscene⟩ := mem_rows hitem
    obtain ⟨m', hm', hscene'⟩ := mem_rows (hdone other (mem_of_mem_pendingRows hother))
    have hsame : other.1.version = item.1.version := by
      rw [← hscene, ← hscene']
      exact hagree m' hm' m hm (by rw [hscene, hscene', hid])
    rw [hid] at hversion hnow hbefore
    rw [hsame] at hbefore
    exact ⟨_, hversion, iff_of_true hnow hbefore⟩
  · have hfresh : ∀ other ∈ pendingRows env req start [] done, other.1.id ≠ item.1.id :=
      fun other hother hid => htouched ⟨other, hother, hid⟩
    obtain ⟨hscenes, hversions⟩ := h.untouched item.1.id hfresh
    refine ⟨item.1.version, hversions.trans (startLocals_version hagree hitem), ?_⟩
    constructor
    · rintro ⟨hcurrent, hexists, halive⟩
      exact ⟨hscenes ▸ hcurrent, hexists, hscenes ▸ halive⟩
    · rintro ⟨hcurrent, hexists, halive⟩
      exact ⟨hscenes.symm ▸ hcurrent, hexists, hscenes.symm ▸ halive⟩

/-- How far the loop got: worked off and ready, or failed because something was not ready. -/
def LoopState (env : ApplyEnv) (req : ScheduleApplyRequest) (initial start : Store)
    (done : List ScheduledRow) (r : Except DomainError ApplyLocals) (s : Store) : Prop :=
  match r with
  | .ok locals => LoopInv env req initial start done locals s ∧ ReadyFor env req start done
  | .error _ => ¬ ReadyFor env req start done

/-- What the next open row needs is what the longer list of rows needs. -/
theorem LoopInv.ready_iff {version} (h : LoopInv env req initial start done locals s)
    (hitem : rowPair env req item ∈ pairs env req)
    (hopen : ¬ PairConfirmed req s (rowPair env req item)) (hready : ReadyFor env req start done)
    (hversion : SceneReady s item.1.id version ↔ SceneReady start item.1.id item.1.version) :
    (OrderFits locals.fallbackOrder item.2 ∧ SceneReady s item.1.id version) ↔
      ReadyFor env req start (done ++ [item]) := by
  have hpending := h.pendingRows_open hitem hopen
  have horders : nextFallback locals.fallbackOrder item.2 = maxSuppliedOrder req.preview.rows +
      unordered (pendingRows env req start [] (done ++ [item])) := by
    rw [hpending, unordered_concat, h.fallback]
  unfold OrderFits
  rw [horders, hversion]
  constructor
  · rintro ⟨hfits, hscene⟩
    refine ⟨?_, hfits⟩
    rw [hpending]
    intro other hother
    rcases mem_append.mp hother with hother | hother
    · exact hready.scenes other hother
    · rw [mem_singleton.mp hother]
      exact hscene
  · intro hall
    refine ⟨hall.orders, hall.scenes item ?_⟩
    rw [hpending]
    exact mem_append_right _ (mem_singleton_self _)

/-- **ONE ROW**: skipped when its pair is confirmed, planned when it is open and ready, and the end
of the run otherwise. -/
theorem wp_applyRow (hfree : CollisionFree env req) (hagree : VersionsAgree req.preview)
    (hall : req.preview.rows = done ++ item :: rest) (h : LoopInv env req initial start done locals s)
    (hready : ReadyFor env req start done) : wp (Inv env req initial) (applyRow env req locals item)
      (LoopState env req initial start (done ++ [item])) s := by
  have hmem : item ∈ req.preview.rows := by simp [hall]
  have hdone : ∀ other ∈ done, other ∈ req.preview.rows := by
    intro other hother
    rw [hall]
    exact mem_append_left _ hother
  have hitem : rowPair env req item ∈ pairs env req := mem_map_of_mem hmem
  unfold applyRow
  rw [wp_bind]
  refine wp_mono (wp_and_inv (wp_rowDay h item) h.inv) ?_
  rintro r t ⟨⟨day, locals', rfl, hid, hcreated, hloop⟩, -⟩
  have hpair : (item.1.id, day.id) = rowPair env req item := by rw [hid]; rfl
  simp only [findMapping, wp_bind, wp_read]
  by_cases hconfirmed : PairConfirmed req t (item.1.id, day.id)
  · rw [if_pos (MappingTable.find_any_iff.mpr hconfirmed), wp_pure]
    rw [hpair] at hconfirmed
    refine ⟨hloop.skip hitem hconfirmed, ?_⟩
    have hsame := hloop.pendingRows_skip hitem hconfirmed
    exact ⟨by rw [hsame]; exact hready.scenes, by rw [hsame]; exact hready.orders⟩
  · rw [if_neg (mt MappingTable.find_any_iff.mp hconfirmed)]
    obtain ⟨version, hversion, hscene⟩ := hloop.version hagree hdone hmem hready
    have hbound : locals'.fallbackOrder ≤ u32Max := by
      rw [hloop.fallback]
      exact hready.orders
    refine wp_mono (wp_and_inv (wp_planPair hloop.inv hfree (hpair ▸ hitem) hcreated hconfirmed
      hversion hbound) hloop.inv) ?_
    rw [hpair] at hconfirmed
    have hiff := hloop.ready_iff hitem hconfirmed hready hscene
    rintro r t' ⟨hr, hinv⟩
    cases r with
    | ok =>
      obtain ⟨hneeds, hplanned⟩ := hr
      rw [hpair] at hplanned
      exact ⟨hloop.planned hitem hconfirmed hinv hplanned, hiff.mp hneeds⟩
    | error => exact fun hreadyAll => hr (hiff.mpr hreadyAll)

theorem LoopInv.nil (h : Inv env req initial start) :
    LoopInv env req initial start [] (startLocals req.preview) start where
  inv := h
  confirmed p _ := by simp
  dayByKey ref day hday := by cases hday
  untouched id _ := ⟨rfl, rfl⟩
  touched item hitem := by cases hitem
  fallback := rfl

theorem maxSuppliedOrder_le (rows) : maxSuppliedOrder rows ≤ u32Max := by
  suffices hfold : ∀ (orders : List UInt32) (highest : Nat), highest ≤ u32Max →
      orders.foldl (fun highest order => max highest order.toNat) highest ≤ u32Max from
    hfold _ 0 (Nat.zero_le _)
  intro orders
  induction orders with
  | nil => exact fun _ h => h
  | cons order rest ih =>
    intro highest h
    exact ih _ (max_le h (Nat.le_pred_of_lt order.toNat_lt))

/-- How a call ended: every pair settled, or refused because the store was not retryable. -/
def CallState (env : ApplyEnv) (req : ScheduleApplyRequest) (start : Store)
    (r : Except DomainError ScheduleApplyResult) (s : Store) : Prop :=
  match r with
  | .ok _ => Retryable env req start ∧ ∀ p ∈ pairs env req, Settled env req s p
  | .error _ => ¬ Retryable env req start

/-- **A CALL SUCCEEDS EXACTLY WHEN THE STORE IS RETRYABLE**, and then every pair is settled. -/
theorem wp_apply (hfree : CollisionFree env req) (hagree : VersionsAgree req.preview)
    (h : Inv env req initial start) :
    wp (Inv env req initial) (apply env req) (CallState env req start) start := by
  unfold apply
  simp only [wp_bind, wp_ofExcept, mergeGate]
  cases hgate : ensureMergeApplyable req.preview with
  | error =>
    intro hretry
    cases hgate.symm.trans hretry.gate
  | ok =>
    refine wp_mono (wp_foldM (LoopState env req initial start) ?step ?fail ?start) ?_
    case step =>
      rintro done item rest locals t hall ⟨hloop, hready⟩
      exact wp_applyRow hfree hagree hall hloop hready
    case fail =>
      intro done item e t hnot hready
      exact hnot hready.of_concat
    case start =>
      refine ⟨LoopInv.nil h, ?_, maxSuppliedOrder_le _⟩
      intro item hitem
      cases hitem
    rintro r t hstate
    cases r with
    | error => exact fun hretry => hstate ⟨hretry.scenes, hretry.orders⟩
    | ok =>
      obtain ⟨hloop, hready⟩ := hstate
      simp only [wp_pure]
      refine ⟨⟨hgate, hready.scenes, hready.orders⟩, ?_⟩
      intro p hp
      -- the loop is through, so the pair of every row is confirmed
      obtain ⟨mapping, hmapping, hconfirmed⟩ := (hloop.confirmed p hp).mpr (.inr hp)
      exact (hloop.inv.pairRows p hp mapping hmapping).2 hconfirmed

end Loop

/-! ## §4. Convergence -/

/-- The scene shoot is one of the pair, and was not deleted. -/
structure ShootOf (s : Store) (p : ScenePair) (id : SceneShootId) : Prop where
  exists_ : s.shoots id ≠ []
  scene : (Entity.replay SceneShootAggregate (s.shoots id)).sceneId = p.1
  day : (Entity.replay SceneShootAggregate (s.shoots id)).shootingDayId = p.2
  alive : (Entity.replay SceneShootAggregate (s.shoots id)).deleted = false

/-- **WHAT AN APPLY IS FOR**: every row's scene links the row's day, the day exists, and the pair
has exactly one scene shoot, which is planned. -/
def Converged (env : ApplyEnv) (req : ScheduleApplyRequest) (s : Store) : Prop :=
  ∀ item ∈ req.preview.rows,
    Linked s (rowPair env req item) ∧ s.days (rowPair env req item).2 ≠ [] ∧
      ∃ id, ShootOf s (rowPair env req item) id ∧
        (Entity.replay SceneShootAggregate (s.shoots id)).status = .planned ∧
        ∀ other, ShootOf s (rowPair env req item) other → other = id

/-- No run for this preview has written anything yet, and nothing was planned on its days. -/
structure FreshFor (env : ApplyEnv) (req : ScheduleApplyRequest) (s : Store) : Prop where
  mappings : ∀ key, key.previewId = req.previewId → s.mappings key = none
  shoots : ∀ p ∈ pairs env req, s.shoots (shootId env req p) = []
  claims : ∀ p ∈ pairs env req, s.claims (claimKey env p) = []
  unplanned : ∀ p ∈ pairs env req, ∀ id, ¬ ShootOf s p id

/-- Every listed scene is exactly at the version the preview records. -/
def AtVersions (preview : MergedPreview) (s : Store) : Prop :=
  ∀ m ∈ preview.scenes, (s.scenes m.scene.id).length = m.scene.version ∧
    Numbered (s.scenes m.scene.id)

section Convergence

variable {env : ApplyEnv} {req : ScheduleApplyRequest} {initial s : Store}

theorem AtVersions.agree (h : AtVersions preview s) : VersionsAgree preview := by
  intro m hm m' hm' hid
  rw [← (h m hm).1, ← (h m' hm').1, hid]

theorem FreshFor.inv (h : FreshFor env req s) (hversions : AtVersions req.preview s) :
    Inv env req s s where
  dayRows ref mapping hmapping := by
    rw [h.mappings _ rfl] at hmapping
    cases hmapping
  pairRows p _ mapping hmapping := by
    rw [h.mappings _ rfl] at hmapping
    cases hmapping
  shoots p hp := .inl (h.shoots p hp)
  claims p hp := .inl (h.claims p hp)
  others _ _ := rfl
  scenes p hp := by
    obtain ⟨item, hitem, rfl⟩ := mem_map.mp hp
    obtain ⟨m, hm, hscene⟩ := mem_rows hitem
    show Numbered (s.scenes item.1.id)
    rw [← hscene]
    exact (hversions m hm).2

/-- A planned pair has its own scene shoot. -/
theorem Planned.shootOf (h : Planned env req s p) : ShootOf s p (shootId env req p) ∧
      (Entity.replay SceneShootAggregate (s.shoots (shootId env req p))).status = .planned := by
  obtain ⟨order, hlog⟩ := h
  exact ⟨⟨by simp [hlog], by rw [hlog]; rfl, by rw [hlog]; rfl, by rw [hlog]; rfl⟩,
    by rw [hlog]; rfl⟩

/-- Nothing but its own scene shoot is one of the pair. -/
theorem Inv.shootOf_unique (h : Inv env req initial s) (hfresh : FreshFor env req initial) {id}
    (hp : p ∈ pairs env req) (hshoot : ShootOf s p id) : id = shootId env req p := by
  by_cases hderived : ∃ q ∈ pairs env req, id = shootId env req q
  · obtain ⟨q, hq, rfl⟩ := hderived
    rcases h.shoots q hq with hnil | hplanned
    · exact absurd hnil hshoot.exists_
    · obtain ⟨hown, -⟩ := hplanned.shootOf
      have hpq : q = p := Prod.ext (hown.scene.symm.trans hshoot.scene)
        (hown.day.symm.trans hshoot.day)
      rw [hpq]
  · have hother := h.others id fun q hq hid => hderived ⟨q, hq, hid⟩
    refine absurd ?_ (hfresh.unplanned p hp id)
    exact ⟨hother ▸ hshoot.exists_, hother ▸ hshoot.scene, hother ▸ hshoot.day,
      hother ▸ hshoot.alive⟩

/-- **A STOPPED APPLY CONVERGES EXACTLY WHEN ITS STORE IS RETRYABLE.** `stopped` is any store
the first run can be stopped in; the second run is not interrupted. -/
theorem schedule_apply_converges (hfree : CollisionFree env req) (hfresh : FreshFor env req initial)
    (hversions : AtVersions req.preview initial) {stopped : Store}
    (hstopped : stopped ∈ (apply env req).stops initial) :
    ((∃ result, (apply env req stopped).result = .ok result) ∧
        Converged env req ((apply env req).store stopped)) ↔ Retryable env req stopped := by
  have hstart := hfresh.inv hversions
  have hinv := stops_of_wp (wp_apply hfree hversions.agree hstart) hstart stopped hstopped
  obtain ⟨hend, hfinal⟩ := wp_and_inv (wp_apply hfree hversions.agree hinv) hinv
  cases hresult : (apply env req stopped).result with
  | error =>
    rw [hresult] at hfinal
    constructor
    · rintro ⟨⟨result, hok⟩, -⟩
      cases hok
    · exact fun hretry => absurd hretry hfinal.1
  | ok result =>
    rw [hresult] at hfinal
    obtain ⟨⟨hretry, hsettled⟩, hinv'⟩ := hfinal
    refine ⟨fun _ => hretry, fun _ => ⟨⟨result, rfl⟩, ?_⟩⟩
    intro item hitem
    have hp : rowPair env req item ∈ pairs env req := mem_map_of_mem hitem
    obtain ⟨hlinked, hcreated, hplanned⟩ := hsettled _ hp
    obtain ⟨hshoot, hstatus⟩ := hplanned.shootOf
    exact ⟨hlinked, hcreated, _, hshoot, hstatus, fun other hother =>
      hinv'.shootOf_unique hfresh hp hother⟩

end Convergence

/-! ## §5. Two small previews -/

/-- A digest for short texts. -/
def textDigest (text : String) : Nat := text.toList.foldl (fun h c => h * 131 + c.toNat) 7

def smallEnv : ApplyEnv where
  deriveId key := ⟨BitVec.ofNat 128 (textDigest key.draftRef)⟩
  pairHash a b := BitVec.ofNat 96 (a.asU128.toNat * 1009 + b.asU128.toNat)
  renderDate _ := ""
  now := 0

/-- Scenes 1 and 2, freshly created. -/
def smallStore : Store where
  scenes id := if id = 1 ∨ id = 2 then [.sceneCreated id ⟨9⟩ {} [] .manual .initial] else []
  days _ := []
  shoots _ := []
  claims _ := []
  mappings _ := none

/-- A schedule with the given scenes, all on one day. -/
def oneDay (scenes : List Uuid) : ScheduleApplyRequest where
  previewId := ⟨5⟩
  preview := { scenes := scenes.map fun id => ⟨⟨id, ⟨9⟩, 1⟩, [⟨some "Tag 1", none, none⟩]⟩ }

theorem smallStore_fresh (req) : FreshFor smallEnv req smallStore where
  mappings _ _ := rfl
  shoots _ _ := rfl
  claims _ _ := rfl
  unplanned _ _ _ h := h.exists_ rfl

instance (log : List SceneEvent) : Decidable (Numbered log) := inferInstanceAs (Decidable (_ = _))

instance (preview : MergedPreview) (s : Store) : Decidable (AtVersions preview s) :=
  inferInstanceAs (Decidable (∀ m ∈ preview.scenes, _))

/-- Both scenes are scheduled; the run is stopped after it confirmed the first one. -/
theorem schedule_apply_converges_stopped :
    ∃ stopped ∈ (apply smallEnv (oneDay [1, 2])).stops smallStore,
      stopped.mappings.Confirmed (pairKey ⟨5⟩ 1 (rowDayId smallEnv (oneDay [1, 2])
        (⟨1, ⟨9⟩, 1⟩, ⟨some "Tag 1", none, none⟩))) ∧
      (∃ result, (apply smallEnv (oneDay [1, 2]) stopped).result = .ok result) ∧
      Converged smallEnv (oneDay [1, 2]) ((apply smallEnv (oneDay [1, 2])).store stopped) := by
  have hfree : CollisionFree smallEnv (oneDay [1, 2]) := ⟨by decide +kernel, by decide +kernel⟩
  have hversions : AtVersions (oneDay [1, 2]).preview smallStore := by decide +kernel
  have hretry : Retryable smallEnv (oneDay [1, 2])
      ((apply smallEnv (oneDay [1, 2])).after smallStore 8) :=
    ⟨rfl, by decide +kernel, by decide +kernel⟩
  exact ⟨_, after_mem_stops _ _ 8, by decide +kernel,
    (schedule_apply_converges hfree (smallStore_fresh _) hversions (after_mem_stops ..)).mpr hretry⟩

/-- One scene, one row. Uninterrupted, the apply succeeds. Stopped right after the scene was linked
to its day, every retry is refused: the preview still says version 1, the stream is at 2. -/
theorem linked_scene_blocks_retry :
    CollisionFree smallEnv (oneDay [1]) ∧ FreshFor smallEnv (oneDay [1]) smallStore ∧
      AtVersions (oneDay [1]).preview smallStore ∧
      (apply smallEnv (oneDay [1]) smallStore).result = .ok ⟨1, 1⟩ ∧
      ∃ stopped ∈ (apply smallEnv (oneDay [1])).stops smallStore,
        (apply smallEnv (oneDay [1]) stopped).result = .error (.versionConflict 0 2) := by
  refine ⟨⟨by decide +kernel, by decide +kernel⟩, smallStore_fresh _, by decide +kernel,
    by decide +kernel, _, after_mem_stops _ _ 5, by decide +kernel⟩

end Breakdown.Ai
