/-
**THE PARTS OF THE SCRIPT WORKER THAT LINK NOTHING.**

The outfit chain, the episodes and the days only have to keep the invariant among others. Each of
their functions does because its ports do: what they create carries the id derived for its row, and
the rows they confirm are the ones they found or reserved.

- `Kept`, `Grants`: what is said about a program of the worker;
- `kept_applyOutfit`, `kept_createEpisodeReserved`, `kept_resolveDay`: the parts.
-/
import Breakdown.Ai.ScriptInvariant

namespace Breakdown.Ai

open EventLog Stepwise Reservations List MappingKind

/-! ## §1. Programs that keep the invariant -/

section Walk

variable (env : ScriptEnv) (req : ApplyScriptRequest)

/-- A program that keeps the invariant of the request's preview, wherever it is started. -/
abbrev Kept {α : Type} (x : Script α) : Prop := Safe (ScriptInv env.deriveId req.previewId) Later x

/-- …and if it succeeds from `w`, then with `Q`. -/
abbrev Grants {α : Type} (x : Script α) (Q : α → ScriptStore → Prop) (w : ScriptStore) : Prop :=
  wpiOk (ScriptInv env.deriveId req.previewId) Later x Q w

/-- A row of a derived kind that a function got hold of, the rows of pairs apart. -/
structure HeldRow (m : AiImportMapping) : Prop where
  kind : m.key.aggregateKind.isDerived
  shoot : m.key.aggregateKind ≠ .sceneShoot
  id : m.aggregateId = env.deriveId m.key

variable {env req} {m : AiImportMapping} {key : MappingKey}

theorem HeldRow.of_row (hkind : key.aggregateKind.isDerived)
    (hshoot : key.aggregateKind ≠ .sceneShoot) (h : m.key = key ∧ RowOk env.deriveId w m) :
    HeldRow env m := by
  obtain ⟨rfl, hrow⟩ := h
  exact ⟨hkind, hshoot, hrow.id hkind⟩

theorem kept_confirm (hm : HeldRow env m) (version) : Kept env req (confirm m version) :=
  safe_confirm hm.kind.2 hm.shoot (fun _ => hm.id) version

/-- Confirming is the last thing a step does. -/
theorem kept_confirmed (hm : HeldRow env m) (version) (a : α) :
    Kept env req (confirm m version >>= fun _ => pure a) :=
  (kept_confirm hm version).bind fun _ => .pure a

/-! ### Claims -/

theorem kept_reserveClaim (claimKey id conflict) :
    Kept env req (onBase (reserveClaim env.toApplyEnv claimKey id conflict)) := by
  rw [reserveClaim, onBase_atomic]
  refine safe_updating fun w => ⟨?_, ?_, rfl, rfl⟩
  · dsimp only
    split <;> rfl
  · dsimp only
    split <;> rfl

theorem kept_compensateCreateClaim (claim) (reply : Reply ε χ) :
    Kept env req (onBase (compensateCreateClaim env.toApplyEnv claim reply)) := by
  unfold compensateCreateClaim
  split
  · rw [onBase_atomic]
    refine safe_updating fun w => ⟨?_, ?_, rfl, rfl⟩
    · dsimp only
      split <;> rfl
    · dsimp only
      split <;> rfl
  · exact .pure ()

theorem kept_createClaimed [IntoDomainError χ] (claimKey : String) (id conflict)
    {execute : Script (Reply ε χ)} (hexecute : Kept env req execute) :
    Kept env req (createClaimed env claimKey id conflict execute) := by
  refine (kept_reserveClaim claimKey id conflict).bind fun claim => ?_
  refine hexecute.bind fun reply => ?_
  exact (kept_compensateCreateClaim claim reply).bind fun _ => .ofExcept _

theorem kept_planShootFor (hkey : key.aggregateKind.isBeat = false)
    (hid : cmd.id.uuid = env.deriveId key) : Kept env req (planShootFor env key cmd) :=
  kept_createClaimed _ _ _ (safe_creating hkey hid fun _ => ⟨rfl, rfl, rfl, rfl⟩)

/-! ### Rows -/

section

variable (hkey : key.previewId = req.previewId) (hkind : key.aggregateKind.isDerived)
  (hshoot : key.aggregateKind ≠ .sceneShoot)
include hkey hkind hshoot

/-- The winner of a reservation, as a row one holds. -/
theorem kept_reserve {id} (hid : id = env.deriveId key)
    (hf : ∀ m, m.key = key → HeldRow env m → Kept env req (f m)) :
    Kept env req (onBase (reserveMapping (.reservation key id)) >>= f) := by
  intro w
  refine (wpiOk_reserveMapping hkey fun _ => hid).bind fun m t _ hrow => ?_
  exact hf m hrow.1 (.of_row hkind hshoot hrow) t

/-- The row that was found, or reserved now. -/
theorem kept_findOrReserve (hf : ∀ m, HeldRow env m → Kept env req (f m)) :
    Kept env req (findOrReserve key (env.deriveId key) >>= f) := by
  intro w
  refine (wpiOk_findOrReserve hkey fun _ => rfl).bind fun m t _ hrow => ?_
  exact hf m (.of_row hkind hshoot hrow) t

end

/-! ## §2. The outfit chain -/

theorem kept_refuse (reason e) : Kept env req (refuse reason e : Script (ChainStep α)) := by
  unfold refuse
  split
  · exact .fail e
  · exact .pure _

theorem kept_next (step : ChainStep α) (hf : ∀ a, Kept env req (f a)) :
    Kept env req (step.next f) := by
  cases step with
  | done a => exact hf a
  | refused => exact .pure _

theorem kept_drivePiece (piece : PieceApplyPlan) (hm : HeldRow env m) :
    Kept env req (drivePiece req piece m) := by
  unfold drivePiece
  split
  · refine ((safe_creating hm.kind.1 hm.id fun _ => ⟨rfl, rfl, rfl, rfl⟩).mapResult _).bind
      fun attempt => ?_
    split
    · exact kept_confirmed hm _ _
    · exact kept_refuse _ _
  · exact .pure _

theorem kept_categorizePiece (piece : PieceApplyPlan) (hm : HeldRow env m) (version) :
    Kept env req (categorizePiece piece m version) := by
  unfold categorizePiece
  split
  · exact .pure _
  · split
    · refine ((safe_updating fun _ => ⟨rfl, rfl, rfl, rfl⟩).mapResult _).bind fun attempt => ?_
      split
      · exact kept_confirmed hm _ _
      · split
        · exact .fail _
        · exact .pure _
    · exact .pure _

theorem kept_noteStep (hm : HeldRow env m) {send : String → Script AggregateVersion}
    (hsend : ∀ notes, Kept env req (send notes)) (notes owed) :
    Kept env req (noteStep m notes owed send) := by
  unfold noteStep
  split
  · exact .pure _
  · split
    · refine (((hsend _).mapResult _).mapResult _).bind fun attempt => ?_
      split
      · exact kept_confirmed hm _ _
      · exact kept_refuse _ _
    · exact .pure _

theorem kept_applyPiece (row : SceneApplyPlan) (piece) :
    Kept env req (applyPiece env req row piece) := by
  refine (Safe.ofExcept _).bind fun ordinal => ?_
  refine kept_findOrReserve rfl (by decide : isDerived .piece) (by exact noConfusion) fun m hm => ?_
  refine (kept_drivePiece piece hm).bind fun created => kept_next created fun reached => ?_
  refine (kept_categorizePiece piece hm _).bind fun version => ?_
  exact (kept_noteStep hm (fun _ => safe_updating fun _ => ⟨rfl, rfl, rfl, rfl⟩) _ _).bind
    fun noted => kept_next noted fun _ => .pure _

theorem kept_applyOutfitPieces (row : SceneApplyPlan) (outfit) :
    Kept env req (applyOutfitPieces env req row outfit) := by
  refine Safe.foldM (fun soFar piece => kept_next soFar fun pieces => ?_) _ _
  exact (kept_applyPiece row piece).bind fun applied => kept_next applied fun _ => .pure _

theorem kept_readdPiece (id reached pieceId) : Kept env req (readdPiece id reached pieceId) := by
  refine (((safe_updating fun _ => ⟨rfl, rfl, rfl, rfl⟩).mapResult _).mapResult _).bind
    fun attempt => ?_
  split
  · exact .pure _
  · split
    · exact .fail _
    · exact .pure _

theorem kept_seasonGate (key) : Kept env req (seasonGate env key) := by
  unfold seasonGate
  split
  · exact .pure _
  · exact .pure _
  · split
    · exact .fail _
    · exact .pure _

theorem kept_driveOutfit (outfit : OutfitApplyPlan) (characterId pieceIds) (hm : HeldRow env m) :
    Kept env req (driveOutfit env outfit characterId pieceIds m) := by
  unfold driveOutfit
  split
  · refine (kept_seasonGate _).bind fun gate => kept_next gate fun _ => ?_
    refine ((safe_creating hm.kind.1 hm.id fun _ => ⟨rfl, rfl, rfl, rfl⟩).mapResult _).bind
      fun attempt => ?_
    split
    · exact kept_confirmed hm _ _
    · refine (Safe.foldM (kept_readdPiece _) _ _).bind fun reached => ?_
      exact kept_confirmed hm _ _
    · exact kept_refuse _ _
  · exact .pure _

/-- The two kinds an outfit is kept under. -/
theorem outfitKind_isDerived (fromContinuity : Bool) :
    isDerived (if fromContinuity then .outfitContinuity else .outfit) ∧
      (if fromContinuity then outfitContinuity else .outfit) ≠ .sceneShoot := by
  cases fromContinuity with
  | false | true => exact ⟨by decide, by decide⟩

theorem kept_applyOutfit (row : SceneApplyPlan) (outfit characterId pieceIds) :
    Kept env req (applyOutfit env req row outfit characterId pieceIds) := by
  obtain ⟨hkind, hshoot⟩ := outfitKind_isDerived outfit.fromContinuitySelection
  refine (Safe.ofExcept _).bind fun ordinal => ?_
  refine kept_findOrReserve rfl hkind hshoot fun m hm => ?_
  refine (kept_driveOutfit outfit characterId pieceIds hm).bind fun created =>
    kept_next created fun _ => ?_
  exact (kept_noteStep hm (fun _ => safe_updating fun _ => ⟨rfl, rfl, rfl, rfl⟩) _ _).bind
    fun noted => kept_next noted fun _ => .pure _

theorem kept_resolveContinuedOutfit (continuation : ContinuationPlan) :
    Kept env req (resolveContinuedOutfit req continuation) := by
  refine (Safe.ofExcept _).bind fun ordinal => ?_
  refine (safe_findMapping _).bind fun stored => ?_
  split <;> exact .pure _

/-! ## §3. Episodes and days -/

theorem kept_createEpisodeReserved (projectId : ProjectId) (episodeRef number name) :
    Kept env req (createEpisodeReserved env req projectId episodeRef number name) := by
  intro w
  unfold createEpisodeReserved
  refine wpiOk.bind (wpiOk_findMapping (by rfl)) fun stored t _ hstored => ?_
  have hkind : isDerived .episode := by decide
  refine kept_reserve rfl hkind (by exact noConfusion) ?_ (fun m _ hm => ?_) t
  · split
    · next mapping =>
      obtain ⟨hkey, hrow⟩ := hstored mapping rfl
      rw [← hkey]
      exact hrow.id (by rw [hkey]; exact hkind)
    · rfl
  refine ((kept_createClaimed _ _ _ (safe_creating hm.kind.1 hm.id fun _ => ⟨rfl, rfl, rfl, rfl⟩)).mapResult _).bind
    fun attempt => ?_
  exact (Safe.ofExcept _).bind fun outcome => kept_confirmed hm _ _

theorem kept_resolveDay (hpreview : draft.previewId = req.previewId) :
    Kept env req (dayLinker.resolveDay env.toApplyEnv draft) := by
  refine (safe_findMapping _).bind fun stored => ?_
  split
  · exact .pure _
  refine (Safe.ofExcept _).bind fun orderKey => ?_
  refine kept_reserve hpreview (by decide : isDerived .shootingDay) (by exact noConfusion) rfl
    fun m hkey hm => ?_
  refine ((safe_creating rfl (hkey ▸ hm.id) fun _ => ⟨rfl, rfl, rfl, rfl⟩).mapResult _).bind
    fun version => ?_
  exact kept_confirmed hm _ _

end Walk

end Breakdown.Ai
