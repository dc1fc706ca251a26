/-
**WHAT A PHOTO RECORDS ABOUT ITS OBJECTS**
(`infra/src/photo/sagas/thumbnail.rs`, `core/src/photo/aggregate.rs`).

The saga first overwrites objects and then records their sizes with commands. It records the size of
the two rendered variants as it stored them. For the original it records the size of the bytes it
FETCHED, stores what it has re-encoded from them, and keeps the uploaded content type. A crash after
the store leaves re-encoded bytes behind, which the next delivery fetches and encodes once more.

- `Recorded`: how a recorded size and a stored object hang together, per variant;
- `Pending`: the stores and commands a delivery has left;
- `work_consistent`: one step of a delivery keeps records and objects together.
-/
import Breakdown.Photo.Thumbnails

namespace Breakdown

open EventLog Fallible List Function PhotoAggregate

/-! ## §1. The records of a photo -/

namespace PhotoAggregate

/-- The record of a variant. -/
def recordOf (self : PhotoAggregate) (kind : PhotoVariant) : Option PhotoVariantRecord :=
  self.variants.find? fun record => record.kind = kind

/-- One record per kind. -/
def OnePerKind (self : PhotoAggregate) : Prop := (self.variants.map PhotoVariantRecord.kind).Nodup

variable {self : PhotoAggregate} {kind : PhotoVariant} {f : PhotoVariantRecord → PhotoVariantRecord}
  {record : PhotoVariantRecord}

theorem map_kind_updateVariant (hf : ∀ record, (f record).kind = record.kind) (kind records) :
    (updateVariant kind f records).map PhotoVariantRecord.kind =
      records.map PhotoVariantRecord.kind := by
  induction records with
  | nil => rfl
  | cons record rest ih =>
    unfold updateVariant
    split
    · rw [map_cons, map_cons, hf]
    · rw [map_cons, map_cons, ih]

theorem find_updateVariant (hf : ∀ record, (f record).kind = record.kind) (kind kind' records) :
    (updateVariant kind f records).find? (fun record => record.kind = kind') =
      if kind' = kind then (records.find? fun record => record.kind = kind').map f
      else records.find? fun record => record.kind = kind' := by
  induction records with
  | nil => simp [updateVariant]
  | cons record rest ih =>
    unfold updateVariant
    by_cases hkind : record.kind = kind
    · rw [if_pos hkind]
      by_cases hkind' : kind' = kind
      · subst hkind'
        simp [hf, hkind]
      · have hne : record.kind ≠ kind' := fun h => hkind' (h.symm.trans hkind)
        simp [hf, hne, hkind']
    · rw [if_neg hkind]
      by_cases hkind' : record.kind = kind'
      · have hne : kind' ≠ kind := fun h => hkind (hkind'.trans h)
        simp [hkind', hne]
      · simp only [find?_cons, hkind', decide_false]
        exact ih

theorem find_of_mem {records : List PhotoVariantRecord}
    (h : (records.map PhotoVariantRecord.kind).Nodup) (hmem : record ∈ records) :
    (records.find? fun r => r.kind = record.kind) = some record := by
  induction records with
  | nil => cases hmem
  | cons first rest ih =>
    rw [map_cons, nodup_cons] at h
    obtain rfl | hmem := mem_cons.1 hmem
    · simp
    · have hne : first.kind ≠ record.kind := by
        intro heq
        exact h.1 (heq ▸ mem_map_of_mem hmem)
      simp only [find?_cons, hne, decide_false]
      exact ih h.2 hmem

theorem recordOf_of_mem (h : self.OnePerKind) (hmem : record ∈ self.variants) :
    self.recordOf record.kind = some record :=
  find_of_mem h hmem

theorem recordOf_eq_some (h : self.recordOf kind = some record) :
    record ∈ self.variants ∧ record.kind = kind :=
  ⟨mem_of_find?_eq_some h, by simpa using find?_some h⟩

theorem isReady_iff (h : self.OnePerKind) :
    self.isReady kind ↔ ∃ record, self.recordOf kind = some record ∧ record.status = .ready := by
  simp only [isReady, any_eq_true, Bool.and_eq_true, decide_eq_true_eq]
  constructor
  · rintro ⟨record, hmem, rfl, hready⟩
    exact ⟨record, recordOf_of_mem h hmem, hready⟩
  · rintro ⟨record, hrecord, hready⟩
    obtain ⟨hmem, hkind⟩ := recordOf_eq_some hrecord
    exact ⟨record, hmem, hkind, hready⟩

/-- `after` differs from `before` in the record of one kind. -/
structure Rewrites (before after : PhotoAggregate) (kind : PhotoVariant)
    (f : PhotoVariantRecord → PhotoVariantRecord) : Prop where
  kinds : after.variants.map PhotoVariantRecord.kind = before.variants.map PhotoVariantRecord.kind
  records : ∀ kind', after.recordOf kind' =
    if kind' = kind then (before.recordOf kind').map f else before.recordOf kind'

theorem rewrites_updateVariant (hf : ∀ record, (f record).kind = record.kind)
    (hvariants : self'.variants = updateVariant kind f self.variants) :
    Rewrites self self' kind f where
  kinds := by rw [hvariants, map_kind_updateVariant hf]
  records kind' := by
    unfold recordOf
    rw [hvariants, find_updateVariant hf]

/-- The variant and the size that a command records. -/
def recordedBy : PhotoCommand → Option (PhotoVariant × Nat)
  | .normalizeOriginal cmd => some (.original, cmd.newSize)
  | .generateVariant cmd => some (cmd.variant, cmd.sizeBytes)
  | _ => none

/-- **A RECORDING COMMAND** leaves a variant that is `Ready` alone, and makes any other `Ready` with
the size it brings. -/
theorem handle_recordedBy (hcmd : recordedBy cmd = some (kind, size))
    (h : self.handle cmd = .ok events) :
    events = [] ∨ self.isReady kind = false ∧ ∃ e, events = [e] ∧
      Rewrites self (self.apply e) kind fun record =>
        { record with sizeBytes := size, status := .ready } := by
  cases cmd with
  | normalizeOriginal | generateVariant =>
    cases hcmd
    simp only [handle, normalizeOriginal, generateVariant, check_eq_ok] at h
    obtain ⟨-, h⟩ := h
    split at h
    · cases h
      exact .inl rfl
    · next hready =>
      cases h
      exact .inr ⟨by simpa using hready, _, rfl, rewrites_updateVariant (fun _ => rfl) rfl⟩
  | _ => cases hcmd

theorem handle_markVariantFailed (h : self.handle (.markVariantFailed cmd) = .ok events) :
    ∃ e, events = [e] ∧ Rewrites self (self.apply e) cmd.variant fun record =>
      { record with status := .failed } := by
  simp only [handle, markVariantFailed, check_eq_ok] at h
  obtain ⟨-, -, h⟩ := h
  cases h
  exact ⟨_, rfl, rewrites_updateVariant (fun _ => rfl) rfl⟩

end PhotoAggregate

namespace Uploads

/-! ## §2. How records and objects hang together -/

/-- The bytes an original may have come to: re-encoded any number of times. -/
inductive Descends (codec : Codec) (body : Bytes) : Bytes → Prop
  | refl : Descends codec body body
  | step {bytes : Bytes} {processed : Processed} (h : Descends codec body bytes)
      (hprocess : codec.processImage bytes = .ok processed) : Descends codec body processed.reEncoded

section Consistency

variable (codec : Codec) (body : Bytes) (contentType : String)

/-- **A SIZE AND THE OBJECT IT WAS RECORDED FOR.** The size of the original is that of the bytes the
stored ones were encoded from. -/
def Recorded (kind : PhotoVariant) (size : Nat) (object : StoredObject) : Prop := match kind with
  | .original => ∃ fetched processed, Descends codec body fetched ∧
      codec.processImage fetched = .ok processed ∧
      object = ⟨processed.reEncoded, contentType⟩ ∧ size = fetched.length
  | _ => codec.Encoded object.bytes ∧ object.contentType = "image/jpeg" ∧ size = object.bytes.length

/-- The state of a photo and its objects. -/
structure Consistent (state : PhotoAggregate) (objects : PhotoVariant → Option StoredObject) :
    Prop where
  onePerKind : state.OnePerKind
  original : ∃ bytes, Descends codec body bytes ∧ objects .original = some ⟨bytes, contentType⟩
  ready : ∀ kind record, state.recordOf kind = some record → record.status = .ready →
    ∃ object, objects kind = some object ∧
      Recorded codec body contentType kind record.sizeBytes object

/-- The stores and commands a delivery has left. Nothing that is `Ready` is overwritten, and each
command finds its variant `Ready`, or its object in storage by then. -/
structure Pending (state : PhotoAggregate) (objects : PhotoVariant → Option StoredObject)
    (stores : List (PhotoVariant × StoredObject)) (cmds : List PhotoCommand) : Prop where
  nodup : (stores.map Prod.fst).Nodup
  stored : ∀ kind object, (kind, object) ∈ stores → state.isReady kind = false ∧
    ∃ size, Recorded codec body contentType kind size object
  commands : ∀ cmd ∈ cmds, ∃ kind size, recordedBy cmd = some (kind, size) ∧
    (state.isReady kind = true ∨ ∃ object, Recorded codec body contentType kind size object ∧
      ((kind, object) ∈ stores ∨ (kind ∉ stores.map Prod.fst ∧ objects kind = some object)))

/-- What a delivery in progress knows. -/
def JobConsistent (state : PhotoAggregate) (objects : PhotoVariant → Option StoredObject) : Job → Prop
  | .read _ => True
  | .fetch _ seen => ∀ kind, seen.isReady kind = state.isReady kind
  | .perform _ ops => ∃ stores cmds,
      ops = stores.map (fun p => .store p.1 p.2) ++ cmds.map .execute ∧
        Pending codec body contentType state objects stores cmds
  | .markFailed .. => True

end Consistency

section Steps

variable {codec : Codec} {body : Bytes} {contentType : String} {state state' : PhotoAggregate}
  {objects : PhotoVariant → Option StoredObject}

variable {kind : PhotoVariant} {object : StoredObject} {cmds : List PhotoCommand}

theorem OnePerKind.rewrites (h : state.OnePerKind) (hrewrites : Rewrites state state' kind f) :
    state'.OnePerKind := by
  unfold OnePerKind
  rw [hrewrites.kinds]
  exact h

section

variable (h : Consistent codec body contentType state objects)
include h

/-- A rewritten record that is `Ready` has its object in storage. -/
theorem Consistent.rewrites (hrewrites : Rewrites state state' kind f)
    (hnew : ∀ record, (f record).status = .ready → ∃ object, objects kind = some object ∧
      Recorded codec body contentType kind (f record).sizeBytes object) :
    Consistent codec body contentType state' objects where
  onePerKind := OnePerKind.rewrites h.onePerKind hrewrites
  original := h.original
  ready kind' record hrecord hready := by
    rw [hrewrites.records] at hrecord
    split at hrecord
    · next hkind =>
      subst hkind
      obtain ⟨before, -, rfl⟩ := Option.map_eq_some_iff.1 hrecord
      exact hnew before hready
    · exact h.ready kind' record hrecord hready

/-- A variant that is not `Ready` is overwritten. -/
theorem Consistent.stored
    (hready : state.isReady kind = false) (hrecorded : Recorded codec body contentType kind size object) :
    Consistent codec body contentType state (update objects kind (some object)) where
  onePerKind := h.onePerKind
  original := by
    by_cases hkind : kind = .original
    · subst hkind
      obtain ⟨fetched, processed, hdescends, hprocess, rfl, -⟩ := hrecorded
      exact ⟨processed.reEncoded, hdescends.step hprocess, update_self ..⟩
    · rw [update_of_ne (Ne.symm hkind)]
      exact h.original
  ready kind' record hrecord hready' := by
    have hne : kind' ≠ kind := by
      rintro rfl
      rw [(isReady_iff h.onePerKind).2 ⟨record, hrecord, hready'⟩] at hready
      cases hready
    rw [update_of_ne hne]
    exact h.ready kind' record hrecord hready'

end

/-- The next store of a delivery. -/
theorem Pending.store
    (h : Pending codec body contentType state objects ((kind, object) :: stores) cmds) :
    Pending codec body contentType state (update objects kind (some object)) stores cmds := by
  have hnodup := h.nodup
  rw [map_cons, nodup_cons] at hnodup
  refine ⟨hnodup.2, fun k o hmem => h.stored k o (mem_cons_of_mem _ hmem), ?_⟩
  intro cmd hcmd
  obtain ⟨kind', size, hby, hready | ⟨object', hrecorded, hwhere⟩⟩ := h.commands cmd hcmd
  · exact ⟨kind', size, hby, .inl hready⟩
  · refine ⟨kind', size, hby, .inr ⟨object', hrecorded, ?_⟩⟩
    obtain hmem | ⟨hnotMem, hobject⟩ := hwhere
    · obtain heq | hmem := mem_cons.1 hmem
      · -- the store just made
        cases heq
        exact .inr ⟨hnodup.1, update_self ..⟩
      · exact .inl hmem
    · rw [map_cons, mem_cons, not_or] at hnotMem
      refine .inr ⟨hnotMem.2, ?_⟩
      rw [update_of_ne hnotMem.1]
      exact hobject

/-- What is `Ready` stays `Ready` when something is recorded. -/
theorem isReady_of_rewrites (h : state.OnePerKind)
    (hrewrites : Rewrites state state' kind fun record =>
      { record with sizeBytes := size, status := .ready }) (hready : state.isReady kind' = true) :
    state'.isReady kind' = true := by
  obtain ⟨record, hrecord, hstatus⟩ := (isReady_iff h).1 hready
  refine (isReady_iff (OnePerKind.rewrites h hrewrites)).2 ?_
  rw [hrewrites.records, hrecord]
  split
  · exact ⟨_, rfl, rfl⟩
  · exact ⟨record, rfl, hstatus⟩

theorem Pending.tail (h : Pending codec body contentType state objects stores (cmd :: cmds)) :
    Pending codec body contentType state objects stores cmds :=
  ⟨h.nodup, h.stored, fun c hmem => h.commands c (mem_cons_of_mem _ hmem)⟩

/-- The next command of a delivery, after all stores, on a photo that accepts it. -/
theorem Pending.execute (hc : Consistent codec body contentType state objects)
    (h : Pending codec body contentType state objects [] (cmd :: cmds))
    (hhandle : state.handle cmd = .ok events) :
    Consistent codec body contentType (events.foldl apply state) objects ∧
      Pending codec body contentType (events.foldl apply state) objects [] cmds := by
  obtain ⟨kind, size, hby, hwhere⟩ := h.commands cmd mem_cons_self
  obtain rfl | ⟨hready, e, rfl, hrewrites⟩ := handle_recordedBy hby hhandle
  · exact ⟨hc, h.tail⟩
  · obtain hready' | ⟨object, hrecorded, hmem | ⟨-, hobject⟩⟩ := hwhere
    · rw [hready] at hready'
      cases hready'
    · cases hmem
    · refine ⟨hc.rewrites hrewrites fun _ _ => ⟨_, hobject, hrecorded⟩, nodup_nil,
        fun _ _ hmem => absurd hmem not_mem_nil, ?_⟩
      intro c hmem
      obtain ⟨kind', size', hby', hwhere'⟩ := h.tail.commands c hmem
      exact ⟨kind', size', hby', hwhere'.imp_left (isReady_of_rewrites hc.onePerKind hrewrites)⟩

/-- The stores of a delivery, without those of what is `Ready`. -/
def storesOf (seen : PhotoAggregate) (contentType : String) (processed : Processed) :
    List (PhotoVariant × StoredObject) :=
  [(PhotoVariant.original, ⟨processed.reEncoded, contentType⟩),
    (.thumb, ⟨processed.thumbBytes, "image/jpeg"⟩),
    (.medium, ⟨processed.mediumBytes, "image/jpeg"⟩)].filter fun p => !seen.isReady p.1

theorem storeOps_eq (seen contentType processed) : storeOps seen contentType processed =
      (storesOf seen contentType processed).map fun p => .store p.1 p.2 := by
  unfold storeOps storesOf
  cases horiginal : seen.isReady .original <;> cases hthumb : seen.isReady .thumb <;>
    cases hmedium : seen.isReady .medium <;> simp [horiginal, hthumb, hmedium]

/-- What one rendering stores and records. -/
theorem recorded_of_processed (hdescends : Descends codec body bytes)
    (hprocess : codec.processImage bytes = .ok processed) (contentType) :
    Recorded codec body contentType .original bytes.length ⟨processed.reEncoded, contentType⟩ ∧
      Recorded codec body contentType .thumb processed.thumbBytes.length
        ⟨processed.thumbBytes, "image/jpeg"⟩ ∧
      Recorded codec body contentType .medium processed.mediumBytes.length
        ⟨processed.mediumBytes, "image/jpeg"⟩ := by
  obtain ⟨-, hthumb, hmedium⟩ := Codec.processImage_encoded hprocess
  exact ⟨⟨bytes, processed, hdescends, hprocess, rfl, rfl⟩, ⟨hthumb, rfl, rfl⟩, ⟨hmedium, rfl, rfl⟩⟩

/-- What a delivery plans when it has fetched the original. -/
theorem afterFetch_consistent (hc : Consistent codec body contentType state objects)
    (hseen : ∀ kind, seen.isReady kind = state.isReady kind) (hobject : objects .original = some object)
    (id) : JobConsistent codec body contentType state objects (afterFetch codec id seen object) := by
  obtain ⟨bytes, hdescends, horiginal⟩ := hc.original
  rw [hobject] at horiginal
  cases horiginal
  unfold afterFetch
  split
  · next processed hprocess =>
    obtain ⟨hre, hthumb, hmedium⟩ := recorded_of_processed hdescends hprocess contentType
    -- a command finds its variant `Ready`, or its store planned
    have hplanned : ∀ {kind : PhotoVariant} {o : StoredObject},
        (kind, o) ∈ [(PhotoVariant.original, (⟨processed.reEncoded, contentType⟩ : StoredObject)),
          (.thumb, ⟨processed.thumbBytes, "image/jpeg"⟩),
          (.medium, ⟨processed.mediumBytes, "image/jpeg"⟩)] →
        state.isReady kind = true ∨ (kind, o) ∈ storesOf seen contentType processed := by
      intro kind o hmem
      cases hready : state.isReady kind with
      | true => exact .inl rfl
      | false =>
        refine .inr (mem_filter.2 ⟨hmem, ?_⟩)
        rw [hseen, hready]
        rfl
    refine ⟨storesOf seen contentType processed,
      [.normalizeOriginal ⟨id, bytes.length, processed.rotated, .initial⟩,
        .generateVariant ⟨id, .thumb, processed.thumbBytes.length, .initial⟩,
        .generateVariant ⟨id, .medium, processed.mediumBytes.length, .initial⟩], ?_, ?_, ?_, ?_⟩
    · rw [storeOps_eq]
      rfl
    · refine List.Nodup.sublist (filter_sublist.map _) ?_
      show [PhotoVariant.original, .thumb, .medium].Nodup
      decide
    · intro kind o hmem
      obtain ⟨hmem, hready⟩ := mem_filter.1 hmem
      rw [hseen] at hready
      refine ⟨by simpa using hready, ?_⟩
      simp only [mem_cons, Prod.mk.injEq, not_mem_nil, or_false] at hmem
      obtain ⟨rfl, rfl⟩ | ⟨rfl, rfl⟩ | ⟨rfl, rfl⟩ := hmem
      · exact ⟨_, hre⟩
      · exact ⟨_, hthumb⟩
      · exact ⟨_, hmedium⟩
    · intro cmd hcmd
      simp only [mem_cons, not_mem_nil, or_false] at hcmd
      obtain rfl | rfl | rfl := hcmd
      · exact ⟨_, _, rfl, (hplanned (by simp)).imp_right fun hmem => ⟨_, hre, .inl hmem⟩⟩
      · exact ⟨_, _, rfl, (hplanned (by simp)).imp_right fun hmem => ⟨_, hthumb, .inl hmem⟩⟩
      · exact ⟨_, _, rfl, (hplanned (by simp)).imp_right fun hmem => ⟨_, hmedium, .inl hmem⟩⟩
  · trivial

end Steps

/-- The state of a photo after a command on it: the same, or what its events make of it. -/
theorem entityAt_executeAt (photos : ActorSystem PhotoId PhotoAggregate) (i id expected)
    (cmd : PhotoCommand) (outcome : AppendOutcome) :
    (photos.executeAt i id expected cmd outcome).1.entityAt id = photos.entityAt id ∨
      ∃ events, (photos.entityAt id).handle cmd = .ok events ∧
        (photos.executeAt i id expected cmd outcome).1.entityAt id =
          events.foldl apply (photos.entityAt id) := by
  obtain heq | ⟨-, events, hdecided, heq⟩ :=
    (photos.executeAt_advance i id expected cmd outcome).at_ id
  · exact .inl (congrArg (Entity.replay PhotoAggregate) heq)
  · refine .inr ⟨events, hdecided.handled, ?_⟩
    unfold ActorSystem.entityAt
    rw [heq, replay_append]
    rfl

/-- **A STEP KEEPS RECORDS AND OBJECTS TOGETHER.** -/
theorem work_consistent {contentType}
    (h : Consistent codec body contentType (s.photos.entityAt job.photo) (s.objects job.photo))
    (hjob : JobConsistent codec body contentType (s.photos.entityAt job.photo) (s.objects job.photo)
      job) (i : InstanceId) (outcome) : Consistent codec body contentType
        ((work codec i outcome s job).1.photos.entityAt job.photo)
        ((work codec i outcome s job).1.objects job.photo) ∧
      ∀ next, (work codec i outcome s job).2 = .goesOn next → JobConsistent codec body contentType
          ((work codec i outcome s job).1.photos.entityAt job.photo)
          ((work codec i outcome s job).1.objects job.photo) next := by
  cases job with
  | read =>
    refine ⟨h, ?_⟩
    intro next hnext
    simp only [work] at hnext
    split at hnext <;> cases hnext
    exact fun _ => rfl
  | fetch id =>
    simp only [work]
    split
    · next object hobject =>
      refine ⟨h, ?_⟩
      intro next hnext
      cases hnext
      exact afterFetch_consistent h hjob hobject id
    · exact ⟨h, by intro _ hnext; cases hnext⟩
  | perform id =>
    obtain ⟨stores, cmds, rfl, hpending⟩ := hjob
    cases stores with
    | cons first stores =>
      obtain ⟨kind, object⟩ := first
      obtain ⟨hready, size, hrecorded⟩ := hpending.stored kind object mem_cons_self
      have hobjects : (s.store id kind object).objects id =
          update (s.objects id) kind (some object) := update_self ..
      refine ⟨?_, ?_⟩
      · show Consistent codec body contentType (s.photos.entityAt id) ((s.store id kind object).objects id)
        rw [hobjects]
        exact h.stored hready hrecorded
      · intro next hnext
        cases hnext
        refine ⟨stores, cmds, rfl, ?_⟩
        show Pending codec body contentType (s.photos.entityAt id)
          ((s.store id kind object).objects id) stores cmds
        rw [hobjects]
        exact hpending.store
    | nil =>
      cases cmds with
      | nil => exact ⟨h, by intro _ hnext; cases hnext⟩
      | cons cmd cmds =>
        have hkept : Consistent codec body contentType
              ((s.photos.executeAt i id .any cmd outcome).1.entityAt id) (s.objects id) ∧
            Pending codec body contentType
              ((s.photos.executeAt i id .any cmd outcome).1.entityAt id) (s.objects id) [] cmds := by
          obtain heq | ⟨events, hhandle, heq⟩ := entityAt_executeAt s.photos i id .any cmd
            outcome
          · rw [heq]
            exact ⟨h, hpending.tail⟩
          · rw [heq]
            exact hpending.execute h hhandle
        refine ⟨hkept.1, ?_⟩
        intro next hnext
        simp only [work, map_nil, nil_append, map_cons] at hnext
        split at hnext <;> cases hnext
        exact ⟨[], cmds, rfl, hkept.2⟩
  | markFailed id variants expected error =>
    cases variants with
    | nil => exact ⟨h, by intro _ hnext; cases hnext⟩
    | cons variant =>
      refine ⟨?_, ?_⟩
      · show Consistent codec body contentType ((s.photos.executeAt i id .any
          (.markVariantFailed ⟨id, variant, error, expected⟩) outcome).1.entityAt id) (s.objects id)
        obtain heq | ⟨events, hhandle, heq⟩ := entityAt_executeAt s.photos i id .any
          (.markVariantFailed ⟨id, variant, error, expected⟩) outcome
        · rw [heq]
          exact h
        · obtain ⟨e, rfl, hrewrites⟩ := handle_markVariantFailed hhandle
          rw [heq]
          exact h.rewrites hrewrites (by intro _ hready; cases hready)
      · intro next hnext
        simp only [work] at hnext
        split at hnext <;> cases hnext <;> trivial

end Uploads

end Breakdown
