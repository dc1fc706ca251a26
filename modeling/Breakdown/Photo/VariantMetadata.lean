/-
**WHEN THE RECORDS OF A PHOTO ARE TRUE**
(`infra/src/photo/sagas/thumbnail.rs`).

From the upload of a photo on, its upload is delivered any number of times, and every delivery may
crash between any two of its steps. Records and objects hang together throughout; but the original
is recorded with the size it had before it was re-encoded, and keeps the content type it was uploaded
with, although everything the saga encodes is JPEG.

- `runs_consistent`: records and objects hang together after every run;
- `Uploaded.descends`: crashes reach every chain of re-encodings;
- `variant_metadata_iff`: when the records are true.
-/
import Breakdown.Photo.Uploads
import Breakdown.Photo.VariantRecords

namespace Breakdown.Uploads

open EventLog Fallible Transition PhotoAggregate List Function ActorSystem

/-! ## §1. Runs -/

/-- **AN UPLOADED PHOTO**: its stream holds the upload, its original the uploaded bytes, and its upload
has not been delivered yet. -/
structure Uploaded (id : PhotoId) (body : Bytes) (contentType : String) (w : World) : Prop where
  stream : ∃ size binding, w.stores.photos.streams id = [.photoUploaded id contentType size
    [(.original, .pending), (.thumb, .pending), (.medium, .pending)] binding .initial]
  original : w.stores.objects id .original = some ⟨body, contentType⟩
  job : ∀ job ∈ w.job, job.Sound ∧ job.photo ≠ id

/-- No handler deletes the bytes of this photo. Anything else may happen: any number of deliveries of
its upload, crashes, lost and failed appends, deletions, other photos. -/
def keeping (id : PhotoId) (_ : World) : Action → Prop
  | .compensate photo => photo ≠ id
  | _ => True

instance (id : PhotoId) (w : World) (a : Action) : Decidable (keeping id w a) := by
  induction a using Action.casesOn with
  | compensate photo => exact inferInstanceAs (Decidable (photo ≠ id))
  | _ => exact .isTrue trivial

section Runs

variable (codec : Codec) (body : Bytes) (contentType : String) (id : PhotoId)

/-- Until the photo is deleted, its records and objects hang together. -/
structure Tracked (w : World) : Prop where
  uploaded : w.stores.photos.streams id ≠ []
  sound : ∀ job ∈ w.job, job.Sound
  consistent : Undeleted (w.stores.photos.streams id) →
    Consistent codec body contentType (w.stores.photos.entityAt id) (w.stores.objects id) ∧
      ∀ job ∈ w.job, job.photo = id →
        JobConsistent codec body contentType (w.stores.photos.entityAt id) (w.stores.objects id) job

end Runs

section Runs

variable {codec : Codec} {body : Bytes} {contentType : String} {id : PhotoId} {w w' : World}

theorem Uploaded.tracked (h : Uploaded id body contentType w) : Tracked codec body contentType id w where
  uploaded := by
    obtain ⟨size, binding, hstream⟩ := h.stream
    rw [hstream]
    exact cons_ne_nil _ _
  sound job hjob := (h.job job hjob).1
  consistent _ := by
    refine ⟨⟨?_, ⟨body, .refl, h.original⟩, ?_⟩, ?_⟩
    · obtain ⟨size, binding, hstream⟩ := h.stream
      unfold entityAt
      rw [hstream]
      show [PhotoVariant.original, .thumb, .medium].Nodup
      decide
    · -- everything is pending
      intro kind record hrecord hready
      obtain ⟨size, binding, hstream⟩ := h.stream
      unfold entityAt at hrecord
      rw [hstream] at hrecord
      have hmem := (recordOf_eq_some hrecord).1
      change record ∈ [_, _, _] at hmem
      simp only [mem_cons, not_mem_nil, or_false] at hmem
      obtain rfl | rfl | rfl := hmem <;> cases hready
    · intro job hjob hphoto
      exact absurd hphoto (h.job job hjob).2

/-- A step that leaves the photo and its objects alone, and starts no delivery of it. -/
theorem Tracked.frame (h : Tracked codec body contentType id w)
    (hstreams : w'.stores.photos.streams id = w.stores.photos.streams id)
    (hobjects : w'.stores.objects id = w.stores.objects id)
    (hjob : ∀ job ∈ w'.job, job.Sound ∧ (job.photo = id → job ∈ w.job)) :
    Tracked codec body contentType id w' where
  uploaded := by
    rw [hstreams]
    exact h.uploaded
  sound job hmem := (hjob job hmem).1
  consistent := by
    unfold entityAt
    rw [hstreams, hobjects]
    intro hopen
    obtain ⟨hconsistent, hjobs⟩ := h.consistent hopen
    exact ⟨hconsistent, fun job hmem hphoto => hjobs job ((hjob job hmem).2 hphoto) hphoto⟩

theorem Tracked.same (h : Tracked codec body contentType id w) (hstores : w'.stores = w.stores)
    (hjob : w'.job = w.job) : Tracked codec body contentType id w' := by
  refine h.frame (by rw [hstores]) (by rw [hstores]) ?_
  rw [hjob]
  exact fun job hmem => ⟨h.sound job hmem, fun _ => hmem⟩

/-- A refused command, or one on another photo. -/
theorem streams_executeAt_of_not_decided {photos : ActorSystem PhotoId PhotoAggregate} {photo}
    (h : photo = id → ∀ events, ¬ Decided PhotoAggregate (photos.streams id) expected cmd events) :
    (photos.executeAt i photo expected cmd outcome).1.streams id = photos.streams id := by
  obtain heq | ⟨rfl, events, hdecided, -⟩ :=
    (photos.executeAt_advance i photo expected cmd outcome).at_ id
  · exact heq
  · exact absurd hdecided (h rfl events)

theorem work_objects_of_ne (hsound : job.Sound) (hid : id ≠ job.photo) :
    (work codec i outcome s job).1.objects id = s.objects id := by
  obtain hs | ⟨variant', object, hs⟩ | ⟨cmd, -, hs⟩ := work_writes hsound codec i outcome s
  · rw [hs]
  · rw [hs]
    exact update_of_ne hid ..
  · rw [hs]

/-- A deletion that is accepted ends the claim the records make. -/
theorem deleted_of_decided (h : Decided PhotoAggregate log expected (.delete cmd) events) :
    ¬ Undeleted (log ++ events) := by
  have hhandle : (Entity.replay PhotoAggregate log).handle (.delete cmd) = .ok events := h.handled
  simp only [handle, delete, check_eq_ok] at hhandle
  obtain ⟨-, -, hevents⟩ := hhandle
  cases hevents
  intro hopen
  cases hopen _ (mem_append_right _ mem_cons_self)

theorem Tracked.advance (h : Tracked codec body contentType id w) (hjob : w.job = some job)
    (i outcome) : Tracked codec body contentType id { w with
        stores := (work codec i outcome w.stores job).1
        job := (work codec i outcome w.stores job).2.job } := by
  have hsound := h.sound job hjob
  have hnext : ∀ next ∈ (work codec i outcome w.stores job).2.job,
      (work codec i outcome w.stores job).2 = .goesOn next ∧ next.photo = job.photo ∧ next.Sound := by
    intro next hnext
    rcases hwork : work codec i outcome w.stores job with ⟨stores, progress⟩
    rw [hwork] at hnext
    cases progress with
    | goesOn =>
      cases hnext
      obtain ⟨hphoto, hsound', -⟩ := work_goesOn hsound hwork
      exact ⟨rfl, hphoto, hsound'⟩
    | returns => cases hnext
  by_cases hid : id = job.photo
  · subst hid
    refine ⟨work_streams_ne_nil hsound h.uploaded, fun next hmem => (hnext next hmem).2.2, ?_⟩
    intro hopen
    obtain ⟨hconsistent, hjobs⟩ :=
      h.consistent (hopen.of_seen (work_streams_grow hsound codec i outcome w.stores job.photo))
    obtain ⟨hconsistent', hnext'⟩ := work_consistent hconsistent (hjobs job hjob rfl) i outcome
    exact ⟨hconsistent', fun next hmem _ => hnext' next (hnext next hmem).1⟩
  · refine h.frame (work_streams_of_ne hsound hid) (work_objects_of_ne hsound hid) ?_
    intro next hmem
    obtain ⟨-, hphoto, hsound'⟩ := hnext next hmem
    exact ⟨hsound', fun heq => absurd (heq.symm.trans hphoto) hid⟩

theorem step_tracked (h : Tracked codec body contentType id w) (hcond : keeping id w a)
    (hs : step codec w a = some w') : Tracked codec body contentType id w' := by
  have hjobs : ∀ job ∈ w.job, job.Sound ∧ (job.photo = id → job ∈ w.job) :=
    fun job hmem => ⟨h.sound job hmem, fun _ => hmem⟩
  cases a with simp only [step] at hs
  | pieceCommand | outfitCommand =>
    split at hs <;> cases hs
    exact h.same rfl rfl
  | beginUpload photo =>
    split at hs
    · split at hs
      · next hfresh =>
        cases hs
        have hne : id ≠ photo := by
          rintro rfl
          simp only [isFresh, Bool.and_eq_true, List.isEmpty_iff] at hfresh
          exact h.uploaded hfresh.1.2
        exact h.frame rfl (update_of_ne hne ..) hjobs
      · cases hs
    · cases hs
  | dispatchUpload =>
    split at hs
    · split at hs <;> cases hs
      refine h.frame (streams_executeAt_of_not_decided ?_) rfl hjobs
      -- an upload is accepted by an empty stream only
      rintro rfl events hdecided
      have hempty := hdecided.satisfied
      simp only [isSatisfiedBy_empty, versionOf_eq_empty] at hempty
      exact h.uploaded hempty
    · cases hs
  | dispatchLink photo i outcome =>
    split at hs
    · next call _ =>
      split at hs <;> cases hs
      obtain ⟨hstores, hjob, -⟩ := dispatchLink_frame w photo call i outcome
      exact h.same hstores hjob
    · cases hs
  | compensate photo =>
    have hne : id ≠ photo := fun heq => hcond heq.symm
    split at hs
    · split at hs <;> cases hs
      exact h.frame rfl (update_of_ne hne ..) hjobs
    · cases hs
  | dropCall =>
    cases hs
    exact h.same rfl rfl
  | deletePhoto i photo expected version outcome =>
    cases hs
    obtain heq | ⟨rfl, events, hdecided, heq⟩ := (w.stores.photos.executeAt_advance i photo expected
      (.delete ⟨photo, version⟩) outcome).at_ id
    · exact h.frame heq rfl hjobs
    · refine ⟨ne_nil_of_executeAt h.uploaded, h.sound, ?_⟩
      intro hopen
      exact absurd (heq ▸ hopen) (deleted_of_decided hdecided)
  | cleanUp photo =>
    split at hs
    · next hdeleted =>
      cases hs
      by_cases hid : id = photo
      · subst hid
        refine ⟨h.uploaded, h.sound, ?_⟩
        intro hopen
        have hnot : (w.stores.photos.entityAt id).deleted = false := deleted_replay_iff.2 hopen
        rw [hnot] at hdeleted
        cases hdeleted
      · exact h.frame rfl (update_of_ne hid ..) hjobs
    · cases hs
  | deliver =>
    split at hs <;> cases hs
    refine ⟨h.uploaded, ?_, ?_⟩
    · intro job hjob
      cases hjob
      trivial
    · intro hopen
      refine ⟨(h.consistent hopen).1, ?_⟩
      intro job hjob _
      cases hjob
      trivial
  | advance i outcome =>
    simp only [Option.map_eq_some_iff] at hs
    obtain ⟨job, hjob, rfl⟩ := hs
    exact h.advance hjob i outcome
  | crash =>
    cases hs
    exact h.frame rfl rfl (by intro _ hjob; cases hjob)

/-- **RECORDS AND OBJECTS HANG TOGETHER AFTER EVERY RUN.** -/
theorem runs_consistent (h₀ : Uploaded id body contentType w₀)
    (h : Runs (step codec) (keeping id) w₀ w) (hopen : Undeleted (w.stores.photos.streams id)) :
    Consistent codec body contentType (w.stores.photos.entityAt id) (w.stores.objects id) := by
  have htracked : Tracked codec body contentType id w :=
    h.invariant (Tracked codec body contentType id) h₀.tracked
      fun _ _ _ hi hcond hs => step_tracked hi hcond hs
  exact (htracked.consistent hopen).1

/-! ## §2. Every chain of re-encodings is reached -/

/-- Nothing of a photo that has just been uploaded is `Ready`, and the saga has work to do. -/
theorem Uploaded.entity (h : Uploaded id body contentType w) :
    isTerminal (w.stores.photos.entityAt id) = false ∧
      ∀ kind, (w.stores.photos.entityAt id).isReady kind = false := by
  obtain ⟨size, binding, hstream⟩ := h.stream
  unfold entityAt
  rw [hstream]
  refine ⟨rfl, fun kind => ?_⟩
  cases kind <;> rfl

/-- One more step of the delivery. -/
theorem runs_advance (h : Runs (step codec) (keeping id) w₀ w)
    (hs : step codec w (.advance 0 .acknowledged) = some w') :
    Runs (step codec) (keeping id) w₀ w' :=
  h.snoc (show keeping id w (.advance 0 .acknowledged) from trivial) hs

section

variable (h : Uploaded id body contentType w)
include h

/-- A delivery up to the point where the original is overwritten. -/
theorem runs_storeOriginal (hidle : w.job = none)
    (hprocess : codec.processImage body = .ok processed) : Runs (step codec) (keeping id) w { w with
      stores := w.stores.store id .original ⟨processed.reEncoded, contentType⟩
      job := some (.perform id ([.store .thumb ⟨processed.thumbBytes, "image/jpeg"⟩,
        .store .medium ⟨processed.mediumBytes, "image/jpeg"⟩] ++ recordOps id body processed)) } := by
  obtain ⟨hterminal, hready⟩ := h.entity
  obtain ⟨size, binding, hstream⟩ := h.stream
  have hdeliver : step codec w (.deliver id) = some { w with job := some (.read id) } := by
    simp [step, hidle, hstream]
  have hread : step codec { w with job := some (.read id) } (.advance 0 .acknowledged) =
      some { w with job := some (.fetch id (w.stores.photos.entityAt id)) } := by
    simp [step, work, hterminal, Progress.job]
  have hfetch : step codec { w with job := some (.fetch id (w.stores.photos.entityAt id)) }
      (.advance 0 .acknowledged) = some { w with
        job := some (afterFetch codec id (w.stores.photos.entityAt id) ⟨body, contentType⟩) } := by
    simp [step, work, h.original, Progress.job]
  have hafter : afterFetch codec id (w.stores.photos.entityAt id) ⟨body, contentType⟩ =
      .perform id (.store .original ⟨processed.reEncoded, contentType⟩ ::
        ([.store .thumb ⟨processed.thumbBytes, "image/jpeg"⟩,
          .store .medium ⟨processed.mediumBytes, "image/jpeg"⟩] ++ recordOps id body processed)) := by
    simp [afterFetch, hprocess, storeOps, hready]
  rw [hafter] at hfetch
  exact runs_advance (runs_advance (runs_advance (.single (a := .deliver id) trivial hdeliver) hread)
    hfetch) rfl

/-- A crash right after the store leaves the re-encoded bytes to the next delivery. -/
theorem Uploaded.reEncoded (hidle : w.job = none)
    (hprocess : codec.processImage body = .ok processed) :
    ∃ w', Runs (step codec) (keeping id) w w' ∧ Uploaded id processed.reEncoded contentType w' ∧
      w'.job = none := by
  refine ⟨_, (runs_storeOriginal h hidle hprocess).snoc (a := .crash) trivial rfl, ?_, rfl⟩
  refine ⟨h.stream, ?_, nofun⟩
  show (update w.stores.objects id _) id .original = _
  rw [update_self, update_self]

/-- **ANY NUMBER OF RE-ENCODINGS** before anything is recorded. -/
theorem Uploaded.descends (hbytes : Descends codec body bytes) :
    ∃ w', Runs (step codec) (keeping id) w w' ∧ Uploaded id bytes contentType w' ∧ w'.job = none := by
  induction hbytes with
  | refl =>
    refine ⟨{ w with job := none }, .single (a := .crash) trivial rfl, ?_, rfl⟩
    exact ⟨h.stream, h.original, nofun⟩
  | step _ hprocess ih =>
    obtain ⟨w₁, hrun₁, huploaded, hidle⟩ := ih
    obtain ⟨w₂, hrun₂, huploaded', hidle'⟩ := huploaded.reEncoded hidle hprocess
    exact ⟨w₂, hrun₁.trans hrun₂, huploaded', hidle'⟩

/-- The first recording command of an uploaded photo appends its event, whatever the actor has seen. -/
theorem Uploaded.normalized (cmd i) : ∃ size binding,
    (w.stores.photos.executeAt i id .any (.normalizeOriginal cmd) .acknowledged).1.streams id =
      [.photoUploaded id contentType size
          [(.original, .pending), (.thumb, .pending), (.medium, .pending)] binding .initial,
        .originalNormalized id cmd.newSize cmd.rotated (AggregateVersion.initial.next)] := by
  obtain ⟨size, binding, hstream⟩ := h.stream
  refine ⟨size, binding, ?_⟩
  -- both states the stream has been in emit the event
  have hhandle : ∀ seen, seen <+: w.stores.photos.streams id → ∃ e,
      (Entity.replay PhotoAggregate seen).handle (.normalizeOriginal cmd) = .ok [e] := by
    rw [hstream]
    intro seen hseen
    obtain rfl | rfl : seen = [] ∨ seen = [_] := by simpa [prefix_cons_iff] using hseen
    · exact ⟨_, rfl⟩
    · exact ⟨_, rfl⟩
  rcases hexec : w.stores.photos.executeAt i id .any (.normalizeOriginal cmd) .acknowledged
    with ⟨photos, reply⟩
  have haccepted : ∀ seen, seen <+: w.stores.photos.streams id → ∃ events,
      Entity.handle (Entity.replay PhotoAggregate seen) (.normalizeOriginal cmd) = .ok events :=
    fun seen hseen => (hhandle seen hseen).elim fun e he => ⟨[e], he⟩
  obtain ⟨result, hresult, hempty⟩ := SoleWriter.executeAt_any haccepted i
  rw [hexec] at hresult
  obtain ⟨events, hdecided, hstreams, -⟩ | ⟨-, hnone⟩ := executeAt_reply (fun _ => rfl) hexec
  · have hevents : (Entity.replay PhotoAggregate (w.stores.photos.streams id)).handle
        (.normalizeOriginal cmd) = .ok events := hdecided.handled
    rw [hstream] at hevents
    cases hevents
    rw [hstreams, update_self, hstream]
    rfl
  · obtain ⟨seen, hseen, hnil⟩ := hempty (hnone result hresult)
    obtain ⟨e, he⟩ := hhandle seen hseen
    cases he.symm.trans hnil

/-- A delivery up to the point where the original is `Ready`. -/
theorem Uploaded.recorded (hidle : w.job = none)
    (hprocess : codec.processImage body = .ok processed) :
    ∃ w', Runs (step codec) (keeping id) w w' ∧ w'.job = none ∧
      Undeleted (w'.stores.photos.streams id) ∧
      ⟨.original, .ready, body.length⟩ ∈ (w'.stores.photos.entityAt id).variants ∧
      w'.stores.objects id .original = some ⟨processed.reEncoded, contentType⟩ := by
  obtain ⟨size, binding, hstream⟩ := h.normalized ⟨id, body.length, processed.rotated, .initial⟩ 0
  let stored := ((w.stores.store id .original ⟨processed.reEncoded, contentType⟩).store id .thumb
    ⟨processed.thumbBytes, "image/jpeg"⟩).store id .medium ⟨processed.mediumBytes, "image/jpeg"⟩
  have hstored : Runs (step codec) (keeping id) w
      { w with stores := stored, job := some (.perform id (recordOps id body processed)) } :=
    runs_advance (runs_advance (runs_storeOriginal h hidle hprocess) rfl) rfl
  let photos := (w.stores.photos.executeAt 0 id .any
    (.normalizeOriginal ⟨id, body.length, processed.rotated, .initial⟩) .acknowledged).1
  have hrecorded : Runs (step codec) (keeping id) w
      { w with stores := { stored with photos }, job := none } :=
    (runs_advance hstored rfl).snoc (a := .crash) trivial rfl
  refine ⟨_, hrecorded, rfl, ?_, ?_, ?_⟩
  · show Undeleted (photos.streams id)
    rw [hstream]
    simp [Undeleted, PhotoEvent.isPhotoDeleted]
  · show _ ∈ (Entity.replay PhotoAggregate (photos.streams id)).variants
    rw [hstream]
    exact mem_cons_self
  · simp [stored, Stores.store]

end

end Runs

/-! ## §3. When the records are true -/

/-- The formats uploads may have, by the names the storage gives them. -/
inductive ImageFormat
  | jpeg
  | png
  | webp

def ImageFormat.mime : ImageFormat → String
  | .jpeg => "image/jpeg"
  | .png => "image/png"
  | .webp => "image/webp"

/-- **THE RECORDS ARE TRUE**: every variant that is `Ready` has an object of the recorded size, whose
content type names the format of its bytes. -/
def Faithful (format : Bytes → Option ImageFormat) (s : Stores) (id : PhotoId) : Prop :=
  ∀ record ∈ (s.photos.entityAt id).variants, record.status = .ready →
    ∃ object, s.objects id record.kind = some object ∧ record.sizeBytes = object.bytes.length ∧
      (format object.bytes).map ImageFormat.mime = some object.contentType

section Faithful

variable {codec : Codec} {body : Bytes} {contentType : String}

/-- What is recorded is true, of the original only under a condition. -/
theorem Recorded.faithful {format : Bytes → Option ImageFormat}
    (hjpeg : ∀ bytes, codec.Encoded bytes → format bytes = some .jpeg)
    (hstable : ∀ fetched processed, Descends codec body fetched →
      codec.processImage fetched = .ok processed →
        contentType = "image/jpeg" ∧ processed.reEncoded.length = fetched.length)
    (h : Recorded codec body contentType kind size object) : size = object.bytes.length ∧
      (format object.bytes).map ImageFormat.mime = some object.contentType := by
  have hrendered : codec.Encoded object.bytes ∧ object.contentType = "image/jpeg" ∧
      size = object.bytes.length := by
    cases kind with
    | original =>
      obtain ⟨fetched, processed, hdescends, hprocess, rfl, rfl⟩ := h
      obtain ⟨htype, hlength⟩ := hstable fetched processed hdescends hprocess
      exact ⟨(Codec.processImage_encoded hprocess).1, htype, hlength.symm⟩
    | thumb | medium => exact h
  obtain ⟨hencoded, htype, hsize⟩ := hrendered
  refine ⟨hsize, ?_⟩
  rw [hjpeg _ hencoded, htype]
  rfl

end Faithful

/-- **WHEN RECORDED METADATA MATCHES THE STORED OBJECTS**, for every uploaded photo, in all runs of
deliveries of its upload with crashes anywhere: exactly if the photo is called a JPEG and every
rendering of the uploaded bytes, or of bytes already re-encoded from them, has as many bytes as it
was rendered from. A photo that does not decode has nothing recorded. -/
theorem variant_metadata_iff {codec : Codec} {format : Bytes → Option ImageFormat}
    (hjpeg : ∀ bytes, codec.Encoded bytes → format bytes = some .jpeg) {id : PhotoId} {body : Bytes}
    {contentType : String} {w₀ : World} (h₀ : Uploaded id body contentType w₀) :
    (∀ w, Runs (step codec) (keeping id) w₀ w → w.job = none →
        Undeleted (w.stores.photos.streams id) → Faithful format w.stores id) ↔
      ∀ fetched processed, Descends codec body fetched →
        codec.processImage fetched = .ok processed →
          contentType = "image/jpeg" ∧ processed.reEncoded.length = fetched.length := by
  constructor
  · intro hfaithful fetched processed hdescends hprocess
    obtain ⟨w₁, hrun₁, huploaded, hidle⟩ := h₀.descends hdescends
    obtain ⟨w₂, hrun₂, hidle₂, hopen, hmem, hobject⟩ := huploaded.recorded hidle hprocess
    obtain ⟨object, hobject', hsize, htype⟩ :=
      hfaithful w₂ (hrun₁.trans hrun₂) hidle₂ hopen _ hmem rfl
    cases hobject'.symm.trans hobject
    rw [hjpeg _ (Codec.processImage_encoded hprocess).1] at htype
    cases htype
    exact ⟨rfl, hsize.symm⟩
  · intro hstable w hrun _ hopen record hmem hready
    have hconsistent := runs_consistent h₀ hrun hopen
    obtain ⟨object, hobject, hrecorded⟩ := hconsistent.ready record.kind record
      (recordOf_of_mem hconsistent.onePerKind hmem) hready
    obtain ⟨hsize, htype⟩ := hrecorded.faithful hjpeg hstable
    exact ⟨object, hobject, hsize, htype⟩

/-- The format of bytes, by their signature. -/
def signatureFormat : Bytes → Option ImageFormat
  | 0xFF :: 0xD8 :: 0xFF :: _ => some .jpeg
  | 0x89 :: 0x50 :: 0x4E :: 0x47 :: 0x0D :: 0x0A :: 0x1A :: 0x0A :: _ => some .png
  | _ => none

/-- `Uploaded`, evaluated for the coat. -/
def coatUploadedTest (header : String) (body : Bytes) (w : World) : Bool :=
  w.stores.photos.streams ⟨7⟩ = [.photoUploaded ⟨7⟩ header body.length
    [(.original, .pending), (.thumb, .pending), (.medium, .pending)] (.piece 1) .initial] &&
  w.stores.objects ⟨7⟩ .original = some ⟨body, header⟩ && w.job = none

theorem uploaded_of_test (h : coatUploadedTest header body w) : Uploaded ⟨7⟩ body header w := by
  simp only [coatUploadedTest, Bool.and_eq_true, decide_eq_true_eq] at h
  obtain ⟨⟨hstream, horiginal⟩, hjob⟩ := h
  refine ⟨⟨_, _, hstream⟩, horiginal, ?_⟩
  rw [hjob]
  exact nofun

theorem signatureFormat_black (bytes : Bytes) (h : blackCodec.Encoded bytes) :
    signatureFormat bytes = some .jpeg := by
  obtain ⟨quality, size, hencode⟩ := h
  cases hencode
  rfl

/-- A JPEG of one black pixel comes out of the encoder as it went in, and keeps true records. -/
theorem variant_metadata_iff_exact : ∃ w₀ : World,
    Runs (step blackCodec) (keeping ⟨7⟩) World.init w₀ ∧
      Uploaded ⟨7⟩ (blackJpeg 95 1 1) "image/jpeg" w₀ ∧
      ∀ w, Runs (step blackCodec) (keeping ⟨7⟩) w₀ w → w.job = none →
        Undeleted (w.stores.photos.streams ⟨7⟩) → Faithful signatureFormat w.stores ⟨7⟩ := by
  refine exists_runs_imp (coatUploaded "image/jpeg" (blackJpeg 95 1 1))
    (P := fun w => coatUploadedTest "image/jpeg" (blackJpeg 95 1 1) w = true)
    (by decide +kernel) ?_
  intro w₀ hrun htest
  have h₀ := uploaded_of_test htest
  refine ⟨h₀, (variant_metadata_iff signatureFormat_black h₀).2 ?_⟩
  have hprocess := processImage_black (.inr rfl)
  have hsame : ∀ fetched, Descends blackCodec (blackJpeg 95 1 1) fetched →
      fetched = blackJpeg 95 1 1 := by
    intro fetched hdescends
    induction hdescends with
    | refl => rfl
    | step _ hprocess' ih =>
      subst ih
      cases hprocess.symm.trans hprocess'
      rfl
  intro fetched processed hdescends hprocess'
  cases hsame fetched hdescends
  cases hprocess.symm.trans hprocess'
  exact ⟨rfl, rfl⟩

/-- A PNG of one black pixel is delivered once, without any crash. The original is `Ready`; it is
recorded with the 69 bytes of the PNG and stored with 629, and called a PNG although a JPEG is
stored. -/
theorem png_recorded_wrongly : ∃ w₀ w : World,
    Runs (step blackCodec) (keeping ⟨7⟩) World.init w₀ ∧
      Uploaded ⟨7⟩ blackPng "image/png" w₀ ∧
      Runs (step blackCodec) (keeping ⟨7⟩) w₀ w ∧ w.job = none ∧
      Undeleted (w.stores.photos.streams ⟨7⟩) ∧
      ⟨.original, .ready, 69⟩ ∈ (w.stores.photos.entityAt ⟨7⟩).variants ∧
      w.stores.objects ⟨7⟩ .original = some ⟨blackJpeg 95 1 1, "image/png"⟩ ∧
      (blackJpeg 95 1 1).length = 629 ∧ ¬ Faithful signatureFormat w.stores ⟨7⟩ := by
  obtain ⟨w₀, hrun₀, htest⟩ : ∃ w₀, Runs (step blackCodec) (keeping ⟨7⟩) World.init w₀ ∧
      coatUploadedTest "image/png" blackPng w₀ = true ∧ w₀.job = none :=
    exists_runs (coatUploaded "image/png" blackPng) (by decide +kernel)
  have h₀ := uploaded_of_test htest.1
  obtain ⟨w, hrun, hidle, hopen, hmem, hobject⟩ :=
    h₀.recorded htest.2 (processImage_black (.inl rfl))
  refine ⟨w₀, w, hrun₀, h₀, hrun, hidle, hopen, hmem, hobject, length_blackJpeg, ?_⟩
  intro hfaithful
  obtain ⟨object, hobject', hsize, -⟩ := hfaithful _ hmem rfl
  cases hobject.symm.trans hobject'
  exact absurd (hsize.trans length_blackJpeg) (by decide)

end Breakdown.Uploads
