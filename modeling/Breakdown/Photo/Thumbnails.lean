/-
**THE SAGA THAT RENDERS UPLOADED PHOTOS**
(`infra/src/photo/sagas/thumbnail.rs`, `infra/src/photo/storage.rs`).

`process_upload` reads the photo's stream, fetches the original, renders it, overwrites the original
with what it has rendered, stores the two smaller variants, and only then records all three with
commands. It is a job here: every read, store and command is one step, so that a crash, or anybody
else's step, may come between any two of them. The image and EXIF crates are parameters.

- `work`: one step of a job;
- `work_error_iff`: as long as the photo is not deleted, a step fails only where the original is
  fetched and is not there;
- `finish_ok_iff`: a delivery that nobody interrupts returns, and when it returns `Ok`.
-/
import Breakdown.EventStore.SoleWriter
import Breakdown.Aggregates.Photo

namespace Breakdown.Uploads

open EventLog Fallible List Entity

/-! ## §1. Rendering -/

abbrev Bytes := List UInt8

/-- The image and EXIF crates, as far as `process_image` uses them. -/
structure Codec where
  Image : Type
  /-- `image::load_from_memory`. -/
  loadFromMemory : Bytes → Except String Image
  /-- `exif::Reader::read_from_container`: `none` if there is no EXIF data, else the number in the
      orientation field, if it has one. -/
  readExif : Bytes → Option (Option Nat)
  rotate90 : Image → Image
  rotate180 : Image → Image
  rotate270 : Image → Image
  /-- `DynamicImage::thumbnail`. -/
  thumbnail : (width height : Nat) → Image → Image
  /-- `JpegEncoder::new_with_quality(..).encode_image(..)`. -/
  encodeJpeg : (quality : Nat) → Image → Except String Bytes

/-- What `process_image` returns. -/
structure Processed where
  reEncoded : Bytes
  rotated : Bool
  thumbBytes : Bytes
  mediumBytes : Bytes

namespace Codec

variable (codec : Codec)

/-- `apply_orientation`; mirrored orientations are left alone. -/
def applyOrientation (img : codec.Image) (orientation : Nat) : codec.Image × Bool :=
  match orientation with
  | 3 => (codec.rotate180 img, true)
  | 6 => (codec.rotate90 img, true)
  | 8 => (codec.rotate270 img, true)
  | _ => (img, false)

/-- The image turned upright. -/
def upright (img : codec.Image) (bytes : Bytes) : codec.Image × Bool :=
  match codec.readExif bytes with
  | some orientation => codec.applyOrientation img (orientation.getD 1)
  | none => (img, false)

/-- Encode, or say what failed. -/
def encode (what : String) (quality : Nat) (img : codec.Image) : Except String Bytes :=
  match codec.encodeJpeg quality img with
  | .ok bytes => .ok bytes
  | .error e => .error s!"Failed to {what}: {e}"

/-- `process_image`. -/
def processImage (bytes : Bytes) : Except String Processed := match codec.loadFromMemory bytes with
  | .error e => .error s!"Failed to decode image: {e}"
  | .ok img => do
      let image := codec.upright img bytes
      let reEncoded ← codec.encode "re-encode original" 95 image.1
      let thumbBytes ← codec.encode "encode thumbnail" 80 (codec.thumbnail 200 200 image.1)
      let mediumBytes ← codec.encode "encode medium" 85 (codec.thumbnail 800 800 image.1)
      .ok { reEncoded, rotated := image.2, thumbBytes, mediumBytes }

/-- Bytes the encoder has written. -/
def Encoded (bytes : Bytes) : Prop := ∃ quality img, codec.encodeJpeg quality img = .ok bytes

theorem encode_eq_ok {codec : Codec} {what quality img bytes}
    (h : codec.encode what quality img = .ok bytes) : codec.Encoded bytes := by
  unfold encode at h
  split at h
  · next hencode =>
    cases h
    exact ⟨quality, img, hencode⟩
  · cases h

/-- **ALL THREE RESULTS COME OUT OF THE JPEG ENCODER.** -/
theorem processImage_encoded {codec : Codec} {bytes processed}
    (h : codec.processImage bytes = .ok processed) :
    codec.Encoded processed.reEncoded ∧ codec.Encoded processed.thumbBytes ∧
      codec.Encoded processed.mediumBytes := by
  unfold processImage at h
  split at h
  · cases h
  · simp only [seq_eq_ok] at h
    obtain ⟨reEncoded, hre, thumbBytes, hthumb, mediumBytes, hmedium, hall⟩ := h
    cases hall
    exact ⟨encode_eq_ok hre, encode_eq_ok hthumb, encode_eq_ok hmedium⟩

end Codec

/-! ## §2. Black images

What the image crate reads and writes if the image is black, byte for byte: the smallest photo that
really decodes. -/

/-- The `n` lowest bytes of a number, highest first. -/
def bytesOf (n value : Nat) : Bytes :=
  (range n).reverse.map fun i => UInt8.ofNat (value >>> (8 * i))

/-- A PNG of one black pixel in RGB: the signature with `IHDR`, `IDAT` and `IEND`. -/
def blackPng : Bytes :=
  bytesOf 33 0x89504E470D0A1A0A0000000D4948445200000001000000010802000000907753DE ++
    bytesOf 24 0x0000000C49444154789C63606060000000040001F6173855 ++
    bytesOf 12 0x0000000049454E44AE426082

namespace Jpeg

/-- `write_segment`. -/
def segment (marker : UInt8) (payload : Bytes) : Bytes :=
  0xFF :: marker :: bytesOf 2 (payload.length + 2) ++ payload

/-- The luma quantisers of quality 50, in zigzag order. -/
def luma : List Nat :=
  [16, 11, 12, 14, 12, 10, 16, 14, 13, 14, 18, 17, 16, 19, 24, 40, 26, 24, 22, 22, 24, 49, 35, 37,
    29, 40, 58, 51, 61, 60, 57, 51, 56, 55, 64, 72, 92, 78, 64, 68, 87, 69, 55, 56, 80, 109, 81, 87,
    95, 98, 103, 104, 103, 62, 77, 113, 121, 112, 100, 120, 92, 101, 103, 99]

/-- The chroma quantisers of quality 50, in zigzag order. -/
def chroma : List Nat :=
  [17, 18, 18, 24, 21, 24, 47, 26, 26, 47, 99, 66, 56, 66] ++ replicate 50 99

/-- A quantiser scaled to a quality of 50 or more. -/
def scaled (quality value : Nat) : Nat :=
  max 1 (min 255 ((value * (200 - 2 * quality) + 50) / 100))

/-- The AC symbols of the standard luma code, by length. -/
def lumaSymbols : Bytes :=
  bytesOf 39 0x01020300041105122131410613516107227114328191A1082342B1C11552D1F02433627282090A ++
    bytesOf 41 0x161718191A25262728292A3435363738393A434445464748494A535455565758595A63646566676869 ++
    bytesOf 41 0x6A737475767778797A838485868788898A92939495969798999AA2A3A4A5A6A7A8A9AAB2B3B4B5B6B7 ++
    bytesOf 41 0xB8B9BAC2C3C4C5C6C7C8C9CAD2D3D4D5D6D7D8D9DAE1E2E3E4E5E6E7E8E9EAF1F2F3F4F5F6F7F8F9FA

/-- The AC symbols of the standard chroma code, by length. -/
def chromaSymbols : Bytes :=
  bytesOf 39 0x000102031104052131061241510761711322328108144291A1B1C109233352F0156272D10A1624 ++
    bytesOf 41 0x34E125F11718191A262728292A35363738393A434445464748494A535455565758595A636465666768 ++
    bytesOf 41 0x696A737475767778797A82838485868788898A92939495969798999AA2A3A4A5A6A7A8A9AAB2B3B4B5 ++
    bytesOf 41 0xB6B7B8B9BAC2C3C4C5C6C7C8C9CAD2D3D4D5D6D7D8D9DAE2E3E4E5E6E7E8E9EAF2F3F4F5F6F7F8F9FA

/-- Everything before the scan: JFIF, three components without subsampling, the quantisers, the
four standard Huffman codes and the scan header. -/
def header (quality width height : Nat) : Bytes :=
  segment 0xE0 (bytesOf 14 0x4A46494600010200000100010000) ++
    segment 0xC0 (8 :: bytesOf 2 height ++ bytesOf 2 width ++ bytesOf 10 0x03011100021101031101) ++
    segment 0xDB (0 :: luma.map fun value => UInt8.ofNat (scaled quality value)) ++
    segment 0xDB (1 :: chroma.map fun value => UInt8.ofNat (scaled quality value)) ++
    segment 0xC4 (bytesOf 29 0x0000010501010101010100000000000000000102030405060708090A0B) ++
    segment 0xC4 (bytesOf 17 0x100002010303020403050504040000017D ++ lumaSymbols) ++
    segment 0xC4 (bytesOf 29 0x0100030101010101010101010000000000000102030405060708090A0B) ++
    segment 0xC4 (bytesOf 17 0x1100020102040403040705040400010277 ++ chromaSymbols) ++
    segment 0xDA (bytesOf 10 0x03010002110311003F00)

/-- `BitWriter`: codes with their lengths one after the other, the last byte filled with ones, and
a zero after every `FF`. -/
def pack (codes : List (Nat × Nat)) : Bytes :=
  let bits := codes.foldl (fun acc code => (acc.1 + code.1, acc.2 <<< code.1 + code.2)) (0, 0)
  let pad := (8 - bits.1 % 8) % 8
  (bytesOf ((bits.1 + pad) / 8) ((bits.2 + 1) <<< pad - 1)).flatMap fun byte =>
    if byte = 0xFF then [0xFF, 0] else [byte]

/-- The luma code of a DC coefficient with `size` bits, three at least. -/
def dcCode (size : Nat) : Nat × Nat :=
  if size < 6 then (3, size + 1) else (size - 2, 2 ^ (size - 2) - 2)

/-- The scan of `blocks` black blocks. A block is a luma coefficient of -1024, an end of block, and
two empty chroma blocks; only the first one differs from the block before it. -/
def scan (quality blocks : Nat) : Bytes :=
  let quantiser := scaled quality 16
  let coefficient := (2 * 1024 + quantiser) / (2 * quantiser)
  let size := coefficient.log2 + 1
  pack (dcCode size :: (size, 2 ^ size - 1 - coefficient) :: (12, 0xA00) ::
    replicate (blocks - 1) (14, 0xA00))

end Jpeg

/-- `JpegEncoder::encode_image` for a black image. -/
def blackJpeg (quality width height : Nat) : Bytes :=
  0xFF :: 0xD8 :: Jpeg.header quality width height ++
    Jpeg.scan quality ((width + 7) / 8 * ((height + 7) / 8)) ++ [0xFF, 0xD9]

/-- `resize_dimensions`: as large as fits, with the same proportions, and no side empty. -/
def resizeDimensions (width height : Nat) (size : Nat × Nat) : Nat × Nat :=
  if width * size.2 ≤ height * size.1 then
    (width, max 1 ((2 * size.2 * width + size.1) / (2 * size.1)))
  else (max 1 ((2 * size.1 * height + size.2) / (2 * size.2)), height)

/-- The image crate on black images, given by their size: it decodes the PNG of one pixel and the
JPEG it makes of that, neither of which has EXIF data. -/
def blackCodec : Codec where
  Image := Nat × Nat
  loadFromMemory bytes :=
    if bytes = blackPng ∨ bytes = blackJpeg 95 1 1 then .ok (1, 1)
    else .error "The image format could not be determined"
  readExif _ := none
  rotate90 := Prod.swap
  rotate180 := id
  rotate270 := Prod.swap
  thumbnail := resizeDimensions
  encodeJpeg quality size := .ok (blackJpeg quality size.1 size.2)

/-- The PNG of 69 bytes becomes a JPEG of 629, the JPEG becomes itself. -/
theorem processImage_black (h : bytes = blackPng ∨ bytes = blackJpeg 95 1 1) :
    blackCodec.processImage bytes =
      .ok ⟨blackJpeg 95 1 1, false, blackJpeg 80 200 200, blackJpeg 85 800 800⟩ := by
  have hload : blackCodec.loadFromMemory bytes = .ok (1, 1) := if_pos h
  have hthumb : blackCodec.thumbnail 200 200 (1, 1) = (200, 200) := rfl
  have hmedium : blackCodec.thumbnail 800 800 (1, 1) = (800, 800) := rfl
  have hupright : blackCodec.upright (1, 1) bytes = ((1, 1), false) := rfl
  simp only [Codec.processImage, hload, hupright, hthumb, hmedium]
  rfl

theorem length_blackJpeg : (blackJpeg 95 1 1).length = 629 := by decide +kernel

/-! ## §3. Storage -/

/-- An object with its content type; `content_length` is the number of its bytes. -/
structure StoredObject where
  bytes : Bytes
  contentType : String
  deriving DecidableEq

/-- The event store and the object storage. -/
structure Stores where
  photos : ActorSystem PhotoId PhotoAggregate
  objects : PhotoId → PhotoVariant → Option StoredObject

namespace Stores

/-- `PhotoStorage::store`: overwrites. -/
def store (s : Stores) (id : PhotoId) (variant : PhotoVariant) (object : StoredObject) : Stores :=
  let objects := Function.update (s.objects id) variant (some object)
  { s with objects := Function.update s.objects id objects }

/-- `PhotoStorage::delete_all`. -/
def deleteAll (s : Stores) (id : PhotoId) : Stores :=
  { s with objects := Function.update s.objects id fun _ => none }

end Stores

/-! ## §4. `process_upload` as a job -/

/-- One effect of `process_upload` after it has fetched the original. -/
inductive Op
  | store (variant : PhotoVariant) (object : StoredObject)
  /-- `PhotoAggregate::execute` with `ExpectedVersion::Any`. -/
  | execute (cmd : PhotoCommand)

/-- Where a delivery stands, with the local variables it still needs. -/
inductive Job
  /-- Before `current_photo_state`. -/
  | read (id : PhotoId)
  /-- Before `storage.fetch`. -/
  | fetch (id : PhotoId) (state : PhotoAggregate)
  /-- The stores and commands still to come. -/
  | perform (id : PhotoId) (ops : List Op)
  /-- In `mark_variants_failed`: the variants still to come. -/
  | markFailed (id : PhotoId) (variants : List PhotoVariant) (expected : AggregateVersion)
      (error : String)

def Job.photo : Job → PhotoId
  | .read id => id
  | .fetch id _ => id
  | .perform id _ => id
  | .markFailed id _ _ _ => id

/-- Why `process_upload` returns an error. -/
inductive ThumbnailError
  /-- `storage.fetch` found no original, which `map_storage_error` makes a validation error. -/
  | validation
  | execute (error : ExecuteError PhotoError)
  deriving DecidableEq

/-- What a step leads to. -/
inductive Progress
  | goesOn (job : Job)
  | returns (result : Except ThumbnailError Unit)

/-- All three variants are `Ready`. -/
def isComplete (state : PhotoAggregate) : Bool :=
  state.variants.length = 3 && state.variants.all fun record => record.status = .ready

/-- `derived_variants_failed`. -/
def derivedVariantsFailed (state : PhotoAggregate) : Bool :=
  [PhotoVariant.thumb, .medium].all fun kind =>
    state.variants.any fun record => record.kind = kind && record.status = .failed

/-- There is nothing left to do for the photo. -/
def isTerminal (state : PhotoAggregate) : Bool :=
  state.deleted || isComplete state || derivedVariantsFailed state

/-- The objects to store: what is `Ready` is not overwritten, and the original keeps the content type
it was uploaded with. -/
def storeOps (state : PhotoAggregate) (contentType : String) (processed : Processed) : List Op :=
  (if state.isReady .original then []
    else [.store .original ⟨processed.reEncoded, contentType⟩]) ++
  (if state.isReady .thumb then [] else [.store .thumb ⟨processed.thumbBytes, "image/jpeg"⟩]) ++
  if state.isReady .medium then [] else [.store .medium ⟨processed.mediumBytes, "image/jpeg"⟩]

/-- The commands that record them. The size of the original is that of the bytes FETCHED. -/
def recordOps (id : PhotoId) (fetched : Bytes) (processed : Processed) : List Op :=
  [.execute (.normalizeOriginal ⟨id, fetched.length, processed.rotated, .initial⟩),
    .execute (.generateVariant ⟨id, .thumb, processed.thumbBytes.length, .initial⟩),
    .execute (.generateVariant ⟨id, .medium, processed.mediumBytes.length, .initial⟩)]

/-- What is to be done with the fetched original. -/
def afterFetch (codec : Codec) (id : PhotoId) (state : PhotoAggregate) (object : StoredObject) : Job :=
  match codec.processImage object.bytes with
  | .ok processed =>
    .perform id (storeOps state object.contentType processed ++ recordOps id object.bytes processed)
  | .error e => .markFailed id [.thumb, .medium] state.version e

/-- One step of `process_upload`, on instance `i`; `outcome` is what happens to its append, if it makes
one. -/
def work (codec : Codec) (i : InstanceId) (outcome : AppendOutcome) (s : Stores) :
    Job → Stores × Progress
  | .read id =>
    -- the stream itself is read, not the actor's cache
    let state := s.photos.entityAt id
    (s, if isTerminal state then .returns (.ok ()) else .goesOn (.fetch id state))
  | .fetch id state =>
    match s.objects id .original with
    | some object => (s, .goesOn (afterFetch codec id state object))
    | none => (s, .returns (.error .validation))
  | .perform id ops =>
    match ops with
    | [] => (s, .returns (.ok ()))
    | .store variant object :: ops => (s.store id variant object, .goesOn (.perform id ops))
    | .execute cmd :: ops =>
      let executed := s.photos.executeAt i id .any cmd outcome
      ({ s with photos := executed.1 },
        -- `map_saga_execute`: no events is success
        match executed.2 with
        | .ok _ => .goesOn (.perform id ops)
        | .error e => .returns (.error (.execute e)))
  | .markFailed id variants expected error =>
    match variants with
    | [] => (s, .returns (.ok ()))
    | variant :: variants =>
      let executed := s.photos.executeAt i id .any
        (.markVariantFailed ⟨id, variant, error, expected⟩) outcome
      ({ s with photos := executed.1 },
        -- an error is logged and swallowed
        match executed.2 with
        | .ok _ => .goesOn (.markFailed id variants expected.next error)
        | .error _ => .goesOn (.markFailed id variants expected error))

/-- A delivery that nobody interrupts, in at most `n` steps. -/
def finish (codec : Codec) (i : InstanceId) : Nat → Stores → Job →
    Option (Stores × Except ThumbnailError Unit)
  | 0, _, _ => none
  | n + 1, s, job =>
    match work codec i .acknowledged s job with
    | (s', .returns result) => some (s', result)
    | (s', .goesOn job') => finish codec i n s' job'

/-! ## §5. What a step can do -/

/-- No event of the stream deletes the photo. -/
def Undeleted (log : List PhotoEvent) : Prop := ∀ e ∈ log, e.isPhotoDeleted = false

theorem Undeleted.append (h : Undeleted log) (h' : Undeleted events) :
    Undeleted (log ++ events) := by
  intro e he
  obtain he | he := mem_append.1 he
  · exact h e he
  · exact h' e he

theorem Undeleted.of_seen {seen} (h : Undeleted log) (hseen : seen <+: log) :
    Undeleted seen := fun e he => h e (hseen.subset he)

theorem deleted_apply (s : PhotoAggregate) (e : PhotoEvent) :
    (s.apply e).deleted = (s.deleted || e.isPhotoDeleted) := by
  cases e <;> simp [PhotoAggregate.apply, PhotoEvent.isPhotoDeleted]

theorem deleted_replay_iff : (replay PhotoAggregate log).deleted = false ↔ Undeleted log := by
  induction log using reverseRecOn with
  | nil => exact iff_of_true rfl (by simp [Undeleted])
  | append_singleton log e ih =>
    rw [replay_append]
    show ((replay PhotoAggregate log).apply e).deleted = false ↔ _
    rw [deleted_apply, Bool.or_eq_false_iff, ih]
    simp [Undeleted, or_imp, forall_and]

/-- The two commands that record a variant: an undeleted photo accepts them. -/
def Recording : PhotoCommand → Prop
  | .normalizeOriginal _ => True
  | .generateVariant _ => True
  | _ => False

theorem Recording.handle_ok (h : Recording cmd) {self : PhotoAggregate}
    (hopen : self.deleted = false) : ∃ events, self.handle cmd = .ok events := by
  cases cmd with
  | normalizeOriginal | generateVariant =>
    simp only [PhotoAggregate.handle, PhotoAggregate.normalizeOriginal,
      PhotoAggregate.generateVariant, PhotoAggregate.checkNotDeleted, hopen, Bool.not_false,
      check_eq_ok]
    split <;> exact ⟨_, rfl, rfl⟩
  | _ => cases h

/-- The commands of a job are recording ones. -/
def Job.Sound : Job → Prop
  | .perform _ ops => ∀ cmd, Op.execute cmd ∈ ops → Recording cmd
  | _ => True

theorem afterFetch_sound (codec id state object) : (afterFetch codec id state object).Sound := by
  unfold afterFetch
  split
  · next processed _ =>
    intro cmd hcmd
    obtain hstore | hrecord := mem_append.1 hcmd
    · -- no command among the stores
      simp only [storeOps, mem_append] at hstore
      obtain (hstore | hstore) | hstore := hstore <;> split at hstore <;> simp at hstore
    · simp only [recordOps, mem_cons, Op.execute.injEq, not_mem_nil, or_false] at hrecord
      obtain rfl | rfl | rfl := hrecord <;> trivial
  · trivial

/-- The steps a job has left, at most. -/
def Job.size : Job → Nat
  | .read _ => 9
  | .fetch _ _ => 8
  | .perform _ ops => ops.length + 1
  | .markFailed _ variants _ _ => variants.length + 1

theorem afterFetch_size (codec id state object) : (afterFetch codec id state object).size < 8 := by
  unfold afterFetch
  split
  · simp only [Job.size, storeOps, recordOps, length_append, length_cons, length_nil]
    split <;> split <;> split <;> simp
  · simp [Job.size]

section Steps

variable {codec : Codec} {i : InstanceId} {outcome : AppendOutcome} {s s' : Stores} {job job' : Job}

/-- A step goes on with the same photo, a sound job stays sound, and less is left to do. -/
theorem work_goesOn (hsound : job.Sound) (h : work codec i outcome s job = (s', .goesOn job')) :
    job'.photo = job.photo ∧ job'.Sound ∧ job'.size < job.size := by
  cases job with
  | read =>
    simp only [work, Prod.mk.injEq] at h
    obtain ⟨-, h⟩ := h
    split at h
    · cases h
    · cases h
      exact ⟨rfl, trivial, by simp [Job.size]⟩
  | fetch =>
    simp only [work] at h
    split at h
    · next object _ =>
      cases h
      refine ⟨?_, afterFetch_sound .., afterFetch_size ..⟩
      unfold afterFetch
      split <;> rfl
    · cases h
  | perform id ops =>
    cases ops with
    | nil => cases h
    | cons op ops =>
      have hrest : Job.Sound (.perform id ops) := fun cmd hcmd => hsound cmd (mem_cons_of_mem _ hcmd)
      cases op with
      | store =>
        cases h
        exact ⟨rfl, hrest, by simp [Job.size]⟩
      | execute =>
        simp only [work, Prod.mk.injEq] at h
        obtain ⟨-, h⟩ := h
        split at h
        · cases h
          exact ⟨rfl, hrest, by simp [Job.size]⟩
        · cases h
  | markFailed id variants =>
    cases variants with
    | nil => cases h
    | cons =>
      simp only [work, Prod.mk.injEq] at h
      obtain ⟨-, h⟩ := h
      split at h <;> cases h <;> exact ⟨rfl, trivial, by simp [Job.size]⟩

/-- The commands a job sends: neither uploads nor deletions. -/
def OfSaga (cmd : PhotoCommand) : Prop := (∀ c, cmd ≠ .upload c) ∧ cmd.isDelete = false

theorem Recording.ofSaga (h : Recording cmd) : OfSaga cmd := by
  cases cmd with
  | normalizeOriginal | generateVariant => exact ⟨nofun, rfl⟩
  | _ => cases h

/-- **WHAT A STEP WRITES**: nothing, an object of the job's photo, or a command on its stream. -/
theorem work_writes (hsound : job.Sound) (codec i outcome s) : (work codec i outcome s job).1 = s ∨
      (∃ variant object, (work codec i outcome s job).1 = s.store job.photo variant object) ∨
      ∃ cmd, OfSaga cmd ∧ (work codec i outcome s job).1 =
        { s with photos := (s.photos.executeAt i job.photo .any cmd outcome).1 } := by
  cases job with
  | read => exact .inl rfl
  | fetch =>
    left
    simp only [work]
    split <;> rfl
  | perform id ops =>
    cases ops with
    | nil => exact .inl rfl
    | cons op =>
      cases op with
      | store variant object => exact .inr (.inl ⟨variant, object, rfl⟩)
      | execute cmd => exact .inr (.inr ⟨cmd, (hsound cmd mem_cons_self).ofSaga, rfl⟩)
  | markFailed id variants expected error =>
    cases variants with
    | nil => exact .inl rfl
    | cons variant =>
      exact .inr (.inr ⟨.markVariantFailed ⟨id, variant, error, expected⟩, ⟨nofun, rfl⟩, rfl⟩)

/-- Steps delete no photo. -/
theorem work_undeleted (hsound : job.Sound) (codec i outcome)
    (h : ∀ id, Undeleted (s.photos.streams id)) (id) :
    Undeleted ((work codec i outcome s job).1.photos.streams id) := by
  obtain hs | ⟨variant, object, hs⟩ | ⟨cmd, ⟨-, hcmd⟩, hs⟩ := work_writes hsound codec i outcome s
  · rw [hs]
    exact h id
  · rw [hs]
    exact h id
  · rw [hs]
    refine (s.photos.executeAt_advance i job.photo .any cmd outcome).forall_streams
      (fun _ log => Undeleted log) h ?_ id
    intro events hdecided
    refine (h job.photo).append fun e he => ?_
    exact PhotoAggregate.handle_photoDeleted hdecided.handled hcmd he

/-- A recording command on an undeleted photo is answered with success. -/
theorem executeAt_recording {id : PhotoId} (hcmd : Recording cmd)
    (h : Undeleted (s.photos.streams id)) (i) :
    ∃ result, (s.photos.executeAt i id .any cmd .acknowledged).2 = .ok result := by
  have hhandle : ∀ seen, seen <+: s.photos.streams id →
      ∃ events, (replay PhotoAggregate seen).handle cmd = .ok events :=
    fun seen hseen => hcmd.handle_ok (deleted_replay_iff.2 (h.of_seen hseen))
  obtain ⟨result, hresult, -⟩ := SoleWriter.executeAt_any hhandle i
  exact ⟨result, hresult⟩

/-- **A STEP FAILS ONLY WHERE THE ORIGINAL IS MISSING**, as long as the photo is not deleted. -/
theorem work_error_iff (hsound : job.Sound) (h : Undeleted (s.photos.streams job.photo)) (codec i) :
    (∃ e, (work codec i .acknowledged s job).2 = .returns (.error e)) ↔
      ∃ id state, job = .fetch id state ∧ s.objects id .original = none := by
  constructor
  · rintro ⟨e, he⟩
    cases job with
    | read =>
      simp only [work] at he
      split at he <;> cases he
    | fetch id state =>
      simp only [work] at he
      split at he
      · cases he
      · next hnone => exact ⟨id, state, rfl, hnone⟩
    | perform id ops =>
      cases ops with
      | nil => cases he
      | cons op =>
        cases op with
        | store => cases he
        | execute cmd =>
          obtain ⟨result, hresult⟩ := executeAt_recording (hsound cmd mem_cons_self) h i
          simp only [work] at he
          rw [show (s.photos.executeAt i id .any cmd .acknowledged).2 = .ok result from hresult] at he
          cases he
    | markFailed id variants =>
      cases variants with
      | nil => cases he
      | cons =>
        simp only [work] at he
        split at he <;> cases he
  · rintro ⟨id, state, rfl, hnone⟩
    exact ⟨.validation, by simp only [work, hnone]⟩

end Steps

/-! ## §6. Uninterrupted deliveries -/

section Finish

variable {codec : Codec} {i : InstanceId}

/-- The original is fetched: stores and commands are left. -/
def Job.Fetched : Job → Prop
  | .read _ => False
  | .fetch _ _ => False
  | _ => True

theorem afterFetch_fetched (codec id state object) : (afterFetch codec id state object).Fetched := by
  unfold afterFetch
  split <;> trivial

theorem work_fetched (hjob : job.Fetched)
    (h : work codec i outcome s job = (s', .goesOn job')) : job'.Fetched := by
  cases job with
  | read | fetch => cases hjob
  | perform id ops =>
    cases ops with
    | nil => cases h
    | cons op =>
      cases op with
      | store =>
        cases h
        trivial
      | execute =>
        simp only [work, Prod.mk.injEq] at h
        obtain ⟨-, h⟩ := h
        split at h <;> cases h
        trivial
  | markFailed id variants =>
    cases variants with
    | nil => cases h
    | cons =>
      simp only [work, Prod.mk.injEq] at h
      obtain ⟨-, h⟩ := h
      split at h <;> cases h <;> trivial

/-- Once the original is fetched, a delivery returns `Ok`. -/
theorem finish_ok (hsound : job.Sound) (hopen : ∀ id, Undeleted (s.photos.streams id))
    (hjob : job.Fetched) (hn : job.size ≤ n) :
    ∃ s', finish codec i n s job = some (s', .ok ()) := by
  induction n generalizing s job with
  | zero => cases job <;> simp [Job.size] at hn
  | succ n ih =>
    unfold finish
    have hnot : ¬ ∃ e, (work codec i .acknowledged s job).2 = .returns (.error e) := by
      rw [work_error_iff hsound (hopen job.photo) codec i]
      rintro ⟨id, state, rfl, -⟩
      cases hjob
    have hopen' := work_undeleted hsound codec i .acknowledged hopen
    rcases hwork : work codec i .acknowledged s job with ⟨s', progress⟩
    rw [hwork] at hnot hopen'
    cases progress with
    | returns result =>
      cases result with
      | ok => exact ⟨s', rfl⟩
      | error e => exact absurd ⟨e, rfl⟩ hnot
    | goesOn =>
      obtain ⟨-, hsound', hsize⟩ := work_goesOn hsound hwork
      exact ih hsound' hopen' (work_fetched hjob hwork) (by omega)

/-- **WHEN A DELIVERY RETURNS `Ok`**: the photo is terminal, or its original is there. -/
theorem finish_ok_iff (hopen : ∀ id, Undeleted (s.photos.streams id)) (id) :
    (∃ s', finish codec i 9 s (.read id) = some (s', .ok ())) ↔
      isTerminal (s.photos.entityAt id) ∨ (s.objects id .original).isSome := by
  rw [show (9 : Nat) = 7 + 1 + 1 from rfl, finish]
  simp only [work]
  by_cases hterminal : isTerminal (s.photos.entityAt id) = true
  · simp [hterminal]
  · simp only [hterminal, Bool.false_eq_true, if_false, false_or]
    rw [finish]
    simp only [work]
    cases hobject : s.objects id .original with
    | none => simp
    | some object =>
      refine iff_of_true ?_ rfl
      have hsize := afterFetch_size codec id (s.photos.entityAt id) object
      exact finish_ok (afterFetch_sound ..) hopen (afterFetch_fetched ..) (by omega)

end Finish

end Breakdown.Uploads
