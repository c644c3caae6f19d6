import Mathlib.Data.List.Induction
import Wlcodex.Runtime.RetentionInvariant

namespace Wlcodex.Runtime

open Wlcodex.Lib

/-! No frame is lost between the database and the archive directory. -/

namespace Retention

variable {words : WordClass} {sha256 : List Char → String} {texts : Set (List Char)}
  {lifetime : Nat} {state next : Retention}

def Retired (state : Retention) (frameId : Nat) : Prop :=
  ∃ entry archive, state.frames.index.find? frameId = some entry ∧
    state.frames.archives.find? entry.archiveId = some archive ∧
    archive.purgePendingAt.isSome ∧ archive.manifest.expiresAt ≤ state.clock

def Belongs (store : FrameStore) (frameId : Nat)
    (manifest : ArchiveManifest) : Prop :=
  ∃ entry, store.index.find? frameId = some entry ∧
    ∃ archive, store.archives.find? entry.archiveId = some archive ∧ archive.manifest = manifest

def Readable (words : WordClass) (sha256 : List Char → String) (state : Retention)
    (row : RawFrameRow) : Prop :=
  ∃ record entry archive, Shelved words sha256 state.frames state.files row record entry archive

variable {row : RawFrameRow} {archive : ArchiveRow}

theorem shelved_files {store : FrameStore} {files later : ArchiveFiles} {record : List (String × Json)} {entry : IndexRow} (shelved : Shelved words sha256 store files row record entry archive)
    (change : FileChange texts store.archives files later) :
    Shelved words sha256 store later row record entry archive := by
  obtain ⟨manifest, sealed, valid⟩ := shelved.sealed
  obtain ⟨content, present, placed⟩ := shelved.placed
  have listed := (Keyed.find?_eq_some_iff.mp shelved.listed).1
  -- no path of a live archive is written or removed
  have alive : ∀ target, Dead store.archives target →
      archive.manifest.relativePath ≠ target.relativePath := by
    intro target dead same
    have marked := dead archive listed (.inr same)
    rw [shelved.live] at marked
    cases marked
  cases change with
  | same => exact shelved
  | writeArchive path text absent _ =>
      have other : archive.manifest.relativePath ≠ path := by
        rintro rfl
        rw [absent] at present
        cases present
      exact { shelved with placed := ⟨content, by simpa [other] using present, placed⟩ }
  | writeManifest path written absent =>
      have other : archive.manifest.relativePath ≠ path := by
        rintro rfl
        rw [absent] at sealed
        cases sealed
      exact { shelved with sealed := ⟨manifest, by simpa [other] using sealed, valid⟩ }
  | unlinkArchive target dead =>
      have other := alive target dead
      exact { shelved with placed := ⟨content, by simpa [other] using present, placed⟩ }
  | unlinkManifest target dead =>
      have other := alive target dead
      exact { shelved with sealed := ⟨manifest, by simpa [other] using sealed, valid⟩ }

theorem shelved_commit {rows : List RawFrameRow} {manifest : ArchiveManifest}
    {store later : FrameStore} {files : ArchiveFiles} {record : List (String × Json)} {entry : IndexRow}
    (moved : store.archiveRows rows manifest = some later)
    (shelved : Shelved words sha256 store files row record entry archive) :
    Shelved words sha256 later files row record entry archive := by
  obtain ⟨archives, inserted, _, _, rfl⟩ := FrameStore.archiveRows_some moved
  refine { shelved with
    indexed := FrameStore.find?_foldl_insertIndex shelved.indexed _
    listed := ?_ }
  rcases FrameStore.insertArchive_some inserted with ⟨same, _⟩ | ⟨inserted, _⟩
  · exact same ▸ shelved.listed
  · obtain ⟨member, key⟩ := Keyed.find?_eq_some_iff.mp shelved.listed
    exact Keyed.find?_eq_some_iff.mpr ⟨(Keyed.mem_insert? inserted).mpr (.inr member), key⟩

theorem readable_change (readable : Readable words sha256 state row)
    (change : Change words sha256 texts state next) :
    Readable words sha256 next row ∨ Retired next row.id := by
  obtain ⟨record, entry, archive, shelved⟩ := readable
  obtain ⟨listed, key⟩ := Keyed.find?_eq_some_iff.mp shelved.listed
  cases change with
  | files frames files =>
      refine .inl ⟨record, entry, archive, ?_⟩
      rw [frames]
      exact shelved_files shelved files
  | install frames files =>
      refine .inl ⟨record, entry, archive, ?_⟩
      rw [frames, files]
      exact { shelved with }
  | append input frames files =>
      refine .inl ⟨record, entry, archive, ?_⟩
      have index : next.frames.index = state.frames.index := by
        rw [frames, FrameStore.appendProviderRawFrame]
        split <;> rfl
      have archives : next.frames.archives = state.frames.archives := by
        rw [frames, archives_append]
      rw [files]
      exact { shelved with
        indexed := index ▸ shelved.indexed
        listed := archives ▸ shelved.listed }
  | commit batch manifest prepared hot present sealed valid moved files =>
      refine .inl ⟨record, entry, archive, ?_⟩
      rw [files]
      exact shelved_commit moved shelved
  | mark target now due past frames files clock =>
      by_cases own : archive.archiveId = target.archiveId
      · refine .inr ⟨entry,
          { archive with purgePendingAt := some (archive.purgePendingAt.getD now) },
          by rw [frames]; exact shelved.indexed, Keyed.find?_eq_some_iff.mpr ⟨?_, key⟩, rfl, ?_⟩
        · rw [frames]
          exact Keyed.mem_update.mpr (.inl ⟨archive, listed, decide_eq_true own, rfl⟩)
        · exact (((due archive listed).1 own).trans past).trans clock
      · refine .inl ⟨record, entry, archive, ?_⟩
        rw [frames, files]
        refine { shelved with listed := Keyed.find?_eq_some_iff.mpr ⟨?_, key⟩ }
        exact Keyed.mem_update.mpr (.inr ⟨listed, decide_eq_false own⟩)
  | drop target dead frames files =>
      refine .inl ⟨record, entry, archive, ?_⟩
      have other : archive.archiveId ≠ target.archiveId := by
        intro same
        have marked := dead archive listed (.inl same)
        rw [shelved.live] at marked
        cases marked
      obtain ⟨indexed, frameKey⟩ := Keyed.find?_eq_some_iff.mp shelved.indexed
      rw [frames, files]
      refine { shelved with
        indexed := Keyed.find?_eq_some_iff.mpr ⟨Keyed.mem_erase.mpr ⟨indexed, ?_⟩, frameKey⟩
        listed := Keyed.find?_eq_some_iff.mpr
          ⟨Keyed.mem_erase.mpr ⟨listed, decide_eq_false other⟩, key⟩ }
      rw [← key]
      exact decide_eq_false other

theorem archive_is_new (sound : Sound words sha256 texts state) (apart : Set.InjOn sha256 texts)
    {batch : Batch} (prepared : Prepared words sha256 texts batch)
    (hot : ∀ row ∈ batch.rows, row ∈ state.frames.frames) (member : archive ∈ state.frames.archives) :
    archive.archiveId ≠ batch.manifest.archiveId := by
  intro same
  obtain ⟨rows, records, _, written, recorded, known, hashed, gone⟩ := sound.packed archive member
  obtain ⟨ownRecords, ownRecorded, bytes⟩ := prepared.recorded
  have text : archiveBytes records = archiveBytes ownRecords := by
    rw [← bytes]
    exact apart known prepared.known (hashed.symm.trans (same.trans prepared.hashed))
  have ids := ids_of_archiveBytes written prepared.written recorded ownRecorded text
  obtain ⟨row, inside⟩ := List.exists_mem_of_ne_nil batch.rows prepared.some_
  have listed : row.id ∈ rows.map RawFrameRow.id := ids ▸ List.mem_map_of_mem inside
  obtain ⟨old, oldMember, sameId⟩ := List.mem_map.mp listed
  exact (gone old oldMember).2 row (hot row inside) sameId.symm

theorem readable_commit (sound : Sound words sha256 texts state) (apart : Set.InjOn sha256 texts)
    {batch : Batch} {manifest : ArchiveManifest} (prepared : Prepared words sha256 texts batch)
    (hot : ∀ row ∈ batch.rows, row ∈ state.frames.frames)
    (present : state.files.archives batch.manifest.relativePath = some batch.bytes)
    (sealed : state.files.manifests batch.manifest.relativePath = some manifest)
    (valid : ManifestValid manifest batch.manifest.archiveId batch.manifest.relativePath)
    (moved : state.frames.archiveRows batch.rows manifest = some next.frames)
    (files : next.files = state.files) (inside : row ∈ batch.rows) :
    Readable words sha256 next row := by
  obtain ⟨format, archiveId, hashed, path⟩ := valid
  obtain ⟨records, recorded, bytes⟩ := prepared.recorded
  obtain ⟨position, placed, entered⟩ :=
    FrameStore.mem_indexRows manifest.archiveId 1 inside
  obtain ⟨record, own, read⟩ := readArchiveRecordAt_batch prepared.written recorded placed
  obtain ⟨archives, inserted, _, indexed, eq⟩ := FrameStore.archiveRows_some moved
  obtain ⟨entry, found, entryArchive, entryLine⟩ := indexed _ entered
  have fresh : state.frames.archives.insert? ⟨manifest, none⟩ = some archives := by
    rcases FrameStore.insertArchive_some inserted with ⟨_, archive, member, same⟩ | ⟨inserted, _⟩
    · exact absurd (same.trans archiveId) (archive_is_new sound apart prepared hot member)
    · exact inserted
  refine ⟨record, entry, ⟨manifest, none⟩, ?_⟩
  rw [eq, files]
  refine ⟨own, found, ?_, rfl, ?_, ?_, ?_⟩
  · exact Keyed.find?_eq_some_iff.mpr
      ⟨(Keyed.mem_insert? fresh).mpr (.inl rfl), entryArchive.symm⟩
  · exact hashed.trans archiveId.symm
  · refine ⟨manifest, path ▸ sealed, ?_⟩
    exact ⟨format, rfl, hashed.trans archiveId.symm, rfl⟩
  · refine ⟨batch.bytes, path ▸ present, ?_⟩
    have line : entry.archiveLine = position + 1 := entryLine.trans (Nat.add_comm 1 position)
    have id : (⟨manifest, none⟩ : ArchiveRow).archiveId = sha256 (archiveBytes records) := by
      rw [← bytes, ← prepared.hashed]
      exact archiveId
    rw [line, id, bytes]
    exact read

theorem hot_change (sound : Sound words sha256 texts state) (apart : Set.InjOn sha256 texts)
    (change : Change words sha256 texts state next) (hot : row ∈ state.frames.frames) :
    row ∈ next.frames.frames ∨ Readable words sha256 next row := by
  cases change with
  | files frames => exact .inl (frames ▸ hot)
  | install frames =>
      rw [frames]
      exact .inl hot
  | append input frames =>
      rw [frames]
      exact .inl ((FrameStore.mem_appendProviderRawFrame sound.held.fresh input row).mpr (.inr hot))
  | commit batch manifest prepared batchHot present sealed valid moved files =>
      by_cases taken : row.id ∈ batch.rows.map RawFrameRow.id
      · obtain ⟨own, inside, same⟩ := List.mem_map.mp taken
        have eq : own = row := state.frames.frames.eq_of_key (batchHot own inside) hot same
        exact .inr (eq ▸ readable_commit sound apart prepared batchHot present sealed valid moved
          files inside)
      · exact .inl ((FrameStore.mem_archived moved row).mpr ⟨hot, taken⟩)
  | mark target now due past frames =>
      rw [frames]
      exact .inl hot
  | drop target dead frames =>
      rw [frames]
      exact .inl hot

theorem Change.clock_le (change : Change words sha256 texts state next) :
    state.clock ≤ next.clock := by
  cases change with
  | files frames files clock => exact clock
  | install frames files clock => exact clock
  | append input frames files clock => exact clock
  | commit batch manifest prepared hot present sealed valid moved files clock => exact clock
  | mark target now due past frames files clock => exact clock
  | drop target dead frames files clock => exact clock

section Run

variable (words : WordClass) (sha256 : List Char → String) (lifetime : Nat)

variable (events : List RetentionEvent)

def archiveTexts : Set (List Char) :=
  { text | ∃ earlier, earlier <+: events ∧
    ∃ batch ∈ (after words sha256 lifetime earlier).worker.batch?, batch.bytes = text }

def Expired (frameId : Nat) : Prop :=
  ∃ earlier manifest, earlier <+: events ∧
    Belongs (after words sha256 lifetime earlier).frames frameId manifest ∧
      manifest.expiresAt ≤ (after words sha256 lifetime events).clock

def RetiredIn (frameId : Nat) : Prop :=
  ∃ earlier, earlier <+: events ∧ Retired (after words sha256 lifetime earlier) frameId ∧
    (after words sha256 lifetime earlier).clock ≤ (after words sha256 lifetime events).clock

def Placed (row : RawFrameRow) : Prop :=
  row ∈ (after words sha256 lifetime events).frames.frames ∨
    Readable words sha256 (after words sha256 lifetime events) row ∨
    RetiredIn words sha256 lifetime events row.id

variable {words sha256 lifetime}

theorem after_concat (event : RetentionEvent) :
    after words sha256 lifetime (events ++ [event]) =
      (after words sha256 lifetime events).step words sha256 lifetime event := by
  rw [after, List.foldl_append]
  rfl

theorem archiveTexts_concat {events : List RetentionEvent} {event : RetentionEvent}
    (named : archiveTexts words sha256 lifetime (events ++ [event]) ⊆ texts) :
    archiveTexts words sha256 lifetime events ⊆ texts ∧
      Named words sha256 texts lifetime (after words sha256 lifetime events) event := by
  constructor
  · rintro text ⟨earlier, before, batch⟩
    exact named ⟨earlier, before.trans (List.prefix_append events [event]), batch⟩
  · intro batch inHand
    refine named ⟨events ++ [event], List.prefix_rfl, batch, ?_, rfl⟩
    rwa [after_concat]

theorem sound_after (apart : Set.InjOn sha256 texts) (events : List RetentionEvent)
    (named : archiveTexts words sha256 lifetime events ⊆ texts) :
    Sound words sha256 texts (after words sha256 lifetime events) := by
  induction events using List.reverseRecOn with
  | nil => exact sound_initial
  | append_singleton events event ih =>
      obtain ⟨before, here⟩ := archiveTexts_concat named
      rw [after_concat]
      exact (ih before).step apart event here

theorem placed_concat (apart : Set.InjOn sha256 texts) {events : List RetentionEvent} {event : RetentionEvent}
    (named : archiveTexts words sha256 lifetime (events ++ [event]) ⊆ texts) {row : RawFrameRow}
    (placed : Placed words sha256 lifetime events row) :
    Placed words sha256 lifetime (events ++ [event]) row := by
  obtain ⟨before, here⟩ := archiveTexts_concat named
  have sound := sound_after apart events before
  have change := (change_step sound apart event here).1
  rcases placed with hot | readable | ⟨earlier, inside, retired, past⟩
  · rcases hot_change sound apart change hot with stays | shelved
    · exact .inl (by rwa [after_concat])
    · exact .inr (.inl (by rwa [after_concat]))
  · rcases readable_change readable change with stays | retired
    · exact .inr (.inl (by rwa [after_concat]))
    · exact .inr (.inr ⟨events ++ [event], List.prefix_rfl, by rwa [after_concat], le_rfl⟩)
  · refine .inr (.inr ⟨earlier, inside.trans (List.prefix_append events [event]), retired, ?_⟩)
    rw [after_concat]
    exact past.trans change.clock_le

theorem placed_after (apart : Set.InjOn sha256 texts) (events : List RetentionEvent)
    (named : archiveTexts words sha256 lifetime events ⊆ texts) {earlier : List RetentionEvent}
    (before : earlier <+: events) {row : RawFrameRow}
    (stored : row ∈ (after words sha256 lifetime earlier).frames.frames) :
    Placed words sha256 lifetime events row := by
  induction events using List.reverseRecOn with
  | nil =>
      rw [List.prefix_nil] at before
      exact .inl (before ▸ stored)
  | append_singleton events event ih =>
      rcases List.prefix_concat_iff.mp before with rfl | inside
      · exact .inl stored
      · exact placed_concat apart named (ih (archiveTexts_concat named).1 inside)

end Run

/-- A frame that was ever stored is still hot, or indexed and read from its archive,
or its archive has expired; at the end of every run, so at every moment of one. -/
theorem raw_frame_never_lost (words : WordClass) (sha256 : List Char → String) (lifetime : Nat)
    (events : List RetentionEvent)
    (collisionFree : Set.InjOn sha256 (archiveTexts words sha256 lifetime events))
    (earlier : List RetentionEvent) (before : earlier <+: events) (row : RawFrameRow)
    (stored : row ∈ (after words sha256 lifetime earlier).frames.frames) :
    row ∈ (after words sha256 lifetime events).frames.frames ∨
      (∃ entry record,
        (after words sha256 lifetime events).frames.index.find? row.id = some entry ∧
          readArchivedProviderRawFrame sha256 (after words sha256 lifetime events).frames
            (after words sha256 lifetime events).files row.id = .found record ∧
          Recorded words sha256 row record) ∨
      Expired words sha256 lifetime events row.id := by
  rcases placed_after collisionFree events subset_rfl before stored with
    hot | ⟨record, entry, archive, shelved⟩ |
      ⟨moment, inside, ⟨entry, archive, indexed, listed, _, expired⟩, past⟩
  · exact .inl hot
  · exact .inr (.inl ⟨entry, record, shelved.indexed, shelved.read, shelved.recorded⟩)
  · exact .inr (.inr ⟨moment, archive.manifest, inside, ⟨entry, indexed, archive, listed, rfl⟩,
      expired.trans past⟩)

def emptyPayload : JsonObject := ⟨[], Json.wellKeyed_empty⟩

def keptInput : FrameInput :=
  { turn := ⟨"codex", "app-server", "s", "t"⟩, sequence := 1, rawKind := "event"
    rawPayload := emptyPayload, occurredAt := "2024-01-01T00:00:00+00:00" }

def keptLine : List Char :=
  archiveLine (recordOf
    (fun _ => "44136fa355b3678a1146ad16f7e8649e94fb4fc21fe77e8310c060f61caaff8a")
    (FrameStore.newFrame plainWords 1 keptInput) [])

def keptDigest (text : List Char) : String :=
  if text = "\x7b\x7d".toList then
    "44136fa355b3678a1146ad16f7e8649e94fb4fc21fe77e8310c060f61caaff8a"
  else if text = keptLine then
    "e44b6ab328c68a245063f32ea1a25cf211f71e3ad69b2ebb910a227cf4e0bf02"
  else String.ofList ('#' :: text)

theorem ofList_hash_ne {digest : String} (text : List Char)
    (other : digest.toList.head? ≠ some '#') : digest ≠ String.ofList ('#' :: text) := by
  rintro rfl
  rw [String.toList_ofList] at other
  exact other rfl

theorem keptDigest_injective : Function.Injective keptDigest := by
  intro first second same
  unfold keptDigest at same
  split_ifs at same with firstEmpty secondEmpty secondLine firstLine secondEmpty secondLine
  · rw [firstEmpty, secondEmpty]
  · exact absurd same (by decide)
  · exact absurd same (ofList_hash_ne second (by decide))
  · exact absurd same (by decide)
  · rw [firstLine, secondLine]
  · exact absurd same (ofList_hash_ne second (by decide))
  · exact absurd same.symm (ofList_hash_ne first (by decide))
  · exact absurd same.symm (ofList_hash_ne first (by decide))
  · simpa using congrArg String.toList same

theorem raw_frame_never_lost_in_crash :
    let earlier : List RetentionEvent := [.install, .append keptInput]
    let events : List RetentionEvent := earlier ++ [.begin false none, .batch [1] "2024-01-01",
      .advance true, .advance true, .crash, .elapse 3, .begin false none, .batch [1] "2024-01-01",
      .advance true, .advance true, .advance true]
    let row := FrameStore.newFrame plainWords 1 keptInput
    row ∈ (after plainWords keptDigest 5 events).frames.frames ∨
      (∃ entry record,
        (after plainWords keptDigest 5 events).frames.index.find? row.id = some entry ∧
          readArchivedProviderRawFrame keptDigest (after plainWords keptDigest 5 events).frames
            (after plainWords keptDigest 5 events).files row.id = .found record ∧
          Recorded plainWords keptDigest row record) ∨
      Expired plainWords keptDigest 5 events row.id := by
  intro earlier events row
  refine raw_frame_never_lost plainWords keptDigest 5 events keptDigest_injective.injOn earlier
    (List.prefix_append _ _) row ?_
  have fresh := held_initial.fresh
  exact (FrameStore.mem_appendProviderRawFrame fresh keptInput row).mpr (.inl rfl)

/-- Wherever the service crashes: the archives have paths of their own, each is named by the digest of what it
was packed from and none of its frames is hot, and no file holds anything but a batch of the run. -/
theorem archives_packed (words : WordClass) (sha256 : List Char → String) (lifetime : Nat)
    (events : List RetentionEvent) (collisionFree : Set.InjOn sha256 (archiveTexts words sha256 lifetime events)) :
    let state := after words sha256 lifetime events
    let texts := archiveTexts words sha256 lifetime events
    (state.frames.archives.rows.Pairwise fun first second =>
        first.manifest.relativePath ≠ second.manifest.relativePath) ∧
      (∀ archive ∈ state.frames.archives, Packed words sha256 texts state.frames archive) ∧
      ∀ path content, state.files.archives path = some content → content ∈ texts := by
  have sound := sound_after collisionFree events subset_rfl
  exact ⟨sound.paths, sound.packed, sound.files⟩

theorem archives_packed_once :
    let events : List RetentionEvent := [.install, .append keptInput, .begin false none, .batch [1] "2024-01-01",
      .advance true, .advance true, .advance true]
    ∀ archive ∈ (after plainWords keptDigest 5 events).frames.archives,
      Packed plainWords keptDigest (archiveTexts plainWords keptDigest 5 events)
        (after plainWords keptDigest 5 events).frames archive :=
  (archives_packed plainWords keptDigest 5 _ keptDigest_injective.injOn).2.1

end Retention

end Wlcodex.Runtime
