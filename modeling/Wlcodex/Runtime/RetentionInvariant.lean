import Wlcodex.Runtime.ArchiveReading
import Wlcodex.Runtime.RetentionSteps

namespace Wlcodex.Runtime

open Wlcodex.Lib

/-! What holds of tables, files and worker at every point of a run. -/

namespace FrameStore

theorem find?_insertIndex {index : Keyed IndexRow.frameId} {id : Nat} {entry : IndexRow}
    (found : index.find? id = some entry) (row : IndexRow) :
    (insertIndex index row).find? id = some entry := by
  unfold insertIndex
  cases inserted : index.insert? row with
  | none => exact found
  | some next =>
      obtain ⟨member, key⟩ := Keyed.find?_eq_some_iff.mp found
      exact Keyed.find?_eq_some_iff.mpr ⟨(Keyed.mem_insert? inserted).mpr (.inr member), key⟩

theorem find?_foldl_insertIndex {index : Keyed IndexRow.frameId} {id : Nat} {entry : IndexRow}
    (found : index.find? id = some entry) (rows : List IndexRow) :
    (rows.foldl insertIndex index).find? id = some entry := by
  induction rows generalizing index with
  | nil => exact found
  | cons row rows ih => exact ih (find?_insertIndex found row)

theorem insertArchive_some {archives next : Keyed ArchiveRow.archiveId} {manifest : ArchiveManifest}
    (inserted : insertArchive archives manifest = some next) :
    (next = archives ∧ ∃ row ∈ archives, row.archiveId = manifest.archiveId) ∨
      (archives.insert? ⟨manifest, none⟩ = some next ∧
        ∀ row ∈ archives, row.manifest.relativePath ≠ manifest.relativePath) := by
  unfold insertArchive at inserted
  split at inserted
  next known =>
    cases inserted
    exact .inl ⟨rfl, known⟩
  · split at inserted
    · cases inserted
    next free => exact .inr ⟨inserted, fun row member same => free ⟨row, member, same⟩⟩

variable {target : PurgeTarget} {rows : List RawFrameRow}

theorem mem_indexRows (archiveId : String) (line : Nat) {row : RawFrameRow} (member : row ∈ rows) :
    ∃ position, rows[position]? = some row ∧
      { frameId := row.id, archiveId, archiveLine := line + position, turn := row.turn
        sequence := row.sequence } ∈ indexRows archiveId line rows := by
  induction rows generalizing line with
  | nil => cases member
  | cons head rest ih =>
      rcases List.mem_cons.mp member with rfl | later
      · exact ⟨0, rfl, List.mem_cons_self⟩
      · obtain ⟨position, placed, entered⟩ := ih (line + 1) later
        refine ⟨position + 1, placed, List.mem_cons_of_mem _ ?_⟩
        rwa [Nat.add_right_comm] at entered

end FrameStore

namespace Retention

def Due (archives : Keyed ArchiveRow.archiveId) (now : Instant) (target : PurgeTarget) : Prop :=
  ∀ archive ∈ archives, (archive.archiveId = target.archiveId → archive.manifest.expiresAt ≤ now) ∧
    (archive.manifest.relativePath = target.relativePath → archive.archiveId = target.archiveId)

def Dead (archives : Keyed ArchiveRow.archiveId) (target : PurgeTarget) : Prop :=
  ∀ archive ∈ archives, (archive.archiveId = target.archiveId ∨
    archive.manifest.relativePath = target.relativePath) → archive.purgePendingAt.isSome

section Invariant

variable (words : WordClass) (sha256 : List Char → String) (texts : Set (List Char))

structure Prepared (batch : Batch) : Prop where
  some_ : batch.rows ≠ []
  written : ∀ row ∈ batch.rows, Written words row
  recorded : ∃ records, batch.rows.mapM (archiveRecord words sha256) = some records ∧
    batch.bytes = archiveBytes records
  hashed : batch.manifest.archiveId = sha256 batch.bytes
  valid : ManifestValid batch.manifest batch.manifest.archiveId batch.manifest.relativePath
  known : batch.bytes ∈ texts

def OnTrack (archives : Keyed ArchiveRow.archiveId) (files : ArchiveFiles) (clock : Instant) :
    Worker → Prop
  | .idle => True
  | .running context => context.now ≤ clock
  | .batched context batch => context.now ≤ clock ∧ Prepared words sha256 texts batch
  | .archived context batch =>
      context.now ≤ clock ∧ Prepared words sha256 texts batch ∧
        files.archives batch.manifest.relativePath = some batch.bytes
  | .sealed context batch manifest =>
      context.now ≤ clock ∧ Prepared words sha256 texts batch ∧
        files.archives batch.manifest.relativePath = some batch.bytes ∧
        files.manifests batch.manifest.relativePath = some manifest ∧
        ManifestValid manifest batch.manifest.archiveId batch.manifest.relativePath
  | .purging context targets =>
      context.now ≤ clock ∧ ∀ target ∈ targets, Due archives context.now target
  | .tombstoned context target targets =>
      context.now ≤ clock ∧ Dead archives target ∧ ∀ target ∈ targets, Due archives context.now target
  | .unlinked context target _ targets =>
      context.now ≤ clock ∧ Dead archives target ∧ ∀ target ∈ targets, Due archives context.now target
  | .cleared context target _ targets =>
      context.now ≤ clock ∧ Dead archives target ∧ ∀ target ∈ targets, Due archives context.now target

def Packed (store : FrameStore) (archive : ArchiveRow) : Prop :=
  ∃ rows records, rows ≠ [] ∧ (∀ row ∈ rows, Written words row) ∧
    rows.mapM (archiveRecord words sha256) = some records ∧ archiveBytes records ∈ texts ∧
    archive.archiveId = sha256 (archiveBytes records) ∧
    ∀ row ∈ rows, row.id ≤ store.lastId ∧ ∀ hot ∈ store.frames, hot.id ≠ row.id

structure Sound (state : Retention) : Prop where
  held : state.Held
  written : ∀ row ∈ state.frames.frames, Written words row
  packed : ∀ archive ∈ state.frames.archives, Packed words sha256 texts state.frames archive
  paths : state.frames.archives.rows.Pairwise fun first second =>
    first.manifest.relativePath ≠ second.manifest.relativePath
  files : ∀ path content, state.files.archives path = some content → content ∈ texts
  worker : OnTrack words sha256 texts state.frames.archives state.files state.clock state.worker

/-- What a step does to the files: nothing is overwritten, and only what has a
tombstone is removed. -/
inductive FileChange (archives : Keyed ArchiveRow.archiveId) (files : ArchiveFiles) :
    ArchiveFiles → Prop where
  | same : FileChange archives files files
  | writeArchive (path : String) (content : List Char) (absent : files.archives path = none)
      (known : content ∈ texts) :
      FileChange archives files
        { files with archives := Function.update files.archives path (some content) }
  | writeManifest (path : String) (manifest : ArchiveManifest)
      (absent : files.manifests path = none) :
      FileChange archives files
        { files with manifests := Function.update files.manifests path (some manifest) }
  | unlinkArchive (target : PurgeTarget) (dead : Dead archives target) :
      FileChange archives files
        { files with archives := Function.update files.archives target.relativePath none }
  | unlinkManifest (target : PurgeTarget) (dead : Dead archives target) :
      FileChange archives files
        { files with manifests := Function.update files.manifests target.relativePath none }

inductive Change (state : Retention) : Retention → Prop where
  | files {next : Retention} (frames : next.frames = state.frames)
      (files : FileChange texts state.frames.archives state.files next.files)
      (clock : state.clock ≤ next.clock) : Change state next
  | install {next : Retention} (frames : next.frames = state.frames.applyRetentionSchema)
      (files : next.files = state.files) (clock : state.clock ≤ next.clock) : Change state next
  | append {next : Retention} (input : FrameInput)
      (frames : next.frames = state.frames.appendProviderRawFrame words input)
      (files : next.files = state.files) (clock : state.clock ≤ next.clock) : Change state next
  | commit {next : Retention} (batch : Batch) (manifest : ArchiveManifest)
      (prepared : Prepared words sha256 texts batch)
      (hot : ∀ row ∈ batch.rows, row ∈ state.frames.frames)
      (present : state.files.archives batch.manifest.relativePath = some batch.bytes)
      (sealed : state.files.manifests batch.manifest.relativePath = some manifest)
      (valid : ManifestValid manifest batch.manifest.archiveId batch.manifest.relativePath)
      (moved : state.frames.archiveRows batch.rows manifest = some next.frames)
      (files : next.files = state.files) (clock : state.clock ≤ next.clock) : Change state next
  | mark {next : Retention} (target : PurgeTarget) (now : Instant)
      (due : Due state.frames.archives now target) (past : now ≤ state.clock)
      (frames : next.frames = state.frames.markPurge target.archiveId now)
      (files : next.files = state.files) (clock : state.clock ≤ next.clock) : Change state next
  | drop {next : Retention} (target : PurgeTarget) (dead : Dead state.frames.archives target)
      (frames : next.frames = state.frames.dropArchive target.archiveId)
      (files : next.files = state.files) (clock : state.clock ≤ next.clock) : Change state next

end Invariant

variable {words : WordClass} {sha256 : List Char → String} {texts : Set (List Char)}
  {lifetime : Nat} {state next : Retention}

theorem OnTrack.later {archives : Keyed ArchiveRow.archiveId} {files : ArchiveFiles}
    {clock later : Instant} (grown : clock ≤ later) {worker : Worker}
    (onTrack : OnTrack words sha256 texts archives files clock worker) :
    OnTrack words sha256 texts archives files later worker := by
  cases worker with
  | idle => trivial
  | running context => exact onTrack.trans grown
  | batched | archived | sealed | purging | tombstoned | unlinked | cleared =>
      exact ⟨onTrack.1.trans grown, onTrack.2⟩

theorem archives_append (store : FrameStore) (input : FrameInput) :
    (store.appendProviderRawFrame words input).archives = store.archives := by
  unfold FrameStore.appendProviderRawFrame
  split <;> rfl

theorem prepared_of_prepare {context : RunContext} {archiveDate : String}
    {batch : Batch} (prepared : prepare words sha256 lifetime context rows archiveDate = some batch)
    (some_ : rows ≠ []) (written : ∀ row ∈ rows, Written words row) (known : batch.bytes ∈ texts) :
    Prepared words sha256 texts batch := by
  obtain ⟨records, recorded, rowsEq, bytes, manifest⟩ := prepare_some prepared
  refine ⟨rowsEq ▸ some_, rowsEq ▸ written, ⟨records, rowsEq ▸ recorded, bytes⟩, ?_, ?_, known⟩
  · rw [manifest, bytes]
    rfl
  · rw [manifest]
    exact ⟨rfl, rfl, rfl, rfl⟩

theorem due_of_expired (sound : Sound words sha256 texts state) {now : Instant} (expired : target ∈ state.expiredArchives now) :
    Due state.frames.archives now target := by
  obtain ⟨row, chosen, rfl⟩ := List.mem_map.mp expired
  obtain ⟨member, past⟩ := List.mem_filter.mp chosen
  intro archive inside
  constructor
  · intro same
    rw [state.frames.archives.eq_of_key inside member same]
    exact of_decide_eq_true past
  · intro same
    by_contra different
    have apart : Std.Symm fun first second : ArchiveRow =>
        first.manifest.relativePath ≠ second.manifest.relativePath := ⟨fun _ _ => Ne.symm⟩
    exact sound.paths.forall inside member (fun eq => different (eq ▸ rfl)) same

theorem due_mark {store : FrameStore} {archiveId : String} {now time : Instant} (due : Due store.archives now target) :
    Due (store.markPurge archiveId time).archives now target := by
  intro archive inside
  rcases Keyed.mem_update.mp inside with ⟨old, member, _, rfl⟩ | ⟨member, _⟩
  · exact due old member
  · exact due archive member

theorem dead_mark {store : FrameStore} {now time : Instant} (due : Due store.archives now target) :
    Dead (store.markPurge target.archiveId time).archives target := by
  intro archive inside mine
  rcases Keyed.mem_update.mp inside with ⟨old, member, _, rfl⟩ | ⟨member, other⟩
  · rfl
  · have own : archive.archiveId = target.archiveId := by
      rcases mine with own | path
      · exact own
      · exact (due archive member).2 path
    exact absurd own (of_decide_eq_false other)

theorem due_drop {store : FrameStore} {archiveId : String} {now : Instant}
    (due : Due store.archives now target) :
    Due (store.dropArchive archiveId).archives now target := by
  intro archive inside
  exact due archive (Keyed.mem_erase.mp inside).1

theorem change_advance (sound : Sound words sha256 texts state) (apart : Set.InjOn sha256 texts) (ok : Bool) :
    Change words sha256 texts state (state.advance sha256 ok) ∧
      OnTrack words sha256 texts (state.advance sha256 ok).frames.archives
        (state.advance sha256 ok).files (state.advance sha256 ok).clock
        (state.advance sha256 ok).worker := by
  have onTrack := sound.worker
  cases worker : state.worker with
  | idle =>
      simp only [advance, worker]
      exact ⟨.files rfl .same le_rfl, trivial⟩
  | running context =>
      rw [worker] at onTrack
      simp only [advance, worker]
      exact ⟨.files rfl .same le_rfl, onTrack⟩
  | batched context batch =>
      rw [worker] at onTrack
      obtain ⟨started, prepared⟩ := onTrack
      simp only [advance, worker, ensureArchive]
      split
      next content existing =>
        split
        next same =>
          -- the digest of the file is the one of the batch, and both are texts of the run
          have hashed : sha256 content = batch.manifest.archiveId := by
            by_contra other
            rw [iterArchiveRecords, if_pos other] at same
            cases same
          have eq : content = batch.bytes :=
            apart (sound.files _ _ existing) prepared.known (hashed.trans prepared.hashed)
          exact ⟨.files rfl .same le_rfl, started, prepared, eq ▸ existing⟩
        · exact ⟨.files rfl .same le_rfl, trivial⟩
      next absent =>
        split
        · exact ⟨.files rfl (.writeArchive _ _ absent prepared.known) le_rfl, started, prepared,
            Function.update_self _ _ _⟩
        · exact ⟨.files rfl .same le_rfl, trivial⟩
  | archived context batch =>
      rw [worker] at onTrack
      obtain ⟨started, prepared, present⟩ := onTrack
      simp only [advance, worker, ensureManifest]
      split
      next existing found =>
        split
        next same => exact ⟨.files rfl .same le_rfl, started, prepared, present, found, same.1⟩
        · exact ⟨.files rfl .same le_rfl, trivial⟩
      next absent =>
        split
        · exact ⟨.files rfl (.writeManifest _ _ absent) le_rfl, started, prepared, present,
            Function.update_self _ _ _, prepared.valid⟩
        · exact ⟨.files rfl .same le_rfl, trivial⟩
  | sealed context batch manifest =>
      have hot := sound.held.hot batch (by rw [worker]; rfl)
      rw [worker] at onTrack
      obtain ⟨started, prepared, present, sealed, valid⟩ := onTrack
      simp only [advance, worker, moveBatch]
      split
      · exact ⟨.files rfl .same le_rfl, trivial⟩
      · split
        · exact ⟨.files rfl .same le_rfl, started⟩
        · split
          · exact ⟨.files rfl .same le_rfl, trivial⟩
          next moved =>
            exact ⟨.commit batch manifest prepared hot present sealed valid moved rfl le_rfl,
              started⟩
  | purging context targets =>
      rw [worker] at onTrack
      obtain ⟨started, due⟩ := onTrack
      cases targets with
      | nil =>
          simp only [advance, worker]
          exact ⟨.files rfl .same le_rfl, started⟩
      | cons target targets =>
          rw [List.forall_mem_cons] at due
          simp only [advance, worker]
          split
          · exact ⟨.mark target context.now due.1 started rfl rfl le_rfl, started, dead_mark due.1,
              fun other member => due_mark (due.2 other member)⟩
          · exact ⟨.files rfl .same le_rfl, trivial⟩
  | tombstoned context target targets =>
      rw [worker] at onTrack
      obtain ⟨started, dead, due⟩ := onTrack
      simp only [advance, worker]
      split
      · exact ⟨.files rfl (.unlinkArchive target dead) le_rfl, started, dead, due⟩
      · exact ⟨.files rfl .same le_rfl, started, dead, due⟩
  | unlinked context target failed targets =>
      rw [worker] at onTrack
      obtain ⟨started, dead, due⟩ := onTrack
      simp only [advance, worker]
      split
      · exact ⟨.files rfl (.unlinkManifest target dead) le_rfl, started, dead, due⟩
      · exact ⟨.files rfl .same le_rfl, started, dead, due⟩
  | cleared context target failed targets =>
      rw [worker] at onTrack
      obtain ⟨started, dead, due⟩ := onTrack
      simp only [advance, worker]
      split
      · exact ⟨.files rfl .same le_rfl, started, due⟩
      · split
        · exact ⟨.drop target dead rfl rfl le_rfl, started,
            fun other member => due_drop (due other member)⟩
        · exact ⟨.files rfl .same le_rfl, trivial⟩

/-- The texts of the batch in hand after the step are among `texts`. -/
def Named (words : WordClass) (sha256 : List Char → String) (texts : Set (List Char))
    (lifetime : Nat) (state : Retention) (event : RetentionEvent) : Prop :=
  ∀ batch ∈ (state.step words sha256 lifetime event).worker.batch?, batch.bytes ∈ texts

theorem change_step (sound : Sound words sha256 texts state) (apart : Set.InjOn sha256 texts)
    (event : RetentionEvent) (named : Named words sha256 texts lifetime state event) :
    Change words sha256 texts state (state.step words sha256 lifetime event) ∧
      OnTrack words sha256 texts (state.step words sha256 lifetime event).frames.archives
        (state.step words sha256 lifetime event).files
        (state.step words sha256 lifetime event).clock
        (state.step words sha256 lifetime event).worker := by
  cases event with
  | record input =>
      refine ⟨.append _ rfl rfl le_rfl, ?_⟩
      simp only [step, FrameStore.recordFrame, archives_append]
      exact sound.worker
  | append input =>
      refine ⟨.append _ rfl rfl le_rfl, ?_⟩
      simp only [step, archives_append]
      exact sound.worker
  | update tables => exact ⟨.files rfl .same le_rfl, sound.worker⟩
  | elapse time =>
      exact ⟨.files rfl .same (Nat.le_add_right _ _), sound.worker.later (Nat.le_add_right _ _)⟩
  | install => exact ⟨.install rfl rfl le_rfl, sound.worker⟩
  | begin requireMaintenance observer =>
      simp only [step]
      split
      · exact ⟨.files rfl .same le_rfl, trivial⟩
      · exact ⟨.files rfl .same le_rfl, le_refl state.clock⟩
  | batch ids archiveDate =>
      have onTrack := sound.worker
      cases worker : state.worker with
      | running context =>
          rw [worker] at onTrack
          have hot : ∀ row ∈ state.safeRows context ids, Written words row :=
            fun row member => sound.written row (mem_safeRows member).1
          simp only [Named, step, worker, beginBatch] at named ⊢
          split
          · exact ⟨.files rfl .same le_rfl, onTrack⟩
          next some_ =>
            rw [if_neg some_] at named
            split
            · exact ⟨.files rfl .same le_rfl, trivial⟩
            next batch prepared =>
              rw [prepared] at named
              exact ⟨.files rfl .same le_rfl, onTrack,
                prepared_of_prepare prepared some_ hot (named batch rfl)⟩
      | _ =>
          have same : state.step words sha256 lifetime (.batch ids archiveDate) = state := by
            simp only [step, worker]
          rw [same]
          exact ⟨.files rfl .same le_rfl, onTrack⟩
  | purge =>
      have onTrack := sound.worker
      cases worker : state.worker with
      | running context =>
          rw [worker] at onTrack
          simp only [step, worker]
          split
          · exact ⟨.files rfl .same le_rfl, trivial⟩
          · exact ⟨.files rfl .same le_rfl, onTrack, fun target member => due_of_expired sound member⟩
      | _ =>
          have same : state.step words sha256 lifetime .purge = state := by
            simp only [step, worker]
          rw [same]
          exact ⟨.files rfl .same le_rfl, onTrack⟩
  | advance ok => exact change_advance sound apart ok
  | crash => exact ⟨.files rfl .same le_rfl, trivial⟩

theorem written_newFrame (id : Nat) (input : FrameInput) :
    Written words (FrameStore.newFrame words id input) := ⟨input, rfl⟩

theorem written_change (sound : Sound words sha256 texts state)
    (change : Change words sha256 texts state next) :
    ∀ row ∈ next.frames.frames, Written words row := by
  intro row member
  cases change with
  | files frames => exact sound.written row (frames ▸ member)
  | install frames =>
      rw [frames] at member
      exact sound.written row member
  | append input frames =>
      rw [frames] at member
      rcases (FrameStore.mem_appendProviderRawFrame sound.held.fresh input row).mp member with
        rfl | old
      · exact written_newFrame _ input
      · exact sound.written row old
  | commit batch manifest prepared hot present sealed valid moved =>
      exact sound.written row ((FrameStore.mem_archived moved row).mp member).1
  | mark target now due past frames =>
      rw [frames] at member
      exact sound.written row member
  | drop target dead frames =>
      rw [frames] at member
      exact sound.written row member

theorem Packed.mono {store later : FrameStore} {archive kept : ArchiveRow}
    (packed : Packed words sha256 texts store archive) (same : kept.archiveId = archive.archiveId)
    (grown : store.lastId ≤ later.lastId)
    (hot : ∀ row ∈ later.frames, row ∈ store.frames ∨ store.lastId < row.id) :
    Packed words sha256 texts later kept := by
  obtain ⟨rows, records, some_, written, recorded, known, hashed, gone⟩ := packed
  refine ⟨rows, records, some_, written, recorded, known, same.trans hashed, ?_⟩
  intro row member
  obtain ⟨given, cold⟩ := gone row member
  refine ⟨given.trans grown, fun other inside => ?_⟩
  rcases hot other inside with old | new
  · exact cold other old
  · exact fun eq => absurd (eq ▸ new) (Nat.not_lt.mpr given)

theorem archives_commit {manifest : ArchiveManifest}
    {store later : FrameStore} (moved : store.archiveRows rows manifest = some later) :
    later.lastId = store.lastId ∧ FrameStore.insertArchive store.archives manifest = some later.archives := by
  obtain ⟨archives, inserted, _, _, rfl⟩ := FrameStore.archiveRows_some moved
  exact ⟨rfl, inserted⟩

theorem packed_change (sound : Sound words sha256 texts state)
    (change : Change words sha256 texts state next) :
    ∀ archive ∈ next.frames.archives, Packed words sha256 texts next.frames archive := by
  intro archive member
  cases change with
  | files frames =>
      rw [frames] at member ⊢
      exact sound.packed archive member
  | install frames =>
      rw [frames] at member ⊢
      exact sound.packed archive member
  | append input frames =>
      rw [frames] at member ⊢
      rw [archives_append] at member
      obtain ⟨_, _, eq⟩ := FrameStore.appendProviderRawFrame_eq words sound.held.fresh input
      have grown : (state.frames.appendProviderRawFrame words input).lastId =
          state.frames.lastId + 1 := by rw [eq]
      refine (sound.packed archive member).mono rfl (grown ▸ Nat.le_succ _) fun row inside => ?_
      rcases (FrameStore.mem_appendProviderRawFrame sound.held.fresh input row).mp inside with
        rfl | old
      · exact .inr (Nat.lt_succ_self _)
      · exact .inl old
  | commit batch manifest prepared hot present sealed valid moved =>
      obtain ⟨lastId, inserted⟩ := archives_commit moved
      have shrunk : ∀ row ∈ next.frames.frames,
          row ∈ state.frames.frames ∨ state.frames.lastId < row.id :=
        fun row inside => .inl ((FrameStore.mem_archived moved row).mp inside).1
      rcases FrameStore.insertArchive_some inserted with ⟨same, _⟩ | ⟨inserted, _⟩
      · exact (sound.packed archive (same ▸ member)).mono rfl lastId.ge shrunk
      · rcases (Keyed.mem_insert? inserted).mp member with rfl | old
        · obtain ⟨records, recorded, bytes⟩ := prepared.recorded
          refine ⟨batch.rows, records, prepared.some_, prepared.written, recorded,
            bytes ▸ prepared.known, ?_, ?_⟩
          · rw [← bytes, ← prepared.hashed]
            exact valid.2.1
          · intro row inside
            refine ⟨lastId ▸ sound.held.fresh row (hot row inside), fun other stays same => ?_⟩
            refine ((FrameStore.mem_archived moved other).mp stays).2 ?_
            exact List.mem_map.mpr ⟨row, inside, same.symm⟩
        · exact (sound.packed archive old).mono rfl lastId.ge shrunk
  | mark target now due past frames =>
      rw [frames] at member ⊢
      rcases Keyed.mem_update.mp member with ⟨old, inside, _, rfl⟩ | ⟨inside, _⟩
      · exact (sound.packed old inside).mono rfl le_rfl fun _ hot => .inl hot
      · exact sound.packed archive inside
  | drop target dead frames =>
      rw [frames] at member ⊢
      exact sound.packed archive (Keyed.mem_erase.mp member).1

theorem paths_change (sound : Sound words sha256 texts state)
    (change : Change words sha256 texts state next) :
    next.frames.archives.rows.Pairwise fun first second =>
      first.manifest.relativePath ≠ second.manifest.relativePath := by
  cases change with
  | files frames =>
      rw [frames]
      exact sound.paths
  | install frames =>
      rw [frames]
      exact sound.paths
  | append input frames =>
      rw [frames, archives_append]
      exact sound.paths
  | commit batch manifest prepared hot present sealed valid moved =>
      obtain ⟨_, inserted⟩ := archives_commit moved
      rcases FrameStore.insertArchive_some inserted with ⟨same, _⟩ | ⟨inserted, free⟩
      · rw [same]
        exact sound.paths
      · rw [Keyed.rows_insert? inserted]
        exact .cons (fun row member same => free row member same.symm) sound.paths
  | mark target now due past frames =>
      rw [frames]
      refine List.pairwise_map.mpr (sound.paths.imp fun {first second} different => ?_)
      have same : ∀ row : ArchiveRow, ∀ chosen : Bool,
          (if chosen then { row with purgePendingAt := some (row.purgePendingAt.getD now) }
            else row).manifest = row.manifest := by
        intro row chosen
        cases chosen <;> rfl
      rw [same, same]
      exact different
  | drop target dead frames =>
      rw [frames]
      exact sound.paths.filter _

theorem FileChange.known {archives : Keyed ArchiveRow.archiveId} {files later : ArchiveFiles}
    (known : ∀ path content, files.archives path = some content → content ∈ texts)
    (change : FileChange texts archives files later) :
    ∀ path content, later.archives path = some content → content ∈ texts := by
  intro path content found
  cases change with
  | same | writeManifest | unlinkManifest => exact known path content found
  | writeArchive written text absent named =>
      dsimp only at found
      rcases eq_or_ne path written with rfl | other
      · rw [Function.update_self] at found
        cases found
        exact named
      · rw [Function.update_of_ne other] at found
        exact known path content found
  | unlinkArchive target =>
      dsimp only at found
      rcases eq_or_ne path target.relativePath with rfl | other
      · rw [Function.update_self] at found
        cases found
      · rw [Function.update_of_ne other] at found
        exact known path content found

theorem files_change (sound : Sound words sha256 texts state)
    (change : Change words sha256 texts state next) :
    ∀ path content, next.files.archives path = some content → content ∈ texts := by
  intro path content found
  cases change with
  | files frames files => exact files.known sound.files path content found
  | install frames files => exact sound.files path content (files ▸ found)
  | append input frames files => exact sound.files path content (files ▸ found)
  | commit batch manifest prepared hot present sealed valid moved files =>
      exact sound.files path content (files ▸ found)
  | mark target now due past frames files => exact sound.files path content (files ▸ found)
  | drop target dead frames files => exact sound.files path content (files ▸ found)

theorem Sound.step (sound : Sound words sha256 texts state) (apart : Set.InjOn sha256 texts)
    (event : RetentionEvent) (named : Named words sha256 texts lifetime state event) :
    Sound words sha256 texts (state.step words sha256 lifetime event) := by
  obtain ⟨change, onTrack⟩ := change_step sound apart event named
  exact ⟨sound.held.step event, written_change sound change, packed_change sound change,
    paths_change sound change, files_change sound change, onTrack⟩

theorem sound_initial : Sound words sha256 texts initial := by
  refine ⟨held_initial, ?_, ?_, .nil, ?_, trivial⟩
  · intro row member
    exact absurd member (Keyed.not_mem_empty row)
  · intro archive member
    exact absurd member (Keyed.not_mem_empty archive)
  · intro path content found
    cases found

end Retention

end Wlcodex.Runtime
