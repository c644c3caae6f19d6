import Wlcodex.Runtime.Retention
import Wlcodex.Lib.Run

namespace Wlcodex.Runtime

open Wlcodex.Lib

/-! What a step of retention can do to the tables, and what it leaves alone. -/

namespace FrameStore

variable {words : WordClass} {store next : FrameStore}

def Fresh (store : FrameStore) : Prop := ∀ row ∈ store.frames, row.id ≤ store.lastId

variable (words) in
theorem appendProviderRawFrame_eq (fresh : store.Fresh) (input : FrameInput) :
    ∃ frames, store.frames.insert? (newFrame words (store.lastId + 1) input) = some frames ∧
      store.appendProviderRawFrame words input =
        { store with
          frames
          lastId := store.lastId + 1
          cursors := if store.installed then raiseCursor store.cursors input.turn input.sequence
            else store.cursors } := by
  have unused : ∀ row ∈ store.frames, row.id ≠ (newFrame words (store.lastId + 1) input).id := by
    intro row member same
    have known := fresh row member
    rw [same] at known
    exact absurd known (Nat.not_succ_le_self store.lastId)
  obtain ⟨frames, inserted⟩ := Option.isSome_iff_exists.mp (Keyed.insert?_isSome unused)
  refine ⟨frames, inserted, ?_⟩
  simp only [appendProviderRawFrame, inserted]

theorem mem_appendProviderRawFrame (fresh : store.Fresh) (input : FrameInput) (row : RawFrameRow) :
    row ∈ (store.appendProviderRawFrame words input).frames ↔
      row = newFrame words (store.lastId + 1) input ∨ row ∈ store.frames := by
  obtain ⟨frames, inserted, eq⟩ := appendProviderRawFrame_eq words fresh input
  rw [eq]
  exact Keyed.mem_insert? inserted

variable {rows : List RawFrameRow} {batch : Batch} {context : RunContext}

theorem archiveRows_some {manifest : ArchiveManifest} (moved : store.archiveRows rows manifest = some next) :
    ∃ archives, insertArchive store.archives manifest = some archives ∧
      (∃ row ∈ archives.find? manifest.archiveId,
        row.manifest.relativePath = manifest.relativePath ∧
          row.manifest.sha256 = manifest.archiveId ∧ row.manifest.frameCount = rows.length) ∧
      (∀ entry ∈ indexRows manifest.archiveId 1 rows,
        ∃ found ∈ ((indexRows manifest.archiveId 1 rows).foldl insertIndex store.index).find?
          entry.frameId, found.archiveId = manifest.archiveId ∧
            found.archiveLine = entry.archiveLine) ∧
      next = { store with
        frames := store.frames.erase fun row => row.id ∈ rows.map RawFrameRow.id
        cursors := rows.foldl (fun cursors row => raiseCursor cursors row.turn row.sequence)
          store.cursors
        archives
        index := (indexRows manifest.archiveId 1 rows).foldl insertIndex store.index } := by
  unfold archiveRows at moved
  split at moved
  · cases moved
  · split at moved
    · cases moved
    next archives inserted =>
      dsimp only at moved
      split at moved
      next checked =>
        cases moved
        exact ⟨archives, inserted, checked.1, checked.2, rfl⟩
      · cases moved

theorem mem_archived {manifest : ArchiveManifest}
    (moved : store.archiveRows rows manifest = some next) (row : RawFrameRow) :
    row ∈ next.frames ↔ row ∈ store.frames ∧ row.id ∉ rows.map RawFrameRow.id := by
  obtain ⟨archives, _, _, _, rfl⟩ := archiveRows_some moved
  simp only [Keyed.mem_erase, decide_eq_false_iff_not]

end FrameStore

inductive FrameMove (words : WordClass) : FrameStore → FrameStore → Prop where
  | stay (store : FrameStore) : FrameMove words store store
  | append (store : FrameStore) (input : FrameInput) :
      FrameMove words store (store.appendProviderRawFrame words input)
  | install (store : FrameStore) : FrameMove words store store.applyRetentionSchema
  | archive {store next : FrameStore} {rows : List RawFrameRow} {manifest : ArchiveManifest}
      (hot : ∀ row ∈ rows, row ∈ store.frames)
      (moved : store.archiveRows rows manifest = some next) : FrameMove words store next
  | mark (store : FrameStore) (archiveId : String) (now : Instant) :
      FrameMove words store (store.markPurge archiveId now)
  | drop (store : FrameStore) (archiveId : String) :
      FrameMove words store (store.dropArchive archiveId)

namespace FrameMove

variable {words : WordClass} {store next : FrameStore}

theorem fresh (move : FrameMove words store next) (fresh : store.Fresh) : next.Fresh := by
  cases move with
  | stay | install | mark | drop => exact fresh
  | append input =>
      obtain ⟨frames, inserted, eq⟩ := FrameStore.appendProviderRawFrame_eq words fresh input
      intro row member
      have grown : (store.appendProviderRawFrame words input).lastId = store.lastId + 1 := by rw [eq]
      rw [grown]
      rcases (FrameStore.mem_appendProviderRawFrame fresh input row).mp member with rfl | old
      · exact le_rfl
      · exact (fresh row old).trans (Nat.le_succ _)
  | archive hot moved =>
      obtain ⟨archives, _, _, _, rfl⟩ := FrameStore.archiveRows_some moved
      intro row member
      exact fresh row (Keyed.mem_erase.mp member).1

end FrameMove

def Worker.batch? : Worker → Option Batch
  | .batched _ batch => some batch
  | .archived _ batch => some batch
  | .sealed _ batch _ => some batch
  | _ => none

namespace Retention

variable {words : WordClass} {sha256 : List Char → String} {lifetime : Nat} {state : Retention}

structure Held (state : Retention) : Prop where
  fresh : state.frames.Fresh
  hot : ∀ batch ∈ state.worker.batch?, ∀ row ∈ batch.rows, row ∈ state.frames.frames

theorem mem_safeRows {ids : List Nat} {row : RawFrameRow} (member : row ∈ state.safeRows context ids) :
    row ∈ state.frames.frames ∧ ¬ state.tables.ActiveFrame context.observation row := by
  have filtered := List.mem_insertionSort _ |>.mp member
  simp only [List.mem_filter, decide_eq_true_eq] at filtered
  exact ⟨filtered.1.1, filtered.2⟩

theorem prepare_some {archiveDate : String} (prepared : prepare words sha256 lifetime context rows archiveDate = some batch) :
    ∃ records, rows.mapM (archiveRecord words sha256) = some records ∧ batch.rows = rows ∧
      batch.bytes = archiveBytes records ∧
      batch.manifest =
        batchManifest rows (sha256 (archiveBytes records)) archiveDate context.now lifetime := by
  unfold prepare at prepared
  cases recorded : rows.mapM (archiveRecord words sha256) with
  | none => simp [recorded] at prepared
  | some records =>
      rw [recorded, Option.map_some] at prepared
      cases prepared
      exact ⟨records, rfl, rfl, rfl, rfl⟩

theorem beginBatch_batch? {ids : List Nat} {archiveDate : String}
    (begun : (state.beginBatch words sha256 lifetime context ids archiveDate).batch? = some batch) :
    state.safeRows context ids ≠ [] ∧
      prepare words sha256 lifetime context (state.safeRows context ids) archiveDate = some batch ∧
      state.beginBatch words sha256 lifetime context ids archiveDate = .batched context batch := by
  unfold beginBatch at begun ⊢
  dsimp only at begun ⊢
  split at begun
  · cases begun
  next some_ =>
    split at begun
    · cases begun
    next prepared =>
      cases begun
      simp only [if_neg some_, prepared]
      exact ⟨some_, trivial, trivial⟩

theorem moves_advance (held : state.Held) (ok : Bool) :
    FrameMove words state.frames (state.advance sha256 ok).frames := by
  cases worker : state.worker with
  | idle | running => simpa only [advance, worker] using FrameMove.stay state.frames
  | batched context batch =>
      simp only [advance, worker, ensureArchive]
      split <;> split <;> exact .stay _
  | archived context batch =>
      simp only [advance, worker, ensureManifest]
      split <;> split <;> exact .stay _
  | sealed context batch manifest =>
      simp only [advance, worker, moveBatch]
      split
      · exact .stay _
      · split
        · exact .stay _
        · split
          · exact .stay _
          next moved =>
            refine .archive (fun row member => held.hot batch ?_ row member) moved
            rw [worker]
            rfl
  | purging context targets =>
      cases targets with
      | nil => simpa only [advance, worker] using FrameMove.stay state.frames
      | cons target targets =>
          simp only [advance, worker]
          split
          · exact .mark _ _ _
          · exact .stay _
  | tombstoned | unlinked =>
      simp only [advance, worker]
      split <;> exact .stay _
  | cleared context target failed targets =>
      simp only [advance, worker]
      split
      · exact .stay _
      · split
        · exact .drop _ _
        · exact .stay _

theorem moves_step (held : state.Held) (event : RetentionEvent) :
    FrameMove words state.frames (state.step words sha256 lifetime event).frames := by
  cases event with
  | record | append => exact .append _ _
  | update | elapse | crash => exact .stay _
  | install => exact .install _
  | begin | batch =>
      simp only [step]
      split <;> exact .stay _
  | purge =>
      simp only [step]
      split
      · split <;> exact .stay _
      · exact .stay _
  | advance ok => exact moves_advance held ok

theorem batch?_advance {ok : Bool} (inHand : (state.advance sha256 ok).worker.batch? = some batch) :
    state.worker.batch? = some batch ∧ (state.advance sha256 ok).frames = state.frames := by
  cases worker : state.worker with
  | idle | running => simp [advance, worker, Worker.batch?] at inHand
  | batched context own =>
      simp only [advance, worker, ensureArchive] at inHand ⊢
      split at inHand <;> split at inHand <;> simp_all [Worker.batch?]
  | archived context own =>
      simp only [advance, worker, ensureManifest] at inHand ⊢
      split at inHand <;> split at inHand <;> simp_all [Worker.batch?]
  | sealed context own manifest =>
      simp only [advance, worker, moveBatch] at inHand
      split at inHand
      · cases inHand
      · split at inHand
        · cases inHand
        · split at inHand <;> cases inHand
  | purging context targets =>
      cases targets with
      | nil => simp [advance, worker, Worker.batch?] at inHand
      | cons target targets =>
          simp only [advance, worker] at inHand
          split at inHand <;> cases inHand
  | tombstoned | unlinked =>
      simp only [advance, worker] at inHand
      split at inHand <;> cases inHand
  | cleared context target failed targets =>
      simp only [advance, worker] at inHand
      split at inHand
      · cases inHand
      · split at inHand <;> cases inHand

theorem batch?_step {event : RetentionEvent}
    (inHand : (state.step words sha256 lifetime event).worker.batch? = some batch) :
    (∃ context ids archiveDate, event = .batch ids archiveDate ∧
        state.worker = .running context ∧ state.safeRows context ids ≠ [] ∧
        prepare words sha256 lifetime context (state.safeRows context ids) archiveDate = some batch ∧
        state.step words sha256 lifetime event = { state with worker := .batched context batch }) ∨
      (state.worker.batch? = some batch ∧
        ∀ row ∈ state.frames.frames, state.frames.Fresh →
          row ∈ (state.step words sha256 lifetime event).frames.frames) := by
  cases event with
  | record | append =>
      refine .inr ⟨inHand, fun row member fresh => ?_⟩
      exact (FrameStore.mem_appendProviderRawFrame fresh _ row).mpr (.inr member)
  | update | elapse | install => exact .inr ⟨inHand, fun _ member _ => member⟩
  | begin requireMaintenance observer =>
      simp only [step] at inHand
      split at inHand <;> cases inHand
  | batch ids archiveDate =>
      cases worker : state.worker with
      | running context =>
          simp only [step, worker] at inHand ⊢
          obtain ⟨some_, prepared, begun⟩ := beginBatch_batch? inHand
          exact .inl ⟨context, ids, archiveDate, rfl, rfl, some_, prepared, by rw [begun]⟩
      | _ =>
          simp only [step, worker] at inHand ⊢
          exact .inr ⟨inHand, fun _ member _ => member⟩
  | purge =>
      cases worker : state.worker with
      | running context =>
          simp only [step, worker] at inHand
          split at inHand <;> cases inHand
      | _ =>
          simp only [step, worker] at inHand ⊢
          exact .inr ⟨inHand, fun _ member _ => member⟩
  | advance ok =>
      obtain ⟨before, same⟩ := batch?_advance inHand
      refine .inr ⟨before, fun row member _ => ?_⟩
      simp only [step]
      rw [same]
      exact member
  | crash => cases inHand

theorem Held.step (held : state.Held) (event : RetentionEvent) :
    (state.step words sha256 lifetime event).Held := by
  refine ⟨(moves_step held event).fresh held.fresh, ?_⟩
  intro batch inHand row member
  rcases batch?_step inHand with ⟨context, ids, archiveDate, _, _, _, prepared, stepped⟩ |
    ⟨before, kept⟩
  · obtain ⟨records, _, rows, _, _⟩ := prepare_some prepared
    rw [rows] at member
    rw [stepped]
    exact (mem_safeRows member).1
  · exact kept row (held.hot batch before row member) held.fresh

theorem held_initial : initial.Held := by
  refine ⟨fun row member => ?_, fun batch inHand => ?_⟩
  · exact absurd member (Keyed.not_mem_empty row)
  · cases inHand

end Retention

end Wlcodex.Runtime
