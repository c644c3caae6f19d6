import Wlcodex.Lib.Run
import Wlcodex.Telegram.ChunkTermination

namespace Wlcodex.Telegram

open Wlcodex.Lib
open Wlcodex.Relay (isSpace)

/-! The output of one run between two await points of the manager. -/

structure Manager where
  /-- `str.isdigit` of one letter. -/
  isDigit : Char → Bool
  policy : ChunkPolicy := {}
  /-- Whether the body mode of the surface is `semantic_blocks`. -/
  semanticBlocks : Bool := true
  /-- Whether `terminal_block_idle_seconds` is positive. -/
  idleFlushes : Bool := true

inductive IdleTask where
  | none
  | sleeping
  | flushing (task : Nat)
  deriving DecidableEq

structure OutputRun where
  buffer : Text := []
  idle : IdleTask := .none
  tasks : Nat := 0
  /-- The chunks that were taken out and not sent yet, each with the task that sends it. -/
  flying : List (Nat × Text) := []
  /-- The bodies in the order in which they were delivered. -/
  bodies : List Text := []
  /-- The task of the final call. -/
  ending : Option Nat := none
  closed : Bool := false
  /-- The chunk loop does not come to an end, and the event loop with it. -/
  hung : Bool := false
  deriving DecidableEq

namespace OutputRun

def sends (run : OutputRun) (chunks : List Text) : OutputRun :=
  { run with
    flying := run.flying ++ chunks.map fun chunk => (run.tasks, chunk)
    tasks := run.tasks + 1 }

/-- `_cancel_idle_flush`: a task that is cancelled sends nothing more. -/
def cancelIdleFlush (run : OutputRun) : OutputRun :=
  match run.idle with
  | .flushing task =>
      { run with idle := .none, flying := run.flying.filter fun sent => sent.1 ≠ task }
  | _ => { run with idle := .none }

section Steps

variable (manager : Manager)

def scheduleIdleFlush (run : OutputRun) : OutputRun :=
  { run.cancelIdleFlush with idle := if manager.idleFlushes then .sleeping else .none }

def appendText (run : OutputRun) (text : Text) : OutputRun :=
  if run.closed then run
  else
    let buffer := run.buffer ++ text
    if manager.semanticBlocks then
      match readyChunks manager.isDigit manager.policy false buffer with
      | none => { run with buffer, hung := true }
      | some ([], rest) => scheduleIdleFlush manager { run with buffer := rest }
      | some (chunks, rest) => sends { run with buffer := rest } chunks
    else { run with buffer }

/-- `_idle_flush_after_delay` once its sleep is over. -/
def idleFlush (run : OutputRun) : OutputRun :=
  match run.idle with
  | .sleeping =>
      if run.closed then { run with idle := .none }
      else if idleBufferReady run.buffer then
        match readyChunks manager.isDigit manager.policy true run.buffer with
        | none => { run with hung := true }
        | some (chunks, rest) =>
            sends { run with buffer := rest, idle := .flushing run.tasks } chunks
      else { run with idle := .none }
  | _ => run

def deliver (run : OutputRun) (task : Nat) : OutputRun :=
  match run.flying.find? fun sent => sent.1 = task with
  | some sent =>
      { run with
        bodies := run.bodies ++ [sent.2]
        flying := run.flying.eraseP fun sent => sent.1 = task }
  | none => run

/-- `complete` and `fail` up to their sends. -/
def finish (run : OutputRun) : OutputRun :=
  if run.closed then run
  else
    let quiet := run.cancelIdleFlush
    match finalChunks manager.isDigit manager.policy quiet.buffer with
    | none => { quiet with hung := true }
    | some chunks => sends { quiet with buffer := [], ending := some run.tasks } chunks

def close (run : OutputRun) : OutputRun :=
  match run.ending with
  | some task =>
      if run.flying.any fun sent => sent.1 = task then run else { run with closed := true }
  | none => run

end Steps

end OutputRun

inductive OutputOp where
  | append (text : Text)
  | idle
  | deliver (task : Nat)
  | finish
  | close

def OutputOp.text : OutputOp → Text
  | .append text => text
  | _ => []

def OutputRun.step (manager : Manager) (run : OutputRun) (op : OutputOp) : OutputRun :=
  if run.hung then run
  else match op with
    | .append text => run.appendText manager text
    | .idle => run.idleFlush manager
    | .deliver task => run.deliver task
    | .finish => run.finish manager
    | .close => run.close

namespace OutputRun

def IdleBusy (run : OutputRun) : Prop :=
  ∃ task chunk, run.idle = .flushing task ∧ (task, chunk) ∈ run.flying

def Calm (manager : Manager) (run : OutputRun) : OutputOp → Prop
  | .append text => run.ending = none ∧ (manager.semanticBlocks = true →
      Divisible manager.policy.maxChars (run.buffer ++ text) ∧
      (run.IdleBusy → ∀ rest,
        readyChunks manager.isDigit manager.policy false (run.buffer ++ text) ≠ some ([], rest)))
  | .idle => Divisible manager.policy.maxChars run.buffer
  | .deliver task => ∀ chunk, (task, chunk) ∈ run.flying →
      run.flying.head?.map Prod.fst = some task
  | .finish => ¬ run.IdleBusy ∧ Divisible manager.policy.finalMaxChars run.buffer
  | .close => True

def content (run : OutputRun) : Text :=
  run.bodies.flatten ++ (run.flying.map Prod.snd).flatten ++ run.buffer

structure Faithful (run : OutputRun) (text : Text) : Prop where
  awake : run.hung = false
  carries : Carries text run.content
  ended : run.ending.isSome → run.buffer = []
  closing : run.closed = true → run.ending.isSome

variable {manager : Manager} {run : OutputRun} {text : Text}

theorem flying_cancelIdleFlush (calm : ¬ run.IdleBusy) : run.cancelIdleFlush.flying = run.flying := by
  unfold cancelIdleFlush
  split
  next task flushing =>
    refine List.filter_eq_self.mpr fun sent member => ?_
    simp only [decide_eq_true_eq]
    rintro rfl
    exact calm ⟨sent.1, sent.2, flushing, member⟩
  · rfl

theorem faithful_cancelIdleFlush (faithful : run.Faithful text) (quiet : ¬ run.IdleBusy) :
    run.cancelIdleFlush.Faithful text := by
  have same := flying_cancelIdleFlush quiet
  have content : run.cancelIdleFlush.content = run.content := by
    unfold OutputRun.content
    rw [same]
    unfold cancelIdleFlush
    split <;> rfl
  refine ⟨?_, content ▸ faithful.carries, ?_, ?_⟩
  · have awake := faithful.awake
    unfold cancelIdleFlush
    split <;> exact awake
  · have ended := faithful.ended
    unfold cancelIdleFlush
    split <;> exact ended
  · have closing := faithful.closing
    unfold cancelIdleFlush
    split <;> exact closing

theorem content_sends (run : OutputRun) (chunks : List Text) (rest : Text) :
    (sends { run with buffer := rest } chunks).content =
      run.bodies.flatten ++ (run.flying.map Prod.snd).flatten ++ (chunks.flatten ++ rest) := by
  simp [content, sends, Function.comp_def]

theorem carries_sends {buffer rest : Text} {chunks : List Text}
    (carries : Carries text (run.bodies.flatten ++ (run.flying.map Prod.snd).flatten ++ buffer))
    (taken : Carries buffer (chunks.flatten ++ rest)) :
    Carries text (sends { run with buffer := rest } chunks).content := by
  rw [content_sends]
  exact carries.trans ((Edits.refl _).append taken)

theorem faithful_appendText (bounded : 0 < manager.policy.maxChars) (faithful : run.Faithful text)
    {more : Text} (calm : run.Calm manager (.append more)) :
    (run.appendText manager more).Faithful (text ++ more) := by
  obtain ⟨unended, whenSemantic⟩ := calm
  have opened : run.closed = false := by
    cases closed : run.closed with
    | false => rfl
    | true => simpa [unended] using faithful.closing closed
  have carries : Carries (text ++ more)
      (run.bodies.flatten ++ (run.flying.map Prod.snd).flatten ++ (run.buffer ++ more)) := by
    simpa [content] using faithful.carries.append (Edits.refl more)
  have unclosed : run.closed = true → run.ending.isSome := faithful.closing
  have unended' : run.ending.isSome → ∀ rest : Text, rest = [] := by simp [unended]
  unfold appendText
  rw [if_neg (by simp [opened])]
  dsimp only
  split
  next semantic =>
    obtain ⟨divisible, whenBusy⟩ := whenSemantic semantic
    obtain ⟨chunks, rest, ready⟩ := readyChunksIn_some manager.isDigit manager.policy false
      bounded (run.buffer ++ more).length.succ (Nat.lt_succ_self _) divisible
    have ready : readyChunks manager.isDigit manager.policy false (run.buffer ++ more) =
      some (chunks, rest) := ready
    have taken : Carries (run.buffer ++ more) (chunks.flatten ++ rest) :=
      carries_readyChunksIn manager.isDigit manager.policy false _ ready
    rw [ready]
    cases chunks with
    | nil =>
        have quiet : ¬ OutputRun.IdleBusy { run with buffer := rest } := fun busy =>
          whenBusy busy rest ready
        have kept : Faithful { run with buffer := rest } (text ++ more) :=
          ⟨faithful.awake, carries.trans ((Edits.refl _).append taken),
            fun ended => unended' ended rest, unclosed⟩
        have cancelled := faithful_cancelIdleFlush kept quiet
        exact ⟨cancelled.awake, cancelled.carries, cancelled.ended, cancelled.closing⟩
    | cons chunk chunks =>
        exact ⟨faithful.awake, carries_sends carries taken, fun ended => unended' ended rest,
          unclosed⟩
  · exact ⟨faithful.awake, carries, fun ended => unended' ended _, unclosed⟩

theorem faithful_idleFlush (bounded : 0 < manager.policy.maxChars) (faithful : run.Faithful text)
    (divisible : Divisible manager.policy.maxChars run.buffer) :
    (run.idleFlush manager).Faithful text := by
  unfold idleFlush
  split
  · split
    · exact ⟨faithful.awake, faithful.carries, faithful.ended, faithful.closing⟩
    · split
      · obtain ⟨chunks, rest, ready⟩ := readyChunksIn_some manager.isDigit manager.policy true
          bounded run.buffer.length.succ (Nat.lt_succ_self _) divisible
        have ready : readyChunks manager.isDigit manager.policy true run.buffer =
          some (chunks, rest) := ready
        have taken := carries_readyChunksIn manager.isDigit manager.policy true _ ready
        rw [ready]
        refine ⟨faithful.awake, ?_, fun _ => ?_, faithful.closing⟩
        · exact @carries_sends { run with idle := .flushing run.tasks } _ _ _ _ faithful.carries taken
        · exact rest_of_force manager.isDigit manager.policy _ ready
      · exact ⟨faithful.awake, faithful.carries, faithful.ended, faithful.closing⟩
  · exact faithful

theorem faithful_deliver (faithful : run.Faithful text) {task : Nat}
    (calm : run.Calm manager (.deliver task)) : (run.deliver task).Faithful text := by
  unfold deliver
  split
  next sent found =>
    have member := List.mem_of_find?_eq_some found
    have isTask : sent.1 = task := by simpa using List.find?_some found
    have first := calm sent.2 (isTask ▸ member)
    cases shape : run.flying with
    | nil => simp [shape] at member
    | cons oldest others =>
        have isFirst : oldest.1 = task := by simpa [shape] using first
        obtain rfl : oldest = sent := by simpa [shape, isFirst] using found
        refine ⟨faithful.awake, ?_, faithful.ended, faithful.closing⟩
        have carries := faithful.carries
        simp only [content, shape, List.map_cons, List.flatten_cons] at carries
        simpa [content, isFirst] using carries
  · exact faithful

theorem faithful_finish (bounded : 0 < manager.policy.finalMaxChars) (faithful : run.Faithful text)
    (calm : run.Calm manager .finish) : (run.finish manager).Faithful text := by
  obtain ⟨quiet, divisible⟩ := calm
  have cancelled := faithful_cancelIdleFlush faithful quiet
  have sameBuffer : run.cancelIdleFlush.buffer = run.buffer := by
    unfold cancelIdleFlush
    split <;> rfl
  unfold finish
  split
  · exact faithful
  · obtain ⟨chunks, rest, ready⟩ := readyChunksIn_some manager.isDigit manager.policy.final true
      bounded run.buffer.length.succ (Nat.lt_succ_self _) divisible
    have empty := rest_of_force manager.isDigit manager.policy.final _ ready
    have taken := carries_readyChunksIn manager.isDigit manager.policy.final true _ ready
    have final : finalChunks manager.isDigit manager.policy run.cancelIdleFlush.buffer =
        some (numberParts chunks) := by
      rw [sameBuffer]
      unfold finalChunks readyChunks
      rw [ready]
      rfl
    dsimp only
    rw [final]
    refine ⟨cancelled.awake, ?_, fun _ => rfl, fun _ => rfl⟩
    have numbered : Carries run.cancelIdleFlush.buffer ((numberParts chunks).flatten ++ []) := by
      rw [sameBuffer]
      refine taken.trans ?_
      rw [empty]
      exact (carries_numberParts chunks).append (Edits.refl [])
    exact @carries_sends { run.cancelIdleFlush with ending := some run.tasks } _ _ _ _
      cancelled.carries numbered

theorem faithful_close (faithful : run.Faithful text) : run.close.Faithful text := by
  unfold close
  split
  next task ending =>
    split
    · exact faithful
    · exact ⟨faithful.awake, faithful.carries, faithful.ended, fun _ => by simp [ending]⟩
  · exact faithful

theorem faithful_step (bounded : 0 < manager.policy.maxChars)
    (finalBound : 0 < manager.policy.finalMaxChars) (faithful : run.Faithful text) {op : OutputOp}
    (calm : run.Calm manager op) : (run.step manager op).Faithful (text ++ op.text) := by
  unfold step
  rw [if_neg (by simp [faithful.awake])]
  cases op with
  | append more => exact faithful_appendText bounded faithful calm
  | idle => simpa [OutputOp.text] using faithful_idleFlush bounded faithful calm
  | deliver task => simpa [OutputOp.text] using faithful_deliver faithful calm
  | finish => simpa [OutputOp.text] using faithful_finish finalBound faithful calm
  | close => simpa [OutputOp.text] using faithful_close faithful

theorem faithful_foldl (bounded : 0 < manager.policy.maxChars)
    (finalBound : 0 < manager.policy.finalMaxChars) (ops : List OutputOp) (faithful : run.Faithful text)
    (calm : Along (step manager) (Calm manager) run ops) :
    (ops.foldl (step manager) run).Faithful (text ++ ops.flatMap OutputOp.text) := by
  induction ops generalizing run text with
  | nil => simpa using faithful
  | cons op rest ih =>
      have next := ih (faithful_step bounded finalBound faithful calm.1) calm.2
      simpa using next

/-- In every calm run the bodies that were delivered, the chunks on their way and the
buffer carry the appended text; after the end, once everything is sent, the bodies do. -/
theorem output_delivered_once (manager : Manager) (bounded : 0 < manager.policy.maxChars)
    (finalBound : 0 < manager.policy.finalMaxChars) (ops : List OutputOp)
    (calm : Along (step manager) (Calm manager) {} ops) :
    let run := ops.foldl (step manager) {}
    let appended := ops.flatMap OutputOp.text
    Carries appended run.content ∧
      (run.ending.isSome → run.flying = [] → Carries appended run.bodies.flatten) := by
  intro run appended
  have faithful : run.Faithful appended :=
    faithful_foldl bounded finalBound ops ⟨rfl, Edits.refl [], fun _ => rfl, by simp⟩ calm
  refine ⟨faithful.carries, fun ended sent => ?_⟩
  have carries := faithful.carries
  rw [content, faithful.ended ended, sent] at carries
  simpa using carries

def terminalManager : Manager where
  isDigit letter := letter.isDigit

def sentence : Text := List.replicate 130 'a' ++ ['.']

theorem not_idleBusy (sent : run.flying = []) : ¬ run.IdleBusy := by
  rintro ⟨task, chunk, _, member⟩
  simp [sent] at member

theorem divisible_of_short {limit : Nat} {buffer : Text} (short : buffer.length ≤ limit) :
    Divisible limit buffer := fun longer => absurd longer (by omega)

theorem step_sentence : step terminalManager {} (.append sentence) =
    { buffer := sentence, idle := .sleeping } := by
  decide +kernel

theorem step_idle : step terminalManager { buffer := sentence, idle := .sleeping } .idle =
    { idle := .flushing 0, tasks := 1, flying := [(0, sentence)] } := by
  decide +kernel

theorem output_delivered_once_idle :
    let ops : List OutputOp := [.append sentence, .idle, .deliver 0, .append ['x'], .finish, .deliver 1]
    let run := ops.foldl (step terminalManager) {}
    run.flying = [] ∧ Carries (sentence ++ ['x']) run.bodies.flatten := by
  intro ops run
  have calm : Along (step terminalManager) (Calm terminalManager) {} ops := by
    simp only [ops, Along, step_sentence, step_idle]
    refine ⟨⟨rfl, fun _ => ⟨divisible_of_short (by decide +kernel), ?_⟩⟩,
      divisible_of_short (by decide +kernel), fun _ _ => rfl, ⟨rfl, fun _ =>
        ⟨divisible_of_short (by decide +kernel), fun busy => absurd busy (not_idleBusy rfl)⟩⟩,
      ⟨not_idleBusy (by decide +kernel), divisible_of_short (by decide +kernel)⟩,
      fun _ _ => by decide +kernel, trivial⟩
    rintro ⟨task, chunk, flushing, _⟩
    cases flushing
  have final : run.flying = [] ∧ run.ending.isSome = true := by
    simp only [run, ops, List.foldl_cons, List.foldl_nil, step_sentence, step_idle]
    decide +kernel
  have delivered := output_delivered_once terminalManager (by decide) (by decide) ops calm
  exact ⟨final.1, delivered.2 final.2 final.1⟩

/-- The next text comes while the idle flush sends: the sentence is never delivered. -/
theorem cancelled_flush_loses_text :
    let ops : List OutputOp := [.append sentence, .idle, .append ['x'], .finish, .deliver 1]
    let run := ops.foldl (step terminalManager) {}
    run.ending = some 1 ∧ run.flying = [] ∧ ¬ Carries (sentence ++ ['x']) run.bodies.flatten := by
  intro ops run
  have final : run.ending = some 1 ∧ run.flying = [] ∧ run.bodies = [['x']] := by
    simp only [run, ops, List.foldl_cons, List.foldl_nil, step_sentence, step_idle]
    decide +kernel
  refine ⟨final.1, final.2.1, fun carries => ?_⟩
  have solid : ¬ isSpace 'a' = true := by decide
  have counts := carries.count_le solid
  rw [final.2.2] at counts
  exact absurd counts (by decide +kernel)

end OutputRun

end Wlcodex.Telegram
