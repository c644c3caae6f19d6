import Mathlib.Data.List.Perm.Basic
import Wlcodex.Lib.Run
import Wlcodex.Relay.Vocabulary

namespace Wlcodex.Claude

open Wlcodex.Lib
open Wlcodex.Relay (strip)

/-! `_sync_local_transcript`: a local transcript is brought into the log of its agent run. -/

inductive Speaker where
  | user
  | assistant
  deriving DecidableEq

/-- A `ClaudeTranscriptEntry` with a text; its uuid and time are not read here. -/
structure TranscriptEntry where
  role : Speaker
  text : String
  spoken : strip text ≠ ""

abbrev MessageKey := Speaker × String

def TranscriptEntry.key (entry : TranscriptEntry) : MessageKey := (entry.role, strip entry.text)

/-- A row of `runtime_events` of the agent run: a message that was received or completed, or
another event (raw frames, deltas, heartbeats, displays, a start or an end). -/
inductive AgentRow where
  | message (entry : TranscriptEntry)
  | other

def AgentRow.key? : AgentRow → Option MessageKey
  | .message entry => some entry.key
  | .other => none

/-- `emitter.user_message` and `emitter.message_completed`. -/
def mirroredRows (entry : TranscriptEntry) : List AgentRow :=
  match entry.role with
  | .user => [.message entry]
  | .assistant => [.other, .message entry]

structure BackgroundPrompt where
  prompt : String
  syncedCount : Nat

structure ClaudeSession where
  transcript : List TranscriptEntry := []
  /-- The rows of the agent run, the oldest first. -/
  rows : List AgentRow := []
  /-- `claude_synced_message_count` of the stored metadata. -/
  syncedCount : Nat := 0
  prompts : List BackgroundPrompt := []

def messages (rows : List AgentRow) : List MessageKey := rows.filterMap AgentRow.key?

/-- `_existing_transcript_event_counts`; a key is counted by how often it stands in the list. -/
def existingTranscriptEventCounts (rows : List AgentRow) : List MessageKey :=
  messages (rows.take 1000)

def SkipsText (skipUserText : String) (key : MessageKey) : Prop :=
  skipUserText ≠ "" ∧ key = (.user, strip skipUserText)

instance (skipUserText : String) (key : MessageKey) : Decidable (SkipsText skipUserText key) :=
  inferInstanceAs (Decidable (_ ∧ _))

/-- The loop of `_sync_local_transcript` over the entries that are new to it. -/
def mirrorEntries (skipUserText : String) : List MessageKey → Bool → List TranscriptEntry →
    List AgentRow
  | _, _, [] => []
  | counts, skippedUser, entry :: entries =>
      if entry.key ∈ counts then
        mirrorEntries skipUserText (counts.erase entry.key) skippedUser entries
      else if ¬skippedUser ∧ SkipsText skipUserText entry.key then
        mirrorEntries skipUserText counts true entries
      else mirroredRows entry ++ mirrorEntries skipUserText counts skippedUser entries

variable (session : ClaudeSession)

def ClaudeSession.syncLocalTranscript (skipUserText : String) :
    ClaudeSession :=
  if session.transcript.length ≤ session.syncedCount then session
  else
    { session with
      rows := session.rows ++ mirrorEntries skipUserText
        (existingTranscriptEventCounts session.rows) false
        (session.transcript.drop session.syncedCount)
      syncedCount := session.transcript.length }

inductive ClaudeStep where
  /-- The transcript grows by an entry. -/
  | grow (entry : TranscriptEntry)
  /-- A sync of the stored session. -/
  | sync
  /-- `_start_background_prompt`. -/
  | prompt (text : String) (spoken : strip text ≠ "")
  /-- Rows of a running prompt: raw frames, deltas and heartbeats. -/
  | stream (rows : Nat)
  /-- A running prompt comes to its end. -/
  | finish (turn : Nat) (succeeded : Bool)

/-- `_update_after_run` writes the metadata that the prompt began with. -/
def ClaudeSession.updateAfterRun (prompt : BackgroundPrompt) :
    ClaudeSession :=
  { session with syncedCount := prompt.syncedCount }

def claudeStep : ClaudeStep → ClaudeSession
  | .grow entry => { session with transcript := session.transcript ++ [entry] }
  | .sync => session.syncLocalTranscript ""
  | .prompt text spoken =>
      { session with
        rows := session.rows ++ [.other, .message ⟨.user, text, spoken⟩]
        prompts := session.prompts ++ [⟨text, session.syncedCount⟩] }
  | .stream rows => { session with rows := session.rows ++ List.replicate rows .other }
  | .finish turn succeeded =>
      match session.prompts[turn]? with
      | none => session
      | some prompt =>
          let updated := session.updateAfterRun prompt
          let synced := if succeeded then updated.syncLocalTranscript prompt.prompt else updated
          { synced with
            rows := synced.rows ++ [.other]
            prompts := session.prompts.eraseIdx turn }

def ClaudeStep.syncing? : ClaudeStep → Option (ClaudeSession × String)
  | .sync => some (session, "")
  | .finish turn true =>
      session.prompts[turn]?.map fun prompt => (session.updateAfterRun prompt, prompt.prompt)
  | _ => none

def Mirrored : Prop :=
  (messages session.rows).Perm (session.transcript.map TranscriptEntry.key)

def CoversKey (skipUserText : String) (key : MessageKey) : Prop :=
  let events := (messages session.rows).count key
  let heldBack := (existingTranscriptEventCounts session.rows).count key +
    if SkipsText skipUserText key then 1 else 0
  let before := ((session.transcript.take session.syncedCount).map TranscriptEntry.key).count key
  let new := ((session.transcript.drop session.syncedCount).map TranscriptEntry.key).count key
  events = before + new ∧ new ≤ heldBack ∨ events < before + new ∧ events = before + heldBack

def Covers (skipUserText : String) : Prop :=
  ∀ key, CoversKey session skipUserText key

theorem messages_append (first second : List AgentRow) :
    messages (first ++ second) = messages first ++ messages second := List.filterMap_append

theorem messages_mirroredRows (entry : TranscriptEntry) : messages (mirroredRows entry) = [entry.key] := by
  unfold mirroredRows
  cases entry.role <;> rfl

theorem SkipsText.unique {skipUserText : String} {first second : MessageKey}
    (front : SkipsText skipUserText first) (back : SkipsText skipUserText second) : first = second :=
  front.2.trans back.2.symm

theorem count_mirrorEntries (skipUserText : String) (key : MessageKey) (counts : List MessageKey)
    (skippedUser : Bool) (entries : List TranscriptEntry) :
    (messages (mirrorEntries skipUserText counts skippedUser entries)).count key =
      (entries.map TranscriptEntry.key).count key - counts.count key -
        if ¬skippedUser ∧ SkipsText skipUserText key then 1 else 0 := by
  induction entries generalizing counts skippedUser with
  | nil => simp [mirrorEntries, messages]
  | cons entry entries ih =>
      rw [mirrorEntries, List.map_cons, List.count_cons]
      by_cases held : entry.key ∈ counts
      · rw [if_pos held, ih, List.count_erase]
        by_cases own : entry.key = key
        · subst own
          have some_ : 0 < counts.count entry.key := List.count_pos_iff.mpr held
          simp only [beq_self_eq_true, if_true]
          omega
        · have apart : (entry.key == key) = false := beq_eq_false_iff_ne.mpr own
          simp only [apart, Bool.false_eq_true, if_false, Nat.add_zero, Nat.sub_zero]
      by_cases skips : ¬skippedUser ∧ SkipsText skipUserText entry.key
      · rw [if_neg held, if_pos skips, ih, if_neg fun flag => flag.1 rfl]
        by_cases own : entry.key = key
        · subst own
          rw [List.count_eq_zero_of_not_mem held, if_pos skips, beq_self_eq_true, if_pos rfl]
          omega
        · rw [beq_eq_false_iff_ne.mpr own, if_neg Bool.false_ne_true,
            if_neg fun other => own (skips.2.unique other.2)]
          rfl
      · rw [if_neg held, if_neg skips, messages_append, List.count_append, messages_mirroredRows,
          List.count_singleton, ih]
        by_cases own : entry.key = key
        · subst own
          rw [List.count_eq_zero_of_not_mem held, if_neg skips, beq_self_eq_true, if_pos rfl]
          omega
        · rw [beq_eq_false_iff_ne.mpr own, if_neg Bool.false_ne_true, Nat.zero_add, Nat.add_zero]

theorem count_transcript (key : MessageKey) :
    (session.transcript.map TranscriptEntry.key).count key =
      ((session.transcript.take session.syncedCount).map TranscriptEntry.key).count key +
        ((session.transcript.drop session.syncedCount).map TranscriptEntry.key).count key := by
  rw [← List.count_append, ← List.map_append, List.take_append_drop]

theorem count_synced (skipUserText : String) (key : MessageKey) :
    (messages (session.syncLocalTranscript skipUserText).rows).count key =
      (messages session.rows).count key +
        (((session.transcript.drop session.syncedCount).map TranscriptEntry.key).count key -
          (existingTranscriptEventCounts session.rows).count key -
            if SkipsText skipUserText key then 1 else 0) := by
  rw [ClaudeSession.syncLocalTranscript]
  by_cases nothing : session.transcript.length ≤ session.syncedCount
  · rw [if_pos nothing, List.drop_of_length_le nothing]
    simp
  · rw [if_neg nothing]
    rw [messages_append, List.count_append, count_mirrorEntries]
    simp only [Bool.false_eq_true, not_false_eq_true, true_and]

theorem transcript_synced (skipUserText : String) :
    (session.syncLocalTranscript skipUserText).transcript = session.transcript := by
  unfold ClaudeSession.syncLocalTranscript
  split_ifs <;> rfl

theorem mirrored_sync_iff (skipUserText : String) :
    Mirrored (session.syncLocalTranscript skipUserText) ↔ Covers session skipUserText := by
  rw [Mirrored, List.perm_iff_count, transcript_synced]
  apply forall_congr'
  intro key
  rw [count_synced, count_transcript, CoversKey]
  omega

theorem mirrored_step_iff {session syncing : ClaudeSession} {step : ClaudeStep}
    {skipUserText : String} (syncs : step.syncing? session = some (syncing, skipUserText)) :
    Mirrored (claudeStep session step) ↔ Covers syncing skipUserText := by
  rw [← mirrored_sync_iff]
  cases step with
  | grow | prompt | stream => cases syncs
  | sync =>
      cases syncs
      rfl
  | finish turn succeeded =>
      cases succeeded with
      | false => cases syncs
      | true =>
          obtain ⟨prompt, running, same⟩ := Option.map_eq_some_iff.mp syncs
          cases same
          simp only [claudeStep, running, if_true, Mirrored, messages_append]
          rw [show messages [.other] = [] from rfl, List.append_nil]

/-- Every sync of a run leaves the log with the messages of the transcript, each as often as there,
if and only if the state before it covers each key. -/
theorem transcript_mirrored_iff (session : ClaudeSession) (steps : List ClaudeStep) :
    Along claudeStep (fun session step => (step.syncing? session).isSome →
        Mirrored (claudeStep session step)) session steps ↔
      Along claudeStep (fun session step => ∀ sync ∈ step.syncing? session,
        Covers sync.1 sync.2) session steps := by
  refine along_congr (along_mono (fun session step _ => ?_) (along_true session steps))
  cases syncs : step.syncing? session with
  | none => exact iff_of_true nofun nofun
  | some sync =>
      rw [mirrored_step_iff syncs]
      exact ⟨fun covers _ same => Option.some.inj same ▸ covers rfl, fun covers _ => covers sync rfl⟩

def asked (question : String) (spoken : strip question ≠ "") : List ClaudeStep :=
  [.grow ⟨.user, question, spoken⟩, .grow ⟨.assistant, "ok", by decide⟩, .sync]

/-- The second answer has the words of the first one, and is taken for it. -/
theorem second_answer_lost :
    ¬Along claudeStep (fun session step => (step.syncing? session).isSome →
        Mirrored (claudeStep session step)) {} (asked "hi" (by decide) ++ asked "more" (by decide)) := by
  rintro ⟨-, -, -, -, -, last, -⟩
  exact absurd (last rfl).length_eq (by decide)

end Wlcodex.Claude
