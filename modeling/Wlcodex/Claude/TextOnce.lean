import Mathlib.Data.List.Induction
import Wlcodex.Claude.StreamParser

namespace Wlcodex.Claude

open Wlcodex.Lib
open Wlcodex.Relay (Dict str strip truthy)

/-! How often the text of a message reaches the listeners. -/

inductive Utterance where
  | delta (text : String)
  | message (text : String)
  | result (text : String)
  deriving DecidableEq

structure Spoken where
  deltas : List String
  text : String
  whole : deltas = [] ∨ deltas.foldr (· ++ ·) "" = text

def joined (texts : List String) : String := texts.foldr (· ++ ·) ""

def Spoken.script (message : Spoken) : List Utterance :=
  message.deltas.map .delta ++ [.message message.text]

structure Heard where
  text : String := ""
  shown : Bool := false
  spoken : String := ""

def news (known text : String) : String :=
  if startsWith text known then behind known.toList.length text else text

def hear (heard : Heard) : Utterance → Heard
  | .delta text => ⟨heard.text ++ text, heard.shown || text ≠ "", heard.spoken ++ text⟩
  | .message text =>
      if text = "" ∨ news heard.text text = "" then heard
      else ⟨text, true, heard.spoken ++ news heard.text text⟩
  | .result text =>
      if text ≠ "" ∧ !heard.shown then { heard with shown := true, spoken := heard.spoken ++ text }
      else heard

def after (last text : String) : String := if text = "" then last else text

/-- The message is said once after a message with the text `last`. -/
def Spoken.Fresh (last : String) (message : Spoken) : Prop :=
  message.text = "" ∨ last = "" ∨ message.deltas = [] ∧ startsWith message.text last = false

def Fresh (last : String) : List Spoken → Prop
  | [] => True
  | message :: rest => message.Fresh last ∧ Fresh (after last message.text) rest

@[simp] theorem joined_nil : joined [] = "" := rfl

@[simp] theorem joined_cons (text : String) (texts : List String) :
    joined (text :: texts) = text ++ joined texts := rfl

theorem joined_append (first second : List String) :
    joined (first ++ second) = joined first ++ joined second := by
  induction first with
  | nil => simp
  | cons text rest ih => simp [ih, String.append_assoc]

theorem startsWith_iff {text start : String} :
    startsWith text start = true ↔ ∃ rest, text = start ++ rest := by
  unfold startsWith
  rw [List.isPrefixOf_iff_prefix]
  constructor
  · rintro ⟨rest, same⟩
    exact ⟨String.ofList rest, String.toList_inj.mp (by simp [same])⟩
  · rintro ⟨rest, rfl⟩
    exact ⟨rest.toList, by simp⟩

theorem news_append (known rest : String) : news known (known ++ rest) = rest := by
  unfold news
  rw [if_pos (startsWith_iff.mpr ⟨rest, rfl⟩)]
  simp [behind]

theorem news_of_not_startsWith {known text : String} (unlike : startsWith text known = false) :
    news known text = text := by
  simp [news, unlike]

theorem news_empty (text : String) : news "" text = text := by
  simpa using news_append "" text

theorem append_eq_left {first second : String} (same : first ++ second = first) : second = "" := by
  have lists := congrArg String.toList same
  simpa using lists

theorem append_eq_right {first second : String} (same : first ++ second = second) : first = "" := by
  have lists := congrArg String.toList same
  simpa using lists

theorem news_streamed {known text : String} (before : known ≠ "") : news (known ++ text) text = text := by
  apply news_of_not_startsWith
  cases begins : startsWith text (known ++ text) with
  | false => rfl
  | true =>
      obtain ⟨rest, same⟩ := startsWith_iff.mp begins
      have lengths := congrArg (fun text : String => text.toList.length) same
      simp only [String.toList_append, List.length_append] at lengths
      have empty : known.toList = [] := List.length_eq_zero_iff.mp (by omega)
      exact absurd (String.toList_inj.mp (by simpa using empty)) before

theorem foldl_deltas (heard : Heard) (deltas : List String) :
    (deltas.map Utterance.delta).foldl hear heard =
      ⟨heard.text ++ joined deltas, heard.shown || joined deltas ≠ "",
        heard.spoken ++ joined deltas⟩ := by
  induction deltas generalizing heard with
  | nil => simp
  | cons text rest ih =>
      simp only [List.map_cons, List.foldl_cons, ih, hear, joined_cons, String.append_assoc]
      by_cases empty : text = ""
      · simp [empty]
      · have apart : text ++ joined rest ≠ "" := fun both => empty (String.append_eq_empty_iff.mp both).1
        simp [empty, apart]

def Spoken.aloud (last : String) (message : Spoken) : String :=
  if message.text = "" then ""
  else if message.deltas = [] then news last message.text
  else if last = "" then message.text
  else message.text ++ message.text

theorem eq_of_news_empty {known text : String} (nothing : news known text = "")
    (some : text ≠ "") : text = known := by
  cases begins : startsWith text known with
  | false => exact absurd ((news_of_not_startsWith begins).symm.trans nothing) some
  | true =>
      obtain ⟨rest, rfl⟩ := startsWith_iff.mp begins
      rw [news_append] at nothing
      simp [nothing]

variable {events : List ClaudeStreamEvent} {payload : Dict} {text : String}

theorem hear_message (heard : Heard) (some : text ≠ "") :
    (hear heard (.message text)).text = text ∧
      (hear heard (.message text)).spoken = heard.spoken ++ news heard.text text := by
  by_cases nothing : news heard.text text = ""
  · simp only [hear, nothing, or_true, if_true, String.append_empty, and_true]
    exact (eq_of_news_empty nothing some).symm
  · simp only [hear, some, nothing, or_self, if_false, and_self]

theorem foldl_script (heard : Heard) (message : Spoken) :
    (message.script.foldl hear heard).text = after heard.text message.text ∧
      (message.script.foldl hear heard).spoken = heard.spoken ++ message.aloud heard.text := by
  obtain ⟨deltas, text, whole⟩ := message
  simp only [Spoken.script, List.foldl_append, foldl_deltas, List.foldl_cons, List.foldl_nil,
    Spoken.aloud, after]
  by_cases empty : text = ""
  · have pieces : joined deltas = "" := by
      rcases whole with none | all
      · simp [none]
      · exact all.trans empty
    simp [empty, pieces, hear]
  · rw [if_neg empty, if_neg empty]
    obtain ⟨known, aloud⟩ := hear_message ⟨heard.text ++ joined deltas,
      heard.shown || joined deltas ≠ "", heard.spoken ++ joined deltas⟩ empty
    refine ⟨known, aloud.trans ?_⟩
    rw [String.append_assoc]
    split
    next none => simp [none]
    next streamed =>
      have pieces : joined deltas = text := whole.resolve_left streamed
      rw [pieces]
      split
      next first =>
        have again := news_append text ""
        simp only [String.append_empty] at again
        rw [first, String.empty_append, again, String.append_empty]
      next before => rw [news_streamed before]

theorem aloud_eq_iff (last : String) (message : Spoken) :
    message.aloud last = message.text ↔ message.Fresh last := by
  unfold Spoken.aloud Spoken.Fresh
  by_cases empty : message.text = ""
  · simp [empty]
  by_cases first : last = ""
  · simp [empty, first, news_empty]
  by_cases streamed : message.deltas = []
  · cases begins : startsWith message.text last with
    | false => simp [empty, streamed, news_of_not_startsWith begins]
    | true =>
        obtain ⟨rest, same⟩ := startsWith_iff.mp begins
        have shorter : rest ≠ message.text := fun whole =>
          first (append_eq_right (same.symm.trans whole.symm))
        have skipped : news last message.text = rest := by rw [same, news_append]
        simp [empty, first, streamed, skipped, shorter]
  · have doubled : message.text ++ message.text ≠ message.text := fun same =>
      empty (append_eq_left same)
    simp [empty, first, streamed, doubled]

def script (messages : List Spoken) : List Utterance := messages.flatMap Spoken.script

def texts (messages : List Spoken) : String := joined (messages.map Spoken.text)

theorem spoken_script_iff (heard : Heard) (messages : List Spoken) :
    (∀ count, ((script (messages.take count)).foldl hear heard).spoken =
        heard.spoken ++ texts (messages.take count)) ↔ Fresh heard.text messages := by
  induction messages generalizing heard with
  | nil => simp [script, texts, Fresh]
  | cons message rest ih =>
      let next := message.script.foldl hear heard
      obtain ⟨known, aloud⟩ := foldl_script heard message
      have later (count : Nat) :
          (script ((message :: rest).take (count + 1))).foldl hear heard =
            (script (rest.take count)).foldl hear next := by
        simp only [script, List.take_succ_cons, List.flatMap_cons, List.foldl_append, next]
      have expected (count : Nat) : texts ((message :: rest).take (count + 1)) =
          message.text ++ texts (rest.take count) := by
        simp only [texts, List.take_succ_cons, List.map_cons, joined_cons]
      rw [Fresh, ← aloud_eq_iff, ← known, ← ih next]
      constructor
      · intro always
        have first : message.aloud heard.text = message.text := by
          have once := always 1
          simpa [script, texts, next, aloud] using once
        have opening : next.spoken = heard.spoken ++ message.text := by rw [← first]; exact aloud
        refine ⟨first, fun count => ?_⟩
        rw [← later, always (count + 1), expected, ← String.append_assoc, opening]
      · rintro ⟨first, always⟩ count
        cases count with
        | zero => simp [script, texts]
        | succ count =>
            have opening : next.spoken = heard.spoken ++ message.text := by rw [← first]; exact aloud
            rw [later, expected, always count, ← String.append_assoc, opening]

def Heard.Showed (heard : Heard) : Prop := heard.text ≠ "" → heard.shown = true

theorem showed_hear {heard : Heard} (showed : heard.Showed) (utterance : Utterance) :
    (hear heard utterance).Showed := by
  cases utterance with
  | delta text =>
      intro known
      by_cases empty : text = ""
      · simpa [hear, empty] using showed (by simpa [hear, empty] using known)
      · simp [hear, empty]
  | message text =>
      simp only [hear]
      split
      · exact showed
      · exact fun _ => rfl
  | result text =>
      simp only [hear]
      split
      · exact fun _ => rfl
      · exact showed

theorem showed_foldl (utterances : List Utterance) {heard : Heard} (showed : heard.Showed) :
    (utterances.foldl hear heard).Showed := by
  induction utterances generalizing heard with
  | nil => exact showed
  | cons utterance rest ih => exact ih (showed_hear showed utterance)

def lastText (messages : List Spoken) : String := (messages.getLast?.map Spoken.text).getD ""

theorem text_script (messages : List Spoken) (heard : Heard) (some : lastText messages ≠ "") :
    ((script messages).foldl hear heard).text = lastText messages := by
  induction messages using List.reverseRecOn with
  | nil => exact absurd rfl some
  | append_singleton messages last _ =>
      have isLast : lastText (messages ++ [last]) = last.text := by simp [lastText]
      rw [isLast] at some ⊢
      simp only [script, List.flatMap_append, List.flatMap_singleton, List.foldl_append]
      rw [(foldl_script _ last).1, after, if_neg some]

theorem hear_result (messages : List Spoken) :
    hear ((script messages).foldl hear {}) (.result (lastText messages)) =
      (script messages).foldl hear {} := by
  simp only [hear]
  split
  next silent =>
    have known : ((script messages).foldl hear {}).text ≠ "" := by
      rw [text_script messages {} silent.1]
      exact silent.1
    have showed : ({} : Heard).Showed := fun empty => absurd rfl empty
    simp [showed_foldl (script messages) showed known] at silent
  · rfl

inductive Reading where
  | utters (utterance : Utterance)
  | aside
  | foreign
  deriving DecidableEq

def Reading.utterance? : Reading → Option Utterance
  | .utters utterance => some utterance
  | _ => none

section Lines

variable (repr : Json → String) (trunc : FloatLiteral → Option Int) (beyond : String → Bool)

def readStreamEvent (payload : Dict) : Reading :=
  match payload.lookup "event" with
  | some (.object event) =>
      if textAt repr event "type" = "content_block_start" then .aside
      else match (deltaOf event).lookup "type", (deltaOf event).lookup "text" with
        | some (.string "text_delta"), some (.string text) => .utters (.delta text)
        | _, _ => .aside
  | _ => .aside

def readAssistant (payload : Dict) : Reading :=
  match payload.lookup "message" with
  | some (.object message) =>
      match message.lookup "content" with
      | some (.array content) => .utters (.message (contentText content))
      | some (.string text) => .utters (.message text)
      | _ => .foreign
  | _ => .foreign

def readResult (payload : Dict) : Reading :=
  match payload.lookup "subtype", payload.lookup "result" with
  | some (.string "success"), some (.string text) =>
      if (extractUsage trunc payload).isSome then .utters (.result text) else .foreign
  | _, _ => .foreign

def readPayload (payload : Dict) : Reading :=
  match payload.lookup "type" with
  | some (.string type) =>
      if type = "stream_event" then readStreamEvent repr payload
      else if type = "assistant" then readAssistant payload
      else if type = "result" then readResult trunc payload
      else if type = "error" ∨ type = "api_error" then .foreign
      else .aside
  | _ => .foreign

def readLine (line : String) : Reading :=
  let stripped := strip line
  if stripped = "" then .aside
  else if beyond stripped then .foreign
  else match Json.loads stripped.toList with
    | some (.object payload) => readPayload repr trunc payload
    | _ => .foreign

def said (line : String) : Option Utterance := (readLine repr trunc beyond line).utterance?

/-- A well-formed stream: the messages in their order with asides anywhere, and a
success that repeats the last text. -/
structure Stream (lines : List String) (messages : List Spoken) : Prop where
  native : ∀ line ∈ lines, readLine repr trunc beyond line ≠ .foreign
  order : lines.filterMap (said repr trunc beyond) = script messages ++ [.result (lastText messages)]

end Lines

/-- The text of a `model.text.delta` event. -/
def deltaText (event : ClaudeStreamEvent) : Option String :=
  match event.runtimeEventType, event.runtimePayload.lookup "text" with
  | .modelTextDelta, some (.string text) => some text
  | _, _ => none

def emittedText (events : List ClaudeStreamEvent) : String := joined (events.filterMap deltaText)

def Utters (events : List ClaudeStreamEvent) (texts : List String) : Prop :=
  events.filterMap deltaText = texts ∧ events.filterMap shownText = texts

theorem utters_nil : Utters [] [] := ⟨rfl, rfl⟩

theorem utters_append {first second : List ClaudeStreamEvent} {early late : List String}
    (utters : Utters first early) (more : Utters second late) :
    Utters (first ++ second) (early ++ late) :=
  ⟨by rw [List.filterMap_append, utters.1, more.1], by rw [List.filterMap_append, utters.2, more.2]⟩

def ClaudeStreamEvent.Mute (event : ClaudeStreamEvent) : Prop :=
  event.runtimeEventType ≠ .modelTextDelta ∧ event.agentDelta = ""

theorem utters_of_mute (mute : ∀ event ∈ events, event.Mute) :
    Utters events [] := by
  constructor
  · rw [List.filterMap_eq_nil_iff]
    intro event member
    unfold deltaText
    split
    next isDelta _ => exact absurd isDelta (mute event member).1
    · rfl
  · rw [List.filterMap_eq_nil_iff]
    intro event member
    simp [shownText, (mute event member).2]

theorem utters_mute {event : ClaudeStreamEvent} (mute : event.Mute) : Utters [event] [] :=
  utters_of_mute (by simpa using mute)

theorem mute_activity (payload : Dict) : (activity payload).Mute := ⟨by simp [activity], rfl⟩

theorem mute_messageCompleted (text : String) : (messageCompleted text).Mute :=
  ⟨by simp [messageCompleted], rfl⟩

theorem utters_textDelta (some : text ≠ "") (sessionId : String) :
    Utters [textDelta text sessionId] [text] := by
  constructor
  · rfl
  · simp [shownText, textDelta, some]

section Handlers

variable (repr : Json → String) (trunc : FloatLiteral → Option Int) (beyond : String → Bool)

theorem mute_toolItem {item : Json} {event : ClaudeStreamEvent}
    (found : toolItem repr item = some event) : event.Mute := by
  unfold toolItem at found
  split at found
  · split at found
    · dsimp only at found
      split at found
      · cases found
        exact ⟨by simp, rfl⟩
      · cases found
        exact ⟨by simp, rfl⟩
    · cases found
  · cases found

theorem utters_tools (content : List Json) : Utters (content.filterMap (toolItem repr)) [] := by
  apply utters_of_mute
  intro event member
  obtain ⟨item, _, found⟩ := List.mem_filterMap.mp member
  exact mute_toolItem repr found

theorem handleContentBlockStart_mute (event : Dict) (assistantText : String) :
    ∃ only : ClaudeStreamEvent, only.Mute ∧
      handleContentBlockStart repr event assistantText = ([only], assistantText) := by
  unfold handleContentBlockStart
  split
  · dsimp only
    split
    · exact ⟨_, ⟨by simp, rfl⟩, rfl⟩
    · exact ⟨_, mute_activity _, rfl⟩
  · exact ⟨_, mute_activity _, rfl⟩

def Hears (heard : Heard) (utterance : Option Utterance) (events : List ClaudeStreamEvent)
    (assistantText : String) : Prop :=
  ∃ texts, Utters events texts ∧
    (utterance.elim heard (hear heard)) =
      ⟨assistantText, heard.shown || !texts.isEmpty, heard.spoken ++ joined texts⟩

variable {repr trunc beyond}

theorem hears_aside {heard : Heard} (utters : Utters events []) :
    Hears heard none events heard.text :=
  ⟨[], utters, by simp⟩

theorem hears_streamEvent {heard : Heard} (handled : handleStreamEvent repr payload heard.text = (events, text)) :
    Hears heard (readStreamEvent repr payload).utterance? events text := by
  unfold handleStreamEvent at handled
  split at handled
  next event isEvent =>
    simp only [readStreamEvent, isEvent]
    dsimp only at handled
    split at handled
    next starts =>
      obtain ⟨only, mute, same⟩ := handleContentBlockStart_mute repr event heard.text
      obtain ⟨rfl, rfl⟩ := Prod.mk.inj (same.symm.trans handled)
      rw [if_pos starts]
      exact hears_aside (utters_mute mute)
    next other =>
      rw [if_neg other]
      split at handled
      next isDelta =>
        split at handled
        next piece isText =>
          simp only [isDelta, isText]
          split at handled
          next empty =>
            cases handled
            refine ⟨[], utters_mute (mute_activity _), ?_⟩
            simp [Reading.utterance?, hear, empty]
          next some =>
            cases handled
            refine ⟨[piece], utters_textDelta some "", ?_⟩
            simp [Reading.utterance?, hear, some]
        next noText =>
          cases handled
          split
          next isText => exact absurd isText (noText _)
          · exact hears_aside (utters_mute (mute_activity _))
      next isInput =>
        cases handled
        simp only [isInput]
        exact hears_aside (utters_mute (mute_activity _))
      next noDelta _ =>
        cases handled
        split
        next isDelta _ => exact absurd isDelta noDelta
        · exact hears_aside (utters_mute (mute_activity _))
  next noEvent =>
    cases handled
    unfold readStreamEvent
    split
    next event isEvent => exact absurd isEvent (noEvent event)
    · exact hears_aside (utters_mute (mute_activity _))

theorem hears_message {heard : Heard} {text delta : String}
    {next : String} (some : text ≠ "") (isNews : delta = news heard.text text)
    (silent : delta = "" → Utters events [] ∧ next = heard.text)
    (aloud : delta ≠ "" → Utters events [delta] ∧ next = text) :
    Hears heard (Option.some (.message text)) events next := by
  subst isNews
  by_cases nothing : news heard.text text = ""
  · obtain ⟨utters, rfl⟩ := silent nothing
    exact ⟨[], utters, by simp [hear, nothing]⟩
  · obtain ⟨utters, rfl⟩ := aloud nothing
    exact ⟨[_], utters, by simp [hear, nothing, some]⟩

theorem hears_assistant {heard : Heard} (handled : handleAssistant repr payload heard.text = (events, text))
    (native : readAssistant payload ≠ .foreign) :
    Hears heard (readAssistant payload).utterance? events text := by
  have nothing (more : List ClaudeStreamEvent) (mute : Utters more []) :
      Hears heard (some (.message "")) more heard.text := ⟨[], mute, by simp [hear]⟩
  have always : Utters [activity [("message_type", .string "assistant")]] [] :=
    utters_mute (mute_activity _)
  unfold handleAssistant at handled
  split at handled
  next message isMessage =>
    dsimp only at handled
    split at handled
    next content isList =>
      simp only [readAssistant, isMessage, isList, Reading.utterance?]
      have tools := utters_tools repr content
      have start := utters_append (utters_mute (mute_messageCompleted (contentText content))) tools
      split at handled
      next empty =>
        cases handled
        rw [empty]
        exact nothing _ (utters_append tools always)
      next said =>
        split at handled
        next begins =>
          have isNews : behind heard.text.toList.length (contentText content) =
              news heard.text (contentText content) := by simp [news, begins]
          refine hears_message said isNews (fun none => ?_) fun more => ?_
          · rw [if_pos none] at handled
            cases handled
            exact ⟨utters_append start always, rfl⟩
          · rw [if_neg more] at handled
            cases handled
            exact ⟨utters_append start (utters_append (utters_textDelta more "") always), rfl⟩
        next unlike =>
          have isNews : contentText content = news heard.text (contentText content) := by
            simp [news, unlike]
          refine hears_message said isNews (fun none => absurd none said) fun more => ?_
          cases handled
          exact ⟨utters_append start (utters_append (utters_textDelta more "") always), rfl⟩
    next current isText =>
      simp only [readAssistant, isMessage, isText, Reading.utterance?]
      have start := utters_mute (mute_messageCompleted current)
      split at handled
      next empty =>
        cases handled
        rw [empty]
        exact nothing _ always
      next said =>
        have isNews : (if startsWith current heard.text then
            behind heard.text.toList.length current else current) = news heard.text current := rfl
        refine hears_message said isNews (fun none => ?_) fun more => ?_
        · rw [if_pos none] at handled
          cases handled
          exact ⟨utters_append start always, rfl⟩
        · rw [if_neg more] at handled
          cases handled
          exact ⟨utters_append start (utters_append (utters_textDelta more "") always), rfl⟩
    next noList noText =>
      refine absurd ?_ native
      simp only [readAssistant, isMessage]
  next noMessage =>
    refine absurd ?_ native
    unfold readAssistant
    split
    next isMessage => exact absurd isMessage (noMessage _)
    · rfl

theorem textAt_string {key text : String}
    (found : payload.lookup key = some (.string text)) : textAt repr payload key = text := by
  unfold textAt
  by_cases empty : text = ""
  · simp [found, Option.filter, truthy, empty]
  · simp [found, Option.filter, truthy, empty, str]

theorem mute_usageUpdated (payload usage : Dict) (sessionId : String) :
    (usageUpdated payload usage sessionId).Mute := ⟨by simp [usageUpdated], rfl⟩

theorem readResult_cases (native : readResult trunc payload ≠ .foreign) :
    ∃ text usage, payload.lookup "subtype" = some (.string "success") ∧
      payload.lookup "result" = some (.string text) ∧ extractUsage trunc payload = some usage ∧
      readResult trunc payload = .utters (.result text) := by
  unfold readResult at native ⊢
  split at native
  next text success result =>
    split at native
    next returns =>
      obtain ⟨usage, isUsage⟩ := Option.isSome_iff_exists.mp returns
      exact ⟨text, usage, success, result, isUsage, by simp [returns]⟩
    · exact absurd rfl native
  · exact absurd rfl native

theorem hears_result {heard : Heard} (native : readResult trunc payload ≠ .foreign) :
    ∃ events, handleResult repr trunc payload heard.text heard.shown = some (events, heard.text) ∧
      Hears heard (readResult trunc payload).utterance? events heard.text := by
  obtain ⟨text, usage, success, result, returns, reads⟩ := readResult_cases native
  let sessionId := textAt repr payload "session_id"
  let updated := usageEvents payload sessionId usage
  let shown := if text ≠ "" ∧ !heard.shown then [textDelta text sessionId] else []
  let completed : List ClaudeStreamEvent := if sessionId = "" then [] else
    [{ runtimeEventType := .agentRunCompleted
       runtimePayload := [("session_id", .string sessionId), ("subtype", .string "success")]
       sessionId }]
  refine ⟨updated ++ shown ++ completed, ?_, ?_⟩
  · unfold handleResult
    simp only [textAt_string success, textAt_string result, returns, ne_eq, not_true_eq_false,
      false_and, if_false]
    rfl
  · have first : Utters updated [] := by
      cases usage with
      | none => exact utters_nil
      | some usage => exact utters_mute (mute_usageUpdated payload usage sessionId)
    have last : Utters completed [] := by
      simp only [completed]
      split
      · exact utters_nil
      · exact utters_mute ⟨by simp, rfl⟩
    rw [reads]
    simp only [Reading.utterance?, shown]
    split
    next aloud =>
      refine ⟨[text], utters_append (utters_append first (utters_textDelta aloud.1 _)) last, ?_⟩
      simp [hear, aloud.1, aloud.2]
    next quiet =>
      refine ⟨[], utters_append (utters_append first utters_nil) last, ?_⟩
      simp only [Option.elim_some, hear, if_neg quiet]
      simp

theorem utters_system (payload : Dict) (text : String) :
    Utters (handleSystem repr payload text).1 [] ∧ (handleSystem repr payload text).2 = text := by
  refine ⟨?_, rfl⟩
  unfold handleSystem
  dsimp only
  split
  · exact utters_append (utters_mute ⟨by simp, rfl⟩) (utters_mute (mute_activity _))
  · exact utters_mute (mute_activity _)

theorem utters_hook (payload : Dict) (text : String) :
    Utters (handleHook repr payload text).1 [] ∧ (handleHook repr payload text).2 = text := by
  refine ⟨?_, rfl⟩
  refine @utters_append _ _ [] [] ?_ (utters_mute (mute_activity _))
  split
  · exact utters_mute ⟨by simp, rfl⟩
  · exact utters_mute ⟨by simp, rfl⟩
  · exact utters_mute ⟨by simp, rfl⟩
  · exact utters_mute ⟨by simp, rfl⟩
  · exact utters_nil

theorem hears_payload {heard : Heard} (native : readPayload repr trunc payload ≠ .foreign) :
    ∃ events text, handlePayload repr trunc payload heard.text heard.shown = some (events, text) ∧
      Hears heard (readPayload repr trunc payload).utterance? events text := by
  unfold readPayload at native ⊢
  split at native
  next type isType =>
    unfold handlePayload
    rw [textAt_string isType]
    split at native
    next event =>
      rw [if_pos event, if_pos event]
      exact ⟨_, _, rfl, hears_streamEvent rfl⟩
    next noEvent =>
      rw [if_neg noEvent, if_neg noEvent]
      split at native
      next assistant =>
        rw [if_pos assistant, if_pos assistant]
        exact ⟨_, _, rfl, hears_assistant rfl native⟩
      next noAssistant =>
        rw [if_neg noAssistant, if_neg noAssistant]
        split at native
        next result =>
          rw [if_pos result, if_pos result]
          obtain ⟨events, handled, hears⟩ := hears_result native
          exact ⟨events, _, handled, hears⟩
        next noResult =>
          rw [if_neg noResult, if_neg noResult]
          split at native
          · exact absurd rfl native
          next noError =>
            split
            · exact ⟨_, _, rfl, hears_aside (utters_system payload heard.text).1⟩
            · split
              · exact ⟨_, _, rfl, hears_aside (utters_hook payload heard.text).1⟩
              · exact ⟨_, _, rfl, hears_aside (utters_mute (mute_activity _))⟩
  · exact absurd rfl native

theorem hears_line {heard : Heard} {line : String} (native : readLine repr trunc beyond line ≠ .foreign) :
    ∃ events text, parseLine repr trunc beyond line heard.text heard.shown = some (events, text) ∧
      Hears heard (said repr trunc beyond line) events text := by
  unfold said
  unfold readLine at native ⊢
  unfold parseLine
  dsimp only at native ⊢
  split at native
  next blank =>
    rw [if_pos blank, if_pos blank]
    exact ⟨_, _, rfl, hears_aside utters_nil⟩
  next visible =>
    rw [if_neg visible, if_neg visible]
    split at native
    · exact absurd rfl native
    next within =>
      rw [if_neg within, if_neg within]
      split at native
      next payload isObject =>
        rw [isObject]
        exact hears_payload native
      · exact absurd rfl native

def Streaming.heard (state : Streaming) : Heard :=
  ⟨state.assistantText, !state.accumulated.isEmpty, emittedText state.events⟩

theorem heard_receiveLine (state : Streaming) {line : String}
    (native : readLine repr trunc beyond line ≠ .foreign) :
    ∃ next, receiveLine repr trunc beyond state line = some next ∧
      next.heard = (said repr trunc beyond line).elim state.heard (hear state.heard) := by
  obtain ⟨events, text, parsed, texts, utters, heard⟩ :=
    @hears_line repr trunc beyond state.heard line native
  have parsed : parseLine repr trunc beyond line state.assistantText (!state.accumulated.isEmpty) =
      some (events, text) := parsed
  refine ⟨_, by unfold receiveLine; rw [parsed]; rfl, ?_⟩
  rw [heard]
  have shown : (!(state.accumulated ++ texts).isEmpty) =
      (!state.accumulated.isEmpty || !texts.isEmpty) := by
    cases state.accumulated <;> simp
  simp only [Streaming.heard, emittedText, List.filterMap_append, utters.1, utters.2, joined_append,
    shown]

theorem heard_foldlM (lines : List String) (state : Streaming)
    (native : ∀ line ∈ lines, readLine repr trunc beyond line ≠ .foreign) :
    ∃ next, lines.foldlM (receiveLine repr trunc beyond) state = some next ∧
      next.heard = (lines.filterMap (said repr trunc beyond)).foldl hear state.heard := by
  induction lines generalizing state with
  | nil => exact ⟨state, rfl, rfl⟩
  | cons line rest ih =>
      obtain ⟨middle, received, heard⟩ := heard_receiveLine state (native line List.mem_cons_self)
      obtain ⟨next, folded, later⟩ := ih middle fun line member =>
        native line (List.mem_cons_of_mem _ member)
      refine ⟨next, by rw [List.foldlM_cons, received]; exact folded, later.trans ?_⟩
      rw [heard, List.filterMap_cons]
      cases said repr trunc beyond line with
      | none | some => rfl

variable (repr trunc beyond)

/-- The concatenation of the `model.text.delta` events. -/
def emitted (lines : List String) : Option String :=
  (sendStreaming repr trunc beyond lines).map fun state => emittedText state.events

variable {repr trunc beyond}

theorem emitted_eq {lines : List String}
    (native : ∀ line ∈ lines, readLine repr trunc beyond line ≠ .foreign) :
    emitted repr trunc beyond lines = some ((lines.filterMap (said repr trunc beyond)).foldl hear {}).spoken := by
  obtain ⟨next, folded, heard⟩ := heard_foldlM lines {} native
  have spoken : emittedText next.events = next.heard.spoken := rfl
  rw [emitted, sendStreaming, folded, Option.map_some, spoken, heard]
  rfl

/-- Every message of a stream is fresh exactly if, at the end of every message, the
deltas emitted so far are the texts of the messages so far; and then the whole stream
emits every text once. -/
theorem stream_text_once_iff (repr : Json → String) (trunc : FloatLiteral → Option Int) (beyond : String → Bool)
    (lines : List String) (messages : List Spoken) (stream : Stream repr trunc beyond lines messages) :
    (Fresh "" messages → emitted repr trunc beyond lines = some (texts messages)) ∧
      ((∀ early count, early <+: lines →
          early.filterMap (said repr trunc beyond) = script (messages.take count) →
          emitted repr trunc beyond early = some (texts (messages.take count))) ↔ Fresh "" messages) := by
  have exact_iff := spoken_script_iff {} messages
  refine ⟨fun fresh => ?_, ?_, ?_⟩
  · rw [emitted_eq stream.native, stream.order, List.foldl_append, List.foldl_cons, List.foldl_nil,
      hear_result]
    have all := exact_iff.mpr fresh messages.length
    rw [List.take_length] at all
    exact congrArg some all
  · intro always
    refine exact_iff.mp fun count => ?_
    have parts : script messages ++ [.result (lastText messages)] =
        script (messages.take count) ++
          (script (messages.drop count) ++ [.result (lastText messages)]) := by
      simp only [script]
      rw [← List.append_assoc, ← List.flatMap_append, List.take_append_drop]
    obtain ⟨early, late, rfl, isEarly, _⟩ := List.filterMap_eq_append_iff.mp (stream.order.trans parts)
    have native : ∀ line ∈ early, readLine repr trunc beyond line ≠ .foreign := fun line member =>
      stream.native line (List.mem_append_left late member)
    have heard := always early count (List.prefix_append early late) isEarly
    rw [emitted_eq native, isEarly] at heard
    exact Option.some.inj heard
  · intro fresh early count start isEarly
    have native : ∀ line ∈ early, readLine repr trunc beyond line ≠ .foreign := fun line member =>
      stream.native line (start.subset member)
    rw [emitted_eq native, isEarly]
    exact congrArg some (exact_iff.mpr fresh count)

def deltaLine (text : String) : String :=
  "\x7b\"type\":\"stream_event\",\"event\":\x7b\"delta\":\x7b\"type\":\"text_delta\",\"text\":\"" ++
    text ++ "\"\x7d\x7d\x7d"

def assistantLine (text : String) : String :=
  "\x7b\"type\":\"assistant\",\"message\":\x7b\"content\":\"" ++ text ++ "\"\x7d\x7d"

def resultLine (text : String) : String :=
  "\x7b\"type\":\"result\",\"subtype\":\"success\",\"result\":\"" ++ text ++ "\"\x7d"

theorem readLine_samples :
    let reads (line : String) (utterance : Utterance) : Prop :=
      readLine (fun _ => "") (fun _ => some 0) (fun _ => false) line = .utters utterance
    reads (deltaLine "a") (.delta "a") ∧ reads (assistantLine "a") (.message "a") ∧
      reads (assistantLine "b") (.message "b") ∧ reads (resultLine "a") (.result "a") := by
  decide +kernel

theorem stream_of_readings {lines : List String} {messages : List Spoken} {utterances : List Utterance}
    (reads : lines.map (readLine repr trunc beyond) = utterances.map .utters)
    (same : utterances = script messages ++ [.result (lastText messages)]) :
    Stream repr trunc beyond lines messages := by
  constructor
  · intro line member foreign
    have listed : readLine repr trunc beyond line ∈ lines.map (readLine repr trunc beyond) :=
      List.mem_map_of_mem member
    rw [reads, foreign] at listed
    simp at listed
  · have heard : lines.filterMap (said repr trunc beyond) =
        (lines.map (readLine repr trunc beyond)).filterMap Reading.utterance? := by
      rw [List.filterMap_map]
      rfl
    rw [heard, reads, List.filterMap_map, ← same]
    exact List.filterMap_some

theorem stream_text_once_unstreamed :
    emitted (fun _ => "") (fun _ => some 0) (fun _ => false) [deltaLine "a", assistantLine "a", assistantLine "b",
      assistantLine "a", resultLine "a"] = some "aba" := by
  obtain ⟨deltaA, messageA, messageB, resultA⟩ := readLine_samples
  have stream : Stream (fun _ => "") (fun _ => some 0) (fun _ => false)
      [deltaLine "a", assistantLine "a", assistantLine "b", assistantLine "a", resultLine "a"]
      [⟨["a"], "a", .inr rfl⟩, ⟨[], "b", .inl rfl⟩, ⟨[], "a", .inl rfl⟩] :=
    @stream_of_readings _ _ _ _ _ [.delta "a", .message "a", .message "b", .message "a", .result "a"]
      (by simp only [List.map_cons, List.map_nil, deltaA, messageA, messageB, resultA]) rfl
  have fresh : Fresh "" [⟨["a"], "a", .inr rfl⟩, ⟨[], "b", .inl rfl⟩, ⟨[], "a", .inl rfl⟩] :=
    ⟨.inr (.inl rfl), .inr (.inr ⟨rfl, by decide +kernel⟩), .inr (.inr ⟨rfl, by decide +kernel⟩),
      trivial⟩
  exact (stream_text_once_iff _ _ _ _ _ stream).1 fresh

/-- The second of two streamed messages is emitted twice; a whole one that begins with
the first one loses its beginning. -/
theorem second_message_emitted_twice :
    let repr : Json → String := fun _ => ""
    let trunc : FloatLiteral → Option Int := fun _ => some 0
    let beyond : String → Bool := fun _ => false
    let streamed := [deltaLine "a", assistantLine "a", deltaLine "a", assistantLine "a", resultLine "a"]
    let whole := [assistantLine "a", assistantLine "a", resultLine "a"]
    (Stream repr trunc beyond streamed [⟨["a"], "a", .inr rfl⟩, ⟨["a"], "a", .inr rfl⟩] ∧
        emitted repr trunc beyond streamed = some "aaa") ∧
      Stream repr trunc beyond whole [⟨[], "a", .inl rfl⟩, ⟨[], "a", .inl rfl⟩] ∧
        emitted repr trunc beyond whole = some "a" := by
  intro repr trunc beyond streamed whole
  obtain ⟨deltaA, messageA, _, resultA⟩ := readLine_samples
  have first : Stream repr trunc beyond streamed [⟨["a"], "a", .inr rfl⟩, ⟨["a"], "a", .inr rfl⟩] :=
    @stream_of_readings _ _ _ _ _ [.delta "a", .message "a", .delta "a", .message "a", .result "a"]
      (by simp only [streamed, repr, trunc, beyond, List.map_cons, List.map_nil, deltaA, messageA, resultA]) rfl
  have second : Stream repr trunc beyond whole [⟨[], "a", .inl rfl⟩, ⟨[], "a", .inl rfl⟩] :=
    @stream_of_readings _ _ _ _ _ [.message "a", .message "a", .result "a"]
      (by simp only [whole, repr, trunc, beyond, List.map_cons, List.map_nil, messageA, resultA]) rfl
  refine ⟨⟨first, ?_⟩, second, ?_⟩
  · rw [emitted_eq first.native, first.order]
    decide +kernel
  · rw [emitted_eq second.native, second.order]
    decide +kernel

end Handlers

end Wlcodex.Claude
