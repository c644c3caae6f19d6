import Wlcodex.Codex.MirrorOnce
import Wlcodex.Native.Projector

namespace Wlcodex.Native

open Wlcodex.Lib
open Wlcodex.Codex (KeptByRedaction StoredEvent lookup_redactMembers maxPayloadStringLength)
open Wlcodex.Relay (Dict truthy)
open Wlcodex.Relay.StreamState (isText lookup_set_of_ne lookup_set_self)
open Wlcodex.Runtime (WordClass plainWords redactPayloadValue)
open Wlcodex.Timeline (EventType)

/-! Text that arrives in pieces: what the log holds of an item's deltas. -/

inductive DeltaKind where
  | agentMessage
  | reasoning
  | commandOutput
  deriving DecidableEq

namespace DeltaKind

def method : DeltaKind → String
  | .agentMessage => "item/agentMessage/delta"
  | .reasoning => "item/reasoning/textDelta"
  | .commandOutput => "item/commandExecution/outputDelta"

def backend : DeltaKind → BackendKind
  | .agentMessage => .agentMessageDelta
  | .reasoning => .reasoningDelta
  | .commandOutput => .commandOutputDelta

def eventType : DeltaKind → EventType
  | .agentMessage => .modelTextDelta
  | .reasoning => .modelReasoningDelta
  | .commandOutput => .commandOutputDelta

end DeltaKind

structure DeltaNotification (thread : String) where
  kind : DeltaKind
  payload : Dict
  delta : String
  itemId : String
  threadNamed : thread ≠ ""
  ofThread : Names thread payload
  text : payload.lookup "delta" = some (.string delta)
  ofItem : payload.lookup "itemId" = some (.string itemId) ∨
    payload.lookup "itemId" = none ∧ nestedId payload "item" = .string itemId

section Python

variable (words : WordClass) (python : Python) {thread : String}

namespace DeltaNotification

variable (notification : DeltaNotification thread)

def call : BackendCall where
  kind := notification.kind.backend
  nativeThreadId := thread
  nativeTurnId := turnId python.toBuiltins notification.payload
  payload := normalizedPayload python notification.payload

def readId : Json :=
  match notification.kind with
  | .commandOutput => .string notification.itemId
  | _ => ownItemId notification.payload

def event : RuntimeEvent :=
  let delta := ("delta", Json.string notification.delta)
  let item := ("itemId", notification.readId)
  match notification.kind with
  | .agentMessage => (.modelTextDelta,
      [delta, item, ("compatibility_projection", .string "model.text.delta")])
  | .reasoning => (.modelReasoningDelta, [delta, item])
  | .commandOutput => (.commandOutputDelta, [delta, item])

def display : List RuntimeEvent :=
  let delta := Json.string notification.delta
  match notification.kind with
  | .agentMessage => [(.providerDisplayDelta, [("delta", delta), ("text", delta),
      ("itemId", notification.readId), ("display_source", .string "provider")])]
  | _ => []

def candidate : Candidate := (notification.call python).mappedEvent words python notification.event

end DeltaNotification

/-- `project_notification` on a notification with text. -/
def projectDelta (projector : Projector) (notification : DeltaNotification thread) :
    Projector × List StoredEvent :=
  projector.projectNotification words python notification.kind.method notification.payload

def deltaStep (projector : Projector) (notification : DeltaNotification thread) : Projector :=
  (projectDelta words python projector notification).1

def liveRun : Projector → List (DeltaNotification thread) →
    List (DeltaNotification thread × List StoredEvent)
  | _, [] => []
  | projector, notification :: rest =>
      let projected := projectDelta words python projector notification
      (notification, projected.2) :: liveRun projected.1 rest

def deltaText (event : StoredEvent) : String :=
  match event.payload.lookup "delta" with
  | some (.string delta) => delta
  | _ => ""

def ofKind (kind : DeltaKind) (events : List StoredEvent) : List StoredEvent :=
  events.filter fun event => event.eventType = kind.eventType

def shownText (kind : DeltaKind) (item : String) (events : List StoredEvent) : String :=
  String.join (((ofKind kind events).filter fun event =>
    isText (event.payload.lookup "itemId") item).map deltaText)

def sentText (kind : DeltaKind) (item : String) (notifications : List (DeltaNotification thread)) :
    String :=
  String.join ((notifications.filter fun notification =>
    notification.kind = kind ∧ notification.itemId = item).map (·.delta))

structure Whole (run : List (DeltaNotification thread × List StoredEvent)) : Prop where
  text : ∀ kind item,
    shownText kind item (run.flatMap Prod.snd) = sentText kind item (run.map Prod.fst)
  items : ∀ entry ∈ run, ∀ event ∈ ofKind entry.1.kind entry.2,
    event.payload.lookup "itemId" = some (.string entry.1.itemId)

def Reaches (projector : Projector) (notification : DeltaNotification thread) : Prop :=
  if (notification.candidate words python).key ∈
      (projector.load words python thread).seenEventKeys then notification.delta = ""
  else KeptByRedaction words notification.delta ∧
    redactPayloadValue words (some maxPayloadStringLength) notification.readId =
      .string notification.itemId

variable {words python}

namespace DeltaNotification

variable (notification : DeltaNotification thread)

theorem lookup_named {key : String} (apart : key ∉ ["threadId", "turnId"]) (payload : Dict) :
    (overlaid payload [("threadId", .string (threadId python.toBuiltins payload)),
      ("turnId", .string (turnId python.toBuiltins payload))]).lookup key = payload.lookup key :=
  lookup_overlaid_of_ne apart payload

theorem lookup_normalized {key : String} (apart : key ∉ ["threadId", "turnId", "itemId"])
    (payload : Dict) : (normalizedPayload python payload).lookup key = payload.lookup key := by
  simp only [List.mem_cons, List.not_mem_nil, or_false, not_or] at apart
  have named := @lookup_named python key (by simp [apart.1, apart.2.1]) payload
  unfold normalizedPayload
  dsimp only
  split_ifs
  · rw [lookup_set_of_ne _ apart.2.2, named]
  · exact named

theorem delta_normalized :
    field (normalizedPayload python notification.payload) "delta" = .string notification.delta := by
  rw [field, lookup_normalized (by decide), notification.text]
  rfl

theorem ownItemId_normalized (payload : Dict) :
    ownItemId (normalizedPayload python payload) = ownItemId payload := by
  rw [ownItemId, nested?, lookup_normalized (by decide)]
  rfl

theorem itemId_normalized :
    field (normalizedPayload python notification.payload) "itemId" = .string notification.itemId := by
  have named := @lookup_named python "itemId" (by decide) notification.payload
  unfold normalizedPayload
  dsimp only
  rw [named]
  rcases notification.ofItem with own | ⟨absent, nested⟩
  · rw [own, if_neg (by simp), field, named, own]
    rfl
  · rw [absent, nested]
    by_cases none_ : notification.itemId = ""
    · rw [none_, if_neg (by decide), field, named, absent]
      rfl
    · have counts : truthy (.string notification.itemId) = true := decide_eq_true none_
      rw [if_pos ⟨rfl, counts⟩, field, lookup_set_self]
      rfl

theorem mapEvent_call : mapEvent python notification.kind.backend
    (normalizedPayload python notification.payload) = notification.display ++ [notification.event] := by
  have delta := @delta_normalized python thread notification
  have own := @ownItemId_normalized python notification.payload
  have item := @itemId_normalized python thread notification
  unfold display event readId
  cases notification.kind with
  | agentMessage => simp only [DeltaKind.backend, mapEvent, mapAgentMessageDelta, delta, own,
      List.singleton_append]
  | reasoning => simp only [DeltaKind.backend, mapEvent, mapReasoningDelta, delta, own,
      List.nil_append]
  | commandOutput => simp only [DeltaKind.backend, mapEvent, mapCommandOutputDelta, delta, item,
      List.nil_append]

theorem methodKind_method (kind : DeltaKind) : methodKind kind.method = some kind.backend := by
  cases kind <;> rfl

theorem notificationCall?_eq : notificationCall? python notification.kind.method
    notification.payload = some (notification.call python) := by
  simp only [notificationCall?, methodKind_method,
    notification.ofThread.threadId notification.threadNamed, if_neg notification.threadNamed]
  rfl

variable (words python) in
def front : List Candidate :=
  (notification.call python).rawFrame words ::
    notification.display.map ((notification.call python).mappedEvent words python)

theorem candidates_eq : (notification.call python).candidates words python =
    notification.front words python ++ [notification.candidate words python] := by
  rw [BackendCall.candidates, call, mapEvent_call, List.map_append]
  rfl

theorem event_fst : notification.event.1 = notification.kind.eventType := by
  unfold event
  cases notification.kind <;> rfl

theorem front_apart (kind : DeltaKind) :
    ∀ entry ∈ notification.front words python,
      entry.stored.eventType ≠ kind.eventType ∧ entry.key.event.eventType ≠ kind.eventType := by
  intro entry member
  rcases List.mem_cons.mp member with rfl | shown
  · cases kind <;> exact ⟨nofun, nofun⟩
  · obtain ⟨event, listed, rfl⟩ := List.mem_map.mp shown
    have display_ : event.1 = .providerDisplayDelta := by
      revert listed
      unfold display
      cases notification.kind with
      | agentMessage =>
          intro listed
          rw [List.mem_singleton.mp listed]
      | reasoning | commandOutput => exact fun listed => absurd listed List.not_mem_nil
    change event.1 ≠ _ ∧ event.1 ≠ _
    rw [display_]
    cases kind <;> exact ⟨nofun, nofun⟩

end DeltaNotification

theorem projectDelta_snd (projector : Projector) (notification : DeltaNotification thread) :
    (projectDelta words python projector notification).2 =
      (unseen Candidate.key (projector.load words python thread).seenEventKeys
        (notification.front words python ++
          [notification.candidate words python])).map Candidate.stored := by
  rw [projectDelta, Projector.projectNotification, notification.notificationCall?_eq]
  change (projector.store words python thread _).2 ++ [] = _
  rw [List.append_nil, notification.candidates_eq, Projector.store_of_ne_nil (by simp)]
  rfl

theorem eventType_injective : Function.Injective DeltaKind.eventType := by
  intro first second same
  cases first <;> cases second <;> first | rfl | cases same

theorem ofKind_projectDelta (projector : Projector) (notification : DeltaNotification thread)
    (kind : DeltaKind) :
    ofKind kind (projectDelta words python projector notification).2 =
      if kind = notification.kind ∧ (notification.candidate words python).key ∉
          (projector.load words python thread).seenEventKeys then
        [(notification.candidate words python).stored]
      else [] := by
  have own : (notification.candidate words python).stored.eventType = notification.kind.eventType :=
    notification.event_fst
  rw [projectDelta_snd, ofKind, List.filter_map]
  by_cases same : kind = notification.kind
  · subst same
    rw [filter_unseen_last]
    · simp only [true_and]
      split_ifs <;> rfl
    · intro entry member
      have apart := notification.front_apart notification.kind entry member
      refine ⟨decide_eq_false apart.1, ?_⟩
      intro equal
      apply apart.2
      rw [equal]
      exact own
    · exact decide_eq_true own
  · rw [if_neg fun both => same both.1, List.map_eq_nil_iff, List.filter_eq_nil_iff]
    intro entry member
    apply ne_true_of_eq_false
    apply decide_eq_false
    rcases List.mem_append.mp (mem_of_mem_unseen member) with before | last
    · exact (notification.front_apart kind entry before).1
    · rw [List.mem_singleton.mp last, own]
      exact fun equal => same (eventType_injective equal).symm

section Stored

variable (notification : DeltaNotification thread)

theorem lookup_stored {key : String} (listed : key ∈ ["delta", "itemId"]) :
    (notification.candidate words python).stored.payload.lookup key =
      (notification.event.2.lookup key).map
        (redactPayloadValue words (some maxPayloadStringLength)) := by
  have plain : Runtime.isSensitiveKey key = false := by
    revert key
    decide
  have apart : key ∉ ["native_thread_id", "native_turn_id", "source_kind", "provider",
      "provider_engine"] := by
    revert key
    decide
  exact (lookup_redactMembers _ plain _).trans
    (congrArg (Option.map _) (lookup_overlaid_of_ne apart notification.event.2))

theorem lookup_delta : (notification.candidate words python).stored.payload.lookup "delta" =
    some (redactPayloadValue words (some maxPayloadStringLength) (.string notification.delta)) := by
  rw [lookup_stored notification (by decide), DeltaNotification.event]
  cases notification.kind <;> rfl

theorem lookup_itemId : (notification.candidate words python).stored.payload.lookup "itemId" =
    some (redactPayloadValue words (some maxPayloadStringLength) notification.readId) := by
  rw [lookup_stored notification (by decide), DeltaNotification.event]
  cases notification.kind <;> rfl

theorem deltaText_stored : deltaText (notification.candidate words python).stored =
    notification.delta ↔ KeptByRedaction words notification.delta := by
  rw [deltaText, lookup_delta]
  exact ⟨congrArg Json.string, Json.string.inj⟩

end Stored

theorem isText_iff (value : Option Json) (text : String) :
    isText value text = true ↔ value = some (.string text) := by
  unfold isText
  split
  · simp
  · simp_all

section Sums

variable (kind : DeltaKind) (item : String)

theorem shownText_append (first second : List StoredEvent) :
    shownText kind item (first ++ second) = shownText kind item first ++ shownText kind item second := by
  simp only [shownText, ofKind, List.filter_append, List.map_append, String.join_append]

theorem sentText_concat (notifications : List (DeltaNotification thread)) (last : DeltaNotification thread) :
    sentText kind item (notifications ++ [last]) = sentText kind item notifications ++
      if last.kind = kind ∧ last.itemId = item then last.delta else "" := by
  rw [sentText, List.filter_append, List.map_append, String.join_append, List.filter_singleton]
  congr 1
  split_ifs with own
  · rw [decide_eq_true own]
    simp
  · rw [decide_eq_false own]
    simp

theorem text_concat_iff {run : List (DeltaNotification thread × List StoredEvent)}
    (before : shownText kind item (run.flatMap Prod.snd) = sentText kind item (run.map Prod.fst))
    (last : DeltaNotification thread × List StoredEvent) :
    shownText kind item ((run ++ [last]).flatMap Prod.snd) =
        sentText kind item ((run ++ [last]).map Prod.fst) ↔
      shownText kind item last.2 =
        if last.1.kind = kind ∧ last.1.itemId = item then last.1.delta else "" := by
  rw [List.flatMap_append, List.map_append, List.flatMap_singleton, List.map_singleton,
    shownText_append, sentText_concat, before]
  exact String.append_right_inj _

end Sums

section Step

variable (projector : Projector) (notification : DeltaNotification thread)

theorem shownText_of_seen (seen : (notification.candidate words python).key ∈
    (projector.load words python thread).seenEventKeys) (kind : DeltaKind) (item : String) :
    shownText kind item (projectDelta words python projector notification).2 = "" := by
  rw [shownText, ofKind_projectDelta, if_neg fun both => both.2 seen]
  rfl

section

variable (fresh : (notification.candidate words python).key ∉ (projector.load words python thread).seenEventKeys)

include fresh

theorem ofKind_of_unseen :
    ofKind notification.kind (projectDelta words python projector notification).2 =
      [(notification.candidate words python).stored] := by
  rw [ofKind_projectDelta, if_pos ⟨rfl, fresh⟩]

theorem shownText_of_unseen
    (read : redactPayloadValue words (some maxPayloadStringLength) notification.readId =
      .string notification.itemId) (kind : DeltaKind) (item : String) :
    shownText kind item (projectDelta words python projector notification).2 =
      if notification.kind = kind ∧ notification.itemId = item then
        deltaText (notification.candidate words python).stored
      else "" := by
  rw [shownText, ofKind_projectDelta]
  by_cases same : kind = notification.kind
  · subst same
    rw [if_pos ⟨rfl, fresh⟩, List.filter_singleton, lookup_itemId, read]
    by_cases own : notification.itemId = item
    · rw [(isText_iff _ item).mpr (by rw [own]), if_pos ⟨rfl, own⟩]
      simp
    · have other : isText (some (.string notification.itemId)) item = false := by
        rw [Bool.eq_false_iff, Ne, isText_iff]
        intro equal
        exact own (Json.string.inj (Option.some.inj equal))
      rw [other, if_neg fun both => own both.2]
      rfl
  · rw [if_neg fun both => same both.1, if_neg fun both => same both.1.symm]
    rfl

end

theorem whole_concat_iff {run : List (DeltaNotification thread × List StoredEvent)} (whole : Whole run) :
    Whole (run ++ [(notification, (projectDelta words python projector notification).2)]) ↔
      Reaches words python projector notification := by
  unfold Reaches
  constructor
  · intro after
    have text := (text_concat_iff notification.kind notification.itemId (whole.text _ _) _).mp
      (after.text notification.kind notification.itemId)
    have items := after.items _ (List.mem_append_right run (List.mem_singleton_self _))
    rw [if_pos ⟨rfl, rfl⟩] at text
    split_ifs with seen
    · rw [← text]
      exact shownText_of_seen projector notification seen _ _
    · have read := items (notification.candidate words python).stored
        (by rw [ofKind_of_unseen projector notification seen]; exact List.mem_singleton_self _)
      rw [lookup_itemId] at read
      have read := Option.some.inj read
      rw [shownText_of_unseen projector notification seen read, if_pos ⟨rfl, rfl⟩] at text
      exact ⟨(deltaText_stored notification).mp text, read⟩
  · intro reaches
    refine ⟨?_, ?_⟩
    · intro kind item
      rw [text_concat_iff kind item (whole.text kind item)]
      split_ifs at reaches with seen
      · rw [shownText_of_seen projector notification seen, reaches]
        exact (ite_self _).symm
      · rw [shownText_of_unseen projector notification seen reaches.2,
          (deltaText_stored notification).mpr reaches.1]
    · intro entry member event shown
      rcases List.mem_append.mp member with before | last
      · exact whole.items entry before event shown
      · obtain rfl := List.mem_singleton.mp last
        rw [ofKind_projectDelta] at shown
        split_ifs at shown with brought
        · obtain rfl := List.mem_singleton.mp shown
          rw [if_neg brought.2] at reaches
          rw [lookup_itemId, reaches.2]
        · cases shown

end Step

theorem whole_nil : Whole ([] : List (DeltaNotification thread × List StoredEvent)) where
  text _ _ := rfl
  items := List.forall_mem_nil _

theorem liveRun_append (projector : Projector) (first second : List (DeltaNotification thread)) :
    liveRun words python projector (first ++ second) =
      liveRun words python projector first ++
        liveRun words python (first.foldl (deltaStep words python) projector) second := by
  induction first generalizing projector with
  | nil => rfl
  | cons notification first ih =>
      exact congrArg (List.cons _) (ih _)

theorem liveRun_concat (projector : Projector) (front : List (DeltaNotification thread))
    (last : DeltaNotification thread) :
    liveRun words python projector (front ++ [last]) = liveRun words python projector front ++
      [(last,
        (projectDelta words python (front.foldl (deltaStep words python) projector) last).2)] :=
  liveRun_append projector front [last]

/-- From any projector and log: after every notification of a thread the log holds what was sent,
if and only if each notification reaches it. -/
theorem live_text_whole_iff (projector : Projector) (notifications : List (DeltaNotification thread)) :
    (∀ earlier later, notifications = earlier ++ later →
        Whole (liveRun words python projector earlier)) ↔
      Along (deltaStep words python) (Reaches words python) projector notifications := by
  induction notifications using List.reverseRecOn with
  | nil =>
      refine ⟨fun _ => trivial, ?_⟩
      intro _ earlier later split
      obtain ⟨rfl, rfl⟩ := List.append_eq_nil_iff.mp split.symm
      exact whole_nil
  | append_singleton front last ih =>
      rw [along_append, ← ih]
      constructor
      · intro all
        have before := all front [last] rfl
        have after := all (front ++ [last]) [] (List.append_nil _).symm
        rw [liveRun_concat] at after
        refine ⟨?_, (whole_concat_iff _ last before).mp after, trivial⟩
        intro earlier later split
        exact all earlier (later ++ [last]) (by rw [split, List.append_assoc])
      · rintro ⟨whole, reaches, -⟩ earlier later split
        rcases List.eq_nil_or_concat later with rfl | ⟨between, other, rfl⟩
        · rw [List.append_nil] at split
          rw [← split, liveRun_concat]
          exact (whole_concat_iff _ last (whole front [] (List.append_nil _).symm)).mpr reaches
        · rw [List.concat_eq_append, ← List.append_assoc] at split
          exact whole earlier between (List.append_inj_left' split rfl)

theorem deltaStep_eq (projector : Projector) (notification : DeltaNotification thread) :
    deltaStep words python projector notification =
      (projector.store words python thread
        ((notification.call python).candidates words python)).1 := by
  rw [deltaStep, projectDelta, Projector.projectNotification, notification.notificationCall?_eq]
  rfl

theorem not_reaches_again (projector : Projector) (notification : DeltaNotification thread)
    (some_ : notification.delta ≠ "") :
    ¬Reaches words python (deltaStep words python projector notification) notification := by
  rw [deltaStep_eq, Reaches, if_pos]
  · exact some_
  · apply (Projector.store_eq_nil_iff thread _ _).mp (Projector.store_again thread _ projector)
    rw [notification.candidates_eq]
    exact List.mem_append_right _ (List.mem_singleton_self _)

theorem repeated_text_lost (projector : Projector) (notification : DeltaNotification thread)
    (some_ : notification.delta ≠ "") :
    ¬∀ earlier later, [notification, notification] = earlier ++ later →
      Whole (liveRun words python projector earlier) := by
  intro all
  have first := all [notification] [notification] rfl
  have both := all ([notification] ++ [notification]) [] rfl
  rw [liveRun_concat, whole_concat_iff _ notification first] at both
  exact not_reaches_again projector notification some_ both

end Python

def dotPrinted : DeltaNotification "thread-1" where
  kind := .commandOutput
  payload := [("threadId", .string "thread-1"), ("turnId", .string "turn-1"),
    ("itemId", .string "item-1"), ("delta", .string ".")]
  delta := "."
  itemId := "item-1"
  threadNamed := by decide
  ofThread := rfl
  text := rfl
  ofItem := .inl rfl

theorem second_dot_lost :
    ¬∀ earlier later, [dotPrinted, dotPrinted] = earlier ++ later →
      Whole (liveRun plainWords samplePython ⟨[], [], fun _ => []⟩ earlier) :=
  repeated_text_lost _ dotPrinted (by decide)

end Wlcodex.Native
