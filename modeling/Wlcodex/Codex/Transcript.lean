import Wlcodex.Lib.Bytes
import Wlcodex.Timeline.Projection

namespace Wlcodex.Codex

open Wlcodex.Lib
open Wlcodex.Relay (Dict str strip truthy)
open Wlcodex.Timeline (orText)

/-! The transcript items of a Codex session file, read from a tail window of its lines. -/

/-- What the mirror uses of Python: `repr` of values that are no text, the first 24 digits of a
SHA-256, and `decode("utf-8", errors="replace")`. -/
structure Builtins where
  repr : Json → String
  digest : String → String
  decode : Bytes → List Char

def consLine (byte : UInt8) : List Bytes → List Bytes
  | [] => [[byte]]
  | line :: lines => (byte :: line) :: lines

def linesFrom (returned : Bool) : Bytes → List Bytes
  | [] => []
  | byte :: rest =>
      if byte = 10 then
        if returned then linesFrom false rest else [] :: linesFrom false rest
      else if byte = 13 then [] :: linesFrom true rest
      else consLine byte (linesFrom false rest)

/-- `bytes.splitlines()`. -/
def splitlines (bytes : Bytes) : List Bytes := linesFrom false bytes

/-- `_read_tail_lines`, before the lines are decoded. -/
def readTailLines (file : Bytes) (limit maxBytes : Nat) : List Bytes :=
  let start := file.length - maxBytes
  let lines := splitlines ((file.drop start).take maxBytes)
  let lines := if start > 0 then lines.tail else lines
  lines.drop (lines.length - limit)

inductive ItemRole where
  | user
  | plan
  | assistant
  | assistantFinal
  deriving DecidableEq

/-- `_TranscriptItem`; its timestamp is not read again. -/
structure TranscriptItem where
  role : ItemRole
  text : String
  turnId : String
  itemId : String
  deriving DecidableEq

structure Row where
  rowType : String
  payload : Dict
  timestamp : String

namespace Builtins

variable (builtins : Builtins)

/-- `str(value or "")`. -/
def plainText (value : Json) : String := if truthy value then str builtins.repr value else ""

def text (value : Json) : String := strip (builtins.plainText value)

def stableId (kind : String) (parts : List String) : String :=
  kind ++ ":" ++ builtins.digest ("\x00".intercalate parts)

def firstText (keys : List String) (texts : List (String × String)) : String :=
  (keys.findSome? fun key => (texts.lookup key).filter (· ≠ "")).getD ""

mutual

def contentText : Json → String
  | .string content => strip content
  | .array items => strip ("\n".intercalate ((contentItems items).filter (· ≠ "")))
  | .object members =>
      firstText ["text", "output_text", "content", "message", "summary"] (contentMembers members)
  | value => builtins.text value

def contentItems : List Json → List String
  | [] => []
  | item :: items => contentText item :: contentItems items

def contentMembers : List (String × Json) → List (String × String)
  | [] => []
  | (key, value) :: members => (key, contentText value) :: contentMembers members

end

def responseItemText (payload : Dict) : String :=
  firstText ["text", "plan", "summary", "content", "output"] (builtins.contentMembers payload)

def payloadType (payload : Dict) : String := builtins.plainText (payload.getOrNull "type")

def isAssistantResponseItem (payload : Dict) : Bool :=
  if builtins.plainText (payload.getOrNull "role") = "assistant" then
    builtins.payloadType payload ∈ ["message", "assistant_message", "output_text", ""]
  else builtins.payloadType payload ∈ ["assistant_message", "assistant_final"]

def turnId (payload : Dict) : String :=
  orText (builtins.text (payload.getOrNull "turn_id")) (builtins.text (payload.getOrNull "turnId"))

/-- `_json_object`, and the part of the loop that passes over a line. -/
def readRow (line : Bytes) : Option Row :=
  match Json.loads (builtins.decode line) with
  | some (.object row) =>
      match Dict.getOrNull row "payload" with
      | .object payload => some
          { rowType := builtins.plainText (Dict.getOrNull row "type")
            payload
            timestamp := builtins.plainText (Dict.getOrNull row "timestamp") }
      | _ => none
  | _ => none

variable (nativeThreadId : String)

def fallbackTurnId : String := "jsonl-tail:" ++ nativeThreadId

/-- A plan or final answer; `turn` is its turn and `ownId` the id that the row names. -/
def namedItem (role : ItemRole) (kind ownId turn text : String) : Option TranscriptItem :=
  if text = "" then none
  else some ⟨role, text, turn, orText ownId (builtins.stableId kind [nativeThreadId, turn, text])⟩

/-- The item of a `response_item`. -/
def responseItem (turn : String) (payload : Dict) : Option TranscriptItem :=
  let ownId := builtins.text (payload.getOrNull "id")
  let text := builtins.responseItemText payload
  if builtins.payloadType payload = "plan" then
    builtins.namedItem nativeThreadId .plan "jsonl-plan" ownId turn text
  else if builtins.isAssistantResponseItem payload then
    builtins.namedItem nativeThreadId .assistantFinal "jsonl-assistant-final" ownId turn text
  else none

/-- A `user_message`; without any turn so far it opens one. -/
def userMessage (turn timestamp text : String) : String × Option TranscriptItem :=
  if text = "" then (turn, none)
  else
    let turn := if turn = fallbackTurnId nativeThreadId
      then builtins.stableId "jsonl-turn" [timestamp, text] else turn
    (turn, some ⟨.user, text, turn, builtins.stableId "jsonl-user" [timestamp, text]⟩)

def agentMessage (turn timestamp text : String) : Option TranscriptItem :=
  if text = "" then none
  else some ⟨.assistant, text, turn,
    builtins.stableId "jsonl-assistant" [nativeThreadId, timestamp, text]⟩

/-- An `event_msg`: the turn that is current after it, and its item. -/
def eventMessage (turn : String) (row : Row) : String × Option TranscriptItem :=
  let kind := builtins.payloadType row.payload
  let message := builtins.text (row.payload.getOrNull "message")
  if kind = "task_started" ∨ kind = "turn_aborted" then (turn, none)
  else if kind = "task_complete" then
    (turn, builtins.namedItem nativeThreadId .assistantFinal "jsonl-assistant-final" "" turn
      (builtins.text (row.payload.getOrNull "last_agent_message")))
  else if kind = "user_message" then builtins.userMessage nativeThreadId turn row.timestamp message
  else if kind = "agent_message" then
    (turn, builtins.agentMessage nativeThreadId turn row.timestamp message)
  else (turn, none)

/-- One turn of the loop of `_parse_transcript_items` on a row: the turn that is current
after it, and its item. -/
def parseRow (current : String) (row : Row) : String × Option TranscriptItem :=
  let turn := orText (builtins.turnId row.payload) current
  if row.rowType = "turn_context" then (turn, none)
  else if row.rowType = "response_item" then
    (turn, builtins.responseItem nativeThreadId turn row.payload)
  else if row.rowType = "event_msg" then builtins.eventMessage nativeThreadId turn row
  else (current, none)

def parseLine (current : String) (line : Bytes) : String × Option TranscriptItem :=
  match builtins.readRow line with
  | none => (current, none)
  | some row => builtins.parseRow nativeThreadId current row

def parseLines : String → List Bytes → List (Option TranscriptItem)
  | _, [] => []
  | current, line :: lines =>
      (builtins.parseLine nativeThreadId current line).2 ::
        parseLines (builtins.parseLine nativeThreadId current line).1 lines

end Builtins

/-- `_dedupe_transcript_items`; the numbers are those of the rows. -/
def dedupeTranscriptItems (items : List (Nat × TranscriptItem)) : List (Nat × TranscriptItem) :=
  let finalTurnIds := (items.filter fun entry =>
    entry.2.role = .assistantFinal ∧ entry.2.turnId ≠ "").map fun entry => entry.2.turnId
  items.filter fun entry => ¬(entry.2.role = .assistant ∧ entry.2.turnId ∈ finalTurnIds)

/-- `_parse_transcript_items`, each item with the number of its row; `first` is the number of
the first line. -/
def Builtins.parseTranscriptItems (builtins : Builtins) (nativeThreadId : String) (first : Nat)
    (lines : List Bytes) : List (Nat × TranscriptItem) :=
  dedupeTranscriptItems
    (((builtins.parseLines nativeThreadId (fallbackTurnId nativeThreadId) lines).zipIdx first).filterMap
      fun entry => entry.1.map fun item => (entry.2, item))

end Wlcodex.Codex
