import Wlcodex.Codex.Transcript
import Wlcodex.Runtime.Redaction

namespace Wlcodex.Native

open Wlcodex.Lib
open Wlcodex.Relay (Dict firstTruthy str truthy)
open Wlcodex.Codex (Builtins)

/-! What the projector of native sessions reads of the payloads of the app-server. -/

def members? : Json → Option Dict
  | .object members => some members
  | _ => none

/-- `str.lower()`, as far as ASCII letters come out of it. -/
def lowerText (text : String) : String := String.ofList (text.toList.flatMap Runtime.lower)

section Python

variable (builtins : Builtins)

/-- `_nested_id`; what is not there is the empty text. -/
def nestedId (payload : Dict) (key : String) : Json :=
  (((payload.lookup key).bind members?).bind fun nested => nested.lookup "id").getD (.string "")

/-- `payload.get(key) or _nested_id(payload, nested)`, as text. -/
def idText (payload : Dict) (key nested : String) : String :=
  let own := payload.getOrNull key
  builtins.plainText (if truthy own then own else nestedId payload nested)

def threadId (payload : Dict) : String := idText builtins payload "threadId" "thread"

def turnId (payload : Dict) : String := idText builtins payload "turnId" "turn"

def approvalThreadId (payload : Dict) : String :=
  let own := threadId builtins payload
  if own ≠ "" then own else builtins.plainText (payload.getOrNull "conversationId")

def stringifyProtocolValue (value : Json) : String :=
  match (members? value).bind fun members => firstTruthy members ["type"] with
  | some kind => str builtins.repr kind
  | none => str builtins.repr value

def ownOrNested (payload : Dict) (nested key : String) : Option Json :=
  (firstTruthy payload [key]).or
    (((payload.lookup nested).bind members?).bind fun members => firstTruthy members [key])

def payloadOrThread (payload : Dict) (key absent : String) : String :=
  ((ownOrNested payload "thread" key).map (stringifyProtocolValue builtins)).getD absent

def rawStatus (payload : Dict) : String :=
  ((ownOrNested payload "turn" "status").map (stringifyProtocolValue builtins)).getD ""

end Python

def sampleBuiltins : Builtins where
  repr _ := "..."
  digest text := text
  decode bytes := bytes.map fun byte => Char.ofNat byte.toNat

def normalizeCompletedStatus (status : String) : String :=
  let normalized := lowerText status
  if normalized ∈ ["active", "running", "inprogress", "in_progress"] then "running"
  else if normalized ∈ ["failed", "error"] then "failed"
  else if normalized ∈ ["cancelled", "canceled", "interrupted", "aborted"] then "aborted"
  else "done"

end Wlcodex.Native
