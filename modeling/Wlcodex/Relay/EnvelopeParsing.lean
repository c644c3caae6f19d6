import Wlcodex.Relay.Envelope
import Wlcodex.Relay.StreamReplay
import Wlcodex.State.Events

namespace Wlcodex.Relay.Parsing

open Wlcodex.Lib
open Wlcodex.Relay.StreamState (lookup_set_of_ne lookup_set_self)
open Wlcodex.State (orText)

/-! `parse_role_envelope`, on JSON as a provider writes it.  A part that raises returns `none`. -/

/-- `RoleEnvelope`, before its fields are checked. -/
structure RoleEnvelope where
  status : String
  reason : String
  role : String
  artifactType : String
  handoffTo : String
  summary : String
  evidenceRefs : List String
  openQuestions : List String
  nextAction : String
  confirmationOptions : List Dict

structure Accepted where
  envelope : RoleEnvelope
  nextRole : Option String
  payload : Dict

abbrev EnvelopeParseResult := Except String Accepted

def requiredFields : List String :=
  ["status", "reason", "role", "artifact_type", "handoff_to", "summary", "evidence_refs",
    "open_questions", "next_action"]

def defaultHandoffs : List (String × String) :=
  [("architect", "implementer"), ("implementer", "tester"), ("tester", "auditor"),
    ("auditor", "director")]

def validEnvelopeStatuses : List String := ["passed", "failed", "blocked", "waiting"]

def artifactTypeAliases : List (String × String) :=
  [("backend_patch", "implementation_report"), ("code_patch", "implementation_report"),
    ("frontend_patch", "implementation_report"), ("implementation", "implementation_report"),
    ("implementation_patch", "implementation_report")]

def roleIdAliases : List (String × String) :=
  [("chief_engineer", "director"), ("lead_engineer", "director"), ("developer", "implementer"),
    ("developer_engineer", "implementer"), ("development_engineer", "implementer"),
    ("dev_engineer", "implementer"), ("implement_engineer", "implementer"),
    ("audit_engineer", "auditor"), ("review_engineer", "auditor"), ("reviewer", "auditor"),
    ("qa_engineer", "tester"), ("test_engineer", "tester")]

def roleOutputArtifactTypes : List (String × String) :=
  [("architect", "architecture_plan"), ("implementer", "implementation_report"),
    ("tester", "test_report"), ("auditor", "audit_report")]

def roleIds : List String := relayRoleIds.map Role.text

def envelopeArtifactTypes : List String := ArtifactType.roleEnvelope.map ArtifactType.text

section Python

variable (repr : Json → String)

def givenText (payload : Dict) (key : String) : String :=
  strip (((firstTruthy payload [key]).map (str repr)).getD "")

def normalizeRole (key : String) (payload : Dict) : Dict :=
  match roleIdAliases.lookup (givenText repr payload key) with
  | some role => payload.set key (.string role)
  | none => payload

def normalizeRequiredRoles (payload : Dict) : Dict :=
  match payload.lookup "required_roles" with
  | some (.array roles) => payload.set "required_roles" (.array (roles.map fun role =>
      ((roleIdAliases.lookup (strip (str repr role))).map Json.string).getD role))
  | _ => payload

def normalizeArtifactType (payload : Dict) : Dict :=
  let artifactType := givenText repr payload "artifact_type"
  match artifactTypeAliases.lookup artifactType with
  | some alias_ => payload.set "artifact_type" (.string alias_)
  | none =>
      if artifactType = "relay artifact type" then
        match roleOutputArtifactTypes.lookup (givenText repr payload "role") with
        | some produced => payload.set "artifact_type" (.string produced)
        | none => payload
      else payload

/-- `_normalize_role_envelope_payload`. -/
def normalize (payload : Dict) : Dict :=
  normalizeArtifactType repr (normalizeRequiredRoles repr
    (normalizeRole repr "handoff_to" (normalizeRole repr "role" payload)))

def fieldText (payload : Dict) (key : String) : String :=
  strip (((payload.lookup key).map (str repr)).getD "")

/-- `_clean_list`, of what a key has; a number or `True` cannot be iterated over. -/
def cleanList : Option Json → Option (List String)
  | none => some []
  | some value =>
      if truthy value then
        match value with
        | .array items => some ((items.map (str repr)).filter (strip · ≠ ""))
        | .object members => some ((members.map Prod.fst).filter (strip · ≠ ""))
        | .string text => some ((text.toList.map String.singleton).filter (strip · ≠ ""))
        | _ => none
      else some []

/-- `str(item.get(first) or item.get(second) or ... or absent).strip()`. -/
def optionText (item : Dict) (keys : List String) (absent : String) : String :=
  strip (((firstTruthy item keys).map (str repr)).getD absent)

/-- One option of `_clean_confirmation_options`. -/
def confirmationOption? (index : Nat) (item : Json) : Option Dict :=
  let numbered := "option_" ++ toString index
  let option := fun id label summary instruction : String =>
    if label = "" ∧ instruction = "" then none
    else some [("id", .string (orText id numbered)), ("label", .string (orText label instruction)),
      ("summary", .string summary), ("instruction", .string (orText instruction label))]
  match item with
  | .string text => option numbered (strip text) "" (strip text)
  | .object item =>
      let id := optionText repr item ["id"] numbered
      let label := optionText repr item ["label", "title", "name", "summary"] id
      option id label (optionText repr item ["summary", "description"] "")
        (optionText repr item ["instruction", "prompt", "value", "text"] label)
  | _ => none

def cleanConfirmationOptions : Option Json → List Dict
  | some (.array items) =>
      ((items.take 6).zipIdx 1).filterMap fun item => confirmationOption? repr item.2 item.1
  | _ => []

/-- `RoleEnvelope.from_payload`. -/
def RoleEnvelope.fromPayload (payload : Dict) : Option RoleEnvelope := do
  let evidenceRefs ← cleanList repr (payload.lookup "evidence_refs")
  let openQuestions ← cleanList repr (payload.lookup "open_questions")
  pure {
    status := fieldText repr payload "status"
    reason := fieldText repr payload "reason"
    role := fieldText repr payload "role"
    artifactType := fieldText repr payload "artifact_type"
    handoffTo := fieldText repr payload "handoff_to"
    summary := fieldText repr payload "summary"
    evidenceRefs
    openQuestions
    nextAction := fieldText repr payload "next_action"
    confirmationOptions := cleanConfirmationOptions repr (payload.lookup "confirmation_options") }

/-- `default_handoff_target` where the envelope names no target. -/
def RoleEnvelope.nextRole (envelope : RoleEnvelope) : Option String :=
  if envelope.handoffTo = "" then defaultHandoffs.lookup envelope.role else some envelope.handoffTo

def isList : Json → Bool
  | .array _ => true
  | _ => false

def checkEnvelope (payload : Dict) (envelope : RoleEnvelope) : EnvelopeParseResult :=
  if envelope.role ∉ roleIds then .error ("unknown role: " ++ envelope.role)
  else if envelope.status ∉ validEnvelopeStatuses then .error ("invalid status: " ++ envelope.status)
  else if envelope.artifactType ∉ envelopeArtifactTypes then
    .error ("invalid artifact_type: " ++ envelope.artifactType)
  else if envelope.handoffTo ≠ "" ∧ envelope.handoffTo ∉ roleIds then
    .error ("unknown handoff_to role: " ++ envelope.handoffTo)
  else if ¬((payload.lookup "evidence_refs").any isList ∧ (payload.lookup "open_questions").any isList) then
    .error "evidence_refs and open_questions must be lists"
  else if ¬(payload.lookup "confirmation_options").all isList then
    .error "confirmation_options must be a list"
  else .ok { envelope, nextRole := envelope.nextRole, payload }

/-- A payload inside of a `role_envelope` is taken out once. -/
def unwrap (payload : Dict) : Dict :=
  match payload.lookup "role_envelope" with
  | some (.object inner) => inner
  | _ => payload

/-- `_parse_role_envelope_payload`, of an object. -/
def parsePayload (payload : Dict) : Option EnvelopeParseResult :=
  let payload := normalize repr (unwrap payload)
  let missing := requiredFields.filter fun field => (payload.lookup field).isNone
  if missing ≠ [] then some (.error ("missing required fields: " ++ ", ".intercalate missing))
  else (RoleEnvelope.fromPayload repr payload).map (checkEnvelope payload)

/-- What `json.loads` does with a text: its value, the message of a `JSONDecodeError`, or another
exception (a limit of the interpreter). -/
inductive Loaded where
  | value (value : Json)
  | malformed (message : String)
  | raised

inductive Input where
  | text (text : String)
  | object (payload : Dict)

variable (loads : String → Loaded)

def parseRoleEnvelope : Input → Option EnvelopeParseResult
  | .object payload => parsePayload repr payload
  | .text text =>
      match loads text with
      | .value (.object payload) => parsePayload repr payload
      | .value _ => some (.error "role envelope must be a JSON object")
      | .malformed message => some (.error ("invalid json: " ++ message))
      | .raised => none

def Input.object? : Input → Option Dict
  | .object payload => some payload
  | .text source =>
      match loads source with
      | .value (.object payload) => some payload
      | _ => none

/-- The grammar of an envelope, of a payload that is unwrapped and has its aliases replaced. -/
structure Grammatical (payload : Dict) : Prop where
  present : ∀ field ∈ requiredFields, (payload.lookup field).isSome
  role : fieldText repr payload "role" ∈ roleIds
  handoffTo : fieldText repr payload "handoff_to" = "" ∨ fieldText repr payload "handoff_to" ∈ roleIds
  status : fieldText repr payload "status" ∈ validEnvelopeStatuses
  artifactType : fieldText repr payload "artifact_type" ∈ envelopeArtifactTypes
  evidenceRefs : (payload.lookup "evidence_refs").any isList
  openQuestions : (payload.lookup "open_questions").any isList
  confirmationOptions : (payload.lookup "confirmation_options").all isList

def isTrueScalar : Json → Bool
  | .string _ | .array _ | .object _ => false
  | value => truthy value

def Breaks (payload : Dict) : Prop :=
  (∀ field ∈ requiredFields, (payload.lookup field).isSome) ∧
    ∃ key ∈ ["evidence_refs", "open_questions"], (payload.lookup key).any isTrueScalar

section Spec

variable {repr loads} {payload : Dict}

theorem cleanList_isNone (value : Option Json) :
    cleanList repr value = none ↔ value.any isTrueScalar = true := by
  cases value with
  | none => simp [cleanList]
  | some value =>
      cases value with
      | null => exact iff_of_false (fun none_ => by cases none_) Bool.false_ne_true
      | string | array | object =>
          refine iff_of_false ?_ Bool.false_ne_true
          rw [cleanList]
          split
          · exact Option.some_ne_none _
          · exact Option.some_ne_none _
      | bool value | int value | float value | infinity value =>
          unfold cleanList
          dsimp only [isTrueScalar]
          split
          next true_ => exact iff_of_true rfl true_
          next false_ => exact iff_of_false (Option.some_ne_none _) false_
      | nan => exact iff_of_true rfl rfl

theorem fromPayload_eq_none_iff : RoleEnvelope.fromPayload repr payload = none ↔
    ∃ key ∈ ["evidence_refs", "open_questions"], (payload.lookup key).any isTrueScalar := by
  rw [List.exists_mem_cons_iff, List.exists_mem_cons_iff, ← @cleanList_isNone repr,
    ← @cleanList_isNone repr]
  unfold RoleEnvelope.fromPayload
  cases cleanList repr (payload.lookup "evidence_refs") with
  | none => simp
  | some evidenceRefs =>
      cases cleanList repr (payload.lookup "open_questions") with
      | none | some => simp

theorem fromPayload_fields {envelope : RoleEnvelope}
    (read : RoleEnvelope.fromPayload repr payload = some envelope) :
    envelope.status = fieldText repr payload "status" ∧ envelope.role = fieldText repr payload "role" ∧
      envelope.artifactType = fieldText repr payload "artifact_type" ∧
      envelope.handoffTo = fieldText repr payload "handoff_to" := by
  obtain ⟨evidenceRefs, -, read⟩ := Option.bind_eq_some_iff.mp read
  obtain ⟨openQuestions, -, read⟩ := Option.bind_eq_some_iff.mp read
  cases read
  exact ⟨rfl, rfl, rfl, rfl⟩

theorem checkEnvelope_isOk {envelope : RoleEnvelope} : (checkEnvelope payload envelope).isOk ↔
    envelope.role ∈ roleIds ∧ envelope.status ∈ validEnvelopeStatuses ∧
      envelope.artifactType ∈ envelopeArtifactTypes ∧
      (envelope.handoffTo = "" ∨ envelope.handoffTo ∈ roleIds) ∧
      ((payload.lookup "evidence_refs").any isList ∧ (payload.lookup "open_questions").any isList) ∧
      (payload.lookup "confirmation_options").all isList := by
  have fails (message : String) : ¬(Except.isOk (.error message : EnvelopeParseResult)) :=
    Bool.false_ne_true
  unfold checkEnvelope
  split
  next role => exact iff_of_false (fails _) fun holds => role holds.1
  next role =>
  split
  next status => exact iff_of_false (fails _) fun holds => status holds.2.1
  next status =>
  split
  next artifactType => exact iff_of_false (fails _) fun holds => artifactType holds.2.2.1
  next artifactType =>
  split
  next handoffTo => exact iff_of_false (fails _) fun holds => holds.2.2.2.1.elim handoffTo.1 handoffTo.2
  next handoffTo =>
  split
  next lists => exact iff_of_false (fails _) fun holds => lists holds.2.2.2.2.1
  next lists =>
  split
  next options => exact iff_of_false (fails _) fun holds => options holds.2.2.2.2.2
  next options =>
  refine iff_of_true rfl ⟨not_not.mp role, not_not.mp status, not_not.mp artifactType, ?_,
    not_not.mp lists, not_not.mp options⟩
  exact or_iff_not_imp_left.mpr fun named => by_contra fun unknown => handoffTo ⟨named, unknown⟩

variable {key : String}

theorem isSome_set (present : (payload.lookup key).isSome) (value : Json) (other : String) :
    ((payload.set key value).lookup other).isSome = (payload.lookup other).isSome := by
  by_cases same : other = key
  · rw [same, lookup_set_self, present]
    rfl
  · rw [lookup_set_of_ne value same]

theorem present_of_given {key : String} (given : givenText repr payload key ≠ "") :
    (payload.lookup key).isSome := by
  cases found : payload.lookup key with
  | some value => rfl
  | none =>
      refine absurd ?_ given
      unfold givenText firstTruthy
      rw [List.findSome?_singleton, found]
      rfl

theorem given_of_listed {table : List (String × String)} {entry : String}
    (blank : table.lookup "" = none) (listed : table.lookup (givenText repr payload key) = some entry) :
    (payload.lookup key).isSome := by
  refine @present_of_given repr _ _ fun empty => ?_
  rw [empty, blank] at listed
  cases listed

variable {other : String}

theorem lookup_normalizeRole (apart : other ≠ key) :
    (normalizeRole repr key payload).lookup other = payload.lookup other := by
  unfold normalizeRole
  split
  · exact lookup_set_of_ne _ apart _
  · rfl

theorem isSome_normalizeRole (key other : String) :
    ((normalizeRole repr key payload).lookup other).isSome = (payload.lookup other).isSome := by
  unfold normalizeRole
  split
  next role listed => exact isSome_set (given_of_listed rfl listed) _ _
  · rfl

theorem lookup_normalizeRequiredRoles (apart : other ≠ "required_roles") :
    (normalizeRequiredRoles repr payload).lookup other = payload.lookup other := by
  unfold normalizeRequiredRoles
  split
  · exact lookup_set_of_ne _ apart _
  · rfl

theorem lookup_normalizeArtifactType (apart : other ≠ "artifact_type") :
    (normalizeArtifactType repr payload).lookup other = payload.lookup other := by
  unfold normalizeArtifactType
  dsimp only
  split
  · exact lookup_set_of_ne _ apart _
  · split
    · split
      · exact lookup_set_of_ne _ apart _
      · rfl
    · rfl

theorem isSome_normalizeArtifactType (other : String) :
    ((normalizeArtifactType repr payload).lookup other).isSome = (payload.lookup other).isSome := by
  unfold normalizeArtifactType
  dsimp only
  split
  next alias_ listed => exact isSome_set (given_of_listed rfl listed) _ _
  · split
    next placeholder =>
      split
      · refine isSome_set (@present_of_given repr _ _ ?_) _ _
        rw [placeholder]
        decide
      · rfl
    · rfl

def aliasKeys : List String := ["role", "handoff_to", "required_roles", "artifact_type"]

theorem lookup_normalize (apart : other ∉ aliasKeys) :
    (normalize repr payload).lookup other = payload.lookup other := by
  simp only [aliasKeys, List.mem_cons, List.not_mem_nil, or_false, not_or] at apart
  unfold normalize
  rw [lookup_normalizeArtifactType apart.2.2.2, lookup_normalizeRequiredRoles apart.2.2.1,
    lookup_normalizeRole apart.2.1, lookup_normalizeRole apart.1]

theorem isSome_normalize (apart : other ≠ "required_roles") :
    ((normalize repr payload).lookup other).isSome = (payload.lookup other).isSome := by
  unfold normalize
  rw [isSome_normalizeArtifactType, lookup_normalizeRequiredRoles apart, isSome_normalizeRole,
    isSome_normalizeRole]

theorem breaks_normalize : Breaks (normalize repr payload) ↔ Breaks payload := by
  have present (field : String) (listed : field ∈ requiredFields) : field ≠ "required_roles" := by
    intro same
    rw [same] at listed
    revert listed
    decide
  refine and_congr (forall₂_congr fun field listed => ?_) ?_
  · rw [isSome_normalize (present field listed)]
  · refine exists_congr fun key => and_congr_right fun listed => ?_
    have apart : key ∉ aliasKeys := by
      simp only [List.mem_cons, List.not_mem_nil, or_false] at listed
      rcases listed with rfl | rfl
      · decide
      · decide
    rw [lookup_normalize apart]

theorem parsePayload_iff : (∃ result, parsePayload repr payload = some result ∧
      (result.isOk ↔ Grammatical repr (normalize repr (unwrap payload)))) ↔
    ¬Breaks (unwrap payload) := by
  rw [← @breaks_normalize repr]
  unfold parsePayload
  dsimp only
  generalize normalize repr (unwrap payload) = payload
  by_cases present : ∀ field ∈ requiredFields, (payload.lookup field).isSome
  · have complete : requiredFields.filter (fun field => (payload.lookup field).isNone) = [] := by
      rw [List.filter_eq_nil_iff]
      intro field listed missing
      have there := present field listed
      rw [← Option.not_isNone, missing] at there
      cases there
    rw [complete, if_neg (not_not.mpr rfl)]
    cases read : RoleEnvelope.fromPayload repr payload with
    | none =>
        refine iff_of_false ?_ (not_not.mpr ⟨present, fromPayload_eq_none_iff.mp read⟩)
        rintro ⟨result, parsed, -⟩
        cases parsed
    | some envelope =>
        have kept : ¬Breaks payload := fun breaks => by
          rw [fromPayload_eq_none_iff.mpr breaks.2] at read
          cases read
        refine iff_of_true ⟨_, rfl, ?_⟩ kept
        obtain ⟨status, role, artifactType, handoffTo⟩ := fromPayload_fields read
        rw [checkEnvelope_isOk, status, role, artifactType, handoffTo]
        constructor
        · rintro ⟨role, status, artifactType, handoffTo, ⟨evidenceRefs, openQuestions⟩, options⟩
          exact ⟨present, role, handoffTo, status, artifactType, evidenceRefs, openQuestions, options⟩
        · rintro ⟨-, role, handoffTo, status, artifactType, evidenceRefs, openQuestions, options⟩
          exact ⟨role, status, artifactType, handoffTo, ⟨evidenceRefs, openQuestions⟩, options⟩
  · have missing : requiredFields.filter (fun field => (payload.lookup field).isNone) ≠ [] := by
      intro complete
      refine present fun field listed => ?_
      have there := List.filter_eq_nil_iff.mp complete field listed
      simpa using there
    rw [if_pos missing]
    refine iff_of_true ⟨_, rfl, iff_of_false Bool.false_ne_true fun grammatical => ?_⟩ fun breaks => ?_
    · exact present grammatical.present
    · exact present breaks.1

theorem parsed_of_object {input : Input} (decoded : input.object? loads = some payload) :
    parseRoleEnvelope repr loads input = parsePayload repr payload := by
  cases input with
  | object own =>
      cases decoded
      rfl
  | text source =>
      unfold Input.object? at decoded
      unfold parseRoleEnvelope
      dsimp only at decoded ⊢
      cases loaded : loads source with
      | malformed | raised =>
          rw [loaded] at decoded
          cases decoded
      | value value =>
          rw [loaded] at decoded
          cases value with
          | object members =>
              cases decoded
              rfl
          | null | bool | int | float | nan | infinity | string | array => cases decoded

theorem refused_of_no_object {input : Input} (other : input.object? loads = none) :
    (∃ message, parseRoleEnvelope repr loads input = some (.error message)) ∨
      parseRoleEnvelope repr loads input = none ∧ ∃ source, input = .text source ∧ loads source = .raised := by
  cases input with
  | object own => cases other
  | text source =>
      unfold Input.object? at other
      unfold parseRoleEnvelope
      dsimp only at other ⊢
      cases loaded : loads source with
      | malformed message => exact .inl ⟨_, rfl⟩
      | raised => exact .inr ⟨rfl, source, rfl, loaded⟩
      | value value =>
          rw [loaded] at other
          cases value with
          | object members => cases other
          | null | bool | int | float | nan | infinity | string | array => exact .inl ⟨_, rfl⟩

end Spec

/-- The parser returns, and accepts its grammar alone, exactly where the text can be read and no list of
a complete envelope is a true scalar. -/
theorem envelope_parsed_iff (input : Input) :
    (∃ result, parseRoleEnvelope repr loads input = some result ∧ (result.isOk ↔
      ∃ payload, input.object? loads = some payload ∧
        Grammatical repr (normalize repr (unwrap payload)))) ↔
    (∀ source, input = .text source → loads source ≠ .raised) ∧
      ∀ payload, input.object? loads = some payload → ¬Breaks (unwrap payload) := by
  cases decoded : input.object? loads with
  | none =>
      rcases @refused_of_no_object repr loads input decoded with ⟨message, refused⟩ | ⟨raises, source, rfl, raised⟩
      · rw [refused]
        refine iff_of_true ⟨_, rfl, iff_of_false Bool.false_ne_true (by simp)⟩ ⟨?_, by simp⟩
        rintro source rfl raised
        unfold parseRoleEnvelope at refused
        dsimp only at refused
        rw [raised] at refused
        cases refused
      · rw [raises]
        exact iff_of_false (by simp) fun holds => holds.1 source rfl raised
  | some payload =>
      rw [parsed_of_object decoded]
      simp only [Option.some.injEq, exists_eq_left', forall_eq']
      rw [parsePayload_iff]
      refine ⟨fun kept => ⟨?_, kept⟩, And.right⟩
      rintro source rfl raised
      unfold Input.object? at decoded
      dsimp only at decoded
      rw [raised] at decoded
      cases decoded

end Python

def sampleLoads (source : String) : Loaded :=
  match Json.loads source.toList with
  | some value => .value value
  | none => .malformed "Expecting value"

def numberedEvidence : String :=
  "\x7b\"status\": \"passed\", \"reason\": \"\", \"role\": \"tester\", \"artifact_type\": \"test_report\", \"handoff_to\": \"\", \"summary\": \"\", \"evidence_refs\": 3, \"open_questions\": [], \"next_action\": \"\"\x7d"

/-- A number of references cannot be iterated over. -/
theorem numbered_evidence_raises :
    parseRoleEnvelope State.sampleBuiltins.repr sampleLoads (.text numberedEvidence) = none := by
  decide +kernel

section Again

variable {repr : Json → String} {payload : Dict}

variable {other : Dict} {key : String}

theorem givenText_congr (same : payload.lookup key = other.lookup key) :
    givenText repr payload key = givenText repr other key := by
  unfold givenText firstTruthy
  rw [List.findSome?_singleton, List.findSome?_singleton, same]

theorem givenText_set {value : String} (visible : value ≠ "") :
    givenText repr (payload.set key (.string value)) key = strip value := by
  unfold givenText firstTruthy
  rw [List.findSome?_singleton, lookup_set_self, Option.filter_some, if_pos (by simpa [truthy] using visible)]
  rfl

theorem mem_of_lookup {table : List (String × String)} {entry : String}
    (listed : table.lookup key = some entry) : entry ∈ table.map Prod.snd := by
  induction table with
  | nil => cases listed
  | cons row table ih =>
      obtain ⟨name, own⟩ := row
      rw [List.lookup_cons] at listed
      split at listed
      · cases listed
        exact List.mem_cons_self
      · exact List.mem_cons_of_mem own (ih listed)

theorem normalizeRole_settled (key : String) :
    roleIdAliases.lookup (givenText repr (normalizeRole repr key payload) key) = none := by
  have images : ∀ entry ∈ roleIdAliases.map Prod.snd, entry ≠ "" ∧
      roleIdAliases.lookup (strip entry) = none := by decide +kernel
  unfold normalizeRole
  split
  next role listed =>
    obtain ⟨visible, settled⟩ := images role (mem_of_lookup listed)
    rw [givenText_set visible, settled]
  next other => exact other

theorem normalizeArtifactType_settled :
    normalizeArtifactType repr (normalizeArtifactType repr payload) =
      normalizeArtifactType repr payload := by
  have images : ∀ entry ∈ artifactTypeAliases.map Prod.snd ++ roleOutputArtifactTypes.map Prod.snd,
      entry ≠ "" ∧ artifactTypeAliases.lookup (strip entry) = none ∧
        strip entry ≠ "relay artifact type" := by decide +kernel
  have settled {entry : String}
      (listed : entry ∈ artifactTypeAliases.map Prod.snd ++ roleOutputArtifactTypes.map Prod.snd) :
      normalizeArtifactType repr (payload.set "artifact_type" (.string entry)) =
        payload.set "artifact_type" (.string entry) := by
    obtain ⟨visible, unlisted, other⟩ := images entry listed
    rw [normalizeArtifactType, givenText_set visible, unlisted]
    exact if_neg other
  generalize normalized : normalizeArtifactType repr payload = next
  unfold normalizeArtifactType at normalized
  dsimp only at normalized
  split at normalized
  next alias_ listed =>
    rw [← normalized]
    exact settled (List.mem_append_left _ (mem_of_lookup listed))
  next unlisted =>
    split at normalized
    next placeholder =>
      split at normalized
      next produced listed =>
        rw [← normalized]
        exact settled (List.mem_append_right _ (mem_of_lookup listed))
      next none_ =>
        rw [← normalized, normalizeArtifactType, unlisted]
        rw [none_]
        exact if_pos placeholder
    next other =>
      rw [← normalized, normalizeArtifactType, unlisted]
      exact if_neg other

theorem normalizeRole_of_settled (settled : roleIdAliases.lookup (givenText repr payload key) = none) :
    normalizeRole repr key payload = payload := by
  rw [normalizeRole, settled]

theorem normalize_again : normalize repr (normalize repr payload) =
    normalizeArtifactType repr (normalizeRequiredRoles repr (normalize repr payload)) := by
  have kept {key : String} {roles : Dict} (own : key ≠ "artifact_type") (apart : key ≠ "required_roles") :
      givenText repr (normalizeArtifactType repr (normalizeRequiredRoles repr roles)) key =
        givenText repr roles key :=
    givenText_congr ((lookup_normalizeArtifactType own).trans (lookup_normalizeRequiredRoles apart))
  have role : roleIdAliases.lookup (givenText repr (normalize repr payload) "role") = none := by
    rw [normalize, kept (by decide) (by decide),
      givenText_congr (lookup_normalizeRole (by decide : "role" ≠ "handoff_to"))]
    exact normalizeRole_settled "role"
  have handoffTo : roleIdAliases.lookup (givenText repr (normalize repr payload) "handoff_to") = none := by
    rw [normalize, kept (by decide) (by decide)]
    exact normalizeRole_settled "handoff_to"
  conv => lhs; rw [normalize]
  rw [normalizeRole_of_settled role, normalizeRole_of_settled handoffTo]

theorem lookup_set_congr (same : payload.lookup key = other.lookup key)
    (name : String) (value : Json) : (payload.set name value).lookup key = (other.set name value).lookup key := by
  by_cases own : key = name
  · rw [own, lookup_set_self, lookup_set_self]
  · rw [lookup_set_of_ne value own, lookup_set_of_ne value own, same]

theorem normalizeArtifactType_congr
    (artifactType : payload.lookup "artifact_type" = other.lookup "artifact_type")
    (role : payload.lookup "role" = other.lookup "role") (same : payload.lookup key = other.lookup key) :
    (normalizeArtifactType repr payload).lookup key = (normalizeArtifactType repr other).lookup key := by
  rw [normalizeArtifactType, normalizeArtifactType, givenText_congr artifactType, givenText_congr role]
  split
  · exact lookup_set_congr same _ _
  · split
    · split
      · exact lookup_set_congr same _ _
      · exact same
    · exact same

theorem lookup_normalize_again (apart : key ≠ "required_roles") :
    (normalize repr (normalize repr payload)).lookup key = (normalize repr payload).lookup key := by
  rw [normalize_again, normalizeArtifactType_congr (lookup_normalizeRequiredRoles (by decide))
    (lookup_normalizeRequiredRoles (by decide)) (lookup_normalizeRequiredRoles apart)]
  conv_lhs => rw [normalize, normalizeArtifactType_settled]
  rfl

def textFields : List String :=
  ["status", "reason", "role", "artifact_type", "handoff_to", "summary", "next_action"]

structure SameFields (repr : Json → String) (payload other : Dict) : Prop where
  texts : ∀ key ∈ textFields, fieldText repr (normalize repr payload) key =
    fieldText repr (normalize repr other) key
  lists : ∀ key ∈ ["evidence_refs", "open_questions"],
    cleanList repr (payload.lookup key) = cleanList repr (other.lookup key)
  options : cleanConfirmationOptions repr (payload.lookup "confirmation_options") =
    cleanConfirmationOptions repr (other.lookup "confirmation_options")

/-- An envelope inside of an envelope that is read instead of it, and reads the same. -/
structure Rereads (repr : Json → String) (payload inner : Dict) : Prop where
  present : ∀ field ∈ requiredFields, (inner.lookup field).isSome
  evidenceRefs : (inner.lookup "evidence_refs").any isList
  openQuestions : (inner.lookup "open_questions").any isList
  confirmationOptions : (inner.lookup "confirmation_options").all isList
  same : SameFields repr inner payload

variable {envelope : RoleEnvelope}

theorem fromPayload_eq_some_iff :
    RoleEnvelope.fromPayload repr payload = some envelope ↔
      cleanList repr (payload.lookup "evidence_refs") = some envelope.evidenceRefs ∧
      cleanList repr (payload.lookup "open_questions") = some envelope.openQuestions ∧
      cleanConfirmationOptions repr (payload.lookup "confirmation_options") = envelope.confirmationOptions ∧
      textFields.map (fieldText repr payload) = [envelope.status, envelope.reason, envelope.role,
        envelope.artifactType, envelope.handoffTo, envelope.summary, envelope.nextAction] := by
  unfold RoleEnvelope.fromPayload
  constructor
  · intro read
    obtain ⟨evidenceRefs, evidence, read⟩ := Option.bind_eq_some_iff.mp read
    obtain ⟨openQuestions, questions, read⟩ := Option.bind_eq_some_iff.mp read
    cases read
    exact ⟨evidence, questions, rfl, rfl⟩
  · rintro ⟨evidence, questions, options, texts⟩
    obtain ⟨⟩ := envelope
    cases texts
    rw [evidence, questions, options]
    rfl

theorem fromPayload_iff_sameFields
    (read : RoleEnvelope.fromPayload repr (normalize repr payload) = some envelope) :
    RoleEnvelope.fromPayload repr (normalize repr other) = some envelope ↔ SameFields repr other payload := by
  have kept {key : String} (apart : key ∉ aliasKeys) (dict : Dict) :
      (normalize repr dict).lookup key = dict.lookup key := lookup_normalize apart
  rw [fromPayload_eq_some_iff] at read ⊢
  obtain ⟨evidence, questions, options, texts⟩ := read
  rw [← evidence, ← questions, ← options, ← texts, kept (by decide), kept (by decide), kept (by decide),
    kept (by decide), kept (by decide), kept (by decide), List.map_inj_left]
  constructor
  · rintro ⟨evidence, questions, options, texts⟩
    refine ⟨texts, fun key listed => ?_, options⟩
    simp only [List.mem_cons, List.not_mem_nil, or_false] at listed
    rcases listed with rfl | rfl
    · exact evidence
    · exact questions
  · rintro ⟨texts, lists, options⟩
    exact ⟨lists _ (by decide), lists _ (by decide), options, texts⟩

variable {accepted : Accepted}

theorem checkEnvelope_eq_ok :
    checkEnvelope payload envelope = .ok accepted ↔
      (checkEnvelope payload envelope).isOk ∧ accepted = ⟨envelope, envelope.nextRole, payload⟩ := by
  have refused (message : String) : (.error message : EnvelopeParseResult) = .ok accepted ↔
      (.error message : EnvelopeParseResult).isOk ∧ accepted = ⟨envelope, envelope.nextRole, payload⟩ :=
    iff_of_false (fun error => by cases error) fun ok => Bool.false_ne_true ok.1
  unfold checkEnvelope
  split
  · exact refused _
  split
  · exact refused _
  split
  · exact refused _
  split
  · exact refused _
  split
  · exact refused _
  split
  · exact refused _
  constructor
  · rintro ⟨⟩
    exact ⟨rfl, rfl⟩
  · rintro ⟨-, rfl⟩
    rfl

theorem checkEnvelope_normalize {envelope : RoleEnvelope} :
    (checkEnvelope (normalize repr payload) envelope).isOk ↔ (checkEnvelope payload envelope).isOk := by
  have kept {key : String} (apart : key ∉ aliasKeys) :
      (normalize repr payload).lookup key = payload.lookup key := lookup_normalize apart
  rw [checkEnvelope_isOk, checkEnvelope_isOk, kept (by decide), kept (by decide), kept (by decide)]

theorem missing_eq_nil_iff :
    (requiredFields.filter fun field => ((normalize repr payload).lookup field).isNone) = [] ↔
      ∀ field ∈ requiredFields, (payload.lookup field).isSome := by
  rw [List.filter_eq_nil_iff]
  refine forall₂_congr fun field listed => ?_
  have apart : field ≠ "required_roles" := by
    rintro rfl
    revert listed
    decide
  rw [Option.isNone_iff_eq_none, ← Option.isNone_iff_eq_none, ← Option.not_isSome, isSome_normalize apart]
  simp

theorem parsePayload_ok_iff :
    parsePayload repr payload = some (.ok accepted) ↔
      (∀ field ∈ requiredFields, ((unwrap payload).lookup field).isSome) ∧
      RoleEnvelope.fromPayload repr (normalize repr (unwrap payload)) = some accepted.envelope ∧
      (checkEnvelope (unwrap payload) accepted.envelope).isOk ∧
      accepted.nextRole = accepted.envelope.nextRole ∧
      accepted.payload = normalize repr (unwrap payload) := by
  unfold parsePayload
  dsimp only
  rw [← @missing_eq_nil_iff repr, ← @checkEnvelope_normalize repr]
  generalize normalize repr (unwrap payload) = payload
  split
  next missing => exact iff_of_false (fun refused => by cases refused) fun found => missing found.1
  next complete =>
    rw [Option.map_eq_some_iff]
    constructor
    · rintro ⟨envelope, read, checked⟩
      obtain ⟨ok, rfl⟩ := checkEnvelope_eq_ok.mp checked
      exact ⟨not_not.mp complete, read, ok, rfl, rfl⟩
    · rintro ⟨-, read, ok, next, own⟩
      refine ⟨_, read, checkEnvelope_eq_ok.mpr ⟨ok, ?_⟩⟩
      rw [← next, ← own]

theorem parsePayload_same_iff (parsed : parsePayload repr payload = some (.ok accepted)) :
    (∃ again, parsePayload repr other = some (.ok again) ∧ again.envelope = accepted.envelope ∧
      again.nextRole = accepted.nextRole) ↔ Rereads repr (unwrap payload) (unwrap other) := by
  obtain ⟨-, read, ok, next, -⟩ := parsePayload_ok_iff.mp parsed
  rw [checkEnvelope_isOk] at ok
  obtain ⟨role, status, artifactType, handoffTo, -, -⟩ := ok
  constructor
  · rintro ⟨again, parsed, same, -⟩
    obtain ⟨present, reread, ok, -, -⟩ := parsePayload_ok_iff.mp parsed
    rw [same] at reread
    rw [checkEnvelope_isOk] at ok
    obtain ⟨-, -, -, -, ⟨evidenceRefs, openQuestions⟩, options⟩ := ok
    exact ⟨present, evidenceRefs, openQuestions, options, (fromPayload_iff_sameFields read).mp reread⟩
  · rintro ⟨present, evidenceRefs, openQuestions, options, same⟩
    refine ⟨⟨accepted.envelope, accepted.nextRole, normalize repr (unwrap other)⟩, ?_, rfl, rfl⟩
    have checked : (checkEnvelope (unwrap other) accepted.envelope).isOk := by
      rw [checkEnvelope_isOk]
      exact ⟨role, status, artifactType, handoffTo, ⟨evidenceRefs, openQuestions⟩, options⟩
    rw [parsePayload_ok_iff]
    dsimp only
    exact ⟨present, (fromPayload_iff_sameFields read).mpr same, checked, next, rfl⟩

theorem rereads_normalize (parsed : parsePayload repr payload = some (.ok accepted)) :
    Rereads repr (unwrap payload) (normalize repr (unwrap payload)) := by
  obtain ⟨present, -, ok, -, -⟩ := parsePayload_ok_iff.mp parsed
  rw [checkEnvelope_isOk] at ok
  obtain ⟨-, -, -, -, ⟨evidenceRefs, openQuestions⟩, options⟩ := ok
  generalize unwrap payload = payload at present evidenceRefs openQuestions options ⊢
  have kept {key : String} (apart : key ∉ aliasKeys) :
      (normalize repr payload).lookup key = payload.lookup key := lookup_normalize apart
  refine ⟨fun field listed => ?_, ?_, ?_, ?_, fun key listed => ?_, fun key listed => ?_, ?_⟩
  · have apart : field ≠ "required_roles" := by
      rintro rfl
      revert listed
      decide
    rw [isSome_normalize apart]
    exact present field listed
  · rwa [kept (by decide)]
  · rwa [kept (by decide)]
  · rwa [kept (by decide)]
  · have apart : key ≠ "required_roles" := by
      rintro rfl
      revert listed
      decide
    rw [fieldText, fieldText, lookup_normalize_again apart]
  · have apart : key ∉ aliasKeys := by
      simp only [List.mem_cons, List.not_mem_nil, or_false] at listed
      rcases listed with rfl | rfl
      · decide
      · decide
    rw [kept apart]
  · rw [kept (by decide)]

/-- Parsing an accepted payload gives its envelope and its next role again, exactly where no other
envelope inside of it takes its place. -/
theorem reparsed_iff (loads : String → Loaded) {input : Input} {accepted : Accepted}
    (parsed : parseRoleEnvelope repr loads input = some (.ok accepted)) :
    (∃ again, parseRoleEnvelope repr loads (.object accepted.payload) = some (.ok again) ∧
      again.envelope = accepted.envelope ∧ again.nextRole = accepted.nextRole) ↔
    ∀ payload, input.object? loads = some payload → ∀ inner,
      (unwrap payload).lookup "role_envelope" = some (.object inner) →
        Rereads repr (unwrap payload) inner := by
  obtain ⟨payload, decoded⟩ : ∃ payload, input.object? loads = some payload := by
    cases decoded : input.object? loads with
    | some payload => exact ⟨payload, rfl⟩
    | none =>
        rcases refused_of_no_object decoded with ⟨message, refused⟩ | ⟨raises, -⟩
        · rw [refused] at parsed
          cases parsed
        · rw [raises] at parsed
          cases parsed
  rw [parsed_of_object decoded] at parsed
  obtain ⟨-, -, -, -, own⟩ := parsePayload_ok_iff.mp parsed
  have nested : accepted.payload.lookup "role_envelope" = (unwrap payload).lookup "role_envelope" := by
    rw [own, lookup_normalize (by decide)]
  change (∃ again, parsePayload repr accepted.payload = some (.ok again) ∧ _) ↔ _
  rw [parsePayload_same_iff parsed]
  simp only [decoded, Option.some.injEq, forall_eq']
  by_cases inside : ∃ inner, (unwrap payload).lookup "role_envelope" = some (.object inner)
  · obtain ⟨inner, found⟩ := inside
    have unwrapped : unwrap accepted.payload = inner := by
      rw [unwrap, nested, found]
    rw [unwrapped, found]
    simp only [Option.some.injEq, Json.object.injEq, forall_eq']
  · have unwrapped : unwrap accepted.payload = accepted.payload := by
      unfold unwrap
      split
      next inner found => exact absurd ⟨inner, nested ▸ found⟩ inside
      · rfl
    rw [unwrapped, own]
    exact iff_of_true (rereads_normalize parsed) fun inner found => absurd ⟨inner, found⟩ inside

end Again

theorem exists_accepted {repr : Json → String} {loads : String → Loaded} {input : Input}
    (ok : (parseRoleEnvelope repr loads input).any Except.isOk) :
    ∃ accepted, parseRoleEnvelope repr loads input = some (.ok accepted) := by
  cases parsed : parseRoleEnvelope repr loads input with
  | none =>
      rw [parsed] at ok
      cases ok
  | some result =>
      rw [parsed] at ok
      cases result with
      | error message => cases ok
      | ok accepted => exact ⟨accepted, rfl⟩

def developerReport : Dict :=
  [("status", .string "passed"), ("reason", .string ""), ("role", .string "developer"),
    ("artifact_type", .string "relay artifact type"), ("handoff_to", .string "qa_engineer"),
    ("summary", .string "done"), ("evidence_refs", .array [.string "a.py"]), ("open_questions", .array []),
    ("next_action", .string "")]

theorem developerReport_reparsed : ∃ accepted,
    parseRoleEnvelope State.sampleBuiltins.repr sampleLoads (.object developerReport) = some (.ok accepted) ∧
    ∃ again, parseRoleEnvelope State.sampleBuiltins.repr sampleLoads (.object accepted.payload) =
      some (.ok again) ∧ again.envelope = accepted.envelope ∧ again.nextRole = accepted.nextRole := by
  obtain ⟨accepted, parsed⟩ := @exists_accepted State.sampleBuiltins.repr sampleLoads
    (.object developerReport) (by decide +kernel)
  refine ⟨accepted, parsed, (reparsed_iff sampleLoads parsed).mpr ?_⟩
  rintro payload ⟨⟩ inner nested
  cases nested

/-- An envelope that holds an empty one is accepted, and its payload is not. -/
theorem nested_envelope_refused : ∃ accepted,
    parseRoleEnvelope State.sampleBuiltins.repr sampleLoads
      (.object [("role_envelope", .object (developerReport ++ [("role_envelope", .object [])]))]) =
        some (.ok accepted) ∧
    ¬∃ again, parseRoleEnvelope State.sampleBuiltins.repr sampleLoads (.object accepted.payload) =
      some (.ok again) ∧ again.envelope = accepted.envelope ∧ again.nextRole = accepted.nextRole := by
  obtain ⟨accepted, parsed⟩ := @exists_accepted State.sampleBuiltins.repr sampleLoads
    (.object [("role_envelope", .object (developerReport ++ [("role_envelope", .object [])]))]) (by decide +kernel)
  refine ⟨accepted, parsed, ?_⟩
  rintro ⟨again, reparsed, -, -⟩
  rw [parseRoleEnvelope] at parsed reparsed
  have own := (parsePayload_ok_iff.mp parsed).2.2.2.2
  have unwrapped : unwrap accepted.payload = [] := by
    rw [own, unwrap, lookup_normalize (by decide)]
    rfl
  have present := (parsePayload_ok_iff.mp reparsed).1 "status" (by decide)
  rw [unwrapped] at present
  cases present

end Wlcodex.Relay.Parsing
