import Wlcodex.Codex.StableIds
import Wlcodex.Codex.TailWindow

namespace Wlcodex.Codex

open Wlcodex.Lib
open Wlcodex.Relay (Dict firstTruthy str truthy)
open Wlcodex.Relay.StreamState (correctedPayload lookup_set_of_ne)
open Wlcodex.Runtime
open Wlcodex.Timeline (EventType)
open Builtins (fallbackTurnId)

/-! A row of the session file becomes a message event at most once. -/

variable {words : WordClass} {builtins : Builtins} {nativeThreadId : String}

namespace Builtins

def IdSource (builtins : Builtins) (line : Bytes) (id : String) : Prop :=
  builtins.ownItemId line = some id ∨
    ∃ kind ∈ itemKinds, ∃ parts, id = builtins.stableId kind parts

variable {line : Bytes} {turn : String} {item : TranscriptItem}

theorem idSource_namedItem {role : ItemRole} {kind ownId text : String} (listed : kind ∈ itemKinds)
    (own : text ≠ "" → ownId ≠ "" → builtins.ownItemId line = some ownId)
    (made : builtins.namedItem nativeThreadId role kind ownId turn text = some item) :
    builtins.IdSource line item.itemId := by
  unfold namedItem at made
  by_cases empty : text = ""
  · rw [if_pos empty] at made
    cases made
  rw [if_neg empty] at made
  cases made
  by_cases anonymous : ownId = ""
  · exact .inr ⟨kind, listed, [nativeThreadId, turn, text], if_pos anonymous⟩
  · refine .inl ((own empty anonymous).trans ?_)
    rw [orText_of_ne anonymous]

variable {row : Row}

theorem ownItemId_of_named (read : builtins.readRow line = some row)
    (named : builtins.isNamedResponse row = true) (own : builtins.text (row.payload.getOrNull "id") ≠ "") :
    builtins.ownItemId line = some (builtins.text (row.payload.getOrNull "id")) := by
  rw [ownItemId, read, Option.bind_some, if_pos named]
  simp [Option.filter, own]

theorem idSource_responseItem
    (read : builtins.readRow line = some row) (response : row.rowType = "response_item")
    (made : builtins.responseItem nativeThreadId turn row.payload = some item) :
    builtins.IdSource line item.itemId := by
  have own : (builtins.payloadType row.payload = "plan" ∨
      builtins.isAssistantResponseItem row.payload = true) →
      builtins.responseItemText row.payload ≠ "" → builtins.text (row.payload.getOrNull "id") ≠ "" →
      builtins.ownItemId line = some (builtins.text (row.payload.getOrNull "id")) := by
    intro kinds spoken named
    refine ownItemId_of_named read ?_ named
    simp only [isNamedResponse, response, decide_true, Bool.true_and, Bool.and_eq_true,
      decide_eq_true_eq, Bool.or_eq_true]
    exact ⟨spoken, kinds⟩
  simp only [responseItem] at made
  by_cases plan : builtins.payloadType row.payload = "plan"
  · rw [if_pos plan] at made
    exact idSource_namedItem (by decide) (own (.inl plan)) made
  rw [if_neg plan] at made
  by_cases assistant : builtins.isAssistantResponseItem row.payload = true
  · rw [if_pos assistant] at made
    exact idSource_namedItem (by decide) (own (.inr assistant)) made
  · rw [if_neg assistant] at made
    cases made

theorem idSource_eventMessage (made : (builtins.eventMessage nativeThreadId turn row).2 = some item) :
    builtins.IdSource line item.itemId := by
  simp only [eventMessage] at made
  by_cases started : builtins.payloadType row.payload = "task_started" ∨
      builtins.payloadType row.payload = "turn_aborted"
  · rw [if_pos started] at made
    cases made
  rw [if_neg started] at made
  by_cases complete : builtins.payloadType row.payload = "task_complete"
  · rw [if_pos complete] at made
    exact idSource_namedItem (by decide) (fun _ impossible => absurd rfl impossible) made
  rw [if_neg complete] at made
  by_cases user : builtins.payloadType row.payload = "user_message"
  · rw [if_pos user, userMessage] at made
    split_ifs at made
    all_goals
      cases made
      exact .inr ⟨"jsonl-user", by decide, _, rfl⟩
  rw [if_neg user] at made
  by_cases agent : builtins.payloadType row.payload = "agent_message"
  · rw [if_pos agent, agentMessage] at made
    split_ifs at made
    cases made
    exact .inr ⟨"jsonl-assistant", by decide, _, rfl⟩
  · rw [if_neg agent] at made
    cases made

theorem idSource_parseLine (made : (builtins.parseLine nativeThreadId turn line).2 = some item) :
    builtins.IdSource line item.itemId := by
  unfold parseLine at made
  cases read : builtins.readRow line with
  | none => rw [read] at made; cases made
  | some row =>
      rw [read] at made
      simp only [parseRow] at made
      by_cases context : row.rowType = "turn_context"
      · rw [if_pos context] at made
        cases made
      rw [if_neg context] at made
      by_cases response : row.rowType = "response_item"
      · rw [if_pos response] at made
        exact idSource_responseItem read response made
      rw [if_neg response] at made
      by_cases event : row.rowType = "event_msg"
      · rw [if_pos event] at made
        exact idSource_eventMessage made
      · rw [if_neg event] at made
        cases made

theorem idSource_parseLines {lines : List Bytes} {current : String}
    (member : some item ∈ builtins.parseLines nativeThreadId current lines) :
    ∃ line ∈ lines, builtins.IdSource line item.itemId := by
  induction lines generalizing current with
  | nil => cases member
  | cons line lines ih =>
      rcases List.mem_cons.mp member with here | later
      · exact ⟨line, List.mem_cons_self, idSource_parseLine here.symm⟩
      · obtain ⟨other, inside, source⟩ := ih later
        exact ⟨other, List.mem_cons_of_mem line inside, source⟩

theorem idSource_of_mem_items {first row : Nat} {lines : List Bytes}
    (member : (row, item) ∈ builtins.parseTranscriptItems nativeThreadId first lines) :
    ∃ line ∈ lines, builtins.IdSource line item.itemId := by
  have kept := List.mem_of_mem_filter member
  obtain ⟨⟨parsed, number⟩, placed, made⟩ := List.mem_filterMap.mp kept
  obtain ⟨item', rfl, same⟩ := Option.map_eq_some_iff.mp made
  cases same
  exact idSource_parseLines (List.fst_mem_of_mem_zipIdx placed)

end Builtins

variable {id : String}

theorem kept_of_source (hex : builtins.HexDigests) {line : Bytes}
    (own : ∀ ownId ∈ builtins.ownItemId line, KeptByRedaction words ownId)
    (source : builtins.IdSource line id) : KeptByRedaction words id := by
  rcases source with named | ⟨kind, listed, parts, rfl⟩
  · exact own id named
  · exact kept_stableId words hex listed parts

theorem ne_empty_of_source {line : Bytes} (source : builtins.IdSource line id) :
    id ≠ "" := by
  rcases source with named | ⟨kind, listed, parts, rfl⟩
  · obtain ⟨row, -, found⟩ := Option.bind_eq_some_iff.mp named
    split_ifs at found
    simpa using (Option.filter_eq_some_iff.mp found).2
  · intro empty
    have length := congrArg (fun text => text.toList.length) empty
    simp [Builtins.stableId] at length

theorem lookup_redactMembers (limit : Option Nat) {key : String} (plain : isSensitiveKey key = false)
    (members : List (String × Json)) :
    (redactMembers words limit members).lookup key =
      (members.lookup key).map (redactPayloadValue words limit) := by
  induction members with
  | nil => rfl
  | cons member members ih =>
      obtain ⟨name, value⟩ := member
      rw [redactMembers, List.lookup_cons, List.lookup_cons]
      by_cases same : key = name
      · subst same
        rw [beq_self_eq_true, plain]
        rfl
      · rw [beq_eq_false_iff_ne.mpr same]
        exact ih

theorem storedItemId_of_lookup {event : StoredEvent}
    (found : event.payload.lookup "itemId" = some (.string id)) (some_ : id ≠ "") :
    storedItemId builtins event = some id := by
  have value : truthy (.string id) = true := by simp [truthy, some_]
  simp [storedItemId, firstTruthy, found, Option.filter, value, str]

theorem lookup_mapped (item : TranscriptItem) :
    ∀ mapped ∈ (backendEvent nativeThreadId item).mapped,
      mapped.2.lookup "itemId" = some (.string item.itemId) := by
  intro mapped member
  unfold backendEvent at member
  cases role : item.role <;> rw [role] at member <;>
    simp only [List.mem_cons, List.not_mem_nil, or_false] at member
  · subst member
    rfl
  · subst member
    rfl
  · rcases member with rfl | rfl <;> rfl
  · rcases member with rfl | rfl <;> rfl

def Carries (builtins : Builtins) (id : String) (events : List StoredEvent) : Prop :=
  ∀ event ∈ events, storedItemId builtins event = some id

structure Stores (before after : Mirror) (events : List StoredEvent) : Prop where
  file : after.file = before.file
  written : after.written = before.written
  events : after.events = before.events ++ events

theorem Stores.trans {before middle after : Mirror} {first second : List StoredEvent}
    (front : Stores before middle first) (back : Stores middle after second) :
    Stores before after (first ++ second) :=
  ⟨back.file.trans front.file, back.written.trans front.written, by
    rw [back.events, front.events, List.append_assoc]⟩

theorem stores_loaded (mirror : Mirror) :
    Stores mirror (loadPersistedSeenEventKeys words builtins mirror) [] := by
  unfold loadPersistedSeenEventKeys
  split_ifs <;> exact ⟨rfl, rfl, (List.append_nil _).symm⟩

theorem stores_rawFrame (turnId : String) (backend : BackendEvent) (mirror : Mirror) :
    Stores mirror (appendRawFrame nativeThreadId turnId backend mirror).1
      (appendRawFrame nativeThreadId turnId backend mirror).2 := by
  unfold appendRawFrame
  dsimp only
  split_ifs
  · exact ⟨rfl, rfl, (List.append_nil _).symm⟩
  · exact ⟨rfl, rfl, rfl⟩

theorem stores_mapped (turnId : String) (mirror : Mirror) (mapped : EventType × Dict) :
    Stores mirror (appendMapped words builtins nativeThreadId turnId mirror mapped).1
      (appendMapped words builtins nativeThreadId turnId mirror mapped).2 := by
  unfold appendMapped
  dsimp only
  split_ifs
  · exact ⟨rfl, rfl, (List.append_nil _).symm⟩
  · exact ⟨rfl, rfl, rfl⟩

theorem carries_mapped (turnId : String) (mirror : Mirror) {mapped : EventType × Dict}
    (kept : KeptByRedaction words id) (some_ : id ≠ "")
    (found : mapped.2.lookup "itemId" = some (.string id)) :
    Carries builtins id (appendMapped words builtins nativeThreadId turnId mirror mapped).2 := by
  unfold appendMapped
  dsimp only
  split_ifs
  · intro event member
    cases member
  · intro event member
    obtain rfl := List.mem_singleton.mp member
    apply storedItemId_of_lookup _ some_
    rw [redactPayload, lookup_redactMembers _ (by decide), List.lookup_append, found]
    exact congrArg some kept

theorem stores_allMapped (turnId : String) (mapped : List (EventType × Dict)) (mirror : Mirror) :
    Stores mirror (appendAllMapped words builtins nativeThreadId turnId mapped mirror).1
      (appendAllMapped words builtins nativeThreadId turnId mapped mirror).2 := by
  induction mapped generalizing mirror with
  | nil => exact ⟨rfl, rfl, (List.append_nil _).symm⟩
  | cons event mapped ih => exact (stores_mapped turnId mirror event).trans (ih _)

theorem carries_allMapped (turnId : String) (kept : KeptByRedaction words id)
    (some_ : id ≠ "") (mapped : List (EventType × Dict))
    (found : ∀ event ∈ mapped, event.2.lookup "itemId" = some (.string id)) (mirror : Mirror) :
    Carries builtins id (appendAllMapped words builtins nativeThreadId turnId mapped mirror).2 := by
  induction mapped generalizing mirror with
  | nil =>
      intro event member
      cases member
  | cons event mapped ih =>
      rw [List.forall_mem_cons] at found
      intro stored member
      rcases List.mem_append.mp member with here | later
      · exact carries_mapped turnId mirror kept some_ found.1 stored here
      · exact ih found.2 _ stored later

theorem appendBackendEvent_spec {item : TranscriptItem} (kept : KeptByRedaction words item.itemId)
    (some_ : item.itemId ≠ "") (mirror : Mirror) :
    ∃ raw, Stores mirror (appendBackendEvent words builtins nativeThreadId item mirror).1
        (raw ++ (appendBackendEvent words builtins nativeThreadId item mirror).2) ∧
      Carries builtins item.itemId
        (appendBackendEvent words builtins nativeThreadId item mirror).2 := by
  have loaded : Stores mirror (loadPersistedSeenEventKeys words builtins mirror) [] :=
    stores_loaded mirror
  have raw := loaded.trans
    (@stores_rawFrame nativeThreadId item.turnId (backendEvent nativeThreadId item) _)
  exact ⟨_, raw.trans (stores_allMapped item.turnId _ _),
    carries_allMapped item.turnId kept some_ _ (lookup_mapped item) _⟩

theorem storedItemId_corrected (itemId turnId : String) (event : StoredEvent) :
    storedItemId builtins (correctTurnId nativeThreadId itemId turnId event) =
      storedItemId builtins event := by
  have kept : ∀ key ∈ ["itemId", "item_id"],
      (correctedPayload event.payload turnId nativeThreadId).lookup key = event.payload.lookup key := by
    intro key listed
    have apart : key ≠ "native_turn_id" ∧ key ≠ "turnId" ∧ key ≠ "native_thread_id" ∧
        key ≠ "threadId" := by
      revert key
      decide
    unfold correctedPayload
    split_ifs
    · rw [lookup_set_of_ne _ apart.2.1, lookup_set_of_ne _ apart.1]
    · rw [lookup_set_of_ne _ apart.2.2.2, lookup_set_of_ne _ apart.2.2.1,
        lookup_set_of_ne _ apart.2.1, lookup_set_of_ne _ apart.1]
  unfold correctTurnId
  split_ifs
  · simp only [storedItemId, firstTruthy, List.findSome?_cons, List.findSome?_nil,
      kept "itemId" (by decide), kept "item_id" (by decide)]
  · rfl

theorem storedItemIds_corrected (itemId turnId : String) (events : List StoredEvent) :
    storedItemIds builtins (events.map (correctTurnId nativeThreadId itemId turnId)) =
      storedItemIds builtins events := by
  rw [storedItemIds, List.filterMap_map]
  apply List.filterMap_congr
  intro event _
  exact storedItemId_corrected itemId turnId event

/-- Every row that was written has the id that the whole file gives it, this id is in the
store, and no row was written twice. -/
structure Ledgered (builtins : Builtins) (nativeThreadId : String) (mirror : Mirror) : Prop where
  ended : mirror.file = [] ∨ ∃ front, mirror.file = front ++ [10]
  known : ∀ entry ∈ mirror.written,
    (mirror.rowIds builtins nativeThreadId)[entry.1]? = some (some entry.2.itemId) ∧
      entry.2.itemId ∈ storedItemIds builtins mirror.events
  once : (mirror.written.map Prod.fst).Nodup

theorem rowIds_congr {first second : Mirror} (file : first.file = second.file) :
    first.rowIds builtins nativeThreadId = second.rowIds builtins nativeThreadId := by
  rw [Mirror.rowIds, Mirror.rows, file]
  rfl

namespace Ledgered

variable {mirror : Mirror}

theorem congr {other : Mirror} (ledgered : Ledgered builtins nativeThreadId mirror)
    (file : other.file = mirror.file) (written : other.written = mirror.written)
    (events : storedItemIds builtins mirror.events ⊆ storedItemIds builtins other.events) :
    Ledgered builtins nativeThreadId other := by
  refine ⟨file ▸ ledgered.ended, fun entry member => ?_, written ▸ ledgered.once⟩
  rw [written] at member
  rw [rowIds_congr file]
  exact ⟨(ledgered.known entry member).1, events (ledgered.known entry member).2⟩

theorem appended (ledgered : Ledgered builtins nativeThreadId mirror) (line : Bytes) :
    Ledgered builtins nativeThreadId { mirror with file := mirror.file ++ line ++ [10] } := by
  have rows : ∃ more, splitlines (mirror.file ++ line ++ [10]) = splitlines mirror.file ++ more := by
    rcases ledgered.ended with empty | ⟨front, ended⟩
    · exact ⟨_, by rw [empty]; rfl⟩
    · refine ⟨splitlines (line ++ [10]), ?_⟩
      rw [ended, List.append_assoc, List.append_assoc]
      exact linesFrom_append false front (line ++ [10])
  obtain ⟨more, rows⟩ := rows
  refine ⟨.inr ⟨mirror.file ++ line, rfl⟩, fun entry member => ?_, ledgered.once⟩
  obtain ⟨found, stored⟩ := ledgered.known entry member
  refine ⟨?_, stored⟩
  obtain ⟨turn, split⟩ := @Builtins.lineIds_append builtins nativeThreadId
    (fallbackTurnId nativeThreadId) (splitlines mirror.file) more
  rw [Mirror.rowIds, Mirror.rows, rows, split]
  exact List.getElem?_append_left (List.getElem?_eq_some_iff.mp found).1 ▸ found

end Ledgered

/-- The ledger while `sync_thread` is at work; the local names know every id written. -/
structure Syncing (builtins : Builtins) (nativeThreadId : String) (start : Mirror)
    (state : Mirror × SyncLocals) : Prop where
  file : state.1.file = start.file
  ledgered : Ledgered builtins nativeThreadId state.1
  covered : ∀ entry ∈ state.1.written, entry.2.itemId ∈ state.2.existingItemIds

structure Placed (words : WordClass) (builtins : Builtins) (nativeThreadId : String) (start : Mirror)
    (entry : Nat × TranscriptItem) : Prop where
  row : (start.rowIds builtins nativeThreadId)[entry.1]? = some (some entry.2.itemId)
  kept : KeptByRedaction words entry.2.itemId
  nonempty : entry.2.itemId ≠ ""

variable {start mirror : Mirror} {locals : SyncLocals}

theorem syncing_revisit
    (syncing : Syncing builtins nativeThreadId start (mirror, locals)) (item : TranscriptItem) :
    Syncing builtins nativeThreadId start (revisitItem nativeThreadId item mirror locals) := by
  unfold revisitItem
  split_ifs
  · refine ⟨syncing.file, syncing.ledgered.congr rfl rfl ?_, syncing.covered⟩
    rw [storedItemIds_corrected]
    exact List.Subset.refl _
  · exact ⟨syncing.file, syncing.ledgered.congr rfl rfl (List.Subset.refl _), syncing.covered⟩

theorem syncing_known
    (syncing : Syncing builtins nativeThreadId start (mirror, locals)) (item : TranscriptItem) :
    Syncing builtins nativeThreadId start
      ({ mirror with seenItemIds := item.itemId :: mirror.seenItemIds }, locals.know item) :=
  ⟨syncing.file, syncing.ledgered.congr rfl rfl (List.Subset.refl _), fun entry member =>
    List.mem_cons_of_mem _ (syncing.covered entry member)⟩

variable {entry : Nat × TranscriptItem}

theorem row_unwritten (syncing : Syncing builtins nativeThreadId start (mirror, locals))
    (placed : Placed words builtins nativeThreadId start entry)
    (fresh : entry.2.itemId ∉ locals.existingItemIds) : entry.1 ∉ mirror.written.map Prod.fst := by
  intro member
  obtain ⟨earlier, written, same⟩ := List.mem_map.mp member
  have found := (syncing.ledgered.known earlier written).1
  rw [rowIds_congr syncing.file, same, placed.row, Option.some.injEq, Option.some.injEq] at found
  apply fresh
  rw [found]
  exact syncing.covered earlier written

theorem syncing_project (syncing : Syncing builtins nativeThreadId start (mirror, locals))
    (placed : Placed words builtins nativeThreadId start entry)
    (fresh : entry.2.itemId ∉ locals.existingItemIds) :
    Syncing builtins nativeThreadId start
      (projectItem words builtins nativeThreadId entry.1 entry.2 mirror locals) := by
  obtain ⟨raw, stores, carries⟩ := @appendBackendEvent_spec words builtins nativeThreadId entry.2
    placed.kept placed.nonempty mirror
  unfold projectItem
  dsimp only
  generalize appendBackendEvent words builtins nativeThreadId entry.2 mirror = projected at *
  have more : storedItemIds builtins mirror.events ⊆ storedItemIds builtins projected.1.events := by
    rw [stores.events, storedItemIds, storedItemIds, List.filterMap_append]
    exact List.subset_append_left _ _
  have ledgered : Ledgered builtins nativeThreadId projected.1 :=
    syncing.ledgered.congr stores.file stores.written more
  have covered : ∀ written ∈ mirror.written, written.2.itemId ∈ (locals.know entry.2).existingItemIds :=
    fun written member => List.mem_cons_of_mem _ (syncing.covered written member)
  by_cases nothing : projected.2 = []
  · rw [if_pos nothing]
    refine ⟨stores.file.trans syncing.file, ledgered.congr rfl rfl (List.Subset.refl _), ?_⟩
    rw [stores.written]
    exact covered
  · rw [if_neg nothing]
    obtain ⟨event, member⟩ := List.exists_mem_of_ne_nil projected.2 nothing
    have stored : entry.2.itemId ∈ storedItemIds builtins projected.1.events := by
      rw [stores.events]
      exact List.mem_filterMap.mpr ⟨event, by simp [member], carries event member⟩
    refine ⟨stores.file.trans syncing.file, ⟨ledgered.ended, ?_, ?_⟩, ?_⟩
    · intro written inside
      rcases List.mem_append.mp inside with earlier | new
      · exact ledgered.known written earlier
      · obtain rfl := List.mem_singleton.mp new
        refine ⟨?_, stored⟩
        exact (rowIds_congr (stores.file.trans syncing.file)).symm ▸ placed.row
    · rw [List.map_append, stores.written]
      exact syncing.ledgered.once.append (List.nodup_singleton _)
        (List.disjoint_singleton.mpr (row_unwritten syncing placed fresh))
    · intro written inside
      rcases List.mem_append.mp inside with earlier | new
      · rw [stores.written] at earlier
        exact covered written earlier
      · obtain rfl := List.mem_singleton.mp new
        exact List.mem_cons_self

theorem syncing_item {state : Mirror × SyncLocals} (syncing : Syncing builtins nativeThreadId start state)
    (placed : Placed words builtins nativeThreadId start entry) :
    Syncing builtins nativeThreadId start (syncItem words builtins nativeThreadId state entry) := by
  unfold syncItem
  dsimp only
  split_ifs with seen echoed
  · exact syncing_revisit syncing entry.2
  · exact syncing_known syncing entry.2
  · exact syncing_project syncing placed fun known => seen (.inr known)

def KeepsTurns (words : WordClass) (builtins : Builtins) (mirror : Mirror) : MirrorStep → Prop
  | .sync tailLines => mirror.WindowSettled builtins tailLines ∧
      ∀ line ∈ mirror.window tailLines, ∀ id ∈ builtins.ownItemId line, KeptByRedaction words id
  | _ => True

instance (mirror : Mirror) (tailLines : Option Int) :
    Decidable (mirror.WindowSettled builtins tailLines) :=
  inferInstanceAs (Decidable (_ ∨ _))

instance (mirror : Mirror) : (step : MirrorStep) → Decidable (KeepsTurns words builtins mirror step)
  | .sync _ => inferInstanceAs (Decidable (_ ∧ _))
  | .append _ => isTrue trivial
  | .restart _ _ => isTrue trivial
  | .outside _ => isTrue trivial

theorem ledgered_sync (hex : builtins.HexDigests) {tailLines : Option Int}
    (ledgered : Ledgered builtins nativeThreadId mirror)
    (keeps : KeepsTurns words builtins mirror (.sync tailLines)) :
    Ledgered builtins nativeThreadId
      (mirror.syncThread words builtins nativeThreadId tailLines) := by
  have placed : ∀ entry ∈ mirror.windowItems builtins nativeThreadId tailLines,
      Placed words builtins nativeThreadId mirror entry := by
    intro entry member
    obtain ⟨line, inside, source⟩ := Builtins.idSource_of_mem_items member
    exact ⟨rowIds_of_mem_windowItems keeps.1 member, kept_of_source hex (keeps.2 line inside) source,
      ne_empty_of_source source⟩
  have loop : ∀ (entries : List (Nat × TranscriptItem)) (state : Mirror × SyncLocals),
      (∀ entry ∈ entries, Placed words builtins nativeThreadId mirror entry) →
      Syncing builtins nativeThreadId mirror state →
      Syncing builtins nativeThreadId mirror
        (entries.foldl (syncItem words builtins nativeThreadId) state) := by
    intro entries
    induction entries with
    | nil => exact fun state _ syncing => syncing
    | cons entry entries ih =>
        intro state each syncing
        rw [List.forall_mem_cons] at each
        exact ih _ each.2 (syncing_item syncing each.1)
  apply (loop _ _ placed _).ledgered
  exact ⟨rfl, ledgered, fun entry member => (ledgered.known entry member).2⟩

theorem ledgered_step (hex : builtins.HexDigests) (mirror : Mirror) (step : MirrorStep)
    (ledgered : Ledgered builtins nativeThreadId mirror) (keeps : KeepsTurns words builtins mirror step) :
    Ledgered builtins nativeThreadId (mirrorStep words builtins nativeThreadId mirror step) := by
  cases step with
  | append line => exact ledgered.appended line
  | sync tailLines => exact ledgered_sync hex ledgered keeps
  | restart tailLines maxBytes => exact ledgered.congr rfl rfl (List.Subset.refl _)
  | outside event =>
      refine ledgered.congr rfl rfl ?_
      rw [storedItemIds, storedItemIds, mirrorStep, List.filterMap_append]
      exact List.subset_append_left _ _

theorem ledgered_fresh (tailLines maxBytes : Int) :
    Ledgered builtins nativeThreadId (Mirror.fresh tailLines maxBytes) :=
  ⟨.inl rfl, fun entry member => (List.not_mem_nil member).elim, List.nodup_nil⟩

/-- In a run that loses no turn each row is written as a message event at most once, under the
id that the whole file gives it. -/
theorem rows_written_once (words : WordClass) (builtins : Builtins) (hex : builtins.HexDigests)
    (nativeThreadId : String) (tailLines maxBytes : Int) (steps : List MirrorStep)
    (keeps : Along (mirrorStep words builtins nativeThreadId) (KeepsTurns words builtins)
      (Mirror.fresh tailLines maxBytes) steps) :
    let mirror := steps.foldl (mirrorStep words builtins nativeThreadId)
      (Mirror.fresh tailLines maxBytes)
    (mirror.written.map Prod.fst).Nodup ∧ ∀ entry ∈ mirror.written,
      (mirror.rowIds builtins nativeThreadId)[entry.1]? = some (some entry.2.itemId) := by
  have ledgered : Ledgered builtins nativeThreadId (steps.foldl
      (mirrorStep words builtins nativeThreadId) (Mirror.fresh tailLines maxBytes)) :=
    invariant_foldl (ledgered_step hex) (ledgered_fresh tailLines maxBytes) keeps
  exact ⟨ledgered.once, fun entry member => (ledgered.known entry member).1⟩

def sampleBuiltins : Builtins where
  repr _ := ""
  digest text :=
    if text = "thread-1\x00turn-1\x00done" then "f9942082166b58f0734cb9d2"
    else if text = "thread-1\x00jsonl-tail:thread-1\x00done" then "3194fa5362a64feafc7586c1"
    else "000000000000000000000000"
  decode bytes := bytes.map fun byte => Char.ofNat byte.toNat

def jsonLine (row : Dict) : Bytes := Bytes.ofText (Json.write .compact (.object row))

def turnContext : Bytes :=
  jsonLine [("type", .string "turn_context"), ("payload", .object [("turn_id", .string "turn-1")])]

def assistantAnswer : Bytes :=
  jsonLine [("type", .string "response_item"), ("payload", .object [("type", .string "message"),
    ("role", .string "assistant"), ("content", .string "done")])]

def shrinkingWindow : Mirror :=
  [MirrorStep.append turnContext, .append assistantAnswer, .sync none, .sync (some 1)].foldl
    (mirrorStep plainWords sampleBuiltins "thread-1") (Mirror.fresh 2000 8000000)

/-- The answer is written under the turn of the line before it, and once more when the window
is down to one line. -/
theorem shorter_window_repeats_answer :
    shrinkingWindow.written.map (fun entry => (entry.1, entry.2.turnId, entry.2.itemId)) =
        [(1, "turn-1", "jsonl-assistant-final:f9942082166b58f0734cb9d2"),
          (1, "jsonl-tail:thread-1", "jsonl-assistant-final:3194fa5362a64feafc7586c1")] ∧
      ¬(shrinkingWindow.written.map Prod.fst).Nodup := by
  decide +kernel

theorem sample_hexDigests : sampleBuiltins.HexDigests := by
  constructor
  · intro text
    change (ite _ _ _ : String).toList.length = 24
    split_ifs <;> rfl
  · intro text c member
    have digits : ((sampleBuiltins.digest text).toList.all fun c => hexDigits.contains c) = true := by
      change ((ite _ _ _ : String).toList.all fun c => hexDigits.contains c) = true
      split_ifs <;> rfl
    exact List.contains_iff_mem.mp (List.all_eq_true.mp digits c member)

theorem answer_written_once :
    (([MirrorStep.append turnContext, .append assistantAnswer, .sync none, .restart 2 1024,
      .sync (some 2)].foldl (mirrorStep plainWords sampleBuiltins "thread-1")
        (Mirror.fresh 2000 8000000)).written.map Prod.fst).Nodup :=
  (rows_written_once plainWords sampleBuiltins sample_hexDigests "thread-1" 2000 8000000
    [.append turnContext, .append assistantAnswer, .sync none, .restart 2 1024, .sync (some 2)]
    (by decide +kernel)).1

end Wlcodex.Codex
