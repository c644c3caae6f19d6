import Mathlib.Algebra.BigOperators.Group.List.Basic
import Mathlib.Algebra.Order.BigOperators.Group.List
import Mathlib.Data.List.Induction
import Wlcodex.Relay.TokenStats

namespace Wlcodex.Relay.TokenStats

open Wlcodex.Lib

/-! What the statistics of a task count. -/

theorem sum_addToBucket {figure : Bucket → Int} {agent : String} {added : AddedRow} {amount : Int}
    (fresh : figure (.empty agent) = 0) (step : ∀ bucket, figure (bucket.add added) = figure bucket + amount)
    (buckets : List Bucket) :
    ((addToBucket agent added buckets).map figure).sum = (buckets.map figure).sum + amount := by
  induction buckets with
  | nil =>
      have first : figure ((Bucket.empty agent).add added) = amount := by rw [step, fresh, zero_add]
      simpa [addToBucket] using first
  | cons bucket rest ih =>
      rw [addToBucket]
      split
      · rw [List.map_cons, List.map_cons, List.sum_cons, List.sum_cons, step]
        omega
      · rw [List.map_cons, List.map_cons, List.sum_cons, List.sum_cons, ih]
        omega

structure Balanced (stats : Stats) : Prop where
  today : stats.consumedTokens = (stats.agents.map Bucket.todayTokens).sum
  total : stats.totalConsumedTokens = (stats.agents.map Bucket.totalTokens).sum

section Balance

variable {builtins : Builtins} {stats : Stats}

theorem Balanced.addRow (balanced : Balanced stats) (added : AddedRow) : Balanced (addRow builtins stats added) := by
  unfold TokenStats.addRow
  split
  · exact balanced
  · refine ⟨?_, ?_⟩
    · rw [sum_addToBucket rfl fun _ => rfl, ← balanced.today]
    · rw [sum_addToBucket rfl fun _ => rfl, ← balanced.total]

theorem balanced_statsOf (rows : List (Source × AddedRow)) : Balanced (statsOf builtins rows) := by
  have start : Balanced ⟨0, 0, []⟩ := ⟨rfl, rfl⟩
  have all : ∀ stats, Balanced stats →
      Balanced (rows.foldl (fun stats row => TokenStats.addRow builtins stats row.2) stats) := by
    induction rows with
    | nil => exact fun _ balanced => balanced
    | cons row rest ih => exact fun stats balanced => ih _ (balanced.addRow row.2)
  obtain ⟨today, total⟩ := all _ start
  have sorted := List.perm_insertionSort (fun first second : Bucket => first.precedes second = true)
    (rows.foldl (fun stats row => TokenStats.addRow builtins stats row.2) ⟨0, 0, []⟩).agents
  exact ⟨today.trans (sorted.map _).sum_eq.symm, total.trans (sorted.map _).sum_eq.symm⟩

end Balance

def newest? (key : TurnKey) (turns : List (TurnKey × TurnUsage)) : Option TurnUsage :=
  (turns.reverse.find? fun turn => turn.1 = key).map Prod.snd

theorem newest?_concat (key : TurnKey) (turns : List (TurnKey × TurnUsage)) (turn : TurnKey × TurnUsage) :
    newest? key (turns ++ [turn]) = if turn.1 = key then some turn.2 else newest? key turns := by
  unfold newest?
  rw [List.reverse_append, List.reverse_singleton, List.singleton_append, List.find?_cons]
  by_cases same : turn.1 = key
  · rw [decide_eq_true same, if_pos same]
    rfl
  · rw [decide_eq_false same, if_neg same]

theorem mem_assignTurn {latest : List (TurnKey × TurnUsage)} {turn entry : TurnKey × TurnUsage} :
    entry ∈ assignTurn latest turn ↔ if turn.1 = entry.1 then entry = turn else entry ∈ latest := by
  unfold assignTurn
  split
  · rename_i taken
    rw [List.mem_map]
    constructor
    · rintro ⟨old, member, rfl⟩
      by_cases same : old.1 = turn.1
      · rw [if_pos same, if_pos rfl]
      · rw [if_neg same, if_neg (Ne.symm same)]
        exact member
    · intro holds
      split at holds
      · subst holds
        obtain ⟨old, member, same⟩ := List.any_eq_true.mp taken
        exact ⟨old, member, if_pos (of_decide_eq_true same)⟩
      · rename_i other
        exact ⟨entry, holds, if_neg (Ne.symm other)⟩
  · rename_i free
    have absent : ∀ old ∈ latest, old.1 ≠ turn.1 := by
      intro old member same
      exact free (List.any_eq_true.mpr ⟨old, member, decide_eq_true same⟩)
    rw [List.mem_append, List.mem_singleton]
    split
    · rename_i same
      exact or_iff_right fun member => absent entry member same.symm
    · rename_i other
      refine or_iff_left ?_
      rintro rfl
      exact other rfl

theorem nodup_assignTurn {latest : List (TurnKey × TurnUsage)} (distinct : (latest.map Prod.fst).Nodup)
    (turn : TurnKey × TurnUsage) : ((assignTurn latest turn).map Prod.fst).Nodup := by
  unfold assignTurn
  split
  · have kept : (latest.map fun entry => if entry.1 = turn.1 then turn else entry).map Prod.fst = latest.map Prod.fst := by
      rw [List.map_map]
      refine List.map_congr_left fun entry _ => ?_
      by_cases same : entry.1 = turn.1
      · exact (congrArg Prod.fst (if_pos same)).trans same.symm
      · exact congrArg Prod.fst (if_neg same)
    rw [kept]
    exact distinct
  · rename_i free
    rw [List.map_append, List.map_singleton]
    refine List.Nodup.append distinct (List.nodup_singleton _) ?_
    intro key listed same
    obtain ⟨old, member, rfl⟩ := List.mem_map.mp listed
    exact free (List.any_eq_true.mpr ⟨old, member, decide_eq_true (List.mem_singleton.mp same)⟩)

theorem latest_spec (turns : List (TurnKey × TurnUsage)) :
    ((turns.foldl assignTurn []).map Prod.fst).Nodup ∧
      ∀ entry, entry ∈ turns.foldl assignTurn [] ↔ newest? entry.1 turns = some entry.2 := by
  induction turns using List.reverseRecOn with
  | nil => exact ⟨List.nodup_nil, fun entry => iff_of_false List.not_mem_nil nofun⟩
  | append_singleton turns turn ih =>
      rw [List.foldl_append, List.foldl_cons, List.foldl_nil]
      refine ⟨nodup_assignTurn ih.1 turn, fun entry => ?_⟩
      rw [mem_assignTurn, newest?_concat, ih.2]
      by_cases same : turn.1 = entry.1
      · rw [if_pos same, if_pos same, Option.some.injEq]
        exact ⟨fun equal => equal ▸ rfl, fun equal => Prod.ext same.symm equal.symm⟩
      · rw [if_neg same, if_neg same]

theorem countP_flatMap_of_unique {ρ β κ : Type*} [DecidableEq κ] {key : ρ → κ} {copies : ρ → List β} {tag : β → κ}
    (tagged : ∀ row, ∀ copy ∈ copies row, tag copy = key row) {rows : List ρ}
    (unique : rows.Pairwise fun first second => key first ≠ key second) {row : ρ} (member : row ∈ rows) :
    (rows.flatMap copies).countP (fun copy => tag copy = key row) = (copies row).length := by
  have others : ∀ other, key other ≠ key row → (copies other).countP (fun copy => tag copy = key row) = 0 := by
    intro other different
    refine List.countP_eq_zero.mpr fun copy listed same => different ?_
    rw [← tagged other copy listed]
    exact of_decide_eq_true same
  have itself : (copies row).countP (fun copy => tag copy = key row) = (copies row).length :=
    List.countP_eq_length.mpr fun copy listed => decide_eq_true (tagged row copy listed)
  induction rows with
  | nil => cases member
  | cons head rest ih =>
      rw [List.flatMap_cons, List.countP_append]
      obtain ⟨apart, unique⟩ := List.pairwise_cons.mp unique
      rcases List.mem_cons.mp member with rfl | later
      · have none_ : (rest.flatMap copies).countP (fun copy => tag copy = key row) = 0 := by
          refine List.countP_eq_zero.mpr fun copy listed => ?_
          obtain ⟨other, inside, listed⟩ := List.mem_flatMap.mp listed
          exact List.countP_eq_zero.mp (others other (apart other inside).symm) copy listed
        rw [itself, none_, Nat.add_zero]
      · rw [others head (apart row later), ih unique later, Nat.zero_add]

theorem countP_eq_one_iff {κ υ : Type*} {entries : List (κ × υ)} (distinct : (entries.map Prod.fst).Nodup)
    {chosen : κ × υ → Bool} {entry : κ × υ} (member : entry ∈ entries) (picked : chosen entry) :
    entries.countP chosen = 1 ↔ ∀ other ∈ entries, chosen other → other.1 = entry.1 := by
  have listed : entry ∈ entries.filter chosen := List.mem_filter.mpr ⟨member, picked⟩
  have apart : ((entries.filter chosen).map Prod.fst).Nodup :=
    distinct.sublist ((List.filter_sublist).map Prod.fst)
  rw [List.countP_eq_length_filter]
  constructor
  · intro one other inside taken
    obtain ⟨only, same⟩ := List.length_eq_one_iff.mp one
    have otherListed : other ∈ entries.filter chosen := List.mem_filter.mpr ⟨inside, taken⟩
    rw [same] at listed otherListed
    rw [List.mem_singleton.mp listed, List.mem_singleton.mp otherListed]
  · intro alone
    have keys : ∀ key ∈ (entries.filter chosen).map Prod.fst, key = entry.1 := by
      intro key inside
      obtain ⟨other, picked, rfl⟩ := List.mem_map.mp inside
      obtain ⟨otherMember, taken⟩ := List.mem_filter.mp picked
      exact alone other otherMember taken
    have replicated := List.eq_replicate_of_mem keys
    rw [List.length_map] at replicated
    rw [replicated] at apart
    have atMost := List.nodup_replicate.mp apart
    have atLeast := List.length_pos_of_mem listed
    omega

def carried (builtins : Builtins) (payload : Dict) (spellings : List String) : List Int :=
  (spellings.filterMap (numberAt builtins payload)).filter (· ≠ 0)

structure Field where
  keys : List String
  counts : List (List String)
  perm : counts.flatten.Perm keys
  read : Tokens → Int

def totalField : Field := ⟨totalKeys, [totalKeys], by decide, Tokens.total⟩

def inputField : Field := ⟨inputKeys, [inputKeys], by decide, Tokens.input⟩

def outputField : Field := ⟨outputKeys, [outputKeys], by decide, Tokens.output⟩

def cachedInputField : Field where
  keys := cachedInputKeys
  counts := [["cached_input_tokens", "cachedInputTokens"], ["cache_read_input_tokens", "cacheReadInputTokens"],
    ["cache_creation_input_tokens", "cacheCreationInputTokens"]]
  perm := by decide
  read := Tokens.cachedInput

def reasoningOutputField : Field :=
  ⟨reasoningOutputKeys, [reasoningOutputKeys], by decide, Tokens.reasoningOutput⟩

def fields : List Field := [totalField, inputField, outputField, cachedInputField, reasoningOutputField]

section Spellings

variable (builtins : Builtins)

def Agrees (payload : Dict) (field : Field) : Prop :=
  ∀ spellings ∈ field.counts, ∀ number ∈ carried builtins payload spellings,
    0 < number ∧ ∀ other ∈ carried builtins payload spellings, other = number

def onceOf (payload : Dict) (field : Field) : Int :=
  (field.counts.map fun spellings => (carried builtins payload spellings).head?.getD 0).sum

def Contributes (payload : Dict) (tokens : Tokens) : Prop :=
  ∀ candidate, usagePayloadCandidate builtins payload = some candidate →
    ∀ field ∈ fields, Agrees builtins candidate field → 0 < onceOf builtins candidate field →
      field.read tokens = onceOf builtins candidate field

def SpelledOnce (payload : Dict) : Prop :=
  ∀ candidate, usagePayloadCandidate builtins payload = some candidate →
    ∀ field ∈ fields, Agrees builtins candidate field →
      ∀ spellings ∈ field.counts, (carried builtins candidate spellings).length ≤ 1

end Spellings

section Contributions

variable {builtins : Builtins} {payload : Dict}

theorem sum_filter_ne_zero (numbers : List Int) : (numbers.filter (· ≠ 0)).sum = numbers.sum := by
  induction numbers with
  | nil => rfl
  | cons number rest ih =>
      rw [List.filter_cons]
      split
      · rw [List.sum_cons, List.sum_cons, ih]
      · rename_i zero
        rw [List.sum_cons, ih, not_not.mp (fun nonzero => zero (decide_eq_true nonzero)), zero_add]

theorem filterMap_of_mapM {α β : Type*} {read : α → Option β} {items : List α} {values : List β}
    (all : items.mapM read = some values) : items.filterMap read = values := by
  induction items generalizing values with
  | nil => exact Option.some.inj all
  | cons item rest ih =>
      rw [List.mapM_cons] at all
      obtain ⟨value, first, all⟩ := Option.bind_eq_some_iff.mp all
      obtain ⟨later, others, all⟩ := Option.bind_eq_some_iff.mp all
      cases all
      rw [List.filterMap_cons_some first, ih others]

theorem sum_of_agreeing {numbers : List Int}
    (agree : ∀ number ∈ numbers, 0 < number ∧ ∀ other ∈ numbers, other = number) :
    0 ≤ numbers.head?.getD 0 ∧ numbers.head?.getD 0 ≤ numbers.sum ∧
      (numbers.sum = numbers.head?.getD 0 ↔ numbers.length ≤ 1) := by
  cases numbers with
  | nil => exact ⟨le_rfl, le_rfl, iff_of_true rfl (Nat.zero_le 1)⟩
  | cons first rest =>
      obtain ⟨positive, same⟩ := agree first List.mem_cons_self
      have others : 0 ≤ rest.sum ∧ (rest.sum = 0 ↔ rest = []) := by
        have each : ∀ number ∈ rest, 0 < number := fun number listed => (agree number (List.mem_cons_of_mem _ listed)).1
        cases rest with
        | nil => exact ⟨le_rfl, iff_of_true rfl rfl⟩
        | cons second later =>
            have nonneg : 0 ≤ later.sum :=
              List.sum_nonneg fun number listed => (each number (List.mem_cons_of_mem _ listed)).le
            have second_ := each second List.mem_cons_self
            rw [List.sum_cons]
            exact ⟨by omega, iff_of_false (by omega) nofun⟩
      rw [List.head?_cons, Option.getD_some, List.sum_cons, List.length_cons]
      rw [Nat.succ_le_succ_iff, Nat.le_zero, List.length_eq_zero_iff, ← others.2]
      omega

theorem sum_map_eq_iff {α : Type*} {items : List α} {less more : α → Int} (le : ∀ item ∈ items, less item ≤ more item) :
    (items.map less).sum ≤ (items.map more).sum ∧
      ((items.map more).sum = (items.map less).sum ↔ ∀ item ∈ items, more item = less item) := by
  induction items with
  | nil => exact ⟨le_rfl, iff_of_true rfl nofun⟩
  | cons item rest ih =>
      obtain ⟨atMost, same⟩ := ih fun other listed => le other (List.mem_cons_of_mem _ listed)
      have first := le item List.mem_cons_self
      simp only [List.map_cons, List.sum_cons, List.forall_mem_cons, ← same]
      omega

variable {field : Field}

theorem payloadInt_field {figure : Int} (read : payloadInt builtins payload field.keys = some figure) :
    figure = max 0 (field.counts.map fun spellings => (carried builtins payload spellings).sum).sum := by
  obtain ⟨numbers, numbered, rfl⟩ := Option.map_eq_some_iff.mp read
  have each := filterMap_of_mapM numbered
  have parts : (field.counts.map fun spellings => (carried builtins payload spellings).sum).sum =
      (field.counts.flatten.filterMap (numberAt builtins payload)).sum := by
    rw [List.filterMap_flatten, List.sum_flatten, List.map_map]
    refine congrArg List.sum (List.map_congr_left fun spellings _ => ?_)
    exact sum_filter_ne_zero _
  rw [parts, (field.perm.filterMap _).sum_eq, each]

theorem once_iff (agrees : Agrees builtins payload field) :
    0 ≤ onceOf builtins payload field ∧
      onceOf builtins payload field ≤ (field.counts.map fun spellings => (carried builtins payload spellings).sum).sum ∧
      ((field.counts.map fun spellings => (carried builtins payload spellings).sum).sum = onceOf builtins payload field ↔
        ∀ spellings ∈ field.counts, (carried builtins payload spellings).length ≤ 1) := by
  have atMost : ∀ spellings ∈ field.counts,
      (carried builtins payload spellings).head?.getD 0 ≤ (carried builtins payload spellings).sum :=
    fun spellings listed => (sum_of_agreeing (agrees spellings listed)).2.1
  have compared := sum_map_eq_iff atMost
  refine ⟨List.sum_nonneg ?_, compared.1, compared.2.trans (forall₂_congr fun spellings listed =>
    (sum_of_agreeing (agrees spellings listed)).2.2)⟩
  intro number listed
  obtain ⟨spellings, inside, rfl⟩ := List.mem_map.mp listed
  exact (sum_of_agreeing (agrees spellings inside)).1

theorem length_of_once (agrees : Agrees builtins payload field) (none_ : onceOf builtins payload field ≤ 0) :
    ∀ spellings ∈ field.counts, (carried builtins payload spellings).length ≤ 1 := by
  have nonneg : ∀ spellings ∈ field.counts, 0 ≤ (carried builtins payload spellings).head?.getD 0 :=
    fun spellings listed => (sum_of_agreeing (agrees spellings listed)).1
  have zero : (field.counts.map fun _ => (0 : Int)).sum = 0 := by
    simp
  obtain ⟨atLeast, each⟩ := sum_map_eq_iff nonneg
  rw [zero] at atLeast each
  intro spellings listed
  have head := each.mp (le_antisymm none_ atLeast) spellings listed
  cases numbers : carried builtins payload spellings with
  | nil => exact Nat.zero_le 1
  | cons first rest =>
      rw [numbers] at head
      have positive := (agrees spellings listed first (numbers ▸ List.mem_cons_self)).1
      exact absurd head positive.ne'

theorem usageTokens_spec {tokens : Tokens} (read : usageTokensFromPayload builtins payload = some tokens) :
    ∃ candidate, usagePayloadCandidate builtins payload = some candidate ∧
      ∀ field ∈ fields, ∃ figure, payloadInt builtins candidate field.keys = some figure ∧
        (0 < figure → field.read tokens = figure) := by
  obtain ⟨candidate, chosen, read⟩ := Option.bind_eq_some_iff.mp read
  obtain ⟨input, inputRead, read⟩ := Option.bind_eq_some_iff.mp read
  obtain ⟨output, outputRead, read⟩ := Option.bind_eq_some_iff.mp read
  obtain ⟨cachedInput, cachedRead, read⟩ := Option.bind_eq_some_iff.mp read
  obtain ⟨reasoning, reasoningRead, read⟩ := Option.bind_eq_some_iff.mp read
  obtain ⟨total, totalRead, read⟩ := Option.bind_eq_some_iff.mp read
  cases read
  refine ⟨candidate, chosen, ?_⟩
  simp only [fields, List.forall_mem_cons]
  refine ⟨⟨total, totalRead, fun positive => if_neg positive.not_ge⟩, ⟨input, inputRead, fun _ => rfl⟩,
    ⟨output, outputRead, fun _ => rfl⟩, ⟨cachedInput, cachedRead, fun _ => rfl⟩,
    ⟨reasoning, reasoningRead, fun _ => rfl⟩, nofun⟩

theorem contributes_iff {tokens : Tokens} (read : usageTokensFromPayload builtins payload = some tokens) :
    Contributes builtins payload tokens ↔ SpelledOnce builtins payload := by
  obtain ⟨candidate, chosen, figures⟩ := usageTokens_spec read
  unfold Contributes SpelledOnce
  simp only [chosen, Option.some.injEq, forall_eq']
  refine forall₂_congr fun field listed => forall_congr' fun agrees => ?_
  obtain ⟨figure, isFigure, readOff⟩ := figures field listed
  have adds := payloadInt_field isFigure
  obtain ⟨nonneg, atMost, same⟩ := once_iff agrees
  rw [max_eq_right (nonneg.trans atMost)] at adds
  rw [← adds] at atMost same
  constructor
  · intro contributes
    rcases lt_or_ge 0 (onceOf builtins candidate field) with positive | none_
    · exact same.mp ((readOff (positive.trans_le atMost)).symm.trans (contributes positive))
    · exact length_of_once agrees none_
  · intro once positive
    have equal := same.mpr once
    exact (readOff (equal ▸ positive)).trans equal

end Contributions

section Records

variable (builtins : Builtins) (tables : Tables) (task : Nat)

/-- The event is the newest of a turn that no row of `usage_events` names. -/
def IsOpen (row : RuntimeRow) (key : TurnKey) : Prop :=
  (∃ usage, newest? key (turnRows builtins tables task) = some usage ∧ usage.eventId = row.id) ∧
    key ∉ usageTurnKeys builtins tables task

/-- The totals are the sums of the agents' figures; each record is added once, and each count of it
contributes once. -/
structure Exact (added : List (Source × AddedRow)) : Prop where
  balanced : Balanced (statsOf builtins added)
  usage : ∀ row ∈ tables.usageEvents, tables.joined task row.taskId row.agentRunId ≠ [] →
    added.countP (·.1 = .usage row.id) = 1
  runtime : ∀ row ∈ tables.runtimeEvents, (∃ key, IsOpen builtins tables task row key) →
    added.countP (·.1 = .runtime row.id) = 1
  counts : ∀ row ∈ tables.runtimeEvents, ∀ entry ∈ added, entry.1 = .runtime row.id →
    Contributes builtins row.payload entry.2.tokens

/-- No record has two rows in the join that are added, and none of them a count under two spellings. -/
structure Single : Prop where
  usage : ∀ row ∈ tables.usageEvents, (tables.joined task row.taskId row.agentRunId).length ≤ 1
  runtime : ∀ row ∈ tables.runtimeEvents, ∀ first second, IsOpen builtins tables task row first →
    IsOpen builtins tables task row second → first = second
  spellings : ∀ row ∈ tables.runtimeEvents, (∃ key, IsOpen builtins tables task row key) →
    SpelledOnce builtins row.payload

end Records

section Added

variable {builtins : Builtins} {tables : Tables} {task : Nat} {added : List (Source × AddedRow)}

theorem map_of_mapM {α β γ : Type*} {read : α → Option β} {before : α → γ} {after : β → γ}
    (keeps : ∀ item value, read item = some value → after value = before item) {items : List α} {values : List β}
    (all : items.mapM read = some values) : values.map after = items.map before := by
  induction items generalizing values with
  | nil =>
      cases all
      rfl
  | cons item rest ih =>
      rw [List.mapM_cons] at all
      obtain ⟨value, first, all⟩ := Option.bind_eq_some_iff.mp all
      obtain ⟨later, others, all⟩ := Option.bind_eq_some_iff.mp all
      cases all
      rw [List.map_cons, List.map_cons, keeps item value first, ih others]

theorem openTurns_spec :
    ((openTurns builtins tables task).map Prod.fst).Nodup ∧
      ∀ entry, entry ∈ openTurns builtins tables task ↔
        newest? entry.1 (turnRows builtins tables task) = some entry.2 ∧ entry.1 ∉ usageTurnKeys builtins tables task := by
  obtain ⟨distinct, members⟩ := latest_spec (turnRows builtins tables task)
  refine ⟨distinct.sublist (List.filter_sublist.map _), fun entry => ?_⟩
  unfold openTurns latestRuntimeByTurn
  rw [List.mem_filter, members, decide_eq_true_eq]

variable {row : RuntimeRow} {key : TurnKey}

theorem isOpen_iff :
    IsOpen builtins tables task row key ↔
      ∃ entry ∈ openTurns builtins tables task, entry.2.eventId = row.id ∧ entry.1 = key := by
  constructor
  · rintro ⟨⟨usage, newest, same⟩, unnamed⟩
    exact ⟨(key, usage), (openTurns_spec.2 _).mpr ⟨newest, unnamed⟩, same, rfl⟩
  · rintro ⟨entry, member, same, rfl⟩
    obtain ⟨newest, unnamed⟩ := (openTurns_spec.2 entry).mp member
    exact ⟨⟨entry.2, newest, same⟩, unnamed⟩

theorem openTurns_origin {entry : TurnKey × TurnUsage} (member : entry ∈ openTurns builtins tables task) :
    ∃ row ∈ tables.runtimeEvents, entry.2.eventId = row.id ∧ entry.2.payload = row.payload := by
  have newest := ((openTurns_spec.2 entry).mp member).1
  obtain ⟨turn, found, same⟩ := Option.map_eq_some_iff.mp newest
  obtain ⟨row, listed, copied⟩ := List.mem_flatMap.mp (List.mem_reverse.mp (List.mem_of_find?_eq_some found))
  obtain ⟨job, -, rfl⟩ := List.mem_map.mp copied
  rw [← same]
  exact ⟨row, Keyed.mem_ordered.mp (List.mem_filter.mp listed).1, rfl, rfl⟩

section

variable (returned : addedRows? builtins tables task = some added)

include returned

theorem sources_of_added :
    added.map Prod.fst = (usageRows tables task).map (fun copy => Source.usage copy.1.id) ++
      (openTurns builtins tables task).map fun entry => Source.runtime entry.2.eventId := by
  obtain ⟨turns, all, rfl⟩ := Option.map_eq_some_iff.mp returned
  rw [List.map_append, List.map_map]
  congr 1
  refine map_of_mapM (fun entry value read => ?_) all
  obtain ⟨row, -, rfl⟩ := Option.map_eq_some_iff.mp read
  rfl

theorem countP_source (source : Source) :
    added.countP (·.1 = source) =
      (usageRows tables task).countP (fun copy => Source.usage copy.1.id = source) +
        (openTurns builtins tables task).countP fun entry => Source.runtime entry.2.eventId = source := by
  have sources := congrArg (List.countP fun other => decide (other = source)) (sources_of_added returned)
  rw [List.countP_append, List.countP_map, List.countP_map, List.countP_map] at sources
  exact sources

theorem countP_usage {row : UsageRow} (member : row ∈ tables.usageEvents) :
    added.countP (·.1 = .usage row.id) = (tables.joined task row.taskId row.agentRunId).length := by
  have unique : tables.usageEvents.ordered.Pairwise fun first second => first.id ≠ second.id :=
    (List.perm_insertionSort _ _).symm.pairwise tables.usageEvents.unique fun different => different.symm
  have copies := @countP_flatMap_of_unique _ (UsageRow × Option AgentJob) _ _ UsageRow.id
    (fun row => (tables.joined task row.taskId row.agentRunId).map fun job => (row, job)) (fun copy => copy.1.id)
    (fun row copy listed => by
      obtain ⟨job, -, rfl⟩ := List.mem_map.mp listed
      rfl) _ unique row (Keyed.mem_ordered.mpr member)
  have others : (openTurns builtins tables task).countP
      (fun entry => Source.runtime entry.2.eventId = .usage row.id) = 0 :=
    List.countP_eq_zero.mpr fun entry _ same => nomatch of_decide_eq_true same
  rw [List.length_map] at copies
  rw [countP_source returned, others, Nat.add_zero, ← copies]
  unfold usageRows
  simp only [Source.usage.injEq]

theorem countP_runtime (isOpen : IsOpen builtins tables task row key) :
    added.countP (·.1 = .runtime row.id) = 1 ↔ ∀ other, IsOpen builtins tables task row other → other = key := by
  obtain ⟨entry, member, same, rfl⟩ := isOpen_iff.mp isOpen
  have others : (usageRows tables task).countP (fun copy => Source.usage copy.1.id = .runtime row.id) = 0 :=
    List.countP_eq_zero.mpr fun copy _ same => nomatch of_decide_eq_true same
  rw [countP_source returned, others, Nat.zero_add]
  simp only [Source.runtime.injEq]
  rw [countP_eq_one_iff openTurns_spec.1 member (decide_eq_true same)]
  constructor
  · intro alone other otherOpen
    obtain ⟨turn, listed, sameTurn, rfl⟩ := isOpen_iff.mp otherOpen
    exact alone turn listed (decide_eq_true sameTurn)
  · intro alone turn listed sameTurn
    exact alone turn.1 (isOpen_iff.mpr ⟨turn, listed, of_decide_eq_true sameTurn, rfl⟩)

theorem tokens_of_added
    (member : row ∈ tables.runtimeEvents) {entry : Source × AddedRow} (listed : entry ∈ added)
    (source : entry.1 = .runtime row.id) : usageTokensFromPayload builtins row.payload = some entry.2.tokens := by
  obtain ⟨turns, all, rfl⟩ := Option.map_eq_some_iff.mp returned
  rcases List.mem_append.mp listed with usage | turn
  · obtain ⟨copy, -, rfl⟩ := List.mem_map.mp usage
    cases source
  · rw [← filterMap_of_mapM all] at turn
    obtain ⟨kept, isKept, read⟩ := List.mem_filterMap.mp turn
    obtain ⟨origin, stored, sameId, payload⟩ := openTurns_origin isKept
    obtain ⟨result, rowRead, rfl⟩ := Option.map_eq_some_iff.mp read
    have sameRow : origin = row :=
      tables.runtimeEvents.eq_of_key stored member (sameId.symm.trans (Source.runtime.inj source))
    rw [← sameRow, ← payload]
    obtain ⟨tokens, tokensRead, rfl⟩ := Option.map_eq_some_iff.mp rowRead
    exact tokensRead

theorem added_of_isOpen
    (isOpen : IsOpen builtins tables task row key) : ∃ entry ∈ added, entry.1 = .runtime row.id := by
  obtain ⟨turn, member, same, -⟩ := isOpen_iff.mp isOpen
  have listed : Source.runtime row.id ∈ added.map Prod.fst := by
    rw [sources_of_added returned]
    exact List.mem_append_right _ (List.mem_map.mpr ⟨turn, member, congrArg Source.runtime same⟩)
  obtain ⟨entry, inside, source⟩ := List.mem_map.mp listed
  exact ⟨entry, inside, source⟩

theorem isOpen_of_added
    {entry : Source × AddedRow} (listed : entry ∈ added) (source : entry.1 = .runtime row.id) :
    ∃ key, IsOpen builtins tables task row key := by
  have inside : Source.runtime row.id ∈ added.map Prod.fst := source ▸ List.mem_map_of_mem listed
  rw [sources_of_added returned] at inside
  rcases List.mem_append.mp inside with usage | turn
  · obtain ⟨copy, -, same⟩ := List.mem_map.mp usage
    cases same
  · obtain ⟨kept, member, same⟩ := List.mem_map.mp turn
    exact ⟨kept.1, isOpen_iff.mpr ⟨kept, member, Source.runtime.inj same, rfl⟩⟩

end

end Added

/-- The statistics of a task are exact exactly where no record is joined twice and no count is spelled
twice. -/
theorem token_stats_exact_iff (builtins : Builtins) (tables : Tables) (task : Nat) {added : List (Source × AddedRow)}
    (returned : addedRows? builtins tables task = some added) :
    Exact builtins tables task added ↔ Single builtins tables task := by
  constructor
  · intro exact_
    refine ⟨fun row member => ?_, fun row member first second firstOpen secondOpen => ?_, fun row member isOpen => ?_⟩
    · rcases (tables.joined task row.taskId row.agentRunId).eq_nil_or_concat with none_ | ⟨_, _, some_⟩
      · rw [none_]
        exact Nat.zero_le 1
      · have joined : tables.joined task row.taskId row.agentRunId ≠ [] := by simp [some_]
        rw [← countP_usage returned member, exact_.usage row member joined]
    · have once := exact_.runtime row member ⟨second, secondOpen⟩
      exact (countP_runtime returned secondOpen).mp once first firstOpen
    · obtain ⟨key, isOpen⟩ := isOpen
      obtain ⟨entry, listed, source⟩ := added_of_isOpen returned isOpen
      exact (contributes_iff (tokens_of_added returned member listed source)).mp
        (exact_.counts row member entry listed source)
  · intro single
    refine ⟨balanced_statsOf added, fun row member joined => ?_, fun row member isOpen => ?_,
      fun row member entry listed source => ?_⟩
    · rw [countP_usage returned member]
      exact le_antisymm (single.usage row member) (List.length_pos_iff.mpr joined)
    · obtain ⟨key, isOpen⟩ := isOpen
      exact (countP_runtime returned isOpen).mpr fun other otherOpen => single.runtime row member other key otherOpen isOpen
    · exact (contributes_iff (tokens_of_added returned member listed source)).mpr
        (single.spellings row member (isOpen_of_added returned listed source))

def plainBuiltins : Builtins where
  lower := id
  repr := fun _ => ""
  jsonValid := fun _ => true
  intOfFloat := fun _ => 0
  intOfText := fun _ => some 0

def reported (spellings : List String) : Tables where
  teamRuns := ⟨[⟨1, true⟩], List.pairwise_singleton ..⟩
  agentJobs := []
  usageEvents := .empty
  runtimeEvents := ⟨[⟨1, true, some 1, some 7, none, spellings.map fun spelling => (spelling, .int 5), true⟩],
    List.pairwise_singleton ..⟩

theorem reported_once_exact :
    Exact plainBuiltins (reported ["total_tokens"]) 1
        [(.runtime 1, ⟨"unknown", "", ⟨5, 0, 0, 0, 0⟩, true⟩)] ↔
      Single plainBuiltins (reported ["total_tokens"]) 1 :=
  token_stats_exact_iff plainBuiltins (reported ["total_tokens"]) 1 rfl

/-- Five tokens under two spellings are ten. -/
theorem two_spellings_count_twice :
    ¬∀ (tables : Tables) (task : Nat) (added : List (Source × AddedRow)),
      addedRows? plainBuiltins tables task = some added → Exact plainBuiltins tables task added := by
  intro always
  have exact_ := always (reported ["total_tokens", "totalTokens"]) 1
    [(.runtime 1, ⟨"unknown", "", ⟨10, 0, 0, 0, 0⟩, true⟩)] rfl
  have contributes := exact_.counts _ List.mem_cons_self _ List.mem_cons_self rfl _ rfl totalField List.mem_cons_self
  have agrees : Agrees plainBuiltins [("total_tokens", .int 5), ("totalTokens", .int 5)] totalField := by
    unfold Agrees
    decide
  exact absurd (contributes agrees (by decide)) (by decide)

end Wlcodex.Relay.TokenStats
