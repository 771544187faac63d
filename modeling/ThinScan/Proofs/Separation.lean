import ThinScan.Proofs.Binding
import ThinScan.Proofs.Flushing
import ThinScan.Proofs.Lanes

set_option autoImplicit false

namespace ThinScan

-- What concerns an adapter: it is asked for a key, what waits for it goes out, or one of its fetches ends. Its batches
-- are numbered in the order in which they were sent.
inductive Concern where
  | asked (key : Bytes)
  | flushed
  | answered (number : Nat) (fetched : Fetched)
deriving DecidableEq

-- A lane with the requests for it, each by the number of its batch and its key, in the order in which they were made.
structure Tale where
  lane : Lane Bytes := {}
  asked : List (Nat × Bytes) := []

instance : LawfulBEq Bytes := inferInstance

namespace Lane

def ask (size : Nat) (lane : Lane Bytes) (key : Bytes) : Lane Bytes :=
  if key ∈ lane.waiting then lane
  else if size ≤ lane.waiting.length + 1 then (lane.queue key).flush
  else lane.queue key

end Lane

namespace Tale

def step (size : Nat) (tale : Tale) : Concern → Tale
  | .asked key => ⟨tale.lane.ask size key, tale.asked ++ [(tale.lane.sent.length, key)]⟩
  | .flushed => { tale with lane := tale.lane.flush }
  | .answered number fetched => { tale with lane := tale.lane.answer number fetched }

end Tale

namespace BatchLookup

variable {lookup later : BatchLookup} {outcomes : List (Nat × Fetched)} {adapter : AdapterId}

theorem lane_other (step : Step .other lookup later) (outcomes : List (Nat × Fetched)) (adapter : AdapterId) :
    later.lane outcomes adapter = lookup.lane outcomes adapter := by
  have waits (pending : later.pending = lookup.pending) : later.waiting adapter = lookup.waiting adapter := by
    rw [waiting, waiting, pending]
  cases step with
  | reply held replying batches size pending => exact lane_same (shown_set held batches) (waits pending)
  | quiet batches size pending => exact lane_same (shown_same batches) (waits pending)

theorem keys_sent (lookup : BatchLookup) (outcomes : List (Nat × Fetched)) (adapter : AdapterId) :
    ((lookup.lane outcomes adapter).map Entry.key).sent.map Prod.fst
      = (lookup.batches.filter (fun batch => batch.adapter = adapter)).map Batch.keys := by
  have entries : (lookup.shown outcomes).map (fun sent => (sent.1, sent.2.1))
      = lookup.batches.map (fun batch => (batch.adapter, batch.entries)) := by
    apply List.ext_getElem?
    intro place
    rw [List.getElem?_map, List.getElem?_map, shown, List.getElem?_mapIdx, Option.map_map]
    rfl
  have filtered := congrArg (fun sent => ((sent.filter (fun batch : AdapterId × List Entry => batch.1 = adapter)).map
    (fun batch => batch.2.map Entry.key))) entries
  simp only [List.filter_map, List.map_map, Function.comp_def] at filtered
  simp only [lane, Lane.map, List.map_map, Function.comp_def]
  exact filtered

theorem keys_lane (lookup : BatchLookup) (outcomes : List (Nat × Fetched)) (adapter : AdapterId) :
    ((lookup.lane outcomes adapter).map Entry.key).waiting = lookup.waitingKeys adapter := rfl

theorem lane_request_other (settled : lookup.Settled outcomes) {wanted : AdapterId} (elsewhere : wanted ≠ adapter)
    (key : Bytes) : (lookup.request wanted key).2.lane outcomes adapter = lookup.lane outcomes adapter := by
  have queued : (lookup.enqueue wanted key).lane outcomes adapter = lookup.lane outcomes adapter :=
    (lane_enqueue lookup outcomes wanted adapter key).trans (if_neg elsewhere)
  have still : (lookup.enqueue wanted key).Settled outcomes := ⟨settled.once, settled.fetching, settled.told⟩
  by_cases waits : key ∈ lookup.waitingKeys wanted
  · obtain ⟨entry, _, _, joined⟩ := request_joined waits
    rw [joined]
  · rw [request_fresh waits]
    by_cases full : lookup.batchSize ≤ (lookup.waiting wanted).length + 1
    · simp only [if_pos full, lane_flushAdapter still, if_neg elsewhere, queued]
    · simp only [if_neg full, queued]

theorem lane_request_own (settled : lookup.Settled outcomes) (adapter : AdapterId) (key : Bytes) :
    ((lookup.request adapter key).2.lane outcomes adapter).map Entry.key
        = ((lookup.lane outcomes adapter).map Entry.key).ask lookup.batchSize key
      ∧ (∀ number entry, (lookup.lane outcomes adapter).Holds number entry →
        ((lookup.request adapter key).2.lane outcomes adapter).Holds number entry)
      ∧ ((lookup.request adapter key).2.lane outcomes adapter).Holds (lookup.lane outcomes adapter).sent.length
        ⟨key, (lookup.request adapter key).1⟩ := by
  have count : (lookup.waitingKeys adapter).length = (lookup.waiting adapter).length := List.length_map _
  by_cases waits : key ∈ lookup.waitingKeys adapter
  · obtain ⟨entry, member, same, joined⟩ := request_joined waits
    rw [joined, Lane.ask, keys_lane, if_pos waits, ← same]
    exact ⟨rfl, fun _ _ holds => holds, .waits rfl member⟩
  · have still : (lookup.enqueue adapter key).Settled outcomes := ⟨settled.once, settled.fetching, settled.told⟩
    have queued : (lookup.enqueue adapter key).lane outcomes adapter
        = (lookup.lane outcomes adapter).queue ⟨key, lookup.requests⟩ :=
      (lane_enqueue lookup outcomes adapter adapter key).trans (if_pos rfl)
    have stands := Lane.holds_queued (lookup.lane outcomes adapter) ⟨key, lookup.requests⟩
    rw [request_fresh waits, Lane.ask, keys_lane, if_neg waits, count]
    by_cases full : lookup.batchSize ≤ (lookup.waiting adapter).length + 1
    · simp only [if_pos full, lane_flushAdapter still, if_true, queued, Lane.map_flush, Lane.map_queue]
      exact ⟨trivial, fun _ _ holds => Lane.holds_flush (Lane.holds_queue holds _), Lane.holds_flush stands⟩
    · simp only [if_neg full, queued, Lane.map_queue]
      exact ⟨trivial, fun _ _ holds => Lane.holds_queue holds _, stands⟩

end BatchLookup

namespace Clients

variable {clients later : Clients} {adapter : AdapterId}

-- A flush of all adapters concerns the adapter once: when it comes to it, or when it finds nothing waiting for it.
def concerns (adapter : AdapterId) (clients : Clients) : Act → List Concern
  | .request wanted key => if wanted = adapter then [.asked key] else []
  | .flushAdapter wanted => if wanted = adapter then [.flushed] else []
  | .list _ => if adapter ∈ clients.lookup.pending.keys then [] else [.flushed]
  | .flushNext _ wanted => if wanted = adapter then [.flushed] else []
  | .complete index fetched =>
      match clients.lookup.batches[index]? with
      | none => []
      | some batch =>
          if batch.adapter = adapter then [.answered (World.callNumber clients.lookup.batches index adapter) fetched] else []
  | _ => []

def story (adapter : AdapterId) : Clients → List Act → List Concern
  | _, [] => []
  | clients, action :: rest =>
      match clients.act action with
      | none => []
      | some later => clients.concerns adapter action ++ story adapter later rest

def Placed (lane : Lane Entry) (asked : Asked) (place : Nat × Bytes) : Prop :=
  asked.key = place.2 ∧ lane.Holds place.1 ⟨asked.key, asked.request⟩

structure Matches (size : Nat) (adapter : AdapterId) (tale : Tale) (asked : List Asked) (outcomes : List (Nat × Fetched))
    (clients : Clients) : Prop where
  size : clients.lookup.batchSize = size
  sound : clients.lookup.Sound
  custody : clients.lookup.Custody
  settled : clients.lookup.Settled outcomes
  lane : (clients.lookup.lane outcomes adapter).map Entry.key = tale.lane
  asked : List.Forall₂ (Placed (clients.lookup.lane outcomes adapter)) (asked.filter (fun asked => asked.adapter = adapter))
    tale.asked

variable {size : Nat} {tale : Tale} {asked : List Asked} {outcomes : List (Nat × Fetched)}

theorem placed_grown {lane grown : Lane Entry} (grows : ∀ number entry, lane.Holds number entry → grown.Holds number entry)
    {asked : List Asked} {places : List (Nat × Bytes)} (placed : List.Forall₂ (Placed lane) asked places) :
    List.Forall₂ (Placed grown) asked places :=
  placed.imp (fun _ _ stands => ⟨stands.1, grows _ _ stands.2⟩)

structure Follows (size : Nat) (adapter : AdapterId) (tale : Tale) (outcomes : List (Nat × Fetched)) (clients : Clients)
    (action : Act) (later : Clients) : Prop where
  lane : (later.lookup.lane (outcomes ++ (clients.cause action).ended) adapter).map Entry.key
    = ((clients.concerns adapter action).foldl (Tale.step size) tale).lane
  grows : ∀ number entry, (clients.lookup.lane outcomes adapter).Holds number entry →
    (later.lookup.lane (outcomes ++ (clients.cause action).ended) adapter).Holds number entry
  asked : ∃ places, ((clients.concerns adapter action).foldl (Tale.step size) tale).asked = tale.asked ++ places
    ∧ List.Forall₂ (Placed (later.lookup.lane (outcomes ++ (clients.cause action).ended) adapter))
      ((clients.asked action).filter (fun asked => asked.adapter = adapter)) places

theorem follows_still (kept : Matches size adapter tale asked outcomes clients) {action : Act}
    (unended : (clients.cause action).ended = []) (unasked : (clients.asked action).filter (fun asked => asked.adapter = adapter) = [])
    (lane : later.lookup.lane outcomes adapter = clients.lookup.lane outcomes adapter)
    (concerns : clients.concerns adapter action = []) : Follows size adapter tale outcomes clients action later := by
  have same : outcomes ++ (clients.cause action).ended = outcomes := by rw [unended, List.append_nil]
  refine ⟨?_, ?_, [], ?_, ?_⟩
  · rw [same, lane, concerns]
    exact kept.lane
  · rw [same, lane]
    exact fun _ _ holds => holds
  · rw [concerns, List.append_nil]
    rfl
  · rw [unasked]
    exact .nil

theorem follows_flush (kept : Matches size adapter tale asked outcomes clients) {action : Act} {wanted : AdapterId}
    (cause : clients.cause action = .flushed wanted) (unasked : clients.asked action = [])
    (flushed : later.lookup = clients.lookup.flushAdapter wanted)
    (concerns : clients.concerns adapter action = if wanted = adapter then [.flushed] else []) :
    Follows size adapter tale outcomes clients action later := by
  have lanes := BatchLookup.lane_flushAdapter kept.settled wanted adapter
  rw [← flushed] at lanes
  have unended : (clients.cause action).ended = [] := by rw [cause]; rfl
  by_cases here : wanted = adapter
  · rw [if_pos here] at lanes concerns
    have same : outcomes ++ (clients.cause action).ended = outcomes := by rw [unended, List.append_nil]
    refine ⟨?_, ?_, [], ?_, ?_⟩
    · rw [same, lanes, concerns, Lane.map_flush, kept.lane]
      rfl
    · rw [same, lanes]
      exact fun _ _ holds => Lane.holds_flush holds
    · rw [concerns, List.append_nil]
      rfl
    · rw [unasked]
      exact .nil
  · rw [if_neg here] at lanes concerns
    exact follows_still kept unended (by rw [unasked]; rfl) lanes concerns

theorem follows_request (kept : Matches size adapter tale asked outcomes clients) (wanted : AdapterId) (key : Bytes) :
    Follows size adapter tale outcomes clients (.request wanted key)
      (clients.withLookup (clients.lookup.request wanted key).2) := by
  have unended : (clients.cause (.request wanted key)).ended = [] := BatchLookup.ended_requestCause _ _ _
  by_cases here : wanted = adapter
  · subst here
    have concerns : clients.concerns wanted (.request wanted key) = [.asked key] := if_pos rfl
    have same : outcomes ++ (clients.cause (.request wanted key)).ended = outcomes := by rw [unended, List.append_nil]
    obtain ⟨lane, grows, stands⟩ := BatchLookup.lane_request_own kept.settled wanted key
    refine ⟨?_, ?_, [(tale.lane.sent.length, key)], ?_, ?_⟩
    · rw [same, concerns, withLookup, lane, kept.lane, kept.size]
      rfl
    · rw [same]
      exact grows
    · rw [concerns]
      rfl
    · have count : tale.lane.sent.length = (clients.lookup.lane outcomes wanted).sent.length := by
        rw [← kept.lane]
        exact List.length_map _
      rw [same, Clients.asked, List.filter_cons_of_pos (by simp), List.filter_nil, count]
      exact .cons ⟨rfl, stands⟩ .nil
  · refine follows_still kept unended ?_ (BatchLookup.lane_request_other kept.settled here key) (if_neg here)
    rw [Clients.asked, List.filter_cons_of_neg (by simpa using here), List.filter_nil]

theorem follows_complete (kept : Matches size adapter tale asked outcomes clients) {index : Nat} {fetched : Fetched}
    {lookup : BatchLookup} (taken : clients.lookup.complete index fetched = some lookup) :
    Follows size adapter tale outcomes clients (.complete index fetched) (clients.withLookup lookup) := by
  have step := BatchLookup.complete_step taken
  cases step with
  | @complete _ _ _ batch _ held fetching batches size pending =>
      have lanes := BatchLookup.lane_complete kept.settled fetched held fetching batches pending adapter
      have ended : outcomes ++ (clients.cause (.complete index fetched)).ended = outcomes ++ [(index, fetched)] := rfl
      by_cases here : batch.adapter = adapter
      · have concerns : clients.concerns adapter (.complete index fetched)
            = [.answered (World.callNumber clients.lookup.batches index adapter) fetched] := by
          simp only [Clients.concerns, held, if_pos here]
        rw [if_pos here] at lanes
        refine ⟨?_, ?_, [], ?_, .nil⟩
        · rw [ended, withLookup, lanes, concerns, Lane.map_answer, kept.lane]
          rfl
        · rw [ended, withLookup, lanes]
          exact fun _ _ holds => Lane.holds_answer holds _ _
        · rw [concerns, List.append_nil]
          rfl
      · have concerns : clients.concerns adapter (.complete index fetched) = [] := by
          simp only [Clients.concerns, held, if_neg here]
        rw [if_neg here] at lanes
        refine ⟨?_, ?_, [], ?_, .nil⟩
        · rw [ended, withLookup, lanes, concerns]
          exact kept.lane
        · rw [ended, withLookup, lanes]
          exact fun _ _ holds => holds
        · rw [concerns, List.append_nil]
          rfl

theorem follows_list (kept : Matches size adapter tale asked outcomes clients) (flush : Nat)
    (lookup : later.lookup = clients.lookup) : Follows size adapter tale outcomes clients (.list flush) later := by
  by_cases listed : adapter ∈ clients.lookup.pending.keys
  · exact follows_still kept rfl rfl (by rw [lookup]) (if_pos listed)
  · have concerns : clients.concerns adapter (.list flush) = [.flushed] := if_neg listed
    have nothing : clients.lookup.waiting adapter = [] := by
      refine List.eq_nil_iff_forall_not_mem.mpr (fun entry waits => listed (listed_of_waiting waits))
    have idle : tale.lane.flush = tale.lane := by
      have empty : tale.lane.waiting = [] := by rw [← kept.lane, BatchLookup.keys_lane, BatchLookup.waitingKeys, nothing]; rfl
      rw [Lane.flush, empty]
    refine ⟨?_, ?_, [], ?_, .nil⟩
    · have same : outcomes ++ (clients.cause (.list flush)).ended = outcomes := List.append_nil _
      rw [same, lookup, concerns, kept.lane]
      exact idle.symm
    · have same : outcomes ++ (clients.cause (.list flush)).ended = outcomes := List.append_nil _
      rw [same, lookup]
      exact fun _ _ holds => holds
    · rw [concerns, List.append_nil]
      rfl

theorem follows_act (kept : Matches size adapter tale asked outcomes clients) {action : Act}
    (taken : clients.act action = some later) : Follows size adapter tale outcomes clients action later := by
  have step := step_of_act taken
  cases move_of_act taken with
  | request wanted key => exact follows_request kept wanted key
  | flushAdapter wanted => exact follows_flush kept rfl rfl rfl rfl
  | next listed member => exact follows_flush kept rfl rfl rfl rfl
  | list unlisted => exact follows_list kept _ rfl
  | complete given => exact follows_complete kept given
  | _ => exact follows_still kept rfl rfl (BatchLookup.lane_other step outcomes adapter) rfl

theorem matches_act (kept : Matches size adapter tale asked outcomes clients) {action : Act}
    (taken : clients.act action = some later) :
    Matches size adapter ((clients.concerns adapter action).foldl (Tale.step size) tale) (asked ++ clients.asked action)
      (outcomes ++ (clients.cause action).ended) later := by
  have step := step_of_act taken
  obtain ⟨lane, grows, places, told, placed⟩ := follows_act kept taken
  refine ⟨(BatchLookup.batchSize_step step).trans kept.size, BatchLookup.sound_step kept.sound step,
    BatchLookup.custody_step kept.custody step, BatchLookup.settled_step kept.settled step, lane, ?_⟩
  rw [List.filter_append, told]
  exact List.rel_append (placed_grown grows kept.asked) placed

theorem matches_run {acts : List Act} (kept : Matches size adapter tale asked outcomes clients)
    (ran : clients.run acts = some later) :
    ∃ outcomes, Matches size adapter ((clients.story adapter acts).foldl (Tale.step size) tale)
      (asked ++ clients.history acts) outcomes later := by
  induction acts generalizing clients tale asked outcomes with
  | nil =>
      cases ran
      exact ⟨outcomes, (List.append_nil asked).symm ▸ kept⟩
  | cons action rest step =>
      obtain ⟨next, taken, ran⟩ := Option.bind_eq_some_iff.mp ((run_cons clients action rest).symm.trans ran)
      rw [story, history, taken]
      dsimp only
      rw [List.foldl_append, ← List.append_assoc]
      exact step (matches_act kept taken) ran

-- The requests for an adapter, in the order in which they were made, each with its key and with what it is told.
def resolved (clients : Clients) (adapter : AdapterId) (asked : List Asked) : List (Bytes × Option (Option Values)) :=
  (asked.filter (fun asked => asked.adapter = adapter)).map (fun asked => (asked.key, clients.lookup.told asked.request))

theorem resolved_tale (kept : Matches size adapter tale asked outcomes clients) :
    clients.resolved adapter asked = tale.asked.map (fun place => (place.2, tale.lane.value place.1 place.2)) := by
  have along {requests : List Asked} {places : List (Nat × Bytes)}
      (placed : List.Forall₂ (Placed (clients.lookup.lane outcomes adapter)) requests places) :
      requests.map (fun asked => (asked.key, clients.lookup.told asked.request))
        = places.map (fun place => (place.2, tale.lane.value place.1 place.2)) := by
    induction placed with
    | nil => rfl
    | @cons asked place _ _ stands _ step =>
        obtain ⟨key, holds⟩ := stands
        have told := BatchLookup.told_lane kept.sound kept.custody kept.settled holds
        rw [kept.lane] at told
        rw [List.map_cons, List.map_cons, step, ← key, told]
  exact along kept.asked

theorem batches_tale (kept : Matches size adapter tale asked outcomes clients) :
    (clients.lookup.batches.filter (fun batch => batch.adapter = adapter)).map Batch.keys = tale.lane.sent.map Prod.fst := by
  rw [← kept.lane, BatchLookup.keys_sent]

theorem fetches_of_keys {size : Nat} {acts : List Act} (ran : (fresh size).run acts = some clients) (adapter : AdapterId) :
    (clients.lookup.batches.filter (fun batch => batch.adapter = adapter)).map (fun batch => (batch.keys, batch.params))
      = ((clients.lookup.batches.filter (fun batch => batch.adapter = adapter)).map Batch.keys).map
        (fun keys => (keys, clients.lookup.bound)) := by
  have chosen : clients.lookup.bound = ((fresh size).given acts).head?.getD {} := (settled_run ran).chosen
  rw [List.map_map]
  refine List.map_congr_left (fun batch member => ?_)
  have params := batches_of_run ran batch (List.mem_of_mem_filter member)
  rw [Function.comp_apply, params, chosen]

theorem told_run {acts : List Act} (custody : clients.lookup.Custody) (ran : clients.run acts = some later)
    {request : RequestId} {found : Option Values} (told : clients.lookup.told request = some found) :
    later.lookup.told request = some found := by
  induction acts generalizing clients with
  | nil =>
      cases ran
      exact told
  | cons action rest step =>
      obtain ⟨next, taken, ran⟩ := Option.bind_eq_some_iff.mp ((run_cons clients action rest).symm.trans ran)
      have stepped := step_of_act taken
      exact step (BatchLookup.custody_step custody stepped) ran (BatchLookup.told_step custody stepped told)

theorem matches_fresh {size : Nat} (sized : 0 < size) (adapter : AdapterId) : Matches size adapter {} [] [] (fresh size) :=
  ⟨rfl, BatchLookup.sound_of_empty sized rfl rfl, BatchLookup.custody_of_empty rfl rfl rfl rfl,
    BatchLookup.settled_of_empty rfl, rfl, .nil⟩

-- Two runs that have the same story for an adapter leave the same keys waiting for it, have sent the same batches for
-- it in the same order, and tell its requests the same.
theorem adapters_apart {size : Nat} (sized : 0 < size) (adapter : AdapterId) {acts others : List Act} {left right : Clients}
    (ran : (fresh size).run acts = some left) (ran_other : (fresh size).run others = some right)
    (same : (fresh size).story adapter acts = (fresh size).story adapter others) :
    left.lookup.waitingKeys adapter = right.lookup.waitingKeys adapter
      ∧ (left.lookup.batches.filter (fun batch => batch.adapter = adapter)).map Batch.keys
        = (right.lookup.batches.filter (fun batch => batch.adapter = adapter)).map Batch.keys
      ∧ (left.lookup.bound = right.lookup.bound →
        (left.lookup.batches.filter (fun batch => batch.adapter = adapter)).map (fun batch => (batch.keys, batch.params))
          = (right.lookup.batches.filter (fun batch => batch.adapter = adapter)).map (fun batch => (batch.keys, batch.params)))
      ∧ left.resolved adapter ((fresh size).history acts) = right.resolved adapter ((fresh size).history others)
      ∧ ∀ clients ∈ [left, right], ∀ request found,
        (∀ looked, clients.lookup.look request = some (found, looked) → clients.lookup.told request = some found)
          ∧ (clients.lookup.told request = some found → ∀ more last, clients.run more = some last →
            last.lookup.told request = some found) := by
  obtain ⟨ended, kept⟩ := matches_run (matches_fresh sized adapter) ran
  obtain ⟨ended_other, kept_other⟩ := matches_run (matches_fresh sized adapter) ran_other
  rw [List.nil_append] at kept kept_other
  rw [← same] at kept_other
  have batches := (batches_tale kept).trans (batches_tale kept_other).symm
  refine ⟨?_, batches, ?_, (resolved_tale kept).trans (resolved_tale kept_other).symm, ?_⟩
  · rw [← BatchLookup.keys_lane left.lookup ended, ← BatchLookup.keys_lane right.lookup ended_other, kept.lane,
      kept_other.lane]
  · intro bound
    rw [fetches_of_keys ran, fetches_of_keys ran_other, batches, bound]
  · have custody : ∀ clients ∈ [left, right], clients.lookup.Custody := by
      intro clients member
      rcases List.mem_cons.mp member with rfl | last
      · exact kept.custody
      · rw [List.mem_singleton.mp last]
        exact kept_other.custody
    intro clients member request found
    exact ⟨fun looked seen => BatchLookup.look_told (custody clients member) seen,
      fun told more last goes => told_run (custody clients member) goes told⟩

def crowded : List Act :=
  [.readParams, .request 8 [1], .request 7 [1], .flushAdapter 8, .request 7 [1], .complete 0 .crashed, .request 8 [2],
    .request 7 [2], .flush, .list 0, .flushNext 0 8, .complete 1 (.results [some []]), .request 7 [3]]

def quiet : List Act :=
  [.readParams, .request 7 [1], .request 7 [1], .request 7 [2], .flush, .list 0, .complete 0 (.results [some []]),
    .request 7 [3]]

theorem adapters_apart_of_crowded :
    ∃ left right, (fresh 2).run crowded = some left ∧ (fresh 2).run quiet = some right
      ∧ (fresh 2).story 7 crowded
        = [.asked [1], .asked [1], .asked [2], .flushed, .answered 0 (.results [some []]), .asked [3]]
      ∧ left.lookup.batches.length = 3 ∧ right.lookup.batches.length = 1
      ∧ left.resolved 7 ((fresh 2).history crowded) = [([1], some (some [])), ([1], some (some [])), ([2], some none), ([3], none)]
      ∧ left.resolved 7 ((fresh 2).history crowded) = right.resolved 7 ((fresh 2).history quiet)
      ∧ (left.lookup.batches.filter (fun batch => batch.adapter = 7)).map (fun batch => (batch.keys, batch.params))
        = (right.lookup.batches.filter (fun batch => batch.adapter = 7)).map (fun batch => (batch.keys, batch.params)) := by
  have sized : 0 < 2 := Nat.two_pos
  obtain ⟨_, _, fetches, told, _⟩ := adapters_apart sized 7 (@rfl _ ((fresh 2).run crowded)) (@rfl _ ((fresh 2).run quiet)) rfl
  exact ⟨_, _, rfl, rfl, rfl, rfl, rfl, rfl, told, fetches rfl⟩

end Clients

end ThinScan
