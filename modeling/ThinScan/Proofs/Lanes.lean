import Mathlib.Data.List.Nodup
import Mathlib.Data.List.Pairwise
import ThinScan.Proofs.Ledger
import ThinScan.Proofs.Outcomes
import ThinScan.Schedule

/-!
To one adapter, a lookup is a lane: what waits for this adapter, and its batches in the order in which they were sent.
-/

set_option autoImplicit false

namespace ThinScan

section Filters

variable {α : Type} {items : List α} {index : Nat} {old : α}

theorem filter_modify (chosen : α → Bool) (change : α → α) (held : items[index]? = some old)
    (same : chosen (change old) = chosen old) :
    (items.modify index change).filter chosen
      = if chosen old then (items.filter chosen).modify ((items.take index).filter chosen).length change
        else items.filter chosen := by
  induction items generalizing index with
  | nil => cases held
  | cons item rest step =>
      cases index with
      | zero =>
          cases held
          cases picked : chosen old with
          | true => simp [picked, same]
          | false => simp [picked, same]
      | succ before =>
          have later := step held
          cases first : chosen item with
          | true =>
              rw [List.modify_succ_cons, List.filter_cons_of_pos first, later, List.take_succ_cons,
                List.filter_cons_of_pos first, List.filter_cons_of_pos first, List.length_cons, List.modify_succ_cons]
              split <;> rfl
          | false =>
              have dropped : ¬chosen item = true := Bool.eq_false_iff.mp first
              rw [List.modify_succ_cons, List.filter_cons_of_neg dropped, later, List.take_succ_cons,
                List.filter_cons_of_neg dropped, List.filter_cons_of_neg dropped]

end Filters

structure Lane (α : Type) where
  waiting : List α := []
  -- Oldest first; nothing is known of a fetch that has not ended.
  sent : List (List α × Option Fetched) := []

namespace Lane

variable {α β : Type} {lane : Lane α}

def queue (lane : Lane α) (item : α) : Lane α := { lane with waiting := lane.waiting ++ [item] }

def flush (lane : Lane α) : Lane α :=
  match lane.waiting with
  | [] => lane
  | item :: rest => ⟨[], lane.sent ++ [(item :: rest, none)]⟩

def answer (lane : Lane α) (number : Nat) (fetched : Fetched) : Lane α :=
  { lane with sent := lane.sent.modify number (fun batch => (batch.1, some fetched)) }

def map (view : α → β) (lane : Lane α) : Lane β :=
  ⟨lane.waiting.map view, lane.sent.map (fun batch => (batch.1.map view, batch.2))⟩

inductive Holds (lane : Lane α) (number : Nat) (item : α) : Prop
  | sent {batch : List α × Option Fetched} (stands : lane.sent[number]? = some batch) (member : item ∈ batch.1)
  | waits (next : number = lane.sent.length) (member : item ∈ lane.waiting)

theorem map_queue (view : α → β) (lane : Lane α) (item : α) : (lane.queue item).map view = (lane.map view).queue (view item) := by
  simp only [queue, map, List.map_append, List.map_cons, List.map_nil]

theorem map_flush (view : α → β) (lane : Lane α) : lane.flush.map view = (lane.map view).flush := by
  obtain ⟨waiting, sent⟩ := lane
  cases waiting with
  | nil => rfl
  | cons item rest => simp only [flush, map, List.map_append, List.map_cons, List.map_nil]

theorem map_answer (view : α → β) (lane : Lane α) (number : Nat) (fetched : Fetched) :
    (lane.answer number fetched).map view = (lane.map view).answer number fetched := by
  simp only [answer, map, Lane.mk.injEq, true_and]
  apply List.ext_getElem?
  intro place
  simp only [List.getElem?_map, List.getElem?_modify]
  cases lane.sent[place]? with
  | none => rfl
  | some batch => by_cases here : number = place <;> simp [here]

theorem holds_queue {number : Nat} {item : α} (holds : lane.Holds number item) (fresh : α) :
    (lane.queue fresh).Holds number item := by
  cases holds with
  | sent stands member => exact .sent stands member
  | waits next member => exact .waits next (List.mem_append_left _ member)

theorem holds_queued (lane : Lane α) (item : α) : (lane.queue item).Holds lane.sent.length item :=
  .waits rfl (List.mem_append_right _ (List.mem_singleton.mpr rfl))

theorem holds_flush {number : Nat} {item : α} (holds : lane.Holds number item) : lane.flush.Holds number item := by
  obtain ⟨waiting, sent⟩ := lane
  cases waiting with
  | nil => exact holds
  | cons first rest =>
      cases holds with
      | sent stands member =>
          refine .sent ?_ member
          rw [flush, List.getElem?_append_left (List.getElem?_eq_some_iff.mp stands).1]
          exact stands
      | waits next member =>
          have stands : (sent ++ [(first :: rest, (none : Option Fetched))])[sent.length]? = some (first :: rest, none) :=
            List.getElem?_concat_length
          rw [next]
          exact .sent stands member

theorem holds_answer {number : Nat} {item : α} (holds : lane.Holds number item) (ended : Nat) (fetched : Fetched) :
    (lane.answer ended fetched).Holds number item := by
  cases holds with
  | @sent batch stands member =>
      have after : (lane.answer ended fetched).sent[number]?
          = some (if ended = number then (batch.1, some fetched) else batch) := by
        rw [answer, List.getElem?_modify, stands]
        rfl
      refine .sent after ?_
      split
      · exact member
      · exact member
  | waits next member => exact .waits (by rw [next, answer, List.length_modify]) member

end Lane

namespace BatchLookup

variable {lookup later : BatchLookup} {outcomes : List (Nat × Fetched)} {adapter : AdapterId}

def shown (lookup : BatchLookup) (outcomes : List (Nat × Fetched)) : List (AdapterId × List Entry × Option Fetched) :=
  lookup.batches.mapIdx (fun index batch => (batch.adapter, batch.entries, outcomes.lookup index))

def lane (lookup : BatchLookup) (outcomes : List (Nat × Fetched)) (adapter : AdapterId) : Lane Entry where
  waiting := lookup.waiting adapter
  sent := ((lookup.shown outcomes).filter (fun batch => batch.1 = adapter)).map Prod.snd

theorem lane_same (shown : later.shown outcomes = lookup.shown outcomes) (waiting : later.waiting adapter = lookup.waiting adapter) :
    later.lane outcomes adapter = lookup.lane outcomes adapter := by
  rw [lane, lane, shown, waiting]

theorem shown_same (batches : later.batches = lookup.batches) : later.shown outcomes = lookup.shown outcomes := by
  rw [shown, shown, batches]

theorem shown_set {index : Nat} {batch : Batch} {progress : Progress} (held : lookup.batches[index]? = some batch)
    (batches : later.batches = lookup.batches.set index { batch with progress := progress }) :
    later.shown outcomes = lookup.shown outcomes := by
  apply List.ext_getElem?
  intro place
  simp only [shown, List.getElem?_mapIdx, batches, set_at _ held]
  by_cases here : index = place
  · subst here
    rw [if_pos rfl, held]
    rfl
  · rw [if_neg here]

theorem unknown_of_bound (settled : lookup.Settled outcomes) : outcomes.lookup lookup.batches.length = none := by
  refine List.lookup_eq_none_iff.mpr (fun ended member => ?_)
  have below := settled_bound settled (List.mem_map_of_mem member)
  exact bne_iff_ne.mpr (Nat.ne_of_gt below)

theorem shown_append (settled : lookup.Settled outcomes) {fresh : Batch} (batches : later.batches = lookup.batches ++ [fresh]) :
    later.shown outcomes = lookup.shown outcomes ++ [(fresh.adapter, fresh.entries, none)] := by
  have unknown := unknown_of_bound settled
  simp only [shown, batches, List.mapIdx_append, List.mapIdx_cons, List.mapIdx_nil, Nat.zero_add, unknown]

theorem shown_complete (settled : lookup.Settled outcomes) {index : Nat} {batch : Batch} {progress : Progress}
    {fetched : Fetched} (held : lookup.batches[index]? = some batch) (fetching : batch.progress = .fetching)
    (batches : later.batches = lookup.batches.set index { batch with progress := progress }) :
    later.shown (outcomes ++ [(index, fetched)])
      = (lookup.shown outcomes).modify index (fun sent => (sent.1, sent.2.1, some fetched)) := by
  have fresh : outcomes.lookup index = none := by
    refine List.lookup_eq_none_iff.mpr (fun ended member => bne_iff_ne.mpr (fun same => ?_))
    exact (settled.fetching index batch held).mp fetching (same ▸ List.mem_map_of_mem member)
  apply List.ext_getElem?
  intro place
  simp only [shown, List.getElem?_mapIdx, List.getElem?_modify, batches, set_at _ held, List.lookup_append]
  by_cases here : index = place
  · subst here
    rw [if_pos rfl, held]
    simp [fresh]
  · have other : (place == index) = false := beq_false_of_ne (Ne.symm here)
    simp only [if_neg here, List.lookup_cons, other, List.lookup_nil, Option.or_none]
    cases lookup.batches[place]? <;> rfl

theorem lane_enqueue (lookup : BatchLookup) (outcomes : List (Nat × Fetched)) (wanted adapter : AdapterId) (key : Bytes) :
    (lookup.enqueue wanted key).lane outcomes adapter
      = if wanted = adapter then (lookup.lane outcomes adapter).queue ⟨key, lookup.requests⟩
        else lookup.lane outcomes adapter := by
  have same : (lookup.enqueue wanted key).shown outcomes = lookup.shown outcomes := rfl
  rw [lane, same, waiting_enqueue]
  by_cases here : wanted = adapter
  · subst here
    rw [if_pos rfl, if_pos rfl]
    rfl
  · rw [if_neg here, if_neg here]
    rfl

theorem lane_flushAdapter (settled : lookup.Settled outcomes) (wanted adapter : AdapterId) :
    (lookup.flushAdapter wanted).lane outcomes adapter
      = if wanted = adapter then (lookup.lane outcomes adapter).flush else lookup.lane outcomes adapter := by
  cases something : lookup.waiting wanted with
  | nil =>
      have still : lookup.flushAdapter wanted = lookup := by rw [flushAdapter, something]
      have idle : (lookup.lane outcomes wanted).flush = lookup.lane outcomes wanted := by
        simp only [Lane.flush, lane, something]
      rw [still]
      by_cases here : wanted = adapter
      · rw [if_pos here, ← here, idle]
      · rw [if_neg here]
  | cons entry rest =>
      have batches := batches_flushAdapter lookup wanted
      rw [if_neg (something ▸ List.cons_ne_nil entry rest)] at batches
      have added := shown_append settled batches
      by_cases here : wanted = adapter
      · subst here
        simp only [lane, Lane.flush, waiting_flushAdapter, if_true, something, added, List.filter_append, List.map_append]
        simp
      · simp only [lane, waiting_flushAdapter, if_neg here, added, List.filter_append, List.map_append]
        simp [here]

theorem shown_before (lookup : BatchLookup) (outcomes : List (Nat × Fetched)) (index : Nat) (adapter : AdapterId) :
    (((lookup.shown outcomes).take index).filter (fun sent => sent.1 = adapter)).length
      = World.callNumber lookup.batches index adapter := by
  have adapters : (lookup.shown outcomes).map Prod.fst = lookup.batches.map Batch.adapter := by
    apply List.ext_getElem?
    intro place
    rw [List.getElem?_map, List.getElem?_map, shown, List.getElem?_mapIdx, Option.map_map]
    rfl
  calc (((lookup.shown outcomes).take index).filter (fun sent => sent.1 = adapter)).length
    _ = (((lookup.shown outcomes).take index).map Prod.fst).countP (fun sent => sent = adapter) := by
      rw [List.countP_map, List.countP_eq_length_filter]
      rfl
    _ = ((lookup.batches.take index).map Batch.adapter).countP (fun sent => sent = adapter) := by
      rw [List.map_take, adapters, List.map_take]
    _ = World.callNumber lookup.batches index adapter := by
      rw [List.countP_map, List.countP_eq_length_filter]
      rfl

theorem lane_complete (settled : lookup.Settled outcomes) {index : Nat} {batch : Batch} {progress : Progress}
    (fetched : Fetched) (held : lookup.batches[index]? = some batch) (fetching : batch.progress = .fetching)
    (batches : later.batches = lookup.batches.set index { batch with progress := progress })
    (pending : later.pending = lookup.pending) (adapter : AdapterId) :
    later.lane (outcomes ++ [(index, fetched)]) adapter
      = if batch.adapter = adapter
        then (lookup.lane outcomes adapter).answer (World.callNumber lookup.batches index adapter) fetched
        else lookup.lane outcomes adapter := by
  have waits : later.waiting adapter = lookup.waiting adapter := by rw [waiting, waiting, pending]
  have stands : (lookup.shown outcomes)[index]? = some (batch.adapter, batch.entries, outcomes.lookup index) := by
    rw [shown, List.getElem?_mapIdx, held]
    rfl
  have changed := filter_modify (fun sent : AdapterId × List Entry × Option Fetched => sent.1 = adapter)
    (fun sent => (sent.1, sent.2.1, some fetched)) stands rfl
  have place := shown_before lookup outcomes index adapter
  rw [lane, waits, shown_complete settled held fetching batches, changed, place]
  by_cases here : batch.adapter = adapter
  · simp only [here, decide_true, if_true, Lane.answer, lane, Lane.mk.injEq, true_and]
    apply List.ext_getElem?
    intro other
    simp only [List.getElem?_map, List.getElem?_modify]
    cases ((lookup.shown outcomes).filter (fun sent => sent.1 = adapter))[other]? with
    | none => rfl
    | some sent => by_cases same : World.callNumber lookup.batches index adapter = other <;> simp [same]
  · simp only [here, decide_false, if_false, lane, Bool.false_eq_true]

theorem sent_lane {number : Nat} {sent : List Entry × Option Fetched} (stands : (lookup.lane outcomes adapter).sent[number]? = some sent) :
    ∃ index batch, lookup.batches[index]? = some batch ∧ batch.adapter = adapter ∧ batch.entries = sent.1
      ∧ outcomes.lookup index = sent.2 := by
  obtain ⟨⟨other, entries, outcome⟩, member, rfl⟩ := List.mem_map.mp (List.mem_of_getElem? stands)
  obtain ⟨shown, here⟩ := List.mem_filter.mp member
  obtain ⟨index, at_index⟩ := List.mem_iff_getElem?.mp shown
  rw [BatchLookup.shown, List.getElem?_mapIdx] at at_index
  obtain ⟨batch, held, same⟩ := Option.map_eq_some_iff.mp at_index
  cases same
  exact ⟨index, batch, held, of_decide_eq_true here, rfl, rfl⟩

def settledReplies (lookup : BatchLookup) : List (RequestId × Reply) := lookup.batches.flatMap Batch.unsent ++ lookup.replies

-- What a request resolves to, as soon as this is settled.
def told (lookup : BatchLookup) (request : RequestId) : Option (Option Values) :=
  (lookup.settledReplies.lookup request).map Reply.worth

theorem unsent_unanswered (batches : List Batch) :
    ((batches.flatMap Batch.unsent).map Prod.fst).Sublist (batches.flatMap Batch.unanswered) := by
  induction batches with
  | nil => exact .slnil
  | cons batch rest step =>
      rw [List.flatMap_cons, List.flatMap_cons, List.map_append]
      refine .append ?_ step
      unfold Batch.unsent Batch.unanswered
      cases batch.progress with
      | fetching => exact List.nil_sublist _
      | replying rest => exact .refl _

theorem settled_distinct (custody : lookup.Custody) : (lookup.settledReplies.map Prod.fst).Nodup := by
  have placed : (lookup.settledReplies.map Prod.fst).Sublist lookup.places := by
    rw [settledReplies, List.map_append, places, List.append_assoc]
    exact (List.Sublist.append (unsent_unanswered lookup.batches) (.refl _)).trans (List.sublist_append_right _ _)
  exact (requests_distinct custody).sublist placed

theorem told_settled (custody : lookup.Custody) {request : RequestId} {reply : Reply}
    (member : (request, reply) ∈ lookup.settledReplies) : lookup.told request = some reply.worth := by
  rw [told, lookup_of_mem (settled_distinct custody) member]
  rfl

theorem told_none {request : RequestId} (absent : request ∉ lookup.settledReplies.map Prod.fst) :
    lookup.told request = none := by
  have unknown : lookup.settledReplies.lookup request = none :=
    List.lookup_eq_none_iff.mpr (fun reply member => bne_iff_ne.mpr (fun same => absent (same ▸ List.mem_map_of_mem member)))
  rw [told, unknown, Option.map_none]

theorem settled_of_told {request : RequestId} {found : Option Values} (told : lookup.told request = some found) :
    ∃ reply, (request, reply) ∈ lookup.settledReplies ∧ reply.worth = found := by
  obtain ⟨reply, known, worth⟩ := Option.map_eq_some_iff.mp told
  obtain ⟨before, after, whole, _⟩ := List.lookup_eq_some_iff.mp known
  exact ⟨reply, whole ▸ List.mem_append_right _ List.mem_cons_self, worth⟩

theorem told_step {cause : Cause} (custody : lookup.Custody) (step : Step cause lookup later) {request : RequestId}
    {found : Option Values} (told : lookup.told request = some found) : later.told request = some found := by
  obtain ⟨reply, settled, worth⟩ := settled_of_told told
  suffices kept : (request, reply) ∈ later.settledReplies by
    rw [told_settled (custody_step custody step) kept, worth]
  have flushed (asked : BatchLookup) (wanted : AdapterId) (member : (request, reply) ∈ asked.settledReplies) :
      (request, reply) ∈ (asked.flushAdapter wanted).settledReplies := by
    rw [settledReplies, batches_flushAdapter, replies_flushAdapter, List.flatMap_append, List.append_assoc]
    rcases List.mem_append.mp member with unsent | given
    · exact List.mem_append_left _ unsent
    · exact List.mem_append_right _ (List.mem_append_right _ given)
  cases step with
  | queue => exact settled
  | fill => exact flushed _ _ settled
  | flush => exact flushed _ _ settled
  | @complete _ _ index batch fetched held fetching batches size pending replies =>
      have exchanged := flatMap_set_perm Batch.unsent { batch with progress := .replying (fetched.replies batch) } held
      have nothing : batch.unsent = [] := by rw [Batch.unsent, fetching]
      rw [nothing, List.append_nil] at exchanged
      rw [settledReplies, batches, replies]
      rcases List.mem_append.mp settled with unsent | given
      · exact List.mem_append_left _ (exchanged.mem_iff.mpr (List.mem_append_left _ unsent))
      · exact List.mem_append_right _ given
  | @reply _ _ index batch next rest held replying batches size pending replies =>
      have exchanged := flatMap_set_perm Batch.unsent { batch with progress := .replying rest } held
      have due : batch.unsent = next :: rest := by rw [Batch.unsent, replying]
      rw [due] at exchanged
      rw [settledReplies, batches, replies]
      rcases List.mem_append.mp settled with unsent | given
      · rcases List.mem_append.mp (exchanged.mem_iff.mpr (List.mem_append_left _ unsent)) with still | now
        · exact List.mem_append_left _ still
        · rcases List.mem_cons.mp now with first | later
          · exact List.mem_append_right _ (first ▸ List.mem_cons_self)
          · have stands : (lookup.batches.set index { batch with progress := .replying rest })[index]?
                = some { batch with progress := .replying rest } := (set_at _ held index).trans (if_pos rfl)
            exact List.mem_append_left _ (List.mem_flatMap.mpr ⟨_, List.mem_of_getElem? stands, later⟩)
      · exact List.mem_append_right _ (List.mem_cons_of_mem _ given)
  | quiet batches size pending replies =>
      rw [settledReplies, batches, replies]
      exact settled

theorem look_told (custody : lookup.Custody) {request : RequestId} {found : Option Values}
    (looked : lookup.look request = some (found, later)) : lookup.told request = some found := by
  cases known : lookup.reply? request with
  | none =>
      rw [look_unreplied known] at looked
      cases looked
  | some reply =>
      have worth := look_replied known
      rw [looked, Option.map_some, Option.some_inj] at worth
      obtain ⟨before, after, whole, _⟩ := List.lookup_eq_some_iff.mp known
      have given : (request, reply) ∈ lookup.settledReplies :=
        List.mem_append_right _ (whole ▸ List.mem_append_right _ List.mem_cons_self)
      rw [told_settled custody given]
      exact congrArg some worth.symm

theorem told_waiting (custody : lookup.Custody) {entry : Entry} (waits : entry ∈ lookup.waiting adapter) :
    lookup.told entry.request = none := by
  refine told_none (fun settled => ?_)
  have placed : entry.request ∈ requestsOf lookup.pending :=
    (requestsOf_split custody.ascending adapter).mem_iff.mpr (List.mem_append_left _ (List.mem_map_of_mem waits))
  have distinct := requests_distinct custody
  rw [places, List.append_assoc] at distinct
  rw [settledReplies, List.map_append] at settled
  have inside : entry.request ∈ lookup.unanswered ++ lookup.answered :=
    (List.Sublist.append (unsent_unanswered lookup.batches) (.refl _)).subset settled
  exact (List.nodup_append.mp distinct).2.2 _ placed _ inside rfl

theorem told_fetching (custody : lookup.Custody) {index : Nat} {batch : Batch} {entry : Entry}
    (held : lookup.batches[index]? = some batch) (fetching : batch.progress = .fetching) (member : entry ∈ batch.entries) :
    lookup.told entry.request = none := by
  have unanswered : entry.request ∈ batch.unanswered := by
    rw [Batch.unanswered, fetching]
    exact List.mem_map_of_mem member
  have distinct := requests_distinct custody
  refine told_none (fun settled => ?_)
  rw [settledReplies, List.map_append] at settled
  rcases List.mem_append.mp settled with unsent | given
  · obtain ⟨⟨request, reply⟩, told, same⟩ := List.mem_map.mp unsent
    obtain ⟨other, among, promised⟩ := List.mem_flatMap.mp told
    have apart : other ≠ batch := by
      rintro rfl
      rw [Batch.unsent, fetching] at promised
      cases promised
    have waits : entry.request ∈ other.unanswered := by
      have one := (unsent_unanswered [other]).subset
      simp only [List.flatMap_singleton] at one
      exact one (same ▸ List.mem_map_of_mem promised)
    have sent := (List.nodup_append.mp (List.nodup_append.mp distinct).1).2.1
    have symmetric : Std.Symm (Function.onFun List.Disjoint Batch.unanswered) := ⟨fun _ _ apart _ here there => apart there here⟩
    exact (List.nodup_flatMap.mp sent).2.forall among (List.mem_of_getElem? held) apart waits unanswered
  · exact (List.nodup_append.mp distinct).2.2 _ (List.mem_append_right _ (List.mem_flatMap.mpr
      ⟨batch, List.mem_of_getElem? held, unanswered⟩)) _ given rfl

theorem told_ended (custody : lookup.Custody) (settled : lookup.Settled outcomes) {index position : Nat} {batch : Batch}
    {entry : Entry} {fetched : Fetched} (held : lookup.batches[index]? = some batch)
    (ended : (index, fetched) ∈ outcomes) (placed : batch.entries[position]? = some entry) :
    lookup.told entry.request = some (fetched.answer position) := by
  obtain ⟨reply, due, worth⟩ := Fetched.replies_at placed fetched
  obtain ⟨same, stands, told⟩ := settled.told index fetched ended
  cases held.symm.trans stands
  rw [← worth]
  refine told_settled custody ?_
  rcases told _ due with unsent | given
  · exact List.mem_append_left _ (List.mem_flatMap.mpr ⟨batch, List.mem_of_getElem? held, unsent⟩)
  · exact List.mem_append_right _ given

end BatchLookup

namespace Lane

def value (lane : Lane Bytes) (number : Nat) (key : Bytes) : Option (Option Values) :=
  (lane.sent[number]?).bind (fun batch => batch.2.map (Fetched.answer (batch.1.idxOf key)))

end Lane

namespace BatchLookup

variable {lookup : BatchLookup} {outcomes : List (Nat × Fetched)} {adapter : AdapterId}

theorem told_lane (sound : lookup.Sound) (custody : lookup.Custody) (settled : lookup.Settled outcomes) {number : Nat}
    {entry : Entry} (holds : (lookup.lane outcomes adapter).Holds number entry) :
    lookup.told entry.request = ((lookup.lane outcomes adapter).map Entry.key).value number entry.key := by
  cases holds with
  | waits next member =>
      have past : ((lookup.lane outcomes adapter).map Entry.key).sent[number]? = none := by
        rw [next, Lane.map, List.getElem?_map, List.getElem?_length]
        rfl
      rw [Lane.value, past, told_waiting custody member]
      rfl
  | @sent sent stands member =>
      obtain ⟨index, batch, held, _, entries, outcome⟩ := sent_lane stands
      have shown : ((lookup.lane outcomes adapter).map Entry.key).sent[number]? = some (batch.keys, outcomes.lookup index) := by
        rw [Lane.map, List.getElem?_map, stands, Option.map_some, ← entries, ← outcome]
        rfl
      rw [← entries] at member
      rw [Lane.value, shown, Option.bind_some]
      cases ended : outcomes.lookup index with
      | none =>
          have fetching : batch.progress = .fetching := by
            refine (settled.fetching index batch held).mpr (fun listed => ?_)
            obtain ⟨⟨_, fetched⟩, member, rfl⟩ := List.mem_map.mp listed
            have unlisted := List.lookup_eq_none_iff.mp ended _ member
            exact bne_iff_ne.mp unlisted rfl
          rw [told_fetching custody held fetching member]
          rfl
      | some fetched =>
          obtain ⟨before, after, whole, _⟩ := List.lookup_eq_some_iff.mp ended
          have listed : (index, fetched) ∈ outcomes := whole ▸ List.mem_append_right _ List.mem_cons_self
          obtain ⟨position, placed⟩ := List.mem_iff_getElem?.mp member
          have distinct := (sound.proper (batch.adapter, batch.keys)
            (List.mem_map.mpr ⟨batch, List.mem_of_getElem? held, rfl⟩)).2.1
          have at_key : batch.keys[position]? = some entry.key := by rw [Batch.keys, List.getElem?_map, placed]; rfl
          have here : batch.keys.idxOf entry.key = position := by
            obtain ⟨bound, same⟩ := List.getElem?_eq_some_iff.mp at_key
            rw [← same]
            exact List.Nodup.idxOf_getElem distinct position bound
          rw [told_ended custody settled held listed placed]
          simp only [Option.map_some, here]

end BatchLookup

end ThinScan
