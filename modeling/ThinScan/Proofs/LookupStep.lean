import ThinScan.Clients
import ThinScan.Proofs.TableOrder

set_option autoImplicit false

namespace ThinScan

namespace BatchLookup

variable {lookup later : BatchLookup}

def waitingKeys (lookup : BatchLookup) (adapter : AdapterId) : List Bytes :=
  (lookup.waiting adapter).map Entry.key

theorem waiting_enqueue (lookup : BatchLookup) (adapter other : AdapterId) (key : Bytes) :
    (lookup.enqueue adapter key).waiting other
      = if adapter = other then lookup.waiting adapter ++ [⟨key, lookup.requests⟩] else lookup.waiting other := by
  simp only [waiting, enqueue, Table.find_insert]
  split <;> rfl

theorem waiting_flushAdapter (lookup : BatchLookup) (adapter other : AdapterId) :
    (lookup.flushAdapter adapter).waiting other = if adapter = other then [] else lookup.waiting other := by
  unfold flushAdapter
  split
  · rename_i nothing
    split
    · rename_i same
      rw [← same, nothing]
    · rfl
  · simp only [waiting, dispatch, Table.find_erase]
    split <;> rfl

theorem batches_flushAdapter (lookup : BatchLookup) (adapter : AdapterId) :
    (lookup.flushAdapter adapter).batches = lookup.batches
      ++ if lookup.waiting adapter = [] then []
        else [⟨adapter, lookup.waiting adapter, lookup.bound, .fetching⟩] := by
  unfold flushAdapter
  split
  · rename_i nothing
    simp [nothing]
  · rename_i entry rest something
    simp [something, dispatch, bound]

theorem pending_flushAdapter (lookup : BatchLookup) (adapter : AdapterId) :
    (lookup.flushAdapter adapter).pending = lookup.pending
      ∨ (lookup.flushAdapter adapter).pending = lookup.pending.erase adapter := by
  unfold flushAdapter
  split
  · exact .inl rfl
  · exact .inr rfl

@[simp] theorem batchSize_flushAdapter (lookup : BatchLookup) (adapter : AdapterId) :
    (lookup.flushAdapter adapter).batchSize = lookup.batchSize := by unfold flushAdapter; split <;> rfl

@[simp] theorem requests_flushAdapter (lookup : BatchLookup) (adapter : AdapterId) :
    (lookup.flushAdapter adapter).requests = lookup.requests := by unfold flushAdapter; split <;> rfl

@[simp] theorem replies_flushAdapter (lookup : BatchLookup) (adapter : AdapterId) :
    (lookup.flushAdapter adapter).replies = lookup.replies := by unfold flushAdapter; split <;> rfl

@[simp] theorem active_flushAdapter (lookup : BatchLookup) (adapter : AdapterId) :
    (lookup.flushAdapter adapter).active = lookup.active := by unfold flushAdapter; split <;> rfl

theorem bound_flushAdapter (lookup : BatchLookup) (adapter : AdapterId) :
    (lookup.flushAdapter adapter).bound = lookup.bound := by unfold flushAdapter; split <;> rfl

theorem find_waiting_none {adapter : AdapterId} {key : Bytes} :
    (lookup.waiting adapter).find? (fun entry => entry.key = key) = none ↔ key ∉ lookup.waitingKeys adapter := by
  simp [waitingKeys]

theorem request_joined {adapter : AdapterId} {key : Bytes} (waits : key ∈ lookup.waitingKeys adapter) :
    ∃ entry ∈ lookup.waiting adapter, entry.key = key ∧ lookup.request adapter key = (entry.request, lookup) := by
  have found : ∃ entry, (lookup.waiting adapter).find? (fun entry => entry.key = key) = some entry := by
    apply Option.ne_none_iff_exists'.mp
    rw [ne_eq, find_waiting_none]
    exact fun absent => absent waits
  obtain ⟨entry, found⟩ := found
  have same : entry.key = key := by simpa using List.find?_some found
  exact ⟨entry, List.mem_of_find?_eq_some found, same, by simp only [request, found]⟩

theorem request_fresh {adapter : AdapterId} {key : Bytes} (absent : key ∉ lookup.waitingKeys adapter) :
    lookup.request adapter key = (lookup.requests,
      if lookup.batchSize ≤ (lookup.waiting adapter).length + 1
        then (lookup.enqueue adapter key).flushAdapter adapter
        else lookup.enqueue adapter key) := by
  have missing := find_waiting_none.mpr absent
  simp only [request, missing, waiting_enqueue, if_true, List.length_append, List.length_singleton]

@[simp] theorem active_request (lookup : BatchLookup) (adapter : AdapterId) (key : Bytes) :
    (lookup.request adapter key).2.active = lookup.active := by
  unfold request
  split
  · rfl
  · dsimp only
    split
    · exact active_flushAdapter _ _
    · rfl

theorem kept_complete {index : Nat} {fetched : Fetched} (taken : lookup.complete index fetched = some later) :
    later.active = lookup.active ∧ later.pending = lookup.pending ∧ later.bound = lookup.bound := by
  simp only [complete, Option.bind_eq_bind, Option.bind_eq_some_iff] at taken
  obtain ⟨batch, held, taken⟩ := taken
  split at taken <;> cases taken
  exact ⟨rfl, rfl, rfl⟩

theorem kept_reply {index : Nat} (taken : lookup.reply index = some later) :
    later.active = lookup.active ∧ later.pending = lookup.pending ∧ later.bound = lookup.bound := by
  simp only [reply, Option.bind_eq_bind, Option.bind_eq_some_iff] at taken
  obtain ⟨batch, held, taken⟩ := taken
  split at taken <;> cases taken
  exact ⟨rfl, rfl, rfl⟩

theorem kept_look {request : RequestId} {found : Option Values} (settled : lookup.look request = some (found, later)) :
    later.active = lookup.active ∧ later.pending = lookup.pending ∧ later.bound = lookup.bound
      ∧ later.batches = lookup.batches := by
  unfold look at settled
  split at settled
  · cases settled
  · cases settled; exact ⟨rfl, rfl, rfl, rfl⟩
  · split at settled <;> (cases settled; exact ⟨rfl, rfl, rfl, rfl⟩)

theorem active_setParams {params : Params} (set : lookup.setParams params = .ok later) :
    later.active = lookup.active := by
  unfold setParams at set
  split at set <;> cases set
  rfl

theorem retire_counted (counted : 0 < lookup.active) :
    lookup.retire.2.active + 1 = lookup.active ∧ (lookup.retire.1 = true ↔ lookup.active = 1) := by
  unfold retire
  split
  · rename_i none_active
    omega
  · rename_i left counts
    rw [counts]
    simp

-- Why something changes: a key that does not wait yet is asked for, an adapter is flushed, a fetch ends, or none of
-- these.
inductive Cause where
  | asked (adapter : AdapterId) (key : Bytes)
  | flushed (adapter : AdapterId)
  | answered (index : Nat) (fetched : Fetched)
  | other

inductive Step : Cause → BatchLookup → BatchLookup → Prop
  | queue {lookup : BatchLookup} {adapter : AdapterId} {key : Bytes}
      (absent : key ∉ lookup.waitingKeys adapter) (room : (lookup.waiting adapter).length + 1 < lookup.batchSize) :
      Step (.asked adapter key) lookup (lookup.enqueue adapter key)
  | fill {lookup : BatchLookup} {adapter : AdapterId} {key : Bytes}
      (absent : key ∉ lookup.waitingKeys adapter) (full : lookup.batchSize ≤ (lookup.waiting adapter).length + 1) :
      Step (.asked adapter key) lookup ((lookup.enqueue adapter key).flushAdapter adapter)
  | flush {lookup : BatchLookup} (adapter : AdapterId) : Step (.flushed adapter) lookup (lookup.flushAdapter adapter)
  | complete {lookup later : BatchLookup} {index : Nat} {batch : Batch} {fetched : Fetched}
      (held : lookup.batches[index]? = some batch) (fetching : batch.progress = .fetching)
      (batches : later.batches = lookup.batches.set index { batch with progress := .replying (fetched.replies batch) })
      (size : later.batchSize = lookup.batchSize) (pending : later.pending = lookup.pending)
      (replies : later.replies = lookup.replies) (requests : later.requests = lookup.requests) :
      Step (.answered index fetched) lookup later
  | reply {lookup later : BatchLookup} {index : Nat} {batch : Batch} {next : RequestId × Reply}
      {rest : List (RequestId × Reply)}
      (held : lookup.batches[index]? = some batch) (replying : batch.progress = .replying (next :: rest))
      (batches : later.batches = lookup.batches.set index { batch with progress := .replying rest })
      (size : later.batchSize = lookup.batchSize) (pending : later.pending = lookup.pending)
      (replies : later.replies = next :: lookup.replies) (requests : later.requests = lookup.requests) :
      Step .other lookup later
  -- Counting scans, binding params and reporting leave all that is stored.
  | quiet {lookup later : BatchLookup} (batches : later.batches = lookup.batches)
      (size : later.batchSize = lookup.batchSize) (pending : later.pending = lookup.pending)
      (replies : later.replies = lookup.replies) (requests : later.requests = lookup.requests) :
      Step .other lookup later

theorem Step.refl (lookup : BatchLookup) : Step .other lookup lookup := .quiet rfl rfl rfl rfl rfl

def requestCause (lookup : BatchLookup) (adapter : AdapterId) (key : Bytes) : Cause :=
  if key ∈ lookup.waitingKeys adapter then .other else .asked adapter key

theorem request_step (lookup : BatchLookup) (adapter : AdapterId) (key : Bytes) :
    Step (lookup.requestCause adapter key) lookup (lookup.request adapter key).2 := by
  by_cases waits : key ∈ lookup.waitingKeys adapter
  · obtain ⟨entry, _, _, joined⟩ := request_joined waits
    rw [joined, requestCause, if_pos waits]
    exact .refl lookup
  · rw [request_fresh waits, requestCause, if_neg waits]
    by_cases full : lookup.batchSize ≤ (lookup.waiting adapter).length + 1
    · simpa only [if_pos full] using Step.fill waits full
    · simpa only [if_neg full] using Step.queue waits (Nat.not_le.mp full)

theorem initiate_step (lookup : BatchLookup) : Step .other lookup lookup.initiate := .quiet rfl rfl rfl rfl rfl

theorem retire_step (lookup : BatchLookup) : Step .other lookup lookup.retire.2 := by
  unfold retire
  split <;> exact .quiet rfl rfl rfl rfl rfl

theorem look_step {request : RequestId} {found : Option Values} (settled : lookup.look request = some (found, later)) :
    Step .other lookup later := by
  unfold look at settled
  split at settled
  · cases settled
  · cases settled; exact .refl lookup
  · split at settled <;> (cases settled; exact .quiet rfl rfl rfl rfl rfl)

theorem complete_step {index : Nat} {fetched : Fetched} (taken : lookup.complete index fetched = some later) :
    Step (.answered index fetched) lookup later := by
  simp only [complete, Option.bind_eq_bind, Option.bind_eq_some_iff] at taken
  obtain ⟨batch, held, taken⟩ := taken
  split at taken
  · rename_i fetching
    cases taken
    exact .complete held (by simpa [Batch.isFetching] using fetching) rfl rfl rfl rfl rfl
  · cases taken

theorem reply_step {index : Nat} (taken : lookup.reply index = some later) : Step .other lookup later := by
  simp only [reply, Option.bind_eq_bind, Option.bind_eq_some_iff] at taken
  obtain ⟨batch, held, taken⟩ := taken
  split at taken
  · rename_i replying
    cases taken
    exact .reply held replying rfl rfl rfl rfl rfl
  · cases taken

theorem setParams_step {params : Params} (set : lookup.setParams params = .ok later) : Step .other lookup later := by
  unfold setParams at set
  split at set
  · cases set; exact .quiet rfl rfl rfl rfl rfl
  · cases set

theorem waiting_of_flush {adapter other : AdapterId} {entry : Entry}
    (member : entry ∈ (lookup.flushAdapter adapter).waiting other) : entry ∈ lookup.waiting other := by
  rw [waiting_flushAdapter] at member
  split at member
  · cases member
  · exact member

theorem waiting_of_enqueue {adapter other : AdapterId} {key : Bytes} {entry : Entry}
    (member : entry ∈ (lookup.enqueue adapter key).waiting other) :
    entry ∈ lookup.waiting other ∨ (adapter = other ∧ entry = ⟨key, lookup.requests⟩) := by
  rw [waiting_enqueue] at member
  split at member
  · rename_i here
    subst here
    exact (List.mem_append.mp member).imp_right (fun fresh => ⟨rfl, List.mem_singleton.mp fresh⟩)
  · exact .inl member

theorem waiting_step {cause : Cause} {adapter : AdapterId} {entry : Entry} (step : Step cause lookup later)
    (member : entry ∈ later.waiting adapter) :
    entry ∈ lookup.waiting adapter ∨ (cause = .asked adapter entry.key ∧ entry.request = lookup.requests) := by
  have stored (pending : later.pending = lookup.pending) : entry ∈ lookup.waiting adapter := by
    simpa only [waiting, pending] using member
  cases step with
  | queue absent room =>
      rcases waiting_of_enqueue member with earlier | ⟨here, fresh⟩
      · exact .inl earlier
      · rw [here, fresh]
        exact .inr ⟨rfl, rfl⟩
  | fill absent full =>
      rcases waiting_of_enqueue (waiting_of_flush member) with earlier | ⟨here, fresh⟩
      · exact .inl earlier
      · rw [here, fresh]
        exact .inr ⟨rfl, rfl⟩
  | flush other => exact .inl (waiting_of_flush member)
  | complete held fetching batches size pending => exact .inl (stored pending)
  | reply held replying batches size pending => exact .inl (stored pending)
  | quiet batches size pending => exact .inl (stored pending)

def Cause.requests : Cause → Nat
  | .asked _ _ => 1
  | _ => 0

theorem requests_step {cause : Cause} (step : Step cause lookup later) :
    later.requests = lookup.requests + cause.requests := by
  cases step with
  | queue => rfl
  | fill => rw [requests_flushAdapter]; rfl
  | flush => rw [requests_flushAdapter]; rfl
  | complete held fetching batches size pending replies requests => exact requests
  | reply held replying batches size pending replies requests => exact requests
  | quiet batches size pending replies requests => exact requests

theorem batchSize_step {cause : Cause} (step : Step cause lookup later) : later.batchSize = lookup.batchSize := by
  cases step with
  | queue => rfl
  | fill => exact batchSize_flushAdapter _ _
  | flush => exact batchSize_flushAdapter _ _
  | complete held fetching batches size => exact size
  | reply held replying batches size => exact size
  | quiet batches size => exact size

end BatchLookup

namespace Clients

variable {clients later : Clients}

def cause (clients : Clients) : Act → BatchLookup.Cause
  | .request adapter key => clients.lookup.requestCause adapter key
  | .flushAdapter adapter => .flushed adapter
  | .flushNext _ adapter => .flushed adapter
  | .complete batch fetched => .answered batch fetched
  | _ => .other

inductive Move : Act → Clients → Clients → Prop
  | request {clients : Clients} (adapter : AdapterId) (key : Bytes) :
      Move (.request adapter key) clients (clients.withLookup (clients.lookup.request adapter key).2)
  | flushAdapter {clients : Clients} (adapter : AdapterId) :
      Move (.flushAdapter adapter) clients (clients.withLookup (clients.lookup.flushAdapter adapter))
  | flush {clients : Clients} : Move .flush clients clients.beginFlush
  | list {clients : Clients} {flush : Nat} (unlisted : clients.flushes[flush]? = some none) :
      Move (.list flush) clients
        { clients with flushes := clients.flushes.set flush (some clients.lookup.pending.keys) }
  | next {clients : Clients} {flush : Nat} {adapter : AdapterId} {left : List AdapterId}
      (listed : clients.flushes[flush]? = some (some left)) (member : adapter ∈ left) :
      Move (.flushNext flush adapter) clients
        { lookup := clients.lookup.flushAdapter adapter
          flushes := clients.flushes.set flush (some (left.erase adapter)) }
  | initiate {clients : Clients} : Move .initiate clients (clients.withLookup clients.lookup.initiate)
  | exhaust {clients : Clients} (others : clients.lookup.retire.1 = false) :
      Move .exhaust clients (clients.withLookup clients.lookup.retire.2)
  | exhaustLast {clients : Clients} (last : clients.lookup.retire.1 = true) :
      Move .exhaust clients (clients.withLookup clients.lookup.retire.2).beginFlush
  | setParams {clients : Clients} {params : Params} {bound : BatchLookup}
      (set : clients.lookup.setParams params = .ok bound) : Move (.setParams params) clients (clients.withLookup bound)
  | refuse {clients : Clients} (params : Params) : Move (.setParams params) clients clients
  | readParams {clients : Clients} : Move .readParams clients (clients.withLookup clients.lookup.bind)
  | complete {clients : Clients} {batch : Nat} {fetched : Fetched} {lookup : BatchLookup}
      (taken : clients.lookup.complete batch fetched = some lookup) :
      Move (.complete batch fetched) clients (clients.withLookup lookup)
  | reply {clients : Clients} {batch : Nat} {lookup : BatchLookup} (taken : clients.lookup.reply batch = some lookup) :
      Move (.reply batch) clients (clients.withLookup lookup)
  | look {clients : Clients} {request : RequestId} {found : Option Values} {lookup : BatchLookup}
      (settled : clients.lookup.look request = some (found, lookup)) :
      Move (.look request) clients (clients.withLookup lookup)

theorem move_of_act {action : Act} (taken : clients.act action = some later) : Move action clients later := by
  cases action with
  | request adapter key => cases taken; exact .request adapter key
  | flushAdapter adapter => cases taken; exact .flushAdapter adapter
  | flush => cases taken; exact .flush
  | list flush =>
      simp only [act, list, Option.bind_eq_bind, Option.bind_eq_some_iff] at taken
      obtain ⟨left, held, taken⟩ := taken
      cases left with
      | none => cases taken; exact .list held
      | some left => cases taken
  | flushNext flush adapter =>
      simp only [act, flushNext, Option.bind_eq_bind, Option.bind_eq_some_iff] at taken
      obtain ⟨left, held, taken⟩ := taken
      cases left with
      | none => cases taken
      | some left =>
          dsimp only at taken
          split at taken
          · rename_i member
            cases taken
            exact .next held member
          · cases taken
  | initiate => cases taken; exact .initiate
  | exhaust =>
      cases taken
      by_cases last : clients.lookup.retire.1 = true
      · rw [exhaust, if_pos last]
        exact .exhaustLast last
      · rw [exhaust, if_neg last]
        exact .exhaust (Bool.eq_false_iff.mpr last)
  | setParams params =>
      cases taken
      unfold setParams
      split
      · rename_i set
        exact .setParams set
      · exact .refuse params
  | readParams => cases taken; exact .readParams
  | complete batch fetched =>
      obtain ⟨completed, given, rfl⟩ := Option.map_eq_some_iff.mp taken
      exact .complete given
  | reply batch =>
      obtain ⟨replied, given, rfl⟩ := Option.map_eq_some_iff.mp taken
      exact .reply given
  | look request =>
      obtain ⟨looked, given, rfl⟩ := Option.map_eq_some_iff.mp taken
      exact .look given

theorem step_of_act {action : Act} (taken : clients.act action = some later) :
    BatchLookup.Step (clients.cause action) clients.lookup later.lookup := by
  cases move_of_act taken with
  | request adapter key => exact BatchLookup.request_step _ _ _
  | flushAdapter adapter => exact .flush adapter
  | next listed member => exact .flush _
  | initiate => exact BatchLookup.initiate_step _
  | exhaust others => exact BatchLookup.retire_step _
  | exhaustLast last => exact BatchLookup.retire_step _
  | setParams set => exact BatchLookup.setParams_step set
  | readParams => exact .quiet rfl rfl rfl rfl rfl
  | complete given => exact BatchLookup.complete_step given
  | reply given => exact BatchLookup.reply_step given
  | look settled => exact BatchLookup.look_step settled
  | _ => exact .refl _

end Clients

end ThinScan
