import ThinScan.Proofs.Custody

set_option autoImplicit false

namespace ThinScan

namespace Fetched

theorem replies_by_key (batch : Batch) (find : Bytes → Option Values) :
    (results (batch.keys.map find)).replies batch
      = batch.entries.map (fun entry => (entry.request, .values (find entry.key))) := by
  have assigned (entries : List Entry) : assign entries ((entries.map Entry.key).map find)
      = entries.map (fun entry => (entry.request, .values (find entry.key))) := by
    induction entries with
    | nil => rfl
    | cons entry rest step => rw [List.map_cons, List.map_cons, assign, step, List.map_cons]
  exact assigned batch.entries

end Fetched

namespace BatchLookup

variable {lookup later : BatchLookup} {find : AdapterId → Bytes → Option Values} {adapter : AdapterId} {key : Bytes}
  {request : RequestId}

def Promises (find : AdapterId → Bytes → Option Values) (adapter : AdapterId) (key : Bytes) (request : RequestId)
    (batch : Batch) : Prop :=
  match batch.progress with
  | .fetching => batch.adapter = adapter ∧ ⟨key, request⟩ ∈ batch.entries
  | .replying rest => (request, .values (find adapter key)) ∈ rest

inductive Due (find : AdapterId → Bytes → Option Values) (lookup : BatchLookup) (adapter : AdapterId) (key : Bytes)
    (request : RequestId) : Prop
  | waits (waits : ⟨key, request⟩ ∈ lookup.waiting adapter)
  | sent (index : Nat) (batch : Batch) (held : lookup.batches[index]? = some batch)
      (promises : Promises find adapter key request batch)
  | given (given : (request, .values (find adapter key)) ∈ lookup.replies)

theorem due_enqueue (due : Due find lookup adapter key request) (asked : AdapterId) (wanted : Bytes) :
    Due find (lookup.enqueue asked wanted) adapter key request := by
  cases due with
  | waits waits =>
      refine .waits ?_
      rw [waiting_enqueue]
      split
      · rename_i here
        subst here
        exact List.mem_append_left _ waits
      · exact waits
  | sent index batch held promises => exact .sent index batch held promises
  | given given => exact .given given

theorem due_flushAdapter (due : Due find lookup adapter key request) (flushed : AdapterId) :
    Due find (lookup.flushAdapter flushed) adapter key request := by
  cases due with
  | waits waits =>
      by_cases here : flushed = adapter
      · subst here
        have something : lookup.waiting flushed ≠ [] := List.ne_nil_of_mem waits
        refine .sent lookup.batches.length ⟨flushed, lookup.waiting flushed, lookup.bound, .fetching⟩ ?_ ⟨rfl, waits⟩
        rw [batches_flushAdapter, if_neg something]
        exact List.getElem?_concat_length
      · refine .waits ?_
        rw [waiting_flushAdapter, if_neg here]
        exact waits
  | sent index batch held promises =>
      refine .sent index batch ?_ promises
      obtain ⟨bound, _⟩ := List.getElem?_eq_some_iff.mp held
      rw [batches_flushAdapter, List.getElem?_append_left bound]
      exact held
  | given given =>
      refine .given ?_
      rw [replies_flushAdapter]
      exact given

def Honest (find : AdapterId → Bytes → Option Values) (lookup : BatchLookup) (cause : Cause) : Prop :=
  ∀ index fetched, cause = .answered index fetched → ∀ batch, lookup.batches[index]? = some batch →
    fetched = .results (batch.keys.map (find batch.adapter))

theorem due_step {cause : Cause} (due : Due find lookup adapter key request) (step : Step cause lookup later)
    (honest : Honest find lookup cause) : Due find later adapter key request := by
  have waits_on (pending : later.pending = lookup.pending) (waits : ⟨key, request⟩ ∈ lookup.waiting adapter) :
      Due find later adapter key request := by
    refine .waits ?_
    rw [waiting, pending]
    exact waits
  cases step with
  | queue => exact due_enqueue due _ _
  | fill => exact due_flushAdapter (due_enqueue due _ _) _
  | flush => exact due_flushAdapter due _
  | @complete _ _ index batch fetched held fetching batches size pending replies requests =>
      cases due with
      | waits waits => exact waits_on pending waits
      | given given => exact .given (replies ▸ given)
      | sent place other at_place promises =>
          by_cases here : index = place
          · subst here
            cases held.symm.trans at_place
            rw [Promises, fetching] at promises
            refine .sent index { batch with progress := .replying (fetched.replies batch) } ?_ ?_
            · rw [batches, set_at _ held, if_pos rfl]
            · have answered := honest index fetched rfl batch held
              rw [answered, Promises, Fetched.replies_by_key, promises.1]
              exact List.mem_map.mpr ⟨_, promises.2, rfl⟩
          · refine .sent place other ?_ promises
            rw [batches, set_at _ held, if_neg here]
            exact at_place
  | @reply _ _ index batch next rest held replying batches size pending replies requests =>
      cases due with
      | waits waits => exact waits_on pending waits
      | given given => exact .given (replies ▸ List.mem_cons_of_mem _ given)
      | sent place other at_place promises =>
          by_cases here : index = place
          · subst here
            cases held.symm.trans at_place
            rw [Promises, replying] at promises
            rcases List.mem_cons.mp promises with now | still
            · exact .given (replies ▸ now ▸ List.mem_cons_self)
            · refine .sent index { batch with progress := .replying rest } ?_ still
              rw [batches, set_at _ held, if_pos rfl]
          · refine .sent place other ?_ promises
            rw [batches, set_at _ held, if_neg here]
            exact at_place
  | quiet batches size pending replies requests =>
      cases due with
      | waits waits => exact waits_on pending waits
      | given given => exact .given (replies ▸ given)
      | sent place other at_place promises => exact .sent place other (batches ▸ at_place) promises

theorem due_request (find : AdapterId → Bytes → Option Values) (lookup : BatchLookup) (adapter : AdapterId) (key : Bytes) :
    Due find (lookup.request adapter key).2 adapter key (lookup.request adapter key).1 := by
  by_cases waits : key ∈ lookup.waitingKeys adapter
  · obtain ⟨entry, member, same, joined⟩ := request_joined waits
    rw [joined, ← same]
    exact .waits member
  · have queued : Due find (lookup.enqueue adapter key) adapter key lookup.requests := by
      refine .waits ?_
      rw [waiting_enqueue, if_pos rfl]
      exact List.mem_append_right _ (List.mem_singleton.mpr rfl)
    rw [request_fresh waits]
    dsimp only
    split
    · exact due_flushAdapter queued adapter
    · exact queued

theorem lookup_of_mem {replies : List (RequestId × Reply)} {reply : Reply} (distinct : (replies.map Prod.fst).Nodup)
    (member : (request, reply) ∈ replies) : replies.lookup request = some reply := by
  induction replies with
  | nil => cases member
  | cons first rest step =>
      rw [List.map_cons, List.nodup_cons] at distinct
      rcases List.mem_cons.mp member with here | there
      · rw [← here]
        exact List.lookup_cons_self
      · have different : request ≠ first.1 := fun same =>
          distinct.1 (same ▸ List.mem_map_of_mem there)
        rw [List.lookup_cons, beq_false_of_ne different]
        exact step distinct.2 there

theorem answer_of_due (custody : lookup.Custody) (due : Due find lookup adapter key request) {reply : Reply}
    (known : lookup.reply? request = some reply) : lookup.answer? request = find adapter key := by
  have distinct := List.nodup_append.mp (requests_distinct custody)
  have answered : request ∈ lookup.answered := by
    obtain ⟨before, after, whole, _⟩ := List.lookup_eq_some_iff.mp known
    rw [BatchLookup.answered, whole]
    simp
  cases due with
  | waits waits =>
      have placed := (requestsOf_split custody.ascending adapter).mem_iff.mpr
        (List.mem_append_left _ (List.mem_map_of_mem waits))
      exact absurd rfl (distinct.2.2 request (List.mem_append_left _ placed) request answered)
  | sent index batch held promises =>
      have open_ : request ∈ batch.unanswered := by
        cases progress : batch.progress with
        | fetching =>
            rw [Promises, progress] at promises
            rw [Batch.unanswered, progress]
            exact List.mem_map.mpr ⟨_, promises.2, rfl⟩
        | replying rest =>
            rw [Promises, progress] at promises
            rw [Batch.unanswered, progress]
            exact List.mem_map.mpr ⟨_, promises, rfl⟩
      have placed : request ∈ lookup.unanswered := List.mem_flatMap.mpr ⟨batch, List.mem_of_getElem? held, open_⟩
      exact absurd rfl (distinct.2.2 request (List.mem_append_right _ placed) request answered)
  | given given =>
      rw [answer?, reply?, lookup_of_mem distinct.2.1 given]

structure Uses (params : Params) (lookup : BatchLookup) : Prop where
  bound : lookup.bound = params
  sent : ∀ batch ∈ lookup.batches, batch.params = params

variable {params : Params}

theorem uses_flushAdapter (uses : lookup.Uses params) (adapter : AdapterId) : (lookup.flushAdapter adapter).Uses params := by
  refine ⟨(bound_flushAdapter lookup adapter).trans uses.bound, fun batch member => ?_⟩
  rw [batches_flushAdapter] at member
  rcases List.mem_append.mp member with earlier | fresh
  · exact uses.sent batch earlier
  · split at fresh
    · cases fresh
    · rw [List.mem_singleton.mp fresh]
      exact uses.bound

theorem uses_request (uses : lookup.Uses params) (adapter : AdapterId) (key : Bytes) :
    (lookup.request adapter key).2.Uses params := by
  by_cases waits : key ∈ lookup.waitingKeys adapter
  · obtain ⟨entry, _, _, joined⟩ := request_joined waits
    rw [joined]
    exact uses
  · have queued : (lookup.enqueue adapter key).Uses params := ⟨uses.bound, uses.sent⟩
    rw [request_fresh waits]
    dsimp only
    split
    · exact uses_flushAdapter queued adapter
    · exact queued

theorem uses_retire (uses : lookup.Uses params) : lookup.retire.2.Uses params := by
  unfold retire
  split <;> exact ⟨uses.bound, uses.sent⟩

theorem uses_complete {index : Nat} {fetched : Fetched} (uses : lookup.Uses params)
    (taken : lookup.complete index fetched = some later) : later.Uses params := by
  refine ⟨(kept_complete taken).2.2.trans uses.bound, ?_⟩
  simp only [complete, Option.bind_eq_bind, Option.bind_eq_some_iff] at taken
  obtain ⟨batch, held, taken⟩ := taken
  split at taken <;> cases taken
  exact forall_set uses.sent (uses.sent batch (List.mem_of_getElem? held))

theorem uses_reply {index : Nat} (uses : lookup.Uses params) (taken : lookup.reply index = some later) :
    later.Uses params := by
  refine ⟨(kept_reply taken).2.2.trans uses.bound, ?_⟩
  simp only [reply, Option.bind_eq_bind, Option.bind_eq_some_iff] at taken
  obtain ⟨batch, held, taken⟩ := taken
  split at taken <;> cases taken
  exact forall_set uses.sent (uses.sent batch (List.mem_of_getElem? held))

theorem uses_look {found : Option Values} (uses : lookup.Uses params)
    (settled : lookup.look request = some (found, later)) : later.Uses params := by
  obtain ⟨_, _, bound, batches⟩ := kept_look settled
  exact ⟨bound.trans uses.bound, batches ▸ uses.sent⟩

end BatchLookup

end ThinScan
