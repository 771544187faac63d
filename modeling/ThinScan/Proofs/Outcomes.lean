import ThinScan.Proofs.Answers

set_option autoImplicit false

namespace ThinScan

namespace Event

def isMismatch : Event → Bool
  | resultsMissing .. => true
  | resultsSurplus .. => true
  | _ => false

def isFailure : Event → Bool
  | batchFailed .. => true
  | _ => false

def ofBatch (event : Event) : Bool := event.isMismatch || event.isFailure

def isLoss : Event → Bool
  | lookupFailed .. => true
  | lookupAbandoned .. => true
  | _ => false

def isAside : Event → Bool
  | batchDispatched .. => true
  | event => event.isLoss

theorem aside_of_loss {event : Event} (loss : event.isLoss = true) : event.isAside = true := by
  cases event with
  | lookupFailed => rfl
  | lookupAbandoned => rfl
  | _ => cases loss

theorem kinds_of_aside {event : Event} (aside : event.isAside = true) :
    event.ofBatch = false ∧ event ≠ .exhaustedUninitiated := by
  cases event with
  | batchDispatched => exact ⟨rfl, nofun⟩
  | lookupFailed => exact ⟨rfl, nofun⟩
  | lookupAbandoned => exact ⟨rfl, nofun⟩
  | _ => cases aside

end Event

namespace Reply

def worth : Reply → Option Values
  | values found => found
  | lost _ => none

def Personal (reply : Reply) : Prop := ∀ event, reply = .lost event → event.isLoss = true

end Reply

namespace Fetched

-- What a fetch has found for a position. Nothing, if it is lost or falls short.
def answer (position : Nat) : Fetched → Option Values
  | results found => found.getD position none
  | _ => none

def mismatches (size : Nat) : Fetched → Nat
  | results found => if found.length = size then 0 else 1
  | _ => 0

def failures : Fetched → Nat
  | failed _ => 1
  | _ => 0

theorem assign_at {entries : List Entry} {position : Nat} {entry : Entry} (held : entries[position]? = some entry)
    (found : List (Option Values)) : (entry.request, .values (found.getD position none)) ∈ assign entries found := by
  induction entries generalizing found position with
  | nil => cases held
  | cons first rest step =>
      cases position with
      | zero =>
          cases held
          cases found with
          | nil => exact List.mem_cons_self
          | cons value others => exact List.mem_cons_self
      | succ before =>
          cases found with
          | nil => exact List.mem_cons_of_mem _ (step held [])
          | cons value others => exact List.mem_cons_of_mem _ (step held others)

theorem replies_at {batch : Batch} {position : Nat} {entry : Entry} (held : batch.entries[position]? = some entry)
    (fetched : Fetched) :
    ∃ reply, (entry.request, reply) ∈ fetched.replies batch ∧ reply.worth = fetched.answer position := by
  have member : entry ∈ batch.entries := List.mem_of_getElem? held
  cases fetched with
  | results found => exact ⟨_, assign_at held found, rfl⟩
  | failed cause => exact ⟨_, List.mem_map_of_mem member, rfl⟩
  | crashed => exact ⟨_, List.mem_map_of_mem member, rfl⟩

theorem replies_personal (batch : Batch) (fetched : Fetched) : ∀ told ∈ fetched.replies batch, told.2.Personal := by
  have assigned (entries : List Entry) (found : List (Option Values)) : ∀ told ∈ assign entries found, told.2.Personal := by
    induction entries generalizing found with
    | nil => exact fun _ member => absurd member List.not_mem_nil
    | cons entry rest step =>
        intro told member event lost
        cases found with
        | nil =>
            rcases List.mem_cons.mp member with rfl | later
            · cases lost
            · exact step [] told later event lost
        | cons value others =>
            rcases List.mem_cons.mp member with rfl | later
            · cases lost
            · exact step others told later event lost
  cases fetched with
  | results found => exact assigned batch.entries found
  | failed cause =>
      intro told member event lost
      obtain ⟨entry, _, rfl⟩ := List.mem_map.mp member
      cases lost
      rfl
  | crashed =>
      intro told member event lost
      obtain ⟨entry, _, rfl⟩ := List.mem_map.mp member
      cases lost
      rfl

theorem replies_progress (batch : Batch) (progress : Progress) (fetched : Fetched) :
    fetched.replies { batch with progress := progress } = fetched.replies batch := by cases fetched <;> rfl

theorem events_progress (batch : Batch) (progress : Progress) (fetched : Fetched) :
    fetched.events { batch with progress := progress } = fetched.events batch := by cases fetched <;> rfl

structure Reported (batch : Batch) (fetched : Fetched) (log : List Event) : Prop where
  mismatches : log.countP Event.isMismatch = fetched.mismatches batch.entries.length
  failures : log.countP Event.isFailure = fetched.failures
  warnings : ∀ event ∈ log, event.ofBatch = true ∧ event.level = .warn

theorem events_reported (batch : Batch) (fetched : Fetched) : fetched.Reported batch (fetched.events batch) := by
  cases fetched with
  | results found =>
      rcases Nat.lt_trichotomy found.length batch.entries.length with short | equal | long
      · rw [events, if_pos short]
        exact ⟨(if_neg (Nat.ne_of_lt short)).symm, rfl, by simp [Event.ofBatch, Event.isMismatch, Event.level]⟩
      · rw [events, if_neg (Nat.not_lt_of_le (Nat.le_of_eq equal.symm)), if_neg (Nat.not_lt_of_le (Nat.le_of_eq equal))]
        exact ⟨(if_pos equal).symm, rfl, by simp⟩
      · rw [events, if_neg (Nat.lt_asymm long), if_pos long]
        exact ⟨(if_neg (Nat.ne_of_gt long)).symm, rfl, by simp [Event.ofBatch, Event.isMismatch, Event.level]⟩
  | failed cause => exact ⟨rfl, rfl, by simp [events, Event.ofBatch, Event.isFailure, Event.level]⟩
  | crashed => exact ⟨rfl, rfl, by simp [events]⟩

theorem events_ofBatch (batch : Batch) (fetched : Fetched) :
    (fetched.events batch).filter Event.ofBatch = fetched.events batch :=
  List.filter_eq_self.mpr (fun event member => ((events_reported batch fetched).warnings event member).1)

end Fetched

namespace BatchLookup

variable {lookup later : BatchLookup} {request : RequestId} {outcomes : List (Nat × Fetched)}

theorem personal_of_replied {reply : Reply} (given : ∀ told ∈ lookup.replies, told.2.Personal)
    (known : lookup.reply? request = some reply) : reply.Personal := by
  obtain ⟨before, after, whole, _⟩ := List.lookup_eq_some_iff.mp known
  exact given (request, reply) (whole ▸ List.mem_append_right _ List.mem_cons_self)

theorem look_unreplied (unknown : lookup.reply? request = none) : lookup.look request = none := by
  rw [look, unknown]

theorem look_replied {reply : Reply} (known : lookup.reply? request = some reply) :
    (lookup.look request).map Prod.fst = some reply.worth := by
  rw [look, known]
  cases reply with
  | values found => rfl
  | lost event => dsimp only; split <;> rfl

theorem unreplied_of_open (custody : lookup.Custody)
    (member : request ∈ requestsOf lookup.pending ++ lookup.unanswered) : lookup.reply? request = none := by
  have apart := (List.nodup_append.mp (requests_distinct custody)).2.2 request member
  refine List.lookup_eq_none_iff.mpr (fun told given => ?_)
  have different : request ≠ told.1 := apart told.1 (List.mem_map_of_mem given)
  exact bne_iff_ne.mpr different

theorem unreplied_of_waiting (custody : lookup.Custody) {adapter : AdapterId} {entry : Entry}
    (waits : entry ∈ lookup.waiting adapter) : lookup.reply? entry.request = none :=
  unreplied_of_open custody (List.mem_append_left _ ((requestsOf_split custody.ascending adapter).mem_iff.mpr
    (List.mem_append_left _ (List.mem_map_of_mem waits))))

theorem unreplied_of_unanswered (custody : lookup.Custody) {batch : Batch} (held : batch ∈ lookup.batches)
    (waits : request ∈ batch.unanswered) : lookup.reply? request = none :=
  unreplied_of_open custody (List.mem_append_right _ (List.mem_flatMap.mpr ⟨batch, held, waits⟩))

theorem reply_next {index : Nat} {batch : Batch} {next : RequestId × Reply} {rest : List (RequestId × Reply)}
    (stands : lookup.batches[index]? = some { batch with progress := .replying (next :: rest) }) :
    ∃ replied, lookup.reply index = some replied
      ∧ replied.batches[index]? = some { batch with progress := .replying rest } := by
  rw [reply, stands]
  exact ⟨_, rfl, (set_at _ stands index).trans (if_pos rfl)⟩

theorem batch_kept {cause : Cause} {index : Nat} {batch : Batch} (step : Step cause lookup later)
    (held : lookup.batches[index]? = some batch) :
    ∃ progress, later.batches[index]? = some { batch with progress := progress } := by
  have stands (fresh : List Batch) (batches : later.batches = lookup.batches ++ fresh) :
      ∃ progress, later.batches[index]? = some { batch with progress := progress } := by
    obtain ⟨bound, _⟩ := List.getElem?_eq_some_iff.mp held
    exact ⟨batch.progress, by rw [batches, List.getElem?_append_left bound, held]⟩
  have changes {place : Nat} {old : Batch} {progress : Progress} (old_held : lookup.batches[place]? = some old)
      (batches : later.batches = lookup.batches.set place { old with progress := progress }) :
      ∃ progress, later.batches[index]? = some { batch with progress := progress } := by
    rw [batches, set_at _ old_held]
    by_cases here : place = index
    · subst here
      cases old_held.symm.trans held
      exact ⟨progress, if_pos rfl⟩
    · exact ⟨batch.progress, by rw [if_neg here, held]⟩
  cases step with
  | queue => exact stands [] (List.append_nil _).symm
  | fill => exact stands _ (batches_flushAdapter _ _)
  | flush => exact stands _ (batches_flushAdapter _ _)
  | complete old_held fetching batches => exact changes old_held batches
  | reply old_held replying batches => exact changes old_held batches
  | quiet batches => exact stands [] (batches.trans (List.append_nil _).symm)

-- What `outcomes` lists are all fetches that have ended. Each has ended once, and whoever is to be told of it is told or is
-- about to be.
structure Settled (outcomes : List (Nat × Fetched)) (lookup : BatchLookup) : Prop where
  once : (outcomes.map Prod.fst).Nodup
  fetching : ∀ index batch, lookup.batches[index]? = some batch →
    (batch.progress = .fetching ↔ index ∉ outcomes.map Prod.fst)
  told : ∀ index fetched, (index, fetched) ∈ outcomes → ∃ batch, lookup.batches[index]? = some batch
    ∧ ∀ reply ∈ fetched.replies batch, reply ∈ batch.unsent ∨ reply ∈ lookup.replies

def Cause.ended : Cause → List (Nat × Fetched)
  | .answered index fetched => [(index, fetched)]
  | _ => []

theorem ended_requestCause (lookup : BatchLookup) (adapter : AdapterId) (key : Bytes) :
    (lookup.requestCause adapter key).ended = [] := by
  rw [requestCause]
  split <;> rfl

theorem settled_bound (settled : lookup.Settled outcomes) {index : Nat} (ended : index ∈ outcomes.map Prod.fst) :
    index < lookup.batches.length := by
  obtain ⟨⟨_, fetched⟩, member, rfl⟩ := List.mem_map.mp ended
  obtain ⟨batch, held, _⟩ := settled.told _ fetched member
  exact (List.getElem?_eq_some_iff.mp held).1

theorem settled_sent (settled : lookup.Settled outcomes) {fresh : List Batch}
    (batches : later.batches = lookup.batches ++ fresh) (fetching : ∀ batch ∈ fresh, batch.progress = .fetching)
    (replies : later.replies = lookup.replies) : later.Settled outcomes := by
  refine ⟨settled.once, ?_, ?_⟩
  · intro index batch held
    rw [batches] at held
    by_cases old : index < lookup.batches.length
    · rw [List.getElem?_append_left old] at held
      exact settled.fetching index batch held
    · rw [List.getElem?_append_right (Nat.not_lt.mp old)] at held
      exact ⟨fun _ ended => old (settled_bound settled ended), fun _ => fetching batch (List.mem_of_getElem? held)⟩
  · intro index fetched member
    obtain ⟨batch, held, told⟩ := settled.told index fetched member
    obtain ⟨bound, _⟩ := List.getElem?_eq_some_iff.mp held
    exact ⟨batch, by rw [batches, List.getElem?_append_left bound, held], replies ▸ told⟩

theorem settled_complete (settled : lookup.Settled outcomes) {index : Nat} {batch : Batch} {fetched : Fetched}
    (held : lookup.batches[index]? = some batch) (fetching : batch.progress = .fetching)
    (batches : later.batches = lookup.batches.set index { batch with progress := .replying (fetched.replies batch) })
    (replies : later.replies = lookup.replies) : later.Settled (outcomes ++ [(index, fetched)]) := by
  have fresh : index ∉ outcomes.map Prod.fst := (settled.fetching index batch held).mp fetching
  have ended (place : Nat) : place ∈ (outcomes ++ [(index, fetched)]).map Prod.fst ↔ place ∈ outcomes.map Prod.fst ∨ place = index := by
    rw [List.map_append, List.mem_append, List.map_singleton, List.mem_singleton]
  refine ⟨?_, ?_, ?_⟩
  · rw [List.map_append, List.map_singleton]
    exact (List.perm_append_singleton _ _).nodup_iff.mpr (List.nodup_cons.mpr ⟨fresh, settled.once⟩)
  · intro place other stands
    rw [batches] at stands
    rw [ended]
    rcases set_cases held stands with ⟨rfl, rfl⟩ | ⟨elsewhere, before⟩
    · exact iff_of_false (nomatch ·) (fun absent => absent (.inr rfl))
    · rw [settled.fetching place other before]
      exact not_congr (or_iff_left (Ne.symm elsewhere)).symm
  · intro place outcome member
    rcases List.mem_append.mp member with earlier | now
    · obtain ⟨other, before, told⟩ := settled.told place outcome earlier
      have elsewhere : index ≠ place := fun same => fresh (same ▸ List.mem_map_of_mem earlier)
      exact ⟨other, by rw [batches, set_at _ held, if_neg elsewhere, before], replies ▸ told⟩
    · cases List.mem_singleton.mp now
      refine ⟨_, by rw [batches, set_at _ held, if_pos rfl], ?_⟩
      intro reply due
      rw [Fetched.replies_progress] at due
      exact .inl due

theorem settled_reply (settled : lookup.Settled outcomes) {index : Nat} {batch : Batch} {next : RequestId × Reply}
    {rest : List (RequestId × Reply)} (held : lookup.batches[index]? = some batch)
    (replying : batch.progress = .replying (next :: rest))
    (batches : later.batches = lookup.batches.set index { batch with progress := .replying rest })
    (replies : later.replies = next :: lookup.replies) : later.Settled outcomes := by
  refine ⟨settled.once, ?_, ?_⟩
  · intro place other stands
    rw [batches] at stands
    rcases set_cases held stands with ⟨rfl, rfl⟩ | ⟨_, before⟩
    · rw [← settled.fetching index batch held, replying]
      exact iff_of_false (nomatch ·) (nomatch ·)
    · exact settled.fetching place other before
  · intro place fetched member
    obtain ⟨other, before, told⟩ := settled.told place fetched member
    by_cases here : index = place
    · subst here
      cases held.symm.trans before
      refine ⟨_, by rw [batches, set_at _ held, if_pos rfl], ?_⟩
      intro reply due
      rw [Fetched.replies_progress] at due
      rw [replies]
      rcases told reply due with unsent | given
      · rw [Batch.unsent, replying] at unsent
        rcases List.mem_cons.mp unsent with rfl | still
        · exact .inr List.mem_cons_self
        · exact .inl still
      · exact .inr (List.mem_cons_of_mem _ given)
    · refine ⟨other, by rw [batches, set_at _ held, if_neg here, before], ?_⟩
      intro reply due
      rw [replies]
      exact (told reply due).imp_right (List.mem_cons_of_mem _)

theorem settled_step {cause : Cause} (settled : lookup.Settled outcomes) (step : Step cause lookup later) :
    later.Settled (outcomes ++ cause.ended) := by
  have sent_fetching (asked : BatchLookup) (adapter : AdapterId) :
      ∀ batch ∈ if asked.waiting adapter = [] then []
          else [(⟨adapter, asked.waiting adapter, asked.bound, .fetching⟩ : Batch)], batch.progress = .fetching := by
    intro batch member
    split at member
    · cases member
    · rw [List.mem_singleton.mp member]
  have unchanged : outcomes ++ [] = outcomes := List.append_nil outcomes
  cases step with
  | queue => exact unchanged.symm ▸ ⟨settled.once, settled.fetching, settled.told⟩
  | fill =>
      exact unchanged.symm ▸ settled_sent settled (batches_flushAdapter _ _) (sent_fetching _ _) (replies_flushAdapter _ _)
  | flush =>
      exact unchanged.symm ▸ settled_sent settled (batches_flushAdapter _ _) (sent_fetching _ _) (replies_flushAdapter _ _)
  | complete held fetching batches size pending replies => exact settled_complete settled held fetching batches replies
  | reply held replying batches size pending replies =>
      exact unchanged.symm ▸ settled_reply settled held replying batches replies
  | quiet batches size pending replies =>
      exact unchanged.symm ▸ settled_sent settled (batches.trans (List.append_nil _).symm)
        (fun _ member => absurd member List.not_mem_nil) replies

theorem settled_of_empty (batches : lookup.batches = []) : lookup.Settled [] :=
  ⟨List.nodup_nil, fun index batch held => by simp [batches] at held, fun _ _ member => absurd member List.not_mem_nil⟩

-- Whatever is told to a request, given or on its way, is told as its own.
structure Discreet (lookup : BatchLookup) : Prop where
  unsent : ∀ batch ∈ lookup.batches, ∀ told ∈ batch.unsent, told.2.Personal
  given : ∀ told ∈ lookup.replies, told.2.Personal

theorem discreet_flushAdapter (discreet : lookup.Discreet) (adapter : AdapterId) :
    (lookup.flushAdapter adapter).Discreet := by
  refine ⟨?_, by rw [replies_flushAdapter]; exact discreet.given⟩
  intro batch member told unsent
  rw [batches_flushAdapter] at member
  rcases List.mem_append.mp member with earlier | fresh
  · exact discreet.unsent batch earlier told unsent
  · split at fresh
    · cases fresh
    · rw [List.mem_singleton.mp fresh] at unsent
      cases unsent

theorem discreet_step {cause : Cause} (discreet : lookup.Discreet) (step : Step cause lookup later) : later.Discreet := by
  cases step with
  | queue => exact ⟨discreet.unsent, discreet.given⟩
  | @fill _ adapter key absent full =>
      have queued : (lookup.enqueue adapter key).Discreet := ⟨discreet.unsent, discreet.given⟩
      exact discreet_flushAdapter queued adapter
  | flush => exact discreet_flushAdapter discreet _
  | @complete _ _ index batch fetched held fetching batches size pending replies =>
      refine ⟨?_, replies ▸ discreet.given⟩
      rw [batches]
      exact forall_set discreet.unsent (Fetched.replies_personal batch fetched)
  | @reply _ _ index batch next rest held replying batches size pending replies =>
      have due : ∀ told ∈ next :: rest, told.2.Personal := by
        intro told member
        refine discreet.unsent batch (List.mem_of_getElem? held) told ?_
        rw [Batch.unsent, replying]
        exact member
      refine ⟨?_, ?_⟩
      · rw [batches]
        exact forall_set discreet.unsent (fun told member => due told (List.mem_cons_of_mem _ member))
      · rw [replies]
        intro told member
        rcases List.mem_cons.mp member with rfl | earlier
        · exact due told List.mem_cons_self
        · exact discreet.given told earlier
  | quiet batches size pending replies => exact ⟨batches ▸ discreet.unsent, replies ▸ discreet.given⟩

def Aside (lookup later : BatchLookup) : Prop :=
  ∃ told, later.events = told ++ lookup.events ∧ ∀ event ∈ told, event.isAside = true

theorem aside_same (events : later.events = lookup.events) : lookup.Aside later :=
  ⟨[], events, fun _ member => absurd member List.not_mem_nil⟩

theorem aside_flushAdapter (lookup : BatchLookup) (adapter : AdapterId) : lookup.Aside (lookup.flushAdapter adapter) := by
  unfold flushAdapter
  split
  · exact aside_same rfl
  · rename_i entry rest something
    exact ⟨[.batchDispatched adapter (rest.length + 1)], rfl, fun event member => List.mem_singleton.mp member ▸ rfl⟩

theorem aside_request (lookup : BatchLookup) (adapter : AdapterId) (key : Bytes) :
    lookup.Aside (lookup.request adapter key).2 := by
  by_cases waits : key ∈ lookup.waitingKeys adapter
  · obtain ⟨entry, _, _, joined⟩ := request_joined waits
    rw [joined]
    exact aside_same rfl
  · rw [request_fresh waits]
    by_cases full : lookup.batchSize ≤ (lookup.waiting adapter).length + 1
    · rw [if_pos full]
      exact aside_flushAdapter (lookup.enqueue adapter key) adapter
    · rw [if_neg full]
      exact aside_same rfl

theorem aside_setParams {params : Params} (set : lookup.setParams params = .ok later) : lookup.Aside later := by
  unfold setParams at set
  split at set <;> cases set
  exact aside_same rfl

theorem aside_reply {index : Nat} (taken : lookup.reply index = some later) : lookup.Aside later := by
  simp only [reply, Option.bind_eq_bind, Option.bind_eq_some_iff] at taken
  obtain ⟨batch, held, taken⟩ := taken
  split at taken <;> cases taken
  exact aside_same rfl

theorem aside_look {found : Option Values} (discreet : lookup.Discreet)
    (settled : lookup.look request = some (found, later)) : lookup.Aside later := by
  unfold look at settled
  split at settled
  · cases settled
  · cases settled; exact aside_same rfl
  · rename_i event known
    split at settled
    · cases settled; exact aside_same rfl
    · cases settled
      have loss : event.isLoss = true := personal_of_replied discreet.given known event rfl
      exact ⟨[event], rfl, fun told member => List.mem_singleton.mp member ▸ Event.aside_of_loss loss⟩

end BatchLookup

end ThinScan
