import Mathlib.Data.List.Nodup
import ThinScan.Proofs.LookupStep
import ThinScan.Proofs.Places

/-!
For each adapter, the keys of its batches in the order of their dispatch, followed by the keys that wait, are the
requests for it that did not join an earlier one.
-/

set_option autoImplicit false

namespace ThinScan

namespace BatchLookup

variable {lookup later : BatchLookup}

def dispatched (lookup : BatchLookup) : List (AdapterId × List Bytes) :=
  lookup.batches.map (fun batch => (batch.adapter, batch.keys))

def dispatchedKeys (lookup : BatchLookup) (adapter : AdapterId) : List Bytes :=
  (lookup.dispatched.filter (fun sent => sent.1 = adapter)).flatMap (·.2)

def ledger (lookup : BatchLookup) (adapter : AdapterId) : List Bytes :=
  lookup.dispatchedKeys adapter ++ lookup.waitingKeys adapter

theorem dispatched_flushAdapter (lookup : BatchLookup) (adapter : AdapterId) :
    (lookup.flushAdapter adapter).dispatched
      = lookup.dispatched ++ if lookup.waiting adapter = [] then [] else [(adapter, lookup.waitingKeys adapter)] := by
  simp only [dispatched, batches_flushAdapter, List.map_append]
  split <;> rfl

theorem ledger_enqueue (lookup : BatchLookup) (adapter other : AdapterId) (key : Bytes) :
    (lookup.enqueue adapter key).ledger other = lookup.ledger other ++ if adapter = other then [key] else [] := by
  have same : (lookup.enqueue adapter key).dispatchedKeys other = lookup.dispatchedKeys other := rfl
  simp only [ledger, same, waitingKeys, waiting_enqueue]
  split
  · rename_i here
    subst here
    simp only [List.map_append, List.map_cons, List.map_nil, List.append_assoc]
  · rw [List.append_nil]

theorem ledger_flushAdapter (lookup : BatchLookup) (adapter other : AdapterId) :
    (lookup.flushAdapter adapter).ledger other = lookup.ledger other := by
  have waits : (lookup.flushAdapter adapter).waitingKeys other
      = if adapter = other then [] else lookup.waitingKeys other := by
    simp only [waitingKeys, waiting_flushAdapter]
    split <;> rfl
  simp only [ledger, dispatchedKeys, dispatched_flushAdapter, waits, List.filter_append, List.flatMap_append]
  by_cases here : adapter = other
  · subst here
    by_cases nothing : lookup.waiting adapter = []
    · simp [nothing, waitingKeys]
    · simp [nothing]
  · by_cases nothing : lookup.waiting adapter = [] <;> simp [nothing, here]

theorem ledger_of_stored (sent : later.dispatched = lookup.dispatched) (pending : later.pending = lookup.pending)
    (adapter : AdapterId) : later.ledger adapter = lookup.ledger adapter := by
  simp only [ledger, dispatchedKeys, sent, waitingKeys, waiting, pending]

theorem dispatched_set {index : Nat} {batch : Batch} (progress : Progress) (held : lookup.batches[index]? = some batch)
    (batches : later.batches = lookup.batches.set index { batch with progress := progress }) :
    later.dispatched = lookup.dispatched := by
  rw [dispatched, batches]
  exact map_set_same _ _ held rfl

def Cause.keys (adapter : AdapterId) : Cause → List Bytes
  | .asked wanted key => if wanted = adapter then [key] else []
  | _ => []

theorem ledger_step {cause : Cause} (step : Step cause lookup later) (adapter : AdapterId) :
    later.ledger adapter = lookup.ledger adapter ++ cause.keys adapter := by
  cases step with
  | queue => exact ledger_enqueue _ _ _ _
  | fill => rw [ledger_flushAdapter, ledger_enqueue]; rfl
  | flush other => rw [ledger_flushAdapter]; exact (List.append_nil _).symm
  | complete held fetching batches size pending =>
      rw [ledger_of_stored (dispatched_set _ held batches) pending]
      exact (List.append_nil _).symm
  | reply held replying batches size pending =>
      rw [ledger_of_stored (dispatched_set _ held batches) pending]
      exact (List.append_nil _).symm
  | quiet batches size pending =>
      rw [ledger_of_stored (congrArg (List.map _) batches) pending]
      exact (List.append_nil _).symm

structure Sound (lookup : BatchLookup) : Prop where
  sized : 0 < lookup.batchSize
  short : ∀ adapter, (lookup.waiting adapter).length < lookup.batchSize
  distinct : ∀ adapter, (lookup.waitingKeys adapter).Nodup
  issued : ∀ adapter, ∀ entry ∈ lookup.waiting adapter, entry.request < lookup.requests
  proper : ∀ sent ∈ lookup.dispatched, sent.2 ≠ [] ∧ sent.2.Nodup ∧ sent.2.length ≤ lookup.batchSize

theorem sound_of_stored (sound : lookup.Sound) (sent : later.dispatched = lookup.dispatched)
    (size : later.batchSize = lookup.batchSize) (pending : later.pending = lookup.pending)
    (requests : later.requests = lookup.requests) : later.Sound := by
  have waits (adapter : AdapterId) : later.waiting adapter = lookup.waiting adapter := by rw [waiting, waiting, pending]
  refine ⟨size ▸ sound.sized, ?_, ?_, ?_, ?_⟩
  · intro adapter
    rw [waits, size]
    exact sound.short adapter
  · intro adapter
    rw [waitingKeys, waits]
    exact sound.distinct adapter
  · intro adapter
    rw [waits, requests]
    exact sound.issued adapter
  · rw [sent, size]
    exact sound.proper

theorem distinct_enqueue (sound : lookup.Sound) {adapter : AdapterId} {key : Bytes}
    (absent : key ∉ lookup.waitingKeys adapter) (other : AdapterId) :
    ((lookup.enqueue adapter key).waitingKeys other).Nodup := by
  rw [waitingKeys, waiting_enqueue]
  split
  · rw [List.map_append, List.map_cons, List.map_nil]
    exact (List.perm_append_singleton _ _).nodup_iff.mpr (List.nodup_cons.mpr ⟨absent, sound.distinct adapter⟩)
  · exact sound.distinct other

theorem issued_enqueue (sound : lookup.Sound) (adapter : AdapterId) (key : Bytes) (other : AdapterId) :
    ∀ entry ∈ (lookup.enqueue adapter key).waiting other, entry.request < lookup.requests + 1 := by
  intro entry member
  rw [waiting_enqueue] at member
  split at member
  · rcases List.mem_append.mp member with earlier | fresh
    · exact Nat.lt_succ_of_lt (sound.issued adapter entry earlier)
    · rw [List.mem_singleton.mp fresh]
      exact Nat.lt_succ_self _
  · exact Nat.lt_succ_of_lt (sound.issued other entry member)

theorem sound_flush {adapter : AdapterId} (sized : 0 < lookup.batchSize)
    (full : (lookup.waiting adapter).length ≤ lookup.batchSize)
    (short : ∀ other, adapter ≠ other → (lookup.waiting other).length < lookup.batchSize)
    (distinct : ∀ other, (lookup.waitingKeys other).Nodup)
    (issued : ∀ other, ∀ entry ∈ lookup.waiting other, entry.request < lookup.requests)
    (proper : ∀ sent ∈ lookup.dispatched, sent.2 ≠ [] ∧ sent.2.Nodup ∧ sent.2.length ≤ lookup.batchSize) :
    (lookup.flushAdapter adapter).Sound := by
  refine ⟨by simpa using sized, ?_, ?_, ?_, ?_⟩
  · intro other
    rw [waiting_flushAdapter, batchSize_flushAdapter]
    split
    · exact sized
    · rename_i different
      exact short other different
  · intro other
    rw [waitingKeys, waiting_flushAdapter]
    split
    · exact List.nodup_nil
    · exact distinct other
  · intro other entry member
    rw [waiting_flushAdapter] at member
    split at member
    · cases member
    · simpa using issued other entry member
  · intro sent member
    rw [dispatched_flushAdapter] at member
    rw [batchSize_flushAdapter]
    rcases List.mem_append.mp member with earlier | fresh
    · exact proper sent earlier
    · split at fresh
      · cases fresh
      · rename_i something
        rw [List.mem_singleton.mp fresh]
        refine ⟨?_, distinct adapter, ?_⟩
        · simpa [waitingKeys] using something
        · simpa [waitingKeys] using full

theorem sound_step {cause : Cause} (sound : lookup.Sound) (step : Step cause lookup later) :
    later.Sound := by
  cases step with
  | @queue _ adapter key absent room =>
      refine ⟨sound.sized, ?_, distinct_enqueue sound absent, issued_enqueue sound adapter key, sound.proper⟩
      intro other
      rw [waiting_enqueue]
      split
      · rw [List.length_append, List.length_singleton]
        exact room
      · exact sound.short other
  | @fill _ adapter key absent full =>
      refine @sound_flush (lookup.enqueue adapter key) adapter sound.sized ?_ ?_ (distinct_enqueue sound absent)
        (issued_enqueue sound adapter key) sound.proper
      · rw [waiting_enqueue, if_pos rfl, List.length_append, List.length_singleton]
        exact sound.short adapter
      · intro other different
        rw [waiting_enqueue, if_neg different]
        exact sound.short other
  | flush adapter =>
      exact sound_flush sound.sized (Nat.le_of_lt (sound.short adapter)) (fun other _ => sound.short other)
        sound.distinct sound.issued sound.proper
  | complete held fetching batches size pending replies requests =>
      exact sound_of_stored sound (dispatched_set _ held batches) size pending requests
  | reply held replying batches size pending replies requests =>
      exact sound_of_stored sound (dispatched_set _ held batches) size pending requests
  | quiet batches size pending replies requests =>
      exact sound_of_stored sound (congrArg (List.map _) batches) size pending requests

theorem dispatched_step {cause : Cause} (sound : lookup.Sound) (step : Step cause lookup later) :
    ∃ sent, later.dispatched = lookup.dispatched ++ sent
      ∧ ∀ batch ∈ sent, batch.2.length = lookup.batchSize ∨ cause = .flushed batch.1 := by
  cases step with
  | queue => exact ⟨[], (List.append_nil _).symm, fun _ member => absurd member List.not_mem_nil⟩
  | @fill _ adapter key absent full =>
      refine ⟨_, dispatched_flushAdapter _ adapter, ?_⟩
      intro batch member
      have bounded := sound.short adapter
      split at member
      · cases member
      · rw [List.mem_singleton.mp member]
        left
        simp only [waitingKeys, waiting_enqueue, if_true, List.length_map, List.length_append, List.length_singleton]
        omega
  | flush adapter =>
      refine ⟨_, dispatched_flushAdapter _ adapter, ?_⟩
      intro batch member
      split at member
      · cases member
      · rw [List.mem_singleton.mp member]
        exact .inr rfl
  | complete held fetching batches =>
      exact ⟨[], by rw [dispatched_set _ held batches, List.append_nil], fun _ member => absurd member List.not_mem_nil⟩
  | reply held replying batches =>
      exact ⟨[], by rw [dispatched_set _ held batches, List.append_nil], fun _ member => absurd member List.not_mem_nil⟩
  | quiet batches =>
      exact ⟨[], by rw [dispatched, batches, List.append_nil, dispatched], fun _ member => absurd member List.not_mem_nil⟩

theorem sound_of_empty (sized : 0 < lookup.batchSize) (pending : lookup.pending = Table.empty)
    (batches : lookup.batches = []) : lookup.Sound := by
  have nothing (adapter : AdapterId) : lookup.waiting adapter = [] := by
    rw [waiting, pending]
    rfl
  refine ⟨sized, ?_, ?_, ?_, ?_⟩
  · intro adapter
    rw [nothing]
    exact sized
  · intro adapter
    rw [waitingKeys, nothing]
    exact List.nodup_nil
  · intro adapter entry member
    rw [nothing] at member
    cases member
  · intro sent member
    rw [dispatched, batches] at member
    cases member

theorem create_sized {size : Nat} (sized : 0 < size) : create size = .ok { batchSize := size } :=
  if_neg (Nat.pos_iff_ne_zero.mp sized)

end BatchLookup

namespace Clients

variable {clients later : Clients}

structure Asked where
  adapter : AdapterId
  key : Bytes
  request : RequestId
deriving DecidableEq, Repr

def asked (clients : Clients) : Act → List Asked
  | .request adapter key => [⟨adapter, key, (clients.lookup.request adapter key).1⟩]
  | _ => []

def history : Clients → List Act → List Asked
  | _, [] => []
  | clients, action :: rest =>
      match clients.act action with
      | none => []
      | some later => clients.asked action ++ history later rest

-- Those that were given a future nobody had been given before.
def firsts (asked : List Asked) : List Asked :=
  asked.foldl (fun kept next => if next.request ∈ kept.map Asked.request then kept else kept ++ [next]) []

theorem firsts_concat (earlier : List Asked) (next : Asked) :
    firsts (earlier ++ [next])
      = if next.request ∈ (firsts earlier).map Asked.request then firsts earlier else firsts earlier ++ [next] := by
  rw [firsts, List.foldl_append]
  rfl

theorem run_cons (clients : Clients) (action : Act) (rest : List Act) :
    clients.run (action :: rest) = (clients.act action).bind (fun later => later.run rest) := rfl

theorem run_keeps {motive : Clients → List Asked → Prop}
    (kept : ∀ clients asked action later, motive clients asked → clients.act action = some later →
      motive later (asked ++ clients.asked action))
    (acts : List Act) (clients last : Clients) (asked : List Asked) (start : motive clients asked)
    (ran : clients.run acts = some last) : motive last (asked ++ clients.history acts) := by
  induction acts generalizing clients asked with
  | nil =>
      cases ran
      simpa only [history, List.append_nil] using start
  | cons action rest step =>
      obtain ⟨later, taken, ran⟩ := Option.bind_eq_some_iff.mp ((run_cons clients action rest).symm.trans ran)
      have next := step later (asked ++ clients.asked action) (kept clients asked action later start taken) ran
      simpa only [history, taken, List.append_assoc] using next

-- How the requests made so far stand to what the lookup stores.
structure Balanced (clients : Clients) (asked : List Asked) : Prop where
  sound : clients.lookup.Sound
  futures : ∀ request, request ∈ (firsts asked).map Asked.request ↔ request < clients.lookup.requests
  ledger : ∀ adapter, clients.lookup.ledger adapter
    = ((firsts asked).filter (fun asked => asked.adapter = adapter)).map Asked.key
  waiting : ∀ adapter, ∀ entry ∈ clients.lookup.waiting adapter, ⟨adapter, entry.key, entry.request⟩ ∈ firsts asked

theorem balanced_unasked {asked : List Asked} {cause : BatchLookup.Cause} (balanced : clients.Balanced asked)
    (step : BatchLookup.Step cause clients.lookup later.lookup)
    (unasked : ∀ adapter key, cause ≠ .asked adapter key) : later.Balanced asked := by
  have requests := BatchLookup.requests_step step
  have ledger := BatchLookup.ledger_step step
  have none_asked : cause.requests = 0 ∧ ∀ adapter, cause.keys adapter = [] := by
    cases cause with
    | asked adapter key => exact absurd rfl (unasked adapter key)
    | flushed adapter => exact ⟨rfl, fun _ => rfl⟩
    | answered index fetched => exact ⟨rfl, fun _ => rfl⟩
    | other => exact ⟨rfl, fun _ => rfl⟩
  refine ⟨BatchLookup.sound_step balanced.sound step, ?_, ?_, ?_⟩
  · rw [requests, none_asked.1]
    exact balanced.futures
  · intro adapter
    rw [ledger, none_asked.2, List.append_nil]
    exact balanced.ledger adapter
  · intro adapter entry member
    rcases BatchLookup.waiting_step step member with earlier | ⟨asked_now, _⟩
    · exact balanced.waiting adapter entry earlier
    · exact absurd asked_now (unasked _ _)

theorem balanced_fresh {asked : List Asked} {adapter : AdapterId} {key : Bytes} (balanced : clients.Balanced asked)
    (step : BatchLookup.Step (.asked adapter key) clients.lookup later.lookup) :
    later.Balanced (asked ++ [⟨adapter, key, clients.lookup.requests⟩]) := by
  have unknown : clients.lookup.requests ∉ (firsts asked).map Asked.request := fun known =>
    Nat.lt_irrefl _ ((balanced.futures _).mp known)
  have added : firsts (asked ++ [⟨adapter, key, clients.lookup.requests⟩])
      = firsts asked ++ [⟨adapter, key, clients.lookup.requests⟩] := by
    rw [firsts_concat, if_neg unknown]
  have requests : later.lookup.requests = clients.lookup.requests + 1 := BatchLookup.requests_step step
  refine ⟨BatchLookup.sound_step balanced.sound step, ?_, ?_, ?_⟩
  · intro request
    have known := balanced.futures request
    rw [added, requests, List.map_append, List.mem_append, known]
    simp only [List.map_cons, List.map_nil, List.mem_singleton]
    exact Nat.lt_succ_iff_lt_or_eq.symm
  · intro other
    rw [added, BatchLookup.ledger_step step, balanced.ledger, List.filter_append, List.map_append]
    by_cases here : adapter = other <;> simp [BatchLookup.Cause.keys, here]
  · intro other entry member
    rw [added]
    rcases BatchLookup.waiting_step step member with earlier | ⟨now, request⟩
    · exact List.mem_append_left _ (balanced.waiting other entry earlier)
    · cases now
      rw [request]
      exact List.mem_append_right _ (List.mem_singleton.mpr rfl)

theorem balanced_act {asked : List Asked} {action : Act} (balanced : clients.Balanced asked)
    (taken : clients.act action = some later) : later.Balanced (asked ++ clients.asked action) := by
  have step := step_of_act taken
  cases action with
  | request adapter key =>
      by_cases waits : key ∈ clients.lookup.waitingKeys adapter
      · obtain ⟨entry, member, _, joined⟩ := BatchLookup.request_joined waits
        have known : entry.request ∈ (firsts asked).map Asked.request :=
          (balanced.futures _).mpr (balanced.sound.issued adapter entry member)
        have unchanged : firsts (asked ++ clients.asked (.request adapter key)) = firsts asked := by
          rw [Clients.asked, joined, firsts_concat, if_pos known]
        cases taken
        rw [withLookup, joined]
        exact ⟨balanced.sound, by rw [unchanged]; exact balanced.futures, by rw [unchanged]; exact balanced.ledger,
          by rw [unchanged]; exact balanced.waiting⟩
      · have fresh : clients.asked (.request adapter key) = [⟨adapter, key, clients.lookup.requests⟩] := by
          rw [Clients.asked, BatchLookup.request_fresh waits]
        rw [cause, BatchLookup.requestCause, if_neg waits] at step
        rw [fresh]
        exact balanced_fresh balanced step
  | flushAdapter adapter =>
      exact (List.append_nil asked).symm ▸ balanced_unasked balanced step (by simp [cause])
  | flushNext flush adapter =>
      exact (List.append_nil asked).symm ▸ balanced_unasked balanced step (by simp [cause])
  | _ => exact (List.append_nil asked).symm ▸ balanced_unasked balanced step (by simp [cause])

theorem mem_firsts_from (request : RequestId) (asked kept : List Asked) :
    request ∈ (asked.foldl (fun kept next => if next.request ∈ kept.map Asked.request then kept else kept ++ [next])
        kept).map Asked.request
      ↔ request ∈ kept.map Asked.request ∨ request ∈ asked.map Asked.request := by
  induction asked generalizing kept with
  | nil => simp
  | cons next rest step =>
      rw [List.foldl_cons, step]
      split
      · rename_i known
        constructor
        · exact Or.imp_right (List.mem_cons_of_mem _)
        · rintro (held | later)
          · exact .inl held
          · rcases List.mem_cons.mp later with same | later
            · exact .inl (same ▸ known)
            · exact .inr later
      · simp only [List.map_append, List.map_cons, List.map_nil, List.mem_append, List.mem_cons, List.not_mem_nil,
          or_false, or_assoc]

theorem mem_firsts (request : RequestId) (asked : List Asked) :
    request ∈ (firsts asked).map Asked.request ↔ request ∈ asked.map Asked.request :=
  (mem_firsts_from request asked []).trans (by simp)

theorem shares_iff {asked : List Asked} (balanced : clients.Balanced asked) (adapter : AdapterId) (key : Bytes) :
    (clients.lookup.request adapter key).1 ∈ asked.map Asked.request ↔ key ∈ clients.lookup.waitingKeys adapter := by
  rw [← mem_firsts, balanced.futures]
  constructor
  · intro known
    apply Classical.byContradiction
    intro absent
    rw [BatchLookup.request_fresh absent] at known
    exact Nat.lt_irrefl _ known
  · intro waits
    obtain ⟨entry, member, _, joined⟩ := BatchLookup.request_joined waits
    rw [joined]
    exact balanced.sound.issued adapter entry member

theorem joins_entry {asked : List Asked} (balanced : clients.Balanced asked) {adapter : AdapterId} {entry : Entry}
    (member : entry ∈ clients.lookup.waiting adapter) :
    clients.lookup.request adapter entry.key = (entry.request, clients.lookup) := by
  obtain ⟨found, held, same, joined⟩ := BatchLookup.request_joined (List.mem_map_of_mem member)
  have only : found = entry := List.inj_on_of_nodup_map (balanced.sound.distinct adapter) held member same
  rw [joined, only]

theorem short_by_flush {action : Act} (sound : clients.lookup.Sound) (taken : clients.act action = some later) :
    ∃ sent, later.lookup.dispatched = clients.lookup.dispatched ++ sent
      ∧ ∀ batch ∈ sent, batch.2.length < clients.lookup.batchSize →
        action = .flushAdapter batch.1 ∨ ∃ flush, action = .flushNext flush batch.1 := by
  obtain ⟨sent, dispatched, reason⟩ := BatchLookup.dispatched_step sound (step_of_act taken)
  refine ⟨sent, dispatched, ?_⟩
  intro batch member short
  have flushed : clients.cause action = .flushed batch.1 :=
    (reason batch member).resolve_left (Nat.ne_of_lt short)
  cases action with
  | flushAdapter adapter => cases flushed; exact .inl rfl
  | flushNext flush adapter => cases flushed; exact .inr ⟨flush, rfl⟩
  | request adapter key =>
      rw [cause, BatchLookup.requestCause] at flushed
      split at flushed <;> cases flushed
  | _ => cases flushed

theorem balanced_fresh_lookup {size : Nat} (sized : 0 < size) (params : Option Params) :
    (Clients.mk { batchSize := size, params := params } []).Balanced [] := by
  refine ⟨BatchLookup.sound_of_empty sized rfl rfl, ?_, fun _ => rfl, ?_⟩
  · intro request
    exact ⟨fun member => absurd member List.not_mem_nil, fun issued => absurd issued (Nat.not_lt_zero _)⟩
  · intro adapter entry member
    cases member

-- The ledger of each adapter, who shares a future, what a batch looks like, how many wait, and what the next step may
-- dispatch.
theorem ledger_of_run {size : Nat} (sized : 0 < size) :
    ∃ lookup, BatchLookup.create size = .ok lookup
      ∧ ∀ (acts : List Act) (clients : Clients), (Clients.mk lookup []).run acts = some clients →
        (∀ adapter, clients.lookup.ledger adapter
          = ((firsts ((Clients.mk lookup []).history acts)).filter (fun asked => asked.adapter = adapter)).map Asked.key)
        ∧ (∀ adapter key, (clients.lookup.request adapter key).1
            ∈ ((Clients.mk lookup []).history acts).map Asked.request ↔ key ∈ clients.lookup.waitingKeys adapter)
        ∧ (∀ adapter, ∀ entry ∈ clients.lookup.waiting adapter,
          clients.lookup.request adapter entry.key = (entry.request, clients.lookup)
            ∧ ⟨adapter, entry.key, entry.request⟩ ∈ firsts ((Clients.mk lookup []).history acts))
        ∧ (∀ batch ∈ clients.lookup.dispatched, batch.2 ≠ [] ∧ batch.2.Nodup ∧ batch.2.length ≤ size)
        ∧ (∀ adapter, (clients.lookup.waiting adapter).length < size)
        ∧ ∀ action later, clients.act action = some later →
          ∃ sent, later.lookup.dispatched = clients.lookup.dispatched ++ sent
            ∧ ∀ batch ∈ sent, batch.2.length < size →
              action = .flushAdapter batch.1 ∨ ∃ flush, action = .flushNext flush batch.1 := by
  refine ⟨_, BatchLookup.create_sized sized, ?_⟩
  intro acts clients ran
  obtain ⟨size_kept, balanced⟩ : clients.lookup.batchSize = size
      ∧ clients.Balanced ([] ++ (Clients.mk { batchSize := size } []).history acts) := by
    refine @run_keeps (fun clients asked => clients.lookup.batchSize = size ∧ clients.Balanced asked) ?_
      acts _ clients [] ⟨rfl, balanced_fresh_lookup sized none⟩ ran
    intro clients asked action later kept taken
    exact ⟨(BatchLookup.batchSize_step (step_of_act taken)).trans kept.1, balanced_act kept.2 taken⟩
  rw [List.nil_append] at balanced
  refine ⟨balanced.ledger, shares_iff balanced, ?_, ?_, ?_, ?_⟩
  · intro adapter entry member
    exact ⟨joins_entry balanced member, balanced.waiting adapter entry member⟩
  · rw [← size_kept]
    exact balanced.sound.proper
  · rw [← size_kept]
    exact balanced.sound.short
  · intro action later taken
    rw [← size_kept]
    exact short_by_flush balanced.sound taken

theorem ledger_of_repeats :
    ∃ clients, (Clients.mk { batchSize := 2 } []).run
        [.request 7 [1], .request 7 [1], .request 7 [2], .request 7 [1], .flushAdapter 7, .request 7 [3]] = some clients
      ∧ clients.lookup.dispatched = [(7, [[1], [2]]), (7, [[1]])]
      ∧ clients.lookup.ledger 7 = [[1], [2], [1], [3]]
      ∧ ((clients.lookup.request 7 [3]).1 ∈ [0, 0, 1, 2, 3] ↔ [3] ∈ clients.lookup.waitingKeys 7)
      ∧ (clients.lookup.waiting 7).length < 2 := by
  obtain ⟨lookup, created, holds⟩ := @ledger_of_run 2 (by decide)
  cases created
  obtain ⟨_, shared, _, _, short, _⟩ := holds
    [.request 7 [1], .request 7 [1], .request 7 [2], .request 7 [1], .flushAdapter 7, .request 7 [3]] _ rfl
  exact ⟨_, rfl, by decide, by decide, shared 7 [3], short 7⟩

end Clients

end ThinScan
