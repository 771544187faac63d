import ThinScan.Holders
import ThinScan.Proofs.Ledger
import ThinScan.Proofs.Positions

set_option autoImplicit false

namespace ThinScan

namespace Handle

def slot (handle : Handle) : Slot := ⟨handle.adapter, handle.key, handle.request⟩

def For (handle : Handle) (batch : Batch) (position : Nat) : Prop :=
  batch.adapter = handle.adapter ∧ batch.entries[position]? = some ⟨handle.key, handle.request⟩

end Handle

namespace Holders

variable {holders later : Holders} {outcomes : List (Nat × Fetched)}

def sees (holders : Holders) (number : Nat) : Option (Option Values) := (holders.poll number).map Prod.fst

theorem sees_held {number : Nat} {handle : Handle} (held : holders.held? number = some handle) :
    holders.sees number = (holders.lookup.look handle.request).map Prod.fst := by
  rw [sees, poll, held, Option.bind_eq_bind, Option.bind_some]
  cases holders.lookup.look handle.request with
  | none => rfl
  | some looked => rfl

theorem handle_of_held {number : Nat} {handle : Handle} (held : holders.held? number = some handle) :
    handle ∈ holders.handles := by
  obtain ⟨found, _⟩ := Option.filter_eq_some_iff.mp held
  exact List.mem_of_getElem? found

def Act.ended : Act → List (Nat × Fetched)
  | .client (.complete index fetched) => [(index, fetched)]
  | _ => []

def completions (acts : List Act) : List (Nat × Fetched) := acts.flatMap Act.ended

inductive Change : Act → Holders → Holders → Prop
  | client {holders : Holders} {clients : Clients} {action : Clients.Act} (taken : holders.clients.act action = some clients) :
      Change (.client action) holders
        { clients := clients, handles := holders.handles ++ handedOut holders.clients action }
  | clone {holders : Holders} {number : Nat} {handle : Handle} (held : holders.held? number = some handle) :
      Change (.clone number) holders { holders with handles := holders.handles ++ [handle] }
  | drop {holders : Holders} {number : Nat} {handle : Handle} (held : holders.held? number = some handle) :
      Change (.drop number) holders { holders with handles := holders.handles.set number { handle with held := false } }
  | poll {holders : Holders} {number : Nat} {handle : Handle} {clients : Clients}
      (held : holders.held? number = some handle) (looked : holders.clients.act (.look handle.request) = some clients) :
      Change (.poll number) holders { holders with clients := clients }

theorem change_of_act {action : Act} (taken : holders.act action = some later) : Change action holders later := by
  cases action with
  | client action =>
      simp only [act, Option.bind_eq_bind, Option.bind_eq_some_iff] at taken
      obtain ⟨clients, stepped, taken⟩ := taken
      cases taken
      exact .client stepped
  | clone number =>
      simp only [act, clone, Option.bind_eq_bind, Option.bind_eq_some_iff] at taken
      obtain ⟨handle, held, taken⟩ := taken
      cases taken
      exact .clone held
  | drop number =>
      simp only [act, drop, Option.bind_eq_bind, Option.bind_eq_some_iff] at taken
      obtain ⟨handle, held, taken⟩ := taken
      cases taken
      exact .drop held
  | poll number =>
      simp only [act, poll, Option.bind_eq_bind, Option.bind_eq_some_iff, Option.map_eq_some_iff] at taken
      obtain ⟨polled, ⟨handle, held, looked, found, taken⟩, rfl⟩ := taken
      cases taken
      refine .poll held ?_
      rw [Clients.act]
      exact Option.map_eq_some_iff.mpr ⟨looked, found, rfl⟩

theorem act_of_change {action : Act} (change : Change action holders later) : holders.act action = some later := by
  cases change with
  | client taken => rw [act, taken]; rfl
  | clone held => rw [act, clone, held]; rfl
  | drop held => rw [act, drop, held]; rfl
  | @poll _ number handle clients held looked =>
      rw [Clients.act] at looked
      obtain ⟨found, settled, rfl⟩ := Option.map_eq_some_iff.mp looked
      rw [act, poll, held, Option.bind_eq_bind, Option.bind_some, lookup, settled]
      rfl

theorem clients_of_change {action : Act} (change : Change action holders later) :
    (∃ taken, holders.clients.act taken = some later.clients ∧ (holders.clients.cause taken).ended = action.ended)
      ∨ (later.clients = holders.clients ∧ action.ended = []) := by
  cases change with
  | @client _ clients taken stepped =>
      refine .inl ⟨taken, stepped, ?_⟩
      cases taken with
      | request adapter key => exact BatchLookup.ended_requestCause _ _ _
      | _ => rfl
  | clone held => exact .inr ⟨rfl, rfl⟩
  | drop held => exact .inr ⟨rfl, rfl⟩
  | poll held looked => exact .inl ⟨_, looked, rfl⟩

structure Kept (outcomes : List (Nat × Fetched)) (holders : Holders) : Prop where
  custody : holders.lookup.Custody
  numbered : holders.lookup.Numbered
  settled : holders.lookup.Settled outcomes
  discreet : holders.lookup.Discreet
  log : holders.lookup.batchLog = outcomes.reverse.flatMap holders.lookup.reports
  handed : ∀ handle ∈ holders.handles, handle.slot ∈ holders.lookup.slots

theorem slots_kept {cause : BatchLookup.Cause} (kept : holders.Kept outcomes)
    (step : BatchLookup.Step cause holders.lookup later.lookup) : ∀ slot ∈ holders.lookup.slots, slot ∈ later.lookup.slots :=
  fun _ member => (BatchLookup.slots_step kept.custody.ascending step).mem_iff.mpr (List.mem_append_right _ member)

theorem log_kept {action : Clients.Act} (kept : holders.Kept outcomes)
    (taken : holders.clients.act action = some later.clients) :
    later.lookup.batchLog
      = (outcomes ++ (holders.clients.cause action).ended).reverse.flatMap later.lookup.reports := by
  have step := Clients.step_of_act taken
  have same (outcome : Nat × Fetched) (member : outcome ∈ outcomes ++ (holders.clients.cause action).ended) :
      later.lookup.reports outcome = holders.lookup.reports outcome := by
    rcases List.mem_append.mp member with earlier | now
    · obtain ⟨batch, held, _⟩ := kept.settled.told outcome.1 outcome.2 earlier
      exact BatchLookup.reports_kept step held outcome.2
    · cases caused : holders.clients.cause action with
      | answered index fetched =>
          rw [caused] at now step
          cases List.mem_singleton.mp now
          cases step with
          | complete held => exact BatchLookup.reports_kept (Clients.step_of_act taken) held fetched
      | _ => rw [caused] at now; cases now
  have one : (holders.clients.cause action).ended.reverse = (holders.clients.cause action).ended := by
    cases holders.clients.cause action <;> rfl
  rw [List.flatMap_congr (fun outcome member => same outcome (List.mem_reverse.mp member)), List.reverse_append,
    List.flatMap_append, one, ← kept.log]
  exact Clients.batchLog_act kept.discreet taken

theorem kept_change {action : Act} (kept : holders.Kept outcomes) (change : Change action holders later) :
    later.Kept (outcomes ++ action.ended) := by
  have handed : ∀ handle ∈ later.handles, handle.slot ∈ later.lookup.slots := by
    cases change with
    | @client _ clients taken stepped =>
        intro handle member
        rcases List.mem_append.mp member with earlier | fresh
        · exact slots_kept kept (Clients.step_of_act stepped) _ (kept.handed handle earlier)
        · cases taken with
          | request adapter key =>
              cases stepped
              rw [List.mem_singleton.mp fresh]
              exact (BatchLookup.slots_request kept.custody.ascending adapter key _).mpr (.inr rfl)
          | _ => cases fresh
    | clone held =>
        intro handle member
        rcases List.mem_append.mp member with earlier | fresh
        · exact kept.handed handle earlier
        · rw [List.mem_singleton.mp fresh]
          exact kept.handed _ (handle_of_held held)
    | drop held =>
        have unchanged := kept.handed _ (handle_of_held held)
        exact forall_set kept.handed unchanged
    | poll held looked =>
        exact fun handle member => slots_kept kept (Clients.step_of_act looked) _ (kept.handed handle member)
  rcases clients_of_change change with ⟨taken, stepped, ended⟩ | ⟨same, ended⟩
  · have step := Clients.step_of_act stepped
    rw [← ended]
    exact ⟨BatchLookup.custody_step kept.custody step, BatchLookup.numbered_step kept.numbered kept.custody.ascending step,
      BatchLookup.settled_step kept.settled step, BatchLookup.discreet_step kept.discreet step, log_kept kept stepped, handed⟩
  · have stored : later.lookup = holders.lookup := congrArg Clients.lookup same
    rw [ended, List.append_nil]
    refine ⟨?_, ?_, ?_, ?_, ?_, handed⟩ <;> rw [stored]
    · exact kept.custody
    · exact kept.numbered
    · exact kept.settled
    · exact kept.discreet
    · exact kept.log

theorem run_cons (holders : Holders) (action : Act) (rest : List Act) :
    holders.run (action :: rest) = (holders.act action).bind (fun later => later.run rest) := rfl

theorem run_keeps {motive : List (Nat × Fetched) → Holders → Prop} {acts : List Act}
    (steps : ∀ outcomes holders action later, motive outcomes holders → Change action holders later →
      motive (outcomes ++ action.ended) later)
    (start : motive outcomes holders) (ran : holders.run acts = some later) : motive (outcomes ++ completions acts) later := by
  induction acts generalizing holders outcomes with
  | nil =>
      cases ran
      rw [completions, List.flatMap_nil, List.append_nil]
      exact start
  | cons action rest step =>
      obtain ⟨next, taken, ran⟩ := Option.bind_eq_some_iff.mp ((run_cons holders action rest).symm.trans ran)
      rw [completions, List.flatMap_cons, ← List.append_assoc]
      exact step (steps outcomes holders action next start (change_of_act taken)) ran

theorem kept_run {acts : List Act} (kept : holders.Kept outcomes) (ran : holders.run acts = some later) :
    later.Kept (outcomes ++ completions acts) :=
  run_keeps (motive := fun outcomes holders => holders.Kept outcomes) (fun _ _ _ _ kept change => kept_change kept change)
    kept ran

theorem run_preserves {motive : Holders → Prop} {acts : List Act}
    (steps : ∀ holders action later, motive holders → Change action holders later → motive later)
    (start : motive holders) (ran : holders.run acts = some later) : motive later :=
  @run_keeps holders later [] (fun _ holders => motive holders) acts
    (fun _ holders action later kept change => steps holders action later kept change) start ran

theorem kept_fresh (size : Nat) : (Holders.mk ⟨{ batchSize := size }, []⟩ []).Kept [] :=
  ⟨BatchLookup.custody_of_empty rfl rfl rfl rfl, .refl _, BatchLookup.settled_of_empty rfl,
    ⟨fun _ member => absurd member List.not_mem_nil, fun _ member => absurd member List.not_mem_nil⟩, rfl,
    fun _ member => absurd member List.not_mem_nil⟩

theorem batch_run {acts : List Act} {index : Nat} {batch : Batch} (held : holders.lookup.batches[index]? = some batch)
    (ran : holders.run acts = some later) :
    ∃ progress, later.lookup.batches[index]? = some { batch with progress := progress } := by
  refine run_preserves (motive := fun holders => ∃ progress, holders.lookup.batches[index]? = some { batch with progress := progress })
    ?_ ⟨batch.progress, held⟩ ran
  rintro before action after ⟨progress, stands⟩ change
  rcases clients_of_change change with ⟨taken, stepped, _⟩ | ⟨same, _⟩
  · obtain ⟨next, kept⟩ := BatchLookup.batch_kept (Clients.step_of_act stepped) stands
    exact ⟨next, kept⟩
  · exact ⟨progress, by rw [lookup, same]; exact stands⟩

theorem handle_run {acts : List Act} {number : Nat} {handle : Handle} (handed : holders.handles[number]? = some handle)
    (ran : holders.run acts = some later) :
    ∃ held, later.handles[number]? = some { handle with held := held } := by
  refine run_preserves (motive := fun holders => ∃ held, holders.handles[number]? = some { handle with held := held })
    ?_ ⟨handle.held, handed⟩ ran
  rintro before action after ⟨held, stands⟩ change
  obtain ⟨bound, _⟩ := List.getElem?_eq_some_iff.mp stands
  cases change with
  | client taken => exact ⟨held, by rw [List.getElem?_append_left bound, stands]⟩
  | clone cloned => exact ⟨held, by rw [List.getElem?_append_left bound, stands]⟩
  | poll polled looked => exact ⟨held, stands⟩
  | @drop _ dropped old found =>
      obtain ⟨old_stands, _⟩ := Option.filter_eq_some_iff.mp found
      by_cases here : dropped = number
      · subst here
        cases old_stands.symm.trans stands
        exact ⟨false, by rw [set_at _ stands, if_pos rfl]⟩
      · exact ⟨held, by rw [set_at _ old_stands, if_neg here, stands]⟩

theorem reply_run {acts : List Act} {request : RequestId} {reply : Reply} (custody : holders.lookup.Custody)
    (known : holders.lookup.reply? request = some reply) (ran : holders.run acts = some later) :
    later.lookup.reply? request = some reply := by
  refine (run_preserves (motive := fun holders => holders.lookup.Custody ∧ holders.lookup.reply? request = some reply)
    ?_ ⟨custody, known⟩ ran).2
  rintro before action after ⟨whole, given⟩ change
  rcases clients_of_change change with ⟨taken, stepped, _⟩ | ⟨same, _⟩
  · have step := Clients.step_of_act stepped
    exact ⟨BatchLookup.custody_step whole step, BatchLookup.reply_kept whole step given⟩
  · rw [lookup, same]
    exact ⟨whole, given⟩

theorem seen_run {acts : List Act} {number : Nat} {found : Option Values} (custody : holders.lookup.Custody)
    (seen : holders.sees number = some found) (ran : holders.run acts = some later) (held : later.held? number ≠ none) :
    later.sees number = some found := by
  cases before : holders.held? number with
  | none => rw [sees, poll, before] at seen; cases seen
  | some handle =>
      obtain ⟨handed, _⟩ := Option.filter_eq_some_iff.mp before
      obtain ⟨kept_held, stands⟩ := handle_run handed ran
      obtain ⟨after, still⟩ := Option.ne_none_iff_exists'.mp held
      obtain ⟨now, _⟩ := Option.filter_eq_some_iff.mp still
      cases stands.symm.trans now
      rw [sees_held before] at seen
      rw [sees_held still]
      cases known : holders.lookup.reply? handle.request with
      | none => rw [BatchLookup.look_unreplied known] at seen; cases seen
      | some reply =>
          rw [BatchLookup.look_replied known] at seen
          rw [BatchLookup.look_replied (reply_run custody known ran), seen]

theorem unseen {number : Nat} {handle : Handle} (held : holders.held? number = some handle)
    (unknown : holders.lookup.reply? handle.request = none) : holders.sees number = none := by
  rw [sees_held held, BatchLookup.look_unreplied unknown]
  rfl

theorem unseen_waiting (kept : holders.Kept outcomes) {number : Nat} {handle : Handle}
    (held : holders.held? number = some handle)
    (waits : ⟨handle.key, handle.request⟩ ∈ holders.lookup.waiting handle.adapter) : holders.sees number = none :=
  unseen held (BatchLookup.unreplied_of_waiting kept.custody waits)

theorem unseen_fetching (kept : holders.Kept outcomes) {index number position : Nat} {batch : Batch} {handle : Handle}
    (stands : holders.lookup.batches[index]? = some batch) (open_ : index ∉ outcomes.map Prod.fst)
    (held : holders.held? number = some handle) (placed : handle.For batch position) : holders.sees number = none := by
  have fetching := (kept.settled.fetching index batch stands).mpr open_
  have waits : handle.request ∈ batch.unanswered := by
    rw [Batch.unanswered, fetching]
    exact List.mem_map.mpr ⟨_, List.mem_of_getElem? placed.2, rfl⟩
  exact unseen held (BatchLookup.unreplied_of_unanswered kept.custody (List.mem_of_getElem? stands) waits)

theorem seen_by_position (kept : holders.Kept outcomes) {index number position : Nat} {batch : Batch} {fetched : Fetched}
    {handle : Handle} (stands : holders.lookup.batches[index]? = some batch) (ended : (index, fetched) ∈ outcomes)
    (held : holders.held? number = some handle) (placed : handle.For batch position) :
    (holders.sees number = none ∧ batch.unsent ≠ []) ∨ holders.sees number = some (fetched.answer position) := by
  obtain ⟨reply, due, worth⟩ := Fetched.replies_at placed.2 fetched
  obtain ⟨same, stands_too, told⟩ := kept.settled.told index fetched ended
  cases stands.symm.trans stands_too
  rcases told _ due with unsent | given
  · have waits : handle.request ∈ batch.unanswered := by
      cases progress : batch.progress with
      | fetching => rw [Batch.unsent, progress] at unsent; cases unsent
      | replying rest =>
          rw [Batch.unsent, progress] at unsent
          rw [Batch.unanswered, progress]
          exact List.mem_map_of_mem unsent
    exact .inl ⟨unseen held (BatchLookup.unreplied_of_unanswered kept.custody (List.mem_of_getElem? stands) waits),
      List.ne_nil_of_mem unsent⟩
  · have known : holders.lookup.reply? handle.request = some reply :=
      BatchLookup.lookup_of_mem (List.nodup_append.mp (BatchLookup.requests_distinct kept.custody)).2.1 given
    rw [sees_held held, BatchLookup.look_replied known, worth]
    exact .inr rfl

theorem act_reply {index : Nat} {replied : BatchLookup} (given : holders.lookup.reply index = some replied) :
    holders.act (.client (.reply index)) = some { holders with clients := holders.clients.withLookup replied } := by
  have stepped : holders.clients.act (.reply index) = some (holders.clients.withLookup replied) :=
    Option.map_eq_some_iff.mpr ⟨replied, given, rfl⟩
  have nobody : handedOut holders.clients (.reply index) = [] := rfl
  rw [act_of_change (.client stepped), nobody, List.append_nil]

theorem run_replies {index : Nat} {batch : Batch} (rest : List (RequestId × Reply))
    (stands : holders.lookup.batches[index]? = some { batch with progress := .replying rest }) :
    ∃ told, holders.run (List.replicate rest.length (.client (.reply index))) = some told
      ∧ told.handles = holders.handles ∧ told.lookup.batches[index]? = some { batch with progress := .replying [] } := by
  induction rest generalizing holders with
  | nil => exact ⟨holders, rfl, rfl, stands⟩
  | cons next rest step =>
      obtain ⟨replied, given, next_stands⟩ := BatchLookup.reply_next stands
      obtain ⟨told, ran, handles, answered⟩ :=
        @step { holders with clients := holders.clients.withLookup replied } next_stands
      refine ⟨told, ?_, handles, answered⟩
      rw [List.length_cons, List.replicate_succ, run_cons, act_reply given]
      exact ran

def Act.drops : Act → Bool
  | .drop _ => true
  | _ => false

-- The same holders, but for handles that were dropped on one side only.
structure Spared (holders free : Holders) : Prop where
  clients : free.clients = holders.clients
  count : free.handles.length = holders.handles.length
  held : ∀ number handle, holders.held? number = some handle → free.held? number = some handle

theorem held_concat {clients : Clients} {handles fresh : List Handle} (number : Nat) :
    (Holders.mk clients (handles ++ fresh)).held? number
      = if number < handles.length then (Holders.mk clients handles).held? number
        else (fresh[number - handles.length]?).filter Handle.held := by
  rw [held?, held?]
  by_cases old : number < handles.length
  · rw [if_pos old, List.getElem?_append_left old]
  · rw [if_neg old, List.getElem?_append_right (Nat.not_lt.mp old)]

theorem spared_concat {free : Holders} {clients : Clients} (spared : Spared holders free) (fresh : List Handle) :
    Spared ⟨clients, holders.handles ++ fresh⟩ ⟨clients, free.handles ++ fresh⟩ := by
  refine ⟨rfl, by rw [List.length_append, List.length_append, spared.count], ?_⟩
  intro number handle held
  rw [held_concat] at held ⊢
  rw [spared.count]
  by_cases old : number < holders.handles.length
  · rw [if_pos old] at held ⊢
    exact spared.held number handle held
  · rw [if_neg old] at held ⊢
    exact held

theorem spared_change {free : Holders} {action : Act} (spared : Spared holders free) (change : Change action holders later)
    (keeps : action.drops = false) : ∃ freed, free.act action = some freed ∧ Spared later freed := by
  cases change with
  | client taken =>
      rw [← spared.clients] at taken
      exact ⟨_, act_of_change (.client taken), spared.clients ▸ spared_concat spared _⟩
  | clone held =>
      refine ⟨_, act_of_change (.clone (spared.held _ _ held)), ?_⟩
      exact spared.clients ▸ spared_concat spared _
  | drop held => cases keeps
  | poll held looked =>
      rw [← spared.clients] at looked
      exact ⟨_, act_of_change (.poll (spared.held _ _ held) looked), rfl, spared.count, spared.held⟩

theorem spared_run {free : Holders} {acts : List Act} (spared : Spared holders free) (ran : holders.run acts = some later) :
    ∃ freed, free.run (acts.filter (fun action => !action.drops)) = some freed ∧ Spared later freed := by
  induction acts generalizing holders free with
  | nil => cases ran; exact ⟨free, rfl, spared⟩
  | cons action rest step =>
      obtain ⟨next, taken, ran⟩ := Option.bind_eq_some_iff.mp ((run_cons holders action rest).symm.trans ran)
      have change := change_of_act taken
      by_cases drops : action.drops = true
      · have dropped : Spared next free := by
          cases change with
          | @drop _ number handle held =>
              refine ⟨spared.clients, by rw [List.length_set, spared.count], ?_⟩
              intro other kept still
              obtain ⟨stands, alive⟩ := Option.filter_eq_some_iff.mp still
              obtain ⟨dropped, _⟩ := Option.filter_eq_some_iff.mp held
              rw [set_at _ dropped] at stands
              by_cases here : number = other
              · rw [if_pos here] at stands
                cases stands
                cases alive
              · rw [if_neg here] at stands
                exact spared.held other kept (Option.filter_eq_some_iff.mpr ⟨stands, alive⟩)
          | _ => cases drops
        rw [List.filter_cons_of_neg (by rw [drops]; decide)]
        exact step dropped ran
      · obtain ⟨freed, spared_taken, spared_next⟩ := spared_change spared change (Bool.not_eq_true _ ▸ drops)
        obtain ⟨last, spared_ran, spared_last⟩ := step spared_next ran
        refine ⟨last, ?_, spared_last⟩
        rw [List.filter_cons_of_pos (by simpa using drops), run_cons, spared_taken]
        exact spared_ran

theorem sees_spared {free : Holders} (spared : Spared holders free) {number : Nat} {handle : Handle}
    (held : holders.held? number = some handle) : free.sees number = holders.sees number := by
  rw [sees_held held, sees_held (spared.held number handle held), lookup, lookup, spared.clients]

-- What comes of a batch whose fetch has ended.
structure Resolved (holders : Holders) (index : Nat) (batch : Batch) (fetched : Fetched) : Prop where
  reported : fetched.Reported batch (holders.lookup.reports (index, fetched))
  seen : ∀ number handle position, holders.held? number = some handle → handle.For batch position →
    (holders.sees number = none ∧ batch.unsent ≠ []) ∨ holders.sees number = some (fetched.answer position)
  told : ∃ told, holders.run (List.replicate batch.unsent.length (.client (.reply index))) = some told
    ∧ told.handles = holders.handles ∧ ∀ number handle position, told.held? number = some handle →
      handle.For batch position → told.sees number = some (fetched.answer position)

theorem resolved_of_ended (kept : holders.Kept outcomes) {index : Nat} {batch : Batch} {fetched : Fetched}
    (stands : holders.lookup.batches[index]? = some batch) (ended : (index, fetched) ∈ outcomes) :
    holders.Resolved index batch fetched := by
  refine ⟨?_, fun number handle position held placed => seen_by_position kept stands ended held placed, ?_⟩
  · rw [BatchLookup.reports_at stands]
    exact Fetched.events_reported batch fetched
  · have replying : batch = { batch with progress := .replying batch.unsent } := by
      have fetched_once := (kept.settled.fetching index batch stands).not.mpr
        (not_not.mpr (List.mem_map_of_mem ended))
      cases batch with
      | mk adapter entries params progress =>
          cases progress with
          | fetching => exact absurd rfl fetched_once
          | replying rest => rfl
    obtain ⟨told, ran, handles, answered⟩ := run_replies batch.unsent (replying ▸ stands)
    refine ⟨told, ran, handles, fun number handle position held placed => ?_⟩
    have told_kept := kept_run kept ran
    have nothing_new : completions (List.replicate batch.unsent.length (.client (.reply index))) = [] :=
      List.flatMap_eq_nil_iff.mpr (fun action member => by rw [List.eq_of_mem_replicate member]; rfl)
    rw [nothing_new, List.append_nil] at told_kept
    exact (seen_by_position told_kept answered ended held placed).resolve_left (fun pending => pending.2 rfl)

theorem handle_for (kept : holders.Kept outcomes) {index position : Nat} {batch : Batch} {entry : Entry} {handle : Handle}
    (stands : holders.lookup.batches[index]? = some batch) (placed : batch.entries[position]? = some entry)
    (handed : handle ∈ holders.handles) (same : handle.request = entry.request) : handle.For batch position := by
  have slot : handle.slot = entry.slot batch.adapter :=
    BatchLookup.slot_unique kept.numbered (kept.handed handle handed) (BatchLookup.slot_of_sent stands placed) same
  cases handle
  cases entry
  cases slot
  exact ⟨rfl, placed⟩

-- The handles for a request see nothing before the fetch has ended, then all the same, what was found for their
-- position; each batch is reported by itself, and no drop makes a difference.
theorem seen_as_fetched {size : Nat} (sized : 0 < size) :
    ∃ lookup, BatchLookup.create size = .ok lookup
      ∧ ∀ (acts : List Act) (holders : Holders), (Holders.mk ⟨lookup, []⟩ []).run acts = some holders →
        ((completions acts).map Prod.fst).Nodup
        ∧ (∀ index ∈ (completions acts).map Prod.fst, index < holders.lookup.batches.length)
        ∧ (∀ handle ∈ holders.handles, ⟨handle.key, handle.request⟩ ∈ holders.lookup.waiting handle.adapter
          ∨ ∃ (index : Nat) (batch : Batch) (position : Nat),
            holders.lookup.batches[index]? = some batch ∧ handle.For batch position)
        ∧ (∀ number handle, holders.held? number = some handle →
          ⟨handle.key, handle.request⟩ ∈ holders.lookup.waiting handle.adapter → holders.sees number = none)
        ∧ (∀ index batch, holders.lookup.batches[index]? = some batch →
          (∀ position entry, batch.entries[position]? = some entry → ∀ handle ∈ holders.handles,
            handle.request = entry.request → handle.For batch position)
          ∧ (∀ more later, holders.run more = some later →
            ∃ progress, later.lookup.batches[index]? = some { batch with progress := progress })
          ∧ (index ∉ (completions acts).map Prod.fst → ∀ number handle position,
            holders.held? number = some handle → handle.For batch position → holders.sees number = none)
          ∧ ∀ fetched, (index, fetched) ∈ completions acts → holders.Resolved index batch fetched)
        ∧ holders.lookup.batchLog = (completions acts).reverse.flatMap holders.lookup.reports
        ∧ (∀ number found, holders.sees number = some found → ∀ more later, holders.run more = some later →
          later.held? number ≠ none → later.sees number = some found)
        ∧ ∃ free, (Holders.mk ⟨lookup, []⟩ []).run (acts.filter (fun action => !action.drops)) = some free
          ∧ Spared holders free
          ∧ ∀ number handle, holders.held? number = some handle → free.sees number = holders.sees number := by
  refine ⟨_, BatchLookup.create_sized sized, ?_⟩
  intro acts holders ran
  have kept : holders.Kept (completions acts) := kept_run (kept_fresh size) ran
  refine ⟨kept.settled.once, fun index ended => BatchLookup.settled_bound kept.settled ended, ?_, ?_, ?_, kept.log, ?_, ?_⟩
  · intro handle handed
    exact BatchLookup.mem_slots kept.custody.ascending (kept.handed handle handed)
  · exact fun number handle held waits => unseen_waiting kept held waits
  · intro index batch stands
    refine ⟨?_, fun more later => batch_run stands, ?_, ?_⟩
    · exact fun position entry placed handle handed same => handle_for kept stands placed handed same
    · exact fun open_ number handle position held placed => unseen_fetching kept stands open_ held placed
    · exact fun fetched ended => resolved_of_ended kept stands ended
  · exact fun number found seen more later again held => seen_run kept.custody seen again held
  · obtain ⟨free, ran_free, spared⟩ := @spared_run _ _ ⟨⟨{ batchSize := size }, []⟩, []⟩ _ ⟨rfl, rfl, fun _ _ held => held⟩ ran
    exact ⟨free, ran_free, spared, fun number handle held => sees_spared spared held⟩

theorem seen_as_fetched_of_short :
    ∃ holders, (Holders.mk ⟨{ batchSize := 2 }, []⟩ []).run
        [.client (.request 7 [1]), .client (.request 7 [1]), .clone 0, .client (.request 7 [2]),
          .client (.request 8 [1]), .client (.flushAdapter 8), .drop 0, .client (.complete 1 (.failed (.fetch "down"))),
          .client (.complete 0 (.results [some []])), .client (.reply 0)] = some holders
      ∧ (holders.sees 1 = some (some []) ∧ holders.sees 2 = some (some []) ∧ holders.sees 3 = none)
      ∧ (∃ told, holders.run [.client (.reply 0)] = some told ∧ told.sees 1 = some (some []) ∧ told.sees 3 = some none)
      ∧ holders.lookup.batchLog = [.resultsMissing 7 2 1, .batchFailed 8 1 (.fetch "down")] := by
  obtain ⟨lookup, created, holds⟩ := @seen_as_fetched 2 (by decide)
  cases created
  obtain ⟨_, _, _, _, batches, log, lasting, _⟩ := holds
    [.client (.request 7 [1]), .client (.request 7 [1]), .clone 0, .client (.request 7 [2]),
      .client (.request 8 [1]), .client (.flushAdapter 8), .drop 0, .client (.complete 1 (.failed (.fetch "down"))),
      .client (.complete 0 (.results [some []])), .client (.reply 0)] _ rfl
  obtain ⟨_, _, _, resolved⟩ := batches 0 _ rfl
  obtain ⟨told, ran, handles, seen⟩ := (resolved (.results [some []]) (by decide)).told
  have last : told.held? 3 = some ⟨7, [2], 1, true⟩ := by
    rw [held?, handles]
    rfl
  have first : told.held? 1 ≠ none := by
    rw [held?, handles]
    decide
  exact ⟨_, rfl, by decide, ⟨told, ran, lasting 1 (some []) (by decide) _ _ ran first, seen 3 _ 1 last ⟨rfl, rfl⟩⟩, log⟩

end Holders

end ThinScan
