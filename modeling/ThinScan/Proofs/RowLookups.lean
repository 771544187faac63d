import ThinScan.Proofs.Requests

set_option autoImplicit false

namespace ThinScan

variable {T : Type}

namespace BatchLookup

variable {lookup later : BatchLookup} {adapter : AdapterId}

def sentFor (lookup : BatchLookup) (adapter : AdapterId) : List (AdapterId × List Bytes) :=
  lookup.dispatched.filter (fun sent => sent.1 = adapter)

def Full (lookup : BatchLookup) (adapter : AdapterId) : Prop :=
  (lookup.dispatchedKeys adapter).length = (lookup.sentFor adapter).length * lookup.batchSize

-- Nothing waits for the adapter, and its batches are as few as can be.
structure Rounded (lookup : BatchLookup) (adapter : AdapterId) : Prop where
  nothing : lookup.waiting adapter = []
  enough : (lookup.dispatchedKeys adapter).length ≤ (lookup.sentFor adapter).length * lookup.batchSize
  tight : (lookup.sentFor adapter).length * lookup.batchSize < (lookup.dispatchedKeys adapter).length + lookup.batchSize

structure Spares (lookup later : BatchLookup) (adapter : AdapterId) : Prop where
  sent : later.sentFor adapter = lookup.sentFor adapter
  waiting : later.waiting adapter = lookup.waiting adapter
  size : later.batchSize = lookup.batchSize

theorem keys_spared (spares : lookup.Spares later adapter) : later.dispatchedKeys adapter = lookup.dispatchedKeys adapter :=
  congrArg (List.flatMap Prod.snd) spares.sent

theorem full_spared (full : lookup.Full adapter) (spares : lookup.Spares later adapter) : later.Full adapter := by
  rw [Full, keys_spared spares, spares.sent, spares.size]
  exact full

theorem rounded_spared (rounded : lookup.Rounded adapter) (spares : lookup.Spares later adapter) :
    later.Rounded adapter := by
  refine ⟨spares.waiting.trans rounded.nothing, ?_, ?_⟩
  · rw [keys_spared spares, spares.sent, spares.size]
    exact rounded.enough
  · rw [keys_spared spares, spares.sent, spares.size]
    exact rounded.tight

theorem spares_flush {flushed : AdapterId} (harmless : flushed ≠ adapter ∨ lookup.waiting adapter = []) :
    lookup.Spares (lookup.flushAdapter flushed) adapter := by
  refine ⟨?_, ?_, batchSize_flushAdapter lookup flushed⟩
  · rw [sentFor, dispatched_flushAdapter, List.filter_append]
    refine (congrArg (_ ++ ·) (List.filter_eq_nil_iff.mpr (fun sent member => ?_))).trans (List.append_nil _)
    split at member
    · cases member
    · rename_i something
      rw [List.mem_singleton.mp member]
      rcases harmless with elsewhere | nothing
      · simpa using elsewhere
      · simp only [decide_eq_true_eq]
        rintro rfl
        exact something nothing
  · rw [waiting_flushAdapter]
    split
    · rename_i here
      exact (harmless.resolve_left (not_not_intro here)).symm
    · rfl

theorem spares_step {cause : Cause} (step : Step cause lookup later) (unasked : ∀ adapter key, cause ≠ .asked adapter key)
    (unflushed : ∀ adapter, cause ≠ .flushed adapter) (adapter : AdapterId) : lookup.Spares later adapter := by
  have stored (sent : later.dispatched = lookup.dispatched) (pending : later.pending = lookup.pending)
      (size : later.batchSize = lookup.batchSize) : lookup.Spares later adapter :=
    ⟨by rw [sentFor, sent, sentFor], by rw [BatchLookup.waiting, pending, BatchLookup.waiting], size⟩
  cases step with
  | queue => exact absurd rfl (unasked _ _)
  | fill => exact absurd rfl (unasked _ _)
  | flush => exact absurd rfl (unflushed _)
  | complete held fetching batches size pending => exact stored (dispatched_set _ held batches) pending size
  | reply held replying batches size pending => exact stored (dispatched_set _ held batches) pending size
  | quiet batches size pending => exact stored (congrArg (List.map _) batches) pending size

theorem length_sent {size : Nat} (sent : List (AdapterId × List Bytes)) (all : ∀ batch ∈ sent, batch.2.length = size) :
    (sent.flatMap (·.2)).length = sent.length * size := by
  rw [List.length_flatMap, List.map_eq_replicate_iff.mpr all, List.sum_replicate_nat]

theorem full_step {cause : Cause} (sound : lookup.Sound) (step : Step cause lookup later)
    (unflushed : ∀ adapter, cause ≠ .flushed adapter) (full : lookup.Full adapter) : later.Full adapter := by
  obtain ⟨sent, dispatched, sizes⟩ := dispatched_step sound step
  have filled : ∀ batch ∈ sent.filter (fun sent => sent.1 = adapter), batch.2.length = lookup.batchSize :=
    fun batch member => (sizes batch (List.mem_of_mem_filter member)).resolve_right (unflushed _)
  rw [Full] at full ⊢
  rw [dispatchedKeys, sentFor, dispatched, batchSize_step step, List.filter_append, List.flatMap_append,
    List.length_append, List.length_append, length_sent _ filled, Nat.add_mul]
  exact congrArg (· + _) full

theorem rounded_flush (sound : lookup.Sound) (full : lookup.Full adapter) (something : lookup.waiting adapter ≠ []) :
    (lookup.flushAdapter adapter).Rounded adapter := by
  have short := sound.short adapter
  have some_left : 0 < (lookup.waiting adapter).length := List.length_pos_iff.mpr something
  have sent : (lookup.flushAdapter adapter).sentFor adapter
      = lookup.sentFor adapter ++ [(adapter, lookup.waitingKeys adapter)] := by
    rw [sentFor, dispatched_flushAdapter, if_neg something, List.filter_append, sentFor]
    simp
  have batches : ((lookup.flushAdapter adapter).sentFor adapter).length = (lookup.sentFor adapter).length + 1 := by
    rw [sent, List.length_append, List.length_singleton]
  have keys : ((lookup.flushAdapter adapter).dispatchedKeys adapter).length
      = (lookup.dispatchedKeys adapter).length + (lookup.waiting adapter).length := by
    have all : (lookup.flushAdapter adapter).dispatchedKeys adapter
        = lookup.dispatchedKeys adapter ++ lookup.waitingKeys adapter := by
      have added := congrArg (List.flatMap Prod.snd) sent
      rw [List.flatMap_append, List.flatMap_singleton] at added
      exact added
    rw [all, List.length_append, waitingKeys, List.length_map]
  rw [Full] at full
  refine ⟨?_, ?_, ?_⟩
  · rw [waiting_flushAdapter, if_pos rfl]
  · rw [keys, batches, batchSize_flushAdapter, full, Nat.add_mul]
    omega
  · rw [keys, batches, batchSize_flushAdapter, full, Nat.add_mul]
    omega

theorem packed_flush {flushed : AdapterId} (sound : lookup.Sound) (step : Step (.flushed flushed) lookup later)
    (packed : lookup.Full adapter ∨ lookup.Rounded adapter) : later.Full adapter ∨ later.Rounded adapter := by
  cases step
  by_cases harmless : flushed ≠ adapter ∨ lookup.waiting adapter = []
  · exact packed.imp (full_spared · (spares_flush harmless)) (rounded_spared · (spares_flush harmless))
  · obtain ⟨here, something⟩ := not_or.mp harmless
    obtain rfl := Classical.not_not.mp here
    rcases packed with full | rounded
    · exact .inr (rounded_flush sound full something)
    · exact absurd rounded.nothing something

theorem batches_needed (sized : 0 < lookup.batchSize) (packed : lookup.Full adapter ∨ lookup.Rounded adapter) :
    (lookup.sentFor adapter).length
      = ((lookup.dispatchedKeys adapter).length + lookup.batchSize - 1) / lookup.batchSize := by
  symm
  rcases packed with full | rounded
  · rw [Full] at full
    rw [full]
    refine Nat.div_eq_of_lt_le (by omega) ?_
    rw [Nat.add_mul]
    omega
  · have enough := rounded.enough
    have tight := rounded.tight
    refine Nat.div_eq_of_lt_le (by omega) ?_
    rw [Nat.add_mul]
    omega

end BatchLookup

namespace Clients

variable {clients later : Clients} {asked : List Asked}

theorem mem_of_firsts (asked : List Asked) : ∀ one ∈ firsts asked, one ∈ asked := by
  induction asked using List.reverseRecOn with
  | nil => exact List.forall_mem_nil _
  | append_singleton earlier next step =>
      intro one member
      rw [firsts_concat] at member
      split at member
      · exact List.mem_append_left _ (step one member)
      · rcases List.mem_append.mp member with before | last
        · exact List.mem_append_left _ (step one before)
        · exact List.mem_append_right _ last

structure Recorded (clients : Clients) (asked : List Asked) : Prop where
  balanced : clients.Balanced asked
  known : ∀ one ∈ asked, one ∈ firsts asked

theorem recorded_act {action : Act} (recorded : clients.Recorded asked) (taken : clients.act action = some later) :
    later.Recorded (asked ++ clients.asked action) := by
  refine ⟨balanced_act recorded.balanced taken, ?_⟩
  have unasked (nothing : clients.asked action = []) :
      ∀ one ∈ asked ++ clients.asked action, one ∈ firsts (asked ++ clients.asked action) := by
    rw [nothing, List.append_nil]
    exact recorded.known
  cases action with
  | request adapter key =>
      intro one member
      rw [Clients.asked, firsts_concat]
      by_cases waits : key ∈ clients.lookup.waitingKeys adapter
      · obtain ⟨entry, held, same, joined⟩ := BatchLookup.request_joined waits
        have first := recorded.balanced.waiting adapter entry held
        rw [joined, if_pos (List.mem_map_of_mem first)]
        rcases List.mem_append.mp member with before | last
        · exact recorded.known one before
        · rw [List.mem_singleton.mp last, joined, ← same]
          exact first
      · have unknown : clients.lookup.requests ∉ (firsts asked).map Asked.request := fun known =>
          Nat.lt_irrefl _ ((recorded.balanced.futures _).mp known)
        rw [BatchLookup.request_fresh waits, if_neg unknown]
        rcases List.mem_append.mp member with before | last
        · exact List.mem_append_left _ (recorded.known one before)
        · rw [List.mem_singleton.mp last, BatchLookup.request_fresh waits]
          exact List.mem_append_right _ (List.mem_singleton.mpr rfl)
  | _ => exact unasked rfl

theorem mem_ledger (recorded : clients.Recorded asked) (adapter : AdapterId) (key : Bytes) :
    key ∈ clients.lookup.ledger adapter ↔ (adapter, key) ∈ asked.map Asked.target := by
  rw [recorded.balanced.ledger]
  constructor
  · intro member
    obtain ⟨one, listed, rfl⟩ := List.mem_map.mp member
    obtain ⟨first, here⟩ := List.mem_filter.mp listed
    have mine : one.target = (adapter, one.key) := congrArg (·, one.key) (of_decide_eq_true here)
    exact mine ▸ List.mem_map_of_mem (mem_of_firsts asked one first)
  · intro member
    obtain ⟨one, made, same⟩ := List.mem_map.mp member
    cases same
    exact List.mem_map.mpr ⟨one, List.mem_filter.mpr ⟨recorded.known one made, by simp⟩, rfl⟩

end Clients

namespace World

variable {world later : World T} {action : Act T} {acts : List (Act T)} {index size : Nat}
  {stores : List (Adapters T)} {params : Option Params}

theorem recorded_lookup (sized : 0 < size) (ran : (fresh stores size params).run acts = some world) :
    ∃ clients : Clients, clients.lookup = world.lookup ∧ clients.lookup.batchSize = size
      ∧ clients.Recorded (((fresh stores size params).history acts).filterMap Pulled.asked?) := by
  let unused : Clients := ⟨{ batchSize := size, params := params }, []⟩
  obtain ⟨calls, clients, played, lookup, asked⟩ := plays_run ran unused rfl
  have kept : clients.lookup.batchSize = size ∧ clients.Recorded ([] ++ unused.history calls) := by
    refine @Clients.run_keeps (fun clients asked => clients.lookup.batchSize = size ∧ clients.Recorded asked) ?_ calls _
      clients [] ⟨rfl, Clients.balanced_fresh_lookup sized params, List.forall_mem_nil _⟩ played
    intro clients asked action later kept taken
    exact ⟨(BatchLookup.batchSize_step (Clients.step_of_act taken)).trans kept.1, Clients.recorded_act kept.2 taken⟩
  rw [List.nil_append, asked] at kept
  exact ⟨clients, lookup, kept⟩

def Sole (index : Nat) (acts : List (Act T)) : Prop :=
  ∀ action ∈ acts, (∀ adapter, action ≠ .flushAdapter adapter) ∧ ∀ other, action = .pull other → other = index

-- No other scan has begun, and the batches are full, but for the last of each adapter once the scan is at its end.
structure Solitary (world : World T) (index : Nat) : Prop where
  only : ∀ (place : Nat) (scan : Scan T), world.scans[place]? = some scan → scan.initiated = true → place = index
  packed : ∀ adapter, world.lookup.Full adapter ∨ (world.lookup.Rounded adapter
    ∧ ∃ scan : Scan T, world.scans[index]? = some scan ∧ scan.exhausted = true)

theorem only_move (solitary : world.Solitary index) (move : Move action world later)
    (pulls : ∀ other, action = .pull other → other = index) (place : Nat) (fresh : Scan T)
    (now : later.scans[place]? = some fresh) (initiated : fresh.initiated = true) : place = index := by
  cases before : world.scans[place]? with
  | none => exact absurd ((unbegun_of_absent move now before).symm.trans initiated) Bool.false_ne_true
  | some scan =>
      rcases (follows_move move before now).begun initiated with earlier | pulled
      · exact solitary.only place scan before earlier
      · exact pulls place pulled

theorem packed_move (sound : world.Sound) (lookup : world.lookup.Sound) (solitary : world.Solitary index)
    (move : Move action world later) (unflushed : ∀ adapter, action ≠ .flushAdapter adapter) (adapter : AdapterId) :
    later.lookup.Full adapter ∨ (later.lookup.Rounded adapter
      ∧ ∃ scan : Scan T, later.scans[index]? = some scan ∧ scan.exhausted = true) := by
  have stays {scan : Scan T} (held : world.scans[index]? = some scan) (said : scan.exhausted = true) :
      ∃ scan : Scan T, later.scans[index]? = some scan ∧ scan.exhausted = true := by
    obtain ⟨fresh, now⟩ := stays_move move held
    exact ⟨fresh, now, (follows_move move held now).exhausted said⟩
  obtain ⟨cause, step, _, asked, flushes⟩ := step_of_move move
  by_cases flushing : ∃ flushed, cause = .flushed flushed
  · obtain ⟨flushed, rfl⟩ := flushing
    obtain ⟨place, scan, held, past⟩ := (flushes flushed rfl).resolve_left (unflushed flushed)
    have scan_sound := held_sound sound held
    have said : scan.exhausted = true := scan_sound.past past
    obtain rfl := solitary.only place scan held (scan_sound.counted said)
    exact (BatchLookup.packed_flush lookup step ((solitary.packed adapter).imp_right And.left)).imp_right
      (fun rounded => ⟨rounded, stays held said⟩)
  · have unflushing (flushed : AdapterId) : cause ≠ .flushed flushed := fun same => flushing ⟨flushed, same⟩
    rcases solitary.packed adapter with full | ⟨rounded, scan, held, said⟩
    · exact .inl (BatchLookup.full_step lookup step unflushing full)
    · -- Whoever asks is a scan that is not at its end, so it is not this one.
      have unasked (wanted : AdapterId) (key : Bytes) : cause ≠ .asked wanted key := by
        intro asks
        obtain ⟨place, asking, row, rest, at_place, scanning, next⟩ := asked wanted key asks
        have begun := ((held_sound sound at_place).pulled (by rw [scanning]; rfl)).1
        obtain rfl := solitary.only place asking at_place begun
        cases held.symm.trans at_place
        exact Bool.false_ne_true ((active_of_row sound at_place scanning next).1.symm.trans said)
      exact .inr ⟨BatchLookup.rounded_spared rounded (BatchLookup.spares_step step unasked unflushing adapter),
        stays held said⟩

theorem solitary_run (sized : 0 < size) (ran : (fresh stores size params).run acts = some world) (sole : Sole index acts) :
    world.Solitary index := by
  refine run_grows (motive := fun acts world => Sole index acts → world.Solitary index) ?_ ?_ ran sole
  · exact fun _ => ⟨nofun, fun adapter => .inl (Nat.zero_mul _).symm⟩
  · intro acts action world later ran before taken sole
    have solitary := before (fun earlier member => sole earlier (List.mem_append_left _ member))
    obtain ⟨unflushed, pulls⟩ := sole action (List.mem_append_right _ (List.mem_singleton.mpr rfl))
    obtain ⟨clients, lookup, _, recorded⟩ := recorded_lookup sized ran
    have move := move_of_act taken
    exact ⟨only_move solitary move pulls,
      packed_move (sound_run (sound_fresh stores size params) ran) (lookup ▸ recorded.balanced.sound) solitary move unflushed⟩

theorem own_history (sized : 0 < size) (ran : (fresh stores size params).run acts = some world) (sole : Sole index acts) :
    pulledBy index ((fresh stores size params).history acts) = (fresh stores size params).history acts := by
  refine List.filter_eq_self.mpr ?_
  refine run_grows (motive := fun acts _ => Sole index acts → ∀ pulled ∈ (fresh stores size params).history acts,
    decide (pulled.scan = index) = true) (fun _ => List.forall_mem_nil _) ?_ ran sole
  intro acts action world later ran before taken sole pulled member
  have earlier : Sole index acts := fun earlier member => sole earlier (List.mem_append_left _ member)
  rw [history_concat ran taken] at member
  rcases List.mem_append.mp member with past | fresh
  · exact before earlier pulled past
  · rcases pulls_cases world action with nothing | ⟨place, scan, row, held, scanning, one⟩
    · rw [nothing] at fresh
      cases fresh
    · rw [one] at fresh
      rw [List.mem_singleton.mp fresh]
      have begun := ((held_sound (sound_run (sound_fresh stores size params) ran) held).pulled (by rw [scanning]; rfl)).1
      exact decide_eq_true ((solitary_run sized ran earlier).only place scan held begun)

theorem nothing_left (sound : world.Sound) (solitary : world.Solitary index) {scan : Scan T}
    (at_place : world.scans[index]? = some scan) (finished : scan.finished = true) (adapter : AdapterId) :
    world.lookup.waiting adapter = [] := by
  obtain ⟨said, idle, _⟩ := (held_sound sound at_place).stopped finished
  apply Classical.byContradiction
  intro waits
  rcases sound.owed adapter waits with active | ⟨place, owing, held, owes⟩
  · obtain ⟨place, live, held, lives⟩ := live_of_active sound active
    obtain ⟨begun, unsaid, _⟩ := (Scan.live_iff live).mp lives
    obtain rfl := solitary.only place live held begun
    cases at_place.symm.trans held
    exact Bool.false_ne_true (unsaid.symm.trans said)
  · have flushes := flushes_of_owes owes
    have owing_sound := held_sound sound held
    have past : owing.phase.past = true := by
      cases phase : owing.phase with
      | flushing left => rfl
      | closing left => rfl
      | _ => rw [phase] at flushes; cases flushes
    obtain rfl := solitary.only place owing held (owing_sound.counted (owing_sound.past past))
    cases at_place.symm.trans held
    rw [idle] at flushes
    cases flushes

theorem all_fetched (sized : 0 < size) (ran : (fresh stores size params).run acts = some world) (sole : Sole index acts)
    {scan : Scan T} (at_place : world.scans[index]? = some scan) (finished : scan.finished = true) :
    ∀ batch ∈ world.lookup.batches, batch.isFetching = false := by
  have sound := sound_run (sound_fresh stores size params) ran
  obtain ⟨clients, same, _, recorded⟩ := recorded_lookup sized ran
  obtain ⟨all_accounts, _⟩ := accounts_run ran
  obtain ⟨settled, lost, accounts⟩ := all_accounts index
  have answered := (emitted_of_finished sound accounts at_place finished).1
  rw [own_history sized ran sole] at answered
  intro batch member
  refine Bool.eq_false_iff.mpr (fun open_ => ?_)
  have fetching : batch.progress = .fetching := by simpa [Batch.isFetching] using open_
  have some_keys : batch.keys ≠ [] :=
    ((same ▸ recorded.balanced.sound).proper (batch.adapter, batch.keys) (List.mem_map_of_mem member)).1
  obtain ⟨entry, among⟩ := List.exists_mem_of_ne_nil _ (mt List.map_eq_nil_iff.mpr some_keys)
  have unanswered : entry.request ∈ batch.unanswered := by
    rw [Batch.unanswered, fetching]
    exact List.mem_map_of_mem among
  have placed : entry.request ∈ world.lookup.places :=
    List.mem_append_left _ (List.mem_append_right _ (List.mem_flatMap.mpr ⟨batch, member, unanswered⟩))
  have issued : entry.request < clients.lookup.requests :=
    same ▸ List.mem_range.mp (sound.custody.whole.mem_iff.mp placed)
  obtain ⟨asked, first, made⟩ := List.mem_map.mp ((recorded.balanced.futures entry.request).mpr issued)
  obtain ⟨pulled, past, asks⟩ := List.mem_filterMap.mp (Clients.mem_of_firsts _ asked first)
  unfold Pulled.asked? at asks
  split at asks
  · rename_i adapter request deferred
    cases asks
    obtain ⟨reply, known⟩ := answered pulled past adapter request deferred
    have unknown := BatchLookup.unreplied_of_unanswered sound.custody member unanswered
    rw [← made] at unknown
    cases known.symm.trans unknown
  · cases asks

-- The rows pulled are the first of the source, met by the filters of the scan, and it has made one request for each
-- that wants its record, in their order.
structure Asks (start : World T) (acts : List (Act T)) (index : Nat) (scan : Scan T) (source : Source) : Prop where
  begun : (sources acts)[index]? = some source ∧ (filterings acts)[index]? = some scan.filters
  rows : ∃ left, (start.sightings index acts).map Sighting.row ++ left = source.rows
  filters : ∀ sighting ∈ start.sightings index acts, sighting.decoder.filters = scan.filters
  asked : (start.requests index acts).map Clients.Asked.target
    = ((start.sightings index acts).filter Sighting.wanted).map Sighting.target

theorem asks_run (ran : (fresh stores size params).run acts = some world) {scan : Scan T}
    (at_place : world.scans[index]? = some scan) :
    ∃ source, Asks (fresh stores size params) acts index scan source := by
  have traced := (accounts_run ran).2
  obtain ⟨bound, _⟩ := List.getElem?_eq_some_iff.mp at_place
  have started : (sources acts)[index]? = some _ := List.getElem?_eq_getElem (traced.length.symm ▸ bound)
  have filtered : (filterings acts)[index]? = some scan.filters := by
    rw [← (settlement_run ran).filters, List.getElem?_map, at_place]
    rfl
  refine ⟨_, ⟨started, filtered⟩, ⟨scan.source.rows, ?_⟩, fun sighting member => ?_, requests_sightings index _ acts⟩
  · rw [rows_sightings]
    exact traced.rows index scan _ at_place started
  · have met := filters_sightings ran index sighting member
    exact Option.some.inj (met.symm.trans filtered)

-- What the batches of a lookup with one scan have come to: all are fetched, their keys are those of the rows that wanted
-- their records, and their number is that of the requests that joined no other, in full batches, rounded up.
structure Batched (start : World T) (acts : List (Act T)) (world : World T) (index size : Nat) : Prop where
  fetched : ∀ batch ∈ world.lookup.batches, batch.isFetching = false
  keys : ∀ adapter key, key ∈ world.lookup.dispatchedKeys adapter
    ↔ (adapter, key) ∈ ((start.sightings index acts).filter Sighting.wanted).map Sighting.target
  batches : ∀ adapter, (world.lookup.batches.filter (fun batch => batch.adapter = adapter)).length
    = (((Clients.firsts (start.requests index acts)).filter (fun asked => asked.adapter = adapter)).length + size - 1) / size

theorem batched_run (sized : 0 < size) (ran : (fresh stores size params).run acts = some world) (sole : Sole index acts)
    {scan : Scan T} (at_place : world.scans[index]? = some scan) (finished : scan.finished = true) :
    Batched (fresh stores size params) acts world index size := by
  have sound := sound_run (sound_fresh stores size params) ran
  have solitary := solitary_run sized ran sole
  obtain ⟨clients, same, size_kept, recorded⟩ := recorded_lookup sized ran
  rw [← own_history sized ran sole, ← requests] at recorded
  have through (adapter : AdapterId) : world.lookup.dispatchedKeys adapter = clients.lookup.ledger adapter := by
    rw [same, BatchLookup.ledger, BatchLookup.waitingKeys, nothing_left sound solitary at_place finished]
    exact (List.append_nil _).symm
  refine ⟨all_fetched sized ran sole at_place finished, fun adapter key => ?_, fun adapter => ?_⟩
  · rw [through, Clients.mem_ledger recorded, requests_sightings]
  · have needed := BatchLookup.batches_needed ((same ▸ size_kept).symm ▸ sized)
      ((solitary.packed adapter).imp_right And.left)
    have sent : (world.lookup.batches.filter (fun batch => batch.adapter = adapter)).length
        = (world.lookup.sentFor adapter).length := by
      rw [BatchLookup.sentFor, BatchLookup.dispatched, List.filter_map, List.length_map]
      rfl
    rw [sent, needed, through, recorded.balanced.ledger, List.length_map, ← same, size_kept]

-- The records looked up are those of just the rows that every filter accepts, whose adapter is registered and that
-- carry no values, one for each and in their order. If one scan alone uses the lookup, its batches are as few as can
-- be.
theorem rows_looked_up :
    (∀ (filters : List Filter) (source : Source) (pulls : List (InlineScan.Pull T)),
      InlineScan.LooksUp filters source pulls)
    ∧ ∀ (stores : List (Adapters T)) (size : Nat) (params : Option Params) (acts : List (Act T)) (world : World T),
      (fresh stores size params).run acts = some world →
      Clients.Plays (fresh stores size params).lookup world.lookup
        (((fresh stores size params).history acts).filterMap Pulled.asked?)
      ∧ ∀ (index : Nat) (scan : Scan T), world.scans[index]? = some scan →
        (∃ source, Asks (fresh stores size params) acts index scan source)
        ∧ (0 < size → Sole index acts → scan.finished = true →
          Batched (fresh stores size params) acts world index size) :=
  ⟨InlineScan.looksUp_pulls,
    fun _ _ _ _ _ ran => ⟨plays_run ran, fun _ _ at_place =>
      ⟨asks_run ran at_place, fun sized sole finished => batched_run sized ran sole at_place finished⟩⟩⟩

-- Rows of all kinds: thin ones, of which the second joins the first and the last does not, as its key has been sent by
-- then; one with values; one that is refused; and one whose adapter is unknown.
def mixedRows : Source :=
  [some (.thin [] [] [1] 7), some (.thin [] [] [1] 7), some (.full [5] 7 [⟨[], [], []⟩]), some (.thin [] [] [9] 7),
    some (.thin [] [] [1] 8), some (.thin [] [] [2] 7), some (.thin [] [] [1] 7)]

def mixed : List (Act Nat) :=
  [.start 0 [Filter.dataIdIsNot [9]] mixedRows 1, .pull 0] ++ List.replicate 5 (.advance 0) ++ [.take 0, .pull 0]
    ++ List.replicate 8 (.advance 0) ++ [.flushNext 0 7, .advance 0, .complete 0 (.results []), .complete 1 (.results []),
      .reply 0, .reply 1, .reply 0] ++ List.replicate 4 (.wake 0) ++ List.replicate 8 (.finish 0) ++ [.advance 0]

theorem rows_looked_up_of_mixed :
    (∃ pulls : List (InlineScan.Pull Nat),
      (InlineScan.issued [Filter.dataIdIsNot [9]] ⟨mixedRows, none⟩ pulls).map KeyFetch.target
        = [(7, [1]), (7, [1]), (7, [2]), (7, [1])]
      ∧ InlineScan.LooksUp [Filter.dataIdIsNot [9]] mixedRows pulls)
    ∧ ∃ (world : World Nat) (scan : Scan Nat) (source : Source),
      (fresh [Adapters.ofList [counting]] 2 none).run mixed = some world ∧ world.scans[0]? = some scan
      ∧ scan.finished = true ∧ Asks (fresh [Adapters.ofList [counting]] 2 none) mixed 0 scan source
      ∧ ((fresh [Adapters.ofList [counting]] 2 none).requests 0 mixed).map Clients.Asked.target
        = [(7, [1]), (7, [1]), (7, [2]), (7, [1])]
      ∧ (world.lookup.batches.filter (fun batch => batch.adapter = 7)).length = (3 + 2 - 1) / 2
      ∧ ∀ batch ∈ world.lookup.batches, batch.isFetching = false := by
  obtain ⟨inline, deferred⟩ := rows_looked_up (T := Nat)
  obtain ⟨_, scans⟩ := deferred [Adapters.ofList [counting]] 2 none mixed _ rfl
  obtain ⟨⟨source, asks⟩, ended⟩ := scans 0 _ rfl
  have batched := ended (by decide) (by simp [Sole, mixed]) rfl
  refine ⟨⟨List.replicate 2 ⟨false, Adapters.ofList [counting], fun _ _ _ => .ok none, ⟨some {}, [], []⟩⟩, rfl, ?_⟩, ?_⟩
  · exact inline _ _ _
  · exact ⟨_, _, source, rfl, rfl, rfl, asks, rfl, batched.batches 7, batched.fetched⟩

end World

end ThinScan
