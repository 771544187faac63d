import ThinScan.Lookup
import ThinScan.Proofs.LoneScan

set_option autoImplicit false

namespace ThinScan

variable {T : Type}

namespace Lookup

variable {config : Config}

theorem prepare_single (valid : config.validate = .ok ()) (single : config.batchSize = 1) (params : Option Params) :
    prepare config params = .ok (.point { params := params }) := by
  have unbatched : config.batching = false := by simp [Config.batching, single]
  have chosen : ofConfig config = .ok (.point {}) := by
    rw [ofConfig, valid, unbatched]
    rfl
  rw [prepare, chosen]
  cases params <;> rfl

theorem prepare_several (valid : config.validate = .ok ()) (several : 1 < config.batchSize) (params : Option Params) :
    prepare config params = .ok (.batch { batchSize := config.batchSize, params := params }) := by
  have sized : config.batchSize ≠ 0 := by omega
  have batching : config.batching = true := by simp [Config.batching, several]
  have chosen : ofConfig config = .ok (.batch { batchSize := config.batchSize }) := by
    rw [ofConfig, valid, batching]
    simp [batched, BatchLookup.create, sized, Except.map, Bind.bind, Except.bind]
  rw [prepare, chosen]
  cases params <;> rfl

end Lookup

namespace Scan

variable {filters : List Filter} {scan fresh : Scan T}

structure Goes (filters : List Filter) (scan : Scan T) : Prop where
  store : scan.store = 0
  filters : scan.filters = filters
  free : scan.dropped = false
  opened : scan.phase.closes = false

theorem goes_begin (goes : scan.Goes filters) : scan.begin.Goes filters := by
  rcases begin_cases scan with ⟨_, same⟩ | ⟨_, _, value, rest, _, next⟩ | ⟨_, _, _, turned⟩
  · rw [same]
    exact ⟨goes.store, goes.filters, goes.free, goes.opened⟩
  · rw [next]
    exact ⟨goes.store, goes.filters, goes.free, goes.opened⟩
  · rw [turned]
    exact ⟨goes.store, goes.filters, goes.free, rfl⟩

theorem goes_turn {label : Nat → Act T} {lookup after : BatchLookup} (goes : scan.Goes filters)
    (turn : scan.Turn label lookup after fresh) (stays : label ≠ .drop) : fresh.Goes filters := by
  have closing {left : Flush} (closes : scan.phase = .closing left) : False := by
    have opened := goes.opened
    rw [closes] at opened
    cases opened
  cases turn with
  | enter free idle uncounted => exact goes_begin goes
  | resume free idle counted => exact goes_begin goes
  | reach scanning rowless said => exact ⟨goes.store, goes.filters, goes.free, rfl⟩
  | exhaust scanning rowless unsaid =>
      refine ⟨goes.store, goes.filters, goes.free, ?_⟩
      cases lookup.retire.1 <;> rfl
  | list flush unlisted =>
      rcases flush with rfl | rfl
      · exact ⟨goes.store, goes.filters, goes.free, rfl⟩
      · exact (closing unlisted).elim
  | flush flush listed member =>
      rcases flush with rfl | rfl
      · exact ⟨goes.store, goes.filters, goes.free, rfl⟩
      · exact (closing listed).elim
  | await through => exact ⟨goes.store, goes.filters, goes.free, rfl⟩
  | close through => exact (closing through).elim
  | receive receiving queued => exact ⟨goes.store, goes.filters, goes.free, rfl⟩
  | take free idle ready => exact ⟨goes.store, goes.filters, goes.free, goes.opened⟩
  | leave free idle settled => exact absurd rfl stays
  | abandon free idle counted unsaid others => exact absurd rfl stays
  | abandonLast free idle counted unsaid last => exact absurd rfl stays

theorem uses_turn {label : Nat → Act T} {lookup after : BatchLookup} {params : Params} (uses : lookup.Uses params)
    (turn : scan.Turn label lookup after fresh) : after.Uses params := by
  cases turn with
  | enter free idle uncounted => exact ⟨uses.bound, uses.sent⟩
  | exhaust scanning rowless unsaid => exact BatchLookup.uses_retire uses
  | @flush _ _ _ adapter left flush listed member => exact BatchLookup.uses_flushAdapter uses adapter
  | abandon free idle counted unsaid others => exact BatchLookup.uses_retire uses
  | abandonLast free idle counted unsaid last => exact BatchLookup.uses_retire uses
  | _ => exact uses

end Scan

namespace World

variable {index : MemoryIndex} {decoder : Decoder T} {params : Params} {rows : List Row} {past : List (Pulled T)}
  {world later : World T} {scan : Scan T} {action : Act T}

theorem uses_move (uses : world.lookup.Uses params) (move : Move action world later) : later.lookup.Uses params := by
  cases move with
  | turn held turn => exact Scan.uses_turn uses turn
  | defer held scanning next verdict => exact BatchLookup.uses_request uses _ _
  | flush adapter => exact BatchLookup.uses_flushAdapter uses adapter
  | complete taken => exact BatchLookup.uses_complete uses taken
  | reply taken => exact BatchLookup.uses_reply uses taken
  | caught held deferring settled decoded => exact BatchLookup.uses_look uses settled
  | missed events held deferring settled phases worthless => exact BatchLookup.uses_look uses settled
  | wake events held waiting settled => exact BatchLookup.uses_look uses settled
  | _ => exact uses

theorem goes_move (only : world.scans = [scan]) (goes : scan.Goes decoder.filters) (served : Served index world action)
    (move : Move action world later) :
    later.stores = world.stores ∧ ∃ fresh : Scan T, later.scans = [fresh] ∧ fresh.Goes decoder.filters := by
  have replaced {place : Nat} {other new : Scan T} (held : world.scans[place]? = some other)
      (kept : other.Goes decoder.filters → new.Goes decoder.filters) :
      ∃ fresh : Scan T, world.scans.set place new = [fresh] ∧ fresh.Goes decoder.filters := by
    obtain ⟨rfl, rfl⟩ := only_at only held
    exact ⟨new, by rw [only]; rfl, kept goes⟩
  have aside : ∃ fresh : Scan T, world.scans = [fresh] ∧ fresh.Goes decoder.filters := ⟨scan, only, goes⟩
  cases move with
  | register store adapter => cases served
  | unregister store adapter => cases served
  | start store filters source capacity => cases served
  | flush adapter => cases served
  | @turn _ label place other new lookup held turn =>
      have stays : label ≠ .drop := by
        intro dropped
        rw [dropped] at served
        cases served
      exact ⟨rfl, replaced held (fun goes => Scan.goes_turn goes turn stays)⟩
  | skip events held scanning next phases undeferred worthless =>
      refine ⟨rfl, replaced held (fun goes => ⟨goes.store, goes.filters, goes.free, ?_⟩)⟩
      rcases phases with rfl | rfl <;> rfl
  | own held scanning next verdict decoded =>
      exact ⟨rfl, replaced held (fun goes => ⟨goes.store, goes.filters, goes.free, rfl⟩)⟩
  | defer held scanning next verdict =>
      exact ⟨rfl, replaced held (fun goes => ⟨goes.store, goes.filters, goes.free, rfl⟩)⟩
  | caught held deferring settled decoded =>
      exact ⟨rfl, replaced held (fun goes => ⟨goes.store, goes.filters, goes.free, rfl⟩)⟩
  | missed events held deferring settled phases worthless =>
      refine ⟨rfl, replaced held (fun goes => ⟨goes.store, goes.filters, goes.free, ?_⟩)⟩
      rcases phases with rfl | rfl <;> rfl
  | spawn held deferring =>
      exact ⟨rfl, replaced held (fun goes => ⟨goes.store, goes.filters, goes.free, rfl⟩)⟩
  | finished events held receiving empty closed =>
      exact ⟨rfl, replaced held (fun goes => ⟨goes.store, goes.filters, goes.free, rfl⟩)⟩
  | complete taken => exact ⟨rfl, aside⟩
  | reply taken => exact ⟨rfl, aside⟩
  | wake events held waiting settled => exact ⟨rfl, aside⟩
  | send held owner sending free room =>
      exact ⟨rfl, replaced owner (fun goes => ⟨goes.store, goes.filters, goes.free, goes.opened⟩)⟩
  | discard events held owner sending dropped => exact ⟨rfl, aside⟩
  | finish held owner ending =>
      exact ⟨rfl, replaced owner (fun goes => ⟨goes.store, goes.filters, goes.free, goes.opened⟩)⟩
  | leave held leaving => exact ⟨rfl, aside⟩

-- A row was decided on as its worth asks for: it is worth just this once its request finds what the index has for its key,
-- and the request is to find this.
structure Faithful (index : MemoryIndex) (decoder : Decoder T) (params : Params) (lookup : BatchLookup)
    (pulled : Pulled T) : Prop where
  place : pulled.scan = 0
  worth : ∀ answer? : RequestId → Option Values,
    (∀ adapter request, pulled.verdict = .deferred adapter request →
      answer? request = index.fetch pulled.row.adapter params pulled.row.dataId) →
    pulled.value? answer? = index.worth params decoder pulled.row
  due : ∀ adapter request, pulled.verdict = .deferred adapter request →
    BatchLookup.Due (fun adapter key => index.fetch adapter params key) lookup pulled.row.adapter pulled.row.dataId request

theorem worth_of_verdict (decodes : world.decoder scan = decoder) (place : Nat) (row : Row)
    (answer? : RequestId → Option Values)
    (answers : ∀ adapter request, world.verdict scan row = .deferred adapter request →
      answer? request = index.fetch row.adapter params row.dataId) :
    (world.pulling place scan row).value? answer? = index.worth params decoder row := by
  rw [World.verdict, decodes] at answers
  rw [Pulled.value?, pulling, World.verdict, decodes, MemoryIndex.worth]
  rw [Decoder.admission] at answers ⊢
  by_cases accepted : Filter.acceptAll decoder.filters row = true
  · rw [if_pos accepted] at answers ⊢
    rw [if_pos accepted]
    cases found : decoder.adapters.find? row.adapter with
    | none => rfl
    | some adapter =>
        rw [found] at answers
        by_cases thin : row.needsLookup = true
        · simp only [if_pos thin] at answers ⊢
          rw [answers adapter _ rfl, MemoryIndex.fetch]
          cases index.get? row.adapter row.dataId <;> rfl
        · simp only [if_neg thin, Option.bind_some]
  · rw [if_neg accepted, if_neg accepted]

theorem value_of_faithful {pulled : Pulled T} (custody : world.lookup.Custody)
    (faithful : Faithful index decoder params world.lookup pulled) (answered : pulled.Answered world.lookup) :
    pulled.value? world.lookup.answer? = index.worth params decoder pulled.row := by
  refine faithful.worth _ (fun adapter request verdict => ?_)
  obtain ⟨reply, known⟩ := answered adapter request verdict
  exact BatchLookup.answer_of_due custody (faithful.due adapter request verdict) known

structure Lone (index : MemoryIndex) (decoder : Decoder T) (params : Params) (rows : List Row) (past : List (Pulled T))
    (world : World T) (scan : Scan T) : Prop where
  sound : world.Sound
  stores : world.stores = [decoder.adapters]
  only : world.scans = [scan]
  goes : scan.Goes decoder.filters
  uses : world.lookup.Uses params
  accounts : ∃ settled lost, Accounts world past 0 settled lost
  traced : Traced world past [rows.map some]
  faithful : ∀ pulled ∈ past, Faithful index decoder params world.lookup pulled

theorem held_of_only (only : world.scans = [scan]) : world.scans[0]? = some scan := by
  rw [only]
  rfl

theorem decoder_of_lone (lone : Lone index decoder params rows past world scan) : world.decoder scan = decoder := by
  have store : world.store scan.store = decoder.adapters := by
    rw [World.store, lone.stores, lone.goes.store]
    rfl
  rw [World.decoder, store, lone.goes.filters]

theorem honest_of_served (uses : world.lookup.Uses params) (served : Served index world action)
    {cause : BatchLookup.Cause}
    (answered : ∀ place fetched, cause = .answered place fetched → action = .complete place fetched) :
    BatchLookup.Honest (fun adapter key => index.fetch adapter params key) world.lookup cause := by
  intro place fetched same batch held
  rw [answered place fetched same] at served
  cases served with
  | fetch _ fetching found =>
      cases held.symm.trans found
      rw [uses.sent batch (List.mem_of_getElem? held)]
      rfl

theorem faithful_pulls (lone : Lone index decoder params rows past world scan) (move : Move action world later) :
    ∀ pulled ∈ world.pulls action, Faithful index decoder params later.lookup pulled := by
  have pulled_row {place : Nat} {other : Scan T} {row : Row} {rest : Source} (held : world.scans[place]? = some other)
      (scanning : other.phase = .scanning) (next : other.source = some row :: rest)
      (due : ∀ adapter request, world.verdict other row = .deferred adapter request →
        BatchLookup.Due (fun adapter key => index.fetch adapter params key) later.lookup row.adapter row.dataId request) :
      ∀ pulled ∈ world.pulls (.advance place), Faithful index decoder params later.lookup pulled := by
    intro pulled member
    obtain ⟨rfl, rfl⟩ := only_at lone.only held
    rw [pulls_row held scanning next] at member
    rw [List.mem_singleton.mp member]
    exact ⟨rfl, fun answer? answers => worth_of_verdict (decoder_of_lone lone) 0 row answer? answers, due⟩
  have nothing (none_pulled : world.pulls action = []) :
      ∀ pulled ∈ world.pulls action, Faithful index decoder params later.lookup pulled := by
    rw [none_pulled]
    simp
  cases move with
  | turn held turn => exact nothing (pulls_turn held turn)
  | skip events held scanning next phases undeferred worthless =>
      exact pulled_row held scanning next (fun adapter request verdict => absurd verdict (undeferred adapter request))
  | own held scanning next verdict decoded =>
      refine pulled_row held scanning next (fun adapter request deferred => ?_)
      cases verdict.symm.trans deferred
  | defer held scanning next verdict =>
      refine pulled_row held scanning next (fun adapter request deferred => ?_)
      cases verdict.symm.trans deferred
      exact BatchLookup.due_request _ _ _ _
  | caught held deferring settled decoded => exact nothing (pulls_busy held (by rw [deferring]; simp))
  | missed events held deferring settled phases worthless => exact nothing (pulls_busy held (by rw [deferring]; simp))
  | spawn held deferring => exact nothing (pulls_busy held (by rw [deferring]; simp))
  | finished events held receiving empty closed => exact nothing (pulls_busy held (by rw [receiving]; simp))
  | _ => exact nothing rfl

theorem unstarted_of_served (served : Served index world action) : source? action = none := by
  cases served <;> rfl

theorem lone_move (lone : Lone index decoder params rows past world scan) (served : Served index world action)
    (move : Move action world later) :
    ∃ fresh : Scan T, Lone index decoder params rows (past ++ world.pulls action) later fresh := by
  obtain ⟨stores, fresh, only, goes⟩ := goes_move lone.only lone.goes served move
  obtain ⟨settled, lost, accounts⟩ := lone.accounts
  obtain ⟨cause, step, answered, _⟩ := step_of_move move
  have honest := honest_of_served lone.uses served answered
  have traced := traced_move lone.traced move
  rw [unstarted_of_served served] at traced
  refine ⟨fresh, sound_move lone.sound move, stores.trans lone.stores, only, goes, uses_move lone.uses move,
    accounts_move lone.sound accounts move, traced, fun pulled member => ?_⟩
  rcases List.mem_append.mp member with earlier | now
  · have faithful := lone.faithful pulled earlier
    exact ⟨faithful.place, faithful.worth, fun adapter request verdict =>
      BatchLookup.due_step (faithful.due adapter request verdict) step honest⟩
  · exact faithful_pulls lone move pulled now

theorem beats_cons (world : World T) (next : Beat) (rest : List Beat) :
    world.beats index (next :: rest) = (world.beat index next).bind (fun later => later.beats index rest) := rfl

theorem lone_beats (lone : Lone index decoder params rows past world scan) {schedule : List Beat} {last : World T}
    (ran : world.beats index schedule = some last) :
    ∃ (all : List (Pulled T)) (fresh : Scan T), Lone index decoder params rows all last fresh
      ∧ schedule.length + last.weight fresh ≤ world.weight scan := by
  induction schedule generalizing world past scan with
  | nil =>
      cases ran
      exact ⟨past, scan, lone, Nat.le_of_eq (Nat.zero_add _)⟩
  | cons next rest step =>
      obtain ⟨between, taken, ran⟩ := Option.bind_eq_some_iff.mp ((beats_cons world next rest).symm.trans ran)
      obtain ⟨action, served, acted⟩ := served_of_beat taken
      have move := move_of_act acted
      obtain ⟨fresh, still⟩ := lone_move lone served move
      have lighter := weight_move lone.sound lone.only lone.goes.opened served move still.only
      obtain ⟨all, ended, at_last, bounded⟩ := step still ran
      refine ⟨all, ended, at_last, ?_⟩
      rw [List.length_cons]
      omega

theorem emitted_of_lone (lone : Lone index decoder params rows past world scan) (finished : scan.finished = true) :
    scan.emitted.Perm (rows.filterMap (index.worth params decoder)) := by
  have held := held_of_only lone.only
  obtain ⟨settled, lost, accounts⟩ := lone.accounts
  obtain ⟨answered, emitted⟩ := emitted_of_finished lone.sound accounts held finished
  have all : pulledBy 0 past = past :=
    List.filter_eq_self.mpr (fun pulled member => decide_eq_true (lone.faithful pulled member).place)
  have pulled_rows := lone.traced.rows 0 scan _ held rfl
  obtain ⟨_, _, _, _, spent⟩ := (held_sound lone.sound held).stopped finished
  rw [all, spent, Source.rows_of_list] at pulled_rows
  rw [all] at answered emitted
  have worth : past.filterMap (Pulled.value? world.lookup.answer?)
      = past.filterMap (fun pulled => index.worth params decoder pulled.row) :=
    List.filterMap_congr (fun pulled member =>
      value_of_faithful lone.sound.custody (lone.faithful pulled member) (answered pulled member))
  rw [worth] at emitted
  have mapped : (past.map Pulled.row).filterMap (index.worth params decoder)
      = past.filterMap (fun pulled => index.worth params decoder pulled.row) := List.filterMap_map
  have rows_pulled : past.map Pulled.row = rows := (List.append_nil _).symm.trans pulled_rows
  rw [← mapped, rows_pulled] at emitted
  exact emitted

theorem beat_of_stirs (only : world.scans = [scan]) (stirs : world.Stirs) :
    ∃ next after, world.beat index next = some after := by
  cases stirs with
  | fetch place answerable =>
      obtain ⟨after, crashed⟩ := Option.isSome_iff_exists.mp (answerable .crashed)
      obtain ⟨lookup, taken, _⟩ := Option.map_eq_some_iff.mp crashed
      obtain ⟨batch, held, _⟩ := Option.bind_eq_some_iff.mp taken
      obtain ⟨answered, fetched⟩ := Option.isSome_iff_exists.mp
        (answerable (.results (index.fetchBatch batch.adapter batch.params batch.keys)))
      refine ⟨.fetch place, answered, ?_⟩
      rw [beat, fetch, held]
      exact fetched
  | reply place ready =>
      obtain ⟨after, taken⟩ := Option.isSome_iff_exists.mp ready
      exact ⟨.reply place, after, taken⟩
  | wake place ready =>
      obtain ⟨after, taken⟩ := Option.isSome_iff_exists.mp ready
      exact ⟨.wake place, after, taken⟩
  | send place ready =>
      obtain ⟨after, taken⟩ := Option.isSome_iff_exists.mp ready
      exact ⟨.send place, after, taken⟩
  | finish place ready =>
      obtain ⟨after, taken⟩ := Option.isSome_iff_exists.mp ready
      exact ⟨.finish place, after, taken⟩
  | advance place other held flushes ready =>
      obtain ⟨rfl, _⟩ := only_at only held
      obtain ⟨after, taken⟩ := Option.isSome_iff_exists.mp ready
      exact ⟨.advance, after, taken⟩
  | flushNext place other adapter held flushes ready =>
      obtain ⟨rfl, _⟩ := only_at only held
      obtain ⟨after, taken⟩ := Option.isSome_iff_exists.mp ready
      exact ⟨.flushNext adapter, after, taken⟩

theorem beat_of_unfinished (lone : Lone index decoder params rows past world scan) (unfinished : scan.finished = false) :
    ∃ next after, world.beat index next = some after := by
  have held := held_of_only lone.only
  have free := lone.goes.free
  have able (next : Beat) (ready : (world.beat index next).isSome = true) :
      ∃ next after, world.beat index next = some after := ⟨next, Option.isSome_iff_exists.mp ready⟩
  cases phase : scan.phase with
  | idle =>
      cases ready : scan.lookahead with
      | none =>
          have wants : world.wantsPull = true := by simp [wantsPull, held, ready, unfinished]
          exact able .pull (by simp [beat, wants, act, pull, held, Scan.isFree, free, phase, Phase.isIdle])
      | some value => exact able .take (by simp [beat, act, take, held, Scan.isFree, free, phase, Phase.isIdle, ready])
  | scanning =>
      refine able .advance ?_
      simp only [beat, act, advance, held, phase, Option.bind_eq_bind, Option.bind_some]
      split <;> rfl
  | deferring row adapter request => exact able .advance (by simp [beat, act, advance, held, phase])
  | flushing left =>
      cases left with
      | none => exact able .advance (by simp [beat, act, advance, held, phase])
      | some left =>
          cases left with
          | nil => exact able .advance (by simp [beat, act, advance, held, phase])
          | cons adapter rest => exact able (.flushNext adapter) (by simp [beat, act, flushNext, held, phase])
  | closing left =>
      have opened := lone.goes.opened
      rw [phase] at opened
      cases opened
  | receiving =>
      rcases stirs_of_receiving lone.sound held phase with queued | closed | stirs | ⟨other, another, elsewhere, found, _⟩
      · obtain ⟨value, rest, queued⟩ := List.exists_cons_of_ne_nil queued
        exact able .advance (by simp [beat, act, advance, held, phase, receive, queued])
      · cases queued : scan.queue with
        | nil => exact able .advance (by simp [beat, act, advance, held, phase, receive, queued, closed])
        | cons value rest => exact able .advance (by simp [beat, act, advance, held, phase, receive, queued])
      · exact beat_of_stirs lone.only stirs
      · exact absurd (only_at lone.only found).1 elsewhere

def opening (decoder : Decoder T) (rows : List Row) (capacity : Nat) (lookup : BatchLookup) : World T :=
  { stores := [decoder.adapters], lookup := lookup, scans := [Scan.start 0 decoder.filters (rows.map some) capacity] }

theorem lone_opening (index : MemoryIndex) (decoder : Decoder T) (rows : List Row) (capacity size : Nat)
    (params : Option Params) :
    Lone index decoder (params.getD {}) rows [] (opening decoder rows capacity { batchSize := size, params := params })
      (Scan.start 0 decoder.filters (rows.map some) capacity) := by
  have sound := sound_move (sound_fresh [decoder.adapters] size params)
    (.start 0 decoder.filters (rows.map some) capacity)
  have traced : Traced (fresh [decoder.adapters] size params) [] [] := ⟨rfl, List.forall_mem_nil _, by simp⟩
  exact ⟨sound, rfl, rfl, ⟨rfl, rfl, rfl, rfl⟩, ⟨rfl, List.forall_mem_nil _⟩,
    ⟨[], [], .refl _, List.forall_mem_nil _, .refl _, absurd rfl⟩,
    traced_start traced (Scan.start 0 decoder.filters (rows.map some) capacity) rfl, List.forall_mem_nil _⟩

theorem weight_opening (decoder : Decoder T) (rows : List Row) (capacity size : Nat) (params : Option Params) :
    (opening decoder rows capacity { batchSize := size, params := params }).weight
      (Scan.start 0 decoder.filters (rows.map some) capacity) = 14 * rows.length + 5 := by
  have whole : (opening decoder rows capacity { batchSize := size, params := params }).weight
      (Scan.start 0 decoder.filters (rows.map some) capacity) = 0 + (0 + (14 * (rows.map some).length + 0 + 5 + 0)) := rfl
  rw [whole, List.length_map]
  omega

-- Whatever the sizes: the scan that looks up one key at a time gives what the rows are worth, row by row; the scan in
-- batches comes to its end whichever beat is taken next, and has then given the same values.
theorem batched_agrees (index : MemoryIndex) (decoder : Decoder T) (rows : List Row) (params : Option Params)
    {one many : Config} (one_valid : one.validate = .ok ()) (many_valid : many.validate = .ok ())
    (single : one.batchSize = 1) (several : 1 < many.batchSize) (calm : decoder.Calm) :
    ∃ (point : PointLookup) (batch : BatchLookup),
      Lookup.prepare one params = .ok (.point point) ∧ Lookup.prepare many params = .ok (.batch batch)
      ∧ InlineScan.Emits decoder index.fetchKey ⟨rows.map some, none⟩ { lookup := some point }
        (rows.filterMap (index.worth (params.getD {}) decoder))
      ∧ ∀ (schedule : List Beat) (world : World T),
        (opening decoder rows many.queueCapacity batch).beats index schedule = some world →
          schedule.length ≤ 14 * rows.length + 5
          ∧ ∃ scan : Scan T, world.scans = [scan]
            ∧ (scan.finished = true → scan.emitted.Perm (rows.filterMap (index.worth (params.getD {}) decoder)))
            ∧ (scan.finished = false → ∃ next later, world.beat index next = some later) := by
  refine ⟨{ params := params }, { batchSize := many.batchSize, params := params },
    Lookup.prepare_single one_valid single params, Lookup.prepare_several many_valid several params,
    InlineScan.emits_worth index calm _ rows ⟨_, rfl, rfl⟩ rfl, ?_⟩
  intro schedule world ran
  have start := lone_opening index decoder rows many.queueCapacity many.batchSize params
  obtain ⟨past, scan, lone, bounded⟩ := lone_beats start ran
  rw [weight_opening] at bounded
  exact ⟨Nat.le_trans (Nat.le_add_right _ _) bounded, scan, lone.only, emitted_of_lone lone, beat_of_unfinished lone⟩

theorem calm_counting : (Decoder.mk (Adapters.ofList [counting]) []).Calm := by
  intro id adapter found row values
  change (Table.empty.insert (7 : AdapterId) counting).find? id = some adapter at found
  rw [Table.find_insert] at found
  split at found
  · cases found
    simp [counting]
  · cases found

theorem batched_agrees_on_one :
    ∃ (point : PointLookup) (batch : BatchLookup),
      Lookup.prepare { batchSize := 1 } (some { projection := some ⟨7, [], []⟩ }) = .ok (.point point)
      ∧ Lookup.prepare { batchSize := 2 } (some { projection := some ⟨7, [], []⟩ }) = .ok (.batch batch)
      ∧ InlineScan.Emits ⟨Adapters.ofList [counting], []⟩ (MemoryIndex.empty.insert 7 [1] [⟨[1], [], []⟩]).fetchKey
        ⟨[some (.thin [] [] [1] 7), some (.thin [] [] [2] 7)], none⟩ { lookup := some point } [0]
      ∧ ∀ (schedule : List Beat) (world : World Nat),
        (opening ⟨Adapters.ofList [counting], []⟩ [.thin [] [] [1] 7, .thin [] [] [2] 7] 1048576 batch).beats
          (MemoryIndex.empty.insert 7 [1] [⟨[1], [], []⟩]) schedule = some world →
        schedule.length ≤ 33 ∧ ∃ scan : Scan Nat, world.scans = [scan]
          ∧ (scan.finished = true → scan.emitted.Perm [0])
          ∧ (scan.finished = false → ∃ next later,
            world.beat (MemoryIndex.empty.insert 7 [1] [⟨[1], [], []⟩]) next = some later) :=
  batched_agrees (MemoryIndex.empty.insert 7 [1] [⟨[1], [], []⟩]) ⟨Adapters.ofList [counting], []⟩
    [.thin [] [] [1] 7, .thin [] [] [2] 7] (some { projection := some ⟨7, [], []⟩ }) rfl rfl rfl (by decide) calm_counting

end World

end ThinScan
