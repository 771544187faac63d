import ThinScan.Proofs.Agreement
import ThinScan.Proofs.Pulling
import ThinScan.Proofs.RowLookups

set_option autoImplicit false

namespace ThinScan

open scoped List

variable {T : Type}

namespace Decoder

variable {decoder : Decoder T} {row : Row}

-- What a row is worth by its own values.
def ownWorth (decoder : Decoder T) (row : Row) : Option T :=
  match decoder.admission row with
  | .granted adapter => adapter.decoded? row row.values
  | _ => none

theorem decodeInline_unwanted (calm : decoder.Calm) (unwanted : decoder.wants row = false) (fetch : FetchKey)
    (lookup : Option PointLookup) :
    ∃ outcome, decoder.decodeInline fetch row lookup = (outcome, lookup) ∧ outcome.value? = decoder.ownWorth row
      ∧ outcome ≠ .crashed := by
  unfold decodeInline ownWorth
  cases admitted : decoder.admission row with
  | refused => exact ⟨_, rfl, rfl, by simp⟩
  | unknown => exact ⟨_, rfl, rfl, by simp⟩
  | granted adapter =>
      rw [Decoder.wants_of_granted admitted] at unwanted
      have steady : ∀ row values, adapter.decode row values ≠ .crashed :=
        calm row.adapter adapter (registered_of_admission admitted)
      refine ⟨.ofValues adapter row row.values, ?_, Outcome.value_ofValues adapter row row.values,
        Outcome.calm_ofValues steady row row.values⟩
      cases lookup with
      | none => rfl
      | some service => simp only [unwanted, Bool.false_eq_true, if_false]

end Decoder

namespace InlineScan

variable {decoder : Decoder T}

theorem emits_own (calm : decoder.Calm) {source : Source} (unwanted : ∀ row ∈ source.rows, decoder.wants row = false)
    (fetch : FetchKey) (trace : InlineTrace) :
    Emits decoder fetch ⟨source, none⟩ trace (source.rows.filterMap decoder.ownWorth) := by
  refine @emits_values T decoder fetch decoder.ownWorth (fun _ => True) _ source (fun row member trace _ => ?_) trace
    True.intro rfl
  obtain ⟨outcome, decoded, worth, steady⟩ := Decoder.decodeInline_unwanted calm (unwanted row member) fetch trace.lookup
  exact ⟨outcome, trace.record row outcome trace.lookup, by rw [decode, decoded], True.intro, worth, steady⟩

end InlineScan

namespace Pulled

variable {pulled : Pulled T} {decoder : Decoder T}

def MetBy (decoder : Decoder T) (pulled : Pulled T) : Prop :=
  match decoder.admission pulled.row with
  | .refused => pulled.verdict = .refused
  | .unknown => pulled.verdict = .unknown
  | .granted adapter =>
      if pulled.row.needsLookup then ∃ request, pulled.verdict = .deferred adapter request
      else pulled.verdict = .own adapter

theorem value_of_met (met : pulled.MetBy decoder) (unwanted : decoder.wants pulled.row = false)
    (answer? : RequestId → Option Values) : pulled.value? answer? = decoder.ownWorth pulled.row := by
  unfold MetBy at met
  unfold value? Decoder.ownWorth
  cases admitted : decoder.admission pulled.row with
  | refused => rw [admitted] at met; rw [met]
  | unknown => rw [admitted] at met; rw [met]
  | granted adapter =>
      rw [Decoder.wants_of_granted admitted] at unwanted
      rw [admitted, unwanted] at met
      have own : pulled.verdict = .own adapter := by simpa using met
      rw [own]

end Pulled

namespace World

variable {world later start : World T} {action : Act T} {acts : List (Act T)} {index size : Nat} {scan : Scan T}
  {stores : List (Adapters T)} {params : Option Params}

theorem met_pulling (world : World T) (index : Nat) (scan : Scan T) (row : Row) :
    (world.pulling index scan row).MetBy (world.decoder scan) := by
  unfold Pulled.MetBy pulling verdict
  cases (world.decoder scan).admission row with
  | refused => rfl
  | unknown => rfl
  | granted adapter =>
      by_cases thin : row.needsLookup = true
      · simp only [if_pos thin]
        exact ⟨_, rfl⟩
      · simp only [if_neg thin]

theorem met_sightings (ran : start.run acts = some world) :
    ∀ pulled ∈ pulledBy index (start.history acts),
      ∃ sighting ∈ start.sightings index acts, pulled.MetBy sighting.decoder := by
  refine run_grows (motive := fun acts _ => ∀ pulled ∈ pulledBy index (start.history acts),
    ∃ sighting ∈ start.sightings index acts, pulled.MetBy sighting.decoder) (List.forall_mem_nil _) ?_ ran
  intro acts action world later ran before taken pulled member
  rw [sightings, observed_concat _ ran taken]
  rw [history_concat ran taken, pulledBy_append] at member
  rcases List.mem_append.mp member with earlier | fresh
  · obtain ⟨sighting, seen, met⟩ := before pulled earlier
    exact ⟨sighting, List.mem_append_left _ seen, met⟩
  · refine ⟨⟨world.decoderOf index, pulled.row⟩, List.mem_append_right _ ?_, ?_⟩
    · exact List.mem_map_of_mem (List.mem_map_of_mem fresh)
    · rcases pulls_cases world action with nothing | ⟨place, scan, row, held, _, one⟩
      · rw [nothing] at fresh
        cases fresh
      · rw [one, pulledBy_one] at fresh
        split at fresh
        · rename_i here
          have mine : place = index := here
          have decoder : world.decoderOf index = world.decoder scan := by rw [decoderOf, ← mine, held]; rfl
          rw [List.mem_singleton.mp fresh, decoder]
          exact met_pulling world place scan row
        · cases fresh

theorem emitted_own (ran : (fresh stores size params).run acts = some world) (held : world.scans[index]? = some scan)
    {source : Source} (started : (sources acts)[index]? = some source) {decoder : Decoder T}
    (met : ∀ sighting ∈ (fresh stores size params).sightings index acts, sighting.decoder = decoder)
    (unwanted : ∀ row ∈ source.rows, decoder.wants row = false) :
    ∃ rest, scan.emitted ++ rest = source.rows.filterMap decoder.ownWorth ∧ (scan.finished = true → rest = []) := by
  obtain ⟨origins, from_rows⟩ := origins_run ran held
  have rows := (accounts_run ran).2.rows index scan source held started
  have sound := sound_run (sound_fresh stores size params) ran
  -- Whatever the requests are answered, a row is worth what it gives by itself.
  have worth (answer? : RequestId → Option Values) : ∀ pulled ∈ pulledBy index ((fresh stores size params).history acts),
      pulled.value? answer? = decoder.ownWorth pulled.row := by
    intro pulled member
    obtain ⟨sighting, seen, by_sighting⟩ := met_sightings ran pulled member
    rw [met sighting seen] at by_sighting
    refine Pulled.value_of_met by_sighting (unwanted pulled.row ?_) answer?
    rw [← rows]
    exact List.mem_append_left _ (List.mem_map_of_mem member)
  have gives : ∀ pulled ∈ pulledBy index ((fresh stores size params).history acts),
      pulled.gives = (decoder.ownWorth pulled.row).isSome := fun pulled member => congrArg _ (worth _ pulled member)
  have all_give : origins.filter Pulled.gives = origins := by
    refine List.filter_eq_self.mpr (fun pulled member => ?_)
    have among := from_rows.pulled.subset member
    have valued : pulled.value? world.lookup.answer? ∈ scan.emitted.map some := from_rows.values ▸ List.mem_map_of_mem member
    obtain ⟨value, _, same⟩ := List.mem_map.mp valued
    rw [gives pulled among, ← worth world.lookup.answer? pulled among, ← same]
    rfl
  have handed : origins.filterMap (fun pulled => decoder.ownWorth pulled.row) = scan.emitted := by
    have valued : origins.map (fun pulled => decoder.ownWorth pulled.row) = scan.emitted.map some :=
      (List.map_congr_left (fun pulled member => (worth _ pulled (from_rows.pulled.subset member)).symm)).trans
        from_rows.values
    have emitted := congrArg (List.filterMap id) valued
    rwa [List.filterMap_map, List.filterMap_map, Function.id_comp, Function.id_comp, List.filterMap_some] at emitted
  have given : ((pulledBy index ((fresh stores size params).history acts)).filter Pulled.gives).filterMap
      (fun pulled => decoder.ownWorth pulled.row)
        = ((pulledBy index ((fresh stores size params).history acts)).map Pulled.row).filterMap decoder.ownWorth := by
    rw [List.filterMap_filter, List.filterMap_map]
    refine List.filterMap_congr (fun pulled member => ?_)
    rw [gives pulled member, Function.comp_apply]
    cases decoder.ownWorth pulled.row <;> rfl
  obtain ⟨tail, order⟩ := from_rows.order
  rw [all_give] at order
  refine ⟨tail.filterMap (fun pulled => decoder.ownWorth pulled.row) ++ scan.source.rows.filterMap decoder.ownWorth, ?_, ?_⟩
  · rw [← rows, List.filterMap_append, ← given, ← order, List.filterMap_append, handed, List.append_assoc]
  · intro finished
    have complete := from_rows.all finished
    rw [all_give] at complete
    rw [← complete] at order
    rw [List.append_right_eq_self.mp order, ((held_sound sound held).stopped finished).2.2.2.2]
    rfl

theorem unasked_own (ran : (fresh stores size params).run acts = some world) (held : world.scans[index]? = some scan)
    {source : Source} (started : (sources acts)[index]? = some source) {decoder : Decoder T}
    (met : ∀ sighting ∈ (fresh stores size params).sightings index acts, sighting.decoder = decoder)
    (unwanted : ∀ row ∈ source.rows, decoder.wants row = false) : (fresh stores size params).requests index acts = [] := by
  have rows := (accounts_run ran).2.rows index scan source held started
  have targets := requests_sightings index (fresh stores size params) acts
  have none_wanted : ((fresh stores size params).sightings index acts).filter Sighting.wanted = [] := by
    refine List.filter_eq_nil_iff.mpr (fun sighting seen => ?_)
    have among : sighting.row ∈ source.rows := by
      rw [← rows, ← rows_sightings]
      exact List.mem_append_left _ (List.mem_map_of_mem seen)
    rw [Sighting.wanted, met sighting seen, unwanted sighting.row among]
    exact Bool.false_ne_true
  rw [none_wanted] at targets
  exact List.map_eq_nil_iff.mp targets

theorem unsent_own (sized : 0 < size) (ran : (fresh stores size params).run acts = some world)
    (unwanted : ∀ index, ∀ sighting ∈ (fresh stores size params).sightings index acts, sighting.wanted = false) :
    world.lookup.batches = [] := by
  obtain ⟨clients, same, _, recorded⟩ := recorded_lookup sized ran
  have unasked : ((fresh stores size params).history acts).filterMap Pulled.asked? = [] := by
    refine List.filterMap_eq_nil_iff.mpr (fun pulled past => ?_)
    have targets := requests_sightings pulled.scan (fresh stores size params) acts
    rw [List.filter_eq_nil_iff.mpr (fun sighting seen => by rw [unwanted _ sighting seen]; exact Bool.false_ne_true)] at targets
    exact List.filterMap_eq_nil_iff.mp (List.map_eq_nil_iff.mp targets) pulled (List.mem_filter.mpr ⟨past, decide_eq_true rfl⟩)
  rw [unasked] at recorded
  refine List.eq_nil_iff_forall_not_mem.mpr (fun batch member => ?_)
  have sent : (batch.adapter, batch.keys) ∈ clients.lookup.dispatched := same ▸ List.mem_map_of_mem member
  obtain ⟨key, among⟩ := List.exists_mem_of_ne_nil _ (recorded.balanced.sound.proper _ sent).1
  have listed : key ∈ clients.lookup.ledger batch.adapter :=
    List.mem_append_left _ (List.mem_flatMap.mpr ⟨_, List.mem_filter.mpr ⟨sent, decide_eq_true rfl⟩, among⟩)
  have asked := (Clients.mem_ledger recorded batch.adapter key).mp listed
  cases asked

-- A pull of two thin rows: it goes on to the second while the first is looked up, and then waits for the queue.
def waitingPull : List (Act Nat) :=
  List.replicate 7 (.advance 0) ++ [.complete 0 (.results [some [⟨[], [], []⟩], some [⟨[], [], []⟩, ⟨[], [], []⟩]]), .reply 0,
    .reply 0, .wake 0, .send 1, .advance 0]

-- So it is not true that a pull which finds no value in the queue takes no row beyond the one whose value it returns.
theorem pull_goes_beyond :
    ¬ ∀ (acts body : List (Act Nat)) (world started after : World Nat) (scan last : Scan Nat) (value : Nat),
      (fresh [Adapters.ofList [counting]] 2 none).run acts = some world → world.scans[0]? = some scan →
      scan.lookahead = none → scan.finished = false → scan.queue = [] → world.act (.pull 0) = some started →
      started.run body = some after → (∀ action ∈ body, action.isCall 0 = false) → after.scans[0]? = some last →
      last.phase = .idle → last.lookahead = some value →
      ∃ earlier pulled beyond,
        pulledBy 0 ((fresh [Adapters.ofList [counting]] 2 none).history acts) ++ pulledBy 0 (started.history body)
          = earlier ++ pulled :: beyond
        ∧ pulled.value? after.lookup.answer? = some value
        ∧ (pulledBy 0 (started.history body) = [] ∨ beyond = []) := by
  intro claimed
  obtain ⟨earlier, pulled, beyond, all, worth, none_beyond⟩ :=
    claimed [.start 0 [] [some (.thin [] [] [1] 7), some (.thin [] [] [2] 7)] 1] waitingPull _ _ _ _ _ 1 rfl rfl rfl rfl rfl
      rfl rfl (by decide) rfl rfl rfl
  rcases none_beyond with none_taken | through
  · cases none_taken
  · -- The last row that was taken is the second one, which is worth 2.
    have last := congrArg List.getLast? all
    rw [through, List.getLast?_concat] at last
    cases last
    cases worth

-- The values that rows gave by themselves come in scan order. A pull that finds a value in the queue takes no row;
-- any other takes no row beyond the one whose value it returns, unless it has taken all rows that were left and then
-- waited for the queue. A scan of rows that want no records gives what an inline scan gives.
theorem values_in_order (ran : (fresh stores size params).run acts = some world) (held : world.scans[index]? = some scan) :
    (∃ origins, Origins (fresh stores size params) acts world index scan origins)
    ∧ (∀ (started after : World T) (body : List (Act T)) (last : Scan T), world.act (.pull index) = some started →
      started.run body = some after → (∀ action ∈ body, action.isCall index = false) →
      after.scans[index]? = some last → last.phase = .idle →
      Pull after.lookup scan last (pulledBy index (started.history body)))
    ∧ (∀ (source : Source) (decoder : Decoder T), (sources acts)[index]? = some source →
      (∀ sighting ∈ (fresh stores size params).sightings index acts, sighting.decoder = decoder) → decoder.Calm →
      (∀ row ∈ source.rows, decoder.wants row = false) →
      (fresh stores size params).requests index acts = []
      ∧ ∀ (fetch : FetchKey) (trace : InlineTrace), ∃ rest,
        InlineScan.Emits decoder fetch ⟨source, none⟩ trace (scan.emitted ++ rest) ∧ (scan.finished = true → rest = []))
    ∧ (0 < size → (∀ other, ∀ sighting ∈ (fresh stores size params).sightings other acts, sighting.wanted = false) →
      world.lookup.batches = []) := by
  refine ⟨origins_run ran held, ?_, ?_, fun sized unwanted => unsent_own sized ran unwanted⟩
  · intro started after body last called went uncalled now idle
    exact pull_takes (sound_run (sound_fresh stores size params) ran) (accounts_run ran).2 held called went uncalled now idle
  · intro source decoder started met calm unwanted
    refine ⟨unasked_own ran held started met unwanted, fun fetch trace => ?_⟩
    obtain ⟨rest, all, ended⟩ := emitted_own ran held started met unwanted
    exact ⟨rest, all ▸ InlineScan.emits_own calm unwanted fetch trace, ended⟩

def fullRows : Source := [some (.full [1] 7 [⟨[], [], []⟩]), some (.thin [] [] [9] 7),
  some (.full [2] 7 [⟨[], [], []⟩, ⟨[], [], []⟩])]

def fullScan : List (Act Nat) :=
  [.start 0 [Filter.dataIdIsNot [9]] fullRows 1, .pull 0, .advance 0, .take 0, .pull 0, .advance 0, .advance 0, .take 0,
    .pull 0, .advance 0, .advance 0, .advance 0, .advance 0]

theorem values_in_order_of_two :
    (∃ (world : World Nat) (scan : Scan Nat) (origins : List (Pulled Nat)),
      (fresh [Adapters.ofList [counting]] 2 none).run twoRows = some world ∧ world.scans[0]? = some scan
      ∧ scan.emitted = [1, 2] ∧ Origins (fresh [Adapters.ofList [counting]] 2 none) twoRows world 0 scan origins)
    ∧ (∃ (world started after : World Nat) (scan last : Scan Nat),
      (fresh [Adapters.ofList [counting]] 2 none).run (twoRows.take 1) = some world ∧ world.scans[0]? = some scan
      ∧ world.act (.pull 0) = some started ∧ started.run (List.replicate 3 (.advance 0)) = some after
      ∧ after.scans[0]? = some last ∧ last.lookahead = some 1
      ∧ (pulledBy 0 (started.history (List.replicate 3 (.advance 0)))).map Pulled.row
        = [.thin [] [] [1] 7, .full [2] 7 [⟨[], [], []⟩]]
      ∧ Pull after.lookup scan last (pulledBy 0 (started.history (List.replicate 3 (.advance 0)))))
    ∧ ∃ (world : World Nat) (scan : Scan Nat), (fresh [Adapters.ofList [counting]] 2 none).run fullScan = some world
      ∧ world.scans[0]? = some scan ∧ scan.finished = true ∧ scan.emitted = [1, 2]
      ∧ InlineScan.Emits ⟨Adapters.ofList [counting], [Filter.dataIdIsNot [9]]⟩ (fun _ _ _ => .ok none) ⟨fullRows, none⟩
        ⟨none, [], []⟩ [1, 2]
      ∧ world.lookup.batches = [] := by
  have ran : (fresh [Adapters.ofList [counting]] 2 none).run twoRows = some _ := rfl
  have began : (fresh [Adapters.ofList [counting]] 2 none).run (twoRows.take 1) = some _ := rfl
  have ran_full : (fresh [Adapters.ofList [counting]] 2 none).run fullScan = some _ := rfl
  obtain ⟨⟨origins, traced⟩, _⟩ := @values_in_order Nat _ twoRows 0 2 _ [Adapters.ofList [counting]] none ran rfl
  obtain ⟨_, pulls, _⟩ := @values_in_order Nat _ (twoRows.take 1) 0 2 _ [Adapters.ofList [counting]] none began rfl
  obtain ⟨_, _, inline, unsent⟩ := @values_in_order Nat _ fullScan 0 2 _ [Adapters.ofList [counting]] none ran_full rfl
  have met : ∀ sighting ∈ (fresh [Adapters.ofList [counting]] 2 none).sightings 0 fullScan,
      sighting.decoder = ⟨Adapters.ofList [counting], [Filter.dataIdIsNot [9]]⟩ :=
    List.forall_mem_cons.mpr ⟨rfl, List.forall_mem_cons.mpr ⟨rfl, List.forall_mem_singleton.mpr rfl⟩⟩
  have unwanted : ∀ other, ∀ sighting ∈ (fresh [Adapters.ofList [counting]] 2 none).sightings other fullScan,
      sighting.wanted = false := by
    intro other
    cases other with
    | zero => exact List.forall_mem_cons.mpr ⟨rfl, List.forall_mem_cons.mpr ⟨rfl, List.forall_mem_singleton.mpr rfl⟩⟩
    | succ other => exact List.forall_mem_nil _
  obtain ⟨_, same⟩ := inline fullRows _ rfl met calm_counting (by decide)
  obtain ⟨rest, emits, ended⟩ := same (fun _ _ _ => .ok none) ⟨none, [], []⟩
  rw [ended rfl] at emits
  refine ⟨⟨_, _, origins, rfl, rfl, rfl, traced⟩, ⟨_, _, _, _, _, rfl, rfl, rfl, rfl, rfl, rfl, rfl, ?_⟩,
    ⟨_, _, rfl, rfl, rfl, rfl, emits, unsent (by decide) unwanted⟩⟩
  exact pulls _ _ (List.replicate 3 (.advance 0)) _ rfl rfl (by decide) rfl rfl

end World

end ThinScan
