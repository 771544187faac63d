import ThinScan.Proofs.Fates

set_option autoImplicit false

namespace ThinScan

variable {T : Type}

abbrev Target := AdapterId × Bytes

namespace Decoder

variable {decoder : Decoder T} {row : Row}

-- Every filter accepts the row, its adapter is registered, and it carries no values.
def wants (decoder : Decoder T) (row : Row) : Bool :=
  Filter.acceptAll decoder.filters row && (decoder.adapters.find? row.adapter).isSome && row.needsLookup

theorem unwanted_of_refused (refused : decoder.admission row = .refused) : decoder.wants row = false := by
  simp [wants, refused_of_admission refused]

theorem unwanted_of_unknown (unknown : decoder.admission row = .unknown) : decoder.wants row = false := by
  simp [wants, absent_of_admission unknown]

theorem wants_of_granted {adapter : Adapter T} (granted : decoder.admission row = .granted adapter) :
    decoder.wants row = row.needsLookup := by
  simp [wants, accepted_of_admission granted nofun, registered_of_admission granted]

end Decoder

-- A row as it was pulled, with the filters and the adapters that met it.
structure Sighting (T : Type) where
  decoder : Decoder T
  row : Row

namespace Sighting

def wanted (sighting : Sighting T) : Bool := sighting.decoder.wants sighting.row

def target (sighting : Sighting T) : Target := (sighting.row.adapter, sighting.row.dataId)

def all (decoder : Decoder T) (rows : List Row) : List (Sighting T) := rows.map (Sighting.mk decoder)

theorem rows_all (decoder : Decoder T) (rows : List Row) : (all decoder rows).map row = rows := by
  rw [all, List.map_map]
  exact List.map_id rows

theorem wanted_all (decoder : Decoder T) (rows : List Row) :
    ((all decoder rows).filter wanted).map target
      = (rows.filter decoder.wants).map (fun row => (row.adapter, row.dataId)) := by
  rw [all, List.filter_map, List.map_map]
  rfl

end Sighting

def KeyFetch.target (fetch : KeyFetch) : Target := (fetch.adapter, fetch.dataId)

namespace PointLookup

-- What happens to a lookup service, if there is one: it fetches the records of these rows, one after the other, with the
-- params in use, and nothing else.
inductive Fetches (rows : List Row) : Option PointLookup → Option PointLookup → Prop
  | without : Fetches rows none none
  | served {service used : PointLookup} (bound : used.bound = service.bound)
      (fetches : used.fetches = service.fetches ++ rows.map (fun row => ⟨row.adapter, row.dataId, service.bound⟩)) :
      Fetches rows (some service) (some used)

theorem fetches_nothing (lookup : Option PointLookup) : Fetches [] lookup lookup := by
  cases lookup with
  | none => exact .without
  | some service => exact .served rfl (List.append_nil _).symm

theorem fetches_append {rows more : List Row} {first second third : Option PointLookup} (before : Fetches rows first second)
    (after : Fetches more second third) : Fetches (rows ++ more) first third := by
  cases before with
  | without =>
      cases after
      exact .without
  | served bound fetches =>
      cases after with
      | served later_bound later_fetches =>
          refine .served (later_bound.trans bound) ?_
          rw [later_fetches, fetches, bound, List.map_append, List.append_assoc]

theorem get_fetches (fetch : FetchKey) (service : PointLookup) (row : Row) :
    Fetches [row] (some service) (some (service.get fetch row.adapter row.dataId).2) := by
  unfold get
  dsimp only
  split <;> exact .served rfl rfl

end PointLookup

theorem Decoder.fetches_decodeInline (decoder : Decoder T) (fetch : FetchKey) (row : Row) (lookup : Option PointLookup) :
    PointLookup.Fetches ([row].filter decoder.wants) lookup (decoder.decodeInline fetch row lookup).2 := by
  have passed_by (unwanted : decoder.wants row = false) : [row].filter decoder.wants = [] := by simp [unwanted]
  unfold decodeInline
  cases admitted : decoder.admission row with
  | refused =>
      rw [passed_by (Decoder.unwanted_of_refused admitted)]
      exact PointLookup.fetches_nothing lookup
  | unknown =>
      rw [passed_by (Decoder.unwanted_of_unknown admitted)]
      exact PointLookup.fetches_nothing lookup
  | granted adapter =>
      have wanted := Decoder.wants_of_granted admitted
      cases lookup with
      | none => exact .without
      | some service =>
          by_cases thin : row.needsLookup = true
          · have alone : [row].filter decoder.wants = [row] := by simp [wanted, thin]
            simp only [if_pos thin, alone]
            exact PointLookup.get_fetches fetch service row
          · rw [passed_by (by simpa [wanted] using thin)]
            simp only [if_neg thin]
            exact PointLookup.fetches_nothing (some service)

namespace InlineScan

variable {decoder : Decoder T} {fetch : FetchKey}

structure Looks (decoder : Decoder T) (source left : Source) (trace used : InlineTrace) (past : List Row) : Prop where
  rows : source.rows = past ++ left.rows
  fetches : PointLookup.Fetches (past.filter decoder.wants) trace.lookup used.lookup

theorem looks_nowhere (decoder : Decoder T) {source left : Source} (rows : source.rows = left.rows) (trace : InlineTrace) :
    Looks decoder source left trace trace [] :=
  ⟨rows, PointLookup.fetches_nothing trace.lookup⟩

theorem looks_on {row : Row} {rest left : Source} {trace used last : InlineTrace} {past : List Row}
    (here : PointLookup.Fetches ([row].filter decoder.wants) trace.lookup used.lookup)
    (looks : Looks decoder rest left used last past) : Looks decoder (some row :: rest) left trace last (row :: past) := by
  refine ⟨congrArg (row :: ·) looks.rows, ?_⟩
  have both := PointLookup.fetches_append here looks.fetches
  rwa [← List.filter_append, List.singleton_append] at both

theorem search_looks (source : Source) (trace : InlineTrace) :
    ∃ past, Looks decoder source (search decoder fetch source trace).2.1 trace (search decoder fetch source trace).2.2
      past := by
  induction source generalizing trace with
  | nil => exact ⟨[], looks_nowhere decoder rfl trace⟩
  | cons first rest step =>
      cases first with
      | none => exact ⟨[], @looks_nowhere T decoder (none :: rest) [] rfl trace⟩
      | some row =>
          have here : PointLookup.Fetches ([row].filter decoder.wants) trace.lookup
              (decode decoder fetch row trace).2.lookup := decoder.fetches_decodeInline fetch row trace.lookup
          cases decoded : decode decoder fetch row trace with
          | mk outcome used =>
              rw [decoded] at here
              rw [search, decoded]
              cases outcome with
              | value value => exact ⟨[row], looks_on here (looks_nowhere decoder rfl used)⟩
              | crashed => exact ⟨[row], looks_on here (looks_nowhere decoder rfl used)⟩
              | refused =>
                  obtain ⟨past, looks⟩ := step used
                  exact ⟨row :: past, looks_on here looks⟩
              | lost event =>
                  obtain ⟨past, looks⟩ := step used
                  exact ⟨row :: past, looks_on here looks⟩

theorem hasNext_looks (decoder : Decoder T) (fetch : FetchKey) (scan : InlineScan T) (trace : InlineTrace) :
    ∃ past, Looks decoder scan.source (scan.hasNext decoder fetch trace).2.1.source trace
      (scan.hasNext decoder fetch trace).2.2 past := by
  unfold hasNext
  split
  · exact ⟨[], looks_nowhere decoder rfl trace⟩
  · obtain ⟨past, looks⟩ := @search_looks T decoder fetch scan.source trace
    split <;> (rename_i searched; rw [searched] at looks; exact ⟨past, looks⟩)

variable {filters : List Filter}

theorem pulled_looks (filters : List Filter) (scan : InlineScan T) (pull : Pull T) :
    ∃ past, Looks ⟨pull.adapters, filters⟩ scan.source (scan.pulled filters pull).2.1.source pull.trace
      (scan.pulled filters pull).2.2 past := by
  obtain ⟨past, looks⟩ := hasNext_looks ⟨pull.adapters, filters⟩ pull.fetch scan pull.trace
  refine ⟨past, ?_⟩
  unfold pulled next
  cases looked : scan.hasNext ⟨pull.adapters, filters⟩ pull.fetch pull.trace with
  | mk said rest =>
      rw [looked] at looks
      cases said <;> split <;> exact looks

def along {α : Type} (seen : InlineScan T → Pull T → InlineScan T → InlineTrace → List α) (filters : List Filter) :
    InlineScan T → List (Pull T) → List α
  | _, [] => []
  | scan, pull :: rest =>
      let (_, after, used) := scan.pulled filters pull
      seen scan pull after used ++ along seen filters after rest

def gone (scan after : InlineScan T) : List Row :=
  scan.source.rows.take (scan.source.rows.length - after.source.rows.length)

def sightings (filters : List Filter) (scan : InlineScan T) (pulls : List (Pull T)) : List (Sighting T) :=
  along (fun scan pull after _ => Sighting.all ⟨pull.adapters, filters⟩ (scan.gone after)) filters scan pulls

def issued (filters : List Filter) (scan : InlineScan T) (pulls : List (Pull T)) : List KeyFetch :=
  along (fun _ pull _ used => used.fetches.drop pull.trace.fetches.length) filters scan pulls

theorem gone_of_looks {decoder : Decoder T} {scan after : InlineScan T} {trace used : InlineTrace} {past : List Row}
    (looks : Looks decoder scan.source after.source trace used past) : scan.gone after = past := by
  rw [gone, looks.rows, List.length_append, Nat.add_sub_cancel, List.take_left]

theorem fetches_of_looks {decoder : Decoder T} {source left : Source} {trace used : InlineTrace} {past : List Row}
    (looks : Looks decoder source left trace used past) :
    trace.fetches <+: used.fetches ∧ (trace.lookup = none → used.lookup = none ∧ used.fetches.drop trace.fetches.length = [])
      ∧ (trace.lookup.isSome = true → (used.fetches.drop trace.fetches.length).map KeyFetch.target
        = ((Sighting.all decoder past).filter Sighting.wanted).map Sighting.target) := by
  have fetched := looks.fetches
  unfold InlineTrace.fetches
  rw [Sighting.wanted_all]
  generalize trace.lookup = before at fetched ⊢
  generalize used.lookup = after at fetched ⊢
  cases fetched with
  | without => exact ⟨List.prefix_rfl, fun _ => ⟨rfl, rfl⟩, nofun⟩
  | @served service later bound fetches =>
      simp only [Option.map_some, Option.getD_some]
      rw [fetches]
      refine ⟨List.prefix_append _ _, nofun, fun _ => ?_⟩
      rw [List.drop_left, List.map_map]
      rfl

theorem rows_sightings (scan : InlineScan T) (pulls : List (Pull T)) :
    ∃ left, (sightings filters scan pulls).map Sighting.row ++ left = scan.source.rows := by
  induction pulls generalizing scan with
  | nil => exact ⟨scan.source.rows, rfl⟩
  | cons pull rest step =>
      obtain ⟨past, looks⟩ := pulled_looks filters scan pull
      obtain ⟨left, later⟩ := step (scan.pulled filters pull).2.1
      refine ⟨left, ?_⟩
      have first : sightings filters scan (pull :: rest) = Sighting.all ⟨pull.adapters, filters⟩ past
          ++ sightings filters (scan.pulled filters pull).2.1 rest := by rw [← gone_of_looks looks]; rfl
      rw [first, List.map_append, Sighting.rows_all, List.append_assoc, later, looks.rows]

theorem issued_served (scan : InlineScan T) (pulls : List (Pull T))
    (served : ∀ pull ∈ pulls, pull.trace.lookup.isSome = true) :
    (issued filters scan pulls).map KeyFetch.target
      = ((sightings filters scan pulls).filter Sighting.wanted).map Sighting.target := by
  induction pulls generalizing scan with
  | nil => rfl
  | cons pull rest step =>
      obtain ⟨past, looks⟩ := pulled_looks filters scan pull
      have later := step (scan.pulled filters pull).2.1 (fun other member => served other (List.mem_cons_of_mem _ member))
      have first := (fetches_of_looks looks).2.2 (served pull List.mem_cons_self)
      rw [← gone_of_looks looks] at first
      rw [issued, sightings, along, along, List.map_append, List.filter_append, List.map_append]
      exact (congrArg (· ++ _) first).trans (congrArg (_ ++ ·) later)

theorem issued_without (scan : InlineScan T) (pulls : List (Pull T))
    (without : ∀ pull ∈ pulls, pull.trace.lookup = none) : issued filters scan pulls = [] := by
  induction pulls generalizing scan with
  | nil => rfl
  | cons pull rest step =>
      obtain ⟨past, looks⟩ := pulled_looks filters scan pull
      have later := step (scan.pulled filters pull).2.1 (fun other member => without other (List.mem_cons_of_mem _ member))
      have first := ((fetches_of_looks looks).2.1 (without pull List.mem_cons_self)).2
      rw [issued, along]
      exact (congrArg (· ++ _) first).trans later

-- The rows gone through are the first of the source, and with a lookup service the scan has fetched the record of
-- each that wants it, in their order.
structure LooksUp (filters : List Filter) (source : Source) (pulls : List (Pull T)) : Prop where
  rows : ∃ left, (sightings filters ⟨source, none⟩ pulls).map Sighting.row ++ left = source.rows
  logged : ∀ (scan : InlineScan T), ∀ pull ∈ pulls, pull.trace.fetches <+: (scan.pulled filters pull).2.2.fetches
    ∧ (pull.trace.lookup = none → (scan.pulled filters pull).2.2.lookup = none)
  served : (∀ pull ∈ pulls, pull.trace.lookup.isSome = true) → (issued filters ⟨source, none⟩ pulls).map KeyFetch.target
    = ((sightings filters ⟨source, none⟩ pulls).filter Sighting.wanted).map Sighting.target
  without : (∀ pull ∈ pulls, pull.trace.lookup = none) → issued filters ⟨source, none⟩ pulls = []

theorem looksUp_pulls (filters : List Filter) (source : Source) (pulls : List (Pull T)) : LooksUp filters source pulls := by
  refine ⟨rows_sightings ⟨source, none⟩ pulls, fun scan pull _ => ?_, issued_served ⟨source, none⟩ pulls,
    issued_without ⟨source, none⟩ pulls⟩
  obtain ⟨past, looks⟩ := pulled_looks filters scan pull
  obtain ⟨logged, without, _⟩ := fetches_of_looks looks
  exact ⟨logged, fun nothing => (without nothing).1⟩

end InlineScan

end ThinScan
