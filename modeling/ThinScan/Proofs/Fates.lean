import Mathlib.Data.List.Forall2
import ThinScan.InlineScan
import ThinScan.Proofs.Moves

/-!
An inline scan meets the fates of its rows one after the other: the values it hands out and the events it leaves are
just those of the rows it has gone through.
-/

set_option autoImplicit false

namespace ThinScan

variable {T : Type}

namespace Event

def ofRow : Event → Bool
  | adapterMissing .. => true
  | decodeFailed .. => true
  | recordMissing .. => true
  | _ => false

def rowNotices : List (Level × String) :=
  [(.warn, "no adapter registered for row, skipping"), (.warn, "failed to decode row, skipping"),
    (.debug, "no data index record for row")]

-- The event tells how a row with this data id was lost, and names it.
def Names (dataId : Bytes) (event : Event) : Prop :=
  (event.level, event.headline) ∈ rowNotices ∧ ("data_id", dataId.quoted) ∈ event.details

-- Events of a kind that came to a log between two states of it, oldest first. Logs grow at the front.
def arrived (kind : Event → Bool) (before after : List Event) : List Event :=
  ((after.filter kind).take ((after.filter kind).length - (before.filter kind).length)).reverse

theorem arrived_of {kind : Event → Bool} {before after fresh : List Event}
    (grown : after.filter kind = fresh ++ before.filter kind) : arrived kind before after = fresh.reverse := by
  rw [arrived, grown, List.length_append, Nat.add_sub_cancel, List.take_left]

end Event

namespace Row

-- What a row is decoded from, given what the lookup service finds for it, if there is such a service.
def valuesFrom (found : Option (Option Values)) (row : Row) : Option Values :=
  if row.needsLookup then found.getD (some row.values) else some row.values

-- What becomes of a row, by the filters and the adapters that it meets and by what is found for it.
inductive Fate (decoder : Decoder T) (found : Option (Option Values)) (row : Row) : Outcome T → Prop
  | refused (refused : Filter.acceptAll decoder.filters row = false) : Fate decoder found row .refused
  | unregistered (accepted : Filter.acceptAll decoder.filters row = true)
      (absent : decoder.adapters.find? row.adapter = none) :
      Fate decoder found row (.lost (.adapterMissing row.dataId row.adapter))
  | unrecorded {adapter : Adapter T} (accepted : Filter.acceptAll decoder.filters row = true)
      (registered : decoder.adapters.find? row.adapter = some adapter) (missing : row.valuesFrom found = none) :
      Fate decoder found row (.lost (.recordMissing row.adapter row.dataId))
  | undecoded {adapter : Adapter T} {values : Values} {cause : Error}
      (accepted : Filter.acceptAll decoder.filters row = true)
      (registered : decoder.adapters.find? row.adapter = some adapter) (given : row.valuesFrom found = some values)
      (failed : adapter.decode row values = .failed cause) :
      Fate decoder found row (.lost (.decodeFailed adapter.typeName row.dataId cause))
  | decoded {adapter : Adapter T} {values : Values} {value : T}
      (accepted : Filter.acceptAll decoder.filters row = true)
      (registered : decoder.adapters.find? row.adapter = some adapter) (given : row.valuesFrom found = some values)
      (decoded : adapter.decode row values = .value value) : Fate decoder found row (.value value)
  | crashed {adapter : Adapter T} {values : Values} (accepted : Filter.acceptAll decoder.filters row = true)
      (registered : decoder.adapters.find? row.adapter = some adapter) (given : row.valuesFrom found = some values)
      (crashed : adapter.decode row values = .crashed) : Fate decoder found row .crashed

variable {decoder : Decoder T} {found : Option (Option Values)} {row : Row} {adapter : Adapter T}

theorem fate_refused {outcome : Outcome T} (fate : row.Fate decoder found outcome)
    (refused : Filter.acceptAll decoder.filters row = false) : outcome = .refused := by
  cases fate with
  | refused => rfl
  | _ => simp_all

theorem fate_unregistered {outcome : Outcome T} (fate : row.Fate decoder found outcome)
    (accepted : Filter.acceptAll decoder.filters row = true) (absent : decoder.adapters.find? row.adapter = none) :
    outcome = .lost (.adapterMissing row.dataId row.adapter) := by
  cases fate with
  | unregistered => rfl
  | _ => simp_all

theorem fate_registered {outcome : Outcome T} (fate : row.Fate decoder found outcome)
    (accepted : Filter.acceptAll decoder.filters row = true)
    (registered : decoder.adapters.find? row.adapter = some adapter) :
    outcome = .ofLookup adapter row (row.valuesFrom found) := by
  cases fate with
  | refused refused => rw [accepted] at refused; cases refused
  | unregistered _ absent => rw [registered] at absent; cases absent
  | unrecorded _ _ missing => rw [missing, Outcome.ofLookup]
  | undecoded _ same given failed =>
      rw [registered] at same
      cases same
      rw [given, Outcome.ofLookup, Outcome.ofValues, failed]
  | decoded _ same given decoded =>
      rw [registered] at same
      cases same
      rw [given, Outcome.ofLookup, Outcome.ofValues, decoded]
  | crashed _ same given crashed =>
      rw [registered] at same
      cases same
      rw [given, Outcome.ofLookup, Outcome.ofValues, crashed]

theorem fate_unique {first second : Outcome T} (one : row.Fate decoder found first)
    (other : row.Fate decoder found second) : first = second := by
  cases accepted : Filter.acceptAll decoder.filters row with
  | false => rw [fate_refused one accepted, fate_refused other accepted]
  | true =>
      cases registered : decoder.adapters.find? row.adapter with
      | none => rw [fate_unregistered one accepted registered, fate_unregistered other accepted registered]
      | some adapter => rw [fate_registered one accepted registered, fate_registered other accepted registered]

theorem fate_iff {outcome other : Outcome T} (fate : row.Fate decoder found outcome) :
    row.Fate decoder found other ↔ other = outcome := by
  constructor
  · exact fun met => fate_unique met fate
  · rintro rfl
    exact fate

theorem fate_ofLookup (accepted : Filter.acceptAll decoder.filters row = true)
    (registered : decoder.adapters.find? row.adapter = some adapter) :
    row.Fate decoder found (.ofLookup adapter row (row.valuesFrom found)) := by
  cases given : row.valuesFrom found with
  | none => exact .unrecorded accepted registered given
  | some values =>
      rw [Outcome.ofLookup, Outcome.ofValues]
      cases decoded : adapter.decode row values with
      | value value => exact .decoded accepted registered given decoded
      | failed cause => exact .undecoded accepted registered given decoded
      | crashed => exact .crashed accepted registered given decoded

theorem fate_thin {answer : Option Values} (accepted : Filter.acceptAll decoder.filters row = true)
    (registered : decoder.adapters.find? row.adapter = some adapter) (thin : row.needsLookup = true) :
    row.Fate decoder (some answer) (.ofLookup adapter row answer) := by
  have given : row.valuesFrom (some answer) = answer := if_pos thin
  have fate : row.Fate decoder (some answer) (.ofLookup adapter row (row.valuesFrom (some answer))) :=
    fate_ofLookup accepted registered
  rw [given] at fate
  exact fate

theorem fate_own (accepted : Filter.acceptAll decoder.filters row = true)
    (registered : decoder.adapters.find? row.adapter = some adapter) (own : row.needsLookup = false ∨ found = none) :
    row.Fate decoder found (.ofValues adapter row row.values) := by
  have given : row.valuesFrom found = some row.values := by
    rcases own with full | without
    · exact if_neg (Bool.eq_false_iff.mp full)
    · rw [without, valuesFrom]
      exact ite_self _
  have fate : row.Fate decoder found (.ofLookup adapter row (row.valuesFrom found)) := fate_ofLookup accepted registered
  rw [given] at fate
  exact fate

theorem fate_told {outcome : Outcome T} (fate : row.Fate decoder found outcome) :
    ∀ event ∈ outcome.events, event.ofRow = true ∧ event.Names row.dataId := by
  intro event told
  cases fate with
  | unregistered =>
      rw [List.mem_singleton.mp told]
      exact ⟨rfl, by simp [Event.level, Event.headline, Event.rowNotices], by simp [Event.details]⟩
  | unrecorded =>
      rw [List.mem_singleton.mp told]
      exact ⟨rfl, by simp [Event.level, Event.headline, Event.rowNotices], by simp [Event.details]⟩
  | undecoded =>
      rw [List.mem_singleton.mp told]
      exact ⟨rfl, by simp [Event.level, Event.headline, Event.rowNotices], by simp [Event.details]⟩
  | _ => cases told

theorem events_ofRow {outcome : Outcome T} (fate : row.Fate decoder found outcome) :
    outcome.events.filter Event.ofRow = outcome.events :=
  List.filter_eq_self.mpr (fun event told => (fate_told fate event told).1)

end Row

namespace Outcome

def isCrash : Outcome T → Bool
  | crashed => true
  | _ => false

theorem reverse_events (outcome : Outcome T) : outcome.events.reverse = outcome.events := by cases outcome <;> rfl

end Outcome

namespace PointLookup

variable (fetch : FetchKey) (service : PointLookup)

-- A fetch that fails finds nothing.
def finds (row : Row) : Option Values := (fetch row.adapter service.bound row.dataId).toOption.join

theorem get_finds (row : Row) : (service.get fetch row.adapter row.dataId).1 = service.finds fetch row := by
  unfold get finds
  cases fetch row.adapter service.bound row.dataId <;> rfl

theorem get_bound (adapter : AdapterId) (dataId : Bytes) : (service.get fetch adapter dataId).2.bound = service.bound := by
  unfold get
  dsimp only
  split <;> rfl

theorem rows_get (adapter : AdapterId) (dataId : Bytes) :
    (service.get fetch adapter dataId).2.events.filter Event.ofRow = service.events.filter Event.ofRow := by
  unfold get
  dsimp only
  split <;> rfl

end PointLookup

namespace Decoder

variable {decoder : Decoder T} {row : Row}

def answer? (fetch : FetchKey) (lookup : Option PointLookup) (row : Row) : Option (Option Values) :=
  lookup.map (fun service => service.finds fetch row)

def logged (lookup : Option PointLookup) : List Event := (lookup.map PointLookup.events).getD []

theorem refused_of_admission (refused : decoder.admission row = .refused) :
    Filter.acceptAll decoder.filters row = false := by
  apply Bool.eq_false_iff.mpr
  intro accepted
  rw [admission, if_pos accepted] at refused
  split at refused <;> cases refused

theorem accepted_of_admission {admission : Admission T} (admitted : decoder.admission row = admission)
    (passed : admission ≠ .refused) : Filter.acceptAll decoder.filters row = true := by
  apply Classical.byContradiction
  intro refused
  exact passed (admitted.symm.trans (if_neg refused))

theorem absent_of_admission (unknown : decoder.admission row = .unknown) :
    decoder.adapters.find? row.adapter = none := by
  rw [admission, if_pos (accepted_of_admission unknown nofun)] at unknown
  split at unknown
  · cases unknown
  · assumption

theorem registered_of_admission {adapter : Adapter T} (granted : decoder.admission row = .granted adapter) :
    decoder.adapters.find? row.adapter = some adapter := by
  rw [admission, if_pos (accepted_of_admission granted nofun)] at granted
  split at granted
  · cases granted
    assumption
  · cases granted

theorem fate_decodeInline (decoder : Decoder T) (fetch : FetchKey) (row : Row) (lookup : Option PointLookup) :
    row.Fate decoder (answer? fetch lookup row) (decoder.decodeInline fetch row lookup).1
      ∧ answer? fetch (decoder.decodeInline fetch row lookup).2 = answer? fetch lookup
      ∧ (logged (decoder.decodeInline fetch row lookup).2).filter Event.ofRow = (logged lookup).filter Event.ofRow := by
  unfold decodeInline
  cases admitted : decoder.admission row with
  | refused => exact ⟨.refused (refused_of_admission admitted), rfl, rfl⟩
  | unknown =>
      exact ⟨.unregistered (accepted_of_admission admitted nofun) (absent_of_admission admitted), rfl, rfl⟩
  | granted adapter =>
      have accepted := accepted_of_admission admitted nofun
      have registered := registered_of_admission admitted
      cases lookup with
      | none => exact ⟨Row.fate_own accepted registered (.inr rfl), rfl, rfl⟩
      | some service =>
          dsimp only
          split
          · rename_i thin
            refine ⟨?_, ?_, PointLookup.rows_get fetch service row.adapter row.dataId⟩
            · rw [PointLookup.get_finds]
              exact Row.fate_thin accepted registered thin
            · funext other
              rw [answer?, answer?, Option.map_some, Option.map_some, PointLookup.finds, PointLookup.finds,
                PointLookup.get_bound]
          · rename_i full
            exact ⟨Row.fate_own accepted registered (.inl (Bool.eq_false_iff.mpr full)), rfl, rfl⟩

end Decoder

namespace InlineTrace

def rowEvents (trace : InlineTrace) : List Event := trace.allEvents.filter Event.ofRow

def answer? (fetch : FetchKey) (trace : InlineTrace) : Row → Option (Option Values) := Decoder.answer? fetch trace.lookup

end InlineTrace

namespace Search

def values : Search T → List T
  | found value => [value]
  | _ => []

def crashes : Search T → Nat
  | crashed => 1
  | _ => 0

end Search

namespace InlineScan

variable {decoder : Decoder T} {fetch : FetchKey}

abbrev Past (T : Type) := List (Row × Outcome T)

def values (past : Past T) : List T := past.filterMap (fun fate => fate.2.value?)

def events (past : Past T) : List Event := past.flatMap (fun fate => fate.2.events)

def crashes (past : Past T) : Nat := past.countP (fun fate => fate.2.isCrash)

theorem fate_decode (decoder : Decoder T) (fetch : FetchKey) (row : Row) (trace : InlineTrace) :
    row.Fate decoder (trace.answer? fetch row) (decode decoder fetch row trace).1
      ∧ (decode decoder fetch row trace).2.answer? fetch = trace.answer? fetch
      ∧ (decode decoder fetch row trace).2.rowEvents
        = (decode decoder fetch row trace).1.events ++ trace.rowEvents := by
  obtain ⟨fate, answers, kept⟩ := Decoder.fate_decodeInline decoder fetch row trace.lookup
  refine ⟨fate, answers, ?_⟩
  have whole : (decode decoder fetch row trace).1.events.filter Event.ofRow = _ := Row.events_ofRow fate
  have told : (decode decoder fetch row trace).2.rowEvents
      = (decode decoder fetch row trace).1.events.filter Event.ofRow ++ trace.events.filter Event.ofRow
        ++ (Decoder.logged (decoder.decodeInline fetch row trace.lookup).2).filter Event.ofRow := by
    rw [← List.filter_append, ← List.filter_append]
    rfl
  rw [told, kept, whole, InlineTrace.rowEvents, InlineTrace.allEvents, List.filter_append,
    List.append_assoc]
  rfl

structure Goes (decoder : Decoder T) (fetch : FetchKey) (source left : Source) (trace used : InlineTrace)
    (past : Past T) : Prop where
  rows : source.rows = past.map Prod.fst ++ left.rows
  fates : ∀ met ∈ past, met.1.Fate decoder (trace.answer? fetch met.1) met.2
  told : used.rowEvents = (events past).reverse ++ trace.rowEvents

theorem goes_nowhere (decoder : Decoder T) (fetch : FetchKey) {source left : Source} (rows : source.rows = left.rows)
    (trace : InlineTrace) : Goes decoder fetch source left trace trace [] :=
  ⟨rows, List.forall_mem_nil _, rfl⟩

theorem goes_on {row : Row} {rest left : Source} {trace used last : InlineTrace} {outcome : Outcome T} {past : Past T}
    (fate : row.Fate decoder (trace.answer? fetch row) outcome) (answers : used.answer? fetch = trace.answer? fetch)
    (told : used.rowEvents = outcome.events ++ trace.rowEvents) (goes : Goes decoder fetch rest left used last past) :
    Goes decoder fetch (some row :: rest) left trace last ((row, outcome) :: past) := by
  refine ⟨congrArg (row :: ·) goes.rows, List.forall_mem_cons.mpr ⟨fate, ?_⟩, ?_⟩
  · rw [← answers]
    exact goes.fates
  · have all : events ((row, outcome) :: past) = outcome.events ++ events past := List.flatMap_cons
    rw [goes.told, told, all, List.reverse_append, outcome.reverse_events, List.append_assoc]

theorem search_goes (source : Source) (trace : InlineTrace) :
    ∃ past : Past T, Goes decoder fetch source (search decoder fetch source trace).2.1 trace
        (search decoder fetch source trace).2.2 past
      ∧ values past = (search decoder fetch source trace).1.values
      ∧ crashes past = (search decoder fetch source trace).1.crashes := by
  induction source generalizing trace with
  | nil => exact ⟨[], goes_nowhere decoder fetch rfl _, rfl, rfl⟩
  | cons first rest step =>
      cases first with
      | none => exact ⟨[], @goes_nowhere T decoder fetch (none :: rest) [] rfl trace, rfl, rfl⟩
      | some row =>
          obtain ⟨fate, answers, told⟩ := fate_decode decoder fetch row trace
          cases decoded : decode decoder fetch row trace with
          | mk outcome used =>
              rw [decoded] at fate answers told
              rw [search, decoded]
              have here : Goes decoder fetch (some row :: rest) rest trace used [(row, outcome)] :=
                goes_on fate answers told (goes_nowhere decoder fetch rfl _)
              cases outcome with
              | value value => exact ⟨[(row, .value value)], here, rfl, rfl⟩
              | crashed => exact ⟨[(row, .crashed)], here, rfl, rfl⟩
              | refused =>
                  obtain ⟨past, goes, given, crashed⟩ := step used
                  exact ⟨(row, .refused) :: past, goes_on fate answers told goes, given, crashed⟩
              | lost event =>
                  obtain ⟨past, goes, given, crashed⟩ := step used
                  exact ⟨(row, .lost event) :: past, goes_on fate answers told goes, given, crashed⟩

theorem search_exhausted {source : Source} {trace : InlineTrace}
    (exhausted : (search decoder fetch source trace).1 = .exhausted) : (search decoder fetch source trace).2.1 = [] := by
  induction source generalizing trace with
  | nil => rfl
  | cons first rest step =>
      cases first with
      | none => rfl
      | some row =>
          rw [search] at exhausted ⊢
          split at exhausted
          · cases exhausted
          · cases exhausted
          · exact step exhausted

-- A pull of a scan: whether it only looks ahead; the adapters and the fetches that it meets; and what all scans of its
-- lookup service have left behind by then.
structure Pull (T : Type) where
  peeks : Bool
  adapters : Adapters T
  fetch : FetchKey
  trace : InlineTrace

inductive Said (T : Type) where
  | ahead (more : Bool)
  | next (value : Option T)
  | crashed

namespace Said

def values : Said T → List T
  | next value => value.toList
  | _ => []

def isCrash : Said T → Bool
  | crashed => true
  | _ => false

def ends : Said T → Bool
  | ahead more => !more
  | next value => value.isNone
  | crashed => false

end Said

variable {filters : List Filter}

def pulled (filters : List Filter) (scan : InlineScan T) (pull : Pull T) : Said T × InlineScan T × InlineTrace :=
  if pull.peeks then
    match scan.hasNext ⟨pull.adapters, filters⟩ pull.fetch pull.trace with
    | (some more, after, used) => (.ahead more, after, used)
    | (none, after, used) => (.crashed, after, used)
  else
    match scan.next ⟨pull.adapters, filters⟩ pull.fetch pull.trace with
    | (some value, after, used) => (.next value, after, used)
    | (none, after, used) => (.crashed, after, used)

structure Advances (decoder : Decoder T) (fetch : FetchKey) (scan after : InlineScan T) (trace used : InlineTrace)
    (said : Said T) (past : Past T) : Prop where
  goes : Goes decoder fetch scan.source after.source trace used past
  values : scan.lookahead.toList ++ InlineScan.values past = said.values ++ after.lookahead.toList
  crashes : InlineScan.crashes past = if said.isCrash then 1 else 0
  ends : said.ends = true → after.source = [] ∧ after.lookahead = none

theorem hasNext_goes (decoder : Decoder T) (fetch : FetchKey) (scan : InlineScan T) (trace : InlineTrace) :
    ∃ (said : Option Bool) (after : InlineScan T) (used : InlineTrace) (past : Past T),
      scan.hasNext decoder fetch trace = (said, after, used)
      ∧ Goes decoder fetch scan.source after.source trace used past
      ∧ scan.lookahead.toList ++ values past = after.lookahead.toList
      ∧ crashes past = (if said.isNone then 1 else 0)
      ∧ ∀ more, said = some more → more = after.lookahead.isSome ∧ (more = false → after.source = []) := by
  cases ready : scan.lookahead with
  | some value =>
      refine ⟨some true, scan, trace, [], by rw [hasNext, ready], goes_nowhere decoder fetch rfl _, by rw [ready]; rfl, rfl,
        ?_⟩
      intro more same
      cases same
      exact ⟨by rw [ready]; rfl, nofun⟩
  | none =>
      obtain ⟨past, goes, given, crashed⟩ := @search_goes T decoder fetch scan.source trace
      cases searched : search decoder fetch scan.source trace with
      | mk result rest =>
          obtain ⟨left, used⟩ := rest
          rw [searched] at goes given crashed
          cases result with
          | found value =>
              refine ⟨some true, ⟨left, some value⟩, used, past, by rw [hasNext, ready, searched], goes, given, crashed, ?_⟩
              rintro more ⟨⟩
              exact ⟨rfl, nofun⟩
          | exhausted =>
              refine ⟨some false, ⟨left, none⟩, used, past, by rw [hasNext, ready, searched], goes, given, crashed, ?_⟩
              rintro more ⟨⟩
              have ended := @search_exhausted T decoder fetch scan.source trace (congrArg Prod.fst searched)
              rw [searched] at ended
              exact ⟨rfl, fun _ => ended⟩
          | crashed =>
              exact ⟨none, ⟨left, none⟩, used, past, by rw [hasNext, ready, searched], goes, given, crashed, nofun⟩

theorem pulled_advances (filters : List Filter) (scan : InlineScan T) (pull : Pull T) :
    ∃ past, Advances ⟨pull.adapters, filters⟩ pull.fetch scan (scan.pulled filters pull).2.1 pull.trace
      (scan.pulled filters pull).2.2 (scan.pulled filters pull).1 past := by
  obtain ⟨said, after, used, past, looked, goes, values, crashes, ends⟩ :=
    hasNext_goes ⟨pull.adapters, filters⟩ pull.fetch scan pull.trace
  refine ⟨past, ?_⟩
  unfold pulled next
  rw [looked]
  cases said with
  | none => split <;> exact ⟨goes, values, crashes, nofun⟩
  | some more =>
      obtain ⟨stands, ended⟩ := ends more rfl
      split
      · refine ⟨goes, values, crashes, fun last => ?_⟩
        have nothing : more = false := by simpa [Said.ends] using last
        exact ⟨ended nothing, by simpa [nothing] using stands⟩
      · refine ⟨goes, ?_, crashes, fun last => ?_⟩
        · rw [values]
          exact (List.append_nil _).symm
        · have nothing : more = false := by simpa [Said.ends, stands] using last
          exact ⟨ended nothing, rfl⟩

structure Exchange (T : Type) where
  pull : Pull T
  said : Said T
  events : List Event

def exchanges (filters : List Filter) : InlineScan T → List (Pull T) → List (Exchange T)
  | _, [] => []
  | scan, pull :: rest =>
      let (said, after, used) := scan.pulled filters pull
      ⟨pull, said, Event.arrived Event.ofRow pull.trace.allEvents used.allEvents⟩ :: exchanges filters after rest

-- The rows that a pull goes through meet the one fate that its adapters, its fetches and its lookup service hold for them,
-- and the events are those of the rows that are lost.
structure Exchange.Meets (filters : List Filter) (exchange : Exchange T) (past : Past T) : Prop where
  fates : ∀ met ∈ past, ∀ outcome, met.1.Fate ⟨exchange.pull.adapters, filters⟩
    (exchange.pull.trace.answer? exchange.pull.fetch met.1) outcome ↔ outcome = met.2
  names : ∀ met ∈ past, ∀ event ∈ met.2.events, event.Names met.1.dataId
  told : exchange.events = InlineScan.events past
  crashes : InlineScan.crashes past = if exchange.said.isCrash then 1 else 0

theorem meets_of_advances {scan after : InlineScan T} {pull : Pull T} {used : InlineTrace} {said : Said T}
    {past : Past T} (advances : Advances ⟨pull.adapters, filters⟩ pull.fetch scan after pull.trace used said past) :
    Exchange.Meets filters ⟨pull, said, Event.arrived Event.ofRow pull.trace.allEvents used.allEvents⟩ past := by
  refine ⟨fun met member outcome => ?_, fun met member event told => ?_, ?_, advances.crashes⟩
  · exact Row.fate_iff (advances.goes.fates met member)
  · exact (Row.fate_told (advances.goes.fates met member) event told).2
  · exact (Event.arrived_of advances.goes.told).trans (List.reverse_reverse _)

structure Tallies (filters : List Filter) (scan : InlineScan T) (exchanges : List (Exchange T)) (pasts : List (Past T))
    (left : List Row) (ahead : List T) : Prop where
  each : List.Forall₂ (Exchange.Meets filters) exchanges pasts
  rows : scan.source.rows = pasts.flatten.map Prod.fst ++ left
  values : scan.lookahead.toList ++ InlineScan.values pasts.flatten
    = exchanges.flatMap (fun exchange => exchange.said.values) ++ ahead
  ends : (∃ exchange ∈ exchanges, exchange.said.ends = true) → left = [] ∧ ahead = []

theorem tallies_on {scan after : InlineScan T} {pull : Pull T} {used : InlineTrace} {said : Said T} {past : Past T}
    {rest : List (Exchange T)} {pasts : List (Past T)} {left : List Row} {ahead : List T}
    (advances : Advances ⟨pull.adapters, filters⟩ pull.fetch scan after pull.trace used said past)
    (tallies : Tallies filters after rest pasts left ahead) :
    Tallies filters scan (⟨pull, said, Event.arrived Event.ofRow pull.trace.allEvents used.allEvents⟩ :: rest)
      (past :: pasts) left ahead := by
  refine ⟨.cons (meets_of_advances advances) tallies.each, ?_, ?_, ?_⟩
  · rw [advances.goes.rows, tallies.rows, List.flatten_cons, List.map_append, List.append_assoc]
  · rw [InlineScan.values, List.flatten_cons, List.filterMap_append, ← List.append_assoc]
    have here := congrArg (· ++ InlineScan.values pasts.flatten) advances.values
    refine here.trans ?_
    rw [List.append_assoc, tallies.values, List.flatMap_cons, List.append_assoc]
  · rintro ⟨one, member, ends⟩
    rcases List.mem_cons.mp member with first | later
    · -- Nothing was left after the first pull, so the others have gone through nothing.
      rw [first] at ends
      obtain ⟨spent, nothing⟩ := advances.ends ends
      have rows := tallies.rows
      have values := tallies.values
      rw [spent] at rows
      obtain ⟨no_rows, none_left⟩ := List.append_eq_nil_iff.mp rows.symm
      rw [List.map_eq_nil_iff.mp no_rows, nothing] at values
      exact ⟨none_left, (List.append_eq_nil_iff.mp values.symm).2⟩
    · exact tallies.ends ⟨one, later, ends⟩

theorem tallies_pulls (filters : List Filter) (scan : InlineScan T) (pulls : List (Pull T)) :
    ∃ pasts left ahead, Tallies filters scan (exchanges filters scan pulls) pasts left ahead := by
  induction pulls generalizing scan with
  | nil =>
      refine ⟨[], scan.source.rows, scan.lookahead.toList, .nil, rfl, List.append_nil _, ?_⟩
      rintro ⟨_, member, _⟩
      cases member
  | cons pull rest step =>
      obtain ⟨past, advances⟩ := pulled_advances filters scan pull
      obtain ⟨pasts, left, ahead, tallies⟩ := step (scan.pulled filters pull).2.1
      exact ⟨past :: pasts, left, ahead, tallies_on advances tallies⟩

theorem calm_of_meets {exchanges : List (Exchange T)} {pasts : List (Past T)}
    (each : List.Forall₂ (Exchange.Meets filters) exchanges pasts)
    (calm : ∀ exchange ∈ exchanges, exchange.said.isCrash = false) : ∀ met ∈ pasts.flatten, met.2.isCrash = false := by
  induction each with
  | nil => exact List.forall_mem_nil _
  | cons meets others step =>
      obtain ⟨first, rest⟩ := List.forall_mem_cons.mp calm
      have none_crashed := meets.crashes
      rw [first] at none_crashed
      intro met member
      rw [List.flatten_cons] at member
      rcases List.mem_append.mp member with here | later
      · exact Bool.eq_false_iff.mpr (List.countP_eq_zero.mp none_crashed met here)
      · exact step rest met later

-- A scan at its end, against the rows that each of its pulls went through: together they are those of its source, each
-- has met its fate, and what was handed out is what the rows have given, row after row. If no pull crashed then no row did.
structure Accounted (filters : List Filter) (source : Source) (exchanges : List (Exchange T)) (pasts : List (Past T)) :
    Prop where
  each : List.Forall₂ (Exchange.Meets filters) exchanges pasts
  rows : pasts.flatten.map Prod.fst = source.rows
  values : exchanges.flatMap (fun exchange => exchange.said.values)
    = pasts.flatten.filterMap (fun met => met.2.value?)
  calm : (∀ exchange ∈ exchanges, exchange.said.isCrash = false) → ∀ met ∈ pasts.flatten, met.2.isCrash = false

theorem accounted_pulls {filters : List Filter} {source : Source} {pulls : List (Pull T)}
    (through : ∃ exchange ∈ exchanges filters ⟨source, none⟩ pulls, exchange.said.ends = true) :
    ∃ pasts, Accounted filters source (exchanges filters ⟨source, none⟩ pulls) pasts := by
  obtain ⟨pasts, left, ahead, tallies⟩ := tallies_pulls filters ⟨source, none⟩ pulls
  obtain ⟨rfl, rfl⟩ := tallies.ends through
  refine ⟨pasts, tallies.each, ?_, ?_, calm_of_meets tallies.each⟩
  · exact (tallies.rows.trans (List.append_nil _)).symm
  · exact (tallies.values.trans (List.append_nil _)).symm

end InlineScan

end ThinScan
