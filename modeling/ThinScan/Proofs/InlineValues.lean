import ThinScan.MemoryIndex
import ThinScan.Proofs.Moves

set_option autoImplicit false

namespace ThinScan

variable {T : Type}

namespace MemoryIndex

-- A thin row is decoded from the stored record, to which the params are applied once; a record of which nothing is left
-- is still a record. A row with values of its own is decoded from these as they are.
def worth (index : MemoryIndex) (params : Params) (decoder : Decoder T) (row : Row) : Option T :=
  if Filter.acceptAll decoder.filters row then
    (decoder.adapters.find? row.adapter).bind (fun adapter =>
      if row.needsLookup then
        (index.get? row.adapter row.dataId).bind (fun stored =>
          adapter.decoded? row (params.apply row.adapter stored))
      else adapter.decoded? row row.values)
  else none

def fetchKey (index : MemoryIndex) : FetchKey := fun adapter params dataId => .ok (index.fetch adapter params dataId)

end MemoryIndex

namespace Decoder

def Calm (decoder : Decoder T) : Prop :=
  ∀ id adapter, decoder.adapters.find? id = some adapter → ∀ row values, adapter.decode row values ≠ .crashed

end Decoder

namespace Outcome

theorem calm_ofValues {adapter : Adapter T} (calm : ∀ row values, adapter.decode row values ≠ .crashed) (row : Row)
    (values : Values) : ofValues adapter row values ≠ .crashed := by
  rw [ofValues]
  cases decoded : adapter.decode row values with
  | value value => simp
  | failed cause => simp
  | crashed => exact absurd decoded (calm row values)

theorem calm_ofLookup {adapter : Adapter T} (calm : ∀ row values, adapter.decode row values ≠ .crashed) (row : Row)
    (found : Option Values) : ofLookup adapter row found ≠ .crashed := by
  cases found with
  | none => simp [ofLookup]
  | some values => exact calm_ofValues calm row values

end Outcome

namespace PointLookup

theorem get_fetchKey (index : MemoryIndex) (service : PointLookup) (adapter : AdapterId) (dataId : Bytes) :
    ∃ used, service.get index.fetchKey adapter dataId = (index.fetch adapter service.bound dataId, used)
      ∧ used.bound = service.bound :=
  ⟨_, rfl, rfl⟩

end PointLookup

namespace Decoder

variable {decoder : Decoder T}

theorem decodeInline_worth (index : MemoryIndex) (calm : decoder.Calm) (row : Row) (service : PointLookup) :
    ∃ outcome used, decoder.decodeInline index.fetchKey row (some service) = (outcome, some used)
      ∧ used.bound = service.bound ∧ outcome.value? = index.worth service.bound decoder row ∧ outcome ≠ .crashed := by
  rw [decodeInline, admission, MemoryIndex.worth]
  by_cases accepted : Filter.acceptAll decoder.filters row = true
  · rw [if_pos accepted, if_pos accepted]
    cases found : decoder.adapters.find? row.adapter with
    | none => exact ⟨_, service, rfl, rfl, rfl, by simp⟩
    | some adapter =>
        have steady := calm row.adapter adapter found
        by_cases thin : row.needsLookup = true
        · obtain ⟨used, got, bound⟩ := PointLookup.get_fetchKey index service row.adapter row.dataId
          simp only [if_pos thin, Option.bind_some, got]
          refine ⟨_, used, rfl, bound, ?_, Outcome.calm_ofLookup steady row _⟩
          rw [Outcome.value_ofLookup, MemoryIndex.fetch]
          cases index.get? row.adapter row.dataId <;> rfl
        · simp only [if_neg thin, Option.bind_some]
          exact ⟨_, service, rfl, rfl, Outcome.value_ofValues adapter row row.values,
            Outcome.calm_ofValues steady row row.values⟩
  · rw [if_neg accepted, if_neg accepted]
    exact ⟨_, service, rfl, rfl, rfl, by simp⟩

end Decoder

namespace InlineScan

variable (index : MemoryIndex) {params : Params} {decoder : Decoder T}

-- The values that a scan gives, one pull after the other, until it says that there are no more.
inductive Emits (decoder : Decoder T) (fetch : FetchKey) : InlineScan T → InlineTrace → List T → Prop
  | done {scan after : InlineScan T} {trace used : InlineTrace}
      (pulled : scan.next decoder fetch trace = (some none, after, used)) : Emits decoder fetch scan trace []
  | more {scan after : InlineScan T} {trace used : InlineTrace} {value : T} {values : List T}
      (pulled : scan.next decoder fetch trace = (some (some value), after, used))
      (rest : Emits decoder fetch after used values) : Emits decoder fetch scan trace (value :: values)

def Uses (params : Params) (trace : InlineTrace) : Prop :=
  ∃ service : PointLookup, trace.lookup = some service ∧ service.bound = params

theorem decode_worth (calm : decoder.Calm) (row : Row) {trace : InlineTrace} (uses : Uses params trace) :
    ∃ outcome used, decode decoder index.fetchKey row trace = (outcome, used) ∧ Uses params used
      ∧ outcome.value? = index.worth params decoder row ∧ outcome ≠ .crashed := by
  obtain ⟨service, shared, rfl⟩ := uses
  obtain ⟨outcome, used, decoded, bound, worth, steady⟩ := Decoder.decodeInline_worth index calm row service
  refine ⟨outcome, trace.record row outcome (some used), ?_, ⟨used, rfl, bound⟩, worth, steady⟩
  rw [decode, shared, decoded]

section Values

variable {fetch : FetchKey} {worth : Row → Option T} {serves : InlineTrace → Prop}

def Values (decoder : Decoder T) (fetch : FetchKey) (serves : InlineTrace → Prop) (worth : Row → Option T) (row : Row) : Prop :=
  ∀ trace, serves trace → ∃ outcome used, decode decoder fetch row trace = (outcome, used) ∧ serves used
    ∧ outcome.value? = worth row ∧ outcome ≠ .crashed

theorem search_values (source : Source) (all : ∀ row ∈ source.rows, Values decoder fetch serves worth row)
    {trace : InlineTrace} (serving : serves trace) :
    (∃ used, search decoder fetch source trace = (.exhausted, [], used) ∧ source.rows.filterMap worth = [])
    ∨ ∃ (value : T) (rest : Source) (used : InlineTrace), search decoder fetch source trace = (.found value, rest, used)
      ∧ serves used ∧ source.rows.filterMap worth = value :: rest.rows.filterMap worth ∧ rest.rows ⊆ source.rows := by
  induction source generalizing trace with
  | nil => exact .inl ⟨trace, rfl, rfl⟩
  | cons first rest step =>
      cases first with
      | none => exact .inl ⟨trace, rfl, rfl⟩
      | some row =>
          obtain ⟨here, others⟩ := List.forall_mem_cons.mp (all : ∀ other ∈ row :: Source.rows rest, _)
          obtain ⟨outcome, used, decoded, still, value, steady⟩ := here trace serving
          rw [search, decoded]
          -- A row that is worth nothing is passed by, and the search goes on behind it.
          have passed (nothing : outcome.value? = none) :
              (∃ last, search decoder fetch rest used = (.exhausted, [], last)
                ∧ (row :: Source.rows rest).filterMap worth = [])
              ∨ ∃ (value : T) (left : Source) (last : InlineTrace), search decoder fetch rest used = (.found value, left, last)
                ∧ serves last ∧ (row :: Source.rows rest).filterMap worth = value :: left.rows.filterMap worth
                ∧ left.rows ⊆ row :: Source.rows rest := by
            rw [List.filterMap_cons_none (value.symm.trans nothing)]
            refine (step others still).imp_right ?_
            rintro ⟨found, left, last, searched, serving, due, within⟩
            exact ⟨found, left, last, searched, serving, due, List.subset_cons_of_subset row within⟩
          cases outcome with
          | value found =>
              exact .inr ⟨found, rest, used, rfl, still, List.filterMap_cons_some value.symm, List.subset_cons_self row _⟩
          | crashed => exact absurd rfl steady
          | refused => exact passed rfl
          | lost event => exact passed rfl

theorem emits_values (values : List T) (source : Source) (all : ∀ row ∈ source.rows, Values decoder fetch serves worth row)
    {trace : InlineTrace} (serving : serves trace) (due : source.rows.filterMap worth = values) :
    Emits decoder fetch ⟨source, none⟩ trace values := by
  induction values generalizing source trace with
  | nil =>
      rcases search_values source all serving with ⟨used, searched, _⟩ | ⟨value, rest, used, _, _, found, _⟩
      · have pulled : (InlineScan.mk source none).next decoder fetch trace = (some none, ⟨[], none⟩, used) := by
          rw [next, hasNext]
          simp only [searched]
        exact .done pulled
      · cases due.symm.trans found
  | cons value values step =>
      rcases search_values source all serving with ⟨used, _, nothing⟩ | ⟨first, rest, used, searched, still, found, within⟩
      · cases due.symm.trans nothing
      · cases due.symm.trans found
        have pulled : (InlineScan.mk source none).next decoder fetch trace = (some (some value), ⟨rest, none⟩, used) := by
          rw [next, hasNext]
          simp only [searched]
        exact .more pulled (step rest (fun row member => all row (within member)) still rfl)

end Values

theorem emits_worth (calm : decoder.Calm) (values : List T) (rows : List Row) {trace : InlineTrace}
    (uses : Uses params trace) (due : rows.filterMap (index.worth params decoder) = values) :
    Emits decoder index.fetchKey ⟨rows.map some, none⟩ trace values :=
  emits_values values (rows.map some) (fun row _ _ uses => decode_worth index calm row uses) uses
    ((congrArg _ (Source.rows_of_list rows)).trans due)

end InlineScan

end ThinScan
