import ThinScan.Proofs.InlineFetches
import ThinScan.Proofs.Ledger
import ThinScan.Proofs.Settling

set_option autoImplicit false

namespace ThinScan

variable {T : Type}

namespace Clients

def Asked.target (asked : Asked) : Target := (asked.adapter, asked.key)

variable {clients later : Clients} {lookup between after : BatchLookup} {earlier asked : List Asked}

theorem history_append {acts : List Act} (ran : clients.run acts = some later) (more : List Act) :
    clients.history (acts ++ more) = clients.history acts ++ later.history more := by
  induction acts generalizing clients with
  | nil => cases ran; rfl
  | cons action rest step =>
      obtain ⟨next, taken, ran⟩ := Option.bind_eq_some_iff.mp ((run_cons clients action rest).symm.trans ran)
      simp only [List.cons_append, history, taken, step ran, List.append_assoc]

-- Clients can bring one lookup to another by steps that make these requests, and no others.
def Plays (lookup after : BatchLookup) (asked : List Asked) : Prop :=
  ∀ clients : Clients, clients.lookup = lookup →
    ∃ acts later, clients.run acts = some later ∧ later.lookup = after ∧ clients.history acts = asked

theorem plays_nothing (lookup : BatchLookup) : Plays lookup lookup [] :=
  fun clients same => ⟨[], clients, rfl, same, rfl⟩

theorem plays_one (action : Act) (taken : ∀ clients : Clients, clients.lookup = lookup →
    ∃ later, clients.act action = some later ∧ later.lookup = after ∧ clients.asked action = asked) :
    Plays lookup after asked := by
  intro clients same
  obtain ⟨later, taken, lookup, asked⟩ := taken clients same
  refine ⟨[action], later, ?_, lookup, ?_⟩
  · rw [run_cons, taken]
    rfl
  · simp only [history, taken, asked, List.append_nil]

theorem plays_append (first : Plays lookup between earlier) (second : Plays between after asked) :
    Plays lookup after (earlier ++ asked) := by
  intro clients same
  obtain ⟨acts, middle, ran, between, made⟩ := first clients same
  obtain ⟨more, last, ran_more, after, made_more⟩ := second middle between
  refine ⟨acts ++ more, last, ?_, after, ?_⟩
  · rw [run, List.foldlM_append]
    exact Option.bind_eq_some_iff.mpr ⟨middle, ran, ran_more⟩
  · rw [history_append ran, made, made_more]

theorem plays_retire (lookup : BatchLookup) : Plays lookup lookup.retire.2 [] := by
  refine plays_one .exhaust (fun clients same => ⟨_, rfl, ?_, rfl⟩)
  rw [exhaust, same]
  split <;> rfl

theorem plays_look {request : RequestId} {found : Option Values} (settled : lookup.look request = some (found, after)) :
    Plays lookup after [] := by
  refine plays_one (.look request) (fun clients same => ⟨clients.withLookup after, ?_, rfl, rfl⟩)
  rw [act, same, settled]
  rfl

end Clients

namespace Pulled

def asked? (pulled : Pulled T) : Option Clients.Asked :=
  match pulled.verdict with
  | .deferred _ request => some ⟨pulled.row.adapter, pulled.row.dataId, request⟩
  | _ => none

theorem unasked_of_verdict {pulled : Pulled T}
    (undeferred : ∀ adapter request, pulled.verdict ≠ .deferred adapter request) : pulled.asked? = none := by
  unfold asked?
  split
  · rename_i adapter request deferred
    exact absurd deferred (undeferred adapter request)
  · rfl

end Pulled

namespace World

variable {world later start : World T} {action : Act T} {acts : List (Act T)}

def decoderOf (world : World T) (index : Nat) : Decoder T :=
  ((world.scans[index]?).map world.decoder).getD ⟨Table.empty, []⟩

def sees (index : Nat) (world : World T) (action : Act T) : List (Sighting T) :=
  Sighting.all (world.decoderOf index) ((pulledBy index (world.pulls action)).map Pulled.row)

def sightings (index : Nat) (world : World T) (acts : List (Act T)) : List (Sighting T) :=
  observed (fun world action _ => world.sees index action) world acts

def requests (index : Nat) (world : World T) (acts : List (Act T)) : List Clients.Asked :=
  (pulledBy index (world.history acts)).filterMap Pulled.asked?

theorem asked_pulling (world : World T) (index : Nat) (scan : Scan T) (row : Row) :
    (world.pulling index scan row).asked?
      = if (world.decoder scan).wants row
        then some ⟨row.adapter, row.dataId, (world.lookup.request row.adapter row.dataId).1⟩ else none := by
  unfold pulling Pulled.asked? verdict
  cases admitted : (world.decoder scan).admission row with
  | refused => simp [Decoder.unwanted_of_refused admitted]
  | unknown => simp [Decoder.unwanted_of_unknown admitted]
  | granted adapter =>
      rw [Decoder.wants_of_granted admitted]
      by_cases thin : row.needsLookup = true
      · simp only [if_pos thin]
      · simp only [if_neg thin]

theorem asked_pulls (index : Nat) (world : World T) (action : Act T) :
    ((pulledBy index (world.pulls action)).filterMap Pulled.asked?).map Clients.Asked.target
      = ((world.sees index action).filter Sighting.wanted).map Sighting.target := by
  rw [sees, Sighting.wanted_all]
  rcases pulls_cases world action with nothing | ⟨place, scan, row, held, _, one⟩
  · rw [nothing]
    rfl
  · rw [one, pulledBy_one]
    by_cases mine : place = index
    · have met : world.decoderOf index = world.decoder scan := by rw [decoderOf, ← mine, held]; rfl
      have here : (world.pulling place scan row).scan = index := mine
      rw [if_pos here, met, List.filterMap_cons, asked_pulling]
      by_cases wanted : (world.decoder scan).wants row = true
      · simp [wanted, pulling, Clients.Asked.target]
      · simp [wanted, pulling]
    · have elsewhere : (world.pulling place scan row).scan ≠ index := mine
      rw [if_neg elsewhere]
      rfl

theorem requests_sightings (index : Nat) (world : World T) (acts : List (Act T)) :
    (world.requests index acts).map Clients.Asked.target
      = ((world.sightings index acts).filter Sighting.wanted).map Sighting.target := by
  induction acts generalizing world with
  | nil => rfl
  | cons action rest step =>
      unfold requests sightings at step
      rw [requests, sightings, history, observed]
      cases taken : world.act action with
      | none => rfl
      | some later =>
          simp only [pulledBy, List.filter_append, List.filterMap_append, List.map_append] at step ⊢
          rw [step later]
          exact congrArg (· ++ _) (asked_pulls index world action)

theorem rows_sightings (index : Nat) (world : World T) (acts : List (Act T)) :
    (world.sightings index acts).map Sighting.row = (pulledBy index (world.history acts)).map Pulled.row := by
  induction acts generalizing world with
  | nil => rfl
  | cons action rest step =>
      unfold sightings at step
      rw [sightings, history, observed]
      cases taken : world.act action with
      | none => rfl
      | some later =>
          simp only [pulledBy, List.filter_append, List.map_append] at step ⊢
          rw [step later]
          exact congrArg (· ++ _) (Sighting.rows_all (world.decoderOf index) _)

theorem filters_sightings {stores : List (Adapters T)} {size : Nat} {params : Option Params}
    (ran : (fresh stores size params).run acts = some world) (index : Nat) :
    ∀ sighting ∈ (fresh stores size params).sightings index acts,
      (filterings acts)[index]? = some sighting.decoder.filters := by
  refine run_grows (motive := fun acts _ => ∀ sighting ∈ (fresh stores size params).sightings index acts,
    (filterings acts)[index]? = some sighting.decoder.filters) (List.forall_mem_nil _) ?_ ran
  intro acts action world later ran before taken sighting member
  have stays {known : List Filter} (found : (filterings acts)[index]? = some known) :
      (filterings (acts ++ [action]))[index]? = some known := by
    rw [filterings_concat, List.getElem?_append_left (List.getElem?_eq_some_iff.mp found).1]
    exact found
  rw [sightings, observed_concat _ ran taken] at member
  rcases List.mem_append.mp member with earlier | fresh
  · exact stays (before sighting earlier)
  · obtain ⟨row, there, rfl⟩ := List.mem_map.mp fresh
    rcases pulls_cases world action with nothing | ⟨place, scan, pulled, held, _, one⟩
    · rw [nothing] at there
      cases there
    · rw [one, pulledBy_one] at there
      split at there
      · rename_i mine
        have here : world.scans[index]? = some scan := mine ▸ held
        refine stays ?_
        rw [← (settlement_run ran).filters, List.getElem?_map, decoderOf, here]
        rfl
      · cases there

end World

namespace Scan

theorem plays_turn {label : Nat → Act T} {lookup after : BatchLookup} {scan fresh : Scan T}
    (turn : scan.Turn label lookup after fresh) : Clients.Plays lookup after [] := by
  cases turn with
  | enter free idle uncounted =>
      exact Clients.plays_one .initiate (fun clients same => ⟨_, rfl, congrArg BatchLookup.initiate same, rfl⟩)
  | exhaust scanning rowless unsaid => exact Clients.plays_retire lookup
  | @flush _ _ stage adapter left flush listed member =>
      exact Clients.plays_one (.flushAdapter adapter)
        (fun clients same => ⟨_, rfl, congrArg (BatchLookup.flushAdapter · adapter) same, rfl⟩)
  | abandon free idle counted unsaid others => exact Clients.plays_retire lookup
  | abandonLast free idle counted unsaid last => exact Clients.plays_retire lookup
  | _ => exact Clients.plays_nothing lookup

end Scan

namespace World

variable {world later start : World T} {action : Act T} {acts : List (Act T)}

-- What a step of scans does to their lookup can be done by clients, who make a request just if a row is deferred.
theorem plays_move (move : Move action world later) :
    Clients.Plays world.lookup later.lookup ((world.pulls action).filterMap Pulled.asked?) := by
  have unasked {place : Nat} {scan : Scan T} {row : Row} {rest : Source} (held : world.scans[place]? = some scan)
      (scanning : scan.phase = .scanning) (next : scan.source = some row :: rest)
      (undeferred : ∀ adapter request, world.verdict scan row ≠ .deferred adapter request) :
      (world.pulls (.advance place)).filterMap Pulled.asked? = [] := by
    rw [pulls_row held scanning next, List.filterMap_cons_none (Pulled.unasked_of_verdict undeferred)]
    rfl
  have busy {place : Nat} {scan : Scan T} {phase : Phase T} (held : world.scans[place]? = some scan)
      (here : scan.phase = phase) (elsewhere : phase ≠ .scanning) :
      (world.pulls (.advance place)).filterMap Pulled.asked? = [] := by
    rw [pulls_busy held (fun scanning => elsewhere (here.symm.trans scanning))]
    rfl
  cases move with
  | turn held turn =>
      rw [pulls_turn held turn]
      exact Scan.plays_turn turn
  | skip events held scanning next phases undeferred worthless =>
      rw [unasked held scanning next undeferred]
      exact Clients.plays_nothing world.lookup
  | own held scanning next verdict decoded =>
      rw [unasked held scanning next (by simp [verdict])]
      exact Clients.plays_nothing world.lookup
  | @defer _ place scan row rest adapter held scanning next verdict =>
      have asked : (world.pulling place scan row).asked?
          = some ⟨row.adapter, row.dataId, (world.lookup.request row.adapter row.dataId).1⟩ := by
        unfold Pulled.asked? pulling
        rw [verdict]
      rw [pulls_row held scanning next, List.filterMap_cons_some asked]
      refine Clients.plays_one (.request row.adapter row.dataId) (fun clients same => ⟨_, rfl, ?_, ?_⟩)
      · rw [Clients.withLookup, same]
        rfl
      · rw [Clients.asked, same]
        rfl
  | caught held deferring settled decoded =>
      rw [busy held deferring (by simp)]
      exact Clients.plays_look settled
  | missed events held deferring settled phases worthless =>
      rw [busy held deferring (by simp)]
      exact Clients.plays_look settled
  | spawn held deferring =>
      rw [busy held deferring (by simp)]
      exact Clients.plays_nothing world.lookup
  | finished events held receiving empty closed =>
      rw [busy held receiving (by simp)]
      exact Clients.plays_nothing world.lookup
  | flush adapter =>
      exact Clients.plays_one (.flushAdapter adapter)
        (fun clients same => ⟨_, rfl, congrArg (BatchLookup.flushAdapter · adapter) same, rfl⟩)
  | @complete _ index fetched lookup taken =>
      refine Clients.plays_one (.complete index fetched) (fun clients same => ⟨clients.withLookup lookup, ?_, rfl, rfl⟩)
      rw [Clients.act, same, taken]
      rfl
  | @reply _ index lookup taken =>
      refine Clients.plays_one (.reply index) (fun clients same => ⟨clients.withLookup lookup, ?_, rfl, rfl⟩)
      rw [Clients.act, same, taken]
      rfl
  | wake events held waiting settled => exact Clients.plays_look settled
  | _ => exact Clients.plays_nothing world.lookup

theorem plays_run (ran : start.run acts = some world) :
    Clients.Plays start.lookup world.lookup ((start.history acts).filterMap Pulled.asked?) := by
  induction acts generalizing start with
  | nil =>
      cases ran
      exact Clients.plays_nothing _
  | cons action rest step =>
      obtain ⟨between, taken, ran⟩ := Option.bind_eq_some_iff.mp ((run_cons start action rest).symm.trans ran)
      have both := Clients.plays_append (plays_move (move_of_act taken)) (step ran)
      simpa only [history, taken, List.filterMap_append] using both

end World

end ThinScan
