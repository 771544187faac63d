import ThinScan.Proofs.Flushing
import ThinScan.Proofs.Notices

set_option autoImplicit false

namespace ThinScan

variable {T : Type}

inductive Happening where
  | pulled (scan : Nat)
  | ended (scan : Nat)
  | dropped (scan : Nat)
deriving DecidableEq, Repr

def Happening.scan : Happening → Nat
  | pulled scan => scan
  | ended scan => scan
  | dropped scan => scan

def Phase.isScanning : Phase T → Bool
  | scanning => true
  | _ => false

namespace World

variable {world later : World T} {action : Act T}

def atEnd (world : World T) (index : Nat) : Bool :=
  (world.scans[index]?).any (fun scan => scan.phase.isScanning && scan.source.rows.isEmpty)

def happenings (world : World T) : Act T → List Happening
  | .pull index => [.pulled index]
  | .advance index => if world.atEnd index then [.ended index] else []
  | .drop index => [.dropped index]
  | _ => []

def story (world : World T) (acts : List (Act T)) : List Happening :=
  observed (fun world action _ => world.happenings action) world acts

end World

namespace Scan

variable {label : Nat → Act T} {lookup after : BatchLookup} {scan fresh : Scan T}

theorem ends_turn (turn : scan.Turn label lookup after fresh) (unsaid : scan.exhausted = false)
    (said : fresh.exhausted = true) :
    (label = .advance ∧ scan.phase = .scanning ∧ scan.source.rows = []) ∨ label = .drop := by
  cases turn with
  | enter free idle uncounted =>
      rw [exhausted_begin, unsaid] at said
      cases said
  | resume free idle counted =>
      rw [exhausted_begin, unsaid] at said
      cases said
  | exhaust scanning rowless unsaid => exact .inl ⟨rfl, scanning, rowless⟩
  | abandon => exact .inr rfl
  | abandonLast => exact .inr rfl
  | _ => exact absurd (unsaid.symm.trans said) Bool.false_ne_true

end Scan

def Happening.Shows (scan : Scan T) : Happening → Prop
  | .pulled _ => scan.initiated = true
  | .ended _ => scan.exhausted = true
  | .dropped _ => (scan.initiated = true → scan.exhausted = true) ∧ (scan.initiated = false → scan.dropped = true)

namespace World

variable {world later : World T} {action : Act T} {story : List Happening}

theorem pull_free {index : Nat} {scan : Scan T} (held : world.scans[index]? = some scan)
    (taken : world.act (.pull index) = some later) :
    scan.dropped = false ∧ later.scans = world.scans.set index scan.begin := by
  rw [act, pull, held, Option.bind_eq_bind, Option.bind_some] at taken
  split at taken
  · cases taken
  · rename_i ready
    cases taken
    exact ⟨(Scan.free_of_isFree (Bool.eq_false_iff.mpr ready)).1, rfl⟩

theorem shows_kept {happening : Happening} {index : Nat} {scan fresh : Scan T} (shows : happening.Shows scan)
    (held : world.scans[index]? = some scan) (now : later.scans[index]? = some fresh)
    (taken : world.act action = some later) : happening.Shows fresh := by
  have follows := follows_move (move_of_act taken) held now
  cases happening with
  | pulled => exact follows.initiated shows
  | ended => exact follows.exhausted shows
  | dropped =>
      refine ⟨fun begun => ?_, fun unbegun => follows.dropped (shows.2 ?_)⟩
      · by_cases before : scan.initiated = true
        · exact follows.exhausted (shows.1 before)
        · have uncounted : scan.initiated = false := Bool.eq_false_iff.mpr before
          have pulled := (follows.begun begun).resolve_left before
          subst pulled
          exact absurd ((shows.2 uncounted).symm.trans (pull_free held taken).1) (by decide)
      · exact Bool.eq_false_iff.mpr (fun before => Bool.false_ne_true (unbegun.symm.trans (follows.initiated before)))

theorem shows_dropped {index : Nat} {scan : Scan T} (held : world.scans[index]? = some scan)
    (taken : world.act (.drop index) = some later) :
    ∃ fresh, later.scans = world.scans.set index fresh ∧ (Happening.dropped index).Shows fresh := by
  rw [act, drop, held, Option.bind_eq_bind, Option.bind_some] at taken
  split at taken
  · cases taken
  · split at taken
    · rename_i owing
      rw [Bool.and_eq_true] at owing
      cases taken
      by_cases last : world.lookup.retire.1 = true
      · rw [if_pos last]
        exact ⟨_, rfl, fun _ => rfl, fun uncounted => absurd (uncounted.symm.trans owing.1) Bool.false_ne_true⟩
      · rw [if_neg last]
        exact ⟨_, rfl, fun _ => rfl, fun _ => rfl⟩
    · rename_i settled
      cases taken
      have told : scan.initiated = true → scan.exhausted = true := by simpa using settled
      exact ⟨_, rfl, told, fun _ => rfl⟩

theorem shows_ended {index : Nat} {scan : Scan T} (held : world.scans[index]? = some scan)
    (scanning : scan.phase = .scanning) (rowless : scan.source.rows = [])
    (taken : world.act (.advance index) = some later) :
    ∃ fresh, later.scans = world.scans.set index fresh ∧ (Happening.ended index).Shows fresh := by
  rw [act, advance, held, Option.bind_eq_bind, Option.bind_some, scanning] at taken
  dsimp only at taken
  split at taken
  · rename_i next
    rw [next] at rowless
    cases rowless
  · cases taken
    unfold exhaust
    by_cases said : scan.exhausted = true
    · rw [if_pos said]
      exact ⟨_, rfl, said⟩
    · rw [if_neg said]
      exact ⟨_, rfl, rfl⟩

theorem atEnd_iff {index : Nat} : world.atEnd index = true
    ↔ ∃ scan, world.scans[index]? = some scan ∧ scan.phase = .scanning ∧ scan.source.rows = [] := by
  rw [atEnd, Option.any_eq_true]
  refine exists_congr (fun scan => and_congr_right (fun _ => ?_))
  rw [Bool.and_eq_true, List.isEmpty_iff]
  refine and_congr_left (fun _ => ?_)
  cases scan.phase <;> simp [Phase.isScanning]

theorem shows_happenings {happening : Happening} (member : happening ∈ world.happenings action)
    (taken : world.act action = some later) :
    ∃ scan fresh, world.scans[happening.scan]? = some scan ∧ later.scans = world.scans.set happening.scan fresh
      ∧ happening.Shows fresh := by
  cases action with
  | pull index =>
      rw [List.mem_singleton.mp member]
      cases held : world.scans[index]? with
      | none => rw [act, pull, held] at taken; cases taken
      | some scan => exact ⟨scan, _, held, (pull_free held taken).2, Scan.initiated_begin scan⟩
  | drop index =>
      rw [List.mem_singleton.mp member]
      cases held : world.scans[index]? with
      | none => rw [act, drop, held] at taken; cases taken
      | some scan =>
          obtain ⟨fresh, scans, shows⟩ := shows_dropped held taken
          exact ⟨scan, fresh, held, scans, shows⟩
  | advance index =>
      rw [happenings] at member
      by_cases reached : world.atEnd index = true
      · rw [if_pos reached] at member
        rw [List.mem_singleton.mp member]
        obtain ⟨scan, held, scanning, rowless⟩ := atEnd_iff.mp reached
        obtain ⟨fresh, scans, shows⟩ := shows_ended held scanning rowless taken
        exact ⟨scan, fresh, held, scans, shows⟩
      · rw [if_neg reached] at member
        cases member
  | _ => cases member

structure Told (world : World T) (story : List Happening) : Prop where
  sound : world.Sound
  known : ∀ happening ∈ story, happening.scan < world.scans.length
  shows : ∀ happening ∈ story, ∀ scan, world.scans[happening.scan]? = some scan → happening.Shows scan
  pulled : ∀ index scan, world.scans[index]? = some scan → scan.initiated = true → .pulled index ∈ story
  said : ∀ index scan, world.scans[index]? = some scan → scan.exhausted = true →
    .ended index ∈ story ∨ .dropped index ∈ story

theorem told_pulled (told : world.Told story) (taken : world.act action = some later) {index : Nat} {fresh : Scan T}
    (now : later.scans[index]? = some fresh) (begun : fresh.initiated = true) :
    .pulled index ∈ story ++ world.happenings action := by
  have move := move_of_act taken
  cases held : world.scans[index]? with
  | none => exact absurd ((unbegun_of_absent move now held).symm.trans begun) Bool.false_ne_true
  | some scan =>
      rcases (follows_move move held now).begun begun with before | pulled
      · exact List.mem_append_left _ (told.pulled index scan held before)
      · subst pulled
        exact List.mem_append_right _ List.mem_cons_self

theorem told_said (told : world.Told story) (taken : world.act action = some later) {index : Nat} {fresh : Scan T}
    (now : later.scans[index]? = some fresh) (said : fresh.exhausted = true) :
    .ended index ∈ story ++ world.happenings action ∨ .dropped index ∈ story ++ world.happenings action := by
  have move := move_of_act taken
  cases held : world.scans[index]? with
  | none =>
      have begun := (held_sound (sound_move told.sound move) now).counted said
      exact absurd ((unbegun_of_absent move now held).symm.trans begun) Bool.false_ne_true
  | some scan =>
      by_cases before : scan.exhausted = true
      · exact (told.said index scan held before).imp (List.mem_append_left _) (List.mem_append_left _)
      · rcases place_move move held now with ⟨label, same, turn⟩ | ⟨_, exhausted, _⟩
        · rcases Scan.ends_turn turn (Bool.eq_false_iff.mpr before) said with ⟨rfl, scanning, rowless⟩ | rfl
          · refine .inl (List.mem_append_right _ ?_)
            rw [same, happenings, if_pos (atEnd_iff.mpr ⟨scan, held, scanning, rowless⟩)]
            exact List.mem_cons_self
          · refine .inr (List.mem_append_right _ ?_)
            rw [same]
            exact List.mem_cons_self
        · exact absurd (exhausted.symm.trans said) before

theorem told_act (told : world.Told story) (taken : world.act action = some later) :
    later.Told (story ++ world.happenings action) := by
  have move := move_of_act taken
  refine ⟨sound_move told.sound move, ?_, ?_, fun index fresh now begun => told_pulled told taken now begun,
    fun index fresh now said => told_said told taken now said⟩
  · intro happening member
    refine Nat.lt_of_lt_of_le ?_ (length_move move)
    rcases List.mem_append.mp member with earlier | fresh
    · exact told.known happening earlier
    · obtain ⟨scan, _, held, _⟩ := shows_happenings fresh taken
      exact (List.getElem?_eq_some_iff.mp held).1
  · intro happening member fresh now
    rcases List.mem_append.mp member with earlier | happened
    · have held := List.getElem?_eq_getElem (told.known happening earlier)
      exact shows_kept (told.shows happening earlier _ held) held now taken
    · obtain ⟨scan, next, held, scans, shows⟩ := shows_happenings happened taken
      rw [scans, set_at next held, if_pos rfl] at now
      cases now
      exact shows

-- The scan was pulled, and so far neither its source has ended nor was it dropped.
def running (story : List Happening) (index : Nat) : Bool :=
  .pulled index ∈ story && !(.ended index ∈ story) && !(.dropped index ∈ story)

theorem counts_of_story (told : world.Told story) {index : Nat} {scan : Scan T}
    (held : world.scans[index]? = some scan) : scan.counts = if running story index then 1 else 0 := by
  by_cases begun : scan.initiated = true
  · have pulled := told.pulled index scan held begun
    by_cases said : scan.exhausted = true
    · rw [Scan.counts_zero said]
      rcases told.said index scan held said with ended | dropped
      · simp [running, ended]
      · simp [running, dropped]
    · have unended : .ended index ∉ story := fun ended => said (told.shows _ ended scan held)
      have undropped : .dropped index ∉ story := fun dropped => said ((told.shows _ dropped scan held).1 begun)
      rw [Scan.counts_one begun (Bool.eq_false_iff.mpr said)]
      simp [running, pulled, unended, undropped]
  · have unpulled : .pulled index ∉ story := fun pulled => begun (told.shows _ pulled scan held)
    have uncounted : scan.initiated = false := Bool.eq_false_iff.mpr begun
    rw [Scan.counts, uncounted]
    simp [running, unpulled]

theorem total_of_indicator {α : Type} (weight : α → Nat) (items : List α) (chosen : Nat → Bool)
    (weighs : ∀ index item, items[index]? = some item → weight item = if chosen index then 1 else 0) :
    Work.total weight items = (List.range items.length).countP chosen := by
  induction items generalizing chosen with
  | nil => rfl
  | cons item rest step =>
      have first := weighs 0 item rfl
      have others := step (fun index => chosen (index + 1)) (fun index other held => weighs (index + 1) other held)
      rw [Work.total, first, others, List.length_cons, List.range_succ_eq_map, List.countP_cons, List.countP_map,
        Nat.add_comm]
      rfl

theorem counted_run {stores : List (Adapters T)} {size : Nat} {params : Option Params} {acts : List (Act T)}
    (ran : (fresh stores size params).run acts = some world) :
    world.lookup.active
      = (List.range world.scans.length).countP (running ((fresh stores size params).story acts)) := by
  have start : (fresh stores size params).Told [] :=
    ⟨sound_fresh stores size params, fun _ member => absurd member List.not_mem_nil,
      fun _ member => absurd member List.not_mem_nil, fun _ _ held => (nomatch held), fun _ _ held => (nomatch held)⟩
  have told : world.Told ([] ++ (fresh stores size params).story acts) :=
    observed_run (fun _ _ _ _ told taken => told_act told taken) start ran
  rw [List.nil_append] at told
  rw [told.sound.counted]
  exact total_of_indicator _ _ _ (fun index scan held => counts_of_story told held)

theorem idle_run {stores : List (Adapters T)} {size : Nat} {params : Option Params} {acts : List (Act T)}
    (ran : (fresh stores size params).run acts = some world) (uncounted : world.lookup.active = 0)
    (settled : ∀ scan ∈ world.scans, scan.phase.flushes = false) (adapter : AdapterId) :
    world.lookup.waiting adapter = [] := by
  apply Classical.byContradiction
  intro waits
  have sound : world.Sound := sound_run (sound_fresh stores size params) ran
  rcases sound.owed adapter waits with active | ⟨index, scan, held, owes⟩
  · exact Nat.lt_irrefl 0 (uncounted ▸ active)
  · exact Bool.false_ne_true ((settled scan (List.mem_of_getElem? held)).symm.trans (flushes_of_owes owes))

-- What the counter says of scans at work, and, whoever calls, when it has all adapters flushed and what a flush
-- sends.
theorem counter_and_flush :
    (∀ (stores : List (Adapters T)) (size : Nat) (params : Option Params) (acts : List (Act T)) (world : World T),
      (fresh stores size params).run acts = some world →
        world.lookup.active
          = (List.range world.scans.length).countP (running ((fresh stores size params).story acts))
        ∧ (∀ index, noticesOf index ((fresh stores size params).notices acts) <+: [.initiated, .exhausted])
        ∧ (∀ notice ∈ (fresh stores size params).notices acts, ∃ index, notice.1 = some index)
        ∧ (world.lookup.active = 0 → (∀ scan ∈ world.scans, scan.phase.flushes = false) →
          ∀ adapter, world.lookup.waiting adapter = []))
    ∧ ∀ (size : Nat) (acts : List Clients.Act) (clients : Clients),
      (Clients.mk { batchSize := size } []).run acts = some clients →
        clients.lookup.active = acts.foldl Clients.tally 0
        ∧ (∀ action later, clients.act action = some later →
          (Clients.begins clients.lookup.active action = true → later.flushes = clients.flushes ++ [none])
          ∧ (Clients.begins clients.lookup.active action = false → later.flushes.length = clients.flushes.length))
        ∧ ∀ flush, clients.flushes[flush]? = some none →
          (∃ last, clients.run (.list flush :: clients.lookup.pending.keys.map (.flushNext flush)) = some last
            ∧ last.flushes[flush]? = some (some []) ∧ ∀ adapter, last.lookup.waiting adapter = [])
          ∧ ∀ more later, clients.run more = some later → later.flushes[flush]? = some (some []) →
            ∀ adapter, ∀ entry ∈ clients.lookup.waiting adapter, entry ∉ later.lookup.waiting adapter
              ∧ ∃ batch ∈ later.lookup.batches, batch.adapter = adapter ∧ entry ∈ batch.entries := by
  constructor
  · intro stores size params acts world ran
    obtain ⟨told, owned⟩ := noticed_run ran
    exact ⟨counted_run ran, told, owned, idle_run ran⟩
  · intro size acts clients ran
    have custody : clients.lookup.Custody :=
      Clients.custody_run (BatchLookup.custody_of_empty rfl rfl rfl rfl) ran
    refine ⟨Clients.active_run ran, fun action later taken => Clients.begun_of_act taken, fun flush begun => ⟨?_, ?_⟩⟩
    · exact Clients.run_flush custody begun
    · exact fun more later ran_on through => Clients.sent_of_flush custody begun ran_on through

theorem counter_and_flush_of_two :
    (∃ world, (fresh [Adapters.ofList [counting]] 2 none).run
        [.start 0 [] [some (.thin [] [] [1] 7)] 1, .start 0 [] [some (.full [2] 7 [⟨[], [], []⟩])] 1, .pull 0, .pull 1,
          .advance 1, .advance 0, .advance 0, .drop 1, .advance 0, .advance 0, .flushNext 0 7, .advance 0] = some world
      ∧ world.lookup.active = 0 ∧ world.lookup.waiting 7 = [])
    ∧ ∃ clients, (Clients.mk { batchSize := 2 } []).run
        [.exhaust, .initiate, .initiate, .exhaust, .request 7 [1], .exhaust] = some clients
      ∧ clients.lookup.active = 0 ∧ clients.flushes = [none, none]
      ∧ ∃ last, clients.run [.list 1, .flushNext 1 7] = some last ∧ last.lookup.waiting 7 = [] := by
  obtain ⟨scanned, called⟩ := @counter_and_flush Nat
  obtain ⟨_, _, _, idle⟩ := scanned [Adapters.ofList [counting]] 2 none
    [.start 0 [] [some (.thin [] [] [1] 7)] 1, .start 0 [] [some (.full [2] 7 [⟨[], [], []⟩])] 1, .pull 0, .pull 1,
      .advance 1, .advance 0, .advance 0, .drop 1, .advance 0, .advance 0, .flushNext 0 7, .advance 0] _ rfl
  obtain ⟨counted, _, flushed⟩ := called 2 [.exhaust, .initiate, .initiate, .exhaust, .request 7 [1], .exhaust] _ rfl
  obtain ⟨last, ran, _, nothing⟩ := (flushed 1 rfl).1
  exact ⟨⟨_, rfl, rfl, idle rfl (by decide) 7⟩, _, rfl, counted, rfl, last, ran, nothing 7⟩

end World

end ThinScan
