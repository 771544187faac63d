import ThinScan.Proofs.Resting
import ThinScan.Proofs.Trails

set_option autoImplicit false

namespace ThinScan

variable {T : Type}

namespace World

variable {world later : World T} {action : Act T} {index : Nat} {scan fresh : Scan T} {taken : List (Pulled T)}

-- Where a pull stands that has found nothing in the queue, with the rows that it has taken so far.
inductive Finds (lookup : BatchLookup) (index : Nat) (scan : Scan T) (taken : List (Pulled T)) : Prop
  | seeking (under_way : scan.phase.pulling = true) (worthless : ∀ pulled ∈ taken, pulled.gives = false)
      (asked : ∀ row adapter request, scan.phase = .deferring row adapter request →
        ∃ earlier, taken = earlier ++ [⟨index, row, .deferred adapter request⟩])
  | row {earlier : List (Pulled T)} {pulled : Pulled T} {value : T} (idle : scan.phase = .idle)
      (ready : scan.lookahead = some value) (last : taken = earlier ++ [pulled])
      (worthless : ∀ pulled ∈ earlier, pulled.gives = false) (answered : pulled.Answered lookup)
      (worth : pulled.value? lookup.answer? = some value)
  | queue {value : T} (idle : scan.phase = .idle) (ready : scan.lookahead = some value) (spent : scan.source = [])
      (worthless : ∀ pulled ∈ taken, pulled.gives = false)
  | nothing (idle : scan.phase = .idle) (unready : scan.lookahead = none)

theorem finds_alike {lookup : BatchLookup} (finds : Finds lookup index scan taken) (phase : fresh.phase = scan.phase)
    (lookahead : fresh.lookahead = scan.lookahead) (source : fresh.source = scan.source) :
    Finds lookup index fresh taken := by
  cases finds with
  | seeking under_way worthless asked =>
      exact .seeking (phase ▸ under_way) worthless
        (fun row adapter request deferring => asked row adapter request (phase.symm.trans deferring))
  | row idle ready last worthless answered worth =>
      exact .row (phase.trans idle) (lookahead.trans ready) last worthless answered worth
  | queue idle ready spent worthless =>
      exact .queue (phase.trans idle) (lookahead.trans ready) (source.trans spent) worthless
  | nothing idle unready => exact .nothing (phase.trans idle) (lookahead.trans unready)

theorem finds_known (sound : world.Sound) (move : Move action world later) (finds : Finds world.lookup index scan taken) :
    Finds later.lookup index scan taken := by
  cases finds with
  | seeking under_way worthless asked => exact .seeking under_way worthless asked
  | row idle ready last worthless answered worth =>
      exact .row idle ready last worthless (answered_kept sound move answered)
        ((Pulled.value_kept (reply_move sound move) answered).trans worth)
  | queue idle ready spent worthless => exact .queue idle ready spent worthless
  | nothing idle unready => exact .nothing idle unready

theorem finds_turn {label : Nat → Act T} {lookup after : BatchLookup} (sound : scan.Sound)
    (turn : scan.Turn label lookup after fresh) (under_way : scan.phase.pulling = true)
    (worthless : ∀ pulled ∈ taken, pulled.gives = false) : Finds after index fresh taken := by
  have idling (idle : scan.phase = .idle) : Finds after index fresh taken := by
    rw [idle] at under_way
    cases under_way
  have seeks {phase : Phase T} (here : fresh.phase = phase) (pulling : phase.pulling = true)
      (unasked : ∀ row adapter request, phase ≠ .deferring row adapter request) : Finds after index fresh taken :=
    .seeking (here ▸ pulling) worthless
      (fun row adapter request deferring => absurd (here.symm.trans deferring) (unasked row adapter request))
  have flushes {stage : Flush → Phase T} {left next : Flush} (flush : stage = .flushing ∨ stage = .closing)
      (before : scan.phase = stage left) (now : fresh.phase = stage next) : Finds after index fresh taken := by
    rcases flush with rfl | rfl
    · exact seeks now rfl (by simp)
    · rw [before] at under_way
      cases under_way
  cases turn with
  | enter free idle => exact idling idle
  | resume free idle => exact idling idle
  | take free idle => exact idling idle
  | leave free idle => exact idling idle
  | abandon free idle => exact idling idle
  | abandonLast free idle => exact idling idle
  | reach scanning rowless said => exact seeks rfl rfl (by simp)
  | exhaust scanning rowless unsaid => exact seeks rfl (by split <;> rfl) (by split <;> simp)
  | list flush unlisted => exact flushes flush unlisted rfl
  | flush flush listed member => exact flushes flush listed rfl
  | await through => exact seeks rfl rfl (by simp)
  | close through =>
      rw [through] at under_way
      cases under_way
  | receive receiving queued =>
      have said : scan.exhausted = true := sound.past (by rw [receiving]; rfl)
      exact .queue rfl rfl (sound.spent said (sound.pulled under_way).2.1 (by rw [receiving]; rfl)) worthless

theorem finds_seeking (sound : world.Sound) (held : world.scans[index]? = some scan) (move : Move action world later)
    (now : later.scans[index]? = some fresh) (under_way : scan.phase.pulling = true)
    (worthless : ∀ pulled ∈ taken, pulled.gives = false)
    (asked : ∀ row adapter request, scan.phase = .deferring row adapter request →
      ∃ earlier, taken = earlier ++ [⟨index, row, .deferred adapter request⟩]) :
    Finds later.lookup index fresh (taken ++ pulledBy index (world.pulls action)) := by
  have finds : Finds world.lookup index scan taken := .seeking under_way worthless asked
  have unready : scan.lookahead = none := ((held_sound sound held).pulled under_way).2.2.1
  have untouched (same : fresh = scan) (pulls : pulledBy index (world.pulls action) = []) :
      Finds later.lookup index fresh (taken ++ pulledBy index (world.pulls action)) := by
    rw [pulls, List.append_nil, same]
    exact finds_known sound move finds
  have still (stands : world.scans[index]? = some fresh) : fresh = scan := Option.some.inj (stands.symm.trans held)
  -- What one scan does is nothing to another.
  have replaced {place : Nat} {old new : Scan T} (at_place : world.scans[place]? = some old)
      (scans : later.scans = world.scans.set place new) (own : ∀ row ∈ world.pulls action, row.scan = place)
      (here : place = index → old = scan →
        Finds later.lookup index new (taken ++ world.pulls action)) :
      Finds later.lookup index fresh (taken ++ pulledBy index (world.pulls action)) := by
    rw [scans] at now
    rcases set_cases at_place now with ⟨mine, rfl⟩ | ⟨elsewhere, before⟩
    · have same : old = scan := Option.some.inj ((mine ▸ at_place).symm.trans held)
      rw [pulledBy_own own, if_pos mine]
      exact here mine same
    · exact untouched (still before) (by rw [pulledBy_own own, if_neg elsewhere])
  have rowless {pulls : List (Pulled T)} (nothing : pulls = []) {place : Nat} : ∀ row ∈ pulls, row.scan = place := by
    rw [nothing]
    exact List.forall_mem_nil _
  have done_with {new : Scan T} {rows : List (Pulled T)} {phase : Phase T} (phases : phase = .scanning ∨ phase = .idle)
      (stands : new.phase = phase) (unready : new.lookahead = none) (worthless : ∀ pulled ∈ rows, pulled.gives = false) :
      Finds later.lookup index new rows := by
    rcases phases with rfl | rfl
    · exact .seeking (by rw [stands]; rfl) worthless (by rw [stands]; simp)
    · exact .nothing stands unready
  cases move with
  | start store filters source capacity =>
      obtain ⟨bound, _⟩ := List.getElem?_eq_some_iff.mp held
      exact untouched (still ((List.getElem?_append_left bound).symm.trans now)) rfl
  | @turn _ label place old new lookup at_place turn =>
      have pulls := pulls_turn at_place turn
      refine replaced at_place rfl (rowless pulls) (fun _ same => ?_)
      subst same
      rw [pulls, List.append_nil]
      exact finds_turn (held_sound sound at_place) turn under_way worthless
  | @skip _ place old row rest phase events at_place scanning next phases undeferred valueless =>
      have pulls := pulls_row at_place scanning next
      refine replaced at_place rfl (pulls ▸ List.forall_mem_singleton.mpr rfl) (fun _ same => ?_)
      subst same
      rw [pulls]
      exact done_with phases rfl unready (List.forall_mem_append.mpr ⟨worthless,
        List.forall_mem_singleton.mpr (Pulled.gives_of_worthless valueless)⟩)
  | @own _ place old row rest adapter value at_place scanning next verdict decoded =>
      have pulls := pulls_row at_place scanning next
      refine replaced at_place rfl (pulls ▸ List.forall_mem_singleton.mpr rfl) (fun _ _ => ?_)
      rw [pulls]
      refine .row rfl rfl rfl worthless (Pulled.answered_of_own verdict _) ?_
      exact (congrArg (fun verdict => (Pulled.mk place row verdict).value? world.lookup.answer?) verdict).trans decoded
  | @defer _ place old row rest adapter at_place scanning next verdict =>
      have pulls := pulls_row at_place scanning next
      refine replaced at_place rfl (pulls ▸ List.forall_mem_singleton.mpr rfl) (fun mine _ => ?_)
      subst mine
      rw [pulls]
      refine .seeking rfl (List.forall_mem_append.mpr ⟨worthless,
        List.forall_mem_singleton.mpr (Pulled.gives_of_deferred verdict)⟩) ?_
      rintro _ _ _ ⟨⟩
      exact ⟨taken, by rw [pulling, verdict]⟩
  | @caught _ place old row adapter request found lookup value at_place deferring known decoded =>
      have pulls : world.pulls (.advance place) = [] := pulls_busy at_place (by rw [deferring]; simp)
      obtain ⟨answer, told⟩ := BatchLookup.look_answer known
      refine replaced at_place rfl (rowless pulls) (fun _ same => ?_)
      subst same
      obtain ⟨earlier, last⟩ := asked row adapter request deferring
      rw [pulls, List.append_nil]
      refine .row rfl rfl last (fun pulled member => worthless pulled ?_) ?_ ?_
      · rw [last]
        exact List.mem_append_left _ member
      · rintro _ _ ⟨⟩
        exact told
      · exact (congrArg (fun found => Option.bind found (adapter.decoded? row)) answer).trans decoded
  | @missed _ place old row adapter request found lookup phase events at_place deferring known phases valueless =>
      have pulls : world.pulls (.advance place) = [] := pulls_busy at_place (by rw [deferring]; simp)
      refine replaced at_place rfl (rowless pulls) (fun _ same => ?_)
      subst same
      rw [pulls, List.append_nil]
      exact done_with phases rfl unready worthless
  | @spawn _ place old row adapter request at_place deferring =>
      have pulls : world.pulls (.advance place) = [] := pulls_busy at_place (by rw [deferring]; simp)
      refine replaced at_place rfl (rowless pulls) (fun _ same => ?_)
      subst same
      rw [pulls, List.append_nil]
      exact done_with (.inl rfl) rfl unready worthless
  | @finished _ place old events at_place receiving empty closed =>
      have pulls : world.pulls (.advance place) = [] := pulls_busy at_place (by rw [receiving]; simp)
      refine replaced at_place rfl (rowless pulls) (fun _ same => ?_)
      subst same
      rw [pulls, List.append_nil]
      exact done_with (.inr rfl) rfl unready worthless
  | send at_task owner sending free room =>
      refine replaced owner rfl (List.forall_mem_nil _) (fun _ same => ?_)
      subst same
      exact (List.append_nil taken).symm ▸ finds_alike finds rfl rfl rfl
  | finish at_task owner ending =>
      refine replaced owner rfl (List.forall_mem_nil _) (fun _ same => ?_)
      subst same
      exact (List.append_nil taken).symm ▸ finds_alike finds rfl rfl rfl
  | _ => exact untouched (still now) rfl

theorem finds_move (sound : world.Sound) (held : world.scans[index]? = some scan) (move : Move action world later)
    (uncalled : action.isCall index = false) (finds : Finds world.lookup index scan taken) :
    ∃ fresh, later.scans[index]? = some fresh
      ∧ Finds later.lookup index fresh (taken ++ pulledBy index (world.pulls action)) := by
  have resting (idle : scan.phase = .idle) : ∃ fresh, later.scans[index]? = some fresh
      ∧ Finds later.lookup index fresh (taken ++ pulledBy index (world.pulls action)) := by
    obtain ⟨_, now, more, outstanding, rfl⟩ := rests_move move uncalled held idle
    refine ⟨_, now, ?_⟩
    rw [pulls_resting held idle, List.append_nil]
    exact finds_known sound move (finds_alike finds rfl rfl rfl)
  cases finds with
  | seeking under_way worthless asked =>
      obtain ⟨fresh, now⟩ := stays_move move held
      exact ⟨fresh, now, finds_seeking sound held move now under_way worthless asked⟩
  | row idle => exact resting idle
  | queue idle => exact resting idle
  | nothing idle => exact resting idle

theorem finds_run {acts : List (Act T)} (sound : world.Sound) (ran : world.run acts = some later)
    (uncalled : ∀ action ∈ acts, action.isCall index = false) (held : world.scans[index]? = some scan)
    (finds : Finds world.lookup index scan taken) :
    ∃ last, later.scans[index]? = some last
      ∧ Finds later.lookup index last (taken ++ pulledBy index (world.history acts)) := by
  induction acts generalizing world scan taken with
  | nil =>
      cases ran
      exact ⟨scan, held, (List.append_nil taken).symm ▸ finds⟩
  | cons action rest step =>
      obtain ⟨between, acted, ran⟩ := Option.bind_eq_some_iff.mp ((run_cons world action rest).symm.trans ran)
      obtain ⟨here, others⟩ := List.forall_mem_cons.mp uncalled
      obtain ⟨fresh, now, found⟩ := finds_move sound held (move_of_act acted) here finds
      obtain ⟨last, at_last, all⟩ := step (sound_act sound acted) ran others now found
      refine ⟨last, at_last, ?_⟩
      rw [history, acted, pulledBy_append, ← List.append_assoc]
      exact all

-- A value that was looked at already, or that stands in the queue, costs no row. Otherwise the last row taken is the
-- one whose value is returned; or no row taken has given its own value, they are all that were left, and the value is
-- one that the queue has received.
structure Pull (lookup : BatchLookup) (scan last : Scan T) (taken : List (Pulled T)) : Prop where
  ready : scan.lookahead.isSome = true ∨ scan.finished = true → taken = [] ∧ last.lookahead = scan.lookahead
  queued : ∀ value rest, scan.lookahead = none → scan.finished = false → scan.queue = value :: rest →
    taken = [] ∧ last.lookahead = some value
  searched : ∀ value, scan.lookahead = none → scan.finished = false → scan.queue = [] → last.lookahead = some value →
    (∃ earlier pulled, taken = earlier ++ [pulled] ∧ (∀ row ∈ earlier, row.gives = false)
      ∧ pulled.value? lookup.answer? = some value)
    ∨ (taken.map Pulled.row = scan.source.rows ∧ ∀ row ∈ taken, row.gives = false)

theorem pull_takes {past : List (Pulled T)} {begun : List Source} {started after : World T} {body : List (Act T)}
    (sound : world.Sound) (traced : Traced world past begun) (held : world.scans[index]? = some scan)
    (called : world.act (.pull index) = some started) (went : started.run body = some after)
    (uncalled : ∀ action ∈ body, action.isCall index = false) {last : Scan T} (now : after.scans[index]? = some last)
    (idle : last.phase = .idle) : Pull after.lookup scan last (pulledBy index (started.history body)) := by
  have sound_started := sound_act sound called
  obtain ⟨_, same, called_on⟩ := Option.bind_eq_some_iff.mp called
  cases held.symm.trans same
  split at called_on
  · cases called_on
  · rename_i unfree
    obtain ⟨free, resting⟩ := Scan.free_of_isFree (Bool.eq_false_iff.mpr unfree)
    have scans : started.scans = world.scans.set index scan.begin := by
      cases called_on
      rfl
    have at_start : started.scans[index]? = some scan.begin := by rw [scans, set_at _ held, if_pos rfl]
    have source : ∃ source, begun[index]? = some source := by
      obtain ⟨bound, _⟩ := List.getElem?_eq_some_iff.mp held
      exact ⟨_, List.getElem?_eq_getElem (traced.length.symm ▸ bound)⟩
    have rests (stays : scan.begin.phase = .idle) :
        pulledBy index (started.history body) = [] ∧ last.lookahead = scan.begin.lookahead := by
      obtain ⟨⟨fresh, at_last, more, outstanding, same⟩, nothing⟩ := rests_run went uncalled at_start stays
      cases now.symm.trans at_last
      exact ⟨nothing, by rw [same]⟩
    rcases Scan.begin_cases scan with ⟨known, begins⟩ | ⟨unready, unfinished, value, rest, queued, begins⟩
      | ⟨unready, unfinished, empty, begins⟩
    · have quiet := rests (by rw [begins]; exact resting)
      rw [begins] at quiet
      refine ⟨fun _ => quiet, fun value rest unready unfinished => ?_, fun value unready unfinished => ?_⟩
      · simp [unready, unfinished] at known
      · simp [unready, unfinished] at known
    · have quiet := rests (by rw [begins]; exact resting)
      rw [begins] at quiet
      refine ⟨fun known => ?_, fun value rest _ _ stands => ?_, fun value _ _ empty => ?_⟩
      · simp [unready, unfinished] at known
      · cases queued.symm.trans stands
        exact quiet
      · cases queued.symm.trans empty
    · have seeking : Finds started.lookup index scan.begin [] := by
        rw [begins]
        exact .seeking rfl (List.forall_mem_nil _) nofun
      obtain ⟨fresh, at_last, finds⟩ := finds_run sound_started went uncalled at_start seeking
      cases now.symm.trans at_last
      refine ⟨fun known => ?_, fun value rest _ _ queued => ?_, fun value _ _ _ ready => ?_⟩
      · simp [unready, unfinished] at known
      · cases empty.symm.trans queued
      · rw [List.nil_append] at finds
        cases finds with
        | seeking under_way =>
            rw [idle] at under_way
            cases under_way
        | row stops found last_row worthless answered worth =>
            cases ready.symm.trans found
            exact .inl ⟨_, _, last_row, worthless, worth⟩
        | queue stops found spent worthless =>
            refine .inr ⟨?_, worthless⟩
            obtain ⟨source, first⟩ := source
            have kept : Traced started past begun := by
              have moved := traced_move traced (move_of_act called)
              simpa only [pulls, source?, Option.toList_none, List.append_nil] using moved
            have traced_after : Traced after (past ++ started.history body) (begun ++ sources body) :=
              recorded_run (motive := Traced) (fun _ _ _ _ _ _ traced move => traced_move traced move) sound_started kept went
            have before := traced.rows index scan source held first
            have through := traced_after.rows index last source now
              ((List.getElem?_append_left (List.getElem?_eq_some_iff.mp first).1).trans first)
            rw [spent, pulledBy_append, List.map_append, ← before, List.append_assoc] at through
            exact (List.append_nil _).symm.trans (List.append_cancel_left through)
        | nothing stops unfound => cases ready.symm.trans unfound

end World

end ThinScan
