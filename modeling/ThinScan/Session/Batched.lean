import ThinScan.Session.Pull

set_option autoImplicit false

namespace ThinScan.Session

def deferRow (session : Session) (world : World Feature) (row : Row) : Answer × Session :=
  let seen := session.examine row
  match session.service.decoder.admission row with
  | .refused => (.skipped, seen)
  | .unknown => (.skipped, seen.report [.adapterMissing row.dataId row.adapter])
  | .granted adapter =>
      if row.needsLookup then
        let (request, asked) := world.lookup.request row.adapter row.dataId
        (.deferred session.deferrals.length,
          { seen.setLookup world asked with
            deferrals := session.deferrals ++ [some ⟨row, adapter, request⟩] })
      else
        match Outcome.ofValues adapter row row.values with
        | .value feature => (.ready feature, seen)
        | .crashed => (.silent .crashed, seen)
        | outcome => (.skipped, seen.report outcome.events)

def pollDeferral (session : Session) (world : World Feature) (number : Nat) (deferral : Deferral) :
    Answer × Session :=
  match world.lookup.look deferral.request with
  | none => (.unsettled, session)
  | some (found, looked) =>
      let after := { session.setLookup world looked with deferrals := session.deferrals.set number none }
      match Outcome.ofLookup deferral.adapter deferral.row found with
      | .value feature => (.resolved (some feature), after)
      | .crashed => (.silent .crashed, after)
      | outcome => (.resolved none, after.report outcome.events)

def releaseHeld (session : Session) (world : World Feature) (adapter : Option AdapterId) : Nat × World Feature :=
  let gated := World.gated world.lookup
  let chosen : List World.Gated := match adapter with
    | none => gated
    | some wanted => (gated.filter (fun entry => entry.batch.adapter = wanted)).take 1
  (chosen.length, chosen.foldl (World.release (backend session.index session.faults)) world)

def inlineRow (session : Session) (row : Row) : Answer × Session :=
  let (outcome, _) := session.service.decoder.decodeInline session.fetchKey row none
  let seen := (session.examine row).report outcome.events
  match outcome with
  | .value feature => (.value (some feature), seen)
  | .crashed => (.silent .crashed, seen)
  | _ => (.value none, seen)

def onBatched (session : Session) (world : World Feature) : Command → Answer × Session
  | .get adapter dataId =>
      let (request, asked) := world.lookup.request adapter dataId
      let same := session.handles.findIdx? (fun held => held = some request)
      (.handle session.handles.length same,
        { session.setLookup world asked with handles := session.handles ++ [some request] })
  | .poll handle =>
      match session.handles[handle]? with
      | some (some request) =>
          match world.lookup.look request with
          | none => (.unsettled, session)
          | some (found, looked) => (.found found, session.setLookup world looked)
      | _ => (.gone, session)
  | .forget handle =>
      match session.handles[handle]? with
      | some (some _) => (.forgotten true, { session with handles := session.handles.set handle none })
      | _ => (.forgotten false, session)
  | .flush => (.done, session.setLookup world world.lookup.flushAll)
  | .flushAdapter adapter => (.done, session.setLookup world (world.lookup.flushAdapter adapter))
  | .initiated => (.done, session.setLookup world world.lookup.initiate)
  | .exhausted => (.done, session.setLookup world world.lookup.exhaust)
  | .pending adapter => (.pending (world.lookup.waiting adapter).length, session)
  | .defer row => session.deferRow world row
  | .pollDeferred number =>
      match session.deferrals[number]? with
      | some (some deferral) => session.pollDeferral world number deferral
      | _ => (.gone, session)
  | .inline row => session.inlineRow row
  | .setParams selection =>
      let told := session.report selection.events
      match world.lookup.setParams selection.params with
      | .ok bound => (.done, told.setLookup world bound)
      | .error cause => (.failed cause, told)
  | .params => (.params world.lookup.bound, session.setLookup world world.lookup.bind)
  | .info => (.info (some world.lookup.batchSize) session.service.decoder.adapters.keys, session)
  | .release adapter =>
      let (count, released) := session.releaseHeld world adapter
      (.released count, session.setWorld released)
  | .start source =>
      if session.multiThreaded then
        (.started world.scans.length true,
          session.act world (.start 0 session.service.decoder.filters source session.config.queueCapacity))
      else (.failed Config.Fault.singleThreaded.error, session)
  | .hasNext scan => session.ask world scan .hasNext
  | .next scan => session.ask world scan .next
  | .outstanding scan =>
      match world.standing scan, world.scans[scan]? with
      | .absent, _ => (.silent .closed, session)
      | _, some state => (.outstanding (some state.outstanding), session)
      | _, none => (.silent .closed, session)
  | .drop scan =>
      match world.standing scan with
      | .absent => (.silent .closed, session)
      | _ => (.dropped, session.act world (.drop scan))
  | .collect scan => session.collectAll world scan
  | _ => (.inapplicable, session)

end ThinScan.Session
