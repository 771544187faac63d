import ThinScan.Session.Basic

set_option autoImplicit false

namespace ThinScan.Session

def onInline (session : Session) (decoder : Decoder Feature) (trace : InlineTrace)
    (scans : List (Option (InlineScan Feature))) : Command → Answer × Session :=
  let keep (trace : InlineTrace) (scans : List (Option (InlineScan Feature))) : Session :=
    { session with service := .inline decoder trace scans }
  let onLookup (use : PointLookup → Answer × Session) : Answer × Session :=
    match trace.lookup with
    | some lookup => use lookup
    | none => (.inapplicable, session)
  let onScan (scan : Nat) (closed : Answer) (use : InlineScan Feature → Answer × Session) : Answer × Session :=
    match scans[scan]? with
    | some (some state) => use state
    | _ => (closed, session)
  let ask (scan : Nat) (question : Question) : Answer × Session :=
    onScan scan (.silent .closed) fun state =>
      let (told, ahead, used) := state.ask decoder session.fetchKey trace question
      (.ofTold told, keep used (scans.set scan (some ahead)))
  fun
  | .poll _ => (.gone, session)
  | .forget _ => (.forgotten false, session)
  | .pollDeferred _ => (.gone, session)
  | .lookup adapter dataId => onLookup fun lookup =>
      let (found, used) := lookup.get session.fetchKey adapter dataId
      (.values found, keep { trace with lookup := some used } scans)
  | .inline row =>
      match InlineScan.decode decoder session.fetchKey row trace with
      | (.value feature, used) => (.value (some feature), keep used scans)
      | (.crashed, used) => (.silent .crashed, keep used scans)
      | (_, used) => (.value none, keep used scans)
  -- Params are built, and unknown fields reported, even if there is no lookup to bind them.
  | .setParams selection =>
      let told := { trace with events := selection.events ++ trace.events }
      match trace.lookup with
      | none => (.inapplicable, keep told scans)
      | some lookup =>
          match lookup.setParams selection.params with
          | .ok bound => (.done, keep { told with lookup := some bound } scans)
          | .error cause => (.failed cause, keep told scans)
  | .params => onLookup fun lookup =>
      (.params lookup.bound, keep { trace with lookup := some lookup.bind } scans)
  | .info => onLookup fun _ => (.info none decoder.adapters.keys, session)
  | .release _ => (.released 0, session)
  | .start source => (.started scans.length false, keep trace (scans ++ [some { source := source }]))
  | .hasNext scan => ask scan .hasNext
  | .next scan => ask scan .next
  | .outstanding scan => onScan scan (.silent .closed) fun _ => (.outstanding none, session)
  | .drop scan => onScan scan (.silent .closed) fun _ => (.dropped, keep trace (scans.set scan none))
  | .collect scan => onScan scan (.collected [] (some .closed)) fun state =>
      let (features, ended, ahead, used) := state.collect decoder session.fetchKey trace
      (.collected features (if ended then none else some .crashed), keep used (scans.set scan (some ahead)))
  | _ => (.inapplicable, session)

end ThinScan.Session
