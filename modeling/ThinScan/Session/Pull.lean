import ThinScan.Session.Basic

set_option autoImplicit false

namespace ThinScan.Session

def silenceOf : World.Standing → Option Silence
  | .absent => some .closed
  | .blocked => some .blocked
  | .done => none

def answerPull (world : World Feature) (scan : Nat) (question : Question) : Answer × World Feature :=
  match world.scans[scan]? with
  | none => (.silent .closed, world)
  | some state =>
      let (told, after) := world.answer scan state question
      (.ofTold told, after)

def ask (session : Session) (world : World Feature) (scan : Nat) (question : Question) : Answer × Session :=
  match world.standing scan with
  | .absent => (.silent .closed, session)
  | _ =>
      let pulled := world.step session.releasing (.pull scan)
      match pulled.standing scan with
      | .done =>
          let (answer, after) := answerPull pulled scan question
          (answer, session.setWorld after)
      | _ =>
          (.silent .blocked,
            { session.setWorld pulled with blocked := session.blocked ++ [(scan, question)] })

def collectAll (session : Session) (world : World Feature) (scan : Nat) : Answer × Session :=
  match world.standing scan with
  | .absent => (.collected [] (some .closed), session)
  | _ =>
      let (features, last, after) := world.collect session.releasing scan
      let waiting := if last = .blocked then [(scan, Question.next)] else []
      (.collected features (silenceOf last),
        { session.setWorld after with blocked := session.blocked ++ waiting })

def unblockOne (answers : List (Nat × Answer)) (session : Session) (scan : Nat) (question : Question) :
    List (Nat × Answer) × Session :=
  match session.service with
  | .inline .. => (answers, session)
  | .batched _ world =>
      if world.standing scan = .blocked then
        (answers, { session with blocked := session.blocked ++ [(scan, question)] })
      else
        let (answer, taken) := answerPull world scan question
        (answers ++ [(scan, answer)], session.setWorld taken)

def unblock (session : Session) : List (Nat × Answer) × Session :=
  session.blocked.foldl (fun known entry => unblockOne known.1 known.2 entry.1 entry.2)
    ([], { session with blocked := [] })

end ThinScan.Session
