import Dataflow.World.Run

/-!
# Scenes

A scene is a list of actions on some pipelines. Playing it gives a transcript: for every action what
came back and what happened until the next one.
-/

namespace Dataflow

structure Cue where
  action : Action
  /-- Whether the tasks run to rest before the next cue. -/
  settles : Bool := true

structure Scene where
  runtime : Bool := true
  setups : Table String Setup := ∅
  cells : Table String Outcome := ∅
  scripts : Table String (List (List Action)) := ∅
  cues : List Cue := []

/-- What came of one cue. -/
structure Take where
  reply : Reply
  events : List Event

structure Transcript where
  takes : List Take
  /-- The names of the unfinished tasks, in order. -/
  pending : List String
  /-- The valves that nobody has opened. -/
  valves : List Nat

namespace Scene

/-- The world in which a scene begins. -/
def opening (s : Scene) : World :=
  { runtime := s.runtime
    pipelines := ⟨s.setups.entries.map fun (host, setup) => (host, { setup })⟩
    cells := s.cells
    scripts := s.scripts }

/-- What has happened since the journal had the length `n`. -/
def eventsSince (w : World) (n : Nat) : List Event :=
  (w.journal.take (w.journal.length - n)).reverse

/-- Plays the cues one after the other; a panic of an action itself ends the scene. -/
def playFrom (w : World) : List Cue → Except String (List Take × World)
  | [] => .ok ([], w)
  | cue :: rest =>
    match w.perform cue.action with
    | (_, .panic text) => .error text
    | (w', .reply reply) =>
      let w' := if cue.settles then w'.settle else w'
      match playFrom w' rest with
      | .error text => .error text
      | .ok (takes, last) => .ok (⟨reply, eventsSince w' w.journal.length⟩ :: takes, last)

def pendingOf (w : World) : List String :=
  (w.tasks.filterMap fun t => if t.ended.isNone then t.name else none).mergeSort
    fun a b => decide (a ≤ b)

def play (s : Scene) : Except String Transcript :=
  match playFrom s.opening s.cues with
  | .error text => .error text
  | .ok (takes, w) => .ok ⟨takes, pendingOf w, w.openValves⟩

end Scene

def Reply.result? : Reply → Option Result
  | .cached r => some r
  | _ => none

/-- The result that an event shows. -/
def Event.result? : Event → Option Result
  | .called _ _ _ _ r => some r
  | .acted _ reply => reply.result?
  | .ended _ (some _) (.result r) => some r
  | _ => none

namespace Transcript

/-- The results that are shown, in order. -/
def results (t : Transcript) : List Result :=
  t.takes.flatMap fun take => take.reply.result?.toList ++ take.events.filterMap Event.result?

/-- The distinct results in the order in which they are first shown; the place of a result in this
list is the number that it is shown under. -/
def shown (t : Transcript) : List Nat :=
  (t.results.foldl (fun ids r => if ids.contains r.id then ids else r.id :: ids) []).reverse

end Transcript

end Dataflow
