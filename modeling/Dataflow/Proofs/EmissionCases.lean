import Dataflow.Proofs.WorkCases
import Dataflow.World.Emissions

/-!
# What emissions come to

The steps of an emission, taken apart once as those of works and flights are.
-/

namespace Dataflow

/-- An emission as a panic leaves it: it waits for no flight any more. -/
def Emission.recalled (e : Emission) : Emission :=
  match e.progress with
  | .waiting pass _ _ => { e with progress := .looking pass }
  | _ => e

/-- The job without its current emission. -/
def Job.clear : Job → Job
  | .fan f => .fan (f.setCurrent none)
  | _ => .nothing

namespace World

variable {w : World}

lemma wake_nil (w : World) : w.wake [] = w := by
  have hnil : ∀ k, wakeWithin k [] w = w := by rintro (_ | k) <;> rfl
  exact hnil _

/-- Whoever makes way wakes nobody but whoever is next. -/
lemma makeWay_eq (w : World) (e : Emission) (pass : Pass) : ∃ l,
    w.makeWay e pass = (w.setEngine e.host ((w.engine e.host).stepOut e.slot pass)).wake l := by
  unfold makeWay
  by_cases hf : (w.engine e.host).isFirst e.slot pass
  · exact ⟨_, by simp [hf]; rfl⟩
  · exact ⟨[], by simp [hf, wake_nil]⟩

/-- The emission leaves its gate, and nobody else uses its pass. -/
def leaveGate (w : World) (e : Emission) (pass : Pass) : World :=
  ((w.makeWay e pass).setEngine e.host (((w.makeWay e pass).engine e.host).leave e.slot pass)).log
    (.left e.host e.slot pass)

/-- The emission gives its gate up. -/
def abandonGate (w : World) (e : Emission) (pass : Pass) : World :=
  ((w.makeWay e pass).setEngine e.host (((w.makeWay e pass).engine e.host).abandon e.slot pass)).log
    (.abandoned e.host e.slot pass)

/-- The emission takes its place in line. -/
def takePlace (w : World) (e : Emission) (pass : Pass) : World :=
  w.setEngine e.host ((w.engine e.host).lineUp e.slot pass w.self)

/-- What comes of an emission that looks for a result. -/
inductive Looks (w : World) (e : Emission) (pass : Pass) : World → Prop where
  | finds {r : Result} (hc : (w.engine e.host).cached e.slot = some r) :
      Looks w e pass ((w.log (.looked e.host e.slot pass)).setEmission
        { e with progress := .ready pass (w.engine e.host).clears })
  | joins (hc : (w.engine e.host).cached e.slot = none) :
      Looks w e pass ((((w.log (.looked e.host e.slot pass)).join e.host e.slot).1.setEmission
        { e with
          progress := .waiting pass (w.engine e.host).clears
            ((w.log (.looked e.host e.slot pass)).join e.host e.slot).2 }).aim
          (.poll ((w.log (.looked e.host e.slot pass)).join e.host e.slot).2))

lemma looks (w : World) (e : Emission) (pass : Pass) : w.Looks e pass (w.look e pass) := by
  unfold look
  cases hc : (w.engine e.host).cached e.slot with
  | some r => simpa [hc] using Looks.finds hc
  | none => simpa [hc] using Looks.joins hc

/-- What comes of an emission that is first in line. -/
inductive HandsOut (w : World) (e : Emission) (pass : Pass) (clears : Nat) : World → Prop where
  | selects {r : Result} (hc : (w.engine e.host).cached e.slot = some r) :
      HandsOut w e pass clears
        (((w.setEngine e.host ((w.engine e.host).select (w.policy e.host) e.slot r).2).log
          (.delivering e.host e.slot pass r
            ((w.engine e.host).select (w.policy e.host) e.slot r).1)).setEmission
          { e with
            progress := .calling pass r ((w.engine e.host).select (w.policy e.host) e.slot r).1 })
  | breaks (hc : (w.engine e.host).cached e.slot = none) (hn : (w.engine e.host).clears = clears) :
      HandsOut w e pass clears (w.breakDown .engine
        ("Output '" ++ e.slot.output ++ "' of node '" ++ e.slot.node ++
          "' is not cached right after being computed. Aborting pipeline to avoid infinite loop."))
  | retries (hc : (w.engine e.host).cached e.slot = none)
      (hn : (w.engine e.host).clears ≠ clears) :
      HandsOut w e pass clears (((w.log (.retrying e.host e.slot pass)).makeWay e pass).setEmission
        { e with progress := .looking pass })

lemma handsOut (w : World) (e : Emission) (pass : Pass) (clears : Nat) :
    w.HandsOut e pass clears (w.deliver e pass clears) := by
  unfold deliver
  cases hc : (w.engine e.host).cached e.slot with
  | some r => simpa [hc] using HandsOut.selects hc
  | none =>
    by_cases hn : (w.engine e.host).clears = clears
    · simpa [hc, hn] using HandsOut.breaks hc hn
    · simpa [hc, hn] using HandsOut.retries hc hn

/-- What comes of an emission that has come to the gate. -/
inductive Approaches (w : World) (e : Emission) (pass : Pass) (clears : Nat) : World → Prop where
  | queues (hf : ((w.engine e.host).lineUp e.slot pass w.self).isFirst e.slot pass = false) :
      Approaches w e pass clears ((w.takePlace e pass).aim .stall)
  | yields (hf : ((w.engine e.host).lineUp e.slot pass w.self).isFirst e.slot pass = true)
      (hs : (w.takePlace e pass).sated = true) :
      Approaches w e pass clears
        (((w.takePlace e pass).wake [(w.takePlace e pass).self]).aim .stall)
  | delivers {v : World}
      (hf : ((w.engine e.host).lineUp e.slot pass w.self).isFirst e.slot pass = true)
      (hs : (w.takePlace e pass).sated = false)
      (h : HandsOut { w.takePlace e pass with deliveries := w.deliveries + 1 } e pass clears v) :
      Approaches w e pass clears v

lemma approaches (w : World) (e : Emission) (pass : Pass) (clears : Nat) :
    w.Approaches e pass clears (w.approach e pass clears) := by
  show w.Approaches e pass clears
    (if !((w.engine e.host).lineUp e.slot pass w.self).isFirst e.slot pass then
      (w.takePlace e pass).aim .stall
    else if (w.takePlace e pass).sated then
      ((w.takePlace e pass).wake [(w.takePlace e pass).self]).aim .stall
    else { w.takePlace e pass with deliveries := w.deliveries + 1 }.deliver e pass clears)
  cases hf : ((w.engine e.host).lineUp e.slot pass w.self).isFirst e.slot pass with
  | false => exact .queues hf
  | true =>
    cases hs : (w.takePlace e pass).sated with
    | true => exact .yields hf hs
    | false => exact .delivers hf hs (handsOut _ e pass clears)

/-- What comes of an emission that is over. -/
inductive FinishesEmission (w : World) (e : Emission) (pass : Pass) : World → Prop where
  | branch {f : Fan} (hj : (w.leaveGate e pass).job = .fan f) :
      FinishesEmission w e pass
        (((w.leaveGate e pass).setJob (.fan (f.setCurrent none))).aim (.next true))
  | whole (hj : ∀ f, (w.leaveGate e pass).job ≠ .fan f) :
      FinishesEmission w e pass (((w.leaveGate e pass).setJob .nothing).aim (.finish .ok))

lemma finishesEmission (w : World) (e : Emission) (pass : Pass) :
    w.FinishesEmission e pass (w.finishEmission e pass) := by
  show w.FinishesEmission e pass (match (w.leaveGate e pass).job with
    | .fan f => ((w.leaveGate e pass).setJob (.fan (f.setCurrent none))).aim (.next true)
    | _ => ((w.leaveGate e pass).setJob .nothing).aim (.finish .ok))
  cases hj : (w.leaveGate e pass).job with
  | fan f => exact .branch hj
  | _ => exact .whole (by simp [hj])

/-- What comes of an emission that calls whom it selected. -/
inductive CallsNext (w : World) (e : Emission) (pass : Pass) (r : Result) :
    List Nat → World → Prop where
  | ends {v : World} (h : FinishesEmission w e pass v) : CallsNext w e pass r [] v
  | skips {c : Nat} {rest : List Nat} (hs : w.subscribers[c]? = none) :
      CallsNext w e pass r (c :: rest) (w.setEmission { e with progress := .calling pass r rest })
  | calls {c : Nat} {rest : List Nat} {s : Subscriber} (hs : w.subscribers[c]? = some s) :
      CallsNext w e pass r (c :: rest)
        (({ w with subscribers := w.subscribers.set c { s with calls := s.calls + 1 } }.log
          (.called e.host e.slot c s.callback r)).setEmission
          { e with
            progress := .acting pass r rest s.callback
              ((((w.scripts.get? s.callback).getD [])[s.calls]?).getD []) })

lemma callsNext (w : World) (e : Emission) (pass : Pass) (r : Result) (rest : List Nat) :
    w.CallsNext e pass r rest (w.callNext e pass r rest) := by
  unfold callNext
  cases rest with
  | nil => exact .ends (finishesEmission w e pass)
  | cons c rest =>
    cases hs : w.subscribers[c]? with
    | none => simpa [hs] using CallsNext.skips hs
    | some s => simpa [hs] using CallsNext.calls hs

/-- What comes of a subscriber that was called and acts. -/
inductive ActsNext (w : World) (e : Emission) (pass : Pass) (r : Result) (rest : List Nat)
    (callback : String) : List Action → World → Prop where
  | rests : ActsNext w e pass r rest callback []
      (w.setEmission { e with progress := .calling pass r rest })
  | acts {a : Action} {script : List Action} {v : World} {reply : Reply}
      (ha : w.perform a = (v, .reply reply)) :
      ActsNext w e pass r rest callback (a :: script) ((v.log (.acted callback reply)).setEmission
        { e with progress := .acting pass r rest callback script })
  | panics {a : Action} {script : List Action} {v : World} {text : String}
      (ha : w.perform a = (v, .panic text)) :
      ActsNext w e pass r rest callback (a :: script) (v.breakDown .subscriber text)

lemma actsNext (w : World) (e : Emission) (pass : Pass) (r : Result) (rest : List Nat)
    (callback : String) (script : List Action) :
    w.ActsNext e pass r rest callback script (w.actNext e pass r rest callback script) := by
  unfold actNext
  cases script with
  | nil => exact .rests
  | cons a script =>
    rcases ha : w.perform a with ⟨v, reply | text⟩
    · simpa [ha] using ActsNext.acts ha
    · simpa [ha] using ActsNext.panics ha

/-- What comes of the emission that the running task goes on with. -/
inductive GoesOn (w : World) : World → Prop where
  | enters {e : Emission} (hp : w.party = .emission e) (hs : e.progress = .fresh) :
      GoesOn w (w.enter e)
  | looks {e : Emission} {pass : Pass} {v : World} (hp : w.party = .emission e)
      (hs : e.progress = .looking pass) (h : Looks w e pass v) : GoesOn w v
  | polls {e : Emission} {pass : Pass} {clears : Nat} {own : Handle} (hp : w.party = .emission e)
      (hs : e.progress = .waiting pass clears own) : GoesOn w (w.aim (.poll own))
  | approaches {e : Emission} {pass : Pass} {clears : Nat} {v : World} (hp : w.party = .emission e)
      (hs : e.progress = .ready pass clears) (h : Approaches w e pass clears v) : GoesOn w v
  | calls {e : Emission} {pass : Pass} {r : Result} {rest : List Nat} {v : World}
      (hp : w.party = .emission e) (hs : e.progress = .calling pass r rest)
      (h : CallsNext w e pass r rest v) : GoesOn w v
  | acts {e : Emission} {pass : Pass} {r : Result} {rest : List Nat} {callback : String}
      {script : List Action} {v : World} (hp : w.party = .emission e)
      (hs : e.progress = .acting pass r rest callback script)
      (h : ActsNext w e pass r rest callback script v) : GoesOn w v
  | stalls (hp : ∀ e, w.party ≠ .emission e) : GoesOn w (w.aim .stall)

lemma goesOn (w : World) : w.GoesOn w.goOn := by
  unfold goOn
  cases hp : w.party with
  | emission e =>
    cases hs : e.progress with
    | fresh => simpa [hs] using GoesOn.enters hp hs
    | looking pass => simpa [hs] using GoesOn.looks hp hs (w.looks e pass)
    | waiting pass clears own => simpa [hs] using GoesOn.polls hp hs
    | ready pass clears => simpa [hs] using GoesOn.approaches hp hs (w.approaches e pass clears)
    | calling pass r rest => simpa [hs] using GoesOn.calls hp hs (w.callsNext e pass r rest)
    | acting pass r rest callback script =>
      simpa [hs] using GoesOn.acts hp hs (w.actsNext e pass r rest callback script)
  | _ => exact .stalls (by simp [hp])

/-- What comes of an emission that is given up. -/
inductive DropsEmission (w : World) (e : Emission) : World → Prop where
  | outside (hp : e.progress.pass? = none) : DropsEmission w e w
  | waiting {pass : Pass} {own : Handle} (hp : e.progress.pass? = some pass)
      (hs : e.share? = some own) : DropsEmission w e ((w.release [] own).abandonGate e pass)
  | inside {pass : Pass} (hp : e.progress.pass? = some pass) (hs : e.share? = none) :
      DropsEmission w e (w.abandonGate e pass)

lemma dropsEmission (w : World) (e : Emission) : w.DropsEmission e (w.dropEmission e) := by
  unfold dropEmission
  cases hp : e.progress.pass? with
  | none => simpa [hp] using DropsEmission.outside hp
  | some pass =>
    cases hs : e.share? with
    | none => exact .inside hp hs
    | some own => exact .waiting hp hs

end World

end Dataflow
