import Dataflow.Proofs.FanCoverage
import Dataflow.Proofs.GateKeeping

/-!
# What a step does at the gates

Emissions enter, come to the gate, deliver, start again and leave, and every other step of a world leaves
gates and passes alone. Only what is cancelled or breaks down gives up a gate that it holds.
-/

namespace Dataflow

namespace Gating

variable {b : Gating} {host : String} {t i : Nat} {o : Option Stake}

/-- One engine is another. -/
def regate (b : Gating) (host : String) (e : Engine) : Gating :=
  { b with engine := fun k => if host = k then e else b.engine k }

/-- One branch of a task holds something else. -/
def hold (b : Gating) (t i : Nat) (o : Option Stake) : Gating :=
  { b with stake := fun u k => if u = t ∧ k = i then o else b.stake u k }

lemma turn_eq (b : Gating) (t i : Nat) (host : String) (e : Engine) (o : Option Stake) :
    b.turn t i host e o = (b.regate host e).hold t i o := rfl

lemma engine_regate (b : Gating) (host : String) (e : Engine) :
    (b.regate host e).engine host = e := if_pos rfl

lemma regate_regate (b : Gating) (host : String) (e e' : Engine) :
    (b.regate host e).regate host e' = b.regate host e' := by
  unfold regate
  congr 1
  funext k
  by_cases hk : host = k <;> simp [hk]

lemma regate_self (b : Gating) (host : String) : b.regate host (b.engine host) = b := by
  obtain ⟨engine, stake⟩ := b
  unfold regate
  congr 1
  funext k
  by_cases hk : host = k
  · rw [if_pos hk, hk]
  · rw [if_neg hk]

lemma hold_self (ho : b.stake t i = o) : b.hold t i o = b := by
  obtain ⟨engine, stake⟩ := b
  unfold hold
  congr 1
  funext u k
  by_cases hu : u = t ∧ k = i
  · rw [if_pos hu, ← ho, hu.1, hu.2]
  · rw [if_neg hu]

/-- Who holds nothing has nothing to lose. -/
lemma forfeit_of_none (hn : ∀ k, b.stake t k = none) : b.forfeit t = b := by
  obtain ⟨engine, stake⟩ := b
  unfold forfeit
  congr 1
  funext u k
  by_cases hu : u = t
  · rw [if_pos hu, hu]
    exact (hn k).symm
  · rw [if_neg hu]

/-- Gates that are kept go on as they are. -/
lemma passing_regate {e : Engine} (he : (b.engine host).KeepsGates e) :
    GateTurn b (b.regate host e) := by
  refine .rest (fun k => ?_) rfl
  unfold regate
  dsimp only
  by_cases hk : host = k
  · rw [if_pos hk]
    exact hk ▸ he
  · rw [if_neg hk]
    exact ⟨rfl, rfl⟩

end Gating

namespace World

open Gating (GateTurn GateMove)

variable {w w' w'' : World}

def gating (w : World) : Gating := ⟨w.engine, w.stake?⟩

/-- Emissions come to their ends on the way from one world to the other. -/
def GateTurns (w w' : World) : Prop := Relation.ReflTransGen GateTurn w.gating w'.gating

/-- Emissions come to their ends or are given up. -/
def GateMoves (w w' : World) : Prop := Relation.ReflTransGen GateMove w.gating w'.gating

lemma GateTurns.gateMoves (h : GateTurns w w') : GateMoves w w' :=
  Relation.ReflTransGen.mono (fun _ _ => .turn) _ _ h

lemma KeepsStakes.gateTurns (h : KeepsStakes w w') : GateTurns w w' :=
  .single (.rest h.gates (funext fun t => funext fun i => h.stakes t i))

lemma gateTurns_of_eq (h : w'.gating = w.gating) : GateTurns w w' := by
  unfold GateTurns
  rw [h]

lemma gating_setEngine (w : World) (host : String) (e : Engine) :
    (w.setEngine host e).gating = w.gating.regate host e := by
  unfold gating Gating.regate
  congr 1
  funext k
  rw [engine_setEngine]

lemma gating_fades (hk : FadingUnheld w w') : w'.gating = w.gating := by
  have hstakes := (routineChange_fades hk).stakes
  unfold gating
  congr 1
  · funext k
    rw [hk.engine]
  · funext t i
    exact hstakes t i

lemma gating_makeWay (w : World) (e : Emission) (pass : Pass) : (w.makeWay e pass).gating =
    w.gating.regate e.host ((w.engine e.host).stepOut e.slot pass) := by
  obtain ⟨l, heq⟩ := makeWay_eq w e pass
  rw [heq, gating_fades (fadingUnheld_wake _ _), gating_setEngine]

lemma engine_makeWay (w : World) (e : Emission) (pass : Pass) :
    (w.makeWay e pass).engine e.host = (w.engine e.host).stepOut e.slot pass := by
  show (w.makeWay e pass).gating.engine e.host = _
  rw [gating_makeWay, Gating.engine_regate]

lemma gating_setJob {t : Nat} {task : Task} (hr : w.running = some t)
    (ht : w.tasks[t]? = some task) (j : Job) : (w.setJob j).gating =
      ⟨w.engine, fun u k => if u = t then j.stake? k else w.stake? u k⟩ := by
  rw [setJob_of_running hr ht]
  unfold gating
  congr 1
  funext u k
  rw [stake?_setTask ht]
  simp only [eq_comm]

lemma gating_setJob_same (j : Job) (hj : j.stake? = w.job.stake?) :
    (w.setJob j).gating = w.gating := by
  rcases setJob_cases w j with ⟨t, task, hr, ht, -⟩ | heq
  · rw [job_of_running hr ht] at hj
    rw [gating_setJob hr ht]
    unfold gating
    congr 1
    funext u k
    by_cases hu : u = t
    · rw [if_pos hu, hj, hu, stake?, ht]
      rfl
    · rw [if_neg hu]
  · rw [heq]

/-- The running task goes on with a job of which one branch holds something else. -/
lemma gating_setJob_hold {t : Nat} {task : Task} (hr : w.running = some t)
    (ht : w.tasks[t]? = some task) {j : Job} {i : Nat} {o : Option Stake}
    (hj : j.stake? = fun k => if k = i then o else task.job.stake? k) :
    (w.setJob j).gating = w.gating.hold t i o := by
  rw [gating_setJob hr ht]
  unfold gating Gating.hold
  congr 1
  funext u k
  dsimp only
  by_cases hu : u = t
  · subst hu
    rw [if_pos rfl, hj]
    by_cases hk : k = i
    · simp [hk]
    · simp [hk, stake?, ht]
  · rw [if_neg hu, if_neg fun h => hu h.1]

lemma stake?_of_party (h : w.Steady) {e : Emission} (hp : w.party = .emission e) :
    ∃ t task, w.running = some t ∧ w.tasks[t]? = some task ∧ w.job = task.job ∧
      task.job.party = .emission e ∧ w.stake? t w.job.cursor = e.stake? := by
  obtain ⟨hd, t, hr, he⟩ := emission?_of_party h hp
  obtain ⟨task, ht, hi⟩ := Option.bind_eq_some_iff.mp he
  have hj := job_of_running hr ht
  refine ⟨t, task, hr, ht, hj, ?_, ?_⟩
  · rw [party_eq, hd, hj] at hp
    exact hp
  · rw [stake?, ht, Option.bind_some, Job.stake?, hi]
    rfl

lemma gating_setEmission (h : w.Steady) {e : Emission} (hp : w.party = .emission e)
    (e' : Emission) (hh : e'.host = e.host) (hs : e'.slot = e.slot) : ∃ t, w.running = some t ∧
      (w.setEmission e').gating = w.gating.hold t w.job.cursor e'.stake? := by
  obtain ⟨t, task, hr, ht, hj, hjp, -⟩ := stake?_of_party h hp
  refine ⟨t, hr, ?_⟩
  rw [setEmission_eq]
  refine gating_setJob_hold hr ht ?_
  rw [hj]
  exact Job.stake?_setParty hjp hh hs

lemma Job.stake?_clear {j : Job} {e : Emission} (hp : j.party = .emission e) :
    j.clear.stake? = fun k => if k = j.cursor then none else j.stake? k := by
  funext k
  unfold Job.stake?
  rw [Job.emission?_clear hp]
  by_cases hk : j.cursor = k
  · rw [if_pos hk, if_pos hk.symm]
    rfl
  · rw [if_neg hk, if_neg fun h => hk h.symm]

lemma gating_clear (h : w.Steady) {e : Emission} (hp : w.party = .emission e) :
    ∃ t, w.running = some t ∧ (w.setJob w.job.clear).gating = w.gating.hold t w.job.cursor none := by
  obtain ⟨t, task, hr, ht, hj, hjp, -⟩ := stake?_of_party h hp
  refine ⟨t, hr, gating_setJob_hold hr ht ?_⟩
  rw [hj]
  exact Job.stake?_clear hjp

/-- The emission that is the innermost party goes on, in a world that has come to be `v` by then. -/
lemma Keeps.setEmission {v : World} (hk : Keeps w v) (h : w.Steady) {e : Emission}
    (hp : w.party = .emission e) (e' : Emission) (hh : e'.host = e.host) (hs : e'.slot = e.slot) :
    ∃ t i, w.gating.stake t i = e.stake? ∧
      (v.setEmission e').gating = v.gating.hold t i e'.stake? := by
  obtain ⟨t, task, hr, -, -, -, hstake⟩ := stake?_of_party h hp
  obtain ⟨t', hr', hgating⟩ := gating_setEmission hk.steady (hk.party.trans hp) e' hh hs
  rw [hk.running, hr] at hr'
  cases hr'
  rw [hk.cursor] at hgating
  exact ⟨t, w.job.cursor, hstake, hgating⟩

lemma gateTurns_enter (h : w.Steady) {e : Emission} (hp : w.party = .emission e)
    (hpr : e.progress = .fresh) : GateTurns w (w.enter e) := by
  have hreg := Engine.regated_enter (w.engine e.host) e.slot
  have hset := carries_regate h hreg
  have hlog := hset.toKeeps.trans
    (keeps_log hset.steady (.entered e.host e.slot ((w.engine e.host).enter e.slot).1))
  obtain ⟨t, i, hstake, hgating⟩ := hlog.setEmission h hp
    { e with progress := .looking ((w.engine e.host).enter e.slot).1 } rfl rfl
  have hnone : w.gating.stake t i = none :=
    hstake.trans (Emission.stake?_of_fresh (by rw [hpr]; rfl))
  have hentered : (w.enter e).gating = w.gating.turn t i e.host ((w.engine e.host).enter e.slot).2
      (some ⟨e.host, e.slot, ((w.engine e.host).enter e.slot).1, false⟩) := by
    refine hgating.trans ?_
    rw [Gating.turn_eq, ← gating_setEngine]
    rfl
  unfold GateTurns
  rw [hentered]
  exact .single (.enter t i e.host e.slot hnone)

lemma stake?_of_ready {e : Emission} {pass : Pass} {clears : Nat}
    (hpr : e.progress = .ready pass clears) : e.stake? = some ⟨e.host, e.slot, pass, false⟩ :=
  stake?_eq (by rw [hpr]; rfl) (by rw [hpr]; rfl)

lemma HandsOut.gateTurns {e : Emission} {pass : Pass} {clears : Nat}
    (hd : w.HandsOut e pass clears w') (h : w.Steady) (hp : w.party = .emission e)
    (hpr : e.progress = .ready pass clears)
    (hf : (w.engine e.host).isFirst e.slot pass = true) : GateTurns w w' := by
  have hready := stake?_of_ready hpr
  cases hd with
  | @selects r =>
    -- Whoever is selected is noted on the side of the engine that has nothing to do with gates.
    have hset : Keeps w (w.setEngine e.host ((w.engine e.host).select (w.policy e.host) e.slot r).2) :=
      keeps_setEngine h fun _ _ hfl => hfl
    have hlog := hset.trans (keeps_log hset.steady (.delivering e.host e.slot pass r
      ((w.engine e.host).select (w.policy e.host) e.slot r).1))
    obtain ⟨t, i, hstake, hgating⟩ := hlog.setEmission h hp { e with
      progress := .calling pass r ((w.engine e.host).select (w.policy e.host) e.slot r).1 } rfl rfl
    have hdeliver := GateTurn.deliver t i _ (hstake.trans hready) hf
    rw [Gating.turn_eq, Gating.regate_self] at hdeliver
    have hselect : (w.engine e.host).KeepsGates
        ((w.engine e.host).select (w.policy e.host) e.slot r).2 := ⟨rfl, rfl⟩
    have hnoted := Gating.passing_regate
      (b := w.gating.hold t i (some ⟨e.host, e.slot, pass, true⟩)) hselect
    have hselected : ((w.setEngine e.host ((w.engine e.host).select (w.policy e.host) e.slot r).2).log
        (.delivering e.host e.slot pass r
          ((w.engine e.host).select (w.policy e.host) e.slot r).1)).gating =
        w.gating.regate e.host ((w.engine e.host).select (w.policy e.host) e.slot r).2 :=
      gating_setEngine w e.host _
    unfold GateTurns
    rw [hgating, hselected]
    exact .tail (.single hdeliver) hnoted
  | breaks => exact (routineChange_breakDown w _ _).toKeepsStakes.gateTurns
  | retries =>
    have hlog := keeps_log h (.retrying e.host e.slot pass)
    have hway := hlog.trans (carries_makeWay hlog.steady e pass).toKeeps
    obtain ⟨t, i, hstake, hgating⟩ := hway.setEmission h hp
      { e with progress := .looking pass } rfl rfl
    unfold GateTurns
    rw [hgating, gating_makeWay]
    exact .single (.retry t i _ (hstake.trans hready))

lemma gateTurns_takePlace (h : w.Steady) {e : Emission} {pass : Pass} {clears : Nat}
    (hp : w.party = .emission e) (hpr : e.progress = .ready pass clears) :
    GateTurns w (w.takePlace e pass) := by
  obtain ⟨t, -, -, -, -, -, hstake⟩ := stake?_of_party h hp
  have hheld := hstake.trans (stake?_of_ready hpr)
  have hline := GateTurn.lineUp (b := w.gating) t w.job.cursor _ w.self hheld
  rw [Gating.turn_eq, Gating.hold_self (by exact hheld)] at hline
  unfold GateTurns takePlace
  rw [gating_setEngine]
  exact .single hline

lemma Approaches.gateTurns {e : Emission} {pass : Pass} {clears : Nat}
    (ha : w.Approaches e pass clears w') (h : w.Steady) (hp : w.party = .emission e)
    (hpr : e.progress = .ready pass clears) : GateTurns w w' := by
  have hlined := gateTurns_takePlace h hp hpr
  cases ha with
  | queues => exact hlined
  | yields =>
    have hwoken := gating_fades (fadingUnheld_wake (w.takePlace e pass) [(w.takePlace e pass).self])
    exact hlined.trans (gateTurns_of_eq hwoken)
  | delivers hf _ hd =>
    have hset := carries_regate h (Engine.regated_lineUp (w.engine e.host) e.slot pass w.self)
    have hengine : World.engine { w.takePlace e pass with deliveries := w.deliveries + 1 } e.host =
        (w.engine e.host).lineUp e.slot pass w.self :=
      (engine_setEngine w e.host e.host _).trans (if_pos rfl)
    exact hlined.trans
      (hd.gateTurns hset.steady.rest (hset.party.trans hp) hpr (by rw [hengine]; exact hf))

/-- An emission that is over has let go of its gate. -/
lemma gateTurns_leaveGate (h : w.Steady) {e : Emission} {pass : Pass} {r : Result}
    {rest : List Nat} (hp : w.party = .emission e) (hpr : e.progress = .calling pass r rest) :
    GateTurns w ((w.leaveGate e pass).setJob (w.leaveGate e pass).job.clear) := by
  have hway := carries_makeWay h e pass
  have hleft := hway.trans (carries_regate hway.steady
    (Engine.regated_leave ((w.makeWay e pass).engine e.host) e.slot pass))
  have hlog : Keeps w (w.leaveGate e pass) :=
    hleft.toKeeps.trans (keeps_log hleft.steady (.left e.host e.slot pass))
  have hgating : (w.leaveGate e pass).gating =
      w.gating.regate e.host (((w.engine e.host).stepOut e.slot pass).leave e.slot pass) := by
    refine (gating_setEngine (w.makeWay e pass) e.host _).trans ?_
    rw [gating_makeWay, engine_makeWay, Gating.regate_regate]
  obtain ⟨t, task, hr, -, -, -, hstake⟩ := stake?_of_party h hp
  have hcalling : e.stake? = some ⟨e.host, e.slot, pass, true⟩ :=
    stake?_eq (by rw [hpr]; rfl) (by rw [hpr]; rfl)
  have hleave := GateTurn.leave (b := w.gating) t w.job.cursor _ (hstake.trans hcalling)
  obtain ⟨t', hr', hclear⟩ := gating_clear hlog.steady (hlog.party.trans hp)
  rw [hlog.running, hr] at hr'
  cases hr'
  rw [hlog.cursor, hgating, ← Gating.turn_eq] at hclear
  unfold GateTurns
  rw [hclear]
  exact .single hleave

/-- The branch of an emission that is over has nothing left to do. -/
lemma FinishesEmission.clears {e : Emission} {pass : Pass} (hf : w.FinishesEmission e pass w') :
    ∃ focus, w' = ((w.leaveGate e pass).setJob (w.leaveGate e pass).job.clear).aim focus := by
  cases hf with
  | branch hj => exact ⟨.next true, by rw [hj]; rfl⟩
  | whole hj =>
    refine ⟨.finish .ok, ?_⟩
    cases hjob : (w.leaveGate e pass).job with
    | fan f => exact absurd hjob (hj f)
    | _ => rfl

lemma FinishesEmission.gateTurns {e : Emission} {pass : Pass} {r : Result} {rest : List Nat}
    (hf : w.FinishesEmission e pass w') (h : w.Steady) (hp : w.party = .emission e)
    (hpr : e.progress = .calling pass r rest) : GateTurns w w' := by
  obtain ⟨focus, rfl⟩ := hf.clears
  exact gateTurns_leaveGate h hp hpr

lemma CallsNext.gateTurns {e : Emission} {pass : Pass} {r : Result} {rest : List Nat}
    (hc : w.CallsNext e pass r rest w') (h : w.Steady) (hp : w.party = .emission e)
    (hpr : e.progress = .calling pass r rest) : GateTurns w w' := by
  obtain ⟨-, hj⟩ := job_party_of_emission hp
  cases rest with
  | nil =>
    cases hc with
    | ends hf => exact hf.gateTurns h hp hpr
  | cons c rest => exact (hc.routineChange hj hpr).toKeepsStakes.gateTurns

lemma GoesOn.gateTurns (hg : w.GoesOn w') (h : w.Steady) : GateTurns w w' := by
  cases hg with
  | enters hp hpr => exact gateTurns_enter h hp hpr
  | looks hp hpr hl =>
    obtain ⟨-, hj⟩ := job_party_of_emission hp
    exact (hl.embarks hj hpr).keepsStakes.gateTurns
  | polls => exact gateTurns_of_eq rfl
  | approaches hp hpr ha => exact ha.gateTurns h hp hpr
  | calls hp hpr hc => exact hc.gateTurns h hp hpr
  | acts hp hpr ha => exact (ha.routineChange h hp hpr).toKeepsStakes.gateTurns
  | stalls => exact gateTurns_of_eq rfl

lemma gating_abandonGate (w : World) (e : Emission) (pass : Pass) :
    (w.abandonGate e pass).gating = w.gating.regate e.host
      (((w.engine e.host).stepOut e.slot pass).abandon e.slot pass) := by
  refine (gating_setEngine _ e.host _).trans ?_
  rw [gating_makeWay, engine_makeWay, Gating.regate_regate]

lemma DropsEmission.gating {e : Emission} {pass : Pass} (hd : w.DropsEmission e w')
    (hp : e.progress.pass? = some pass) : w'.gating = w.gating.regate e.host
      (((w.engine e.host).stepOut e.slot pass).abandon e.slot pass) := by
  cases hd with
  | outside hn => cases hn.symm.trans hp
  | inside hs =>
    cases hs.symm.trans hp
    exact gating_abandonGate w e pass
  | @waiting _ own hs =>
    cases hs.symm.trans hp
    have hrelease := fadingUnheld_release w [] own
    rw [gating_abandonGate, gating_fades hrelease, hrelease.engine]

lemma DropsEmission.eq_of_none {e : Emission} (hd : w.DropsEmission e w')
    (hp : e.progress.pass? = none) : w' = w := by
  cases hd with
  | outside => rfl
  | inside hs => cases hs.symm.trans hp
  | waiting hs => cases hs.symm.trans hp

/-- An emission that the task has let go of already is given up. -/
lemma DropsEmission.gateMoves {v v' : World} {t i : Nat} {e e' : Emission}
    (hd : v.DropsEmission e' v') (hs : w.gating.stake t i = e.stake?)
    (hv : v.gating = w.gating.hold t i none) (hh : e'.host = e.host) (hslot : e'.slot = e.slot)
    (hp : e'.progress.pass? = e.progress.pass?) : GateMoves w v' := by
  have hengine : v.engine = w.engine := congrArg Gating.engine hv
  cases hpass : e.progress.pass? with
  | none =>
    have hnone : w.gating.stake t i = none := by
      rw [hs, Emission.stake?, hpass]
      rfl
    rw [hd.eq_of_none (hp.trans hpass)]
    exact (gateTurns_of_eq (hv.trans (Gating.hold_self hnone))).gateMoves
  | some pass =>
    have hsome : w.gating.stake t i =
        some ⟨e.host, e.slot, pass, !e.progress.phase.isOpen⟩ := by
      rw [hs, Emission.stake?, hpass]
      rfl
    have hmove := GateMove.abandon t i _ hsome
    unfold GateMoves
    rw [hd.gating (hp.trans hpass), hv, hh, hslot, hengine]
    exact .single hmove

lemma gating_setWork (w : World) {k k' : Work} (hp : w.party = .work k) :
    (w.setWork k').gating = w.gating := by
  rcases setWork_cases w k' with ⟨ticket, outer, f, -, -, heq⟩ | ⟨ticket, outer, -, -, heq⟩ | ⟨hd, heq⟩
  · rw [heq]
    rfl
  · rw [heq]
  · rw [party_eq, hd] at hp
    rw [heq]
    exact gating_setJob_same _ (by rw [Job.eq_of_party_work hp]; rfl)

lemma ForgetsParty.gateMoves (hf : w.ForgetsParty w') (h : w.Steady) : GateMoves w w' := by
  cases hf with
  | work hp => exact (gateTurns_of_eq (gating_setWork w hp)).gateMoves
  | @emission e hp =>
    obtain ⟨t, task, hr, -, -, -, hstake⟩ := stake?_of_party h hp
    obtain ⟨t', hr', hclear⟩ := gating_clear h hp
    rw [hr] at hr'
    cases hr'
    obtain ⟨host, slot, progress⟩ := e
    exact (dropsEmission _ _).gateMoves hstake hclear (by cases progress <;> rfl)
      (by cases progress <;> rfl) (by cases progress <;> rfl)
  | output hp =>
    refine (gateTurns_of_eq (gating_setJob_same _ ?_)).gateMoves
    rw [job_of_party_output hp]
    rfl
  | nobody => exact .refl

lemma Unwinds.gateMoves {text : String} (hu : w.Unwinds text w') (h : w.Steady) :
    GateMoves w w' := by
  have hforget := w.forgetsParty.gateMoves h
  cases hu <;> exact hforget

lemma stake?_dropped (f : Fan) (i : Nat) :
    (Job.fan ((f.aimAt i).setCurrent none)).stake? =
      fun k => if k = i then none else (Job.fan f).stake? k := by
  funext k
  have hdropped : (Job.fan ((f.aimAt i).setCurrent none)).emission? k =
      if k = i then none else f.branch? k := by
    show (((f.branches.set i none)[k]?).bind id) = if k = i then none else (f.branches[k]?).bind id
    by_cases hk : k = i
    · subst hk
      rw [if_pos rfl]
      by_cases hlt : k < f.branches.length
      · rw [List.getElem?_set_self hlt]
        rfl
      · rw [List.getElem?_eq_none (by rw [List.length_set]; omega)]
        rfl
    · rw [if_neg hk, List.getElem?_set_ne fun h => hk h.symm]
  unfold Job.stake?
  rw [hdropped]
  by_cases hk : k = i
  · rw [if_pos hk, if_pos hk]
    rfl
  · rw [if_neg hk, if_neg hk]
    rfl

lemma DropsBranch.gateMoves {i : Nat} (hd : w.DropsBranch i w') {t : Nat} {task : Task}
    (hr : w.running = some t) (ht : w.tasks[t]? = some task) : GateMoves w w' := by
  cases hd with
  | @branch f e hf he =>
    rw [job_of_running hr ht] at hf
    have hstake : w.gating.stake t i = e.stake? := by
      show w.stake? t i = _
      rw [stake?, ht, Option.bind_some, hf]
      show (f.branch? i).bind _ = _
      rw [he]
      rfl
    refine (dropsEmission _ e).gateMoves hstake (gating_setJob_hold hr ht ?_) rfl rfl rfl
    rw [hf]
    exact stake?_dropped f i
  | nothing => exact .refl

lemma gateMoves_branches (h : w.Steady) (hs : w.Silent) (hd : w.driving = []) {t : Nat}
    (hr : w.running = some t) (order : List Nat) : GateMoves w (order.foldl dropBranch w) := by
  induction order generalizing w with
  | nil => exact .refl
  | cons i order ih =>
    obtain ⟨task, ht, -⟩ := h.runs t hr
    have hdrops := (w.dropsBranch i).drops h hs hd hr ht
    exact ((w.dropsBranch i).gateMoves hr ht).trans
      (ih hdrops.steady hdrops.silent hdrops.driving hdrops.running)

/-- A share that is given up along with the job is that of no emission. -/
lemma gating_release (hs : w.job.stake? = Job.nothing.stake?) (own : Handle) :
    ((w.setJob .nothing).release [] own).gating = w.gating := by
  rw [gating_fades (fadingUnheld_release _ _ _), gating_setJob_same _ hs.symm]

lemma DropsJob.gateMoves (hdrop : w.DropsJob w') (h : w.Steady) (hs : w.Silent)
    (hd : w.driving = []) {t : Nat} (hr : w.running = some t) : GateMoves w w' := by
  obtain ⟨task, ht, -⟩ := h.runs t hr
  have hjob := job_of_running hr ht
  cases hdrop with
  | output hj => exact (gateTurns_of_eq (gating_release (by rw [hj]; rfl) _)).gateMoves
  | work hj => exact (gateTurns_of_eq (gating_release (by rw [hj]; rfl) _)).gateMoves
  | @emission e hj =>
    have hstake : w.gating.stake t 0 = e.stake? := by
      show w.stake? t 0 = _
      rw [stake?, ht, Option.bind_some, ← hjob, hj]
      rfl
    refine (dropsEmission _ e).gateMoves hstake (gating_setJob_hold hr ht ?_) rfl rfl rfl
    rw [← hjob, hj]
    funext k
    by_cases hk : k = 0
    · rw [if_pos hk]
      rfl
    · rw [if_neg hk]
      show none = (if k = 0 then some e else none).bind Emission.stake?
      rw [if_neg hk]
      rfl
  | branches => exact gateMoves_branches h hs hd hr _
  | nothing => exact .refl

lemma DropsBranch.eq_of_none {i : Nat} (hd : w.DropsBranch i w')
    (hn : w.job.emission? i = none) : w' = w := by
  cases hd with
  | branch hj hb =>
    rw [hj] at hn
    cases hb.symm.trans hn
  | nothing => rfl

lemma foldl_dropBranch_of_none (hn : ∀ i, w.job.emission? i = none) (order : List Nat) :
    order.foldl dropBranch w = w := by
  induction order with
  | nil => rfl
  | cons i order ih => rw [List.foldl_cons, (w.dropsBranch i).eq_of_none (hn i), ih]

/-- A task without emissions has one share in a flight to give up at most. -/
lemma DropsJob.holds_at_most (hd : w.DropsJob w') (hn : ∀ i, w.job.emission? i = none) :
    w' = w ∨ ∃ own, w' = (w.setJob .nothing).release [] own := by
  cases hd with
  | output => exact .inr ⟨_, rfl⟩
  | work => exact .inr ⟨_, rfl⟩
  | emission hj =>
    have hsome := hn 0
    rw [hj] at hsome
    cases hsome
  | branches => exact .inl (foldl_dropBranch_of_none hn _)
  | nothing => exact .inl rfl

lemma gating_dropJob (hn : ∀ i, w.job.emission? i = none) : w.dropJob.gating = w.gating := by
  rcases w.dropsJob.holds_at_most hn with heq | ⟨own, heq⟩
  · rw [heq]
  · rw [heq, gating_release]
    funext i
    unfold Job.stake?
    rw [hn i]
    rfl

lemma gating_closeTask (w : World) (t : Nat) (how : End) :
    (w.closeTask t how).gating = w.dropJob.gating.forfeit t := by
  unfold closeTask modifyTask gating Gating.forfeit
  cases ht : w.dropJob.tasks[t]? with
  | some task =>
    dsimp only
    congr 1
    funext u k
    rw [stake?_setTask ht]
    by_cases hu : t = u
    · rw [if_pos hu, if_pos hu.symm]
      rfl
    · rw [if_neg hu, if_neg fun h => hu h.symm]
  | none =>
    dsimp only
    congr 1
    funext u k
    by_cases hu : u = t
    · rw [if_pos hu, hu, stake?, ht]
      rfl
    · rw [if_neg hu]

lemma EndsTask.gating {how : End} (he : w.EndsTask how w') {t : Nat} {task : Task}
    (hr : w.running = some t) (ht : w.tasks[t]? = some task) :
    w'.gating = w.dropJob.gating.forfeit t := by
  obtain ⟨subscriptions, hkin⟩ := he.shelves hr ht
  rw [gating_fades hkin, ← gating_closeTask w t how]
  rfl

lemma EndsTask.eq_of_none {how : End} (he : w.EndsTask how w') (hr : w.running = none) :
    w' = w.aim .idle := by
  cases he with
  | idle => rfl
  | misses hr' | leaves hr' | calls hr' => cases hr.symm.trans hr'

lemma stake_dropEmission (v : World) (e : Emission) :
    (v.dropEmission e).gating.stake = v.gating.stake := by
  cases hp : e.progress.pass? with
  | none => rw [(v.dropsEmission e).eq_of_none hp]
  | some pass =>
    rw [(v.dropsEmission e).gating hp]
    rfl

lemma bare_abandonGate (w : World) (e : Emission) (pass : Pass) :
    (w.abandonGate e pass).job.bare = w.job.bare := by
  obtain ⟨l, heq⟩ := makeWay_eq w e pass
  have hwoken := fadingUnheld_wake (w.setEngine e.host ((w.engine e.host).stepOut e.slot pass)) l
  show (w.makeWay e pass).job.bare = w.job.bare
  rw [heq]
  exact (job_fades hwoken.toFading).trans rfl

lemma DropsEmission.bare {e : Emission} (hd : w.DropsEmission e w') :
    w'.job.bare = w.job.bare := by
  cases hd with
  | outside => rfl
  | inside => exact bare_abandonGate w e _
  | waiting =>
    exact (bare_abandonGate _ e _).trans (job_fades (fadingUnheld_release _ _ _).toFading)

lemma DropsBranch.stake? {i : Nat} (hd : w.DropsBranch i w') {t : Nat} {task : Task}
    (hr : w.running = some t) (ht : w.tasks[t]? = some task) {f : Fan} (hf : task.job = .fan f)
    (k : Nat) : w'.stake? t k = if k = i then none else w.stake? t k := by
  have hjob := (job_of_running hr ht).trans hf
  cases hd with
  | @branch g e hg hb =>
    cases hjob.symm.trans hg
    have hdropped : ((w.setJob (.fan ((f.aimAt i).setCurrent none))).dropEmission e).gating.stake =
        (w.gating.hold t i none).stake := by
      rw [stake_dropEmission]
      refine congrArg Gating.stake (gating_setJob_hold hr ht ?_)
      rw [hf]
      exact stake?_dropped f i
    refine (congrFun (congrFun hdropped t) k).trans ?_
    show (if t = t ∧ k = i then none else w.stake? t k) = _
    simp
  | nothing hb =>
    by_cases hk : k = i
    · rw [if_pos hk, hk, World.stake?, ht, Option.bind_some, hf]
      show (f.branch? i).bind _ = none
      rw [hb f hjob]
      rfl
    · rw [if_neg hk]

lemma DropsBranch.fan {i : Nat} (hd : w.DropsBranch i w') {t : Nat} {task : Task}
    (hr : w.running = some t) (ht : w.tasks[t]? = some task) {f : Fan} (hf : task.job = .fan f) :
    ∃ f', w'.job = .fan f' := by
  cases hd with
  | @branch g e =>
    have hb := (dropsEmission (w.setJob (.fan ((g.aimAt i).setCurrent none))) e).bare
    rw [job_setJob_of_running hr ht] at hb
    cases hj : ((w.setJob (.fan ((g.aimAt i).setCurrent none))).dropEmission e).job with
    | fan f' => exact ⟨f', rfl⟩
    | _ =>
      rw [hj] at hb
      cases hb
  | nothing => exact ⟨f, (job_of_running hr ht).trans hf⟩

/-- Whichever branches are given up hold nothing any more. -/
lemma stake?_branches (h : w.Steady) (hs : w.Silent) (hd : w.driving = []) {t : Nat} {f : Fan}
    (hr : w.running = some t) (hj : w.job = .fan f) (order : List Nat) {k : Nat}
    (hk : k ∈ order ∨ w.stake? t k = none) : (order.foldl dropBranch w).stake? t k = none := by
  induction order generalizing w f with
  | nil => exact hk.resolve_left (List.not_mem_nil)
  | cons i order ih =>
    obtain ⟨task, ht, -⟩ := h.runs t hr
    have hf := (job_of_running hr ht).symm.trans hj
    have hdrops := (w.dropsBranch i).drops h hs hd hr ht
    obtain ⟨f', hj'⟩ := (w.dropsBranch i).fan hr ht hf
    refine ih hdrops.steady hdrops.silent hdrops.driving hdrops.running hj' ?_
    rw [(w.dropsBranch i).stake? hr ht hf]
    by_cases hki : k = i
    · exact .inr (if_pos hki)
    · rw [if_neg hki]
      exact hk.imp (fun hm => (List.mem_cons.mp hm).resolve_left hki) id

/-- A task that gives up everything holds no gate any more. -/
lemma stake?_dropJob (h : w.Steady) (hs : w.Silent) (hd : w.driving = []) (hc : w.Covered) {t : Nat}
    (hr : w.running = some t) (k : Nat) : w.dropJob.stake? t k = none := by
  obtain ⟨task, ht, -⟩ := h.runs t hr
  have hjob := job_of_running hr ht
  cases hj : w.job with
  | emit e =>
    have hdrop : w.dropJob = (w.setJob .nothing).dropEmission e := by
      unfold dropJob
      rw [hj]
    rw [hdrop]
    refine (congrFun (congrFun (stake_dropEmission _ _) t) k).trans ?_
    rw [gating_setJob hr ht]
    exact if_pos rfl
  | fan f =>
    have hdrop : w.dropJob = f.leaving.foldl dropBranch w := by
      unfold dropJob
      rw [hj]
    rw [hdrop]
    refine stake?_branches h hs hd hr hj _ ?_
    by_cases hk : k < f.branches.length
    · exact .inl (hc t task ht f (hjob.symm.trans hj) k hk)
    · refine .inr ?_
      rw [stake?, ht, Option.bind_some, ← hjob, hj]
      show (f.branch? k).bind _ = none
      rw [Fan.branch?, List.getElem?_eq_none (Nat.not_lt.mp hk)]
      rfl
  | _ =>
    have hnone : ∀ i, w.job.emission? i = none := fun i => by
      rw [hj]
      rfl
    refine (congrFun (congrFun (congrArg Gating.stake (gating_dropJob hnone)) t) k).trans ?_
    show w.stake? t k = none
    rw [stake?, ht, Option.bind_some, ← hjob, Job.stake?, hnone k]
    rfl

/-- The task that runs ends, and with it all that it has under way. -/
lemma EndsTask.gateMoves {how : End} (he : w.EndsTask how w') (h : w.Steady) (hc : w.Covered)
    (ha : w.Aimed (.finish how)) : GateMoves w w' := by
  obtain ⟨hs, hd, -⟩ := ha
  cases hr : w.running with
  | none =>
    rw [he.eq_of_none hr]
    exact .refl
  | some t =>
    obtain ⟨task, ht, -⟩ := h.runs t hr
    have hdrop := w.dropsJob.gateMoves h hs hd hr
    unfold GateMoves at hdrop ⊢
    have hnone : w.dropJob.gating.forfeit t = w.dropJob.gating :=
      Gating.forfeit_of_none (stake?_dropJob h hs hd hc hr)
    rw [he.gating hr ht, hnone]
    exact hdrop

lemma EndsTask.gateTurns {how : End} (he : w.EndsTask how w') (h : w.Steady)
    (ha : w.Aimed (.finish how)) (hp : how.proper = true) : GateTurns w w' := by
  obtain ⟨-, -, hmay⟩ := ha
  cases hr : w.running with
  | none =>
    rw [he.eq_of_none hr]
    exact .refl
  | some t =>
    obtain ⟨task, ht, -⟩ := h.runs t hr
    have hnone := hmay.finished hp
    refine gateTurns_of_eq ?_
    rw [he.gating hr ht, gating_dropJob hnone]
    refine Gating.forfeit_of_none fun k => ?_
    show w.stake? t k = none
    rw [stake?, ht, Option.bind_some, Job.stake?, ← job_of_running hr ht, hnone k]
    rfl

end World

/-- Gates may be touched. -/
def Focus.isPassing : Focus → Bool
  | .emission | .finish _ | .panic _ => true
  | _ => false

/-- Something is cut short. -/
def Focus.isLoss : Focus → Bool
  | .panic _ => true
  | .finish how => !how.proper
  | _ => false

namespace World

variable {w : World}

lemma Unburdened.keepsStakes (hu : w.Unburdened) (h : w.Sane) (hn : w.focus.isPassing = false) :
    KeepsStakes w w.step := by
  have hs := h.poised.steady
  have haim := h.poised.aimed
  unfold World.step
  cases hf : w.focus with
  | idle => exact (RoutineChange.refl w).toKeepsStakes
  | resume => exact w.resumesTask.keepsStakes
  | work => exact w.resumesWork.keepsStakes hs
  | make r =>
    refine ((w.makesRecipe r).embarks hs fun k hp => ?_).keepsStakes
    rw [Work.share?, hu.absorbed (by rw [hf]; rfl) k hp]
  | made c => exact (w.finishesWork c).keepsStakes hs
  | poll own =>
    rw [hf] at haim
    exact ((w.pollsFlight own).routineChange hs haim.2).toKeepsStakes
  | answer r =>
    exact ((w.handsAnswer r).routineChange hs fun own ho => hu.done h hf ho).toKeepsStakes
  | stall => exact (w.stalls.routineChange hs).toKeepsStakes
  | next finished => exact (w.turnsToNext finished).routineChange.toKeepsStakes
  | emission | finish _ | panic _ =>
    rw [hf] at hn
    cases hn

/-- Where nothing is cut short, emissions come to their ends. -/
lemma Unburdened.gateTurns (hu : w.Unburdened) (h : w.Sane) (hn : w.focus.isLoss = false) :
    GateTurns w w.step := by
  have haim := h.poised.aimed
  by_cases hp : w.focus.isPassing = false
  · exact (hu.keepsStakes h hp).gateTurns
  · unfold World.step
    cases hf : w.focus with
    | emission => exact w.goesOn.gateTurns h.poised.steady
    | finish how =>
      rw [hf] at haim hn
      exact (w.endsTask how).gateTurns h.poised.steady haim (by simpa [Focus.isLoss] using hn)
    | panic text =>
      rw [hf] at hn
      cases hn
    | _ =>
      rw [hf] at hp
      exact absurd rfl hp

lemma Unburdened.gateMoves (hu : w.Unburdened) (h : w.Sane) (hc : w.Covered) :
    GateMoves w w.step := by
  have haim := h.poised.aimed
  by_cases hn : w.focus.isLoss = false
  · exact (hu.gateTurns h hn).gateMoves
  · unfold World.step
    cases hf : w.focus with
    | finish how =>
      rw [hf] at haim
      exact (w.endsTask how).gateMoves h.poised.steady hc haim
    | panic text => exact (w.unwinds text).gateMoves h.poised.steady
    | _ =>
      rw [hf] at hn
      exact absurd rfl hn

end World

namespace Scene

/-- Every emission holds the gate of its slot. -/
theorem kept_of_reachable {s : Scene} {w : World} (h : World.Reachable s.opening w) :
    w.gating.Kept := by
  refine keeps (P := fun w => w.gating.Kept) h ?_ (fun w w' _ hk _ _ ht _ => ?_) fun w hr hk => ?_
  · refine ⟨?_, ?_, ?_, fun host => ?_⟩
    · rintro t i x ⟨⟩
    · rintro t i x ⟨⟩
    · rintro t i x u k y ⟨⟩
    show (s.opening.engine host).gates.Tidy
    rw [s.engine_opening host]
    exact .empty
  · exact hk.moves ht.toKeepsStakes.gateTurns.gateMoves
  · exact hk.moves
      ((unburdened_of_reachable hr).gateMoves (sane_of_reachable hr) (covered_of_reachable hr))

end Scene

end Dataflow
