import Dataflow.Proofs.Runs
import Dataflow.Proofs.WearSteps

/-!
# The courses of flights

A flight comes further in few ways. While it is the innermost one that is driven, its work takes up
what its recipe waits for, it lands with what its work has come to, or it breaks in a panic. All other
steps leave it as far as it is.
-/

namespace Dataflow

lemma Status.landed_iff {st : Status} {r : Result} : st = .landed r ↔ st.result? = some r := by
  cases st <;> simp [Status.result?]

lemma Flight.NoFurther.landed_iff {f f' : Flight} (h : f.NoFurther f') {r : Result} :
    f'.status = .landed r ↔ f.status = .landed r := by
  rw [Status.landed_iff, Status.landed_iff, h.landed]

namespace Stage

variable {flights flights' : List Flight} {r : Recipe} {st st' : Stage}

/-- The stage at which a recipe waits. -/
inductive Waits (flights : List Flight) : Recipe → Stage → Prop where
  | held (what : Announcement) (valve : Nat) (rest : Option Outcome → Recipe) :
      Waits flights (.hold what rest) (.held valve rest)
  | asking {host : String} {slot : Slot} {own : Handle} (rest : Content → Recipe) :
      Serves flights own.ticket host slot → Waits flights (.ask host slot rest) (.asking own rest)

lemma Waits.mono (h : Waits flights r st)
    (hs : ∀ ticket host s, Serves flights ticket host s → Serves flights' ticket host s) :
    Waits flights' r st := by
  cases h with
  | held what valve rest => exact .held what valve rest
  | asking rest hserves => exact .asking rest (hs _ _ _ hserves)

lemma Waits.noFurther (h : Waits flights r st) (hw : st.NoFurther st') :
    Waits flights r st' ∨ st' = .away := by
  rcases hw with rfl | rfl | ⟨own, own', rest, rfl, rfl, ht⟩
  · exact .inl h
  · exact .inr rfl
  · cases h with
    | asking _ hserves => exact .inl (.asking rest (by rw [ht]; exact hserves))

end Stage

/-- No task runs, or one begins its turn. -/
def Focus.isOpening : Focus → Bool
  | .idle | .resume | .finish .cancelled => true
  | _ => false

namespace World

variable {w w' w'' : World} {ticket : Nat} {f f' f'' : Flight}

/-- What a step makes of a flight; `flights` are those after the step. -/
structure Course (w : World) (flights : List Flight) (ticket : Nat) (f f' : Flight) : Prop where
  host : f'.work.host = f.work.host
  slot : f'.work.slot = f.work.slot
  target : f'.work.target = f.work.target
  stage : f.work.stage.NoFurther f'.work.stage ∨
    w.ticket? = some ticket ∧ ∃ r, w.focus = .make r ∧ Stage.Waits flights r f'.work.stage
  stays : f.status = .broken → f'.status = .broken
  breaks : f'.status = .broken →
    f.status = .broken ∨ w.ticket? = some ticket ∧ ∃ text, w.focus = .panic text
  lands : ∀ r, f'.status = .landed r →
    f.status = .landed r ∨ w.ticket? = some ticket ∧ w.focus = .made r.content

/-- The history and the tasks grow, and every flight takes its course. -/
structure Advances (w w' : World) : Prop extends Grows w w' where
  flights : ∀ (i : Nat) f, w.flights[i]? = some f →
    ∃ f', w'.flights[i]? = some f' ∧ Course w w'.flights i f f'
  young : ∀ (i : Nat) f', w'.flights[i]? = some f' → w.flights[i]? = none → f'.Young

lemma course_of_wears (h : f.NoFurther f') (flights : List Flight) :
    Course w flights ticket f f' where
  host := h.work.host
  slot := h.work.slot
  target := h.work.target
  stage := .inl h.work.stage
  stays := h.broken.mpr
  breaks := fun hb => .inl (h.broken.mp hb)
  lands := fun _ hl => .inl (h.landed_iff.mp hl)

lemma Course.noFurther (h : Course w w'.flights ticket f f') (hw : f'.NoFurther f'')
    (hs : ∀ ticket host s, Serves w'.flights ticket host s → Serves w''.flights ticket host s) :
    Course w w''.flights ticket f f'' where
  host := hw.work.host.trans h.host
  slot := hw.work.slot.trans h.slot
  target := hw.work.target.trans h.target
  stage := by
    rcases h.stage with hst | ⟨ht, r, hf, hst⟩
    · exact .inl (hst.trans hw.work.stage)
    · rcases hst.noFurther hw.work.stage with hst | ha
      · exact .inr ⟨ht, r, hf, hst.mono hs⟩
      · exact .inl (.inr (.inl ha))
  stays := fun hb => hw.broken.mpr (h.stays hb)
  breaks := fun hb => h.breaks (hw.broken.mp hb)
  lands := fun r hl => h.lands r (hw.landed_iff.mp hl)

lemma Course.after (h : Course w' w''.flights ticket f' f'') (hw : f.NoFurther f')
    (ht : w'.ticket? = w.ticket?) (hf : w'.focus = w.focus) : Course w w''.flights ticket f f'' where
  host := h.host.trans hw.work.host
  slot := h.slot.trans hw.work.slot
  target := h.target.trans hw.work.target
  stage := by
    rw [← ht, ← hf]
    exact h.stage.imp_left hw.work.stage.trans
  stays := fun hb => h.stays (hw.broken.mpr hb)
  breaks := by
    rw [← ht, ← hf]
    exact fun hb => (h.breaks hb).imp_left hw.broken.mp
  lands := by
    rw [← ht, ← hf]
    exact fun r hl => (h.lands r hl).imp_left hw.landed_iff.mp

/-- What has taken off and is not driven has come no further. -/
lemma Course.young {flights : List Flight} (h : Course w flights ticket f f') (hy : f.Young)
    (ht : w.ticket? ≠ some ticket) : f'.Young where
  stage := (h.stage.resolve_right fun hs => ht hs.1).rested hy.stage
  broken := fun hb => hy.broken ((h.breaks hb).resolve_right fun hs => ht hs.1)
  landed := by
    cases hl : f'.status.result? with
    | none => rfl
    | some r =>
      have hr := (h.lands r (Status.landed_iff.mpr hl)).resolve_right fun hs => ht hs.1
      rw [Status.landed_iff, hy.landed] at hr
      cases hr

lemma NoFurther.advances (h : NoFurther w w') : Advances w w' where
  toGrows := h.toGrows
  flights := fun i f hf => by
    obtain ⟨f', hf', hw⟩ := h.flights i f hf
    exact ⟨f', hf', course_of_wears hw _⟩
  young := h.young

lemma Advances.noFurther (h : Advances w w') (hw : NoFurther w' w'') : Advances w w'' := by
  refine ⟨h.toGrows.trans hw.toGrows, fun i f hf => ?_, fun i f'' hf'' hn => ?_⟩
  · obtain ⟨f', hf', hc⟩ := h.flights i f hf
    obtain ⟨f'', hf'', hfw⟩ := hw.flights i f' hf'
    exact ⟨f'', hf'', hc.noFurther hfw fun _ _ _ => hw.serves⟩
  · rcases hw.flight hf'' with ⟨f', hf', hfw⟩ | hy
    · exact (h.young i f' hf' hn).noFurther hfw
    · exact hy

lemma Advances.serves (h : Advances w w') {host : String} {s : Slot}
    (hs : Serves w.flights ticket host s) : Serves w'.flights ticket host s := by
  obtain ⟨f, hf, rfl, rfl⟩ := hs
  obtain ⟨f', hf', hc⟩ := h.flights ticket f hf
  exact ⟨f', hf', hc.host, hc.slot⟩

lemma KeepsDriving.advances (h : KeepsDriving w w') (hw : w.Steady) (hf : w'.focus = w.focus)
    (ha : Advances w' w'') : Advances w w'' := by
  have ht : w'.ticket? = w.ticket? := by rw [ticket?, ticket?, h.driving]
  refine ⟨h.toGrows.trans ha.toGrows, fun i f hi => ?_, fun i f'' hf'' hn => ?_⟩
  · obtain ⟨f', hi', hw⟩ := h.flights i f hi
    obtain ⟨f'', hi'', hc⟩ := ha.flights i f' hi'
    exact ⟨f'', hi'', hc.after hw ht hf⟩
  · cases hm : w'.flights[i]? with
    | none => exact ha.young i f'' hf'' hm
    | some f' =>
      obtain ⟨g, hg, hc⟩ := ha.flights i f' hm
      rw [hf''] at hg
      cases hg
      refine hc.young (h.young i f' hm hn) fun hi => ?_
      rw [ht] at hi
      obtain ⟨f, hf, -⟩ := hw.driven i (List.mem_of_mem_head? hi)
      rw [hn] at hf
      cases hf

lemma Advances.aim (h : Advances w w') (f : Focus) : Advances w (w'.aim f) :=
  h.noFurther ((KeepsDriving.refl w').aim f).toNoFurther

/-- One flight takes its course. -/
lemma advances_setFlight (hf : w.flights[ticket]? = some f) (f' : Flight)
    (hc : Course w (w.flights.set ticket f') ticket f f') (driving : List Nat) :
    Advances w { w.setFlight ticket f' with driving } := by
  refine ⟨grows_of_eq rfl rfl, fun i g hg => ?_, fun i g hg hn => ?_⟩
  · by_cases hi : ticket = i
    · subst hi
      rw [hf] at hg
      cases hg
      exact ⟨f', List.getElem?_set_self (List.getElem?_eq_some_iff.mp hf).1, hc⟩
    · exact ⟨g, (List.getElem?_set_ne hi).trans hg, course_of_wears (.refl g) _⟩
  · rcases getElem?_set_cases hg with ⟨rfl, -⟩ | ⟨-, hg⟩
    · rw [hf] at hn
      cases hn
    · rw [hn] at hg
      cases hg

/-- The innermost work waits for what its recipe asks for. -/
lemma advances_setWork {k : Work} {r : Recipe} {st : Stage} (hp : w.party = .work k)
    (hf : w.focus = .make r) (hst : st.Waits w.flights r) :
    Advances w (w.setWork { k with stage := st }) := by
  rw [party_eq] at hp
  rcases setWork_cases w { k with stage := st } with ⟨ticket, outer, f, hd, hfl, heq⟩ |
    ⟨ticket, outer, -, -, heq⟩ | ⟨hd, heq⟩
  · simp only [hd, partyAt, hfl] at hp
    cases hp
    have hstays : Stays w.flights
        (w.flights.set ticket { f with work := { f.work with stage := st } }) :=
      stays_set hfl rfl rfl
    rw [heq]
    refine advances_setFlight hfl { f with work := { f.work with stage := st } }
      ⟨rfl, rfl, rfl, .inr ⟨?_, r, hf, hst.mono fun _ _ _ hs => hs.stays hstays⟩, fun hb => hb,
        .inl, fun _ => .inl⟩ w.driving
    rw [ticket?, hd]
    rfl
  · rw [heq]
    exact (KeepsDriving.refl w).toNoFurther.advances
  · rw [hd] at hp
    rw [heq]
    refine (keepsDriving_setJob w (.inr ?_)).toNoFurther.advances
    rw [Job.eq_of_party_work hp]
    rfl

lemma MakesRecipe.advances {r : Recipe} (hm : w.MakesRecipe r w') (h : w.Steady)
    (hf : w.focus = .make r) : Advances w w' := by
  have hlog (e : Event) (he : w.Warrants (w.log e) e) : KeepsDriving w (w.log e) :=
    (KeepsDriving.refl w).log e he
  cases hm with
  | finishes => exact ((hlog _ (by trivial)).aim _).toNoFurther.advances
  | misfits => exact ((hlog _ (by trivial)).trans (keepsDriving_breakDown _ _ _)).toNoFurther.advances
  | crashes => exact (keepsDriving_breakDown w _ _).toNoFurther.advances
  | announces => exact ((hlog _ (by trivial)).aim _).toNoFurther.advances
  | peeks | finds | stalls => exact ((KeepsDriving.refl w).aim _).toNoFurther.advances
  | @holds k what rest hp =>
    have hvalve : KeepsDriving w { w with valves := w.valves ++ [({} : Valve)] } :=
      keepsDriving_of_eq rfl rfl rfl rfl
    have hr : KeepsDriving w ({ w with valves := w.valves ++ [({} : Valve)] }.log
        (.producing what (some w.valves.length))) := hvalve.log _ (by trivial)
    exact (hr.advances h rfl (advances_setWork hp hf (.held what _ rest))).aim _
  | @asks k host slot rest hp hc =>
    have hj := World.joins h hc
    have hr := keepsDriving_join w host slot
    generalize w.join host slot = joined at hj hr ⊢
    obtain ⟨w₁, own⟩ := joined
    obtain ⟨_, _, _, hrest⟩ := hj.rest
    change w₁ = _ at hrest
    have hf₁ : w₁.focus = w.focus := by rw [hrest]
    refine Advances.aim (hr.advances h hf₁ ?_) _
    exact advances_setWork (hj.party.trans hp) (hf₁.trans hf) (.asking rest hj.serves)

lemma advances_landed {r : Result} (hf : w.focus = .made r.content) (ht : w.ticket? = some ticket)
    (hfl : w.flights[ticket]? = some f) (hst : f.status = .driven) :
    Advances w (w.setFlight ticket { f with status := .landed r, seats := {} }) := by
  refine advances_setFlight hfl { f with status := .landed r, seats := {} }
    ⟨rfl, rfl, rfl, .inl (.inl rfl), ?_, by rintro ⟨⟩, ?_⟩ w.driving
  · rw [hst]
    rintro ⟨⟩
  · rintro _ ⟨⟩
    exact .inr ⟨ht, hf⟩

lemma advances_land (h : w.Steady) (r : Result) (hf : w.focus = .made r.content)
    (ht : w.ticket? = some ticket) (hfl : w.flights[ticket]? = some f) (hst : f.status = .driven)
    (driving : List Nat) : Advances w { w.land ticket f r with driving } := by
  have hr := ((KeepsDriving.refl w).setEngine f.work.host
    ((w.engine f.work.host).land f.work.slot ticket r)).log
      (.landed f.work.host f.work.slot ticket r
        ((w.engine f.work.host).flying f.work.slot = some ticket)) True.intro
  have hland := hr.advances h rfl (advances_landed hf ht hfl hst)
  exact (hland.noFurther (keepsDriving_wake _ f.seats.waiters).toNoFurther).noFurther
    (noFurther_of_eq rfl rfl rfl)

lemma FinishesWork.advances {c : Content} (hw : w.FinishesWork c w') (h : w.Steady)
    (hf : w.focus = .made c) : Advances w w' := by
  have hnext : KeepsDriving w { w with nextResult := w.nextResult + 1 } :=
    keepsDriving_of_eq rfl rfl rfl rfl
  cases hw with
  | ends => exact (hnext.aim _).toNoFurther.advances
  | misses => exact (hnext.aim _).toNoFurther.advances
  | @lands ticket outer f hd hfl =>
    obtain ⟨g, hg, hst⟩ := h.driven ticket (by simp [hd])
    cases hfl.symm.trans hg
    have ht : w.ticket? = some ticket := by
      rw [ticket?, hd]
      rfl
    have hsteady : ({ w with nextResult := w.nextResult + 1 } : World).Steady := h.rest
    have hland := advances_land hsteady ⟨w.nextResult, c⟩ hf ht hfl hst outer
    exact (hnext.advances h rfl hland).aim _

@[simp] lemma focus_makeWay (w : World) (e : Emission) (pass : Pass) :
    (w.makeWay e pass).focus = w.focus := by
  obtain ⟨l, heq⟩ := makeWay_eq w e pass
  rw [heq]
  exact (fadingUnheld_wake _ l).toFading.focus

lemma DropsEmission.focus {e : Emission} (hd : w.DropsEmission e w') : w'.focus = w.focus := by
  cases hd with
  | outside => rfl
  | waiting => exact (focus_makeWay _ e _).trans (fadingUnheld_release w _ _).toFading.focus
  | inside => exact focus_makeWay w e _

lemma ForgetsParty.focus (hf : w.ForgetsParty w') : w'.focus = w.focus := by
  cases hf with
  | work => exact focus_setWork w _
  | @emission e => exact (dropsEmission _ e.recalled).focus.trans (focus_setJob w _)
  | output => exact focus_setJob w _
  | nobody => rfl

lemma Unwinds.advances {text : String} (hu : w.Unwinds text w') (h : w.Steady)
    (hf : w.focus = .panic text) : Advances w w' := by
  have hforget := w.forgetsParty.keepsDriving
  have hfocus := w.forgetsParty.focus
  cases hu with
  | ends => exact (hforget.aim _).toNoFurther.advances
  | misses => exact hforget.toNoFurther.advances.noFurther (noFurther_of_eq rfl rfl rfl)
  | @breaks ticket outer f hd hfl =>
    refine hforget.advances h hfocus (advances_setFlight hfl { f with status := .broken }
      ⟨rfl, rfl, rfl, .inl (.inl rfl), fun _ => rfl, fun _ => .inr ⟨?_, text, hfocus.trans hf⟩,
        by rintro _ ⟨⟩⟩ outer)
    rw [ticket?, hd]
    rfl

lemma advances_step (h : w.Poised) (hy : w.Due) :
    Advances w w.step := by
  have ha := h.aimed
  unfold step
  cases hf : w.focus with
  | idle => exact (KeepsDriving.refl w).toNoFurther.advances
  | resume => exact w.resumesTask.keepsDriving.toNoFurther.advances
  | work => exact w.resumesWork.keepsDriving.toNoFurther.advances
  | make r => exact (w.makesRecipe r).advances h.steady hf
  | made c => exact (w.finishesWork c).advances h.steady hf
  | poll own =>
    rw [hf] at ha
    exact ((w.pollsFlight own).noFurther ha.2).advances
  | answer r => exact (w.handsAnswer r).keepsDriving.toNoFurther.advances
  | stall => exact (w.stalls.noFurther h.steady).advances
  | emission => exact (w.goesOn.keepsDriving h.steady).toNoFurther.advances
  | next finished => exact (w.turnsToNext finished).keepsDriving.toNoFurther.advances
  | finish how => exact ((w.endsTask how).keepsDriving (hy how hf)).toNoFurther.advances
  | panic text => exact (w.unwinds text).advances h.steady hf

/-- What can come of a world while `Q` holds at every moment. -/
inductive Through (Q : World → Prop) (start : World) : World → Prop where
  | refl : Q start → Through Q start start
  | perform {w : World} (a : Action) (w' : World) (reply : Reply) : Through Q start w →
      w.focus = .idle → w.perform a = (w', .reply reply) → Q w' → Through Q start w'
  | poll {w : World} (t : Nat) : Through Q start w → w.focus = .idle →
      Q ({ w with queue := w.queue.erase t }.poll t) →
      Through Q start ({ w with queue := w.queue.erase t }.poll t)
  | step {w : World} : Through Q start w → Q w.step → Through Q start w.step

variable {start : World} {P Q : World → Prop}

lemma Through.holds (h : Through Q start w) : Q w := by
  cases h <;> assumption

lemma Through.reachable (h : Through Q start w) : Reachable start w := by
  induction h with
  | refl => exact .refl
  | perform a w' reply _ hf ha _ ih => exact .perform a w' reply ih hf ha
  | poll t _ hf _ ih => exact .poll t ih hf
  | step _ _ ih => exact .step ih

lemma Reachable.through (h : Reachable start w) : Through (fun _ => True) start w := by
  induction h with
  | refl => exact .refl True.intro
  | perform a w' reply _ hf ha ih => exact .perform a w' reply ih hf ha True.intro
  | poll t _ hf ih => exact .poll t ih hf True.intro
  | step _ ih => exact .step ih True.intro

lemma isOpening_turn (hf : w.focus = .idle) (t : Nat) :
    ({ w with queue := w.queue.erase t }.poll t).focus.isOpening = true := by
  rcases World.poll_cases { w with queue := w.queue.erase t } t with
    heq | ⟨_, _, _, -, -, rfl | rfl, heq⟩ <;> rw [heq]
  · exact congrArg Focus.isOpening hf
  · rfl
  · rfl

/-- What is kept between turns, and by every step, holds throughout. -/
lemma Through.keeps (h : Through Q start w) (hs : start.Sane) (h₀ : P start)
    (hturn : ∀ w w', w.Sane → P w → w.focus = .idle → KeepsDriving w w' → w'.focus.isOpening = true → P w')
    (hstep : ∀ w, w.Sane → Q w → P w → P w.step) : P w := by
  induction h with
  | refl _ => exact h₀
  | @perform w a w' reply hr hf ha _ ih =>
    have hsane := (hr.reachable.goes hs).1
    have hp := keepsDriving_perform hsane.poised.steady a
    have hfocus := (carries_perform hsane.poised.steady a).focus
    rw [ha] at hp hfocus
    exact hturn _ w' hsane ih hf hp (by rw [hfocus, hf]; rfl)
  | @poll w t hr hf _ ih =>
    have hq : KeepsDriving w { w with queue := w.queue.erase t } := keepsDriving_of_eq rfl rfl rfl rfl
    exact hturn w _ (hr.reachable.goes hs).1 ih hf (hq.trans (keepsDriving_poll _ t)) (isOpening_turn hf t)
  | step hr hq ih => exact hstep _ (hr.reachable.goes hs).1 hr.holds ih

end World

end Dataflow
