import Dataflow.Proofs.LeadingPerform
import Dataflow.Proofs.Runs
import Dataflow.Proofs.Scripts

/-!
# Steps of the leading strand

A step of a task is a step of the strand that the task is in. If a subscriber is called in it that
does something about no node, the other strand takes notice of that.
-/

namespace Dataflow

namespace World

lemma setJob_frame (w : World) (j : Job) : ∃ tasks, w.setJob j = { w with tasks } := by
  rcases w.setJob_cases j with ⟨t, task, -, -, heq⟩ | heq
  · exact ⟨_, heq⟩
  · exact ⟨_, heq⟩

lemma setEmission_frame (w : World) (e : Emission) :
    ∃ tasks, w.setEmission e = { w with tasks } := by
  rcases w.setEmission_cases e with ⟨f, -, heq⟩ | ⟨-, heq⟩ <;> rw [heq]
  · exact setJob_frame w _
  · exact setJob_frame w _

lemma length_join {w : World} {host : String} {s : Slot}
    (hf : (w.engine host).flying s = none) :
    (w.join host s).1.flights.length = w.flights.length + 1 := by
  unfold join
  dsimp only
  rw [hf]
  exact List.length_append

lemma length_resumeTask {w : World} {host : String} {s : Slot}
    (hj : w.job = .output host s none) (hc : (w.engine host).cached s = none)
    (hf : (w.engine host).flying s = none) :
    w.resumeTask.flights.length = w.flights.length + 1 := by
  unfold resumeTask
  rw [hj]
  dsimp only
  rw [hc]
  dsimp only
  rw [flights_aim, flights_setJob, length_join hf]

lemma length_look {w : World} {e : Emission} (pass : Pass)
    (hc : (w.engine e.host).cached e.slot = none)
    (hf : (w.engine e.host).flying e.slot = none) :
    (w.look e pass).flights.length = w.flights.length + 1 := by
  unfold look
  dsimp only
  rw [hc]
  dsimp only
  generalize hw : w.log _ = w'
  obtain ⟨tasks, heq⟩ := setEmission_frame (w'.join e.host e.slot).1
    { e with progress := .waiting pass (w.engine e.host).clears (w'.join e.host e.slot).2 }
  rw [flights_aim, heq]
  have hf' : (w'.engine e.host).flying e.slot = none := by
    rw [← hw]
    exact hf
  rw [show ({ (w'.join e.host e.slot).1 with tasks } : World).flights =
    (w'.join e.host e.slot).1.flights from rfl, length_join hf', ← hw]
  rfl

lemma passes_entered (w : World) (e : Emission) :
    ((w.enter e).engine e.host).passes = (w.engine e.host).passes + 1 := by
  unfold enter
  dsimp only
  obtain ⟨tasks, heq⟩ := setEmission_frame
    ((w.setEngine e.host ((w.engine e.host).enter e.slot).2).log
      (.entered e.host e.slot ((w.engine e.host).enter e.slot).1))
    { e with progress := .looking ((w.engine e.host).enter e.slot).1 }
  rw [heq]
  show ((w.setEngine e.host ((w.engine e.host).enter e.slot).2).engine e.host).passes = _
  rw [engine_setEngine, if_pos rfl]
  rfl

lemma valves_makeRecipe {w : World} {k : Work} (hp : w.party = .work k) (what : Announcement)
    (rest : Option Outcome → Recipe) :
    (w.makeRecipe (.hold what rest)).valves.length = w.valves.length + 1 := by
  unfold makeRecipe
  rw [hp]
  dsimp only
  generalize hw : World.log _ _ = w'
  obtain ⟨tasks, flights, heq⟩ := setWork_frame w' { k with stage := .held w.valves.length rest }
  rw [heq, ← hw]
  exact List.length_append

@[simp] lemma nextResult_land (w : World) (ticket : Nat) (f : Flight) (r : Result) :
    (w.land ticket f r).nextResult = w.nextResult := by
  unfold land
  dsimp only
  generalize hv : World.setFlight _ _ _ = v
  obtain ⟨_, _, _, _, heq⟩ := (fadingUnheld_wake v f.seats.waiters).rest
  rw [heq, ← hv]
  rfl

lemma nextResult_finishWork (w : World) (c : Content) :
    (w.finishWork c).nextResult = w.nextResult + 1 := by
  have hfinish := w.finishesWork c
  generalize w.finishWork c = w' at hfinish
  cases hfinish with
  | ends | misses => rfl
  | lands => exact nextResult_land _ _ _ _

/-- An emission that is about to deliver finds a cached result, or else something was cleared since it
looked. -/
def InTime (w : World) : Prop :=
  ∀ e pass clears, w.party = .emission e → e.progress = .ready pass clears →
    (w.engine e.host).cached e.slot = none → (w.engine e.host).clears ≠ clears

lemma Sane.inTime {w : World} (h : w.Sane) : w.InTime := by
  intro e pass clears hp hready hc hclears
  obtain ⟨-, t, -, he⟩ := emission?_of_party h.poised.steady hp
  have hx := errand?_of_emission? he
  refine h.sound.timely.not_fatal hx (show e.progress.phase = .ready pass _ from ?_) hc
  rw [hready, ← hclears]
  rfl

/-- What the subscriber that is acting does next, and what it does after that. -/
def script (w : World) : List Action :=
  match w.focus, w.party with
  | .emission, .emission e => e.progress.script
  | _, _ => []

/-- What is about no node is noticed wherever it is done. -/
def overhear (w : World) : List Action → World
  | [] => w
  | a :: _ => (w.perform a).1

namespace Lead

variable {S T : Side} {v u w : World} {e e' : Emission}

lemma actNext (h : Lead S T v u w) (he : e.Resembles S e') (pass : Pass) (r : Result)
    {rest : List Nat} (hrest : ∀ c ∈ rest, S.own (S.subscriber c) = true) (callback : String)
    {script : List Action} (hs : ∀ a ∈ script, a.Neutral) :
    Lead S T (v.actNext e' pass r rest callback script) (u.overhear script)
      (w.actNext e (pass.rename S e'.host) (r.rename S) (rest.map S.subscriber) callback script) := by
  obtain @⟨host, slot, p, p', ho, hp⟩ := he
  cases script with
  | nil => exact h.setEmission (.of ho (.calling pass r hrest))
  | cons a script =>
    have ha := hs a List.mem_cons_self
    have hdone := h.neutral ha
    have hgo : ∀ {v' u' w' : World} (reply reply' : Reply), Lead S T v' u' w' →
        Lead S T ((v'.log (.acted callback reply')).setEmission
            ⟨host, slot, .acting pass r rest callback script⟩) u'
          ((w'.log (.acted callback reply)).setEmission ⟨host, slot, .acting (pass.rename S host)
            (r.rename S) (rest.map S.subscriber) callback script⟩) :=
      fun reply reply' h' => ((h'.log_own rfl).log_whole rfl).setEmission
        (.of ho (.acting pass r hrest callback script))
    cases a with
    | settle | unknown _ | setCell _ _ | dropSubscription _ | dropCallback _ => exact hgo _ _ hdone
    | panic text => exact hdone.breakDown .subscriber text
    | _ => exact ha.elim

lemma goOn (h : Lead S T v u w) (hr : v.running ≠ none) (hf : v.focus = .emission)
    (hg : Grants S w w.goOn) (hv : v.InTime) (hw : w.InTime)
    (hk : ∀ e pass r rest, v.party = .emission e → e.progress = .calling pass r rest →
      ∀ c ∈ rest, c < v.subscribers.length)
    (hs : ∀ a ∈ v.script, a.Neutral) :
    Lead S T v.goOn (u.overhear v.script) w.goOn := by
  have hp := h.party
  have hstall := h.shift .stall rfl
  unfold World.script at hs ⊢
  rw [hf] at hs ⊢
  unfold World.goOn at hg ⊢
  unfold InTime at hv hw
  generalize w.party = p at hp hg hw
  generalize v.party = p' at hp hk hv hs
  cases hp with
  | @emission e e' he =>
    have he' := he
    obtain @⟨host, slot, p, p', ho, hp⟩ := he
    cases hp with
    | fresh =>
      have hnext := hg.next (.pass host) (passes_entered w ⟨host, slot, .fresh⟩)
      exact h.enter he' ((h.own.engine host).passes.next (S.strictMono _) hnext)
    | looking pass =>
      refine h.look he' pass fun hc hfly => h.own.flights.counts.next (S.strictMono _) ?_
      exact hg.next .flight
        (length_look (e := ⟨host, slot, .looking (pass.rename S host)⟩) _ hc hfly)
    | waiting pass clears clears' own => exact h.shift (.poll own) rfl
    | ready pass clears clears' =>
      exact h.approach hr he' pass (hv ⟨host, slot, .ready pass clears'⟩ pass clears' rfl rfl)
        (hw ⟨host, slot, .ready (pass.rename S host) clears⟩ _ clears rfl rfl)
    | @calling pass r rest own =>
      exact h.callNext he' pass r fun c hc => ⟨own c hc, hk _ pass r rest rfl rfl c hc⟩
    | acting pass r own callback script => exact h.actNext he' pass r own callback hs
  | _ => exact hstall

lemma script (h : Lead S T v u w) : w.script = v.script := by
  have hp := h.party
  have hf := h.focus
  unfold World.script
  rw [hf]
  cases v.focus with
  | emission =>
    generalize w.party = p at hp
    generalize v.party = p' at hp
    cases hp with
    | emission he =>
      obtain ⟨-, hp⟩ := he
      cases hp <;> rfl
    | _ => rfl
  | _ => rfl

/-- What the leading strand does next, the whole does. -/
lemma step (h : Lead S T v u w) (hr : v.focus ≠ .idle → v.running ≠ none)
    (hg : Grants S w w.step) (hv : v.InTime) (hw : w.InTime)
    (hk : ∀ e pass r rest, v.party = .emission e → e.progress = .calling pass r rest →
      ∀ c ∈ rest, c < v.subscribers.length)
    (hs : ∀ a ∈ v.script, a.Neutral) :
    Lead S T v.step (u.overhear v.script) w.step := by
  -- only a subscriber that is called by an emission acts
  have hquiet : v.focus ≠ .emission → u.overhear v.script = u := by
    intro hne
    unfold World.script
    cases hf : v.focus with
    | emission => exact absurd hf hne
    | _ => rfl
  unfold World.step at hg ⊢
  rw [h.focus] at hg ⊢
  by_cases hf : v.focus = .emission
  · rw [hf] at hg hr ⊢
    exact h.goOn (hr (by rintro ⟨⟩)) hf hg hv hw hk hs
  rw [hquiet hf]
  cases hfocus : v.focus with
  | emission => exact absurd hfocus hf
  | idle => exact h
  | resume =>
    rw [hfocus] at hg hr
    refine h.resumeTask (hr (by rintro ⟨⟩)) fun host slot hj hc hfly =>
      h.own.flights.counts.next (S.strictMono _) ?_
    have hjob := h.job
    rw [hj] at hjob
    have hjw : w.job = .output host slot none := by
      generalize w.job = j at hjob
      cases hjob
      rfl
    exact hg.next .flight (length_resumeTask hjw hc hfly)
  | work => exact h.resumeWork (hr (by rw [hfocus]; rintro ⟨⟩))
  | make recipe =>
    rw [hfocus] at hg
    refine h.makeRecipe (h.alone recipe hfocus) fun k what rest hp hrecipe =>
      h.own.valves.counts.next (S.strictMono _) ?_
    subst hrecipe
    exact hg.next .valve (valves_makeRecipe hp what rest)
  | made c =>
    rw [hfocus] at hg
    have hnext := hg.next .result (nextResult_finishWork w c)
    exact h.finishWork (h.own.results.next (S.strictMono _) hnext) c
  | poll own => exact h.pollFlight (hr (by rw [hfocus]; rintro ⟨⟩)) own
  | answer r => exact h.handAnswer r
  | stall => exact h.stall
  | next finished => exact h.nextBranch finished
  | finish how => exact h.endTask how
  | panic text => exact h.unwind text

end Lead

end World

end Dataflow
