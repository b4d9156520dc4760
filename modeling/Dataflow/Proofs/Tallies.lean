import Dataflow.Proofs.LeadingSteps

/-!
# Numbers are handed out once

Numbers that were handed out stay so, whatever a world does. New subscribers come up by actions that
name one, and not in the course of a task whose subscribers do nothing to pipelines.
-/

namespace Dataflow

/-- What is about no node names no subscriber. -/
lemma Action.Neutral.callback?_eq_none {a : Action} (h : a.Neutral) : a.callback? = none := by
  cases a with
  | subscribe | unsubscribe => exact h.elim
  | _ => rfl

namespace World

/-- No number was taken back, and no subscriber has come up. -/
structure Retains (w w' : World) : Prop where
  handedOut : ∀ k, w.handedOut k ≤ w'.handedOut k
  subscribers : w'.subscribers.length = w.subscribers.length

/-- Besides, the task that runs goes on running. -/
structure Adds (w w' : World) : Prop extends Retains w w' where
  running : w'.running = w.running

/-- Besides, the task that runs goes on running, or else none does. -/
structure Ticks (w w' : World) : Prop extends Retains w w' where
  running : w'.running = w.running ∨ w'.focus = .idle

variable {w w' w'' : World}

lemma Adds.refl (w : World) : Adds w w := ⟨⟨fun _ => Nat.le_refl _, rfl⟩, rfl⟩

lemma Retains.trans (h : Retains w w') (h' : Retains w' w'') : Retains w w'' :=
  ⟨fun k => Nat.le_trans (h.handedOut k) (h'.handedOut k), h'.subscribers.trans h.subscribers⟩

lemma Adds.trans (h : Adds w w') (h' : Adds w' w'') : Adds w w'' :=
  ⟨h.toRetains.trans h'.toRetains, h'.running.trans h.running⟩

lemma retains_of_eq (hn : w'.handedOut = w.handedOut) (hs : w'.subscribers = w.subscribers) :
    Retains w w' :=
  ⟨fun _ => hn ▸ Nat.le_refl _, hs ▸ rfl⟩

lemma adds_fading (h : Fading w w') : Adds w w' := by
  have htasks := congrArg List.length h.tasks
  rw [List.length_map, List.length_map] at htasks
  obtain ⟨-, -, hs, -, -, hr⟩ := h.frame
  have hengine := h.engine
  have hvalves : w'.valves = w.valves := by
    obtain ⟨_, _, _, _, rfl⟩ := h.rest
    rfl
  refine ⟨⟨fun k => ?_, by rw [hs]⟩, h.running⟩
  cases k with
  | flight => exact h.length.ge
  | task => exact htasks.ge
  | valve => exact (congrArg List.length hvalves).ge
  | result => exact hr.ge
  | pass host => exact (congrArg Engine.passes (congrFun hengine host)).ge

lemma adds_engines {pipelines : Table String Pipeline}
    (hp : ∀ i, (w.engine i).passes ≤ (World.engine { w with pipelines } i).passes) :
    Adds w { w with pipelines } := by
  refine ⟨⟨fun k => ?_, rfl⟩, rfl⟩
  cases k with
  | pass i => exact hp i
  | _ => exact Nat.le_refl _

lemma adds_setTask (w : World) (t : Nat) (task : Task) :
    Adds w { w with tasks := w.tasks.set t task } := by
  refine ⟨⟨fun k => ?_, rfl⟩, rfl⟩
  cases k with
  | task => exact List.length_set.ge
  | _ => exact Nat.le_refl _

lemma adds_withdraw (w : World) (host : String) (s : Slot) (c : Nat) :
    Adds w (w.withdraw host s c) := by
  refine ⟨⟨fun k => ?_, rfl⟩, rfl⟩
  cases k with
  | pass i =>
    show (w.engine i).passes ≤ ((w.setEngine host ((w.engine host).unsubscribe s c)).engine i).passes
    rw [engine_setEngine]
    by_cases hi : host = i
    · rw [if_pos hi]
      exact hi ▸ (Engine.keepsGates_unsubscribe _ s c).2.ge
    · exact Nat.le_of_eq (by rw [if_neg hi])
  | _ => exact Nat.le_refl _

lemma adds_spawn (w : World) (task : Task) : Adds w (w.spawn task).1 := by
  refine ⟨⟨fun k => ?_, rfl⟩, rfl⟩
  cases k with
  | task => exact (List.prefix_append w.tasks _).length_le
  | _ => exact Nat.le_refl _

/-- What brings no subscriber up takes no number back. -/
lemma adds_edit (h : Edit (fun a => a.callback? = none) w w') : Adds w w' := by
  cases h with
  | aside | keeps | forgets | notes => exact ⟨⟨fun _ => Nat.le_refl _, rfl⟩, rfl⟩
  | @awaits name sub s lent =>
    have hover : Adds w (w.handOver sub s lent) := ⟨⟨fun _ => Nat.le_refl _, rfl⟩, rfl⟩
    exact hover.trans (adds_spawn _ _)
  | withdraws => exact adds_withdraw w _ _ _
  | engines hp => exact adds_engines hp
  | flights hl =>
    refine ⟨⟨fun k => ?_, rfl⟩, rfl⟩
    cases k with
    | flight => exact hl
    | _ => exact Nat.le_refl _
  | valves hl =>
    refine ⟨⟨fun k => ?_, rfl⟩, rfl⟩
    cases k with
    | valve => exact hl
    | _ => exact Nat.le_refl _
  | results =>
    refine ⟨⟨fun k => ?_, rfl⟩, rfl⟩
    cases k with
    | result => exact Nat.le_succ _
    | _ => exact Nat.le_refl _
  | calls hl => exact ⟨⟨fun _ => Nat.le_refl _, hl⟩, rfl⟩
  | enrols ha hc =>
    rw [ha] at hc
    cases hc
  | fades hf => exact adds_fading hf
  | works | cancels => exact adds_setTask w _ _
  | @ends t task hr ht how =>
    have hlogged : Adds w (World.log { w with
        tasks := w.tasks.set t { task with job := .nothing, ended := some how, holding := none } }
          (.ended t task.name how)) :=
      (adds_setTask w t _).trans ⟨⟨fun _ => Nat.le_refl _, rfl⟩, rfl⟩
    rcases putBack_cases (World.log { w with
        tasks := w.tasks.set t { task with job := .nothing, ended := some how, holding := none } }
          (.ended t task.name how)) task.holding how with heq | ⟨_, _, -, heq⟩ <;> rw [heq]
    · exact hlogged
    · exact hlogged.trans ⟨⟨fun _ => Nat.le_refl _, rfl⟩, rfl⟩
  | spawns => exact adds_spawn w _

lemma adds_edits (h : Edits (fun a => a.callback? = none) w w') : Adds w w' := by
  induction h with
  | refl => exact .refl _
  | tail _ he ih => exact ih.trans (adds_edit he)

lemma retains_poll (w : World) (t : Nat) : Retains w (w.poll t) := by
  rcases w.poll_cases t with heq | ⟨_, _, _, -, -, -, heq⟩ <;> rw [heq]
  · exact retains_of_eq rfl rfl
  · exact retains_of_eq rfl rfl

/-- Where the subscriber that acts names no subscriber, none comes up. -/
lemma ticks_step (h : w.Steady) (hs : ∀ a ∈ w.script, a.Neutral) : Ticks w w.step := by
  have hyields : EditsThenRests (fun a => a.callback? = none) w w.step := by
    refine editsThenRests_step h fun hf e hp a ha => (hs a ?_).callback?_eq_none
    unfold script
    rw [hf, hp]
    exact ha
  cases hyields with
  | goes h =>
    have hadds := adds_edits h
    exact ⟨hadds.toRetains, .inl hadds.running⟩
  | @rests v rewoken h hf =>
    have hrest : Retains w { v with running := none, rewoken, focus := .idle } :=
      (adds_edits h).toRetains.trans (retains_of_eq rfl rfl)
    exact ⟨hrest.trans (adds_fading hf).toRetains, .inr hf.focus⟩

/-- An action that names no subscriber brings none up. -/
lemma adds_perform (h : w.Steady) {a : Action} (ha : a.callback? = none) :
    Adds w (w.perform a).1 :=
  adds_edits (edits_perform h ha)

lemma adds_subscriberOf_use (w : World) (host callback : String) :
    Adds (w.subscriberOf callback).1 ((w.use host).subscriberOf callback).1 := by
  obtain ⟨pipelines, journal, heq, hengine⟩ := use_frame w host
  have hsub : ((w.use host).subscriberOf callback).1 =
      { (w.subscriberOf callback).1 with pipelines, journal } := by
    rw [heq]
    unfold subscriberOf
    dsimp only
    cases w.callbacks.get? callback <;> rfl
  have hof : ∀ w : World, (w.subscriberOf callback).1.engine = w.engine := by
    intro w
    obtain ⟨_, _, hw⟩ := subscriberOf_frame w callback
    rw [hw]
    rfl
  refine ⟨⟨fun k => ?_, by rw [hsub]⟩, by rw [hsub]⟩
  cases k with
  | pass i =>
    refine (congrArg Engine.passes ?_).ge
    rw [hof, hof, hengine]
  | _ =>
    rw [hsub]
    exact Nat.le_refl _

lemma handedOut_subscriberOf (w : World) (callback : String) :
    (w.subscriberOf callback).1.handedOut = w.handedOut := by
  obtain ⟨_, _, heq⟩ := subscriberOf_frame w callback
  rw [heq]
  rfl

/-- An action that names a subscriber brings up that one at most. -/
lemma adds_enrol (w : World) {a : Action} {callback : String} (ha : a.callback? = some callback) :
    Adds (w.subscriberOf callback).1 (w.perform a).1 := by
  cases a with
  | subscribe host sub s name =>
    cases ha
    exact (adds_subscriberOf_use w host callback).trans
      (adds_edits ((Touches.refl _).subscribe host sub s).edits)
  | unsubscribe host s name =>
    cases ha
    exact (adds_subscriberOf_use w host callback).trans (adds_withdraw _ _ _ _)
  | _ => cases ha

/-- No number is taken back by an action. -/
lemma handedOut_perform (h : w.Steady) (a : Action) (k : Numbered) :
    w.handedOut k ≤ (w.perform a).1.handedOut k := by
  cases ha : a.callback? with
  | none => exact (adds_perform h ha).handedOut k
  | some callback =>
    have hk := (adds_enrol w ha).handedOut k
    rw [handedOut_subscriberOf] at hk
    exact hk

/-- The script of whoever acts is made of what the scripts of the scene are made of. -/
lemma Sane.script {P : Action → Prop} (h : w.Sane) (ht : w.Tame P) : ∀ a ∈ w.script, P a := by
  unfold World.script
  cases w.focus with
  | emission =>
    cases hp : w.party with
    | emission e =>
      obtain ⟨-, t, -, he⟩ := emission?_of_party h.poised.steady hp
      exact ht t w.job.cursor e he
    | _ => rintro a ⟨⟩
  | _ => rintro a ⟨⟩

/-- Where subscribers do nothing to pipelines, a task runs unless the world is idle. -/
lemma Reachable.busy {sc : Scene} (h : Reachable sc.opening w)
    (ht : sc.opening.Told Action.Neutral) : w.focus = .idle ∨ w.running ≠ none := by
  induction h with
  | refl => exact .inl rfl
  | perform a w' reply hr hf ha _ =>
    have hcarry := (carries_perform (Scene.sane_of_reachable hr).poised.steady a).focus
    rw [ha] at hcarry
    exact .inl (hcarry.trans hf)
  | @poll w t _ hf _ =>
    rcases World.poll_cases { w with queue := w.queue.erase t } t with
      heq | ⟨_, _, _, -, -, -, heq⟩ <;> rw [heq]
    · exact .inl hf
    · exact .inr (by rintro ⟨⟩)
  | @step w hr ih =>
    rcases ih with hf | hrun
    · have hsame : w.step = w := by
        unfold World.step
        rw [hf]
      rw [hsame]
      exact .inl hf
    · have hs := (Scene.sane_of_reachable hr).script (hr.obeys ht).2
      rcases (ticks_step (Scene.sane_of_reachable hr).poised.steady hs).running with heq | hidle
      · exact .inr (heq ▸ hrun)
      · exact .inl hidle

end World

end Dataflow
