import Dataflow.Proofs.Edits

/-!
# What subscribers do when they are called

A subscriber that is called does what its script says, one action after the other. Nothing else that a
task does cancels a registration, so where the scripts do not either, nobody is taken off a roll while
subscribers are being called.
-/

namespace Dataflow

namespace World

variable {P : Action → Prop} {b : Bool} {w w' w'' : World}

/-- The scripts have subscribers do nothing else. -/
def Told (P : Action → Prop) (w : World) : Prop :=
  ∀ callback l script, w.scripts.get? callback = some l → script ∈ l → ∀ a ∈ script, P a

/-- Subscribers that are acting do nothing else. -/
def Tame (P : Action → Prop) (w : World) : Prop :=
  ∀ t i e, w.emission? t i = some e → ∀ a ∈ e.progress.script, P a

/-- Subscribers go by their scripts, and registrations are cancelled if `b` at most. -/
structure Obeys (P : Action → Prop) (b : Bool) (w w' : World) : Prop where
  scripts : w'.scripts = w.scripts
  journal : ∃ new, w'.journal = new ++ w.journal ∧ ∀ e ∈ new, e.isWithdrawal = true → b = true
  tame : w.Told P → w.Tame P → w'.Tame P

lemma Obeys.told (h : Obeys P b w w') (ht : w.Told P) : w'.Told P := by
  unfold Told
  rw [h.scripts]
  exact ht

lemma Obeys.trans (h : Obeys P b w w') (h' : Obeys P b w' w'') : Obeys P b w w'' where
  scripts := h'.scripts.trans h.scripts
  journal := by
    obtain ⟨new, hj, hn⟩ := h.journal
    obtain ⟨new', hj', hn'⟩ := h'.journal
    refine ⟨new' ++ new, by rw [hj', hj, List.append_assoc], fun e he => ?_⟩
    rcases List.mem_append.mp he with he | he
    · exact hn' e he
    · exact hn e he
  tame := fun ht hw => h'.tame (h.told ht) (h.tame ht hw)

lemma obeys_of_eq (hs : w'.scripts = w.scripts) (hj : w'.journal = w.journal)
    (ht : w'.tasks = w.tasks) : Obeys P b w w' := by
  refine ⟨hs, ⟨[], hj, fun e he => by cases he⟩, fun _ hw t i e he => hw t i e ?_⟩
  unfold emission? at he ⊢
  rw [ht] at he
  exact he

lemma Obeys.refl (w : World) : Obeys P b w w := obeys_of_eq rfl rfl rfl

lemma obeys_log (w : World) {e : Event} (he : e.isWithdrawal = true → b = true) :
    Obeys P b w (w.log e) := by
  refine ⟨rfl, ⟨[e], rfl, fun x hx => ?_⟩, fun _ hw => hw⟩
  rw [List.mem_singleton] at hx
  subst hx
  exact he

lemma obeys_fading (h : Fading w w') : Obeys P b w w' := by
  have hs : w'.scripts = w.scripts := by
    obtain ⟨_, _, _, _, rfl⟩ := h.rest
    rfl
  refine ⟨hs, ⟨[], h.journal, fun e he => by cases he⟩, fun _ hw t i e he => ?_⟩
  rw [emission?_fades h] at he
  exact hw t i e he

/-- Of a task that is tame its subscribers do nothing else. -/
lemma Tame.intends (hw : w.Tame P) {t : Nat} {task : Task} (ht : w.tasks[t]? = some task)
    {a : Action} (ha : task.job.Intends a) : P a := by
  obtain ⟨i, e, he, hm⟩ := ha
  exact hw t i e (Option.bind_eq_some_iff.mpr ⟨task, ht, he⟩) a hm

lemma obeys_setTask (w : World) (t : Nat) {task : Task}
    (hj : w.Told P → w.Tame P → ∀ a, task.job.Intends a → P a) :
    Obeys P b w { w with tasks := w.tasks.set t task } := by
  refine ⟨rfl, ⟨[], rfl, fun e he => by cases he⟩, fun ht hw u i e he a ha => ?_⟩
  obtain ⟨task', hm, he'⟩ := Option.bind_eq_some_iff.mp he
  rcases getElem?_set_cases hm with ⟨-, rfl⟩ | ⟨-, hm⟩
  · exact hj ht hw a ⟨i, e, he', ha⟩
  · exact hw.intends hm ⟨i, e, he', ha⟩

lemma obeys_spawn (w : World) {task : Task} (hj : ∀ a, ¬task.job.Intends a) :
    Obeys P b w (w.spawn task).1 := by
  refine ⟨rfl, ⟨[.started w.tasks.length task], rfl, fun x hx => ?_⟩, fun _ hw u i e he a ha => ?_⟩
  · rw [List.mem_singleton] at hx
    subst hx
    rintro ⟨⟩
  · obtain ⟨task', ht, he'⟩ := Option.bind_eq_some_iff.mp he
    rcases getElem?_concat_cases ht with ht | ⟨-, rfl⟩
    · exact hw.intends ht ⟨i, e, he', ha⟩
    · exact absurd ⟨i, e, he', ha⟩ (hj a)

lemma obeys_putBack (w : World) (holding : Option (String × Subscription)) (how : End) :
    Obeys P b w (w.putBack holding how) := by
  rcases putBack_cases w holding how with heq | ⟨_, _, -, heq⟩ <;> rw [heq]
  · exact .refl w
  · exact obeys_of_eq rfl rfl rfl

lemma obeys_edit (h : Edit (fun a => a.withdraws = true → b = true) w w') : Obeys P b w w' := by
  cases h with
  | aside | keeps | forgets | engines | flights | valves | results | calls =>
    exact obeys_of_eq rfl rfl rfl
  | @awaits name sub s lent hs hl hj =>
    have hover : Obeys P b w (w.handOver sub s lent) := obeys_of_eq rfl rfl rfl
    exact hover.trans (obeys_spawn _ hj.not_intends)
  | notes he =>
    refine obeys_log w fun hw => ?_
    rw [Event.isWithdrawal_of_isRemark he] at hw
    cases hw
  | @withdraws a ha hw host s c =>
    have hset : Obeys P b w (w.setEngine host ((w.engine host).unsubscribe s c)) :=
      obeys_of_eq rfl rfl rfl
    exact hset.trans (obeys_log _ fun _ => ha hw)
  | enrols =>
    obtain ⟨_, _, heq⟩ := subscriberOf_frame w _
    rw [heq]
    exact obeys_of_eq rfl rfl rfl
  | fades hf => exact obeys_fading hf
  | works _ ht hj =>
    refine obeys_setTask w _ fun htold hw a ha => ?_
    rcases hj.acts a ha with hold | ⟨callback, l, script, hl, hs, hm⟩
    · exact hw.intends ht hold
    · exact htold callback l script hl hs a hm
  | @ends t task hr ht how =>
    have hset : Obeys P b w { w with
        tasks := w.tasks.set t { task with job := .nothing, ended := some how, holding := none } } :=
      obeys_setTask w t fun _ _ a ha => absurd ha (not_intends_of_isPlain rfl a)
    exact (hset.trans (obeys_log _ (by rintro ⟨⟩))).trans (obeys_putBack _ _ _)
  | cancels ht => exact obeys_setTask w _ fun _ hw _ ha => hw.intends ht ha
  | spawns _ hj => exact obeys_spawn w hj.not_intends

lemma obeys_edits (h : Edits (fun a => a.withdraws = true → b = true) w w') : Obeys P b w w' := by
  induction h with
  | refl => exact .refl w
  | tail _ he ih => exact ih.trans (obeys_edit he)

lemma obeys_perform (h : w.Steady) (a : Action) : Obeys P a.withdraws w (w.perform a).1 :=
  obeys_edits (edits_perform h fun hw => hw)

lemma obeys_poll (w : World) (t : Nat) : Obeys P b w (w.poll t) := by
  rcases w.poll_cases t with heq | ⟨_, _, _, -, -, -, heq⟩
  · rw [heq]
    exact .refl w
  · rw [heq]
    exact obeys_of_eq rfl rfl rfl

/-- Subscribers go by their scripts in every step, and registrations are cancelled by one only that is
told to. -/
lemma obeys_step (h : w.Steady) (hb : ∀ e, w.party = .emission e →
    ∀ a ∈ e.progress.script, a.withdraws = true → b = true) : Obeys P b w w.step := by
  cases editsThenRests_step h fun _ => hb with
  | goes h => exact obeys_edits h
  | @rests v rewoken h hf =>
    have hrest : Obeys P b w { v with running := none, rewoken, focus := .idle } :=
      (obeys_edits h).trans (obeys_of_eq rfl rfl rfl)
    exact hrest.trans (obeys_fading hf)

/-- Where the scripts allow nothing else, no subscriber ever does anything else. -/
lemma Reachable.obeys {s : Scene} (h : Reachable s.opening w) (ht : s.opening.Told P) :
    w.Told P ∧ w.Tame P := by
  induction h with
  | refl => exact ⟨ht, fun t i e he => by cases he⟩
  | perform a w' reply hr _ ha ih =>
    have hp : Obeys P _ _ _ := obeys_perform (Scene.sane_of_reachable hr).poised.steady a
    rw [ha] at hp
    exact ⟨hp.told ih.1, hp.tame ih.1 ih.2⟩
  | @poll w t _ _ ih =>
    have hq : Obeys P true w { w with queue := w.queue.erase t } := obeys_of_eq rfl rfl rfl
    have hp := hq.trans (obeys_poll _ t)
    exact ⟨hp.told ih.1, hp.tame ih.1 ih.2⟩
  | step hr ih =>
    have hp : Obeys P true _ _ :=
      obeys_step (Scene.sane_of_reachable hr).poised.steady fun _ _ _ _ _ => rfl
    exact ⟨hp.told ih.1, hp.tame ih.1 ih.2⟩

end World

end Dataflow
