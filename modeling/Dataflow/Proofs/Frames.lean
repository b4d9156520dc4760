import Dataflow.Proofs.EmissionCases

/-!
# What waking and giving up leave as they are

To wake somebody, or to give up a share in a flight, changes queues, seats and the order in which the
branches of wide fans are polled, and it may lose flights that nobody holds. Two worlds that differ
in no more than that are `FadingUnheld`.
-/

namespace Dataflow

/-- A fan without the order in which its branches are polled. -/
def Fan.bare (f : Fan) : Fan :=
  { branches := f.branches, wide := f.wide, ready := [], recent := f.recent, cursor := f.cursor }

def Job.bare : Job → Job
  | .fan f => .fan f.bare
  | j => j

def Task.bare (task : Task) : Task := { task with job := task.job.bare, follower := none }

/-- A flight may be lost if it is idle, and otherwise differs in its seats alone. -/
def Flight.Fades (f f' : Flight) : Prop :=
  (∃ seats, f' = { f with seats }) ∨
    f.status = .idle ∧
      ∃ seats, f' = { work := { f.work with stage := .away }, status := .lost, seats }

lemma Flight.Fades.refl (f : Flight) : f.Fades f := .inl ⟨f.seats, rfl⟩

lemma Flight.Fades.trans {f f' f'' : Flight} (h : f.Fades f') (h' : f'.Fades f'') :
    f.Fades f'' := by
  rcases h with ⟨seats, rfl⟩ | ⟨hs, seats, rfl⟩
  · rcases h' with ⟨seats', rfl⟩ | ⟨hs', seats', rfl⟩
    · exact .inl ⟨seats', rfl⟩
    · exact .inr ⟨hs', seats', rfl⟩
  · rcases h' with ⟨seats', rfl⟩ | ⟨hs', seats', rfl⟩
    · exact .inr ⟨hs, seats', rfl⟩
    · cases hs'

lemma Flight.Fades.work {f f' : Flight} (h : f.Fades f') :
    f'.work.host = f.work.host ∧ f'.work.slot = f.work.slot ∧ f'.work.target = f.work.target ∧
      (f'.work.stage = f.work.stage ∨ f'.work.stage = .away) := by
  rcases h with ⟨seats, rfl⟩ | ⟨-, seats, rfl⟩
  · exact ⟨rfl, rfl, rfl, .inl rfl⟩
  · exact ⟨rfl, rfl, rfl, .inr rfl⟩

@[simp] lemma Job.shares_bare (j : Job) : j.bare.shares = j.shares := by
  cases j <;> rfl

namespace World

/-- Somebody holds a share in the flight. -/
def Holds (w : World) (ticket : Nat) : Prop :=
  (∃ f, w.flights[ticket]? = some f ∧ (w.engine f.work.host).flying f.work.slot = some ticket) ∨
    (∃ task ∈ w.tasks, ∃ h ∈ task.job.shares, h.ticket = ticket) ∨
    ∃ f ∈ w.flights, ∃ h, f.work.share? = some h ∧ h.ticket = ticket

lemma held_iff (w : World) (ticket : Nat) : w.held ticket = true ↔ w.Holds ticket := by
  unfold held Holds
  rw [Bool.or_eq_true, Bool.or_eq_true, or_assoc]
  apply or_congr
  · cases w.flights[ticket]? with
    | none => simp
    | some f => simp
  · simp [Option.any_eq_true]

lemma live_iff {w : World} {t : Nat} :
    w.live t = true ↔ ∃ task, w.tasks[t]? = some task ∧ task.ended = none := by
  unfold live
  cases w.tasks[t]? with
  | none => simp
  | some task => simp

/-- What comes of a task that is woken. -/
inductive Enqueues (w : World) (t : Nat) : World → Prop where
  | ended (hl : w.live t = false) : Enqueues w t w
  | runs (hr : w.running = some t) : Enqueues w t { w with rewoken := true }
  | waits (hq : t ∈ w.queue) : Enqueues w t w
  | queues (hl : w.live t = true) (hr : w.running ≠ some t) (hq : t ∉ w.queue) :
      Enqueues w t { w with queue := w.queue ++ [t] }

lemma enqueues (w : World) (t : Nat) : w.Enqueues t (w.enqueue t) := by
  unfold enqueue
  cases hl : w.live t with
  | false => exact .ended hl
  | true =>
    by_cases hr : w.running = some t
    · simpa [hr] using Enqueues.runs hr
    · by_cases hq : t ∈ w.queue
      · simpa [hr, hq] using Enqueues.waits hq
      · simpa [hr, hq] using Enqueues.queues hl hr hq

/-- Nothing comes of stirring a task that polls no fan. -/
lemma stir_cases (w : World) (t key : Nat) :
    (∃ task f, w.tasks[t]? = some task ∧ task.job = .fan f ∧ ∃ w',
      w' = (w.modifyTask t fun task => { task with job := .fan (f.stir key) }) ∧
        (w.stir t key = w' ∨ w.stir t key = w'.enqueue t)) ∨ w.stir t key = w := by
  unfold stir
  cases ht : w.tasks[t]? with
  | none => exact .inr rfl
  | some task =>
    rw [Option.map_some]
    cases hj : task.job with
    | fan f =>
      refine .inl ⟨task, f, rfl, hj, _, rfl, ?_⟩
      dsimp only
      cases f.asleep key with
      | true => exact .inr rfl
      | false => exact .inl rfl
    | _ => exact .inr rfl

/-- Nobody waits for a flight that there is not. -/
lemma rouse_cases (w : World) (ticket : Nat) :
    (∃ f, w.flights[ticket]? = some f ∧
      w.rouse ticket = w.setFlight ticket { f with seats := f.seats.roused }) ∨
    w.rouse ticket = w := by
  unfold rouse
  cases hf : w.flights[ticket]? with
  | some f => exact .inl ⟨f, rfl, rfl⟩
  | none => exact .inr rfl

/-- On the queue are tasks that are not over and do not run, each of them once. -/
structure Queued (w : World) : Prop where
  nodup : w.queue.Nodup
  waits : ∀ t ∈ w.queue, w.live t = true ∧ w.running ≠ some t
  bound : ∀ t, w.running = some t → t < w.tasks.length

namespace Queued

variable {w w' : World}

lemma of_eq (h : w.Queued) (hq : w'.queue = w.queue)
    (hr : ∀ t, w'.running = some t → w.running = some t) (hlen : w.tasks.length ≤ w'.tasks.length)
    (hl : ∀ t, w.running ≠ some t → w.live t = true → w'.live t = true) : w'.Queued where
  nodup := hq ▸ h.nodup
  waits := fun t ht => by
    obtain ⟨hlive, hn⟩ := h.waits t (hq ▸ ht)
    exact ⟨hl t hn hlive, fun hr' => hn (hr t hr')⟩
  bound := fun t ht => Nat.lt_of_lt_of_le (h.bound t (hr t ht)) hlen

/-- Nothing changes that the queue depends on. -/
lemma same (h : w.Queued) (hq : w'.queue = w.queue) (hr : w'.running = w.running)
    (ht : w'.tasks = w.tasks) : w'.Queued :=
  h.of_eq hq (fun t hn => hr ▸ hn) (Nat.le_of_eq (by rw [ht])) fun t _ hl => by
    unfold live at hl ⊢
    rwa [ht]

/-- One more is put on the queue. -/
lemma push (h : w.Queued) {t : Nat} (hlive : w.live t = true) (hn : w.running ≠ some t)
    (hnew : t ∉ w.queue) : ({ w with queue := w.queue ++ [t] } : World).Queued where
  nodup := List.nodup_append.mpr ⟨h.nodup, by simp, fun a ha b hb => by
    rw [List.mem_singleton] at hb
    rintro rfl
    exact hnew (hb ▸ ha)⟩
  waits := fun i hi => by
    rcases List.mem_append.mp hi with hi | hi
    · exact h.waits i hi
    · rw [List.mem_singleton] at hi
      subst hi
      exact ⟨hlive, hn⟩
  bound := h.bound

/-- Where every task that does not run is over, nobody is on the queue. -/
lemma queue_eq_nil (h : w.Queued) (hover : ∀ t task, w.running ≠ some t → w.tasks[t]? = some task →
    task.ended.isSome = true) : w.queue = [] := by
  refine List.eq_nil_iff_forall_not_mem.mpr fun t ht => ?_
  obtain ⟨hlive, hn⟩ := h.waits t ht
  obtain ⟨task, hm, he⟩ := live_iff.mp hlive
  have hended := hover t task hn hm
  rw [he] at hended
  cases hended

end Queued

lemma Enqueues.queued {w w' : World} {t : Nat} (he : w.Enqueues t w') (h : w.Queued) : w'.Queued := by
  cases he with
  | ended | waits => exact h
  | runs => exact h.same rfl rfl rfl
  | queues hl hr hq => exact h.push hl hr hq

lemma Queued.enqueue {w : World} (h : w.Queued) (t : Nat) : (w.enqueue t).Queued :=
  (w.enqueues t).queued h

/-- The two differ in queues, seats, the order of polling and lost flights at most. -/
structure Fading (w w' : World) : Prop where
  rest : ∃ tasks flights queue rewoken, w' = { w with tasks, flights, queue, rewoken }
  tasks : w'.tasks.map Task.bare = w.tasks.map Task.bare
  length : w'.flights.length = w.flights.length
  flights : ∀ (ticket : Nat) f f', w.flights[ticket]? = some f → w'.flights[ticket]? = some f' →
    f.Fades f'
  queue : w.Queued → w'.Queued

/-- Besides, only such flights are lost as nobody holds. -/
structure FadingUnheld (w w' : World) : Prop extends Fading w w' where
  lost : ∀ (ticket : Nat) f f', w.flights[ticket]? = some f → w'.flights[ticket]? = some f' →
    f'.status = .lost → f.status = .lost ∨ ¬w'.Holds ticket

variable {w w' w'' : World}

lemma Fading.running (h : Fading w w') : w'.running = w.running := by
  obtain ⟨_, _, _, _, rfl⟩ := h.rest
  rfl

lemma Fading.driving (h : Fading w w') : w'.driving = w.driving := by
  obtain ⟨_, _, _, _, rfl⟩ := h.rest
  rfl

lemma Fading.focus (h : Fading w w') : w'.focus = w.focus := by
  obtain ⟨_, _, _, _, rfl⟩ := h.rest
  rfl

lemma Fading.journal (h : Fading w w') : w'.journal = w.journal := by
  obtain ⟨_, _, _, _, rfl⟩ := h.rest
  rfl

lemma Fading.engine (h : Fading w w') : w'.engine = w.engine := by
  obtain ⟨_, _, _, _, rfl⟩ := h.rest
  rfl

/-- What cannot fade at all. -/
lemma Fading.frame (h : Fading w w') : w'.runtime = w.runtime ∧ w'.policy = w.policy ∧
    w'.subscribers = w.subscribers ∧ w'.callbacks = w.callbacks ∧
    w'.subscriptions = w.subscriptions ∧ w'.nextResult = w.nextResult := by
  obtain ⟨_, _, _, _, rfl⟩ := h.rest
  exact ⟨rfl, rfl, rfl, rfl, rfl, rfl⟩

lemma Fading.flight (h : Fading w w') {ticket : Nat} {f' : Flight}
    (hf' : w'.flights[ticket]? = some f') :
    ∃ f, w.flights[ticket]? = some f ∧ f.Fades f' := by
  have hlt : ticket < w.flights.length := by
    rw [← h.length]
    exact (List.getElem?_eq_some_iff.mp hf').1
  have hf := List.getElem?_eq_getElem hlt
  exact ⟨_, hf, h.flights ticket _ f' hf hf'⟩

lemma Fading.task (h : Fading w w') {t : Nat} {task' : Task}
    (ht : w'.tasks[t]? = some task') :
    ∃ task, w.tasks[t]? = some task ∧ task.bare = task'.bare := by
  have hb : (w.tasks.map Task.bare)[t]? = some task'.bare := by
    rw [← h.tasks, List.getElem?_map, ht]
    rfl
  rw [List.getElem?_map, Option.map_eq_some_iff] at hb
  exact hb

/-- No share comes up. -/
lemma Fading.holds (h : Fading w w') {ticket : Nat} (hh : w'.Holds ticket) :
    w.Holds ticket := by
  rcases hh with ⟨f', hf', hfly⟩ | ⟨task', ht', own, ho, rfl⟩ | ⟨f', hf', own, ho, rfl⟩
  · obtain ⟨f, hf, hfade⟩ := h.flight hf'
    obtain ⟨hhost, hslot, -, -⟩ := hfade.work
    obtain ⟨_, _, _, _, rfl⟩ := h.rest
    refine .inl ⟨f, hf, ?_⟩
    rw [← hhost, ← hslot]
    exact hfly
  · obtain ⟨t, ht⟩ := List.mem_iff_getElem?.mp ht'
    obtain ⟨task, hm, hb⟩ := h.task ht
    refine .inr (.inl ⟨task, List.mem_of_getElem? hm, own, ?_, rfl⟩)
    have hs : task.job.shares = task'.job.shares := by
      rw [← Job.shares_bare, ← Job.shares_bare task'.job]
      exact congrArg (fun task : Task => task.job.shares) hb
    rw [hs]
    exact ho
  · obtain ⟨i, hi⟩ := List.mem_iff_getElem?.mp hf'
    obtain ⟨f, hf, hfade⟩ := h.flight hi
    refine .inr (.inr ⟨f, List.mem_of_getElem? hf, own, ?_, rfl⟩)
    rcases hfade.work.2.2.2 with hst | hst
    · rw [Work.share?, hst] at ho
      exact ho
    · rw [Work.share?, hst] at ho
      cases ho

lemma Fading.trans (h : Fading w w') (h' : Fading w' w'') : Fading w w'' := by
  refine ⟨?_, h'.tasks.trans h.tasks, h'.length.trans h.length, ?_, fun hq => h'.queue (h.queue hq)⟩
  · obtain ⟨_, _, _, _, rfl⟩ := h.rest
    obtain ⟨_, _, _, _, rfl⟩ := h'.rest
    exact ⟨_, _, _, _, rfl⟩
  · intro ticket f f'' hf hf''
    obtain ⟨f', hf', hfade⟩ := h'.flight hf''
    exact (h.flights ticket f f' hf hf').trans hfade

/-- Where the flights are the same, none is lost. -/
lemma Fading.fades (h : Fading w w') (hf : w'.flights = w.flights) : FadingUnheld w w' := by
  refine ⟨h, ?_⟩
  intro ticket f f' hf₁ hf₂ hs
  rw [hf, hf₁] at hf₂
  cases hf₂
  exact .inl hs

lemma Fading.refl (w : World) : Fading w w := by
  refine ⟨⟨_, _, _, _, rfl⟩, rfl, rfl, ?_, id⟩
  intro ticket f f' h h'
  rw [h] at h'
  cases h'
  exact .refl f

lemma FadingUnheld.refl (w : World) : FadingUnheld w w := (Fading.refl w).fades rfl

lemma FadingUnheld.trans (h : FadingUnheld w w') (h' : FadingUnheld w' w'') : FadingUnheld w w'' := by
  refine ⟨h.toFading.trans h'.toFading, ?_⟩
  intro ticket f f'' hf hf'' hs
  obtain ⟨f', hf', -⟩ := h'.flight hf''
  rcases h'.lost ticket f' f'' hf' hf'' hs with hs' | hn
  · rcases h.lost ticket f f' hf hf' hs' with hs'' | hn
    · exact .inl hs''
    · exact .inr fun hh => hn (h'.holds hh)
  · exact .inr hn

lemma fading_setFlight (w : World) (ticket : Nat) {f f' : Flight}
    (hf : w.flights[ticket]? = some f) (h : f.Fades f') : Fading w (w.setFlight ticket f') := by
  refine ⟨⟨_, _, _, _, rfl⟩, rfl, by simp [setFlight], ?_,
    fun hq => hq.same rfl rfl rfl⟩
  intro i g g' hg hg'
  by_cases hi : ticket = i
  · subst hi
    rw [setFlight, List.getElem?_set_self (List.getElem?_eq_some_iff.mp hf).1] at hg'
    rw [hf] at hg
    cases hg
    cases hg'
    exact h
  · rw [setFlight, List.getElem?_set_ne hi, hg] at hg'
    cases hg'
    exact .refl g

lemma fadingUnheld_setFlight (w : World) (ticket : Nat) {f f' : Flight}
    (hf : w.flights[ticket]? = some f) (h : f.Fades f')
    (hl : f'.status = .lost → f.status = .lost ∨ ¬w.Holds ticket) :
    FadingUnheld w (w.setFlight ticket f') := by
  have hfade := fading_setFlight w ticket hf h
  refine ⟨hfade, ?_⟩
  intro i g g' hg hg' hs
  by_cases hi : ticket = i
  · subst hi
    rw [setFlight, List.getElem?_set_self (List.getElem?_eq_some_iff.mp hf).1] at hg'
    rw [hf] at hg
    cases hg
    cases hg'
    rcases hl hs with hl | hn
    · exact .inl hl
    · exact .inr fun hh => hn (hfade.holds hh)
  · rw [setFlight, List.getElem?_set_ne hi, hg] at hg'
    cases hg'
    exact .inl hs

lemma fadingUnheld_modifyTask (w : World) (t : Nat) (g : Task → Task)
    (hg : ∀ task, w.tasks[t]? = some task → (g task).bare = task.bare) :
    FadingUnheld w (w.modifyTask t g) := by
  unfold modifyTask
  cases ht : w.tasks[t]? with
  | none => exact .refl w
  | some task =>
    have hm : (w.tasks.set t (g task)).map Task.bare = w.tasks.map Task.bare := by
      rw [List.map_set, hg task ht]
      apply List.ext_getElem?
      intro i
      by_cases hi : t = i
      · subst hi
        rw [List.getElem?_set_self (by simp [(List.getElem?_eq_some_iff.mp ht).1])]
        simp [ht]
      · rw [List.getElem?_set_ne hi]
    refine Fading.fades ⟨⟨_, _, _, _, rfl⟩, hm, rfl, (Fading.refl w).flights, fun hq =>
      hq.of_eq rfl (fun _ hn => hn) (by simp) fun i _ hl => ?_⟩ rfl
    unfold live at hl ⊢
    dsimp only
    by_cases hi : t = i
    · subst hi
      rw [ht] at hl
      rw [List.getElem?_set_self (List.getElem?_eq_some_iff.mp ht).1]
      have he : (g task).ended = task.ended :=
        (congrArg Task.ended (hg task ht) : (g task).bare.ended = task.bare.ended)
      dsimp only at hl ⊢
      rwa [he]
    · rwa [List.getElem?_set_ne hi]

lemma Enqueues.fadingUnheld {t : Nat} (h : w.Enqueues t w') : FadingUnheld w w' := by
  have hq : w.Queued → w'.Queued := h.queued
  cases h with
  | ended | waits => exact .refl w
  | runs | queues =>
    exact Fading.fades ⟨⟨_, _, _, _, rfl⟩, rfl, rfl, (Fading.refl w).flights, hq⟩ rfl

lemma fadingUnheld_enqueue (w : World) (t : Nat) : FadingUnheld w (w.enqueue t) :=
  (w.enqueues t).fadingUnheld

lemma fadingUnheld_stir (w : World) (t key : Nat) : FadingUnheld w (w.stir t key) := by
  rcases w.stir_cases t key with ⟨task, f, ht, hj, w', rfl, heq⟩ | heq
  · have hm : FadingUnheld w (w.modifyTask t fun task => { task with job := .fan (f.stir key) }) := by
      refine fadingUnheld_modifyTask w t _ fun task' ht' => ?_
      rw [ht] at ht'
      cases ht'
      simp [Task.bare, hj, Job.bare, Fan.bare, Fan.stir]
    rcases heq with heq | heq <;> rw [heq]
    · exact hm
    · exact hm.trans (fadingUnheld_enqueue _ t)
  · rw [heq]
    exact .refl w

lemma fadingUnheld_rouse (w : World) (ticket : Nat) : FadingUnheld w (w.rouse ticket) := by
  rcases w.rouse_cases ticket with ⟨f, hf, heq⟩ | heq <;> rw [heq]
  · exact fadingUnheld_setFlight w ticket hf (.inl ⟨_, rfl⟩) .inl
  · exact .refl w

lemma fadingUnheld_wakeWithin (k : Nat) (waiters : List Waiter) (w : World) :
    FadingUnheld w (wakeWithin k waiters w) := by
  induction k generalizing waiters w with
  | zero => exact .refl w
  | succ k ih =>
    cases waiters with
    | nil => exact .refl w
    | cons waiter rest =>
      cases waiter with
      | task t => exact (fadingUnheld_enqueue w t).trans (ih rest _)
      | branch t key => exact (fadingUnheld_stir w t key).trans (ih rest _)
      | flight f => exact (fadingUnheld_rouse w f).trans (ih _ _)

lemma fadingUnheld_wake (w : World) (waiters : List Waiter) : FadingUnheld w (w.wake waiters) :=
  fadingUnheld_wakeWithin _ waiters w

lemma fadingUnheld_vacate (w : World) (h : Handle) : FadingUnheld w (w.vacate h) := by
  unfold vacate
  cases hf : w.flights[h.ticket]? with
  | none => exact .refl w
  | some f =>
    cases h.seat with
    | none => exact .refl w
    | some seat =>
      have hup : FadingUnheld w (w.setFlight h.ticket { f with seats := f.seats.giveUp seat }) :=
        fadingUnheld_setFlight w h.ticket hf (.inl ⟨_, rfl⟩) .inl
      dsimp only
      cases hs : f.status with
      | landed r => exact .refl w
      | _ => simpa only [hs] using hup

/-- An idle flight that nobody holds is lost. -/
lemma fadingUnheld_lose (w : World) {ticket : Nat} {f : Flight} (hf : w.flights[ticket]? = some f)
    (hs : f.status = .idle) (hn : w.held ticket = false) : FadingUnheld w
      (w.setFlight ticket { f with work := { f.work with stage := .away }, status := .lost }) := by
  refine fadingUnheld_setFlight w ticket hf (.inr ⟨hs, f.seats, rfl⟩) fun _ => .inr fun hh => ?_
  rw [(held_iff _ _).mpr hh] at hn
  cases hn

lemma fadingUnheld_releaseWithin (k : Nat) (kept : List Nat) (h : Handle) (w : World) :
    FadingUnheld w (releaseWithin k kept h w) := by
  induction k generalizing h w with
  | zero => exact .refl w
  | succ k ih =>
    refine (fadingUnheld_vacate w h).trans ?_
    simp only [releaseWithin]
    cases hf : (w.vacate h).flights[h.ticket]? with
    | none => exact .refl _
    | some f =>
      dsimp only
      cases hs : f.status with
      | idle =>
        dsimp only
        by_cases hkept : (kept.contains h.ticket || (w.vacate h).held h.ticket) = true
        · rw [if_pos hkept]
          exact .refl _
        · rw [if_neg hkept]
          rw [Bool.or_eq_true, not_or, Bool.not_eq_true, Bool.not_eq_true] at hkept
          have hset := fadingUnheld_lose (w.vacate h) hf hs hkept.2
          cases f.work.share? with
          | some own => exact hset.trans (ih _ _)
          | none => exact hset
      | _ => exact .refl _

lemma fadingUnheld_release (w : World) (kept : List Nat) (h : Handle) : FadingUnheld w (w.release kept h) :=
  fadingUnheld_releaseWithin _ kept h w

lemma fadingUnheld_releaseAll (tickets : List Nat) (w : World) : FadingUnheld w (releaseAll tickets w) := by
  induction tickets generalizing w with
  | nil => exact .refl w
  | cons ticket rest ih => exact (fadingUnheld_release w rest { ticket }).trans (ih _)

lemma fadingUnheld_ground (w : World) (before : Engine) (id : String) :
    FadingUnheld w (w.ground before id) :=
  fadingUnheld_releaseAll _ w

end World

end Dataflow
