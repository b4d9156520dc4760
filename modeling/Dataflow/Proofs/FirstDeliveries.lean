import Dataflow.Proofs.Edits
import Dataflow.Proofs.Runs

/-!
# First deliveries

The first delivery of a subscription goes to the first task that waits for it. Whoever waits later finds
it taken, and the task that took it is over by then, however it ended.
-/

namespace Dataflow

namespace Journal

def HasEnded (l : List Event) (t : Nat) : Prop := ∃ name how, .ended t name how ∈ l

/-- The task was the first to wait for the subscription. -/
def Takes (l : List Event) (t : Nat) (sub : String) (s : Subscription) : Prop :=
  ∃ task, .started t task ∈ l ∧ task.holding = some (sub, s) ∧ task.job ≠ .nothing

/-- A task that begins to wait takes the first delivery, or the one that took it is over. -/
structure TakesOrFollows (past : List Event) (t : Nat) (task : Task) (sub : String) (s : Subscription) :
    Prop where
  free : s.borrower = none
  taken : ∃ t₀, s.delivery = .taken t₀ ∧
    (task.job ≠ .nothing ∧ t₀ = t ∨ task.job = .nothing ∧ Takes past t₀ sub s ∧ HasEnded past t₀)

/-- If the event starts a task that waits, this is what it waits for. -/
def StartsWaiting (past : List Event) (e : Event) : Prop :=
  ∀ t task sub s, e = .started t task → task.holding = some (sub, s) → TakesOrFollows past t task sub s

variable {l : List Event} {t : Nat} {sub : String} {s : Subscription} {e : Event}

lemma HasEnded.append (h : HasEnded l t) (new : List Event) : HasEnded (new ++ l) t := by
  obtain ⟨name, how, hm⟩ := h
  exact ⟨name, how, List.mem_append_right new hm⟩

lemma Takes.append (h : Takes l t sub s) (new : List Event) : Takes (new ++ l) t sub s := by
  obtain ⟨task, hm, hh, hj⟩ := h
  exact ⟨task, List.mem_append_right new hm, hh, hj⟩

lemma startsWaiting_of_isStart (he : e.isStart = false) (past : List Event) : StartsWaiting past e := by
  rintro t task sub s rfl
  cases he

lemma not_started_of_isStart (he : e.isStart = false) {task : Task} :
    Event.started t task ∉ [e] := by
  intro hm
  cases List.mem_singleton.mp hm
  cases he

end Journal

open Journal

namespace World

/-- Whoever has taken the first delivery of a subscription is over, or has borrowed it. -/
structure Lends (w : World) : Prop where
  taken : ∀ sub s t, w.subscriptions.get? sub = some s → s.delivery = .taken t →
    Takes w.journal t sub s.returned ∧ (HasEnded w.journal t ∨ s.borrower = some t)
  borrowed : ∀ sub s t, w.subscriptions.get? sub = some s → s.borrower = some t →
    s.delivery.isTaken = true ∨ Takes w.journal t sub (s.spent t)
  held : ∀ (t : Nat) task sub s, w.tasks[t]? = some task → task.holding = some (sub, s) →
    ∃ task₀, .started t task₀ ∈ w.journal ∧ task₀.holding = some (sub, s)
  ended : ∀ (t : Nat) task, w.tasks[t]? = some task → task.ended.isSome = true →
    HasEnded w.journal t
  bound : ∀ t task, .started t task ∈ w.journal → t < w.tasks.length
  begun : Throughout StartsWaiting w.journal

namespace Lends

variable {A : Action → Prop} {w w' : World}

/-- Tasks keep what they wait for, and end with a note of it. -/
lemma frame (h : w.Lends) (new : List Event) (hj : w'.journal = new ++ w.journal)
    (hs : w'.subscriptions = w.subscriptions) (hl : w.tasks.length ≤ w'.tasks.length)
    (hn : ∀ t task, .started t task ∈ new → t < w'.tasks.length)
    (hb : Throughout StartsWaiting w'.journal)
    (ht : ∀ (t : Nat) task', w'.tasks[t]? = some task' →
      (∀ p, task'.holding = some p → .started t task' ∈ new ∨
        ∃ task, w.tasks[t]? = some task ∧ task.holding = some p) ∧
      (task'.ended.isSome = true → HasEnded w'.journal t)) : w'.Lends where
  taken sub s t hm hd := by
    rw [hs] at hm
    obtain ⟨htake, hover⟩ := h.taken sub s t hm hd
    rw [hj]
    exact ⟨htake.append new, hover.imp_left fun he => he.append new⟩
  borrowed sub s t hm hb := by
    rw [hs] at hm
    rw [hj]
    exact (h.borrowed sub s t hm hb).imp_right fun htake => htake.append new
  held t task' sub s hm hh := by
    rw [hj]
    rcases (ht t task' hm).1 (sub, s) hh with hstart | ⟨task, htask, hholding⟩
    · exact ⟨task', List.mem_append_left _ hstart, hh⟩
    · obtain ⟨task₀, hstart, hheld⟩ := h.held t task sub s htask hholding
      exact ⟨task₀, List.mem_append_right new hstart, hheld⟩
  ended t task' hm he := (ht t task' hm).2 he
  bound t task hm := by
    rw [hj] at hm
    rcases List.mem_append.mp hm with hm | hm
    · exact hn t task hm
    · exact Nat.lt_of_lt_of_le (h.bound t task hm) hl
  begun := hb

lemma same (h : w.Lends) (hj : w'.journal = w.journal) (hs : w'.subscriptions = w.subscriptions)
    (ht : w'.tasks = w.tasks) : w'.Lends := by
  have hl : w.tasks.length = w'.tasks.length := (congrArg List.length ht).symm
  refine h.frame [] hj hs (Nat.le_of_eq hl) (by simp) (hj ▸ h.begun) fun t task hm => ?_
  rw [ht] at hm
  rw [hj]
  exact ⟨fun p hp => .inr ⟨task, hm, hp⟩, h.ended t task hm⟩

lemma log (h : w.Lends) {e : Event} (he : e.isStart = false) : (w.log e).Lends :=
  h.frame [e] rfl rfl (Nat.le_refl _) (fun _ _ hm => absurd hm (not_started_of_isStart he))
    ⟨startsWaiting_of_isStart he _, h.begun⟩ fun t task hm =>
      ⟨fun _ hp => .inr ⟨task, hm, hp⟩, fun hend => (h.ended t task hm hend).append [e]⟩

/-- A task changes and goes on waiting for what it waits for. -/
lemma setTask (h : w.Lends) {t : Nat} {task task' : Task} (ht : w.tasks[t]? = some task)
    (hh : task'.holding = task.holding) (he : task'.ended = task.ended) :
    ({ w with tasks := w.tasks.set t task' } : World).Lends := by
  refine h.frame [] rfl rfl (Nat.le_of_eq List.length_set.symm) (by simp) h.begun fun i x hm => ?_
  rcases getElem?_set_cases hm with ⟨rfl, rfl⟩ | ⟨-, hm⟩
  · exact ⟨fun p hp => .inr ⟨task, ht, hh.symm.trans hp⟩, fun hend => h.ended t task ht (he ▸ hend)⟩
  · exact ⟨fun p hp => .inr ⟨x, hm, hp⟩, h.ended i x hm⟩

lemma fading (h : w.Lends) (hf : Fading w w') : w'.Lends := by
  have hs : w'.subscriptions = w.subscriptions := by
    obtain ⟨_, _, _, _, rfl⟩ := hf.rest
    rfl
  have hl : w'.tasks.length = w.tasks.length := by
    have hlength := congrArg List.length hf.tasks
    rwa [List.length_map, List.length_map] at hlength
  refine h.frame [] hf.journal hs (Nat.le_of_eq hl.symm) (by simp)
    (hf.journal ▸ h.begun) fun t task' hm => ?_
  obtain ⟨task, ht, hb⟩ := hf.task hm
  obtain ⟨-, -, -, hended, hholding⟩ := Task.eq_of_bare hb
  rw [hf.journal]
  exact ⟨fun p hp => .inr ⟨task, ht, hholding.trans hp⟩,
    fun hend => h.ended t task ht (hended ▸ hend)⟩

lemma spawn (h : w.Lends) {task : Task} (he : task.ended = none)
    (hw : StartsWaiting w.journal (.started w.tasks.length task)) : (w.spawn task).1.Lends := by
  have hl : (w.spawn task).1.tasks.length = w.tasks.length + 1 := List.length_append
  refine h.frame [.started w.tasks.length task] rfl rfl (by omega) (fun t task' hm => ?_) ⟨hw, h.begun⟩
    fun t task' hm => ?_
  · cases List.mem_singleton.mp hm
    omega
  · rcases getElem?_concat_cases hm with hm | ⟨rfl, rfl⟩
    · exact ⟨fun p hp => .inr ⟨task', hm, hp⟩, fun hend => (h.ended t task' hm hend).append [_]⟩
    · refine ⟨fun _ _ => .inl List.mem_cons_self, fun hend => ?_⟩
      rw [he] at hend
      cases hend

/-- Other subscriptions are kept, or by other names. -/
lemma shelve (h : w.Lends) {subscriptions : Table String Subscription}
    (ht : ∀ sub s t, subscriptions.get? sub = some s → s.delivery = .taken t →
      Takes w.journal t sub s.returned ∧ (HasEnded w.journal t ∨ s.borrower = some t))
    (hb : ∀ sub s t, subscriptions.get? sub = some s → s.borrower = some t →
      s.delivery.isTaken = true ∨ Takes w.journal t sub (s.spent t)) :
    ({ w with subscriptions } : World).Lends :=
  { h with taken := ht, borrowed := hb }

lemma insert (h : w.Lends) {sub : String} {s : Subscription}
    (ht : ∀ t, s.delivery = .taken t →
      Takes w.journal t sub s.returned ∧ (HasEnded w.journal t ∨ s.borrower = some t))
    (hb : ∀ t, s.borrower = some t → s.delivery.isTaken = true ∨ Takes w.journal t sub (s.spent t)) :
    ({ w with subscriptions := w.subscriptions.insert sub s } : World).Lends := by
  have hcases : ∀ {name : String} {r : Subscription}, (w.subscriptions.insert sub s).get? name =
      some r → sub = name ∧ s = r ∨ w.subscriptions.get? name = some r := by
    intro name r hm
    rw [Table.get?_insert] at hm
    by_cases hn : sub = name
    · rw [if_pos hn] at hm
      exact .inl ⟨hn, Option.some.inj hm⟩
    · rw [if_neg hn] at hm
      exact .inr hm
  refine h.shelve (fun name r t hm hd => ?_) fun name r t hm hr => ?_
  · rcases hcases hm with ⟨rfl, rfl⟩ | hm
    · exact ht t hd
    · exact h.taken name r t hm hd
  · rcases hcases hm with ⟨rfl, rfl⟩ | hm
    · exact hb t hr
    · exact h.borrowed name r t hm hr

lemma erase (h : w.Lends) (sub : String) :
    ({ w with subscriptions := w.subscriptions.erase sub } : World).Lends := by
  have hold : ∀ {name : String} {r : Subscription}, (w.subscriptions.erase sub).get? name = some r →
      w.subscriptions.get? name = some r := by
    intro name r hm
    rw [Table.get?_erase] at hm
    by_cases hn : sub = name
    · rw [if_pos hn] at hm
      cases hm
    · rwa [if_neg hn] at hm
  exact h.shelve (fun name r t hm => h.taken name r t (hold hm))
    fun name r t hm => h.borrowed name r t (hold hm)

/-- Whoever took the delivery of a subscription that nobody has borrowed is over. -/
lemma taken_by_ended (h : w.Lends) {sub : String} {s : Subscription} {t : Nat}
    (hs : w.subscriptions.get? sub = some s) (hl : w.lent s = false) (hd : s.delivery = .taken t) :
    Takes w.journal t sub s.returned ∧ HasEnded w.journal t := by
  obtain ⟨htake, hended | hborrowed⟩ := h.taken sub s t hs hd
  · exact ⟨htake, hended⟩
  · have hlive : w.live t = false := by
      unfold World.lent at hl
      rw [hborrowed] at hl
      exact hl
    obtain ⟨task₀, hstart, hheld⟩ := htake
    have ht := List.getElem?_eq_getElem (h.bound t task₀ hstart)
    refine ⟨⟨task₀, hstart, hheld⟩, h.ended t _ ht ?_⟩
    refine Option.isSome_iff_ne_none.mpr fun hgoing => ?_
    rw [live_iff.mpr ⟨_, ht, hgoing⟩] at hlive
    cases hlive

/-- A task is handed the subscription whose first delivery it waits for. -/
lemma await (h : w.Lends) (name : String) {sub : String} {s : Subscription} {lent : Bool}
    (hs : w.subscriptions.get? sub = some s) (hl : w.lent s = false) :
    ((w.handOver sub s lent).spawn
      { name := some name
        job := s.delivery.job
        holding := some (sub, s.spent w.tasks.length) }).1.Lends := by
  have htakes : s.delivery.isTaken = false → s.delivery.job ≠ .nothing ∧
      (s.spent w.tasks.length).delivery = .taken w.tasks.length := by
    intro hd
    unfold Subscription.spent
    cases hdelivery : s.delivery with
    | spawned _ => exact ⟨by rintro ⟨⟩, rfl⟩
    | deferred _ => exact ⟨by rintro ⟨⟩, rfl⟩
    | taken t =>
      rw [hdelivery] at hd
      cases hd
  have hwaits : StartsWaiting w.journal (.started w.tasks.length
      { name := some name
        job := s.delivery.job
        holding := some (sub, s.spent w.tasks.length) }) := by
    rintro t task sub' s' ⟨⟩ ⟨⟩
    refine ⟨rfl, ?_⟩
    cases hd : s.delivery with
    | taken t₀ =>
      obtain ⟨htake, hended⟩ := h.taken_by_ended hs hl hd
      have hspent : s.spent w.tasks.length = s.returned := by
        simp [Subscription.spent, Subscription.returned, hd, Delivery.take]
      rw [hspent]
      exact ⟨t₀, hd, .inr ⟨rfl, htake, hended⟩⟩
    | _ =>
      have hfirst := htakes (by rw [hd]; rfl)
      rw [hd] at hfirst
      exact ⟨_, hfirst.2, .inl ⟨hfirst.1, rfl⟩⟩
  have hspawned := h.spawn rfl hwaits
  cases lent with
  | false => exact hspawned.erase sub
  | true =>
    refine hspawned.insert (fun t hd => ?_) fun t hb => ?_
    · obtain ⟨htake, hended⟩ := h.taken_by_ended hs hl hd
      exact ⟨htake.append [_], .inl (hended.append [_])⟩
    · cases hb
      by_cases hd : s.delivery.isTaken = true
      · exact .inl hd
      · exact .inr ⟨_, List.mem_cons_self, rfl, (htakes (Bool.eq_false_iff.mpr hd)).1⟩

lemma putBack (h : w.Lends) {t : Nat} {task₀ : Task} {holding : Option (String × Subscription)}
    (hs : ∀ p, holding = some p → .started t task₀ ∈ w.journal ∧ task₀.holding = some p)
    (he : HasEnded w.journal t) (how : End) : (w.putBack holding how).Lends := by
  rcases putBack_cases w holding how with heq | ⟨sub, s, rfl, heq⟩
  · rw [heq]
    exact h
  · obtain ⟨hstart, hheld⟩ := hs (sub, s) rfl
    obtain ⟨later, earlier, hsplit⟩ := List.append_of_mem hstart
    have hwaits : TakesOrFollows earlier t task₀ sub s :=
      (hsplit ▸ h.begun).fits t task₀ sub s rfl hheld
    have hreturned : s.returned = s := by
      rw [Subscription.returned, ← hwaits.free]
    obtain ⟨t₀, hd, hfirst⟩ := hwaits.taken
    have hmore : ∀ x ∈ earlier, x ∈ w.journal := by
      intro x hx
      rw [hsplit]
      exact List.mem_append_right later (List.mem_cons_of_mem _ hx)
    rw [heq]
    refine h.insert (fun u hu => ?_) fun u hu => ?_
    · rw [hreturned]
      obtain rfl : t₀ = u := Delivery.taken.inj (hd.symm.trans hu)
      rcases hfirst with ⟨hjob, rfl⟩ | ⟨-, ⟨task₁, hm, hh, hj⟩, name, how', hend⟩
      · exact ⟨⟨task₀, hstart, hheld, hjob⟩, .inl he⟩
      · exact ⟨⟨task₁, hmore _ hm, hh, hj⟩, .inl ⟨name, how', hmore _ hend⟩⟩
    · rw [hwaits.free] at hu
      cases hu

lemma close (h : w.Lends) {t : Nat} {task : Task} (ht : w.tasks[t]? = some task) (how : End) :
    ((World.log { w with
      tasks := w.tasks.set t { task with job := .nothing, ended := some how, holding := none } }
        (.ended t task.name how)).putBack task.holding how).Lends := by
  have hended : HasEnded (.ended t task.name how :: w.journal) t :=
    ⟨task.name, how, List.mem_cons_self⟩
  have hlogged : (World.log { w with
      tasks := w.tasks.set t { task with job := .nothing, ended := some how, holding := none } }
        (.ended t task.name how)).Lends := by
    refine h.frame [.ended t task.name how] rfl rfl (Nat.le_of_eq List.length_set.symm)
      (fun _ _ hm => absurd hm (not_started_of_isStart rfl)) ⟨startsWaiting_of_isStart rfl _, h.begun⟩
      fun i x hm => ?_
    rcases getElem?_set_cases hm with ⟨rfl, rfl⟩ | ⟨-, hm⟩
    · exact ⟨by rintro p ⟨⟩, fun _ => hended⟩
    · exact ⟨fun p hp => .inr ⟨x, hm, hp⟩, fun hend => (h.ended i x hm hend).append [_]⟩
  cases hh : task.holding with
  | none => cases how <;> exact hlogged
  | some p =>
    obtain ⟨task₀, hstart, hheld⟩ := h.held t task p.1 p.2 ht hh
    have hheld' : ∀ q, some p = some q → .started t task₀ ∈ .ended t task.name how :: w.journal ∧
        task₀.holding = some q := by
      rintro q ⟨⟩
      exact ⟨List.mem_cons_of_mem _ hstart, hheld⟩
    exact hlogged.putBack hheld' hended how

/-- A task that was lent a subscription takes the delivery that was left of it. -/
lemma takeDelivery (h : w.Lends) (t : Nat) (holding : Option (String × Subscription)) :
    (w.takeDelivery t holding).Lends := by
  unfold World.takeDelivery
  cases holding with
  | none => exact h
  | some p =>
    dsimp only
    cases hs : w.subscriptions.get? p.1 with
    | none => exact h
    | some s =>
      dsimp only
      by_cases hb : s.borrower = some t
      · rw [if_pos hb]
        refine h.insert (fun u hu => ?_) fun u _ => .inl (s.delivery.isTaken_take t)
        cases hd : s.delivery with
        | taken t₀ =>
          have htaken := h.taken p.1 s t₀ hs hd
          simp only [hd, Delivery.take, Delivery.taken.injEq] at hu
          subst hu
          simpa [Subscription.returned, hd, Delivery.take] using htaken
        | _ =>
          simp only [hd, Delivery.take, Delivery.taken.injEq] at hu
          subst hu
          have htakes := (h.borrowed p.1 s t hs hb).resolve_left (by rw [hd]; rintro ⟨⟩)
          simp only [Subscription.spent, hd] at htakes
          exact ⟨htakes, .inr hb⟩
      · rw [if_neg hb]
        exact h

lemma poll (h : w.Lends) (t : Nat) : (w.poll t).Lends := by
  unfold World.poll
  cases w.tasks[t]? with
  | none => exact h
  | some task =>
    dsimp only
    cases task.ended with
    | some how => exact h
    | none =>
      have hpolled : ({ w with running := some t, rewoken := false, deliveries := 0 } : World).Lends :=
        h.same rfl rfl rfl
      cases task.cancelled with
      | true => exact hpolled.same rfl rfl rfl
      | false => exact (hpolled.takeDelivery t task.holding).same rfl rfl rfl

lemma edit (h : w.Lends) (he : Edit A w w') : w'.Lends := by
  cases he with
  | aside | engines | flights | valves | results | calls => exact h.same rfl rfl rfl
  | keeps ht hb =>
    refine h.insert (fun t hd => ?_) fun t hr => ?_
    · rw [hd] at ht
      cases ht
    · rw [hb] at hr
      cases hr
  | forgets => exact h.erase _
  | awaits hs hl hj => exact h.await _ hs hl
  | @notes e hn =>
    refine h.log ?_
    cases e <;> first | rfl | cases hn
  | @withdraws a _ _ host s c =>
    have hset : (w.setEngine host ((w.engine host).unsubscribe s c)).Lends := h.same rfl rfl rfl
    exact hset.log rfl
  | enrols =>
    obtain ⟨_, _, heq⟩ := subscriberOf_frame w _
    rw [heq]
    exact h.same rfl rfl rfl
  | fades hf => exact h.fading hf
  | works _ ht _ => exact h.setTask ht rfl rfl
  | ends _ ht how => exact h.close ht how
  | cancels ht => exact h.setTask ht rfl rfl
  | spawns he _ hh =>
    refine h.spawn he ?_
    rintro t task sub s ⟨⟩ hholding
    rw [hh] at hholding
    cases hholding

lemma edits (h : w.Lends) (he : Edits A w w') : w'.Lends := by
  induction he with
  | refl => exact h
  | tail _ he ih => exact ih.edit he

lemma step (h : w.Lends) (hs : w.Steady) : w.step.Lends := by
  cases editsThenRests_step (A := fun _ => True) hs fun _ _ _ _ _ => True.intro with
  | goes he => exact h.edits he
  | @rests v rewoken he hf =>
    have hrest : ({ v with running := none, rewoken, focus := .idle } : World).Lends :=
      (h.edits he).same rfl rfl rfl
    exact hrest.fading hf

end Lends

theorem lends_of_reachable {sc : Scene} {w : World} (h : Reachable sc.opening w) : w.Lends := by
  induction h with
  | refl =>
    exact ⟨by rintro _ _ _ ⟨⟩, by rintro _ _ _ ⟨⟩, by rintro _ _ _ _ ⟨⟩, by rintro _ _ ⟨⟩,
      by rintro _ _ ⟨⟩, True.intro⟩
  | perform a w' reply hr _ hp ih =>
    have hperform := ih.edits (edits_perform (A := fun _ => True)
      (Scene.sane_of_reachable hr).poised.steady (a := a) True.intro)
    rw [hp] at hperform
    exact hperform
  | @poll w t _ _ ih =>
    have hqueue : ({ w with queue := w.queue.erase t } : World).Lends := ih.same rfl rfl rfl
    exact hqueue.poll t
  | step hr ih => exact ih.step (Scene.sane_of_reachable hr).poised.steady

end World

end Dataflow
