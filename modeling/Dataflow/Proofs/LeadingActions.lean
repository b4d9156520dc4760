import Dataflow.Proofs.LeadingTasks

/-!
# Actions on nodes of one side

An action on a node of a side is performed in the whole as in the strand of that side, and the
replies are the same but for the numbers.
-/

namespace Dataflow

namespace World

def Performed.rename (S : Side) : Performed → Performed
  | .reply r => .reply (r.rename S)
  | .panic text => .panic text

@[simp] lemma removed_ground (w : World) (before : Engine) (id : String) :
    (w.ground before id).removed = w.removed := by
  obtain ⟨_, _, _, _, h⟩ := (fadingUnheld_ground w before id).rest
  rw [h]

lemma enlist_frame (w : World) (host : String) (n : Node) :
    (w.enlist host n).tasks.length = w.tasks.length ∧ (w.enlist host n).runtime = w.runtime := by
  rcases w.enlist_cases host n with ⟨-, heq⟩ | heq <;> rw [heq]
  · have hkin := fadingUnheld_ground ((w.setEngine host ((w.engine host).register n)).log
      (.registered host n ((w.engine host).nodes.contains n.id))) (w.engine host) n.id
    have hlen := congrArg List.length hkin.tasks
    rw [List.length_map, List.length_map] at hlen
    exact ⟨hlen, hkin.frame.1⟩
  · exact ⟨rfl, rfl⟩

namespace Lead

variable {S T : Side} {v u w : World}

lemma use_own (h : Lead S T v u w) (host : String) : Lead S T (v.use host) u w := by
  rcases use_cases v host with hv | hv
  · rw [hv]
    exact h
  · rw [hv]
    refine log_own ?_ rfl
    refine { h with
      own := { h.own with setup := fun i => ?_, blind := fun i => ?_, engine := fun i => ?_ } }
    · rw [(pipeline_built v host i).2, h.own.setup]
    · unfold World.policy
      rw [(pipeline_built v host i).2]
      exact h.own.blind i
    · rw [(pipeline_built v host i).1]
      exact h.own.engine i

lemma use_whole (h : Lead S T v u w) (host : String) : Lead S T v u (w.use host) := by
  rcases use_cases w host with hw | hw
  · rw [hw]
    exact h
  · rw [hw]
    refine log_whole ?_ rfl
    refine { h with
      own := { h.own with setup := fun i => ?_, engine := fun i => ?_ }
      other := { h.other with setup := fun i => ?_, engine := fun i => ?_ } }
    · rw [(pipeline_built w host i).2, h.own.setup]
    · rw [(pipeline_built w host i).1]
      exact h.own.engine i
    · rw [(pipeline_built w host i).2, h.other.setup]
    · rw [(pipeline_built w host i).1]
      exact h.other.engine i

lemma use (h : Lead S T v u w) (host : String) : Lead S T (v.use host) u (w.use host) :=
  (h.use_own host).use_whole host

lemma spawn (h : Lead S T v u w) (hn : w.tasks.length ∈ Set.range (S .task)) {t t' : Task}
    (ht : t.Resembles S t') :
    Lead S T (v.spawn t').1 u (w.spawn t).1 ∧ (w.spawn t).2 = S .task (v.spawn t').2 := by
  have hnext := h.own.tasks.counts.next (S.strictMono _) hn
  have hadd := (h.addTask hnext ht).withQueue (w.queue ++ [w.tasks.length])
    (v.queue ++ [v.tasks.length]) w.rewoken v.rewoken
  exact ⟨(hadd.log_own rfl).log_whole rfl, hnext.symm⟩

lemma spawnEmission (h : Lead S T v u w) (hn : w.tasks.length ∈ Set.range (S .task))
    (host : String) {s : Slot} (hs : S.nodes s.node = true) :
    Lead S T (v.spawnEmission host s).1 u (w.spawnEmission host s).1 ∧
      (w.spawnEmission host s).2 = S .task (v.spawnEmission host s).2 :=
  h.spawn hn ⟨rfl, .emit (.fresh hs), rfl, rfl, rfl, .none⟩

lemma spawnAll (h : Lead S T v u w) (host : String) {node : String}
    (hs : S.nodes node = true) (l : List String)
    (hn : ∀ j, w.tasks.length ≤ j → j < w.tasks.length + l.length → j ∈ Set.range (S .task)) :
    Lead S T (l.foldl (fun w o => (w.spawnEmission host ⟨node, o⟩).1) v) u
      (l.foldl (fun w o => (w.spawnEmission host ⟨node, o⟩).1) w) := by
  induction l generalizing v w with
  | nil => exact h
  | cons o l ih =>
    rw [List.length_cons] at hn
    have hlen : (w.spawnEmission host ⟨node, o⟩).1.tasks.length = w.tasks.length + 1 :=
      List.length_append
    refine ih (h.spawnEmission (hn _ (Nat.le_refl _) (by omega)) host (s := ⟨node, o⟩) hs).1 ?_
    intro j hle hlt
    rw [hlen] at hle hlt
    exact hn j (by omega) (by omega)

/-- No unfinished task of the side goes by a name that none goes by in the whole. -/
lemma taskNamed?_none (h : Lead S T v u w) {name : String} (hw : w.taskNamed? name = none) :
    v.taskNamed? name = none := by
  unfold World.taskNamed? at hw ⊢
  rw [List.findIdx?_eq_none_iff] at hw ⊢
  intro task' hm
  obtain ⟨t, ht⟩ := List.mem_iff_getElem?.mp hm
  obtain ⟨task, ht', hres⟩ := h.own.tasks.get ht
  rw [← hw task (List.mem_of_getElem? ht'), hres.name, hres.ended]
  cases task'.ended <;> rfl

/-- The first unfinished task of that name is the first on its side. -/
lemma taskNamed?_some (h : Lead S T v u w) {name : String} {t : Nat}
    (hw : w.taskNamed? name = some (S .task t)) : v.taskNamed? name = some t := by
  have hsame : ∀ {task task' : Task}, task.Resembles S task' →
      (task.name == some name && task.ended.isNone) =
        (task'.name == some name && task'.ended.isNone) := by
    intro task task' hres
    rw [hres.name, hres.ended]
    cases task'.ended <;> rfl
  unfold World.taskNamed? at hw ⊢
  rw [List.findIdx?_eq_some_iff_getElem] at hw ⊢
  obtain ⟨hlt, hp, hfirst⟩ := hw
  obtain ⟨task', ht', hres⟩ := h.own.tasks.of_get (List.getElem?_eq_getElem hlt)
  obtain ⟨hlt', rfl⟩ := List.getElem?_eq_some_iff.mp ht'
  refine ⟨hlt', by rw [← hsame hres]; exact hp, fun j hj hpj => ?_⟩
  obtain ⟨task, ht, hres⟩ := h.own.tasks.get (List.getElem?_eq_getElem (Nat.lt_trans hj hlt'))
  obtain ⟨hltj, rfl⟩ := List.getElem?_eq_some_iff.mp ht
  exact hfirst (S .task j) (S.strictMono _ hj) (by rw [hsame hres]; exact hpj)

lemma start (h : Lead S T v u w) {name : String} (hw : w.taskNamed? name = none)
    (hn : w.tasks.length ∈ Set.range (S .task)) {j j' : Job} (hj : j.Resembles S j') :
    Lead S T (v.start name j').1 u (w.start name j).1 ∧
      (w.start name j).2 = (v.start name j').2.rename S := by
  have ht : Task.Resembles S { name := some name, job := j } { name := some name, job := j' } :=
    ⟨rfl, hj, rfl, rfl, rfl, .none⟩
  unfold World.start
  rw [hw, h.taskNamed?_none hw]
  exact ⟨(h.spawn hn ht).1, rfl⟩

lemma cancel (h : Lead S T v u w) {name : String} {t : Nat}
    (hw : w.taskNamed? name = some (S .task t)) :
    Lead S T (v.cancel name).1 u (w.cancel name).1 ∧
      (w.cancel name).2 = (v.cancel name).2.rename S := by
  unfold World.cancel
  rw [hw, h.taskNamed?_some hw]
  have hmodify := h.modifyTask t (fun task => { task with cancelled := true })
    (fun task => { task with cancelled := true }) fun _ _ hr => { hr with cancelled := rfl }
  exact ⟨hmodify.enqueue _ _, rfl⟩

lemma enlist (h : Lead S T v u w) (host : String) {n : Node} (hs : S.nodes n.id = true)
    (ha : n.AsksNothing) : Lead S T (v.enlist host n) u (w.enlist host n) := by
  have he := h.own.engine host
  have hlog := (h.setEngine (he.register hs ha)
    ((h.other.engine host).register_other (h.opposite.other hs))).log
    (.registered host n ((v.engine host).nodes.contains n.id)) hs
  have hground := hlog.ground he hs
  unfold World.enlist
  dsimp only
  rw [he.contains hs]
  by_cases hc : (v.engine host).nodes.contains n.id = true
  · rw [if_pos hc, if_pos hc]
    exact hground
  · rw [if_neg hc, if_neg hc]
    exact hlog

lemma register (h : Lead S T v u w) (host : String) {n : Node} (hs : S.nodes n.id = true)
    (ha : n.AsksNothing)
    (hn : (w.engine host).nodes.contains n.id = true → w.runtime = true →
      ∀ j, w.tasks.length ≤ j →
        j < w.tasks.length + ((w.engine host).subscriptions.entries n.id).names.length →
        j ∈ Set.range (S .task)) :
    Lead S T (v.register host n) u (w.register host n) := by
  have he := h.own.engine host
  have henlist := h.enlist host hs ha
  have hnames : ((w.engine host).subscriptions.entries n.id).names =
      ((v.engine host).subscriptions.entries n.id).names := by
    rw [he.subscriptions n.id hs, NameMap.names_mapValues]
  obtain ⟨hlen, hruntime⟩ := enlist_frame w host n
  rw [he.contains hs, hnames] at hn
  rw [register_eq, register_eq, he.contains hs, hnames, henlist.own.runtime]
  dsimp only
  by_cases hskip : (!(v.engine host).nodes.contains n.id ||
      ((v.engine host).subscriptions.entries n.id).names.isEmpty) = true
  · rw [if_pos hskip, if_pos hskip]
    exact henlist
  · rw [if_neg hskip, if_neg hskip]
    rw [Bool.or_eq_true, not_or, Bool.not_eq_true', Bool.not_eq_false] at hskip
    by_cases hrun : (v.enlist host n).runtime = true
    · rw [if_pos hrun, if_pos hrun]
      refine henlist.spawnAll host hs _ fun j hle hlt => ?_
      rw [hlen] at hle hlt
      refine hn hskip.1 ?_ j hle hlt
      rw [← hruntime, henlist.own.runtime]
      exact hrun
    · rw [if_neg hrun, if_neg hrun]
      exact henlist.log (.postponed host n.id) hs

/-- A node that was unregistered is kept to be registered again. -/
lemma keepNode (h : Lead S T v u w) {n : Node} (hs : S.nodes n.id = true) (ha : n.AsksNothing) :
    Lead S T { v with removed := v.removed.insert n.id n } u
      { w with removed := w.removed.insert n.id n } := by
  refine { h with
    own := { h.own with removed := fun id hid => ?_, known := fun id m hm => ?_ }
    other := { h.other with removed := fun id hid => ?_ } }
  · show (w.removed.insert n.id n).get? id = (v.removed.insert n.id n).get? id
    rw [Table.get?_insert, Table.get?_insert, h.own.removed id hid]
  · have hm : (v.removed.insert n.id n).get? id = some m := hm
    rw [Table.get?_insert] at hm
    by_cases he : n.id = id
    · rw [if_pos he] at hm
      cases hm
      exact ⟨he, ha⟩
    · rw [if_neg he] at hm
      exact h.own.known id m hm
  · show (w.removed.insert n.id n).get? id = u.removed.get? id
    rw [Table.get?_insert, if_neg, h.other.removed id hid]
    rintro rfl
    rw [h.opposite.other hs] at hid
    cases hid

lemma unregister (h : Lead S T v u w) (host : String) {id : String} (hs : S.nodes id = true) :
    Lead S T (v.unregister host id).1 u (w.unregister host id).1 ∧
      (w.unregister host id).2 = (v.unregister host id).2.rename S := by
  have he := h.own.engine host
  have hlog := (h.setEngine (he.unregister hs)
    ((h.other.engine host).unregister_other (h.opposite.other hs))).log
    (.unregistered host id) hs
  have hground := hlog.ground he hs
  unfold World.unregister
  dsimp only
  rw [he.nodes id hs]
  cases hn : (v.engine host).nodes.get? id with
  | none => exact ⟨h, rfl⟩
  | some n =>
    obtain ⟨rfl, ha⟩ := he.known id n hn
    have hkeep := hground.keepNode hs ha
    rw [removed_ground, removed_ground] at hkeep
    exact ⟨hkeep, rfl⟩

lemma subscriberOf (h : Lead S T v u w) (callback : String)
    (hn : v.callbacks.get? callback = none →
      S.subscriber v.subscribers.length = (w.subscriberOf callback).2) :
    Lead S T (v.subscriberOf callback).1 u (w.subscriberOf callback).1 ∧
      (w.subscriberOf callback).2 = S.subscriber (v.subscriberOf callback).2 := by
  have hown := h.own.roster
  unfold World.subscriberOf at hn ⊢
  cases hv : v.callbacks.get? callback with
  | some c =>
    rw [hown.named callback c hv]
    exact ⟨h, rfl⟩
  | none =>
    have hnext := hn hv
    cases hw : w.callbacks.get? callback with
    | some c =>
      rw [hw] at hnext
      have hnext : S.subscriber v.subscribers.length = c := hnext
      subst hnext
      exact ⟨{ h with own := { h.own with roster := hown.meet hw } }, rfl⟩
    | none =>
      rw [hw] at hnext
      have hnext : S.subscriber v.subscribers.length = w.subscribers.length := hnext
      exact ⟨{ h with
        own := { h.own with roster := hown.add hw hnext }
        other := { h.other with roster := h.other.roster.add_other hw } }, hnext.symm⟩

lemma withdraw (h : Lead S T v u w) (host : String) {s : Slot} (hs : S.nodes s.node = true)
    (hl : (w.engine host).Listed) (c : Nat) :
    Lead S T (v.withdraw host s c) u (w.withdraw host s (S.subscriber c)) := by
  have he := h.own.engine host
  have hother : T.own (S.subscriber c) = true →
      S.subscriber c ∉ (w.engine host).subscribers s := by
    intro hc hm
    rw [he.subscribers hs, List.mem_map_of_injective S.subscriber_injective] at hm
    rw [h.opposite.own, he.subscribed s c hs hm] at hc
    cases hc
  exact (h.setEngine (he.unsubscribe hs c)
    ((h.other.engine host).unsubscribe_other hl (h.opposite.other hs) hother)).log
    (.unsubscribed host s c) hs

lemma subscribe (h : Lead S T v u w) (host sub : String) {s : Slot}
    (hs : S.nodes s.node = true) (callback : String)
    (hn : v.callbacks.get? callback = none →
      S.subscriber v.subscribers.length = (w.subscriberOf callback).2)
    (hc : S.own (w.subscriberOf callback).2 = true)
    (ht : w.runtime = true → w.tasks.length ∈ Set.range (S .task)) :
    Lead S T (v.subscribe host sub s callback) u (w.subscribe host sub s callback) := by
  have htasks : (w.subscriberOf callback).1.tasks = w.tasks ∧
      (w.subscriberOf callback).1.runtime = w.runtime := by
    obtain ⟨_, _, heq⟩ := subscriberOf_frame w callback
    rw [heq]
    exact ⟨rfl, rfl⟩
  obtain ⟨hof, hnum⟩ := h.subscriberOf callback hn
  unfold World.subscribe
  generalize v.subscriberOf callback = q at hof hnum
  generalize w.subscriberOf callback = p at hof hnum hc htasks
  obtain ⟨v', c'⟩ := q
  obtain ⟨w', c⟩ := p
  dsimp only at hof hnum hc htasks
  subst hnum
  have hother : T.own (S.subscriber c') = false := by
    rw [h.opposite.own, hc]
    rfl
  have hlog := (hof.setEngine ((hof.own.engine host).subscribe hs hc)
    ((hof.other.engine host).subscribe_other (h.opposite.other hs) hother)).log
    (.subscribed host s c' sub) hs
  have hname : ∀ {v w : World}, Lead S T v u w → ∀ {d d' : Subscription}, d.Resembles S d' →
      Lead S T { v with subscriptions := v.subscriptions.insert sub d' } u
        { w with subscriptions := w.subscriptions.insert sub d } := by
    intro v w h d d' hd
    have hnot : T.nodes d.slot.node = false := by
      rw [hd.eq]
      exact h.opposite.other hd.own
    exact { h with
      own := { h.own with subscriptions := h.own.subscriptions.insert sub hd }
      other := { h.other with subscriptions := h.other.subscriptions.insert_other sub hnot } }
  simp only [Event.rename] at hlog
  dsimp only
  generalize ((v'.setEngine host _).log _ : World) = v'' at hlog ⊢
  generalize hw : ((w'.setEngine host _).log _ : World) = w'' at hlog ⊢
  have hlen : w''.tasks = w.tasks ∧ w''.runtime = w.runtime := by
    rw [← hw]
    exact htasks
  rw [hlog.own.runtime]
  cases hrun : v''.runtime with
  | true =>
    have hr : w.runtime = true := by rw [← hlen.2, hlog.own.runtime, hrun]
    obtain ⟨hspawn, htask⟩ := hlog.spawnEmission (hlen.1 ▸ ht hr) host hs
    refine hname hspawn ⟨?_, hs, by rintro e ⟨⟩⟩
    show Subscription.mk host s _ (.spawned (w''.spawnEmission host s).2) none = _
    rw [htask]
    rfl
  | false =>
    refine hname hlog ⟨rfl, hs, ?_⟩
    rintro e ⟨⟩
    rfl

lemma live (h : Lead S T v u w) (t : Nat) : w.live (S .task t) = v.live t := by
  unfold World.live
  cases ht : v.tasks[t]? with
  | none => rw [h.own.tasks.get_none ht]
  | some task' =>
    obtain ⟨task, ht', hres⟩ := h.own.tasks.get ht
    rw [ht']
    dsimp only
    rw [hres.ended]
    cases task'.ended <;> rfl

lemma lent (h : Lead S T v u w) {s s' : Subscription} (hs : s.Resembles S s') :
    w.lent s = v.lent s' := by
  have hborrower : s.borrower = s'.borrower.map (S .task) := congrArg Subscription.borrower hs.eq
  unfold World.lent
  rw [hborrower]
  cases s'.borrower with
  | none => rfl
  | some t => exact h.live t

/-- The task that is started next is handed the subscription, and the other side gives its name up. -/
lemma handOver (h : Lead S T v u w) {sub : String} {s s' : Subscription} (hs : s.Resembles S s')
    (hn : S .task v.tasks.length = w.tasks.length) (lent : Bool) :
    Lead S T (v.handOver sub s' lent) { u with subscriptions := u.subscriptions.erase sub }
      (w.handOver sub s lent) := by
  have hother : T.nodes s.slot.node = false := by
    rw [hs.eq]
    exact h.opposite.other hs.own
  cases lent with
  | false =>
    exact { h with
      own := { h.own with subscriptions := h.own.subscriptions.erase sub }
      other := { h.other with subscriptions := h.other.subscriptions.erase sub } }
  | true =>
    have hlend := hs.lend (some v.tasks.length)
    rw [Option.map_some, hn] at hlend
    exact { h with
      own := { h.own with subscriptions := h.own.subscriptions.insert sub hlend }
      other := { h.other with subscriptions := h.other.subscriptions.insert_erase sub hother } }

/-- Whoever waits for a delivery is handed the subscription, whatever the other side keeps under its
name. -/
lemma await (h : Lead S T v u w) {name sub : String} {s : Subscription} {lent : Bool}
    (hw : w.taskNamed? name = none) (hsub : w.subscriptions.get? sub = some s)
    (hl : w.lent s = false) (hs : S.nodes s.slot.node = true)
    (hn : w.tasks.length ∈ Set.range (S .task)) :
    Lead S T (v.await name sub lent).1 { u with subscriptions := u.subscriptions.erase sub }
        (w.await name sub lent).1 ∧
      (w.await name sub lent).2 = (v.await name sub lent).2.rename S := by
  obtain ⟨s', hsub', hres⟩ := h.own.subscriptions.own sub s hsub hs
  have hnext : S .task v.tasks.length = w.tasks.length :=
    h.own.tasks.counts.next (S.strictMono _) hn
  have hl' : v.lent s' = false := (h.lent hres).symm.trans hl
  have hjob : s.delivery.job.Resembles S s'.delivery.job := by
    obtain ⟨rfl, ho, hfresh⟩ := hres
    unfold Subscription.rename
    cases hd : s'.delivery with
    | spawned t => exact .follow t
    | deferred e =>
      rw [hfresh e hd]
      exact .emit (.fresh ho)
    | taken t => exact .nothing
  have hspent : (s.spent w.tasks.length).Resembles S (s'.spent v.tasks.length) := by
    rw [← hnext]
    exact hres.take v.tasks.length none
  unfold World.await
  simp only [hw, h.taskNamed?_none hw, hsub, hsub', hl, hl', Option.isSome_none, Bool.false_eq_true,
    if_false]
  have hover : Lead S T (v.handOver sub s' lent) _ (w.handOver sub s lent) :=
    h.handOver hres hnext lent
  have htask : Task.Resembles S
      { name := some name, job := s.delivery.job, holding := some (sub, s.spent w.tasks.length) }
      { name := some name, job := s'.delivery.job, holding := some (sub, s'.spent v.tasks.length) } :=
    ⟨rfl, hjob, rfl, rfl, rfl, .some ⟨rfl, hspent⟩⟩
  exact ⟨(hover.spawn hn htask).1, rfl⟩

lemma mem_openValves (h : Lead S T v u w) {i : Nat} (hi : S .valve i ∈ w.openValves) :
    i ∈ v.openValves := by
  unfold World.openValves at hi ⊢
  rw [List.mem_filter, List.mem_range] at hi ⊢
  obtain ⟨hlt, hopen⟩ := hi
  refine ⟨(h.own.valves.counts i).mp hlt, ?_⟩
  obtain ⟨x', hx', hx⟩ := h.own.valves.of_get (List.getElem?_eq_getElem hlt)
  rw [List.getElem?_eq_getElem hlt, hx] at hopen
  rw [hx']
  exact hopen

lemma chosen?_number (h : Lead S T v u w) {i : Nat} (hi : S .valve i ∈ w.openValves) :
    v.chosen? (.number i) = some i := by
  have hm := h.mem_openValves hi
  unfold World.chosen?
  dsimp only
  cases hf : v.openValves.find? fun j : Nat => (j : Int) == (i : Int) with
  | none => exact absurd (List.find?_eq_none.mp hf i hm) (by simp)
  | some j =>
    have hj := List.find?_some hf
    rw [Int.ofNat_inj.mp (beq_iff_eq.mp hj)]

lemma resolve (h : Lead S T v u w) {choice : ValveChoice} {i : Nat}
    (hw : w.chosen? choice = some (S .valve i)) (hi : S .valve i ∈ w.openValves)
    (o : Option Outcome) :
    Lead S T (v.resolve (.number i) o).1 u (w.resolve choice o).1 ∧
      (w.resolve choice o).2 = (v.resolve (.number i) o).2.rename S := by
  have hset := h.setValve i { opened := some o }
  have hwaiter : ((w.valves[S .valve i]?).bind Valve.waiter).toList =
      ((v.valves[i]?).bind Valve.waiter).toList.map (Waiter.rename S) := by
    cases hx : v.valves[i]? with
    | none =>
      rw [h.own.valves.get_none hx]
      rfl
    | some x' =>
      obtain ⟨x, hx, rfl⟩ := h.own.valves.get hx
      rw [hx]
      show (x'.waiter.map (Waiter.rename S)).toList = x'.waiter.toList.map (Waiter.rename S)
      cases x'.waiter <;> rfl
  unfold World.resolve
  rw [hw, h.chosen?_number hi]
  dsimp only
  rw [hwaiter]
  exact ⟨hset.wake _, rfl⟩

end Lead

lemma mem_openValves_of_chosen? {w : World} {choice : ValveChoice} {i : Nat}
    (h : w.chosen? choice = some i) : i ∈ w.openValves := by
  cases choice with
  | number n => exact List.mem_of_find?_eq_some h
  | first => exact List.mem_of_head? h
  | last => exact List.mem_of_getLast? h

end World

/-- The action calls on no pipeline and on nothing that runs. -/
def Action.Neutral : Action → Prop
  | .settle | .setCell _ _ | .dropSubscription _ | .dropCallback _ | .panic _ | .unknown _ => True
  | _ => False

namespace World

namespace Lead

variable {S T : Side} {v u w : World}

/-- What is about no node is done in the whole and in both strands. -/
lemma neutral (h : Lead S T v u w) {a : Action} (ha : a.Neutral) :
    Lead S T (v.perform a).1 (u.perform a).1 (w.perform a).1 := by
  cases a with
  | settle | panic _ | unknown _ => exact h
  | setCell cell o =>
    have hcells : ∀ {S : Side} {v : World}, w.Strand S v →
        w.cells.insert cell o = v.cells.insert cell o := fun hs => by rw [hs.cells]
    exact { h with
      own := { h.own with cells := hcells h.own }
      other := { h.other with cells := hcells h.other } }
  | dropSubscription sub =>
    exact { h with
      own := { h.own with subscriptions := h.own.subscriptions.erase sub }
      other := { h.other with subscriptions := h.other.subscriptions.erase sub } }
  | dropCallback callback =>
    exact { h with
      own := { h.own with roster := h.own.roster.erase callback }
      other := { h.other with roster := h.other.roster.erase callback } }
  | _ => exact ha.elim

end Lead

end World

end Dataflow
