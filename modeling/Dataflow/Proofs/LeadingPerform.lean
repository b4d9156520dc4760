import Dataflow.Proofs.LeadingActions
import Dataflow.Proofs.Touches

/-!
# Performing actions on nodes of one side
-/

namespace Dataflow

namespace World

/-- The node that an action is about. -/
def subject? (w : World) : Action → Option String
  | .register _ n _ => some n.id
  | .unregister _ id | .restore _ id | .reregister _ id | .getNode _ id => some id
  | .getSchema _ slot _ | .cached _ slot | .compute _ _ slot | .output _ _ slot
  | .subscribe _ _ slot _ | .unsubscribe _ slot _ => some slot.node
  | .invalidate _ _ node _ => some node
  | .invalidateBy _ _ handle _ => (w.handles.get? handle).map (·.2)
  | .unsubscribeBy sub | .await _ sub _ => (w.subscriptions.get? sub).map (·.slot.node)
  | .settle | .setCell _ _ | .initialized _ | .describe _ | .dropSubscription _ | .dropCallback _
  | .resolve _ _ | .cancel _ | .panic _ | .unknown _ => none

/-- What is left of an action for the side that it is not about: whoever waits for a delivery takes
the subscription from its name. -/
def bereave (w : World) : Action → World
  | .await _ sub _ => { w with subscriptions := w.subscriptions.erase sub }
  | _ => w

/-- How many numbers were handed out. -/
def handedOut (w : World) : Numbered → Nat
  | .flight => w.flights.length
  | .task => w.tasks.length
  | .valve => w.valves.length
  | .result => w.nextResult
  | .pass host => (w.engine host).passes

/-- The numbers that are handed out on the way are those of the side. -/
def Grants (S : Side) (w w' : World) : Prop :=
  ∀ k j, w.handedOut k ≤ j → j < w'.handedOut k → j ∈ Set.range (S k)

lemma Grants.next {S : Side} {w w' : World} (h : Grants S w w') (k : Numbered)
    (hk : w'.handedOut k = w.handedOut k + 1) : w.handedOut k ∈ Set.range (S k) :=
  h k _ (Nat.le_refl _) (hk ▸ Nat.lt_succ_self _)

lemma tasks_use (w : World) (host : String) : (w.use host).tasks = w.tasks := by
  obtain ⟨_, _, heq, -⟩ := use_frame w host
  rw [heq]

lemma subscriber_use (w : World) (host callback : String) :
    ((w.use host).subscriberOf callback).2 = (w.subscriberOf callback).2 := by
  obtain ⟨_, _, heq, -⟩ := use_frame w host
  rw [heq]
  unfold subscriberOf
  dsimp only
  cases w.callbacks.get? callback <;> rfl

lemma length_emitAll (w : World) (host node : String) (l : List String) :
    (l.foldl (fun w o => (w.spawnEmission host ⟨node, o⟩).1) w).tasks.length =
      w.tasks.length + l.length := by
  induction l generalizing w with
  | nil => rfl
  | cons o l ih =>
    rw [List.foldl_cons, ih, List.length_cons]
    have hlen : (w.spawnEmission host ⟨node, o⟩).1.tasks.length = w.tasks.length + 1 :=
      List.length_append
    omega

lemma length_register (w : World) (host : String) (n : Node)
    (hc : (w.engine host).nodes.contains n.id = true) (hr : w.runtime = true) :
    (w.register host n).tasks.length =
      w.tasks.length + ((w.engine host).subscriptions.entries n.id).names.length := by
  obtain ⟨hlen, hruntime⟩ := enlist_frame w host n
  rw [register_eq, hc]
  simp only [Bool.not_true, Bool.false_or]
  cases hnames : ((w.engine host).subscriptions.entries n.id).names with
  | nil => exact hlen
  | cons o names =>
    rw [List.isEmpty_cons, if_neg Bool.false_ne_true, if_pos (hruntime.trans hr), length_emitAll, hlen]

lemma length_subscribe (w : World) (host sub : String) (s : Slot) (callback : String)
    (hr : w.runtime = true) :
    (w.subscribe host sub s callback).tasks.length = w.tasks.length + 1 := by
  obtain ⟨_, _, heq⟩ := subscriberOf_frame w callback
  unfold subscribe
  generalize w.subscriberOf callback = p at heq
  obtain ⟨w', c⟩ := p
  subst heq
  dsimp only
  rw [if_pos (by exact hr)]
  exact List.length_append

/-- A task that is started, and not refused, goes by a name that no unfinished task has. -/
lemma start_spec {w : World} {name : String} {j : Job}
    (hf : ∀ why, (w.start name j).2 ≠ .reply (.refused why)) :
    w.taskNamed? name = none ∧ (w.start name j).1.tasks.length = w.tasks.length + 1 := by
  unfold start at hf ⊢
  cases hn : w.taskNamed? name with
  | some t =>
    rw [hn] at hf
    exact absurd rfl (hf .taskExists)
  | none =>
    exact ⟨rfl, List.length_append⟩

lemma await_spec {w : World} {name sub : String} {lent : Bool}
    (hf : ∀ why, (w.await name sub lent).2 ≠ .reply (.refused why)) :
    ∃ s, w.subscriptions.get? sub = some s ∧ w.lent s = false ∧ w.taskNamed? name = none ∧
      (w.await name sub lent).1.tasks.length = w.tasks.length + 1 := by
  rcases w.await_cases name sub lent with ⟨why, heq⟩ | ⟨s, hs, hl, hn, heq⟩
  · exact absurd (congrArg Prod.snd heq) (hf why)
  · rw [heq]
    exact ⟨s, hs, hl, hn, List.length_append⟩

namespace Lead

variable {S T : Side} {v u w : World}

lemma startAt (h : Lead S T v u w) (host : String) {name : String} {j : Job}
    (hf : ∀ why, ((w.use host).start name j).2 ≠ .reply (.refused why))
    (hg : Grants S w ((w.use host).start name j).1) (hj : j.Resembles S j) :
    Lead S T ((v.use host).start name j).1 u ((w.use host).start name j).1 ∧
      ((w.use host).start name j).2 = ((v.use host).start name j).2.rename S := by
  obtain ⟨hnamed, hlen⟩ := start_spec hf
  refine (h.use host).start hnamed ?_ hj
  rw [tasks_use] at hlen ⊢
  exact hg.next .task hlen

lemma registerAt (h : Lead S T v u w) (host : String) {n : Node} (hs : S.nodes n.id = true)
    (ha : n.AsksNothing) (hg : Grants S w ((w.use host).register host n)) :
    Lead S T ((v.use host).register host n) u ((w.use host).register host n) := by
  refine (h.use host).register host hs ha fun hc hr j hle hlt => ?_
  rw [← length_register _ host n hc hr] at hlt
  rw [tasks_use] at hle
  exact hg .task j hle hlt

lemma keepHandle (h : Lead S T v u w) (handle host : String) {id : String}
    (hs : S.nodes id = true) :
    Lead S T { v with handles := v.handles.insert handle (host, id) } u
      { w with handles := w.handles.insert handle (host, id) } := by
  refine { h with
    own := { h.own with handles := fun j owner i hj hi => ?_ }
    other := { h.other with handles := fun j owner i hj hi => ?_ } }
  · have hj : (w.handles.insert handle (host, id)).get? j = some (owner, i) := hj
    show (v.handles.insert handle (host, id)).get? j = some (owner, i)
    rw [Table.get?_insert] at hj ⊢
    by_cases he : handle = j
    · rw [if_pos he] at hj ⊢
      exact hj
    · rw [if_neg he] at hj ⊢
      exact h.own.handles j owner i hj hi
  · have hj : (w.handles.insert handle (host, id)).get? j = some (owner, i) := hj
    rw [Table.get?_insert] at hj
    by_cases he : handle = j
    · rw [if_pos he] at hj
      cases hj
      rw [h.opposite.other hs] at hi
      cases hi
    · rw [if_neg he] at hj
      exact h.other.handles j owner i hj hi

lemma restore (h : Lead S T v u w) (host : String) {id : String} (hs : S.nodes id = true)
    (hf : ∀ why, (w.perform (.restore host id)).2 ≠ .reply (.refused why))
    (hg : Grants S w (w.perform (.restore host id)).1) :
    Lead S T (v.perform (.restore host id)).1 u (w.perform (.restore host id)).1 ∧
      (w.perform (.restore host id)).2 = (v.perform (.restore host id)).2.rename S := by
  unfold World.perform at hf hg ⊢
  dsimp only at hf hg ⊢
  rw [h.own.removed id hs] at hf hg ⊢
  cases hr : v.removed.get? id with
  | none =>
    rw [hr] at hf
    exact absurd rfl (hf .noRemoved)
  | some n =>
    rw [hr] at hg
    obtain ⟨rfl, halone⟩ := h.own.known id n hr
    exact ⟨h.registerAt host hs halone hg, rfl⟩

lemma reregister (h : Lead S T v u w) (host : String) {id : String} (hs : S.nodes id = true)
    (hg : Grants S w (w.perform (.reregister host id)).1) :
    Lead S T (v.perform (.reregister host id)).1 u (w.perform (.reregister host id)).1 ∧
      (w.perform (.reregister host id)).2 = (v.perform (.reregister host id)).2.rename S := by
  have huse := h.use host
  unfold World.perform at hg ⊢
  dsimp only at hg ⊢
  rw [(huse.own.engine host).node hs] at hg ⊢
  cases hv : ((v.use host).engine host).node id with
  | error f => exact ⟨huse, rfl⟩
  | ok n =>
    rw [hv] at hg
    obtain ⟨rfl, halone⟩ := (huse.own.engine host).known_node hv
    exact ⟨h.registerAt host hs halone hg, rfl⟩

lemma unsubscribe (h : Lead S T v u w) (host : String) {s : Slot} (hs : S.nodes s.node = true)
    (hl : (w.engine host).Listed) {callback : String}
    (hn : v.callbacks.get? callback = none →
      S.subscriber v.subscribers.length = (w.subscriberOf callback).2) :
    Lead S T (v.perform (.unsubscribe host s callback)).1 u
      (w.perform (.unsubscribe host s callback)).1 := by
  obtain ⟨_, _, hv, -⟩ := use_frame v host
  obtain ⟨_, _, -, hengine⟩ := use_frame w host
  have hsame : ((w.use host).subscriberOf callback).1.engine host = w.engine host := by
    obtain ⟨_, _, heq⟩ := subscriberOf_frame (w.use host) callback
    rw [← hengine host, heq]
    rfl
  obtain ⟨hjoin, hnum⟩ := (h.use host).subscriberOf callback fun hnone => by
    rw [subscriber_use]
    rw [hv] at hnone ⊢
    exact hn hnone
  have hout := hjoin.withdraw host hs (hsame ▸ hl) ((v.use host).subscriberOf callback).2
  rw [← hnum] at hout
  exact hout

lemma unsubscribeBy (h : Lead S T v u w) {sub : String} {s : Subscription}
    (hw : w.subscriptions.get? sub = some s) (hs : S.nodes s.slot.node = true)
    (hl : ∀ host, (w.engine host).Listed) :
    Lead S T (v.perform (.unsubscribeBy sub)).1 u (w.perform (.unsubscribeBy sub)).1 ∧
      (w.perform (.unsubscribeBy sub)).2 = (v.perform (.unsubscribeBy sub)).2.rename S := by
  obtain ⟨s', hv, hres⟩ := h.own.subscriptions.own sub s hw hs
  unfold World.perform
  dsimp only
  rw [hw, hv]
  obtain ⟨host, slot, c, delivery, borrower⟩ := s'
  obtain ⟨rfl, hown, -⟩ := hres
  exact ⟨h.withdraw host hown (hl host) c, rfl⟩

lemma getNode (h : Lead S T v u w) (host : String) {id : String} (hs : S.nodes id = true) :
    Lead S T (v.perform (.getNode host id)).1 u (w.perform (.getNode host id)).1 ∧
      (w.perform (.getNode host id)).2 = (v.perform (.getNode host id)).2.rename S := by
  have huse := h.use host
  unfold World.perform
  dsimp only
  rw [(huse.own.engine host).node hs]
  cases ((v.use host).engine host).node id <;> exact ⟨huse, rfl⟩

lemma getSchema (h : Lead S T v u w) (host : String) {slot : Slot} (p : Option Payload)
    (hs : S.nodes slot.node = true) :
    Lead S T (v.perform (.getSchema host slot p)).1 u (w.perform (.getSchema host slot p)).1 ∧
      (w.perform (.getSchema host slot p)).2 =
        (v.perform (.getSchema host slot p)).2.rename S := by
  have huse := h.use host
  unfold World.perform
  dsimp only
  rw [Engine.outputSchema_eq, Engine.outputSchema_eq, (huse.own.engine host).target hs]
  cases ((v.use host).engine host).target slot with
  | error f => exact ⟨huse, rfl⟩
  | ok found =>
    dsimp only [Except.map]
    cases p with
    | none => exact ⟨huse, rfl⟩
    | some p =>
      dsimp only
      cases found.2.check p <;> exact ⟨huse, rfl⟩

lemma cached (h : Lead S T v u w) (host : String) {slot : Slot} (hs : S.nodes slot.node = true) :
    Lead S T (v.perform (.cached host slot)).1 u (w.perform (.cached host slot)).1 ∧
      (w.perform (.cached host slot)).2 = (v.perform (.cached host slot)).2.rename S := by
  have huse := h.use host
  unfold World.perform
  dsimp only
  rw [(huse.own.engine host).cached hs]
  cases ((v.use host).engine host).cached slot <;> exact ⟨huse, rfl⟩

lemma invalidateBy (h : Lead S T v u w) (host name : String) {handle owner node : String}
    (keys : Option (List String)) (hh : w.handles.get? handle = some (owner, node))
    (hs : S.nodes node = true)
    (hf : ∀ why, (w.perform (.invalidateBy host name handle keys)).2 ≠ .reply (.refused why))
    (hg : Grants S w (w.perform (.invalidateBy host name handle keys)).1) :
    Lead S T (v.perform (.invalidateBy host name handle keys)).1 u
        (w.perform (.invalidateBy host name handle keys)).1 ∧
      (w.perform (.invalidateBy host name handle keys)).2 =
        (v.perform (.invalidateBy host name handle keys)).2.rename S := by
  unfold World.perform at hf hg ⊢
  dsimp only at hf hg ⊢
  rw [hh] at hf hg
  rw [hh, h.own.handles handle owner node hh hs]
  exact h.startAt host hf hg (.invalidate hs keys)

lemma subscribeAt (h : Lead S T v u w) (host sub : String) {slot : Slot} {callback : String}
    (hs : S.nodes slot.node = true)
    (hc : v.callbacks.get? callback = none →
      S.subscriber v.subscribers.length = (w.subscriberOf callback).2)
    (ho : S.own (w.subscriberOf callback).2 = true)
    (hg : Grants S w (w.perform (.subscribe host sub slot callback)).1) :
    Lead S T (v.perform (.subscribe host sub slot callback)).1 u
      (w.perform (.subscribe host sub slot callback)).1 := by
  refine (h.use host).subscribe host sub hs callback ?_ ?_ ?_
  · intro hnone
    obtain ⟨_, _, hv, -⟩ := use_frame v host
    rw [subscriber_use]
    rw [hv] at hnone ⊢
    exact hc hnone
  · rw [subscriber_use]
    exact ho
  · intro hr
    have hlen := length_subscribe (w.use host) host sub slot callback hr
    rw [tasks_use] at hlen ⊢
    exact hg.next .task hlen

/-- An action on a node of the side, if it is carried out in the whole, is carried out in the strand,
and both reply the same but for the numbers. -/
lemma perform (h : Lead S T v u w) {a : Action} {id : String} (ha : w.subject? a = some id)
    (hs : S.nodes id = true) (hf : ∀ why, (w.perform a).2 ≠ .reply (.refused why))
    (hg : Grants S w (w.perform a).1) (hl : ∀ host, (w.engine host).Listed)
    (hn : ∀ host n handle, a = .register host n handle → n.AsksNothing)
    (hc : ∀ callback, a.callback? = some callback → v.callbacks.get? callback = none →
      S.subscriber v.subscribers.length = (w.subscriberOf callback).2)
    (ho : ∀ host sub slot callback, a = .subscribe host sub slot callback →
      S.own (w.subscriberOf callback).2 = true) :
    Lead S T (v.perform a).1 (u.bereave a) (w.perform a).1 ∧
      (w.perform a).2 = (v.perform a).2.rename S := by
  cases a with
  | register host n handle =>
    cases ha
    exact ⟨(h.registerAt host hs (hn host n handle rfl) hg).keepHandle handle host hs, rfl⟩
  | unregister host id =>
    cases ha
    exact (h.use host).unregister host hs
  | restore host id =>
    cases ha
    exact h.restore host hs hf hg
  | reregister host id =>
    cases ha
    exact h.reregister host hs hg
  | getNode host id =>
    cases ha
    exact h.getNode host hs
  | getSchema host slot p =>
    cases ha
    exact h.getSchema host p hs
  | cached host slot =>
    cases ha
    exact h.cached host hs
  | compute host name slot =>
    cases ha
    exact h.startAt host hf hg (.compute hs)
  | output host name slot =>
    cases ha
    exact h.startAt host hf hg (.output hs none)
  | invalidate host name node keys =>
    cases ha
    exact h.startAt host hf hg (.invalidate hs keys)
  | invalidateBy host name handle keys =>
    dsimp only [subject?] at ha
    cases hh : w.handles.get? handle with
    | none =>
      rw [hh] at ha
      cases ha
    | some p =>
      obtain ⟨owner, node⟩ := p
      rw [hh] at ha
      cases ha
      exact h.invalidateBy host name keys hh hs hf hg
  | subscribe host sub slot callback =>
    cases ha
    exact ⟨h.subscribeAt host sub hs (hc callback rfl) (ho host sub slot callback rfl) hg, rfl⟩
  | unsubscribe host slot callback =>
    cases ha
    exact ⟨h.unsubscribe host hs (hl host) (hc callback rfl), rfl⟩
  | unsubscribeBy sub =>
    dsimp only [subject?] at ha
    cases hw : w.subscriptions.get? sub with
    | none =>
      rw [hw] at ha
      cases ha
    | some s =>
      rw [hw] at ha
      cases ha
      exact h.unsubscribeBy hw hs hl
  | await name sub lent =>
    obtain ⟨s, hw, hl, hnamed, hlen⟩ := await_spec hf
    dsimp only [subject?] at ha
    rw [hw] at ha
    cases ha
    exact h.await hnamed hw hl hs (hg.next .task hlen)
  | _ => cases ha

end Lead

end World

end Dataflow
