import Dataflow.Engine.Gates
import Dataflow.Proofs.Rolls
import Dataflow.Proofs.Sides
import Mathlib.Data.List.Count

/-!
# Engines that are shared

An engine in the whole holds for the nodes of one side what the engine of that side alone holds, but
for the numbers. What an engine does for a node of the side, both do alike; what it does for a node
of the other side, the side does not notice. The clears are counted for all nodes together, so
nothing is said of them.
-/

namespace Dataflow

variable {S : Side}

namespace Store

variable {α β : Type} {K : String → Bool} {g : β → α} {s : Store α} {s' : Store β}
  {id name : String}

/-- Under the ids of one side there are the same names, with other values. -/
def Strand (K : String → Bool) (g : β → α) (s : Store α) (s' : Store β) : Prop :=
  ∀ id, K id = true → s.entries id = (s'.entries id).mapValues g

namespace Strand

lemma get? (h : s.Strand K g s') (hk : K id = true) (name : String) :
    s.get? id name = (s'.get? id name).map g := by
  unfold Store.get?
  rw [h id hk, NameMap.get?_mapValues]

lemma set (h : s.Strand K g s') (id name : String) {a : α} {b : β} (hab : a = g b) :
    (s.set id name a).Strand K g (s'.set id name b) := by
  subst hab
  intro i hi
  rw [entries_set, entries_set]
  by_cases he : id = i
  · subst he
    rw [if_pos rfl, if_pos rfl, h id hi, NameMap.insert_mapValues]
  · rw [if_neg he, if_neg he, h i hi]

lemma erase (h : s.Strand K g s') (id name : String) :
    (s.erase id name).Strand K g (s'.erase id name) := by
  intro i hi
  rw [Store.erase, Store.erase, entries_settle, entries_settle]
  by_cases he : id = i
  · subst he
    rw [if_pos rfl, if_pos rfl, h id hi, NameMap.erase_mapValues]
  · rw [if_neg he, if_neg he, h i hi]

lemma eraseAll (h : s.Strand K g s') (id : String) :
    (s.eraseAll id).Strand K g (s'.eraseAll id) := by
  intro i hi
  rw [entries_eraseAll, entries_eraseAll]
  by_cases he : id = i
  · rw [if_pos he, if_pos he]
    rfl
  · rw [if_neg he, if_neg he, h i hi]

/-! An id of the other side may hold anything. -/

lemma ne_of_other (hk : K id = false) {i : String} (hi : K i = true) : id ≠ i := by
  rintro rfl
  rw [hk] at hi
  cases hi

lemma set_other (h : s.Strand K g s') (hk : K id = false) (name : String) (a : α) :
    (s.set id name a).Strand K g s' := by
  intro i hi
  rw [entries_set, if_neg (ne_of_other hk hi), h i hi]

lemma erase_other (h : s.Strand K g s') (hk : K id = false) (name : String) :
    (s.erase id name).Strand K g s' := by
  intro i hi
  rw [Store.erase, entries_settle, if_neg (ne_of_other hk hi), h i hi]

lemma eraseAll_other (h : s.Strand K g s') (hk : K id = false) : (s.eraseAll id).Strand K g s' := by
  intro i hi
  rw [entries_eraseAll, if_neg (ne_of_other hk hi), h i hi]

end Strand

end Store

namespace Engine

/-- What `e` holds for one side is what `e'` holds, but for the numbers. -/
structure Strand (S : Side) (host : String) (e e' : Engine) : Prop where
  nodes : ∀ id, S.nodes id = true → e.nodes.get? id = e'.nodes.get? id
  known : ∀ id n, e'.nodes.get? id = some n → n.id = id ∧ n.AsksNothing
  outputs : e.outputs.Strand S.nodes (Result.rename S) e'.outputs
  inFlight : e.inFlight.Strand S.nodes (S .flight) e'.inFlight
  subscriptions : e.subscriptions.Strand S.nodes (List.map S.subscriber) e'.subscriptions
  gates : e.gates.Strand S.nodes (Gate.rename S host) e'.gates
  delivered : ∀ c, S.own (S.subscriber c) = true →
    e.delivered.get? (S.subscriber c) = (e'.delivered.get? c).map (Delivered.rename S)
  subscribed : ∀ s c, S.nodes s.node = true → c ∈ e'.subscribers s →
    S.own (S.subscriber c) = true
  passes : Counts (S (.pass host)) e.passes e'.passes

namespace Strand

variable {host : String} {e e' : Engine} {s : Slot}

lemma node (h : e.Strand S host e') {id : String} (hn : S.nodes id = true) :
    e.node id = e'.node id := by
  unfold Engine.node
  rw [h.nodes id hn]

lemma contains (h : e.Strand S host e') {id : String} (hn : S.nodes id = true) :
    e.nodes.contains id = e'.nodes.contains id := by
  unfold Table.contains
  rw [h.nodes id hn]

lemma target (h : e.Strand S host e') (hs : S.nodes s.node = true) : e.target s = e'.target s := by
  unfold Engine.target
  rw [h.node hs]

lemma known_node (h : e.Strand S host e') {id : String} {n : Node} (hn : e'.node id = .ok n) :
    n.id = id ∧ n.AsksNothing := by
  unfold Engine.node at hn
  cases hget : e'.nodes.get? id with
  | none =>
    rw [hget] at hn
    cases hn
  | some m =>
    rw [hget] at hn
    cases hn
    exact h.known id n hget

/-- What is computed for a slot asks for no other slots. -/
lemma target_alone (h : e.Strand S host e') {n : Node} {schema : Schema}
    (ht : e'.target s = .ok (n, schema)) : n.AsksNothing := by
  unfold Engine.target at ht
  cases hn : e'.node s.node with
  | error f =>
    rw [hn] at ht
    cases ht
  | ok m =>
    rw [hn] at ht
    cases ho : m.outputs.get? s.output with
    | none =>
      simp only [ho] at ht
      cases ht
    | some schema' =>
      simp only [ho] at ht
      cases ht
      exact (h.known_node hn).2

lemma work_alone (h : e.Strand S host e') (s : Slot) :
    ({ host, slot := s, target := e'.target s } : Work).AsksNothing :=
  ⟨fun _ _ ht => h.target_alone ht, by rintro _ _ ⟨⟩, by rintro _ _ ⟨⟩⟩

lemma cached (h : e.Strand S host e') (hs : S.nodes s.node = true) :
    e.cached s = (e'.cached s).map (Result.rename S) := h.outputs.get? hs _

lemma flying (h : e.Strand S host e') (hs : S.nodes s.node = true) :
    e.flying s = (e'.flying s).map (S .flight) := h.inFlight.get? hs _

lemma gate? (h : e.Strand S host e') (hs : S.nodes s.node = true) :
    e.gate? s = (e'.gate? s).map (Gate.rename S host) := h.gates.get? hs _

lemma subscribers (h : e.Strand S host e') (hs : S.nodes s.node = true) :
    e.subscribers s = (e'.subscribers s).map S.subscriber := by
  unfold Engine.subscribers
  rw [h.subscriptions.get? hs]
  cases e'.subscriptions.get? s.node s.output <;> rfl

lemma dropNode (h : e.Strand S host e') (id : String) :
    (e.dropNode id).Strand S host (e'.dropNode id) :=
  { h with outputs := h.outputs.eraseAll id, inFlight := h.inFlight.eraseAll id }

lemma dropNode_other (h : e.Strand S host e') {id : String} (hn : S.nodes id = false) :
    (e.dropNode id).Strand S host e' :=
  { h with outputs := h.outputs.eraseAll_other hn, inFlight := h.inFlight.eraseAll_other hn }

lemma register (h : e.Strand S host e') {n : Node} (hn : S.nodes n.id = true) (ha : n.AsksNothing) :
    (e.register n).Strand S host (e'.register n) := by
  have hput : ({ e with nodes := e.nodes.insert n.id n } : Engine).Strand S host
      { e' with nodes := e'.nodes.insert n.id n } := by
    refine { h with nodes := fun id hid => ?_, known := fun id m hm => ?_ }
    · rw [Table.get?_insert, Table.get?_insert, h.nodes id hid]
    · rw [Table.get?_insert] at hm
      by_cases hid : n.id = id
      · rw [if_pos hid] at hm
        cases hm
        exact ⟨hid, ha⟩
      · rw [if_neg hid] at hm
        exact h.known id m hm
  unfold Engine.register
  rw [h.contains hn]
  cases e'.nodes.contains n.id with
  | false => exact hput
  | true => exact hput.dropNode n.id

lemma register_other (h : e.Strand S host e') {n : Node} (hn : S.nodes n.id = false) :
    (e.register n).Strand S host e' := by
  have hput : ({ e with nodes := e.nodes.insert n.id n } : Engine).Strand S host e' := by
    refine { h with nodes := fun id hid => ?_ }
    rw [Table.get?_insert, if_neg (Store.Strand.ne_of_other hn hid), h.nodes id hid]
  unfold Engine.register
  cases e.nodes.contains n.id with
  | false => exact hput
  | true => exact hput.dropNode_other hn

lemma unregister (h : e.Strand S host e') {id : String} (hn : S.nodes id = true) :
    (e.unregister id).Strand S host (e'.unregister id) := by
  have hput : ({ e with nodes := e.nodes.erase id } : Engine).Strand S host
      { e' with nodes := e'.nodes.erase id } := by
    refine { h with nodes := fun i hi => ?_, known := fun i m hm => ?_ }
    · rw [Table.get?_erase, Table.get?_erase, h.nodes i hi]
    · rw [Table.get?_erase] at hm
      by_cases hid : id = i
      · rw [if_pos hid] at hm
        cases hm
      · rw [if_neg hid] at hm
        exact h.known i m hm
  unfold Engine.unregister
  rw [h.contains hn]
  cases e'.nodes.contains id with
  | false => exact h
  | true => exact hput.dropNode id

lemma unregister_other (h : e.Strand S host e') {id : String} (hn : S.nodes id = false) :
    (e.unregister id).Strand S host e' := by
  have hput : ({ e with nodes := e.nodes.erase id } : Engine).Strand S host e' := by
    refine { h with nodes := fun i hi => ?_ }
    rw [Table.get?_erase, if_neg (Store.Strand.ne_of_other hn hi), h.nodes i hi]
  unfold Engine.unregister
  cases e.nodes.contains id with
  | false => exact h
  | true => exact hput.dropNode_other hn

lemma clear (h : e.Strand S host e') (s : Slot) : (e.clear s).Strand S host (e'.clear s) :=
  { h with outputs := h.outputs.erase _ _, inFlight := h.inFlight.erase _ _ }

lemma clear_other (h : e.Strand S host e') (hs : S.nodes s.node = false) :
    (e.clear s).Strand S host e' :=
  { h with outputs := h.outputs.erase_other hs _, inFlight := h.inFlight.erase_other hs _ }

lemma takeOff (h : e.Strand S host e') (s : Slot) (ticket : Nat) :
    (e.takeOff s (S .flight ticket)).Strand S host (e'.takeOff s ticket) :=
  { h with inFlight := h.inFlight.set _ _ rfl }

lemma takeOff_other (h : e.Strand S host e') (hs : S.nodes s.node = false) (ticket : Nat) :
    (e.takeOff s ticket).Strand S host e' :=
  { h with inFlight := h.inFlight.set_other hs _ _ }

lemma flying_iff (h : e.Strand S host e') (hs : S.nodes s.node = true) (ticket : Nat) :
    e.flying s = some (S .flight ticket) ↔ e'.flying s = some ticket := by
  rw [h.flying hs]
  cases e'.flying s with
  | none => simp
  | some t => simp

lemma land (h : e.Strand S host e') (hs : S.nodes s.node = true) (ticket : Nat) (r : Result) :
    (e.land s (S .flight ticket) (r.rename S)).Strand S host (e'.land s ticket r) := by
  unfold Engine.land
  by_cases hf : e'.flying s = some ticket
  · rw [if_pos hf, if_pos ((h.flying_iff hs ticket).mpr hf)]
    exact { h with outputs := h.outputs.set _ _ rfl, inFlight := h.inFlight.erase _ _ }
  · rw [if_neg hf, if_neg fun he => hf ((h.flying_iff hs ticket).mp he)]
    exact h

lemma land_other (h : e.Strand S host e') (hs : S.nodes s.node = false) (ticket : Nat)
    (r : Result) : (e.land s ticket r).Strand S host e' := by
  unfold Engine.land
  by_cases hf : e.flying s = some ticket
  · rw [if_pos hf]
    exact { h with
      outputs := h.outputs.set_other hs _ _, inFlight := h.inFlight.erase_other hs _ }
  · rw [if_neg hf]
    exact h

lemma enter (h : e.Strand S host e') (hs : S.nodes s.node = true)
    (hp : S (.pass host) e'.passes = e.passes) :
    (e.enter s).1 = (e'.enter s).1.rename S host ∧ (e.enter s).2.Strand S host (e'.enter s).2 := by
  have hgate : (e.gate? s).getD { id := e.passes } =
      ((e'.gate? s).getD { id := e'.passes }).rename S host := by
    rw [h.gate? hs]
    cases e'.gate? s with
    | none => simp [Gate.rename, hp]
    | some g => rfl
  unfold Engine.enter
  rw [hgate]
  refine ⟨?_, { h with gates := h.gates.set _ _ ?_, passes := .upto (S.strictMono _) hp }⟩
  · simp [Gate.rename, Pass.rename, hp]
  · simp [Gate.rename, hp]

lemma enter_other (h : e.Strand S host e') (hs : S.nodes s.node = false)
    (hp : ∀ i, S (.pass host) i ≠ e.passes) : (e.enter s).2.Strand S host e' :=
  { h with gates := h.gates.set_other hs _ _, passes := h.passes.succ_other hp }

lemma modifyGate (h : e.Strand S host e') (hs : S.nodes s.node = true) (pass : Pass)
    {f f' : Gate → Gate} (hf : ∀ g : Gate, f (g.rename S host) = (f' g).rename S host) :
    (e.modifyGate s (pass.rename S host) f).Strand S host (e'.modifyGate s pass f') := by
  unfold Engine.modifyGate
  rw [h.gate? hs]
  cases e'.gate? s with
  | none => exact h
  | some g =>
    show (if S (.pass host) g.id = S (.pass host) pass.gate then _ else _ : Engine).Strand S host
      (if g.id = pass.gate then _ else _)
    simp only [Side.number_inj]
    by_cases hid : g.id = pass.gate
    · rw [if_pos hid, if_pos hid]
      exact { h with gates := h.gates.set _ _ (hf g) }
    · rw [if_neg hid, if_neg hid]
      exact h

lemma modifyGate_other (h : e.Strand S host e') (hs : S.nodes s.node = false) (pass : Pass)
    (f : Gate → Gate) : (e.modifyGate s pass f).Strand S host e' := by
  rcases e.modifyGate_cases s pass f with ⟨g, -, -, heq⟩ | heq <;> rw [heq]
  · exact { h with gates := h.gates.set_other hs _ _ }
  · exact h

lemma abandon (h : e.Strand S host e') (hs : S.nodes s.node = true) (pass : Pass) :
    (e.abandon s (pass.rename S host)).Strand S host (e'.abandon s pass) :=
  h.modifyGate hs pass fun g => (g.rename_erase host pass.number).symm

lemma stepOut (h : e.Strand S host e') (hs : S.nodes s.node = true) (pass : Pass) :
    (e.stepOut s (pass.rename S host)).Strand S host (e'.stepOut s pass) :=
  h.modifyGate hs pass fun g => (g.rename_stepOut host pass.number).symm

lemma leave (h : e.Strand S host e') (hs : S.nodes s.node = true) (pass : Pass) :
    (e.leave s (pass.rename S host)).Strand S host (e'.leave s pass) := by
  have ha := h.abandon hs pass
  unfold Engine.leave
  rw [h.gate? hs]
  cases e'.gate? s with
  | none => exact h
  | some g =>
    have hiff : (g.rename S host).id = (pass.rename S host).gate ∧
        (g.rename S host).holders = [(pass.rename S host).number] ↔
        g.id = pass.gate ∧ g.holders = [pass.number] := by
      simp [Gate.rename, Pass.rename, List.map_eq_singleton_iff]
    simp only [Option.map_some, hiff]
    by_cases hlast : g.id = pass.gate ∧ g.holders = [pass.number]
    · rw [if_pos hlast, if_pos hlast]
      exact { h with gates := h.gates.erase _ _ }
    · rw [if_neg hlast, if_neg hlast]
      exact ha

lemma leave_other (h : e.Strand S host e') (hs : S.nodes s.node = false) (pass : Pass) :
    (e.leave s pass).Strand S host e' := by
  rcases e.leave_cases s pass with ⟨g, -, -, heq⟩ | heq <;> rw [heq]
  · exact { h with gates := h.gates.erase_other hs _ }
  · exact h.modifyGate_other hs pass _

lemma line (h : e.Strand S host e') (hs : S.nodes s.node = true) (pass : Pass) :
    e.line s (pass.rename S host) =
      (e'.line s pass).map fun p => (S (.pass host) p.1, p.2.rename S) := by
  unfold Engine.line
  rw [h.gate? hs]
  cases e'.gate? s with
  | none => rfl
  | some g =>
    show (if S (.pass host) g.id = S (.pass host) pass.gate then _ else _) = _
    simp only [Side.number_inj]
    by_cases hid : g.id = pass.gate
    · rw [if_pos hid, if_pos hid]
      rfl
    · rw [if_neg hid, if_neg hid]
      rfl

lemma isFirst (h : e.Strand S host e') (hs : S.nodes s.node = true) (pass : Pass) :
    e.isFirst s (pass.rename S host) = e'.isFirst s pass := by
  unfold Engine.isFirst
  rw [h.line hs]
  cases e'.line s pass with
  | nil => rfl
  | cons p rest => simp [Pass.rename, beq_eq_decide]

lemma lineUp (h : e.Strand S host e') (hs : S.nodes s.node = true) (pass : Pass) (who : Waiter) :
    (e.lineUp s (pass.rename S host) (who.rename S)).Strand S host (e'.lineUp s pass who) := by
  have hany : (e.line s (pass.rename S host)).any (·.1 == (pass.rename S host).number) =
      (e'.line s pass).any (·.1 == pass.number) := by
    rw [h.line hs, List.any_map]
    simp [Function.comp_def, Pass.rename, beq_eq_decide]
  unfold Engine.lineUp
  rw [hany]
  cases (e'.line s pass).any (·.1 == pass.number) with
  | true => exact h
  | false => exact h.modifyGate hs pass fun g => (g.rename_lineUp host pass.number who).symm

lemma lineUp_other (h : e.Strand S host e') (hs : S.nodes s.node = false) (pass : Pass)
    (who : Waiter) : (e.lineUp s pass who).Strand S host e' := by
  rcases e.lineUp_cases s pass who with heq | heq <;> rw [heq]
  · exact h
  · exact h.modifyGate_other hs pass _

lemma subscribe (h : e.Strand S host e') (hs : S.nodes s.node = true) {c : Nat}
    (hc : S.own (S.subscriber c) = true) :
    (e.subscribe s (S.subscriber c)).Strand S host (e'.subscribe s c) := by
  refine { h with
    subscriptions := h.subscriptions.set _ _ ?_
    delivered := fun j hj => ?_
    subscribed := fun j d hj hd => ?_ }
  · rw [h.subscribers hs, List.map_append]
    rfl
  · show (e.delivered.insert _ _).get? _ = ((e'.delivered.insert _ _).get? _).map _
    rw [Table.get?_insert, Table.get?_insert, h.delivered j hj, h.delivered c hc]
    simp only [Side.subscriber_inj]
    by_cases hcj : c = j
    · rw [if_pos hcj, if_pos hcj]
      cases e'.delivered.get? c <;> rfl
    · rw [if_neg hcj, if_neg hcj]
  · rw [subscribers_subscribe] at hd
    by_cases hsj : s = j
    · subst hsj
      rw [if_pos rfl] at hd
      rcases List.mem_append.mp hd with hd | hd
      · exact h.subscribed s d hj hd
      · rw [List.mem_singleton.mp hd]
        exact hc
    · rw [if_neg hsj] at hd
      exact h.subscribed j d hj hd

lemma subscribe_other (h : e.Strand S host e') (hs : S.nodes s.node = false) {c : Nat}
    (hc : S.own c = false) : (e.subscribe s c).Strand S host e' := by
  refine { h with subscriptions := h.subscriptions.set_other hs _ _, delivered := fun j hj => ?_ }
  show (e.delivered.insert c _).get? _ = _
  have hne : c ≠ S.subscriber j := by
    rintro rfl
    rw [hc] at hj
    cases hj
  rw [Table.get?_insert, if_neg hne, h.delivered j hj]

/-! Whoever is unsubscribed is taken from one roll, and its record counts the rolls. -/

lemma rolls_unsubscribe (h : e.Strand S host e') (hs : S.nodes s.node = true) (c : Nat) :
    (e.unsubscribe s (S.subscriber c)).subscriptions.Strand S.nodes (List.map S.subscriber)
      (e'.unsubscribe s c).subscriptions := by
  unfold Engine.unsubscribe
  rw [h.subscriptions.get? hs]
  cases e'.subscriptions.get? s.node s.output with
  | none => exact h.subscriptions
  | some before =>
    have hrest : (before.map S.subscriber).filter (· != S.subscriber c) =
        (before.filter (· != c)).map S.subscriber := by
      rw [List.filter_map]
      congr 1
      refine List.filter_congr fun d _ => ?_
      simp [bne, beq_eq_decide]
    simp only [Option.map_some, hrest, List.isEmpty_map]
    cases (before.filter (· != c)).isEmpty with
    | true => exact h.subscriptions.erase _ _
    | false => exact h.subscriptions.set _ _ rfl

lemma rolls_unsubscribe_other (h : e.Strand S host e') (hs : S.nodes s.node = false) (c : Nat) :
    (e.unsubscribe s c).subscriptions.Strand S.nodes (List.map S.subscriber) e'.subscriptions := by
  rcases e.unsubscribe_cases s c with heq | ⟨before, delivered, -, ⟨-, heq⟩ | ⟨-, heq⟩⟩ <;> rw [heq]
  · exact h.subscriptions
  · exact h.subscriptions.erase_other hs _
  · exact h.subscriptions.set_other hs _ _

lemma record_unsubscribe (h : e.Strand S host e') (hs : S.nodes s.node = true) (c : Nat) {j : Nat}
    (hj : S.own (S.subscriber j) = true) :
    (e.unsubscribe s (S.subscriber c)).delivered.get? (S.subscriber j) =
      ((e'.unsubscribe s c).delivered.get? j).map (Delivered.rename S) := by
  rw [delivered_unsubscribe, delivered_unsubscribe, h.subscriptions.get? hs, h.subscribers hs,
    get?_release, get?_release, List.count_map_of_injective _ _ S.subscriber_injective,
    h.delivered j hj]
  simp only [Side.subscriber_inj, Option.isSome_map]
  by_cases hroll : c = j ∧ (e'.subscriptions.get? s.node s.output).isSome = true
  · rw [if_pos hroll, if_pos hroll, if_pos hroll.1, if_pos hroll.1]
    cases hd : e'.delivered.get? j with
    | none => rfl
    | some d =>
      simp only [Option.map_some, Option.bind_some, Delivered.rename]
      by_cases hz : d.registrations - (e'.subscribers s).count c = 0
      · rw [if_pos hz, if_pos hz]
        rfl
      · rw [if_neg hz, if_neg hz]
        rfl
  · rw [if_neg hroll, if_neg hroll]

lemma unsubscribe (h : e.Strand S host e') (hs : S.nodes s.node = true) (c : Nat) :
    (e.unsubscribe s (S.subscriber c)).Strand S host (e'.unsubscribe s c) := by
  have hrolls := h.rolls_unsubscribe hs c
  have hdelivered := fun j hj => h.record_unsubscribe hs c (j := j) hj
  have hsubscribed : ∀ j d, S.nodes j.node = true → d ∈ (e'.unsubscribe s c).subscribers j →
      S.own (S.subscriber d) = true := by
    intro j d hj hd
    rw [subscribers_unsubscribe] at hd
    by_cases hsj : s = j
    · subst hsj
      rw [if_pos rfl] at hd
      exact h.subscribed s d hj (List.mem_filter.mp hd).1
    · rw [if_neg hsj] at hd
      exact h.subscribed j d hj hd
  obtain ⟨rolls, records, he⟩ := unsubscribe_frame e s (S.subscriber c)
  obtain ⟨rolls', records', he'⟩ := unsubscribe_frame e' s c
  rw [he] at hrolls hdelivered ⊢
  rw [he'] at hrolls hdelivered hsubscribed ⊢
  exact { h with
    subscriptions := hrolls, delivered := hdelivered, subscribed := hsubscribed }

lemma unsubscribe_other (h : e.Strand S host e') (hl : e.Listed) (hs : S.nodes s.node = false)
    {c : Nat} (hc : S.own c = true → c ∉ e.subscribers s) :
    (e.unsubscribe s c).Strand S host e' := by
  have hrolls := h.rolls_unsubscribe_other hs c
  -- a subscriber of the side has no registration there, so its record is not counted down
  have hdelivered : ∀ j, S.own (S.subscriber j) = true →
      (e.unsubscribe s c).delivered.get? (S.subscriber j) =
        (e'.delivered.get? j).map (Delivered.rename S) := by
    intro j hj
    rw [← h.delivered j hj, delivered_unsubscribe]
    by_cases hcj : c = S.subscriber j ∧ (e.subscriptions.get? s.node s.output).isSome = true
    · rw [if_pos hcj]
      obtain ⟨rfl, -⟩ := hcj
      rw [get?_release, if_pos rfl, List.count_eq_zero_of_not_mem (hc hj)]
      cases hd : e.delivered.get? (S.subscriber j) with
      | none => rfl
      | some d =>
        have hpos := hl.kept _ _ hd
        simp [Nat.ne_of_gt hpos]
    · rw [if_neg hcj]
  obtain ⟨rolls, records, he⟩ := unsubscribe_frame e s c
  rw [he] at hrolls hdelivered ⊢
  exact { h with subscriptions := hrolls, delivered := hdelivered }

/-- Both pick the same, whatever numbers the results have. -/
lemma pick (p : Policy) (hp : p.Blind) (r : Result) {l : List Nat} {d d' : Table Nat Delivered}
    (hl : ∀ c ∈ l, S.own (S.subscriber c) = true)
    (hd : ∀ c, S.own (S.subscriber c) = true →
      d.get? (S.subscriber c) = (d'.get? c).map (Delivered.rename S)) :
    (Engine.pick p (r.rename S) (l.map S.subscriber) d).1 =
      (Engine.pick p r l d').1.map S.subscriber := by
  induction l generalizing d d' with
  | nil => rfl
  | cons c rest ih =>
    have hrest := fun c hc => hl c (List.mem_cons_of_mem _ hc)
    rw [List.map_cons]
    unfold Engine.pick
    rw [hd c (hl c List.mem_cons_self)]
    cases hc : d'.get? c with
    | none => exact ih hrest hd
    | some entry =>
      simp only [Option.map_some, hp.has_rename]
      cases entry.has p r with
      | true => exact ih hrest hd
      | false =>
        have hput : ∀ j, S.own (S.subscriber j) = true →
            (d.insert (S.subscriber c) { entry.rename S with result := some (r.rename S) }).get?
              (S.subscriber j) =
            ((d'.insert c { entry with result := some r }).get? j).map (Delivered.rename S) := by
          intro j hj
          rw [Table.get?_insert, Table.get?_insert, hd j hj]
          simp only [Side.subscriber_inj]
          by_cases hcj : c = j
          · rw [if_pos hcj, if_pos hcj]
            rfl
          · rw [if_neg hcj, if_neg hcj]
        exact congrArg (List.cons _) (ih hrest hput)

lemma select (h : e.Strand S host e') (hs : S.nodes s.node = true) {p : Policy} (hp : p.Blind)
    (r : Result) :
    (e.select p s (r.rename S)).1 = (e'.select p s r).1.map S.subscriber ∧
      (e.select p s (r.rename S)).2.Strand S host (e'.select p s r).2 := by
  have hpicked : (e.select p s (r.rename S)).1 = (e'.select p s r).1.map S.subscriber := by
    unfold Engine.select
    rw [h.subscribers hs]
    exact pick p hp r (fun c hc => h.subscribed s c hs hc) h.delivered
  refine ⟨hpicked, { h with delivered := fun c hc => ?_ }⟩
  have hmem : S.subscriber c ∈ (e.select p s (r.rename S)).1 ↔ c ∈ (e'.select p s r).1 := by
    rw [hpicked, List.mem_map_of_injective S.subscriber_injective]
  rw [delivered_select, delivered_select, h.delivered c hc]
  simp only [hmem]
  by_cases hm : c ∈ (e'.select p s r).1
  · rw [if_pos hm, if_pos hm]
    cases e'.delivered.get? c <;> rfl
  · rw [if_neg hm, if_neg hm]

lemma select_other (h : e.Strand S host e') {p : Policy} {r : Result}
    (hc : ∀ c ∈ e.subscribers s, S.own c = false) : (e.select p s r).2.Strand S host e' := by
  refine { h with delivered := fun c ho => ?_ }
  rw [delivered_select, if_neg, h.delivered c ho]
  intro hm
  rw [hc _ ((mem_select e p s r _).mp hm).1] at ho
  cases ho

end Strand

end Engine

end Dataflow
