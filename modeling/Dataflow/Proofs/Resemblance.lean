import Dataflow.Proofs.Sides
import Dataflow.World.Party

/-!
# What resembles what

A task of one side looks in the whole as it does where that side comes up alone, but for its numbers
and for the clears that its emissions counted. A flight looks the same but for its numbers.
-/

namespace Dataflow

open List (Forall₂)

variable {S : Side}

/-- The clears that were counted may be any. -/
inductive Progress.Resembles (S : Side) (host : String) : Progress → Progress → Prop
  | fresh : Resembles S host .fresh .fresh
  | looking (pass : Pass) : Resembles S host (.looking (pass.rename S host)) (.looking pass)
  | waiting (pass : Pass) (clears clears' : Nat) (h : Handle) :
      Resembles S host (.waiting (pass.rename S host) clears (h.rename S))
        (.waiting pass clears' h)
  | ready (pass : Pass) (clears clears' : Nat) :
      Resembles S host (.ready (pass.rename S host) clears) (.ready pass clears')
  | calling (pass : Pass) (r : Result) {rest : List Nat}
      (own : ∀ c ∈ rest, S.own (S.subscriber c) = true) :
      Resembles S host (.calling (pass.rename S host) (r.rename S) (rest.map S.subscriber))
        (.calling pass r rest)
  | acting (pass : Pass) (r : Result) {rest : List Nat}
      (own : ∀ c ∈ rest, S.own (S.subscriber c) = true) (callback : String)
      (script : List Action) :
      Resembles S host
        (.acting (pass.rename S host) (r.rename S) (rest.map S.subscriber) callback script)
        (.acting pass r rest callback script)

lemma Progress.Resembles.pass? {host : String} {p p' : Progress} (h : p.Resembles S host p') :
    p.pass? = p'.pass?.map (Pass.rename S host) := by
  cases h <;> rfl

inductive Emission.Resembles (S : Side) : Emission → Emission → Prop
  | of {host : String} {slot : Slot} {p p' : Progress} (own : S.nodes slot.node = true)
      (progress : p.Resembles S host p') : Resembles S ⟨host, slot, p⟩ ⟨host, slot, p'⟩

lemma Emission.Resembles.share? {e e' : Emission} (h : e.Resembles S e') :
    e.share? = e'.share?.map (Handle.rename S) := by
  obtain ⟨-, hp⟩ := h
  cases hp <;> rfl

lemma Emission.Resembles.fresh {host : String} {slot : Slot} (h : S.nodes slot.node = true) :
    Emission.Resembles S { host, slot } { host, slot } := .of h .fresh

lemma shares_of_branches {l l' : List (Option Emission)}
    (h : Forall₂ (Option.Rel (Emission.Resembles S)) l l') :
    (l.filterMap id).filterMap Emission.share? =
      ((l'.filterMap id).filterMap Emission.share?).map (Handle.rename S) := by
  induction h with
  | nil => rfl
  | @cons _ _ l l' hab _ ih =>
    cases hab with
    | none => exact ih
    | @some e e' he =>
      show (e :: l.filterMap id).filterMap Emission.share? =
        ((e' :: l'.filterMap id).filterMap Emission.share?).map (Handle.rename S)
      rw [List.filterMap_cons, List.filterMap_cons, he.share?, ih]
      cases e'.share? <;> rfl

inductive Fan.Resembles (S : Side) : Fan → Fan → Prop
  | of (f : Fan) {branches : List (Option Emission)}
      (alike : Forall₂ (Option.Rel (Emission.Resembles S)) branches f.branches) :
      Resembles S { f with branches } f

namespace Fan.Resembles

variable {f f' : Fan}

lemma branch? (h : f.Resembles S f') (i : Nat) :
    Option.Rel (Emission.Resembles S) (f.branch? i) (f'.branch? i) := by
  obtain @⟨f', branches, hb⟩ := h
  unfold Fan.branch?
  have hi := forall₂_getElem? hb i
  show Option.Rel _ ((branches[i]?).bind id) _
  generalize branches[i]? = o at hi
  generalize f'.branches[i]? = o' at hi
  cases hi with
  | none => exact .none
  | some hi => exact hi

lemma isSome_branch? (h : f.Resembles S f') (i : Nat) :
    (f.branch? i).isSome = (f'.branch? i).isSome := by
  have hi := h.branch? i
  generalize f.branch? i = o at hi
  generalize f'.branch? i = o' at hi
  cases hi <;> rfl

lemma cursor (h : f.Resembles S f') : f.cursor = f'.cursor := by
  obtain ⟨f', -⟩ := h
  rfl

lemma wide (h : f.Resembles S f') : f.wide = f'.wide := by
  obtain ⟨f', -⟩ := h
  rfl

lemma ready (h : f.Resembles S f') : f.ready = f'.ready := by
  obtain ⟨f', -⟩ := h
  rfl

lemma length (h : f.Resembles S f') : f.branches.length = f'.branches.length := by
  obtain ⟨f', hb⟩ := h
  exact hb.length_eq

lemma current? (h : f.Resembles S f') :
    Option.Rel (Emission.Resembles S) f.current? f'.current? := by
  unfold Fan.current?
  rw [h.cursor]
  exact h.branch? _

lemma unfinished (h : f.Resembles S f') : f.unfinished = f'.unfinished := by
  unfold Fan.unfinished
  rw [h.length]
  exact List.filter_congr fun i _ => h.isSome_branch? i

lemma asleep (h : f.Resembles S f') (i : Nat) : f.asleep i = f'.asleep i := by
  unfold Fan.asleep
  rw [h.isSome_branch? i, h.ready]

lemma leaving (h : f.Resembles S f') : f.leaving = f'.leaving := by
  have hl := h.length
  obtain ⟨f', -⟩ := h
  unfold Fan.leaving
  rw [hl]

lemma yields (h : f.Resembles S f') : f.yields = f'.yields := by
  obtain ⟨f', -⟩ := h
  rfl

lemma shares (h : f.Resembles S f') : f.emissions.filterMap Emission.share? =
    (f'.emissions.filterMap Emission.share?).map (Handle.rename S) := by
  obtain ⟨f', hb⟩ := h
  exact shares_of_branches hb

/-! What is done to fans. -/

lemma setCurrent (h : f.Resembles S f') {e e' : Option Emission}
    (he : Option.Rel (Emission.Resembles S) e e') :
    (f.setCurrent e).Resembles S (f'.setCurrent e') := by
  obtain ⟨f', hb⟩ := h
  exact .of (f'.setCurrent e') (forall₂_set hb f'.cursor he)

lemma aimAt (h : f.Resembles S f') (i : Nat) : (f.aimAt i).Resembles S (f'.aimAt i) := by
  obtain ⟨f', hb⟩ := h
  exact .of (f'.aimAt i) hb

lemma withReady (h : f.Resembles S f') (l : List Nat) :
    Fan.Resembles S { f with ready := l } { f' with ready := l } := by
  obtain ⟨f', hb⟩ := h
  exact .of { f' with ready := l } hb

lemma stir (h : f.Resembles S f') (i : Nat) : (f.stir i).Resembles S (f'.stir i) := by
  have ha := h.asleep i
  obtain ⟨f', hb⟩ := h
  unfold Fan.stir
  rw [ha]
  exact .of (f'.stir i) hb

lemma beginTurn (h : f.Resembles S f') : f.beginTurn.Resembles S f'.beginTurn := by
  have hu := h.unfinished
  obtain ⟨f', hb⟩ := h
  unfold Fan.beginTurn
  rw [hu]
  exact .of f'.beginTurn hb

lemma countWait (h : f.Resembles S f') : f.countWait.Resembles S f'.countWait := by
  obtain ⟨f', hb⟩ := h
  exact .of f'.countWait hb

lemma ofKeys (host : String) {node : String} (h : S.nodes node = true) (keys : List String) :
    (Fan.of host node keys).Resembles S (Fan.of host node keys) := by
  refine .of (Fan.of host node keys) ?_
  show Forall₂ _ (keys.map _) (keys.map _)
  rw [List.forall₂_map_left_iff, List.forall₂_map_right_iff, List.forall₂_same]
  exact fun k _ => .some (.fresh h)

end Fan.Resembles

inductive Job.Resembles (S : Side) : Job → Job → Prop
  | output {host : String} {slot : Slot} (own : S.nodes slot.node = true) (h : Option Handle) :
      Resembles S (.output host slot (h.map (Handle.rename S))) (.output host slot h)
  | compute {host : String} {slot : Slot} (own : S.nodes slot.node = true) :
      Resembles S (.compute host slot) (.compute host slot)
  | work {k : Work} (own : S.nodes k.slot.node = true) (alone : k.AsksNothing) :
      Resembles S (.work (k.rename S)) (.work k)
  | invalidate {host node : String} (own : S.nodes node = true) (keys : Option (List String)) :
      Resembles S (.invalidate host node keys) (.invalidate host node keys)
  | fan {f f' : Fan} (alike : f.Resembles S f') : Resembles S (.fan f) (.fan f')
  | emit {e e' : Emission} (alike : e.Resembles S e') : Resembles S (.emit e) (.emit e')
  | follow (t : Nat) : Resembles S (.follow (S .task t)) (.follow t)
  | nothing : Resembles S .nothing .nothing

lemma Job.Resembles.shares {j j' : Job} (h : j.Resembles S j') :
    j.shares = j'.shares.map (Handle.rename S) := by
  cases h with
  | output own h => cases h <;> rfl
  | @work k own alone =>
    show (k.rename S).share?.toList = k.share?.toList.map _
    rw [Work.share?_rename, alone.share?]
    rfl
  | fan alike => exact alike.shares
  | @emit e e' alike =>
    show List.filterMap _ [e] = (List.filterMap _ [e']).map _
    rw [List.filterMap_cons, List.filterMap_cons, alike.share?]
    cases e'.share? <;> rfl
  | _ => rfl

/-- A subscription of the side; what is still to be delivered first has not begun. -/
structure Subscription.Resembles (S : Side) (s s' : Subscription) : Prop where
  eq : s = s'.rename S
  own : S.nodes s'.slot.node = true
  deferred : ∀ e, s'.delivery = .deferred e → e = { host := s'.host, slot := s'.slot }

/-- What a task leaves of a subscription, or of one that it was lent, is of the side as well. -/
lemma Subscription.Resembles.take {s s' : Subscription} (h : s.Resembles S s') (t : Nat)
    (borrower : Option Nat) :
    ({ s with
      delivery := s.delivery.take (S .task t)
      borrower := borrower.map (S .task) } : Subscription).Resembles S
        { s' with delivery := s'.delivery.take t, borrower } where
  eq := by
    obtain ⟨rfl, -, -⟩ := h
    simp [rename, Delivery.rename_take]
  own := h.own
  deferred := by
    intro e he
    have he : s'.delivery.take t = .deferred e := he
    cases hd : s'.delivery <;> rw [hd] at he <;> cases he

/-- Whoever of the side has borrowed it. -/
lemma Subscription.Resembles.lend {s s' : Subscription} (h : s.Resembles S s')
    (borrower : Option Nat) :
    ({ s with borrower := borrower.map (S .task) } : Subscription).Resembles S
      { s' with borrower } where
  eq := by
    obtain ⟨rfl, -, -⟩ := h
    rfl
  own := h.own
  deferred := h.deferred

structure Task.Resembles (S : Side) (t t' : Task) : Prop where
  name : t.name = t'.name
  job : t.job.Resembles S t'.job
  cancelled : t.cancelled = t'.cancelled
  ended : t.ended = t'.ended.map (End.rename S)
  follower : t.follower = t'.follower.map (S .task)
  holding : Option.Rel (fun p p' => p.1 = p'.1 ∧ p.2.Resembles S p'.2) t.holding t'.holding

structure Flight.Resembles (S : Side) (f f' : Flight) : Prop where
  eq : f = f'.rename S
  own : S.nodes f'.work.slot.node = true
  alone : f'.work.AsksNothing

inductive Party.Resembles (S : Side) : Party → Party → Prop
  | work {k : Work} (own : S.nodes k.slot.node = true) (alone : k.AsksNothing) :
      Resembles S (.work (k.rename S)) (.work k)
  | emission {e e' : Emission} (alike : e.Resembles S e') : Resembles S (.emission e) (.emission e')
  | output {host : String} {slot : Slot} (own : S.nodes slot.node = true) (h : Option Handle) :
      Resembles S (.output host slot (h.map (Handle.rename S))) (.output host slot h)
  | nobody : Resembles S .nobody .nobody

end Dataflow
