import Dataflow.Proofs.Rolls
import Dataflow.Proofs.TidyStores
import Dataflow.Proofs.Unsubscription
import Mathlib.Data.List.Flatten
import Mathlib.Data.List.Perm.Subperm

/-!
# Enrolment

The rolls of an engine change by subscriptions and unsubscriptions alone, slots without a subscriber
are not on them, and the records of the subscribers count what is on the rolls. A subscriber that has
come and gone leaves both tables as it found them.
-/

namespace Dataflow

namespace Engine

/-- Those slots that have a roll. -/
def slots (e : Engine) : List Slot := e.subscriptions.listing.map fun p => ⟨p.1.1, p.1.2⟩

/-- The rolls are listed in order, and none of them is empty. -/
structure Orderly (e : Engine) : Prop where
  tidy : e.subscriptions.Tidy
  manned : ∀ id name l, e.subscriptions.get? id name = some l → l ≠ []

namespace Orderly

variable {e e' : Engine}

lemma empty : ({} : Engine).Orderly := ⟨.empty, fun _ _ _ hg => by cases hg⟩

/-- Other tables do not matter. -/
lemma of_rolls (h : e.Orderly) (hs : e'.subscriptions = e.subscriptions) : e'.Orderly :=
  ⟨hs ▸ h.tidy, hs ▸ h.manned⟩

lemma subscribe (h : e.Orderly) (s : Slot) (c : Nat) : (e.subscribe s c).Orderly := by
  refine ⟨h.tidy.set s.node s.output _, fun id name l hg => ?_⟩
  simp only [Engine.subscribe, Store.get?_set] at hg
  by_cases hs : s.node = id ∧ s.output = name
  · rw [if_pos hs] at hg
    cases hg
    simp
  · rw [if_neg hs] at hg
    exact h.manned id name l hg

lemma unsubscribe (h : e.Orderly) (s : Slot) (c : Nat) : (e.unsubscribe s c).Orderly := by
  rcases e.unsubscribe_cases s c with heq | ⟨before, delivered, -, ⟨-, heq⟩ | ⟨hn, heq⟩⟩ <;> rw [heq]
  · exact h
  · refine ⟨h.tidy.erase s.node s.output, fun id name l hg => ?_⟩
    rw [Store.get?_erase, Option.ite_none_left_eq_some] at hg
    exact h.manned id name l hg.2
  · refine ⟨h.tidy.set s.node s.output _, fun id name l hg => ?_⟩
    rw [Store.get?_set] at hg
    by_cases hs : s.node = id ∧ s.output = name
    · rw [if_pos hs] at hg
      cases hg
      exact hn
    · rw [if_neg hs] at hg
      exact h.manned id name l hg

lemma mem_slots (h : e.Orderly) (s : Slot) :
    s ∈ e.slots ↔ (e.subscriptions.get? s.node s.output).isSome = true := by
  unfold slots
  rw [List.mem_map, Option.isSome_iff_exists]
  constructor
  · rintro ⟨⟨⟨id, name⟩, l⟩, hp, rfl⟩
    exact ⟨l, h.tidy.mem_listing.mp hp⟩
  · rintro ⟨l, hl⟩
    exact ⟨((s.node, s.output), l), h.tidy.mem_listing.mpr hl, rfl⟩

lemma nodup_slots (h : e.Orderly) : e.slots.Nodup := by
  have hplaces : e.slots = (e.subscriptions.listing.map Prod.fst).map fun p => ⟨p.1, p.2⟩ := by
    rw [List.map_map]
    rfl
  rw [hplaces]
  refine h.tidy.nodup_listing.map ?_
  rintro ⟨id, name⟩ ⟨id', name'⟩ heq
  cases heq
  rfl

lemma mem_slots_of_subscriber (h : e.Orderly) {s : Slot} {c : Nat} (hc : c ∈ e.subscribers s) :
    s ∈ e.slots := by
  rw [h.mem_slots]
  unfold subscribers at hc
  cases hg : e.subscriptions.get? s.node s.output with
  | none =>
    rw [hg] at hc
    cases hc
  | some l => rfl

end Orderly

/-- More slots to look through do not make fewer registrations, as long as none with the subscriber is
left out. -/
lemma count_flatMap_le {f : Slot → List Nat} {c : Nat} {l l' : List Slot} (hn : l.Nodup)
    (h : ∀ s ∈ l, c ∈ f s → s ∈ l') : (l.flatMap f).count c ≤ (l'.flatMap f).count c := by
  have hpart : ((l.filter fun s => c ∈ f s).flatMap f).count c = (l.flatMap f).count c := by
    induction l with
    | nil => rfl
    | cons s l ih =>
      have hl := ih (List.nodup_cons.mp hn).2 fun j hj => h j (List.mem_cons_of_mem s hj)
      by_cases hs : c ∈ f s
      · rw [List.filter_cons_of_pos (by simpa using hs), List.flatMap_cons, List.flatMap_cons,
          List.count_append, List.count_append, hl]
      · rw [List.filter_cons_of_neg (by simpa using hs), List.flatMap_cons, List.count_append,
          List.count_eq_zero.mpr hs, hl, Nat.zero_add]
  have hsub : (l.filter fun s => c ∈ f s).Subperm l' := by
    refine List.subperm_of_subset (hn.filter _) fun s hs => ?_
    obtain ⟨hs, hc⟩ := List.mem_filter.mp hs
    exact h s hs (of_decide_eq_true hc)
  obtain ⟨m, hperm, hm⟩ := hsub
  rw [← hpart, (hperm.flatMap_right f).symm.count_eq c]
  exact (hm.flatMap f).count_le c

/-- The record of a subscriber counts exactly its registrations. -/
lemma registrations_eq {e : Engine} (ho : e.Orderly) (hl : e.Listed)
    (ht : ∀ c (slots : List Slot), slots.Nodup →
      (slots.flatMap e.subscribers).count c ≤ e.registrations c) (c : Nat) :
    e.registrations c = (e.slots.flatMap e.subscribers).count c := by
  obtain ⟨slots, hn, hle⟩ := hl.counted c
  refine Nat.le_antisymm (Nat.le_trans hle ?_) (ht c e.slots ho.nodup_slots)
  exact count_flatMap_le hn fun s _ hc => ho.mem_slots_of_subscriber hc

end Engine

/-- What an event has done to the rolls of an engine, and to the records that go with them. -/
def Event.books (host : String) (x : Event) (e : Engine) : Engine :=
  match x with
  | .subscribed h s c _ => if h = host then e.subscribe s c else e
  | .unsubscribed h s c => if h = host then e.unsubscribe s c else e
  | _ => e

/-- Whom an event puts on a roll or takes off. -/
def Event.enrols (host : String) : Event → Option Nat
  | .subscribed h _ c _ => if h = host then some c else none
  | .unsubscribed h _ c => if h = host then some c else none
  | _ => none

namespace Engine

variable {e e' : Engine}

lemma subscriptions_books (host : String) (x : Event) (hs : e.subscriptions = e'.subscriptions) :
    (x.books host e).subscriptions = (x.books host e').subscriptions := by
  cases x with
  | subscribed h s c name =>
    by_cases hh : h = host
    · simp [Event.books, hh, subscribe, subscribers, hs]
    · simp [Event.books, hh, hs]
  | unsubscribed h s c =>
    by_cases hh : h = host
    · simp only [Event.books, hh, if_true, unsubscribe, hs]
      cases e'.subscriptions.get? s.node s.output with
      | none => exact hs
      | some before => rfl
    · simp [Event.books, hh, hs]
  | _ => exact hs

lemma delivered_books (host : String) (x : Event) (hs : e.subscriptions = e'.subscriptions)
    (hd : e.delivered = e'.delivered) : (x.books host e).delivered = (x.books host e').delivered := by
  cases x with
  | subscribed h s c name =>
    by_cases hh : h = host
    · simp [Event.books, hh, subscribe, hd]
    · simp [Event.books, hh, hd]
  | unsubscribed h s c =>
    by_cases hh : h = host
    · simp only [Event.books, hh, if_true, unsubscribe, hs]
      cases e'.subscriptions.get? s.node s.output with
      | none => exact hd
      | some before => rw [hd]
    · simp [Event.books, hh, hd]
  | _ => exact hd

lemma subscriptions_foldr (host : String) (new : List Event)
    (hs : e.subscriptions = e'.subscriptions) :
    (new.foldr (Event.books host) e).subscriptions =
      (new.foldr (Event.books host) e').subscriptions := by
  induction new with
  | nil => exact hs
  | cons x new ih => exact subscriptions_books host x ih

lemma delivered_foldr (host : String) (new : List Event) (hs : e.subscriptions = e'.subscriptions)
    (hd : e.delivered = e'.delivered) :
    (new.foldr (Event.books host) e).delivered = (new.foldr (Event.books host) e').delivered := by
  induction new with
  | nil => exact hd
  | cons x new ih => exact delivered_books host x (subscriptions_foldr host new hs) ih

lemma books_of_isPlain {x : Event} (hx : x.isPlain = true) (host : String) (e : Engine) :
    x.books host e = e := by
  cases x with
  | subscribed h s c name => cases hx
  | unsubscribed h s c => cases hx
  | _ => rfl

lemma foldr_books_of_plain {new : List Event} (hn : ∀ x ∈ new, x.isPlain = true) (host : String)
    (e : Engine) : new.foldr (Event.books host) e = e := by
  induction new with
  | nil => rfl
  | cons x new ih =>
    rw [List.foldr_cons, ih fun y hy => hn y (List.mem_cons_of_mem x hy)]
    exact books_of_isPlain (hn x List.mem_cons_self) host e

def filled {α : Type} (l : List α) : Option (List α) := if l.isEmpty then none else some l

/-- The subscribers but one, if there are others. -/
def others (c : Nat) (l : List Nat) : Option (List Nat) := filled (l.filter (· != c))

/-- The rolls as they would be listed without a subscriber. -/
def rollsWithout (e : Engine) (c : Nat) : List (String × NameMap (List Nat)) :=
  trim (fun m => filled (trim (others c) m)) e.subscriptions.shelves.entries

/-- The records of all other subscribers. -/
def recordsWithout (e : Engine) (c : Nat) : List (Nat × Delivered) :=
  e.delivered.entries.filter fun p => p.1 ≠ c

lemma filled_of_ne {α : Type} {l : List α} (h : l ≠ []) : filled l = some l :=
  if_neg fun he => h (List.isEmpty_iff.mp he)

lemma others_eq_self {c : Nat} {l : List Nat} (hc : c ∉ l) (hl : l ≠ []) :
    others c l = some l := by
  have hf : l.filter (· != c) = l := by
    rw [List.filter_eq_self]
    intro d hd
    rw [bne_iff_ne]
    rintro rfl
    exact hc hd
  unfold others
  rw [hf, filled_of_ne hl]

lemma others_getD (c : Nat) (o : Option (List Nat)) : others c (o.getD []) = o.bind (others c) := by
  cases o <;> rfl

lemma others_append (c : Nat) (l : List Nat) : others c (l ++ [c]) = others c l := by
  unfold others
  rw [List.filter_append]
  simp

lemma others_filter (c : Nat) (l : List Nat) : others c (l.filter (· != c)) = others c l := by
  unfold others
  rw [List.filter_filter]
  simp

/-- A shelf that differs at places of the subscriber alone makes no difference. -/
lemma rollsWithout_insert {e' : Engine} {c : Nat} {id : String} {m : NameMap (List Nat)}
    (he : e'.subscriptions = ⟨e.subscriptions.shelves.insert id m⟩)
    (hm : trim (others c) m = trim (others c) (e.subscriptions.entries id)) :
    e'.rollsWithout c = e.rollsWithout c := by
  unfold rollsWithout
  rw [he]
  refine Table.trim_replace ?_
  rw [hm]
  show filled (trim (others c) ((e.subscriptions.shelves.get? id).getD [])) = _
  unfold Table.get?
  cases Table.lookup e.subscriptions.shelves.entries id <;> rfl

lemma rollsWithout_subscribe (h : e.Orderly) (s : Slot) (c : Nat) :
    (e.subscribe s c).rollsWithout c = e.rollsWithout c := by
  refine rollsWithout_insert rfl (NameMap.trim_insert (h.tidy.entries_sorted s.node) ?_)
  rw [others_append, subscribers, others_getD]
  rfl

lemma rollsWithout_unsubscribe (h : e.Orderly) (s : Slot) (c : Nat) :
    (e.unsubscribe s c).rollsWithout c = e.rollsWithout c := by
  have hsorted := h.tidy.entries_sorted s.node
  rcases e.unsubscribe_cases s c with heq | ⟨before, delivered, hb, ⟨hnil, heq⟩ | ⟨-, heq⟩⟩ <;> rw [heq]
  · -- Nobody else was registered, and the slot goes.
    have hbefore : NameMap.get? (e.subscriptions.entries s.node) s.output = some before := hb
    have hnone : others c before = none := if_pos (List.isEmpty_iff.mpr hnil)
    have hshelf : trim (others c) ((e.subscriptions.entries s.node).erase s.output) =
        trim (others c) (e.subscriptions.entries s.node) := by
      refine trim_filter_ne fun p hp hname => ?_
      have hget := hsorted.get?_of_mem hp
      rw [hname, hbefore] at hget
      cases hget
      exact hnone
    by_cases hlast : ((e.subscriptions.entries s.node).erase s.output).isEmpty = true
    · -- So does the node, with its last slot.
      unfold rollsWithout Store.erase Store.settle
      simp only [hlast, if_true]
      refine trim_filter_ne fun p hp hid => ?_
      have hget := Table.lookup_of_mem h.tidy.ids hp
      have hp' : e.subscriptions.entries s.node = p.2 := by
        unfold Store.entries Table.get?
        rw [← hid, hget, Option.getD_some]
      rw [← hp', ← hshelf, List.isEmpty_iff.mp hlast]
      rfl
    · refine rollsWithout_insert ?_ hshelf
      unfold Store.erase Store.settle
      rw [if_neg hlast]
  · have hbefore : NameMap.get? (e.subscriptions.entries s.node) s.output = some before := hb
    refine rollsWithout_insert rfl (NameMap.trim_insert hsorted ?_)
    rw [others_filter, hbefore]
    rfl

/-- A subscriber that is on no roll leaves no trace on them. -/
lemma rollsWithout_eq_self (h : e.Orderly) {c : Nat} (hc : ∀ s, c ∉ e.subscribers s) :
    e.rollsWithout c = e.subscriptions.shelves.entries := by
  refine trim_eq_self fun p hp => ?_
  have hshelf : trim (others c) p.2 = p.2 := by
    refine trim_eq_self fun q hq => ?_
    have hget := h.tidy.get?_of_mem hp hq
    refine others_eq_self (fun hm => hc ⟨p.1, q.1⟩ ?_) (h.manned p.1 q.1 q.2 hget)
    rw [subscribers, hget, Option.getD_some]
    exact hm
  rw [hshelf]
  exact filled_of_ne (h.tidy.filled p hp)

lemma recordsWithout_subscribe (e : Engine) (s : Slot) (c : Nat) :
    (e.subscribe s c).recordsWithout c = e.recordsWithout c :=
  Table.filter_ne_replace e.delivered.entries c _

lemma recordsWithout_unsubscribe (e : Engine) (s : Slot) (c : Nat) :
    (e.unsubscribe s c).recordsWithout c = e.recordsWithout c := by
  unfold unsubscribe
  cases e.subscriptions.get? s.node s.output with
  | none => rfl
  | some before =>
    unfold recordsWithout
    dsimp only
    rcases release_cases e.delivered c (before.length - (before.filter (· != c)).length) with
      heq | heq | ⟨entry, heq⟩ <;> rw [heq]
    · simp [Table.erase]
    · exact Table.filter_ne_replace _ _ _

lemma recordsWithout_eq_self {c : Nat} (hc : e.delivered.get? c = none) :
    e.recordsWithout c = e.delivered.entries :=
  Table.filter_ne_eq_self hc

end Engine

/-! ## Rolls along a history -/

namespace Journal

variable {host : String} {c : Nat}

/-- Every subscription of `c` is followed by an unsubscription from the same slot. -/
def TakenBack (host : String) (c : Nat) (new : List Event) : Prop :=
  ∀ s name later earlier, new = later ++ .subscribed host s c name :: earlier →
    .unsubscribed host s c ∈ later

/-- Whoever was on no roll, and was taken back wherever it came, is on no roll. -/
lemma TakenBack.not_enrolled {new past : List Event} (h : TakenBack host c new) (s : Slot)
    (hp : enrolled host s c past = false) : enrolled host s c (new ++ past) = false := by
  have hfind : ∀ l : List Event, (∀ later name earlier,
      l = later ++ .subscribed host s c name :: earlier → .unsubscribed host s c ∈ later) →
      enrolled host s c (l ++ past) = false := by
    intro l
    induction l with
    | nil => exact fun _ => hp
    | cons e l ih =>
      intro hback
      rw [List.cons_append, enrolled_cons]
      cases hr : e.ofRoll host s c with
      | none =>
        refine ih fun later name earlier hl => ?_
        have hm := hback (e :: later) name earlier (by rw [hl, List.cons_append])
        rcases List.mem_cons.mp hm with rfl | hm
        · simp [Event.ofRoll] at hr
        · exact hm
      | some b =>
        rcases Event.ofRoll_eq_some hr with ⟨rfl, name, rfl⟩ | ⟨rfl, -⟩
        · exact absurd (hback [] name l rfl) List.not_mem_nil
        · rfl
  exact hfind new fun later name earlier hl => h s name later earlier hl

end Journal

namespace Ledger

variable {b b' : Ledger}

/-- The rolls of an engine are what subscriptions and unsubscriptions have made of those before, and
so are the records, unless there was a delivery. -/
def Booked (host : String) (b b' : Ledger) : Prop :=
  ∃ new, b'.journal = new ++ b.journal ∧
    (b'.engine host).subscriptions =
      (new.foldr (Event.books host) (b.engine host)).subscriptions ∧
    ((∀ s pass r picked, .delivering host s pass r picked ∉ new) → (b'.engine host).delivered =
      (new.foldr (Event.books host) (b.engine host)).delivered)

lemma Booked.refl (host : String) (b : Ledger) : Booked host b b := ⟨[], rfl, rfl, fun _ => rfl⟩

lemma Booked.trans {host : String} {b'' : Ledger} (h : Booked host b b')
    (h' : Booked host b' b'') : Booked host b b'' := by
  obtain ⟨new, hj, hs, hd⟩ := h
  obtain ⟨new', hj', hs', hd'⟩ := h'
  refine ⟨new' ++ new, by rw [hj', hj, List.append_assoc], ?_, fun hn => ?_⟩
  · rw [hs', List.foldr_append]
    exact Engine.subscriptions_foldr host new' hs
  · have hnew' := hd' fun s pass r picked hm => hn s pass r picked (List.mem_append_left new hm)
    have hnew := hd fun s pass r picked hm => hn s pass r picked (List.mem_append_right new' hm)
    rw [hnew', List.foldr_append]
    exact Engine.delivered_foldr host new' hs hnew

lemma Booked.plain (host : String) (h : b.Plain b') : Booked host b b' := by
  obtain ⟨new, hj, hn⟩ := h.journal
  obtain ⟨gates, passes, -, he⟩ := h.engine host
  rw [← Engine.foldr_books_of_plain hn host (b.engine host)] at he
  exact ⟨new, hj, by rw [he], fun _ => by rw [he]⟩

/-- One engine has changed, by what one event says. -/
lemma Booked.set {host i : String} {e : Engine} {x : Event}
    (hb : ∀ k, b'.engine k = if i = k then e else b.engine k) (hj : b'.journal = x :: b.journal)
    (hs : i = host → e.subscriptions = (x.books host (b.engine host)).subscriptions)
    (hd : i = host → e.delivered = (x.books host (b.engine host)).delivered)
    (hn : i ≠ host → x.books host (b.engine host) = b.engine host) : Booked host b b' := by
  refine ⟨[x], hj, ?_, fun _ => ?_⟩
  · rw [hb]
    by_cases hi : i = host
    · rw [if_pos hi]
      exact hs hi
    · rw [if_neg hi]
      exact congrArg Engine.subscriptions (hn hi).symm
  · rw [hb]
    by_cases hi : i = host
    · rw [if_pos hi]
      exact hd hi
    · rw [if_neg hi]
      exact congrArg Engine.delivered (hn hi).symm

lemma Booked.change (host : String) (h : b.Change b') : Booked host b b' := by
  -- Most operations leave rolls and records alone, and so does what they log.
  have hkeep : ∀ (i : String) {e : Engine} {x : Event},
      (∀ k, b'.engine k = if i = k then e else b.engine k) →
      e.subscriptions = (b.engine i).subscriptions → e.delivered = (b.engine i).delivered →
      b'.journal = x :: b.journal → (∀ e, x.books host e = e) → Booked host b b' := by
    intro i e x hb hs hd hj hx
    refine .set hb hj (fun hi => ?_) (fun hi => ?_) fun _ => hx _
    · rw [hx, hs, hi]
    · rw [hx, hd, hi]
  cases h with
  | nothing => exact .refl host b
  | takeOff i s _ _ => exact hkeep i (fun _ => rfl) rfl rfl rfl fun _ => rfl
  | land ticket d c _ _ =>
    obtain ⟨-, -, hs, hd⟩ := (b.engine d.host).land_frame d.slot ticket ⟨b.results, c⟩
    exact hkeep d.host (fun _ => rfl) hs hd rfl fun _ => rfl
  | enlist i n =>
    obtain ⟨-, -, hs, hd⟩ := (b.engine i).register_frame n
    exact hkeep i (fun _ => rfl) hs hd rfl fun _ => rfl
  | unregister i id hn =>
    obtain ⟨-, -, hs, hd⟩ := (b.engine i).unregister_frame id hn
    exact hkeep i (fun _ => rfl) hs hd rfl fun _ => rfl
  | clearKeys t i node keys =>
    obtain ⟨-, -, hs, hd⟩ := (b.engine i).clearAll_frame node keys
    exact hkeep i (fun _ => rfl) hs hd rfl fun _ => rfl
  | enrol i s c name _ =>
    refine .set (i := i) (fun _ => rfl) rfl ?_ ?_ fun hi => if_neg hi
    · rintro rfl
      simp [Event.books]
    · rintro rfl
      simp [Event.books]
  | unsubscribe i s c =>
    refine .set (i := i) (fun _ => rfl) rfl ?_ ?_ fun hi => if_neg hi
    · rintro rfl
      simp [Event.books]
    · rintro rfl
      simp [Event.books]
  | offer i s pass r _ _ =>
    refine ⟨[.delivering i s pass r ((b.engine i).select (b.policy i) s r).1], rfl, ?_, fun hn => ?_⟩
    · show (if i = host then ((b.engine i).select (b.policy i) s r).2
        else b.engine host).subscriptions = (b.engine host).subscriptions
      by_cases hi : i = host
      · subst hi
        rw [if_pos rfl]
        rfl
      · rw [if_neg hi]
    · by_cases hi : i = host
      · subst hi
        exact absurd List.mem_cons_self (hn s pass r _)
      · exact congrArg Engine.delivered (if_neg hi)

lemma Booked.move (host : String) (h : Move b b') : Booked host b b' := by
  obtain ⟨m, hc, hp⟩ := h.change
  exact (Booked.change host hc).trans (.plain host hp)

lemma Booked.moves (host : String) (h : Moves b b') : Booked host b b' := by
  induction h with
  | refl b => exact .refl host b
  | head hm _ ih => exact (Booked.move host hm).trans ih

/-- What is booked along a given history. -/
lemma Booked.along {host : String} {new : List Event} (h : Booked host b b')
    (hj : b'.journal = new ++ b.journal) :
    (b'.engine host).subscriptions =
      (new.foldr (Event.books host) (b.engine host)).subscriptions ∧
    ((∀ s pass r picked, .delivering host s pass r picked ∉ new) → (b'.engine host).delivered =
      (new.foldr (Event.books host) (b.engine host)).delivered) := by
  obtain ⟨new', hj', hbooked⟩ := h
  obtain rfl : new = new' := List.append_cancel_right (hj.symm.trans hj')
  exact hbooked

end Ledger

namespace Engine

variable {e : Engine}

lemma orderly_books (h : e.Orderly) (host : String) (x : Event) : (x.books host e).Orderly := by
  cases x with
  | subscribed i s c name =>
    show (if i = host then e.subscribe s c else e).Orderly
    by_cases hi : i = host
    · rw [if_pos hi]
      exact h.subscribe s c
    · rw [if_neg hi]
      exact h
  | unsubscribed i s c =>
    show (if i = host then e.unsubscribe s c else e).Orderly
    by_cases hi : i = host
    · rw [if_pos hi]
      exact h.unsubscribe s c
    · rw [if_neg hi]
      exact h
  | _ => exact h

lemma orderly_foldr (h : e.Orderly) (host : String) (new : List Event) :
    (new.foldr (Event.books host) e).Orderly := by
  induction new with
  | nil => exact h
  | cons x new ih => exact orderly_books ih host x

/-- While one subscriber alone comes and goes, nothing of the others changes. -/
lemma without_foldr (h : e.Orderly) {host : String} {c : Nat} {new : List Event}
    (hn : ∀ x ∈ new, ∀ d, x.enrols host = some d → d = c) :
    (new.foldr (Event.books host) e).rollsWithout c = e.rollsWithout c ∧
      (new.foldr (Event.books host) e).recordsWithout c = e.recordsWithout c := by
  induction new with
  | nil => exact ⟨rfl, rfl⟩
  | cons x new ih =>
    obtain ⟨hs, hd⟩ := ih fun y hy => hn y (List.mem_cons_of_mem x hy)
    have ho := orderly_foldr h host new
    rw [List.foldr_cons, ← hs, ← hd]
    have hx := hn x List.mem_cons_self
    cases x with
    | subscribed i s d name =>
      by_cases hi : i = host
      · obtain rfl := hx d (if_pos hi)
        simp only [Event.books, if_pos hi]
        exact ⟨rollsWithout_subscribe ho s d, recordsWithout_subscribe _ s d⟩
      · simp [Event.books, hi]
    | unsubscribed i s d =>
      by_cases hi : i = host
      · obtain rfl := hx d (if_pos hi)
        simp only [Event.books, if_pos hi]
        exact ⟨rollsWithout_unsubscribe ho s d, recordsWithout_unsubscribe _ s d⟩
      · simp [Event.books, hi]
    | _ => exact ⟨rfl, rfl⟩

end Engine

namespace World

open Journal

variable {w w' : World}

theorem orderly_of_reachable {sc : Scene} (h : Reachable sc.opening w) (host : String) :
    (w.engine host).Orderly := by
  have hopen : (sc.opening.engine host).Orderly := by
    rw [sc.engine_opening host]
    exact .empty
  obtain ⟨new, -, hs, -⟩ := Ledger.Booked.moves host (h.goes sc.sane_opening).2
  exact (Engine.orderly_foldr hopen host new).of_rolls hs

/-- A subscriber has a record exactly while it is registered, and the record counts exactly its
registrations. -/
theorem records_of_reachable {sc : Scene} (h : Reachable sc.opening w) (host : String) (c : Nat) :
    (((w.engine host).delivered.get? c).isSome = true ↔ ∃ s, c ∈ (w.engine host).subscribers s) ∧
    ∀ d, (w.engine host).delivered.get? c = some d →
      d.registrations = ((w.engine host).slots.flatMap (w.engine host).subscribers).count c := by
  have ho := orderly_of_reachable h host
  have hlisted : (w.engine host).Listed := (Scene.attested_of_reachable h).listed host
  have htallied : w.ledger.Tallied := (Scene.sane_of_reachable h).sound.tallied
  have hcount := Engine.registrations_eq ho hlisted (htallied host) c
  refine ⟨⟨fun hsome => ?_, fun ⟨s, hs⟩ => ?_⟩, fun d hd => ?_⟩
  · obtain ⟨d, hd⟩ := Option.isSome_iff_exists.mp hsome
    exact hlisted.registered hd
  · have hpos : 0 < (w.engine host).registrations c := htallied.pos hs
    unfold Engine.registrations at hpos
    cases hd : (w.engine host).delivered.get? c with
    | none =>
      rw [hd] at hpos
      exact absurd hpos (Nat.lt_irrefl 0)
    | some d => rfl
  · rw [← hcount]
    unfold Engine.registrations
    rw [hd]

/-- A subscriber that was registered nowhere, and has come and gone without a delivery and without
others coming or going, leaves rolls and records as they were. -/
lemma restored {sc : Scene} (h : Reachable sc.opening w) (h' : Reachable w w')
    {new : List Event} (hj : w'.journal = new ++ w.journal) {host : String} {c : Nat}
    (hc : ∀ s, c ∉ (w.engine host).subscribers s)
    (hnone : ∀ s pass r picked, .delivering host s pass r picked ∉ new)
    (honly : ∀ x ∈ new, ∀ d, x.enrols host = some d → d = c) (hback : TakenBack host c new) :
    (w'.engine host).subscriptions = (w.engine host).subscriptions ∧
      (w'.engine host).delivered = (w.engine host).delivered := by
  have hreach := h.trans h'
  have hsound := (Scene.sane_of_reachable h).sound
  have hsound' := (Scene.sane_of_reachable hreach).sound
  have ho := orderly_of_reachable h host
  have ho' := orderly_of_reachable hreach host
  have hc' : ∀ s, c ∉ (w'.engine host).subscribers s := by
    intro s hs
    have hold : enrolled host s c w.journal = false :=
      Bool.eq_false_iff.mpr fun he => hc s ((hsound.mirrors.roll host s c).mpr he)
    have hin : enrolled host s c w'.journal = true := (hsound'.mirrors.roll host s c).mp hs
    rw [hj, hback.not_enrolled s hold] at hin
    cases hin
  have hgone : ∀ {v : World}, Reachable sc.opening v → (∀ s, c ∉ (v.engine host).subscribers s) →
      (v.engine host).delivered.get? c = none := by
    intro v hv hn
    cases hd : (v.engine host).delivered.get? c with
    | none => rfl
    | some d =>
      obtain ⟨s, hs⟩ := (records_of_reachable hv host c).1.mp (by rw [hd]; rfl)
      exact absurd hs (hn s)
  obtain ⟨hs, hd⟩ := (Ledger.Booked.moves host (h'.goes (Scene.sane_of_reachable h)).2).along hj
  obtain ⟨hrolls, hrecords⟩ := Engine.without_foldr ho honly
  constructor
  · have hlist : (w'.engine host).subscriptions.shelves.entries =
        (w.engine host).subscriptions.shelves.entries := by
      rw [← Engine.rollsWithout_eq_self ho' hc', ← Engine.rollsWithout_eq_self ho hc, ← hrolls]
      exact congrArg (fun t : Store (List Nat) => trim _ t.shelves.entries) hs
    exact congrArg (fun l => (⟨⟨l⟩⟩ : Store (List Nat))) hlist
  · have hlist : (w'.engine host).delivered.entries = (w.engine host).delivered.entries := by
      rw [← Engine.recordsWithout_eq_self (hgone hreach hc'),
        ← Engine.recordsWithout_eq_self (hgone h hc), ← hrecords]
      exact congrArg (fun t : Table Nat Delivered => t.entries.filter fun p => p.1 ≠ c) (hd hnone)
    exact congrArg (fun l => (⟨l⟩ : Table Nat Delivered)) hlist

/-- Whoever is on a roll has a record that counts how often, and only subscriptions and unsubscriptions
change the rolls. -/
structure RollsAgree (w : World) (host : String) : Prop where
  recorded : ∀ c, ((w.engine host).delivered.get? c).isSome = true ↔
    ∃ s, c ∈ (w.engine host).subscribers s
  counted : ∀ c d, (w.engine host).delivered.get? c = some d →
    d.registrations = ((w.engine host).slots.flatMap (w.engine host).subscribers).count c
  covered : ∀ c s, ((w.engine host).subscribers s).count c ≤ (w.engine host).registrations c
  nodup : (w.engine host).slots.Nodup
  listed : ∀ s, s ∈ (w.engine host).slots ↔ (w.engine host).subscribers s ≠ []
  manned : ∀ s : Slot, (w.engine host).subscriptions.get? s.node s.output ≠ some []
  booked : ∀ w' new, Reachable w w' → w'.journal = new ++ w.journal →
    (w'.engine host).subscriptions = (new.foldr (Event.books host) (w.engine host)).subscriptions
  restored : ∀ w' new, Reachable w w' → w'.journal = new ++ w.journal →
    ∀ c, (∀ s, c ∉ (w.engine host).subscribers s) →
      (∀ s pass r picked, .delivering host s pass r picked ∉ new) →
      (∀ x ∈ new, ∀ d, x.enrols host = some d → d = c) → TakenBack host c new →
      (w'.engine host).subscriptions = (w.engine host).subscriptions ∧
        (w'.engine host).delivered = (w.engine host).delivered

/-- The rolls of an engine and the records of its subscribers agree, and a subscriber that comes and is
taken back everywhere leaves both as they were. -/
theorem rolls_and_records_agree {sc : Scene} (h : Reachable sc.opening w) (host : String) :
    w.RollsAgree host := by
  have ho := orderly_of_reachable h host
  have hsane := Scene.sane_of_reachable h
  constructor
  case recorded => exact fun c => (records_of_reachable h host c).1
  case counted => exact fun c => (records_of_reachable h host c).2
  case nodup => exact ho.nodup_slots
  case covered =>
    intro c s
    have hle := hsane.sound.tallied host c [s] (by simp)
    rw [List.flatMap_cons, List.flatMap_nil, List.append_nil] at hle
    exact hle
  case listed =>
    intro s
    rw [ho.mem_slots, Engine.subscribers]
    cases hg : (w.engine host).subscriptions.get? s.node s.output with
    | none => simp
    | some l => simpa using ho.manned s.node s.output l hg
  case manned =>
    intro s hs
    exact ho.manned s.node s.output [] hs rfl
  case booked =>
    intro w' new h' hj
    exact ((Ledger.Booked.moves host (h'.goes hsane).2).along hj).1
  case restored =>
    intro w' new h' hj c hc hnone honly hback
    exact World.restored h h' hj hc hnone honly hback

/-- One subscriber is there, and has been called. -/
def manning : List (Action × Nat) := [
  (.register "p" (heldNode "n" ["a", "b"]) "n", 0),
  (.subscribe "p" "first" ⟨"n", "a"⟩ "d", 30),
  (.resolve .first (some (.value (.text "a"))), 60)]

/-- Another one comes to its slot and to a second one, to one of them twice, and goes again. -/
def comeAndGo : List (Action × Nat) := [
  (.subscribe "p" "second" ⟨"n", "b"⟩ "c", 0),
  (.subscribe "p" "third" ⟨"n", "a"⟩ "c", 0),
  (.subscribe "p" "fourth" ⟨"n", "a"⟩ "c", 0),
  (.unsubscribe "p" ⟨"n", "a"⟩ "c", 0),
  (.unsubscribe "p" ⟨"n", "b"⟩ "c", 0)]

def manned : World := (({} : Scene).opening.rehearse manning).getD {}

/-- In each of these places where the subscriber comes to a slot, it is taken back later. -/
def takesBack (host : String) (c : Nat) (l : List Event) : Bool :=
  (List.range l.length).all fun i => match l[i]? with
    | some (.subscribed h s d _) =>
      h != host || d != c || (l.take i).any (Event.isUnsubscription host s c)
    | _ => true

lemma takenBack_of_takesBack {host : String} {c : Nat} {l : List Event}
    (h : takesBack host c l = true) : TakenBack host c l := by
  rintro s name later earlier rfl
  have hplace := List.all_eq_true.mp h later.length (List.mem_range.mpr (by simp))
  simp only [List.getElem?_append_right (Nat.le_refl _), Nat.sub_self, List.getElem?_cons_zero,
    List.take_left, bne_self_eq_false, Bool.false_or] at hplace
  obtain ⟨x, hx, hx'⟩ := List.any_eq_true.mp hplace
  exact Event.eq_of_isUnsubscription hx' ▸ hx

/-- While something is registered on one of the slots, a subscriber comes to both, three times in all,
and leaves the rolls as they were when it goes. -/
theorem rolls_and_records_agree_passing : ∃ w new, Reachable ({} : Scene).opening manned ∧
    Reachable manned w ∧ w.journal = new ++ manned.journal ∧
    (manned.engine "p").subscribers ⟨"n", "a"⟩ = [0] ∧ new.countP Event.isSubscription = 3 ∧
    (∀ s, 1 ∉ (manned.engine "p").subscribers s) ∧
    (∀ s pass r picked, .delivering "p" s pass r picked ∉ new) ∧
    (∀ x ∈ new, ∀ d, x.enrols "p" = some d → d = 1) ∧ TakenBack "p" 1 new ∧
    (w.engine "p").subscriptions = (manned.engine "p").subscriptions ∧
    (w.engine "p").delivered = (manned.engine "p").delivered := by
  have hsome : (({} : Scene).opening.rehearse manning).isSome = true := by decide +kernel
  obtain ⟨w₀, hw₀⟩ := Option.isSome_iff_exists.mp hsome
  have hreach : Reachable ({} : Scene).opening manned := by
    unfold manned
    rw [hw₀]
    exact reachable_rehearse .refl hw₀
  have hroll : (manned.engine "p").subscribers ⟨"n", "a"⟩ = [0] := by decide +kernel
  have hrecord : ((manned.engine "p").delivered.get? 1).isSome = false := by decide +kernel
  have hfacts : (manned.rehearse comeAndGo).any (fun w =>
      let new := w.journal.take (w.journal.length - manned.journal.length)
      new.countP Event.isSubscription == 3 && new.all (fun x => !x.isDelivery) &&
        new.all (fun x => (x.enrols "p").all (· == 1)) && takesBack "p" 1 new) = true := by
    decide +kernel
  obtain ⟨w, hw, hall⟩ := (Option.any_eq_true _ _).mp hfacts
  have hreach' : Reachable manned w := reachable_rehearse .refl hw
  obtain ⟨new, hj⟩ := (hreach'.goes (Scene.sane_of_reachable hreach)).2.grows
  have hj' : w.journal = new ++ manned.journal := hj
  have hnew : w.journal.take (w.journal.length - manned.journal.length) = new := by
    rw [hj', List.length_append, Nat.add_sub_cancel, List.take_left]
  simp only [hnew, Bool.and_eq_true, List.all_eq_true, beq_iff_eq, Option.all_eq_true] at hall
  obtain ⟨⟨⟨hcount, hnone⟩, honly⟩, hback⟩ := hall
  have hdeliveries : ∀ s pass r picked, .delivering "p" s pass r picked ∉ new := by
    intro s pass r picked hm
    cases hnone _ hm
  have hagree := rolls_and_records_agree hreach "p"
  have hnowhere : ∀ s, 1 ∉ (manned.engine "p").subscribers s := by
    intro s hs
    rw [(hagree.recorded 1).mpr ⟨s, hs⟩] at hrecord
    cases hrecord
  obtain ⟨hrolls, hkept⟩ := hagree.restored w new hreach' hj' 1 hnowhere hdeliveries honly
    (takenBack_of_takesBack hback)
  exact ⟨w, new, hreach, hreach', hj', hroll, hcount, hnowhere, hdeliveries, honly,
    takenBack_of_takesBack hback, hrolls, hkept⟩

end World

end Dataflow
