import Dataflow.Proofs.Splits
import Mathlib.Data.Nat.Nth

/-!
# Allotting numbers to sides

In a run each number is handed out on behalf of a node, and so goes to one of two sides. Which one
is settled from the beginning of the run to its end; what is never handed out goes to either side in
turns, so that no side runs out of numbers.
-/

namespace Dataflow

namespace World

variable {sc : Scene} {nodes : String → Bool} {p : Numbered → Nat → Bool} {w w' : World} {d : Deed}
  {deeds : List Deed} {k : Numbered} {j : Nat}

/-- The side on whose behalf numbers are handed out in the deed, if any are. -/
def allots? (nodes : String → Bool) (p : Numbered → Nat → Bool) (w : World) : Deed → Option Bool
  | .act a _ => (w.subject? a).map nodes
  | .poll _ => none
  | .step => w.running.map (p .task)

/-- The sides of all numbers, with those that are handed out in the deed. -/
def allot (nodes : String → Bool) (p : Numbered → Nat → Bool) (w : World) (d : Deed) :
    Numbered → Nat → Bool := fun k j =>
  if w.handedOut k ≤ j ∧ j < (w.after d).handedOut k then (w.allots? nodes p d).getD (p k j)
  else p k j

/-- The sides of all numbers, with those that are handed out in the run. -/
def allotAll (nodes : String → Bool) (p : Numbered → Nat → Bool) (w : World) :
    List Deed → Numbered → Nat → Bool
  | [] => p
  | d :: deeds => (w.after d).allotAll nodes (w.allot nodes p d) deeds

lemma handedOut_after (h : Reachable sc.opening w) (ht : sc.opening.Told Action.Neutral)
    (d : Deed) (k : Numbered) : w.handedOut k ≤ (w.after d).handedOut k := by
  have hsane := Scene.sane_of_reachable h
  cases d with
  | act a seen => exact handedOut_perform hsane.poised.steady a k
  | poll t => exact (retains_poll { w with queue := w.queue.erase t } t).handedOut k
  | step => exact (ticks_step hsane.poised.steady (hsane.script (h.obeys ht).2)).handedOut k

lemma allot_below (hj : j < w.handedOut k) : w.allot nodes p d k j = p k j :=
  if_neg fun h => Nat.lt_irrefl _ (Nat.lt_of_lt_of_le hj h.1)

/-- A number that was handed out keeps its side. -/
lemma allotAll_below (h : Reachable sc.opening w) (ht : sc.opening.Told Action.Neutral)
    (hr : Runs w deeds w') (hj : j < w.handedOut k) : w.allotAll nodes p deeds k j = p k j := by
  induction hr generalizing p with
  | nil => rfl
  | @cons w w' d deeds ha hr ih =>
    have hlt := Nat.lt_of_lt_of_le hj (handedOut_after h ht d k)
    exact (ih (h.after ha) hlt).trans (allot_below hj)

/-- A number that is not handed out keeps its side as well. -/
lemma allotAll_above (h : Reachable sc.opening w) (ht : sc.opening.Told Action.Neutral)
    (hr : Runs w deeds w') :
    w.handedOut k ≤ w'.handedOut k ∧
      (w'.handedOut k ≤ j → w.allotAll nodes p deeds k j = p k j) := by
  induction hr generalizing p with
  | nil => exact ⟨Nat.le_refl _, fun _ => rfl⟩
  | @cons w w' d deeds ha hr ih =>
    obtain ⟨hle, hkeep⟩ := ih (p := w.allot nodes p d) (h.after ha)
    refine ⟨Nat.le_trans (handedOut_after h ht d k) hle, fun hj => (hkeep hj).trans ?_⟩
    exact if_neg fun hlt => Nat.lt_irrefl _ (Nat.lt_of_lt_of_le hlt.2 (Nat.le_trans hle hj))

/-- Every other number goes to the same side. -/
def inTurns (_ : Numbered) (j : Nat) : Bool := j % 2 == 0

lemma infinite_allotAll (h : Reachable sc.opening w) (ht : sc.opening.Told Action.Neutral)
    (hr : Runs w deeds w') (k : Numbered) (b : Bool) :
    (Set.ofPred fun j => w.allotAll nodes inTurns deeds k j = b).Infinite := by
  refine Set.infinite_of_forall_exists_gt fun n => ?_
  refine ⟨2 * (n + w'.handedOut k + 1) + if b then 0 else 1, ?_, by omega⟩
  show w.allotAll nodes inTurns deeds k _ = b
  rw [(allotAll_above h ht hr).2 (by omega)]
  unfold inTurns
  cases b <;> simp

/-- The subscribers that a side knows at the end of the run, in the order in which it came to know
them. -/
def meetsAll (nodes : String → Bool) (w : World) (l : List Nat) : List Deed → List Nat
  | [] => l
  | d :: deeds => (w.after d).meetsAll nodes (w.meets nodes l d) deeds

lemma prefix_meetsAll (nodes : String → Bool) (w : World) (l : List Nat) (deeds : List Deed) :
    l <+: w.meetsAll nodes l deeds := by
  induction deeds generalizing w l with
  | nil => exact List.prefix_rfl
  | cons d deeds ih => exact (prefix_meets nodes w l d).trans (ih _ _)

lemma nodup_meets {l : List Nat} (h : l.Nodup) : (w.meets nodes l d).Nodup := by
  rcases w.meets_cases nodes l d with heq | ⟨c, hc, heq⟩ <;> rw [heq]
  · exact h
  · rw [List.nodup_append]
    refine ⟨h, List.nodup_singleton _, fun a ha b hb => ?_⟩
    rw [List.mem_singleton.mp hb]
    rintro rfl
    exact hc ha

lemma nodup_meetsAll {l : List Nat} (h : l.Nodup) (deeds : List Deed) :
    (w.meetsAll nodes l deeds).Nodup := by
  induction deeds generalizing w l with
  | nil => exact h
  | cons d deeds ih => exact ih (nodup_meets h)

/-- The numbers of the list, and after them numbers that are not in it. -/
def prolong (l : List Nat) (i : Nat) : Nat := (l[i]?).getD (l.sum + 1 + i)

lemma le_sum_of_getElem? {l : List Nat} {i n : Nat} (h : l[i]? = some n) : n ≤ l.sum := by
  induction l generalizing i with
  | nil => cases h
  | cons m l ih =>
    rw [List.sum_cons]
    cases i with
    | zero =>
      cases h
      exact Nat.le_add_right _ _
    | succ i =>
      have hle := ih (i := i) h
      omega

lemma prolong_injective {l : List Nat} (h : l.Nodup) : Function.Injective (prolong l) := by
  intro i j hij
  unfold prolong at hij
  cases hi : l[i]? with
  | none =>
    cases hj : l[j]? with
    | none =>
      rw [hi, hj] at hij
      simp only [Option.getD_none] at hij
      omega
    | some n =>
      rw [hi, hj] at hij
      have hle := le_sum_of_getElem? hj
      simp only [Option.getD_none, Option.getD_some] at hij
      omega
  | some n =>
    cases hj : l[j]? with
    | none =>
      rw [hi, hj] at hij
      have hle := le_sum_of_getElem? hi
      simp only [Option.getD_none, Option.getD_some] at hij
      omega
    | some n' =>
      rw [hi, hj] at hij
      obtain ⟨hlt, rfl⟩ := List.getElem?_eq_some_iff.mp hi
      obtain ⟨hlt', rfl⟩ := List.getElem?_eq_some_iff.mp hj
      exact h.getElem_inj_iff.mp hij

end World

/-- Somebody subscribed to a slot of one of the nodes. -/
def Event.subscribes (nodes : String → Bool) (c : Nat) : Event → Bool
  | .subscribed _ slot subscriber _ => subscriber == c && nodes slot.node
  | _ => false

namespace Side

/-- One side of a run, as numbers and subscribers were allotted. -/
noncomputable def allotted (nodes : String → Bool) (journal : List Event)
    {p : Numbered → Nat → Bool} (hp : ∀ k b, (Set.ofPred fun j => p k j = b).Infinite)
    {l : List Nat} (hl : l.Nodup) (b : Bool) : Side where
  nodes := fun id => nodes id == b
  own := fun c => journal.any (Event.subscribes nodes c) == b
  number := fun k => Nat.nth fun j => p k j = b
  subscriber := World.prolong l
  strictMono := fun k => Nat.nth_strictMono (hp k b)
  subscriber_injective := World.prolong_injective hl

variable {nodes : String → Bool} {journal : List Event} {p : Numbered → Nat → Bool}
  {hp : ∀ k b, (Set.ofPred fun j => p k j = b).Infinite} {l m : List Nat} {hl : l.Nodup}
  {hm : m.Nodup} {b : Bool} {k : Numbered} {i j : Nat}

lemma allotted_iff : p k j = b ↔ ∃ i, allotted nodes journal hp hl b k i = j := by
  have hrange := Nat.range_nth_of_infinite (hp k b)
  show j ∈ (Set.ofPred fun j => p k j = b) ↔ j ∈ Set.range (Nat.nth fun j => p k j = b)
  rw [hrange]

lemma allotted_number : p k (allotted nodes journal hp hl b k i) = b :=
  allotted_iff.mpr ⟨i, rfl⟩

lemma knows_allotted : World.Knows (allotted nodes journal hp hl b) l := by
  intro i c hc
  show World.prolong l i = c
  unfold World.prolong
  rw [hc]
  rfl

lemma opposite_allotted :
    (allotted nodes journal hp hl true).Opposite (allotted nodes journal hp hm false) where
  nodes := by
    intro id
    show (nodes id == false) = !(nodes id == true)
    cases nodes id <;> rfl
  own := by
    intro c
    show (journal.any _ == false) = !(journal.any _ == true)
    cases journal.any (Event.subscribes nodes c) <;> rfl
  apart := by
    intro k i j hij
    have hi : p k (allotted nodes journal hp hl true k i) = true := allotted_number
    have hj : p k (allotted nodes journal hp hm false k j) = false := allotted_number
    rw [hij, hj] at hi
    cases hi
  cover := by
    intro k n
    cases hn : p k n with
    | true => exact .inl (allotted_iff.mp hn)
    | false => exact .inr (allotted_iff.mp hn)

end Side

namespace World

variable {sc : Scene} {S : Side} {nodes : String → Bool} {p : Numbered → Nat → Bool} {b : Bool}
  {w w' : World} {deeds : List Deed} {l : List Nat}

/-- The side fits everything that happens in the run. -/
def Fits (S : Side) : List Nat → World → List Deed → Prop
  | _, _, [] => True
  | l, w, d :: deeds => Suits S l w d ∧ Fits S (w.meets S.nodes l d) (w.after d) deeds

lemma Fits.take (h : Fits S l w deeds) (n : Nat) : Fits S l w (deeds.take n) := by
  induction n generalizing l w deeds with
  | zero => exact True.intro
  | succ n ih =>
    cases deeds with
    | nil => exact True.intro
    | cons d deeds => exact ⟨h.1, ih h.2⟩

lemma Runs.take (h : Runs w deeds w') (n : Nat) : ∃ w₁, Runs w (deeds.take n) w₁ := by
  rw [← List.take_append_drop n deeds] at h
  obtain ⟨w₁, h₁, -⟩ := h.of_append
  exact ⟨w₁, h₁⟩

/-- What happened before the run is not forgotten in it. -/
lemma Runs.journal (hr : Runs w deeds w') (h : Reachable sc.opening w) :
    w.journal <:+ w'.journal := by
  have hreach : Reachable w w' := reachable_iff_runs.mpr ⟨deeds, hr⟩
  obtain ⟨new, hnew⟩ := (hreach.goes (Scene.sane_of_reachable h)).2.grows
  exact ⟨new, hnew.symm⟩

lemma subscribed_of_perform (w : World) (host sub : String) (slot : Slot) (callback : String) :
    .subscribed host slot (w.subscriberOf callback).2 sub ∈
      (w.perform (.subscribe host sub slot callback)).1.journal := by
  rw [← subscriber_use w host callback]
  unfold perform replies subscribe
  dsimp only
  generalize (w.use host).subscriberOf callback = found
  obtain ⟨w₁, c⟩ := found
  dsimp only
  cases World.runtime _ with
  | true => exact List.mem_cons_of_mem _ List.mem_cons_self
  | false => exact List.mem_cons_self

/-- Whoever is on the roll of a slot is a subscriber of the side that the slot is on, if nobody
subscribes on both sides. -/
lemma any_subscribes {journal : List Event} {host : String} {slot : Slot} {c : Nat} {name : String}
    (h : .subscribed host slot c name ∈ journal) (hn : nodes slot.node = b)
    (hc : ∀ host slot c name host' slot' name', .subscribed host slot c name ∈ journal →
      .subscribed host' slot' c name' ∈ journal → nodes slot.node = nodes slot'.node) :
    journal.any (Event.subscribes nodes c) = b := by
  cases b with
  | true => exact List.any_eq_true.mpr ⟨_, h, by simp [Event.subscribes, hn]⟩
  | false =>
    rw [List.any_eq_false]
    intro e he hen
    cases e with
    | subscribed host' slot' c' name' =>
      unfold Event.subscribes at hen
      rw [Bool.and_eq_true, beq_iff_eq] at hen
      obtain ⟨rfl, hs⟩ := hen
      rw [← hc host slot c' name host' slot' name' h he, hn] at hs
      cases hs
    | _ => cases hen

/-- A side to which the numbers of the run are allotted fits the run. -/
lemma fits (h : Reachable sc.opening w) (ht : sc.opening.Told Action.Neutral)
    (hr : Runs w deeds w') (hnodes : ∀ id, S.nodes id = true → nodes id = b)
    (hp : ∀ k j, w.allotAll nodes p deeds k j = b ↔ ∃ i, S k i = j)
    (hl : Knows S (w.meetsAll S.nodes l deeds))
    (hown : ∀ host slot c name, .subscribed host slot c name ∈ w'.journal →
      S.nodes slot.node = true → S.own c = true)
    (halone : ∀ host n handle seen, .act (.register host n handle) seen ∈ deeds → n.AsksNothing) :
    Fits S l w deeds := by
  induction hr generalizing p l with
  | nil => exact True.intro
  | @cons w w' d deeds ha hr ih =>
    have hafter := h.after ha
    refine ⟨⟨fun hfor k j hle hlt => ?_, ?_, ?_, ?_⟩, ih hafter hp hl hown
      fun host n handle seen hm => halone host n handle seen (List.mem_cons_of_mem d hm)⟩
    · -- the numbers that come up are on the side that the deed is for
      have hside : w.allots? nodes p d = some b := by
        cases d with
        | poll t => exact hfor.elim
        | act a seen =>
          obtain ⟨-, id, hs, hn⟩ := hfor
          show (w.subject? a).map nodes = some b
          rw [hs, Option.map_some, hnodes id hn]
        | step =>
          obtain ⟨i, hi⟩ := hfor
          obtain ⟨task, htask, -⟩ := (Scene.sane_of_reachable h).poised.steady.runs _ hi
          have hlt : S .task i < w.handedOut .task := (List.getElem?_eq_some_iff.mp htask).1
          have hb : w.allotAll nodes p (.step :: deeds) .task (S .task i) = b :=
            (hp .task (S .task i)).mpr ⟨i, rfl⟩
          rw [allotAll_below h ht (.cons ha hr) hlt] at hb
          show w.running.map (p .task) = some b
          rw [hi, Option.map_some, hb]
      refine (hp k j).mp ?_
      show (w.after d).allotAll nodes (w.allot nodes p d) deeds k j = b
      rw [allotAll_below hafter ht hr hlt]
      unfold allot
      rw [if_pos ⟨hle, hlt⟩, hside]
      rfl
    · exact hl.mono (prefix_meetsAll S.nodes _ _ deeds)
    · rintro host sub slot callback seen rfl hs
      refine hown host slot _ sub ?_ hs
      exact (hr.journal hafter).subset (subscribed_of_perform w host sub slot callback)
    · rintro host n handle seen rfl
      exact halone host n handle seen List.mem_cons_self

end World

end Dataflow
