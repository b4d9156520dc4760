import Dataflow.Proofs.Runs

/-!
# Subscribers converge

Whoever is subscribed to one slot only has received what is cached for the slot, or the same, as soon
as no emission of the slot is under way.
-/

namespace Dataflow

namespace Journal

/-- Behind the latest event that clears the slot or subscribes to it, its subscribers are to be
served. -/
lemma served_since {host : String} {s : Slot} {c : Nat} {l : List Event}
    (h : enrolled host s c l = true) (hu : .unregistered host s.node ∉ l) :
    ∃ later e earlier, l = later ++ e :: earlier ∧
      (e.Prompts host s c earlier ∨ ∃ t i, e.begins t i = some (host, s)) ∧
      enrolled host s c (e :: earlier) = true ∧
      (∀ x ∈ later, x.clears host s = false) ∧ .unsubscribed host s c ∉ later := by
  induction l with
  | nil => cases h
  | cons e l ih =>
    rw [List.mem_cons, not_or] at hu
    have hroll := h
    rw [enrolled_cons] at hroll
    cases hr : e.ofRoll host s c with
    | some b =>
      rcases Event.ofRoll_eq_some hr with ⟨-, name, rfl⟩ | ⟨rfl, -⟩
      · exact ⟨[], _, l, rfl, .inl ⟨rfl, rfl, rfl⟩, h, by simp, by simp⟩
      · rw [hr] at hroll
        cases hroll
    | none =>
      rw [hr, Option.getD_none] at hroll
      by_cases hc : e.clears host s = true
      · refine ⟨[], e, l, rfl, ?_, h, by simp, by simp⟩
        cases e with
        | registered i n replaced =>
          simp only [Event.clears, Bool.and_eq_true, beq_iff_eq] at hc
          exact .inl ⟨hc.1.1, hc.1.2, hc.2, hroll⟩
        | unregistered i id =>
          simp only [Event.clears, Bool.and_eq_true, beq_iff_eq] at hc
          obtain ⟨rfl, rfl⟩ := hc
          exact absurd rfl hu.1
        | invalidating t i node keys =>
          simp only [Event.clears, Bool.and_eq_true, beq_iff_eq] at hc
          obtain ⟨⟨rfl, rfl⟩, hk⟩ := hc
          obtain ⟨j, hj⟩ := List.getElem?_of_mem (List.contains_iff_mem.mp hk)
          exact .inr ⟨t, j, by simp [Event.begins, hj]⟩
        | _ => cases hc
      · obtain ⟨later, x, earlier, rfl, hx, hen, hclear, hun⟩ := ih hroll hu.2
        refine ⟨e :: later, x, earlier, rfl, hx, hen, fun y hy => ?_, fun hm => ?_⟩
        · rcases List.mem_cons.mp hy with rfl | hy
          · exact Bool.eq_false_iff.mpr hc
          · exact hclear y hy
        · rcases List.mem_cons.mp hm with rfl | hm
          · simp [Event.ofRoll] at hr
          · exact hun hm

end Journal

open Journal

namespace Lawful

variable {policy : String → Policy}

/-- Once a slot was delivered, a subscriber of this slot alone is promised what is cached until the
slot is cleared again. -/
lemma agreed {after past : List Event} {host : String} {s : Slot} {pass : Pass} {r : Result}
    {picked : List Nat} {c : Nat}
    (h : Lawful policy (after ++ .delivering host s pass r picked :: past))
    (hc : ∀ e ∈ after, e.clears host s = false) (he : enrolled host s c past = true)
    (ho : ∀ j name, .subscribed host j c name ∈ after ++ .delivering host s pass r picked :: past →
      j = s) :
    cached host s (after ++ .delivering host s pass r picked :: past) = some r ∧
      ∃ last, promised host c (after ++ .delivering host s pass r picked :: past) = some last ∧
        (policy host).same last r = true := by
  induction after with
  | nil =>
    refine ⟨h.cached_keep rfl h.1.1, ?_⟩
    by_cases hm : c ∈ picked
    · exact ⟨r, promised_delivering hm s pass r past, Policy.same_self _ r⟩
    · rcases h.1.2.2.2.1 c he with hm' | ⟨last, hlast, hsame⟩
      · exact absurd hm' hm
      · refine ⟨last, ?_, hsame⟩
        rcases h.promised_step host c with hold | ⟨j, pass', r', picked', hd, hm', -⟩
        · exact hold.trans hlast
        · cases hd
          exact absurd hm' hm
  | cons e after ih =>
    obtain ⟨hcached, last, hlast, hsame⟩ := ih h.2
      (fun x hx => hc x (List.mem_cons_of_mem e hx))
      fun j name hm => ho j name (List.mem_cons_of_mem e hm)
    refine ⟨cached_keep h (hc e List.mem_cons_self) hcached, ?_⟩
    rcases promised_step h host c with hold | ⟨j, pass', r', picked', rfl, hm, hnew⟩
    · exact ⟨last, hold.trans hlast, hsame⟩
    · -- The other delivery is of this slot too, and so of what is cached.
      obtain ⟨name, hs⟩ := subscribed_of_enrolled (h.1.2.2.1 c hm)
      obtain rfl := ho j name (List.mem_cons_of_mem _ hs)
      have heq := hcached.symm.trans h.1.1
      cases heq
      exact ⟨r, hnew, Policy.same_self _ r⟩

end Lawful

namespace Ledger

variable {b : Ledger}

/-- Where nothing is cancelled and nothing panics, subscribers are up to date when no emission of
their slot is left. -/
lemma Sound.converges (h : Sound b) (hr : b.runtime = true) (hp : ¬Panicked b.journal)
    (hc : ∀ t name, .ended t name .cancelled ∉ b.journal) {host : String} {s : Slot} {c : Nat}
    (hu : .unregistered host s.node ∉ b.journal)
    (hx : ∀ t i x, b.errand? t i = some x → ¬x.Is host s)
    (ho : ∀ j name, .subscribed host j c name ∈ b.journal → j = s)
    (hm : c ∈ (b.engine host).subscribers s) :
    ∃ r last, (b.engine host).cached s = some r ∧ heard host c b.journal = some last ∧
      (b.policy host).same last r = true := by
  obtain ⟨later, e, earlier, hj, he, hen, hclear, hun⟩ :=
    served_since ((h.mirrors.roll host s c).mp hm) hu
  have hem : Emitted host s later := by
    rcases he with hprompt | ⟨t, i, hb⟩
    · obtain ⟨t, ht⟩ := h.prompted hr later e earlier host s c hj hprompt
      obtain ⟨l₁, l₂, rfl⟩ := List.append_of_mem ht
      rw [List.append_assoc] at hj
      obtain ⟨pass, r, picked, hd⟩ :=
        h.emitted hj (Event.begins_emitting t host s) hx hp hc
      exact ⟨pass, r, picked, List.mem_append_left _ hd⟩
    · exact h.emitted hj hb hx hp hc
  obtain ⟨pass, r, picked, hd⟩ := hem
  obtain ⟨after, mid, rfl⟩ := List.append_of_mem hd
  have hlaw := h.lawful
  rw [hj, List.append_assoc, List.cons_append] at hlaw
  rw [hj, List.append_assoc, List.cons_append] at ho
  have hpast : enrolled host s c (mid ++ e :: earlier) = true :=
    enrolled_append hen fun hx => hun (List.mem_append_right _ (List.mem_cons_of_mem _ hx))
  obtain ⟨hcached, last, hlast, hsame⟩ := hlaw.agreed
    (fun x hx => hclear x (List.mem_append_left _ hx)) hpast ho
  rw [← List.cons_append, ← List.append_assoc, ← hj] at hcached hlast ho
  refine ⟨r, last, (h.mirrors.cached host s).trans hcached, ?_, hsame⟩
  rw [h.lawful.heard_eq_promised hp, hlast]
  -- Whatever the subscriber was still owed would come from this slot.
  cases howed : Journal.owed host c b.journal with
  | none => rfl
  | some p =>
    obtain ⟨name, hs⟩ := h.lawful.subscribed_of_owed howed
    obtain ⟨t, i, x, pass', rest, hget, his, -⟩ := (h.receipts.owed host c p.1 p.2).mp howed
    exact absurd (ho p.1 name hs ▸ his) (hx t i x hget)

end Ledger

namespace World

/-- While no emission of the slot is under way, every subscriber of it alone was called last with what is
cached, or with the same. -/
theorem subscribers_converge {s : Scene} {w : World} (h : Reachable s.opening w)
    (hr : s.runtime = true) (hu : Unharmed w.journal)
    (hc : ∀ t name, .ended t name .cancelled ∉ w.journal) {host : String} {slot : Slot} {c : Nat}
    (hn : .unregistered host slot.node ∉ w.journal)
    (he : ∀ t i e, w.emission? t i = some e → ¬(e.host = host ∧ e.slot = slot))
    (ho : ∀ j name, .subscribed host j c name ∈ w.journal → j = slot)
    (hm : c ∈ (w.engine host).subscribers slot) :
    ∃ r last, (w.engine host).cached slot = some r ∧ heard host c w.journal = some last ∧
      (w.policy host).same last r = true := by
  obtain ⟨hs, hmoves⟩ := h.goes s.sane_opening
  have hlaw : Lawful w.policy w.journal := hs.sound.lawful
  refine hs.sound.converges (hmoves.frame.1.trans hr) (hlaw.not_panicked hu) hc hn
    (fun t i x hx => ?_) ho hm
  rw [errand?_ledger, Option.map_eq_some_iff] at hx
  obtain ⟨e, hget, rfl⟩ := hx
  exact he t i e hget

/-- A slot that is invalidated while its first delivery is on the way. -/
def overlapping : List (Action × Nat) := [
  (.register "p" (heldNode "n" ["o"]) "n", 0),
  (.subscribe "p" "s" ⟨"n", "o"⟩ "c", 30),
  (.invalidate "p" "clear" "n" (some ["o"]), 60),
  (.resolve .first (some (.value (.text "a"))), 60),
  (.resolve .first (some (.value (.text "b"))), 90)]

/-- In the end the subscriber has received what is cached. -/
theorem subscribers_converge_overlapping : ∃ w, Reachable ({} : Scene).opening w ∧
    ∃ r last, (w.engine "p").cached ⟨"n", "o"⟩ = some r ∧ heard "p" 0 w.journal = some last ∧
      (w.policy "p").same last r = true := by
  have hsome : (({} : Scene).opening.rehearse overlapping).isSome = true := by decide +kernel
  obtain ⟨w, hw⟩ := Option.isSome_iff_exists.mp hsome
  have hcalm : (({} : Scene).opening.rehearse overlapping).any (fun w =>
      w.journal.all (Event.isCalmOn ⟨"n", "o"⟩)) = true := by decide +kernel
  have hdone : (({} : Scene).opening.rehearse overlapping).any (fun w => w.tasks.all fun task =>
      !task.job.isEmitting) = true := by decide +kernel
  have hroll : (({} : Scene).opening.rehearse overlapping).any (fun w =>
      (w.engine "p").subscribers ⟨"n", "o"⟩ == [0]) = true := by decide +kernel
  rw [hw, Option.any_some] at hcalm hdone hroll
  have hcalm' := List.all_eq_true.mp hcalm
  have hreach := reachable_rehearse .refl hw
  refine ⟨w, hreach, subscribers_converge hreach rfl (fun text => ⟨?_, ?_⟩) ?_ ?_ ?_ ?_ ?_⟩
  · intro hm
    cases hcalm' _ hm
  · intro hm
    cases hcalm' _ hm
  · intro t name hm
    cases hcalm' _ hm
  · intro hm
    cases hcalm' _ hm
  · intro t i e he
    obtain ⟨task, ht, hi⟩ := Option.bind_eq_some_iff.mp he
    have hjob := List.all_eq_true.mp hdone task (List.mem_of_getElem? ht)
    cases hj : task.job with
    | emit e' =>
      rw [hj] at hjob
      cases hjob
    | fan f =>
      rw [hj] at hjob
      cases hjob
    | _ =>
      rw [hj] at hi
      cases hi
  · exact fun j name hm => eq_of_beq (hcalm' _ hm)
  · rw [eq_of_beq hroll]
    exact List.mem_cons_self

end World

end Dataflow
