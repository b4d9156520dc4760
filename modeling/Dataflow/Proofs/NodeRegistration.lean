import Dataflow.Proofs.Origins

/-!
# Nodes that are registered

A registration that replaces a node is seen by everybody: by those who ask later, and by those who
are subscribed already. Where the id was free, failures to find the node stay cached until their
slots are cleared.
-/

namespace Dataflow

namespace Journal

lemma node_isSome_append {host id : String} {l₁ l₂ : List Event}
    (h : (node host id l₂).isSome = true) (hu : .unregistered host id ∉ l₁) :
    (node host id (l₁ ++ l₂)).isSome = true := by
  induction l₁ with
  | nil => exact h
  | cons e l₁ ih =>
    rw [List.mem_cons, not_or] at hu
    unfold node
    rw [List.cons_append, latest_cons]
    cases he : e.ofNode host id with
    | none => exact ih hu.2
    | some o =>
      cases o with
      | some n => rfl
      | none =>
        cases e with
        | unregistered i id' =>
          by_cases hc : i = host ∧ id' = id
          · obtain ⟨rfl, rfl⟩ := hc
            exact absurd rfl hu.1
          · simp [Event.ofNode, hc] at he
        | registered i n replaced =>
          by_cases hc : i = host ∧ n.id = id <;> simp [Event.ofNode, hc] at he
        | _ => cases he

/-- A subscriber is registered since it subscribed last, or else since before. -/
lemma enrolled_since {host : String} {s : Slot} {c : Nat} {new base : List Event}
    (h : enrolled host s c (new ++ base) = true) :
    (enrolled host s c base = true ∧ ∀ e ∈ new, e.ofRoll host s c = none) ∨
      ∃ later name earlier, new = later ++ .subscribed host s c name :: earlier ∧
        ∀ e ∈ later, e.ofRoll host s c = none := by
  induction new with
  | nil => exact .inl ⟨h, by simp⟩
  | cons e new ih =>
    rw [List.cons_append, enrolled_cons] at h
    cases hr : e.ofRoll host s c with
    | some b =>
      rcases Event.ofRoll_eq_some hr with ⟨-, name, rfl⟩ | ⟨rfl, -⟩
      · exact .inr ⟨[], name, new, rfl, by simp⟩
      · rw [hr] at h
        cases h
    | none =>
      rw [hr, Option.getD_none] at h
      rcases ih h with ⟨hen, hnone⟩ | ⟨later, name, earlier, rfl, hnone⟩
      · refine .inl ⟨hen, fun x hx => ?_⟩
        rcases List.mem_cons.mp hx with rfl | hx
        · exact hr
        · exact hnone x hx
      · refine .inr ⟨e :: later, name, earlier, rfl, fun x hx => ?_⟩
        rcases List.mem_cons.mp hx with rfl | hx
        · exact hr
        · exact hnone x hx

lemma not_unsubscribed {host : String} {s : Slot} {c : Nat} {l : List Event}
    (h : ∀ e ∈ l, e.ofRoll host s c = none) : .unsubscribed host s c ∉ l := by
  intro hm
  have hnone := h _ hm
  simp [Event.ofRoll] at hnone

/-- The result was cached for the slot at some time since `base`. -/
def Current (host : String) (s : Slot) (r : Result) (base l : List Event) : Prop :=
  ∃ later mid, l = later ++ (mid ++ base) ∧ cached host s (mid ++ base) = some r

lemma Current.append {host : String} {s : Slot} {r : Result} {base l : List Event}
    (h : Current host s r base l) (after : List Event) : Current host s r base (after ++ l) := by
  obtain ⟨later, mid, rfl, hc⟩ := h
  exact ⟨after ++ later, mid, (List.append_assoc _ _ _).symm, hc⟩

/-- Nothing panics, and no task ends in a panic. -/
def Calm (l : List Event) : Prop :=
  ¬Panicked l ∧ ∀ t name text, .ended t name (.panicked text) ∉ l

/-- A task has begun to emit a slot that the subscriber is on, and since then there was no delivery
from it, no panic and no end of the task. -/
def Pending (t : Nat) (host : String) (s : Slot) (c : Nat) (l : List Event) : Prop :=
  enrolled host s c l = true ∧ ∃ later e earlier i, l = later ++ e :: earlier ∧
    e.begins t i = some (host, s) ∧ ¬Emitted host s later ∧ ¬Panicked later ∧
    ∀ name how, .ended t name how ∉ later

lemma pending_started {host : String} {s : Slot} {c : Nat} {l : List Event}
    (h : enrolled host s c l = true) (t : Nat) :
    Pending t host s c (.started t (.emitting host s) :: l) := by
  refine ⟨?_, [], _, l, 0, rfl, Event.begins_emitting t host s, ?_, ?_, by simp⟩
  · rw [enrolled_cons]
    exact h
  · rintro ⟨pass, r, picked, hm⟩
    cases hm
  · rintro ⟨source, text, hm⟩
    cases hm

/-- A registration does not come in the way of a task. -/
lemma Pending.registered {t : Nat} {host : String} {s : Slot} {c : Nat} {l : List Event}
    (h : Pending t host s c l) (i : String) (n : Node) (replaced : Bool) :
    Pending t host s c (.registered i n replaced :: l) := by
  obtain ⟨hen, later, e, earlier, j, rfl, he, hem, hp, hend⟩ := h
  refine ⟨?_, .registered i n replaced :: later, e, earlier, j, rfl, he, ?_, ?_, ?_⟩
  · rw [enrolled_cons]
    exact hen
  · rintro ⟨pass, r, picked, hm⟩
    exact hem ⟨pass, r, picked, by simpa using hm⟩
  · rintro ⟨source, text, hm⟩
    exact hp ⟨source, text, by simpa using hm⟩
  · intro name how hm
    exact hend name how (by simpa using hm)

end Journal

open Journal

namespace Lawful

variable {policy : String → Policy} {host : String} {s : Slot} {c : Nat} {base : List Event}

/-- As long as a subscriber of one slot is promised what was cached since, this stays so. -/
lemma promised_since {after l : List Event} (h : Lawful policy (after ++ (l ++ base)))
    (ho : ∀ j name, .subscribed host j c name ∈ after ++ (l ++ base) → j = s)
    (hp : ∃ r, promised host c (l ++ base) = some r ∧ Current host s r base (l ++ base)) :
    ∃ r, promised host c (after ++ (l ++ base)) = some r ∧
      Current host s r base (after ++ (l ++ base)) := by
  induction after with
  | nil => exact hp
  | cons e after ih =>
    rw [List.cons_append] at h ho ⊢
    obtain ⟨r, hr, hcur⟩ := ih h.2 fun j name hm => ho j name (List.mem_cons_of_mem e hm)
    rcases h.promised_step host c with hold | ⟨j, pass, r', picked, rfl, hm, hnew⟩
    · exact ⟨r, hold.trans hr, hcur.append [e]⟩
    · obtain ⟨name, hs⟩ := subscribed_of_enrolled (h.1.2.2.1 c hm)
      obtain rfl := ho j name (List.mem_cons_of_mem _ hs)
      have hc := h.1.1
      rw [← List.append_assoc] at hc
      exact ⟨r', hnew, [_], after ++ l, by rw [List.append_assoc]; rfl, hc⟩

lemma heard_since {after l : List Event} (h : Lawful policy (after ++ (l ++ base)))
    (ho : ∀ j name, .subscribed host j c name ∈ after ++ (l ++ base) → j = s)
    (hp : ∃ r, promised host c (l ++ base) = some r ∧ Current host s r base (l ++ base))
    (hh : ∃ r, heard host c (l ++ base) = some r ∧ Current host s r base (l ++ base)) :
    ∃ r, heard host c (after ++ (l ++ base)) = some r ∧
      Current host s r base (after ++ (l ++ base)) := by
  induction after with
  | nil => exact hh
  | cons e after ih =>
    rw [List.cons_append] at h ho ⊢
    have ho' : ∀ j name, .subscribed host j c name ∈ after ++ (l ++ base) → j = s :=
      fun j name hm => ho j name (List.mem_cons_of_mem e hm)
    obtain ⟨r, hr, hcur⟩ := ih h.2 ho'
    rw [heard_cons]
    cases he : e.ofCall host c with
    | none => exact ⟨r, hr, hcur.append [e]⟩
    | some r' =>
      obtain ⟨j, callback, rfl⟩ := Event.ofCall_eq_some.mp he
      obtain ⟨r'', hpr, hcur'⟩ := promised_since h.2 ho' hp
      rw [promised_of_owed h.1] at hpr
      cases hpr
      exact ⟨r', rfl, hcur'.append [_]⟩

/-- After a delivery of the slot everybody on it is promised what was delivered. -/
lemma promised_delivered {past : List Event} {pass : Pass} {r : Result} {picked : List Nat}
    (h : Lawful policy (.delivering host s pass r picked :: past)) (hid : policy host = .identity)
    (he : enrolled host s c past = true) :
    promised host c (.delivering host s pass r picked :: past) = some r := by
  by_cases hm : c ∈ picked
  · exact promised_delivering hm s pass r past
  · rcases h.1.2.2.2.1 c he with hm' | ⟨last, hlast, hsame⟩
    · exact absurd hm' hm
    · rcases h.promised_step host c with hold | ⟨j, pass', r', picked', hd, hm', -⟩
      · -- Nothing but the result itself is the same.
        obtain ⟨j, ticket, hland⟩ := h.2.landed_of_promised hlast
        obtain ⟨ticket', hland'⟩ := landed_of_cached h.1.1
        rw [hid] at hsame
        have hnum : last.id = r.id := by simpa [Policy.same] using hsame
        cases h.2.landed_once hland hland' (.inr hnum)
        exact hold.trans hlast
      · cases hd
        exact absurd hm' hm

section

variable {n : Node} {replaced : Bool} {old : List Event}

/-- A computation that the slot was not cleared after took off after the registration, or before it
when there was no node. -/
lemma departed_since {new later earlier : List Event} {ticket : Nat}
    (h : Lawful policy (new ++ .registered host n replaced :: old)) (hs : n.id = s.node)
    (hj : new ++ .registered host n replaced :: old = later ++ .takenOff host s ticket :: earlier)
    (hl : ∀ e ∈ later, e.clears host s = false) :
    .registered host n replaced :: old <:+ earlier ∨
      replaced = false ∧ node host s.node earlier = none := by
  rcases split_cases hj with ⟨m, rfl, rfl⟩ | ⟨-, he, -⟩ | ⟨m, -, rfl⟩
  · have hclear := hl (.registered host n replaced)
      (List.mem_append_right _ List.mem_cons_self)
    have hfree : replaced = false := by simpa [Event.clears, hs] using hclear
    have hnone : replaced = (node host n.id (m ++ .takenOff host s ticket :: earlier)).isSome :=
      h.fits
    refine .inr ⟨hfree, Option.not_isSome_iff_eq_none.mp fun hsome => ?_⟩
    rw [hfree, hs] at hnone
    have hun : .unregistered host s.node ∉ m ++ [.takenOff host s ticket] := by
      intro hm
      rcases List.mem_append.mp hm with hm | hm
      · have hc := hl _ (List.mem_append_right _ (List.mem_cons_of_mem _ hm))
        simp [Event.clears] at hc
      · cases List.mem_singleton.mp hm
    have hlater := node_isSome_append hsome hun
    rw [List.append_assoc] at hlater
    rw [show (node host s.node (m ++ .takenOff host s ticket :: earlier)).isSome = true from hlater]
      at hnone
    cases hnone
  · cases he
  · exact .inl ⟨m, rfl⟩

/-- What is cached was computed with what is registered since, or found no node before. -/
lemma computed_since {new : List Event} {r : Result}
    (h : Lawful policy (new ++ .registered host n replaced :: old)) (hs : n.id = s.node)
    (hc : cached host s (new ++ .registered host n replaced :: old) = some r) :
    ∃ later ticket earlier,
      new ++ .registered host n replaced :: old = later ++ .takenOff host s ticket :: earlier ∧
      .landed host s ticket r true ∈ later ∧
      (.registered host n replaced :: old <:+ earlier ∨
        replaced = false ∧ node host s.node earlier = none) := by
  obtain ⟨later, mid, earlier, ticket, hj, hl, hm⟩ := h.cached_since hc
  have hsplit : new ++ .registered host n replaced :: old =
      (later ++ .landed host s ticket r true :: mid) ++ .takenOff host s ticket :: earlier := by
    rw [hj, List.append_assoc]
    rfl
  refine ⟨_, ticket, earlier, hsplit, List.mem_append_right _ List.mem_cons_self,
    h.departed_since hs hsplit fun e he => ?_⟩
  rcases List.mem_append.mp he with he | he
  · exact hl e he
  · rcases List.mem_cons.mp he with rfl | he
    · rfl
    · exact hm e he

/-- What was cached since a node was replaced was promised to nobody before. -/
lemma not_promised_before {l : List Event} {r : Result} (h : Lawful policy l)
    (hs : n.id = s.node) (hcur : Current host s r (.registered host n true :: old) l) (c : Nat) :
    promised host c (.registered host n true :: old) ≠ some r := by
  obtain ⟨later, mid, rfl, hc⟩ := hcur
  have hmid := h.tail
  obtain ⟨later', ticket, earlier, hj, hland, ⟨m, rfl⟩ | ⟨hf, -⟩⟩ := hmid.computed_since hs hc
  · rw [← List.cons_append, ← List.append_assoc] at hj
    have hm : .landed host s ticket r true ∈ mid := by
      rw [List.append_cancel_right hj]
      exact List.mem_append_left _ hland
    intro hpr
    obtain ⟨s', ticket', hold⟩ := Lawful.landed_of_promised hmid.tail hpr
    obtain ⟨x, y, rfl⟩ := List.append_of_mem hm
    rw [List.append_assoc, List.cons_append] at hmid
    have hlt := (hmid.fits.2.2 _ _ _ _ _ (List.mem_append_right y hold)).2
    omega
  · cases hf

/-- Whoever is owed nothing was called with what is promised, if this was cached since. -/
lemma heard_of_promised {l : List Event} {r : Result}
    (h : Lawful policy (l ++ .registered host n replaced :: old)) (hs : n.id = s.node)
    (hp : ¬Panicked l) (hr : replaced = true ∨ ¬Panicked old)
    (ho : owed host c (l ++ .registered host n replaced :: old) = none)
    (hpr : promised host c (l ++ .registered host n replaced :: old) = some r)
    (hcur : Current host s r (.registered host n replaced :: old)
      (l ++ .registered host n replaced :: old)) :
    heard host c (l ++ .registered host n replaced :: old) = some r := by
  rcases hr with rfl | hold
  · rcases h.heard_or_same hp ho with heq | ⟨-, hsame⟩
    · exact heq.trans hpr
    · exact absurd (hsame.symm.trans hpr) (h.not_promised_before hs hcur c)
  · refine (h.heard_eq_promised ?_ ho).trans hpr
    rintro ⟨source, text, hm⟩
    rcases List.mem_append.mp hm with hm | hm
    · exact hp ⟨source, text, hm⟩
    · rcases List.mem_cons.mp hm with heq | hm
      · cases heq
      · exact hold ⟨source, text, hm⟩

/-- When a task that was to emit the slot has come to its end since, everybody who stayed on it was
called last with something that was cached since. -/
lemma heard_since_emission {since gap : List Event} {t : Nat} {name : Option String} {how : End}
    (h : Lawful policy (since ++ (gap ++ .registered host n replaced :: old)))
    (hs : n.id = s.node) (hid : policy host = .identity)
    (hwait : Pending t host s c (gap ++ .registered host n replaced :: old))
    (hend : .ended t name how ∈ since) (hw : how.proper = true) (hp : ¬Panicked (since ++ gap))
    (hun : .unsubscribed host s c ∉ since)
    (ho : ∀ j name, .subscribed host j c name ∈
      since ++ (gap ++ .registered host n replaced :: old) → j = s)
    (hr : replaced = true ∨ ¬Panicked old) :
    ∃ last, heard host c (since ++ (gap ++ .registered host n replaced :: old)) = some last ∧
      Current host s last (.registered host n replaced :: old)
        (since ++ (gap ++ .registered host n replaced :: old)) := by
  obtain ⟨hen, later, e, earlier, i, hsplit, he, hquiet, hcalm, -⟩ := hwait
  obtain ⟨after, b, rfl⟩ := List.append_of_mem hend
  rw [List.append_assoc, List.cons_append] at h
  have hpb : ¬Panicked b := by
    rintro ⟨source, text, hm⟩
    exact hp ⟨source, text, by simp [hm]⟩
  have hem : Emitted host s (b ++ later) := by
    have hended := h.tail
    rw [hsplit, ← List.append_assoc] at hended
    refine hended.delivered hw he ?_
    rintro ⟨source, text, hm⟩
    rcases List.mem_append.mp hm with hm | hm
    · exact hpb ⟨source, text, hm⟩
    · exact hcalm ⟨source, text, hm⟩
  obtain ⟨pass, r, picked, hd⟩ := hem
  rcases List.mem_append.mp hd with hd | hd
  · obtain ⟨b₁, b₂, rfl⟩ := List.append_of_mem hd
    have hwhole : ∀ base : List Event,
        (after ++ .ended t name how :: (b₁ ++ .delivering host s pass r picked :: b₂)) ++
          (gap ++ base) =
        (after ++ [.ended t name how]) ++
          ((b₁ ++ .delivering host s pass r picked :: (b₂ ++ gap)) ++ base) := by simp
    have hdelivered : ∀ base : List Event,
        (b₁ ++ .delivering host s pass r picked :: (b₂ ++ gap)) ++ base =
          b₁ ++ ((.delivering host s pass r picked :: (b₂ ++ gap)) ++ base) := by simp
    have hlaw := h
    rw [← List.cons_append, ← List.append_assoc, hwhole] at hlaw
    rw [hwhole] at ho ⊢
    have hended := hlaw.tail
    have hpast := hended
    rw [hdelivered] at hpast
    have hsel := hpast.tail
    have hen' : enrolled host s c ((b₂ ++ gap) ++ .registered host n replaced :: old) = true := by
      rw [List.append_assoc]
      exact enrolled_append hen fun hm => hun (by simp [hm])
    obtain ⟨r', hpr, hcur⟩ := hpast.promised_since
      (fun j name hm => ho j name (by
        rw [hdelivered]
        exact List.mem_append_right _ hm))
      ⟨r, hsel.promised_delivered hid hen', [_], b₂ ++ gap, rfl, hsel.1.1⟩
    rw [← hdelivered] at hpr hcur
    refine hlaw.heard_since ho ⟨r', hpr, hcur⟩ ⟨r', ?_, hcur⟩
    refine hended.heard_of_promised hs ?_ hr ?_ hpr hcur
    · rintro ⟨source, text, hm⟩
      exact hp ⟨source, text, by
        simp only [List.mem_append, List.mem_cons] at hm ⊢
        rcases hm with hm | hm | hm | hm <;> simp [hm]⟩
    · simpa only [List.append_assoc, List.cons_append] using h.fits.2.1 host c
  · exact absurd ⟨pass, r, picked, hd⟩ hquiet

end

end Lawful

/-- A work that had a node never finds that there is none. -/
lemma Work.Yields.ne_nodeNotFound {k : Work} {c : Content} (h : k.Yields c) {id : String}
    (ht : k.target ≠ .error (.nodeNotFound id)) : c ≠ .error (.nodeNotFound id) := by
  rintro rfl
  rcases h with ⟨f, hf, hc⟩ | ⟨handed, -, hj⟩
  · cases hc
    exact ht hf
  · unfold Work.judge at hj
    cases hk : k.target with
    | error f =>
      rw [hk] at hj
      cases hj
      exact ht hk
    | ok found =>
      obtain ⟨n, schema⟩ := found
      rw [hk] at hj
      cases handed with
      | error f => cases hj
      | ok v =>
        dsimp only at hj
        cases hcheck : schema.check v <;> rw [hcheck] at hj <;> cases hj

namespace World

variable {w w' : World} {host : String} {n : Node} {replaced : Bool} {new old : List Event}
  {slot : Slot}

/-- The flight is one of the slot and took off after the registration, or before when there was no
node to be found. -/
def Heeds (w : World) (host : String) (n : Node) (replaced : Bool) (old : List Event) (slot : Slot)
    (ticket : Nat) (f : Flight) : Prop :=
  f.work.host = host ∧ f.work.slot = slot ∧ ∃ earlier, w.Departed ticket f earlier ∧
    (.registered host n replaced :: old <:+ earlier ∨
      replaced = false ∧ f.work.target = .error (.nodeNotFound n.id))

lemma Sane.heeds (h : w.Sane) {later earlier : List Event} {ticket : Nat} (hs : n.id = slot.node)
    (hj : w.journal = later ++ .takenOff host slot ticket :: earlier)
    (hd : .registered host n replaced :: old <:+ earlier ∨
      replaced = false ∧ Journal.node host slot.node earlier = none) :
    ∃ f, w.flights[ticket]? = some f ∧ w.Heeds host n replaced old slot ticket f := by
  obtain ⟨f, hdep, rfl, rfl⟩ := h.departed hj
  refine ⟨f, hdep.flight, rfl, rfl, earlier, hdep, ?_⟩
  rcases hd with hsuf | ⟨hfree, hnone⟩
  · exact .inl hsuf
  · refine .inr ⟨hfree, ?_⟩
    rw [hdep.target, Journal.target, hnone, hs]

lemma Sane.heeds_of_current (h : w.Sane) {r : Result} (hs : n.id = slot.node)
    (hc : Current host slot r (.registered host n replaced :: old) w.journal) :
    ∃ ticket f, w.Heeds host n replaced old slot ticket f ∧ f.status = .landed r ∧
      f.work.Yields r.content := by
  obtain ⟨after, mid, hj, hcached⟩ := hc
  have hlaw : Lawful w.policy w.journal := h.sound.lawful
  rw [hj] at hlaw
  obtain ⟨later, ticket, earlier, hsplit, hland, hd⟩ := hlaw.tail.computed_since hs hcached
  rw [hsplit, ← List.append_assoc] at hj
  obtain ⟨f, hf, hheeds⟩ := h.heeds hs hj hd
  have hm : .landed host slot ticket r true ∈ w.journal := by
    rw [hj]
    exact List.mem_append_left _ (List.mem_append_right _ hland)
  obtain ⟨f', hf', hst, hy⟩ := h.landed hm
  rw [hf] at hf'
  cases hf'
  exact ⟨ticket, f, hheeds, hst, hy⟩

/-- What was computed while the node was registered is not the failure to find it. -/
lemma Heeds.ne_nodeNotFound {ticket : Nat} {f : Flight} {c : Content} {old : List Event}
    (h : w.Heeds host n true old slot ticket f) (hs : n.id = slot.node)
    (hj : w.journal = new ++ .registered host n true :: old)
    (hu : .unregistered host n.id ∉ new) (hy : f.work.Yields c) :
    c ≠ .error (.nodeNotFound n.id) := by
  obtain ⟨rfl, rfl, earlier, hdep, ⟨m, rfl⟩ | ⟨hfree, -⟩⟩ := h
  · refine hy.ne_nodeNotFound ?_
    obtain ⟨later, hsplit⟩ := hdep.journal
    have hnew : new = later ++ .takenOff f.work.host f.work.slot ticket :: m := by
      rw [hj, ← List.cons_append, ← List.append_assoc] at hsplit
      exact List.append_cancel_right hsplit
    have hnode : (Journal.node f.work.host n.id
        (.registered f.work.host n true :: old)).isSome = true := by
      simp [Journal.node, latest_cons, Event.ofNode]
    have hsome : (Journal.node f.work.host n.id
        (m ++ .registered f.work.host n true :: old)).isSome = true :=
      node_isSome_append hnode fun hm => hu (by simp [hnew, hm])
    rw [hdep.target, Journal.target, ← hs]
    cases hget : Journal.node f.work.host n.id
      (m ++ .registered f.work.host n true :: old) with
    | none =>
      rw [hget] at hsome
      cases hsome
    | some n' =>
      dsimp only
      cases n'.outputs.get? f.work.slot.output <;> rintro ⟨⟩
  · cases hfree

lemma Sane.ended (h : w.Sane) {t : Nat} {task : Task} {how : End} (ht : w.tasks[t]? = some task)
    (he : task.ended = some how) : .ended t task.name how ∈ w.journal := by
  have hd : w.ledger.duties[t]? = some task.duty := by
    show (w.tasks.map Task.duty)[t]? = _
    rw [List.getElem?_map, ht]
    rfl
  exact (h.sound.accounted.ended t task.duty how hd he).1

/-- A task that was pending has come to its end when all tasks have that had not at the time. -/
lemma Sane.ended_of_pending (h : w.Sane) (h' : w'.Sane) {since front l : List Event} {t c : Nat}
    (hj : w.journal = front ++ l) (hj' : w'.journal = since ++ w.journal)
    (hp : Pending t host slot c l)
    (hdone : ∀ (t : Nat) task, w.tasks[t]? = some task → task.ended = none →
      ∃ task', w'.tasks[t]? = some task' ∧ task'.ended.isSome = true) :
    ∃ name how, .ended t name how ∈ since ++ front := by
  obtain ⟨-, later, e, earlier, i, rfl, he, -, -, hlater⟩ := hp
  have hlaw : Lawful w.policy w.journal := h.sound.lawful
  rw [hj] at hlaw
  obtain ⟨⟨task, hstart⟩, hnot⟩ := hlaw.tail.tail.of_begins he
  obtain ⟨d, hd, -⟩ := h.sound.accounted.begun t task (show _ ∈ w.journal by
    rw [hj]
    exact List.mem_append_right _ (List.mem_append_right _ hstart))
  have hmap : (w.tasks.map Task.duty)[t]? = some d := hd
  rw [List.getElem?_map, Option.map_eq_some_iff] at hmap
  obtain ⟨task, ht, -⟩ := hmap
  have hend : ∃ name how, .ended t name how ∈ w'.journal := by
    cases hend : task.ended with
    | some how =>
      refine ⟨task.name, how, ?_⟩
      rw [hj']
      exact List.mem_append_right _ (h.ended ht hend)
    | none =>
      obtain ⟨task', ht', hsome⟩ := hdone t task ht hend
      obtain ⟨how, hhow⟩ := Option.isSome_iff_exists.mp hsome
      exact ⟨task'.name, how, h'.ended ht' hhow⟩
  obtain ⟨name, how, hm⟩ := hend
  rw [hj', hj, ← List.append_assoc] at hm
  rcases List.mem_append.mp hm with hm | hm
  · exact ⟨name, how, hm⟩
  · rcases List.mem_append.mp hm with hm | hm
    · exact absurd hm (hlater name how)
    · exact absurd hm (hnot name how)

/-- Whoever was on the slot when a node was replaced, has subscribed since or was waiting already,
waits for a task from some time on. -/
lemma Sane.pending_since (h : w.Sane) (hr : w.runtime = true) {c : Nat} {P : Nat → Prop}
    (hj : w.journal = new ++ .registered host n replaced :: old) (hs : n.id = slot.node)
    (hm : c ∈ (w.engine host).subscribers slot)
    (hdue : replaced = true ∨ (∃ name, .subscribed host slot c name ∈ new) ∨
      ∃ t, Pending t host slot c old ∧ P t) :
    ∃ front gap t, new = front ++ gap ∧
      Pending t host slot c (gap ++ .registered host n replaced :: old) ∧
      .unsubscribed host slot c ∉ front ∧ (.started t (.emitting host slot) ∈ gap ∨ P t) := by
  have hroll : enrolled host slot c (new ++ .registered host n replaced :: old) = true := by
    rw [← hj]
    exact (h.sound.mirrors.roll host slot c).mp hm
  rcases enrolled_since hroll with ⟨hen, hnew⟩ | ⟨la, name, lb, rfl, hla⟩
  · have hun := not_unsubscribed hnew
    rcases hdue with rfl | ⟨name, hsub⟩ | ⟨t, hpend, hP⟩
    · obtain ⟨t, ht⟩ := h.sound.prompted hr new (.registered host n true) old host slot c hj
        ⟨rfl, hs, rfl, hen⟩
      obtain ⟨l₁, l₂, rfl⟩ := List.append_of_mem ht
      have hun' := not_mem_of_append hun
      exact ⟨l₁, _ :: l₂, t, rfl,
        pending_started (enrolled_append hen fun hx => hun'.2 (List.mem_cons_of_mem _ hx)) t,
        hun'.1, .inl List.mem_cons_self⟩
    · have hx := hnew _ hsub
      simp [Event.ofRoll] at hx
    · exact ⟨new, [], t, (List.append_nil new).symm, hpend.registered host n replaced, hun, .inr hP⟩
  · have hun := not_unsubscribed hla
    rw [List.append_assoc, List.cons_append] at hj
    obtain ⟨t, ht⟩ := h.sound.prompted hr la (.subscribed host slot c name) _ host slot c hj
      ⟨rfl, rfl, rfl⟩
    obtain ⟨l₁, l₂, rfl⟩ := List.append_of_mem ht
    have hun' := not_mem_of_append hun
    have hen : enrolled host slot c ((l₂ ++ .subscribed host slot c name :: lb) ++
        .registered host n replaced :: old) = true := by
      rw [List.append_assoc]
      refine enrolled_append ?_ fun hx => hun'.2 (List.mem_cons_of_mem _ hx)
      rw [List.cons_append, enrolled_cons]
      simp [Event.ofRoll]
    exact ⟨l₁, .started t (.emitting host slot) :: (l₂ ++ .subscribed host slot c name :: lb), t,
      by simp, pending_started hen t, hun'.1, .inl List.mem_cons_self⟩

lemma Sane.heard_since_registration (h : w.Sane) (h' : w'.Sane) (hr : w.runtime = true) {since : List Event}
    {c : Nat} (hid : w'.policy host = .identity)
    (hj : w.journal = new ++ .registered host n replaced :: old)
    (hj' : w'.journal = since ++ w.journal) (hs : n.id = slot.node) (hcalm : Calm (since ++ new))
    (hdone : ∀ (t : Nat) task, w.tasks[t]? = some task → task.ended = none →
      ∃ task', w'.tasks[t]? = some task' ∧ task'.ended.isSome = true)
    (hm : c ∈ (w.engine host).subscribers slot) (hun : .unsubscribed host slot c ∉ since)
    (ho : ∀ j name, .subscribed host j c name ∈ w'.journal → j = slot)
    (hdue : replaced = true ∨ ¬Panicked old ∧ ((∃ name, .subscribed host slot c name ∈ new) ∨
      ∃ t, Pending t host slot c old ∧ ∀ name, .ended t name .cancelled ∉ since ++ new)) :
    ∃ last, heard host c w'.journal = some last ∧
      Current host slot last (.registered host n replaced :: old) w'.journal := by
  have hdue' : replaced = true ∨ (∃ name, .subscribed host slot c name ∈ new) ∨
      ∃ t, Pending t host slot c old ∧ ∀ name, .ended t name .cancelled ∉ since ++ new :=
    hdue.imp id And.right
  obtain ⟨front, gap, t, rfl, hpend, hfront, hkind⟩ := h.pending_since hr hj hs hm hdue'
  rw [List.append_assoc] at hj
  obtain ⟨name, how, hend⟩ := h.ended_of_pending h' hj hj' hpend hdone
  have hlaw : Lawful w'.policy w'.journal := h'.sound.lawful
  have hproper : how.proper = true := by
    cases how with
    | panicked text =>
      refine absurd ?_ (hcalm.2 t name text)
      rw [← List.append_assoc]
      exact List.mem_append_left gap hend
    | cancelled =>
      rcases hkind with hstart | hnot
      · have hmem : .started t (.emitting host slot) ∈ w'.journal := by
          rw [hj', hj]
          simp [hstart]
        refine absurd ?_ (hlaw.not_cancelled hmem rfl name)
        rw [hj', hj, ← List.append_assoc]
        exact List.mem_append_left _ hend
      · refine absurd ?_ (hnot name)
        rw [← List.append_assoc]
        exact List.mem_append_left gap hend
    | _ => rfl
  rw [hj', hj, ← List.append_assoc] at hlaw ho ⊢
  refine hlaw.heard_since_emission hs hid hpend hend hproper ?_ ?_ ho (hdue.imp id And.left)
  · rw [List.append_assoc]
    exact hcalm.1
  · intro hx
    rcases List.mem_append.mp hx with hx | hx
    · exact hun hx
    · exact hfront hx

/-! ## What everybody sees -/

/-- What is cached for a slot of a registered node, or may still be, took off after the registration, and
so did what its subscribers were called with last. Where the id was free, both can still be the
failure to find the node. -/
theorem registration_takes_effect {s : Scene} {w : World} (h : Reachable s.opening w) {host : String}
    {n : Node} {replaced : Bool} {new old : List Event}
    (hj : w.journal = new ++ .registered host n replaced :: old) :
    (∀ o r, (w.engine host).cached ⟨n.id, o⟩ = some r → ∃ ticket f,
      w.Heeds host n replaced old ⟨n.id, o⟩ ticket f ∧ f.status = .landed r ∧
      f.work.Yields r.content) ∧
    (∀ o ticket, (w.engine host).flying ⟨n.id, o⟩ = some ticket →
      ∃ f, w.Heeds host n replaced old ⟨n.id, o⟩ ticket f) ∧
    ∀ w' since o c, s.runtime = true → w.policy host = .identity → Reachable w w' →
      w'.journal = since ++ w.journal → Calm (since ++ new) →
      (∀ (t : Nat) task, w.tasks[t]? = some task → task.ended = none →
        ∃ task', w'.tasks[t]? = some task' ∧ task'.ended.isSome = true) →
      c ∈ (w.engine host).subscribers ⟨n.id, o⟩ → .unsubscribed host ⟨n.id, o⟩ c ∉ since →
      (∀ j name, .subscribed host j c name ∈ w'.journal → j = ⟨n.id, o⟩) →
      (replaced = true ∨ ¬Panicked old ∧ ((∃ name, .subscribed host ⟨n.id, o⟩ c name ∈ new) ∨
        ∃ t, Pending t host ⟨n.id, o⟩ c old ∧
          ∀ name, .ended t name .cancelled ∉ since ++ new)) →
      ∃ last ticket f, heard host c w'.journal = some last ∧
        w'.Heeds host n replaced old ⟨n.id, o⟩ ticket f ∧ f.status = .landed last ∧
        f.work.Yields last.content ∧
        (replaced = true → .unregistered host n.id ∉ since ++ new →
          last.content ≠ .error (.nodeNotFound n.id)) := by
  obtain ⟨hs, hmoves⟩ := h.goes s.sane_opening
  have hlaw : Lawful w.policy w.journal := hs.sound.lawful
  refine ⟨?_, ?_, ?_⟩
  · intro o r hc
    refine hs.heeds_of_current rfl ⟨[], new, hj, ?_⟩
    rw [← hj]
    exact (hs.sound.mirrors.cached host ⟨n.id, o⟩).symm.trans hc
  · intro o ticket hf
    have hfly : Journal.flying host ⟨n.id, o⟩ w.journal = some ticket :=
      (hs.sound.mirrors.flying host ⟨n.id, o⟩).symm.trans hf
    obtain ⟨later, earlier, hsplit, hl⟩ := flying_eq_some hfly
    rw [hj] at hlaw
    obtain ⟨f, -, hheeds⟩ :=
      hs.heeds rfl hsplit (hlaw.departed_since rfl (hj.symm.trans hsplit) hl)
    exact ⟨f, hheeds⟩
  · intro w' since o c hr hid hreach hj' hcalm hdone hm hun ho hdue
    obtain ⟨hs', hmoves'⟩ := hreach.goes hs
    have hrun : w.runtime = true := hmoves.frame.1.trans hr
    have hpol : w'.policy host = .identity := (congrFun hmoves'.frame.2 host).trans hid
    obtain ⟨last, hheard, hcur⟩ :=
      hs.heard_since_registration hs' hrun hpol hj hj' rfl hcalm hdone hm hun ho hdue
    obtain ⟨ticket, f, hheeds, hst, hy⟩ := hs'.heeds_of_current rfl hcur
    refine ⟨last, ticket, f, hheard, hheeds, hst, hy, ?_⟩
    rintro rfl hu
    have hall : w'.journal = (since ++ new) ++ .registered host n true :: old := by
      rw [hj', hj, List.append_assoc]
    exact hheeds.ne_nodeNotFound rfl hall hu hy

/-- A node is replaced while its first delivery is on the way. -/
def replacing : List (Action × Nat) := [
  (.register "p" (heldNode "n" ["o"]) "n", 0),
  (.subscribe "p" "s" ⟨"n", "o"⟩ "c", 30),
  (.register "p" (heldNode "n" ["o"]) "n", 0)]

/-- Both nodes hand over what they made. -/
def handingOver : List (Action × Nat) := [
  (.resolve .first (some (.value (.text "old"))), 90),
  (.resolve .first (some (.value (.text "new"))), 90)]

/-- The subscriber is called last with what the new node has made. -/
theorem registration_takes_effect_replacing : ∃ w n old, Reachable ({} : Scene).opening w ∧
    n.id = "n" ∧ ∃ last ticket f, heard "p" 0 w.journal = some last ∧
      w.Heeds "p" n true old ⟨"n", "o"⟩ ticket f ∧ f.status = .landed last ∧
      f.work.Yields last.content ∧ last.content ≠ .error (.nodeNotFound "n") := by
  have hsome : (({} : Scene).opening.rehearse replacing).isSome = true := by decide +kernel
  obtain ⟨w, hw⟩ := Option.isSome_iff_exists.mp hsome
  have hsome' : ((({} : Scene).opening.rehearse replacing).bind fun w =>
      w.rehearse handingOver).isSome = true := by decide +kernel
  have hnode : (({} : Scene).opening.rehearse replacing).any (fun w =>
      w.journal[1]?.any (Event.isRegistration "p" "n" true)) = true := by decide +kernel
  have hnow : (({} : Scene).opening.rehearse replacing).any (fun w =>
      (w.engine "p").subscribers ⟨"n", "o"⟩ == [0] && w.tasks.length == 2 &&
        (w.policy "p").isIdentity) = true := by decide +kernel
  have hcalm : ((({} : Scene).opening.rehearse replacing).bind fun w =>
      w.rehearse handingOver).any (fun w =>
        w.journal.all (Event.isCalmOn ⟨"n", "o"⟩)) = true := by decide +kernel
  have hdone : ((({} : Scene).opening.rehearse replacing).bind fun w =>
      w.rehearse handingOver).any (fun w =>
        w.tasks.length == 2 && w.tasks.all fun task => task.ended.isSome) = true := by decide +kernel
  rw [hw, Option.bind_some] at hsome' hcalm hdone
  rw [hw, Option.any_some] at hnode hnow
  obtain ⟨w', hw'⟩ := Option.isSome_iff_exists.mp hsome'
  rw [hw', Option.any_some] at hcalm hdone
  have hcalm' := List.all_eq_true.mp hcalm
  simp only [Bool.and_eq_true, beq_iff_eq, List.all_eq_true] at hnow hdone
  obtain ⟨e, he, hreg⟩ := (Option.any_eq_true _ _).mp hnode
  have hpolicy : w.policy "p" = .identity := Policy.eq_of_isIdentity hnow.2
  have hreach := reachable_rehearse .refl hw
  have hreach' := reachable_rehearse .refl hw'
  have hjournal := split_of_place he
  obtain ⟨since, hj'⟩ := (hreach'.goes (Scene.sane_of_reachable hreach)).2.grows
  have hj' : w'.journal = since ++ w.journal := hj'
  have hsub : ∀ x ∈ since ++ w.journal.take 1, x ∈ w'.journal := by
    intro x hx
    rw [hj']
    rcases List.mem_append.mp hx with hx | hx
    · exact List.mem_append_left _ hx
    · exact List.mem_append_right _ (List.mem_of_mem_take hx)
  obtain ⟨n, rfl, hid⟩ := Event.isRegistration_iff.mp hreg
  have hcalmed : Calm (since ++ w.journal.take 1) := by
    refine ⟨?_, ?_⟩
    · rintro ⟨source, text, hm⟩
      cases hcalm' _ (hsub _ hm)
    · intro t name text hm
      cases hcalm' _ (hsub _ hm)
  have hfin : ∀ (t : Nat) task, w.tasks[t]? = some task → task.ended = none →
      ∃ task', w'.tasks[t]? = some task' ∧ task'.ended.isSome = true := by
    intro t task ht _
    have hlt := (List.getElem?_eq_some_iff.mp ht).1
    rw [hnow.1.2, ← hdone.1] at hlt
    exact ⟨_, List.getElem?_eq_getElem hlt, hdone.2 _ (List.getElem_mem hlt)⟩
  have hon : 0 ∈ (w.engine "p").subscribers ⟨n.id, "o"⟩ := by
    rw [hid, hnow.1.1]
    exact List.mem_cons_self
  have hstays : .unsubscribed "p" ⟨n.id, "o"⟩ 0 ∉ since := by
    intro hm
    cases hcalm' _ (hsub _ (List.mem_append_left _ hm))
  have honly : ∀ j name, .subscribed "p" j 0 name ∈ w'.journal → j = ⟨n.id, "o"⟩ := by
    intro j name hm
    rw [hid]
    exact eq_of_beq (hcalm' _ hm)
  have hkept : .unregistered "p" n.id ∉ since ++ w.journal.take 1 := by
    intro hm
    cases hcalm' _ (hsub _ hm)
  obtain ⟨last, ticket, f, hheard, hheeds, hst, hy, hne⟩ :=
    (registration_takes_effect hreach hjournal).2.2 w' since "o" 0 rfl hpolicy hreach' hj' hcalmed
      hfin hon hstays honly (.inl rfl)
  have hne := hne rfl hkept
  rw [hid] at hheeds hne
  exact ⟨w', n, _, hreach.trans hreach', hid, last, ticket, f, hheard, hheeds, hst, hy, hne⟩

/-- A subscriber comes before the node. -/
def waitingForNode : List (Action × Nat) := [
  (.subscribe "p" "s" ⟨"n", "o"⟩ "c", 60),
  (.register "p" (heldNode "n" ["o"]) "n", 60)]

/-- What a subscriber without a node is called with. -/
def unfound : Result := ⟨0, .error (.nodeNotFound "n")⟩

def isUnfound : Result → Bool
  | ⟨0, .error f⟩ => f == .nodeNotFound "n"
  | _ => false

lemma eq_unfound {r : Result} (h : isUnfound r = true) : r = unfound := by
  obtain ⟨id, c⟩ := r
  rcases id with _ | id <;> rcases c with f | p
  · rw [eq_of_beq (h : (f == .nodeNotFound "n") = true)]
    rfl
  · cases h
  · cases h
  · cases h

/-- The computation that began first lands with that failure, and is cached. -/
def landsUnfound : Event → Bool
  | .landed host slot 0 r true => host == "p" && slot == ⟨"n", "o"⟩ && isUnfound r
  | _ => false

lemma eq_of_landsUnfound {e : Event} (h : landsUnfound e = true) :
    e = .landed "p" ⟨"n", "o"⟩ 0 unfound true := by
  unfold landsUnfound at h
  split at h
  · simp only [Bool.and_eq_true, beq_iff_eq] at h
    rw [h.1.1, h.1.2, eq_unfound h.2]
  · cases h

/-- The only task has done what it was to do. -/
def isDone : List (Option End) → Bool
  | [some .ok] => true
  | _ => false

lemma eq_of_isDone {l : List (Option End)} (h : isDone l = true) : l = [some .ok] := by
  rcases l with _ | ⟨_ | how, _ | _⟩
  · cases h
  · cases h
  · cases h
  · cases how with
    | ok => rfl
    | _ => cases h
  · cases how <;> cases h

/-- Where the id was free, nobody is told: the failure to find the node stays cached and is what the
subscriber was called with last. -/
theorem registration_unnoticed : ∃ w n old, Reachable ({} : Scene).opening w ∧
    w.policy "p" = .identity ∧ w.journal = .registered "p" n false :: old ∧ n.id = "n" ∧
    w.tasks.map Task.ended = [some .ok] ∧ (w.engine "p").subscribers ⟨"n", "o"⟩ = [0] ∧
    (∀ j name, .subscribed "p" j 0 name ∈ w.journal → j = ⟨"n", "o"⟩) ∧
    .takenOff "p" ⟨"n", "o"⟩ 0 ∈ old ∧ .landed "p" ⟨"n", "o"⟩ 0 unfound true ∈ old ∧
    (w.engine "p").cached ⟨"n", "o"⟩ = some unfound ∧ heard "p" 0 w.journal = some unfound := by
  have hsome : (({} : Scene).opening.rehearse waitingForNode).isSome = true := by decide +kernel
  obtain ⟨w, hw⟩ := Option.isSome_iff_exists.mp hsome
  have hlook : (({} : Scene).opening.rehearse waitingForNode).any (fun w =>
      (w.policy "p").isIdentity && isDone (w.tasks.map Task.ended) &&
      (w.engine "p").subscribers ⟨"n", "o"⟩ == [0] &&
      ((w.engine "p").cached ⟨"n", "o"⟩).any isUnfound &&
      (heard "p" 0 w.journal).any isUnfound) = true := by decide +kernel
  have hlone : (({} : Scene).opening.rehearse waitingForNode).any (fun w =>
      w.journal.all (Event.isCalmOn ⟨"n", "o"⟩)) = true := by decide +kernel
  have hnode : (({} : Scene).opening.rehearse waitingForNode).any (fun w =>
      w.journal.head?.any (Event.isRegistration "p" "n" false)) = true := by decide +kernel
  have hlanded : (({} : Scene).opening.rehearse waitingForNode).any (fun w =>
      w.journal.tail.any landsUnfound) = true := by decide +kernel
  have hdeparture : (({} : Scene).opening.rehearse waitingForNode).any (fun w =>
      w.journal.tail.any fun e => e.ofFlight "p" ⟨"n", "o"⟩ == some (some 0)) = true := by
    decide +kernel
  rw [hw, Option.any_some] at hlook hlone hnode hlanded hdeparture
  simp only [Bool.and_eq_true, beq_iff_eq] at hlook
  obtain ⟨⟨⟨⟨hpolicy, htasks⟩, hon⟩, hcached⟩, hheard⟩ := hlook
  obtain ⟨e, he, hreg⟩ := (Option.any_eq_true _ _).mp hnode
  obtain ⟨old, hjournal⟩ := List.head?_eq_some_iff.mp he
  rw [hjournal, List.tail_cons] at hlanded hdeparture
  obtain ⟨x, hx, hland⟩ := List.any_eq_true.mp hlanded
  obtain ⟨y, hy, htake⟩ := List.any_eq_true.mp hdeparture
  obtain ⟨r, hr, hunfound⟩ := (Option.any_eq_true _ _).mp hcached
  obtain ⟨last, hlast, hsame⟩ := (Option.any_eq_true _ _).mp hheard
  rw [eq_unfound hunfound] at hr
  rw [eq_unfound hsame] at hlast
  obtain ⟨n, rfl, hid⟩ := Event.isRegistration_iff.mp hreg
  obtain rfl := Event.ofFlight_eq_some_some.mp (eq_of_beq htake)
  obtain rfl := eq_of_landsUnfound hland
  exact ⟨w, n, old, reachable_rehearse .refl hw, Policy.eq_of_isIdentity hpolicy, hjournal, hid,
    eq_of_isDone htasks, hon, fun j name hm => eq_of_beq (List.all_eq_true.mp hlone _ hm), hy, hx, hr,
    hlast⟩

end World

end Dataflow
