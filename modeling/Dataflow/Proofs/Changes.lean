import Dataflow.Proofs.Ledger

/-!
# What a move does

A move changes engines, flights and their history in one place at most: the rest of it is plain.
What it does to the emissions is told from both sides, by where an errand came from and by what has
become of one.
-/

namespace Dataflow

/-- The event changes nothing that an engine or a flight is about. -/
def Event.isPlain : Event → Bool
  | .called _ _ _ _ _ | .abandoned _ _ _ | .panicked _ _ | .started _ _ | .ended _ _ _ => true
  | .begun _ _ _ | .looked _ _ _ => true
  | e => e.isNote

lemma Event.isPlain_of_isNote {e : Event} (h : e.isNote = true) : e.isPlain = true := by
  cases e <;> first | rfl | exact h

namespace Engine

lemma cached_clearAll (e : Engine) (node : String) (keys : List String) (j : Slot) :
    (e.clearAll node keys).cached j =
      if node = j.node ∧ j.output ∈ keys then none else e.cached j := by
  unfold clearAll
  induction keys generalizing e with
  | nil => simp
  | cons k keys ih =>
    rw [List.foldl_cons, ih, cached_clear]
    by_cases hn : node = j.node
    · by_cases hk : k = j.output
      · simp [hn, hk]
      · by_cases hm : j.output ∈ keys <;> simp [Slot.eq_iff, hn, hk, Ne.symm hk, hm]
    · simp [Slot.eq_iff, hn]

lemma flying_clearAll (e : Engine) (node : String) (keys : List String) (j : Slot) :
    (e.clearAll node keys).flying j =
      if node = j.node ∧ j.output ∈ keys then none else e.flying j := by
  unfold clearAll
  induction keys generalizing e with
  | nil => simp
  | cons k keys ih =>
    rw [List.foldl_cons, ih, flying_clear]
    by_cases hn : node = j.node
    · by_cases hk : k = j.output
      · simp [hn, hk]
      · by_cases hm : j.output ∈ keys <;> simp [Slot.eq_iff, hn, hk, Ne.symm hk, hm]
    · simp [Slot.eq_iff, hn]

lemma clearAll_frame (e : Engine) (node : String) (keys : List String) :
    (e.clearAll node keys).nodes = e.nodes ∧
      (e.clearAll node keys).clears = e.clears + keys.length ∧
      (e.clearAll node keys).subscriptions = e.subscriptions ∧
      (e.clearAll node keys).delivered = e.delivered := by
  unfold clearAll
  induction keys generalizing e with
  | nil => exact ⟨rfl, rfl, rfl, rfl⟩
  | cons k keys ih =>
    obtain ⟨hn, hc, hs, hd⟩ := ih (e.clear ⟨node, k⟩)
    rw [List.foldl_cons]
    refine ⟨hn, ?_, hs, hd⟩
    rw [hc, List.length_cons]
    show e.clears + 1 + keys.length = _
    omega

end Engine

namespace Ledger

variable {b b' b'' : Ledger}

/-- Emissions, tasks and the shelf aside, nothing has changed. -/
structure Plain (b b' : Ledger) : Prop where
  runtime : b'.runtime = b.runtime
  policy : b'.policy = b.policy
  engine : ∀ host, (b.engine host).Regated (b'.engine host)
  flights : b'.flights = b.flights
  subscribers : b.subscribers ≤ b'.subscribers
  results : b.results ≤ b'.results
  journal : ∃ new, b'.journal = new ++ b.journal ∧ ∀ e ∈ new, e.isPlain = true

lemma Plain.of_eq (hr : b'.runtime = b.runtime) (hp : b'.policy = b.policy)
    (he : b'.engine = b.engine) (hf : b'.flights = b.flights)
    (hs : b'.subscribers = b.subscribers) (hn : b'.results = b.results) {l : List Event}
    (hj : b'.journal = l ++ b.journal) (hnew : ∀ e ∈ l, e.isPlain = true) : b.Plain b' := by
  refine ⟨hr, hp, ?_, hf, Nat.le_of_eq hs.symm, Nat.le_of_eq hn.symm, l, hj, hnew⟩
  intro host
  rw [he]
  exact .refl _

lemma Plain.refl (b : Ledger) : b.Plain b :=
  .of_eq rfl rfl rfl rfl rfl rfl (l := []) rfl (by simp)

lemma Plain.trans (h : b.Plain b') (h' : b'.Plain b'') : b.Plain b'' := by
  obtain ⟨new, hj, hn⟩ := h.journal
  obtain ⟨new', hj', hn'⟩ := h'.journal
  refine ⟨h'.runtime.trans h.runtime, h'.policy.trans h.policy,
    fun host => (h.engine host).trans (h'.engine host), h'.flights.trans h.flights,
    Nat.le_trans h.subscribers h'.subscribers, Nat.le_trans h.results h'.results, new' ++ new, ?_,
    ?_⟩
  · rw [hj', hj, List.append_assoc]
  · intro e he
    rcases List.mem_append.mp he with he | he
    · exact hn' e he
    · exact hn e he

lemma Quiet.plain (h : Quiet b b') : b.Plain b' := by
  obtain ⟨notes, hj, hn⟩ := h.journal
  exact ⟨h.runtime, h.policy, h.engine, h.flights, h.subscribers, h.results, notes, hj,
    fun e he => Event.isPlain_of_isNote (hn e he)⟩

lemma plain_log {e : Event} (he : e.isPlain = true) : b.Plain (b.log e) :=
  .of_eq rfl rfl rfl rfl rfl rfl (l := [e]) rfl (by simpa using he)

lemma plain_setErrand (b : Ledger) (t i : Nat) (x : Option Errand) :
    b.Plain (b.setErrand t i x) :=
  .of_eq rfl rfl rfl rfl rfl rfl (l := []) rfl (by simp)

lemma plain_enter (b : Ledger) (t i : Nat) (x : Errand) : b.Plain (b.enter t i x) :=
  ((quiet_setEngine (Engine.regated_enter _ x.slot)).plain.trans (plain_log rfl)).trans
    (plain_setErrand _ t i _)

lemma plain_look (b : Ledger) (t i : Nat) (x : Errand) (pass : Pass) :
    b.Plain (b.look t i x pass) :=
  (plain_log rfl).trans (plain_setErrand _ t i _)

lemma plain_spawn (b : Ledger) (task : Task) : b.Plain (b.spawn task) :=
  .of_eq rfl rfl rfl rfl rfl rfl (l := [.started b.duties.length task]) rfl (by
    intro e he
    rw [List.mem_singleton.mp he]
    rfl)

lemma plain_putOnShelf (b : Ledger) (name : String) (s : Subscription) :
    b.Plain (b.putOnShelf name s) :=
  .of_eq rfl rfl rfl rfl rfl rfl (l := []) rfl (by simp)

/-- Starts a task for each of these outputs. -/
def emitAll (b : Ledger) (host node : String) (outputs : List String) : Ledger :=
  outputs.foldl (fun b o => b.spawn (.emitting host ⟨node, o⟩)) b

lemma plain_emitAll (b : Ledger) (host node : String) (outputs : List String) :
    b.Plain (b.emitAll host node outputs) := by
  induction outputs generalizing b with
  | nil => exact .refl b
  | cons o outputs ih => exact (plain_spawn b _).trans (ih _)

/-- A task is started for each of the outputs, and nothing else happens. -/
lemma journal_emitAll (b : Ledger) (host node : String) (outputs : List String) :
    ∃ new, (b.emitAll host node outputs).journal = new ++ b.journal ∧
      (∀ e ∈ new, ∃ t task, e = .started t task) ∧
      ∀ o ∈ outputs, ∃ t, .started t (.emitting host ⟨node, o⟩) ∈ new := by
  induction outputs generalizing b with
  | nil => exact ⟨[], rfl, by simp, by simp⟩
  | cons o outputs ih =>
    obtain ⟨new, hj, hn, hs⟩ := ih (b.spawn (.emitting host ⟨node, o⟩))
    refine ⟨new ++ [.started b.duties.length (.emitting host ⟨node, o⟩)], ?_, ?_, ?_⟩
    · rw [List.append_assoc]
      exact hj
    · intro e he
      rcases List.mem_append.mp he with he | he
      · exact hn e he
      · exact ⟨_, _, List.mem_singleton.mp he⟩
    · intro o' ho
      rcases List.mem_cons.mp ho with rfl | ho
      · exact ⟨_, List.mem_append_right _ List.mem_cons_self⟩
      · obtain ⟨t, ht⟩ := hs o' ho
        exact ⟨t, List.mem_append_left _ ht⟩

lemma register_cases (b : Ledger) (host : String) (n : Node) :
    (b.register host n = (b.enlist host n).emitAll host n.id
        ((b.engine host).subscriptions.entries n.id).names ∧
      (b.engine host).nodes.contains n.id = true ∧ b.runtime = true) ∨
    (b.register host n = b.enlist host n ∧
      ((b.engine host).nodes.contains n.id = false ∨ b.runtime = false)) := by
  unfold register
  by_cases hn : (b.engine host).nodes.contains n.id = true
  · by_cases hr : b.runtime = true
    · exact .inl ⟨by rw [hn, hr]; rfl, hn, hr⟩
    · exact .inr ⟨by rw [hn, Bool.eq_false_iff.mpr hr]; rfl, .inr (Bool.eq_false_iff.mpr hr)⟩
  · exact .inr ⟨by rw [Bool.eq_false_iff.mpr hn]; rfl, .inl (Bool.eq_false_iff.mpr hn)⟩

lemma plain_register (b : Ledger) (host : String) (n : Node) :
    (b.enlist host n).Plain (b.register host n) := by
  rcases register_cases b host n with ⟨h, -, -⟩ | ⟨h, -⟩
  · rw [h]
    exact plain_emitAll _ host n.id _
  · rw [h]
    exact .refl _

lemma plain_subscribe (b : Ledger) (host : String) (s : Slot) (c : Nat) (name : String) :
    (b.enrol host s c name).Plain (b.subscribe host s c name) := by
  unfold subscribe
  by_cases hr : b.runtime = true
  · rw [if_pos hr]
    exact (plain_spawn _ _).trans (plain_putOnShelf _ _ _)
  · rw [if_neg hr]
    exact plain_putOnShelf _ _ _

lemma plain_drop (b : Ledger) (t i : Nat) (x : Errand) : b.Plain (b.drop t i x) := by
  unfold drop
  cases x.phase.pass? with
  | none => exact plain_setErrand b t i none
  | some pass => exact (plain_log rfl).trans (plain_setErrand _ t i none)

lemma Ends.plain {t : Nat} {d : Duty} {how : End} {engine : String → Engine}
    {extra : List Event} (h : b.Ends t d how engine extra) :
    b.Plain (b.finish t d how engine extra) := by
  refine ⟨rfl, rfl, h.engine, rfl, Nat.le_refl _, Nat.le_refl _, .ended t d.name how :: extra, rfl,
    ?_⟩
  intro e he
  rcases List.mem_cons.mp he with rfl | he
  · rfl
  · obtain ⟨host, s, pass, rfl⟩ := h.extra e he
    rfl

/-- The slots of these keys are cleared. -/
def clearKeys (b : Ledger) (t : Nat) (host node : String) (keys : List String) : Ledger :=
  (b.setEngine host ((b.engine host).clearAll node keys)).log (.invalidating t host node keys)

/-- Subscribers are selected, and noted at once. -/
def offer (b : Ledger) (host : String) (s : Slot) (pass : Pass) (r : Result) : Ledger :=
  let selected := (b.engine host).select (b.policy host) s r
  (b.setEngine host selected.2).log (.delivering host s pass r selected.1)

/-- What may change about engines and flights in one move. -/
inductive Change (b : Ledger) : Ledger → Prop where
  | nothing : Change b b
  | takeOff (host : String) (s : Slot) : (b.engine host).cached s = none →
      (b.engine host).flying s = none → Change b (b.takeOff host s)
  | land (ticket : Nat) (d : Departure) (c : Content) :
      b.flights[ticket]? = some d → d.landed = none → Change b (b.land ticket d c)
  | enlist (host : String) (n : Node) : Change b (b.enlist host n)
  | unregister (host id : String) : (b.engine host).nodes.contains id = true →
      Change b (b.unregister host id)
  | enrol (host : String) (s : Slot) (c : Nat) (name : String) : c < b.subscribers →
      Change b (b.enrol host s c name)
  | unsubscribe (host : String) (s : Slot) (c : Nat) : Change b (b.unsubscribe host s c)
  | clearKeys (t : Nat) (host node : String) (keys : List String) :
      Change b (b.clearKeys t host node keys)
  | offer (host : String) (s : Slot) (pass : Pass) (r : Result) : b.Silent →
      (b.engine host).cached s = some r → Change b (b.offer host s pass r)

lemma Move.change (h : Move b b') : ∃ m, b.Change m ∧ m.Plain b' := by
  cases h with
  | quiet hq => exact ⟨b, .nothing, hq.plain⟩
  | takeOff host s hc hf => exact ⟨_, .takeOff host s hc hf, .refl _⟩
  | begin host s ticket _ => exact ⟨b, .nothing, plain_log rfl⟩
  | land ticket d c hd hl => exact ⟨_, .land ticket d c hd hl, .refl _⟩
  | register host n => exact ⟨_, .enlist host n, plain_register b host n⟩
  | unregister host id hn => exact ⟨_, .unregister host id hn, .refl _⟩
  | subscribe host s c name hc => exact ⟨_, .enrol host s c name hc, plain_subscribe b host s c name⟩
  | unsubscribe host s c => exact ⟨_, .unsubscribe host s c, .refl _⟩
  | start task _ _ _ => exact ⟨b, .nothing, plain_spawn b task⟩
  | invalidate t d host node keys _ _ _ _ _ =>
    exact ⟨_, .clearKeys t host node keys, .of_eq rfl rfl rfl rfl rfl rfl (l := []) rfl (by simp)⟩
  | enter t i x _ _ => exact ⟨b, .nothing, plain_enter b t i x⟩
  | look t i x pass _ _ => exact ⟨b, .nothing, plain_look b t i x pass⟩
  | advance t i x p _ _ => exact ⟨b, .nothing, plain_setErrand b t i _⟩
  | select t i x pass clears r _ _ hs hc =>
    exact ⟨_, .offer x.host x.slot pass r hs hc, plain_setErrand _ t i _⟩
  | call t i x pass r c rest callback _ _ =>
    exact ⟨b, .nothing, (plain_log rfl).trans (plain_setErrand _ t i _)⟩
  | leave t i x pass r _ _ => exact ⟨b, .nothing, plain_setErrand b t i _⟩
  | drop t i x _ _ _ => exact ⟨b, .nothing, plain_drop b t i x⟩
  | panic source text _ _ _ => exact ⟨b, .nothing, plain_log rfl⟩
  | finish t d how engine extra he => exact ⟨b, .nothing, he.plain⟩

/-- The history is only ever added to. -/
lemma Move.grows (h : Move b b') : ∃ new, b'.journal = new ++ b.journal := by
  obtain ⟨m, hc, hp⟩ := h.change
  obtain ⟨new, hj, -⟩ := hp.journal
  cases hc with
  | nothing => exact ⟨new, hj⟩
  | _ => exact ⟨new ++ [_], by rw [hj, List.append_assoc]; rfl⟩

lemma Moves.grows (h : Moves b b') : ∃ new, b'.journal = new ++ b.journal := by
  induction h with
  | refl b => exact ⟨[], rfl⟩
  | head hm _ ih =>
    obtain ⟨new, hj⟩ := hm.grows
    obtain ⟨new', hj'⟩ := ih
    exact ⟨new' ++ new, by rw [hj', hj, List.append_assoc]⟩

lemma Move.frame (h : Move b b') : b'.runtime = b.runtime ∧ b'.policy = b.policy ∧
    b.subscribers ≤ b'.subscribers := by
  obtain ⟨m, hc, hp⟩ := h.change
  have hm : m.runtime = b.runtime ∧ m.policy = b.policy ∧ m.subscribers = b.subscribers := by
    cases hc <;> exact ⟨rfl, rfl, rfl⟩
  exact ⟨hp.runtime.trans hm.1, hp.policy.trans hm.2.1, hm.2.2 ▸ hp.subscribers⟩

lemma Moves.frame (h : Moves b b') : b'.runtime = b.runtime ∧ b'.policy = b.policy := by
  induction h with
  | refl b => exact ⟨rfl, rfl⟩
  | head hm _ ih =>
    obtain ⟨hr, hp, -⟩ := hm.frame
    exact ⟨ih.1.trans hr, ih.2.trans hp⟩

end Ledger

end Dataflow
