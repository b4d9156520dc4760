import Dataflow.Proofs.Goes
import Dataflow.World.Perform

/-!
# What actions do to a world

An action may start tasks, change engines and wake whoever waits, but it leaves the task that runs
where it is.
-/

namespace Dataflow

/-- Whether the action only tells something. -/
def Action.isLookup : Action → Bool
  | .getNode _ _ | .getSchema _ _ _ | .cached _ _ | .initialized _ | .describe _ => true
  | _ => false

namespace World

open Ledger (Move Moves Quiet)

/-- The running task is left where it is, and whatever is new has not begun. -/
structure Keeps (w w' : World) : Prop where
  steady : w'.Steady
  running : w'.running = w.running
  driving : w'.driving = w.driving
  focus : w'.focus = w.focus
  party : w'.party = w.party
  cursor : w'.job.cursor = w.job.cursor
  emissions : ∀ t i e, w'.emission? t i = some e →
    w.emission? t i = some e ∨ e.progress.phase = .fresh
  begun : w.AllBegun → w'.AllBegun

/-- Besides, the ledger moves along. -/
structure Carries (w w' : World) : Prop extends Keeps w w' where
  moves : Moves w.ledger w'.ledger

variable {w w' w'' : World}

lemma Keeps.refl (h : w.Steady) : Keeps w w :=
  ⟨h, rfl, rfl, rfl, rfl, rfl, fun _ _ _ => .inl, fun hb => hb⟩

lemma Carries.refl (h : w.Steady) : Carries w w := ⟨.refl h, .refl _⟩

lemma Keeps.trans (h : Keeps w w') (h' : Keeps w' w'') : Keeps w w'' where
  steady := h'.steady
  running := h'.running.trans h.running
  driving := h'.driving.trans h.driving
  focus := h'.focus.trans h.focus
  party := h'.party.trans h.party
  cursor := h'.cursor.trans h.cursor
  emissions := by
    intro t i e he
    rcases h'.emissions t i e he with he | hf
    · exact h.emissions t i e he
    · exact .inr hf
  begun := fun hb => h'.begun (h.begun hb)

lemma Carries.trans (h : Carries w w') (h' : Carries w' w'') : Carries w w'' :=
  ⟨h.toKeeps.trans h'.toKeeps, h.moves.trans h'.moves⟩

lemma Keeps.hushed (h : Keeps w w') (hh : w.Hushed) : w'.Hushed := by
  intro t i e he ho
  rw [h.driving, h.running, h.cursor]
  rcases h.emissions t i e he with he | hf
  · exact hh t i e he ho
  · rw [hf] at ho
    cases ho

lemma Keeps.silent (h : Keeps w w') (hs : w.Silent) : w'.Silent := by
  intro t i e he
  rcases h.emissions t i e he with he | hf
  · exact hs t i e he
  · rw [hf]
    rfl

lemma keeps_fades (h : w.Steady) (hk : FadingUnheld w w') : Keeps w w' where
  steady := h.fades hk
  running := hk.running
  driving := hk.driving
  focus := hk.focus
  party := party_fades h hk.toFading
  cursor := by rw [← Job.cursor_bare, job_fades hk.toFading, Job.cursor_bare]
  emissions := by
    intro t i e he
    rw [emission?_fades hk.toFading] at he
    exact .inl he
  begun := fun hb => hb.fades hk.toFading

lemma carries_fades (h : w.Steady) (hk : FadingUnheld w w') : Carries w w' :=
  ⟨keeps_fades h hk, moves_fades hk.toFading⟩

lemma keeps_log (h : w.Steady) (e : Event) : Keeps w (w.log e) :=
  ⟨h.log e, rfl, rfl, rfl, rfl, rfl, fun _ _ _ => .inl, fun hb => hb⟩

lemma carries_log (h : w.Steady) {e : Event} (he : e.isNote = true) : Carries w (w.log e) :=
  ⟨keeps_log h e, moves_log he⟩

lemma carries_rest (h : w.Steady) (cells : Table String Outcome) (valves : List Valve)
    (handles : Table String (String × String)) (removed : Table String Node) :
    Carries w { w with cells, valves, handles, removed } :=
  ⟨⟨h.rest, rfl, rfl, rfl, rfl, rfl, fun _ _ _ => .inl, fun hb => hb⟩, .refl _⟩

lemma keeps_setEngine (h : w.Steady) {i : String} {e : Engine}
    (he : ∀ s ticket, e.flying s = some ticket → (w.engine i).flying s = some ticket) :
    Keeps w (w.setEngine i e) :=
  ⟨h.setEngine he, rfl, rfl, rfl, rfl, rfl, fun _ _ _ => .inl, fun hb => hb⟩

lemma keeps_repipe (h : w.Steady) {pipelines : Table String Pipeline}
    (he : ∀ host, World.engine { w with pipelines } host = w.engine host) :
    Keeps w { w with pipelines } := by
  refine ⟨?_, rfl, rfl, rfl, rfl, rfl, fun _ _ _ => .inl, fun hb => hb⟩
  refine ⟨h.tasks, h.flights, h.runs, h.callbacks, h.shelf, h.driven, h.nodup, h.linked,
    fun host s ticket hf => h.flying host s ticket (by rw [← he]; exact hf), ?_⟩
  rintro ticket (⟨f, hf, hfly⟩ | hh)
  · rw [he] at hfly
    exact h.safe ticket (.inl ⟨f, hf, hfly⟩)
  · exact h.safe ticket (.inr hh)

lemma use_cases (w : World) (host : String) :
    w.use host = w ∨ w.use host =
      { w with
        pipelines := w.pipelines.insert host { w.pipeline host with built := true } }.log
          (.built host) := by
  unfold use
  dsimp only
  by_cases hb : (w.pipeline host).setup.inContext && !(w.pipeline host).built
  · exact .inr (if_pos hb)
  · exact .inl (if_neg hb)

lemma pipeline_built (w : World) (host i : String) :
    let w' := { w with
      pipelines := w.pipelines.insert host { w.pipeline host with built := true } }
    w'.engine i = w.engine i ∧ (w'.pipeline i).setup = (w.pipeline i).setup := by
  unfold engine pipeline
  dsimp only
  rw [Table.get?_insert]
  by_cases hi : host = i
  · rw [if_pos hi, hi]
    exact ⟨rfl, rfl⟩
  · rw [if_neg hi]
    exact ⟨rfl, rfl⟩

lemma carries_use (h : w.Steady) (host : String) : Carries w (w.use host) := by
  rcases use_cases w host with heq | heq <;> rw [heq]
  · exact .refl h
  · have hbuilt := pipeline_built w host
    have hk := keeps_repipe h fun i => (hbuilt i).1
    refine ⟨hk.trans (keeps_log hk.steady _), .single (.quiet ?_)⟩
    refine ⟨rfl, funext fun i => congrArg Setup.policy (hbuilt i).2, fun i => ?_, rfl, rfl,
      fun _ _ hm => .inl hm, Nat.le_refl _, Nat.le_refl _, [.built host], rfl, by simp [Event.isNote]⟩
    exact ⟨_, _, Nat.le_refl _, (hbuilt i).1⟩

lemma keeps_spawn (h : w.Steady) {task : Task} (hn : task.cancelled = false)
    (he : task.ended = none)
    (hh : ∀ name s, task.holding = some (name, s) → s.delivery.isTaken = true)
    (hf : ∀ i e, task.job.emission? i = some e → e.progress = .fresh)
    (hw : ∀ k, task.job ≠ .work k) (ho : ∀ host s own, task.job ≠ .output host s (some own)) :
    Keeps w (w.spawn task).1 where
  steady := by
    refine h.spawn hn he hh ⟨fun k hk => absurd hk (hw k), fun host s own hj => absurd hj (ho host s own),
      fun i e own hi hs => ?_⟩ ?_
    · rw [Emission.share?, hf i e hi] at hs
      cases hs
    · rw [List.eq_nil_iff_forall_not_mem]
      intro own hm
      rcases Job.mem_shares.mp hm with ⟨host, s, hj⟩ | ⟨k, hj, -⟩ | ⟨i, e, hi, hs⟩
      · exact ho host s own hj
      · exact hw k hj
      · rw [Emission.share?, hf i e hi] at hs
        cases hs
  running := rfl
  driving := rfl
  focus := rfl
  party := by
    rw [party_eq, party_eq, job_spawn h task]
    rfl
  cursor := by rw [job_spawn h task]
  emissions := by
    intro t i e hm
    obtain ⟨task', ht, hi⟩ := Option.bind_eq_some_iff.mp hm
    rcases getElem?_concat_cases ht with ht | ⟨-, rfl⟩
    · exact .inl (Option.bind_eq_some_iff.mpr ⟨task', ht, hi⟩)
    · refine .inr ?_
      rw [hf i e hi]
      rfl
  begun := fun hb => hb

lemma keeps_spawnEmission (h : w.Steady) (host : String) (s : Slot) :
    Keeps w (w.spawnEmission host s).1 := by
  refine keeps_spawn h rfl rfl (by rintro _ _ ⟨⟩) ?_ (by rintro _ ⟨⟩) (by rintro _ _ _ ⟨⟩)
  intro i e he
  obtain ⟨-, he⟩ := Option.ite_none_right_eq_some.mp he
  cases he
  rfl

lemma ledger_spawnEmission (w : World) (host : String) (s : Slot) :
    (w.spawnEmission host s).1.ledger = w.ledger.spawn (.emitting host s) :=
  ledger_spawn w _

lemma keeps_spawnAll (h : w.Steady) (host id : String) (names : List String) :
    Keeps w (names.foldl (fun w o => (w.spawnEmission host ⟨id, o⟩).1) w) ∧
      (names.foldl (fun w o => (w.spawnEmission host ⟨id, o⟩).1) w).ledger =
        names.foldl (fun b o => b.spawn (.emitting host ⟨id, o⟩)) w.ledger := by
  induction names generalizing w with
  | nil => exact ⟨.refl h, rfl⟩
  | cons o names ih =>
    have hk := keeps_spawnEmission h host ⟨id, o⟩
    obtain ⟨hrest, hl⟩ := ih hk.steady
    refine ⟨hk.trans hrest, ?_⟩
    rw [List.foldl_cons, List.foldl_cons, hl, ledger_spawnEmission]

/-- A task that has nothing to emit is started. -/
lemma carries_start (h : w.Steady) {task : Task} (hn : task.cancelled = false)
    (he : task.ended = none) (hh : task.holding = none) (hf : ∀ i, task.job.emission? i = none)
    (hw : ∀ k, task.job ≠ .work k) (ho : ∀ host s own, task.job ≠ .output host s (some own)) :
    Carries w (w.spawn task).1 := by
  refine ⟨keeps_spawn h hn he (fun name s hs => by rw [hh] at hs; cases hs)
    (fun i e hi => by rw [hf i] at hi; cases hi) hw ho, ?_⟩
  rw [ledger_spawn]
  refine .single (.start task he ?_ fun name s hs => by rw [hh] at hs; cases hs)
  intro i x hx
  rw [Job.errands, hf i] at hx
  cases hx

lemma use_frame (w : World) (host : String) : ∃ pipelines journal,
    w.use host = { w with pipelines, journal } ∧ ∀ i, (w.use host).engine i = w.engine i := by
  rcases use_cases w host with hw | hw
  · exact ⟨w.pipelines, w.journal, hw, fun i => by rw [hw]⟩
  · refine ⟨_, _, hw, fun i => ?_⟩
    rw [hw]
    exact (pipeline_built w host i).1

lemma subscriberOf_cases (w : World) (callback : String) :
    (∃ c, w.callbacks.get? callback = some c ∧ w.subscriberOf callback = (w, c)) ∨
    w.callbacks.get? callback = none ∧ w.subscriberOf callback =
      ({ w with
        subscribers := w.subscribers ++ [⟨callback, 0⟩]
        callbacks := w.callbacks.insert callback w.subscribers.length }, w.subscribers.length) := by
  unfold subscriberOf
  cases hc : w.callbacks.get? callback with
  | some c => exact .inl ⟨c, rfl, rfl⟩
  | none => exact .inr ⟨rfl, rfl⟩

/-- A subscriber that comes up shows nowhere else. -/
lemma subscriberOf_frame (w : World) (callback : String) : ∃ subscribers callbacks,
    (w.subscriberOf callback).1 = { w with subscribers, callbacks } := by
  rcases subscriberOf_cases w callback with ⟨c, -, heq⟩ | ⟨-, heq⟩ <;> rw [heq] <;> exact ⟨_, _, rfl⟩

lemma flying_register_sub {e : Engine} {n : Node} {s : Slot} {ticket : Nat}
    (hf : (e.register n).flying s = some ticket) : e.flying s = some ticket := by
  rw [Engine.flying_register] at hf
  exact (Option.ite_none_left_eq_some.mp hf).2

/-- A registration without the emissions that it starts. -/
def enlist (w : World) (host : String) (n : Node) : World :=
  let e := w.engine host
  let replaced := e.nodes.contains n.id
  let w := (w.setEngine host (e.register n)).log (.registered host n replaced)
  if replaced then w.ground e n.id else w

lemma enlist_cases (w : World) (host : String) (n : Node) :
    (w.engine host).nodes.contains n.id = true ∧ w.enlist host n =
      ((w.setEngine host ((w.engine host).register n)).log
        (.registered host n ((w.engine host).nodes.contains n.id))).ground (w.engine host) n.id ∨
    w.enlist host n = (w.setEngine host ((w.engine host).register n)).log
      (.registered host n ((w.engine host).nodes.contains n.id)) := by
  by_cases hc : (w.engine host).nodes.contains n.id = true
  · exact .inl ⟨hc, if_pos hc⟩
  · exact .inr (if_neg hc)

lemma register_eq (w : World) (host : String) (n : Node) : w.register host n =
    let subscribed := ((w.engine host).subscriptions.entries n.id).names
    if !(w.engine host).nodes.contains n.id || subscribed.isEmpty then w.enlist host n
    else if (w.enlist host n).runtime then
      subscribed.foldl (fun w o => (w.spawnEmission host ⟨n.id, o⟩).1) (w.enlist host n)
    else (w.enlist host n).log (.postponed host n.id) := rfl

/-- Where a node replaces another one, whatever is subscribed is emitted again, as soon as there is a
runtime. -/
lemma register_cases (w : World) (host : String) (n : Node) :
    ((w.engine host).nodes.contains n.id = false ∨
        ((w.engine host).subscriptions.entries n.id).names = []) ∧
      w.register host n = w.enlist host n ∨
    (w.engine host).nodes.contains n.id = true ∧ (w.enlist host n).runtime = true ∧
      w.register host n = ((w.engine host).subscriptions.entries n.id).names.foldl
        (fun w o => (w.spawnEmission host ⟨n.id, o⟩).1) (w.enlist host n) ∨
    (w.engine host).nodes.contains n.id = true ∧ (w.enlist host n).runtime = false ∧
      w.register host n = (w.enlist host n).log (.postponed host n.id) := by
  rw [register_eq]
  cases hc : (w.engine host).nodes.contains n.id with
  | false => exact .inl ⟨.inl rfl, by simp⟩
  | true =>
    by_cases hn : ((w.engine host).subscriptions.entries n.id).names = []
    · exact .inl ⟨.inr hn, by simp [hn]⟩
    · cases hr : (w.enlist host n).runtime with
      | true => exact .inr (.inl ⟨rfl, rfl, by simp [hn]⟩)
      | false => exact .inr (.inr ⟨rfl, rfl, by simp [hn]⟩)

lemma keeps_enlist (h : w.Steady) (host : String) (n : Node) :
    Keeps w (w.enlist host n) ∧ (w.enlist host n).ledger = w.ledger.enlist host n ∧
      (w.enlist host n).runtime = w.runtime := by
  have hk := keeps_setEngine (e := (w.engine host).register n) h fun _ _ => flying_register_sub
  have hlog := hk.trans (keeps_log hk.steady
    (.registered host n ((w.engine host).nodes.contains n.id)))
  have hl : ((w.setEngine host ((w.engine host).register n)).log
      (.registered host n ((w.engine host).nodes.contains n.id))).ledger =
        w.ledger.enlist host n := by
    rw [ledger_log, ledger_setEngine]
    rfl
  rcases enlist_cases w host n with ⟨-, heq⟩ | heq <;> rw [heq]
  · have hg := fadingUnheld_ground ((w.setEngine host ((w.engine host).register n)).log
      (.registered host n ((w.engine host).nodes.contains n.id))) (w.engine host) n.id
    exact ⟨hlog.trans (keeps_fades hlog.steady hg), (ledger_fades hg.toFading).trans hl, hg.frame.1⟩
  · exact ⟨hlog, hl, rfl⟩

lemma carries_register (h : w.Steady) (host : String) (n : Node) :
    Carries w (w.register host n) := by
  obtain ⟨hk, hl, hr⟩ := keeps_enlist h host n
  have hm := Move.register (b := w.ledger) host n
  unfold Ledger.register at hm
  obtain ⟨hall, hlall⟩ := keeps_spawnAll hk.steady host n.id
    ((w.engine host).subscriptions.entries n.id).names
  rw [hl] at hlall
  have hnodes : w.ledger.engine host = w.engine host := rfl
  have hruntime : w.ledger.runtime = w.runtime := rfl
  rw [hnodes, hruntime, ← hlall, ← hl] at hm
  rcases register_cases w host n with ⟨hskip, heq⟩ | ⟨hc, hruns, heq⟩ | ⟨hc, hruns, heq⟩ <;> rw [heq]
  · refine ⟨hk, .single ?_⟩
    rcases hskip with hskip | hskip
    · simpa only [hskip, Bool.false_and, Bool.false_eq_true, if_false] using hm
    · simpa only [hlall, hskip, List.foldl_nil, ← hl, ite_self] using hm
  · rw [hr] at hruns
    rw [hc, hruns] at hm
    exact ⟨hk.trans hall, .single hm⟩
  · rw [hr] at hruns
    rw [hc, hruns] at hm
    have hnote := carries_log (e := .postponed host n.id) hk.steady rfl
    exact ⟨hk.trans hnote.toKeeps, (Moves.single hm).trans hnote.moves⟩

lemma carries_unregister (h : w.Steady) (host id : String) :
    Carries w (w.unregister host id).1 := by
  unfold unregister
  simp only
  cases hn : (w.engine host).nodes.get? id with
  | none => exact .refl h
  | some n =>
    have hc : (w.engine host).nodes.contains id = true := by
      unfold Table.contains
      rw [hn]
      rfl
    have hk := keeps_setEngine (e := (w.engine host).unregister id) h fun s ticket hf => by
      rw [Engine.flying_unregister _ _ _ hc] at hf
      exact (Option.ite_none_left_eq_some.mp hf).2
    have hlog := hk.trans (keeps_log hk.steady (.unregistered host id))
    have hg := fadingUnheld_ground ((w.setEngine host ((w.engine host).unregister id)).log
      (.unregistered host id)) (w.engine host) id
    have hgone := hlog.trans (keeps_fades hlog.steady hg)
    refine ⟨hgone.trans (carries_rest hgone.steady _ _ _ _).toKeeps, ?_⟩
    show Moves w.ledger (((w.setEngine host ((w.engine host).unregister id)).log
      (.unregistered host id)).ground (w.engine host) id).ledger
    rw [ledger_fades hg.toFading, ledger_log, ledger_setEngine]
    exact .single (.unregister host id hc)

/-- Whatever lies on the shelf lay there before, whoever has borrowed it, or its delivery was taken. -/
def Shelves (w : World) (subscriptions : Table String Subscription) : Prop :=
  ∀ name s, subscriptions.get? name = some s →
    s.delivery.isTaken = true ∨ ∃ s', w.subscriptions.get? name = some s' ∧ s'.returned = s.returned

/-- The shelf may lose what is on it, and deliveries may be taken. -/
lemma carries_shelve (h : w.Steady) {subscriptions : Table String Subscription}
    (hs : w.Shelves subscriptions) : Carries w { w with subscriptions } := by
  refine ⟨⟨⟨h.tasks, h.flights, h.runs, h.callbacks, ?_, h.driven, h.nodup, h.linked, h.flying,
    h.safe⟩, rfl, rfl, rfl, rfl, rfl, fun _ _ _ => .inl, fun hb => hb⟩, ?_⟩
  · intro name s e hm hd
    rcases hs name s hm with ht | ⟨s', hs', heq⟩
    · rw [hd] at ht
      cases ht
    · exact h.shelf name s' e hs' ((congrArg Subscription.delivery heq).trans hd)
  · refine .single (.quiet ⟨rfl, rfl, fun host => .refl _, rfl, rfl, fun name s hm => ?_,
      Nat.le_refl _, Nat.le_refl _, [], rfl, by simp⟩)
    obtain ⟨s₁, hs₁, rfl⟩ := Option.map_eq_some_iff.mp hm
    rcases hs name s₁ hs₁ with ht | ⟨s', hs', heq⟩
    · exact .inr ht
    · exact .inl (Option.map_eq_some_iff.mpr ⟨s', hs', heq⟩)

/-- A subscription whose delivery was taken may be put on the shelf. -/
lemma shelves_insert {name : String} {s : Subscription} (hs : s.delivery.isTaken = true) :
    w.Shelves (w.subscriptions.insert name s) := by
  intro n s' hm
  rw [Table.get?_insert] at hm
  by_cases hn : name = n
  · rw [if_pos hn] at hm
    cases hm
    exact .inl hs
  · rw [if_neg hn] at hm
    exact .inr ⟨s', hm, rfl⟩

lemma shelves_erase (w : World) (name : String) : w.Shelves (w.subscriptions.erase name) := by
  intro n s hm
  rw [Table.get?_erase] at hm
  by_cases hn : name = n
  · rw [if_pos hn] at hm
    cases hm
  · rw [if_neg hn] at hm
    exact .inr ⟨s, hm, rfl⟩

/-- A subscription that is borrowed stays on the shelf, and one that is taken over does not. -/
lemma shelves_handOver {sub : String} {s : Subscription} (hs : w.subscriptions.get? sub = some s)
    (lent : Bool) : w.Shelves (w.handOver sub s lent).subscriptions := by
  cases lent with
  | false => exact shelves_erase w sub
  | true =>
    intro n s' hm
    have hm' : (w.subscriptions.insert sub { s with borrower := some w.tasks.length }).get? n =
        some s' := hm
    rw [Table.get?_insert] at hm'
    by_cases hn : sub = n
    · subst hn
      rw [if_pos rfl] at hm'
      cases hm'
      exact .inr ⟨s, hs, rfl⟩
    · rw [if_neg hn] at hm'
      exact .inr ⟨s', hm', rfl⟩

lemma carries_subscriberOf (h : w.Steady) (callback : String) :
    Carries w (w.subscriberOf callback).1 ∧
      (w.subscriberOf callback).2 < (w.subscriberOf callback).1.subscribers.length := by
  rcases subscriberOf_cases w callback with ⟨c, hc, heq⟩ | ⟨-, heq⟩ <;> rw [heq]
  · exact ⟨.refl h, h.callbacks callback c hc⟩
  · refine ⟨⟨⟨⟨h.tasks, h.flights, h.runs, ?_, h.shelf, h.driven, h.nodup, h.linked, h.flying,
      h.safe⟩, rfl, rfl, rfl, rfl, rfl, fun _ _ _ => .inl, fun hb => hb⟩, ?_⟩, by simp⟩
    · intro name c hm
      simp only [Table.get?_insert] at hm
      rw [List.length_append, List.length_singleton]
      by_cases hn : callback = name
      · rw [if_pos hn] at hm
        cases hm
        exact Nat.lt_succ_self _
      · rw [if_neg hn] at hm
        exact Nat.lt_succ_of_lt (h.callbacks name c hm)
    · exact .single (.quiet ⟨rfl, rfl, fun host => .refl _, rfl, rfl, fun _ _ hm => .inl hm,
        by simp [ledger], Nat.le_refl _, [], rfl, by simp⟩)

@[simp] lemma flying_unsubscribe (e : Engine) (s j : Slot) (c : Nat) :
    (e.unsubscribe s c).flying j = e.flying j := by
  obtain ⟨subscriptions, delivered, he⟩ := e.unsubscribe_frame s c
  rw [he]
  rfl

/-- A subscription is put on the shelf. -/
lemma keeps_putOnShelf (h : w.Steady) (name : String) (s : Subscription)
    (hs : ∀ e, s.delivery = .deferred e → e.progress = .fresh) :
    Keeps w { w with subscriptions := w.subscriptions.insert name s } := by
  refine ⟨⟨h.tasks, h.flights, h.runs, h.callbacks, ?_, h.driven, h.nodup, h.linked, h.flying,
    h.safe⟩, rfl, rfl, rfl, rfl, rfl, fun _ _ _ => .inl, fun hb => hb⟩
  intro n s' e hm hd
  simp only [Table.get?_insert] at hm
  by_cases hn : name = n
  · rw [if_pos hn] at hm
    cases hm
    exact hs e hd
  · rw [if_neg hn] at hm
    exact h.shelf n s' e hm hd

lemma ledger_putOnShelf (w : World) (name : String) (s : Subscription) :
    ({ w with subscriptions := w.subscriptions.insert name s } : World).ledger =
      w.ledger.putOnShelf name s.returned := by
  have hshelf : (fun n => ((w.subscriptions.insert name s).get? n).map Subscription.returned) =
      fun n => if name = n then some s.returned else w.ledger.shelf n := by
    funext n
    rw [Table.get?_insert]
    by_cases hn : name = n
    · rw [if_pos hn, if_pos hn, Option.map_some]
    · rw [if_neg hn, if_neg hn]
      rfl
  show { w.ledger with
    shelf := fun n => ((w.subscriptions.insert name s).get? n).map Subscription.returned } = _
  rw [hshelf]
  rfl

lemma carries_subscribe (h : w.Steady) (host sub : String) (s : Slot) (callback : String) :
    Carries w (w.subscribe host sub s callback) := by
  obtain ⟨hcb, hlt⟩ := carries_subscriberOf h callback
  unfold subscribe
  rcases hof : w.subscriberOf callback with ⟨w₁, c⟩
  rw [hof] at hcb hlt
  simp only
  have hk := keeps_setEngine (i := host) (e := (w₁.engine host).subscribe s c) hcb.steady
    fun _ _ hf => hf
  have h₂ := hk.trans (keeps_log hk.steady (.subscribed host s c sub))
  have hl₂ : ((w₁.setEngine host ((w₁.engine host).subscribe s c)).log
      (.subscribed host s c sub)).ledger = w₁.ledger.enrol host s c sub := by
    rw [ledger_log, ledger_setEngine]
    rfl
  refine hcb.trans ?_
  have hm := Move.subscribe (b := w₁.ledger) host s c sub hlt
  unfold Ledger.subscribe at hm
  cases hr : w₁.runtime with
  | true =>
    have hr' : w₁.ledger.runtime = true := hr
    rw [if_pos hr', ← hl₂, ← ledger_spawnEmission] at hm
    have h₃ := h₂.trans (keeps_spawnEmission h₂.steady host s)
    have h₄ := h₃.trans (keeps_putOnShelf h₃.steady sub
      { host, slot := s, subscriber := c, delivery := .spawned w₁.tasks.length } (by rintro _ ⟨⟩))
    have hlen : w₁.ledger.duties.length = w₁.tasks.length := List.length_map ..
    rw [hlen] at hm
    have hruns : ((w₁.setEngine host ((w₁.engine host).subscribe s c)).log
        (.subscribed host s c sub)).runtime = true := hr
    rw [if_pos hruns]
    refine ⟨h₄, .single ?_⟩
    rw [ledger_putOnShelf]
    exact hm
  | false =>
    have hr' : ¬w₁.ledger.runtime = true := by rw [show w₁.ledger.runtime = false from hr]; simp
    rw [if_neg hr', ← hl₂] at hm
    rw [if_neg (by exact hr')]
    refine ⟨h₂.trans (keeps_putOnShelf h₂.steady sub _ ?_), ?_⟩
    · intro e he
      cases he
      rfl
    · rw [ledger_putOnShelf]
      exact .single hm

lemma carries_withdraw (h : w.Steady) (host : String) (s : Slot) (c : Nat) :
    Carries w (w.withdraw host s c) := by
  have hk := keeps_setEngine (i := host) (e := (w.engine host).unsubscribe s c) h
    fun j ticket hf => by
      rw [flying_unsubscribe] at hf
      exact hf
  refine ⟨hk.trans (keeps_log hk.steady _), .single ?_⟩
  unfold withdraw
  rw [ledger_log, ledger_setEngine]
  exact .unsubscribe host s c

lemma taskNamed?_spec {name : String} {t : Nat} (h : w.taskNamed? name = some t) :
    ∃ task, w.tasks[t]? = some task ∧ task.name = some name ∧ task.ended = none := by
  obtain ⟨hlt, hp, -⟩ := List.findIdx?_eq_some_iff_getElem.mp h
  rw [Bool.and_eq_true, beq_iff_eq, Option.isNone_iff_eq_none] at hp
  exact ⟨_, List.getElem?_eq_getElem hlt, hp.1, hp.2⟩

/-- A named task is marked as cancelled. -/
lemma carries_mark (h : w.Steady) {t : Nat} {task : Task} (ht : w.tasks[t]? = some task)
    (hname : task.name.isSome = true) :
    Carries w { w with tasks := w.tasks.set t { task with cancelled := true } } := by
  have hlt := (List.getElem?_eq_some_iff.mp ht).1
  have hmap : ∀ i : Nat, ((w.tasks.set t { task with cancelled := true })[i]?).map Task.job =
      (w.tasks[i]?).map Task.job := by
    intro i
    by_cases hi : t = i
    · subst hi
      rw [List.getElem?_set_self hlt, ht]
      rfl
    · rw [List.getElem?_set_ne hi]
  have hjob : World.job { w with tasks := w.tasks.set t { task with cancelled := true } } =
      w.job := by
    have hj : ∀ v : World, v.job = ((v.running.bind fun i => (v.tasks[i]?).map Task.job)).getD
        .nothing := by
      intro v
      unfold job
      cases v.running with
      | none => rfl
      | some i =>
        simp only [Option.bind_some]
        cases v.tasks[i]? <;> rfl
    rw [hj, hj]
    simp only [hmap]
  have hem : ∀ v i, World.emission? { w with tasks := w.tasks.set t { task with cancelled := true } }
      v i = w.emission? v i := by
    have hj : ∀ (w : World) v i, w.emission? v i =
        ((w.tasks[v]?).map Task.job).bind fun j => j.emission? i := by
      intro w v i
      unfold emission?
      cases w.tasks[v]? <;> rfl
    intro v i
    rw [hj, hj]
    simp only [hmap]
  have htidy := h.tasks t task ht
  have hsteady : World.Steady { w with tasks := w.tasks.set t { task with cancelled := true } } := by
    refine h.setTask ht ⟨fun _ => hname, htidy.taken, htidy.panicked, htidy.job⟩ (fun hr => ?_)
      (by rw [hjob]; exact h.linked)
      fun own ho => h.safe _ (.inr (.inl ⟨task, List.mem_of_getElem? ht, own, ho, rfl⟩))
    obtain ⟨task', ht', hgoing⟩ := h.runs t hr
    rw [ht] at ht'
    cases ht'
    exact hgoing
  refine ⟨⟨hsteady, rfl, rfl, rfl, ?_, by rw [hjob], fun v i e he => ?_, fun hb => hb⟩, ?_⟩
  · rw [party_eq, party_eq, hjob]
  · rw [hem] at he
    exact .inl he
  · have hl : World.ledger { w with tasks := w.tasks.set t { task with cancelled := true } } =
        w.ledger := by
      have hduty : Task.duty { task with cancelled := true } = task.duty := rfl
      unfold ledger
      simp only [map_set_of_eq ht hduty]
      rfl
    rw [hl]
    exact .refl _

/-- Nobody is cancelled, or else the unfinished task of that name. -/
lemma cancel_cases (w : World) (name : String) :
    w.cancel name = w.replies (.refused .noTask) ∨
    ∃ (t : Nat) (task : Task), w.tasks[t]? = some task ∧ task.name = some name ∧ w.cancel name =
      ({ w with tasks := w.tasks.set t { task with cancelled := true } }.enqueue t).replies
        .nothing := by
  unfold cancel
  cases hn : w.taskNamed? name with
  | none => exact .inl rfl
  | some t =>
    obtain ⟨task, ht, hname, -⟩ := taskNamed?_spec hn
    refine .inr ⟨t, task, ht, hname, ?_⟩
    simp only [modifyTask, ht]

lemma carries_cancel (h : w.Steady) (name : String) : Carries w (w.cancel name).1 := by
  rcases cancel_cases w name with heq | ⟨t, task, ht, hname, heq⟩ <;> rw [heq]
  · exact .refl h
  · have hm := carries_mark h ht (by rw [hname]; rfl)
    exact hm.trans (carries_fades hm.steady (fadingUnheld_enqueue _ t))

/-- Nobody is started under a name that an unfinished task has. -/
lemma start_cases (w : World) (name : String) (j : Job) :
    w.start name j = w.replies (.refused .taskExists) ∨
    w.taskNamed? name = none ∧
      w.start name j = (w.spawn { name := some name, job := j }).1.replies .nothing := by
  unfold start
  cases hn : w.taskNamed? name with
  | some t => exact .inl rfl
  | none => exact .inr ⟨rfl, rfl⟩

lemma carries_startNamed (h : w.Steady) (name : String) {j : Job}
    (hf : ∀ i, j.emission? i = none) (hw : ∀ k, j ≠ .work k)
    (ho : ∀ host s own, j ≠ .output host s (some own)) : Carries w (w.start name j).1 := by
  rcases start_cases w name j with heq | ⟨-, heq⟩ <;> rw [heq]
  · exact .refl h
  · exact carries_start h rfl rfl rfl hf hw ho

/-- What a job comes to that waits for a delivery. -/
lemma deliveryJob_emission? {d : Delivery} {i : Nat} {e : Emission}
    (h : d.job.emission? i = some e) : d = .deferred e := by
  cases d with
  | spawned _ | taken _ => cases h
  | deferred e' =>
    by_cases hi : i = 0
    · rw [Delivery.job, Job.emission?, if_pos hi] at h
      cases h
      rfl
    · rw [Delivery.job, Job.emission?, if_neg hi] at h
      cases h

/-- A task is started that waits for the first delivery of a subscription. -/
lemma carries_backed (h : w.Steady) (task : Task) {name : String} {s : Subscription} {t : Nat}
    (hn : task.cancelled = false) (he : task.ended = none)
    (hh : task.holding = some (name, s.spent t)) (hs : w.subscriptions.get? name = some s)
    (hj : task.job = s.delivery.job) : Carries w (w.spawn task).1 := by
  have hfresh : ∀ i e, task.job.emission? i = some e → e.progress = .fresh := by
    intro i e hi
    rw [hj] at hi
    exact h.shelf name s e hs (deliveryJob_emission? hi)
  have hk : Keeps w (w.spawn task).1 := by
    refine keeps_spawn h hn he ?_ hfresh ?_ ?_
    · intro name' s' hm
      rw [hh] at hm
      cases hm
      exact s.delivery.isTaken_take t
    · intro k hk
      rw [hj] at hk
      cases hd : s.delivery <;> rw [hd] at hk <;> cases hk
    · intro host j own hk
      rw [hj] at hk
      cases hd : s.delivery <;> rw [hd] at hk <;> cases hk
  refine ⟨hk, ?_⟩
  rw [ledger_spawn]
  refine .single (.start task he ?_ ?_)
  · intro i x hx
    obtain ⟨e, hm, rfl⟩ := Option.map_eq_some_iff.mp hx
    show e.progress.phase = .fresh
    rw [hfresh i e hm]
    rfl
  · intro name' s' hm
    rw [hh] at hm
    cases hm
    refine ⟨s.delivery.isTaken_take t, ?_⟩
    have hshelf : w.ledger.shelf name = some s.returned := Option.map_eq_some_iff.mpr ⟨s, hs, rfl⟩
    rw [hj]
    obtain ⟨host, slot, c, delivery, borrower⟩ := s
    cases delivery with
    | spawned _ | deferred _ => exact hshelf
    | taken _ => exact True.intro

/-- Why nobody is started to wait for a subscription, or else the task that is. -/
lemma await_cases (w : World) (name sub : String) (lent : Bool) :
    (∃ why, w.await name sub lent = w.replies (.refused why)) ∨
      ∃ s, w.subscriptions.get? sub = some s ∧ w.lent s = false ∧
        w.taskNamed? name = none ∧ w.await name sub lent =
          ((w.handOver sub s lent).spawn
            { name := some name
              job := s.delivery.job
              holding := some (sub, s.spent w.tasks.length) }).1.replies .nothing := by
  unfold await
  cases hn : w.taskNamed? name with
  | some t => exact .inl ⟨_, rfl⟩
  | none =>
    rw [Option.isSome_none, if_neg Bool.false_ne_true]
    cases hs : w.subscriptions.get? sub with
    | none => exact .inl ⟨_, rfl⟩
    | some s =>
      cases hl : w.lent s with
      | true => exact .inl ⟨.noSubscription, by simp only [hl, if_true]⟩
      | false => exact .inr ⟨s, rfl, hl, rfl, by simp [hl]⟩

lemma carries_await (h : w.Steady) (name sub : String) (lent : Bool) :
    Carries w (w.await name sub lent).1 := by
  rcases w.await_cases name sub lent with ⟨why, heq⟩ | ⟨s, hs, -, -, heq⟩
  · rw [heq]
    exact .refl h
  · rw [heq]
    have hb := carries_backed h
      { name := some name
        job := s.delivery.job
        holding := some (sub, s.spent w.tasks.length) } rfl rfl rfl hs rfl
    exact hb.trans (carries_shelve hb.steady (shelves_handOver hs lent))

lemma resolve_cases (w : World) (choice : ValveChoice) (o : Option Outcome) :
    w.resolve choice o = w.replies (.refused .noValve) ∨
    ∃ i, w.chosen? choice = some i ∧ w.resolve choice o =
      ({ w with valves := w.valves.set i { opened := some o } }.wake
        ((w.valves[i]?).bind Valve.waiter).toList).replies (.number i) := by
  unfold resolve
  cases hc : w.chosen? choice with
  | none => exact .inl rfl
  | some i => exact .inr ⟨i, rfl, rfl⟩

lemma carries_resolve (h : w.Steady) (choice : ValveChoice) (o : Option Outcome) :
    Carries w (w.resolve choice o).1 := by
  rcases resolve_cases w choice o with heq | ⟨i, -, heq⟩ <;> rw [heq]
  · exact .refl h
  · have hr := carries_rest h w.cells (w.valves.set i { opened := some o }) w.handles w.removed
    exact hr.trans (carries_fades hr.steady (fadingUnheld_wake _ _))

/-- What is looked up builds a pipeline at most. -/
lemma looks_perform (w : World) (a : Action) (ha : a.isLookup = true) :
    (w.perform a).1 = w ∨ ∃ host, (w.perform a).1 = w.use host := by
  cases a with
  | getNode host id =>
    refine .inr ⟨host, ?_⟩
    simp only [perform]
    cases ((w.use host).engine host).node id <;> rfl
  | getSchema host slot p =>
    refine .inr ⟨host, ?_⟩
    simp only [perform]
    cases ((w.use host).engine host).outputSchema slot with
    | error f => rfl
    | ok schema =>
      cases p with
      | none => rfl
      | some p =>
        dsimp only
        cases schema.check p <;> rfl
  | cached host slot =>
    refine .inr ⟨host, ?_⟩
    simp only [perform]
    cases ((w.use host).engine host).cached slot <;> rfl
  | initialized host =>
    refine .inl ?_
    simp only [perform]
    cases (w.pipeline host).setup.inContext <;> rfl
  | describe host => exact .inr ⟨host, rfl⟩
  | _ => cases ha

/-- Whatever an action comes to, the world hangs together after it. -/
lemma carries_perform (h : w.Steady) (a : Action) : Carries w (w.perform a).1 := by
  have hu := fun host => carries_use h host
  by_cases ha : a.isLookup = true
  · rcases looks_perform w a ha with heq | ⟨host, heq⟩ <;> rw [heq]
    · exact .refl h
    · exact hu host
  cases a with
  | settle => exact .refl h
  | setCell cell o => exact carries_rest h _ _ _ _
  | register host n handle =>
    have hr := (hu host).trans (carries_register (hu host).steady host n)
    exact hr.trans (carries_rest hr.steady _ _ _ _)
  | unregister host id => exact (hu host).trans (carries_unregister (hu host).steady host id)
  | restore host id =>
    simp only [perform]
    cases w.removed.get? id with
    | none => exact .refl h
    | some n => exact (hu host).trans (carries_register (hu host).steady host n)
  | reregister host id =>
    simp only [perform]
    cases ((w.use host).engine host).node id with
    | error f => exact hu host
    | ok n => exact (hu host).trans (carries_register (hu host).steady host n)
  | getNode _ _ | getSchema _ _ _ | cached _ _ | initialized _ | describe _ => exact absurd rfl ha
  | compute host name slot =>
    exact (hu host).trans (carries_startNamed (hu host).steady name (fun _ => rfl)
      (by rintro _ ⟨⟩) (by rintro _ _ _ ⟨⟩))
  | output host name slot =>
    exact (hu host).trans (carries_startNamed (hu host).steady name (fun _ => rfl)
      (by rintro _ ⟨⟩) (by rintro _ _ _ ⟨⟩))
  | invalidate host name node keys =>
    exact (hu host).trans (carries_startNamed (hu host).steady name (fun _ => rfl)
      (by rintro _ ⟨⟩) (by rintro _ _ _ ⟨⟩))
  | invalidateBy host name handle keys =>
    simp only [perform]
    cases w.handles.get? handle with
    | none => exact .refl h
    | some found =>
      exact (hu host).trans (carries_startNamed (hu host).steady name (fun _ => rfl)
        (by rintro _ ⟨⟩) (by rintro _ _ _ ⟨⟩))
  | subscribe host sub slot callback =>
    exact (hu host).trans (carries_subscribe (hu host).steady host sub slot callback)
  | unsubscribe host slot callback =>
    obtain ⟨hcb, -⟩ := carries_subscriberOf (hu host).steady callback
    exact ((hu host).trans hcb).trans (carries_withdraw hcb.steady host slot _)
  | unsubscribeBy sub =>
    simp only [perform]
    cases w.subscriptions.get? sub with
    | none => exact .refl h
    | some s => exact carries_withdraw h s.host s.slot s.subscriber
  | dropSubscription sub => exact carries_shelve h (shelves_erase w sub)
  | dropCallback callback =>
    refine ⟨⟨⟨h.tasks, h.flights, h.runs, ?_, h.shelf, h.driven, h.nodup, h.linked, h.flying,
      h.safe⟩, rfl, rfl, rfl, rfl, rfl, fun _ _ _ => .inl, fun hb => hb⟩, .refl _⟩
    intro name c hm
    simp only [perform, replies, Table.get?_erase] at hm
    exact h.callbacks name c (Option.ite_none_left_eq_some.mp hm).2
  | await name sub lent => exact carries_await h name sub lent
  | resolve choice o => exact carries_resolve h choice o
  | cancel name => exact carries_cancel h name
  | panic text => exact .refl h
  | unknown name => exact .refl h

end World

end Dataflow
