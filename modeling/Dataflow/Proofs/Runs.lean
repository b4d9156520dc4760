import Dataflow.Proofs.FlightStarts
import Dataflow.Proofs.Sound
import Dataflow.Scene

/-!
# Runs

Whatever is reachable from the opening of a scene is poised, and its ledger is sound. Running a world
and playing a scene stay within what is reachable.
-/

namespace Dataflow

/-- Everything that is always true of a world and of its ledger. -/
structure World.Sane (w : World) : Prop where
  poised : w.Poised
  sound : w.ledger.Sound
  freshDepart : w.FreshDepart

namespace World

open Ledger (Moves)

variable {start w w' w'' : World}

lemma Sane.goes (h : w.Sane) (hg : Goes w w') (hb : w'.FreshDepart) : w'.Sane :=
  ⟨hg.poised, h.sound.moves hg.moves, hb⟩

lemma goes_dequeue (h : w.Poised) (queue : List Nat) : Goes w { w with queue } := by
  refine ⟨⟨h.steady.rest, ?_⟩, .refl _⟩
  have ha := h.aimed
  show ({ w with queue } : World).Aimed w.focus
  cases hf : w.focus with
  | finish how =>
    rw [hf] at ha
    obtain ⟨hs, hd, he⟩ := ha
    exact ⟨hs, hd, he.cancelled, he.panicked, he.finished, he.followed⟩
  | _ =>
    rw [hf] at ha
    exact ha

lemma goes_perform (h : w.Poised) (hf : w.focus = .idle) {a : Action} {r : Reply}
    (ha : w.perform a = (w', .reply r)) : Goes w w' := by
  have hc := carries_perform h.steady a
  rw [ha] at hc
  refine ⟨⟨hc.steady, ?_⟩, hc.moves⟩
  have haim := h.aimed
  rw [hf] at haim
  rw [hc.focus, hf]
  refine ⟨fun t i e he => ?_, hc.driving.trans haim.2.1, hc.running.trans haim.2.2⟩
  rcases hc.emissions t i e he with he | hfresh
  · exact haim.1 t i e he
  · rw [hfresh]
    rfl

/-- Whoever is still to be called is a subscriber. -/
lemma Sane.calling (h : w.Sane) {e : Emission} {pass : Pass} {r : Result} {rest : List Nat}
    (hp : w.party = .emission e) (hcall : e.progress = .calling pass r rest) :
    ∀ c ∈ rest, c < w.subscribers.length := by
  intro c hc
  obtain ⟨-, t, hr, he⟩ := emission?_of_party h.poised.steady hp
  have hx := errand?_of_emission? he
  refine h.sound.known.calling t w.job.cursor e.errand pass r rest hx ?_ c hc
  show e.progress.phase = _
  rw [hcall]
  rfl

lemma Sane.step (h : w.Sane) : Goes w w.step :=
  goes_step h.poised (fun _ _ _ _ hp hcall => h.calling hp hcall) h.freshDepart.begins

/-- Everything reachable from a sane world is sane, and its ledger has moved along. -/
theorem Reachable.goes (h : Reachable start w) (hs : start.Sane) :
    w.Sane ∧ Moves start.ledger w.ledger := by
  induction h with
  | refl => exact ⟨hs, .refl _⟩
  | perform a w' reply _ hf ha ih =>
    have hg := goes_perform ih.1.poised hf ha
    have hb := (carries_perform ih.1.poised.steady a).begun (ih.1.freshDepart.of_idle hf)
    rw [ha] at hb
    exact ⟨ih.1.goes hg hb.freshDepart, ih.2.trans hg.moves⟩
  | @poll w t _ hf ih =>
    have hq := goes_dequeue ih.1.poised (w.queue.erase t)
    have hg := goes_poll hq.poised hf t
    have hb : ({ w with queue := w.queue.erase t } : World).AllBegun := ih.1.freshDepart.of_idle hf
    exact ⟨(ih.1.goes hq hb.freshDepart).goes hg (hb.poll t).freshDepart,
      (ih.2.trans hq.moves).trans hg.moves⟩
  | step _ ih =>
    have hg := ih.1.step
    exact ⟨ih.1.goes hg (freshDepart_step ih.1.poised.steady ih.1.freshDepart), ih.2.trans hg.moves⟩

lemma idle_of_settled (h : w.settled = true) : w.focus = .idle := by
  unfold settled at h
  cases hf : w.focus with
  | idle => rfl
  | _ =>
    rw [hf] at h
    cases h

lemma Sane.owed_none (h : w.Sane) (hs : w.Silent) (host : String) (c : Nat) :
    Journal.owed host c w.journal = none :=
  h.sound.receipts.owed_none (silent_ledger hs) host c

lemma Sane.silent (h : w.Sane) (hf : w.focus = .idle) : w.Silent := by
  have ha := h.poised.aimed
  rw [hf] at ha
  exact ha.1

theorem Reachable.trans (h : Reachable start w) (h' : Reachable w w') : Reachable start w' := by
  induction h' with
  | refl => exact h
  | perform a w' reply _ hf ha ih => exact .perform a w' reply ih hf ha
  | poll t _ hf ih => exact .poll t ih hf
  | step _ ih => exact .step ih

lemma Reachable.advance (h : Reachable start w) : Reachable start w.advance := by
  unfold World.advance
  cases hf : w.focus with
  | idle =>
    cases hq : w.queue with
    | nil => exact h
    | cons t rest =>
      have hp := Reachable.poll t h hf
      rw [hq, hf, List.erase_cons_head] at hp
      exact hp
  | _ => exact .step h

lemma Reachable.run (h : Reachable start w) (fuel : Nat) : Reachable start (w.run fuel) := by
  induction fuel generalizing w with
  | zero => exact h
  | succ fuel ih =>
    unfold World.run
    by_cases hs : w.settled = true
    · rw [if_pos hs]
      exact h
    · rw [if_neg hs]
      exact ih h.advance

/-- A node whose outputs are what comes with the opening of a valve. -/
def heldNode (id : String) (outputs : List String) : Node where
  id := id
  name := id
  outputs := NameMap.ofList (outputs.map fun o => (o, ⟨fun _ => .accepted⟩))
  produce o := .hold ⟨id, id, o⟩ fun
    | some (.value p) => .finish (.ok p)
    | _ => .crash "no value"

/-- The world after these actions, each with so many steps to run afterwards. There is none when an
action cannot be performed. -/
def rehearse (w : World) : List (Action × Nat) → Option World
  | [] => some w
  | (a, fuel) :: rest =>
    match w.focus, w.perform a with
    | .idle, (w', .reply _) => (w'.run fuel).rehearse rest
    | _, _ => none

lemma reachable_rehearse {cues : List (Action × Nat)} (h : Reachable start w)
    (hr : w.rehearse cues = some w') : Reachable start w' := by
  induction cues generalizing w with
  | nil =>
    cases hr
    exact h
  | cons cue cues ih =>
    obtain ⟨a, fuel⟩ := cue
    unfold rehearse at hr
    cases hf : w.focus with
    | idle =>
      rcases ha : w.perform a with ⟨w₁, reply | text⟩
      · rw [hf, ha] at hr
        exact ih ((Reachable.perform a w₁ reply h hf ha).run fuel) hr
      · rw [hf, ha] at hr
        cases hr
    | _ =>
      rw [hf] at hr
      cases hr

end World

def Policy.isIdentity : Policy → Bool
  | .identity => true
  | _ => false

lemma Policy.eq_of_isIdentity {p : Policy} (h : p.isIdentity = true) : p = .identity := by
  cases p with
  | identity => rfl
  | _ => cases h

def Job.isEmitting : Job → Bool
  | .emit _ | .fan _ => true
  | _ => false

def Focus.isMade : Focus → Bool
  | .made _ => true
  | _ => false

namespace Event

/-- Nothing panics, is removed or broken off, and subscribers come to this slot only. -/
def isCalmOn (s : Slot) : Event → Bool
  | .panicked _ _ | .unsubscribed _ _ _ | .unregistered _ _ => false
  | .ended _ _ (.panicked _) | .ended _ _ .cancelled => false
  | .subscribed _ j _ _ => j == s
  | _ => true

def isRegistration (host id : String) (replaced : Bool) : Event → Bool
  | .registered h n r => h == host && n.id == id && r == replaced
  | _ => false

lemma isRegistration_iff {host id : String} {replaced : Bool} {e : Event} :
    e.isRegistration host id replaced = true ↔ ∃ n, e = .registered host n replaced ∧ n.id = id := by
  cases e with
  | registered h n r =>
    simp only [isRegistration, Bool.and_eq_true, beq_iff_eq]
    constructor
    · rintro ⟨⟨rfl, hid⟩, rfl⟩
      exact ⟨n, rfl, hid⟩
    · rintro ⟨n', he, hid⟩
      cases he
      exact ⟨⟨rfl, hid⟩, rfl⟩
  | _ => simp [isRegistration]

def isEnd (t : Nat) (name : Option String) : Event → Bool
  | .ended u n .ok => u == t && n == name
  | _ => false

lemma eq_of_isEnd {t : Nat} {name : Option String} {e : Event} (h : e.isEnd t name = true) :
    e = .ended t name .ok := by
  cases e with
  | ended u n how =>
    cases how with
    | ok =>
      unfold isEnd at h
      rw [Bool.and_eq_true] at h
      rw [eq_of_beq h.1, eq_of_beq h.2]
    | _ => cases h
  | _ => cases h

def isInvalidation (t : Nat) (host node : String) (keys : List String) : Event → Bool
  | .invalidating u h n ks => u == t && h == host && n == node && ks == keys
  | _ => false

lemma eq_of_isInvalidation {t : Nat} {host node : String} {keys : List String} {e : Event}
    (h : e.isInvalidation t host node keys = true) : e = .invalidating t host node keys := by
  cases e with
  | invalidating u i n ks =>
    simp only [isInvalidation, Bool.and_eq_true, beq_iff_eq] at h
    obtain ⟨⟨⟨rfl, rfl⟩, rfl⟩, rfl⟩ := h
    rfl
  | _ => cases h

end Event

namespace Scene

lemma lookup_setups (l : List (String × Setup)) (host : String) :
    Table.lookup (l.map fun p => (p.1, ({ setup := p.2 } : Pipeline))) host =
      (Table.lookup l host).map fun setup => { setup } := by
  induction l with
  | nil => rfl
  | cons p l ih =>
    rw [List.map_cons, Table.lookup, Table.lookup, ih]
    by_cases hh : p.1 = host
    · rw [if_pos hh, if_pos hh]
      rfl
    · rw [if_neg hh, if_neg hh]

lemma engine_opening (s : Scene) (host : String) : s.opening.engine host = {} := by
  have hl := lookup_setups s.setups.entries host
  show ((Table.lookup (s.setups.entries.map fun p => (p.1, ({ setup := p.2 } : Pipeline))) host).getD
    {}).engine = {}
  rw [hl]
  cases Table.lookup s.setups.entries host <;> rfl

section Opening

variable (s : Scene)

lemma mirrors_opening : s.opening.ledger.Mirrors := by
  have he : ∀ host, s.opening.ledger.engine host = {} := s.engine_opening
  constructor
  case nodes =>
    intro host id
    rw [he]
    rfl
  case cached =>
    intro host j
    rw [he]
    rfl
  case flying =>
    intro host j
    rw [he]
    rfl
  case roll =>
    intro host j c
    rw [he]
    constructor
    · intro hc
      cases hc
    · intro hc
      cases hc

lemma logged_opening : s.opening.ledger.Logged := by
  refine ⟨rfl, ?_, ?_, ?_, ?_⟩
  · intro ticket d hd
    cases hd
  · intro ticket d r hd
    cases hd
  · intro host j ticket r kept hm
    cases hm
  · intro host j ticket hf
    have he : s.opening.ledger.engine host = {} := s.engine_opening host
    rw [he] at hf
    cases hf

lemma known_opening : s.opening.ledger.Known := by
  refine ⟨?_, ?_⟩
  · intro host j c hc
    have he : s.opening.ledger.engine host = {} := s.engine_opening host
    rw [he] at hc
    cases hc
  · intro t i x pass r rest hx
    cases hx

lemma tallied_opening : s.opening.ledger.Tallied := by
  intro host c slots _
  have he : s.opening.ledger.engine host = {} := s.engine_opening host
  have hz : ∀ l : List Slot, (l.flatMap ({} : Engine).subscribers).count c = 0 := by
    intro l
    induction l with
    | nil => rfl
    | cons j l ih =>
      rw [List.flatMap_cons]
      exact ih
  rw [he, hz]
  exact Nat.zero_le _

lemma receipts_opening : s.opening.ledger.Receipts := by
  refine ⟨?_, ?_, ?_, ?_⟩
  · intro t i x _ _ _ hx
    cases hx
  · intro t i x pass r rest hx
    cases hx
  · intro host c j r
    constructor
    · intro ho
      cases ho
    · rintro ⟨t, i, x, pass, rest, hx, -⟩
      cases hx
  · intro host c r hl
    have he : s.opening.ledger.engine host = {} := s.engine_opening host
    rw [he] at hl
    cases hl

lemma watchful_opening : s.opening.ledger.Watchful := by
  refine ⟨?_, ?_, ?_, ?_, ?_⟩
  · intro host j pass hm
    cases hm
  · intro t i x pass hx
    cases hx
  · intro t i x t' i' x' pass hx
    cases hx
  · intro t i x pass hx
    cases hx
  · intro t i x pass later earlier hx
    cases hx

lemma accounted_opening : s.opening.ledger.Accounted := by
  refine ⟨rfl, ?_, ?_, ?_, ?_⟩
  · intro t d hd
    cases hd
  · intro t task hm
    cases hm
  · intro t d how hd
    cases hd
  · intro t name how hm
    cases hm

/-- Before the first turn nothing has happened. -/
lemma journal_opening {later : List Event} {e : Event} {earlier : List Event} :
    s.opening.ledger.journal ≠ later ++ e :: earlier := by
  intro hsplit
  exact List.append_ne_nil_of_right_ne_nil later (List.cons_ne_nil e earlier) hsplit.symm

lemma serving_opening : s.opening.ledger.Serving := by
  intro later e earlier t i host j hsplit
  exact absurd hsplit s.journal_opening

lemma prompted_opening : s.opening.ledger.Prompted := by
  intro _ later e earlier host j c hsplit
  exact absurd hsplit s.journal_opening

lemma sound_opening : s.opening.ledger.Sound where
  mirrors := s.mirrors_opening
  logged := s.logged_opening
  known := s.known_opening
  tallied := s.tallied_opening
  receipts := s.receipts_opening
  recorded := by
    intro host c r hr
    cases hr
  timely := by
    intro t i x hx
    cases hx
  watchful := s.watchful_opening
  accounted := s.accounted_opening
  serving := s.serving_opening
  prompted := s.prompted_opening
  shelved := by
    intro name sub hs
    cases hs
  lawful := True.intro

end Opening

lemma steady_opening (s : Scene) : s.opening.Steady := by
  constructor
  case tasks =>
    intro t task ht
    cases ht
  case flights =>
    intro ticket f hf
    cases hf
  case runs =>
    intro t hr
    cases hr
  case callbacks =>
    intro name c hc
    cases hc
  case shelf =>
    intro name sub e hs
    cases hs
  case driven =>
    intro ticket hm
    cases hm
  case nodup => exact List.nodup_nil
  case linked => exact True.intro
  case flying =>
    intro host j ticket hf
    rw [engine_opening] at hf
    cases hf
  case safe =>
    intro ticket hh
    rcases hh with ⟨f, hf, -⟩ | ⟨task, ht, -⟩ | ⟨f, hf, -⟩
    · cases hf
    · cases ht
    · cases hf

theorem sane_opening (s : Scene) : s.opening.Sane :=
  ⟨⟨s.steady_opening, fun t i e he => (by cases he), rfl, rfl⟩, s.sound_opening,
    fun ticket f hf => (by cases hf)⟩

/-- What is reachable from the opening of a scene is sane. -/
theorem sane_of_reachable {s : Scene} {w : World} (h : World.Reachable s.opening w) : w.Sane :=
  (h.goes s.sane_opening).1

end Scene

end Dataflow
