import Dataflow.Proofs.Bookkeeping
import Dataflow.World.Works

/-!
# From one poised world to the next

`Goes w w'` says that `w'` is poised and that the ledger of `w` moves to that of `w'`. Every step of
a world is shown to be of that kind.
-/

namespace Dataflow

/-- Whether the work is still to begin. -/
def Stage.isFresh : Stage → Bool
  | .fresh => true
  | _ => false

namespace World

open Ledger (Move Moves)

/-- The step leads to a poised world, and its ledger moves along. -/
structure Goes (w w' : World) : Prop where
  poised : w'.Poised
  moves : Moves w.ledger w'.ledger

variable {w w' : World}

lemma Steady.poised (h : w.Steady) {f : Focus} (ha : w.Aimed f) : (w.aim f).Poised := by
  refine ⟨h.aim f, ?_⟩
  cases f with
  | finish how =>
    obtain ⟨hs, hd, he⟩ := ha
    exact ⟨hs, hd, he.cancelled, he.panicked, he.finished, he.followed⟩
  | _ => exact ha

/-- What does not bear on the rest of the world may change at will. -/
lemma Steady.rest (h : w.Steady) {runtime : Bool} {cells : Table String Outcome}
    {scripts : Table String (List (List Action))} {valves : List Valve} {queue : List Nat}
    {rewoken : Bool} {deliveries : Nat} {focus : Focus} {handles : Table String (String × String)}
    {removed : Table String Node} {nextResult : Nat} :
    { w with
      runtime, cells, scripts, valves, queue, rewoken, deliveries, focus, handles, removed
      nextResult }.Steady :=
  ⟨h.tasks, h.flights, h.runs, h.callbacks, h.shelf, h.driven, h.nodup, h.linked, h.flying, h.safe⟩

lemma moves_log {e : Event} (he : e.isNote = true) : Moves w.ledger (w.log e).ledger :=
  .single (.quiet (Ledger.quiet_log he))

lemma moves_fades (h : Fading w w') : Moves w.ledger w'.ledger := by
  rw [ledger_fades h]
  exact .refl _

/-- The innermost work, if it has not begun, is that of a flight which has just taken off. -/
def Begins (w : World) : Prop :=
  ∀ k ticket, w.party = .work k → k.stage = .fresh → w.ticket? = some ticket →
    ∃ past, w.journal = .takenOff k.host k.slot ticket :: past

/-- Every flight that is there has begun. -/
def AllBegun (w : World) : Prop := ∀ f ∈ w.flights, f.work.stage.isFresh = false

lemma AllBegun.fades (h : w.AllBegun) (hk : Fading w w') : w'.AllBegun := by
  intro f' hm
  obtain ⟨i, hi⟩ := List.mem_iff_getElem?.mp hm
  obtain ⟨f, hf, hfade⟩ := hk.flight hi
  rcases hfade.work.2.2.2 with hs | hs
  · rw [hs]
    exact h f (List.mem_of_getElem? hf)
  · rw [hs]
    rfl

lemma party_fades (h : w.Steady) (hk : Fading w w') : w'.party = w.party := by
  have hj : w'.job.party = w.job.party := by
    rw [← Job.party_bare, job_fades hk, Job.party_bare]
  rw [party_eq, party_eq, hk.driving]
  cases hd : w.driving with
  | nil => exact hj
  | cons ticket outer =>
    obtain ⟨f, f', hf, hf', hw, -⟩ := h.driven_fades hk (show ticket ∈ w.driving by simp [hd])
    simp only [partyAt, hf, hf', hw]

lemma silent_fades (hk : Fading w w') (h : w.Silent) : w'.Silent := by
  intro t i e he
  rw [emission?_fades hk] at he
  exact h t i e he

lemma Steady.sits (h : w.Steady) : w.party.Sits w.flights := by
  rw [party_eq]
  cases hd : w.driving with
  | cons ticket outer =>
    obtain ⟨f, hf, -⟩ := h.driven ticket (by simp [hd])
    simp only [partyAt, hf]
    exact ⟨(h.flights ticket f hf).sound,
      fun own ho => h.safe _ (.inr (.inr ⟨f, List.mem_of_getElem? hf, own, ho, rfl⟩))⟩
  | nil =>
    show w.job.party.Sits w.flights
    unfold job
    cases hr : w.running with
    | none => exact True.intro
    | some t =>
      obtain ⟨task, ht, -⟩ := h.runs t hr
      simp only [Option.bind_some, ht]
      have htidy := (h.tasks t task ht).job
      have hshare : ∀ own ∈ task.job.shares, Alive w.flights own.ticket := fun own ho =>
        h.safe _ (.inr (.inl ⟨task, List.mem_of_getElem? ht, own, ho, rfl⟩))
      cases hp : task.job.party with
      | nobody => exact True.intro
      | work k =>
        have hj := Job.eq_of_party_work hp
        exact ⟨htidy.sound k hj,
          fun own ho => hshare own (Job.mem_shares.mpr (.inr (.inl ⟨k, hj, ho⟩)))⟩
      | output host s own =>
        have hj := Job.eq_of_party_output hp
        rintro h' rfl
        exact ⟨hshare h' (Job.mem_shares.mpr (.inl ⟨host, s, hj⟩)), htidy.output host s h' hj⟩
      | emission e =>
        have he := Job.emission?_of_party hp
        intro own ho
        exact ⟨hshare own (Job.mem_shares.mpr (.inr (.inr ⟨_, e, he, ho⟩))),
          htidy.emission _ e own he ho⟩

/-- An emission that shows in the ledger as before. -/
lemma ledger_setParty_same (h : w.Steady) {p : Party} (hp : p.Succeeds w.party)
    (he : ∀ e, p = .emission e → ∃ e', w.party = .emission e' ∧ e.errand = e'.errand) :
    (w.setParty p).ledger = w.ledger := by
  cases p with
  | emission e =>
    obtain ⟨e', he', heq⟩ := he e rfl
    obtain ⟨t, hr, hl⟩ := ledger_setEmission h hp
    obtain ⟨-, t', hr', hm⟩ := emission?_of_party h he'
    rw [hr] at hr'
    cases hr'
    have hx : w.ledger.errand? t w.job.cursor = some e.errand := by
      rw [errand?_ledger, hm, Option.map_some, heq]
    have hset : (w.setParty (.emission e)).ledger = _ := hl
    rw [hset, Ledger.setErrand_self hx]
  | _ => exact ledger_setParty h hp (by rintro _ ⟨⟩)

end World

end Dataflow
