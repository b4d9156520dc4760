import Dataflow.Proofs.EmissionCases
import Dataflow.Proofs.Steady

/-!
# Turns of the innermost party

Most steps put something else in the place of the innermost party: a work at another stage, an
emission that has come further, an output that waits. Nothing but that party is touched.
-/

namespace Dataflow

/-- The party waits for a flight that is there. -/
def Party.Sits (flights : List Flight) : Party → Prop
  | .work k => k.Sound ∧ ∀ own, k.share? = some own → Alive flights own.ticket
  | .emission e => ∀ own, e.share? = some own →
      Alive flights own.ticket ∧ Serves flights own.ticket e.host e.slot
  | .output host s h => ∀ own, h = some own →
      Alive flights own.ticket ∧ Serves flights own.ticket host s
  | .nobody => True

namespace Fan

variable {f : Fan}

lemma branch?_lt {i : Nat} {e : Emission} (h : f.branch? i = some e) : i < f.branches.length := by
  obtain ⟨b, hb, -⟩ := Option.bind_eq_some_iff.mp h
  exact (List.getElem?_eq_some_iff.mp hb).1

lemma current?_setCurrent (h : f.current?.isSome = true) (b : Option Emission) :
    (f.setCurrent b).current? = b := by
  obtain ⟨e, he⟩ := Option.isSome_iff_exists.mp h
  show ((f.branches.set f.cursor b)[f.cursor]?).bind id = b
  rw [List.getElem?_set_self (branch?_lt he)]
  rfl

end Fan

namespace Job

lemma party_fan (f : Fan) :
    (∃ e, f.current? = some e ∧ (Job.fan f).party = .emission e) ∨ (Job.fan f).party = .nobody := by
  cases he : f.current? with
  | some e => exact .inl ⟨e, rfl, by simp only [party, he]⟩
  | none => exact .inr (by simp only [party, he])

/-- A fan goes on with its current branch only. -/
lemma current_of_succeeds {f : Fan} {p : Party} (h : p.Succeeds (Job.fan f).party) :
    ∃ e e', p = .emission e ∧ f.current? = some e' := by
  rcases party_fan f with ⟨e', he, hp⟩ | hp <;> rw [hp] at h
  · cases p with
    | emission e => exact ⟨e, e', rfl, he⟩
    | _ => exact h.elim
  · cases p <;> exact h.elim

lemma party_setParty {j : Job} {p : Party} (h : p.Succeeds j.party) :
    (j.setParty p).party = p := by
  cases p with
  | work k => rfl
  | output host s h => rfl
  | nobody => exact h.elim
  | emission e =>
    cases j with
    | fan f =>
      obtain ⟨-, e', -, he⟩ := current_of_succeeds h
      simp only [setParty, party, Fan.current?_setCurrent (Option.isSome_of_eq_some he)]
    | _ => rfl

lemma emission?_setParty {j : Job} {p : Party} (h : p.Succeeds j.party) (i : Nat) :
    (j.setParty p).emission? i =
      match p with
      | .emission e => if i = j.cursor then some e else j.emission? i
      | _ => j.emission? i := by
  cases p with
  | work k =>
    cases j with
    | fan f =>
      obtain ⟨e, e', hp, -⟩ := current_of_succeeds h
      cases hp
    | emit e => exact h.elim
    | _ => rfl
  | output host s own =>
    cases j with
    | fan f =>
      obtain ⟨e, e', hp, -⟩ := current_of_succeeds h
      cases hp
    | emit e => exact h.elim
    | _ => rfl
  | nobody => exact h.elim
  | emission e =>
    cases j with
    | fan f =>
      obtain ⟨-, e', -, he⟩ := current_of_succeeds h
      have hlt := Fan.branch?_lt he
      by_cases hi : i = f.cursor
      · subst hi
        simp [setParty, emission?, cursor, Fan.branch?, Fan.setCurrent, hlt]
      · simp [setParty, emission?, cursor, Fan.branch?, Fan.setCurrent, hi, Ne.symm hi]
    | emit e' =>
      by_cases hi : i = 0 <;> simp [setParty, emission?, cursor, hi]
    | _ => exact h.elim

lemma eq_of_party_work {j : Job} {k : Work} (h : j.party = .work k) : j = .work k := by
  cases j with
  | fan f =>
    rcases party_fan f with ⟨e, -, hp⟩ | hp <;> cases hp.symm.trans h
  | work k' =>
    cases h
    rfl
  | _ => cases h

lemma eq_of_party_output {j : Job} {host : String} {s : Slot} {own : Option Handle}
    (h : j.party = .output host s own) : j = .output host s own := by
  cases j with
  | fan f =>
    rcases party_fan f with ⟨e, -, hp⟩ | hp <;> cases hp.symm.trans h
  | output host' s' own' =>
    cases h
    rfl
  | _ => cases h

lemma party_of_emission? {j : Job} {e : Emission} (h : j.emission? j.cursor = some e) :
    j.party = .emission e := by
  cases j with
  | emit e' =>
    cases h
    rfl
  | fan f =>
    have hc : f.current? = some e := h
    simp only [party, hc]
  | _ => cases h

lemma cursor_setParty {j : Job} {p : Party} (h : p.Succeeds j.party) :
    (j.setParty p).cursor = j.cursor := by
  cases p with
  | nobody => exact h.elim
  | emission e => cases j <;> rfl
  | _ =>
    cases j with
    | fan f =>
      obtain ⟨e, e', hp, -⟩ := current_of_succeeds h
      cases hp
    | _ => rfl

lemma follows_setParty {j : Job} {p : Party} (h : p.Succeeds j.party) :
    (j.setParty p).follows = j.follows := by
  cases p with
  | nobody => exact h.elim
  | _ =>
    cases j with
    | follow t => exact h.elim
    | _ => rfl

lemma emission?_clear {j : Job} {e : Emission} (h : j.party = .emission e) (i : Nat) :
    j.clear.emission? i = if j.cursor = i then none else j.emission? i := by
  cases j with
  | emit e' =>
    by_cases hi : i = 0
    · subst hi
      rfl
    · simp [clear, emission?, hi]
  | fan f =>
    by_cases hi : f.cursor = i
    · subst hi
      by_cases hlt : f.cursor < f.branches.length <;>
        simp [clear, emission?, Fan.branch?, Fan.setCurrent, cursor, hlt]
    · simp [clear, emission?, Fan.branch?, Fan.setCurrent, cursor, hi]
  | _ => cases h

lemma follows_clear {j : Job} {e : Emission} (h : j.party = .emission e) :
    j.clear.follows = j.follows := by
  cases j with
  | emit e' => rfl
  | fan f => rfl
  | _ => cases h

lemma mem_shares {j : Job} {own : Handle} : own ∈ j.shares ↔
    (∃ host s, j = .output host s (some own)) ∨ (∃ k, j = .work k ∧ k.share? = some own) ∨
      ∃ i e, j.emission? i = some e ∧ e.share? = some own := by
  have hem : own ∈ j.emissions.filterMap Emission.share? ↔
      ∃ i e, j.emission? i = some e ∧ e.share? = some own := by
    rw [List.mem_filterMap]
    constructor
    · rintro ⟨e, he, hs⟩
      obtain ⟨i, hi⟩ := mem_emissions.mp he
      exact ⟨i, e, hi, hs⟩
    · rintro ⟨i, e, hi, hs⟩
      exact ⟨e, mem_emissions.mpr ⟨i, hi⟩, hs⟩
  cases j with
  | output host s h => simp [shares, emission?, Option.mem_toList]
  | work k => simp [shares, emission?, Option.mem_toList]
  | _ => simpa [shares] using hem

lemma mem_shares_setParty {j : Job} {p : Party} (h : p.Succeeds j.party) {own : Handle}
    (ho : own ∈ (j.setParty p).shares) : p.share? = some own ∨ own ∈ j.shares := by
  rcases mem_shares.mp ho with ⟨host, s, hj⟩ | ⟨k, hj, hs⟩ | ⟨i, e, hi, hs⟩
  · have hp := party_setParty h
    rw [hj] at hp
    exact .inl (by rw [← hp]; rfl)
  · have hp := party_setParty h
    rw [hj] at hp
    exact .inl (by rw [← hp]; exact hs)
  · rw [emission?_setParty h] at hi
    cases p with
    | emission e' =>
      by_cases hc : i = j.cursor
      · simp only [if_pos hc] at hi
        cases hi
        exact .inl hs
      · simp only [if_neg hc] at hi
        exact .inr (mem_shares.mpr (.inr (.inr ⟨i, e, hi, hs⟩)))
    | _ => exact .inr (mem_shares.mpr (.inr (.inr ⟨i, e, hi, hs⟩)))

lemma tidy_clear {flights : List Flight} {j : Job} (hj : j.Tidy flights) {e : Emission}
    (h : j.party = .emission e) : j.clear.Tidy flights where
  sound := by
    intro k hk
    cases j <;> cases hk
  output := by
    intro host s own ho
    cases j <;> cases ho
  emission := by
    intro i e' own hi ho
    rw [emission?_clear h] at hi
    exact hj.emission i e' own (Option.ite_none_left_eq_some.mp hi).2 ho

lemma mem_shares_clear {j : Job} {e : Emission} (h : j.party = .emission e) {own : Handle}
    (ho : own ∈ j.clear.shares) : own ∈ j.shares := by
  rcases mem_shares.mp ho with ⟨host, s, hj⟩ | ⟨k, hj, hs⟩ | ⟨i, e', hi, hs⟩
  · cases j <;> cases hj
  · cases j <;> cases hj
  · rw [emission?_clear h] at hi
    have hi' := (Option.ite_none_left_eq_some.mp hi).2
    exact mem_shares.mpr (.inr (.inr ⟨i, e', hi', hs⟩))

lemma tidy_setParty {flights : List Flight} {j : Job} (hj : j.Tidy flights) {p : Party}
    (h : p.Succeeds j.party) (hs : p.Sits flights) : (j.setParty p).Tidy flights where
  sound := by
    intro k hk
    have hp := party_setParty h
    rw [hk] at hp
    subst hp
    exact hs.1
  output := by
    intro host s own ho
    have hp := party_setParty h
    rw [ho] at hp
    subst hp
    exact (hs own rfl).2
  emission := by
    intro i e own hi ho
    rw [emission?_setParty h] at hi
    cases p with
    | emission e' =>
      by_cases hc : i = j.cursor
      · simp only [if_pos hc] at hi
        cases hi
        exact (hs own ho).2
      · simp only [if_neg hc] at hi
        exact hj.emission i e own hi ho
    | _ => exact hj.emission i e own hi ho

end Job

lemma Party.Sits.alive {flights : List Flight} {p : Party} (h : p.Sits flights) {own : Handle}
    (ho : p.share? = some own) : Alive flights own.ticket := by
  cases p with
  | work k => exact h.2 own ho
  | emission e => exact (h own ho).1
  | output host s o => exact (h own ho).1
  | nobody => cases ho

namespace World

variable {w : World} {p : Party}

/-- The innermost party belongs to the flight being driven or to the running task. -/
lemma setParty_cases (h : w.Steady) (hp : p.Succeeds w.party) :
    (∃ ticket outer f k, w.driving = ticket :: outer ∧ w.flights[ticket]? = some f ∧
      f.status = .driven ∧ w.party = .work f.work ∧ p = .work k ∧
      w.setParty p = w.setFlight ticket { f with work := k }) ∨
    (w.driving = [] ∧ ∃ t task, w.running = some t ∧ w.tasks[t]? = some task ∧
      w.party = task.job.party ∧ w.setParty p = w.setJob (task.job.setParty p)) := by
  rw [party_eq] at hp ⊢
  cases hd : w.driving with
  | cons ticket outer =>
    obtain ⟨f, hf, hs⟩ := h.driven ticket (by simp [hd])
    rw [hd] at hp
    simp only [partyAt, hf] at hp ⊢
    cases p with
    | work k =>
      refine .inl ⟨ticket, outer, f, k, rfl, hf, hs, rfl, rfl, ?_⟩
      simp only [setParty, setWork, hd, hf]
    | _ => exact hp.elim
  | nil =>
    rw [hd] at hp
    simp only [partyAt] at hp ⊢
    cases hr : w.running with
    | none =>
      have hj : w.job = .nothing := by simp [job, hr]
      rw [hj] at hp
      cases p <;> exact hp.elim
    | some t =>
      obtain ⟨task, ht, -⟩ := h.runs t hr
      have hj := job_of_running hr ht
      rw [hj] at hp ⊢
      refine .inr ⟨trivial, t, task, rfl, ht, rfl, ?_⟩
      cases p with
      | work k => simp only [setParty, setWork, hd, Job.setParty]
      | output host s own => rfl
      | nobody => exact hp.elim
      | emission e =>
        simp only [setParty, setEmission, hj]
        cases task.job <;> rfl

lemma Steady.setParty (h : w.Steady) (hp : p.Succeeds w.party) (hs : p.Sits w.flights) :
    (w.setParty p).Steady := by
  rcases setParty_cases h hp with
    ⟨ticket, outer, f, k, hd, hf, hst, hparty, rfl, heq⟩ | ⟨hd, t, task, hr, ht, hparty, heq⟩
  · rw [heq]
    rw [hparty] at hp
    obtain ⟨hhost, hslot, htarget⟩ := hp
    have htidy := h.flights ticket f hf
    have hn := h.nodup
    have hl := h.linked
    rw [hd, List.nodup_cons] at hn
    refine Steady.setFlight h w.driving hf hhost hslot
      ⟨htidy.broken, hs.1, ?_⟩ ?_ h.nodup ?_ ?_ hs.2
    · intro r hr
      rw [hst] at hr
      cases hr
    · intro i hi
      by_cases hit : i = ticket
      · exact .inl ⟨hit, hst⟩
      · exact .inr ⟨hit, hi⟩
    · apply linked_set _ h.linked
      rw [hd]
      exact hn.1
    · rw [hst]
      rintro ⟨⟩
  · rw [heq]
    rw [hparty] at hp
    have htidy := h.tasks t task ht
    refine h.setJob hr ht hd (Job.tidy_setParty htidy.job hp hs) ?_
    intro own ho
    rcases Job.mem_shares_setParty hp ho with hso | hold
    · exact hs.alive hso
    · exact h.safe _ (.inr (.inl ⟨task, List.mem_of_getElem? ht, own, hold, rfl⟩))

/-- The party is the new one, and all the rest of the world is as before. -/
lemma setParty_frame (h : w.Steady) (hp : p.Succeeds w.party) :
    (w.setParty p).party = p ∧ (w.setParty p).job.cursor = w.job.cursor ∧
      (w.setParty p).job.follows = w.job.follows ∧
      ∃ tasks flights, w.setParty p = { w with tasks, flights } := by
  rcases setParty_cases h hp with
    ⟨ticket, outer, f, k, hd, hf, -, hparty, rfl, heq⟩ | ⟨hd, t, task, hr, ht, hparty, heq⟩
  · rw [heq]
    refine ⟨?_, rfl, rfl, _, _, rfl⟩
    rw [party_eq]
    show partyAt (w.flights.set ticket _) _ w.driving = _
    rw [hd]
    simp only [partyAt, List.getElem?_set_self (List.getElem?_eq_some_iff.mp hf).1]
  · rw [hparty] at hp
    have hj := job_of_running hr ht
    have hlt := (List.getElem?_eq_some_iff.mp ht).1
    rw [heq, setJob_of_running hr ht, hj]
    have hj' : ({ w with tasks := w.tasks.set t { task with job := task.job.setParty p } }).job =
        task.job.setParty p :=
      job_of_running (w := { w with tasks := w.tasks.set t { task with job := task.job.setParty p } })
        hr (List.getElem?_set_self hlt)
    refine ⟨?_, ?_, ?_, _, _, rfl⟩
    · rw [party_eq, hj']
      show partyAt _ _ w.driving = _
      rw [hd]
      exact Job.party_setParty hp
    · rw [hj']
      exact Job.cursor_setParty hp
    · rw [hj']
      exact Job.follows_setParty hp

lemma flight_setParty (h : w.Steady) (hp : p.Succeeds w.party) {ticket : Nat} {f : Flight}
    (hf : w.flights[ticket]? = some f) :
    ∃ f', (w.setParty p).flights[ticket]? = some f' ∧ f'.status = f.status ∧
      f'.departure = f.departure := by
  rcases setParty_cases h hp with
    ⟨i, outer, g, k, hd, hg, -, hparty, rfl, heq⟩ | ⟨hd, t, task, hr, ht, hparty, heq⟩
  · rw [heq]
    by_cases hi : i = ticket
    · subst hi
      rw [hf] at hg
      cases hg
      rw [hparty] at hp
      obtain ⟨hhost, hslot, htarget⟩ := hp
      refine ⟨_, List.getElem?_set_self (List.getElem?_eq_some_iff.mp hf).1, rfl, ?_⟩
      unfold Flight.departure
      rw [hhost, hslot, htarget]
    · exact ⟨f, (List.getElem?_set_ne hi).trans hf, rfl, rfl⟩
  · rw [heq, setJob_of_running hr ht]
    exact ⟨f, hf, rfl, rfl⟩

/-- Of all emissions only the one in the place of the party changes. -/
lemma emission?_setParty (h : w.Steady) (hp : p.Succeeds w.party) {t i : Nat} {e : Emission}
    (he : (w.setParty p).emission? t i = some e) :
    (p = .emission e ∧ w.driving = [] ∧ w.running = some t ∧ i = w.job.cursor) ∨
      (w.emission? t i = some e ∧
        ¬(w.driving = [] ∧ w.running = some t ∧ i = w.job.cursor ∧ ∃ e', p = .emission e')) := by
  rcases setParty_cases h hp with
    ⟨ticket, outer, f, k, hd, hf, -, hparty, rfl, heq⟩ | ⟨hd, u, task, hr, ht, hparty, heq⟩
  · rw [heq] at he
    refine .inr ⟨he, ?_⟩
    rintro ⟨-, -, -, e', he'⟩
    cases he'
  · rw [hparty] at hp
    have hj := job_of_running hr ht
    rw [heq, setJob_of_running hr ht] at he
    unfold emission? at he
    obtain ⟨task', ht', he⟩ := Option.bind_eq_some_iff.mp he
    rcases getElem?_set_cases ht' with ⟨rfl, rfl⟩ | ⟨hne, ht'⟩
    · simp only [Job.emission?_setParty hp] at he
      cases p with
      | emission e' =>
        by_cases hi : i = task.job.cursor
        · simp only [if_pos hi] at he
          cases he
          exact .inl ⟨rfl, hd, hr, by rw [hj]; exact hi⟩
        · simp only [if_neg hi] at he
          refine .inr ⟨Option.bind_eq_some_iff.mpr ⟨task, ht, he⟩, ?_⟩
          rintro ⟨-, -, hc, -⟩
          rw [hj] at hc
          exact hi hc
      | _ =>
        refine .inr ⟨Option.bind_eq_some_iff.mpr ⟨task, ht, he⟩, ?_⟩
        rintro ⟨-, -, -, e', he'⟩
        cases he'
    · refine .inr ⟨Option.bind_eq_some_iff.mpr ⟨task', ht', he⟩, ?_⟩
      rintro ⟨-, hr', -, -⟩
      rw [hr] at hr'
      cases hr'
      exact hne rfl

lemma Silent.hushed (h : w.Silent) : w.Hushed := by
  intro t i e he ho
  rw [h t i e he] at ho
  cases ho

/-- The current emission is the innermost party. -/
lemma party_of_emission? {t : Nat} {e : Emission} (hd : w.driving = [])
    (hr : w.running = some t) (he : w.emission? t w.job.cursor = some e) :
    w.party = .emission e := by
  obtain ⟨task, ht, hm⟩ := Option.bind_eq_some_iff.mp he
  have hj := job_of_running hr ht
  rw [party_eq, hd]
  show w.job.party = _
  rw [hj] at hm ⊢
  exact Job.party_of_emission? hm

lemma emission?_of_party (h : w.Steady) {e : Emission} (hp : w.party = .emission e) :
    w.driving = [] ∧ ∃ t, w.running = some t ∧ w.emission? t w.job.cursor = some e := by
  have hs : Party.Succeeds (.emission e) w.party := by
    rw [hp]
    exact ⟨rfl, rfl⟩
  rcases setParty_cases h hs with ⟨_, _, f, k, -, -, -, -, hk, -⟩ | ⟨hd, t, task, hr, ht, hj, -⟩
  · cases hk
  · rw [hp] at hj
    refine ⟨hd, t, hr, Option.bind_eq_some_iff.mpr ⟨task, ht, ?_⟩⟩
    rw [job_of_running hr ht]
    exact Job.emission?_of_party hj.symm

/-- Where the innermost party is not calling, nobody is. -/
lemma Hushed.silent (hh : w.Hushed)
    (hp : ∀ e, w.party = .emission e → e.progress.phase.isOpen = true) : w.Silent := by
  intro t i e he
  cases ho : e.progress.phase.isOpen with
  | true => rfl
  | false =>
    obtain ⟨hd, hr, rfl⟩ := hh t i e he ho
    rw [← ho]
    exact hp e (party_of_emission? hd hr he)

lemma hushed_setParty (h : w.Steady) (hh : w.Hushed) (hp : p.Succeeds w.party) :
    (w.setParty p).Hushed := by
  intro t i e he ho
  obtain ⟨-, hc, -, tasks, flights, heq⟩ := setParty_frame h hp
  have hd : (w.setParty p).driving = w.driving := by rw [heq]
  have hr : (w.setParty p).running = w.running := by rw [heq]
  rw [hd, hr, hc]
  rcases emission?_setParty h hp he with ⟨-, hnow⟩ | ⟨hold, -⟩
  · exact hnow
  · exact hh t i e hold ho

lemma silent_setParty (h : w.Steady) (hh : w.Hushed) (hp : p.Succeeds w.party)
    (ho : ∀ e, p = .emission e → e.progress.phase.isOpen = true) : (w.setParty p).Silent := by
  refine (hushed_setParty h hh hp).silent ?_
  rw [(setParty_frame h hp).1]
  exact ho

end World

end Dataflow
