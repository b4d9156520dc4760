import Dataflow.Proofs.Turns

/-!
# How changes of a world show in its ledger

Most of what changes in a world does not show in the ledger. The rest shows as one entry each.
-/

namespace Dataflow

lemma Job.errands_bare (j : Job) : j.bare.errands = j.errands := by
  cases j <;> rfl

lemma Task.duty_bare (task : Task) : task.bare.duty = task.duty := by
  unfold duty
  rw [← Job.errands_bare task.job, ← Job.follows_bare task.job]
  rfl

lemma Job.errands_setParty {j : Job} {e : Emission} (h : (Party.emission e).Succeeds j.party) :
    (j.setParty (.emission e)).errands =
      fun i => if j.cursor = i then some e.errand else j.errands i := by
  funext i
  unfold errands
  rw [emission?_setParty h]
  by_cases hi : j.cursor = i
  · simp [hi]
  · simp [hi, Ne.symm hi]

lemma Flight.Fades.departure {f f' : Flight} (h : f.Fades f') : f'.departure = f.departure := by
  rcases h with ⟨seats, rfl⟩ | ⟨hs, seats, rfl⟩
  · rfl
  · unfold Flight.departure
    rw [hs]
    rfl

namespace World

variable {w w' : World}

lemma errand?_ledger (w : World) (t i : Nat) :
    w.ledger.errand? t i = (w.emission? t i).map Emission.errand := by
  unfold Ledger.errand? emission? ledger
  rw [List.getElem?_map]
  cases w.tasks[t]? <;> rfl

lemma errand?_of_emission? {t i : Nat} {e : Emission} (he : w.emission? t i = some e) :
    w.ledger.errand? t i = some e.errand := by
  rw [errand?_ledger, he]
  rfl

lemma flights_ledger {ticket : Nat} {f : Flight} (hf : w.flights[ticket]? = some f) :
    w.ledger.flights[ticket]? = some f.departure := by
  show (w.flights.map Flight.departure)[ticket]? = _
  rw [List.getElem?_map, hf]
  rfl

lemma silent_ledger (h : w.Silent) : w.ledger.Silent := by
  intro t i x hx
  rw [errand?_ledger, Option.map_eq_some_iff] at hx
  obtain ⟨e, he, rfl⟩ := hx
  exact h t i e he

@[simp] lemma ledger_aim (w : World) (f : Focus) : (w.aim f).ledger = w.ledger := rfl

lemma ledger_log (w : World) (e : Event) : (w.log e).ledger = w.ledger.log e := rfl

lemma ledger_fades (h : Fading w w') : w'.ledger = w.ledger := by
  obtain ⟨hruntime, hpolicy, hsubscribers, -, hsubscriptions, hresult⟩ := h.frame
  have hduties : w'.tasks.map Task.duty = w.tasks.map Task.duty := by
    have hb := congrArg (List.map Task.duty) h.tasks
    simpa only [List.map_map, Function.comp_def, Task.duty_bare] using hb
  have hflights : w'.flights.map Flight.departure = w.flights.map Flight.departure := by
    apply List.ext_getElem?
    intro i
    rw [List.getElem?_map, List.getElem?_map]
    cases hf' : w'.flights[i]? with
    | none =>
      have hf : w.flights[i]? = none := by
        rw [List.getElem?_eq_none_iff, ← h.length]
        exact List.getElem?_eq_none_iff.mp hf'
      rw [hf]
    | some f' =>
      obtain ⟨f, hf, hfade⟩ := h.flight hf'
      rw [hf, Option.map_some, Option.map_some, hfade.departure]
  unfold ledger
  rw [hruntime, hpolicy, h.engine, hflights, hduties, hsubscribers, hsubscriptions, hresult,
    h.journal]

lemma map_set_of_eq {α β : Type} {l : List α} {i : Nat} {a b : α} {g : α → β}
    (h : l[i]? = some a) (hg : g b = g a) : (l.set i b).map g = l.map g := by
  apply List.ext_getElem?
  intro j
  rw [List.getElem?_map, List.getElem?_map]
  by_cases hj : i = j
  · subst hj
    rw [List.getElem?_set_self (List.getElem?_eq_some_iff.mp h).1, h, Option.map_some,
      Option.map_some, hg]
  · rw [List.getElem?_set_ne hj]

lemma ledger_setFlight {ticket : Nat} {f f' : Flight} (hf : w.flights[ticket]? = some f)
    (hd : f'.departure = f.departure) : (w.setFlight ticket f').ledger = w.ledger := by
  unfold setFlight ledger
  simp only [map_set_of_eq hf hd]
  rfl

lemma ledger_setJob {t : Nat} {task : Task} (hr : w.running = some t)
    (ht : w.tasks[t]? = some task) {j : Job} (he : j.errands = task.job.errands)
    (hf : j.follows = task.job.follows) : (w.setJob j).ledger = w.ledger := by
  rw [setJob_of_running hr ht]
  have hd : Task.duty { task with job := j } = task.duty := by
    unfold Task.duty
    rw [he, hf]
  unfold ledger
  simp only [map_set_of_eq ht hd]
  rfl

lemma ledger_setEngine (w : World) (host : String) (e : Engine) :
    (w.setEngine host e).ledger = w.ledger.setEngine host e := by
  have hengine : (w.setEngine host e).engine = fun h => if host = h then e else w.engine h :=
    funext fun h => engine_setEngine w host h e
  have hpolicy : (w.setEngine host e).policy = w.policy :=
    funext fun h => policy_setEngine w host h e
  unfold ledger Ledger.setEngine
  rw [hengine, hpolicy]
  rfl

lemma ledger_spawn (w : World) (task : Task) :
    (w.spawn task).1.ledger = w.ledger.spawn task := by
  unfold spawn ledger Ledger.spawn Ledger.log log
  simp only [List.map_append, List.map_cons, List.map_nil, List.length_map]
  rfl

/-- Where one emission of a task changes, one errand does. -/
lemma ledger_setErrand {t i : Nat} {task : Task} (ht : w.tasks[t]? = some task) {j : Job}
    {x : Option Errand}
    (he : j.errands = fun k => if i = k then x else task.job.errands k)
    (hf : j.follows = task.job.follows) :
    World.ledger { w with tasks := w.tasks.set t { task with job := j } } =
      w.ledger.setErrand t i x := by
  have hduty : Task.duty { task with job := j } =
      { task.duty with errands := fun k => if i = k then x else task.duty.errands k } := by
    unfold Task.duty
    rw [he, hf]
  have hm : (w.tasks.set t { task with job := j }).map Task.duty =
      (w.tasks.map Task.duty).modify t fun d =>
        { d with errands := fun k => if i = k then x else d.errands k } := by
    apply List.ext_getElem?
    intro k
    rw [List.getElem?_map, List.getElem?_modify, List.getElem?_map]
    by_cases hk : t = k
    · subst hk
      rw [List.getElem?_set_self (List.getElem?_eq_some_iff.mp ht).1, ht]
      simp [hduty]
    · simp [List.getElem?_set_ne hk, hk]
  unfold ledger Ledger.setErrand
  simp only [hm]
  rfl

lemma ledger_setEmission (h : w.Steady) {e : Emission}
    (hp : (Party.emission e).Succeeds w.party) :
    ∃ t, w.running = some t ∧
      (w.setEmission e).ledger = w.ledger.setErrand t w.job.cursor (some e.errand) := by
  rcases setParty_cases h hp with ⟨_, _, f, k, -, -, -, -, hk, -⟩ | ⟨hd, t, task, hr, ht, hj, heq⟩
  · cases hk
  · refine ⟨t, hr, ?_⟩
    have heq' : w.setEmission e = w.setJob (task.job.setParty (.emission e)) := heq
    rw [heq', setJob_of_running hr ht, job_of_running hr ht]
    rw [hj] at hp
    exact ledger_setErrand ht (Job.errands_setParty hp) (Job.follows_setParty hp)

/-- Only emissions show. -/
lemma ledger_setParty (h : w.Steady) {p : Party} (hp : p.Succeeds w.party)
    (hne : ∀ e, p ≠ .emission e) : (w.setParty p).ledger = w.ledger := by
  rcases setParty_cases h hp with
    ⟨ticket, outer, f, k, -, hf, -, hparty, rfl, heq⟩ | ⟨hd, t, task, hr, ht, hj, heq⟩
  · rw [heq]
    rw [hparty] at hp
    obtain ⟨hhost, hslot, htarget⟩ := hp
    refine ledger_setFlight hf ?_
    unfold Flight.departure
    rw [hhost, hslot, htarget]
  · rw [heq]
    rw [hj] at hp
    refine ledger_setJob hr ht ?_ (Job.follows_setParty hp)
    cases p with
    | emission e => exact absurd rfl (hne e)
    | nobody => exact hp.elim
    | _ =>
      cases hq : task.job with
      | fan f =>
        rw [hq] at hp
        simp only [Job.party] at hp
        cases hc : f.current? <;> rw [hc] at hp <;> exact hp.elim
      | emit e =>
        rw [hq] at hp
        exact hp.elim
      | _ => rfl

end World

end Dataflow
