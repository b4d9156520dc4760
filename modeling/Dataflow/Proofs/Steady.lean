import Dataflow.Proofs.Poise

/-!
# What keeps a world steady

Steadiness is kept by whatever changes the engines, one flight or the job of the running task within
the bounds given here.
-/

namespace Dataflow

lemma getElem?_set_cases {α : Type} {l : List α} {i j : Nat} {a b : α}
    (h : (l.set i a)[j]? = some b) : (i = j ∧ b = a) ∨ (i ≠ j ∧ l[j]? = some b) := by
  rw [List.getElem?_set] at h
  by_cases hij : i = j
  · rw [if_pos hij, Option.ite_none_right_eq_some] at h
    exact .inl ⟨hij, (Option.some.inj h.2).symm⟩
  · rw [if_neg hij] at h
    exact .inr ⟨hij, h⟩

/-- Flights stay and keep their slots. -/
def Stays (flights flights' : List Flight) : Prop :=
  ∀ (ticket : Nat) f, flights[ticket]? = some f →
    ∃ f', flights'[ticket]? = some f' ∧ f'.work.host = f.work.host ∧ f'.work.slot = f.work.slot

lemma Serves.stays {flights flights' : List Flight} (h : Stays flights flights') {ticket : Nat}
    {host : String} {s : Slot} (hs : Serves flights ticket host s) :
    Serves flights' ticket host s := by
  obtain ⟨f, hf, rfl, rfl⟩ := hs
  obtain ⟨f', hf', hhost, hslot⟩ := h ticket f hf
  exact ⟨f', hf', hhost, hslot⟩

lemma Job.Tidy.stays {flights flights' : List Flight} (h : Stays flights flights') {j : Job}
    (hj : j.Tidy flights) : j.Tidy flights' where
  sound := hj.sound
  output := fun host s own ho => (hj.output host s own ho).stays h
  emission := fun i e own he ho => (hj.emission i e own he ho).stays h

lemma Stays.refl (flights : List Flight) : Stays flights flights :=
  fun _ f hf => ⟨f, hf, rfl, rfl⟩

lemma stays_set {flights : List Flight} {ticket : Nat} {f f' : Flight}
    (hf : flights[ticket]? = some f) (hhost : f'.work.host = f.work.host)
    (hslot : f'.work.slot = f.work.slot) : Stays flights (flights.set ticket f') := by
  intro i g hg
  by_cases hi : ticket = i
  · subst hi
    rw [hf] at hg
    cases hg
    exact ⟨f', List.getElem?_set_self (List.getElem?_eq_some_iff.mp hf).1, hhost, hslot⟩
  · exact ⟨g, by rw [List.getElem?_set_ne hi, hg], rfl, rfl⟩

lemma stays_append (flights more : List Flight) : Stays flights (flights ++ more) := by
  intro ticket f hf
  have hlt := (List.getElem?_eq_some_iff.mp hf).1
  exact ⟨f, by rw [List.getElem?_append_left hlt, hf], rfl, rfl⟩

lemma Journal.Panicked.mono {l l' : List Event} (hl : ∀ e ∈ l, e ∈ l') (h : Journal.Panicked l) :
    Journal.Panicked l' := by
  obtain ⟨source, text, hm⟩ := h
  exact ⟨source, text, hl _ hm⟩

lemma Task.Tidy.mono {journal journal' : List Event} {flights flights' : List Flight}
    (hl : ∀ e ∈ journal, e ∈ journal') (hf : Stays flights flights') {task : Task}
    (h : task.Tidy journal flights) : task.Tidy journal' flights' where
  named := h.named
  taken := h.taken
  panicked := fun text ht => (h.panicked text ht).mono hl
  job := h.job.stays hf

lemma Flight.Tidy.mono {journal journal' : List Event} (hl : ∀ e ∈ journal, e ∈ journal')
    {f : Flight} (h : f.Tidy journal) : f.Tidy journal' where
  broken := fun hs => (h.broken hs).mono hl
  sound := h.sound
  yields := h.yields

lemma partyAt_set {flights : List Flight} {j : Job} {ticket : Nat} {f : Flight}
    {driving : List Nat} (h : driving.head? ≠ some ticket) :
    partyAt (flights.set ticket f) j driving = partyAt flights j driving := by
  cases driving with
  | nil => rfl
  | cons i outer =>
    have hi : ticket ≠ i := fun hi => h (by simp [hi])
    simp only [partyAt, List.getElem?_set_ne hi]

lemma linked_set {flights : List Flight} {j : Job} {ticket : Nat} {f : Flight}
    {driving : List Nat} (h : ticket ∉ driving.tail) (hl : Linked flights j driving) :
    Linked (flights.set ticket f) j driving := by
  induction driving with
  | nil => exact True.intro
  | cons i outer ih =>
    rw [List.tail_cons] at h
    refine ⟨?_, ih (fun hm => h (List.mem_of_mem_tail hm)) hl.2⟩
    rw [partyAt_set]
    · exact hl.1
    · intro hh
      exact h (List.mem_of_mem_head? hh)

/-- Only the works of the flights count. -/
lemma linked_congr {flights flights' : List Flight} {j j' : Job} {driving : List Nat}
    (hj : j'.party = j.party)
    (hf : ∀ ticket ∈ driving, ∃ f f', flights[ticket]? = some f ∧ flights'[ticket]? = some f' ∧
      f'.work = f.work) (hl : Linked flights j driving) : Linked flights' j' driving := by
  induction driving with
  | nil => exact True.intro
  | cons i outer ih =>
    refine ⟨?_, ih (fun ticket hm => hf ticket (List.mem_cons_of_mem i hm)) hl.2⟩
    rw [← hl.1]
    cases outer with
    | nil => exact congrArg Party.awaits hj
    | cons k rest =>
      obtain ⟨f, f', h, h', hw⟩ := hf k (by simp)
      simp only [partyAt, h, h', hw]

@[simp] lemma Job.party_bare (j : Job) : j.bare.party = j.party := by
  cases j <;> rfl

@[simp] lemma Job.emission?_bare (j : Job) (i : Nat) : j.bare.emission? i = j.emission? i := by
  cases j <;> rfl

@[simp] lemma Job.cursor_bare (j : Job) : j.bare.cursor = j.cursor := by
  cases j <;> rfl

@[simp] lemma Job.follows_bare (j : Job) : j.bare.follows = j.follows := by
  cases j <;> rfl

lemma Job.mem_emissions {j : Job} {e : Emission} :
    e ∈ j.emissions ↔ ∃ i, j.emission? i = some e := by
  cases j with
  | emit e' =>
    simp only [emissions, List.mem_singleton, emission?]
    constructor
    · rintro rfl
      exact ⟨0, rfl⟩
    · rintro ⟨i, hi⟩
      rw [Option.ite_none_right_eq_some] at hi
      exact (Option.some.inj hi.2).symm
  | fan f =>
    unfold emissions emission? Fan.emissions Fan.branch?
    rw [List.mem_filterMap]
    constructor
    · rintro ⟨b, hb, he⟩
      obtain ⟨i, hi⟩ := List.mem_iff_getElem?.mp hb
      exact ⟨i, Option.bind_eq_some_iff.mpr ⟨b, hi, he⟩⟩
    · rintro ⟨i, hi⟩
      obtain ⟨b, hb, he⟩ := Option.bind_eq_some_iff.mp hi
      exact ⟨b, List.mem_of_getElem? hb, he⟩
  | _ => simp [emissions, emission?]

lemma Job.Tidy.of_bare {flights : List Flight} {j : Job} (h : j.bare.Tidy flights) :
    j.Tidy flights where
  sound := by
    rintro k rfl
    exact h.sound k rfl
  output := by
    rintro host s own rfl
    exact h.output host s own rfl
  emission := fun i e own he => h.emission i e own ((Job.emission?_bare j i).trans he)

lemma Job.Tidy.bare {flights : List Flight} {j : Job} (h : j.Tidy flights) :
    j.bare.Tidy flights := by
  cases j with
  | fan f =>
    exact ⟨fun _ hk => (by cases hk), fun _ _ _ ho => (by cases ho), h.emission⟩
  | _ => exact h

lemma Task.eq_of_bare {task task' : Task} (h : task.bare = task'.bare) :
    task.name = task'.name ∧ task.job.bare = task'.job.bare ∧
      task.cancelled = task'.cancelled ∧ task.ended = task'.ended ∧
        task.holding = task'.holding := by
  unfold Task.bare at h
  rw [Task.mk.injEq] at h
  obtain ⟨hname, hjob, hcancelled, hended, -, hholding⟩ := h
  exact ⟨hname, hjob, hcancelled, hended, hholding⟩

/-- What a tidy task has in common with another one is tidy there. -/
lemma Task.Tidy.of_bare {journal : List Event} {flights : List Flight} {task task' : Task}
    (h : task.Tidy journal flights) (hb : task.bare = task'.bare) :
    task'.Tidy journal flights where
  named := by
    obtain ⟨hname, -, hcancelled, -, -⟩ := Task.eq_of_bare hb
    rw [← hname, ← hcancelled]
    exact h.named
  taken := by
    obtain ⟨-, -, -, -, hholding⟩ := Task.eq_of_bare hb
    rw [← hholding]
    exact h.taken
  panicked := by
    obtain ⟨-, -, -, hended, -⟩ := Task.eq_of_bare hb
    rw [← hended]
    exact h.panicked
  job := by
    obtain ⟨-, hjob, -, -, -⟩ := Task.eq_of_bare hb
    apply Job.Tidy.of_bare
    rw [← hjob]
    exact h.job.bare

/-- The current emission is the one under the cursor. -/
lemma Job.emission?_of_party {j : Job} {e : Emission} (h : j.party = .emission e) :
    j.emission? j.cursor = some e := by
  cases j with
  | emit e' =>
    cases h
    rfl
  | fan f =>
    simp only [party] at h
    cases hc : f.current? with
    | some e' =>
      rw [hc] at h
      cases h
      exact hc
    | none =>
      rw [hc] at h
      cases h
  | _ => cases h

namespace World

variable {w w' : World}

lemma job_of_running {t : Nat} {task : Task} (hr : w.running = some t)
    (ht : w.tasks[t]? = some task) : w.job = task.job := by
  unfold job
  rw [hr, Option.bind_some, ht]

lemma setJob_of_running {t : Nat} {task : Task} (hr : w.running = some t)
    (ht : w.tasks[t]? = some task) (j : Job) :
    w.setJob j = { w with tasks := w.tasks.set t { task with job := j } } := by
  unfold setJob
  simp only [hr, ht]

lemma job_setJob_of_running {t : Nat} {task : Task} (hr : w.running = some t)
    (ht : w.tasks[t]? = some task) (j : Job) : (w.setJob j).job = j := by
  rw [setJob_of_running hr ht]
  exact job_of_running (w := { w with tasks := w.tasks.set t { task with job := j } }) hr
    (List.getElem?_set_self (List.getElem?_eq_some_iff.mp ht).1)

lemma Steady.aim (h : w.Steady) (f : Focus) : (w.aim f).Steady :=
  ⟨h.tasks, h.flights, h.runs, h.callbacks, h.shelf, h.driven, h.nodup, h.linked, h.flying, h.safe⟩

lemma Steady.log (h : w.Steady) (e : Event) : (w.log e).Steady where
  tasks := fun t task ht => (h.tasks t task ht).mono (fun _ => List.mem_cons_of_mem e) (.refl _)
  flights := fun ticket f hf => (h.flights ticket f hf).mono fun _ => List.mem_cons_of_mem e
  runs := h.runs
  callbacks := h.callbacks
  shelf := h.shelf
  driven := h.driven
  nodup := h.nodup
  linked := h.linked
  flying := h.flying
  safe := h.safe

@[simp] lemma engine_setEngine (w : World) (host h : String) (e : Engine) :
    (w.setEngine host e).engine h = if host = h then e else w.engine h := by
  unfold engine pipeline setEngine
  by_cases hh : host = h <;> simp [hh]

@[simp] lemma policy_setEngine (w : World) (host h : String) (e : Engine) :
    (w.setEngine host e).policy h = w.policy h := by
  unfold policy pipeline setEngine
  by_cases hh : host = h
  · subst hh
    simp [pipeline]
  · simp [hh]

/-- The engine may let go of computations in flight. -/
lemma Steady.setEngine (h : w.Steady) {i : String} {e : Engine}
    (he : ∀ s ticket, e.flying s = some ticket → (w.engine i).flying s = some ticket) :
    (w.setEngine i e).Steady where
  tasks := h.tasks
  flights := h.flights
  runs := h.runs
  callbacks := h.callbacks
  shelf := h.shelf
  driven := h.driven
  nodup := h.nodup
  linked := h.linked
  flying := fun host' s ticket hf => by
    rw [engine_setEngine] at hf
    by_cases hh : i = host'
    · rw [if_pos hh] at hf
      subst hh
      exact h.flying i s ticket (he s ticket hf)
    · rw [if_neg hh] at hf
      exact h.flying host' s ticket hf
  safe := fun ticket hh => by
    refine h.safe ticket ?_
    rcases hh with ⟨f, hf, hfly⟩ | hh
    · refine .inl ⟨f, hf, ?_⟩
      rw [engine_setEngine] at hfly
      by_cases hhost : i = f.work.host
      · rw [if_pos hhost] at hfly
        rw [← hhost]
        exact he _ _ hfly
      · rw [if_neg hhost] at hfly
        exact hfly
    · exact .inr hh

lemma job_fades (hk : Fading w w') : w'.job.bare = w.job.bare := by
  have hb : ∀ t : Nat, (w'.tasks[t]?).map Task.bare = (w.tasks[t]?).map Task.bare := by
    intro t
    have ht := congrArg (·[t]?) hk.tasks
    simpa only [List.getElem?_map] using ht
  unfold job
  rw [hk.running]
  cases w.running with
  | none => rfl
  | some t =>
    have ht := hb t
    simp only [Option.bind_some]
    cases h : w.tasks[t]? with
    | none =>
      rw [h, Option.map_none, Option.map_eq_none_iff] at ht
      rw [ht]
    | some task =>
      rw [h, Option.map_some, Option.map_eq_some_iff] at ht
      obtain ⟨task', ht', hbare⟩ := ht
      rw [ht']
      exact (Task.eq_of_bare hbare).2.1

lemma emission?_fades (hk : Fading w w') (t i : Nat) : w'.emission? t i = w.emission? t i := by
  have hm : ∀ v : World, v.emission? t i =
      ((v.tasks.map Task.bare)[t]?).bind fun task => task.job.emission? i := by
    intro v
    rw [List.getElem?_map]
    unfold emission?
    cases v.tasks[t]? with
    | none => rfl
    | some task => exact (Job.emission?_bare task.job i).symm
  rw [hm w', hm w, hk.tasks]

lemma stays_of_fading (hk : Fading w w') : Stays w.flights w'.flights := by
  intro ticket f hf
  have hlt : ticket < w'.flights.length := by
    rw [hk.length]
    exact (List.getElem?_eq_some_iff.mp hf).1
  have hf' := List.getElem?_eq_getElem hlt
  obtain ⟨hhost, hslot, -⟩ := (hk.flights ticket f _ hf hf').work
  exact ⟨_, hf', hhost, hslot⟩

/-- A flight that is driven does not fade. -/
lemma Steady.driven_fades (h : w.Steady) (hk : Fading w w') {ticket : Nat}
    (hm : ticket ∈ w.driving) :
    ∃ f f', w.flights[ticket]? = some f ∧ w'.flights[ticket]? = some f' ∧ f'.work = f.work ∧
      f'.status = .driven := by
  obtain ⟨f, hf, hs⟩ := h.driven ticket hm
  obtain ⟨f', hf', -⟩ := stays_of_fading hk ticket f hf
  rcases hk.flights ticket f f' hf hf' with ⟨seats, rfl⟩ | ⟨hi, -⟩
  · exact ⟨f, _, hf, hf', rfl, hs⟩
  · rw [hs] at hi
    cases hi

lemma Steady.fades (h : w.Steady) (hk : FadingUnheld w w') : w'.Steady := by
  have hstay := stays_of_fading hk.toFading
  exact {
    tasks := by
      intro t task' ht
      obtain ⟨task, hm, hb⟩ := hk.task ht
      rw [hk.journal]
      exact ((h.tasks t task hm).mono (fun _ he => he) hstay).of_bare hb
    flights := by
      intro ticket f' hf'
      obtain ⟨f, hf, hfade⟩ := hk.flight hf'
      have htidy := h.flights ticket f hf
      rw [hk.journal]
      rcases hfade with ⟨seats, rfl⟩ | ⟨-, seats, rfl⟩
      · exact ⟨htidy.broken, htidy.sound, htidy.yields⟩
      · exact { broken := by rintro ⟨⟩, sound := True.intro, yields := (by rintro _ ⟨⟩) }
    runs := by
      intro t hr
      rw [hk.running] at hr
      obtain ⟨task, hm, he⟩ := h.runs t hr
      have hb : (w'.tasks.map Task.bare)[t]? = some task.bare := by
        rw [hk.tasks, List.getElem?_map, hm]
        rfl
      rw [List.getElem?_map, Option.map_eq_some_iff] at hb
      obtain ⟨task', hm', hb⟩ := hb
      exact ⟨task', hm', (Task.eq_of_bare hb).2.2.2.1.trans he⟩
    callbacks := by
      rw [hk.frame.2.2.1, hk.frame.2.2.2.1]
      exact h.callbacks
    shelf := by
      rw [hk.frame.2.2.2.2.1]
      exact h.shelf
    driven := by
      intro ticket hm
      rw [hk.driving] at hm
      obtain ⟨-, f', -, hf', -, hs⟩ := h.driven_fades hk.toFading hm
      exact ⟨f', hf', hs⟩
    nodup := by
      rw [hk.driving]
      exact h.nodup
    linked := by
      rw [hk.driving]
      refine linked_congr ?_ ?_ h.linked
      · rw [← Job.party_bare, job_fades hk.toFading, Job.party_bare]
      · intro ticket hm
        obtain ⟨f, f', hf, hf', hw, -⟩ := h.driven_fades hk.toFading hm
        exact ⟨f, f', hf, hf', hw⟩
    flying := by
      intro host s ticket hf
      rw [hk.engine] at hf
      exact (h.flying host s ticket hf).stays hstay
    safe := by
      intro ticket hh
      obtain ⟨f, hf, hs⟩ := h.safe ticket (hk.holds hh)
      obtain ⟨f', hf', -⟩ := hstay ticket f hf
      refine ⟨f', hf', ?_⟩
      intro hl
      rcases hk.lost ticket f f' hf hf' hl with hl | hn
      · exact hs hl
      · exact hn hh }

/-- A task goes on as another one, which does not end while it runs and holds shares of living flights
alone. -/
lemma Steady.setTask (h : w.Steady) {t : Nat} {task task' : Task} (ht : w.tasks[t]? = some task)
    (htidy : task'.Tidy w.journal w.flights) (hgoing : w.running = some t → task'.ended = none)
    (hl : Linked w.flights (World.job { w with tasks := w.tasks.set t task' }) w.driving)
    (hs : ∀ own ∈ task'.job.shares, Alive w.flights own.ticket) :
    { w with tasks := w.tasks.set t task' }.Steady where
  tasks := by
    intro i task'' hi
    rcases getElem?_set_cases hi with ⟨-, rfl⟩ | ⟨-, hi⟩
    · exact htidy
    · exact h.tasks i task'' hi
  flights := h.flights
  runs := by
    intro i hi
    by_cases hti : t = i
    · subst hti
      exact ⟨task', List.getElem?_set_self (List.getElem?_eq_some_iff.mp ht).1, hgoing hi⟩
    · obtain ⟨task'', hm, he⟩ := h.runs i hi
      exact ⟨task'', (List.getElem?_set_ne hti).trans hm, he⟩
  callbacks := h.callbacks
  shelf := h.shelf
  driven := h.driven
  nodup := h.nodup
  linked := hl
  flying := h.flying
  safe := by
    rintro ticket (hh | ⟨task'', hm, own, ho, rfl⟩ | hh)
    · exact h.safe ticket (.inl hh)
    · rcases List.mem_or_eq_of_mem_set hm with hm | rfl
      · exact h.safe _ (.inr (.inl ⟨task'', hm, own, ho, rfl⟩))
      · exact hs own ho
    · exact h.safe ticket (.inr (.inr hh))

lemma Steady.setJob (h : w.Steady) {t : Nat} {task : Task} (hr : w.running = some t)
    (ht : w.tasks[t]? = some task) (hd : w.driving = []) {j : Job} (hj : j.Tidy w.flights)
    (hs : ∀ own ∈ j.shares, Alive w.flights own.ticket) : (w.setJob j).Steady := by
  have htidy := h.tasks t task ht
  obtain ⟨task', ht', hgoing⟩ := h.runs t hr
  rw [ht] at ht'
  cases ht'
  rw [setJob_of_running hr ht]
  refine h.setTask ht ⟨htidy.named, htidy.taken, htidy.panicked, hj⟩ (fun _ => hgoing) ?_ hs
  rw [hd]
  exact True.intro

/-- A flight goes on, and is driven or no longer driven. -/
lemma Steady.setFlight (h : w.Steady) (driving : List Nat) {ticket : Nat} {f f' : Flight}
    (hf : w.flights[ticket]? = some f) (hhost : f'.work.host = f.work.host)
    (hslot : f'.work.slot = f.work.slot) (htidy : f'.Tidy w.journal)
    (hdriven : ∀ i ∈ driving, (i = ticket ∧ f'.status = .driven) ∨ (i ≠ ticket ∧ i ∈ w.driving))
    (hn : driving.Nodup) (hl : Linked (w.flights.set ticket f') w.job driving)
    (hs : f'.status ≠ .lost)
    (hshare : ∀ own, f'.work.share? = some own → Alive w.flights own.ticket) :
    { w.setFlight ticket f' with driving }.Steady := by
  have hlt := (List.getElem?_eq_some_iff.mp hf).1
  have hstay : Stays w.flights (w.flights.set ticket f') := stays_set hf hhost hslot
  have halive : ∀ i, Alive w.flights i → Alive (w.flights.set ticket f') i := by
    rintro i ⟨g, hg, hgs⟩
    by_cases hi : ticket = i
    · subst hi
      exact ⟨f', List.getElem?_set_self hlt, hs⟩
    · exact ⟨g, by rw [List.getElem?_set_ne hi, hg], hgs⟩
  exact {
    tasks := fun t task ht => (h.tasks t task ht).mono (fun _ he => he) hstay
    flights := by
      intro i g hg
      rcases getElem?_set_cases hg with ⟨-, rfl⟩ | ⟨-, hg⟩
      · exact htidy
      · exact h.flights i g hg
    runs := h.runs
    callbacks := h.callbacks
    shelf := h.shelf
    driven := by
      intro i hi
      rcases hdriven i hi with ⟨rfl, hd⟩ | ⟨hne, hm⟩
      · exact ⟨f', List.getElem?_set_self hlt, hd⟩
      · obtain ⟨g, hg, hd⟩ := h.driven i hm
        exact ⟨g, (List.getElem?_set_ne (Ne.symm hne)).trans hg, hd⟩
    nodup := hn
    linked := hl
    flying := fun host s i hi => (h.flying host s i hi).stays hstay
    safe := by
      rintro i (⟨g, hg, hfly⟩ | hh | ⟨g, hm, own, ho, rfl⟩)
      · rcases getElem?_set_cases hg with ⟨rfl, rfl⟩ | ⟨-, hg⟩
        · rw [hhost, hslot] at hfly
          exact halive _ (h.safe _ (.inl ⟨f, hf, hfly⟩))
        · exact halive i (h.safe i (.inl ⟨g, hg, hfly⟩))
      · exact halive i (h.safe i (.inr (.inl hh)))
      · rcases List.mem_or_eq_of_mem_set hm with hm | rfl
        · exact halive _ (h.safe _ (.inr (.inr ⟨g, hm, own, ho, rfl⟩)))
        · exact halive _ (hshare own ho) }

lemma job_spawn (h : w.Steady) (task : Task) : (w.spawn task).1.job = w.job := by
  have hr : (w.spawn task).1.running = w.running := rfl
  have hl : (w.spawn task).1.tasks = w.tasks ++ [task] := rfl
  unfold job
  rw [hr, hl]
  cases hrun : w.running with
  | none => rfl
  | some t =>
    obtain ⟨task', ht, -⟩ := h.runs t hrun
    simp only [Option.bind_some, ht, List.getElem?_append_left (List.getElem?_eq_some_iff.mp ht).1]

lemma getElem?_concat_cases {α : Type} {l : List α} {a b : α} {i : Nat}
    (h : (l ++ [a])[i]? = some b) : l[i]? = some b ∨ (i = l.length ∧ b = a) := by
  rw [List.getElem?_append] at h
  by_cases hi : i < l.length
  · rw [if_pos hi] at h
    exact .inl h
  · rw [if_neg hi] at h
    cases hk : i - l.length with
    | zero =>
      rw [hk] at h
      exact .inr ⟨by omega, (Option.some.inj h).symm⟩
    | succ k =>
      rw [hk] at h
      cases h

lemma Steady.spawn (h : w.Steady) {task : Task} (hn : task.cancelled = false)
    (he : task.ended = none)
    (hh : ∀ name s, task.holding = some (name, s) → s.delivery.isTaken = true)
    (hj : task.job.Tidy w.flights) (hs : task.job.shares = []) : (w.spawn task).1.Steady where
  tasks := by
    intro t task' ht
    have hmono : ∀ e ∈ w.journal, e ∈ (w.spawn task).1.journal :=
      fun e hm => List.mem_cons_of_mem _ hm
    rcases getElem?_concat_cases ht with ht | ⟨-, rfl⟩
    · exact (h.tasks t task' ht).mono hmono (.refl _)
    · exact ⟨fun hc => (by rw [hn] at hc; cases hc), hh, fun text ht => (by rw [he] at ht; cases ht),
        hj⟩
  flights := fun ticket f hf => (h.flights ticket f hf).mono fun _ => List.mem_cons_of_mem _
  runs := by
    intro t hr
    obtain ⟨task', ht, hended⟩ := h.runs t hr
    exact ⟨task', (List.getElem?_append_left (List.getElem?_eq_some_iff.mp ht).1).trans ht, hended⟩
  callbacks := h.callbacks
  shelf := h.shelf
  driven := h.driven
  nodup := h.nodup
  linked := by
    rw [job_spawn h task]
    exact h.linked
  flying := h.flying
  safe := by
    rintro ticket (hh | ⟨task', hm, own, ho, rfl⟩ | hh)
    · exact h.safe ticket (.inl hh)
    · rcases List.mem_append.mp hm with hm | hm
      · exact h.safe _ (.inr (.inl ⟨task', hm, own, ho, rfl⟩))
      · rw [List.mem_singleton] at hm
        subst hm
        rw [hs] at ho
        cases ho
    · exact h.safe ticket (.inr (.inr hh))

end World

end Dataflow
