import Dataflow.Proofs.FlightStarts
import Dataflow.Proofs.Touches

/-!
# What a step leaves of flights and tasks

Of all that a step can do, most leaves every flight with the work it has, waiting for what it waits
for, and every task with what it is there for. The exceptions are few: a work that goes on with its
recipe, a flight that lands, and one that breaks.
-/

namespace Dataflow

/-- What a task is to come to. -/
inductive Purpose where
  /-- The result of a slot. -/
  | request (host : String) (slot : Slot)
  /-- What the node makes of a slot, for this task alone. -/
  | computation (host : String) (slot : Slot)
deriving DecidableEq, Repr

namespace Journal

/-- A computation of the slot has come to this result. -/
def Landed (host : String) (s : Slot) (r : Result) (l : List Event) : Prop :=
  ∃ ticket kept, .landed host s ticket r kept ∈ l

lemma Landed.mono {host : String} {s : Slot} {r : Result} {l l' : List Event}
    (h : Landed host s r l) (hl : l ⊆ l') : Landed host s r l' := by
  obtain ⟨ticket, kept, hm⟩ := h
  exact ⟨ticket, kept, hl hm⟩

end Journal

/-- A task of this purpose may end with the result. -/
def Purpose.MetBy (r : Result) (l : List Event) : Purpose → Prop
  | .request host slot => Journal.Landed host slot r l
  | .computation _ _ => True

lemma Purpose.MetBy.mono {p : Purpose} {r : Result} {l l' : List Event} (h : p.MetBy r l)
    (hl : l ⊆ l') : p.MetBy r l' := by
  cases p with
  | request host slot => exact Journal.Landed.mono h hl
  | computation host slot => exact h

namespace Job

def purpose : Job → Option Purpose
  | .output host slot _ => some (.request host slot)
  | .compute host slot => some (.computation host slot)
  | .work k => some (.computation k.host k.slot)
  | _ => none

/-- A job keeps its purpose as long as it has one. -/
def Becomes (j j' : Job) : Prop := j'.purpose = none ∨ j'.purpose = j.purpose

lemma Becomes.refl (j : Job) : j.Becomes j := .inr rfl

lemma Becomes.trans {j j' j'' : Job} (h : j.Becomes j') (h' : j'.Becomes j'') : j.Becomes j'' := by
  rcases h' with h' | h'
  · exact .inl h'
  · rcases h with h | h
    · exact .inl (h'.trans h)
    · exact .inr (h'.trans h)

lemma purpose_bare (j : Job) : j.bare.purpose = j.purpose := by
  cases j <;> rfl

end Job

/-- The stage is left, or the share in the flight that is waited for gets its seat. -/
def Stage.NoFurther (st st' : Stage) : Prop :=
  st' = st ∨ st' = .away ∨
    ∃ h h' rest, st = .asking h rest ∧ st' = .asking h' rest ∧ h'.ticket = h.ticket

lemma Stage.NoFurther.trans {st st' st'' : Stage} (h : st.NoFurther st') (h' : st'.NoFurther st'') :
    st.NoFurther st'' := by
  rcases h' with rfl | rfl | ⟨own, own', rest, rfl, rfl, ht⟩
  · exact h
  · exact .inr (.inl rfl)
  · rcases h with rfl | h | ⟨own₀, own₁, rest₀, rfl, he, ht₀⟩
    · exact .inr (.inr ⟨own, own', rest, rfl, rfl, ht⟩)
    · cases h
    · cases he
      exact .inr (.inr ⟨own₀, own', rest, rfl, rfl, ht.trans ht₀⟩)

structure Work.NoFurther (k k' : Work) : Prop where
  host : k'.host = k.host
  slot : k'.slot = k.slot
  target : k'.target = k.target
  stage : k.stage.NoFurther k'.stage

/-- The flight has not come further. -/
structure Flight.NoFurther (f f' : Flight) : Prop where
  work : f.work.NoFurther f'.work
  broken : f'.status = .broken ↔ f.status = .broken
  landed : f'.status.result? = f.status.result?

/-- The flight has taken off and has come no further. -/
structure Flight.Young (f : Flight) : Prop where
  stage : f.work.stage = .fresh ∨ f.work.stage = .away
  broken : f.status ≠ .broken
  landed : f.status.result? = none

lemma Work.NoFurther.refl (k : Work) : k.NoFurther k := ⟨rfl, rfl, rfl, .inl rfl⟩

lemma Work.NoFurther.trans {k k' k'' : Work} (h : k.NoFurther k') (h' : k'.NoFurther k'') :
    k.NoFurther k'' :=
  ⟨h'.host.trans h.host, h'.slot.trans h.slot, h'.target.trans h.target, h.stage.trans h'.stage⟩

lemma Work.noFurther_away (k : Work) : k.NoFurther { k with stage := .away } :=
  ⟨rfl, rfl, rfl, .inr (.inl rfl)⟩

lemma Flight.NoFurther.refl (f : Flight) : f.NoFurther f := ⟨.refl _, .rfl, rfl⟩

lemma Flight.NoFurther.trans {f f' f'' : Flight} (h : f.NoFurther f') (h' : f'.NoFurther f'') :
    f.NoFurther f'' :=
  ⟨h.work.trans h'.work, h'.broken.trans h.broken, h'.landed.trans h.landed⟩

lemma Flight.Fades.noFurther {f f' : Flight} (h : f.Fades f') : f.NoFurther f' := by
  rcases h with ⟨seats, rfl⟩ | ⟨hs, seats, rfl⟩
  · exact ⟨.refl _, .rfl, rfl⟩
  · exact ⟨f.work.noFurther_away, by simp [hs], by simp [hs, Status.result?]⟩

lemma Stage.NoFurther.rested {st st' : Stage} (h : st.NoFurther st') (hs : st = .fresh ∨ st = .away) :
    st' = .fresh ∨ st' = .away := by
  rcases h with rfl | h | ⟨own, own', rest, rfl, -⟩
  · exact hs
  · exact .inr h
  · rcases hs with hs | hs <;> cases hs

lemma Flight.Young.noFurther {f f' : Flight} (h : f.Young) (hw : f.NoFurther f') : f'.Young :=
  ⟨hw.work.stage.rested h.stage, fun hb => h.broken (hw.broken.mp hb), hw.landed.trans h.landed⟩

namespace World

variable {w w' w'' : World}

/-- The task is there before the step, or has started in its course. -/
def Employs (w w' : World) (t : Nat) (task : Task) : Prop :=
  w.tasks[t]? = some task ∨ .started t task ∈ w'.journal

/-- If a node is asked for a task alone, or a task ends with a result, then it is there for that. -/
def Warrants (w w' : World) : Event → Prop
  | .begun host slot none =>
    ∃ t task, w.Employs w' t task ∧ task.job.purpose = some (.computation host slot)
  | .ended t _ (.result r) =>
    ∃ task p, w.Employs w' t task ∧ task.job.purpose = some p ∧ p.MetBy r w'.journal
  | _ => True

/-- The history goes on, and every task keeps its purpose as long as it has one. -/
structure Grows (w w' : World) : Prop where
  journal : w.journal <:+ w'.journal
  news : ∀ e ∈ w'.journal, e ∈ w.journal ∨ w.Warrants w' e
  tasks : ∀ (t : Nat) task', w'.tasks[t]? = some task' →
    ∃ task, w.Employs w' t task ∧ task.job.Becomes task'.job

/-- Besides, no flight comes further. -/
structure NoFurther (w w' : World) : Prop extends Grows w w' where
  flights : ∀ (i : Nat) f, w.flights[i]? = some f → ∃ f', w'.flights[i]? = some f' ∧ f.NoFurther f'
  young : ∀ (i : Nat) f', w'.flights[i]? = some f' → w.flights[i]? = none → f'.Young

/-- Besides, the same flights are being driven. -/
structure KeepsDriving (w w' : World) : Prop extends NoFurther w w' where
  driving : w'.driving = w.driving

lemma Employs.mono {t : Nat} {task : Task} (h : w.Employs w' t task)
    (hj : w'.journal <:+ w''.journal) : w.Employs w'' t task :=
  h.imp_right fun hs => hj.subset hs

lemma Warrants.mono {e : Event} (h : w.Warrants w' e) (hj : w'.journal <:+ w''.journal) :
    w.Warrants w'' e := by
  cases e with
  | begun host slot ticket =>
    cases ticket with
    | none =>
      obtain ⟨t, task, hm, hp⟩ := h
      exact ⟨t, task, hm.mono hj, hp⟩
    | some ticket => exact True.intro
  | ended t name how =>
    cases how with
    | result r =>
      obtain ⟨task, p, hm, hp, hr⟩ := h
      exact ⟨task, p, hm.mono hj, hp, hr.mono hj.subset⟩
    | _ => exact True.intro
  | _ => exact True.intro

/-- A task that has a purpose has had it all the time. -/
lemma Grows.employs (h : Grows w w') (hj : w'.journal <:+ w''.journal) {t : Nat} {task' : Task}
    {p : Purpose} (ht : w'.Employs w'' t task') (hp : task'.job.purpose = some p) :
    ∃ task, w.Employs w'' t task ∧ task.job.purpose = some p := by
  rcases ht with ht | hs
  · obtain ⟨task, hm, hb⟩ := h.tasks t task' ht
    refine ⟨task, hm.mono hj, ?_⟩
    rcases hb with hb | hb
    · rw [hp] at hb
      cases hb
    · rw [← hb, hp]
  · exact ⟨task', .inr hs, hp⟩

lemma Grows.warrants (h : Grows w w') (hj : w'.journal <:+ w''.journal) {e : Event}
    (he : w'.Warrants w'' e) : w.Warrants w'' e := by
  cases e with
  | begun host slot ticket =>
    cases ticket with
    | none =>
      obtain ⟨t, task', hm, hp⟩ := he
      obtain ⟨task, hm, hp⟩ := h.employs hj hm hp
      exact ⟨t, task, hm, hp⟩
    | some ticket => exact True.intro
  | ended t name how =>
    cases how with
    | result r =>
      obtain ⟨task', p, hm, hp, hr⟩ := he
      obtain ⟨task, hm, hp⟩ := h.employs hj hm hp
      exact ⟨task, p, hm, hp, hr⟩
    | _ => exact True.intro
  | _ => exact True.intro

lemma Grows.trans (h : Grows w w') (h' : Grows w' w'') : Grows w w'' := by
  refine ⟨h.journal.trans h'.journal, fun e he => ?_, fun t task'' ht => ?_⟩
  · rcases h'.news e he with he | he
    · exact (h.news e he).imp_right fun hb => hb.mono h'.journal
    · exact .inr (h.warrants h'.journal he)
  · obtain ⟨task', hfrom, hb⟩ := h'.tasks t task'' ht
    rcases hfrom with ht' | hs
    · obtain ⟨task, hfrom, hb'⟩ := h.tasks t task' ht'
      exact ⟨task, hfrom.mono h'.journal, hb'.trans hb⟩
    · exact ⟨task', .inr hs, hb⟩

lemma NoFurther.trans (h : NoFurther w w') (h' : NoFurther w' w'') : NoFurther w w'' := by
  refine ⟨h.toGrows.trans h'.toGrows, fun i f hf => ?_, fun i f'' hf'' hn => ?_⟩
  · obtain ⟨f', hf', hw⟩ := h.flights i f hf
    obtain ⟨f'', hf'', hw'⟩ := h'.flights i f' hf'
    exact ⟨f'', hf'', hw.trans hw'⟩
  · cases hm : w'.flights[i]? with
    | none => exact h'.young i f'' hf'' hm
    | some f' =>
      obtain ⟨g, hg, hw⟩ := h'.flights i f' hm
      rw [hf''] at hg
      cases hg
      exact (h.young i f' hm hn).noFurther hw

lemma KeepsDriving.trans (h : KeepsDriving w w') (h' : KeepsDriving w' w'') : KeepsDriving w w'' :=
  ⟨h.toNoFurther.trans h'.toNoFurther, h'.driving.trans h.driving⟩

/-- Where a flight comes from. -/
lemma NoFurther.flight (h : NoFurther w w') {i : Nat} {f' : Flight} (hf : w'.flights[i]? = some f') :
    (∃ f, w.flights[i]? = some f ∧ f.NoFurther f') ∨ f'.Young := by
  cases hm : w.flights[i]? with
  | none => exact .inr (h.young i f' hf hm)
  | some f =>
    obtain ⟨g, hg, hw⟩ := h.flights i f hm
    rw [hf] at hg
    cases hg
    exact .inl ⟨f, rfl, hw⟩

lemma NoFurther.serves (h : NoFurther w w') {ticket : Nat} {host : String} {s : Slot}
    (hs : Serves w.flights ticket host s) : Serves w'.flights ticket host s := by
  obtain ⟨f, hf, rfl, rfl⟩ := hs
  obtain ⟨f', hf', hw⟩ := h.flights ticket f hf
  exact ⟨f', hf', hw.work.host, hw.work.slot⟩

lemma grows_of_eq (hj : w'.journal = w.journal) (ht : w'.tasks = w.tasks) : Grows w w' := by
  refine ⟨hj ▸ List.suffix_rfl, fun e he => ?_, fun t task' hm => ?_⟩
  · rw [hj] at he
    exact .inl he
  · rw [ht] at hm
    exact ⟨task', .inl hm, .refl _⟩

lemma noFurther_of_eq (hj : w'.journal = w.journal) (ht : w'.tasks = w.tasks)
    (hf : w'.flights = w.flights) : NoFurther w w' := by
  refine ⟨grows_of_eq hj ht, fun i f hm => ?_, fun i f' hm hn => ?_⟩
  · rw [hf]
    exact ⟨f, hm, .refl f⟩
  · rw [hf, hn] at hm
    cases hm

lemma keepsDriving_of_eq (hj : w'.journal = w.journal) (ht : w'.tasks = w.tasks)
    (hf : w'.flights = w.flights) (hd : w'.driving = w.driving) : KeepsDriving w w' :=
  ⟨noFurther_of_eq hj ht hf, hd⟩

lemma KeepsDriving.refl (w : World) : KeepsDriving w w := keepsDriving_of_eq rfl rfl rfl rfl

/-- What else may change. -/
lemma KeepsDriving.same (h : KeepsDriving w w') (hj : w''.journal = w'.journal) (ht : w''.tasks = w'.tasks)
    (hf : w''.flights = w'.flights) (hd : w''.driving = w'.driving) : KeepsDriving w w'' :=
  h.trans (keepsDriving_of_eq hj ht hf hd)

lemma KeepsDriving.aim (h : KeepsDriving w w') (f : Focus) : KeepsDriving w (w'.aim f) :=
  h.same rfl rfl rfl rfl

lemma KeepsDriving.setEngine (h : KeepsDriving w w') (host : String) (e : Engine) :
    KeepsDriving w (w'.setEngine host e) :=
  h.same rfl rfl rfl rfl

lemma KeepsDriving.log (h : KeepsDriving w w') (e : Event)
    (he : w.Warrants (w'.log e) e) : KeepsDriving w (w'.log e) where
  journal := h.journal.trans (List.suffix_cons e w'.journal)
  news := fun x hx => by
    rcases List.mem_cons.mp hx with rfl | hx
    · exact .inr he
    · exact (h.news x hx).imp_right fun hb => hb.mono (List.suffix_cons e w'.journal)
  tasks := fun t task' ht => by
    obtain ⟨task, hm, hb⟩ := h.tasks t task' ht
    exact ⟨task, hm.mono (List.suffix_cons e w'.journal), hb⟩
  flights := h.flights
  young := h.young
  driving := h.driving

lemma NoFurther.aim (h : NoFurther w w') (f : Focus) : NoFurther w (w'.aim f) :=
  h.trans ((KeepsDriving.refl w').aim f).toNoFurther

lemma keepsDriving_breakDown (w : World) (source : PanicSource) (text : String) :
    KeepsDriving w (w.breakDown source text) :=
  ((KeepsDriving.refl w).log _ (by trivial)).aim _

lemma keepsDriving_fades (h : Fading w w') : KeepsDriving w w' := by
  refine ⟨⟨⟨h.journal ▸ List.suffix_rfl, fun e he => ?_, fun t task' hm => ?_⟩,
    fun i f hf => ?_, fun i f' hf hn => ?_⟩, h.driving⟩
  · rw [h.journal] at he
    exact .inl he
  · obtain ⟨task, ht, hb⟩ := h.task hm
    refine ⟨task, .inl ht, .inr ?_⟩
    rw [← Job.purpose_bare, ← Job.purpose_bare task.job]
    exact congrArg (fun task : Task => task.job.purpose) hb.symm
  · have hlt : i < w'.flights.length := by
      rw [h.length]
      exact (List.getElem?_eq_some_iff.mp hf).1
    have hf' := List.getElem?_eq_getElem hlt
    exact ⟨_, hf', (h.flights i f _ hf hf').noFurther⟩
  · obtain ⟨f, hf', -⟩ := h.flight hf
    rw [hn] at hf'
    cases hf'

/-- One task goes on with another job. -/
lemma keepsDriving_setTask {t : Nat} {task task' : Task} (ht : w.tasks[t]? = some task)
    (hb : task.job.Becomes task'.job) : KeepsDriving w { w with tasks := w.tasks.set t task' } := by
  refine ⟨⟨⟨List.suffix_refl _, fun _ => .inl, fun i task₁ hm => ?_⟩, (KeepsDriving.refl w).flights,
    (KeepsDriving.refl w).young⟩, rfl⟩
  rcases getElem?_set_cases hm with ⟨rfl, rfl⟩ | ⟨-, hm⟩
  · exact ⟨task, .inl ht, hb⟩
  · exact ⟨task₁, .inl hm, .refl _⟩

lemma keepsDriving_setJob (w : World) {j : Job} (hb : w.job.Becomes j) : KeepsDriving w (w.setJob j) := by
  rcases setJob_cases w j with ⟨t, task, hr, ht, heq⟩ | heq
  · rw [job_of_running hr ht] at hb
    rw [heq]
    exact keepsDriving_setTask ht hb
  · rw [heq]
    exact .refl w

lemma keepsDriving_setEmission (w : World) (e : Emission) : KeepsDriving w (w.setEmission e) := by
  rcases setEmission_cases w e with ⟨f, -, heq⟩ | ⟨-, heq⟩ <;>
    exact heq ▸ keepsDriving_setJob w (.inl rfl)

lemma KeepsDriving.setEmission (h : KeepsDriving w w') (e : Emission) : KeepsDriving w (w'.setEmission e) :=
  h.trans (keepsDriving_setEmission w' e)

lemma keepsDriving_modifyTask (w : World) (t : Nat) {g : Task → Task}
    (hg : ∀ task : Task, task.job.Becomes (g task).job) : KeepsDriving w (w.modifyTask t g) := by
  rcases w.modifyTask_cases t g with ⟨task, ht, heq⟩ | heq <;> rw [heq]
  · exact keepsDriving_setTask ht (hg task)
  · exact .refl w

lemma keepsDriving_enqueue (w : World) (t : Nat) : KeepsDriving w (w.enqueue t) :=
  keepsDriving_fades (fadingUnheld_enqueue w t).toFading

lemma keepsDriving_wake (w : World) (waiters : List Waiter) : KeepsDriving w (w.wake waiters) :=
  keepsDriving_fades (fadingUnheld_wake w waiters).toFading

lemma KeepsDriving.wake (h : KeepsDriving w w') (waiters : List Waiter) :
    KeepsDriving w (w'.wake waiters) :=
  h.trans (keepsDriving_wake w' waiters)

lemma keepsDriving_release (w : World) (kept : List Nat) (own : Handle) :
    KeepsDriving w (w.release kept own) :=
  keepsDriving_fades (fadingUnheld_release w kept own).toFading

lemma keepsDriving_spawn (w : World) (task : Task) : KeepsDriving w (w.spawn task).1 := by
  refine ⟨⟨⟨List.suffix_cons _ _, fun e he => ?_, fun t task' hm => ?_⟩, (KeepsDriving.refl w).flights,
    (KeepsDriving.refl w).young⟩, rfl⟩
  · rcases List.mem_cons.mp he with rfl | he
    · exact .inr True.intro
    · exact .inl he
  · rcases getElem?_concat_cases hm with hm | ⟨rfl, rfl⟩
    · exact ⟨task', .inl hm, .refl _⟩
    · exact ⟨task', .inr List.mem_cons_self, .refl _⟩

lemma keepsDriving_join (w : World) (host : String) (s : Slot) : KeepsDriving w (w.join host s).1 := by
  rcases join_cases w host s with ⟨ticket, -, heq⟩ | ⟨-, heq⟩
  · rw [heq]
    exact .refl w
  · rw [heq]
    refine KeepsDriving.log ?_ _ (by trivial)
    refine ⟨⟨⟨List.suffix_refl _, fun _ => .inl, fun t task' hm => ⟨task', .inl hm, .refl _⟩⟩,
      fun i f hf => ?_, fun i f' hm hn => ?_⟩, rfl⟩
    · exact ⟨f, (List.getElem?_append_left (List.getElem?_eq_some_iff.mp hf).1).trans hf, .refl f⟩
    · rcases getElem?_concat_cases hm with hm | ⟨-, rfl⟩
      · rw [hn] at hm
        cases hm
      · exact ⟨.inl rfl, by rintro ⟨⟩, rfl⟩

/-- A flight in the place of another one. -/
lemma noFurther_setFlight {ticket : Nat} {f : Flight} (hf : w.flights[ticket]? = some f)
    (f' : Flight) (hw : f.NoFurther f') (driving : List Nat) :
    NoFurther w { w.setFlight ticket f' with driving } := by
  refine ⟨grows_of_eq rfl rfl, fun i g hg => ?_, fun i g hg hn => ?_⟩
  · by_cases hi : ticket = i
    · subst hi
      rw [hf] at hg
      cases hg
      exact ⟨f', List.getElem?_set_self (List.getElem?_eq_some_iff.mp hf).1, hw⟩
    · exact ⟨g, (List.getElem?_set_ne hi).trans hg, .refl g⟩
  · rcases getElem?_set_cases hg with ⟨rfl, -⟩ | ⟨-, hg⟩
    · rw [hf] at hn
      cases hn
    · rw [hn] at hg
      cases hg

lemma keepsDriving_setFlight {ticket : Nat} {f : Flight} (hf : w.flights[ticket]? = some f)
    (f' : Flight) (hw : f.NoFurther f') : KeepsDriving w (w.setFlight ticket f') :=
  ⟨noFurther_setFlight hf f' hw w.driving, rfl⟩

lemma keepsDriving_setWork {k k' : Work} (hp : w.party = .work k) (hw : k.NoFurther k') :
    KeepsDriving w (w.setWork k') := by
  rw [party_eq] at hp
  rcases setWork_cases w k' with ⟨ticket, outer, f, hd, hf, heq⟩ | ⟨ticket, outer, -, -, heq⟩ |
    ⟨hd, heq⟩
  · simp only [hd, partyAt, hf] at hp
    cases hp
    rw [heq]
    exact keepsDriving_setFlight hf _ ⟨hw, .rfl, rfl⟩
  · rw [heq]
    exact .refl w
  · rw [hd] at hp
    have hj : w.job = .work k := Job.eq_of_party_work hp
    rw [heq]
    refine keepsDriving_setJob w (.inr ?_)
    rw [hj]
    simp only [Job.purpose, hw.host, hw.slot]

lemma driving_of_party_output {host : String} {slot : Slot} {share : Option Handle}
    (hp : w.party = .output host slot share) : w.driving = [] := by
  cases hd : w.driving with
  | nil => rfl
  | cons ticket outer =>
    rw [party_eq, hd] at hp
    cases hf : w.flights[ticket]? <;> simp [partyAt, hf] at hp

lemma job_of_party_output {host : String} {slot : Slot} {share : Option Handle}
    (hp : w.party = .output host slot share) : w.job = .output host slot share := by
  have hd := driving_of_party_output hp
  rw [party_eq, hd] at hp
  exact Job.eq_of_party_output hp

lemma KeepsShare.keepsDriving {own : Handle} (hk : w.KeepsShare own w')
    (ha : w.party.awaits = some own.ticket) : KeepsDriving w w' := by
  cases hk with
  | @work k held rest hp hs =>
    rw [hp] at ha
    have hshare : k.share? = some held := by rw [Work.share?, hs]
    have ht : held.ticket = own.ticket := by
      rw [Party.awaits, Party.share?, hshare] at ha
      exact Option.some.inj ha
    exact keepsDriving_setWork hp ⟨rfl, rfl, rfl, .inr (.inr ⟨held, own, rest, hs, rfl, ht.symm⟩)⟩
  | emission => exact keepsDriving_setEmission w _
  | output hp =>
    refine keepsDriving_setJob w (.inr ?_)
    rw [job_of_party_output hp]
    rfl
  | nothing => exact .refl w

end World

end Dataflow
