import Dataflow.Proofs.Errands
import Dataflow.Proofs.History

/-!
# Tasks and their history

The history tells which tasks there are, which of them are over, and what each of them was to emit.
Whatever a task was to emit is emitted unless the task is cut short.
-/

namespace Dataflow

/-- The event is the beginning or the end of a task. -/
def Event.isTurn : Event → Bool
  | .started _ _ | .ended _ _ _ => true
  | _ => false

/-- Two places in a list that was put together. -/
lemma append_split {α : Type} {new old later earlier : List α} {x : α}
    (h : new ++ old = later ++ x :: earlier) :
    (∃ m, later = new ++ m ∧ old = m ++ x :: earlier) ∨
      ∃ m, new = later ++ x :: m ∧ earlier = m ++ old := by
  rcases List.append_eq_append_iff.mp h with ⟨m, rfl, hm⟩ | ⟨m, rfl, hm⟩
  · exact .inl ⟨m, rfl, hm⟩
  · cases m with
    | nil => exact .inl ⟨[], by rw [List.append_nil, List.append_nil], hm.symm⟩
    | cons y m =>
      obtain ⟨rfl, rfl⟩ := List.cons_eq_cons.mp hm
      exact .inr ⟨m, rfl, rfl⟩

namespace Ledger

open Journal

variable {b b' : Ledger}

structure Accounted (b : Ledger) : Prop where
  count : b.duties.length = starts b.journal
  started : ∀ (t : Nat) d, b.duties[t]? = some d →
    ∃ task, .started t task ∈ b.journal ∧ task.name = d.name
  begun : ∀ t task, .started t task ∈ b.journal → ∃ d, b.duties[t]? = some d ∧
    ∀ t', task.job = .follow t' → d.follows = some t' ∨ d.ended.isSome = true
  ended : ∀ (t : Nat) d how, b.duties[t]? = some d → d.ended = some how →
    .ended t d.name how ∈ b.journal ∧ ∀ i, d.errands i = none
  ending : ∀ t name how, .ended t name how ∈ b.journal →
    ∃ d, b.duties[t]? = some d ∧ d.ended = some how

/-- But for what there is to emit, the duty is as it was. -/
structure Alike (d d' : Duty) : Prop where
  name : d'.name = d.name
  follows : d'.follows = d.follows
  ended : d'.ended = d.ended
  idle : d.ended.isSome = true → (∀ i, d.errands i = none) → ∀ i, d'.errands i = none

lemma Alike.refl (d : Duty) : Alike d d := ⟨rfl, rfl, rfl, fun _ h => h⟩

lemma Accounted.same (h : Accounted b) (hlen : b'.duties.length = b.duties.length)
    (hd : ∀ (t : Nat) d, b.duties[t]? = some d → ∃ d', b'.duties[t]? = some d' ∧ Alike d d')
    {l : List Event} (hj : b'.journal = l ++ b.journal) (hn : ∀ e ∈ l, e.isTurn = false) :
    Accounted b' := by
  have hback : ∀ (t : Nat) d', b'.duties[t]? = some d' → ∃ d, b.duties[t]? = some d ∧ Alike d d' := by
    intro t d' hd'
    have hlt := (List.getElem?_eq_some_iff.mp hd').1
    rw [hlen] at hlt
    obtain ⟨d'', hd'', ha⟩ := hd t _ (List.getElem?_eq_getElem hlt)
    rw [hd'] at hd''
    cases hd''
    exact ⟨_, List.getElem?_eq_getElem hlt, ha⟩
  have hold : ∀ e : Event, e.isTurn = true → e ∈ b'.journal → e ∈ b.journal := by
    intro e he hm
    rw [hj] at hm
    rcases List.mem_append.mp hm with hm | hm
    · rw [hn e hm] at he
      cases he
    · exact hm
  have hnew : ∀ e : Event, e ∈ b.journal → e ∈ b'.journal := by
    intro e hm
    rw [hj]
    exact List.mem_append_right _ hm
  constructor
  case count =>
    have hz : starts l = 0 := List.countP_eq_zero.mpr fun e he hs => by
      have hne := hn e he
      cases e with
      | started t task => cases hne
      | _ => cases hs
    rw [hlen, h.count, hj]
    unfold starts at hz ⊢
    rw [List.countP_append, hz, Nat.zero_add]
  case started =>
    intro t d' hd'
    obtain ⟨d, hdt, ha⟩ := hback t d' hd'
    obtain ⟨task, hm, hname⟩ := h.started t d hdt
    exact ⟨task, hnew _ hm, hname.trans ha.name.symm⟩
  case begun =>
    intro t task hm
    obtain ⟨d, hdt, hf⟩ := h.begun t task (hold _ rfl hm)
    obtain ⟨d', hd', ha⟩ := hd t d hdt
    refine ⟨d', hd', fun t' hj => ?_⟩
    rw [ha.follows, ha.ended]
    exact hf t' hj
  case ended =>
    intro t d' how hd' he
    obtain ⟨d, hdt, ha⟩ := hback t d' hd'
    rw [ha.ended] at he
    obtain ⟨hm, hnone⟩ := h.ended t d how hdt he
    rw [ha.name]
    exact ⟨hnew _ hm, ha.idle (by rw [he]; rfl) hnone⟩
  case ending =>
    intro t name how hm
    obtain ⟨d, hdt, he⟩ := h.ending t name how (hold _ rfl hm)
    obtain ⟨d', hd', ha⟩ := hd t d hdt
    exact ⟨d', hd', ha.ended.trans he⟩

lemma Accounted.log (h : Accounted b) (hd : b'.duties = b.duties) {e : Event}
    (hj : b'.journal = e :: b.journal) (he : e.isTurn = false) : Accounted b' :=
  h.same (by rw [hd]) (fun t d hdt => ⟨d, by rw [hd]; exact hdt, .refl d⟩) (l := [e]) hj
    (by simpa using he)

lemma Accounted.setErrand (h : Accounted b) {t i : Nat} {y : Errand}
    (hy : b.errand? t i = some y) (x : Option Errand) : Accounted (b.setErrand t i x) := by
  refine h.same (List.length_modify _ _ _) (fun t' d hd => ?_) (l := []) rfl (by simp)
  have hget : (b.setErrand t i x).duties[t']? = _ := List.getElem?_modify ..
  by_cases ht : t = t'
  · subst ht
    simp only [hd, if_true, Option.map_eq_map, Option.map_some] at hget
    refine ⟨_, hget, rfl, rfl, rfl, fun _ hnone => ?_⟩
    obtain ⟨d', hd', hi⟩ := errand?_eq_some.mp hy
    rw [hd] at hd'
    cases hd'
    rw [hnone i] at hi
    cases hi
  · simp only [hd, if_neg ht, Option.map_eq_map, Option.map_some] at hget
    exact ⟨d, hget, .refl d⟩

lemma Accounted.spawn (h : Accounted b) {task : Task} (ht : task.ended = none) :
    Accounted (b.spawn task) := by
  have hduties : (b.spawn task).duties = b.duties ++ [task.duty] := rfl
  have hjournal : (b.spawn task).journal = .started b.duties.length task :: b.journal := rfl
  have hold : ∀ (t : Nat) d, b.duties[t]? = some d → (b.spawn task).duties[t]? = some d := by
    intro t d hd
    rw [hduties, List.getElem?_append_left (List.getElem?_eq_some_iff.mp hd).1, hd]
  have hlast : (b.spawn task).duties[b.duties.length]? = some task.duty := by
    rw [hduties, List.getElem?_concat_length]
  have hcases : ∀ (t : Nat) d, (b.spawn task).duties[t]? = some d →
      b.duties[t]? = some d ∨ t = b.duties.length ∧ d = task.duty := by
    intro t d hd
    by_cases hlt : t < b.duties.length
    · rw [hduties, List.getElem?_append_left hlt] at hd
      exact .inl hd
    · have hle := (List.getElem?_eq_some_iff.mp hd).1
      rw [hduties, List.length_append, List.length_singleton] at hle
      have heq : t = b.duties.length := by omega
      subst heq
      rw [hlast] at hd
      cases hd
      exact .inr ⟨rfl, rfl⟩
  constructor
  case count =>
    rw [hduties, hjournal, List.length_append, h.count]
    exact (List.countP_cons_of_pos rfl).symm
  case started =>
    intro t d hd
    rcases hcases t d hd with hd | ⟨rfl, rfl⟩
    · obtain ⟨task', hm, hname⟩ := h.started t d hd
      exact ⟨task', List.mem_cons_of_mem _ hm, hname⟩
    · exact ⟨task, List.mem_cons_self, rfl⟩
  case begun =>
    intro t task' hm
    rcases List.mem_cons.mp hm with he | hm
    · cases he
      refine ⟨_, hlast, fun t' hj => .inl ?_⟩
      show task.job.follows = some t'
      rw [hj]
      rfl
    · obtain ⟨d, hd, hf⟩ := h.begun t task' hm
      exact ⟨d, hold t d hd, hf⟩
  case ended =>
    intro t d how hd he
    rcases hcases t d hd with hd | ⟨rfl, rfl⟩
    · obtain ⟨hm, hnone⟩ := h.ended t d how hd he
      exact ⟨List.mem_cons_of_mem _ hm, hnone⟩
    · have hnone : task.duty.ended = none := ht
      rw [hnone] at he
      cases he
  case ending =>
    intro t name how hm
    rcases List.mem_cons.mp hm with he | hm
    · cases he
    · obtain ⟨d, hd, he⟩ := h.ending t name how hm
      exact ⟨d, hold t d hd, he⟩

lemma Accounted.emitAll (h : Accounted b) (host node : String) (outputs : List String) :
    Accounted (b.emitAll host node outputs) := by
  induction outputs generalizing b with
  | nil => exact h
  | cons o outputs ih => exact ih (h.spawn rfl)

lemma duties_finish {t : Nat} {d : Duty} (hd : b.duties[t]? = some d) (how : End)
    (engine : String → Engine) (extra : List Event) (t' : Nat) :
    (b.finish t d how engine extra).duties[t']? = if t = t' then
      some { d with errands := fun _ => none, follows := none, ended := some how }
      else b.duties[t']? := by
  have hlt := (List.getElem?_eq_some_iff.mp hd).1
  show (b.duties.set t _)[t']? = _
  rw [List.getElem?_set]
  by_cases ht : t = t'
  · rw [if_pos ht, if_pos ht, if_pos hlt]
  · rw [if_neg ht, if_neg ht]

/-- But for emissions given up, nothing is told while a task ends. -/
lemma Ends.mem_journal {t : Nat} {d : Duty} {how : End} {engine : String → Engine}
    {extra : List Event} (he : b.Ends t d how engine extra) {e : Event}
    (hne : ∀ host s pass, e ≠ .abandoned host s pass) (hm : e ∈ extra ++ b.journal) :
    e ∈ b.journal := by
  rcases List.mem_append.mp hm with hm | hm
  · obtain ⟨host, s, pass, heq⟩ := he.extra e hm
    exact absurd heq (hne host s pass)
  · exact hm

lemma Ends.starts_extra {t : Nat} {d : Duty} {how : End} {engine : String → Engine}
    {extra : List Event} (he : b.Ends t d how engine extra) : starts extra = 0 := by
  refine List.countP_eq_zero.mpr ?_
  intro e hm hs
  obtain ⟨host, s, pass, rfl⟩ := he.extra e hm
  cases hs

lemma Accounted.finish (h : Accounted b) {t : Nat} {d : Duty} {how : End}
    {engine : String → Engine} {extra : List Event} (he : b.Ends t d how engine extra) :
    Accounted (b.finish t d how engine extra) := by
  have hget := duties_finish he.duty how engine extra
  have hnew : ∀ e : Event, e ∈ b.journal → e ∈ (b.finish t d how engine extra).journal :=
    fun e hm => List.mem_cons_of_mem _ (List.mem_append_right _ hm)
  constructor
  case count =>
    have hz := he.starts_extra
    show (b.duties.set t _).length = starts (.ended t d.name how :: (extra ++ b.journal))
    unfold starts at hz ⊢
    rw [List.length_set, h.count, List.countP_cons_of_neg (by simp [Event.isStart]),
      List.countP_append, hz, Nat.zero_add]
    rfl
  case started =>
    intro t' d' hd'
    rw [hget] at hd'
    by_cases ht : t = t'
    · subst ht
      rw [if_pos rfl] at hd'
      cases hd'
      obtain ⟨task, hm, hname⟩ := h.started t d he.duty
      exact ⟨task, hnew _ hm, hname⟩
    · rw [if_neg ht] at hd'
      obtain ⟨task, hm, hname⟩ := h.started t' d' hd'
      exact ⟨task, hnew _ hm, hname⟩
  case begun =>
    intro t' task hm
    rcases List.mem_cons.mp hm with heq | hm
    · cases heq
    · obtain ⟨d', hd', hf⟩ := h.begun t' task (he.mem_journal (by simp) hm)
      by_cases ht : t = t'
      · exact ⟨_, by rw [hget, if_pos ht], fun _ _ => .inr rfl⟩
      · exact ⟨d', by rw [hget, if_neg ht, hd'], hf⟩
  case ended =>
    intro t' d' how' hd' he'
    rw [hget] at hd'
    by_cases ht : t = t'
    · subst ht
      rw [if_pos rfl] at hd'
      cases hd'
      cases he'
      exact ⟨List.mem_cons_self, fun _ => rfl⟩
    · rw [if_neg ht] at hd'
      obtain ⟨hm, hnone⟩ := h.ended t' d' how' hd' he'
      exact ⟨hnew _ hm, hnone⟩
  case ending =>
    intro t' name how' hm
    rcases List.mem_cons.mp hm with heq | hm
    · cases heq
      exact ⟨_, by rw [hget, if_pos rfl], rfl⟩
    · obtain ⟨d', hd', he'⟩ := h.ending t' name how' (he.mem_journal (by simp) hm)
      have ht : t ≠ t' := by
        rintro rfl
        rw [he.duty] at hd'
        cases hd'
        rw [he.going] at he'
        cases he'
      exact ⟨d', by rw [hget, if_neg ht, hd'], he'⟩

lemma Accounted.move (h : Accounted b) (hm : Move b b') : Accounted b' := by
  cases hm with
  | quiet hq =>
    obtain ⟨notes, hj, hn⟩ := hq.journal
    refine h.same (by rw [hq.duties]) (fun t d hd => ⟨d, by rw [hq.duties, hd], .refl d⟩) hj
      fun e he => ?_
    have hne := hn e he
    cases e <;> first | rfl | cases hne
  | takeOff _ _ _ _ | begin _ _ _ _ | land _ _ _ _ _ | unregister _ _ _ | unsubscribe _ _ _ =>
    exact h.log rfl rfl rfl
  | panic _ _ _ _ _ => exact h.log rfl rfl rfl
  | register host n =>
    have hlist : Accounted (b.enlist host n) := h.log rfl rfl rfl
    rcases register_cases b host n with ⟨he, -, -⟩ | ⟨he, -⟩
    · rw [he]
      exact hlist.emitAll host n.id _
    · rw [he]
      exact hlist
  | subscribe host s c name _ =>
    have hrol : Accounted (b.enrol host s c name) := h.log rfl rfl rfl
    have hshelf : ∀ {m : Ledger} (sub : Subscription), Accounted m →
        Accounted (m.putOnShelf name sub) := fun sub hm =>
      hm.same rfl (fun t d hd => ⟨d, hd, .refl d⟩) (l := []) rfl (by simp)
    unfold Ledger.subscribe
    by_cases hr : b.runtime = true
    · rw [if_pos hr]
      exact hshelf _ (hrol.spawn rfl)
    · rw [if_neg hr]
      exact hshelf _ hrol
  | start task ht _ _ => exact h.spawn ht
  | invalidate t d host node keys hd _ hf he _ =>
    refine h.same (List.length_set ..) (fun t' d' hd' => ?_)
      (l := [.invalidating t host node keys]) rfl (by simp [Event.isTurn])
    have hget : (b.invalidate t d host node keys).duties[t']? = _ := List.getElem?_set ..
    by_cases ht : t = t'
    · subst ht
      rw [hd] at hd'
      cases hd'
      rw [if_pos rfl, if_pos (List.getElem?_eq_some_iff.mp hd).1] at hget
      refine ⟨_, hget, rfl, rfl, rfl, fun hs => ?_⟩
      rw [he] at hs
      cases hs
    · rw [if_neg ht] at hget
      exact ⟨d', hget.trans hd', .refl d'⟩
  | enter t i x hx _ =>
    have hlog : Accounted (b.takePass x.host x.slot) := h.log rfl rfl rfl
    exact hlog.setErrand (t := t) (i := i) (y := x) hx _
  | look t i x pass hx _ =>
    have hlog : Accounted (b.log (.looked x.host x.slot pass)) := h.log rfl rfl rfl
    exact hlog.setErrand (t := t) (i := i) (y := x) hx _
  | advance t i x p hx _ => exact h.setErrand hx _
  | select t i x pass clears r hx _ _ _ =>
    have hlog : Accounted (b.offer x.host x.slot pass r) := h.log rfl rfl rfl
    exact hlog.setErrand (t := t) (i := i) (y := x) hx _
  | call t i x pass r c rest callback hx _ =>
    have hlog : Accounted (b.log (.called x.host x.slot c callback r)) := h.log rfl rfl rfl
    exact hlog.setErrand (t := t) (i := i) (y := x) hx _
  | leave t i x pass r hx _ => exact h.setErrand hx none
  | drop t i x hx _ _ =>
    unfold drop
    cases x.phase.pass? with
    | none => exact h.setErrand hx none
    | some pass =>
      have hlog : Accounted (b.log (.abandoned x.host x.slot pass)) := h.log rfl rfl rfl
      exact hlog.setErrand (t := t) (i := i) (y := x) hx none
  | finish t d how engine extra he => exact h.finish he

/-- What a task was to emit is still to be delivered, unless it was delivered or given up. -/
def Serving (b : Ledger) : Prop :=
  ∀ later e earlier t i host s, b.journal = later ++ e :: earlier →
    e.begins t i = some (host, s) →
    (∃ x, b.errand? t i = some x ∧ x.Is host s ∧ x.phase.isOpen = true) ∨ Emitted host s later ∨
      Panicked later ∨ ∃ name how, .ended t name how ∈ later ∧ how.proper = false

lemma emitted_append {host : String} {s : Slot} {l : List Event} (h : Emitted host s l)
    (new : List Event) : Emitted host s (new ++ l) := by
  obtain ⟨pass, r, picked, hm⟩ := h
  exact ⟨pass, r, picked, List.mem_append_right _ hm⟩

lemma panicked_append {l : List Event} (h : Panicked l) (new : List Event) :
    Panicked (new ++ l) := by
  obtain ⟨source, text, hm⟩ := h
  exact ⟨source, text, List.mem_append_right _ hm⟩

/-- What has become of the errands is told by what was logged, and new beginnings have errands. -/
lemma Serving.extend (h : Serving b) {l : List Event} (hj : b'.journal = l ++ b.journal)
    (hold : ∀ t i x host s, b.errand? t i = some x → x.Is host s → x.phase.isOpen = true →
      (∃ y, b'.errand? t i = some y ∧ y.Is host s ∧ y.phase.isOpen = true) ∨ Emitted host s l ∨
        (∃ source text past, b.journal = .panicked source text :: past) ∨
        ∃ name how, .ended t name how ∈ l ∧ how.proper = false)
    (hnew : ∀ e ∈ l, ∀ t i host s, e.begins t i = some (host, s) →
      ∃ x, b'.errand? t i = some x ∧ x.Is host s ∧ x.phase.isOpen = true) : Serving b' := by
  intro later e earlier t i host s hsplit he
  rw [hj] at hsplit
  rcases append_split hsplit with ⟨m, rfl, hb⟩ | ⟨m, hm, -⟩
  · rcases h m e earlier t i host s hb he with
      ⟨x, hx, hi, ho⟩ | hem | hp | ⟨name, how, hend, hproper⟩
    · rcases hold t i x host s hx hi ho with hx | hem | ⟨source, text, past, hp⟩ | ⟨name, how, hend⟩
      · exact .inl hx
      · obtain ⟨pass, r, picked, hd⟩ := hem
        exact .inr (.inl ⟨pass, r, picked, List.mem_append_left _ hd⟩)
      · refine .inr (.inr (.inl (panicked_append ?_ l)))
        rw [hb] at hp
        cases m with
        | nil =>
          obtain ⟨rfl, -⟩ := List.cons_eq_cons.mp hp
          cases he
        | cons y m =>
          obtain ⟨rfl, -⟩ := List.cons_eq_cons.mp hp
          exact ⟨source, text, List.mem_cons_self⟩
      · exact .inr (.inr (.inr ⟨name, how, List.mem_append_left _ hend.1, hend.2⟩))
    · exact .inr (.inl (emitted_append hem l))
    · exact .inr (.inr (.inl (panicked_append hp l)))
    · exact .inr (.inr (.inr ⟨name, how, List.mem_append_right _ hend, hproper⟩))
  · exact .inl (hnew e (by rw [hm]; exact List.mem_append_right _ List.mem_cons_self) t i host s he)

/-- The errands are still there, and nothing new begins. -/
lemma Serving.same (h : Serving b) {l : List Event} (hj : b'.journal = l ++ b.journal)
    (hold : ∀ t i x, b.errand? t i = some x → b'.errand? t i = some x)
    (hnew : ∀ e ∈ l, ∀ t i, e.begins t i = none) : Serving b' := by
  refine h.extend hj (fun t i x host s hx hi ho => .inl ⟨x, hold t i x hx, hi, ho⟩) ?_
  intro e he t i host s hb
  rw [hnew e he t i] at hb
  cases hb

lemma Serving.log (h : Serving b) (hd : b'.duties = b.duties) {e : Event}
    (hj : b'.journal = e :: b.journal) (he : ∀ t i, e.begins t i = none) : Serving b' :=
  h.same (l := [e]) hj (fun t i x hx => (errand?_congr hd t i).trans hx) (by simpa using he)

lemma Serving.spawn (h : Serving b) {task : Task}
    (hf : ∀ i x, task.job.errands i = some x → x.phase = .fresh) : Serving (b.spawn task) := by
  have hduties : (b.spawn task).duties = b.duties ++ [task.duty] := rfl
  refine h.extend (l := [.started b.duties.length task]) rfl
    (fun t i x host s hx hi ho => .inl ⟨x, errand?_append hduties hx, hi, ho⟩) ?_
  intro e he t i host s hb
  rw [List.mem_singleton] at he
  subst he
  simp only [Event.begins] at hb
  cases hjob : task.job with
  | emit e =>
    simp only [hjob] at hb
    by_cases hc : b.duties.length = t ∧ i = 0
    · rw [if_pos hc] at hb
      cases hb
      obtain ⟨rfl, rfl⟩ := hc
      have hx : task.job.errands 0 = some e.errand := by rw [hjob]; rfl
      refine ⟨e.errand, errand?_eq_some.mpr ⟨task.duty, ?_, hx⟩, ⟨rfl, rfl⟩, ?_⟩
      · rw [hduties, List.getElem?_concat_length]
      · rw [hf 0 _ hx]
        rfl
    · rw [if_neg hc] at hb
      cases hb
  | _ =>
    simp only [hjob] at hb
    cases hb

lemma Serving.emitAll (h : Serving b) (host node : String) (outputs : List String) :
    Serving (b.emitAll host node outputs) := by
  induction outputs generalizing b with
  | nil => exact h
  | cons o outputs ih => exact ih (h.spawn fun i x hx => fresh_of_emitting hx)

/-- One errand has changed: it is still to be delivered, or was delivered, or something panicked. -/
lemma Serving.setErrand (h : Serving b) {t i : Nat} {x : Errand} (hx : b.errand? t i = some x)
    {z : Option Errand} (hd : b'.duties = (b.setErrand t i z).duties) {l : List Event}
    (hj : b'.journal = l ++ b.journal) (hnew : ∀ e ∈ l, ∀ t i, e.begins t i = none)
    (hz : x.phase.isOpen = true → (∃ p, z = some { x with phase := p } ∧ p.isOpen = true) ∨
      Emitted x.host x.slot l ∨ ∃ source text past, b.journal = .panicked source text :: past) :
    Serving b' := by
  refine h.extend hj (fun t' i' y host s hy hi ho => ?_) ?_
  · by_cases ht : t = t' ∧ i = i'
    · obtain ⟨rfl, rfl⟩ := ht
      obtain ⟨rfl, rfl⟩ := hi
      rw [hx] at hy
      cases hy
      rcases hz ho with ⟨p, rfl, hp⟩ | hem | hp
      · exact .inl ⟨{ x with phase := p },
          by rw [errand?_congr hd, errand?_setErrand hx, if_pos ⟨rfl, rfl⟩], ⟨rfl, rfl⟩, hp⟩
      · exact .inr (.inl hem)
      · exact .inr (.inr (.inl hp))
    · exact .inl ⟨y, by rw [errand?_congr hd, errand?_setErrand hx, if_neg ht, hy], hi, ho⟩
  · intro e he t' i' host s hb
    rw [hnew e he t' i'] at hb
    cases hb

lemma Serving.invalidate (h : Serving b) {t : Nat} {d : Duty} (hd : b.duties[t]? = some d)
    (hnone : ∀ i, d.errands i = none) (host node : String) (keys : List String) :
    Serving (b.invalidate t d host node keys) := by
  refine h.extend (l := [.invalidating t host node keys]) rfl
    (fun t' i y host' s hy hi ho => .inl ⟨y, ?_, hi, ho⟩) fun e he t' i host' s hb => ?_
  · rw [errand?_setDuty hd rfl]
    by_cases ht : t = t'
    · subst ht
      obtain ⟨d', hd', hy'⟩ := errand?_eq_some.mp hy
      rw [hd] at hd'
      cases hd'
      rw [hnone] at hy'
      cases hy'
    · rw [if_neg ht, hy]
  · rw [List.mem_singleton] at he
    subst he
    simp only [Event.begins] at hb
    by_cases ht : t = t'
    · subst ht
      rw [if_pos rfl] at hb
      obtain ⟨k, hk, hs⟩ := Option.map_eq_some_iff.mp hb
      cases hs
      refine ⟨⟨host, ⟨node, k⟩, .fresh⟩, ?_, ⟨rfl, rfl⟩, rfl⟩
      rw [errand?_setDuty hd rfl, if_pos rfl]
      simp only [hk, Option.map_some]
    · rw [if_neg ht] at hb
      cases hb

lemma Serving.finish (h : Serving b) {t : Nat} {d : Duty} {how : End}
    {engine : String → Engine} {extra : List Event} (he : b.Ends t d how engine extra) :
    Serving (b.finish t d how engine extra) := by
  refine h.extend (l := .ended t d.name how :: extra) rfl (fun t' i y host s hy hi ho => ?_) ?_
  · by_cases ht : t = t'
    · subst ht
      by_cases hp : how.proper = true
      · rw [(he.proper hp).1 i] at hy
        cases hy
      · exact .inr (.inr (.inr ⟨d.name, how, List.mem_cons_self, Bool.eq_false_iff.mpr hp⟩))
    · exact .inl ⟨y, by rw [errand?_setDuty he.duty rfl, if_neg ht, hy], hi, ho⟩
  · intro e hm t' i host s hb
    rcases List.mem_cons.mp hm with rfl | hm
    · cases hb
    · obtain ⟨host', s', pass, rfl⟩ := he.extra e hm
      cases hb

lemma Serving.move (h : Serving b) (hm : Move b b') : Serving b' := by
  cases hm with
  | quiet hq =>
    obtain ⟨notes, hj, hn⟩ := hq.journal
    refine h.same hj (fun t i x hx => (errand?_congr hq.duties t i).trans hx) fun e he t i => ?_
    have hne := hn e he
    cases e <;> first | rfl | cases hne
  | takeOff _ _ _ _ | begin _ _ _ _ | land _ _ _ _ _ | unregister _ _ _ | unsubscribe _ _ _ =>
    exact h.log rfl rfl fun _ _ => rfl
  | panic _ _ _ _ _ => exact h.log rfl rfl fun _ _ => rfl
  | register host n =>
    have hlist : Serving (b.enlist host n) := h.log rfl rfl fun _ _ => rfl
    rcases register_cases b host n with ⟨he, -, -⟩ | ⟨he, -⟩
    · rw [he]
      exact hlist.emitAll host n.id _
    · rw [he]
      exact hlist
  | subscribe host s c name _ =>
    have hrol : Serving (b.enrol host s c name) := h.log rfl rfl fun _ _ => rfl
    have hshelf : ∀ {m : Ledger} (sub : Subscription), Serving m →
        Serving (m.putOnShelf name sub) := fun sub hm =>
      hm.same (l := []) rfl (fun t i x hx => hx) (by simp)
    unfold Ledger.subscribe
    by_cases hr : b.runtime = true
    · rw [if_pos hr]
      exact hshelf _ (hrol.spawn fun i x hx => fresh_of_emitting hx)
    · rw [if_neg hr]
      exact hshelf _ hrol
  | start task _ hf _ => exact h.spawn hf
  | invalidate t d host node keys hd hnone _ _ _ => exact h.invalidate hd hnone host node keys
  | enter t i x hx _ =>
    exact h.setErrand hx rfl (l := [_]) rfl (by simp [Event.begins]) fun _ => .inl ⟨_, rfl, rfl⟩
  | look t i x pass hx _ =>
    exact h.setErrand hx rfl (l := [_]) rfl (by simp [Event.begins]) fun _ => .inl ⟨_, rfl, rfl⟩
  | advance t i x p hx ha =>
    exact h.setErrand hx rfl (l := []) rfl (by simp) fun _ => .inl ⟨p, rfl, ha.isOpen.2⟩
  | select t i x pass clears r hx _ _ _ =>
    exact h.setErrand hx rfl (l := [_]) rfl (by simp [Event.begins])
      fun _ => .inr (.inl ⟨pass, r, _, List.mem_singleton.mpr rfl⟩)
  | call t i x pass r c rest callback hx hp =>
    refine h.setErrand hx rfl (l := [_]) rfl (by simp [Event.begins]) fun ho => ?_
    rw [hp] at ho
    cases ho
  | leave t i x pass r hx hp =>
    refine h.setErrand hx rfl (l := []) rfl (by simp) fun ho => ?_
    rw [hp] at ho
    cases ho
  | drop t i x hx hp _ =>
    have hj : ∃ new, (b.drop t i x).journal = new ++ b.journal ∧
        ∀ e ∈ new, ∀ t i, e.begins t i = none := by
      unfold Ledger.drop
      cases x.phase.pass? with
      | none => exact ⟨[], rfl, by simp⟩
      | some pass => exact ⟨[.abandoned x.host x.slot pass], rfl, by simp [Event.begins]⟩
    obtain ⟨new, hj, hnew⟩ := hj
    exact h.setErrand hx (duties_drop b t i x) hj hnew fun _ => .inr (.inr hp)
  | finish t d how engine extra he => exact h.finish he

/-! ## The shelf -/

/-- The subscription is the latest of its name, and its first delivery was prepared with it. -/
def OnShelf (l : List Event) (name : String) (s : Subscription) : Prop :=
  match s.delivery with
  | .spawned t => (Job.follow t).Awaits name s l
  | .deferred e => (Job.emit e).Awaits name s l
  | .taken _ => True

def Shelved (b : Ledger) : Prop := ∀ name s, b.shelf name = some s → OnShelf b.journal name s

lemma OnShelf.append {name : String} {s : Subscription} {l new : List Event}
    (h : OnShelf l name s) (hn : ∀ host j c, .subscribed host j c name ∉ new) :
    OnShelf (new ++ l) name s := by
  have hboth : ∀ {later : List Event}, (∀ host j c, .subscribed host j c name ∉ later) →
      ∀ host j c, .subscribed host j c name ∉ new ++ later := by
    intro later hl host j c hm
    rcases List.mem_append.mp hm with hm | hm
    · exact hn host j c hm
    · exact hl host j c hm
  unfold OnShelf at h ⊢
  cases hd : s.delivery with
  | spawned t =>
    rw [hd] at h
    obtain ⟨later, earlier, hl, rfl⟩ := h
    exact ⟨new ++ later, earlier, hboth hl, by rw [List.append_assoc]⟩
  | deferred e =>
    rw [hd] at h
    obtain ⟨hh, hs, later, earlier, hl, rfl⟩ := h
    exact ⟨hh, hs, new ++ later, earlier, hboth hl, by rw [List.append_assoc]⟩
  | taken t => exact True.intro

lemma OnShelf.taken {name : String} {s : Subscription} {l : List Event}
    (h : s.delivery.isTaken = true) : OnShelf l name s := by
  unfold OnShelf
  cases hd : s.delivery with
  | taken t => exact True.intro
  | _ =>
    rw [hd] at h
    cases h

lemma Shelved.same (h : Shelved b)
    (hs : ∀ name s, b'.shelf name = some s → b.shelf name = some s ∨ s.delivery.isTaken = true)
    {l : List Event} (hj : b'.journal = l ++ b.journal)
    (hn : ∀ e ∈ l, ∀ host j c name, e ≠ .subscribed host j c name) : Shelved b' := by
  intro name s hsub
  rcases hs name s hsub with hold | ht
  · rw [hj]
    exact (h name s hold).append fun host j c hm => hn _ hm host j c name rfl
  · exact .taken ht

lemma Shelved.log (h : Shelved b) (hs : b'.shelf = b.shelf) {e : Event}
    (hj : b'.journal = e :: b.journal) (he : ∀ host j c name, e ≠ .subscribed host j c name) :
    Shelved b' :=
  h.same (fun name s hsub => .inl (by rw [← hs]; exact hsub)) (l := [e]) hj (by simpa using he)

lemma Shelved.emitAll (h : Shelved b) (host node : String) (outputs : List String) :
    Shelved (b.emitAll host node outputs) := by
  induction outputs generalizing b with
  | nil => exact h
  | cons o outputs ih => exact ih (h.log rfl rfl (by simp))

/-- Another subscription takes the place of those of its name. -/
lemma Shelved.put (h : Shelved b) {name : String} {s : Subscription}
    (hs : ∀ n, b'.shelf n = if name = n then some s else b.shelf n) {l : List Event}
    (hj : b'.journal = l ++ b.journal) (hon : OnShelf b'.journal name s)
    (hn : ∀ n, name ≠ n → ∀ host j c, .subscribed host j c n ∉ l) : Shelved b' := by
  intro n sub hsub
  rw [hs] at hsub
  by_cases he : name = n
  · subst he
    rw [if_pos rfl] at hsub
    cases hsub
    exact hon
  · rw [if_neg he] at hsub
    rw [hj]
    exact (h n sub hsub).append (hn n he)

lemma Shelved.subscribe (h : Shelved b) (host : String) (s : Slot) (c : Nat) (name : String) :
    Shelved (b.subscribe host s c name) := by
  have hother : ∀ (task : Task) (t : Nat) (n : String), name ≠ n → ∀ i j d,
      (.subscribed i j d n : Event) ∉ [.started t task, .subscribed host s c name] := by
    intro task t n hn i j d hm
    rcases List.mem_cons.mp hm with he | hm
    · cases he
    · cases List.mem_singleton.mp hm
      exact hn rfl
  unfold Ledger.subscribe
  by_cases hr : b.runtime = true
  · rw [if_pos hr]
    exact h.put (fun n => rfl) (l := [.started b.duties.length (.emitting host s),
      .subscribed host s c name]) rfl ⟨[], b.journal, by simp, rfl⟩ (hother _ _)
  · rw [if_neg hr]
    exact h.put (fun n => rfl) (l := [.subscribed host s c name]) rfl
      ⟨rfl, rfl, [], b.journal, by simp, rfl⟩ fun n hn i j d hm =>
        hother (.emitting host s) 0 n hn i j d (List.mem_cons_of_mem _ hm)

lemma Shelved.move (h : Shelved b) (hm : Move b b') : Shelved b' := by
  cases hm with
  | quiet hq =>
    obtain ⟨notes, hj, hn⟩ := hq.journal
    refine h.same hq.shelf hj fun e he => ?_
    have hne := hn e he
    cases e <;> first | cases hne; done | simp
  | takeOff _ _ _ _ | begin _ _ _ _ | land _ _ _ _ _ | unregister _ _ _ | unsubscribe _ _ _ =>
    exact h.log rfl rfl (by simp)
  | panic _ _ _ _ _ | enter _ _ _ _ _ | look _ _ _ _ _ _ => exact h.log rfl rfl (by simp)
  | start _ _ _ _ | invalidate _ _ _ _ _ _ _ _ _ _ => exact h.log rfl rfl (by simp)
  | select _ _ _ _ _ _ _ _ _ _ | call _ _ _ _ _ _ _ _ _ _ => exact h.log rfl rfl (by simp)
  | register host n =>
    have hlist : Shelved (b.enlist host n) := h.log rfl rfl (by simp)
    rcases register_cases b host n with ⟨he, -, -⟩ | ⟨he, -⟩
    · rw [he]
      exact hlist.emitAll host n.id _
    · rw [he]
      exact hlist
  | subscribe host s c name _ => exact h.subscribe host s c name
  | advance _ _ _ _ _ _ | leave _ _ _ _ _ _ _ => exact h
  | drop t i x _ _ _ =>
    unfold Ledger.drop
    cases x.phase.pass? with
    | none => exact h
    | some pass => exact h.log rfl rfl (by simp)
  | finish t d how engine extra he =>
    refine h.same (fun _ _ hs => .inl hs) (l := .ended t d.name how :: extra) rfl fun e hm => ?_
    rcases List.mem_cons.mp hm with rfl | hm
    · simp
    · obtain ⟨host, s, pass, rfl⟩ := he.extra e hm
      simp

lemma Shelved.awaits (h : Shelved b) {task : Task} {name : String} {s : Subscription}
    (hb : b.Backs task name s) : task.job.Awaits name s b.journal := by
  obtain ⟨-, hjob⟩ := hb
  cases hj : task.job with
  | nothing => exact True.intro
  | follow t =>
    rw [hj] at hjob
    exact h name _ hjob
  | emit e =>
    rw [hj] at hjob
    exact h name _ hjob
  | _ =>
    rw [hj] at hjob
    exact hjob

end Ledger

end Dataflow
