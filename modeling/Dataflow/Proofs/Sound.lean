import Dataflow.Proofs.Prompts
import Dataflow.Proofs.Receipts
import Dataflow.Proofs.Records
import Dataflow.Proofs.Timely
import Dataflow.Proofs.Watchful

/-!
# Sound ledgers

What the invariants say together is kept by every move, and with it the history stays lawful.
-/

namespace Dataflow

namespace Ledger

open Journal

variable {b b' : Ledger}

structure Sound (b : Ledger) : Prop where
  mirrors : Mirrors b
  logged : Logged b
  known : Known b
  tallied : Tallied b
  receipts : Receipts b
  recorded : Recorded b
  timely : Timely b
  watchful : Watchful b
  accounted : Accounted b
  serving : Serving b
  prompted : Prompted b
  shelved : Shelved b
  lawful : Lawful b.policy b.journal

namespace Sound

lemma fits_takenOff (h : Sound b) {host : String} {s : Slot}
    (hc : (b.engine host).cached s = none) (hf : (b.engine host).flying s = none) :
    (Event.takenOff host s b.flights.length).Fits b.policy b.journal :=
  ⟨(h.mirrors.cached host s).symm.trans hc, (h.mirrors.flying host s).symm.trans hf, h.logged.count⟩

lemma fits_landed (h : Sound b) {ticket : Nat} {d : Departure}
    (hd : b.flights[ticket]? = some d) (hn : d.landed = none) (c : Content) :
    (Event.landed d.host d.slot ticket ⟨b.results, c⟩
      ((b.engine d.host).flying d.slot = some ticket)).Fits b.policy b.journal := by
  obtain ⟨later, earlier, hj, -⟩ := h.logged.target ticket d hd
  refine ⟨?_, ?_, fun host' s' ticket' r' kept' hm => ?_⟩
  · rw [hj]
    exact List.mem_append_right _ List.mem_cons_self
  · rw [h.mirrors.flying]
  · obtain ⟨hlt, d', hd', hl, -⟩ := h.logged.landing host' s' ticket' r' kept' hm
    refine ⟨?_, hlt⟩
    rintro rfl
    rw [hd] at hd'
    cases hd'
    rw [hn] at hl
    cases hl

lemma fits_delivering (h : Sound b) (hs : b.Silent) {host : String} {s : Slot} {r : Result}
    (hc : (b.engine host).cached s = some r) (pass : Pass) :
    (Event.delivering host s pass r
      ((b.engine host).select (b.policy host) s r).1).Fits b.policy b.journal := by
  refine ⟨(h.mirrors.cached host s).symm.trans hc, h.receipts.owed_none hs, fun c hm => ?_,
    fun c he => ?_, fun c hm last hr => ?_⟩
  · rw [Engine.mem_select] at hm
    exact (h.mirrors.roll host s c).mp hm.1
  · have hin := (h.mirrors.roll host s c).mpr he
    have hpos := h.tallied.pos hin
    cases hentry : (b.engine host).delivered.get? c with
    | none =>
      unfold Engine.registrations at hpos
      rw [hentry] at hpos
      cases hpos
    | some entry =>
      by_cases hhas : entry.has (b.policy host) r = true
      · unfold Delivered.has at hhas
        cases hlast : entry.result with
        | none =>
          rw [hlast] at hhas
          cases hhas
        | some last =>
          rw [hlast] at hhas
          refine .inr ⟨last, h.receipts.told host c last ?_, hhas⟩
          unfold Engine.lastOf
          rw [hentry, Option.bind_some, hlast]
      · exact .inl ((Engine.mem_select _ _ _ _ c).mpr
          ⟨hin, entry, hentry, Bool.eq_false_iff.mpr hhas⟩)
  · obtain ⟨-, entry, hentry, hhas⟩ := (Engine.mem_select _ _ _ _ c).mp hm
    have hlast := h.recorded host c last hr
    rw [Engine.lastOf, hentry, Option.bind_some] at hlast
    rwa [Delivered.has, hlast] at hhas

lemma fits_panicked (h : Sound b) {source : PanicSource} {text : String}
    (hformer : source = .former → Panicked b.journal)
    (hengine : source = .engine → ∃ t i x pass, b.errand? t i = some x ∧
      x.phase = .ready pass (b.engine x.host).clears ∧ (b.engine x.host).cached x.slot = none)
    (hsilent : source ≠ .subscriber → b.Silent) :
    (Event.panicked source text).Fits b.policy b.journal := by
  refine ⟨?_, hformer, fun hs => h.receipts.owed_none (hsilent hs)⟩
  rintro rfl
  obtain ⟨t, i, x, pass, hx, hp, hc⟩ := hengine rfl
  exact h.timely.not_fatal hx hp hc

lemma fits_ended (h : Sound b) {t : Nat} {d : Duty} {how : End} {engine : String → Engine}
    {extra : List Event} (he : b.Ends t d how engine extra) :
    (Event.ended t d.name how).Fits b.policy (extra ++ b.journal) := by
  have hold : ∀ e : Event, (∀ host s pass, e ≠ .abandoned host s pass) →
      e ∈ extra ++ b.journal → e ∈ b.journal := by
    intro e hne hm
    rcases List.mem_append.mp hm with hm | hm
    · obtain ⟨host, s, pass, heq⟩ := he.extra e hm
      exact absurd heq (hne host s pass)
    · exact hm
  have hfirst : ∀ name' how', .ended t name' how' ∉ b.journal := by
    intro name' how' hm
    obtain ⟨d', hd', hend⟩ := h.accounted.ending t name' how' hm
    rw [he.duty] at hd'
    cases hd'
    rw [he.going] at hend
    cases hend
  refine ⟨fun name' how' hm => hfirst name' how' (hold _ (by simp) hm),
    fun host c => (h.receipts.abandon he.silent he.extra host c).2, ?_, he.cancelled,
    fun text ht => panicked_append (he.panicked text ht) extra, fun hp => ⟨?_, ?_⟩⟩
  · obtain ⟨task, hm, hname⟩ := h.accounted.started t d he.duty
    exact ⟨task, List.mem_append_right _ hm, hname⟩
  · intro later e earlier i host s hsplit hb
    rcases append_split hsplit with ⟨m, rfl, hj⟩ | ⟨m, hm, -⟩
    · rcases h.serving m e earlier t i host s hj hb with
        ⟨x, hx, -⟩ | hem | hpan | ⟨name, how', hend, -⟩
      · rw [(he.proper hp).1 i] at hx
        cases hx
      · exact .inl (emitted_append hem extra)
      · exact .inr (panicked_append hpan extra)
      · refine absurd ?_ (hfirst name how')
        rw [hj]
        exact List.mem_append_left _ hend
    · obtain ⟨host', s', pass, rfl⟩ := he.extra e (by
        rw [hm]
        exact List.mem_append_right _ List.mem_cons_self)
      cases hb
  · intro task t' hm hjob
    obtain ⟨d', hd', hfollow⟩ := h.accounted.begun t task (hold _ (by simp) hm)
    rw [he.duty] at hd'
    cases hd'
    rcases hfollow t' hjob with hf | hend
    · obtain ⟨d', how', hd', hend, hnp⟩ := (he.proper hp).2 t' hf
      exact ⟨d'.name, how', List.mem_append_right _ (h.accounted.ended t' d' how' hd' hend).1, hnp⟩
    · rw [he.going] at hend
      cases hend

lemma lawful_abandon (h : Sound b) (hs : b.Silent) {new : List Event}
    (hnew : ∀ e ∈ new, ∃ host s pass, e = .abandoned host s pass) :
    Lawful b.policy (new ++ b.journal) := by
  induction new with
  | nil => exact h.lawful
  | cons e new ih =>
    have hrest := fun x hx => hnew x (List.mem_cons_of_mem e hx)
    obtain ⟨host, s, pass, rfl⟩ := hnew e List.mem_cons_self
    exact ⟨.inl fun i c => (h.receipts.abandon hs hrest i c).2, ih hrest⟩

/-- A history stays lawful when tasks are started that emit one slot each. -/
lemma lawful_emitAll (ha : Accounted b) (h : Lawful b.policy b.journal) (host node : String)
    (outputs : List String) :
    Lawful b.policy (b.emitAll host node outputs).journal := by
  induction outputs generalizing b with
  | nil => exact h
  | cons o outputs ih =>
    exact ih (b := b.spawn (.emitting host ⟨node, o⟩)) (ha.spawn rfl)
      ⟨⟨ha.count, fun name s hs => by cases hs⟩, h⟩

lemma lawful_move (h : Sound b) (hm : Move b b') : Lawful b'.policy b'.journal := by
  rw [hm.frame.2.1]
  cases hm with
  | quiet hq =>
    obtain ⟨notes, hj, hn⟩ := hq.journal
    rw [hj]
    clear hj
    induction notes with
    | nil => exact h.lawful
    | cons e notes ih =>
      refine ⟨?_, ih fun x hx => hn x (List.mem_cons_of_mem e hx)⟩
      have hne := hn e List.mem_cons_self
      cases e with
      | begun host s ticket =>
        rintro t rfl
        cases hne
      | _ => first | exact True.intro | cases hne
  | takeOff host s hc hf => exact ⟨h.fits_takenOff hc hf, h.lawful⟩
  | begin host s ticket hp =>
    refine ⟨?_, h.lawful⟩
    rintro t ht
    cases ht
    exact hp
  | land ticket d c hd hn => exact ⟨h.fits_landed hd hn c, h.lawful⟩
  | register host n =>
    have hlist : Lawful b.policy (b.enlist host n).journal :=
      ⟨h.mirrors.contains host n.id, h.lawful⟩
    have hacc : Accounted (b.enlist host n) := h.accounted.log rfl rfl rfl
    rcases register_cases b host n with ⟨he, -, -⟩ | ⟨he, -⟩
    · rw [he]
      exact lawful_emitAll hacc hlist host n.id _
    · rw [he]
      exact hlist
  | unregister host id hn =>
    refine ⟨?_, h.lawful⟩
    show (node host id b.journal).isSome = true
    rw [← h.mirrors.contains]
    exact hn
  | subscribe host s c name _ =>
    unfold Ledger.subscribe
    by_cases hr : b.runtime = true
    · rw [if_pos hr]
      have ha : Accounted (b.enrol host s c name) := h.accounted.log rfl rfl rfl
      exact ⟨⟨ha.count, fun name s hs => by cases hs⟩, True.intro, h.lawful⟩
    · rw [if_neg hr]
      exact ⟨True.intro, h.lawful⟩
  | unsubscribe _ _ _ => exact ⟨True.intro, h.lawful⟩
  | invalidate t d host node keys hd _ _ he _ =>
    obtain ⟨task, hm, -⟩ := h.accounted.started t d hd
    refine ⟨⟨⟨task, hm⟩, fun name how hm => ?_⟩, h.lawful⟩
    obtain ⟨d', hd', hend⟩ := h.accounted.ending t name how hm
    rw [hd] at hd'
    cases hd'
    rw [he] at hend
    cases hend
  | start task _ _ hh =>
    exact ⟨⟨h.accounted.count, fun name s hs => h.shelved.awaits (hh name s hs)⟩, h.lawful⟩
  | enter _ _ _ _ _ => exact ⟨True.intro, h.lawful⟩
  | look t i x pass hx hp =>
    exact ⟨fun later earlier hj => h.watchful.fits_looked hx hp hj, h.lawful⟩
  | advance _ _ _ _ _ _ | leave _ _ _ _ _ _ _ => exact h.lawful
  | select t i x pass clears r _ _ hs hc => exact ⟨h.fits_delivering hs hc pass, h.lawful⟩
  | call t i x pass r c rest callback hx hp =>
    exact ⟨(h.receipts.owed x.host c x.slot r).mpr
      ⟨t, i, x, pass, c :: rest, hx, ⟨rfl, rfl⟩, hp, List.mem_cons_self⟩, h.lawful⟩
  | drop t i x _ hp _ =>
    unfold Ledger.drop
    cases x.phase.pass? with
    | none => exact h.lawful
    | some pass => exact ⟨.inr hp, h.lawful⟩
  | panic source text hf he hs => exact ⟨h.fits_panicked hf he hs, h.lawful⟩
  | finish t d how engine extra he =>
    exact ⟨h.fits_ended he, h.lawful_abandon he.silent he.extra⟩

lemma move (h : Sound b) (hm : Move b b') : Sound b' where
  mirrors := h.mirrors.move hm
  logged := h.logged.move h.mirrors hm
  known := h.known.move hm
  tallied := h.tallied.move hm
  receipts := h.receipts.move hm
  recorded := h.recorded.move h.mirrors h.tallied hm
  timely := h.timely.move h.logged hm
  watchful := h.watchful.move h.mirrors h.logged (h.lawful_move hm) hm
  accounted := h.accounted.move hm
  serving := h.serving.move hm
  prompted := h.prompted.move h.mirrors hm
  shelved := h.shelved.move hm
  lawful := h.lawful_move hm

lemma moves (h : Sound b) (hm : Moves b b') : Sound b' := hm.keep (fun _ _ => Sound.move) h

/-- When no emission of the slot is left, what was to be emitted was emitted, unless something
panicked or was cancelled. -/
lemma emitted (h : Sound b) {later earlier : List Event} {e : Event} {t i : Nat} {host : String}
    {s : Slot} (hj : b.journal = later ++ e :: earlier) (he : e.begins t i = some (host, s))
    (hx : ∀ t i x, b.errand? t i = some x → ¬x.Is host s) (hp : ¬Panicked b.journal)
    (hc : ∀ t name, .ended t name .cancelled ∉ b.journal) : Emitted host s later := by
  rcases h.serving later e earlier t i host s hj he with
    ⟨x, hget, his, -⟩ | hem | hpan | ⟨name, how, hend, hw⟩
  · exact absurd his (hx t i x hget)
  · exact hem
  · rw [hj] at hp
    obtain ⟨source, text, hm⟩ := hpan
    exact absurd ⟨source, text, List.mem_append_left _ hm⟩ hp
  · have hm : .ended t name how ∈ b.journal := by
      rw [hj]
      exact List.mem_append_left _ hend
    cases how with
    | cancelled => exact absurd hm (hc t name)
    | panicked text =>
      obtain ⟨after, before, hsplit⟩ := List.append_of_mem hm
      have hlaw := h.lawful
      rw [hsplit] at hlaw hp
      obtain ⟨source, text', hpan⟩ := hlaw.fits.2.2.2.2.1 text rfl
      exact absurd ⟨source, text', List.mem_append_right _ (List.mem_cons_of_mem _ hpan)⟩ hp
    | _ => cases hw

end Sound

end Ledger

end Dataflow
