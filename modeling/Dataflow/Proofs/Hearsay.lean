import Dataflow.Proofs.Returns

/-!
# What works go by

What a flight comes to is what its node makes of what it found in cells, of what the opening of valves
brought, and of results that have landed. Of the latter it makes no difference whether they were cached
or waited for, nor who else was given them.
-/

namespace Dataflow

/-- What may be found in cells, and what the opening of a valve may bring. -/
structure Surroundings where
  found : String → Option Outcome → Prop
  brought : Option Outcome → Prop

/-- What a recipe can go on with by what is found, brought and heard. -/
inductive Recipe.LeadsBy (S : Surroundings) (heard : String → Slot → Content → Prop) :
    Recipe → Recipe → Prop where
  | refl (r : Recipe) : LeadsBy S heard r r
  | peek {r : Recipe} {cell : String} {rest : Option Outcome → Recipe} {o : Option Outcome} :
      LeadsBy S heard r (.peek cell rest) → S.found cell o → LeadsBy S heard r (rest o)
  | announce {r rest : Recipe} {what : Announcement} :
      LeadsBy S heard r (.announce what rest) → LeadsBy S heard r rest
  | hold {r : Recipe} {what : Announcement} {rest : Option Outcome → Recipe} {o : Option Outcome} :
      LeadsBy S heard r (.hold what rest) → S.brought o → LeadsBy S heard r (rest o)
  | ask {r : Recipe} {host : String} {slot : Slot} {rest : Content → Recipe} {c : Content} :
      LeadsBy S heard r (.ask host slot rest) → heard host slot c → LeadsBy S heard r (rest c)

lemma Recipe.LeadsBy.mono {S : Surroundings} {heard heard' : String → Slot → Content → Prop}
    (hh : ∀ host s c, heard host s c → heard' host s c) {r r' : Recipe}
    (h : r.LeadsBy S heard r') : r.LeadsBy S heard' r' := by
  induction h with
  | refl => exact .refl _
  | peek _ ho ih => exact .peek ih ho
  | announce _ ih => exact .announce ih
  | hold _ ho ih => exact .hold ih ho
  | ask _ hc ih => exact .ask ih (hh _ _ _ hc)

/-- A computation of the slot has come to this content. -/
def Journal.Tells (l : List Event) (host : String) (s : Slot) (c : Content) : Prop :=
  ∃ r, Landed host s r l ∧ r.content = c

lemma Journal.Tells.mono {l l' : List Event} {host : String} {s : Slot} {c : Content}
    (h : Tells l host s c) (hl : l ⊆ l') : Tells l' host s c := by
  obtain ⟨r, hr, hc⟩ := h
  exact ⟨r, hr.mono hl, hc⟩

namespace Work

variable {S : Surroundings} {l l' : List Event} {k k' : Work} {r : Recipe} {c : Content}

/-- The node of the work has come to this recipe by what the history tells. -/
def FollowsBy (S : Surroundings) (l : List Event) (k : Work) (r : Recipe) : Prop :=
  ∃ n schema, k.target = .ok (n, schema) ∧ (n.produce k.slot.output).LeadsBy S (Journal.Tells l) r

/-- The work can come to this content by what the history tells. -/
def ComesBy (S : Surroundings) (l : List Event) (k : Work) (c : Content) : Prop :=
  (∃ f, k.target = .error f ∧ c = .error f) ∨
    ∃ handed, k.FollowsBy S l (.finish handed) ∧ k.judge handed = .ok c

lemma FollowsBy.mono (h : k.FollowsBy S l r) (hl : l ⊆ l') (ht : k'.target = k.target)
    (hs : k'.slot = k.slot) : k'.FollowsBy S l' r := by
  obtain ⟨n, schema, hn, hr⟩ := h
  refine ⟨n, schema, ht.trans hn, ?_⟩
  rw [hs]
  exact hr.mono fun host s c ht => ht.mono hl

lemma ComesBy.mono (h : k.ComesBy S l c) (hl : l ⊆ l') (ht : k'.target = k.target)
    (hs : k'.slot = k.slot) : k'.ComesBy S l' c := by
  rcases h with ⟨f, hf, hc⟩ | ⟨handed, hr, hj⟩
  · exact .inl ⟨f, ht.trans hf, hc⟩
  · refine .inr ⟨handed, hr.mono hl ht hs, ?_⟩
    unfold judge at hj ⊢
    rw [ht, hs]
    exact hj

/-- What the innermost work goes on with in one step, or comes to. -/
inductive Makes (w : World) (k : Work) : Focus → Prop where
  | begin {n : Node} {schema : Schema} : k.target = .ok (n, schema) →
      Makes w k (.make (n.produce k.slot.output))
  | fail {f : Failure} : k.target = .error f → Makes w k (.made (.error f))
  | opened {valve : Nat} {rest : Option Outcome → Recipe} {v : Valve} {o : Option Outcome} :
      k.stage = .held valve rest → w.valves[valve]? = some v → v.opened = some o →
      Makes w k (.make (rest o))
  | peeked {cell : String} {rest : Option Outcome → Recipe} : w.focus = .make (.peek cell rest) →
      Makes w k (.make (rest (w.cells.get? cell)))
  | announced {what : Announcement} {rest : Recipe} : w.focus = .make (.announce what rest) →
      Makes w k (.make rest)
  | cached {host : String} {slot : Slot} {rest : Content → Recipe} {res : Result} :
      w.focus = .make (.ask host slot rest) → (w.engine host).cached slot = some res →
      Makes w k (.make (rest res.content))
  | answered {own : Handle} {rest : Content → Recipe} {res : Result} : k.stage = .asking own rest →
      w.focus = .answer res → Makes w k (.make (rest res.content))
  | finished {handed : Except Cause Payload} {c : Content} : w.focus = .make (.finish handed) →
      k.judge handed = .ok c → Makes w k (.made c)

end Work

namespace World

variable {w w' : World} {S : Surroundings}

lemma ResumesWork.makes (hr : w.ResumesWork w') (hm : w'.focus.isMaking = true) :
    ∃ k, w.party = .work k ∧ k.Makes w w'.focus := by
  cases hr with
  | begins hp _ ht => exact ⟨_, hp, .begin ht⟩
  | misses hp _ ht => exact ⟨_, hp, .fail ht⟩
  | opened hp hs hv ho => exact ⟨_, hp, .opened hs hv ho⟩
  | waits | polls | stalls => cases hm

lemma MakesRecipe.makes {r : Recipe} (hr : w.MakesRecipe r w') (hf : w.focus = .make r)
    (hm : w'.focus.isMaking = true) : ∃ k, w.party = .work k ∧ k.Makes w w'.focus := by
  cases hr with
  | finishes hp hj => exact ⟨_, hp, .finished hf hj⟩
  | peeks hp => exact ⟨_, hp, .peeked hf⟩
  | announces hp => exact ⟨_, hp, .announced hf⟩
  | finds hp hc => exact ⟨_, hp, .cached hf hc⟩
  | misfits | crashes | holds | asks | stalls => cases hm

lemma HandsAnswer.makes {r : Result} (ha : w.HandsAnswer r w') (hf : w.focus = .answer r)
    (hm : w'.focus.isMaking = true) : ∃ k, w.party = .work k ∧ k.Makes w w'.focus := by
  cases ha with
  | resumes hp hs => exact ⟨_, hp, .answered hs hf⟩
  | readies | ends | stalls => cases hm

lemma FinishesWork.isMaking {c : Content} (hf : w.FinishesWork c w') :
    w'.focus.isMaking = false := by
  cases hf <;> rfl

lemma MakesRecipe.driving {r : Recipe} (hm : w.MakesRecipe r w') : w'.driving = w.driving := by
  cases hm with
  | holds => exact driving_setWork _ _
  | asks => exact (driving_setWork _ _).trans (keepsDriving_join w _ _).driving
  | finishes | misfits | crashes | peeks | announces | finds | stalls => rfl

/-- While flights are driven, only the innermost work goes on. -/
lemma makes_step (h : w.Sane) (hd : w.Due) (hm : w.step.focus.isMaking = true)
    (hne : w.step.driving ≠ []) :
    w.step.driving = w.driving ∧ ∃ k, w.party = .work k ∧ k.Makes w w.step.focus := by
  cases hf : w.focus with
  | work =>
    simp only [World.step, hf] at hm ⊢
    exact ⟨w.resumesWork.keepsDriving.driving, w.resumesWork.makes hm⟩
  | make r =>
    simp only [World.step, hf] at hm ⊢
    exact ⟨(w.makesRecipe r).driving, (w.makesRecipe r).makes hf hm⟩
  | made c =>
    simp only [World.step, hf, (w.finishesWork c).isMaking] at hm
    cases hm
  | poll own =>
    simp only [World.step, hf, isMaking_of_isYielding (w.pollsFlight own).isYielding] at hm
    cases hm
  | answer r =>
    simp only [World.step, hf] at hm ⊢
    exact ⟨(w.handsAnswer r).keepsDriving.driving, (w.handsAnswer r).makes hf hm⟩
  | stall =>
    simp only [World.step, hf, isMaking_of_isYielding w.stalls.isYielding] at hm
    cases hm
  | panic text =>
    simp only [World.step, hf, isMaking_of_isYielding ((w.unwinds text).isYielding hf)] at hm
    cases hm
  | _ => exact (hne (grounded_step h hd (by rw [hf]; rfl))).elim

/-- What the flight waits for, and what it has come to, is what its node makes of what it was told. -/
structure Informed (S : Surroundings) (w : World) (f : Flight) : Prop where
  waits : (f.work.stage = .fresh ∨ f.work.stage = .away) ∨
    ∃ r, Stage.Waits w.flights r f.work.stage ∧ f.work.FollowsBy S w.journal r
  lands : ∀ r, f.status = .landed r → f.work.ComesBy S w.journal r.content

/-- The work goes on with what its node makes of what it was told, or has come to that. -/
def Keeping (S : Surroundings) (w : World) (k : Work) : Focus → Prop
  | .make r => k.FollowsBy S w.journal r
  | .made c => k.ComesBy S w.journal c
  | _ => True

/-- All computations of a pipeline go by what they were told. -/
structure Versed (S : Surroundings) (host : String) (w : World) : Prop where
  flights : ∀ (ticket : Nat) f, w.flights[ticket]? = some f → f.work.host = host → w.Informed S f
  keeping : ∀ ticket f, w.ticket? = some ticket → w.flights[ticket]? = some f →
    f.work.host = host → w.Keeping S f.work w.focus

/-- What is found in cells and behind valves is of that kind. -/
structure Within (S : Surroundings) (w : World) : Prop where
  found : ∀ cell, S.found cell (w.cells.get? cell)
  brought : ∀ v ∈ w.valves, ∀ o, v.opened = some o → S.brought o

lemma Informed.course {ticket : Nat} {f f' : Flight} (h : w.Informed S f)
    (hk : w.ticket? = some ticket → w.Keeping S f.work w.focus) (ha : Advances w w')
    (hc : Course w w'.flights ticket f f') : w'.Informed S f' where
  waits := by
    rcases hc.stage with hs | ⟨ht, r, hf, hw⟩
    · rcases h.waits with hrest | ⟨r, hw, hr⟩
      · exact .inl (hs.rested hrest)
      · rcases hw.noFurther hs with hw | haway
        · exact .inr ⟨r, hw.mono fun _ _ _ => ha.serves,
            hr.mono ha.journal.subset hc.target hc.slot⟩
        · exact .inl (.inr haway)
    · have hr := hk ht
      rw [hf] at hr
      exact .inr ⟨r, hw, hr.mono ha.journal.subset hc.target hc.slot⟩
  lands := fun r hl => by
    rcases hc.lands r hl with hl | ⟨ht, hf⟩
    · exact (h.lands r hl).mono ha.journal.subset hc.target hc.slot
    · have hr := hk ht
      rw [hf] at hr
      exact hr.mono ha.journal.subset hc.target hc.slot

lemma informed_of_young {f : Flight} (h : f.Young) : w.Informed S f where
  waits := .inl h.stage
  lands := fun r hl => by
    have hnone := h.landed
    rw [Status.landed_iff.mp hl] at hnone
    cases hnone

/-- A work that waits does so with a recipe that it has come to. -/
lemma Informed.waiting {f : Flight} (h : w.Informed S f)
    (hs : f.work.stage ≠ .fresh ∧ f.work.stage ≠ .away) :
    ∃ r, Stage.Waits w.flights r f.work.stage ∧ f.work.FollowsBy S w.journal r :=
  h.waits.resolve_left fun hr => hr.elim hs.1 hs.2

/-- The innermost work is told what has landed. -/
lemma Keeping.makes (h : w.Sane) (hin : w.Within S) {f : Flight} (hp : w.party = .work f.work)
    (hi : w.Informed S f) (hk : w.Keeping S f.work w.focus) {focus : Focus}
    (hm : f.work.Makes w focus) : w.Keeping S f.work focus := by
  cases hm with
  | begin ht => exact ⟨_, _, ht, .refl _⟩
  | fail ht => exact .inl ⟨_, ht, rfl⟩
  | @opened valve rest v o hs hv ho =>
    obtain ⟨r, hw, n, schema, ht, hr⟩ := hi.waiting (by rw [hs]; exact ⟨by rintro ⟨⟩, by rintro ⟨⟩⟩)
    rw [hs] at hw
    cases hw
    exact ⟨n, schema, ht, .hold hr (hin.brought v (List.mem_of_getElem? hv) o ho)⟩
  | peeked hf =>
    rw [hf] at hk
    obtain ⟨n, schema, ht, hr⟩ := hk
    exact ⟨n, schema, ht, .peek hr (hin.found _)⟩
  | announced hf =>
    rw [hf] at hk
    obtain ⟨n, schema, ht, hr⟩ := hk
    exact ⟨n, schema, ht, .announce hr⟩
  | cached hf hc =>
    rw [hf] at hk
    obtain ⟨n, schema, ht, hr⟩ := hk
    exact ⟨n, schema, ht, .ask hr ⟨_, h.landed_of_cached hc, rfl⟩⟩
  | @answered own rest res hs hf =>
    obtain ⟨r, hw, n, schema, ht, hr⟩ := hi.waiting (by rw [hs]; exact ⟨by rintro ⟨⟩, by rintro ⟨⟩⟩)
    have hawaits : w.party.awaits = some own.ticket := by
      rw [hp, Party.awaits, Party.share?, Work.share?, hs]
      rfl
    rw [hs] at hw
    cases hw with
    | asking _ hserves =>
      exact ⟨n, schema, ht, .ask hr ⟨res, h.landed_of_answer hf hawaits hserves, rfl⟩⟩
  | finished hf hj =>
    rw [hf] at hk
    exact .inr ⟨_, hk, hj⟩

lemma Keeping.mono {k k' : Work} {focus : Focus} (h : w.Keeping S k focus)
    (hj : w.journal <:+ w'.journal) (ht : k'.target = k.target) (hs : k'.slot = k.slot) :
    w'.Keeping S k' focus := by
  cases focus with
  | make r => exact Work.FollowsBy.mono h hj.subset ht hs
  | made c => exact Work.ComesBy.mono h hj.subset ht hs
  | _ => exact True.intro

lemma keeping_of_isMaking {k : Work} {focus : Focus} (hf : focus.isMaking = false) :
    w.Keeping S k focus := by
  cases focus with
  | make r => cases hf
  | made c => cases hf
  | _ => exact True.intro

variable {host : String}

lemma Versed.informed (h : w.Versed S host) (ha : Advances w w') {ticket : Nat} {f' : Flight}
    (hf' : w'.flights[ticket]? = some f') (hh : f'.work.host = host) : w'.Informed S f' := by
  cases hf : w.flights[ticket]? with
  | none => exact informed_of_young (ha.young ticket f' hf' hf)
  | some f =>
    obtain ⟨g, hg, hc⟩ := ha.flights ticket f hf
    rw [hf'] at hg
    cases hg
    have hhost := hc.host.symm.trans hh
    exact (h.flights ticket f hf hhost).course (fun ht => h.keeping ticket f ht hf hhost) ha hc

lemma Versed.step (h : w.Versed S host) (hs : w.Sane) (hd : w.Due) (hin : w.Within S) :
    w.step.Versed S host := by
  have ha := advances_step hs.poised hd
  refine ⟨fun ticket f' hf' hh => h.informed ha hf' hh, fun ticket f' ht hf' hh => ?_⟩
  cases hm : w.step.focus.isMaking with
  | false => exact keeping_of_isMaking hm
  | true =>
    have hne : w.step.driving ≠ [] := fun hnil => by
      rw [ticket?, hnil] at ht
      cases ht
    obtain ⟨hdriving, k, hp, hmakes⟩ := makes_step hs hd hm hne
    rw [ticket?, hdriving] at ht
    obtain ⟨f, hf, -⟩ := hs.poised.steady.driven ticket (List.mem_of_mem_head? ht)
    obtain ⟨outer, hdr⟩ := List.head?_eq_some_iff.mp ht
    have hwork : w.party = .work f.work := by
      rw [party_eq, hdr]
      simp only [partyAt, hf]
    rw [hwork] at hp
    cases hp
    obtain ⟨g, hg, hc⟩ := ha.flights ticket f hf
    rw [hf'] at hg
    cases hg
    have hhost := hc.host.symm.trans hh
    have hkeeping := Keeping.makes hs hin hwork (h.flights ticket f hf hhost)
      (h.keeping ticket f ht hf hhost) hmakes
    exact hkeeping.mono ha.journal hc.target hc.slot

lemma Versed.opens (h : w.Versed S host) (hr : KeepsDriving w w') (hf : w'.focus.isOpening = true) :
    w'.Versed S host := by
  refine ⟨fun ticket f' hf' hh => h.informed hr.toNoFurther.advances hf' hh, fun _ _ _ _ _ => ?_⟩
  cases hfocus : w'.focus with
  | make r =>
    rw [hfocus] at hf
    cases hf
  | made c =>
    rw [hfocus] at hf
    cases hf
  | _ => exact True.intro

lemma Through.versed {start : World} (h : Through (Within S) start w) (hs : start.Sane)
    (hd : start.Due) (hv : start.Versed S host) : w.Versed S host := by
  exact h.maintains (P := fun w => w.Versed S host) hs hd hv (fun w w' hp hr hf => hp.opens hr hf)
    fun w hw hd hin hp => hp.step hw hd hin

end World

end Dataflow
