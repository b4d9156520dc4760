import Dataflow.Proofs.Excerpts
import Dataflow.Proofs.Tallies
import Dataflow.Proofs.Rolls

/-!
# Splitting a run

Whatever a world does, one of its two strands does in a run of its own, and at most an echo of it
reaches the other one.
-/

namespace Dataflow

namespace World

variable {S T : Side} {v u w : World} {a : Action}

/-- No task runs. -/
def AtRest (w : World) : Prop := w.focus = .idle ∧ w.driving = [] ∧ w.running = none

lemma Sane.atRest (h : w.Sane) (hf : w.focus = .idle) : w.AtRest := by
  have ha := h.poised.aimed
  rw [hf] at ha
  exact ⟨hf, ha.2⟩

/-- While no task runs either strand may lead. -/
lemma Lead.swap (h : Lead S T v u w) (hw : w.AtRest) (hu : u.AtRest) : Lead T S u v w where
  opposite := h.opposite.symm
  own := h.other
  other := h.own
  running := by
    rw [hw.2.2, hu.2.2]
    rfl
  driving := by
    rw [hw.2.1, hu.2.1]
    rfl
  deliveries := fun hr => absurd hu.2.2 hr
  focus := by
    rw [hw.1, hu.1]
    rfl
  alone := by
    intro r hr
    rw [hu.1] at hr
    cases hr

lemma Lead.idle (h : Lead S T v u w) (hw : w.focus = .idle) : v.focus = .idle := by
  have hf := h.focus
  rw [hw] at hf
  cases hv : v.focus with
  | idle => rfl
  | _ =>
    rw [hv] at hf
    cases hf

lemma refuses_iff : w.refuses a = true ↔ ∃ why, (w.perform a).2 = .reply (.refused why) := by
  unfold refuses
  cases (w.perform a).2 with
  | panic text => simp
  | reply r => cases r <;> simp

lemma not_refused (h : w.refuses a = false) (why : Refusal) :
    (w.perform a).2 ≠ .reply (.refused why) := by
  intro hw
  rw [refuses_iff.mpr ⟨why, hw⟩] at h
  cases h

lemma start_refused {name : String} {j : Job} {why : Refusal}
    (h : (w.start name j).2 = .reply (.refused why)) : (w.start name j).1 = w := by
  rcases w.start_cases name j with heq | ⟨-, heq⟩
  · rw [heq]
    rfl
  · rw [heq] at h
    cases h

lemma await_refused {name sub : String} {lent : Bool} {why : Refusal}
    (h : (w.await name sub lent).2 = .reply (.refused why)) : (w.await name sub lent).1 = w := by
  rcases w.await_cases name sub lent with ⟨why', heq⟩ | ⟨s, -, -, -, heq⟩
  · rw [heq]
    rfl
  · rw [heq] at h
    cases h

lemma resolve_refused {choice : ValveChoice} {o : Option Outcome} {why : Refusal}
    (h : (w.resolve choice o).2 = .reply (.refused why)) : (w.resolve choice o).1 = w := by
  rcases w.resolve_cases choice o with heq | ⟨i, -, heq⟩
  · rw [heq]
    rfl
  · rw [heq] at h
    cases h

lemma cancel_refused {name : String} {why : Refusal}
    (h : (w.cancel name).2 = .reply (.refused why)) : (w.cancel name).1 = w := by
  rcases w.cancel_cases name with heq | ⟨t, task, -, -, heq⟩
  · rw [heq]
    rfl
  · rw [heq] at h
    cases h

/-- An action that is not carried out builds a pipeline at most. -/
lemma perform_refused {why : Refusal} (h : (w.perform a).2 = .reply (.refused why)) :
    (w.perform a).1 = w ∨ ∃ host, (w.perform a).1 = w.use host := by
  cases a with
  | settle | unknown _ => exact .inl rfl
  | setCell _ _ | register _ _ _ | subscribe _ _ _ _ | unsubscribe _ _ _ | dropSubscription _
  | dropCallback _ | panic _ => cases h
  | getNode _ _ | getSchema _ _ _ | cached _ _ | initialized _ | describe _ =>
    exact w.looks_perform _ rfl
  | unregister host id =>
    simp only [perform, unregister] at h
    cases hn : ((w.use host).engine host).nodes.get? id <;> rw [hn] at h <;> cases h
  | restore host id =>
    simp only [perform] at h ⊢
    cases hn : w.removed.get? id with
    | none => exact .inl rfl
    | some n =>
      rw [hn] at h
      cases h
  | reregister host id =>
    simp only [perform] at h
    cases hn : ((w.use host).engine host).node id <;> rw [hn] at h <;> cases h
  | compute host _ _ | output host _ _ | invalidate host _ _ _ =>
    exact .inr ⟨host, start_refused h⟩
  | invalidateBy host name handle keys =>
    simp only [perform] at h ⊢
    cases hh : w.handles.get? handle with
    | none => exact .inl rfl
    | some target =>
      rw [hh] at h
      exact .inr ⟨host, start_refused h⟩
  | unsubscribeBy sub =>
    simp only [perform] at h ⊢
    cases hs : w.subscriptions.get? sub with
    | none => exact .inl rfl
    | some s =>
      rw [hs] at h
      cases h
  | await name sub lent => exact .inl (await_refused h)
  | resolve choice o => exact .inl (resolve_refused h)
  | cancel name => exact .inl (cancel_refused h)

lemma Lead.refuse (h : Lead S T v u w) (ha : w.refuses a = true) :
    Lead S T v u (w.perform a).1 := by
  obtain ⟨why, hw⟩ := refuses_iff.mp ha
  rcases perform_refused hw with heq | ⟨host, heq⟩
  · rw [heq]
    exact h
  · rw [heq]
    exact h.use_whole host

lemma carried_out_of_callback? {callback : String} (h : a.callback? = some callback) :
    w.refuses a = false := by
  cases a with
  | subscribe _ _ _ _ | unsubscribe _ _ _ => rfl
  | _ => cases h

/-- The subscribers that a side knows after the deed, in the order in which it came to know them. -/
def meets (nodes : String → Bool) (w : World) (l : List Nat) : Deed → List Nat
  | .act a _ =>
    match w.subject? a, a.callback? with
    | some id, some callback =>
      if nodes id && !l.contains (w.subscriberOf callback).2 then l ++ [(w.subscriberOf callback).2]
      else l
    | _, _ => l
  | _ => l

lemma meets_cases (nodes : String → Bool) (w : World) (l : List Nat) (d : Deed) :
    w.meets nodes l d = l ∨ ∃ c, c ∉ l ∧ w.meets nodes l d = l ++ [c] := by
  cases d with
  | poll _ | step => exact .inl rfl
  | act a seen =>
    simp only [meets]
    cases w.subject? a with
    | none => exact .inl rfl
    | some id =>
      cases a.callback? with
      | none => exact .inl rfl
      | some callback =>
        dsimp only
        by_cases hm : nodes id = true ∧ (w.subscriberOf callback).2 ∉ l
        · refine .inr ⟨_, hm.2, if_pos ?_⟩
          simpa using hm
        · refine .inl (if_neg fun hn => hm ?_)
          simpa using hn

lemma prefix_meets (nodes : String → Bool) (w : World) (l : List Nat) (d : Deed) :
    l <+: w.meets nodes l d := by
  rcases w.meets_cases nodes l d with heq | ⟨c, -, heq⟩
  · exact ⟨[], by rw [heq, List.append_nil]⟩
  · exact ⟨[c], heq.symm⟩

lemma meets_of_callback?_none {nodes : String → Bool} {l : List Nat} {seen : Option Reply}
    (h : a.callback? = none) : w.meets nodes l (.act a seen) = l := by
  unfold meets
  dsimp only
  rw [h]
  cases w.subject? a <;> rfl

lemma meets_other {nodes : String → Bool} {l : List Nat} {seen : Option Reply} {id : String}
    (h : w.subject? a = some id) (hn : nodes id = false) : w.meets nodes l (.act a seen) = l := by
  unfold meets
  dsimp only
  rw [h]
  cases a.callback? with
  | none => rfl
  | some callback =>
    dsimp only
    rw [hn]
    rfl

lemma meets_own {nodes : String → Bool} {l : List Nat} {seen : Option Reply}
    {id callback : String} (h : w.subject? a = some id) (hn : nodes id = true)
    (hc : a.callback? = some callback) : w.meets nodes l (.act a seen) =
      if (w.subscriberOf callback).2 ∈ l then l else l ++ [(w.subscriberOf callback).2] := by
  unfold meets
  dsimp only
  rw [h, hc]
  dsimp only
  rw [hn]
  by_cases hm : (w.subscriberOf callback).2 ∈ l <;> simp [hm]

/-- The side knows its subscribers in the order of the list. -/
def Knows (S : Side) (l : List Nat) : Prop := ∀ (i : Nat) c, l[i]? = some c → S.subscriber i = c

lemma Knows.mono {l m : List Nat} (h : Knows S m) (hp : l <+: m) : Knows S l := by
  intro i c hc
  obtain ⟨t, rfl⟩ := hp
  refine h i c ?_
  rw [List.getElem?_append_left (List.getElem?_eq_some_iff.mp hc).1, hc]

/-- Nobody in the list goes by a name that is new to the side. -/
lemma Lead.not_known (h : Lead S T v u w) {l : List Nat} (hl : v.subscribers.length = l.length)
    (hk : Knows S l) {callback : String} (hv : v.callbacks.get? callback = none) :
    (w.subscriberOf callback).2 ∉ l := by
  intro hm
  obtain ⟨i, hi, hget⟩ := List.getElem_of_mem hm
  have hsub : S.subscriber i = (w.subscriberOf callback).2 :=
    hk i _ (List.getElem?_eq_some_iff.mpr ⟨hi, hget⟩)
  have hiv : i < v.subscribers.length := hl ▸ hi
  obtain ⟨s, hlist, -⟩ := h.own.roster.listed i _ (List.getElem?_eq_getElem hiv)
  have hlt := (List.getElem?_eq_some_iff.mp hlist).1
  unfold World.subscriberOf at hsub
  cases hw : w.callbacks.get? callback with
  | none =>
    rw [hw] at hsub
    have hsub : S.subscriber i = w.subscribers.length := hsub
    rw [hsub] at hlt
    exact Nat.lt_irrefl _ hlt
  | some c =>
    rw [hw] at hsub
    have hsub : S.subscriber i = c := hsub
    rw [← hsub] at hw
    rw [h.own.roster.of_named callback i hw hiv] at hv
    cases hv

/-- If the side does not know the subscriber yet, it comes next in the list. -/
lemma Lead.meets (h : Lead S T v u w) (hv : v.Steady) {l : List Nat}
    (hl : v.subscribers.length = l.length) {id callback : String} {seen : Option Reply}
    (hs : w.subject? a = some id) (hn : S.nodes id = true) (hc : a.callback? = some callback)
    (hk : Knows S (w.meets S.nodes l (.act a seen))) :
    (v.callbacks.get? callback = none →
      S.subscriber v.subscribers.length = (w.subscriberOf callback).2) ∧
    (v.subscriberOf callback).1.subscribers.length =
      (w.meets S.nodes l (.act a seen)).length := by
  have hold := hk.mono (prefix_meets _ _ _ _)
  rw [meets_own hs hn hc] at hk ⊢
  cases hget : v.callbacks.get? callback with
  | some i =>
    refine ⟨by rintro ⟨⟩, ?_⟩
    have hof : (w.subscriberOf callback).2 = S.subscriber i := by
      unfold World.subscriberOf
      rw [h.own.roster.named callback i hget]
    have hi : i < l.length := hl ▸ hv.callbacks callback i hget
    have hmem : (w.subscriberOf callback).2 ∈ l := by
      rw [hof, hold i _ (List.getElem?_eq_getElem hi)]
      exact List.getElem_mem hi
    rw [if_pos hmem, ← hl]
    unfold World.subscriberOf
    rw [hget]
  | none =>
    rw [if_neg (h.not_known hl hold hget)] at hk ⊢
    refine ⟨fun _ => ?_, ?_⟩
    · rw [hl]
      exact hk l.length _ List.getElem?_concat_length
    · unfold World.subscriberOf
      rw [hget]
      simp [hl]

/-- The deed is about a node of the side, or a step of one of its tasks. -/
def IsFor (S : Side) (w : World) : Deed → Prop
  | .act a _ => w.refuses a = false ∧ ∃ id, w.subject? a = some id ∧ S.nodes id = true
  | .poll _ => False
  | .step => ∃ i, w.running = some (S .task i)

/-- The side fits what happens in the deed. -/
structure Suits (S : Side) (l : List Nat) (w : World) (d : Deed) : Prop where
  grants : w.IsFor S d → Grants S w (w.after d)
  knows : Knows S (w.meets S.nodes l d)
  own : ∀ host sub slot callback seen, d = .act (.subscribe host sub slot callback) seen →
    S.nodes slot.node = true → S.own (w.subscriberOf callback).2 = true
  alone : ∀ host n handle seen, d = .act (.register host n handle) seen → n.AsksNothing

/-- The runs of two sides, and the run of the whole that is made of them. -/
structure Split (sc : Scene) (S T : Side) (l m : List Nat) (v u w : World) : Prop where
  here : Reachable sc.opening v
  there : Reachable sc.opening u
  whole : Reachable sc.opening w
  lead : Lead S T v u w ∧ u.focus = .idle ∨ Lead T S u v w ∧ v.focus = .idle
  known : v.subscribers.length = l.length
  known' : u.subscribers.length = m.length

variable {sc : Scene} {l m : List Nat} {d : Deed}

lemma Split.symm (h : Split sc S T l m v u w) : Split sc T S m l u v w :=
  ⟨h.there, h.here, h.whole, h.lead.symm, h.known', h.known⟩

/-- While no task runs, either side may be said to lead. -/
lemma Split.atRest (h : Split sc S T l m v u w) (hf : w.focus = .idle) :
    Lead S T v u w ∧ v.focus = .idle ∧ u.focus = .idle := by
  have hw := (Scene.sane_of_reachable h.whole).atRest hf
  rcases h.lead with ⟨hl, hu⟩ | ⟨hl, hv⟩
  · exact ⟨hl, hl.idle hf, hu⟩
  · have hrest := (Scene.sane_of_reachable h.here).atRest hv
    exact ⟨hl.swap hw hrest, hv, hl.idle hf⟩

/-- Both sides can do what is left for them of the deed, and it leads them on. -/
structure Parts (sc : Scene) (S T : Side) (l m : List Nat) (v u w : World) (d : Deed) : Prop where
  split : Split sc S T (w.meets S.nodes l d) (w.meets T.nodes m d)
    ((w.portion S d).elim v v.after) ((w.portion T d).elim u u.after) (w.after d)
  here : ∀ d' ∈ w.portion S d, v.Allows d'
  there : ∀ d' ∈ w.portion T d, u.Allows d'

lemma Parts.symm (h : Parts sc S T l m v u w d) : Parts sc T S m l u v w d :=
  ⟨h.split.symm, h.there, h.here⟩

lemma reachable_elim {start : World} {d? : Option Deed} (h : Reachable start v)
    (ha : ∀ d ∈ d?, v.Allows d) : Reachable start (d?.elim v v.after) := by
  cases d? with
  | none => exact h
  | some d => exact h.after (ha d rfl)

/-- The deed is one of the first side, and reaches the other one as an echo at most. -/
lemma Split.parts (h : Split sc S T l m v u w) (ha : w.Allows d) (d₁ d₂ : Option Deed)
    (h₁ : w.portion S d = d₁) (h₂ : w.portion T d = d₂) (hv : ∀ d' ∈ d₁, v.Allows d')
    (hu : ∀ d' ∈ d₂, u.Allows d')
    (hl : Lead S T (d₁.elim v v.after) (d₂.elim u u.after) (w.after d))
    (hf : (d₂.elim u u.after).focus = .idle)
    (hk : (d₁.elim v v.after).subscribers.length = (w.meets S.nodes l d).length)
    (hk' : (d₂.elim u u.after).subscribers.length = (w.meets T.nodes m d).length) :
    Parts sc S T l m v u w d := by
  subst h₁ h₂
  exact ⟨⟨reachable_elim h.here hv, reachable_elim h.there hu, h.whole.after ha, .inl ⟨hl, hf⟩, hk,
    hk'⟩, hv, hu⟩

/-- An echo leaves the side at rest where it is. -/
lemma echo_allowed (hf : u.focus = .idle) : ∀ d' ∈ a.echo?, u.Allows d' := by
  intro d' hd
  cases a with
  | setCell _ _ | dropSubscription _ | dropCallback _ | await _ _ _ =>
    cases hd
    exact ⟨hf, _, rfl, by rintro r ⟨⟩⟩
  | _ => cases hd

lemma echo_rests (u : World) (a : Action) : (a.echo?.elim u u.after).focus = u.focus ∧
    (a.echo?.elim u u.after).subscribers = u.subscribers := by
  cases a <;> exact ⟨rfl, rfl⟩

/-- What is about a node reaches the other side only if it takes a subscription from its name. -/
lemma echo_of_subject {id : String} (hs : w.subject? a = some id) :
    a.echo?.elim u u.after = u.bereave a := by
  cases a with
  | setCell _ _ | dropSubscription _ | dropCallback _ => cases hs
  | _ => rfl

lemma echo_of_neutral (ha : a.Neutral) : a.echo?.elim u u.after = (u.perform a).1 := by
  cases a with
  | settle | setCell _ _ | dropSubscription _ | dropCallback _ | panic _ | unknown _ => rfl
  | _ => exact ha.elim

lemma portion_of_subject {id : String} {seen : Option Reply} (hr : w.refuses a = false)
    (hs : w.subject? a = some id) : w.portion S (.act a seen) =
      if S.nodes id then some (.act a (seen.map (Reply.narrow S))) else a.echo? := by
  unfold portion
  dsimp only
  rw [hr]
  cases a with
  | resolve _ _ | cancel _ => cases hs
  | _ =>
    dsimp only
    rw [hs]
    rfl

/-- What comes back on the side, where it comes back in the whole but for the numbers. -/
lemma seen_narrow {seen : Option Reply} {reply : Reply} {p p' : Performed} (hp : p = .reply reply)
    (hq : p = p'.rename S) (hseen : ∀ r ∈ seen, r = reply) :
    ∃ reply', p' = .reply reply' ∧ ∀ r ∈ seen.map (Reply.narrow S), r = reply' := by
  subst hp
  cases p' with
  | panic text => cases hq
  | reply reply' =>
    cases hq
    refine ⟨reply', rfl, fun r hr => ?_⟩
    obtain ⟨x, hx, rfl⟩ := Option.mem_map.mp hr
    rw [hseen x hx, Reply.narrow_rename]

/-- An action on a node of the side. -/
lemma Split.subject (h : Split sc S T l m v u w) {seen : Option Reply}
    (ha : w.Allows (.act a seen)) (hr : w.refuses a = false) {id : String}
    (hs : w.subject? a = some id) (hn : S.nodes id = true) (hS : Suits S l w (.act a seen)) :
    Parts sc S T l m v u w (.act a seen) := by
  have hallowed := ha
  obtain ⟨hf, reply, hp, hseen⟩ := ha
  obtain ⟨hl, hv, hu⟩ := h.atRest hf
  have hother := hl.opposite.other hn
  have hmeets : ∀ callback, a.callback? = some callback → _ := fun callback hc =>
    hl.meets (Scene.sane_of_reachable h.here).poised.steady h.known hs hn hc hS.knows
  obtain ⟨hlead, hreply⟩ := hl.perform hs hn (not_refused hr) (hS.grants ⟨hr, id, hs, hn⟩)
    (Scene.attested_of_reachable h.whole).listed
    (fun host n handle he => hS.alone host n handle seen (he ▸ rfl))
    (fun callback hc => (hmeets callback hc).1)
    (fun host sub slot callback he => by
      subst he
      cases hs
      exact hS.own host sub slot callback seen rfl hn)
  obtain ⟨reply', hv', hseen'⟩ := seen_narrow hp hreply hseen
  have hecho := echo_of_subject (u := u) hs
  refine h.parts hallowed (some (.act a (seen.map (Reply.narrow S)))) a.echo?
    ?_ ?_ ?_ (echo_allowed hu) ?_ ?_ ?_ ?_
  · rw [portion_of_subject hr hs, if_pos hn]
  · rw [portion_of_subject hr hs, hother]
    rfl
  · rintro d' ⟨⟩
    exact ⟨hv, reply', hv', hseen'⟩
  · rw [hecho]
    exact hlead
  · rw [(echo_rests u a).1, hu]
  · show (v.perform a).1.subscribers.length = _
    have hsteady := (Scene.sane_of_reachable h.here).poised.steady
    cases hc : a.callback? with
    | none => rw [(adds_perform hsteady hc).subscribers, meets_of_callback?_none hc, h.known]
    | some callback => rw [(adds_enrol v hc).subscribers, (hmeets callback hc).2]
  · rw [(echo_rests u a).2, meets_other hs hother, h.known']

/-- An action on a valve or a task of the side, which brings up no numbers. -/
lemma Split.inner (h : Split sc S T l m v u w) (a' : Action) {seen : Option Reply}
    (ha : w.Allows (.act a seen)) (hc : a.callback? = none) (hc' : a'.callback? = none)
    (h₁ : w.portion S (.act a seen) = some (.act a' (seen.map (Reply.narrow S))))
    (h₂ : w.portion T (.act a seen) = none)
    (hlead : Lead S T v u w → Lead S T (v.perform a').1 u (w.perform a).1 ∧
      (w.perform a).2 = (v.perform a').2.rename S) :
    Parts sc S T l m v u w (.act a seen) := by
  have hallowed := ha
  obtain ⟨hf, reply, hp, hseen⟩ := ha
  obtain ⟨hl, hv, hu⟩ := h.atRest hf
  obtain ⟨hled, hreply⟩ := hlead hl
  obtain ⟨reply', hv', hseen'⟩ := seen_narrow hp hreply hseen
  refine h.parts hallowed _ _ h₁ h₂ ?_ (by rintro d' ⟨⟩) hled hu ?_ ?_
  · rintro d' ⟨⟩
    exact ⟨hv, reply', hv', hseen'⟩
  · show (v.perform a').1.subscribers.length = _
    have hsteady := (Scene.sane_of_reachable h.here).poised.steady
    rw [(adds_perform hsteady hc').subscribers, meets_of_callback?_none hc, h.known]
  · rw [meets_of_callback?_none hc]
    exact h.known'

lemma portion_resolve {choice : ValveChoice} {o : Option Outcome} {seen : Option Reply}
    (hr : w.refuses (.resolve choice o) = false) :
    w.portion S (.act (.resolve choice o) seen) =
      ((w.chosen? choice).bind (S.index? .valve)).map fun (i : Nat) =>
        .act (.resolve (.number i) o) (seen.map (Reply.narrow S)) := by
  unfold portion
  dsimp only
  rw [hr]
  rfl

lemma portion_cancel {name : String} {seen : Option Reply}
    (hr : w.refuses (.cancel name) = false) :
    w.portion S (.act (.cancel name) seen) =
      ((w.taskNamed? name).bind (S.index? .task)).map fun _ =>
        .act (.cancel name) (seen.map (Reply.narrow S)) := by
  unfold portion
  dsimp only
  rw [hr]
  rfl

lemma Split.resolve (h : Split sc S T l m v u w) {choice : ValveChoice} {o : Option Outcome}
    {seen : Option Reply} (ha : w.Allows (.act (.resolve choice o) seen))
    (hr : w.refuses (.resolve choice o) = false) (ho : S.Opposite T) {i : Nat}
    (hi : w.chosen? choice = some (S .valve i)) :
    Parts sc S T l m v u w (.act (.resolve choice o) seen) := by
  refine h.inner (.resolve (.number i) o) ha rfl rfl ?_ ?_
    fun hl => hl.resolve hi (mem_openValves_of_chosen? hi) o
  · rw [portion_resolve hr, hi, Option.bind_some, Side.index?_number]
    rfl
  · rw [portion_resolve hr, hi, Option.bind_some, ho.index?]
    rfl

lemma Split.cancel (h : Split sc S T l m v u w) {name : String} {seen : Option Reply}
    (ha : w.Allows (.act (.cancel name) seen)) (hr : w.refuses (.cancel name) = false)
    (ho : S.Opposite T) {t : Nat} (ht : w.taskNamed? name = some (S .task t)) :
    Parts sc S T l m v u w (.act (.cancel name) seen) := by
  refine h.inner (.cancel name) ha rfl rfl ?_ ?_ fun hl => hl.cancel ht
  · rw [portion_cancel hr, ht, Option.bind_some, Side.index?_number]
    rfl
  · rw [portion_cancel hr, ht, Option.bind_some, ho.index?]
    rfl

/-- Both sides hear of an action at most that is about no node. -/
lemma Split.echo (h : Split sc S T l m v u w) {seen : Option Reply}
    (ha : w.Allows (.act a seen)) {d' : Option Deed} (h₁ : w.portion S (.act a seen) = d')
    (h₂ : w.portion T (.act a seen) = d') (hc : a.callback? = none)
    (hd : ∀ v : World, v.focus = .idle → ∀ d ∈ d', v.Allows d)
    (hrest : ∀ v : World, (d'.elim v v.after).focus = v.focus ∧
      (d'.elim v v.after).subscribers = v.subscribers)
    (hlead : Lead S T v u w →
      Lead S T (d'.elim v v.after) (d'.elim u u.after) (w.perform a).1) :
    Parts sc S T l m v u w (.act a seen) := by
  obtain ⟨hl, hv, hu⟩ := h.atRest ha.1
  refine h.parts ha _ _ h₁ h₂ (hd v hv) (hd u hu) (hlead hl) ?_ ?_ ?_
  · rw [(hrest u).1, hu]
  · rw [(hrest v).2, meets_of_callback?_none hc, h.known]
  · rw [(hrest u).2, meets_of_callback?_none hc, h.known']

lemma portion_refused {seen : Option Reply} (hr : w.refuses a = true) :
    w.portion S (.act a seen) = none := by
  unfold portion
  dsimp only
  rw [hr]
  rfl

lemma callback?_of_refuses (hr : w.refuses a = true) : a.callback? = none := by
  cases hc : a.callback? with
  | none => rfl
  | some callback =>
    rw [carried_out_of_callback? hc] at hr
    cases hr

/-! What is missing cannot be acted on. -/

lemma resolve_missing {choice : ValveChoice} (o : Option Outcome) (h : w.chosen? choice = none) :
    (w.resolve choice o).2 = .reply (.refused .noValve) := by
  unfold resolve
  rw [h]
  rfl

lemma cancel_missing {name : String} (h : w.taskNamed? name = none) :
    (w.cancel name).2 = .reply (.refused .noTask) := by
  unfold cancel
  rw [h]
  rfl

lemma await_missing (name : String) {sub : String} (lent : Bool)
    (h : w.subscriptions.get? sub = none) :
    ∃ why, (w.await name sub lent).2 = .reply (.refused why) := by
  rcases w.await_cases name sub lent with ⟨why, heq⟩ | ⟨s, hs, -, -, -⟩
  · exact ⟨why, congrArg Prod.snd heq⟩
  · rw [h] at hs
    cases hs

/-- An action that is about no node and carried out is about a valve or a task, or else an echo of
it is all that there is. -/
lemma act_cases (hr : w.refuses a = false) (hs : w.subject? a = none) {reply : Reply}
    (hp : (w.perform a).2 = .reply reply) :
    (∃ choice o n, a = .resolve choice o ∧ w.chosen? choice = some n) ∨
    (∃ name t, a = .cancel name ∧ w.taskNamed? name = some t) ∨
    (a.callback? = none ∧ (∀ (S : Side) seen, w.portion S (.act a seen) = a.echo?) ∧
      ∀ {S T : Side} {v u : World}, Lead S T v u w →
        Lead S T (a.echo?.elim v v.after) (a.echo?.elim u u.after) (w.perform a).1) := by
  have hrefused : ∀ why, (w.perform a).2 = .reply (.refused why) → False := not_refused hr
  have hneutral : a.Neutral → ∀ {S T : Side} {v u : World}, Lead S T v u w →
      Lead S T (a.echo?.elim v v.after) (a.echo?.elim u u.after) (w.perform a).1 := by
    intro ha S T v u h
    rw [echo_of_neutral ha, echo_of_neutral ha]
    exact h.neutral ha
  cases a with
  | settle | setCell _ _ | dropSubscription _ | dropCallback _ =>
    exact .inr (.inr ⟨rfl, fun _ _ => rfl, hneutral True.intro⟩)
  | unknown name => exact (hrefused _ rfl).elim
  | panic text => cases hp
  | initialized host =>
    refine .inr (.inr ⟨rfl, fun S seen => ?_, fun h => ?_⟩)
    · unfold portion
      dsimp only
      rw [hr]
      rfl
    · have hsame : (w.perform (.initialized host)).1 = w := by
        simp only [perform]
        cases (w.pipeline host).setup.inContext <;> rfl
      rw [hsame]
      exact h
  | describe host => exact .inr (.inr ⟨rfl, fun _ _ => rfl, fun h => h.use_whole host⟩)
  | resolve choice o =>
    cases hc : w.chosen? choice with
    | none => exact (hrefused _ (resolve_missing o hc)).elim
    | some n => exact .inl ⟨choice, o, n, rfl, hc⟩
  | cancel name =>
    cases ht : w.taskNamed? name with
    | none => exact (hrefused _ (cancel_missing ht)).elim
    | some t => exact .inr (.inl ⟨name, t, rfl, ht⟩)
  | invalidateBy host name handle keys =>
    have hh : w.handles.get? handle = none := Option.map_eq_none_iff.mp hs
    refine (hrefused .noHandle ?_).elim
    unfold perform
    dsimp only
    rw [hh]
    rfl
  | unsubscribeBy sub =>
    have hh : w.subscriptions.get? sub = none := Option.map_eq_none_iff.mp hs
    refine (hrefused .noSubscription ?_).elim
    unfold perform
    dsimp only
    rw [hh]
    rfl
  | await name sub lent =>
    obtain ⟨why, hwhy⟩ := await_missing name lent (Option.map_eq_none_iff.mp hs)
    exact (hrefused why hwhy).elim
  | _ => cases hs

lemma Split.act (h : Split sc S T l m v u w) {seen : Option Reply}
    (ha : w.Allows (.act a seen)) (hS : Suits S l w (.act a seen))
    (hT : Suits T m w (.act a seen)) : Parts sc S T l m v u w (.act a seen) := by
  have ho : S.Opposite T := (h.atRest ha.1).1.opposite
  cases hr : w.refuses a with
  | true =>
    exact h.echo ha (portion_refused hr) (portion_refused hr) (callback?_of_refuses hr)
      (by rintro v - d ⟨⟩) (fun _ => ⟨rfl, rfl⟩) fun hl => hl.refuse hr
  | false =>
    cases hs : w.subject? a with
    | some id =>
      cases hn : S.nodes id with
      | true => exact h.subject ha hr hs hn hS
      | false =>
        have hn' : T.nodes id = true := by
          rw [ho.nodes, hn]
          rfl
        exact (h.symm.subject ha hr hs hn' hT).symm
    | none =>
      obtain ⟨-, reply, hp, -⟩ := id ha
      rcases act_cases hr hs hp with ⟨choice, o, n, rfl, hc⟩ | ⟨name, t, rfl, ht⟩ |
        ⟨hc, hportion, hlead⟩
      · rcases ho.cover .valve n with ⟨i, rfl⟩ | ⟨i, rfl⟩
        · exact h.resolve ha hr ho hc
        · exact (h.symm.resolve ha hr ho.symm hc).symm
      · rcases ho.cover .task t with ⟨i, rfl⟩ | ⟨i, rfl⟩
        · exact h.cancel ha hr ho ht
        · exact (h.symm.cancel ha hr ho.symm ht).symm
      · exact h.echo ha (hportion S seen) (hportion T seen) hc (fun _ => echo_allowed)
          (fun v => echo_rests v a) hlead

/-! ## Polls and steps -/

lemma Split.poll (h : Split sc S T l m v u w) (ho : S.Opposite T) {i : Nat}
    (ha : w.Allows (.poll (S .task i))) : Parts sc S T l m v u w (.poll (S .task i)) := by
  obtain ⟨hl, hv, hu⟩ := h.atRest ha
  have hqueue := hl.withQueue (w.queue.erase (S .task i)) (v.queue.erase i) w.rewoken v.rewoken
  refine h.parts ha (some (.poll i)) none ?_ ?_ ?_ (by rintro d' ⟨⟩)
    (hqueue.poll i) hu ?_ h.known'
  · show (S.index? .task (S .task i)).map Deed.poll = _
    rw [Side.index?_number]
    rfl
  · show (T.index? .task (S .task i)).map Deed.poll = _
    rw [ho.index?]
    rfl
  · rintro d' ⟨⟩
    exact hv
  · show ({ v with queue := v.queue.erase i }.poll i).subscribers.length = _
    rw [(retains_poll _ i).subscribers]
    exact h.known

lemma portion_step {i : Nat} (hr : w.running = some (S .task i)) :
    w.portion S .step = some .step := by
  unfold portion
  rw [hr, Option.bind_some, Side.index?_number]

lemma portion_step_other (hr : w.running.bind (S.index? .task) = none) :
    w.portion S .step = w.script.head?.bind Action.echo? := by
  unfold portion
  rw [hr]

/-- What is heard of a step is what the subscriber that acts does about no node. -/
lemma echo_of_script {script : List Action} (hs : ∀ a ∈ script, a.Neutral) (hf : u.focus = .idle) :
    let d := script.head?.bind Action.echo?
    d.elim u u.after = u.overhear script ∧ (∀ d' ∈ d, u.Allows d') ∧
      (d.elim u u.after).focus = .idle ∧ (d.elim u u.after).subscribers = u.subscribers := by
  cases script with
  | nil => exact ⟨rfl, by rintro d' ⟨⟩, hf, rfl⟩
  | cons a script =>
    exact ⟨echo_of_neutral (hs a List.mem_cons_self), echo_allowed hf, (echo_rests u a).1.trans hf,
      (echo_rests u a).2⟩

/-- A step of a task of the side that leads. -/
lemma Split.stride (h : Split sc S T l m v u w) (ht : sc.opening.Told Action.Neutral)
    (hl : Lead S T v u w) (hu : u.focus = .idle) (hf : w.focus ≠ .idle)
    (hS : Suits S l w .step) : Parts sc S T l m v u w .step := by
  have hvf : v.focus ≠ .idle := fun hv => hf (by rw [hl.focus, hv]; rfl)
  have hrun : v.running ≠ none := (h.here.busy ht).resolve_left hvf
  obtain ⟨i, hi⟩ := Option.ne_none_iff_exists'.mp hrun
  have hw : w.running = some (S .task i) := by
    rw [hl.running, hi]
    rfl
  have hsane := Scene.sane_of_reachable h.here
  have hscript := hsane.script (h.here.obeys ht).2
  have hstep := hl.step (fun _ => hrun) (hS.grants ⟨i, hw⟩) hsane.inTime
    (Scene.sane_of_reachable h.whole).inTime
    (fun e pass r rest hp hcall => hsane.calling hp hcall) hscript
  obtain ⟨hecho, hallowed, hidle, hsame⟩ := echo_of_script hscript hu
  have hother : w.portion T .step = v.script.head?.bind Action.echo? := by
    rw [← hl.script]
    refine portion_step_other ?_
    rw [hw, Option.bind_some, hl.opposite.index?]
  refine h.parts True.intro _ _ (portion_step hw) hother (by rintro d' ⟨⟩; exact True.intro) hallowed
    ?_ hidle ?_ ?_
  · rw [hecho]
    exact hstep
  · exact (ticks_step hsane.poised.steady hscript).subscribers.trans h.known
  · rw [hsame]
    exact h.known'

lemma Split.step (h : Split sc S T l m v u w) (ht : sc.opening.Told Action.Neutral)
    (hS : Suits S l w .step) (hT : Suits T m w .step) : Parts sc S T l m v u w .step := by
  by_cases hf : w.focus = .idle
  · have hrest := (Scene.sane_of_reachable h.whole).atRest hf
    have hnone : ∀ S : Side, w.portion S .step = none := by
      intro S
      rw [portion_step_other (by rw [hrest.2.2]; rfl)]
      unfold World.script
      rw [hf]
      rfl
    have hsame : w.after .step = w := by
      unfold World.after World.step
      rw [hf]
    obtain ⟨hl, -, hu⟩ := h.atRest hf
    refine h.parts True.intro _ _ (hnone S) (hnone T) (by rintro d' ⟨⟩) (by rintro d' ⟨⟩) ?_ hu
      h.known h.known'
    rw [hsame]
    exact hl
  · rcases h.lead with ⟨hl, hu⟩ | ⟨hl, hv⟩
    · exact h.stride ht hl hu hf hS
    · exact (h.symm.stride ht hl hv hf hT).symm

/-- Whatever the whole does, the sides do their parts of it. -/
lemma Split.deed (h : Split sc S T l m v u w) (ht : sc.opening.Told Action.Neutral)
    (ha : w.Allows d) (hS : Suits S l w d) (hT : Suits T m w d) : Parts sc S T l m v u w d := by
  cases d with
  | act a seen => exact h.act ha hS hT
  | poll t =>
    have ho : S.Opposite T := (h.atRest ha).1.opposite
    rcases ho.cover .task t with ⟨i, rfl⟩ | ⟨i, rfl⟩
    · exact h.poll ho ha
    · exact (h.symm.poll ho.symm ha).symm
  | step => exact h.step ht hS hT

end World

end Dataflow
