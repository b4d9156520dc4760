import Dataflow.Proofs.DeliveryOrder
import Dataflow.Proofs.Hearsay
import Dataflow.Proofs.PlainEvaluation
import Dataflow.Source

/-!
# What the cache comes to

While a pipeline is asked for results only, cache and flights do not show: whatever is cached,
delivered or handed out for a slot is what the slot evaluates to without them, provided that its nodes
are pure and that no slot awaits itself. The proof goes along the slots that await others. What lands
for a slot is what its node makes of what it was told, and it was told what the slots evaluate to that
it asked for.
-/

namespace Dataflow

/-- What the recipe comes to depends on nothing but the results that it asks the pipeline `host`
for. -/
def Recipe.Pure (S : Surroundings) (host : String) : Recipe → Prop
  | .finish _ | .crash _ => True
  | .peek cell rest =>
    (∀ o o', S.found cell o → S.found cell o' → rest o = rest o') ∧
      ∀ o, S.found cell o → Pure S host (rest o)
  | .announce _ rest => Pure S host rest
  | .hold _ rest =>
    (∀ o o', S.brought o → S.brought o' → rest o = rest o') ∧ ∀ o, S.brought o → Pure S host (rest o)
  | .ask owner _ rest => owner = host ∧ ∀ c, Pure S host (rest c)

/-- From some depth on it is all the same whether one recipe is followed or the other, and the latter
asks for nothing else. -/
def Recipe.ContinuesAs (e : Engine) (cells : String → Option Outcome) (r r' : Recipe) : Prop :=
  ∃ depth, ∀ deeper, depth ≤ deeper →
    r.follow cells (e.plain cells deeper) = r'.follow cells (e.plain cells deeper) ∧
      r'.asked cells (e.plain cells deeper) ⊆ r.asked cells (e.plain cells deeper)

section

variable {S : Surroundings} {host : String} {e : Engine} {cells : String → Option Outcome}
  {heard : String → Slot → Content → Prop} {r r' : Recipe}

namespace Recipe

lemma ContinuesAs.refl (r : Recipe) : r.ContinuesAs e cells r :=
  ⟨0, fun _ _ => ⟨rfl, List.Subset.refl _⟩⟩

lemma ContinuesAs.trans {r'' : Recipe} (h : r.ContinuesAs e cells r') (h' : r'.ContinuesAs e cells r'') :
    r.ContinuesAs e cells r'' := by
  obtain ⟨depth, hd⟩ := h
  obtain ⟨depth', hd'⟩ := h'
  refine ⟨max depth depth', fun deeper hle => ?_⟩
  obtain ⟨hf, ha⟩ := hd deeper (Nat.le_trans (Nat.le_max_left _ _) hle)
  obtain ⟨hf', ha'⟩ := hd' deeper (Nat.le_trans (Nat.le_max_right _ _) hle)
  exact ⟨hf.trans hf', List.Subset.trans ha' ha⟩

lemma continuesAs_ask {owner : String} {slot : Slot} {rest : Content → Recipe} {c : Content}
    (h : e.Evaluates cells slot (.ok c)) : (Recipe.ask owner slot rest).ContinuesAs e cells (rest c) := by
  obtain ⟨-, depth, hd⟩ := h
  refine ⟨depth, fun deeper hle => ?_⟩
  rw [follow, asked, hd deeper hle]
  exact ⟨rfl, List.subset_cons_self _ _⟩

/-- What a pure recipe asks for at last it asks for in the plain evaluation as well. -/
lemma ContinuesAs.asks {owner : String} {slot : Slot} {rest : Content → Recipe}
    (h : r.ContinuesAs e cells (.ask owner slot rest)) :
    ∃ depth, slot ∈ r.asked cells (e.plain cells depth) := by
  obtain ⟨depth, hd⟩ := h
  refine ⟨depth, (hd depth (Nat.le_refl _)).2 ?_⟩
  rw [asked]
  exact List.mem_cons_self

/-- A pure recipe goes on as it does in the plain evaluation if it is told what the slots evaluate to
that it asks for. -/
lemma LeadsBy.comesTo (h : r.LeadsBy S heard r') (hp : r.Pure S host)
    (hcells : ∀ cell, S.found cell (cells cell)) (hnone : S.brought none)
    (hheard : ∀ s c, (∃ depth, s ∈ r.asked cells (e.plain cells depth)) → heard host s c →
      e.Evaluates cells s (.ok c)) : r'.Pure S host ∧ r.ContinuesAs e cells r' := by
  -- What is left of a pure recipe is pure, so that each thing it is told can be replaced by what the
  -- plain evaluation finds in its place.
  induction h with
  | refl => exact ⟨hp, .refl _⟩
  | @peek cell rest o _ ho ih =>
    obtain ⟨hpure, hc⟩ := ih
    refine ⟨hpure.2 o ho, hc.trans ?_⟩
    rw [hpure.1 o _ ho (hcells cell)]
    exact ⟨0, fun _ _ => ⟨rfl, List.Subset.refl _⟩⟩
  | announce _ ih =>
    obtain ⟨hpure, hc⟩ := ih
    exact ⟨hpure, hc.trans ⟨0, fun _ _ => ⟨rfl, List.Subset.refl _⟩⟩⟩
  | @hold what rest o _ ho ih =>
    obtain ⟨hpure, hc⟩ := ih
    refine ⟨hpure.2 o ho, hc.trans ?_⟩
    rw [hpure.1 o _ ho hnone]
    exact ⟨0, fun _ _ => ⟨rfl, List.Subset.refl _⟩⟩
  | @ask owner slot rest c _ hc ih =>
    obtain ⟨⟨rfl, hpure⟩, hcomes⟩ := ih
    exact ⟨hpure c, hcomes.trans (continuesAs_ask (hheard slot c hcomes.asks hc))⟩

end Recipe

namespace Source

lemma pure_gather (src : Source) (slots : List Slot) (done : String) :
    (src.gather slots done).Pure S src.host := by
  induction slots generalizing done with
  | nil => exact True.intro
  | cons slot slots ih =>
    refine ⟨rfl, fun c => ?_⟩
    cases c with
    | error f => exact True.intro
    | ok p => cases p <;> exact ih _

lemma asked_gather (src : Source) {answer : Slot → Except Halt Content} (slots : List Slot)
    (done : String) : (src.gather slots done).asked cells answer ⊆ slots := by
  induction slots generalizing done with
  | nil => exact List.Subset.refl _
  | cons slot slots ih =>
    rw [gather, Recipe.asked]
    refine List.cons_subset_cons slot ?_
    cases answer slot with
    | error halt => exact List.nil_subset _
    | ok c =>
      cases c with
      | error f => exact List.nil_subset _
      | ok p => cases p <;> exact ih _

end Source

lemma Engine.verdict_of_judge {k : Work} {n : Node} {schema : Schema} {handed : Except Cause Payload}
    {c : Content} (ht : k.target = .ok (n, schema)) (hj : k.judge handed = .ok c) :
    verdict schema k.slot handed = .ok c := by
  simp only [Work.judge, ht] at hj
  cases handed with
  | error cause =>
    cases hj
    rfl
  | ok p =>
    cases hc : schema.check p with
    | accepted =>
      simp only [hc] at hj
      cases hj
      simp only [verdict, hc]
    | rejected diagnostic =>
      simp only [hc] at hj
      cases hj
      simp only [verdict, hc]
    | crashed text =>
      simp only [hc] at hj
      cases hj

/-- A work comes to what its slot evaluates to if it was told what the slots evaluate to that its slot
awaits. -/
lemma Work.ComesBy.evaluates {l : List Event} {k : Work} {c : Content} (h : k.ComesBy S l c)
    (ht : k.target = e.target k.slot)
    (hp : ∀ n schema, e.target k.slot = .ok (n, schema) → (n.produce k.slot.output).Pure S host)
    (hcells : ∀ cell, S.found cell (cells cell)) (hnone : S.brought none)
    (hheard : ∀ s c, e.Awaits cells k.slot s → Journal.Tells l host s c →
      e.Evaluates cells s (.ok c)) : e.Evaluates cells k.slot (.ok c) := by
  rcases h with ⟨f, hf, rfl⟩ | ⟨handed, ⟨n, schema, hn, hl⟩, hj⟩
  · refine Engine.evaluates_of_plain 1 ?_ (by rintro ⟨⟩)
    rw [Engine.plain, ht.symm.trans hf]
  · have htarget := ht.symm.trans hn
    have hasked : ∀ s, (∃ depth, s ∈ (n.produce k.slot.output).asked cells (e.plain cells depth)) →
        e.Awaits cells k.slot s := by
      rintro s ⟨depth, hs⟩
      exact ⟨depth, n, schema, htarget, hs⟩
    obtain ⟨-, depth, hd⟩ := hl.comesTo (hp n schema htarget) hcells hnone
      fun s c hs => hheard s c (hasked s hs)
    refine Engine.evaluates_of_plain (depth + 1) ?_ (by rintro ⟨⟩)
    rw [Engine.plain_succ e cells depth htarget, (hd depth (Nat.le_refl _)).1]
    exact Engine.verdict_of_judge hn hj

end

namespace Event

/-- Nodes come or go, or slots are cleared. -/
def disturbs (host : String) : Event → Bool
  | .registered h _ _ | .unregistered h _ | .invalidating _ h _ _ => h == host
  | _ => false

/-- A node is asked for the slot, for a flight or for one task alone. -/
def isAsking (host : String) (s : Slot) : Event → Bool
  | .begun h j _ => h == host && j == s
  | _ => false

/-- A task is started that computes the slot on its own. -/
def isComputing (host : String) (s : Slot) : Event → Bool
  | .started _ task => task.job.purpose == some (.computation host s)
  | _ => false

variable {host : String} {e : Event}

lemma isAsking_iff {s : Slot} : e.isAsking host s = true ↔ ∃ ticket, e = .begun host s ticket := by
  cases e with
  | begun h j ticket => simp [isAsking]
  | _ => simp [isAsking]

lemma clears_of_disturbs (h : e.disturbs host = false) (s : Slot) : e.clears host s = false := by
  cases e with
  | registered _ _ _ | unregistered _ _ | invalidating _ _ _ _ =>
    simp only [disturbs] at h
    simp only [clears, h, Bool.false_and]
  | _ => rfl

lemma ofNode_of_disturbs (h : e.disturbs host = false) (id : String) :
    e.ofNode host id = none := by
  cases e with
  | registered _ _ _ | unregistered _ _ =>
    simp only [disturbs] at h
    exact if_neg fun hh => ne_of_beq_false h hh.1
  | _ => rfl

end Event

namespace World

variable {w₀ w : World} {S : Surroundings} {host : String}

lemma Through.start {Q : World → Prop} (h : Through Q w₀ w) : Q w₀ := by
  induction h with
  | refl hq => exact hq
  | perform _ _ _ _ _ _ _ ih => exact ih
  | poll _ _ _ _ ih => exact ih
  | step _ _ ih => exact ih

lemma Through.mono {Q Q' : World → Prop} (h : Through Q w₀ w) (hq : ∀ w, Q w → Q' w) :
    Through Q' w₀ w := by
  induction h with
  | refl h₀ => exact .refl (hq _ h₀)
  | perform a w' reply _ hf ha hw ih => exact .perform a w' reply ih hf ha (hq _ hw)
  | poll t _ hf hw ih => exact .poll t ih hf (hq _ hw)
  | step _ hw ih => exact .step ih (hq _ hw)

/-- No computation of the pipeline took off before `w₀`, and nothing disturbs it afterwards. -/
structure Requested (host : String) (w₀ w : World) : Prop where
  fresh : ∀ s ticket, .takenOff host s ticket ∉ w₀.journal
  calm : ∃ later, w.journal = later ++ w₀.journal ∧ ∀ e ∈ later, e.disturbs host = false

/-- Whatever takes off works with what was registered from the beginning. -/
lemma Requested.target (h : Requested host w₀ w) {s : Slot} {ticket : Nat}
    {later earlier : List Event} (hj : w.journal = later ++ .takenOff host s ticket :: earlier) :
    Journal.target host s earlier = Journal.target host s w₀.journal := by
  obtain ⟨since, hsince, hcalm⟩ := h.calm
  -- It took off after `w₀`, and between the two no node came or went.
  obtain ⟨mid, hsub, rfl⟩ : ∃ mid, mid ⊆ since ∧ earlier = mid ++ w₀.journal := by
    rcases List.append_eq_append_iff.mp (hj.symm.trans hsince) with ⟨mid, rfl, hm⟩ | ⟨mid, -, hm⟩
    · cases mid with
      | nil =>
        rw [List.nil_append] at hm
        exact absurd (hm ▸ List.mem_cons_self) (h.fresh s ticket)
      | cons e mid =>
        obtain ⟨-, rfl⟩ := List.cons_eq_cons.mp hm
        exact ⟨mid, fun x hx => List.mem_append_right _ (List.mem_cons_of_mem e hx), rfl⟩
    · exact absurd (hm ▸ List.mem_append_right mid List.mem_cons_self) (h.fresh s ticket)
  have hnode : Journal.node host s.node (mid ++ w₀.journal) = Journal.node host s.node w₀.journal :=
    Journal.latest_append _ _ _ fun e he => Event.ofNode_of_disturbs (hcalm e (hsub he)) s.node
  unfold Journal.target
  rw [hnode]

/-- What landed for a slot is what the work of a flight came to that went by what it was told. -/
lemma Requested.comesBy (h : Requested host w₀ w) (hs₀ : w₀.Sane) (hs : w.Sane)
    (hv : w.Versed S host) {slot : Slot} {r : Result} (hl : Journal.Landed host slot r w.journal) :
    ∃ k : Work, k.slot = slot ∧ k.target = (w₀.engine host).target slot ∧
      k.ComesBy S w.journal r.content := by
  obtain ⟨ticket, kept, hm⟩ := hl
  have hlaw : Lawful w.policy w.journal := hs.sound.lawful
  obtain ⟨later, earlier, hj⟩ := List.append_of_mem (hlaw.takenOff_of_landed hm)
  obtain ⟨f, hdep, hhost, hslot⟩ := hs.departed hj
  obtain ⟨f', hf', hst, -⟩ := hs.landed hm
  rw [hdep.flight] at hf'
  cases hf'
  refine ⟨f.work, hslot, ?_, (hv.flights ticket f hdep.flight hhost).lands r hst⟩
  rw [hdep.target, hhost, hslot, h.target hj]
  exact (hs₀.sound.mirrors.target host slot).symm

/-- No flight of the pipeline is there that could have been told anything. -/
lemma versed_of_fresh (hs : w.Sane) (h : ∀ s ticket, .takenOff host s ticket ∉ w.journal) :
    w.Versed S host := by
  have hnone : ∀ (ticket : Nat) f, w.flights[ticket]? = some f → f.work.host ≠ host := by
    intro ticket f hf hhost
    have hm := hs.takenOff hf
    rw [hhost] at hm
    exact h _ _ hm
  exact ⟨fun ticket f hf hh => absurd hh (hnone ticket f hf),
    fun ticket f _ hf hh => absurd hh (hnone ticket f hf)⟩

/-- A node is asked for the slot once at most on behalf of flights. -/
lemma Requested.begun_le_one (h : Requested host w₀ w) (hs : w.Sane) (slot : Slot) :
    w.journal.countP (Event.isBeginning host slot) ≤ 1 := by
  have hlaw : Lawful w.policy w.journal := hs.sound.lawful
  obtain ⟨later, hj, hcalm⟩ := h.calm
  rw [hj] at hlaw ⊢
  have hbefore : w₀.journal.countP (Event.isBeginning host slot) = 0 := by
    refine List.countP_eq_zero.mpr fun e he hb => ?_
    obtain ⟨ticket, rfl⟩ := Event.isBeginning_iff.mp hb
    obtain ⟨newer, older, hsplit⟩ := List.append_of_mem he
    have hlaw₀ := hlaw.tail
    rw [hsplit] at hlaw₀
    obtain ⟨oldest, rfl⟩ := hlaw₀.fits ticket rfl
    refine h.fresh slot ticket ?_
    rw [hsplit]
    exact List.mem_append_right _ (List.mem_cons_of_mem _ List.mem_cons_self)
  have hclears : later.countP (Event.clears host slot) = 0 :=
    List.countP_eq_zero.mpr fun e he => by
      rw [Event.clears_of_disturbs (hcalm e he) slot]
      exact Bool.false_ne_true
  rw [← List.nil_append (later ++ w₀.journal)] at hlaw
  have hle := hlaw.begun_le host slot
  rw [hclears] at hle
  rw [List.countP_append, hbefore]
  exact hle

/-- Whatever lands for a slot is what the slot evaluates to. -/
lemma evaluates_of_landed (h : Requested host w₀ w) (hs₀ : w₀.Sane) (hs : w.Sane)
    (hv : w.Versed S host) (hin : w₀.Within S) (hnone : S.brought none)
    (hpure : ∀ s n schema, (w₀.engine host).target s = .ok (n, schema) →
      (n.produce s.output).Pure S host)
    (hacyclic : ∀ s, ¬Relation.TransGen ((w₀.engine host).Awaits w₀.cells.get?) s s) (slot : Slot)
    (r : Result) (hl : Journal.Landed host slot r w.journal) :
    (w₀.engine host).Evaluates w₀.cells.get? slot (.ok r.content) := by
  -- Along the slots that `slot` awaits: the work behind `r` was told what landed for those.
  induction Engine.acc_of_acyclic hacyclic slot generalizing r with
  | intro slot _ ih =>
    obtain ⟨k, rfl, ht, hc⟩ := h.comesBy hs₀ hs hv hl
    refine hc.evaluates ht (hpure k.slot) hin.found hnone fun s c hawaits htells => ?_
    obtain ⟨r', hl', rfl⟩ := htells
    exact ih s hawaits r' hl'

/-- When nodes are pure and no slot awaits itself, every slot evaluates to something, and whatever is given
out for it is just that. Its node is asked for it once at most. -/
theorem cache_is_transparent {sc : Scene} (h₀ : Reachable sc.opening w₀)
    (h : Through (Within S) w₀ w) (hreq : Requested host w₀ w) (hnone : S.brought none)
    (hpure : ∀ s n schema, (w₀.engine host).target s = .ok (n, schema) →
      (n.produce s.output).Pure S host)
    (hacyclic : ∀ s, ¬Relation.TransGen ((w₀.engine host).Awaits w₀.cells.get?) s s) (slot : Slot) :
    ∃ v, (w₀.engine host).Evaluates w₀.cells.get? slot v ∧
      (∀ r, w.Gives host slot r → v = .ok r.content) ∧
      w.journal.countP (Event.isBeginning host slot) ≤ 1 ∧
      ((∀ e ∈ w.journal, e.isComputing host slot = false) →
        w.journal.countP (Event.isAsking host slot) ≤ 1) := by
  have hreach := h₀.trans h.reachable
  have hs₀ := Scene.sane_of_reachable h₀
  have hs := Scene.sane_of_reachable hreach
  have hv : w.Versed S host :=
    h.versed hs₀ (Scene.due_of_reachable h₀) (versed_of_fresh hs₀ hreq.fresh)
  obtain ⟨v, hev⟩ := Engine.evaluates_of_acyclic hacyclic slot
  have hbegun := hreq.begun_le_one hs slot
  refine ⟨v, hev, ?_, hbegun, ?_⟩
  · intro r hg
    exact hev.unique (evaluates_of_landed hreq hs₀ hs hv h.start hnone hpure hacyclic slot r
      (landed_of_gives hreach hg))
  · intro hcomp
    refine Nat.le_trans (List.countP_mono_left fun e he hb => ?_) hbegun
    obtain ⟨ticket, rfl⟩ := Event.isAsking_iff.mp hb
    cases ticket with
    | some ticket => exact Event.isBeginning_iff.mpr ⟨ticket, rfl⟩
    | none =>
      obtain ⟨t, task, hstart, hp⟩ := Scene.started_of_begun hreach he
      exact absurd hp (ne_of_beq_false (hcomp _ hstart))

/-- A node that waits behind a valve, and then joins the texts of other slots to its id. -/
def joinNode (host id : String) (slots : List Slot) : Node where
  id := id
  name := id
  outputs := NameMap.ofList [("o", Schema.any)]
  produce o := .hold ⟨id, id, o⟩ fun _ => Source.gather ⟨id, id, host, none, .held, []⟩ slots id

lemma pure_joinNode (host id : String) (slots : List Slot) (o : String) :
    ((joinNode host id slots).produce o).Pure S host :=
  ⟨fun _ _ _ _ => rfl, fun _ _ => Source.pure_gather ⟨id, id, host, none, .held, []⟩ slots id⟩

/-- The left one of three nodes asks for the first one, the top one asks for both of them and for a slot
that no node declares. -/
def stocking : List (Action × Nat) := [
  (.register "p" (joinNode "p" "base" []) "base", 0),
  (.register "p" (joinNode "p" "left" [⟨"base", "o"⟩]) "left", 0),
  (.register "p" (joinNode "p" "top" [⟨"left", "o"⟩, ⟨"base", "o"⟩, ⟨"gone", "o"⟩]) "top", 0)]

def stocked : World := (({} : Scene).opening.rehearse stocking).getD {}

/-- All slots are asked for, and then go on in another order than they need each other. -/
def requesting : List (Action × Nat) := [
  (.output "p" "first" ⟨"top", "o"⟩, 40),
  (.subscribe "p" "s" ⟨"left", "o"⟩ "c", 40),
  (.output "p" "second" ⟨"base", "o"⟩, 40),
  (.resolve .last none, 60),
  (.resolve .first none, 60),
  (.resolve .first none, 90)]

lemma reachable_stocked : Reachable ({} : Scene).opening stocked := by
  have hsome : (({} : Scene).opening.rehearse stocking).isSome = true := by decide +kernel
  obtain ⟨w₀, hw₀⟩ := Option.isSome_iff_exists.mp hsome
  have hreach := reachable_rehearse .refl hw₀
  unfold stocked
  rw [hw₀]
  exact hreach

lemma requested_of_stocked (h : Reachable stocked w)
    (hcalm : ((w.journal.take (w.journal.length - stocked.journal.length)).all fun e =>
      !e.disturbs "p") = true) : Requested "p" stocked w := by
  have hfresh : (stocked.journal.all fun e => !e.isDeparture) = true := by decide +kernel
  obtain ⟨later, hgrow⟩ := (h.goes (Scene.sane_of_reachable reachable_stocked)).2.grows
  have hj : w.journal = later ++ stocked.journal := hgrow
  rw [hj, List.length_append, Nat.add_sub_cancel, List.take_left] at hcalm
  refine ⟨fun s ticket hm => ?_, later, hj, by simpa using hcalm⟩
  cases List.all_eq_true.mp hfresh _ hm

lemma stocked_of_target {s : Slot} {n : Node} {schema : Schema}
    (h : (stocked.engine "p").target s = .ok (n, schema)) :
    (s.node = "base" ∧ n = joinNode "p" "base" []) ∨
      (s.node = "left" ∧ n = joinNode "p" "left" [⟨"base", "o"⟩]) ∨
      s.node = "top" ∧ n = joinNode "p" "top" [⟨"left", "o"⟩, ⟨"base", "o"⟩, ⟨"gone", "o"⟩] := by
  have hm := (Engine.registered_of_target h).1
  have hentries : (stocked.engine "p").nodes.entries = [("base", joinNode "p" "base" []),
      ("left", joinNode "p" "left" [⟨"base", "o"⟩]),
      ("top", joinNode "p" "top" [⟨"left", "o"⟩, ⟨"base", "o"⟩, ⟨"gone", "o"⟩])] := rfl
  rw [hentries] at hm
  simpa using hm

def height (id : String) : Nat := if id = "top" then 2 else if id = "left" then 1 else 0

lemma height_of_awaits {s s' : Slot}
    (h : (stocked.engine "p").Awaits stocked.cells.get? s s') : height s'.node < height s.node := by
  obtain ⟨depth, n, schema, ht, hm⟩ := h
  rcases stocked_of_target ht with ⟨hs, rfl⟩ | ⟨hs, rfl⟩ | ⟨hs, rfl⟩
  all_goals
    rw [hs]
    have hslots := Source.asked_gather _ _ _ hm
  · cases hslots
  · rw [List.mem_singleton.mp hslots]
    decide
  · have hall : ∀ s' ∈ [Slot.mk "left" "o", ⟨"base", "o"⟩, ⟨"gone", "o"⟩],
        height s'.node < height "top" := by decide
    exact hall s' hslots

/-- One computation of the first node serves a task, a subscriber and both other nodes. -/
theorem cache_is_transparent_sharing : ∃ w₀ w r r', Reachable ({} : Scene).opening w₀ ∧
    Through (Within ⟨fun _ _ => True, fun _ => True⟩) w₀ w ∧ Requested "p" w₀ w ∧
    w.Gives "p" ⟨"top", "o"⟩ r ∧ w.Gives "p" ⟨"left", "o"⟩ r' ∧
    (w₀.engine "p").Evaluates w₀.cells.get? ⟨"top", "o"⟩ (.ok r.content) ∧
    (w₀.engine "p").Evaluates w₀.cells.get? ⟨"left", "o"⟩ (.ok r'.content) ∧
    w.journal.countP (Event.isAsking "p" ⟨"base", "o"⟩) ≤ 1 := by
  have hfacts : (stocked.rehearse requesting).any (fun w =>
      ((w.engine "p").cached ⟨"top", "o"⟩).isSome &&
        w.journal.any (Event.isCall "p" ⟨"left", "o"⟩ 0) &&
        ((w.journal.take (w.journal.length - stocked.journal.length)).all fun e =>
          !e.disturbs "p") &&
        w.journal.all fun e => !e.isComputing "p" ⟨"base", "o"⟩) = true := by decide +kernel
  obtain ⟨w, hw, hall⟩ := (Option.any_eq_true _ _).mp hfacts
  rw [Bool.and_eq_true, Bool.and_eq_true, Bool.and_eq_true] at hall
  obtain ⟨⟨⟨hcached, hcalled⟩, hcalm⟩, hcomp⟩ := hall
  obtain ⟨r, hr⟩ := Option.isSome_iff_exists.mp hcached
  obtain ⟨x, hx, hcall⟩ := List.any_eq_true.mp hcalled
  obtain ⟨callback, r', rfl⟩ := Event.isCall_iff.mp hcall
  have hreach : Reachable stocked w := reachable_rehearse .refl hw
  have hthrough : Through (Within ⟨fun _ _ => True, fun _ => True⟩) stocked w :=
    hreach.through.mono fun w _ => ⟨fun _ => True.intro, fun _ _ _ _ => True.intro⟩
  have hreq := requested_of_stocked hreach hcalm
  have hpure : ∀ s n schema, (stocked.engine "p").target s = .ok (n, schema) →
      (n.produce s.output).Pure ⟨fun _ _ => True, fun _ => True⟩ "p" := by
    intro s n schema ht
    rcases stocked_of_target ht with ⟨-, rfl⟩ | ⟨-, rfl⟩ | ⟨-, rfl⟩ <;> exact pure_joinNode "p" _ _ _
  have hacyclic := Engine.acyclic_of_rank (e := stocked.engine "p") (fun s => height s.node)
    fun s s' => height_of_awaits
  have htransparent := cache_is_transparent reachable_stocked hthrough hreq True.intro hpure hacyclic
  have htop : w.Gives "p" ⟨"top", "o"⟩ r := .cached hr
  have hleft : w.Gives "p" ⟨"left", "o"⟩ r' := .called 0 callback hx
  obtain ⟨v, hev, hv, -⟩ := htransparent ⟨"top", "o"⟩
  obtain ⟨v', hev', hv', -⟩ := htransparent ⟨"left", "o"⟩
  obtain ⟨-, -, -, -, hcount⟩ := htransparent ⟨"base", "o"⟩
  exact ⟨stocked, w, r, r', reachable_stocked, hthrough, hreq, htop, hleft, hv r htop ▸ hev,
    hv' r' hleft ▸ hev', hcount (by simpa using hcomp)⟩

end World

end Dataflow
