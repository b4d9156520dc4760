import Dataflow.Proofs.Allotments

/-!
# Nodes do not interfere

The nodes of a pipeline share its counts of flights, clears and passes, and take their turns in the
same tasks and steps. Still, whatever is done on behalf of some of them would have been done if
nothing had ever been asked of the others: what is left of a run for these nodes is a run, and it
comes to the same.
-/

namespace Dataflow

variable {S T : Side}

lemma Engine.strand_empty (host : String) : Engine.Strand S host {} {} where
  nodes := fun _ _ => rfl
  known := by rintro id n ⟨⟩
  outputs := fun _ _ => rfl
  inFlight := fun _ _ => rfl
  subscriptions := fun _ _ => rfl
  gates := fun _ _ => rfl
  delivered := fun _ _ => rfl
  subscribed := by
    rintro s c - hc
    cases hc
  passes := fun i => ⟨fun h => absurd h (Nat.not_lt_zero _), fun h => absurd h (Nat.not_lt_zero _)⟩

namespace World

variable {sc : Scene} {v u w w' : World} {l m : List Nat} {deeds : List Deed}

/-- In the beginning both strands are the same. -/
lemma strand_opening (hp : ∀ host, (sc.opening.policy host).Blind) :
    sc.opening.Strand S sc.opening where
  runtime := rfl
  cells := rfl
  scripts := rfl
  setup := fun _ => rfl
  blind := hp
  engine := by
    intro host
    rw [sc.engine_opening]
    exact Engine.strand_empty host
  flights := fun _ => .none
  tasks := fun _ => .none
  valves := fun _ => .none
  results := fun i => ⟨fun h => absurd h (Nat.not_lt_zero _), fun h => absurd h (Nat.not_lt_zero _)⟩
  roster := by
    refine ⟨?_, ?_, ?_, ?_, ?_⟩
    · rintro name c ⟨⟩
    · rintro c s' ⟨⟩
    · rintro c s - ⟨⟩
    · rintro name c ⟨⟩
    · rintro name c ⟨⟩
  subscriptions := ⟨fun _ _ => rfl, by rintro name s ⟨⟩⟩
  handles := by rintro name host id ⟨⟩
  removed := fun _ _ => rfl
  known := by rintro id n ⟨⟩
  journal := rfl

lemma split_opening (ho : S.Opposite T) (hp : ∀ host, (sc.opening.policy host).Blind) :
    Split sc S T [] [] sc.opening sc.opening sc.opening where
  here := .refl
  there := .refl
  whole := .refl
  lead := by
    refine .inl ⟨⟨ho, strand_opening hp, strand_opening hp, rfl, rfl, ?_, rfl, ?_⟩, rfl⟩
    · intro hr
      exact absurd rfl hr
    · rintro r ⟨⟩
  known := rfl
  known' := rfl

lemma runs_portion {d? : Option Deed} (ha : ∀ d ∈ d?, v.Allows d) :
    v.Runs d?.toList (d?.elim v v.after) := by
  cases d? with
  | none => exact .nil
  | some d => exact .cons (ha d rfl) .nil

/-- Each side can do what is left of a run for it, and the two make up the whole at its end. -/
lemma Split.runs (h : Split sc S T l m v u w) (ht : sc.opening.Told Action.Neutral)
    (hr : Runs w deeds w') (hS : Fits S l w deeds) (hT : Fits T m w deeds) :
    ∃ v' u', Runs v (w.excerpt S deeds) v' ∧ Runs u (w.excerpt T deeds) u' ∧
      Split sc S T (w.meetsAll S.nodes l deeds) (w.meetsAll T.nodes m deeds) v' u' w' := by
  induction hr generalizing l m v u with
  | nil => exact ⟨v, u, .nil, .nil, h⟩
  | cons ha _ ih =>
    obtain ⟨hs, hv, hu⟩ := h.deed ht ha hS.1 hT.1
    obtain ⟨v', u', hv', hu', hs'⟩ := ih hs hS.2 hT.2
    exact ⟨v', u', (runs_portion hv).append hv', (runs_portion hu).append hu', hs'⟩

lemma Split.strand (h : Split sc S T l m v u w) : w.Strand S v ∧ w.Sorted S := by
  rcases h.lead with ⟨hl, -⟩ | ⟨hl, -⟩
  · exact ⟨hl.own, hl.own.sorted hl.opposite hl.other⟩
  · exact ⟨hl.other, hl.other.sorted hl.opposite.symm hl.own⟩

/-- What is left of a run for some nodes is a run of its own, and at every moment it has come to the same
for them as the whole. -/
theorem nodes_do_not_interfere {sc : Scene} {deeds : List Deed} {w : World} (nodes : String → Bool)
    (hr : sc.opening.Runs deeds w) (hp : ∀ host, (sc.opening.policy host).Blind)
    (ht : sc.opening.Told Action.Neutral)
    (ha : ∀ host n handle seen, .act (.register host n handle) seen ∈ deeds → n.AsksNothing)
    (hc : ∀ host slot c name host' slot' name', .subscribed host slot c name ∈ w.journal →
      .subscribed host' slot' c name' ∈ w.journal → nodes slot.node = nodes slot'.node) :
    ∃ S : Side, S.nodes = nodes ∧ ∀ n, ∃ w' v, sc.opening.Runs (deeds.take n) w' ∧
      sc.opening.Runs (sc.opening.excerpt S (deeds.take n)) v ∧ w'.Agrees S v ∧ w'.Sorted S := by
  have hinf : ∀ k b, (Set.ofPred fun j =>
      sc.opening.allotAll nodes inTurns deeds k j = b).Infinite := infinite_allotAll .refl ht hr
  have hnodup : ∀ b, (sc.opening.meetsAll (fun id => nodes id == b) [] deeds).Nodup := fun b =>
    nodup_meetsAll List.nodup_nil deeds
  have hfits : ∀ b, Fits (Side.allotted nodes w.journal hinf (hnodup b) b) [] sc.opening deeds :=
    fun b => fits .refl ht hr (fun id hid => beq_iff_eq.mp hid) (fun k j => Side.allotted_iff)
      Side.knows_allotted
      (fun host slot c name hm hs => beq_iff_eq.mpr (any_subscribes hm (beq_iff_eq.mp hs) hc)) ha
  have ho : (Side.allotted nodes w.journal hinf (hnodup true) true).Opposite
    (Side.allotted nodes w.journal hinf (hnodup false) false) := Side.opposite_allotted
  refine ⟨Side.allotted nodes w.journal hinf (hnodup true) true, ?_, ?_⟩
  · funext id
    show (nodes id == true) = nodes id
    rw [beq_true]
  · intro n
    obtain ⟨w', hw'⟩ := hr.take n
    obtain ⟨v, u, hv, -, hs⟩ := (split_opening ho hp).runs ht hw'
      ((hfits true).take n) ((hfits false).take n)
    exact ⟨w', v, hw', hv, hs.strand.1.agrees, hs.strand.2⟩

/-- The world after the deeds, if each of them can be done. Nobody looks at what comes back. -/
def follow (w : World) : List Deed → Option World
  | [] => some w
  | .act a none :: deeds =>
    match w.focus, w.perform a with
    | .idle, (w', .reply _) => w'.follow deeds
    | _, _ => none
  | .act _ (some _) :: _ => none
  | .poll t :: deeds =>
    match w.focus with
    | .idle => { w with queue := w.queue.erase t }.poll t |>.follow deeds
    | _ => none
  | .step :: deeds => w.step.follow deeds

lemma runs_of_follow (h : w.follow deeds = some w') : Runs w deeds w' := by
  induction deeds generalizing w with
  | nil =>
    cases h
    exact .nil
  | cons d deeds ih =>
    cases d with
    | act a seen =>
      cases seen with
      | some r => cases h
      | none =>
        unfold follow at h
        cases hf : w.focus with
        | idle =>
          rcases ha : w.perform a with ⟨w₁, reply | text⟩
          · rw [hf, ha] at h
            refine .cons ⟨hf, reply, by rw [ha], by rintro r ⟨⟩⟩ ?_
            show Runs (w.perform a).1 deeds w'
            rw [ha]
            exact ih h
          · rw [hf, ha] at h
            cases h
        | _ =>
          rw [hf] at h
          cases h
    | poll t =>
      unfold follow at h
      cases hf : w.focus with
      | idle =>
        rw [hf] at h
        refine .cons (d := .poll t) hf (ih ?_)
        show ({ w with queue := w.queue.erase t }.poll t).follow deeds = _
        rw [hf]
        exact h
      | _ =>
        rw [hf] at h
        cases h
    | step => exact .cons (d := .step) True.intro (ih h)

/-- Nobody subscribes both to these nodes and to others. -/
def partsSubscribers (nodes : String → Bool) (journal : List Event) : Bool :=
  journal.all fun e => journal.all fun e' =>
    match e, e' with
    | .subscribed _ slot c _, .subscribed _ slot' c' _ =>
      c != c' || nodes slot.node == nodes slot'.node
    | _, _ => true

lemma of_partsSubscribers {nodes : String → Bool} {journal : List Event}
    (h : partsSubscribers nodes journal = true) (host : String) (slot : Slot) (c : Nat)
    (name host' : String) (slot' : Slot) (name' : String)
    (hm : .subscribed host slot c name ∈ journal)
    (hm' : .subscribed host' slot' c name' ∈ journal) :
    nodes slot.node = nodes slot'.node := by
  have hpair := List.all_eq_true.mp (List.all_eq_true.mp h _ hm) _ hm'
  simpa using hpair

/-- Two computations are under way at once. The one that was begun last is that of `a`. -/
def interwoven : List Deed :=
  let bring (n : Int) : Deed :=
    .act (.resolve .first (some (.value (.json (.number (.int n)))))) none
  let steps (n : Nat) : List Deed := List.replicate n .step
  [.act (.register "p" (heldNode "a" ["o"]) "a") none,
    .act (.register "p" (heldNode "b" ["o"]) "b") none,
    .act (.subscribe "p" "t" ⟨"b", "o"⟩ "y") none,
    .act (.subscribe "p" "s" ⟨"a", "o"⟩ "x") none] ++
  (.poll 0 :: steps 10) ++ (.poll 1 :: steps 10) ++ (bring 1 :: .poll 0 :: steps 12) ++
  (bring 2 :: .poll 1 :: steps 12)

lemma asksNothing_heldNode (id : String) (outputs : List String) : (heldNode id outputs).AsksNothing := by
  intro output o
  cases o with
  | none => exact True.intro
  | some o => cases o <;> exact True.intro

/-- Results are compared as JSON. -/
def jsonScene : Scene where
  setups := ⟨[("p", { policy := .json })]⟩

lemma blind_jsonScene (host : String) : (jsonScene.opening.policy host).Blind := by
  by_cases hp : "p" = host
  · subst hp
    exact Policy.blind_json
  · have hpolicy : jsonScene.opening.policy host = .identity := by
      simp [policy, pipeline, Scene.opening, jsonScene, Table.get?, Table.lookup, hp]
    rw [hpolicy]
    exact Policy.blind_identity

/-- Without `b`, all goes for `a` as it does when `a` comes second. -/
theorem nodes_do_not_interfere_interwoven : ∃ w, jsonScene.opening.Runs interwoven w ∧
    ((w.engine "p").cached ⟨"a", "o"⟩).map Result.id = some 1 ∧
    ((w.engine "p").cached ⟨"b", "o"⟩).map Result.id = some 0 ∧
    w.tasks.map (fun task => task.ended.isSome) = [true, true] ∧
    ∃ S : Side, S.nodes = (fun id => id == "a") ∧ ∀ n, ∃ w' v,
      jsonScene.opening.Runs (interwoven.take n) w' ∧
      jsonScene.opening.Runs (jsonScene.opening.excerpt S (interwoven.take n)) v ∧
      w'.Agrees S v ∧ w'.Sorted S := by
  have hfacts : (jsonScene.opening.follow interwoven).any (fun w =>
      ((w.engine "p").cached ⟨"a", "o"⟩).map Result.id == some 1 &&
      ((w.engine "p").cached ⟨"b", "o"⟩).map Result.id == some 0 &&
      w.tasks.map (fun task => task.ended.isSome) == [true, true] &&
      partsSubscribers (fun id => id == "a") w.journal) = true := by decide +kernel
  obtain ⟨w, hw, hall⟩ := (Option.any_eq_true _ _).mp hfacts
  simp only [Bool.and_eq_true, beq_iff_eq] at hall
  obtain ⟨⟨⟨ha, hb⟩, hover⟩, hparts⟩ := hall
  have hruns := runs_of_follow hw
  refine ⟨w, hruns, ha, hb, hover, nodes_do_not_interfere (fun id => id == "a") hruns
    blind_jsonScene ?_ ?_ (of_partsSubscribers hparts)⟩
  · rintro callback l script ⟨⟩
  · intro host n handle seen hm
    simp only [interwoven, List.mem_append, List.mem_cons, List.mem_replicate, List.not_mem_nil,
      Deed.act.injEq, Action.register.injEq, reduceCtorEq, false_and, and_false,
      or_false] at hm
    rcases hm with ⟨⟨-, rfl, -⟩, -⟩ | ⟨⟨-, rfl, -⟩, -⟩ <;> exact asksNothing_heldNode _ _

end World

end Dataflow
