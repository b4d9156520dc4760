import Dataflow.Proofs.HandingOver
import Dataflow.Source

/-!
# Failures that are passed on

A node that asks for the output of another one may pass its failure on as its own. The failure that it
is wrapped into then tells two things, one after the other: the message of the failure passed on, which
ends with the text of what that was caused by, and the same text once more. So nothing of the original
text is lost however often it is passed on, but the text doubles every time.
-/

namespace Dataflow

namespace Failure

lemma message_compute (node output : String) (c : Cause) :
    (compute node output c).message =
      "Node '" ++ node ++ "' failed to compute output '" ++ output ++ "':\n" ++ c.text := rfl

lemma chain_cause_compute (node output : String) (c : Cause) :
    (compute node output c).cause.chain = [(compute node output c).message, c.text] := rfl

lemma text_cause_compute (node output : String) (c : Cause) :
    (compute node output c).cause.text = (compute node output c).message ++ ": " ++ c.text := by
  show ": ".intercalate [(compute node output c).message, c.text] = _
  rw [String.intercalate_cons_cons, String.intercalate_singleton]

/-- The text that was passed on stands at the end. -/
lemma suffix_text_cause (node output : String) (c : Cause) :
    c.text.toList <:+ (compute node output c).cause.text.toList := by
  rw [text_cause_compute, String.toList_append]
  exact List.suffix_append _ _

/-- The node that passes on is named. -/
lemma node_infix_text_cause (node output : String) (c : Cause) :
    node.toList <:+: (compute node output c).cause.text.toList := by
  refine ⟨"Node '".toList, ("' failed to compute output '" ++ output ++ "':\n" ++ c.text ++ ": " ++
    c.text).toList, ?_⟩
  rw [text_cause_compute, message_compute]
  simp only [String.toList_append, List.append_assoc]

/-- The text is there twice. -/
lemma length_text_cause (node output : String) (c : Cause) :
    2 * c.text.length ≤ (compute node output c).cause.text.length := by
  rw [text_cause_compute, message_compute]
  simp only [String.length_append]
  omega

end Failure

/-- What a node does with the answer to what it asked, if it passes failures on as its own. -/
def Recipe.PassesOn (rest : Content → Recipe) : Prop :=
  ∀ f, rest (.error f) = .finish (.error f.cause)

namespace World

variable {sc : Scene} {w : World} {k : Work} {cause origin : Cause} {r : Result} {f : Failure}

lemma HandsOver.judge_error (h : w.HandsOver k (.error cause)) (hs : w.Sane) :
    k.judge (.error cause) = .ok (.error (.compute k.slot.node k.slot.output cause)) := by
  obtain ⟨n, schema, ht⟩ := h.target hs
  unfold Work.judge
  rw [ht]

lemma HandsOver.fails (h : w.HandsOver k (.error cause)) (hs : w.Sane) :
    w.Attains k (.error cause) ⟨w.nextResult, .error (.compute k.slot.node k.slot.output cause)⟩ :=
  h.attains hs.poised.steady (h.judge_error hs)

/-- Whoever fails with a cause, the failure wraps that cause. -/
lemma Attains.content (ha : w.Attains k (.error cause) r) (h : w.HandsOver k (.error cause))
    (hs : w.Sane) : r.content = .error (.compute k.slot.node k.slot.output cause) := by
  rw [ha.unique (h.fails hs)]

/-- A node that passes failures on hands over what it is answered with. -/
lemma handsOver_of_answer (hs : w.Sane) (hf : w.focus = .answer r) (hr : r.content = .error f)
    (hp : w.party = .work k) {own : Handle} {rest : Content → Recipe}
    (hst : k.stage = .asking own rest) (hrest : Recipe.PassesOn rest) :
    w.step.HandsOver { k with stage := .away } (.error f.cause) := by
  have hstep : w.step = (w.setWork { k with stage := .away }).aim (.make (rest r.content)) := by
    unfold World.step handAnswer
    rw [hf]
    dsimp only
    rw [hp]
    dsimp only
    rw [hst]
  have hparty := (steady_setWork hs.poised.steady hp .away True.intro (by rintro own ⟨⟩)).2.1
  rw [hstep, hr, hrest f]
  exact ⟨rfl, hparty⟩

/-- So it does with what it finds in the cache. -/
lemma handsOver_of_cached {host : String} {slot : Slot} {rest : Content → Recipe}
    (hf : w.focus = .make (.ask host slot rest)) (hp : w.party = .work k)
    (hc : (w.engine host).cached slot = some r) (hr : r.content = .error f)
    (hrest : Recipe.PassesOn rest) : w.step.HandsOver k (.error f.cause) := by
  have hstep : w.step = w.aim (.make (rest r.content)) := by
    unfold World.step makeRecipe
    rw [hf]
    dsimp only
    rw [hp]
    dsimp only
    rw [hc]
  rw [hstep, hr, hrest f]
  exact ⟨rfl, hp⟩

/-- The work failed with `cause` and came to `r`. It passed on what the works of the slots in `below`
had passed on before, of which the first failed with `origin`. -/
inductive PassedOn (sc : Scene) (origin : Cause) : List Slot → Work → Cause → Result → Prop where
  | first {w : World} {k : Work} {r : Result} : Reachable sc.opening w →
      w.HandsOver k (.error origin) → w.Attains k (.error origin) r → PassedOn sc origin [] k origin r
  | next {below : List Slot} {w : World} {k k' : Work} {cause : Cause} {r r' : Result} {f : Failure} :
      PassedOn sc origin below k cause r → r.content = .error f → Reachable sc.opening w →
      w.HandsOver k' (.error f.cause) → w.Attains k' (.error f.cause) r' →
      PassedOn sc origin (below ++ [k.slot]) k' f.cause r'

namespace PassedOn

variable {below : List Slot}

lemma content (h : PassedOn sc origin below k cause r) :
    r.content = .error (.compute k.slot.node k.slot.output cause) := by
  cases h with
  | first hw hh ha => exact ha.content hh (Scene.sane_of_reachable hw)
  | next _ _ hw hh ha => exact ha.content hh (Scene.sane_of_reachable hw)

lemma failure_eq (h : PassedOn sc origin below k cause r) (hr : r.content = .error f) :
    f = .compute k.slot.node k.slot.output cause :=
  Except.error.inj (hr.symm.trans h.content)

lemma suffix (h : PassedOn sc origin below k cause r) :
    origin.text.toList <:+ cause.text.toList := by
  induction h with
  | first => exact List.suffix_refl _
  | next h hr _ _ _ ih =>
    rw [h.failure_eq hr]
    exact ih.trans (Failure.suffix_text_cause _ _ _)

lemma named (h : PassedOn sc origin below k cause r) :
    ∀ s ∈ below, s.node.toList <:+: cause.text.toList := by
  induction h with
  | first =>
    rintro s ⟨⟩
  | next h hr _ _ _ ih =>
    rw [h.failure_eq hr]
    intro s hs
    rcases List.mem_append.mp hs with hs | hs
    · exact (ih s hs).trans (Failure.suffix_text_cause _ _ _).isInfix
    · rw [List.mem_singleton.mp hs]
      exact Failure.node_infix_text_cause _ _ _

lemma length (h : PassedOn sc origin below k cause r) :
    Nat.pow 2 below.length * origin.text.length ≤ cause.text.length := by
  induction h with
  | first => exact Nat.le_of_eq (Nat.one_mul _)
  | @next below w k k' cause r r' f h hr _ _ _ ih =>
    have hpow : Nat.pow 2 (below ++ [k.slot]).length = 2 * Nat.pow 2 below.length := by
      rw [List.length_append]
      exact Nat.pow_succ'
    have hdouble := Failure.length_text_cause k.slot.node k.slot.output cause
    rw [h.failure_eq hr, hpow, Nat.mul_assoc]
    exact Nat.le_trans (Nat.mul_le_mul_left 2 ih) hdouble

end PassedOn

/-- A failure that nodes pass on ends with the text of the first and names every node on the way, and its
text doubles in length with each of them. -/
theorem forwarded_failures {sc : Scene} :
    (∀ w k cause, Reachable sc.opening w → w.HandsOver k (.error cause) →
      ∃ r, w.Attains k (.error cause) r) ∧
    (∀ w k cause r, Reachable sc.opening w → w.HandsOver k (.error cause) →
      w.Attains k (.error cause) r → ∃ f, r.content = .error f ∧ f.node = k.slot.node ∧
        f = .compute k.slot.node k.slot.output cause ∧ f.source? = some cause.text) ∧
    (∀ w k own rest r f, Reachable sc.opening w → w.focus = .answer r → w.party = .work k →
      k.stage = .asking own rest → Recipe.PassesOn rest → r.content = .error f →
      w.step.HandsOver { k with stage := .away } (.error f.cause)) ∧
    (∀ (w : World) k host slot rest (r : Result) f, w.focus = .make (.ask host slot rest) →
      w.party = .work k →
      (w.engine host).cached slot = some r → Recipe.PassesOn rest → r.content = .error f →
      w.step.HandsOver k (.error f.cause)) ∧
    ∀ origin below k cause r, PassedOn sc origin below k cause r →
      (∀ f, r.content = .error f → f.cause.chain = [f.message, cause.text] ∧
        f.cause.text = f.message ++ ": " ++ cause.text ∧
        ∀ w k' r', Reachable sc.opening w → w.HandsOver k' (.error f.cause) →
          w.Attains k' (.error f.cause) r' → PassedOn sc origin (below ++ [k.slot]) k' f.cause r' ∧
            r'.content = .error (.compute k'.slot.node k'.slot.output f.cause)) ∧
      origin.text.toList <:+ cause.text.toList ∧
      (∀ s ∈ below, s.node.toList <:+: cause.text.toList) ∧
      Nat.pow 2 below.length * origin.text.length ≤ cause.text.length := by
  refine ⟨?_, ?_, ?_, ?_, ?_⟩
  · intro w k cause hw h
    exact ⟨_, h.fails (Scene.sane_of_reachable hw)⟩
  · intro w k cause r hw h ha
    exact ⟨_, ha.content h (Scene.sane_of_reachable hw), rfl, rfl, rfl⟩
  · intro w k own rest r f hw hf hp hst hrest hr
    exact handsOver_of_answer (Scene.sane_of_reachable hw) hf hr hp hst hrest
  · intro w k host slot rest r f hf hp hc hrest hr
    exact handsOver_of_cached hf hp hc hr hrest
  · intro origin below k cause r h
    refine ⟨?_, h.suffix, h.named, h.length⟩
    intro f hr
    obtain rfl := h.failure_eq hr
    refine ⟨Failure.chain_cause_compute _ _ _, Failure.text_cause_compute _ _ _, ?_⟩
    intro w k' r' hw hh ha
    have hnext := h.next hr hw hh ha
    exact ⟨hnext, hnext.content⟩

/-- The work that is about to fail, and what with. -/
def failing? (w : World) : Option (Work × Cause) :=
  match w.focus, w.party with
  | .make (.finish (.error cause)), .work k => some (k, cause)
  | _, _ => none

lemma handsOver_of_failing (h : w.failing? = some (k, cause)) : w.HandsOver k (.error cause) := by
  unfold failing? at h
  split at h
  · rename_i hf hp
    cases h
    exact ⟨hf, hp⟩
  · cases h

/-- A node that relays what its cell says. -/
def relayNode (id : String) : Node :=
  ({ id, name := id, host := "p", only := none, pace := .free, cells := [] } : Source).node
    [("o", Schema.any)]

/-- One node fails with a context, a second one relays it, and a third one relays that. -/
def relaying : Scene where
  cells := ⟨[("base.o", .failed ⟨"reading", ["disk"]⟩), ("mid.o", .relay ⟨"base", "o"⟩),
    ("top.o", .relay ⟨"mid", "o"⟩)]⟩

/-- The third one is asked for its output, and this many steps are run. -/
def relayed (fuel : Nat) : Option World :=
  relaying.opening.rehearse [
    (.register "p" (relayNode "base") "base", 0),
    (.register "p" (relayNode "mid") "mid", 0),
    (.register "p" (relayNode "top") "top", 0),
    (.output "p" "top" ⟨"top", "o"⟩, fuel)]

lemma handsOver_of_relayed {fuel : Nat} {s : Slot} {c : Cause}
    (h : ((relayed fuel).bind failing?).map (fun p => (p.1.slot, p.2)) = some (s, c)) :
    ∃ w k, Reachable relaying.opening w ∧ w.HandsOver k (.error c) ∧ k.slot = s := by
  obtain ⟨⟨k, c'⟩, hk, heq⟩ := Option.map_eq_some_iff.mp h
  obtain ⟨w, hw, hf⟩ := Option.bind_eq_some_iff.mp hk
  cases heq
  exact ⟨w, k, reachable_rehearse .refl hw, handsOver_of_failing hf, rfl⟩

theorem forwarded_failures_relaying : ∃ below k cause r f,
    PassedOn relaying ⟨"reading", ["disk"]⟩ below k cause r ∧
    below = [⟨"base", "o"⟩, ⟨"mid", "o"⟩] ∧ r.content = .error f ∧ f.node = "top" ∧
    f.source? = some cause.text ∧ "reading: disk".toList <:+ cause.text.toList ∧
    "base".toList <:+: cause.text.toList ∧ Nat.pow 2 2 * 13 ≤ cause.text.length := by
  have hbase : ((relayed 16).bind failing?).map (fun p => (p.1.slot, p.2)) =
      some (⟨"base", "o"⟩, ⟨"reading", ["disk"]⟩) := by decide +kernel
  have hmid : ((relayed 19).bind failing?).map (fun p => (p.1.slot, p.2)) =
      some (⟨"mid", "o"⟩, (Failure.compute "base" "o" ⟨"reading", ["disk"]⟩).cause) := by
    decide +kernel
  have htop : ((relayed 22).bind failing?).map (fun p => (p.1.slot, p.2)) =
      some (⟨"top", "o"⟩, (Failure.compute "mid" "o"
        (Failure.compute "base" "o" ⟨"reading", ["disk"]⟩).cause).cause) := by
    decide +kernel
  obtain ⟨w₀, k₀, hw₀, hh₀, hs₀⟩ := handsOver_of_relayed hbase
  obtain ⟨w₁, k₁, hw₁, hh₁, hs₁⟩ := handsOver_of_relayed hmid
  obtain ⟨w₂, k₂, hw₂, hh₂, hs₂⟩ := handsOver_of_relayed htop
  obtain ⟨hattains, hwraps, -, -, hpassed⟩ := @forwarded_failures relaying
  obtain ⟨r₀, ha₀⟩ := hattains w₀ k₀ _ hw₀ hh₀
  obtain ⟨r₁, ha₁⟩ := hattains w₁ k₁ _ hw₁ hh₁
  obtain ⟨r₂, ha₂⟩ := hattains w₂ k₂ _ hw₂ hh₂
  have h₀ : PassedOn relaying ⟨"reading", ["disk"]⟩ [] k₀ _ r₀ := .first hw₀ hh₀ ha₀
  obtain ⟨f₀, hr₀, -, rfl, -⟩ := hwraps w₀ k₀ _ r₀ hw₀ hh₀ ha₀
  obtain ⟨f₁, hr₁, -, rfl, -⟩ := hwraps w₁ k₁ _ r₁ hw₁ hh₁ ha₁
  obtain ⟨f₂, hr₂, hnode, -, hsource⟩ := hwraps w₂ k₂ _ r₂ hw₂ hh₂ ha₂
  rw [hs₀] at hr₀
  rw [hs₁] at hr₁
  obtain ⟨h₁, -⟩ := ((hpassed _ _ _ _ _ h₀).1 _ hr₀).2.2 w₁ k₁ r₁ hw₁ hh₁ ha₁
  obtain ⟨h₂, -⟩ := ((hpassed _ _ _ _ _ h₁).1 _ hr₁).2.2 w₂ k₂ r₂ hw₂ hh₂ ha₂
  obtain ⟨-, hsuffix, hnamed, hlength⟩ := hpassed _ _ _ _ _ h₂
  rw [hs₀, hs₁] at h₂ hnamed hlength
  rw [hs₂] at hnode
  exact ⟨_, k₂, _, r₂, f₂, h₂, rfl, hr₂, hnode, hsource, hsuffix, hnamed ⟨"base", "o"⟩ (by simp),
    hlength⟩

end World

end Dataflow
