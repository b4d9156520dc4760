import Dataflow.Proofs.Stakes
import Dataflow.Proofs.TidyStores
import Mathlib.Logic.Relation

/-!
# How gates are kept

Emissions under way hold the gate of their slot, each with a number of its own, and whoever delivers is
first in line. So the emissions of one slot all hold one gate, and one of them delivers at a time. As long
as every emission comes to its end, a gate is there only while somebody holds it.
-/

namespace Dataflow

/-- Whether the holder of this number is first in line. -/
def Gate.leads (g : Gate) (n : Nat) : Bool := g.line.head?.any (·.1 == n)

lemma Gate.leads_iff {g : Gate} {n : Nat} :
    g.leads n = true ↔ ∃ who rest, g.line = (n, who) :: rest := by
  unfold leads
  cases g.line with
  | nil => simp
  | cons p rest =>
    obtain ⟨m, who⟩ := p
    constructor
    · intro h
      obtain rfl : m = n := by simpa using h
      exact ⟨who, rest, rfl⟩
    · rintro ⟨who', rest', h⟩
      cases h
      simp

/-- Whoever steps out of the line leaves the others in their order. -/
lemma Gate.leads_filter {g : Gate} {n m : Nat} (h : g.leads m = true) (hn : m ≠ n) :
    Gate.leads { g with line := g.line.filter (·.1 != n) } m = true := by
  obtain ⟨who, rest, hl⟩ := leads_iff.mp h
  refine leads_iff.mpr ⟨who, rest.filter (·.1 != n), ?_⟩
  show g.line.filter (·.1 != n) = _
  rw [hl, List.filter_cons_of_pos (by simpa using hn)]

namespace Engine

/-- The gate that whoever enters takes hold of. -/
def gateFor (e : Engine) (s : Slot) : Gate := (e.gate? s).getD { id := e.passes }

lemma gate?_set (e : Engine) (s j : Slot) (g : Gate) :
    gate? { e with gates := e.gates.set s.node s.output g } j = if s = j then some g else e.gate? j := by
  simp [gate?, Slot.eq_iff]

lemma gate?_enter (e : Engine) (s j : Slot) :
    (e.enter s).2.gate? j =
      if s = j then some { e.gateFor s with holders := (e.gateFor s).holders ++ [e.passes] }
      else e.gate? j := by
  have hset := gate?_set e s j
    { e.gateFor s with holders := (e.gateFor s).holders ++ [e.passes] }
  exact hset

lemma gate?_modifyGate (e : Engine) (s j : Slot) (pass : Pass) (f : Gate → Gate) :
    (e.modifyGate s pass f).gate? j =
      if s = j then (e.gate? s).map fun g => if g.id = pass.gate then f g else g
      else e.gate? j := by
  unfold modifyGate
  cases hg : e.gate? s with
  | none =>
    by_cases hj : s = j
    · subst hj
      rw [if_pos rfl, hg]
      rfl
    · rw [if_neg hj]
  | some g =>
    dsimp only
    by_cases hid : g.id = pass.gate
    · rw [if_pos hid, gate?_set]
      simp [hid]
    · rw [if_neg hid]
      by_cases hj : s = j
      · subst hj
        simp [hg, hid]
      · rw [if_neg hj]

lemma isFirst_iff {e : Engine} {s : Slot} {pass : Pass} :
    e.isFirst s pass = true ↔
      ∃ g, e.gate? s = some g ∧ g.id = pass.gate ∧ g.leads pass.number = true := by
  unfold isFirst line
  cases hg : e.gate? s with
  | none => simp
  | some g =>
    by_cases hid : g.id = pass.gate
    · simp [hid, Gate.leads]
    · simp [hid]

variable {e : Engine} {s : Slot} {pass : Pass} {g : Gate}

lemma gate?_lineUp (hg : e.gate? s = some g) (hid : g.id = pass.gate) (who : Waiter) :
    ∃ line, (e.lineUp s pass who).gate? s = some { g with line } ∧
      ∀ m, g.leads m = true → Gate.leads { g with line } m = true := by
  rcases e.lineUp_cases s pass who with heq | heq <;> rw [heq]
  · exact ⟨g.line, hg, fun m h => h⟩
  · refine ⟨g.line ++ [(pass.number, who)], ?_, fun m h => ?_⟩
    · rw [gate?_modifyGate, if_pos rfl, hg, Option.map_some, if_pos hid]
    · obtain ⟨who', rest, hl⟩ := Gate.leads_iff.mp h
      refine Gate.leads_iff.mpr ⟨who', rest ++ [(pass.number, who)], ?_⟩
      show g.line ++ _ = _
      rw [hl]
      rfl

lemma gate?_stepOut (hg : e.gate? s = some g) (hid : g.id = pass.gate) :
    (e.stepOut s pass).gate? s = some { g with line := g.line.filter (·.1 != pass.number) } := by
  unfold stepOut
  rw [gate?_modifyGate, if_pos rfl, hg, Option.map_some, if_pos hid]

lemma gate?_abandon (hg : e.gate? s = some g) (hid : g.id = pass.gate) :
    (e.abandon s pass).gate? s = some { g with holders := g.holders.erase pass.number } := by
  unfold abandon
  rw [gate?_modifyGate, if_pos rfl, hg, Option.map_some, if_pos hid]

lemma gate?_leave (hg : e.gate? s = some g) (hid : g.id = pass.gate) :
    (e.leave s pass).gate? s = if g.holders = [pass.number] then none
      else some { g with holders := g.holders.erase pass.number } := by
  unfold leave
  rw [hg]
  dsimp only
  by_cases hh : g.holders = [pass.number]
  · rw [if_pos ⟨hid, hh⟩, if_pos hh]
    simp [gate?]
  · rw [if_neg fun h => hh h.2, if_neg hh]
    exact gate?_abandon hg hid

/-- Only the gate of this slot has changed, and all that hold it but for `n` go on holding it, in their
order. -/
structure KeepsHolders (e e' : Engine) (s : Slot) (n : Nat) : Prop where
  others : ∀ j, s ≠ j → e'.gate? j = e.gate? j
  passes : e.passes ≤ e'.passes
  holds : ∀ g m, e.gate? s = some g → m ∈ g.holders → m ≠ n →
    ∃ g', e'.gate? s = some g' ∧ g'.id = g.id ∧ m ∈ g'.holders ∧
      (g.leads m = true → g'.leads m = true)
  tidy : e.gates.Tidy → e'.gates.Tidy

variable {e' e'' : Engine} {n : Nat}

lemma KeepsHolders.refl (e : Engine) (s : Slot) (n : Nat) : e.KeepsHolders e s n :=
  ⟨fun _ _ => rfl, Nat.le_refl _, fun g _ hg hm _ => ⟨g, hg, rfl, hm, fun h => h⟩, fun h => h⟩

lemma KeepsHolders.trans (h : e.KeepsHolders e' s n) (h' : e'.KeepsHolders e'' s n) :
    e.KeepsHolders e'' s n where
  others := fun j hj => (h'.others j hj).trans (h.others j hj)
  passes := Nat.le_trans h.passes h'.passes
  holds := fun g m hg hm hn => by
    obtain ⟨g', hg', hid, hm', hl⟩ := h.holds g m hg hm hn
    obtain ⟨g'', hg'', hid', hm'', hl'⟩ := h'.holds g' m hg' hm' hn
    exact ⟨g'', hg'', hid'.trans hid, hm'', fun h => hl' (hl h)⟩
  tidy := fun ht => h'.tidy (h.tidy ht)

lemma keepsHolders_enter (e : Engine) (s : Slot) : e.KeepsHolders (e.enter s).2 s e.passes where
  others := fun j hj => by rw [gate?_enter, if_neg hj]
  passes := Nat.le_succ _
  holds := fun g m hg hm _ => by
    refine ⟨_, by rw [gate?_enter, if_pos rfl], ?_⟩
    unfold gateFor
    rw [hg]
    exact ⟨rfl, List.mem_append_left _ hm, fun h => h⟩
  tidy := fun ht => ht.set _ _ _

lemma keepsHolders_modifyGate (e : Engine) (s : Slot) (pass : Pass) {f : Gate → Gate}
    (hf : ∀ g, (f g).id = g.id ∧ ∀ m ∈ g.holders, m ≠ n →
      m ∈ (f g).holders ∧ (g.leads m = true → (f g).leads m = true)) :
    e.KeepsHolders (e.modifyGate s pass f) s n where
  others := fun j hj => by rw [gate?_modifyGate, if_neg hj]
  passes := (regated_modifyGate e s pass f).passes_le
  holds := fun g m hg hm hn => by
    refine ⟨if g.id = pass.gate then f g else g, ?_, ?_⟩
    · rw [gate?_modifyGate, if_pos rfl, hg]
      rfl
    · by_cases hid : g.id = pass.gate
      · rw [if_pos hid]
        exact ⟨(hf g).1, (hf g).2 m hm hn⟩
      · rw [if_neg hid]
        exact ⟨rfl, hm, fun h => h⟩
  tidy := fun ht => by
    rcases e.modifyGate_cases s pass f with ⟨g, -, -, heq⟩ | heq <;> rw [heq]
    · exact ht.set _ _ _
    · exact ht

lemma keepsHolders_lineUp (e : Engine) (s : Slot) (pass : Pass) (who : Waiter) (n : Nat) :
    e.KeepsHolders (e.lineUp s pass who) s n := by
  rcases e.lineUp_cases s pass who with heq | heq <;> rw [heq]
  · exact .refl e s n
  · refine keepsHolders_modifyGate e s pass fun g => ⟨rfl, fun m hm _ => ⟨hm, fun h => ?_⟩⟩
    obtain ⟨who', rest, hl⟩ := Gate.leads_iff.mp h
    exact Gate.leads_iff.mpr ⟨who', rest ++ [(pass.number, who)], by rw [hl]; rfl⟩

lemma keepsHolders_stepOut (e : Engine) (s : Slot) (pass : Pass) :
    e.KeepsHolders (e.stepOut s pass) s pass.number :=
  keepsHolders_modifyGate e s pass fun _ => ⟨rfl, fun _ hm hn => ⟨hm, fun h => Gate.leads_filter h hn⟩⟩

lemma keepsHolders_abandon (e : Engine) (s : Slot) (pass : Pass) :
    e.KeepsHolders (e.abandon s pass) s pass.number :=
  keepsHolders_modifyGate e s pass fun _ =>
    ⟨rfl, fun _ hm hn => ⟨(List.mem_erase_of_ne hn).mpr hm, fun h => h⟩⟩

lemma keepsHolders_leave (e : Engine) (s : Slot) (pass : Pass) :
    e.KeepsHolders (e.leave s pass) s pass.number := by
  rcases e.leave_cases s pass with ⟨g, hg, hlast, heq⟩ | heq <;> rw [heq]
  · refine ⟨fun j hj => ?_, Nat.le_refl _, fun g' m hg' hm hn => ?_, fun ht => ht.erase _ _⟩
    · have hne : ¬(s.node = j.node ∧ s.output = j.output) := fun he => hj ((s.eq_iff j).mpr he)
      simp [gate?, hne]
    · rw [hg] at hg'
      cases hg'
      rw [hlast, List.mem_singleton] at hm
      exact absurd hm hn
  · exact keepsHolders_abandon e s pass

end Engine

/-- The engines, and what the branches of the tasks hold of their gates. -/
structure Gating where
  engine : String → Engine
  stake : Nat → Nat → Option Stake

namespace Gating

variable {b b' b'' : Gating}

/-- One emission comes to hold something else, with an engine of its own. -/
def turn (b : Gating) (t i : Nat) (host : String) (e : Engine) (o : Option Stake) : Gating where
  engine := fun k => if host = k then e else b.engine k
  stake := fun u k => if u = t ∧ k = i then o else b.stake u k

lemma stake_turn {t i u k : Nat} {host : String} {e : Engine} {o : Option Stake} {y : Stake}
    (hy : (b.turn t i host e o).stake u k = some y) :
    (u = t ∧ k = i) ∧ o = some y ∨ ¬(u = t ∧ k = i) ∧ b.stake u k = some y := by
  unfold turn at hy
  dsimp only at hy
  by_cases hu : u = t ∧ k = i
  · rw [if_pos hu] at hy
    exact .inl ⟨hu, hy⟩
  · rw [if_neg hu] at hy
    exact .inr ⟨hu, hy⟩

lemma engine_turn (b : Gating) (t i : Nat) (host k : String) (e : Engine) (o : Option Stake) :
    (b.turn t i host e o).engine k = if host = k then e else b.engine k := rfl

/-- The task holds nothing any more. -/
def forfeit (b : Gating) (t : Nat) : Gating :=
  { b with stake := fun u k => if u = t then none else b.stake u k }

/-- Emissions hold the gates that are there, each under a number of its own, and those that deliver are
first in line. -/
structure Kept (b : Gating) : Prop where
  held : ∀ t i x, b.stake t i = some x → ∃ g, (b.engine x.host).gate? x.slot = some g ∧
    g.id = x.pass.gate ∧ x.pass.number ∈ g.holders ∧
      (x.delivering = true → g.leads x.pass.number = true)
  below : ∀ t i x, b.stake t i = some x → x.pass.number < (b.engine x.host).passes
  sole : ∀ t i x u k y, b.stake t i = some x → b.stake u k = some y → x.host = y.host →
    x.pass.number = y.pass.number → t = u ∧ i = k
  tidy : ∀ host, (b.engine host).gates.Tidy

/-- Gates are there only while somebody holds them. -/
def Full (b : Gating) : Prop :=
  ∀ host s g, (b.engine host).gate? s = some g → g.holders ≠ [] ∧ g.holders.Nodup ∧
    ∀ n ∈ g.holders, ∃ t i x, b.stake t i = some x ∧ x.host = host ∧ x.slot = s ∧ x.pass.number = n

/-- What emissions do at the gate while they come to their ends. -/
inductive GateTurn (b : Gating) : Gating → Prop where
  | rest {b' : Gating} : (∀ host, (b.engine host).KeepsGates (b'.engine host)) →
      b'.stake = b.stake → GateTurn b b'
  | enter (t i : Nat) (host : String) (s : Slot) : b.stake t i = none →
      GateTurn b (b.turn t i host ((b.engine host).enter s).2
        (some ⟨host, s, ((b.engine host).enter s).1, false⟩))
  | lineUp (t i : Nat) (x : Stake) (who : Waiter) : b.stake t i = some x →
      GateTurn b (b.turn t i x.host ((b.engine x.host).lineUp x.slot x.pass who) (some x))
  | deliver (t i : Nat) (x : Stake) : b.stake t i = some x →
      (b.engine x.host).isFirst x.slot x.pass = true →
      GateTurn b (b.turn t i x.host (b.engine x.host) (some { x with delivering := true }))
  | retry (t i : Nat) (x : Stake) : b.stake t i = some x →
      GateTurn b (b.turn t i x.host ((b.engine x.host).stepOut x.slot x.pass)
        (some { x with delivering := false }))
  | leave (t i : Nat) (x : Stake) : b.stake t i = some x →
      GateTurn b (b.turn t i x.host (((b.engine x.host).stepOut x.slot x.pass).leave x.slot x.pass)
        none)

/-- What happens to gates at all: emissions may be given up as well. -/
inductive GateMove (b : Gating) : Gating → Prop where
  | turn {b' : Gating} : GateTurn b b' → GateMove b b'
  | abandon (t i : Nat) (x : Stake) : b.stake t i = some x →
      GateMove b (b.turn t i x.host
        (((b.engine x.host).stepOut x.slot x.pass).abandon x.slot x.pass) none)

namespace Kept

/-- One emission comes to hold something else, under a number that nobody else has. -/
lemma turn (h : b.Kept) {t i : Nat} {host : String} {s : Slot} {n : Nat} {e : Engine}
    {o : Option Stake} (hs : (b.engine host).KeepsHolders e s n)
    (hown : ∀ u k y, b.stake u k = some y → y.host = host → y.pass.number = n → u = t ∧ k = i)
    (hnew : ∀ x, o = some x → x.host = host ∧ x.slot = s ∧ x.pass.number = n ∧ n < e.passes ∧
      ∃ g, e.gate? s = some g ∧ g.id = x.pass.gate ∧ n ∈ g.holders ∧
        (x.delivering = true → g.leads n = true)) : (b.turn t i host e o).Kept where
  held := fun u k y hy => by
    rw [engine_turn]
    rcases stake_turn hy with ⟨-, ho⟩ | ⟨hne, hold⟩
    · obtain ⟨rfl, rfl, rfl, -, g, hg, hrest⟩ := hnew y ho
      exact ⟨g, by rw [if_pos rfl]; exact hg, hrest⟩
    · obtain ⟨g, hg, hid, hm, hl⟩ := h.held u k y hold
      by_cases hh : host = y.host
      · subst hh
        rw [if_pos rfl]
        by_cases hj : s = y.slot
        · subst hj
          obtain ⟨g', hg', hid', hm', hl'⟩ := hs.holds g y.pass.number hg hm
            fun hn => hne (hown u k y hold rfl hn)
          exact ⟨g', hg', hid'.trans hid, hm', fun hd => hl' (hl hd)⟩
        · exact ⟨g, (hs.others y.slot hj).trans hg, hid, hm, hl⟩
      · exact ⟨g, by rw [if_neg hh]; exact hg, hid, hm, hl⟩
  below := fun u k y hy => by
    rw [engine_turn]
    rcases stake_turn hy with ⟨-, ho⟩ | ⟨-, hold⟩
    · obtain ⟨rfl, -, rfl, hlt, -⟩ := hnew y ho
      rw [if_pos rfl]
      exact hlt
    · have hlt := h.below u k y hold
      by_cases hh : host = y.host
      · subst hh
        rw [if_pos rfl]
        exact Nat.lt_of_lt_of_le hlt hs.passes
      · rw [if_neg hh]
        exact hlt
  sole := fun u k y u' k' y' hy hy' hhost hn => by
    rcases stake_turn hy with ⟨hu, ho⟩ | ⟨hne, hy⟩
    · obtain ⟨hyh, -, hyn, -⟩ := hnew y ho
      rcases stake_turn hy' with ⟨hu', -⟩ | ⟨hne, hy'⟩
      · exact ⟨hu.1.trans hu'.1.symm, hu.2.trans hu'.2.symm⟩
      · exact absurd (hown u' k' y' hy' (hhost.symm.trans hyh) (hn.symm.trans hyn)) hne
    · rcases stake_turn hy' with ⟨-, ho⟩ | ⟨-, hy'⟩
      · obtain ⟨hyh, -, hyn, -⟩ := hnew y' ho
        exact absurd (hown u k y hy (hhost.trans hyh) (hn.trans hyn)) hne
      · exact h.sole u k y u' k' y' hy hy' hhost hn
  tidy := fun k => by
    rw [engine_turn]
    by_cases hk : host = k
    · rw [if_pos hk]
      exact hs.tidy (h.tidy host)
    · rw [if_neg hk]
      exact h.tidy k

/-- What an emission holds may change as long as it holds it. -/
lemma goOn (h : b.Kept) {t i : Nat} {x : Stake} (hx : b.stake t i = some x) {e : Engine}
    {o : Option Stake} (hs : (b.engine x.host).KeepsHolders e x.slot x.pass.number)
    (hnew : ∀ y, o = some y → y.host = x.host ∧ y.slot = x.slot ∧ y.pass = x.pass ∧
      ∃ g, e.gate? x.slot = some g ∧ g.id = x.pass.gate ∧ x.pass.number ∈ g.holders ∧
        (y.delivering = true → g.leads x.pass.number = true)) : (b.turn t i x.host e o).Kept := by
  refine h.turn hs (fun u k y hy hh hn => h.sole u k y t i x hy hx hh hn) fun y hy => ?_
  obtain ⟨hyh, hys, hyp, g, hg, hid, hm, hl⟩ := hnew y hy
  refine ⟨hyh, hys, congrArg Pass.number hyp, Nat.lt_of_lt_of_le (h.below t i x hx) hs.passes,
    g, hg, ?_, hm, hl⟩
  rw [hyp]
  exact hid

lemma gateTurn (h : b.Kept) (hm : GateTurn b b') : b'.Kept := by
  cases hm with
  | rest he hs =>
    have hgate : ∀ host s, (b'.engine host).gate? s = (b.engine host).gate? s := fun host s => by
      unfold Engine.gate?
      rw [(he host).1]
    refine ⟨fun t i x hx => ?_, fun t i x hx => ?_, fun t i x u k y hx hy => ?_, fun host => ?_⟩
    · rw [hs] at hx
      rw [hgate]
      exact h.held t i x hx
    · rw [hs] at hx
      rw [(he x.host).2]
      exact h.below t i x hx
    · rw [hs] at hx hy
      exact h.sole t i x u k y hx hy
    · rw [(he host).1]
      exact h.tidy host
  | enter t i host s hnone =>
    refine h.turn (Engine.keepsHolders_enter (b.engine host) s) (fun u k y hy hh hn => ?_) fun x hx => ?_
    · have hlt := h.below u k y hy
      rw [hh, hn] at hlt
      exact absurd hlt (Nat.lt_irrefl _)
    · cases hx
      have hg := Engine.gate?_enter (b.engine host) s s
      rw [if_pos rfl] at hg
      exact ⟨rfl, rfl, rfl, Nat.lt_succ_self _, _, hg, rfl,
        List.mem_append_right _ (List.mem_singleton_self _), by rintro ⟨⟩⟩
  | lineUp t i x who hx =>
    obtain ⟨g, hg, hid, hm, hl⟩ := h.held t i x hx
    obtain ⟨line, hg', hlead⟩ := Engine.gate?_lineUp hg hid who
    refine h.goOn hx (Engine.keepsHolders_lineUp _ _ _ who _) fun y hy => ?_
    cases hy
    exact ⟨rfl, rfl, rfl, _, hg', hid, hm, fun hd => hlead _ (hl hd)⟩
  | deliver t i x hx hf =>
    obtain ⟨g, hg, hid, hlead⟩ := Engine.isFirst_iff.mp hf
    obtain ⟨g', hg', -, hm, -⟩ := h.held t i x hx
    rw [hg] at hg'
    cases hg'
    refine h.goOn hx (.refl _ _ _) fun y hy => ?_
    cases hy
    exact ⟨rfl, rfl, rfl, g, hg, hid, hm, fun _ => hlead⟩
  | retry t i x hx =>
    obtain ⟨g, hg, hid, hm, -⟩ := h.held t i x hx
    refine h.goOn hx (Engine.keepsHolders_stepOut _ _ _) fun y hy => ?_
    cases hy
    exact ⟨rfl, rfl, rfl, _, Engine.gate?_stepOut hg hid, hid, hm, by rintro ⟨⟩⟩
  | leave t i x hx =>
    exact h.goOn hx ((Engine.keepsHolders_stepOut _ _ _).trans (Engine.keepsHolders_leave _ _ _))
      (by rintro y ⟨⟩)

lemma move (h : b.Kept) (hm : GateMove b b') : b'.Kept := by
  cases hm with
  | turn hm => exact h.gateTurn hm
  | abandon t i x hx =>
    exact h.goOn hx ((Engine.keepsHolders_stepOut _ _ _).trans (Engine.keepsHolders_abandon _ _ _))
      (by rintro y ⟨⟩)

lemma moves (h : b.Kept) (hm : Relation.ReflTransGen GateMove b b') : b'.Kept := by
  induction hm with
  | refl => exact h
  | tail _ hm ih => exact ih.move hm

/-- Of the emissions of a slot one at most delivers. -/
lemma delivers_alone (h : b.Kept) {t i u k : Nat} {x y : Stake} (hx : b.stake t i = some x)
    (hy : b.stake u k = some y) (hhost : x.host = y.host) (hslot : x.slot = y.slot)
    (hdx : x.delivering = true) (hdy : y.delivering = true) : t = u ∧ i = k := by
  obtain ⟨g, hg, -, -, hl⟩ := h.held t i x hx
  obtain ⟨g', hg', -, -, hl'⟩ := h.held u k y hy
  rw [← hhost, ← hslot, hg] at hg'
  cases hg'
  obtain ⟨who, rest, hline⟩ := Gate.leads_iff.mp (hl hdx)
  obtain ⟨who', rest', hline'⟩ := Gate.leads_iff.mp (hl' hdy)
  rw [hline] at hline'
  exact h.sole t i x u k y hx hy hhost (congrArg Prod.fst (List.cons.inj hline').1)

end Kept

namespace Full

/-- One emission comes to hold something else of its gate. -/
lemma turn (h : b.Full) {t i : Nat} {host : String} {s : Slot} {n : Nat} {e : Engine}
    {o : Option Stake} (hs : (b.engine host).KeepsHolders e s n)
    (hold : ∀ x, b.stake t i = some x → x.host = host ∧ x.slot = s ∧ x.pass.number = n)
    (hgate : ∀ g, e.gate? s = some g → g.holders ≠ [] ∧ g.holders.Nodup ∧ ∀ m ∈ g.holders,
      (m = n ∧ ∃ x, o = some x ∧ x.host = host ∧ x.slot = s ∧ x.pass.number = n) ∨
        m ≠ n ∧ ∃ g', (b.engine host).gate? s = some g' ∧ m ∈ g'.holders) :
    (b.turn t i host e o).Full := by
  -- Whatever another emission holds, it still holds.
  have hkeeps : ∀ k j m, ¬(k = host ∧ j = s ∧ m = n) →
      (∃ u c y, b.stake u c = some y ∧ y.host = k ∧ y.slot = j ∧ y.pass.number = m) →
      ∃ u c y, (b.turn t i host e o).stake u c = some y ∧ y.host = k ∧ y.slot = j ∧
        y.pass.number = m := by
    rintro k j m hne ⟨u, c, y, hy, rfl, rfl, rfl⟩
    refine ⟨u, c, y, ?_, rfl, rfl, rfl⟩
    simp only [Gating.turn]
    rw [if_neg]
    · exact hy
    · rintro ⟨rfl, rfl⟩
      exact hne (hold y hy)
  intro k j g hg
  simp only [Gating.turn] at hg
  by_cases hk : host = k
  · subst hk
    rw [if_pos rfl] at hg
    by_cases hj : s = j
    · subst hj
      obtain ⟨hne, hnodup, hall⟩ := hgate g hg
      refine ⟨hne, hnodup, fun m hm => ?_⟩
      rcases hall m hm with ⟨rfl, x, rfl, hx⟩ | ⟨hmn, g', hg', hm'⟩
      · exact ⟨t, i, x, by simp [Gating.turn], hx⟩
      · exact hkeeps host s m (fun h => hmn h.2.2) ((h host s g' hg').2.2 m hm')
    · rw [hs.others j hj] at hg
      obtain ⟨hne, hnodup, hall⟩ := h host j g hg
      exact ⟨hne, hnodup, fun m hm => hkeeps host j m (fun h => hj h.2.1.symm) (hall m hm)⟩
  · rw [if_neg hk] at hg
    obtain ⟨hne, hnodup, hall⟩ := h k j g hg
    exact ⟨hne, hnodup, fun m hm => hkeeps k j m (fun h => hk h.1.symm) (hall m hm)⟩

/-- An emission that goes on holding its gate changes nothing about who holds it. -/
lemma goOn (h : b.Full) {t i : Nat} {x y : Stake} (hx : b.stake t i = some x) {e : Engine}
    (hs : (b.engine x.host).KeepsHolders e x.slot x.pass.number) (hhost : y.host = x.host)
    (hslot : y.slot = x.slot) (hpass : y.pass = x.pass)
    (hgate : ∀ g, e.gate? x.slot = some g → ∃ g', (b.engine x.host).gate? x.slot = some g' ∧
      g.holders = g'.holders) : (b.turn t i x.host e (some y)).Full := by
  refine h.turn hs (fun x' hx' => ?_) fun g hg => ?_
  · rw [hx] at hx'
    cases hx'
    exact ⟨rfl, rfl, rfl⟩
  · obtain ⟨g', hg', heq⟩ := hgate g hg
    obtain ⟨hne, hnodup, -⟩ := h x.host x.slot g' hg'
    rw [heq]
    refine ⟨hne, hnodup, fun m hm => ?_⟩
    by_cases hmn : m = x.pass.number
    · exact .inl ⟨hmn, y, rfl, hhost, hslot, congrArg Pass.number hpass⟩
    · exact .inr ⟨hmn, g', hg', hm⟩

/-- Whoever holds a gate came before the next one, whether the gate is there or is made now. -/
lemma gateFor (h : b.Full) (hk : b.Kept) (host : String) (s : Slot) :
    ((b.engine host).gateFor s).holders.Nodup ∧ ∀ m ∈ ((b.engine host).gateFor s).holders,
      m ≠ (b.engine host).passes ∧ ∃ g, (b.engine host).gate? s = some g ∧ m ∈ g.holders := by
  unfold Engine.gateFor
  cases hg : (b.engine host).gate? s with
  | none =>
    refine ⟨List.nodup_nil, ?_⟩
    intro m hm
    cases hm
  | some g =>
    obtain ⟨-, hnodup, hheld⟩ := h host s g hg
    refine ⟨hnodup, ?_⟩
    intro m hm
    obtain ⟨u, k, y, hy, rfl, rfl, rfl⟩ := hheld m hm
    exact ⟨Nat.ne_of_lt (hk.below u k y hy), g, rfl, hm⟩

/-- A gate is dropped when the last one leaves it. -/
lemma holders_left {g : Gate} {n : Nat} (hm : n ∈ g.holders) (hlast : g.holders ≠ [n]) :
    g.holders.erase n ≠ [] := by
  intro hnil
  have hlength := List.length_erase_of_mem hm
  have hpos := List.length_pos_of_mem hm
  rw [hnil, List.length_nil] at hlength
  obtain ⟨a, ha⟩ := List.length_eq_one_iff.mp (show g.holders.length = 1 by omega)
  rw [ha, List.mem_singleton] at hm
  exact hlast (by rw [ha, hm])

lemma gateTurn (h : b.Full) (hk : b.Kept) (hm : GateTurn b b') : b'.Full := by
  cases hm with
  | rest he hs =>
    intro host s g hg
    have hg' : (b.engine host).gate? s = some g := by
      rw [← hg]
      unfold Engine.gate?
      rw [(he host).1]
    rw [hs]
    exact h host s g hg'
  | enter t i host s hnone =>
    refine h.turn (Engine.keepsHolders_enter (b.engine host) s) (fun x hx => ?_) fun g hg => ?_
    · rw [hnone] at hx
      cases hx
    · rw [Engine.gate?_enter, if_pos rfl] at hg
      cases hg
      obtain ⟨hnodup, hheld⟩ := h.gateFor hk host s
      refine ⟨List.append_ne_nil_of_right_ne_nil _ (List.cons_ne_nil _ _),
        hnodup.append (List.nodup_singleton _) fun m hm hm' => ?_, fun m hm => ?_⟩
      · exact (hheld m hm).1 (List.mem_singleton.mp hm')
      · rcases List.mem_append.mp hm with hm | hm
        · exact .inr (hheld m hm)
        · exact .inl ⟨List.mem_singleton.mp hm, _, rfl, rfl, rfl, rfl⟩
  | lineUp t i x who hx =>
    obtain ⟨g, hg, hid, -⟩ := hk.held t i x hx
    obtain ⟨line, hg', -⟩ := Engine.gate?_lineUp hg hid who
    refine h.goOn hx (Engine.keepsHolders_lineUp _ _ _ who _) rfl rfl rfl fun g₁ hg₁ => ?_
    rw [hg'] at hg₁
    cases hg₁
    exact ⟨g, hg, rfl⟩
  | deliver t i x hx _ =>
    exact h.goOn hx (.refl _ _ _) rfl rfl rfl fun g hg => ⟨g, hg, rfl⟩
  | retry t i x hx =>
    obtain ⟨g, hg, hid, -⟩ := hk.held t i x hx
    refine h.goOn hx (Engine.keepsHolders_stepOut _ _ _) rfl rfl rfl fun g₁ hg₁ => ?_
    rw [Engine.gate?_stepOut hg hid] at hg₁
    cases hg₁
    exact ⟨g, hg, rfl⟩
  | leave t i x hx =>
    obtain ⟨g, hg, hid, hm, -⟩ := hk.held t i x hx
    refine h.turn ((Engine.keepsHolders_stepOut _ _ _).trans (Engine.keepsHolders_leave _ _ _))
      (fun x' hx' => ?_) fun g₁ hg₁ => ?_
    · rw [hx] at hx'
      cases hx'
      exact ⟨rfl, rfl, rfl⟩
    · rw [Engine.gate?_leave (Engine.gate?_stepOut hg hid) hid, Option.ite_none_left_eq_some] at hg₁
      obtain ⟨hlast, hg₁⟩ := hg₁
      cases hg₁
      obtain ⟨-, hnodup, -⟩ := h x.host x.slot g hg
      refine ⟨holders_left hm hlast, hnodup.erase _, ?_⟩
      intro m hm'
      exact .inr ⟨(hnodup.mem_erase_iff.mp hm').1, g, hg, (hnodup.mem_erase_iff.mp hm').2⟩

lemma passings (h : b.Full) (hk : b.Kept) (hm : Relation.ReflTransGen GateTurn b b') :
    b'.Full := by
  induction hm with
  | refl => exact h
  | tail hold hm ih =>
    exact ih.gateTurn (hk.moves (Relation.ReflTransGen.mono (fun _ _ => .turn) _ _ hold)) hm

/-- A gate is there exactly while an emission of the slot holds it. -/
lemma gate_iff (h : b.Full) (hk : b.Kept) (host : String) (s : Slot) :
    (∃ g, (b.engine host).gate? s = some g) ↔
      ∃ t i x, b.stake t i = some x ∧ x.host = host ∧ x.slot = s := by
  constructor
  · rintro ⟨g, hg⟩
    obtain ⟨hne, -, hall⟩ := h host s g hg
    obtain ⟨n, hn⟩ := List.exists_mem_of_ne_nil g.holders hne
    obtain ⟨t, i, x, hx, hhost, hslot, -⟩ := hall n hn
    exact ⟨t, i, x, hx, hhost, hslot⟩
  · rintro ⟨t, i, x, hx, rfl, rfl⟩
    obtain ⟨g, hg, -⟩ := hk.held t i x hx
    exact ⟨g, hg⟩

end Full

end Gating

end Dataflow
