import Dataflow.Proofs.Duties
import Dataflow.Proofs.Mirrors

/-!
# Prompts

In a runtime whoever subscribes is served by a task that is started at once, and so is whoever is
subscribed to a node that is replaced.
-/

namespace Dataflow

namespace Event

/-- The event, which happens after `past`, calls for an emission to a subscriber of the slot. -/
def Prompts (host : String) (s : Slot) (c : Nat) (past : List Event) : Event → Prop
  | .subscribed h j d _ => h = host ∧ j = s ∧ d = c
  | .registered h n replaced =>
    h = host ∧ n.id = s.node ∧ replaced = true ∧ Journal.enrolled host s c past = true
  | _ => False

def isPrompt : Event → Bool
  | .subscribed _ _ _ _ | .registered _ _ _ => true
  | _ => false

lemma Prompts.isPrompt {host : String} {s : Slot} {c : Nat} {past : List Event} {e : Event}
    (h : e.Prompts host s c past) : e.isPrompt = true := by
  cases e <;> first | rfl | cases h

end Event

namespace Ledger

open Journal

variable {b b' : Ledger}

/-- Every prompt was followed by the start of a task for it. -/
def Prompted (b : Ledger) : Prop :=
  b.runtime = true → ∀ later e earlier host s c, b.journal = later ++ e :: earlier →
    e.Prompts host s c earlier → ∃ t, .started t (.emitting host s) ∈ later

lemma Prompted.extend (h : Prompted b) (hr : b'.runtime = b.runtime) {l : List Event}
    (hj : b'.journal = l ++ b.journal)
    (hnew : b.runtime = true → ∀ later e m host s c, l = later ++ e :: m →
      e.Prompts host s c (m ++ b.journal) → ∃ t, .started t (.emitting host s) ∈ later) :
    Prompted b' := by
  intro hrun later e earlier host s c hsplit he
  rw [hr] at hrun
  rw [hj] at hsplit
  rcases append_split hsplit with ⟨m, rfl, hb⟩ | ⟨m, hm, rfl⟩
  · obtain ⟨t, ht⟩ := h hrun m e earlier host s c hb he
    exact ⟨t, List.mem_append_right _ ht⟩
  · exact hnew hrun later e m host s c hm he

lemma Prompted.same (h : Prompted b) (hr : b'.runtime = b.runtime) {l : List Event}
    (hj : b'.journal = l ++ b.journal) (hn : ∀ e ∈ l, e.isPrompt = false) : Prompted b' := by
  refine h.extend hr hj fun _ later e m host s c hm he => ?_
  have hfalse := hn e (by rw [hm]; exact List.mem_append_right _ List.mem_cons_self)
  rw [he.isPrompt] at hfalse
  cases hfalse

lemma Prompted.plain (h : Prompted b) (hp : b.Plain b') : Prompted b' := by
  obtain ⟨new, hj, hn⟩ := hp.journal
  refine h.same hp.runtime hj fun e he => ?_
  have hpe := hn e he
  cases e <;> first | rfl | cases hpe

lemma Prompted.log (h : Prompted b) (hr : b'.runtime = b.runtime) {e : Event}
    (hj : b'.journal = e :: b.journal) (he : e.isPrompt = false) : Prompted b' :=
  h.same hr (l := [e]) hj (by simpa using he)

lemma mem_names_of_subscribers {e : Engine} {s : Slot} {c : Nat} (h : c ∈ e.subscribers s) :
    s.output ∈ (e.subscriptions.entries s.node).names := by
  unfold Engine.subscribers at h
  cases hs : e.subscriptions.get? s.node s.output with
  | none =>
    rw [hs] at h
    cases h
  | some l => exact NameMap.mem_names_of_get? hs

/-- A prompt that is the first of the new events comes before all others. -/
lemma prompt_first {l later m : List Event} {x e : Event} {host : String} {s : Slot}
    {c : Nat} {past : List Event} (hs : ∀ y ∈ l, y.isPrompt = false)
    (h : l ++ [x] = later ++ e :: m) (he : e.Prompts host s c past) :
    later = l ∧ e = x ∧ m = [] := by
  rcases append_split h with ⟨k, rfl, hk⟩ | ⟨k, hk, -⟩
  · cases k with
    | nil =>
      obtain ⟨rfl, rfl⟩ := List.cons_eq_cons.mp hk
      exact ⟨List.append_nil _, rfl, rfl⟩
    | cons y k =>
      have hlen := congrArg List.length hk
      simp at hlen
  · have hfalse := hs e (by rw [hk]; exact List.mem_append_right _ List.mem_cons_self)
    rw [he.isPrompt] at hfalse
    cases hfalse

lemma Prompted.register (h : Prompted b) (hm : Mirrors b) (host : String) (n : Node) :
    Prompted (b.register host n) := by
  rcases register_cases b host n with ⟨hreg, hn, hr⟩ | ⟨hreg, hor⟩
  · obtain ⟨new, hj, hnew, hs⟩ := journal_emitAll (b.enlist host n) host n.id
      ((b.engine host).subscriptions.entries n.id).names
    rw [hreg]
    refine h.extend (plain_emitAll _ host n.id _).runtime
      (l := new ++ [.registered host n ((b.engine host).nodes.contains n.id)])
      (by rw [hj, List.append_assoc]; rfl) fun _ later e m i s c hsplit he => ?_
    obtain ⟨rfl, rfl, rfl⟩ := prompt_first (fun x hx => by
      obtain ⟨t, task, rfl⟩ := hnew x hx
      rfl) hsplit he
    obtain ⟨rfl, hid, -, hen⟩ := he
    have hc := (hm.roll host s c).mpr hen
    obtain ⟨t, ht⟩ := hs s.output (hid ▸ mem_names_of_subscribers hc)
    rw [hid] at ht
    exact ⟨t, ht⟩
  · rw [hreg]
    refine h.extend rfl (l := [.registered host n ((b.engine host).nodes.contains n.id)]) rfl
      fun hr later e m i s c hsplit he => ?_
    obtain ⟨-, rfl, -⟩ := prompt_first (l := []) (by simp) hsplit he
    rcases hor with hfree | hno
    · obtain ⟨-, -, hrep, -⟩ := he
      rw [hfree] at hrep
      cases hrep
    · rw [hr] at hno
      cases hno

lemma Prompted.subscribe (h : Prompted b) (host : String) (s : Slot) (c : Nat) (name : String) :
    Prompted (b.subscribe host s c name) := by
  by_cases hr : b.runtime = true
  · have hj : (b.subscribe host s c name).journal =
        [.started b.duties.length (.emitting host s), .subscribed host s c name] ++ b.journal := by
      unfold Ledger.subscribe
      rw [if_pos hr]
      rfl
    refine h.extend (plain_subscribe b host s c name).runtime hj
      fun _ later e m i j d hsplit he => ?_
    obtain ⟨rfl, rfl, rfl⟩ := prompt_first
      (l := [.started b.duties.length (.emitting host s)]) (by simp [Event.isPrompt]) hsplit he
    obtain ⟨rfl, rfl, -⟩ := he
    exact ⟨_, List.mem_cons_self⟩
  · intro hrun
    exact absurd ((plain_subscribe b host s c name).runtime.symm.trans hrun) hr

lemma Prompted.move (h : Prompted b) (hl : Mirrors b) (hm : Move b b') : Prompted b' := by
  cases hm with
  | quiet hq => exact h.plain hq.plain
  | takeOff _ _ _ _ | land _ _ _ _ _ | unregister _ _ _ | unsubscribe _ _ _ => exact h.log rfl rfl rfl
  | register host n => exact h.register hl host n
  | subscribe host s c name _ => exact h.subscribe host s c name
  | start task _ _ _ => exact h.plain (plain_spawn b task)
  | invalidate _ _ _ _ _ _ _ _ _ _ | select _ _ _ _ _ _ _ _ _ _ => exact h.log rfl rfl rfl
  | begin host s ticket _ => exact h.plain (plain_log rfl)
  | enter t i x _ _ => exact h.plain (plain_enter b t i x)
  | look t i x pass _ _ => exact h.plain (plain_look b t i x pass)
  | advance t i x p _ _ => exact h.plain (plain_setErrand b t i _)
  | call t i x pass r c rest callback _ _ =>
    exact h.plain ((plain_log rfl).trans (plain_setErrand _ t i _))
  | leave t i x pass r _ _ => exact h.plain (plain_setErrand b t i none)
  | drop t i x _ _ _ => exact h.plain (plain_drop b t i x)
  | panic source text _ _ _ => exact h.plain (plain_log rfl)
  | finish t d how engine extra he => exact h.plain he.plain

end Ledger

end Dataflow
