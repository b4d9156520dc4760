import Mathlib.Data.List.Forall2
import Mathlib.Data.Option.Basic
import Mathlib.Tactic.Lemma

/-!
# Lists side by side

Two lists whose entries belong together, each to the one at its place in the other list.
-/

namespace Dataflow

open List (Forall₂)

variable {α β : Type} {R S : α → β → Prop} {l : List α} {l' : List β}

lemma forall₂_getElem? (h : Forall₂ R l l') (i : Nat) : Option.Rel R l[i]? l'[i]? := by
  induction h generalizing i with
  | nil => exact .none
  | cons hab _ ih =>
    cases i with
    | zero => exact .some hab
    | succ i => simpa using ih i

lemma forall₂_set (h : Forall₂ R l l') (i : Nat) {a : α} {b : β} (hab : R a b) :
    Forall₂ R (l.set i a) (l'.set i b) := by
  induction h generalizing i with
  | nil => exact .nil
  | cons hcd hrest ih =>
    cases i with
    | zero => exact .cons hab hrest
    | succ i => exact .cons hcd (ih i)

lemma forall₂_toList {o : Option α} {o' : Option β} (h : Option.Rel R o o') :
    Forall₂ R o.toList o'.toList := by
  cases h with
  | some hab => exact .cons hab .nil
  | none => exact .nil

end Dataflow
