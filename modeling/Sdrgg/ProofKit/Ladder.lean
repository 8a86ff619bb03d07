import Mathlib.Data.List.Basic

/-! Walks that stop at the first state whose value reaches a target, and tables in which that state
is looked up. -/

namespace Sdrgg.ProofKit

variable {α : Type*} (value : α → Int) (target : Int)

/-- The first entry of a list that reaches the target. -/
def reaching (l : List α) : Option α := l.find? fun a => decide (target ≤ value a)

/-- The walk along the moves, to the first state that reaches the target or to the last one. -/
def walk : List (α → α) → α → α
  | [], s => s
  | move :: moves, s => if target ≤ value s then s else walk moves (move s)

/-- The states along the moves. -/
def states : List (α → α) → α → List α
  | [], s => [s]
  | move :: moves, s => s :: states moves (move s)

variable {value target}

theorem reaching_some {l : List α} {a : α} (h : reaching value target l = some a) :
    target ≤ value a ∧ a ∈ l := by
  have hreach := List.find?_some h
  exact ⟨of_decide_eq_true hreach, List.mem_of_find?_eq_some h⟩

theorem reaching_of_mem {l : List α} {b : α} (hb : b ∈ l) (h : target ≤ value b) :
    ∃ a, reaching value target l = some a :=
  Option.isSome_iff_exists.mp (List.find?_isSome.mpr ⟨b, hb, decide_eq_true h⟩)

theorem reaching_append {l : List α} {a : α} (h : reaching value target l = some a) (l' : List α) :
    reaching value target (l ++ l') = some a := by
  rw [reaching, List.find?_append]
  exact congrArg (Option.or · _) h

theorem reaching_none {l : List α} (h : ∀ a ∈ l, value a < target) :
    reaching value target l = none :=
  List.find?_eq_none.mpr fun a ha => by simpa using h a ha

/-- In a list of rising values the first entry to reach the target is the least one. -/
theorem reaching_least {l : List α} (hl : l.Pairwise fun a b => value a < value b) {a b : α}
    (h : reaching value target l = some a) (hb : b ∈ l) (hreach : target ≤ value b) :
    value a ≤ value b := by
  obtain ⟨-, before, after, rfl, hbefore⟩ := List.find?_eq_some_iff_append.mp h
  obtain hb | hb := List.mem_append.mp hb
  · exact absurd hreach (by simpa using hbefore b hb)
  · obtain rfl | hb := List.mem_cons.mp hb
    · exact Int.le_refl _
    · exact Int.le_of_lt (List.rel_of_pairwise_cons (List.pairwise_append.mp hl).2.1 hb)

/-- A table with entries left out gives the same entry if it has that one. -/
theorem reaching_filter {l : List α} {a : α} (keep : α → Bool)
    (h : reaching value target l = some a) (ha : keep a = true) :
    reaching value target (l.filter keep) = some a := by
  obtain ⟨hreach, before, after, rfl, hbefore⟩ := List.find?_eq_some_iff_append.mp h
  refine List.find?_eq_some_iff_append.mpr ⟨hreach, before.filter keep, after.filter keep, ?_, ?_⟩
  · rw [List.filter_append, List.filter_cons_of_pos ha]
  · exact fun b hb => hbefore b (List.mem_of_mem_filter hb)

/-- A table of other entries with the same values. -/
theorem reaching_map {β : Type*} (f : β → α) (l : List β) :
    reaching value target (l.map f) = (reaching (fun b => value (f b)) target l).map f :=
  List.find?_map

theorem mem_states_walk (moves : List (α → α)) (s : α) :
    walk value target moves s ∈ states moves s := by
  induction moves generalizing s with
  | nil => exact List.mem_singleton_self s
  | cons move moves ih =>
    unfold walk
    split
    · exact List.mem_cons_self
    · exact List.mem_cons_of_mem _ (ih _)

/-- The walk stops at the first of its states that reaches the target. -/
theorem walk_of_reaching {moves : List (α → α)} {s a : α}
    (h : reaching value target (states moves s) = some a) : walk value target moves s = a := by
  induction moves generalizing s with
  | nil => exact (List.mem_singleton.mp (reaching_some h).2).symm
  | cons move moves ih =>
    unfold walk
    split
    · rename_i hreach
      have hfirst : reaching value target (states (move :: moves) s) = some s :=
        List.find?_cons_of_pos (decide_eq_true hreach)
      exact Option.some_inj.mp (hfirst.symm.trans h)
    · rename_i hbelow
      refine ih (Eq.trans ?_ h)
      exact (List.find?_cons_of_neg (by simpa using hbelow)).symm

end Sdrgg.ProofKit
