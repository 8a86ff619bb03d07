import Mathlib.Data.List.Basic

/-! A read that is made in fragments.  Each fragment asks for what is missing, but for no more than
`max` items, and the first one that fails or falls short is the last. -/

namespace Sdrgg.ProofKit

variable {α : Type*} {max len offset : Nat}

/-- A fragment of a read: where its items go, how many it asks for, and what it has received, if it
has not failed. -/
structure Fragment (α : Type*) where
  offset : Nat
  size : Nat
  received : Option (List α)

def Fragment.items (f : Fragment α) : List α := f.received.getD []

/-- The fragment has received all that it asked for. -/
def Fragment.Full (f : Fragment α) : Prop := ∃ data, f.received = some data ∧ data.length = f.size

/-- What the fragments have received, one after the other. -/
def gathered (fs : List (Fragment α)) : List α := fs.flatMap Fragment.items

/-- The fragments of a read of `len` items that has already received those before `offset`. -/
inductive FragmentedRead (max len : Nat) : Nat → List (Fragment α) → Prop
  | done : FragmentedRead max len len []
  | failed {offset : Nat} (missing : offset < len) :
      FragmentedRead max len offset [⟨offset, min max (len - offset), none⟩]
  | short {offset : Nat} {data : List α} (missing : offset < len)
      (few : data.length < min max (len - offset)) :
      FragmentedRead max len offset [⟨offset, min max (len - offset), some data⟩]
  | next {offset : Nat} {data : List α} {fs : List (Fragment α)} (missing : offset < len)
      (full : data.length = min max (len - offset))
      (rest : FragmentedRead max len (offset + data.length) fs) :
      FragmentedRead max len offset (⟨offset, min max (len - offset), some data⟩ :: fs)

/-- The memory after `data` has been stored from `pos` on. -/
def store (mem : Nat → α) (pos : Nat) (data : List α) (i : Nat) : α :=
  if pos ≤ i then (data[i - pos]?).getD (mem i) else mem i

@[simp] theorem gathered_nil : gathered ([] : List (Fragment α)) = [] := rfl

@[simp] theorem gathered_cons (f : Fragment α) (fs : List (Fragment α)) :
    gathered (f :: fs) = f.items ++ gathered fs := rfl

/-! ### What is asked for -/

section Requests

variable {fs : List (Fragment α)} (h : FragmentedRead max len offset fs)

include h

/-- What is received fits into what was missing. -/
theorem FragmentedRead.length_le : offset + (gathered fs).length ≤ len := by
  induction h with
  | done => exact Nat.le_refl _
  | failed missing => simpa [Fragment.items] using Nat.le_of_lt missing
  | short missing few =>
    simp only [gathered_cons, gathered_nil, Fragment.items, Option.getD_some, List.append_nil]
    omega
  | next missing full rest ih =>
    simp only [gathered_cons, Fragment.items, Option.getD_some, List.length_append]
    omega

/-- No fragment reaches beyond the items that are asked for. -/
theorem FragmentedRead.within : ∀ f ∈ fs, f.offset + f.size ≤ len := by
  induction h with
  | done => simp
  | failed missing =>
    simp only [List.mem_singleton, forall_eq]
    omega
  | short missing few =>
    simp only [List.mem_singleton, forall_eq]
    omega
  | next missing full rest ih =>
    intro f hf
    obtain rfl | hf := List.mem_cons.mp hf
    · dsimp only
      omega
    · exact ih f hf

/-- A fragment asks for what is missing behind those before it. -/
theorem FragmentedRead.asks {pre post : List (Fragment α)} {f : Fragment α}
    (hsplit : fs = pre ++ f :: post) :
    f.offset = offset + (gathered pre).length ∧ f.size = min max (len - f.offset) := by
  induction h generalizing pre with
  | done => simp at hsplit
  | failed missing | short missing few =>
    obtain ⟨rfl, hf⟩ | ⟨_, rfl, hnil⟩ := List.cons_eq_append_iff.mp hsplit
    · obtain ⟨rfl, -⟩ := List.cons.inj hf
      exact ⟨rfl, rfl⟩
    · simp at hnil
  | next missing full rest ih =>
    obtain ⟨rfl, hf⟩ | ⟨pre', rfl, hrest⟩ := List.cons_eq_append_iff.mp hsplit
    · obtain ⟨rfl, -⟩ := List.cons.inj hf
      exact ⟨rfl, rfl⟩
    · obtain ⟨hoffset, hsize⟩ := ih hrest
      refine ⟨?_, hsize⟩
      rw [hoffset]
      simp only [gathered_cons, Fragment.items, Option.getD_some, List.length_append, Nat.add_assoc]

/-- Only the last fragment fails or falls short. -/
theorem FragmentedRead.full_of_more {pre post : List (Fragment α)} {f : Fragment α}
    (hsplit : fs = pre ++ f :: post) (hpost : post ≠ []) : f.Full := by
  induction h generalizing pre with
  | done => simp at hsplit
  | failed missing | short missing few =>
    obtain ⟨rfl, hf⟩ | ⟨_, rfl, hnil⟩ := List.cons_eq_append_iff.mp hsplit
    · exact absurd (List.cons.inj hf).2 hpost
    · simp at hnil
  | next missing full rest ih =>
    obtain ⟨rfl, hf⟩ | ⟨pre', rfl, hrest⟩ := List.cons_eq_append_iff.mp hsplit
    · obtain ⟨rfl, -⟩ := List.cons.inj hf
      exact ⟨_, rfl, full⟩
    · exact ih hrest

/-- A read whose fragments are all full has received everything. -/
theorem FragmentedRead.complete (hfull : ∀ f ∈ fs, f.Full) :
    offset + (gathered fs).length = len := by
  induction h with
  | done => exact Nat.add_zero len
  | failed missing =>
    obtain ⟨data, hdata, -⟩ := hfull _ List.mem_cons_self
    cases hdata
  | short missing few =>
    obtain ⟨data, hdata, hlength⟩ := hfull _ List.mem_cons_self
    cases hdata
    exact absurd hlength (Nat.ne_of_lt few)
  | next missing full rest ih =>
    have hrest := ih fun f hf => hfull f (List.mem_cons_of_mem _ hf)
    simp only [gathered_cons, Fragment.items, Option.getD_some, List.length_append]
    omega

end Requests

/-! ### What is stored -/

theorem store_nil (mem : Nat → α) (pos : Nat) : store mem pos [] = mem := by
  funext i
  simp [store]

theorem store_of_lt (mem : Nat → α) (data : List α) {pos i : Nat} (h : i < pos) :
    store mem pos data i = mem i :=
  if_neg (Nat.not_le.mpr h)

theorem store_of_ge (mem : Nat → α) (data : List α) {pos i : Nat} (h : pos + data.length ≤ i) :
    store mem pos data i = mem i := by
  simp [store, List.getElem?_eq_none (show data.length ≤ i - pos by omega)]

theorem store_add (mem : Nat → α) {data : List α} (pos : Nat) {i : Nat} (h : i < data.length) :
    store mem pos data (pos + i) = data[i] := by
  simp [store, List.getElem?_eq_getElem h]

/-- Storing one list behind another is storing both. -/
theorem store_append (mem : Nat → α) (pos : Nat) (data more : List α) :
    store (store mem pos data) (pos + data.length) more = store mem pos (data ++ more) := by
  funext i
  by_cases hbefore : i < pos
  · rw [store_of_lt _ _ (by omega), store_of_lt _ _ hbefore, store_of_lt _ _ hbefore]
  obtain ⟨j, rfl⟩ := Nat.exists_eq_add_of_le (Nat.not_lt.mp hbefore)
  by_cases hdata : j < data.length
  · rw [store_of_lt _ _ (by omega), store_add _ _ hdata,
      store_add _ _ (show j < (data ++ more).length by rw [List.length_append]; omega),
      List.getElem_append_left hdata]
  obtain ⟨k, rfl⟩ := Nat.exists_eq_add_of_le (Nat.not_lt.mp hdata)
  by_cases hmore : k < more.length
  · rw [← Nat.add_assoc, store_add _ _ hmore, Nat.add_assoc,
      store_add _ _ (show data.length + k < (data ++ more).length by rw [List.length_append]; omega),
      List.getElem_append_right (by omega)]
    simp
  · rw [store_of_ge _ _ (by omega), store_of_ge _ _ (by omega),
      store_of_ge _ _ (by rw [List.length_append]; omega)]

/-- Each fragment stores what it has received where it asked for it. -/
def stored (mem : Nat → α) (fs : List (Fragment α)) : Nat → α :=
  fs.foldl (fun mem f => store mem f.offset f.items) mem

/-- The fragments store what one read would have stored. -/
theorem FragmentedRead.stored_eq {fs : List (Fragment α)} (h : FragmentedRead max len offset fs)
    (mem : Nat → α) : stored mem fs = store mem offset (gathered fs) := by
  induction h generalizing mem with
  | done => exact (store_nil mem len).symm
  | failed missing => rfl
  | short missing few =>
    simp only [gathered_cons, gathered_nil, List.append_nil]
    rfl
  | next missing full rest ih =>
    rw [gathered_cons, ← store_append]
    exact ih _

end Sdrgg.ProofKit
