import Mathlib.Data.List.Basic

/-! Runs of a partial step function: `run step s as` takes the actions `as` one after the other
from `s`, and gives `none` when one of them is not enabled.  `Along` says that every action of a run
meets a condition in the state in which it is taken. -/

namespace Sdrgg.ProofKit

variable {σ α : Type*} {step : σ → α → Option σ}

/-- The state after the actions `as` from `s`. -/
def run (step : σ → α → Option σ) (s : σ) (as : List α) : Option σ := as.foldlM step s

@[simp] theorem run_nil (s : σ) : run step s [] = some s := rfl

@[simp] theorem run_cons (s : σ) (a : α) (as : List α) :
    run step s (a :: as) = (step s a).bind fun t => run step t as := rfl

theorem run_append (s : σ) (as bs : List α) :
    run step s (as ++ bs) = (run step s as).bind fun t => run step t bs := by
  simp [run, List.foldlM_append, bind]

theorem run_append_eq {s t u : σ} {as bs : List α} (h1 : run step s as = some t)
    (h2 : run step t bs = some u) : run step s (as ++ bs) = some u := by
  rw [run_append, h1]
  exact h2

/-- Every action of `as` meets `C` in the state in which the run from `s` takes it. -/
def Along (step : σ → α → Option σ) (C : σ → α → Prop) : σ → List α → Prop
  | _, [] => True
  | s, a :: as => C s a ∧ ∀ t, step s a = some t → Along step C t as

instance Along.decidable (step : σ → α → Option σ) (C : σ → α → Prop) [∀ s a, Decidable (C s a)] :
    ∀ s as, Decidable (Along step C s as)
  | _, [] => .isTrue trivial
  | s, a :: as =>
    match h : step s a with
    | none => decidable_of_iff (C s a) ⟨fun hC => ⟨hC, by simp [h]⟩, And.left⟩
    | some t =>
      have := Along.decidable step C t as
      decidable_of_iff (C s a ∧ Along step C t as) (by simp [Along, h])

theorem Along.cons {C : σ → α → Prop} {s t : σ} {a : α} {as : List α} (ha : C s a)
    (hstep : step s a = some t) (h : Along step C t as) : Along step C s (a :: as) :=
  ⟨ha, fun _ hu => Option.some_inj.mp (hstep.symm.trans hu) ▸ h⟩

/-- What every enabled step that meets `C` preserves holds at the end of every run that meets `C`
throughout. -/
theorem Along.invariant {C : σ → α → Prop} {I : σ → Prop}
    (hstep : ∀ s a t, I s → C s a → step s a = some t → I t) {s t : σ} {as : List α} (h0 : I s)
    (hC : Along step C s as) (h : run step s as = some t) : I t := by
  induction as generalizing s with
  | nil =>
    cases h
    exact h0
  | cons a as ih =>
    obtain ⟨u, hu, hrest⟩ := Option.bind_eq_some_iff.mp h
    exact ih (hstep s a u h0 hC.1 hu) (hC.2 u hu) hrest

theorem Along.of_forall {C : σ → α → Prop} (h : ∀ s a, C s a) (s : σ) (as : List α) :
    Along step C s as := by
  induction as generalizing s with
  | nil => trivial
  | cons a as ih => exact ⟨h s a, fun t _ => ih t⟩

theorem Along.of_mem {C : α → Prop} {as : List α} (h : ∀ a ∈ as, C a) (s : σ) :
    Along step (fun _ a => C a) s as := by
  induction as generalizing s with
  | nil => trivial
  | cons a as ih =>
    obtain ⟨ha, hrest⟩ := List.forall_mem_cons.mp h
    exact ⟨ha, fun t _ => ih hrest t⟩

theorem Along.mono {C D : σ → α → Prop} (h : ∀ s a, C s a → D s a) {s : σ} {as : List α}
    (hC : Along step C s as) : Along step D s as := by
  induction as generalizing s with
  | nil => trivial
  | cons a as ih => exact ⟨h s a hC.1, fun t ht => ih (hC.2 t ht)⟩

theorem Along.and {C D : σ → α → Prop} {s : σ} {as : List α} (hC : Along step C s as)
    (hD : Along step D s as) : Along step (fun s a => C s a ∧ D s a) s as := by
  induction as generalizing s with
  | nil => trivial
  | cons a as ih => exact ⟨⟨hC.1, hD.1⟩, fun t ht => ih (hC.2 t ht) (hD.2 t ht)⟩

/-- What every enabled step preserves holds at the end of every run. -/
theorem run_invariant {I : σ → Prop} (hstep : ∀ s a t, I s → step s a = some t → I t) {s t : σ}
    {as : List α} (h0 : I s) (h : run step s as = some t) : I t :=
  (Along.of_forall (C := fun _ _ => True) (fun _ _ => trivial) s as).invariant
    (fun s a t hI _ hs => hstep s a t hI hs) h0 h

/-- What some steps establish and every step preserves holds at the end of every run that takes one
of them. -/
theorem run_established {I P : σ → Prop} {E : α → Prop}
    (hI : ∀ s a t, I s → step s a = some t → I t)
    (hP : ∀ s a t, I s → step s a = some t → P s ∨ E a → P t) {s t : σ} {as : List α} (hs : I s)
    (h : run step s as = some t) (hsome : P s ∨ ∃ a ∈ as, E a) : P t := by
  induction as generalizing s with
  | nil =>
    cases h
    exact hsome.resolve_right (by simp)
  | cons a as ih =>
    obtain ⟨u, hu, hrest⟩ := Option.bind_eq_some_iff.mp h
    refine ih (hI s a u hs hu) hrest ?_
    obtain hPs | ⟨b, hb, hE⟩ := hsome
    · exact .inl (hP s a u hs hu (.inl hPs))
    · obtain rfl | hb := List.mem_cons.mp hb
      · exact .inl (hP s b u hs hu (.inr hE))
      · exact .inr ⟨b, hb, hE⟩

theorem Along.append {C : σ → α → Prop} {s : σ} {as bs : List α} :
    Along step C s (as ++ bs) ↔
      Along step C s as ∧ ∀ t, run step s as = some t → Along step C t bs := by
  induction as generalizing s with
  | nil => simp [Along]
  | cons a as ih =>
    simp only [List.cons_append, Along, ih, run_cons, Option.bind_eq_some_iff]
    constructor
    · rintro ⟨ha, h⟩
      exact ⟨⟨ha, fun t ht => (h t ht).1⟩, fun u ⟨t, ht, hu⟩ => (h t ht).2 u hu⟩
    · rintro ⟨⟨ha, h⟩, hb⟩
      exact ⟨ha, fun t ht => ⟨h t ht, fun u hu => hb u ⟨t, ht, hu⟩⟩⟩

/-- When every step from a state with `P` and `I` keeps `P` exactly if it meets `C`, and then keeps
`I`, `P` holds in every state of a run exactly if the run meets `C` throughout. -/
theorem Along.iff_forall_prefix {C : σ → α → Prop} {I P : σ → Prop}
    (hI : ∀ s a t, I s → P s → step s a = some t → P t → I t)
    (hP : ∀ s a t, I s → P s → step s a = some t → (P t ↔ C s a)) {s t : σ} {as : List α}
    (hs : I s) (h0 : P s) (h : run step s as = some t) :
    (∀ pre, pre <+: as → ∀ u, run step s pre = some u → P u) ↔ Along step C s as := by
  induction as generalizing s with
  | nil =>
    refine iff_of_true (fun pre hpre u hu => ?_) trivial
    rw [List.prefix_nil.mp hpre, run_nil, Option.some_inj] at hu
    exact hu ▸ h0
  | cons a as ih =>
    obtain ⟨u, hu, hrest⟩ := Option.bind_eq_some_iff.mp h
    constructor
    · intro hall
      have hPu : P u := hall [a] ⟨as, rfl⟩ u (by simp [hu])
      refine ⟨(hP s a u hs h0 hu).mp hPu, fun v hv => ?_⟩
      obtain rfl := Option.some_inj.mp (hu.symm.trans hv)
      refine (ih (hI s a u hs h0 hu hPu) hPu hrest).mp fun pre hpre v hv => ?_
      exact hall (a :: pre) (List.cons_prefix_cons.mpr ⟨rfl, hpre⟩) v (by simp [hu, hv])
    · rintro ⟨ha, hC⟩ pre hpre v hv
      cases pre with
      | nil => exact Option.some_inj.mp hv ▸ h0
      | cons b pre =>
        obtain ⟨rfl, htail⟩ := List.cons_prefix_cons.mp hpre
        rw [run_cons, hu, Option.bind_some] at hv
        have hPu := (hP s b u hs h0 hu).mpr ha
        exact (ih (hI s b u hs h0 hu hPu) hPu hrest).mpr (hC u hu) pre htail v hv

/-- When every step from a state with the invariant `I` leads to `P` exactly from a state with `P`
and by meeting `C`, a run leads to `P` exactly from a state with `P` and by meeting `C`
throughout. -/
theorem Along.iff_last {C : σ → α → Prop} {I P : σ → Prop}
    (hI : ∀ s a t, I s → step s a = some t → I t)
    (hP : ∀ s a t, I s → step s a = some t → (P t ↔ P s ∧ C s a)) {s t : σ} {as : List α}
    (hs : I s) (h : run step s as = some t) : P t ↔ P s ∧ Along step C s as := by
  induction as generalizing s with
  | nil =>
    obtain rfl := Option.some_inj.mp h
    simp [Along]
  | cons a as ih =>
    obtain ⟨u, hu, hrest⟩ := Option.bind_eq_some_iff.mp h
    rw [ih (hI s a u hs hu) hrest, hP s a u hs hu, and_assoc]
    refine and_congr_right fun _ => and_congr_right fun _ => ⟨fun hC v hv => ?_, fun hC => hC u hu⟩
    exact Option.some_inj.mp (hu.symm.trans hv) ▸ hC

/-! ### Simulation -/

section Simulation

variable {σ' β γ : Type*} {step' : σ' → β → Option σ'} {R : σ → σ' → Prop} {C : σ → α → Prop}
  {seen : α → Option β} {out : α → List γ} {out' : β → List γ}

/-- When `R` relates every step that meets `C` to the step that is seen of it, or to none, with the same
output, it relates every run that meets `C` throughout to a run of what is seen of it. -/
theorem Along.simulates
    (hstep : ∀ s a t r, R s r → C s a → step s a = some t →
      ∃ bs, bs.Sublist (seen a).toList ∧ bs.flatMap out' = out a ∧
        ∃ r', run step' r bs = some r' ∧ R t r')
    {s t : σ} {r : σ'} {as : List α} (hR : R s r) (hC : Along step C s as)
    (h : run step s as = some t) :
    ∃ bs, bs.Sublist (as.filterMap seen) ∧ bs.flatMap out' = as.flatMap out ∧
      ∃ r', run step' r bs = some r' ∧ R t r' := by
  induction as generalizing s r with
  | nil =>
    cases h
    exact ⟨[], .slnil, rfl, r, rfl, hR⟩
  | cons a as ih =>
    obtain ⟨u, hu, hrest⟩ := Option.bind_eq_some_iff.mp h
    obtain ⟨bs, hbs, hout, q, hq, hRq⟩ := hstep s a u r hR hC.1 hu
    obtain ⟨cs, hcs, hout', r', hr', hR'⟩ := ih hRq (hC.2 u hu) hrest
    refine ⟨bs ++ cs, ?_, ?_, r', run_append_eq hq hr', hR'⟩
    · rw [List.filterMap_cons]
      cases hseen : seen a with
      | none =>
        rw [hseen] at hbs
        rw [List.sublist_nil.mp hbs]
        exact hcs
      | some b =>
        rw [hseen] at hbs
        exact hbs.append hcs
    · rw [List.flatMap_append, hout, hout', List.flatMap_cons]

end Simulation

end Sdrgg.ProofKit
