import Mathlib.Data.List.Basic
import Mathlib.Data.Prod.Basic

/-! Operations that read an environment, change a world, and return a value, report an error, or
stop where the language defines nothing.  A caller sees an error and goes on (`attempt`); nothing
goes on after a trap.  `Keeps` is the frame of an operation, `Preserves` an invariant of it, `Total`
says that it always returns, `Defined` that it never traps, `Returns` that it returns and what holds
then, and the inversion lemmas take a run that returned apart. -/

namespace Sdrgg.ProofKit

/-- How an operation ends when it does not return. -/
inductive Fault (ε : Type*) where
  | error (e : ε)
  | trap
deriving DecidableEq, Repr

/-- An operation in an environment `ρ` on a world `ω`. -/
def Act (ρ ω ε α : Type) : Type := ρ → ω → Except (Fault ε) α × ω

namespace Act

variable {ρ ω ε α β γ : Type}

instance : Monad (Act ρ ω ε) where
  pure a := fun _ w => (.ok a, w)
  bind m k := fun r w =>
    match m r w with
    | (.ok a, w') => k a r w'
    | (.error e, w') => (.error e, w')

theorem bind_apply (m : Act ρ ω ε α) (k : α → Act ρ ω ε β) (r : ρ) (w : ω) :
    (m >>= k) r w = match m r w with
      | (.ok a, w') => k a r w'
      | (.error e, w') => (.error e, w') := rfl

theorem map_id (m : Act ρ ω ε α) : id <$> m = m := by
  funext r w
  change (m >>= fun a => pure (id a)) r w = m r w
  rw [bind_apply]
  rcases m r w with ⟨_ | a, u⟩ <;> rfl

theorem bind_assoc (m : Act ρ ω ε α) (k : α → Act ρ ω ε β) (l : β → Act ρ ω ε γ) :
    m >>= k >>= l = m >>= fun a => k a >>= l := by
  funext r w
  simp only [bind_apply]
  rcases m r w with ⟨_ | a, u⟩ <;> rfl

instance : LawfulMonad (Act ρ ω ε) := LawfulMonad.mk' _ map_id (fun _ _ => rfl) bind_assoc

def read : Act ρ ω ε ρ := fun r w => (.ok r, w)

def get : Act ρ ω ε ω := fun _ w => (.ok w, w)

def modify (f : ω → ω) : Act ρ ω ε Unit := fun _ w => (.ok (), f w)

def fail (e : ε) : Act ρ ω ε α := fun _ w => (.error (.error e), w)

def trap : Act ρ ω ε α := fun _ w => (.error .trap, w)

/-- What `m` returns or the error it reports, as a value. -/
def attempt (m : Act ρ ω ε α) : Act ρ ω ε (Except ε α) := fun r w =>
  match m r w with
  | (.ok a, w') => (.ok (.ok a), w')
  | (.error (.error e), w') => (.ok (.error e), w')
  | (.error .trap, w') => (.error .trap, w')

/-- Return or report what `attempt` gave. -/
def ofExcept : Except ε α → Act ρ ω ε α
  | .ok a => pure a
  | .error e => fail e

/-- Run `m` and go on whether or not it reports an error. -/
def ignore (m : Act ρ ω ε α) : Act ρ ω ε Unit := do
  let _ ← attempt m
  pure ()

/-- What `m` returns, or `a` when it reports an error. -/
def orElse (m : Act ρ ω ε α) (a : α) : Act ρ ω ε α := do
  match ← attempt m with
  | .ok b => pure b
  | .error _ => pure a

/-- Run `m`, then `c` whatever came of `m` and of `c`, and end as `m` did. -/
def closing (m : Act ρ ω ε α) (c : Act ρ ω ε β) : Act ρ ω ε α := do
  let out ← attempt m
  ignore c
  ofExcept out

/-- The value of a computation that is defined, or a trap. -/
def ofOption : Option α → Act ρ ω ε α
  | some a => pure a
  | none => trap

@[simp] theorem pure_apply (a : α) (r : ρ) (w : ω) :
    (pure a : Act ρ ω ε α) r w = (.ok a, w) := rfl

@[simp] theorem read_apply (r : ρ) (w : ω) : (read : Act ρ ω ε ρ) r w = (.ok r, w) := rfl

@[simp] theorem get_apply (r : ρ) (w : ω) : (get : Act ρ ω ε ω) r w = (.ok w, w) := rfl

@[simp] theorem modify_apply (f : ω → ω) (r : ρ) (w : ω) :
    (modify f : Act ρ ω ε Unit) r w = (.ok (), f w) := rfl

@[simp] theorem fail_apply (e : ε) (r : ρ) (w : ω) :
    (fail e : Act ρ ω ε α) r w = (.error (.error e), w) := rfl

@[simp] theorem trap_apply (r : ρ) (w : ω) :
    (trap : Act ρ ω ε α) r w = (.error .trap, w) := rfl

/-! ### Runs that returned -/

section Inversion

variable {m : Act ρ ω ε α} {k : α → Act ρ ω ε β} {r : ρ} {w w' : ω} {a : α} {b : β} {e : ε}

theorem bind_eq_ok :
    (m >>= k) r w = (.ok b, w') ↔ ∃ a u, m r w = (.ok a, u) ∧ k a r u = (.ok b, w') := by
  rw [bind_apply]
  rcases m r w with ⟨_ | a, u⟩ <;> simp

theorem bind_eq_fault {f : Fault ε} :
    (m >>= k) r w = (.error f, w') ↔
      m r w = (.error f, w') ∨ ∃ a u, m r w = (.ok a, u) ∧ k a r u = (.error f, w') := by
  rw [bind_apply]
  rcases m r w with ⟨_ | a, u⟩ <;> simp

/-- An action whose value is discarded ends as the action does. -/
theorem discard_eq {x : Except (Fault ε) β} (h : (m >>= fun _ => pure b) r w = (x, w')) :
    ∃ y, m r w = (y, w') ∧ ∀ f, y = .error f → x = .error f := by
  rw [bind_apply] at h
  rcases hm : m r w with ⟨f | a, u⟩
  · rw [hm] at h
    cases h
    refine ⟨_, rfl, fun f' hf => ?_⟩
    cases hf
    rfl
  · rw [hm] at h
    cases h
    exact ⟨_, rfl, fun f hf => (nomatch hf)⟩

theorem bind_of_ok (h : m r w = (.ok a, w')) : (m >>= k) r w = k a r w' := by
  rw [bind_apply, h]

theorem bind_of_error {f : Fault ε} (h : m r w = (.error f, w')) :
    (m >>= k) r w = (.error f, w') := by
  rw [bind_apply, h]

theorem attempt_eq_ok {out : Except ε α} :
    attempt m r w = (.ok out, w') ↔
      (∃ a, out = .ok a ∧ m r w = (.ok a, w')) ∨
        ∃ e, out = .error e ∧ m r w = (.error (.error e), w') := by
  unfold attempt
  rcases m r w with ⟨(e | _) | a, u⟩ <;> cases out <;> simp [eq_comm]

theorem attempt_ne_error : attempt m r w ≠ (.error (.error e), w') := by
  unfold attempt
  rcases m r w with ⟨(e | _) | a, u⟩ <;> simp

theorem attempt_of_ok (h : m r w = (.ok a, w')) : attempt m r w = (.ok (.ok a), w') := by
  unfold attempt
  rw [h]

theorem attempt_of_error (h : m r w = (.error (.error e), w')) :
    attempt m r w = (.ok (.error e), w') := by
  unfold attempt
  rw [h]

theorem ignore_ne_error : ignore m r w ≠ (.error (.error e), w') := by
  intro h
  obtain h | ⟨_, _, _, h⟩ := bind_eq_fault.mp h
  · exact attempt_ne_error h
  · cases h

theorem closing_eq_ok {c : Act ρ ω ε β} (h : closing m c r w = (.ok a, w')) :
    ∃ u, m r w = (.ok a, u) ∧ ignore c r u = (.ok (), w') := by
  obtain ⟨out, u, hu, h⟩ := bind_eq_ok.mp h
  obtain ⟨_, v, hv, h⟩ := bind_eq_ok.mp h
  cases out with
  | error e => cases h
  | ok b =>
    cases h
    obtain ⟨_, hb, hm⟩ | ⟨_, hb, -⟩ := attempt_eq_ok.mp hu <;> cases hb
    exact ⟨u, hm, hv⟩

/-- When `c` always returns or reports an error, `closing m c` fails only as `m` does. -/
theorem closing_eq_fault {c : Act ρ ω ε β} {f : Fault ε}
    (hc : ∀ w, ∃ v, ignore c r w = (.ok (), v)) (h : closing m c r w = (.error f, w')) :
    ∃ u, m r w = (.error f, u) ∧ (w' = u ∨ ignore c r u = (.ok (), w')) := by
  obtain h | ⟨out, u, hu, h⟩ := bind_eq_fault.mp h
  · unfold attempt at h
    rcases hm : m r w with ⟨(e | _) | b, u⟩ <;> rw [hm] at h <;> cases h
    exact ⟨w', rfl, .inl rfl⟩
  · obtain h | ⟨_, v, hv, h⟩ := bind_eq_fault.mp h
    · obtain ⟨v, hv⟩ := hc u
      cases hv.symm.trans h
    · cases out with
      | ok b => cases h
      | error e =>
        cases h
        obtain ⟨_, hb, -⟩ | ⟨_, hb, hm⟩ := attempt_eq_ok.mp hu <;> cases hb
        exact ⟨u, hm, .inr hv⟩

theorem ofExcept_eq_ok {out : Except ε α} :
    (ofExcept out : Act ρ ω ε α) r w = (.ok a, w') ↔ out = .ok a ∧ w = w' := by
  cases out <;> simp [ofExcept]

theorem ofExcept_eq_error {out : Except ε α} :
    (ofExcept out : Act ρ ω ε α) r w = (.error (.error e), w') ↔ out = .error e ∧ w = w' := by
  cases out <;> simp [ofExcept]

theorem ofOption_eq_ok {o : Option α} :
    (ofOption o : Act ρ ω ε α) r w = (.ok a, w') ↔ o = some a ∧ w = w' := by
  cases o <;> simp [ofOption]

end Inversion

/-- A sequence is its first part and then its second. -/
theorem forM_append (act : β → Act ρ ω ε PUnit) (l₁ l₂ : List β) :
    (l₁ ++ l₂).forM act = l₁.forM act >>= fun _ => l₂.forM act := by
  induction l₁ with
  | nil => rfl
  | cons b l₁ ih =>
    change (act b >>= fun _ => (l₁ ++ l₂).forM act) = (act b >>= fun _ => l₁.forM act) >>= _
    rw [ih, bind_assoc]

theorem forM_singleton (act : β → Act ρ ω ε PUnit) (b : β) : [b].forM act = act b :=
  bind_pure (act b)

theorem forM_congr {act act' : β → Act ρ ω ε PUnit} {l : List β} (h : ∀ b ∈ l, act b = act' b) :
    l.forM act = l.forM act' := by
  induction l with
  | nil => rfl
  | cons b l ih =>
    obtain ⟨hb, hl⟩ := List.forall_mem_cons.mp h
    change (act b >>= fun _ => l.forM act) = (act' b >>= fun _ => l.forM act')
    rw [hb, ih hl]

/-- A sequence that fails has made the operations before the one that fails. -/
theorem forM_eq_fault {act : β → Act ρ ω ε PUnit} {l : List β} {r : ρ} {w w' : ω} {f : Fault ε}
    (h : l.forM act r w = (.error f, w')) :
    ∃ k, ∃ _ : k < l.length, ∃ u, (l.take k).forM act r w = (.ok ⟨⟩, u) ∧
      act l[k] r u = (.error f, w') := by
  induction l generalizing w with
  | nil => cases h
  | cons b l ih =>
    obtain h | ⟨_, v, hv, h⟩ := bind_eq_fault.mp h
    · exact ⟨0, Nat.zero_lt_succ _, w, rfl, h⟩
    · obtain ⟨k, hk, u, hu, hfail⟩ := ih h
      exact ⟨k + 1, Nat.succ_lt_succ hk, u, (bind_of_ok hv).trans hu, hfail⟩

/-- A sequence ends where its first operation to fail does. -/
theorem forM_of_fault {act : β → Act ρ ω ε PUnit} {l : List β} {n : Nat} (hn : n < l.length) {r : ρ}
    {w u w' : ω} {f : Fault ε} (hdone : (l.take n).forM act r w = (.ok ⟨⟩, u))
    (hfail : act l[n] r u = (.error f, w')) : l.forM act r w = (.error f, w') := by
  induction l generalizing n w with
  | nil => cases hn
  | cons b l ih =>
    cases n with
    | zero =>
      cases hdone
      exact bind_of_error hfail
    | succ n =>
      obtain ⟨_, v, hv, hdone⟩ := bind_eq_ok.mp hdone
      exact (bind_of_ok hv).trans (ih (Nat.lt_of_succ_lt_succ hn) hdone hfail)

end Act

open Act

/-! ### Frames -/

section Frames

variable {ρ ω ε α β κ : Type} {f : ω → κ}

/-- `m` leaves `f` of the world as it was, however it ends. -/
def Keeps (f : ω → κ) (m : Act ρ ω ε α) : Prop := ∀ r w, f (m r w).2 = f w

variable {m : Act ρ ω ε α} {k : α → Act ρ ω ε β}

theorem Keeps.world (h : Keeps f m) {r : ρ} {w w' : ω} {x : Except (Fault ε) α}
    (hm : m r w = (x, w')) : f w' = f w := by
  have := h r w
  rwa [hm] at this

@[grind ←] theorem Keeps.pure (a : α) : Keeps f (pure a : Act ρ ω ε α) := fun _ _ => rfl

@[grind ←] theorem Keeps.fail (e : ε) : Keeps f (fail e : Act ρ ω ε α) := fun _ _ => rfl

@[grind ←] theorem Keeps.modify {g : ω → ω} (h : ∀ w, f (g w) = f w) :
    Keeps f (modify g : Act ρ ω ε Unit) := fun _ w => h w

@[grind ←] theorem Keeps.bind (hm : Keeps f m) (hk : ∀ a, Keeps f (k a)) : Keeps f (m >>= k) := by
  intro r w
  rw [bind_apply]
  rcases hr : m r w with ⟨e | a, u⟩
  · exact hm.world hr
  · exact (hk a r u).trans (hm.world hr)

theorem Keeps.of_discard {b : β} (h : Keeps f (m >>= fun _ => Pure.pure b)) : Keeps f m := by
  intro r w
  have hworld := h r w
  rw [bind_apply] at hworld
  rcases hr : m r w with ⟨e | a, u⟩ <;> rw [hr] at hworld <;> exact hworld

@[grind ←] theorem Keeps.attempt (hm : Keeps f m) : Keeps f (attempt m) := by
  intro r w
  unfold Act.attempt
  rcases hr : m r w with ⟨(e | _) | a, u⟩ <;> exact hm.world hr

@[grind ←] theorem Keeps.ofExcept (out : Except ε α) : Keeps f (ofExcept out : Act ρ ω ε α) := by
  cases out <;> exact fun _ _ => rfl

@[grind ←] theorem Keeps.ofOption (o : Option α) : Keeps f (ofOption o : Act ρ ω ε α) := by
  cases o <;> exact fun _ _ => rfl

@[grind ←] theorem Keeps.ignore (hm : Keeps f m) : Keeps f (ignore m) := by
  grind [Act.ignore]

@[grind ←] theorem Keeps.orElse (hm : Keeps f m) (a : α) : Keeps f (orElse m a) := by
  grind [Act.orElse]

@[grind ←] theorem Keeps.closing {c : Act ρ ω ε β} (hm : Keeps f m) (hc : Keeps f c) :
    Keeps f (closing m c) := by
  grind [Act.closing]

@[grind ←] theorem Keeps.forM {act : β → Act ρ ω ε PUnit} (l : List β) (h : ∀ b ∈ l, Keeps f (act b)) :
    Keeps f (l.forM act) := by
  induction l with
  | nil => exact Keeps.pure _
  | cons b l ih =>
    exact Keeps.bind (h b List.mem_cons_self) fun _ => ih fun c hc => h c (List.mem_cons_of_mem b hc)

@[grind ←] theorem Keeps.mapM {act : β → Act ρ ω ε α} (l : List β) (h : ∀ b ∈ l, Keeps f (act b)) :
    Keeps f (l.mapM act) := by
  induction l with
  | nil => exact Keeps.pure _
  | cons b l ih =>
    rw [List.mapM_cons]
    have htail := ih fun c hc => h c (List.mem_cons_of_mem b hc)
    have hhead := h b List.mem_cons_self
    grind

/-- A frame of the world is one of every part of what it keeps. -/
theorem Keeps.comp {δ : Type} (h : Keeps f m) (g : κ → δ) : Keeps (fun w => g (f w)) m :=
  fun r w => congrArg g (h r w)

end Frames

/-! ### Invariants -/

section Invariants

variable {ρ ω ε α β κ : Type} {r : ρ} {I : ω → Prop}

/-- In the environment `r`, `I` holds after `m`, however it ends, when it holds before. -/
def Preserves (r : ρ) (I : ω → Prop) (m : Act ρ ω ε α) : Prop := ∀ w, I w → I (m r w).2

variable {m : Act ρ ω ε α} {k : α → Act ρ ω ε β}

theorem Preserves.world (h : Preserves r I m) {w w' : ω} {x : Except (Fault ε) α} (hw : I w)
    (hm : m r w = (x, w')) : I w' := by
  have := h w hw
  rwa [hm] at this

theorem Keeps.preserves {f : ω → κ} (h : Keeps f m) (hI : ∀ w w', f w' = f w → I w → I w') :
    Preserves r I m :=
  fun w hw => hI w _ (h r w) hw

/-- A frame is the invariance of each value of what it keeps. -/
theorem Keeps.value {f : ω → κ} (h : Keeps f m) (k : κ) : Preserves r (fun w => f w = k) m :=
  fun w hw => (h r w).trans hw

theorem Keeps.of_preserves {f : ω → κ} (h : ∀ r k, Preserves r (fun w => f w = k) m) : Keeps f m :=
  fun r w => h r (f w) w rfl

@[grind ←] theorem Preserves.pure (a : α) : Preserves r I (pure a : Act ρ ω ε α) := fun _ hw => hw

@[grind ←] theorem Preserves.fail (e : ε) : Preserves r I (fail e : Act ρ ω ε α) := fun _ hw => hw

@[grind ←] theorem Preserves.bind (hm : Preserves r I m) (hk : ∀ a, Preserves r I (k a)) :
    Preserves r I (m >>= k) := by
  intro w hw
  rw [bind_apply]
  rcases hr : m r w with ⟨e | a, u⟩
  · exact hm.world hw hr
  · exact hk a u (hm.world hw hr)

@[grind ←] theorem Preserves.attempt (hm : Preserves r I m) : Preserves r I (attempt m) := by
  intro w hw
  unfold Act.attempt
  rcases hr : m r w with ⟨(e | _) | a, u⟩ <;> exact hm.world hw hr

@[grind ←] theorem Preserves.ofExcept (out : Except ε α) :
    Preserves r I (ofExcept out : Act ρ ω ε α) := by
  cases out <;> exact fun _ hw => hw

@[grind ←] theorem Preserves.ofOption (o : Option α) :
    Preserves r I (ofOption o : Act ρ ω ε α) := by
  cases o <;> exact fun _ hw => hw

@[grind ←] theorem Preserves.ignore (hm : Preserves r I m) : Preserves r I (ignore m) := by
  grind [Act.ignore]

@[grind ←] theorem Preserves.orElse (hm : Preserves r I m) (a : α) :
    Preserves r I (orElse m a) := by
  grind [Act.orElse]

@[grind ←] theorem Preserves.closing {c : Act ρ ω ε β} (hm : Preserves r I m)
    (hc : Preserves r I c) : Preserves r I (closing m c) := by
  grind [Act.closing]

@[grind ←] theorem Preserves.forM {act : β → Act ρ ω ε PUnit} (l : List β)
    (h : ∀ b ∈ l, Preserves r I (act b)) : Preserves r I (l.forM act) := by
  induction l with
  | nil => exact Preserves.pure _
  | cons b l ih =>
    exact Preserves.bind (h b List.mem_cons_self) fun _ =>
      ih fun c hc => h c (List.mem_cons_of_mem b hc)

end Invariants

/-! ### Operations that return -/

section Total

variable {ρ ω ε α β : Type} {r : ρ}

/-- In the environment `r`, `m` returns from every world. -/
def Total (r : ρ) (m : Act ρ ω ε α) : Prop := ∀ w, ∃ a w', m r w = (.ok a, w')

variable {m : Act ρ ω ε α} {k : α → Act ρ ω ε β}

@[grind ←] theorem Total.pure (a : α) : Total r (pure a : Act ρ ω ε α) := fun w => ⟨a, w, rfl⟩

@[grind ←] theorem Total.bind (hm : Total r m) (hk : ∀ a, Total r (k a)) : Total r (m >>= k) := by
  intro w
  obtain ⟨a, u, hu⟩ := hm w
  rw [bind_of_ok hu]
  exact hk a u

@[grind ←] theorem Total.attempt (hm : Total r m) : Total r (attempt m) := fun w =>
  let ⟨a, u, hu⟩ := hm w
  ⟨.ok a, u, attempt_of_ok hu⟩

@[grind ←] theorem Total.ignore (hm : Total r m) : Total r (ignore m) := by
  grind [Act.ignore]

@[grind ←] theorem Total.orElse (hm : Total r m) (a : α) : Total r (orElse m a) := by
  grind [Act.orElse]

@[grind ←] theorem Total.closing {c : Act ρ ω ε β} (hm : Total r m) (hc : Total r c) :
    Total r (closing m c) := by
  intro w
  obtain ⟨a, u, hu⟩ := hm w
  obtain ⟨_, v, hv⟩ := (Total.ignore hc) u
  exact ⟨a, v, by rw [Act.closing, bind_of_ok (attempt_of_ok hu), bind_of_ok hv]; rfl⟩

@[grind ←] theorem Total.forM {act : β → Act ρ ω ε PUnit} (l : List β)
    (h : ∀ b ∈ l, Total r (act b)) : Total r (l.forM act) := by
  induction l with
  | nil => exact Total.pure _
  | cons b l ih =>
    exact Total.bind (h b List.mem_cons_self) fun _ => ih fun c hc => h c (List.mem_cons_of_mem b hc)

@[grind ←] theorem Total.mapM {act : β → Act ρ ω ε α} (l : List β)
    (h : ∀ b ∈ l, Total r (act b)) : Total r (l.mapM act) := by
  induction l with
  | nil => exact Total.pure _
  | cons b l ih =>
    rw [List.mapM_cons]
    have htail := ih fun c hc => h c (List.mem_cons_of_mem b hc)
    have hhead := h b List.mem_cons_self
    grind

end Total

/-! ### Operations that are defined -/

section Defined

variable {ρ ω ε α β : Type}

/-- `m` never traps. -/
def Defined (m : Act ρ ω ε α) : Prop := ∀ r w, (m r w).1 ≠ .error .trap

variable {m : Act ρ ω ε α} {k : α → Act ρ ω ε β}

@[grind ←] theorem Defined.pure (a : α) : Defined (pure a : Act ρ ω ε α) := fun _ _ => by nofun

@[grind ←] theorem Defined.fail (e : ε) : Defined (fail e : Act ρ ω ε α) := fun _ _ => by nofun

/-- A sequence that its first step does not end in a trap, nor what follows what it returns. -/
theorem bind_ne_trap {r : ρ} {w : ω} (hm : (m r w).1 ≠ .error .trap)
    (hk : ∀ a u, m r w = (.ok a, u) → (k a r u).1 ≠ .error .trap) :
    ((m >>= k) r w).1 ≠ .error .trap := by
  rw [bind_apply]
  rcases hr : m r w with ⟨e | a, u⟩
  · rw [hr] at hm
    exact fun h => hm (congrArg Except.error (Except.error.inj h))
  · exact hk a u hr

@[grind ←] theorem Defined.bind (hm : Defined m) (hk : ∀ a, Defined (k a)) : Defined (m >>= k) :=
  fun r w => bind_ne_trap (hm r w) fun a u _ => hk a r u

@[grind ←] theorem Defined.attempt (hm : Defined m) : Defined (attempt m) := by
  intro r w
  have := hm r w
  unfold Act.attempt
  rcases hr : m r w with ⟨(e | _) | a, u⟩
  · nofun
  · exact absurd (by rw [hr]) this
  · nofun

@[grind ←] theorem Defined.ofExcept (out : Except ε α) :
    Defined (ofExcept out : Act ρ ω ε α) := by
  cases out <;> exact fun _ _ => by nofun

@[grind ←] theorem Defined.ignore (hm : Defined m) : Defined (ignore m) := by
  grind [Act.ignore]

@[grind ←] theorem Defined.orElse (hm : Defined m) (a : α) : Defined (orElse m a) := by
  grind [Act.orElse]

@[grind ←] theorem Defined.closing {c : Act ρ ω ε β} (hm : Defined m) (hc : Defined c) :
    Defined (closing m c) := by
  grind [Act.closing]

@[grind ←] theorem Defined.forM {act : β → Act ρ ω ε PUnit} (l : List β)
    (h : ∀ b ∈ l, Defined (act b)) : Defined (l.forM act) := by
  induction l with
  | nil => exact Defined.pure _
  | cons b l ih =>
    exact Defined.bind (h b List.mem_cons_self) fun _ =>
      ih fun c hc => h c (List.mem_cons_of_mem b hc)

@[grind ←] theorem Defined.mapM {act : β → Act ρ ω ε α} (l : List β)
    (h : ∀ b ∈ l, Defined (act b)) : Defined (l.mapM act) := by
  induction l with
  | nil => exact Defined.pure _
  | cons b l ih =>
    rw [List.mapM_cons]
    have htail := ih fun c hc => h c (List.mem_cons_of_mem b hc)
    have hhead := h b List.mem_cons_self
    grind

/-- An operation that does not trap from `w` ends under `attempt` with a value. -/
theorem attempt_of_defined {r : ρ} {w : ω} (h : (m r w).1 ≠ .error .trap) :
    ∃ out, Act.attempt m r w = (.ok out, (m r w).2) := by
  unfold Act.attempt
  rcases hr : m r w with ⟨(e | _) | a, u⟩
  · exact ⟨.error e, rfl⟩
  · exact absurd (by rw [hr]) h
  · exact ⟨.ok a, rfl⟩

end Defined

/-! ### Triples -/

section Triples

variable {ρ ω ε α β : Type} {r : ρ} {I J : ω → Prop} {Q : α → ω → Prop} {R : β → ω → Prop}

/-- In the environment `r`, `m` returns from every world with `I`, and `Q` holds of what it returns
and of the world that it leaves. -/
def Returns (r : ρ) (I : ω → Prop) (m : Act ρ ω ε α) (Q : α → ω → Prop) : Prop :=
  ∀ w, I w → ∃ a w', m r w = (.ok a, w') ∧ Q a w'

variable {m : Act ρ ω ε α} {k : α → Act ρ ω ε β}

theorem Returns.pure {a : α} (h : ∀ w, I w → Q a w) : Returns r I (pure a : Act ρ ω ε α) Q :=
  fun w hw => ⟨a, w, rfl, h w hw⟩

theorem Returns.modify {g : ω → ω} {Q : Unit → ω → Prop} (h : ∀ w, I w → Q () (g w)) :
    Returns r I (modify g : Act ρ ω ε Unit) Q :=
  fun w hw => ⟨(), g w, rfl, h w hw⟩

theorem Returns.bind (hm : Returns r I m Q) (hk : ∀ a, Returns r (Q a) (k a) R) :
    Returns r I (m >>= k) R := by
  intro w hw
  obtain ⟨a, u, hu, ha⟩ := hm w hw
  obtain ⟨b, w', hw', hb⟩ := hk a u ha
  exact ⟨b, w', (bind_of_ok hu).trans hw', hb⟩

theorem Returns.mono {Q' : α → ω → Prop} (hm : Returns r I m Q) (h : ∀ a w, Q a w → Q' a w) :
    Returns r I m Q' := by
  intro w hw
  obtain ⟨a, w', hw', ha⟩ := hm w hw
  exact ⟨a, w', hw', h a w' ha⟩

theorem Returns.ignore (hm : Returns r I (Act.attempt m) fun _ => J) :
    Returns r I (ignore m) fun _ => J :=
  hm.bind fun _ => Returns.pure fun _ hw => hw

end Triples

/-! ### What operations leave -/

section Leaves

variable {ρ ω ε α β : Type} {r : ρ} {I : ω → Prop}

/-- In the environment `r`, `I` holds after `m` unless it traps. -/
def Leaves (r : ρ) (I : ω → Prop) (m : Act ρ ω ε α) : Prop :=
  ∀ w x w', m r w = (x, w') → x ≠ .error .trap → I w'

variable {m : Act ρ ω ε α} {k : α → Act ρ ω ε β}

theorem Leaves.bind (hm : ∀ w e w', m r w = (.error (.error e), w') → I w')
    (hk : ∀ a, Leaves r I (k a)) : Leaves r I (m >>= k) := by
  intro w x w' h hx
  rw [bind_apply] at h
  rcases hr : m r w with ⟨(e | _) | a, u⟩ <;> rw [hr] at h
  · cases h
    exact hm w e _ hr
  · cases h
    exact absurd rfl hx
  · exact hk a u x w' h hx

/-- What follows an operation that returns decides. -/
theorem Leaves.bind_total (hm : Total r m) (hk : ∀ a, Leaves r I (k a)) :
    Leaves r I (m >>= k) := by
  intro w x w' h hx
  obtain ⟨a, u, hu⟩ := hm w
  rw [bind_of_ok hu] at h
  exact hk a u x w' h hx

theorem Leaves.bind_preserves (hm : Leaves r I m) (hk : ∀ a, Preserves r I (k a)) :
    Leaves r I (m >>= k) := by
  intro w x w' h hx
  rw [bind_apply] at h
  rcases hr : m r w with ⟨e | a, u⟩ <;> rw [hr] at h
  · cases h
    refine hm w _ _ hr ?_
    rintro ⟨rfl⟩
    exact hx rfl
  · exact (hk a).world (hm w _ _ hr (by nofun)) h

theorem Leaves.attempt (hm : Leaves r I m) : Leaves r I (Act.attempt m) := by
  intro w x w' h hx
  unfold Act.attempt at h
  rcases hr : m r w with ⟨(e | _) | a, u⟩ <;> rw [hr] at h <;> cases h
  · exact hm w _ _ hr (by nofun)
  · exact absurd rfl hx
  · exact hm w _ _ hr (by nofun)

theorem Leaves.ignore (hm : Leaves r I m) : Leaves r I (ignore m) :=
  hm.attempt.bind_preserves fun _ => Preserves.pure _

/-- `closing m c` leaves what `c` does. -/
theorem Leaves.closing {c : Act ρ ω ε β} (hc : Leaves r I c) : Leaves r I (closing m c) := by
  intro w x w' h hx
  rw [Act.closing, bind_apply] at h
  rcases hr : Act.attempt m r w with ⟨(e | _) | out, u⟩ <;> rw [hr] at h
  · exact absurd hr attempt_ne_error
  · cases h
    exact absurd rfl hx
  · exact (hc.ignore.bind_preserves fun _ => Preserves.ofExcept out) u x w' h hx

/-- In the environment `r`, `I` holds after `m` returns when it held before. -/
def Upholds (r : ρ) (I : ω → Prop) (m : Act ρ ω ε α) : Prop :=
  ∀ w x w', I w → m r w = (x, w') → x ≠ .error .trap → I w'

theorem Preserves.upholds (hm : Preserves r I m) : Upholds r I m :=
  fun _ _ _ hw h _ => hm.world hw h

theorem Upholds.bind (hm : Upholds r I m) (hk : ∀ a, Upholds r I (k a)) :
    Upholds r I (m >>= k) := by
  intro w x w' hw h hx
  rw [bind_apply] at h
  rcases hr : m r w with ⟨e | a, u⟩ <;> rw [hr] at h
  · cases h
    refine hm w _ _ hw hr ?_
    rintro ⟨rfl⟩
    exact hx rfl
  · exact hk a u x w' (hm w _ _ hw hr (by nofun)) h hx

/-- A first step that fails without effect, and the rest that decides. -/
theorem Upholds.enter (hm : ∀ w e w', I w → m r w = (.error (.error e), w') → I w')
    (hk : ∀ a, Leaves r I (k a)) : Upholds r I (m >>= k) := by
  intro w x w' hw h hx
  rw [bind_apply] at h
  rcases hr : m r w with ⟨(e | _) | a, u⟩ <;> rw [hr] at h
  · cases h
    exact hm w e _ hw hr
  · cases h
    exact absurd rfl hx
  · exact hk a u x w' h hx

/-- In the environment `r`, `m` takes a world with `I` to one with `J` unless it traps. -/
def Takes (r : ρ) (I J : ω → Prop) (m : Act ρ ω ε α) : Prop :=
  ∀ w x w', I w → m r w = (x, w') → x ≠ .error .trap → J w'

theorem Preserves.takes (hm : Preserves r I m) : Takes r I I m :=
  fun _ _ _ hw h _ => hm.world hw h

theorem Takes.ignore {J : ω → Prop} (hm : Takes r I J m) : Takes r I J (Act.ignore m) := by
  intro w x w' hw h hx
  rw [Act.ignore, bind_apply, Act.attempt] at h
  rcases hr : m r w with ⟨(e | _) | a, u⟩ <;> rw [hr] at h <;> cases h
  · exact hm w _ _ hw hr (by simp)
  · exact absurd rfl hx
  · exact hm w _ _ hw hr (by simp)

/-- The rest starts where the first step has taken the world, unless that reported an error. -/
theorem Takes.bind {J K : ω → Prop} (hm : Takes r I J m)
    (herr : ∀ w e w', I w → m r w = (.error (.error e), w') → K w')
    (hk : ∀ a, Takes r J K (k a)) : Takes r I K (m >>= k) := by
  intro w x w' hw h hx
  rw [bind_apply] at h
  rcases hr : m r w with ⟨(e | _) | a, u⟩ <;> rw [hr] at h
  · cases h
    exact herr w e _ hw hr
  · cases h
    exact absurd rfl hx
  · exact hk a u x w' (hm w _ _ hw hr (by nofun)) h hx

end Leaves

end Sdrgg.ProofKit
