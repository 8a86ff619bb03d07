import Sdrgg.ProofKit.Effect

/-! What an operation adds to a log of the world, whose newest entry comes first.  `Traces` relates
how an operation ends to the entries that it adds, in the order in which it adds them; `Reports`
says that an operation reports an error exactly when it is refused or one of its entries is bad, and
what it returns when none of them is short. -/

namespace Sdrgg.ProofKit

open Act

variable {ρ ω ε α β γ ι : Type} {r : ρ} {I : ω → Prop} {log : ω → List ι}

/-- In the environment `r`, from a world with `I`, `m` leaves one with `I`, and `R` holds of how it
ends and of the entries that it adds to the log. -/
def Traces (r : ρ) (I : ω → Prop) (log : ω → List ι) (m : Act ρ ω ε α)
    (R : Except (Fault ε) α → List ι → Prop) : Prop :=
  ∀ w, I w → ∃ es, log (m r w).2 = es.reverse ++ log w ∧ I (m r w).2 ∧ R (m r w).1 es

/-- The entries that `m` adds to the log, the first one first. -/
def entriesOf (log : ω → List ι) (m : Act ρ ω ε α) (r : ρ) (w : ω) : List ι :=
  ((log (m r w).2).take ((log (m r w).2).length - (log w).length)).reverse

section Rules

variable {m : Act ρ ω ε α} {k : α → Act ρ ω ε β} {R : Except (Fault ε) α → List ι → Prop}
  {S : α → Except (Fault ε) β → List ι → Prop} {T : Except (Fault ε) β → List ι → Prop}

theorem entriesOf_eq {w : ω} {es : List ι} (h : log (m r w).2 = es.reverse ++ log w) :
    entriesOf log m r w = es := by
  rw [entriesOf, h]
  simp

theorem Traces.entries (h : Traces r I log m R) {w : ω} (hw : I w) :
    R (m r w).1 (entriesOf log m r w) := by
  obtain ⟨es, hlog, -, hR⟩ := h w hw
  rwa [entriesOf_eq hlog]

theorem Traces.mono {R' : Except (Fault ε) α → List ι → Prop} (h : Traces r I log m R)
    (hR : ∀ x es, R x es → R' x es) : Traces r I log m R' := by
  intro w hw
  obtain ⟨es, hlog, hI, hx⟩ := h w hw
  exact ⟨es, hlog, hI, hR _ es hx⟩

theorem Traces.intro (hI : Preserves r I m)
    (h : ∀ w, I w → ∃ es, log (m r w).2 = es.reverse ++ log w ∧ R (m r w).1 es) :
    Traces r I log m R := by
  intro w hw
  obtain ⟨es, hlog, hR⟩ := h w hw
  exact ⟨es, hlog, hI w hw, hR⟩

/-- An operation that adds nothing. -/
theorem Traces.of_keeps (hlog : Keeps log m) (hI : Preserves r I m)
    (hR : ∀ w, I w → R (m r w).1 []) : Traces r I log m R :=
  fun w hw => ⟨[], hlog r w, hI w hw, hR w hw⟩

theorem Traces.pure {a : α} (h : R (.ok a) []) : Traces r I log (pure a : Act ρ ω ε α) R :=
  Traces.of_keeps (Keeps.pure a) (Preserves.pure a) fun _ _ => h

theorem Traces.fail {e : ε} (h : R (.error (.error e)) []) :
    Traces r I log (fail e : Act ρ ω ε α) R :=
  Traces.of_keeps (Keeps.fail e) (Preserves.fail e) fun _ _ => h

theorem Traces.bind (hm : Traces r I log m R) (hk : ∀ a, Traces r I log (k a) (S a))
    (herror : ∀ f es, R (.error f) es → T (.error f) es)
    (hok : ∀ a es x es', R (.ok a) es → S a x es' → T x (es ++ es')) :
    Traces r I log (m >>= k) T := by
  intro w hw
  obtain ⟨es, hlog, hI, hR⟩ := hm w hw
  rw [bind_apply]
  rcases hr : m r w with ⟨f | a, u⟩ <;> rw [hr] at hlog hI hR
  · exact ⟨es, hlog, hI, herror f es hR⟩
  · obtain ⟨es', hlog', hI', hS⟩ := hk a u hI
    refine ⟨es ++ es', ?_, hI', hok a es _ es' hR hS⟩
    dsimp only at hlog ⊢
    rw [hlog', hlog, List.reverse_append, List.append_assoc]

/-- What came of `m`, when it does not trap. -/
theorem Traces.attempt (hm : Traces r I log m R) (htrap : ∀ es, ¬R (.error .trap) es) :
    Traces r I log (attempt m) fun x es => ∃ out, x = .ok out ∧ R (out.mapError Fault.error) es := by
  intro w hw
  obtain ⟨es, hlog, hI, hR⟩ := hm w hw
  unfold Act.attempt
  rcases hr : m r w with ⟨(e | _) | a, u⟩ <;> rw [hr] at hlog hI hR
  · exact ⟨es, hlog, hI, .error e, rfl, hR⟩
  · exact absurd hR (htrap es)
  · exact ⟨es, hlog, hI, .ok a, rfl, hR⟩

/-- `m` does not trap, and `P` holds of the entries that it adds. -/
def Logs (r : ρ) (I : ω → Prop) (log : ω → List ι) (m : Act ρ ω ε α) (P : List ι → Prop) : Prop :=
  Traces r I log m fun x es => x ≠ .error .trap ∧ P es

/-- `m` returns, and `P` holds of the entries that it adds. -/
def Settles (r : ρ) (I : ω → Prop) (log : ω → List ι) (m : Act ρ ω ε α) (P : List ι → Prop) : Prop :=
  Traces r I log m fun x es => (∃ a, x = .ok a) ∧ P es

variable {P : List ι → Prop}

theorem Settles.logs (hm : Settles r I log m P) : Logs r I log m P := by
  refine Traces.mono hm ?_
  rintro _ es ⟨⟨a, rfl⟩, hes⟩
  exact ⟨by simp, hes⟩

theorem Logs.any (hm : Logs r I log m P) : Logs r I log m fun _ => True :=
  Traces.mono hm fun _ _ h => ⟨h.1, trivial⟩

theorem Logs.bind (hm : Logs r I log m P) (hk : ∀ a, Logs r I log (k a) P)
    (hP : ∀ es es', P es → P es' → P (es ++ es')) : Logs r I log (m >>= k) P := by
  refine Traces.bind hm hk (fun f es h => ⟨?_, h.2⟩)
    fun a es x es' h h' => ⟨h'.1, hP es es' h.2 h'.2⟩
  rintro ⟨rfl⟩
  exact h.1 rfl

theorem Settles.pure {a : α} (h : P []) : Settles r I log (pure a : Act ρ ω ε α) P :=
  Traces.pure ⟨⟨a, rfl⟩, h⟩

theorem Settles.bind (hm : Settles r I log m P) (hk : ∀ a, Settles r I log (k a) P)
    (hP : ∀ es es', P es → P es' → P (es ++ es')) : Settles r I log (m >>= k) P := by
  refine Traces.bind hm hk (fun f es h => ?_) fun a es x es' h h' => ⟨h'.1, hP es es' h.2 h'.2⟩
  obtain ⟨⟨a, ha⟩, -⟩ := h
  cases ha

/-- An operation that goes on with a value whatever becomes of `m`. -/
theorem Logs.settles {k : Except ε α → Act ρ ω ε β} {f : Except ε α → β} (hm : Logs r I log m P)
    (hk : ∀ out, k out = Pure.pure (f out)) : Settles r I log (Act.attempt m >>= k) P := by
  refine (Traces.attempt hm fun es h => h.1 rfl).bind
    (S := fun _ x es => (∃ b, x = .ok b) ∧ es = []) (fun out => ?_) (fun f es h => ?_)
    fun out es x es' h h' => ?_
  · rw [hk]
    exact Traces.pure ⟨⟨_, rfl⟩, rfl⟩
  · obtain ⟨out, hout, -⟩ := h
    cases hout
  · obtain ⟨_, -, -, hP⟩ := h
    obtain ⟨hx, rfl⟩ := h'
    rw [List.append_nil]
    exact ⟨hx, hP⟩

theorem Logs.ignore (hm : Logs r I log m P) : Settles r I log (ignore m) P :=
  hm.settles (f := fun _ => ()) fun _ => rfl

theorem Logs.orElse (hm : Logs r I log m P) (b : α) : Settles r I log (orElse m b) P :=
  hm.settles (f := fun out => out.toOption.getD b) fun out => by cases out <;> rfl

/-- `closing m c` ends as `m` does, and adds what the two add. -/
theorem Traces.closing {c : Act ρ ω ε γ} {T : Except (Fault ε) α → List ι → Prop}
    (hm : Traces r I log m R) (htrap : ∀ es, ¬R (.error .trap) es)
    (hc : Settles r I log (Act.ignore c) P) (hT : ∀ x es es', R x es → P es' → T x (es ++ es')) :
    Traces r I log (closing m c) T := by
  refine (hm.attempt htrap).bind (S := fun out x es => x = out.mapError Fault.error ∧ P es)
    (fun out => ?_) (fun f es h => ?_) fun out es x es' h h' => ?_
  · refine Traces.bind hc (S := fun _ x es => x = out.mapError Fault.error ∧ es = []) (fun _ => ?_)
      (fun f es h => ?_) fun _ es x es' h h' => ?_
    · cases out with
      | ok a => exact Traces.pure ⟨rfl, rfl⟩
      | error e => exact Traces.fail ⟨rfl, rfl⟩
    · obtain ⟨⟨a, ha⟩, -⟩ := h
      cases ha
    · obtain ⟨rfl, rfl⟩ := h'
      rw [List.append_nil]
      exact ⟨rfl, h.2⟩
  · obtain ⟨out, hout, -⟩ := h
    cases hout
  · obtain ⟨out', hout, hR⟩ := h
    cases hout
    obtain ⟨rfl, hP⟩ := h'
    exact hT _ es es' hR hP

end Rules

/-! ### Operations that report what goes wrong -/

/-- An error is reported exactly when the operation is refused or an entry is bad, and `Q` holds of
what is returned when no entry is short. -/
structure Reported (refused : Prop) (bad short : ι → Prop) (Q : α → Prop)
    (x : Except (Fault ε) α) (es : List ι) : Prop where
  error_iff : (∃ e, x = .error (.error e)) ↔ refused ∨ ∃ e ∈ es, bad e
  defined : x ≠ .error .trap
  value : ∀ a, x = .ok a → (∀ e ∈ es, ¬short e) → Q a

section Reports

variable {p q : Prop} {bad short : ι → Prop} {Q : α → Prop} {Q' : β → Prop} {m : Act ρ ω ε α}
  {k : α → Act ρ ω ε β}

/-- `m` is refused when `p` holds, and reports its bad entries otherwise. -/
def Reports (r : ρ) (I : ω → Prop) (log : ω → List ι) (bad short : ι → Prop) (p : Prop)
    (m : Act ρ ω ε α) (Q : α → Prop) : Prop :=
  Traces r I log m (Reported p bad short Q)

theorem Reported.of_ok {a : α} {es : List ι} (hp : ¬p) (hbad : ∀ e ∈ es, ¬bad e)
    (hQ : (∀ e ∈ es, ¬short e) → Q a) :
    Reported p bad short Q (.ok a : Except (Fault ε) α) es where
  error_iff := by
    refine iff_of_false (by simp) ?_
    rintro (h | ⟨e, he, h⟩)
    · exact hp h
    · exact hbad e he h
  defined := by simp
  value b hb h := by
    cases hb
    exact hQ h

theorem Reported.of_error {e : ε} {es : List ι} (h : p ∨ ∃ e ∈ es, bad e) :
    Reported p bad short Q (.error (.error e) : Except (Fault ε) α) es :=
  ⟨iff_of_true ⟨e, rfl⟩ h, by simp, by simp⟩

/-- What follows an operation that returned. -/
theorem Reported.append {a : α} {x : Except (Fault ε) β} {es es' : List ι}
    (h : Reported p bad short Q (.ok a : Except (Fault ε) α) es)
    (h' : Reported q bad short (fun b => Q a → Q' b) x es') :
    Reported (p ∨ q) bad short Q' x (es ++ es') := by
  have hnone : ¬(p ∨ ∃ e ∈ es, bad e) := fun hp => by
    obtain ⟨e, he⟩ := h.error_iff.mpr hp
    cases he
  refine ⟨?_, h'.defined, fun b hb hshort => ?_⟩
  · rw [h'.error_iff]
    simp only [List.mem_append]
    grind
  · exact h'.value b hb (fun e he => hshort e (List.mem_append_right es he))
      (h.value a rfl fun e he => hshort e (List.mem_append_left es' he))

theorem Reports.pure {a : α} (h : Q a) :
    Reports r I log bad short False (pure a : Act ρ ω ε α) Q :=
  Traces.pure (Reported.of_ok id (by simp) fun _ => h)

theorem Reports.bind (hm : Reports r I log bad short p m Q)
    (hk : ∀ a, Reports r I log bad short q (k a) fun b => Q a → Q' b) :
    Reports r I log bad short (p ∨ q) (m >>= k) Q' := by
  refine Traces.bind hm hk (fun f es h => ?_) fun a es x es' h h' => ?_
  · cases f with
    | error e =>
      obtain hp | hbad := h.error_iff.mp ⟨e, rfl⟩
      · exact Reported.of_error (.inl (.inl hp))
      · exact Reported.of_error (.inr hbad)
    | trap => exact absurd rfl h.defined
  · exact h.append h'

theorem Reports.mono {Q' : α → Prop} (h : Reports r I log bad short p m Q) (hp : p ↔ q)
    (hQ : ∀ a, Q a → Q' a) : Reports r I log bad short q m Q' :=
  Traces.mono h fun _ _ hx =>
    ⟨by rw [← hp]; exact hx.error_iff, hx.defined, fun a ha hs => hQ a (hx.value a ha hs)⟩

theorem Reports.closing {c : Act ρ ω ε γ} (hm : Reports r I log bad short p m Q)
    (hc : Settles r I log (Act.ignore c) fun es => ∀ e ∈ es, ¬bad e) :
    Reports r I log bad short p (closing m c) Q := by
  refine Traces.closing hm (fun es h => h.defined rfl) hc fun x es es' h hquiet => ?_
  refine ⟨?_, h.defined, fun a ha hs => h.value a ha fun e he => hs e (List.mem_append_left es' he)⟩
  rw [h.error_iff]
  simp only [List.mem_append]
  grind

/-- Operations one after the other are refused when one of them is, and return what each does. -/
theorem Reports.mapM {act : β → Act ρ ω ε α} {p : β → Prop} {f : β → α} (l : List β)
    (h : ∀ b ∈ l, Reports r I log bad short (p b) (act b) fun a => a = f b) :
    Reports r I log bad short (∃ b ∈ l, p b) (l.mapM act) fun as => as = l.map f := by
  induction l with
  | nil =>
    rw [List.mapM_nil]
    exact (Reports.pure (Q := fun as => as = []) rfl).mono (by simp) fun _ => id
  | cons b l ih =>
    rw [List.mapM_cons]
    have hrest := ih fun c hc => h c (List.mem_cons_of_mem b hc)
    have hhead := h b List.mem_cons_self
    refine (hhead.bind fun a => Reports.mono (hrest.bind fun as => Reports.pure
      (Q := fun as' => as = l.map f → as' = a :: l.map f) fun has => has ▸ rfl) (iff_of_eq (or_false _))
        fun as' has ha => ?_).mono ?_ fun _ => id
    · rw [has, ha, List.map_cons]
    · simp

end Reports

end Sdrgg.ProofKit
