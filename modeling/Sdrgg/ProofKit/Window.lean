import Mathlib.Data.List.Nodup
import Mathlib.Data.Nat.ModEq

/-! A ring of memory cells that holds the newest values of a stream.  Value `p` of the stream is in
cell `p % n`, until value `p + n` overwrites it. -/

namespace Sdrgg.ProofKit.Window

variable {α : Type*} {n : Nat} {cells cells' : Nat → α} {stream src : List α}

/-- The `n` cells hold the last `n` values of `stream`. -/
def Holds (n : Nat) (cells : Nat → α) (stream : List α) : Prop :=
  ∀ p (hp : p < stream.length), stream.length ≤ p + n → cells (p % n) = stream[p]

/-- `cells'` is `cells` with the values `src` in the cells from `pos` on, around the end of the
ring. -/
structure Puts (n : Nat) (cells cells' : Nat → α) (pos : Nat) (src : List α) : Prop where
  put : ∀ j (hj : j < src.length), cells' ((pos + j) % n) = src[j]
  keep : ∀ i < n, (∀ j < src.length, (pos + j) % n ≠ i) → cells' i = cells i

/-- The values in the `m` cells from `pos` on, around the end of the ring. -/
def slice (n : Nat) (cells : Nat → α) (pos m : Nat) : List α :=
  (List.range m).map fun j => cells ((pos + j) % n)

@[simp] theorem slice_length (pos m : Nat) : (slice n cells pos m).length = m := by simp [slice]

theorem mod_ne_of_lt {a b : Nat} (h1 : a < b) (h2 : b < a + n) : a % n ≠ b % n := by
  intro h
  have hdvd : n ∣ b - a := (Nat.modEq_iff_dvd' (Nat.le_of_lt h1)).mp h
  have := Nat.le_of_dvd (by omega) hdvd
  omega

theorem holds_nil : Holds n cells ([] : List α) := fun p hp => absurd hp (by simp)

theorem Puts.pos_mod {pos : Nat} (h : Puts n cells cells' (pos % n) src) :
    Puts n cells cells' pos src :=
  ⟨fun j hj => by rw [← h.put j hj, Nat.mod_add_mod],
    fun i hi hne => h.keep i hi fun j hj => by rw [Nat.mod_add_mod]; exact hne j hj⟩

/-- Putting `src` after a stream that the cells hold makes them hold the longer stream. -/
theorem Holds.append (h : Holds n cells stream) (hputs : Puts n cells cells' stream.length src)
    (hn : 0 < n) : Holds n cells' (stream ++ src) := by
  intro p hp hlast
  rw [List.length_append] at hp hlast
  by_cases hold : p < stream.length
  · have hkept : cells' (p % n) = cells (p % n) :=
      hputs.keep _ (Nat.mod_lt p hn) fun j hj =>
        (mod_ne_of_lt (show p < stream.length + j by omega) (by omega)).symm
    rw [hkept, h p hold (by omega), List.getElem_append_left hold]
  · have hput := hputs.put (p - stream.length) (by omega)
    rw [show stream.length + (p - stream.length) = p by omega] at hput
    rw [hput, List.getElem_append_right (by omega)]

/-- Cells that differ by whole turns of the ring are the same cells. -/
theorem slice_congr {pos q : Nat} (h : pos % n = q % n) (m : Nat) :
    slice n cells pos m = slice n cells q m := by
  simp only [slice]
  congr 1
  funext j
  rw [Nat.add_mod pos, Nat.add_mod q, h]

/-- A slice that the stream has reached and not yet overwritten is a slice of the stream. -/
theorem Holds.slice_eq (h : Holds n cells stream) {pos m : Nat} (h1 : pos + m ≤ stream.length)
    (h2 : stream.length ≤ pos + n) : slice n cells pos m = (stream.drop pos).take m := by
  apply List.ext_getElem
  · simp
    omega
  · intro j hj _
    have hjm : j < m := by simpa using hj
    simp only [slice, List.getElem_map, List.getElem_range, List.getElem_take, List.getElem_drop]
    exact h (pos + j) (by omega) (by omega)

/-- The index of the newest value of a stream of length `len` in the cell of index `pos`. -/
def newest (n len pos : Nat) : Nat := pos + (len - 1 - pos) / n * n

theorem newest_mod (len pos : Nat) : newest n len pos % n = pos % n := by
  simp [newest]

theorem newest_lt {len pos : Nat} (h : pos < len) : newest n len pos < len := by
  have := Nat.div_mul_le_self (len - 1 - pos) n
  unfold newest
  omega

theorem le_newest_add {len pos : Nat} (hn : 0 < n) : len ≤ newest n len pos + n := by
  have := Nat.lt_div_mul_add hn (a := len - 1 - pos)
  unfold newest
  omega

/-- The newest values in `m` cells are written exactly when the end of the stream falls nowhere
inside those cells. -/
theorem newest_add_le_iff {len pos m : Nat} (hpos : pos < len) (hm : m ≤ n) (hn : 0 < n) :
    newest n len pos + m ≤ len ↔ (len - pos) % n = 0 ∨ m ≤ (len - pos) % n := by
  obtain ⟨a, rfl⟩ : ∃ a, len = pos + a + 1 := ⟨len - 1 - pos, by omega⟩
  have hdiv := Nat.div_add_mod' a n
  have hlt := Nat.mod_lt a hn
  rw [show pos + a + 1 - pos = a + 1 by omega, ← Nat.mod_add_mod, newest,
    show pos + a + 1 - 1 - pos = a by omega]
  generalize a % n = r at *
  rcases Nat.lt_or_ge (r + 1) n with hr | hr
  · rw [Nat.mod_eq_of_lt hr]
    omega
  · rw [show r + 1 = n by omega, Nat.mod_self]
    omega

/-- When no value of the stream occurs twice, a slice of the cells is a slice of the stream only
if its first value is the newest in its cell and all of it has been written. -/
theorem Holds.slice_inj (h : Holds n cells stream) (hnodup : stream.Nodup) (hn : 0 < n)
    {pos m q : Nat} (hm : 0 < m) (hpos : pos < stream.length) (hq : q + m ≤ stream.length)
    (heq : slice n cells pos m = (stream.drop q).take m) : q = newest n stream.length pos := by
  have hnew := newest_lt (n := n) hpos
  have hcell := h _ hnew (le_newest_add hn)
  rw [newest_mod] at hcell
  have hlen : 0 < (slice n cells pos m).length := by simpa using hm
  have hfirst : (slice n cells pos m)[0] = stream[q] := by
    simp only [heq, List.getElem_take, List.getElem_drop, Nat.add_zero]
  have hsame : stream[q] = stream[newest n stream.length pos] := by
    rw [← hfirst, ← hcell]
    simp [slice]
  exact (List.Nodup.getElem_inj_iff hnodup).mp hsame

/-! ### Cells in classes

`P` says of a residue modulo `d`, a divisor of the number of cells, which values may be in the cells
of that residue. -/

section Classes

variable {d : Nat} {P : Nat → α → Prop}

/-- Each of the `n` cells holds a value that its residue modulo `d` allows. -/
def Classed (d n : Nat) (P : Nat → α → Prop) (cells : Nat → α) : Prop := ∀ i < n, P (i % d) (cells i)

/-- Values that are allowed at their own indices, put at a multiple of `d`, leave all cells
allowed. -/
theorem Puts.classed {pos : Nat} (h : Puts n cells cells' pos src) (hd : d ∣ n) (hpos : pos % d = 0)
    (hsrc : ∀ j (hj : j < src.length), P (j % d) src[j]) (hcells : Classed d n P cells) :
    Classed d n P cells' := by
  intro i hi
  by_cases hput : ∃ j, j < src.length ∧ (pos + j) % n = i
  · obtain ⟨j, hj, rfl⟩ := hput
    rw [h.put j hj, Nat.mod_mod_of_dvd _ hd, Nat.add_mod, hpos, Nat.zero_add, Nat.mod_mod]
    exact hsrc j hj
  · rw [h.keep i hi fun j hj heq => hput ⟨j, hj, heq⟩]
    exact hcells i hi

/-- What is read from a multiple of `d` on is allowed at its own indices. -/
theorem Classed.slice {pos m : Nat} (h : Classed d n P cells) (hd : d ∣ n) (hn : 0 < n)
    (hpos : pos % d = 0) (j : Nat) (hj : j < (slice n cells pos m).length) :
    P (j % d) (Window.slice n cells pos m)[j] := by
  have hcell := h _ (Nat.mod_lt (pos + j) hn)
  rw [Nat.mod_mod_of_dvd _ hd, Nat.add_mod, hpos, Nat.zero_add, Nat.mod_mod] at hcell
  simpa [Window.slice] using hcell

end Classes

end Sdrgg.ProofKit.Window
