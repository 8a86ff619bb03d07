import Mathlib.Tactic.Common
import Mathlib.Tactic.IntervalCases

/-! Numbers in text: integers as `printf` writes them in decimal and in hexadecimal, and as `strtol` and
`scanf` read them back. -/

namespace Sdrgg.ProofKit

/-- `isspace`. -/
def isSpace (c : Char) : Bool := c = ' ' || ('\t' ≤ c && c ≤ '\r')

/-- The value of a digit, with the letters of either case after the decimal ones. -/
def digitValue (c : Char) : Nat :=
  if c.isDigit then c.toNat - 48
  else if c.isLower then c.toNat - 87
  else if c.isUpper then c.toNat - 55
  else 36

def isDigitOf (base : Nat) (c : Char) : Bool := digitValue c < base

/-- The number that digits stand for, the first one the most significant. -/
def numeral (base : Nat) (digits : List Char) : Nat :=
  digits.foldl (fun acc c => base * acc + digitValue c) 0

/-- The number at the beginning of a text, which has at least one digit, and the text after it. -/
def scanNat (base : Nat) (s : List Char) : Option (Nat × List Char) :=
  let digits := s.takeWhile (isDigitOf base)
  if digits = [] then none else some (numeral base digits, s.dropWhile (isDigitOf base))

/-- Whether a minus sign begins the text, and the text after the sign. -/
def splitSign : List Char → Bool × List Char
  | '-' :: s => (true, s)
  | '+' :: s => (false, s)
  | s => (false, s)

/-- The decimal integer at the beginning of a text, after blanks and a sign, which may be missing, and
the text after it. -/
def scanInt (s : List Char) : Option (Int × List Char) :=
  let (negative, s) := splitSign (s.dropWhile isSpace)
  (scanNat 10 s).map fun (n, rest) => (if negative then -(n : Int) else n, rest)

/-- The text without the prefix of hexadecimal numbers. -/
def skipHexPrefix : List Char → List Char
  | '0' :: 'x' :: s | '0' :: 'X' :: s => s
  | s => s

/-- A number with zeros in front up to a width. -/
def printNat (base width n : Nat) : List Char :=
  List.replicate (width - (Nat.toDigits base n).length) '0' ++ Nat.toDigits base n

/-- The conversion `%0` width `d`.  The sign counts for the width. -/
def printInt (width : Nat) (x : Int) : List Char :=
  if x < 0 then '-' :: printNat 10 (width - 1) x.natAbs else printNat 10 width x.toNat

section Digits

variable {base width n : Nat} {rest : List Char}

theorem digitValue_digitChar (h : n < 16) : digitValue n.digitChar = n := by
  interval_cases n <;> rfl

theorem numeral_append (digits : List Char) (c : Char) :
    numeral base (digits ++ [c]) = base * numeral base digits + digitValue c := by
  simp [numeral]

theorem numeral_zeros (digits : List Char) (k : Nat) :
    numeral base (List.replicate k '0' ++ digits) = numeral base digits := by
  induction k with
  | zero => rfl
  | succ k ih =>
    rw [← ih, numeral, numeral, List.replicate_succ, List.cons_append, List.foldl_cons]
    rfl

/-- The digits of a number, and what they stand for. -/
theorem toDigits_spec (hbase : 1 < base) (hle : base ≤ 16) (n : Nat) :
    (∀ c ∈ Nat.toDigits base n, isDigitOf base c = true) ∧ numeral base (Nat.toDigits base n) = n := by
  induction n using Nat.strong_induction_on with
  | _ n ih =>
  have hdigit {d : Nat} (hd : d < base) : digitValue d.digitChar = d :=
    digitValue_digitChar (by omega)
  by_cases hsmall : n < base
  · rw [Nat.toDigits_of_lt_base hsmall]
    simp [isDigitOf, numeral, hdigit hsmall, hsmall]
  · have hmod := Nat.mod_lt n (show 0 < base by omega)
    obtain ⟨hall, hvalue⟩ := ih (n / base) (Nat.div_lt_self (by omega) hbase)
    rw [Nat.toDigits_of_base_le hbase (by omega)]
    refine ⟨fun c hc => ?_, ?_⟩
    · obtain hc | hc := List.mem_append.mp hc
      · exact hall c hc
      · obtain rfl := List.mem_singleton.mp hc
        simp [isDigitOf, hdigit hmod, hmod]
    · rw [numeral_append, hvalue, hdigit hmod, Nat.div_add_mod]

theorem printNat_ne_nil : printNat base width n ≠ [] := by
  simp [printNat]

theorem isDigitOf_of_mem_printNat (hbase : 1 < base) (hle : base ≤ 16) {c : Char}
    (hc : c ∈ printNat base width n) : isDigitOf base c = true := by
  obtain hc | hc := List.mem_append.mp hc
  · rw [List.eq_of_mem_replicate hc]
    exact decide_eq_true (Nat.lt_of_lt_of_le Nat.zero_lt_one (Nat.le_of_lt hbase))
  · exact (toDigits_spec hbase hle n).1 c hc

/-- A number takes its width, or as many digits as it has. -/
theorem length_printNat_le (hbase : 1 < base) {k : Nat} (hk : 0 < k) (hwidth : width ≤ k)
    (hn : n < base ^ k) : (printNat base width n).length ≤ k := by
  have hdigits := (Nat.length_toDigits_le_iff hbase hk).mpr hn
  simp only [printNat, List.length_append, List.length_replicate]
  omega

/-- Reading back what `printf` has written gives the number and the text after it. -/
theorem scanNat_printNat (hbase : 1 < base) (hle : base ≤ 16)
    (hrest : ∀ c ∈ rest.head?, isDigitOf base c = false) :
    scanNat base (printNat base width n ++ rest) = some (n, rest) := by
  have hall : ∀ c ∈ printNat base width n, isDigitOf base c = true :=
    fun c => isDigitOf_of_mem_printNat hbase hle
  have hends : rest.takeWhile (isDigitOf base) = [] ∧ rest.dropWhile (isDigitOf base) = rest := by
    cases rest with
    | nil => simp
    | cons c rest => simp [hrest c rfl]
  have hvalue : numeral base (printNat base width n) = n := by
    rw [printNat, numeral_zeros, (toDigits_spec hbase hle n).2]
  simp only [scanNat, List.takeWhile_append_of_pos hall, List.dropWhile_append_of_pos hall, hends,
    List.append_nil, if_neg printNat_ne_nil, hvalue]

end Digits

section Signs

variable {width : Nat} {rest : List Char}

/-- A digit is no blank and no sign. -/
theorem splitSign_of_isDigitOf {base : Nat} {c : Char} (hle : base ≤ 36) (h : isDigitOf base c = true)
    (s : List Char) : splitSign ((c :: s).dropWhile isSpace) = (false, c :: s) := by
  have hne {d : Char} (hd : digitValue d = 36) : c ≠ d := by
    rintro rfl
    have h := of_decide_eq_true h
    omega
  have hspace : isSpace c = false := by
    by_contra hspace
    rw [Bool.not_eq_false, isSpace, Bool.or_eq_true, Bool.and_eq_true] at hspace
    simp only [decide_eq_true_eq, Char.le_def] at hspace
    obtain rfl | ⟨hlow, hhigh⟩ := hspace
    · exact hne (by decide) rfl
    · have hrange : 9 ≤ c.toNat ∧ c.toNat ≤ 13 := ⟨hlow, hhigh⟩
      have hchar : c = Char.ofNat c.toNat := c.ofNat_toNat.symm
      obtain ⟨hlow, hhigh⟩ := hrange
      interval_cases hc : c.toNat <;> exact hne (by decide) hchar
  rw [List.dropWhile_cons_of_neg (by simp [hspace]), splitSign]
  · exact fun _ heq => hne (by decide) (List.cons.inj heq).1
  · exact fun _ heq => hne (by decide) (List.cons.inj heq).1

theorem scanInt_printInt (x : Int) (hrest : ∀ c ∈ rest.head?, isDigitOf 10 c = false) :
    scanInt (printInt width x ++ rest) = some (x, rest) := by
  by_cases hneg : x < 0
  · have hsplit : splitSign ((printInt width x ++ rest).dropWhile isSpace) =
        (true, printNat 10 (width - 1) x.natAbs ++ rest) := by
      rw [printInt, if_pos hneg]
      rfl
    simp only [scanInt, hsplit, scanNat_printNat (by decide) (by decide) hrest, Option.map_some,
      if_true]
    rw [show -(x.natAbs : Int) = x by omega]
  · have hsplit : splitSign ((printInt width x ++ rest).dropWhile isSpace) =
        (false, printNat 10 width x.toNat ++ rest) := by
      rw [printInt, if_neg hneg]
      have hne : printNat 10 width x.toNat ≠ [] := printNat_ne_nil
      obtain ⟨c, s, hcons⟩ := List.exists_cons_of_ne_nil hne
      have hc : isDigitOf 10 c = true :=
        isDigitOf_of_mem_printNat (by decide) (by decide) (hcons ▸ List.mem_cons_self)
      rw [hcons, List.cons_append, splitSign_of_isDigitOf (by decide) hc]
    simp only [scanInt, hsplit, scanNat_printNat (by decide) (by decide) hrest, Option.map_some,
      Bool.false_eq_true, if_false]
    rw [show (x.toNat : Int) = x by omega]

end Signs

end Sdrgg.ProofKit
