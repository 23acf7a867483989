import MeshOnboard.Text.Numeral
import Mathlib.Algebra.Group.Nat.Defs
import Mathlib.Data.List.Induction
import Mathlib.Tactic.Use

/-!
# Numerals are read back

The numeral of a number has this number as its value, in every base and with any way of writing the
single digits; zeros in front of it make no difference.  So numbers with the same numeral are the
same.  The texts that are read in base ten are those made of digits, and each is the numeral of its
value with zeros in front.
-/

namespace MeshOnboard.Numeral

/-- A numeral whose digits are written so that they can be told apart has the value it was made
from. -/
theorem readFrom?_map_toDigits {b : Nat} (hb : 1 < b) {write : Char → Char}
    (digits : ∀ d < b, digit? b (write d.digitChar) = some d) (n : Nat) :
  readFrom? b 0 ((Nat.toDigits b n).map write) = some n
  := by
  induction n using Nat.base_induction b hb with
  | single d hd =>
    rw [Nat.toDigits_of_lt_base hd]
    simp [readFrom?, digits d hd]
  | digit m d hd hm ih =>
    rw [← Nat.toDigits_append_toDigits hb hm hd, List.map_append, readFrom?_append, ih,
      Nat.toDigits_of_lt_base hd]
    simp [readFrom?, digits d hd]

theorem readFrom?_replicate_zero {b : Nat} (hb : 0 < b) (k : Nat) (cs : List Char) :
  readFrom? b 0 (List.replicate k '0' ++ cs) = readFrom? b 0 cs
  := by
  induction k with
  | zero => rfl
  | succ k ih =>
    have zero : digit? b '0' = some 0 := by simp [digit?, hb]
    simpa [List.replicate_succ, readFrom?, zero] using ih

theorem read?_of_ne_nil (b : Nat) {cs : List Char} (h : cs ≠ []) :
  read? b cs = readFrom? b 0 cs
  := by
  cases cs with
  | nil => exact absurd rfl h
  | cons c cs => rfl

/-- The decimal numeral of a number has its value. -/
theorem read?_decimal (n : Nat) :
  read? 10 (decimal n) = some n
  := by
  rw [decimal, read?_of_ne_nil 10 Nat.toDigits_ne_nil, ← List.map_id (Nat.toDigits 10 n)]
  apply readFrom?_map_toDigits (by decide)
  decide

theorem length_decimal_le {n k : Nat} (hk : 0 < k) (h : n < 10 ^ k) :
  (decimal n).length ≤ k
  := (Nat.length_toDigits_le_iff (by decide) hk).2 h

/-- The decimal numeral of a positive number does not start with a zero. -/
theorem head?_decimal_ne_zero {n : Nat} (h : 0 < n) :
  (decimal n).head? ≠ some '0'
  := by
  unfold decimal
  induction n using Nat.base_induction 10 (by decide) with
  | single d hd =>
    simp [Nat.toDigits_of_lt_base hd]
    omega
  | digit m d hd hm ih =>
    rw [← Nat.toDigits_append_toDigits (by decide) hm hd, List.head?_append]
    cases first : (Nat.toDigits 10 m).head? with
    | none => simp at first
    | some c => simpa [first] using ih hm

/-- A decimal numeral that starts with a zero has no other digit. -/
theorem length_decimal_of_head?_eq_zero {n : Nat} (h : (decimal n).head? = some '0') :
  (decimal n).length = 1
  := by
  obtain rfl | positive := Nat.eq_zero_or_pos n
  · rfl
  · exact absurd h (head?_decimal_ne_zero positive)

theorem isDigit_of_mem_decimal {n : Nat} {c : Char} (h : c ∈ decimal n) :
  c.isDigit
  := Nat.isDigit_of_mem_toDigits (by decide) (by decide) h

theorem below?_decimal {bound n : Nat} (h : n < bound) :
  below? bound (decimal n) = some n
  := by
  simp [below?, read?_decimal, h]

/-- A decimal numeral of its own has no sign. -/
theorem dropPlus_decimal (n : Nat) :
  dropPlus (decimal n) = decimal n
  := by
  unfold dropPlus
  split
  · next cs signed =>
    have plus : '+' ∈ decimal n := signed ▸ List.mem_cons_self
    exact absurd (isDigit_of_mem_decimal plus) (by decide)
  · rfl

theorem count?_decimal {bound n : Nat} (h : n < bound) :
  count? bound (decimal n) = some n
  := by
  rw [count?, dropPlus_decimal, below?_decimal h]

theorem lt_of_count? {bound n : Nat} {cs : List Char} (h : count? bound cs = some n) :
  n < bound
  := by
  simpa using (Option.filter_eq_some_iff.1 h).2

/-! ### Texts that are decimal numerals -/

/-- Decimal digits, at least one, that stand for `n`. -/
structure IsDecimal (cs : List Char) (n : Nat) : Prop where
  ne_nil : cs ≠ []
  isDigit : ∀ c ∈ cs, c.isDigit
  value : Nat.ofDigitChars 10 cs 0 = n

theorem digit?_eq_some_iff {c : Char} {d : Nat} :
  digit? 10 c = some d ↔ c.isDigit ∧ c.toNat - '0'.toNat = d
  := by
  have le_iff {x y : Char} : x ≤ y ↔ x.toNat ≤ y.toNat := UInt32.le_iff_toNat_le
  simp only [digit?, Char.isDigit_iff_toNat, le_iff, Option.ite_none_right_eq_some,
    Option.some.injEq, Char.reduceToNat]
  -- letters stand for ten and above
  split
  · omega
  · split
    · omega
    · split
      · omega
      · omega

theorem readFrom?_eq_some_iff {acc n : Nat} {cs : List Char} :
  readFrom? 10 acc cs = some n ↔ (∀ c ∈ cs, c.isDigit) ∧ Nat.ofDigitChars 10 cs acc = n
  := by
  induction cs generalizing acc with
  | nil => simp
  | cons c cs ih =>
    rw [readFrom?, List.forall_mem_cons, Nat.ofDigitChars_cons]
    cases value : digit? 10 c with
    | none =>
      have noDigit : ¬ c.isDigit := by
        intro digit
        rw [digit?_eq_some_iff.2 ⟨digit, rfl⟩] at value
        contradiction
      simp [noDigit]
    | some d =>
      obtain ⟨digit, rfl⟩ := digit?_eq_some_iff.1 value
      simp [digit, ih]

/-- A text has a decimal value exactly if it is made of digits. -/
theorem read?_eq_some_iff {cs : List Char} {n : Nat} :
  read? 10 cs = some n ↔ IsDecimal cs n
  := by
  constructor
  · intro value
    have some : cs ≠ [] := by
      rintro rfl
      contradiction
    rw [read?_of_ne_nil 10 some, readFrom?_eq_some_iff] at value
    exact ⟨some, value.1, value.2⟩
  · intro h
    rw [read?_of_ne_nil 10 h.ne_nil, readFrom?_eq_some_iff]
    exact ⟨h.isDigit, h.value⟩

theorem below?_eq_some_iff {bound n : Nat} {cs : List Char} :
  below? bound cs = some n ↔ IsDecimal cs n ∧ n < bound
  := by
  simp [below?, Option.filter_eq_some_iff, read?_eq_some_iff]

theorem digit_lt_ten {c : Char} (h : c.isDigit) :
  c.toNat - '0'.toNat < 10
  := by
  have bounds := Char.isDigit_iff_toNat.1 h
  simp only [Char.reduceToNat] at bounds ⊢
  omega

/-- A digit is the numeral of what it stands for. -/
theorem decimal_of_isDigit {c : Char} (h : c.isDigit) :
  decimal (c.toNat - '0'.toNat) = [c]
  := by
  have bounds := Char.isDigit_iff_toNat.1 h
  rw [decimal, Nat.toDigits_of_lt_base (digit_lt_ten h), List.singleton_inj, ← Char.toNat_inj,
    Nat.toNat_digitChar_of_lt_ten (digit_lt_ten h)]
  simp only [Char.reduceToNat] at bounds ⊢
  omega

/-- A text that is made of digits is the numeral of its value with zeros in front. -/
theorem IsDecimal.exists_eq {cs : List Char} {n : Nat} (h : IsDecimal cs n) :
  ∃ k, cs = List.replicate k '0' ++ decimal n
  := by
  -- a digit that follows is one more digit of the numeral, unless there are only zeros before it
  induction cs using List.reverseRecOn generalizing n with
  | nil => exact absurd rfl h.ne_nil
  | append_singleton cs c ih =>
    have digit : c.isDigit := h.isDigit c (by simp)
    have digits : ∀ c ∈ cs, c.isDigit := fun c mem => h.isDigit c (List.mem_append_left _ mem)
    have value := h.value
    rw [Nat.ofDigitChars_append, Nat.ofDigitChars_cons, Nat.ofDigitChars_nil] at value
    by_cases first : cs = []
    · use 0
      rw [first, Nat.ofDigitChars_nil, Nat.mul_zero, Nat.zero_add] at value
      rw [first, ← value, decimal_of_isDigit digit]
      rfl
    · obtain ⟨k, same⟩ := ih ⟨first, digits, rfl⟩
      generalize Nat.ofDigitChars 10 cs 0 = m at same value
      obtain rfl | positive := Nat.eq_zero_or_pos m
      · use k + 1
        rw [Nat.mul_zero, Nat.zero_add] at value
        rw [same, ← value, decimal_of_isDigit digit, List.replicate_succ']
        rfl
      · use k
        rw [same, List.append_assoc, ← decimal_of_isDigit digit, decimal, decimal,
          Nat.toDigits_append_toDigits (by decide) positive (digit_lt_ten digit), value, decimal]

/-- Digits have no sign. -/
theorem IsDecimal.dropPlus_eq {cs : List Char} {n : Nat} (h : IsDecimal cs n) :
  dropPlus cs = cs
  := by
  unfold dropPlus
  split
  · next rest => exact absurd (h.isDigit '+' List.mem_cons_self) (by decide)
  · rfl

/-- A count is written in digits, maybe with a plus sign in front of them. -/
theorem count?_eq_some_iff {bound n : Nat} {cs : List Char} :
  count? bound cs = some n ↔
    n < bound ∧
    ∃ sign digits, cs = sign ++ digits ∧ (sign = [] ∨ sign = ['+']) ∧ IsDecimal digits n
  := by
  rw [count?, below?_eq_some_iff]
  constructor
  · rintro ⟨decimal, small⟩
    use small
    unfold dropPlus at decimal
    split at decimal
    · next digits => exact ⟨['+'], digits, rfl, .inr rfl, decimal⟩
    · exact ⟨[], cs, rfl, .inl rfl, decimal⟩
  · rintro ⟨small, sign, digits, rfl, rfl | rfl, decimal⟩
    · rw [List.nil_append, decimal.dropPlus_eq]
      exact ⟨decimal, small⟩
    · exact ⟨decimal, small⟩

/-! ### Numerals of zero -/

/-- The text is a numeral of nothing but zeros, which may start with a plus sign. -/
def IsZero (cs : List Char) : Prop :=
  dropPlus cs ≠ [] ∧ ∀ c ∈ dropPlus cs, c = '0'

theorem digit?_eq_zero_iff {b : Nat} (hb : 0 < b) {c : Char} :
  digit? b c = some 0 ↔ c = '0'
  := by
  constructor
  · intro value
    simp only [digit?, Option.ite_none_right_eq_some, Option.some.injEq] at value
    obtain ⟨below, zero⟩ := value
    have code_le {x : Char} (h : x ≤ c) : x.toNat ≤ c.toNat := UInt32.le_iff_toNat_le.1 h
    split at zero
    · next digit =>
      have : 48 ≤ c.toNat := code_le digit.1
      apply Char.toNat_inj.1
      change c.toNat = 48
      omega
    · split at zero
      · next letter =>
        have : 97 ≤ c.toNat := code_le letter.1
        omega
      · split at zero
        · next letter =>
          have : 65 ≤ c.toNat := code_le letter.1
          omega
        · omega
  · rintro rfl
    simp [digit?, hb]

theorem readFrom?_eq_zero_iff {b : Nat} (hb : 0 < b) {acc : Nat} {cs : List Char} :
  readFrom? b acc cs = some 0 ↔ acc = 0 ∧ ∀ c ∈ cs, c = '0'
  := by
  induction cs generalizing acc with
  | nil => simp
  | cons c cs ih =>
    rw [readFrom?, List.forall_mem_cons, ← digit?_eq_zero_iff hb]
    cases value : digit? b c with
    | none => simp
    | some d =>
      simp only [ih, Option.some.injEq]
      have sum : b * acc + d = 0 ↔ acc = 0 ∧ d = 0 := by
        rw [Nat.add_eq_zero_iff, Nat.mul_eq_zero]
        omega
      rw [sum, and_assoc]

/-- A count is zero exactly if it is written in zeros. -/
theorem count?_eq_zero_iff {bound : Nat} (positive : 0 < bound) {cs : List Char} :
  count? bound cs = some 0 ↔ IsZero cs
  := by
  rw [count?, below?, Option.filter_eq_some_iff, IsZero]
  cases digits : dropPlus cs with
  | nil => simp [read?]
  | cons c cs =>
    rw [read?, readFrom?_eq_zero_iff (by decide)]
    simp [positive]

/-! ### Hexadecimal numerals -/

/-- The hexadecimal numeral of a number has its value. -/
theorem read?_hexadecimal (n : Nat) :
  read? 16 (hexadecimal n) = some n
  := by
  rw [hexadecimal, read?_of_ne_nil 16 Nat.toDigits_ne_nil, ← List.map_id (Nat.toDigits 16 n)]
  apply readFrom?_map_toDigits (by decide)
  decide

theorem length_hexadecimal_le {n k : Nat} (hk : 0 < k) (h : n < 16 ^ k) :
  (hexadecimal n).length ≤ k
  := (Nat.length_toDigits_le_iff (by decide) hk).2 h

/-- What is read as a numeral consists of digits. -/
theorem isSome_digit?_of_readFrom? {b acc n : Nat} {cs : List Char}
    (h : readFrom? b acc cs = some n) {c : Char} (hc : c ∈ cs) :
  (digit? b c).isSome
  := by
  induction cs generalizing acc with
  | nil => contradiction
  | cons first cs ih =>
    rw [readFrom?] at h
    cases value : digit? b first with
    | none => simp [value] at h
    | some d =>
      rcases List.mem_cons.1 hc with rfl | later
      · simp [value]
      · simp only [value] at h
        exact ih h later

theorem read?_eq_none_of_mem {b : Nat} {cs : List Char} {c : Char} (hc : c ∈ cs)
    (h : digit? b c = none) :
  read? b cs = none
  := by
  rw [read?_of_ne_nil b (List.ne_nil_of_mem hc), Option.eq_none_iff_forall_ne_some]
  intro n value
  simpa [h] using isSome_digit?_of_readFrom? value hc

theorem not_mem_hexadecimal {n : Nat} {c : Char} (h : digit? 16 c = none) :
  c ∉ hexadecimal n
  := by
  intro hc
  have value := read?_eq_none_of_mem hc h
  rw [read?_hexadecimal] at value
  contradiction

end MeshOnboard.Numeral
