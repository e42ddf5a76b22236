/-
Numbers of a document, written and read back.

Every number that has no name is written as a **numeral**: digits, perhaps a
point with more digits, perhaps a signed power of ten. The reader takes a
numeral whole, because what follows it in a document is a comma, a bracket or a
blank. So an integer comes back as it was, unless it has too many digits, and a
float comes back as a float.

Main statements: `readNumber_text`, `reads_int` and `exists_reads_float`.
-/
import Mathlib.Data.List.TakeDrop
import ModuleLinks.Proofs.ValueReading

set_option autoImplicit false

namespace ModuleLinks.Json

/-! ## Digits -/

/-- **Digits and nothing else.** -/
def IsDigits (s : List Char) : Prop := ∀ c ∈ s, c.isDigit = true

theorem IsDigits.append {s t : List Char} (hs : IsDigits s) (ht : IsDigits t) : IsDigits (s ++ t) :=
  List.forall_mem_append.2 ⟨hs, ht⟩

theorem isDigits_replicate_zero (n : ℕ) : IsDigits (List.replicate n '0') := by
  intro c hc
  rw [List.eq_of_mem_replicate hc]
  rfl

theorem isDigits_toDigits (n : ℕ) : IsDigits (Nat.toDigits 10 n) := fun _ hc =>
  Nat.isDigit_of_mem_toDigits (by decide) (by decide) hc

/-- The digits of a positive number begin with a digit other than zero. -/
theorem head_toDigits {n : ℕ} (hn : 0 < n) :
    ∃ c digits, Nat.toDigits 10 n = c :: digits ∧ c ≠ '0' := by
  induction n using Nat.strongRecOn with
  | ind n ih =>
    by_cases hlt : n < 10
    · refine ⟨Nat.digitChar n, [], Nat.toDigits_of_lt_base hlt, ?_⟩
      rw [ne_eq, Nat.digitChar_eq_zero]
      omega
    · obtain ⟨c, digits, hdigits, hc⟩ := ih (n / 10) (by omega) (by omega)
      refine ⟨c, digits ++ [Nat.digitChar (n % 10)], ?_, hc⟩
      rw [Nat.toDigits_of_base_le (by decide) (by omega), hdigits, List.cons_append]

/-- The digits of a number denote it. -/
theorem decimalValue_toDigits (n : ℕ) : decimalValue (Nat.toDigits 10 n) = n := by
  have h : Nat.ofDigitChars 10 (Nat.toDigits 10 n) 0 = n := Nat.ofDigitChars_ten_toDigits
  rwa [Nat.ofDigitChars_eq_foldl] at h

/-! ## What stands behind a part of a numeral -/

/-- The document goes on with none of these characters. -/
def Avoids (p : Char → Prop) (s : List Char) : Prop := ∀ c ∈ s.head?, ¬ p c

theorem avoids_cons {p : Char → Prop} {c : Char} (h : ¬ p c) (s : List Char) :
    Avoids p (c :: s) := by
  intro d hd
  rw [List.head?_cons, Option.mem_def, Option.some.injEq] at hd
  rwa [← hd]

/-- A character that a numeral could go on with. -/
def Continues (c : Char) : Prop := c.isDigit = true ∨ c = '.' ∨ c = 'e' ∨ c = 'E'

/-- Behind a value no numeral goes on. -/
theorem avoids_of_follows {s : List Char} (h : Follows s) : Avoids Continues s := by
  intro c hc
  unfold Continues
  rcases h c hc with rfl | rfl | rfl | hgap
  · decide
  · decide
  · decide
  · simp only [isGap, Bool.or_eq_true, beq_iff_eq] at hgap
    rcases hgap with ((rfl | rfl) | rfl) | rfl <;> decide

theorem Avoids.mono {p q : Char → Prop} {s : List Char} (h : Avoids p s) (hpq : ∀ c, q c → p c) :
    Avoids q s := fun c hc hq => h c hc (hpq c hq)

/-- **Digits are read as far as they go.** -/
theorem spanDigits_append {digits rest : List Char} (h : IsDigits digits)
    (hrest : Avoids (fun c => c.isDigit = true) rest) :
    spanDigits (digits ++ rest) = (digits, rest) := by
  have hstop : rest.takeWhile Char.isDigit = [] ∧ rest.dropWhile Char.isDigit = rest := by
    cases rest with
    | nil => simp
    | cons c rest =>
      have hc : c.isDigit = false := Bool.eq_false_iff.2 (hrest c rfl)
      simp [hc]
  rw [spanDigits, List.span_eq_takeWhile_dropWhile, List.takeWhile_append_of_pos h,
    List.dropWhile_append_of_pos h, hstop.1, hstop.2, List.append_nil]

/-- A whole part that begins with another digit than zero is read to its end. -/
theorem readWhole_cons {c : Char} {digits rest : List Char} (h : IsDigits (c :: digits))
    (hc : c ≠ '0') (hrest : Avoids (fun c => c.isDigit = true) rest) :
    readWhole (c :: digits ++ rest) = some (c :: digits, rest) := by
  rw [List.cons_append, readWhole, ← List.cons_append, spanDigits_append h hrest]
  rintro tail htail
  exact hc (List.cons.inj htail).1

theorem readFraction_of_avoids {s : List Char} (h : Avoids (fun c => c = '.') s) :
    readFraction s = ([], s) := by
  unfold readFraction
  split
  · exact absurd rfl (h '.' rfl)
  · rfl

/-- The digits behind a point are the fraction. -/
theorem readFraction_point {digits rest : List Char} (h : IsDigits digits) (hne : digits ≠ [])
    (hrest : Avoids (fun c => c.isDigit = true) rest) :
    readFraction ('.' :: digits ++ rest) = (digits, rest) := by
  obtain ⟨c, digits, rfl⟩ := List.exists_cons_of_ne_nil hne
  rw [List.cons_append, readFraction, spanDigits_append h hrest]

theorem readExponent_of_avoids {s : List Char} (h : Avoids (fun c => c = 'e' ∨ c = 'E') s) :
    readExponent s = none := by
  unfold readExponent
  split
  · exact absurd (.inl rfl) (h 'e' rfl)
  · exact absurd (.inr rfl) (h 'E' rfl)
  · exact absurd (.inl rfl) (h 'e' rfl)
  · exact absurd (.inr rfl) (h 'E' rfl)
  · exact absurd (.inl rfl) (h 'e' rfl)
  · exact absurd (.inr rfl) (h 'E' rfl)
  · rfl

/-- The sign of a power of ten. -/
def powerSign (negative : Bool) : Char := if negative then '-' else '+'

/-- The digits behind an `e` and a sign are the exponent, with that sign. -/
theorem readExponent_signed (negative : Bool) {digits rest : List Char} (h : IsDigits digits)
    (hne : digits ≠ []) (hrest : Avoids (fun c => c.isDigit = true) rest) :
    readExponent ('e' :: powerSign negative :: digits ++ rest)
      = some (if negative then -(decimalValue digits : Int) else decimalValue digits, rest) := by
  have hpower : readPower negative (digits ++ rest)
      = some (if negative then -(decimalValue digits : Int) else decimalValue digits, rest) := by
    obtain ⟨c, digits, rfl⟩ := List.exists_cons_of_ne_nil hne
    rw [readPower, spanDigits_append h hrest]
  rw [← hpower]
  cases negative <;> rfl

/-! ## Numerals -/

/-- **A numeral**: the digits before the point, those after it, and the power of
ten with its sign. -/
structure Numeral where
  whole : List Char
  fraction : List Char := []
  power : Option (Bool × List Char) := none

namespace Numeral

/-- **A numeral of the grammar.** A zero in front stands alone. -/
structure WellFormed (n : Numeral) : Prop where
  whole : n.whole = ['0'] ∨ ∃ c digits, n.whole = c :: digits ∧ c ≠ '0'
  isDigits_whole : IsDigits n.whole
  isDigits_fraction : IsDigits n.fraction
  isDigits_power : ∀ power ∈ n.power, IsDigits power.2 ∧ power.2 ≠ []

/-- The fraction with its point; nothing where there are no digits after it. -/
def fractionText (n : Numeral) : List Char := if n.fraction = [] then [] else '.' :: n.fraction

/-- The exponent of a numeral as it is written, if it has one. -/
def powerText (n : Numeral) : List Char :=
  match n.power with
  | none => []
  | some (negative, digits) => 'e' :: powerSign negative :: digits

/-- **The text of a numeral.** -/
def text (n : Numeral) : List Char := n.whole ++ (n.fractionText ++ n.powerText)

/-- The numeral denotes an integer as it stands. -/
def IsWhole (n : Numeral) : Prop := n.fraction = [] ∧ n.power = none

/-- **What the reader makes of a numeral** behind its sign. -/
def value (negative : Bool) (n : Numeral) : Except ReadFault Json :=
  match n.power with
  | some (down, digits) =>
    .ok (.float (.ofDecimal negative (decimalValue (n.whole ++ n.fraction))
      ((if down then -(decimalValue digits : Int) else decimalValue digits) - n.fraction.length)))
  | none =>
    if n.fraction ≠ [] then
      .ok (.float (.ofDecimal negative (decimalValue (n.whole ++ n.fraction)) (-n.fraction.length)))
    else if n.whole.length > integerDigitLimit then .error .integerTooLong
    else .ok (.int (if negative then -(decimalValue n.whole : Int) else decimalValue n.whole))

/-- A numeral with a fraction or an exponent is no integer. -/
theorem value_of_not_isWhole {n : Numeral} (h : ¬ n.IsWhole) (negative : Bool) :
    ∃ x, n.value negative = .ok (.float x) := by
  unfold value
  cases hpower : n.power with
  | some power => exact ⟨_, rfl⟩
  | none =>
    have hfraction : n.fraction ≠ [] := fun hnil => h ⟨hnil, hpower⟩
    exact ⟨_, if_pos hfraction⟩

/-- A numeral begins with a digit. -/
theorem WellFormed.exists_text_eq {n : Numeral} (h : n.WellFormed) :
    ∃ c rest, n.text = c :: rest ∧ c.isDigit = true := by
  rcases h.whole with hzero | ⟨c, digits, hdigits, -⟩
  · exact ⟨'0', n.fractionText ++ n.powerText, by rw [text, hzero, List.singleton_append], rfl⟩
  · refine ⟨c, digits ++ (n.fractionText ++ n.powerText), by rw [text, hdigits, List.cons_append], ?_⟩
    apply h.isDigits_whole
    rw [hdigits]
    exact List.mem_cons_self

variable {n : Numeral} {rest : List Char}

/-- A power of ten does not go on like digits or like a fraction. -/
theorem avoids_powerText (hrest : Avoids Continues rest) :
    Avoids (fun c => c.isDigit = true ∨ c = '.') (n.powerText ++ rest) := by
  unfold powerText
  cases n.power with
  | none =>
    apply hrest.mono
    rintro c (hdigit | hpoint)
    · exact .inl hdigit
    · exact .inr (.inl hpoint)
  | some power => exact avoids_cons (by decide) _

/-- **A numeral is read** to its end. -/
theorem readNumber_text (h : n.WellFormed) (negative : Bool) (hrest : Avoids Continues rest) :
    readNumber negative (n.text ++ rest) = (n.value negative).map fun j => (j, rest) := by
  have hpower : Avoids (fun c => c.isDigit = true ∨ c = '.') (n.powerText ++ rest) :=
    avoids_powerText hrest
  have hfraction : readFraction (n.fractionText ++ (n.powerText ++ rest))
      = (n.fraction, n.powerText ++ rest) := by
    unfold fractionText
    by_cases hnil : n.fraction = []
    · rw [if_pos hnil, List.nil_append, hnil]
      exact readFraction_of_avoids (hpower.mono fun _ => .inr)
    · rw [if_neg hnil]
      exact readFraction_point h.isDigits_fraction hnil (hpower.mono fun _ => .inl)
  have hwhole : readWhole (n.text ++ rest)
      = some (n.whole, n.fractionText ++ (n.powerText ++ rest)) := by
    -- Behind the digits before the point stands the point, or what stands behind a fraction.
    have hstop : Avoids (fun c => c.isDigit = true) (n.fractionText ++ (n.powerText ++ rest)) := by
      unfold fractionText
      by_cases hnil : n.fraction = []
      · rw [if_pos hnil]
        exact hpower.mono fun _ => .inl
      · rw [if_neg hnil]
        exact avoids_cons (by decide) _
    have htext : n.text ++ rest = n.whole ++ (n.fractionText ++ (n.powerText ++ rest)) := by
      rw [text, List.append_assoc, List.append_assoc]
    have hdigits := h.isDigits_whole
    rw [htext]
    rcases h.whole with hzero | ⟨c, digits, hcons, hc⟩
    · rw [hzero]
      rfl
    · rw [hcons] at hdigits ⊢
      exact readWhole_cons hdigits hc hstop
  -- What is left to read is the power of ten, and its absence is seen from what follows.
  rw [readNumber, hwhole]
  simp only [hfraction]
  unfold value
  cases hp : n.power with
  | none =>
    have hnone : readExponent (n.powerText ++ rest) = none := by
      rw [powerText, hp]
      exact readExponent_of_avoids (hrest.mono fun _ he => .inr (.inr he))
    have hbehind : n.powerText ++ rest = rest := by rw [powerText, hp, List.nil_append]
    rw [hnone, hbehind]
    dsimp only
    split_ifs <;> rfl
  | some power =>
    obtain ⟨down, digits⟩ := power
    obtain ⟨hdigits, hne⟩ := h.isDigits_power _ hp
    have hsome := readExponent_signed down hdigits hne (hrest.mono fun _ => .inl)
    rw [powerText, hp, hsome]
    rfl

end Numeral

/-! ## Values that are words and values that are numerals -/

/-- **A value that is written as a word is read** as what the reader knows the
word for. -/
theorem reads_word {layout : Layout} {j k : Json} (word : List Char)
    (hj : ∀ depth, render layout depth j = word) (hopens : Opens word)
    (hread : ∀ fuel rest, readValue (fuel + 1) (word ++ rest) = .ok (k, rest)) :
    Reads layout j (.ok k) where
  opens depth := by rwa [hj]
  reads depth fuel rest _ hfuel := by
    obtain ⟨c, tail, hword, -⟩ := hopens
    rw [hj, hword, List.length_cons] at hfuel
    obtain ⟨fuel, rfl⟩ : ∃ n, fuel = n + 1 := ⟨fuel - 1, by omega⟩
    rw [hj, hread]
    rfl

/-- The minus sign of a negative number. -/
def sign (negative : Bool) : List Char := if negative then ['-'] else []

/-- A digit begins a number and no other value. -/
theorem readValue_digit {c : Char} (hc : c.isDigit = true) (fuel : ℕ) (s : List Char) :
    readValue (fuel + 1) (c :: s) = readNumber false (c :: s)
      ∧ readValue (fuel + 1) ('-' :: c :: s) = readNumber true (c :: s) := by
  have hne : ∀ d : Char, d.isDigit = false → c ≠ d := by
    rintro d hd rfl
    rw [hc] at hd
    cases hd
  constructor
  · rw [readValue]
    all_goals
      intros
      rename_i h
      exact hne _ rfl (List.cons.inj h).1
  · rw [readValue]
    intro after h
    exact hne 'I' rfl (List.cons.inj h).1

/-- **A value that is written as a numeral is read** as the numeral. -/
theorem reads_numeral {layout : Layout} {j : Json} {negative : Bool} {n : Numeral}
    (h : n.WellFormed) (hj : ∀ depth, render layout depth j = sign negative ++ n.text) :
    Reads layout j (n.value negative) where
  opens depth := by
    obtain ⟨c, rest, htext, hc⟩ := h.exists_text_eq
    have hne : ∀ d : Char, d.isDigit = false → c ≠ d := by
      rintro d hd rfl
      rw [hc] at hd
      cases hd
    rw [hj, htext]
    cases negative with
    | true => exact ⟨'-', c :: rest, rfl, rfl, by decide⟩
    | false =>
      refine ⟨c, rest, rfl, ?_, hne ']' rfl⟩
      simp [isGap, hne ' ' rfl, hne '\t' rfl, hne '\n' rfl, hne '\r' rfl]
  reads depth fuel rest hrest hfuel := by
    have hnumber := Numeral.readNumber_text h negative (avoids_of_follows hrest)
    obtain ⟨c, tail, htext, hc⟩ := h.exists_text_eq
    rw [hj, htext] at hfuel
    rw [hj, ← hnumber, htext]
    obtain ⟨fuel, rfl⟩ : ∃ n, fuel = n + 1 := by
      rw [List.length_append, List.length_cons] at hfuel
      exact ⟨fuel - 1, by omega⟩
    cases negative with
    | true => exact (readValue_digit hc fuel _).2
    | false => exact (readValue_digit hc fuel _).1

/-! ## Integers -/

/-- The digits of a natural number are a numeral. -/
theorem wellFormed_toDigits (n : ℕ) : Numeral.WellFormed ⟨Nat.toDigits 10 n, [], none⟩ where
  whole := by
    rcases Nat.eq_zero_or_pos n with rfl | hpos
    · exact .inl (Nat.toDigits_zero 10)
    · exact .inr (head_toDigits hpos)
  isDigits_whole := isDigits_toDigits n
  isDigits_fraction := by simp [IsDigits]
  isDigits_power := by simp

/-- An integer is written as a sign and the digits of its size. -/
theorem toList_toString (n : Int) :
    (toString n).toList = sign (decide (n < 0)) ++ Nat.toDigits 10 n.natAbs := by
  cases n with
  | ofNat m =>
    show (Nat.repr m).toList = _
    rw [Nat.toList_repr, sign, if_neg (by simp)]
    rfl
  | negSucc m =>
    show ("-" ++ Nat.repr (m + 1)).toList = _
    rw [String.toList_append, Nat.toList_repr, sign, if_pos (by simp)]
    rfl

/-- **An integer is read back**, unless it has too many digits. -/
theorem reads_int (layout : Layout) (n : Int) :
    Reads layout (.int n)
      (if (Nat.toDigits 10 n.natAbs).length > integerDigitLimit then .error .integerTooLong
        else .ok (.int n)) := by
  have hread : Reads layout (.int n)
      (Numeral.value (decide (n < 0)) ⟨Nat.toDigits 10 n.natAbs, [], none⟩) := by
    apply reads_numeral (wellFormed_toDigits n.natAbs)
    intro depth
    rw [render, toList_toString, Numeral.text, Numeral.fractionText, Numeral.powerText]
    simp
  have hvalue : (if decide (n < 0) = true then -(decimalValue (Nat.toDigits 10 n.natAbs) : Int)
      else decimalValue (Nat.toDigits 10 n.natAbs)) = n := by
    simp only [decimalValue_toDigits, decide_eq_true_eq]
    split_ifs <;> omega
  simpa only [Numeral.value, ne_eq, not_true, if_false, hvalue] using hread

end ModuleLinks.Json

namespace ModuleLinks

/-! ## Floats -/

namespace Decimal

/-- **A decimal that a float is written as**: a positive one, or zero without a
power of ten. -/
def IsWritten (d : Decimal) : Prop := 0 < d.digits ∨ d = ⟨0, 0⟩

/-- Leaving out zeros at the end leaves a digit other than zero. -/
theorem isWritten_withoutZeros {d : Decimal} (h : d.IsWritten) (fuel : ℕ) :
    (withoutZeros fuel d).IsWritten := by
  fun_induction withoutZeros fuel d with
  | case1 d => exact h
  | case2 fuel d hzero ih =>
    apply ih
    have hdigits : 0 < d.digits / 10 := by omega
    exact .inl hdigits
  | case3 fuel d hzero => exact h

/-- No interval around a positive number holds zero. -/
theorem not_holds_zero {x : Binary64} (hx : 0 < x.significand) :
    (roundingInterval x).holds 0 = false := by
  have hpow : ∀ k, 0 < Nat.pow 10 k := fun k => Nat.pow_pos (by decide)
  have hunit : 0 < unit x.exponent := Nat.mul_pos (Nat.pow_pos (by decide)) (hpow 400)
  have hlow : 0 < (roundingInterval x).low := by
    unfold roundingInterval
    apply Nat.mul_pos _ hunit
    split_ifs <;> omega
  unfold Interval.holds
  split_ifs
  · simp only [Bool.and_eq_false_iff, decide_eq_false_iff_not]
    omega
  · simp only [Bool.and_eq_false_iff, decide_eq_false_iff_not]
    omega

/-- A candidate that stands for a number other than zero has a digit other than zero. -/
theorem candidate?_pos {interval : Interval} (h : interval.holds 0 = false)
    {value gridStep digits : ℕ} (hc : candidate? interval value gridStep = some digits) :
    0 < digits := by
  -- The lower neighbour is put forward only where the interval holds it.
  have hbelow : interval.holds (value / gridStep * gridStep) = true → 0 < value / gridStep := by
    intro hholds
    rw [Nat.pos_iff_ne_zero]
    intro hzero
    rw [hzero, Nat.zero_mul, h] at hholds
    cases hholds
  unfold candidate? at hc
  dsimp only at hc
  split at hc
  · next hdown _ =>
    have := hbelow hdown
    rw [Option.some.injEq] at hc
    split_ifs at hc <;> omega
  · next hdown _ =>
    obtain rfl := Option.some.inj hc
    exact hbelow hdown
  · obtain rfl := Option.some.inj hc
    exact Nat.succ_pos _
  · cases hc

/-- **The shortest decimal is one that can be written**, with digits in front and behind the
point. -/
theorem isWritten_shortest {x : Binary64} (hx : 0 < x.significand) : (shortest x).IsWritten := by
  unfold shortest
  apply isWritten_withoutZeros
  cases hfound : List.findSome? _ (List.range 17) with
  | none => exact .inr rfl
  | some d =>
    obtain ⟨more, _, hd⟩ := List.exists_of_findSome?_eq_some hfound
    obtain ⟨digits, hdigits, rfl⟩ := Option.map_eq_some_iff.1 hd
    exact .inl (candidate?_pos (not_holds_zero hx) hdigits)

end Decimal

namespace Binary64

open Json

/-- A number other than zero has a positive significand. -/
theorem significand_pos {x : Binary64} (h : x.isZero = false) : 0 < x.significand := by
  unfold significand
  by_cases hfield : x.exponentField = 0
  · rw [if_pos hfield]
    simp only [isZero, hfield, BEq.rfl, Bool.true_and, beq_eq_false_iff_ne] at h
    exact Nat.pos_of_ne_zero h
  · rw [if_neg hfield]
    exact Nat.add_pos_right _ (Nat.pow_pos (by decide))

section Forms

variable {c : Char} {tail : List Char}

/-- Zeros behind the digits, and a fraction of zero. -/
theorem wellFormed_padded (h : IsDigits (c :: tail)) (hc : c ≠ '0') (zeros : ℕ) :
    Numeral.WellFormed ⟨c :: tail ++ List.replicate zeros '0', ['0'], none⟩ where
  whole := .inr ⟨c, tail ++ List.replicate zeros '0', rfl, hc⟩
  isDigits_whole := h.append (isDigits_replicate_zero zeros)
  isDigits_fraction := isDigits_replicate_zero 1
  isDigits_power := by simp

/-- The point behind one of the digits. -/
theorem wellFormed_split (h : IsDigits (c :: tail)) (hc : c ≠ '0') (place : ℕ) :
    Numeral.WellFormed ⟨(c :: tail).take (place + 1), (c :: tail).drop (place + 1), none⟩ where
  whole := .inr ⟨c, tail.take place, rfl, hc⟩
  isDigits_whole b hb := h b (List.mem_of_mem_take hb)
  isDigits_fraction b hb := h b (List.mem_of_mem_drop hb)
  isDigits_power := by simp

/-- Zeros between the point and the digits. -/
theorem wellFormed_small {digits : List Char} (h : IsDigits digits) (zeros : ℕ) :
    Numeral.WellFormed ⟨['0'], List.replicate zeros '0' ++ digits, none⟩ where
  whole := .inl rfl
  isDigits_whole := isDigits_replicate_zero 1
  isDigits_fraction := (isDigits_replicate_zero zeros).append h
  isDigits_power := by simp

/-- The digits of a power of ten: at least two. -/
def powerDigits (n : ℕ) : List Char :=
  if (Nat.toDigits 10 n).length < 2 then '0' :: Nat.toDigits 10 n else Nat.toDigits 10 n

/-- One digit before the point, the others behind it, and a power of ten. -/
theorem wellFormed_scientific (h : IsDigits (c :: tail)) (hc : c ≠ '0') (negative : Bool) (n : ℕ) :
    Numeral.WellFormed ⟨[c], tail, some (negative, powerDigits n)⟩ where
  whole := .inr ⟨c, [], rfl, hc⟩
  isDigits_whole := by
    intro b hb
    rw [List.mem_singleton.1 hb]
    exact h c List.mem_cons_self
  isDigits_fraction b hb := h b (List.mem_cons_of_mem c hb)
  isDigits_power := by
    rintro power hpower
    rw [Option.mem_def, Option.some.injEq] at hpower
    subst hpower
    unfold powerDigits
    split_ifs
    · exact ⟨(isDigits_replicate_zero 1).append (isDigits_toDigits n), List.cons_ne_nil _ _⟩
    · exact ⟨isDigits_toDigits n, Nat.toDigits_ne_nil⟩

end Forms

/-- **The text of a decimal is a numeral** with a fraction or a power of ten. -/
theorem exists_numeral_positional {d : Decimal} (h : d.IsWritten) :
    ∃ n : Numeral, n.WellFormed ∧ ¬ n.IsWhole ∧ positional d = n.text := by
  rcases h with hpos | rfl
  swap
  · exact ⟨⟨['0'], [] ++ ['0'], none⟩, wellFormed_small (isDigits_replicate_zero 1) 0,
      by simp [Numeral.IsWhole], rfl⟩
  have hdigits := isDigits_toDigits d.digits
  obtain ⟨c, tail, htoDigits, hc⟩ := head_toDigits hpos
  unfold positional
  rw [htoDigits] at hdigits ⊢
  dsimp only
  generalize hleading : d.exponent + ((c :: tail).length : Int) - 1 = leading
  by_cases hplain : -4 ≤ leading ∧ leading < 16
  · rw [if_pos hplain]
    by_cases hexponent : 0 ≤ d.exponent
    · -- The power of ten is written out as zeros.
      rw [if_pos hexponent]
      exact ⟨_, wellFormed_padded hdigits hc d.exponent.toNat, by simp [Numeral.IsWhole],
        by simp [Numeral.text, Numeral.fractionText, Numeral.powerText]⟩
    rw [if_neg hexponent]
    by_cases hinside : 0 ≤ leading
    · -- The point stands before the last digit, so digits follow it.
      have hrest : (c :: tail).drop (leading.toNat + 1) ≠ [] := by
        rw [ne_eq, List.drop_eq_nil_iff]
        omega
      rw [if_pos hinside]
      exact ⟨_, wellFormed_split hdigits hc leading.toNat, fun hwhole => hrest hwhole.1,
        by rw [Numeral.text, Numeral.fractionText, if_neg hrest, Numeral.powerText, List.append_nil]⟩
    · -- All digits stand behind the point.
      rw [if_neg hinside]
      exact ⟨_, wellFormed_small hdigits (-leading - 1).toNat, by simp [Numeral.IsWhole],
        by simp [Numeral.text, Numeral.fractionText, Numeral.powerText]⟩
  · -- A number that is too large or too small for that has its power of ten behind it.
    rw [if_neg hplain]
    refine ⟨_, wellFormed_scientific hdigits hc (decide (leading < 0)) leading.natAbs,
      by simp [Numeral.IsWhole], ?_⟩
    cases tail <;> simp [Numeral.text, Numeral.fractionText, Numeral.powerText, powerSign, powerDigits]

/-- **The text of a float that has no name is a numeral** behind its sign. -/
theorem exists_numeral_render {x : Binary64} (hnan : x.isNaN = false)
    (hinfinite : x.isInfinite = false) (nanName infinityName : List Char) :
    ∃ n : Numeral, n.WellFormed ∧ ¬ n.IsWhole
      ∧ x.render nanName infinityName = sign x.isNegative ++ n.text := by
  have hmagnitude : ∃ n : Numeral, n.WellFormed ∧ ¬ n.IsWhole
      ∧ (if x.isZero then ['0', '.', '0'] else positional (Decimal.shortest x)) = n.text := by
    by_cases hzero : x.isZero = true
    · rw [if_pos hzero]
      exact ⟨⟨['0'], [] ++ ['0'], none⟩, wellFormed_small (isDigits_replicate_zero 1) 0,
        by simp [Numeral.IsWhole], rfl⟩
    · rw [if_neg hzero]
      rw [Bool.not_eq_true] at hzero
      exact exists_numeral_positional (Decimal.isWritten_shortest (significand_pos hzero))
  obtain ⟨n, hn, hwhole, htext⟩ := hmagnitude
  refine ⟨n, hn, hwhole, ?_⟩
  simp only [render, hnan, hinfinite, htext]
  cases x.isNegative <;> rfl

end Binary64

namespace Json

/-- **A float is read back as a float.** -/
theorem exists_reads_float (layout : Layout) (x : Binary64) :
    ∃ y, Reads layout (.float x) (.ok (.float y)) := by
  by_cases hnan : x.isNaN = true
  · refine ⟨.nan, reads_word ['N', 'a', 'N'] (fun depth => ?_) ?_ fun fuel rest => rfl⟩
    · rw [Json.render, Binary64.render, if_pos hnan]
    · exact ⟨'N', ['a', 'N'], rfl, rfl, by decide⟩
  by_cases hinfinite : x.isInfinite = true
  · have hword : ∀ depth, Json.render layout depth (.float x)
        = sign x.isNegative ++ ['I', 'n', 'f', 'i', 'n', 'i', 't', 'y'] := by
      intro depth
      rw [Json.render, Binary64.render, if_neg hnan, if_pos hinfinite, sign]
      cases x.isNegative <;> rfl
    refine ⟨.infinity x.isNegative, reads_word _ hword ?_ fun fuel rest => ?_⟩
    · cases x.isNegative with
      | true => exact ⟨'-', _, rfl, rfl, by decide⟩
      | false => exact ⟨'I', _, rfl, rfl, by decide⟩
    · cases x.isNegative <;> rfl
  rw [Bool.not_eq_true] at hnan hinfinite
  obtain ⟨n, hn, hwhole, hrender⟩ := x.exists_numeral_render hnan hinfinite ['N', 'a', 'N']
    ['I', 'n', 'f', 'i', 'n', 'i', 't', 'y']
  obtain ⟨y, hy⟩ := Numeral.value_of_not_isWhole hwhole x.isNegative
  have hread : Reads layout (.float x) _ :=
    reads_numeral hn fun depth => by rw [Json.render, hrender]
  rw [hy] at hread
  exact ⟨y, hread⟩

end Json

end ModuleLinks
