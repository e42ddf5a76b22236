/-
Strings of a document, written and read back.

A text is written unit by unit, so what the reader decodes are the UTF-16
**units** of the text: a code point beyond `0xFFFF` comes as its two halves. The
reader then joins pairs of halves. Joining the units of a text gives the same as
joining the text itself, and since a pair is written like the code point it
makes, the joined text has the same document.

Main statements: `readText_quotedText`, `quotedText_joined` and
`isAscii_quotedText`.
-/
import Mathlib.Data.Nat.Notation
import ModuleLinks.Json.Printer
import ModuleLinks.Json.Reader

set_option autoImplicit false

namespace ModuleLinks

/-! ## UTF-16 units -/

namespace CodePoint

/-- The high surrogates are the first half of the surrogates, and the low ones the second. -/
theorem isHighSurrogate_iff (c : CodePoint) :
    c.isHighSurrogate = true ↔ 0xD800 ≤ c.val ∧ c.val ≤ 0xDBFF := by
  simp [isHighSurrogate]

theorem isLowSurrogate_iff (c : CodePoint) :
    c.isLowSurrogate = true ↔ 0xDC00 ≤ c.val ∧ c.val ≤ 0xDFFF := by
  simp [isLowSurrogate]

/-- **The UTF-16 units** of a code point. -/
def units (c : CodePoint) : Text :=
  if c.val < 0x10000 then [c]
  else
    [⟨c.highHalf, by have := c.val_le; unfold highHalf; omega⟩,
      ⟨c.lowHalf, by have := c.val_le; unfold lowHalf; omega⟩]

theorem units_of_lt {c : CodePoint} (h : c.val < 0x10000) : c.units = [c] := if_pos h

/-- A code point that is no unit has two halves: a high surrogate and a low
one. -/
theorem exists_units_of_le {c : CodePoint} (h : 0x10000 ≤ c.val) :
    ∃ high low : CodePoint, c.units = [high, low] ∧ high.val = c.highHalf ∧ low.val = c.lowHalf
      ∧ high.isHighSurrogate = true ∧ low.isLowSurrogate = true := by
  have hle := c.val_le
  refine ⟨_, _, if_neg (by omega), rfl, rfl, ?_, ?_⟩
  · rw [isHighSurrogate_iff]
    simp only [highHalf]
    omega
  · rw [isLowSurrogate_iff]
    simp only [lowHalf]
    omega

/-- A code point that is a character is no half of a pair. -/
theorem isHighSurrogate_ofChar (c : Char) : (ofChar c).isHighSurrogate = false := by
  have hvalid : c.toNat.isValidChar := c.valid
  rw [Bool.eq_false_iff, ne_eq, isHighSurrogate_iff, ofChar_val]
  unfold Nat.isValidChar at hvalid
  omega

end CodePoint

namespace Text

/-- The units of a text, one code point after the other. -/
def units (t : Text) : Text := t.flatMap CodePoint.units

/-- A code point that begins no pair stays as it is. -/
theorem joined_cons (c : CodePoint) (t : Text)
    (h : c.isHighSurrogate = true → ∀ d ∈ t.head?, d.isLowSurrogate = false) :
    joined (c :: t) = c :: joined t := by
  cases t with
  | nil => rfl
  | cons d rest =>
    rw [joined, if_neg]
    rw [Bool.and_eq_true]
    rintro ⟨hc, hd⟩
    simp [h hc d rfl] at hd

/-- Characters are no halves, so a text of characters has nothing to join. -/
theorem joined_ofChars (cs : List Char) : joined (ofChars cs) = ofChars cs := by
  induction cs with
  | nil => rfl
  | cons c cs ih =>
    show joined (CodePoint.ofChar c :: ofChars cs) = _
    rw [joined_cons _ _ (by simp [CodePoint.isHighSurrogate_ofChar]), ih]
    rfl

@[simp] theorem joined_ofString (s : String) : joined (ofString s) = ofString s :=
  joined_ofChars s.toList

/-- The first unit of a text is a low surrogate only if its first code point is
one. -/
theorem isLowSurrogate_head_units {t : Text} (h : ∀ d ∈ t.head?, d.isLowSurrogate = false) :
    ∀ d ∈ (units t).head?, d.isLowSurrogate = false := by
  cases t with
  | nil => simp [units]
  | cons c rest =>
    rcases Nat.lt_or_ge c.val 0x10000 with hlt | hge
    · simpa [units, CodePoint.units_of_lt hlt] using h
    · obtain ⟨high, low, hunits, _, _, hhigh, _⟩ := CodePoint.exists_units_of_le hge
      simp only [units, List.flatMap_cons, hunits, List.cons_append, List.head?_cons,
        Option.mem_def, Option.some.injEq, forall_eq']
      rw [CodePoint.isHighSurrogate_iff] at hhigh
      rw [Bool.eq_false_iff, ne_eq, CodePoint.isLowSurrogate_iff]
      omega

/-- **Joining the units** of a text joins the text. -/
theorem joined_units (t : Text) : joined (units t) = joined t := by
  -- Both cases without a pair at the front come to this step.
  have hstep : ∀ (c : CodePoint) (t : Text),
      (c.isHighSurrogate = true → ∀ d ∈ t.head?, d.isLowSurrogate = false) →
      joined (units t) = joined t → joined (units (c :: t)) = c :: joined t := by
    intro c t hpair ih
    rcases Nat.lt_or_ge c.val 0x10000 with hlt | hge
    · have hunits : units (c :: t) = c :: units t := by
        simp [units, CodePoint.units_of_lt hlt]
      rw [hunits, joined_cons c _ fun hc => isLowSurrogate_head_units (hpair hc), ih]
    · obtain ⟨high, low, hunits, hh, hl, hhigh, hlow⟩ := CodePoint.exists_units_of_le hge
      have hsplit : units (c :: t) = high :: low :: units t := by simp [units, hunits]
      rw [hsplit, joined, if_pos (by rw [hhigh, hlow]; rfl),
        CodePoint.ofHalves_halves hge hh hl, ih]
  fun_induction joined t with
  | case1 => rfl
  | case2 c => exact hstep c [] (by simp) rfl
  | case3 c d rest hpair ih =>
    -- Both halves are units themselves.
    rw [Bool.and_eq_true] at hpair
    have hc : c.val < 0x10000 := by
      have := (CodePoint.isHighSurrogate_iff c).1 hpair.1
      omega
    have hd : d.val < 0x10000 := by
      have := (CodePoint.isLowSurrogate_iff d).1 hpair.2
      omega
    have hsplit : units (c :: d :: rest) = c :: d :: units rest := by
      simp [units, CodePoint.units_of_lt hc, CodePoint.units_of_lt hd]
    rw [hsplit, joined, if_pos (by simp [hpair]), ih]
  | case4 c d rest hpair ih =>
    apply hstep c (d :: rest) _ ih
    intro hc e he
    rw [List.head?_cons, Option.mem_def, Option.some.injEq] at he
    rw [Bool.and_eq_true, not_and, Bool.not_eq_true, he] at hpair
    exact hpair hc

end Text

namespace Json

/-! ## One code point -/

/-- Reading goes on behind the units of a code point. -/
def behind (c : CodePoint) (found : Text × List Char) : Text × List Char :=
  (c.units ++ found.1, found.2)

/-- A digit is read as it was written. -/
theorem digit?_digitChar : ∀ d < 16,
    Hexadecimal.digit? (CodePoint.ofChar (Nat.digitChar d)) = some d := by
  decide

/-- Four digits are read as the number that they were written from. -/
theorem unit?_padded {n : ℕ} (hn : n < 0x10000) (hle : n ≤ 0x10FFFF) :
    unit? (Nat.digitChar (n / 16 / 16 / 16 % 16)) (Nat.digitChar (n / 16 / 16 % 16))
        (Nat.digitChar (n / 16 % 16)) (Nat.digitChar (n % 16))
      = some ⟨n, hle⟩ := by
  have hdigit : ∀ m, Hexadecimal.digit? (CodePoint.ofChar (Nat.digitChar (m % 16)))
      = some (m % 16) := fun m => digit?_digitChar _ (Nat.mod_lt m (by decide))
  have hvalue : Hexadecimal.value [n / 16 / 16 / 16 % 16, n / 16 / 16 % 16, n / 16 % 16, n % 16]
      = n := by
    simp only [Hexadecimal.value, List.foldl_cons, List.foldl_nil]
    omega
  simp only [unit?, Text.ofChars, List.map_cons, List.map_nil, List.mapM_cons, List.mapM_nil,
    hdigit, Option.pure_def, Option.bind_eq_bind, Option.bind_some, hvalue]
  exact dif_pos hle

/-- **An escape of a unit is read as the unit.** -/
theorem readUnits_unitEscape {c : CodePoint} (h : c.val < 0x10000) (s : List Char) :
    readUnits (unitEscape c.val ++ s)
      = (readUnits s).map fun found => (c :: found.1, found.2) := by
  have hpadded : unitEscape c.val ++ s
      = '\\' :: 'u' :: Nat.digitChar (c.val / 16 / 16 / 16 % 16)
        :: Nat.digitChar (c.val / 16 / 16 % 16) :: Nat.digitChar (c.val / 16 % 16)
        :: Nat.digitChar (c.val % 16) :: s := rfl
  rw [hpadded, readUnits, unit?_padded h c.val_le]
  cases readUnits s <;> rfl

/-- A short escape is read as what it stands for. -/
theorem readUnits_shortEscape {ch : Char} {c : CodePoint} (hu : ch ≠ 'u')
    (h : shortEscape? ch = some c) (s : List Char) :
    readUnits ('\\' :: ch :: s) = (readUnits s).map fun found => (c :: found.1, found.2) := by
  rw [readUnits, h]
  · cases readUnits s <;> rfl
  · intro a b d e rest hch _
    exact hu hch

/-- A character that needs no escape is read as itself. -/
theorem readUnits_plain {ch : Char} (hquote : ch ≠ '"') (hslash : ch ≠ '\\')
    (hspace : 0x20 ≤ ch.toNat) (s : List Char) :
    readUnits (ch :: s)
      = (readUnits s).map fun found => (CodePoint.ofChar ch :: found.1, found.2) := by
  rw [readUnits, if_neg (by omega)]
  · cases readUnits s <;> rfl
  · exact hquote
  · intro a b d e rest hch
    exact absurd hch hslash
  · intro d rest hch
    exact absurd hch hslash

theorem behind_of_lt {c : CodePoint} (h : c.val < 0x10000) :
    behind c = fun found => (c :: found.1, found.2) := by
  funext found
  rw [behind, CodePoint.units_of_lt h, List.singleton_append]

theorem toNat_ofNat_of_lt {n : ℕ} (h : n < 0x80) : (Char.ofNat n).toNat = n := by
  have hvalid : n.isValidChar := .inl (by omega)
  rw [Char.ofNat, dif_pos hvalid]
  rfl

/-- **What is written for a code point**: a letter behind a backslash, the
character itself, its number, or the numbers of its halves. -/
inductive Escaped (c : CodePoint) : List Char → Prop where
  | letter {ch : Char} (hread : shortEscape? ch = some c) (hunit : ch ≠ 'u')
      (hch : ch.toNat < 0x80) (hc : c.val < 0x80) : Escaped c ['\\', ch]
  | plain {ch : Char} (hc : CodePoint.ofChar ch = c) (hquote : ch ≠ '"') (hslash : ch ≠ '\\')
      (hspace : 0x20 ≤ ch.toNat) (hch : ch.toNat < 0x80) : Escaped c [ch]
  | unit (hc : c.val < 0x10000) : Escaped c (unitEscape c.val)
  | halves (hc : 0x10000 ≤ c.val) : Escaped c (unitEscape c.highHalf ++ unitEscape c.lowHalf)

/-- The printer writes a code point in one of these ways. -/
theorem escaped_escapedPoint (c : CodePoint) : Escaped c (escapedPoint c) := by
  -- Seven code points have a letter for an escape, and only their letters differ.
  have hletter : ∀ {ch : Char} {d : CodePoint}, shortEscape? ch = some d → c.val = d.val →
      ch ≠ 'u' → ch.toNat < 0x80 → d.val < 0x80 → Escaped c ['\\', ch] := by
    intro ch d hread hval hunit hch hd
    have hc : c = d := CodePoint.ext hval
    rw [← hc] at hread hd
    exact .letter hread hunit hch hd
  unfold escapedPoint
  by_cases h22 : c.val = 0x22
  · rw [if_pos h22]
    exact hletter rfl h22 (by decide) (by decide) (by decide)
  rw [if_neg h22]
  by_cases h5C : c.val = 0x5C
  · rw [if_pos h5C]
    exact hletter rfl h5C (by decide) (by decide) (by decide)
  rw [if_neg h5C]
  by_cases h08 : c.val = 0x08
  · rw [if_pos h08]
    exact hletter rfl h08 (by decide) (by decide) (by decide)
  rw [if_neg h08]
  by_cases h09 : c.val = 0x09
  · rw [if_pos h09]
    exact hletter rfl h09 (by decide) (by decide) (by decide)
  rw [if_neg h09]
  by_cases h0A : c.val = 0x0A
  · rw [if_pos h0A]
    exact hletter rfl h0A (by decide) (by decide) (by decide)
  rw [if_neg h0A]
  by_cases h0C : c.val = 0x0C
  · rw [if_pos h0C]
    exact hletter rfl h0C (by decide) (by decide) (by decide)
  rw [if_neg h0C]
  by_cases h0D : c.val = 0x0D
  · rw [if_pos h0D]
    exact hletter rfl h0D (by decide) (by decide) (by decide)
  rw [if_neg h0D]
  by_cases hplain : 0x20 ≤ c.val ∧ c.val < 0x7F
  · -- A character of its own is neither a quotation mark nor a backslash.
    have hval : (Char.ofNat c.val).toNat = c.val := toNat_ofNat_of_lt (by omega)
    have hne : ∀ d : Char, c.val ≠ d.toNat → Char.ofNat c.val ≠ d := by
      intro d hd h
      exact hd (by rw [← h, hval])
    rw [if_pos hplain]
    exact .plain (CodePoint.ext hval) (hne '"' h22) (hne '\\' h5C) (by omega) (by omega)
  rw [if_neg hplain]
  by_cases hunit : c.val < 0x10000
  · rw [if_pos hunit]
    exact .unit hunit
  · rw [if_neg hunit]
    exact .halves (Nat.not_lt.1 hunit)

/-- Beyond ASCII it is an escape with four digits. -/
theorem Escaped.eq_unitEscape {c : CodePoint} {written : List Char} (h : Escaped c written)
    (hle : 0x80 ≤ c.val) (hlt : c.val < 0x10000) : written = unitEscape c.val := by
  cases h with
  | letter _ _ _ hc => omega
  | plain hc _ _ _ hch =>
    rw [← hc, CodePoint.ofChar_val] at hle
    omega
  | unit _ => rfl
  | halves hc => omega

/-- Beyond the units it is two of them. -/
theorem Escaped.eq_halves {c : CodePoint} {written : List Char} (h : Escaped c written)
    (hle : 0x10000 ≤ c.val) : written = unitEscape c.highHalf ++ unitEscape c.lowHalf := by
  cases h with
  | letter _ _ _ hc => omega
  | plain hc _ _ _ hch =>
    rw [← hc, CodePoint.ofChar_val] at hle
    omega
  | unit hc => omega
  | halves _ => rfl

/-- What is written for a code point is read as its units. -/
theorem Escaped.readUnits {c : CodePoint} {written : List Char} (h : Escaped c written)
    (s : List Char) : readUnits (written ++ s) = (readUnits s).map (behind c) := by
  cases h with
  | letter hread hunit _ hc =>
    rw [behind_of_lt (by omega)]
    exact readUnits_shortEscape hunit hread s
  | plain hc hquote hslash hspace hch =>
    rw [List.singleton_append, readUnits_plain hquote hslash hspace, hc, behind_of_lt]
    rw [← hc, CodePoint.ofChar_val]
    omega
  | unit hc => rw [readUnits_unitEscape hc, behind_of_lt hc]
  | halves hc =>
    -- Two escapes are written, one for each half.
    obtain ⟨high, low, hunits, hh, hl, hhigh, hlow⟩ := CodePoint.exists_units_of_le hc
    rw [CodePoint.isHighSurrogate_iff] at hhigh
    rw [CodePoint.isLowSurrogate_iff] at hlow
    rw [← hh, ← hl, List.append_assoc, readUnits_unitEscape (by omega),
      readUnits_unitEscape (by omega), Option.map_map]
    congr 1
    funext found
    simp [behind, hunits]

/-! ## Whole strings -/

/-- **A text is read as its units**, up to the closing quotation mark. -/
theorem readUnits_flatMap (t : Text) (rest : List Char) :
    readUnits (t.flatMap escapedPoint ++ '"' :: rest) = some (t.units, rest) := by
  induction t with
  | nil => simp [readUnits, Text.units]
  | cons c t ih =>
    rw [List.flatMap_cons, List.append_assoc, (escaped_escapedPoint c).readUnits, ih]
    rfl

/-- **A string is read back** with its pairs of halves joined. -/
theorem readText_quotedText (t : Text) (rest : List Char) :
    readText (t.flatMap escapedPoint ++ '"' :: rest) = some (t.joined, rest) := by
  rw [readText, readUnits_flatMap, ← Text.joined_units t]
  rfl

/-- Two halves are written as the character that they make. -/
theorem escapedPoint_ofHalves {c d : CodePoint} (hc : c.isHighSurrogate = true)
    (hd : d.isLowSurrogate = true) :
    escapedPoint (CodePoint.ofHalves c d) = escapedPoint c ++ escapedPoint d := by
  rw [CodePoint.isHighSurrogate_iff] at hc
  rw [CodePoint.isLowSurrogate_iff] at hd
  -- The code point is beyond the units, and its halves are the two that it was made of.
  have hval : (CodePoint.ofHalves c d).val = 0x10000 + (c.val - 0xD800) * 0x400 + (d.val - 0xDC00) :=
    Nat.min_eq_left (by omega)
  have hhigh : (CodePoint.ofHalves c d).highHalf = c.val := by
    rw [CodePoint.highHalf, hval]
    omega
  have hlow : (CodePoint.ofHalves c d).lowHalf = d.val := by
    rw [CodePoint.lowHalf, hval]
    omega
  rw [(escaped_escapedPoint c).eq_unitEscape (by omega) (by omega),
    (escaped_escapedPoint d).eq_unitEscape (by omega) (by omega),
    (escaped_escapedPoint _).eq_halves (by omega), hhigh, hlow]

/-- **Joining leaves the document of a text as it is.** -/
theorem quotedText_joined (t : Text) : quotedText t.joined = quotedText t := by
  have h : t.joined.flatMap escapedPoint = t.flatMap escapedPoint := by
    fun_induction Text.joined t with
    | case1 => rfl
    | case2 c => rfl
    | case3 c d rest hpair ih =>
      rw [Bool.and_eq_true] at hpair
      rw [List.flatMap_cons, ih, escapedPoint_ofHalves hpair.1 hpair.2, List.flatMap_cons,
        List.flatMap_cons, List.append_assoc]
    | case4 c d rest _ ih => rw [List.flatMap_cons, ih, ← List.flatMap_cons]
  rw [quotedText, h, quotedText]

/-! ## ASCII -/

/-- **A document in ASCII.** -/
def IsAscii (s : List Char) : Prop := ∀ c ∈ s, c.toNat < 0x80

instance (s : List Char) : Decidable (IsAscii s) :=
  decidable_of_iff (s.all (fun c => decide (c.toNat < 0x80)) = true) (by simp [IsAscii])

theorem IsAscii.append {s t : List Char} (hs : IsAscii s) (ht : IsAscii t) : IsAscii (s ++ t) :=
  List.forall_mem_append.2 ⟨hs, ht⟩

theorem isAscii_singleton {c : Char} (h : c.toNat < 0x80) : IsAscii [c] := by
  intro d hd
  rwa [List.mem_singleton.1 hd]

/-- Hexadecimal digits are ASCII, and so are escapes. -/
theorem isAscii_padded (width n : ℕ) : IsAscii (Hexadecimal.padded width n) := by
  have hdigit : ∀ d < 16, (Nat.digitChar d).toNat < 0x80 := by decide
  induction width generalizing n with
  | zero => simp [Hexadecimal.padded, IsAscii]
  | succ width ih =>
    exact (ih (n / 16)).append (isAscii_singleton (hdigit _ (Nat.mod_lt n (by decide))))

theorem isAscii_unitEscape (n : ℕ) : IsAscii (unitEscape n) :=
  IsAscii.append (s := ['\\', 'u']) (by decide) (isAscii_padded 4 n)

/-- However a code point is written, it is in ASCII. -/
theorem Escaped.isAscii {c : CodePoint} {written : List Char} (h : Escaped c written) :
    IsAscii written := by
  cases h with
  | letter _ _ hch _ => exact IsAscii.append (s := ['\\']) (by decide) (isAscii_singleton hch)
  | plain _ _ _ _ hch => exact isAscii_singleton hch
  | unit _ => exact isAscii_unitEscape c.val
  | halves _ => exact (isAscii_unitEscape c.highHalf).append (isAscii_unitEscape c.lowHalf)

/-- **A quoted text is ASCII**, whatever it holds. -/
theorem isAscii_quotedText (t : Text) : IsAscii (quotedText t) := by
  have hpoints : IsAscii (t.flatMap escapedPoint) := by
    intro c hc
    obtain ⟨p, _, hp⟩ := List.mem_flatMap.1 hc
    exact (escaped_escapedPoint p).isAscii c hp
  exact (IsAscii.append (s := ['"']) (by decide) hpoints).append (by decide)

end Json

end ModuleLinks
