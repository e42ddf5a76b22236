/-
The values of escapes.

By the standard an escape in a string denotes one code point, or none where it continues a
line. Which one it is follows from the form: a number in hexadecimal digits, one of seven
letters for control characters, or any other character, which denotes itself. A number in
braces may be written in many ways, since a digit can be a capital and zeros in front of it
do not count.

The relation between escapes and their values is written down here form by form, over code
points, so that a lone surrogate behind a backslash has its place as well. It leaves no
escape of the grammar out but the octal numbers of older programs and the numbers beyond the
code space.

Main statement: `decode_denoted`.
-/
import ModuleLinks.Proofs.EscapeRange

set_option autoImplicit false

namespace ModuleLinks.Escape

/-! ## What an escape denotes -/

/-- **The letters for control characters.** -/
def controls : List (Char × Char) :=
  [('b', '\x08'), ('f', '\x0c'), ('n', '\n'), ('r', '\r'), ('t', '\t'), ('v', '\x0b'),
    ('0', '\x00')]

/-- The characters that mean something else behind a backslash: the beginning of a number, a
control character, or a line that goes on. -/
def reserved : List Char :=
  ['x', 'u', '0', '1', '2', '3', '4', '5', '6', '7', 'b', 'f', 'n', 'r', 't', 'v', '\n', '\r',
    '\u2028', '\u2029']

/-- **What an escape denotes** by the standard. -/
inductive Denotes : Text → Text → Prop where
  /-- Any digits in braces that spell the number of the code point. -/
  | point {digits : List HexDigit} {c : CodePoint} (hne : digits ≠ [])
      (h : HexDigit.number digits = c.val) : Denotes (Text.ofChars ('\\' :: braced digits)) [c]
  | unit {d₁ d₂ d₃ d₄ : HexDigit} {c : CodePoint} (h : HexDigit.number [d₁, d₂, d₃, d₄] = c.val) :
      Denotes (Text.ofChars ['\\', 'u', d₁.char, d₂.char, d₃.char, d₄.char]) [c]
  | byte {d₁ d₂ : HexDigit} {c : CodePoint} (h : HexDigit.number [d₁, d₂] = c.val) :
      Denotes (Text.ofChars ['\\', 'x', d₁.char, d₂.char]) [c]
  | control {letter character : Char} (h : (letter, character) ∈ controls) :
      Denotes (Text.ofChars ['\\', letter]) (Text.ofChars [character])
  | continuation (lineBreak : LineBreak) : Denotes (Text.ofChars ('\\' :: lineBreak.chars)) []
  | itself {c : CodePoint} (h : ∀ character ∈ reserved, c ≠ CodePoint.ofChar character) :
      Denotes [CodePoint.ofChar '\\', c] [c]

/-! ## Reading -/

/-- A character with no other meaning is no control character. -/
theorem control?_eq_none {c : CodePoint}
    (h : ∀ character ∈ reserved, c ≠ CodePoint.ofChar character) : control? c = none := by
  have hne : ∀ character ∈ reserved, c.is character = false := by
    intro character hcharacter
    simpa [Bool.eq_false_iff] using h character hcharacter
  simp [control?, hne 'b' (by decide), hne 'f' (by decide), hne 'n' (by decide),
    hne 'r' (by decide), hne 't' (by decide), hne 'v' (by decide), hne '0' (by decide)]

/-- The characters that begin a longer escape are among those that do not stand for themselves. -/
theorem leading_subset_reserved : leading ⊆ reserved := by decide

/-- **An escape is read as what it denotes.** -/
theorem Denotes.decode {escape value : Text} (h : Denotes escape value) :
    decode escape = .ok value := by
  cases h with
  | @point digits c hne hnumber =>
    have hle : HexDigit.number digits ≤ 0x10FFFF := hnumber ▸ c.val_le
    have hc : (⟨HexDigit.number digits, hle⟩ : CodePoint) = c := CodePoint.ext hnumber
    rw [← hc]
    exact decodeBody_point hne hle
  | @unit d₁ d₂ d₃ d₄ c hnumber =>
    have hc : (⟨_, Form.number_four_le d₁ d₂ d₃ d₄⟩ : CodePoint) = c := CodePoint.ext hnumber
    rw [← hc]
    exact decodeBody_unit d₁ d₂ d₃ d₄
  | @byte d₁ d₂ c hnumber =>
    have hc : (⟨_, Form.number_pair_le d₁ d₂⟩ : CodePoint) = c := CodePoint.ext hnumber
    rw [← hc]
    exact decodeBody_byte d₁ d₂
  | @control letter character hmem =>
    -- The table of control characters, entry by entry.
    have hall : ∀ entry ∈ controls,
        Escape.decode (Text.ofChars ['\\', entry.1]) = .ok (Text.ofChars [entry.2]) := by
      simp only [controls, List.forall_mem_cons]
      exact ⟨rfl, rfl, rfl, rfl, rfl, rfl, rfl, nofun⟩
    exact hall _ hmem
  | continuation lineBreak => cases lineBreak <;> rfl
  | @itself c hfree =>
    have hbody : decodeBody [c] = .ok [(control? c).getD c] :=
      decodeBody_of_not_leading fun character hleading =>
        hfree character (leading_subset_reserved hleading)
    rwa [control?_eq_none hfree] at hbody

/-! ## The escapes of the grammar -/

/-- **A form denotes what it means**, unless it is an octal number other than zero. -/
theorem Form.denotes {form : Form} (h : form.isLegacy = false) :
    Denotes (Text.ofChars form.written) form.value := by
  cases form with
  | character c halone =>
    -- A character behind a backslash is a letter for another one, or it is itself.
    by_cases hcontrol : c ∈ ['b', 'f', 'n', 'r', 't', 'v']
    · have hletters : ∀ letter ∈ ['b', 'f', 'n', 'r', 't', 'v'],
          (letter, denoted letter) ∈ controls := by simp [controls, denoted]
      exact .control (hletters c hcontrol)
    · simp only [List.mem_cons, List.not_mem_nil, or_false, not_or] at hcontrol
      have hreserved : c ∉ reserved := by
        simpa [standsAlone, reserved, hcontrol] using halone
      have hdenoted : denoted c = c := by simp [denoted, hcontrol]
      show Denotes _ [CodePoint.ofChar (denoted c)]
      rw [hdenoted]
      exact .itself (ofChar_ne_of_not_mem hreserved)
  | byte a b => exact .byte rfl
  | unit a b c d => exact .unit rfl
  | point digits hne hle => exact .point hne rfl
  | octal digits =>
    have hzero : digits.isZero = true := by simpa [isLegacy] using h
    cases digits with
    | one a =>
      obtain rfl : a = 0 := by simpa [Octal.isZero] using hzero
      have hnull : ('0', '\x00') ∈ controls := by decide
      exact .control hnull
    | two a b => cases hzero
    | three a b c => cases hzero
  | continuation lineBreak => exact .continuation lineBreak

/-- **Every escape is read as what it denotes**, and of the escapes of the grammar only octal numbers
other than zero and numbers beyond the code space denote nothing. -/
theorem decode_denoted :
    (∀ escape value : Text, Denotes escape value → decode escape = .ok value)
      ∧ ∀ cs : List Char, IsGrammatical cs →
        (∀ digits : Octal, digits.isZero = false → cs ≠ '\\' :: digits.chars) →
        (∀ e, ¬IsBeyond (Text.ofChars cs) e) →
        ∃ value, Denotes (Text.ofChars cs) value ∧ decode (Text.ofChars cs) = .ok value := by
  refine ⟨fun escape value h => h.decode, ?_⟩
  intro cs hcs hlegacy hbeyond
  rcases hcs.cases with ⟨form, rfl⟩ | ⟨e, he⟩
  · -- An octal number other than zero is left out by assumption.
    have hform : form.isLegacy = false := by
      rw [Bool.eq_false_iff]
      intro hoctal
      cases form with
      | octal digits => exact hlegacy digits (by simpa [Form.isLegacy] using hoctal) rfl
      | _ => cases hoctal
    exact ⟨form.value, Form.denotes hform, (Form.denotes hform).decode⟩
  · exact absurd he (hbeyond e)

/-- The digits of a number in braces, with zeros in front and capitals mixed with small letters. -/
def mixedDigits : List HexDigit :=
  [(0, false), (0, true), (1, false), (15, true), (6, false), (12, false), (13, true)].map
    fun digit => { HexDigit.ofNat digit.1 with capital := digit.2 }

/-- The code point with that number. -/
def mixedPoint : CodePoint := ⟨0x1F6CD, by decide⟩

theorem decode_denoted_mixedDigits :
    Denotes (Text.ofChars ('\\' :: braced mixedDigits)) [mixedPoint]
      ∧ decode (Text.ofChars ('\\' :: braced mixedDigits)) = .ok [mixedPoint]
      ∧ IsGrammatical ('\\' :: braced mixedDigits)
      ∧ ∃ value, Denotes (Text.ofChars ('\\' :: braced mixedDigits)) value
        ∧ decode (Text.ofChars ('\\' :: braced mixedDigits)) = .ok value := by
  have hdenotes : Denotes (Text.ofChars ('\\' :: braced mixedDigits)) [mixedPoint] :=
    .point (by decide) (by decide)
  have hgrammatical : IsGrammatical ('\\' :: braced mixedDigits) := .point (by decide)
  have hlegacy : ∀ digits : Octal, digits.isZero = false →
      '\\' :: braced mixedDigits ≠ '\\' :: digits.chars := by
    rintro digits - heq
    have hfirst := congrArg List.head? (List.cons.inj heq).2
    -- An octal number does not begin with a letter.
    cases digits with
    | one a => exact Octal.digit_not_leading a (Option.some.inj hfirst ▸ by decide)
    | two a b => exact Octal.digit_not_leading a (Option.some.inj hfirst ▸ by decide)
    | three a b c => exact Octal.digit_not_leading a (Option.some.inj hfirst ▸ by decide)
  have hbeyond : ∀ e, ¬IsBeyond (Text.ofChars ('\\' :: braced mixedDigits)) e := by
    intro e he
    have hread := he.decode
    rw [hdenotes.decode] at hread
    cases hread
  exact ⟨hdenotes, decode_denoted.1 _ _ hdenotes, hgrammatical,
    decode_denoted.2 _ hgrammatical hlegacy hbeyond⟩

end ModuleLinks.Escape
