/-
Escapes with numbers beyond the code space.

The grammar of escapes bounds the digits of a number in every form but one: a number in
braces may be as large as its author likes. The code space ends at 10FFFF, so there are
escapes which a parser takes and which denote nothing. Reading one of them is a failure,
and which failure it is depends on whether the number fits a machine integer.

Main statement: `decode_cases`, that no other escape of the grammar fails to be read.
-/
import ModuleLinks.Proofs.EscapeForms

set_option autoImplicit false

namespace ModuleLinks.Escape

/-- **What the grammar takes for an escape.** The forms overlap: a break between lines can be a
single character, too. -/
inductive IsGrammatical : List Char → Prop where
  | character {c : Char} (h : c ∉ ['x', 'u', '0', '1', '2', '3', '4', '5', '6', '7']) :
    IsGrammatical ['\\', c]
  | octal (digits : Octal) : IsGrammatical ('\\' :: digits.chars)
  | byte (a b : HexDigit) : IsGrammatical ['\\', 'x', a.char, b.char]
  | unit (a b c d : HexDigit) : IsGrammatical ['\\', 'u', a.char, b.char, c.char, d.char]
  /-- Any number of digits in braces. -/
  | point {ds : List HexDigit} (hne : ds ≠ []) : IsGrammatical ('\\' :: braced ds)
  | lineBreak (lineBreak : LineBreak) : IsGrammatical ('\\' :: lineBreak.chars)

/-- The failure of a number beyond the code space. -/
def beyond (n : ℕ) : Failure := if n < 0x80000000 then .noCodePoint else .outOfRange

/-- **The escape has a number beyond the code space**, and fails with `e`. -/
def IsBeyond (escape : Text) (e : Failure) : Prop :=
  ∃ ds : List HexDigit, escape = Text.ofChars ('\\' :: braced ds)
    ∧ 0x10FFFF < HexDigit.number ds ∧ e = beyond (HexDigit.number ds)

theorem codePoint_of_beyond {n : ℕ} (h : 0x10FFFF < n) : codePoint n = .error (beyond n) := by
  unfold codePoint beyond
  -- Only a number that fits a machine integer is compared with the end of the code space.
  by_cases hfits : n < 0x80000000
  · rw [if_neg (by omega), if_neg (by omega), if_pos hfits, Int.toNat_natCast, CodePoint.ofNat?,
      dif_neg (by omega)]
  · rw [if_pos (by omega), if_neg hfits]

/-- **An escape beyond the code space is not read.** -/
theorem IsBeyond.decode {escape : Text} {e : Failure} (h : IsBeyond escape e) :
    decode escape = .error e := by
  obtain ⟨ds, rfl, hbeyond, rfl⟩ := h
  have hne : ds ≠ [] := by
    rintro rfl
    cases hbeyond
  show decodeBody (Text.ofChars (braced ds)) = _
  rw [decodeBody_of_number (number?_braced ds), numbered, HexDigit.read?_text hne]
  show (codePoint (HexDigit.number ds : Int)).map _ = _
  rw [codePoint_of_beyond hbeyond]
  rfl

/-- A character that begins no longer form is an escape of its own, or breaks a line. -/
theorem exists_form_character {c : Char}
    (h : c ∉ ['x', 'u', '0', '1', '2', '3', '4', '5', '6', '7']) :
    ∃ form : Form, ['\\', c] = form.written := by
  -- The forms of the grammar overlap in the characters that break a line.
  by_cases hbreak : c ∈ ['\n', '\r', '\u2028', '\u2029']
  · simp only [List.mem_cons, List.not_mem_nil, or_false] at hbreak
    obtain rfl | rfl | rfl | rfl := hbreak
    · exact ⟨.continuation .lineFeed, rfl⟩
    · exact ⟨.continuation .carriageReturn, rfl⟩
    · exact ⟨.continuation .lineSeparator, rfl⟩
    · exact ⟨.continuation .paragraphSeparator, rfl⟩
  · have halone : standsAlone c = true := by
      simp only [List.mem_cons, List.not_mem_nil, or_false, not_or] at h hbreak
      simp [standsAlone, h, hbreak]
    exact ⟨.character c halone, rfl⟩

/-- The grammar has no other escapes than the forms and those beyond the code space. -/
theorem IsGrammatical.cases {cs : List Char} (h : IsGrammatical cs) :
    (∃ form : Form, cs = form.written) ∨ ∃ e, IsBeyond (Text.ofChars cs) e := by
  cases h with
  | character h => exact .inl (exists_form_character h)
  | octal digits => exact .inl ⟨.octal digits, rfl⟩
  | byte a b => exact .inl ⟨.byte a b, rfl⟩
  | unit a b c d => exact .inl ⟨.unit a b c d, rfl⟩
  | @point ds hne =>
    rcases Nat.lt_or_ge 0x10FFFF (HexDigit.number ds) with hbeyond | hle
    · exact .inr ⟨_, ds, rfl, hbeyond, rfl⟩
    · exact .inl ⟨.point ds hne hle, rfl⟩
  | lineBreak lineBreak => exact .inl ⟨.continuation lineBreak, rfl⟩

/-- **An escape of the grammar is read**, unless its number is beyond the code space. -/
theorem decode_cases {cs : List Char} (h : IsGrammatical cs) :
    (∃ t, decode (Text.ofChars cs) = .ok t)
      ∨ ∃ e, IsBeyond (Text.ofChars cs) e ∧ decode (Text.ofChars cs) = .error e := by
  rcases h.cases with ⟨form, rfl⟩ | ⟨e, hbeyond⟩
  · exact .inl ⟨form.read, decode_written form⟩
  · exact .inr ⟨e, hbeyond, hbeyond.decode⟩

end ModuleLinks.Escape
