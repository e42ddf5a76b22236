/-
The forms of escapes in string literals.

The grammar of JavaScript knows few of them: a backslash and a character, a number in
two, four or any number of hexadecimal digits, a number in octal digits as older programs
have it, and a line that goes on behind a break. For each form this file says how it is
written, what it means by the standard, and what is read.

Reading numbers is generous in general, with blanks, signs and underscores. Here only
digits are written, in either case, and those are read as they should be. What an octal
number means is not read at all: its digits stand for themselves.

Main statements: `decode_written`, and `read_eq_value_iff`, that the octal forms are the
only ones that are misread.
-/
import Mathlib.Algebra.Group.Nat.Defs
import Mathlib.Data.List.Basic
import ModuleLinks.Dialect.Escape

set_option autoImplicit false

namespace ModuleLinks

theorem CodePoint.ofChar_inj {a b : Char} : CodePoint.ofChar a = CodePoint.ofChar b ↔ a = b :=
  ⟨CodePoint.ofChar_injective, congrArg _⟩

namespace Escape

/-! ## Hexadecimal digits -/

/-- **A hexadecimal digit** as it is written: by its value, as a capital or not. -/
structure HexDigit where
  value : Fin 16
  capital : Bool

namespace HexDigit

/-- The digit as it is written, in small letters or capitals. -/
def char (d : HexDigit) : Char :=
  if d.capital then (Nat.digitChar d.value).toUpper else Nat.digitChar d.value

/-- The digit as a code point. -/
def point (d : HexDigit) : CodePoint := CodePoint.ofChar d.char

/-- The last digit of a number. -/
def ofNat (n : ℕ) : HexDigit := ⟨⟨n % 16, Nat.mod_lt n (by decide)⟩, false⟩

/-- The text of digits, most significant first. -/
def text (ds : List HexDigit) : Text := ds.map point

/-- **The number that digits spell.** -/
def number (ds : List HexDigit) : ℕ := ds.foldl (fun n d => 16 * n + d.value.val) 0

/-- A digit is read as its value. -/
theorem digit?_point (d : HexDigit) : Hexadecimal.digit? d.point = some d.value := by
  obtain ⟨value, capital⟩ := d
  revert value capital
  decide

/-- Digits stand in the range of ASCII, so they are read as they are written. -/
theorem val_point_lt (d : HexDigit) : d.point.val < 0x7F := by
  obtain ⟨value, capital⟩ := d
  revert value capital
  decide

theorem isBlank_point (d : HexDigit) : d.point.isBlank = false := by
  obtain ⟨value, capital⟩ := d
  revert value capital
  decide

/-- The signs and marks of numbers, and the brace around one, are no digits. -/
theorem is_point {mark : Char} (h : mark ∈ ['-', '+', 'x', 'X', '_', '\x7b']) (d : HexDigit) :
    d.point.is mark = false := by
  have hmarks : ∀ (value : Fin 16) (capital : Bool),
      (['-', '+', 'x', 'X', '_', '\x7b'].all fun mark =>
        !(HexDigit.point ⟨value, capital⟩).is mark) = true := by
    decide
  simpa using List.all_eq_true.1 (hmarks d.value d.capital) mark h

/-- Each digit multiplies the bound by sixteen. -/
theorem foldl_lt (ds : List HexDigit) (n : ℕ) :
    ds.foldl (fun n d => 16 * n + d.value.val) n < (n + 1) * 16 ^ ds.length := by
  induction ds generalizing n with
  | nil => simp
  | cons d rest ih =>
    have hd := d.value.isLt
    have hstep : 16 * n + d.value.val + 1 ≤ (n + 1) * 16 := by omega
    rw [List.foldl_cons, List.length_cons, Nat.pow_succ]
    calc rest.foldl (fun n d => 16 * n + d.value.val) (16 * n + d.value.val)
        < (16 * n + d.value.val + 1) * 16 ^ rest.length := ih _
      _ ≤ (n + 1) * 16 * 16 ^ rest.length := Nat.mul_le_mul_right _ hstep
      _ = (n + 1) * (16 ^ rest.length * 16) := by
        rw [Nat.mul_assoc, Nat.mul_comm 16]

/-- A number is bounded by the power of its length. -/
theorem number_lt (ds : List HexDigit) : number ds < 16 ^ ds.length := by
  have h := foldl_lt ds 0
  rwa [Nat.zero_add, Nat.one_mul] at h

/-! ## Reading digits -/

theorem dropWhile_text {p : CodePoint → Bool} (h : ∀ d : HexDigit, p d.point = false)
    (ds : List HexDigit) : (text ds).dropWhile p = text ds := by
  cases ds with
  | nil => rfl
  | cons d rest => exact List.dropWhile_cons_of_neg (by rw [h d]; exact Bool.false_ne_true)

theorem trimmed_text (ds : List HexDigit) : Hexadecimal.trimmed (text ds) = text ds := by
  have hreverse : (text ds).reverse = text ds.reverse := List.map_reverse.symm
  rw [Hexadecimal.trimmed, dropWhile_text isBlank_point, hreverse, dropWhile_text isBlank_point,
    ← hreverse, List.reverse_reverse]

theorem plain_text (ds : List HexDigit) : (text ds).map Hexadecimal.plain = text ds := by
  rw [text, List.map_map]
  apply List.map_congr_left
  intro d _
  exact if_pos d.val_point_lt

/-- A run of digits without underscores is read digit by digit. -/
theorem digitRun?_text {ds : List HexDigit} (h : ds ≠ []) :
    Hexadecimal.digitRun? (text ds) = some (ds.map fun d => d.value.val) := by
  induction ds with
  | nil => exact absurd rfl h
  | cons d rest ih =>
    cases rest with
    | nil =>
      show (Hexadecimal.digit? d.point).map ([·]) = _
      rw [digit?_point]
      rfl
    | cons e rest =>
      show Hexadecimal.digitRun? (d.point :: e.point :: text rest) = _
      -- What follows is a digit and no underscore, so nothing is skipped.
      rw [Hexadecimal.digitRun?, digit?_point, is_point (by decide)]
      show (Hexadecimal.digitRun? (text (e :: rest))).map _ = _
      rw [ih (List.cons_ne_nil e rest)]
      rfl

/-- No run of digits begins with the mark of a number: `x` is no digit. -/
theorem afterMark_text (ds : List HexDigit) : Hexadecimal.afterMark (text ds) = text ds := by
  cases ds with
  | nil => rfl
  | cons d rest =>
    cases rest with
    | nil => rfl
    | cons e rest =>
      have hx : e.point.is 'x' = false := is_point (by decide) e
      have hX : e.point.is 'X' = false := is_point (by decide) e
      show (if (d.point.is '0' && (e.point.is 'x' || e.point.is 'X')) = true then _
        else d.point :: e.point :: text rest) = _
      rw [hx, hX, Bool.or_false, Bool.and_false]
      rfl

/-- **Digits are read as their number.** -/
theorem read?_text {ds : List HexDigit} (h : ds ≠ []) :
    Hexadecimal.read? (text ds) = some (number ds : Int) := by
  have hmagnitude : Hexadecimal.magnitude? (text ds) = some (number ds) := by
    rw [Hexadecimal.magnitude?, afterMark_text, digitRun?_text h]
    exact congrArg some (List.foldl_map ..)
  cases ds with
  | nil => exact absurd rfl h
  | cons d rest =>
    rw [Hexadecimal.read?, plain_text, trimmed_text]
    -- The first digit is no sign.
    show (if d.point.is '-' = true then _ else if d.point.is '+' = true then _
      else (Hexadecimal.magnitude? (text (d :: rest))).map Int.ofNat) = _
    rw [is_point (by decide), is_point (by decide), hmagnitude]
    rfl

/-- **The code point with a number** in hexadecimal digits. -/
theorem numbered_text {ds : List HexDigit} (h : ds ≠ []) (hle : number ds ≤ 0x10FFFF) :
    numbered (text ds) = .ok [⟨number ds, hle⟩] := by
  have hcode : codePoint (number ds : Int) = .ok ⟨number ds, hle⟩ := by
    rw [codePoint, if_neg (by omega), if_neg (by omega), Int.toNat_natCast, CodePoint.ofNat?,
      dif_pos hle]
  rw [numbered, read?_text h]
  show (codePoint (number ds : Int)).map _ = _
  rw [hcode]
  rfl

end HexDigit

/-! ## Forms -/

/-- **An octal number**, of up to three digits. -/
inductive Octal where
  | one (a : Fin 8)
  | two (a b : Fin 8)
  | three (a b c : Fin 8)

namespace Octal

/-- An octal digit as it is written. -/
def digit (a : Fin 8) : Char := Nat.digitChar a

/-- An octal number as it is written. -/
def chars : Octal → List Char
  | one a => [digit a]
  | two a b => [digit a, digit b]
  | three a b c => [digit a, digit b, digit c]

/-- **The meaning of an octal number.** It ends at 255: a third digit that leads beyond is no
part of the number. -/
def value : Octal → Text
  | one a => [⟨a, by omega⟩]
  | two a b => [⟨8 * a + b, by omega⟩]
  | three a b c =>
    if a < 4 then [⟨64 * a + 8 * b + c, by omega⟩]
    else [⟨8 * a + b, by omega⟩, CodePoint.ofChar (digit c)]

/-- The zero, which newer programs have too. -/
def isZero : Octal → Bool
  | one a => a = 0
  | _ => false

/-- What is read of it: the null character for the zero alone, and for any other number its
digits. -/
def read (o : Octal) : Text :=
  if o.isZero then [CodePoint.ofChar '\x00'] else Text.ofChars o.chars

end Octal

/-- **The breaks between lines.** -/
inductive LineBreak where
  | lineFeed
  | carriageReturn
  | both
  | lineSeparator
  | paragraphSeparator

/-- A line break as it is written. -/
def LineBreak.chars : LineBreak → List Char
  | lineFeed => ['\n']
  | carriageReturn => ['\r']
  | both => ['\r', '\n']
  | lineSeparator => ['\u2028']
  | paragraphSeparator => ['\u2029']

/-- The characters that begin no longer form and break no line. -/
def standsAlone (c : Char) : Bool :=
  c ∉ ['x', 'u', '0', '1', '2', '3', '4', '5', '6', '7', '\n', '\r', '\u2028', '\u2029']

/-- What a character denotes behind a backslash. -/
def denoted (c : Char) : Char :=
  if c = 'b' then '\x08'
  else if c = 'f' then '\x0c'
  else if c = 'n' then '\n'
  else if c = 'r' then '\r'
  else if c = 't' then '\t'
  else if c = 'v' then '\x0b'
  else c

/-- **The forms of an escape.** -/
inductive Form where
  | character (c : Char) (h : standsAlone c = true)
  | byte (a b : HexDigit)
  | unit (a b c d : HexDigit)
  /-- Digits in braces, for any code point. -/
  | point (digits : List HexDigit) (hne : digits ≠ [])
      (hle : HexDigit.number digits ≤ 0x10FFFF)
  | octal (digits : Octal)
  | continuation (lineBreak : LineBreak)

namespace Form

/-- What stands behind the backslash. -/
def body : Form → List Char
  | character c _ => [c]
  | byte a b => ['x', a.char, b.char]
  | unit a b c d => ['u', a.char, b.char, c.char, d.char]
  | point digits _ _ => 'u' :: '\x7b' :: (digits.map HexDigit.char ++ ['\x7d'])
  | octal digits => digits.chars
  | continuation lineBreak => lineBreak.chars

/-- The form with its backslash. -/
def written (f : Form) : List Char := '\\' :: f.body

/-- Two digits are within the code space, and so are four. -/
theorem number_pair_le (a b : HexDigit) : HexDigit.number [a, b] ≤ 0x10FFFF := by
  have h := HexDigit.number_lt [a, b]
  simp only [List.length_cons, List.length_nil] at h
  omega

theorem number_four_le (a b c d : HexDigit) : HexDigit.number [a, b, c, d] ≤ 0x10FFFF := by
  have h := HexDigit.number_lt [a, b, c, d]
  simp only [List.length_cons, List.length_nil] at h
  omega

/-- **What an escape means**, by the standard: a code point, which can be a surrogate, or none
for a line that goes on. -/
def value : Form → Text
  | character c _ => [CodePoint.ofChar (denoted c)]
  | byte a b => [⟨HexDigit.number [a, b], number_pair_le a b⟩]
  | unit a b c d => [⟨HexDigit.number [a, b, c, d], number_four_le a b c d⟩]
  | point digits _ hle => [⟨HexDigit.number digits, hle⟩]
  | octal digits => digits.value
  | continuation _ => []

/-- **What is read**: the same, except for octal numbers. -/
def read : Form → Text
  | octal digits => digits.read
  | f => f.value

/-- The form is an octal number and not just a zero. -/
def isLegacy : Form → Bool
  | octal digits => !digits.isZero
  | _ => false

end Form

/-! ## Reading forms -/

/-- The characters with which numbers and line breaks begin. -/
def leading : List Char := ['x', 'u', '\n', '\r', '\u2028', '\u2029']

/-- A character that is not among some has another code point than each of them. -/
theorem ofChar_ne_of_not_mem {c : Char} {characters : List Char} (h : c ∉ characters) :
    ∀ character ∈ characters, CodePoint.ofChar c ≠ CodePoint.ofChar character := by
  intro character hcharacter heq
  rw [CodePoint.ofChar_injective heq] at h
  exact h hcharacter

/-- A text that begins with no line break is none. -/
theorem isLineBreak_cons {c : CodePoint} (h : ∀ character ∈ leading, c ≠ CodePoint.ofChar character)
    (t : Text) : isLineBreak (c :: t) = false := by
  rw [Bool.eq_false_iff]
  intro hbreak
  obtain ⟨word, hword, his⟩ := List.any_eq_true.1 hbreak
  rw [Text.is_iff] at his
  -- Each break begins with one of four characters.
  have hfirst : (["\n", "\r\n", "\r", "\u2028", "\u2029"].all fun word =>
      word.toList.head?.all leading.contains) = true := rfl
  cases hchars : word.toList with
  | nil =>
    rw [Text.ofString, hchars] at his
    cases his
  | cons d rest =>
    have hd := List.all_eq_true.1 hfirst word hword
    rw [hchars] at hd
    rw [Text.ofString, hchars] at his
    exact h d (List.contains_iff_mem.1 hd) (List.cons.inj his).1

/-- What is read of a single character is what it denotes, the zero apart. -/
theorem control?_ofChar {c : Char} (h : c ≠ '0') :
    (control? (CodePoint.ofChar c)).getD (CodePoint.ofChar c) = CodePoint.ofChar (denoted c) := by
  simp only [control?, denoted, CodePoint.is_iff, CodePoint.ofChar_inj, h, if_false]
  split_ifs <;> rfl

/-- Characters that begin no number stand for themselves, unless they are one escape. -/
theorem decodeBody_of_not_leading {c : CodePoint} {t : Text}
    (h : ∀ character ∈ leading, c ≠ CodePoint.ofChar character) :
    decodeBody (c :: t) = .ok (if t = [] then [(control? c).getD c] else c :: t) := by
  have hx : c.is 'x' = false := by simpa [Bool.eq_false_iff] using h 'x' (by decide)
  have hu : c.is 'u' = false := by simpa [Bool.eq_false_iff] using h 'u' (by decide)
  have hline := isLineBreak_cons h t
  cases t with
  | nil =>
    have hnumber : number? [c] = none := rfl
    simp only [decodeBody, hnumber, hline]
    cases control? c <;> rfl
  | cons d rest =>
    have hnumber : number? (c :: d :: rest) = none := by
      rw [number?, hx, hu]
      rfl
    simp only [decodeBody, hnumber, hline]
    rfl

/-- A number is all there is to an escape. -/
theorem decodeBody_of_number {body digits : Text} (h : number? body = some digits) :
    decodeBody body = numbered digits := by
  unfold decodeBody
  rw [h]

theorem ofChars_eq_text (ds : List HexDigit) :
    Text.ofChars (ds.map HexDigit.char) = HexDigit.text ds := List.map_map

/-- **Two digits behind an `x` are read as their number.** -/
theorem decodeBody_byte (a b : HexDigit) :
    decodeBody (CodePoint.ofChar 'x' :: HexDigit.text [a, b])
      = .ok [⟨HexDigit.number [a, b], Form.number_pair_le a b⟩] :=
  HexDigit.numbered_text (List.cons_ne_nil a [b]) (Form.number_pair_le a b)

/-- **Four digits behind a `u` are read as their number**, a surrogate included. -/
theorem decodeBody_unit (a b c d : HexDigit) :
    decodeBody (CodePoint.ofChar 'u' :: HexDigit.text [a, b, c, d])
      = .ok [⟨HexDigit.number [a, b, c, d], Form.number_four_le a b c d⟩] := by
  have hbrace : a.point.is '\x7b' = false := HexDigit.is_point (by decide) a
  have hnumber : number? (CodePoint.ofChar 'u' :: HexDigit.text [a, b, c, d])
      = some (HexDigit.text [a, b, c, d]) := by
    show (if (true && a.point.is '\x7b') = true then _ else _) = _
    rw [hbrace]
    rfl
  rw [decodeBody_of_number hnumber]
  exact HexDigit.numbered_text (List.cons_ne_nil a [b, c, d]) (Form.number_four_le a b c d)

/-- What stands behind the backslash of a number in braces. -/
def braced (ds : List HexDigit) : List Char :=
  'u' :: '\x7b' :: (ds.map HexDigit.char ++ ['\x7d'])

/-- The number in braces is what stands between them. -/
theorem number?_braced (ds : List HexDigit) :
    number? (Text.ofChars (braced ds)) = some (HexDigit.text ds) := by
  have hbody : Text.ofChars (braced ds)
      = CodePoint.ofChar 'u' :: CodePoint.ofChar '\x7b'
        :: (HexDigit.text ds ++ [CodePoint.ofChar '\x7d']) := by
    rw [← ofChars_eq_text]
    simp [braced, Text.ofChars]
  have hbrace : untilBrace? (HexDigit.text ds ++ [CodePoint.ofChar '\x7d'])
      = some (HexDigit.text ds) := by
    rw [untilBrace?, List.getLast?_concat, List.dropLast_concat]
    rfl
  rw [hbody]
  show some ((untilBrace? (HexDigit.text ds ++ [CodePoint.ofChar '\x7d'])).getD _) = _
  rw [hbrace]
  rfl

/-- **Digits in braces are read as their number**, as many as there are, within the code space. -/
theorem decodeBody_point {ds : List HexDigit} (hne : ds ≠ [])
    (hle : HexDigit.number ds ≤ 0x10FFFF) :
    decodeBody (Text.ofChars (braced ds)) = .ok [⟨HexDigit.number ds, hle⟩] := by
  rw [decodeBody_of_number (number?_braced ds)]
  exact HexDigit.numbered_text hne hle

/-- The digits of an octal number are none of the characters that other forms begin with. -/
theorem Octal.digit_not_leading (a : Fin 8) : digit a ∉ leading := by
  revert a
  decide

/-- An octal number is read as its digits. -/
theorem decodeBody_octal (o : Octal) : decodeBody (Text.ofChars o.chars) = .ok o.read := by
  cases o with
  | one a =>
    have hcontrol : ∀ a : Fin 8, [(control? (CodePoint.ofChar (Octal.digit a))).getD
        (CodePoint.ofChar (Octal.digit a))] = (Octal.one a).read := by
      decide
    rw [← hcontrol]
    exact decodeBody_of_not_leading (ofChar_ne_of_not_mem (Octal.digit_not_leading a))
  | two a b => exact decodeBody_of_not_leading (ofChar_ne_of_not_mem (Octal.digit_not_leading a))
  | three a b c =>
    exact decodeBody_of_not_leading (ofChar_ne_of_not_mem (Octal.digit_not_leading a))

/-- **What is read of a form**, case by case. -/
theorem decodeBody_body (f : Form) : decodeBody (Text.ofChars f.body) = .ok f.read := by
  cases f with
  | character c h =>
    have hne : c ∉ ['x', 'u', '0', '1', '2', '3', '4', '5', '6', '7', '\n', '\r', '\u2028',
        '\u2029'] := by
      simpa [standsAlone] using h
    simp only [List.mem_cons, List.not_mem_nil, or_false, not_or] at hne
    have hleading : c ∉ leading := by simp [leading, hne]
    show _ = Except.ok [CodePoint.ofChar (denoted c)]
    rw [← control?_ofChar hne.2.2.1]
    exact decodeBody_of_not_leading (ofChar_ne_of_not_mem hleading)
  | byte a b => exact decodeBody_byte a b
  | unit a b c d => exact decodeBody_unit a b c d
  | point digits hne hle => exact decodeBody_point hne hle
  | octal digits => exact decodeBody_octal digits
  | continuation lineBreak => cases lineBreak <;> rfl

/-- **Every form is read.** -/
theorem decode_written (f : Form) : decode (Text.ofChars f.written) = .ok f.read := by
  have hbody : f.body ≠ [] := by
    cases f with
    | octal digits => cases digits <;> exact List.cons_ne_nil _ _
    | continuation lineBreak => cases lineBreak <;> exact List.cons_ne_nil _ _
    | _ => exact List.cons_ne_nil _ _
  obtain ⟨c, rest, hsplit⟩ := List.exists_cons_of_ne_nil hbody
  rw [← decodeBody_body, Form.written, hsplit]
  rfl

/-! ## What is misread -/

/-- An octal number means one character, and at least as many are read. -/
theorem Octal.length_value_le (o : Octal) : o.value.length ≤ o.read.length := by
  cases o with
  | one a =>
    revert a
    decide
  | two a b => exact Nat.le_succ 1
  | three a b c =>
    rw [value]
    split
    · exact Nat.succ_le_succ (Nat.zero_le 2)
    · exact Nat.le_succ 2

/-- An octal number that is no zero is misread: it has more digits than it means characters, or
its digit means another one. -/
theorem Octal.read_ne_value {o : Octal} (h : o.isZero = false) : o.read ≠ o.value := by
  cases o with
  | one a =>
    revert a
    decide
  | two a b => exact fun heq => absurd (congrArg List.length heq) (Nat.succ_ne_self 1)
  | three a b c =>
    -- Three characters are read, and one or two are meant.
    intro heq
    have hlength := congrArg List.length heq
    rw [value] at hlength
    split at hlength <;> cases hlength

/-- **Only octal numbers are misread**, and zero is not. -/
theorem read_eq_value_iff (f : Form) : f.read = f.value ↔ f.isLegacy = false := by
  cases f with
  | octal o =>
    show o.read = o.value ↔ (!o.isZero) = false
    constructor
    · intro heq
      rw [Bool.not_eq_false']
      by_contra hzero
      exact Octal.read_ne_value (by simpa using hzero) heq
    · intro hzero
      cases o with
      | one a =>
        have ha : a = 0 := by simpa [Octal.isZero] using hzero
        subst ha
        rfl
      | two a b => cases hzero
      | three a b c => cases hzero
  | _ => exact ⟨fun _ => rfl, fun _ => rfl⟩

/-- What is read is never shorter than what is meant. -/
theorem length_value_le (f : Form) : f.value.length ≤ f.read.length := by
  cases f with
  | octal o => exact o.length_value_le
  | _ => exact Nat.le_refl _

end Escape

end ModuleLinks
