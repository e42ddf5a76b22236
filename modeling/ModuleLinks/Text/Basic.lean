/-
Text as a finite sequence of code points.

Names, sources and paths come out of syntax trees, and a string literal may
denote half of a surrogate pair: the escape for `0xD83D` alone is a legal
literal. So a text here is a list of **code points**, the surrogates among
them, and not a `String`, whose characters are scalar values only. Documents
(what is read and written as a file) stay lists of `Char`; the two meet in
`Text.ofString` and `Text.toChars?`.

Main statements: `Text.ofString` is injective, so comparing a text with a
literal is comparing strings, and `Text.toChars?` undoes it.
-/

set_option autoImplicit false

namespace ModuleLinks

/-- **A code point**: a number up to `0x10FFFF`, a surrogate included. -/
structure CodePoint where
  val : Nat
  /-- The code space ends at `0x10FFFF`. -/
  val_le : val ≤ 0x10FFFF
deriving DecidableEq

namespace CodePoint

theorem ext {a b : CodePoint} (h : a.val = b.val) : a = b := by
  cases a; cases b; cases h; rfl

/-- The code point of a character. -/
def ofChar (c : Char) : CodePoint where
  val := c.toNat
  val_le := by
    rcases c.valid with h | ⟨_, h⟩ <;> simp only [Char.toNat, UInt32.toNat] at * <;> omega

instance : Coe Char CodePoint := ⟨ofChar⟩

/-- The code point with a number, if the number lies in the code space. -/
def ofNat? (n : Nat) : Option CodePoint :=
  if h : n ≤ 0x10FFFF then some ⟨n, h⟩ else none

/-- The character of a code point; a surrogate has none. -/
def toChar? (c : CodePoint) : Option Char :=
  if h : c.val.isValidChar then some (Char.ofNatAux c.val h) else none

/-- The code point of the character `ch`. -/
def is (c : CodePoint) (ch : Char) : Bool := c.val == ch.toNat

/-- The first half of a surrogate pair. -/
def isHighSurrogate (c : CodePoint) : Bool := 0xD800 ≤ c.val && c.val ≤ 0xDBFF

/-- The second half of a surrogate pair. -/
def isLowSurrogate (c : CodePoint) : Bool := 0xDC00 ≤ c.val && c.val ≤ 0xDFFF

/-- Either half of a surrogate pair. -/
def isSurrogate (c : CodePoint) : Bool := 0xD800 ≤ c.val && c.val ≤ 0xDFFF

@[simp] theorem ofChar_val (c : Char) : (ofChar c).val = c.toNat := rfl

theorem ofChar_injective {a b : Char} (h : ofChar a = ofChar b) : a = b := by
  have hv : a.toNat = b.toNat := congrArg CodePoint.val h
  exact Char.ext (UInt32.toNat_inj.1 hv)

@[simp] theorem is_iff (c : CodePoint) (ch : Char) : c.is ch = true ↔ c = ofChar ch := by
  rw [is, beq_iff_eq]
  exact ⟨fun h => ext h, fun h => congrArg CodePoint.val h⟩

end CodePoint

/-- **A text**: a finite sequence of code points. -/
abbrev Text := List CodePoint

namespace Text

/-- The text of a list of characters. -/
def ofChars (cs : List Char) : Text := cs.map CodePoint.ofChar

/-- The text of a string. -/
def ofString (s : String) : Text := ofChars s.toList

/-- The characters of a text; a text that holds a surrogate has none. -/
def toChars? (t : Text) : Option (List Char) := t.mapM CodePoint.toChar?

/-- The text spells the string. -/
def is (t : Text) (s : String) : Bool := t == ofString s

/-- The text begins with the string. -/
def startsWith (t : Text) (s : String) : Bool := (ofString s).isPrefixOf t

/-- The text spells one of the strings. -/
def isOneOf (t : Text) (words : List String) : Bool := words.any t.is

theorem ofChars_injective {a b : List Char} (h : ofChars a = ofChars b) : a = b := by
  induction a generalizing b with
  | nil => cases b with
    | nil => rfl
    | cons => simp [ofChars] at h
  | cons c r ih => cases b with
    | nil => simp [ofChars] at h
    | cons d s =>
      simp only [ofChars, List.map_cons, List.cons.injEq] at h
      exact congr (congrArg List.cons (CodePoint.ofChar_injective h.1)) (ih h.2)

theorem ofString_injective {a b : String} (h : ofString a = ofString b) : a = b :=
  String.toList_inj.1 (ofChars_injective h)

@[simp] theorem ofString_inj {a b : String} : ofString a = ofString b ↔ a = b :=
  ⟨ofString_injective, fun h => h ▸ rfl⟩

@[simp] theorem is_iff (t : Text) (s : String) : t.is s = true ↔ t = ofString s := by
  rw [is, beq_iff_eq]

end Text

end ModuleLinks
