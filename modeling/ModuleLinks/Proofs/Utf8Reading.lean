/-
Reading UTF-8 that was written from characters.

The writer is the one of the standard library, which puts the bits of a
character into one to four bytes. Reading takes the bytes of the first character
off and leaves the others, so what was written from a text is read as that text.
-/
import Mathlib.Data.Nat.Notation
import Mathlib.Tactic.SplitIfs
import ModuleLinks.Text.Utf8

set_option autoImplicit false

namespace ModuleLinks.Utf8

/-- The bytes of characters, by the writer of the standard library. -/
def encode (cs : List Char) : List UInt8 := cs.flatMap String.utf8EncodeChar

theorem ofNat?_toNat (c : Char) : CodePoint.ofNat? c.toNat = some (CodePoint.ofChar c) :=
  dif_pos (CodePoint.ofChar c).val_le

/-- A character is no surrogate, so its number is read back in every length that
it is not too small for. -/
theorem scalar?_toNat {least : ℕ} {c : Char} (h : least ≤ c.toNat) :
    scalar? least c.toNat = some (CodePoint.ofChar c) := by
  have hvalid : c.toNat < 0xD800 ∨ 0xDFFF < c.toNat := by
    rcases c.valid with h | ⟨h, _⟩
    · exact .inl h
    · exact .inr h
  have hguard : least ≤ c.toNat ∧ ¬(0xD800 ≤ c.toNat ∧ c.toNat ≤ 0xDFFF) := ⟨h, by omega⟩
  rw [scalar?, if_pos hguard, ofNat?_toNat]

theorem toNat_ofNat {n : ℕ} (h : n < 256) : (UInt8.ofNat n).toNat = n := by
  rw [UInt8.toNat_ofNat', Nat.mod_eq_of_lt h]

/-- A continuation byte is read as the six bits that were put into it. -/
theorem continuation?_ofNat {n : ℕ} (h : n < 0x40) :
    continuation? (UInt8.ofNat (n + 0x80)) = some n := by
  have hbyte : (UInt8.ofNat (n + 0x80)).toNat = n + 0x80 := toNat_ofNat (by omega)
  have hrange : 0x80 ≤ n + 0x80 ∧ n + 0x80 < 0xC0 := by omega
  rw [continuation?, hbyte, if_pos hrange, Nat.add_sub_cancel]

/-! ## One character, by the number of its bytes -/

section Lengths

variable {c : Char} (rest : List UInt8)

/-- **A character is read off the front**, in each of the four lengths. -/
theorem decode?_one (h : c.toNat < 0x80) :
    decode? (UInt8.ofNat c.toNat :: rest) = (decode? rest).map (CodePoint.ofChar c :: ·) := by
  have hbyte : (UInt8.ofNat c.toNat).toNat = c.toNat := toNat_ofNat (by omega)
  rw [decode?.eq_def]
  show (if (UInt8.ofNat c.toNat).toNat < 0x80 then _ else _) = _
  rw [hbyte, if_pos h, ofNat?_toNat]
  cases decode? rest <;> rfl

theorem decode?_two {x y : ℕ} (hx : x < 0x20) (hy : y < 0x40) (hn : x * 0x40 + y = c.toNat)
    (hleast : 0x80 ≤ c.toNat) :
    decode? (UInt8.ofNat (x + 0xC0) :: UInt8.ofNat (y + 0x80) :: rest)
      = (decode? rest).map (CodePoint.ofChar c :: ·) := by
  have hlead : (UInt8.ofNat (x + 0xC0)).toNat = x + 0xC0 := toNat_ofNat (by omega)
  have hpoint : two? (UInt8.ofNat (x + 0xC0)) (UInt8.ofNat (y + 0x80))
      = some (CodePoint.ofChar c) := by
    rw [two?, continuation?_ofNat hy, hlead, Nat.add_sub_cancel]
    show scalar? 0x80 (x * 0x40 + y) = _
    rw [hn, scalar?_toNat hleast]
  rw [decode?.eq_def]
  show (if (UInt8.ofNat (x + 0xC0)).toNat < 0x80 then _
    else if (UInt8.ofNat (x + 0xC0)).toNat < 0xC0 then _
    else if (UInt8.ofNat (x + 0xC0)).toNat < 0xE0 then _ else _) = _
  rw [hlead, if_neg (by omega), if_neg (by omega), if_pos (by omega), hpoint]
  cases decode? rest <;> rfl

theorem decode?_three {x y z : ℕ} (hx : x < 0x10) (hy : y < 0x40) (hz : z < 0x40)
    (hn : (x * 0x40 + y) * 0x40 + z = c.toNat) (hleast : 0x800 ≤ c.toNat) :
    decode? (UInt8.ofNat (x + 0xE0) :: UInt8.ofNat (y + 0x80) :: UInt8.ofNat (z + 0x80) :: rest)
      = (decode? rest).map (CodePoint.ofChar c :: ·) := by
  have hlead : (UInt8.ofNat (x + 0xE0)).toNat = x + 0xE0 := toNat_ofNat (by omega)
  have hpoint : three? (UInt8.ofNat (x + 0xE0)) (UInt8.ofNat (y + 0x80)) (UInt8.ofNat (z + 0x80))
      = some (CodePoint.ofChar c) := by
    rw [three?, continuation?_ofNat hy, continuation?_ofNat hz, hlead, Nat.add_sub_cancel]
    show scalar? 0x800 ((x * 0x40 + y) * 0x40 + z) = _
    rw [hn, scalar?_toNat hleast]
  rw [decode?.eq_def]
  show (if (UInt8.ofNat (x + 0xE0)).toNat < 0x80 then _
    else if (UInt8.ofNat (x + 0xE0)).toNat < 0xC0 then _
    else if (UInt8.ofNat (x + 0xE0)).toNat < 0xE0 then _
    else if (UInt8.ofNat (x + 0xE0)).toNat < 0xF0 then _ else _) = _
  rw [hlead, if_neg (by omega), if_neg (by omega), if_neg (by omega), if_pos (by omega), hpoint]
  cases decode? rest <;> rfl

theorem decode?_four {w x y z : ℕ} (hw : w < 0x08) (hx : x < 0x40) (hy : y < 0x40) (hz : z < 0x40)
    (hn : ((w * 0x40 + x) * 0x40 + y) * 0x40 + z = c.toNat) (hleast : 0x10000 ≤ c.toNat) :
    decode? (UInt8.ofNat (w + 0xF0) :: UInt8.ofNat (x + 0x80) :: UInt8.ofNat (y + 0x80)
        :: UInt8.ofNat (z + 0x80) :: rest)
      = (decode? rest).map (CodePoint.ofChar c :: ·) := by
  have hlead : (UInt8.ofNat (w + 0xF0)).toNat = w + 0xF0 := toNat_ofNat (by omega)
  have hpoint : four? (UInt8.ofNat (w + 0xF0)) (UInt8.ofNat (x + 0x80)) (UInt8.ofNat (y + 0x80))
      (UInt8.ofNat (z + 0x80)) = some (CodePoint.ofChar c) := by
    rw [four?, continuation?_ofNat hx, continuation?_ofNat hy, continuation?_ofNat hz, hlead,
      Nat.add_sub_cancel]
    show scalar? 0x10000 (((w * 0x40 + x) * 0x40 + y) * 0x40 + z) = _
    rw [hn, scalar?_toNat hleast]
  rw [decode?, hlead, if_neg (by omega), if_neg (by omega)]
  -- The lead byte says the length: the other three are ruled out one by one.
  show (if w + 0xF0 < 0xE0 then _ else if w + 0xF0 < 0xF0 then _
    else if w + 0xF0 < 0xF8 then _ else _) = _
  rw [if_neg (by omega), if_neg (by omega), if_pos (by omega), hpoint]
  cases decode? rest <;> rfl

end Lengths

/-- **The first character is read off** and what follows is left. -/
theorem decode?_utf8EncodeChar_append (c : Char) (rest : List UInt8) :
    decode? (String.utf8EncodeChar c ++ rest)
      = (decode? rest).map (CodePoint.ofChar c :: ·) := by
  have hle : c.toNat ≤ 0x10FFFF := (CodePoint.ofChar c).val_le
  have hval : c.val.toNat = c.toNat := rfl
  unfold String.utf8EncodeChar
  simp only [hval]
  split_ifs with hone htwo hthree
  · exact decode?_one rest (by omega)
  · exact decode?_two rest (by omega) (by omega) (by omega) (by omega)
  · exact decode?_three rest (by omega) (by omega) (by omega) (by omega) (by omega)
  · exact decode?_four rest (by omega) (by omega) (by omega) (by omega) (by omega) (by omega)

/-- **What was written from characters is read as their text.** -/
theorem decode?_encode (cs : List Char) : decode? (encode cs) = some (Text.ofChars cs) := by
  induction cs with
  | nil => rfl
  | cons c cs ih =>
    rw [encode] at ih
    rw [encode, List.flatMap_cons, decode?_utf8EncodeChar_append, ih]
    rfl

end ModuleLinks.Utf8
