/-
Hexadecimal numbers, written and read.

Writing is at a fixed width with lower-case digits, as escapes want it.

Reading is generous, as for a number that someone typed: blanks around it, a
sign, `0x` in front, single underscores between digits (and one between `0x`
and the first digit), decimal digits of any script. What is left over after
that makes the text no number.
-/
import ModuleLinks.Text.Blank
import ModuleLinks.Text.Digit

set_option autoImplicit false

namespace ModuleLinks.Hexadecimal

/-- The lowest `width` hexadecimal digits of `n`, most significant first. -/
def padded : Nat → Nat → List Char
  | 0, _ => []
  | width + 1, n => padded width (n / 16) ++ [Nat.digitChar (n % 16)]

/-- The value of a hexadecimal digit of ASCII. -/
def digit? (c : CodePoint) : Option Nat :=
  if 0x30 ≤ c.val ∧ c.val ≤ 0x39 then some (c.val - 0x30)
  else if 0x41 ≤ c.val ∧ c.val ≤ 0x46 then some (c.val - 0x41 + 10)
  else if 0x61 ≤ c.val ∧ c.val ≤ 0x66 then some (c.val - 0x61 + 10)
  else none

/-- A blank beyond ASCII reads as the space, a decimal digit beyond ASCII as the ASCII digit of
its value, and everything else as itself. -/
def plain (c : CodePoint) : CodePoint :=
  if c.val < 0x7F then c
  else if c.isBlank then CodePoint.ofChar ' '
  else match c.decimalDigit? with
    | some d => CodePoint.ofChar (Nat.digitChar d)
    | none => c

/-- The text without the blanks at both its ends. -/
def trimmed (t : Text) : Text :=
  ((t.dropWhile CodePoint.isBlank).reverse.dropWhile CodePoint.isBlank).reverse

/-- **A run of digits**, with at most one underscore between two of them, as their values. -/
def digitRun? : Text → Option (List Nat)
  | [] => none
  | [c] => (digit? c).map ([·])
  | c :: d :: rest =>
    match digit? c with
    | none => none
    | some v =>
      if d.is '_' then (digitRun? rest).map (v :: ·)
      else (digitRun? (d :: rest)).map (v :: ·)

/-- The text after a leading `0x`, or the whole text if there is none. -/
def afterMark : Text → Text
  | c :: d :: rest =>
    if c.is '0' && (d.is 'x' || d.is 'X') then
      match rest with
      | e :: tail => if e.is '_' then tail else rest
      | [] => []
    else c :: d :: rest
  | t => t

/-- The number that a run of digits denotes. -/
def value (digits : List Nat) : Nat := digits.foldl (fun n d => 16 * n + d) 0

/-- A number without a sign. -/
def magnitude? (t : Text) : Option Nat := (digitRun? (afterMark t)).map value

/-- **Reading a number**: an optional sign and a magnitude, between blanks. -/
def read? (t : Text) : Option Int :=
  match trimmed (t.map plain) with
  | c :: rest =>
    if c.is '-' then (magnitude? rest).map fun n => -(n : Int)
    else if c.is '+' then (magnitude? rest).map Int.ofNat
    else (magnitude? (c :: rest)).map Int.ofNat
  | [] => none

end ModuleLinks.Hexadecimal
