/-
UTF-8, read strictly.

A sequence of bytes is well formed when each code point stands in its shortest
form and is no surrogate. The reader takes one code point at a time: the lead
byte says how many continuation bytes follow and which code points are too
small for that length.

The names of files are bytes as well, but need not be well formed. A byte that is
out of place there is kept as a code point of its own.
-/
import ModuleLinks.Text.Basic
import ModuleLinks.Total

set_option autoImplicit false

namespace ModuleLinks.Utf8

/-- The six payload bits of a continuation byte. -/
def continuation? (b : UInt8) : Option Nat :=
  if 0x80 ≤ b.toNat ∧ b.toNat < 0xC0 then some (b.toNat - 0x80) else none

/-- The code point of a sequence whose length is the shortest one from `least` on. -/
def scalar? (least n : Nat) : Option CodePoint :=
  if least ≤ n ∧ ¬(0xD800 ≤ n ∧ n ≤ 0xDFFF) then CodePoint.ofNat? n else none

/-- A sequence of two bytes. -/
def two? (a b : UInt8) : Option CodePoint := do
  scalar? 0x80 ((a.toNat - 0xC0) * 0x40 + (← continuation? b))

/-- A sequence of three bytes. -/
def three? (a b c : UInt8) : Option CodePoint := do
  scalar? 0x800 (((a.toNat - 0xE0) * 0x40 + (← continuation? b)) * 0x40 + (← continuation? c))

/-- A sequence of four bytes. -/
def four? (a b c d : UInt8) : Option CodePoint := do
  scalar? 0x10000
    ((((a.toNat - 0xF0) * 0x40 + (← continuation? b)) * 0x40 + (← continuation? c)) * 0x40
      + (← continuation? d))

/-- **The text of a sequence of bytes**, if it is well formed. -/
def decode? : List UInt8 → Option Text
  | [] => some []
  | a :: r₁ =>
    if a.toNat < 0x80 then do
      let first ← CodePoint.ofNat? a.toNat
      return first :: (← decode? r₁)
    else if a.toNat < 0xC0 then none
    else match r₁ with
      | [] => none
      | b :: r₂ =>
        if a.toNat < 0xE0 then do
          let first ← two? a b
          return first :: (← decode? r₂)
        else match r₂ with
          | [] => none
          | c :: r₃ =>
            if a.toNat < 0xF0 then do
              let first ← three? a b c
              return first :: (← decode? r₃)
            else match r₃ with
              | [] => none
              | d :: r₄ =>
                if a.toNat < 0xF8 then do
                  let first ← four? a b c d
                  return first :: (← decode? r₄)
                else none

/-- **The stand-in for a byte** that is part of no well-formed sequence: the low surrogate whose
last eight bits are the byte. The names of files are read so, and written back as they were. -/
def isLoneByte (c : CodePoint) : Bool := 0xDC80 ≤ c.val && c.val ≤ 0xDCFF

/-- How many bytes a code point takes in the name of a file. -/
def size (c : CodePoint) : Nat :=
  if c.val < 0x80 || isLoneByte c then 1
  else if c.val < 0x800 then 2
  else if c.val < 0x10000 then 3
  else 4

/-- How many bytes a text takes in the name of a file. -/
def byteLength (t : Text) : Nat := total size t

end ModuleLinks.Utf8
