/-
Escapes in string literals of JavaScript.

An escape is a backslash and what follows it. It denotes a code point by
number (`x` with two digits, `u` with four, or `u` with digits in braces), a
control character by letter, nothing at all when a line break follows, and
otherwise what follows it, as it stands.

The number is read generously, and read wherever a `u` or `x` has anything
after it, so a malformed escape is a failure and not a text.
-/
import ModuleLinks.Failure
import ModuleLinks.Text.Hexadecimal

set_option autoImplicit false

namespace ModuleLinks.Escape

/-- The control characters that a letter denotes. -/
def control? (c : CodePoint) : Option CodePoint :=
  if c.is 'b' then some '\x08'
  else if c.is 'f' then some '\x0c'
  else if c.is 'n' then some '\n'
  else if c.is 'r' then some '\r'
  else if c.is 't' then some '\t'
  else if c.is 'v' then some '\x0b'
  else if c.is '0' then some '\x00'
  else none

/-- A line break, which a backslash continues. -/
def isLineBreak (t : Text) : Bool :=
  t.isOneOf ["\n", "\r\n", "\r", "\u2028", "\u2029"]

/-- The code point with a number: the code space bounds it, and machine integers bound what is
looked up there at all. -/
def codePoint (n : Int) : Except Failure CodePoint :=
  if n < -0x80000000 ∨ 0x80000000 ≤ n then .error .outOfRange
  else if n < 0 then .error .noCodePoint
  else match CodePoint.ofNat? n.toNat with
    | some c => .ok c
    | none => .error .noCodePoint

/-- The code point whose number a text spells. -/
def numbered (digits : Text) : Except Failure Text :=
  match Hexadecimal.read? digits with
  | some n => (codePoint n).map fun c => [c]
  | none => .error .notANumber

/-- What stands between braces at the end of the text, if the text ends in a brace. -/
def untilBrace? (t : Text) : Option Text :=
  match t.getLast? with
  | some c => if c.is '}' then some t.dropLast else none
  | none => none

/-- The text of the number in an escape by number. -/
def number? : Text → Option Text
  | c :: d :: rest =>
    if c.is 'u' && d.is '{' then some ((untilBrace? rest).getD (d :: rest))
    else if c.is 'u' || c.is 'x' then some (d :: rest)
    else none
  | _ => none

/-- What a backslash and `body` denote. -/
def decodeBody (body : Text) : Except Failure Text :=
  match number? body with
  | some digits => numbered digits
  | none =>
    match body with
    | [c] =>
      match control? c with
      | some d => .ok [d]
      | none => .ok (if isLineBreak body then [] else body)
    | _ => .ok (if isLineBreak body then [] else body)

/-- **The text that an escape denotes.** A backslash alone stands for itself. -/
def decode (escape : Text) : Except Failure Text :=
  match escape with
  | _ :: c :: rest => decodeBody (c :: rest)
  | _ => .ok escape

end ModuleLinks.Escape
