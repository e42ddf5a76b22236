/-
Reading a JSON document.

The reader takes the grammar of the standard and, beyond it, the names `NaN`,
`Infinity` and `-Infinity`. A string may hold no control character as it is.
Where an object names a key twice, the later value stands in the place of the
earlier one. An integer of more than 4300 digits is refused as too long, and
that at the point where it stands: a fault further on in the document is not
looked for.

A scanner returns what it read and the rest of the document, so "what remains"
is a list of characters throughout.
-/
import ModuleLinks.Json.Basic
import ModuleLinks.Text.Hexadecimal
import ModuleLinks.Text.Units

set_option autoImplicit false

namespace ModuleLinks.Json

/-- **Why a document was refused.** -/
inductive ReadFault where
  /-- The document does not follow the grammar. -/
  | malformed
  /-- The document holds an integer of too many digits. -/
  | integerTooLong
deriving DecidableEq

/-- The blanks of the grammar. -/
def isGap (c : Char) : Bool := c == ' ' || c == '\t' || c == '\n' || c == '\r'

/-- The document without the blanks in front. -/
def skipGap (s : List Char) : List Char := s.dropWhile isGap

/-! ## Strings -/

/-- The UTF-16 unit that four hexadecimal digits denote. -/
def unit? (a b c d : Char) : Option CodePoint := do
  let digits ← (Text.ofChars [a, b, c, d]).mapM Hexadecimal.digit?
  CodePoint.ofNat? (Hexadecimal.value digits)

/-- The code point of an escape of one character. -/
def shortEscape? (c : Char) : Option CodePoint :=
  match c with
  | '"' => some '"'
  | '\\' => some '\\'
  | '/' => some '/'
  | 'b' => some '\x08'
  | 'f' => some '\x0c'
  | 'n' => some '\n'
  | 'r' => some '\r'
  | 't' => some '\t'
  | _ => none

/-- **The units of a string** after its opening quotation mark, escapes decoded one by one, and the
document after its closing one. -/
def readUnits : List Char → Option (Text × List Char)
  | [] => none
  | '"' :: rest => some ([], rest)
  | '\\' :: 'u' :: a :: b :: c :: d :: rest => do
    let unit ← unit? a b c d
    let (units, after) ← readUnits rest
    return (unit :: units, after)
  | '\\' :: c :: rest => do
    let unit ← shortEscape? c
    let (units, after) ← readUnits rest
    return (unit :: units, after)
  | c :: rest =>
    if c.toNat < 0x20 then none
    else do
      let (units, after) ← readUnits rest
      return (CodePoint.ofChar c :: units, after)

/-- A string after its opening quotation mark. Surrogates come from escapes only, so a pair of them
is a pair of escapes. -/
def readText (s : List Char) : Option (Text × List Char) :=
  (readUnits s).map fun (units, after) => (Text.joined units, after)

/-! ## Numbers -/

/-- The natural number that decimal digits denote. -/
def decimalValue (digits : List Char) : Nat :=
  digits.foldl (fun n c => 10 * n + (c.toNat - 0x30)) 0

/-- The digits in front of a document, and the document after them. -/
def spanDigits (s : List Char) : List Char × List Char := s.span Char.isDigit

/-- The digits before the point: a zero stands alone. -/
def readWhole (s : List Char) : Option (List Char × List Char) :=
  match s with
  | '0' :: rest => some (['0'], rest)
  | _ => match spanDigits s with
    | ([], _) => none
    | found => some found

/-- The digits after the point; none, and nothing read, where no point with a digit follows. -/
def readFraction (s : List Char) : List Char × List Char :=
  match s with
  | '.' :: rest => match spanDigits rest with
    | ([], _) => ([], s)
    | found => found
  | _ => ([], s)

/-- The digits of an exponent, from behind its sign. -/
def readPower (negative : Bool) (s : List Char) : Option (Int × List Char) :=
  match spanDigits s with
  | ([], _) => none
  | (digits, rest) =>
    some (if negative then -(decimalValue digits : Int) else decimalValue digits, rest)

/-- The exponent, if one follows. -/
def readExponent (s : List Char) : Option (Int × List Char) :=
  match s with
  | 'e' :: '-' :: rest | 'E' :: '-' :: rest => readPower true rest
  | 'e' :: '+' :: rest | 'E' :: '+' :: rest => readPower false rest
  | 'e' :: rest | 'E' :: rest => readPower false rest
  | _ => none

/-- The most digits that an integer may have. -/
def integerDigitLimit : Nat := 4300

/-- **A number** from behind its sign. -/
def readNumber (negative : Bool) (s : List Char) : Except ReadFault (Json × List Char) :=
  match readWhole s with
  | none => .error .malformed
  | some (whole, afterWhole) =>
    let (fraction, afterFraction) := readFraction afterWhole
    match readExponent afterFraction with
    | some (power, rest) =>
      .ok (.float (.ofDecimal negative (decimalValue (whole ++ fraction))
        (power - fraction.length)), rest)
    | none =>
      if fraction ≠ [] then
        .ok (.float (.ofDecimal negative (decimalValue (whole ++ fraction)) (-fraction.length)),
          afterFraction)
      else if whole.length > integerDigitLimit then .error .integerTooLong
      else
        .ok (.int (if negative then -(decimalValue whole : Int) else decimalValue whole),
          afterFraction)

/-! ## Values -/

mutual

/-- **A value** at the head of a document, and the document after it. -/
def readValue : Nat → List Char → Except ReadFault (Json × List Char)
  | 0, _ => .error .malformed
  | fuel + 1, s =>
    match s with
    | '"' :: rest => match readText rest with
      | some (t, after) => .ok (.str t, after)
      | none => .error .malformed
    | '[' :: rest => match skipGap rest with
      | ']' :: after => .ok (.arr [], after)
      | inner => do
        let (items, after) ← readItems fuel inner
        return (.arr items, after)
    | '{' :: rest => match skipGap rest with
      | '}' :: after => .ok (.obj [], after)
      | inner => do
        let (fields, after) ← readFields fuel inner
        return (ofFields fields, after)
    | 'n' :: 'u' :: 'l' :: 'l' :: after => .ok (.null, after)
    | 't' :: 'r' :: 'u' :: 'e' :: after => .ok (.bool true, after)
    | 'f' :: 'a' :: 'l' :: 's' :: 'e' :: after => .ok (.bool false, after)
    | 'N' :: 'a' :: 'N' :: after => .ok (.float .nan, after)
    | 'I' :: 'n' :: 'f' :: 'i' :: 'n' :: 'i' :: 't' :: 'y' :: after =>
      .ok (.float (.infinity false), after)
    | '-' :: 'I' :: 'n' :: 'f' :: 'i' :: 'n' :: 'i' :: 't' :: 'y' :: after =>
      .ok (.float (.infinity true), after)
    | '-' :: rest => readNumber true rest
    | _ => readNumber false s

/-- The items of a list up to its closing bracket. -/
def readItems : Nat → List Char → Except ReadFault (List Json × List Char)
  | 0, _ => .error .malformed
  | fuel + 1, s => do
    let (item, after) ← readValue fuel s
    match skipGap after with
    | ',' :: rest =>
      let (items, last) ← readItems fuel (skipGap rest)
      return (item :: items, last)
    | ']' :: rest => return ([item], rest)
    | _ => .error .malformed

/-- The fields of an object up to its closing brace. -/
def readFields : Nat → List Char → Except ReadFault (List (Text × Json) × List Char)
  | 0, _ => .error .malformed
  | fuel + 1, s =>
    match s with
    | '"' :: rest => match readText rest with
      | none => .error .malformed
      | some (key, afterKey) => match skipGap afterKey with
        | ':' :: afterColon => do
          let (value, after) ← readValue fuel (skipGap afterColon)
          match skipGap after with
          | ',' :: next =>
            let (fields, last) ← readFields fuel (skipGap next)
            return ((key, value) :: fields, last)
          | '}' :: last => return ([(key, value)], last)
          | _ => .error .malformed
        | _ => .error .malformed
    | _ => .error .malformed

end

/-- **The value of a document.** Each step of the reader either takes a character or opens a list or
an object after it took one, so twice the length of the document bounds their number. -/
def read (document : List Char) : Except ReadFault Json := do
  let (j, after) ← readValue (2 * document.length + 2) (skipGap document)
  match skipGap after with
  | [] => return j
  | _ => .error .malformed

end ModuleLinks.Json
