/-
The value of a string literal in a parse tree.

A parse tree takes a string apart into quotation marks, fragments and escapes. By the
standard its value is made of UTF-16 units: those of the pieces, one after the other. A
high surrogate with a low one behind it is one character, also where the two come from
different escapes. That is the text that other trees carry for the literal as a whole.

The text that is read is put together from texts of the pieces, each read on its own. So
it is the value unless a piece is misread, or halves of a character come from two pieces.

Main statement: `literal?_eq_value_iff`.
-/
import ModuleLinks.Dialect.TreeSitter
import ModuleLinks.Proofs.EscapeForms
import ModuleLinks.Proofs.TextReading
import ModuleLinks.Proofs.Utf8Reading
import ModuleLinks.Proofs.Yields

set_option autoImplicit false

namespace ModuleLinks

/-! ## Texts without pairs -/

namespace Text

/-- **No high surrogate has a low one behind it.** -/
def Unpaired (t : Text) : Prop :=
  t.IsChain fun c d => (c.isHighSurrogate && d.isLowSurrogate) = false

instance (t : Text) : Decidable t.Unpaired :=
  inferInstanceAs (Decidable (t.IsChain _))

theorem length_joined_le (t : Text) : t.joined.length ≤ t.length := by
  fun_induction joined t with
  | case1 => exact Nat.le_refl 0
  | case2 c => exact Nat.le_refl 1
  | case3 c d rest hpair ih =>
    simp only [List.length_cons]
    omega
  | case4 c d rest hpair ih => exact Nat.succ_le_succ ih

/-- **Joining changes nothing** exactly if nothing can be joined, and then only it keeps the
length. -/
theorem joined_cases (t : Text) :
    t.Unpaired ∧ t.joined = t ∨ ¬t.Unpaired ∧ t.joined.length < t.length := by
  fun_induction joined t with
  | case1 => exact .inl ⟨.nil, rfl⟩
  | case2 c => exact .inl ⟨.singleton c, rfl⟩
  | case3 c d rest hpair ih =>
    have hle := length_joined_le rest
    refine .inr ⟨?_, ?_⟩
    · -- The pair that was joined stands in front.
      intro h
      have hfirst := (List.isChain_cons_cons.1 h).1
      rw [hpair] at hfirst
      cases hfirst
    · simp only [List.length_cons]
      omega
  | case4 c d rest hpair ih =>
    have hfirst : (c.isHighSurrogate && d.isLowSurrogate) = false := by simpa using hpair
    have hiff : Unpaired (c :: d :: rest) ↔ Unpaired (d :: rest) :=
      List.isChain_cons_cons.trans (and_iff_right hfirst)
    rw [hiff]
    exact ih.imp (fun h => ⟨h.1, congrArg (c :: ·) h.2⟩) fun h => ⟨h.1, Nat.succ_lt_succ h.2⟩

end Text

namespace StringLiteral

/-! ## Pieces -/

/-- **A piece of a string literal.** -/
inductive Piece where
  | quotationMark (double : Bool)
  | fragment (chars : List Char)
  | escape (form : Escape.Form)

namespace Piece

/-- What a piece means. -/
def value : Piece → Text
  | quotationMark _ => []
  | fragment chars => Text.ofChars chars
  | escape form => form.value

/-- What is read of a piece. -/
def read : Piece → Text
  | quotationMark _ => []
  | fragment chars => Text.ofChars chars
  | escape form => form.read

/-- The type of the node of a piece. -/
def type : Piece → String
  | quotationMark double => if double then "\x22" else "\x27"
  | fragment _ => "string_fragment"
  | escape _ => "escape_sequence"

/-- The piece as it is written. -/
def written : Piece → List Char
  | quotationMark double => if double then ['\x22'] else ['\x27']
  | fragment chars => chars
  | escape form => form.written

/-- **The node is that of the piece.** -/
structure Is (x : Piece) (node : ParseNode) : Prop where
  type : node.hasType x.type = true
  bytes : node.bytes = Utf8.encode x.written

/-- The piece is an octal number, and not just a zero. -/
def isLegacy : Piece → Bool
  | escape form => form.isLegacy
  | _ => false

/-- A piece is misread only where it is an octal number. -/
theorem read_eq_value_iff (x : Piece) : x.read = x.value ↔ x.isLegacy = false := by
  cases x with
  | escape form => exact Escape.read_eq_value_iff form
  | _ => exact ⟨fun _ => rfl, fun _ => rfl⟩

theorem length_value_le (x : Piece) : x.value.length ≤ x.read.length := by
  cases x with
  | escape form => exact Escape.length_value_le form
  | _ => exact Nat.le_refl _

theorem Is.text {x : Piece} {node : ParseNode} (h : x.Is node) :
    node.text = .ok (Text.ofChars x.written) := by
  rw [ParseNode.text, h.bytes, Utf8.decode?_encode]

/-- **What a piece contributes** to the text of its literal. -/
theorem Is.piece {x : Piece} {node : ParseNode} (h : x.Is node) : node.piece = .ok x.read := by
  have htype : node.type = Text.ofString x.type := (Text.is_iff _ _).1 h.type
  cases x with
  | quotationMark double =>
    cases double <;> simp [ParseNode.piece, ParseNode.hasType, htype, Piece.type, read]
  | fragment chars =>
    have hfragment : node.hasType "string_fragment" = true := h.type
    rw [ParseNode.piece, if_pos hfragment, h.text]
    rfl
  -- The type of the node tells an escape from characters that stand for themselves.
  | escape form =>
    have hne : ¬node.hasType "string_fragment" = true := by
      simp [ParseNode.hasType, htype, Piece.type]
    have hescape : node.hasType "escape_sequence" = true := h.type
    rw [ParseNode.piece, if_neg hne, if_pos hescape, h.text]
    exact Escape.decode_written form

end Piece

/-! ## Literals -/

/-- **The value of a literal** by the standard. -/
def value (pieces : List Piece) : Text := Text.joined (pieces.flatMap fun x => x.value.units)

/-- What the pieces mean, one after the other. -/
def meaning (pieces : List Piece) : Text := pieces.flatMap Piece.value

/-- The text that is read. -/
def read (pieces : List Piece) : Text := pieces.flatMap Piece.read

/-- **The node spells a string literal** of the given pieces. -/
structure Spells (node : ParseNode) (pieces : List Piece) : Prop where
  type : node.hasType "string" = true
  children : List.Forall₂ Piece.Is pieces node.children

/-- Whether halves are joined before or after code points are split does not matter. -/
theorem value_eq (pieces : List Piece) : value pieces = (meaning pieces).joined := by
  rw [← Text.joined_units, Text.units, meaning, List.flatMap_assoc]
  rfl

/-- **A literal is read piece by piece.** -/
theorem literal?_eq_read {node : ParseNode} {pieces : List Piece} (h : Spells node pieces) :
    node.literal? = .ok (some (read pieces)) := by
  have hpieces : node.children.mapM ParseNode.piece = .ok (pieces.map Piece.read) :=
    mapM_of_forall₂ (h.children.imp fun _ _ hpiece => hpiece.piece)
  rw [ParseNode.literal?, if_pos h.type, hpieces, read, List.flatMap_def]
  rfl

theorem length_meaning_le (pieces : List Piece) :
    (meaning pieces).length ≤ (read pieces).length := by
  induction pieces with
  | nil => exact Nat.le_refl 0
  | cons x rest ih =>
    show (x.value ++ meaning rest).length ≤ (x.read ++ read rest).length
    rw [List.length_append, List.length_append]
    exact Nat.add_le_add x.length_value_le ih

/-- Since no piece is read shorter than it is, a text that is read right is read right piece by
piece. -/
theorem read_eq_value_of_eq {pieces : List Piece}
    (h : read pieces = meaning pieces) : ∀ x ∈ pieces, x.read = x.value := by
  induction pieces with
  | nil => exact nofun
  | cons x rest ih =>
    have hx := x.length_value_le
    have hrest := length_meaning_le rest
    have hsplit : x.read ++ read rest = x.value ++ meaning rest := h
    -- The lengths agree in total and none is too short, so they agree piece by piece.
    have hlength := congrArg List.length hsplit
    rw [List.length_append, List.length_append] at hlength
    obtain ⟨hhead, htail⟩ := List.append_inj hsplit (by omega)
    exact List.forall_mem_cons.2 ⟨hhead, ih htail⟩

/-- **The pieces are read as their value** if none of them is an octal number other than zero, and
no high surrogate has a low one behind it. -/
theorem read_eq_value_iff (pieces : List Piece) :
    read pieces = value pieces
      ↔ (∀ x ∈ pieces, x.isLegacy = false) ∧ (meaning pieces).Unpaired := by
  rw [value_eq]
  constructor
  · intro heq
    have hlength := length_meaning_le pieces
    rw [heq] at hlength
    -- Joining makes a text shorter and octal numbers make it longer, so neither is there.
    obtain ⟨hunpaired, hjoined⟩ :=
      (Text.joined_cases (meaning pieces)).resolve_right fun hshort => by omega
    rw [hjoined] at heq
    exact ⟨fun x hx => x.read_eq_value_iff.1 (read_eq_value_of_eq heq x hx), hunpaired⟩
  · rintro ⟨hplain, hunpaired⟩
    obtain ⟨-, hjoined⟩ := (Text.joined_cases (meaning pieces)).resolve_right
      fun hshort => hshort.1 hunpaired
    rw [hjoined]
    exact List.flatMap_congr fun x hx => x.read_eq_value_iff.2 (hplain x hx)

/-- A literal with a value is not read as nothing. -/
theorem read_ne_nil {pieces : List Piece} (h : value pieces ≠ []) : read pieces ≠ [] := by
  intro hread
  have hlength := length_meaning_le pieces
  rw [hread, List.length_nil, Nat.le_zero, List.length_eq_zero_iff] at hlength
  rw [value_eq, hlength] at h
  exact h rfl

/-- **When a literal is read as its value**: if no piece is an octal number other than zero, and
no high surrogate has a low one behind it. What is read otherwise is put together from the texts
of the pieces all the same. -/
theorem literal?_eq_value_iff (node : ParseNode) (pieces : List Piece) (h : Spells node pieces) :
    node.literal? = .ok (some (read pieces))
      ∧ (node.literal? = .ok (some (value pieces))
        ↔ (∀ x ∈ pieces, x.isLegacy = false) ∧ (meaning pieces).Unpaired) := by
  have hread := literal?_eq_read h
  refine ⟨hread, ?_⟩
  rw [hread, Except.ok.injEq, Option.some.injEq]
  exact read_eq_value_iff pieces

/-! ## Literals at hand -/

/-- The node of a piece. -/
def leafOf (x : Piece) : ParseNode where
  address := []
  type := Text.ofString x.type
  isNamed := false
  fieldName := none
  start := 0
  bytes := Utf8.encode x.written
  children := []

/-- **A node of a literal** that is taken apart into the pieces. -/
def literalOf (pieces : List Piece) : ParseNode where
  address := []
  type := Text.ofString "string"
  isNamed := true
  fieldName := none
  start := 0
  bytes := Utf8.encode (pieces.flatMap Piece.written)
  children := pieces.map leafOf

theorem spells_literalOf (pieces : List Piece) : Spells (literalOf pieces) pieces where
  type := (Text.is_iff _ _).2 rfl
  children := by
    show List.Forall₂ Piece.Is pieces (pieces.map leafOf)
    rw [List.forall₂_map_right_iff, List.forall₂_same]
    exact fun x _ => ⟨(Text.is_iff _ _).2 rfl, rfl⟩

/-- A source in the directory of the module, with a name that is written in escapes. -/
def escapedSource (name : List Escape.Form) : List Piece :=
  [.quotationMark false, .fragment "./".toList] ++ name.map .escape
    ++ [.fragment ".js".toList, .quotationMark false]

/-- The letter A in two hexadecimal digits. -/
theorem literal?_eq_value_iff_byteSource :
    Spells (literalOf (escapedSource [.byte ⟨4, false⟩ ⟨1, false⟩]))
        (escapedSource [.byte ⟨4, false⟩ ⟨1, false⟩])
      ∧ (literalOf (escapedSource [.byte ⟨4, false⟩ ⟨1, false⟩])).literal?
        = .ok (some (value (escapedSource [.byte ⟨4, false⟩ ⟨1, false⟩]))) := by
  have hspells := spells_literalOf (escapedSource [.byte ⟨4, false⟩ ⟨1, false⟩])
  exact ⟨hspells, (literal?_eq_value_iff _ _ hspells).2.2
    ⟨by simp [escapedSource, Piece.isLegacy, Escape.Form.isLegacy], by decide⟩⟩

/-- A character beyond the units, as escapes of its two halves. -/
def halves : List Escape.Form :=
  [.unit ⟨13, true⟩ ⟨8, false⟩ ⟨3, false⟩ ⟨13, true⟩,
    .unit ⟨13, true⟩ ⟨14, true⟩ ⟨0, false⟩ ⟨0, false⟩]

/-- **The literal of the pieces is misread**: its node spells them and is not read as their
value. -/
structure IsMisread (pieces : List Piece) : Prop where
  spells : Spells (literalOf pieces) pieces
  misread : (literalOf pieces).literal? ≠ .ok (some (value pieces))

/-- A literal is misread if what is read of its pieces is not their value. -/
theorem isMisread_of_ne {pieces : List Piece} (h : read pieces ≠ value pieces) :
    IsMisread pieces where
  spells := spells_literalOf pieces
  misread hvalue := by
    rw [literal?_eq_read (spells_literalOf pieces)] at hvalue
    exact h (Option.some.inj (Except.ok.inj hvalue))

/-- **Not every literal is read as its value**: neither the one with the letter A in octal digits
is, nor the one with two halves. -/
theorem literal?_ne_value :
    IsMisread (escapedSource [.octal (.three 1 0 1)]) ∧ IsMisread (escapedSource halves) :=
  ⟨isMisread_of_ne (by decide), isMisread_of_ne (by decide)⟩

end StringLiteral

end ModuleLinks
