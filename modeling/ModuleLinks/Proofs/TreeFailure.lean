/-
When the survey of a parse tree fails.

A parse tree comes from a parser, so its texts are texts and its escapes are escapes of
the grammar. One thing is left that a survey cannot read, an escape with a number beyond
the code space, and it ends the survey wherever a visit reads it: in a source, in a name
that is written as a string, in the key or the value of an attribute, in the argument of
a dynamic import. The grammar takes such an escape, and the failure is not that of a
malformed declaration, so the declaration is not skipped.

Where no visit reads such an escape, the survey does not fail. Each declaration that
refers to another module makes a link or is reported as malformed, and those behind it
are visited all the same.

A visit aborts only with what one of its questions does, so the questions that are put to
a parse tree are looked at one by one.

Main statement: `survey_of_readable`.
-/
import ModuleLinks.Proofs.EscapeRange
import ModuleLinks.Proofs.SourceOrder
import ModuleLinks.Proofs.VisitFailure
import ModuleLinks.Proofs.WholeExport

set_option autoImplicit false

namespace ModuleLinks

open Outcome

/-! ## Reading a tree -/

namespace ParseNode

variable {node string : ParseNode} {e : Failure} {P : ParseNode → Prop} {name : String}
  {names : List String}

/-- **A node that can be read**: its bytes are UTF-8, and if it is an escape it is one of the
grammar. -/
structure IsReadable (node : ParseNode) : Prop where
  exists_text : ∃ t, node.text = .ok t
  escape : node.hasType "escape_sequence" = true →
    ∃ cs, Escape.IsGrammatical cs ∧ node.text = .ok (Text.ofChars cs)

/-- The node is an escape with a number beyond the code space, and fails with `e`. -/
def IsBeyond (node : ParseNode) (e : Failure) : Prop :=
  node.hasType "escape_sequence" = true ∧ ∃ t, node.text = .ok t ∧ Escape.IsBeyond t e

/-- **The node is a string with such an escape in it.** -/
def HoldsBeyond (string : ParseNode) (e : Failure) : Prop :=
  string.hasType "string" = true ∧ ∃ escape ∈ string.children, escape.IsBeyond e

/-- The text of a node that can be read is there, so asking for it aborts with nothing. -/
theorem IsReadable.text_abortsOnly {Q : Failure → Prop} (h : node.IsReadable) :
    AbortsOnly Q node.text := by
  obtain ⟨t, ht⟩ := h.exists_text
  rw [ht]
  exact abortsOnly_ok t

/-- The failure for a number beyond the code space is not that of a malformed declaration, so it
ends a survey. -/
theorem abort?_beyond {α : Type} (n : ℕ) :
    abort? (.error (Escape.beyond n) : Except Failure α) = some (Escape.beyond n) := by
  unfold Escape.beyond
  split
  · rfl
  · rfl

/-- **A piece of a string is read**, unless it is an escape with a number beyond the code space.
-/
theorem IsReadable.piece_abortsOnly (h : node.IsReadable) :
    AbortsOnly node.IsBeyond node.piece := by
  unfold piece
  refine .ite h.text_abortsOnly ?_
  by_cases hescape : node.hasType "escape_sequence" = true
  · rw [if_pos hescape]
    obtain ⟨cs, hgrammar, htext⟩ := h.escape hescape
    rw [htext]
    show AbortsOnly node.IsBeyond (Escape.decode (Text.ofChars cs))
    rcases Escape.decode_cases hgrammar with ⟨t, ht⟩ | ⟨e, hbeyond, he⟩
    · rw [ht]
      exact abortsOnly_ok t
    · -- Such a failure is not that of a malformed declaration, so it aborts the visit.
      rw [he]
      intro e' he'
      obtain ⟨ds, hds, hnumber, rfl⟩ := hbeyond
      rw [abort?_beyond] at he'
      exact ⟨hescape, _, htext, ds, hds, hnumber, (Option.some.inj he').symm⟩
  · rw [if_neg hescape]
    exact abortsOnly_ok []

/-- **A string is read**, unless there is an escape in it that denotes nothing. -/
theorem literal?_abortsOnly (h : Throughout IsReadable string) :
    AbortsOnly string.HoldsBeyond string.literal? := by
  unfold literal?
  by_cases hstring : string.hasType "string" = true
  · rw [if_pos hstring]
    refine .bind (.mapM fun child hchild => ?_) fun pieces _ => abortsOnly_ok _
    exact (h.child child hchild).self.piece_abortsOnly.mono
      fun e he => ⟨hstring, child, hchild, he⟩
  · rw [if_neg hstring]
    exact abortsOnly_ok none

/-- A name is read unless it is a string with such an escape in it. -/
theorem spelledName_abortsOnly (h : Throughout IsReadable node) :
    AbortsOnly node.HoldsBeyond node.spelledName :=
  .ite ((literal?_abortsOnly h).map Json.ofText?) (h.self.text_abortsOnly.map Json.str)

/-! ## The strings that a visit reads -/

/-- The values of some fields of a node. -/
def valuesOf (node : ParseNode) (names : List String) : List ParseNode :=
  names.filterMap node.child?

/-- **What a visit may read**: the names and aliases of the specifiers, the source, the keys and
values of the attributes, and the argument of a dynamic import. -/
def consulted (node : ParseNode) : List ParseNode :=
  (TreeSitter.specifiers node).flatMap (valuesOf · ["name", "alias"]) ++ node.valuesOf ["source"]
    ++ (TreeSitter.attributePairs node).flatMap (valuesOf · ["key", "value"])
    ++ (TreeSitter.importArgument? node).toList

/-- Among the strings there is one with an escape beyond the code space. -/
def Overflows (strings : List ParseNode) (e : Failure) : Prop :=
  ∃ string ∈ strings, string.HoldsBeyond e

theorem mem_valuesOf {value : ParseNode} :
    value ∈ node.valuesOf names ↔ ∃ name ∈ names, node.child? name = some value :=
  List.mem_filterMap

/-- A name in a field aborts only for the value of that field, and a missing one not at all. -/
theorem spelledName?_abortsOnly (h : Throughout IsReadable node) (hname : name ∈ names) :
    AbortsOnly (Overflows (node.valuesOf names)) (spelledName? (node.child? name)) := by
  cases hvalue : node.child? name with
  | none => exact abortsOnly_ok Json.null
  | some value =>
    exact (spelledName_abortsOnly (h.value hvalue)).mono
      fun e he => ⟨value, mem_valuesOf.2 ⟨name, hname, hvalue⟩, he⟩

theorem fieldLiteral?_abortsOnly (h : Throughout IsReadable node) (hname : name ∈ names) :
    AbortsOnly (Overflows (node.valuesOf names)) (node.fieldLiteral? name) := by
  unfold fieldLiteral?
  cases hvalue : node.child? name with
  | none => exact abortsOnly_ok none
  | some value =>
    exact (literal?_abortsOnly (h.value hvalue)).mono
      fun e he => ⟨value, mem_valuesOf.2 ⟨name, hname, hvalue⟩, he⟩

theorem Overflows.mono {strings others : List ParseNode} (h : Overflows strings e)
    (hsub : strings ⊆ others) : Overflows others e := by
  obtain ⟨string, hmem, hbeyond⟩ := h
  exact ⟨string, hsub hmem, hbeyond⟩

end ParseNode

namespace TreeSitter

open ParseNode (Throughout IsReadable Overflows)

variable {node spec : ParseNode} {P : ParseNode → Prop}

/-- The specifiers in a part of a clause are nodes of the tree. -/
theorem throughout_partSpecifiers (h : Throughout P node) :
    ∀ spec ∈ partSpecifiers node, Throughout P spec := by
  unfold partSpecifiers
  split_ifs
  · simpa using h
  · exact h.namedChildOf
  · exact nofun

theorem throughout_clauseSpecifiers (h : Throughout P node) :
    ∀ spec ∈ clauseSpecifiers node, Throughout P spec := by
  unfold clauseSpecifiers
  split_ifs
  · intro spec hspec
    obtain ⟨part, hpart, hmem⟩ := List.mem_flatMap.1 hspec
    exact throughout_partSpecifiers (h.namedChild part hpart) spec hmem
  · exact h.namedChildOf
  · simpa using h
  · exact nofun

/-- What holds of all nodes of a declaration holds of all nodes of its specifiers. -/
theorem throughout_specifiers (h : Throughout P node) :
    ∀ spec ∈ specifiers node, Throughout P spec := by
  intro spec hspec
  obtain ⟨clause, hclause, hmem⟩ := List.mem_flatMap.1 hspec
  exact throughout_clauseSpecifiers (h.namedChild clause hclause) spec hmem

/-- It holds of all nodes of its import attributes. -/
theorem throughout_attributePairs (h : Throughout P node) :
    ∀ pair ∈ attributePairs node, Throughout P pair := by
  intro pair hpair
  obtain ⟨clause, hclause, hmem⟩ := List.mem_flatMap.1 hpair
  obtain ⟨part, hpart, hinner⟩ := List.mem_flatMap.1 hmem
  exact ((h.namedChildOf clause hclause).namedChild part hpart).namedChildOf pair hinner

theorem throughout_importArgument? (h : Throughout P node) :
    ∀ argument, importArgument? node = some argument → Throughout P argument := by
  intro argument hargument
  unfold importArgument? at hargument
  -- The argument is a named child of the node in the field of the arguments.
  split at hargument
  · next arguments harguments =>
    exact (h.value harguments).namedChild argument (List.mem_of_find?_eq_some hargument)
  · cases hargument

/-- The names of a specifier are in its fields. -/
theorem namesAbortOnly (h : Throughout IsReadable spec) :
    treeSitter.NamesAbortOnly spec (Overflows (spec.valuesOf ["name", "alias"])) where
  imported := .ite (ParseNode.spelledName?_abortsOnly h (by simp)) (abortsOnly_ok _)
  taken := .ite (ParseNode.spelledName?_abortsOnly h (by simp)) (abortsOnly_ok _)
  bound := .ite (ParseNode.spelledName?_abortsOnly h (by simp)) (abortsOnly_ok _)
  exported := by
    refine .ite ?_ (abortsOnly_ok _)
    -- The alias comes first, and the name stands in for it.
    have halias : AbortsOnly (Overflows (spec.valuesOf ["name", "alias"]))
        (ParseNode.spelledName? (spec.child? "alias")) :=
      ParseNode.spelledName?_abortsOnly h (by simp)
    cases hvalue : spec.child? "alias" with
    | none => exact ParseNode.spelledName?_abortsOnly h (by simp)
    | some value =>
      rw [hvalue] at halias
      exact halias

/-- The asserted type aborts only for a key or a value of an attribute. -/
theorem typeAttribute?_abortsOnly {pairs : List ParseNode}
    (h : ∀ pair ∈ pairs, Throughout IsReadable pair) :
    AbortsOnly (Overflows (pairs.flatMap (ParseNode.valuesOf · ["key", "value"])))
      (typeAttribute? pairs) := by
  induction pairs with
  | nil => exact abortsOnly_ok none
  | cons pair rest ih =>
    rw [List.forall_mem_cons] at h
    have hfirst : ∀ e, Overflows (pair.valuesOf ["key", "value"]) e →
        Overflows ((pair :: rest).flatMap (ParseNode.valuesOf · ["key", "value"])) e :=
      fun e he => he.mono (List.subset_append_left _ _)
    have hrest : ∀ e, Overflows (rest.flatMap (ParseNode.valuesOf · ["key", "value"])) e →
        Overflows ((pair :: rest).flatMap (ParseNode.valuesOf · ["key", "value"])) e :=
      fun e he => he.mono (List.subset_append_right _ _)
    have hkey : AbortsOnly (Overflows (pair.valuesOf ["key", "value"]))
        (ParseNode.spelledName? (pair.child? "key")) :=
      ParseNode.spelledName?_abortsOnly h.1 (by simp)
    have hvalue : AbortsOnly (Overflows (pair.valuesOf ["key", "value"]))
        (pair.fieldLiteral? "value") :=
      ParseNode.fieldLiteral?_abortsOnly h.1 (by simp)
    -- The key is asked for first; its value only if it is the key looked for, and else the rest.
    exact (hkey.mono hfirst).bind fun key _ => .ite (hvalue.mono hfirst) ((ih h.2).mono hrest)

/-- **The questions of a visit abort** only where a string that it may read has an escape beyond
the code space. -/
theorem questionsAbortOnly (h : Throughout IsReadable node) :
    treeSitter.QuestionsAbortOnly node (Overflows node.consulted) where
  names spec hspec := by
    have hnames := namesAbortOnly (throughout_specifiers h spec hspec)
    have hsub : spec.valuesOf ["name", "alias"] ⊆ node.consulted := by
      intro string hstring
      simp only [ParseNode.consulted, List.mem_append, List.mem_flatMap]
      exact .inl (.inl (.inl ⟨spec, hspec, hstring⟩))
    -- The names of a specifier are among all the strings that the visit may read.
    have hmono : ∀ e, Overflows (spec.valuesOf ["name", "alias"]) e → Overflows node.consulted e :=
      fun e he => he.mono hsub
    exact ⟨hnames.imported.mono hmono, hnames.taken.mono hmono, hnames.bound.mono hmono,
      hnames.exported.mono hmono⟩
  source := by
    have hsource : AbortsOnly (Overflows (node.valuesOf ["source"])) (node.fieldLiteral? "source") :=
      ParseNode.fieldLiteral?_abortsOnly h (by simp)
    refine hsource.mono fun e he => he.mono ?_
    intro string hstring
    simp only [ParseNode.consulted, List.mem_append]
    exact .inl (.inl (.inr hstring))
  assertion := by
    refine (typeAttribute?_abortsOnly (throughout_attributePairs h)).mono fun e he => he.mono ?_
    intro string hstring
    simp only [ParseNode.consulted, List.mem_append]
    exact .inl (.inr hstring)
  argument := abortsOnly_ok _
  literal argument hargument := by
    have hsome : importArgument? node = some argument := Except.ok.inj hargument
    have hliteral := ParseNode.literal?_abortsOnly (throughout_importArgument? h argument hsome)
    refine hliteral.mono fun e he => ⟨argument, ?_, he⟩
    simp only [ParseNode.consulted, List.mem_append, Option.mem_toList]
    exact .inr hsome

/-! ## The survey -/

/-- **What ends a survey is an escape in one of the strings that the visit reads.** The visit goes
by the form of the node, and each form reads some of these strings. -/
theorem overflows_of_visitFailure? (h : Throughout IsReadable node) {e : Failure}
    (he : treeSitter.visitFailure? node = some e) : Overflows node.consulted e := by
  rw [Dialect.visitFailure?_eq] at he
  exact (questionsAbortOnly h).link? e he

/-- **When the survey of a parse tree fails.** The tree is of a program, and its nodes can be read.
Where no visit may read an escape beyond the code space, the survey succeeds: it logs one warning
for each declaration that is malformed, and finds the link of each other one. A survey that fails
does so because of such an escape. -/
theorem survey_of_readable {subject : Subject} {root : ParseNode}
    (hroot : treeSitter.root subject = .ok root)
    (hreadable : ∀ node ∈ treeSitter.preorder root, node.IsReadable) (file : Json) :
    ((∀ node ∈ treeSitter.preorder root, ∀ e, ¬Overflows node.consulted e) →
      treeSitter.survey file subject
          = ⟨⟨.debug, treeSitter.opening file⟩
              :: (treeSitter.preorder root).flatMap treeSitter.visitWarnings,
            .ok ((treeSitter.preorder root).flatMap treeSitter.visitLinks)⟩
        ∧ ∀ node ∈ treeSitter.preorder root,
          (treeSitter.visitLinks node).length + (treeSitter.visitWarnings node).length
            = if treeSitter.refersOut node then 1 else 0)
    ∧ ∀ e, (treeSitter.survey file subject).outcome = .error e →
      ∃ node ∈ treeSitter.preorder root, Overflows node.consulted e := by
  have hthroughout : ∀ node ∈ treeSitter.preorder root, Throughout IsReadable node :=
    Throughout.mem_preorder hreadable
  rw [treeSitter.survey_eq file hroot]
  constructor
  · -- No visit aborts, so the walk gets to its end.
    intro hnone
    have hpasses : ∀ node ∈ treeSitter.preorder root, treeSitter.visitFailure? node = none := by
      intro node hnode
      rw [Option.eq_none_iff_forall_ne_some]
      exact fun e he => hnone node hnode e (overflows_of_visitFailure? (hthroughout node hnode) he)
    have hfind : (treeSitter.preorder root).findSome? treeSitter.visitFailure? = none :=
      List.findSome?_eq_none_iff.2 hpasses
    rw [Dialect.takeWhile_passes_of_findSome? hfind, hfind]
    exact ⟨rfl, fun node hnode => Dialect.length_visit_of_passes (hpasses node hnode)⟩
  · -- A survey that fails does so at the first node whose visit aborts.
    intro e he
    cases hfind : (treeSitter.preorder root).findSome? treeSitter.visitFailure? with
    | none =>
      rw [hfind] at he
      cases he
    | some other =>
      rw [hfind] at he
      obtain rfl := Except.error.inj he
      obtain ⟨node, hnode, hfailure⟩ := List.exists_of_findSome?_eq_some hfind
      exact ⟨node, hnode, overflows_of_visitFailure? (hthroughout node hnode) hfailure⟩

/-- **All that a visit may read** is below the node. -/
theorem throughout_consulted (h : Throughout P node) :
    ∀ string ∈ node.consulted, Throughout P string := by
  have hvalues : ∀ {inner : ParseNode} {names : List String}, Throughout P inner →
      ∀ string ∈ inner.valuesOf names, Throughout P string := by
    intro inner names hinner string hstring
    obtain ⟨name, -, hvalue⟩ := ParseNode.mem_valuesOf.1 hstring
    exact hinner.value hvalue
  intro string hstring
  simp only [ParseNode.consulted, List.mem_append, List.mem_flatMap, Option.mem_toList] at hstring
  rcases hstring with ((⟨spec, hspec, hname⟩ | hsource) | ⟨pair, hpair, hvalue⟩) | hargument
  · exact hvalues (throughout_specifiers h spec hspec) string hname
  · exact hvalues h string hsource
  · exact hvalues (throughout_attributePairs h pair hpair) string hvalue
  · exact throughout_importArgument? h string hargument

/-- A tree without escapes beyond the code space has none that a visit may read. -/
theorem not_overflows (h : Throughout (fun inner => ∀ e, ¬inner.IsBeyond e) node) (e : Failure) :
    ¬Overflows node.consulted e := by
  rintro ⟨string, hstring, -, escape, hescape, hbeyond⟩
  exact ((throughout_consulted h string hstring).child escape hescape).self e hbeyond

end TreeSitter

/-! ## A module at hand -/

namespace ParseTree

open ParseNode (Throughout IsReadable Overflows)
open Escape (HexDigit)

variable {placement : Code.Placement} {address : List ℕ} {field : Option String}
  {Q : List Char → Prop} {P : ParseNode → Prop} {tree : ParseNode}

/-- **The bytes of a node are those of characters**, and if it is an escape, of characters of a
kind. -/
def IsWritten (Q : List Char → Prop) (tree : ParseNode) : Prop :=
  ∃ cs, tree.bytes = Utf8.encode cs ∧ (tree.hasType "escape_sequence" = true → Q cs)

/-- A node whose bytes are written from characters is read as these characters. -/
theorem text_of_bytes {cs : List Char} (h : tree.bytes = Utf8.encode cs) :
    tree.text = .ok (Text.ofChars cs) := by
  rw [ParseNode.text, h, Utf8.decode?_encode]

/-- A tree that is written with escapes of the grammar can be read. -/
theorem IsWritten.isReadable (h : IsWritten Escape.IsGrammatical tree) : tree.IsReadable := by
  obtain ⟨cs, hbytes, hescape⟩ := h
  exact ⟨⟨_, text_of_bytes hbytes⟩, fun htype => ⟨cs, hescape htype, text_of_bytes hbytes⟩⟩

/-- Written with the forms of escapes alone, it has none that is beyond the code space. -/
theorem IsWritten.not_isBeyond (h : IsWritten (fun cs => ∃ form : Escape.Form, cs = form.written) tree)
    (e : Failure) : ¬tree.IsBeyond e := by
  rintro ⟨htype, t, ht, hbeyond⟩
  obtain ⟨cs, hbytes, hescape⟩ := h
  obtain ⟨form, rfl⟩ := hescape htype
  obtain rfl := Except.ok.inj ((text_of_bytes hbytes).symm.trans ht)
  have hread := hbeyond.decode
  rw [Escape.decode_written] at hread
  cases hread

theorem hasType_ofString {type word : String} (htype : tree.type = Text.ofString type) :
    tree.hasType word = true ↔ type = word := by
  rw [ParseNode.hasType, htype, Text.is_iff, Text.ofString_inj]

theorem throughout_leaf {type : String} {cs : List Char} (h : type = "escape_sequence" → Q cs) :
    Throughout (IsWritten Q) (leaf placement type field cs address) :=
  ParseNode.throughout_iff.2 ⟨⟨cs, rfl, fun htype => h ((hasType_ofString rfl).1 htype)⟩, nofun⟩

/-- A token is written from its word, and is no escape. -/
theorem throughout_token {word : String} (h : word ≠ "escape_sequence") :
    Throughout (IsWritten Q) (token placement word address) :=
  ParseNode.throughout_iff.2
    ⟨⟨word.toList, rfl, fun htype => absurd ((hasType_ofString rfl).1 htype) h⟩, nofun⟩

/-- Nodes that are written from characters are written from characters one after the other. -/
theorem exists_encode_flatMap {nodes : List ParseNode}
    (h : ∀ tree ∈ nodes, ∃ cs, tree.bytes = Utf8.encode cs) :
    ∃ cs, nodes.flatMap ParseNode.bytes = Utf8.encode cs := by
  induction nodes with
  | nil => exact ⟨[], rfl⟩
  | cons first rest ih =>
    rw [List.forall_mem_cons] at h
    obtain ⟨cs, hcs⟩ := h.1
    obtain ⟨others, hothers⟩ := ih h.2
    refine ⟨cs ++ others, ?_⟩
    rw [List.flatMap_cons, hcs, hothers]
    exact List.flatMap_append.symm

/-- So a branch over written trees is written from their characters. -/
theorem throughout_plainBranch {type : String} {children : List (Planted ParseNode)}
    (htype : type ≠ "escape_sequence")
    (h : ∀ tree ∈ children, ∀ a, Throughout (IsWritten Q) (tree a)) :
    Throughout (IsWritten Q) (plainBranch placement type field children address) := by
  have hchildren : ∀ child ∈ grow address 0 children, Throughout (IsWritten Q) child :=
    forall_mem_grow h address 0
  obtain ⟨cs, hcs⟩ := exists_encode_flatMap fun child hchild =>
    (hchildren child hchild).self.imp fun _ hwritten => hwritten.1
  exact ParseNode.throughout_iff.2
    ⟨⟨cs, hcs, fun hescape => absurd ((hasType_ofString rfl).1 hescape) htype⟩, hchildren⟩

/-- An import without a clause, whose source has the given pieces. -/
def bareImport (pieces : List (Planted ParseNode)) : Planted ParseNode :=
  plainBranch unplaced "import_statement" none
    [token unplaced "import",
      plainBranch unplaced "string" (some "source")
        (token unplaced "\x22" :: (pieces ++ [token unplaced "\x22"])),
      token unplaced ";"]

/-- A source that is an escape, by a number in braces. -/
def numberedPieces (digits : List HexDigit) : List (Planted ParseNode) :=
  [leaf unplaced "escape_sequence" none ('\\' :: Escape.braced digits)]

/-- A source with a fragment alone. -/
def plainPieces : List (Planted ParseNode) := [leaf unplaced "string_fragment" none ['b']]

/-- **A program with three imports**: one whose source is an escape, one whose source is empty, and
one more. -/
def numberedModule (digits : List HexDigit) : ParseNode :=
  plainBranch unplaced "program" none
    [bareImport (numberedPieces digits), bareImport [], bareImport plainPieces] []

/-- An import is written from characters if the pieces of its source are. -/
theorem throughout_bareImport {pieces : List (Planted ParseNode)}
    (h : ∀ tree ∈ pieces, ∀ a, Throughout (IsWritten Q) (tree a)) :
    Throughout (IsWritten Q) (bareImport pieces address) := by
  have htoken : ∀ {word : String}, word ≠ "escape_sequence" →
      ∀ a, Throughout (IsWritten Q) (token unplaced word a) := fun hword _ => throughout_token hword
  refine throughout_plainBranch (by decide) ?_
  simp only [List.forall_mem_cons]
  refine ⟨htoken (by decide), fun a => throughout_plainBranch (by decide) ?_, htoken (by decide), nofun⟩
  rw [List.forall_mem_cons, List.forall_mem_append]
  exact ⟨htoken (by decide), h, List.forall_mem_singleton.2 (htoken (by decide))⟩

/-- **The module is written from characters**, with one escape in it. -/
theorem throughout_numberedModule {digits : List HexDigit} (h : Q ('\\' :: Escape.braced digits)) :
    Throughout (IsWritten Q) (numberedModule digits) := by
  refine throughout_plainBranch (by decide) ?_
  simp only [List.forall_mem_cons]
  refine ⟨fun a => throughout_bareImport ?_, fun a => throughout_bareImport nofun,
    fun a => throughout_bareImport ?_, nofun⟩
  · exact List.forall_mem_singleton.2 fun a => throughout_leaf fun _ => h
  · exact List.forall_mem_singleton.2 fun a => throughout_leaf fun htype => absurd htype (by decide)

/-- Whatever the digits are, its nodes can be read: the escape is one of the grammar. -/
theorem isReadable_numberedModule {digits : List HexDigit} (h : digits ≠ []) :
    ∀ node ∈ treeSitter.preorder (numberedModule digits), node.IsReadable :=
  fun node hnode => (throughout_numberedModule (.point h) node hnode).isReadable

/-- What stands below an import makes no link and no warning. -/
theorem mute_pieces {pieces : List (Planted ParseNode)} (h : ∀ tree ∈ pieces, Mute tree) :
    ∀ child ∈ (bareImport pieces address).children, treeSitter.Yields child [] := by
  have hstring : Mute (plainBranch unplaced "string" (some "source")
      (token unplaced "\x22" :: (pieces ++ [token unplaced "\x22"]))) := by
    refine mute_branch rfl ?_
    rw [List.forall_mem_cons, List.forall_mem_append, List.forall_mem_singleton]
    exact ⟨mute_token rfl, h, mute_token rfl⟩
  show ∀ child ∈ [token unplaced "import" _, _, token unplaced ";" _], _
  simp only [List.forall_mem_cons]
  exact ⟨mute_token rfl _, hstring _, mute_token rfl _, nofun⟩

/-- The survey of the program puts out what its imports do. -/
theorem survey_numberedModule (digits : List HexDigit) :
    treeSitter.survey .null (.tree (numberedModule digits))
      = Logged.record .debug (treeSitter.opening .null) >>= fun _ =>
          treeSitter.gather (numberedModule digits).children := by
  have hquiet : ∀ child ∈ (numberedModule digits).children, ∀ inner ∈ child.children,
      treeSitter.Yields inner [] := by
    show ∀ child ∈ [bareImport _ _, bareImport _ _, bareImport _ _], _
    simp only [List.forall_mem_cons]
    refine ⟨mute_pieces ?_, mute_pieces nofun, mute_pieces ?_, nofun⟩
    · exact List.forall_mem_singleton.2 (mute_leaf _ rfl)
    · exact List.forall_mem_singleton.2 (mute_leaf _ rfl)
  have hlink : treeSitter.link? (numberedModule digits) = .ok none := rfl
  have hgather : treeSitter.gather (treeSitter.preorder (numberedModule digits))
      = treeSitter.gather (numberedModule digits).children := by
    rw [treeSitter.preorder_eq, Dialect.gather, Dialect.contribution_of_link? hlink,
      Dialect.gather_flatMap_of_quiet hquiet]
    exact Logged.andThen_pure _
  have hroot : treeSitter.root (.tree (numberedModule digits)) = .ok (numberedModule digits) := rfl
  rw [treeSitter.survey_of_root .null hroot, treeSitter.collect_singleton, hgather]

/-- The warning about the import whose source is empty. -/
def sourceWarning : LogRecord :=
  ⟨.warning, Text.ofString "Skipping declaration: Malformed import_statement: missing string source"⟩

/-- The number of the letter A. -/
def letterDigits : List HexDigit := [4, 1].map HexDigit.ofNat

/-- With the digits of the letter A the survey finds both imports. -/
theorem survey_letterDigits :
    treeSitter.survey .null (.tree (numberedModule letterDigits))
      = ⟨[⟨.debug, treeSitter.opening .null⟩, sourceWarning],
        .ok (["A", "b"].map fun source =>
          { specifiers := [Link.fileTag], source := .ofString source })⟩ := by
  have hnumbered : treeSitter.contribution (bareImport (numberedPieces letterDigits) [0])
      = ⟨[], .ok [{ specifiers := [Link.fileTag], source := .ofString "A" }]⟩ := by rfl
  have hempty : treeSitter.contribution (bareImport [] [1]) = ⟨[sourceWarning], .ok []⟩ := by rfl
  have hplain : treeSitter.contribution (bareImport plainPieces [2])
      = ⟨[], .ok [{ specifiers := [Link.fileTag], source := .ofString "b" }]⟩ := by rfl
  rw [survey_numberedModule]
  show _ >>= (fun _ => treeSitter.gather [bareImport _ [0], bareImport _ [1], bareImport _ [2]]) = _
  rw [Dialect.gather, hnumbered, Dialect.gather, hempty, Dialect.gather, hplain]
  rfl

/-- With a number in the code space, the import whose source is empty is reported, and the links
before and behind it are found. -/
theorem survey_of_readable_letterDigits :
    (∀ node ∈ treeSitter.preorder (numberedModule letterDigits), node.IsReadable)
      ∧ (∀ node ∈ treeSitter.preorder (numberedModule letterDigits),
        ∀ e, ¬Overflows node.consulted e)
      ∧ treeSitter.survey .null (.tree (numberedModule letterDigits))
        = ⟨[⟨.debug, treeSitter.opening .null⟩, sourceWarning],
          .ok (["A", "b"].map fun source =>
            { specifiers := [Link.fileTag], source := .ofString source })⟩
      ∧ ∀ node ∈ treeSitter.preorder (numberedModule letterDigits),
        (treeSitter.visitLinks node).length + (treeSitter.visitWarnings node).length
          = if treeSitter.refersOut node then 1 else 0 := by
  have hne : letterDigits ≠ [] := List.cons_ne_nil _ _
  have hreadable := isReadable_numberedModule hne
  have hwithin : Throughout (fun inner => ∀ e, ¬inner.IsBeyond e) (numberedModule letterDigits) :=
    fun inner hinner =>
      (throughout_numberedModule ⟨.point letterDigits hne (by decide), rfl⟩ inner hinner).not_isBeyond
  have hnone : ∀ node ∈ treeSitter.preorder (numberedModule letterDigits),
      ∀ e, ¬Overflows node.consulted e :=
    fun node hnode => TreeSitter.not_overflows (hwithin.mem_preorder node hnode)
  have hroot : treeSitter.root (.tree (numberedModule letterDigits))
      = .ok (numberedModule letterDigits) := rfl
  have hsurvey := (TreeSitter.survey_of_readable hroot hreadable .null).1 hnone
  exact ⟨hreadable, hnone, survey_letterDigits, hsurvey.2⟩

/-- The first number beyond the code space. -/
def beyondDigits : List HexDigit := [1, 1, 0, 0, 0, 0].map HexDigit.ofNat

/-- **A declaration that cannot be read costs all the others**, though its escape is one of the
grammar. -/
theorem survey_beyondDigits :
    treeSitter.root (.tree (numberedModule beyondDigits)) = .ok (numberedModule beyondDigits)
      ∧ (∀ node ∈ treeSitter.preorder (numberedModule beyondDigits), node.IsReadable)
      ∧ treeSitter.survey .null (.tree (numberedModule beyondDigits))
        = ⟨[⟨.debug, treeSitter.opening .null⟩], .error .noCodePoint⟩ := by
  refine ⟨rfl, isReadable_numberedModule (List.cons_ne_nil _ _), ?_⟩
  have hnumbered : treeSitter.contribution (bareImport (numberedPieces beyondDigits) [0])
      = ⟨[], .error .noCodePoint⟩ := by rfl
  rw [survey_numberedModule]
  show _ >>= (fun _ => treeSitter.gather [bareImport _ [0], bareImport _ [1], bareImport _ [2]]) = _
  rw [Dialect.gather, hnumbered]
  rfl

end ParseTree

end ModuleLinks
