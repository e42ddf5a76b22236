/-
Values of a document, written and read back.

How a value is read back is put together from how its members are: a string is
read with its halves joined, a list is read item by item, an object field by
field, and the first fault among the members is the fault of the whole. So the
statement about a value, `Reads`, names what the reader makes of it, a value or
a fault, and there is one lemma for each kind of value.

**Fuel.** The reader counts its steps. The length of a document bounds the steps
that the document takes, because every member stands behind a bracket, a comma
or a quotation mark of its own.
-/
import Mathlib.Data.List.Forall2
import ModuleLinks.Proofs.TextReading

set_option autoImplicit false

namespace ModuleLinks.Json

/-! ## Gaps -/

/-- Nothing but white space that separates tokens. -/
def IsGap (s : List Char) : Prop := ∀ c ∈ s, isGap c = true

theorem skipGap_append {gap : List Char} (h : IsGap gap) (s : List Char) :
    skipGap (gap ++ s) = skipGap s :=
  List.dropWhile_append_of_pos h

theorem skipGap_cons {c : Char} (h : isGap c = false) (s : List Char) :
    skipGap (c :: s) = c :: s :=
  List.dropWhile_cons_of_neg (by simp [h])

/-- **A layout that the reader understands**: between members stand a comma and
blanks. -/
structure Layout.Legible (layout : Layout) : Prop where
  lineBreak : ∀ depth, IsGap (layout.lineBreak depth)
  separator : ∃ gap, IsGap gap ∧ layout.separator = ',' :: gap

/-- The layout with indentation can be read: what it puts between tokens is a gap. -/
theorem Layout.legible_indented : Layout.indented.Legible where
  lineBreak depth := by
    intro c hc
    rcases List.mem_cons.1 hc with rfl | hblank
    · rfl
    · rw [List.eq_of_mem_replicate hblank]
      rfl
  separator := ⟨[], by simp [IsGap], rfl⟩

/-! ## What it means to read a value back -/

/-- The beginning of a value, which is neither blank nor the end of a list. -/
def Opens (s : List Char) : Prop := ∃ c rest, s = c :: rest ∧ isGap c = false ∧ c ≠ ']'

/-- What may stand behind a value. -/
def Follows (s : List Char) : Prop :=
  ∀ c ∈ s.head?, c = ',' ∨ c = ']' ∨ c = '}' ∨ isGap c = true

/-- **The document of a value is read as** another value, or is refused. -/
structure Reads (layout : Layout) (j : Json) (r : Except ReadFault Json) : Prop where
  opens : ∀ depth, Opens (render layout depth j)
  /-- The reader takes the document of the value and nothing else. -/
  reads : ∀ depth fuel rest, Follows rest → (render layout depth j).length ≤ fuel →
    readValue fuel (render layout depth j ++ rest) = r.map fun k => (k, rest)

/-- A value does not begin with a gap. -/
theorem skipGap_of_opens {s : List Char} (h : Opens s) (t : List Char) :
    skipGap (s ++ t) = s ++ t := by
  obtain ⟨c, rest, rfl, hc, _⟩ := h
  exact skipGap_cons hc (rest ++ t)

/-- A gap and a closing bracket may follow a value, and so may a comma. -/
theorem follows_gap {gap : List Char} (h : IsGap gap) {c : Char} (hc : c = ']' ∨ c = '}')
    (s : List Char) : Follows (gap ++ c :: s) := by
  intro d hd
  cases gap with
  | nil =>
    rw [List.nil_append, List.head?_cons, Option.mem_def, Option.some.injEq] at hd
    rw [← hd]
    tauto
  | cons b gap =>
    rw [List.cons_append, List.head?_cons, Option.mem_def, Option.some.injEq] at hd
    rw [← hd]
    exact .inr (.inr (.inr (h b List.mem_cons_self)))

theorem follows_comma (s : List Char) : Follows (',' :: s) := by
  intro d hd
  rw [List.head?_cons, Option.mem_def, Option.some.injEq] at hd
  exact .inl hd.symm

/-- **A text is read as itself, with its halves joined.** -/
theorem reads_str (layout : Layout) (t : Text) : Reads layout (.str t) (.ok (.str t.joined)) where
  opens depth := ⟨'"', t.flatMap escapedPoint ++ ['"'], by simp [render, quotedText], rfl, by decide⟩
  reads depth fuel rest _ hfuel := by
    obtain ⟨fuel, rfl⟩ : ∃ n, fuel = n + 1 := by
      simp only [render, quotedText, List.length_cons, List.length_append] at hfuel
      exact ⟨fuel - 1, by omega⟩
    have hdoc : render layout depth (.str t) ++ rest
        = '"' :: (t.flatMap escapedPoint ++ '"' :: rest) := by
      simp [render, quotedText]
    rw [hdoc, readValue, readText_quotedText]
    rfl

/-! ## Lists -/

section Members

variable {layout : Layout}

/-- **The items of a list are read** one by one, up to the closing bracket. The
induction is on the items after the first, which bring a comma each. -/
theorem readItems_render (hl : layout.Legible) (depth : ℕ) {gap : List Char} (hgap : IsGap gap)
    (rest : List Char) {j : Json} {js : List Json} {r : Except ReadFault Json}
    {rs : List (Except ReadFault Json)} (hj : Reads layout j r)
    (hjs : List.Forall₂ (Reads layout) js rs) (fuel : ℕ)
    (hfuel : (render layout depth j).length + (renderItems layout depth js).length < fuel) :
    readItems fuel
        (render layout depth j ++ (renderItems layout depth js ++ (gap ++ ']' :: rest)))
      = ((r :: rs).mapM id).map fun ks => (ks, rest) := by
  obtain ⟨sep, hsep, hseparator⟩ := hl.separator
  induction hjs generalizing j r fuel with
  | nil =>
    -- Behind the last item stands the closing bracket.
    obtain ⟨fuel, rfl⟩ : ∃ n, fuel = n + 1 := ⟨fuel - 1, by omega⟩
    rw [readItems, renderItems, List.nil_append,
      hj.reads depth fuel _ (follows_gap hgap (.inl rfl) rest) (by omega)]
    cases r with
    | error e => rfl
    | ok k =>
      have hskip : skipGap (gap ++ ']' :: rest) = ']' :: rest := by
        rw [skipGap_append hgap, skipGap_cons (by decide)]
      simp only [Except.map, bind, Except.bind, hskip]
      rfl
  | @cons j₂ r₂ js rs hj₂ hjs ih =>
    -- Behind the item stands a comma, and behind the comma the next item begins.
    obtain ⟨fuel, rfl⟩ : ∃ n, fuel = n + 1 := ⟨fuel - 1, by omega⟩
    have hmore : renderItems layout depth (j₂ :: js) ++ (gap ++ ']' :: rest)
        = ',' :: (sep ++ (layout.lineBreak depth ++ (render layout depth j₂
          ++ (renderItems layout depth js ++ (gap ++ ']' :: rest))))) := by
      simp [renderItems, hseparator]
    -- The comma pays for the step that the next item takes.
    have hlength : (renderItems layout depth (j₂ :: js)).length
        = 1 + sep.length + (layout.lineBreak depth).length + (render layout depth j₂).length
          + (renderItems layout depth js).length := by
      simp only [renderItems, hseparator, List.length_append, List.length_cons]
      omega
    rw [readItems, hmore, hj.reads depth fuel _ (follows_comma _) (by omega)]
    cases r with
    | error e => rfl
    | ok k =>
      have hskip : skipGap (sep ++ (layout.lineBreak depth ++ (render layout depth j₂
          ++ (renderItems layout depth js ++ (gap ++ ']' :: rest)))))
          = render layout depth j₂ ++ (renderItems layout depth js ++ (gap ++ ']' :: rest)) := by
        rw [skipGap_append hsep, skipGap_append (hl.lineBreak depth),
          skipGap_of_opens (hj₂.opens depth)]
      have hrest := ih hj₂ fuel (by omega)
      simp only [Except.map, bind, Except.bind, skipGap_cons (show isGap ',' = false by decide),
        hskip, hrest]
      cases hall : (r₂ :: rs).mapM id with
      | error e => simp [List.mapM_cons, hall, bind, Except.bind]
      | ok ks => simp [List.mapM_cons, hall, bind, Except.bind, pure, Except.pure]

/-- Behind an opening bracket and blanks, anything but a closing bracket begins
the items. -/
theorem readValue_bracket {fuel : ℕ} {s : List Char} {c : Char} {tail : List Char}
    (hs : skipGap s = c :: tail) (hc : c ≠ ']') :
    readValue (fuel + 1) ('[' :: s)
      = (readItems fuel (c :: tail)).map fun found => (Json.arr found.1, found.2) := by
  rw [readValue, hs]
  split
  · next hclose => exact absurd (List.cons.inj hclose).1 hc
  · cases readItems fuel (c :: tail) <;> rfl

/-- **A list is read item by item**, and fails with the first item that does. -/
theorem reads_arr (hl : layout.Legible) {js : List Json} {rs : List (Except ReadFault Json)}
    (hjs : List.Forall₂ (Reads layout) js rs) :
    Reads layout (.arr js) ((rs.mapM id).map Json.arr) where
  opens depth := by
    cases js with
    | nil => exact ⟨'[', [']'], by rw [render], rfl, by decide⟩
    | cons j js => exact ⟨'[', _, by rw [render]; rfl, rfl, by decide⟩
  reads depth fuel rest _ hfuel := by
    cases hjs with
    | nil =>
      obtain ⟨fuel, rfl⟩ : ∃ n, fuel = n + 1 := by
        simp only [render, List.length_cons] at hfuel
        exact ⟨fuel - 1, by omega⟩
      rw [render]
      rfl
    | @cons j r js rs hj hjs =>
      have hdoc : render layout depth (.arr (j :: js)) ++ rest
          = '[' :: (layout.lineBreak (depth + 1) ++ (render layout (depth + 1) j
            ++ (renderItems layout (depth + 1) js ++ (layout.lineBreak depth ++ ']' :: rest)))) := by
        simp [render]
      -- The bracket pays for the step into the list.
      have hlength : (render layout depth (.arr (j :: js))).length
          = 1 + (layout.lineBreak (depth + 1)).length + (render layout (depth + 1) j).length
            + (renderItems layout (depth + 1) js).length + (layout.lineBreak depth).length + 1 := by
        simp only [render, List.length_append, List.length_cons, List.length_nil]
        omega
      obtain ⟨fuel, rfl⟩ : ∃ n, fuel = n + 1 := ⟨fuel - 1, by omega⟩
      have hskip : skipGap (layout.lineBreak (depth + 1) ++ (render layout (depth + 1) j
          ++ (renderItems layout (depth + 1) js ++ (layout.lineBreak depth ++ ']' :: rest))))
          = render layout (depth + 1) j
            ++ (renderItems layout (depth + 1) js ++ (layout.lineBreak depth ++ ']' :: rest)) := by
        rw [skipGap_append (hl.lineBreak _), skipGap_of_opens (hj.opens _)]
      have hitems := readItems_render hl (depth + 1) (hl.lineBreak depth) rest hj hjs fuel (by omega)
      obtain ⟨c, tail, hc, _, hbracket⟩ := hj.opens (depth + 1)
      rw [hc, List.cons_append] at hskip hitems
      rw [hdoc, hc, List.cons_append, readValue_bracket hskip hbracket, hitems]
      cases (r :: rs).mapM id <;> rfl

/-! ## Objects -/

/-- What the reader makes of a field: its key with the halves joined, and what it
makes of the value. -/
def ReadsField (layout : Layout) (field : Text × Json) (r : Except ReadFault (Text × Json)) :
    Prop :=
  ∃ v, Reads layout field.2 v ∧ r = v.map fun k => (field.1.joined, k)

/-- A field in front of a document, as the reader takes it. -/
theorem readFields_field {key : Text} {s : List Char} {fuel : ℕ} {j : Json}
    {v : Except ReadFault Json} {depth : ℕ} (hj : Reads layout j v) (hs : Follows s)
    (hfuel : (render layout depth j).length ≤ fuel) :
    readFields (fuel + 1) (quotedText key ++ ':' :: ' ' :: (render layout depth j ++ s))
      = v.bind fun k => match skipGap s with
        | ',' :: next => do
          let (fields, last) ← readFields fuel (skipGap next)
          return ((key.joined, k) :: fields, last)
        | '}' :: last => .ok ([(key.joined, k)], last)
        | _ => .error .malformed := by
  have hdoc : quotedText key ++ ':' :: ' ' :: (render layout depth j ++ s)
      = '"' :: (key.flatMap escapedPoint ++ '"' :: ':' :: ' ' :: (render layout depth j ++ s)) := by
    simp [quotedText]
  have hblank : skipGap (' ' :: (render layout depth j ++ s)) = render layout depth j ++ s := by
    rw [← List.singleton_append, skipGap_append (by simp [IsGap, isGap]),
      skipGap_of_opens (hj.opens depth)]
  rw [hdoc, readFields, readText_quotedText]
  simp only [skipGap_cons (show isGap ':' = false by decide), hblank, hj.reads depth fuel s hs hfuel]
  cases v <;> rfl

/-- **The fields of an object are read** one by one, up to the closing brace. -/
theorem readFields_render (hl : layout.Legible) (depth : ℕ) {gap : List Char} (hgap : IsGap gap)
    (rest : List Char) {field : Text × Json} {fields : List (Text × Json)}
    {r : Except ReadFault (Text × Json)} {rs : List (Except ReadFault (Text × Json))}
    (hfield : ReadsField layout field r) (hfields : List.Forall₂ (ReadsField layout) fields rs)
    (fuel : ℕ)
    (hfuel : (quotedText field.1).length + 2 + (render layout depth field.2).length
      + (renderFields layout depth fields).length < fuel) :
    readFields fuel
        (quotedText field.1 ++ ':' :: ' ' :: (render layout depth field.2
          ++ (renderFields layout depth fields ++ (gap ++ '}' :: rest))))
      = ((r :: rs).mapM id).map fun ks => (ks, rest) := by
  obtain ⟨sep, hsep, hseparator⟩ := hl.separator
  induction hfields generalizing field r fuel with
  | nil =>
    obtain ⟨fuel, rfl⟩ : ∃ n, fuel = n + 1 := ⟨fuel - 1, by omega⟩
    obtain ⟨v, hj, rfl⟩ := hfield
    have hskip : skipGap (gap ++ '}' :: rest) = '}' :: rest := by
      rw [skipGap_append hgap, skipGap_cons (by decide)]
    rw [renderFields, List.nil_append,
      readFields_field hj (follows_gap hgap (.inr rfl) rest) (by omega), hskip]
    cases v <;> rfl
  | @cons field₂ r₂ fields rs hfield₂ hfields ih =>
    -- As for items, but the next field begins with the quotation mark of its key.
    obtain ⟨fuel, rfl⟩ : ∃ n, fuel = n + 1 := ⟨fuel - 1, by omega⟩
    obtain ⟨v, hj, rfl⟩ := hfield
    have hmore : renderFields layout depth (field₂ :: fields) ++ (gap ++ '}' :: rest)
        = ',' :: (sep ++ (layout.lineBreak depth ++ (quotedText field₂.1 ++ ':' :: ' ' ::
          (render layout depth field₂.2
            ++ (renderFields layout depth fields ++ (gap ++ '}' :: rest)))))) := by
      simp [renderFields, hseparator]
    have hlength : (renderFields layout depth (field₂ :: fields)).length
        = 1 + sep.length + (layout.lineBreak depth).length + (quotedText field₂.1).length + 2
          + (render layout depth field₂.2).length + (renderFields layout depth fields).length := by
      simp only [renderFields, hseparator, List.length_append, List.length_cons]
      omega
    have hskip : skipGap (sep ++ (layout.lineBreak depth ++ (quotedText field₂.1 ++ ':' :: ' ' ::
        (render layout depth field₂.2
          ++ (renderFields layout depth fields ++ (gap ++ '}' :: rest))))))
        = quotedText field₂.1 ++ ':' :: ' ' :: (render layout depth field₂.2
          ++ (renderFields layout depth fields ++ (gap ++ '}' :: rest))) := by
      rw [skipGap_append hsep, skipGap_append (hl.lineBreak depth), quotedText, List.cons_append,
        List.cons_append, skipGap_cons (by decide)]
    have hrest := ih hfield₂ fuel (by omega)
    rw [hmore, readFields_field hj (follows_comma _) (by omega),
      skipGap_cons (show isGap ',' = false by decide)]
    cases v with
    | error e => rfl
    | ok k =>
      simp only [Except.bind, hskip, hrest]
      cases hall : (r₂ :: rs).mapM id with
      | error e => simp [List.mapM_cons, Except.map, hall, bind, Except.bind]
      | ok ks => simp [List.mapM_cons, Except.map, hall, bind, Except.bind, pure, Except.pure]

/-- Behind an opening brace and blanks, a quotation mark begins the fields. -/
theorem readValue_brace {fuel : ℕ} {s tail : List Char} (hs : skipGap s = '"' :: tail) :
    readValue (fuel + 1) ('{' :: s)
      = (readFields fuel ('"' :: tail)).map fun found => (ofFields found.1, found.2) := by
  rw [readValue, hs]
  cases hread : readFields fuel ('"' :: tail) with
  | error e => simp [hread, bind, Except.bind, Except.map]
  | ok found => simp [hread, bind, Except.bind, Except.map, pure, Except.pure]

/-- **An object is read** field by field, a later field written over an earlier
one of its key. -/
theorem reads_obj (hl : layout.Legible) {fields : List (Text × Json)}
    {rs : List (Except ReadFault (Text × Json))}
    (hfields : List.Forall₂ (ReadsField layout) fields rs) :
    Reads layout (.obj fields) ((rs.mapM id).map ofFields) where
  opens depth := by
    cases fields with
    | nil => exact ⟨'{', ['}'], by rw [render], rfl, by decide⟩
    | cons field fields => exact ⟨'{', _, by rw [render]; rfl, rfl, by decide⟩
  reads depth fuel rest _ hfuel := by
    cases hfields with
    | nil =>
      obtain ⟨fuel, rfl⟩ : ∃ n, fuel = n + 1 := by
        simp only [render, List.length_cons] at hfuel
        exact ⟨fuel - 1, by omega⟩
      rw [render]
      rfl
    | @cons field r fields rs hfield hfields =>
      have hdoc : render layout depth (.obj (field :: fields)) ++ rest
          = '{' :: (layout.lineBreak (depth + 1) ++ (quotedText field.1 ++ ':' :: ' ' ::
            (render layout (depth + 1) field.2
              ++ (renderFields layout (depth + 1) fields
                ++ (layout.lineBreak depth ++ '}' :: rest))))) := by
        simp [render]
      -- The brace pays for the step into the object.
      have hlength : (render layout depth (.obj (field :: fields))).length
          = 1 + (layout.lineBreak (depth + 1)).length + (quotedText field.1).length + 2
            + (render layout (depth + 1) field.2).length
            + (renderFields layout (depth + 1) fields).length
            + (layout.lineBreak depth).length + 1 := by
        simp only [render, List.length_append, List.length_cons, List.length_nil]
        omega
      obtain ⟨fuel, rfl⟩ : ∃ n, fuel = n + 1 := ⟨fuel - 1, by omega⟩
      have hread := readFields_render hl (depth + 1) (hl.lineBreak depth) rest hfield hfields fuel
        (by omega)
      have hquote : quotedText field.1 = '"' :: (field.1.flatMap escapedPoint ++ ['"']) := rfl
      rw [hquote, List.cons_append] at hread
      rw [hdoc, hquote, List.cons_append, readValue_brace
        ((skipGap_append (hl.lineBreak _) _).trans (skipGap_cons (by decide) _)), hread]
      cases (r :: rs).mapM id <;> rfl

/-! ## Without faults -/

theorem mapM_id_map_ok {α : Type} (as : List α) :
    (as.map (Except.ok (ε := ReadFault))).mapM id = .ok as := by
  induction as with
  | nil => rfl
  | cons a as ih => simp [List.mapM_cons, ih, bind, Except.bind, pure, Except.pure]

theorem reads_arr_ok (hl : layout.Legible) {js ks : List Json}
    (h : List.Forall₂ (fun j k => Reads layout j (.ok k)) js ks) :
    Reads layout (.arr js) (.ok (.arr ks)) := by
  have hread := reads_arr hl (List.forall₂_map_right_iff.2 h)
  rwa [mapM_id_map_ok] at hread

/-- A field with a key that is there already is written over, and any other goes
to the end. -/
theorem insertField_of_notMem {fields : List (Text × Json)} {key : Text}
    (h : key ∉ fields.map Prod.fst) (j : Json) :
    insertField fields key j = fields ++ [(key, j)] := by
  induction fields with
  | nil => rfl
  | cons field fields ih =>
    rw [List.map_cons, List.mem_cons, not_or] at h
    rw [insertField, if_neg (Ne.symm h.1), ih h.2, List.cons_append]

/-- Fields with distinct keys make the object with these fields. -/
theorem ofFields_of_nodup {fields : List (Text × Json)} (h : (fields.map Prod.fst).Nodup) :
    ofFields fields = .obj fields := by
  -- The fields that were made so far have none of the keys that come later.
  have hfold : ∀ (later made : List (Text × Json)), ((made ++ later).map Prod.fst).Nodup →
      later.foldl (fun made entry => insertField made entry.1 entry.2) made = made ++ later := by
    intro later
    induction later with
    | nil => simp
    | cons field later ih =>
      intro made hmade
      have hnew : field.1 ∉ made.map Prod.fst := by
        rw [List.map_append, List.map_cons] at hmade
        intro hmem
        exact (List.nodup_append.1 hmade).2.2 _ hmem _ List.mem_cons_self rfl
      have hmade' : (((made ++ [field]) ++ later).map Prod.fst).Nodup := by
        rwa [List.append_assoc]
      rw [List.foldl_cons, insertField_of_notMem hnew, ih _ hmade', List.append_assoc,
        List.singleton_append]
  rw [ofFields, hfold fields [] h, List.nil_append]

/-- **An object with different keys is read** with every key and value read. -/
theorem reads_obj_ok (hl : layout.Legible) {fields read : List (Text × Json)}
    (h : List.Forall₂ (fun field k => Reads layout field.2 (.ok k.2) ∧ k.1 = field.1.joined)
      fields read)
    (hkeys : (read.map Prod.fst).Nodup) : Reads layout (.obj fields) (.ok (.obj read)) := by
  have hfields : List.Forall₂ (ReadsField layout) fields (read.map Except.ok) := by
    rw [List.forall₂_map_right_iff]
    apply h.imp
    rintro field ⟨key, k⟩ ⟨hread, rfl⟩
    exact ⟨.ok k, hread, rfl⟩
  have hread := reads_obj hl hfields
  rwa [mapM_id_map_ok, Except.map, ofFields_of_nodup hkeys] at hread

/-- **A whole document is read** as its value is. -/
theorem read_render {j : Json} {r : Except ReadFault Json} (h : Reads layout j r) :
    read (render layout 0 j) = r := by
  have hskip := skipGap_of_opens (h.opens 0) []
  have hread := h.reads 0 (2 * (render layout 0 j).length + 2) [] (by simp [Follows]) (by omega)
  rw [List.append_nil] at hskip hread
  rw [read, hskip, hread]
  cases r <;> rfl

/-! ## Documents in ASCII -/

theorem isAscii_gap {gap : List Char} (h : IsGap gap) : IsAscii gap := by
  intro c hc
  have hgap := h c hc
  simp only [isGap, Bool.or_eq_true, beq_iff_eq] at hgap
  rcases hgap with ((rfl | rfl) | rfl) | rfl <;> decide

theorem isAscii_separator (hl : layout.Legible) : IsAscii layout.separator := by
  obtain ⟨gap, hgap, hseparator⟩ := hl.separator
  rw [hseparator]
  exact IsAscii.append (s := [',']) (by decide) (isAscii_gap hgap)

/-- A list is printed in ASCII if its items are. -/
theorem isAscii_render_arr (hl : layout.Legible) {js : List Json}
    (h : ∀ j ∈ js, ∀ depth, IsAscii (render layout depth j)) (depth : ℕ) :
    IsAscii (render layout depth (.arr js)) := by
  have hitems : ∀ js : List Json, (∀ j ∈ js, ∀ depth, IsAscii (render layout depth j)) →
      ∀ depth, IsAscii (renderItems layout depth js) := by
    intro js
    induction js with
    | nil =>
      intro _ depth
      rw [renderItems]
      decide
    | cons j js ih =>
      intro h depth
      rw [renderItems]
      exact (((isAscii_separator hl).append (isAscii_gap (hl.lineBreak depth))).append
        (h j List.mem_cons_self depth)).append
        (ih (fun k hk => h k (List.mem_cons_of_mem j hk)) depth)
  cases js with
  | nil =>
    rw [render]
    decide
  | cons j js =>
    have hfirst := h j List.mem_cons_self (depth + 1)
    have hrest := hitems js (fun k hk => h k (List.mem_cons_of_mem j hk)) (depth + 1)
    have hopen : IsAscii ('[' :: layout.lineBreak (depth + 1)) :=
      IsAscii.append (s := ['[']) (by decide) (isAscii_gap (hl.lineBreak _))
    rw [render]
    exact (((hopen.append hfirst).append hrest).append (isAscii_gap (hl.lineBreak _))).append
      (by decide)

/-- An object is printed in ASCII if its values are: its keys are quoted. -/
theorem isAscii_render_obj (hl : layout.Legible) {fields : List (Text × Json)}
    (h : ∀ field ∈ fields, ∀ depth, IsAscii (render layout depth field.2)) (depth : ℕ) :
    IsAscii (render layout depth (.obj fields)) := by
  have hvalue : ∀ (key : Text) {s : List Char}, IsAscii s →
      IsAscii (quotedText key ++ ':' :: ' ' :: s) := fun key s hs =>
    (isAscii_quotedText key).append (IsAscii.append (s := [':', ' ']) (by decide) hs)
  have hfields : ∀ fields : List (Text × Json),
      (∀ field ∈ fields, ∀ depth, IsAscii (render layout depth field.2)) →
      ∀ depth, IsAscii (renderFields layout depth fields) := by
    intro fields
    induction fields with
    | nil =>
      intro _ depth
      rw [renderFields]
      decide
    | cons field fields ih =>
      intro h depth
      have hfirst := h field List.mem_cons_self depth
      have hrest := ih (fun other hother => h other (List.mem_cons_of_mem field hother)) depth
      have hbreak := (isAscii_separator hl).append (isAscii_gap (hl.lineBreak depth))
      rw [renderFields]
      simpa using hbreak.append (hvalue field.1 (hfirst.append hrest))
  cases fields with
  | nil =>
    rw [render]
    decide
  | cons field fields =>
    have hfirst := h field List.mem_cons_self (depth + 1)
    have hrest := hfields fields (fun other hother => h other (List.mem_cons_of_mem field hother))
      (depth + 1)
    have hopen : IsAscii ('{' :: layout.lineBreak (depth + 1)) :=
      IsAscii.append (s := ['{']) (by decide) (isAscii_gap (hl.lineBreak _))
    have hclose : IsAscii (layout.lineBreak depth ++ ['}']) :=
      (isAscii_gap (hl.lineBreak _)).append (by decide)
    rw [render]
    simpa using (hopen.append (hvalue field.1 (hfirst.append hrest))).append hclose

end Members

/-! ## Equal documents -/

/-- **Two values with one document.** -/
def SameDocument (layout : Layout) (j k : Json) : Prop :=
  ∀ depth, render layout depth j = render layout depth k

/-- A text with halves is printed as the joined one is. -/
theorem sameDocument_str (layout : Layout) (t : Text) :
    SameDocument layout (.str t.joined) (.str t) := by
  intro depth
  rw [render, render, quotedText_joined]

/-- Lists of values with equal documents have equal documents. -/
theorem sameDocument_arr {layout : Layout} {js ks : List Json}
    (h : List.Forall₂ (SameDocument layout) js ks) : SameDocument layout (.arr js) (.arr ks) := by
  have hitems : ∀ depth {js ks : List Json}, List.Forall₂ (SameDocument layout) js ks →
      renderItems layout depth js = renderItems layout depth ks := by
    intro depth js ks h
    induction h with
    | nil => rfl
    | cons hj _ ih => rw [renderItems, renderItems, hj depth, ih]
  intro depth
  cases h with
  | nil => rfl
  | cons hj hjs => rw [render, render, hj (depth + 1), hitems (depth + 1) hjs]

/-- Objects with equal keys and values with equal documents have equal
documents. -/
theorem sameDocument_obj {layout : Layout} {fields others : List (Text × Json)}
    (h : List.Forall₂ (fun f g => f.1 = g.1 ∧ SameDocument layout f.2 g.2) fields others) :
    SameDocument layout (.obj fields) (.obj others) := by
  have hfields : ∀ depth {fields others : List (Text × Json)},
      List.Forall₂ (fun f g => f.1 = g.1 ∧ SameDocument layout f.2 g.2) fields others →
      renderFields layout depth fields = renderFields layout depth others := by
    intro depth fields others h
    induction h with
    | nil => rfl
    | @cons f g fields others hf _ ih => rw [renderFields, renderFields, hf.1, hf.2 depth, ih]
  intro depth
  cases h with
  | nil => rfl
  | @cons f g fields others hf hrest =>
    rw [render, render, hf.1, hf.2 (depth + 1), hfields (depth + 1) hrest]

end ModuleLinks.Json
