/-
Archives of any links, saved and loaded.

A link need not hold texts: a name in a tree can be any value, and so can a tag.
Whatever the links hold, their archive follows the grammar, so loading it can
fail in one way only, at an integer of too many digits. Where it succeeds, each
field of a link comes back as what the reader makes of it: a text with its
halves joined, a list with as many items, an origin as it was.

Main statements: `Json.readable` and `load_save_cases`.
-/
import ModuleLinks.Proofs.ArchiveRoundTrip
import ModuleLinks.Proofs.NumberReading
import ModuleLinks.Proofs.Outcome

set_option autoImplicit false

namespace ModuleLinks

/-! ## Every document of a value is read -/

namespace Json

variable {layout : Layout}

/-- The reader makes one thing of a value. -/
theorem Reads.unique {j : Json} {r r' : Except ReadFault Json} (h : Reads layout j r)
    (h' : Reads layout j r') : r = r' := by
  have hread := h.reads 0 _ [] (by simp [Follows]) (Nat.le_refl _)
  rw [h'.reads 0 _ [] (by simp [Follows]) (Nat.le_refl _)] at hread
  rcases r with e | k <;> rcases r' with e' | k' <;> simp_all [Except.map]

/-- **The document of a value is read** as a value, unless an integer in it has too
many digits. -/
def Readable (layout : Layout) (j : Json) : Prop :=
  Reads layout j (.error .integerTooLong) ∨ ∃ k, Reads layout j (.ok k)

/-- Where each member ends in a value or in the same failure, one member ends all in
the failure, or all end in values. -/
theorem forall₂_cases {α β : Type} {P : α → Except ReadFault β → Prop} {e : ReadFault} {as : List α}
    (h : ∀ a ∈ as, P a (.error e) ∨ ∃ b, P a (.ok b)) :
    (∃ rs, List.Forall₂ P as rs ∧ rs.mapM id = .error e)
      ∨ ∃ bs, List.Forall₂ (fun a b => P a (.ok b)) as bs := by
  induction as with
  | nil => exact .inr ⟨[], .nil⟩
  | cons a as ih =>
    rw [List.forall_mem_cons] at h
    obtain ⟨ha, has⟩ := h
    rcases ih has with ⟨rs, hrs, hfail⟩ | ⟨bs, hbs⟩
    · -- What the first member ends in does not matter, if it is no other failure.
      rcases ha with ha | ⟨b, hb⟩
      · exact .inl ⟨.error e :: rs, .cons ha hrs, rfl⟩
      · exact .inl ⟨.ok b :: rs, .cons hb hrs, by rw [List.mapM_cons, hfail]; rfl⟩
    · rcases ha with ha | ⟨b, hb⟩
      · exact .inl ⟨.error e :: bs.map Except.ok, .cons ha (List.forall₂_map_right_iff.2 hbs), rfl⟩
      · exact .inr ⟨b :: bs, .cons hb hbs⟩

/-- **A list is read** item by item, unless an item is refused. -/
theorem reads_arr_cases (hl : layout.Legible) {js : List Json} (h : ∀ j ∈ js, Readable layout j) :
    Reads layout (.arr js) (.error .integerTooLong)
      ∨ ∃ ks, List.Forall₂ (fun j k => Reads layout j (.ok k)) js ks
        ∧ Reads layout (.arr js) (.ok (.arr ks)) := by
  rcases forall₂_cases h with ⟨rs, hrs, hfail⟩ | ⟨ks, hks⟩
  · refine .inl ?_
    have hread := reads_arr hl hrs
    rwa [hfail] at hread
  · exact .inr ⟨ks, hks, reads_arr_ok hl hks⟩

/-- **An object is read** field by field, unless a value in it is refused. -/
theorem reads_obj_cases (hl : layout.Legible) {fields : List (Text × Json)}
    (h : ∀ field ∈ fields, Readable layout field.2) :
    Reads layout (.obj fields) (.error .integerTooLong)
      ∨ ∃ ks : List (Text × Json),
        List.Forall₂ (fun field k => k.1 = field.1.joined ∧ Reads layout field.2 (.ok k.2)) fields ks
          ∧ Reads layout (.obj fields) (.ok (ofFields ks)) := by
  -- A field is read if its value is: keys are texts, and every text can be read.
  have hfields : ∀ field ∈ fields, ReadsField layout field (.error .integerTooLong)
      ∨ ∃ k, ReadsField layout field (.ok k) := by
    intro field hfield
    rcases h field hfield with hfail | ⟨k, hk⟩
    · exact .inl ⟨_, hfail, rfl⟩
    · exact .inr ⟨_, _, hk, rfl⟩
  rcases forall₂_cases hfields with ⟨rs, hrs, hfail⟩ | ⟨ks, hks⟩
  · refine .inl ?_
    have hread := reads_obj hl hrs
    rwa [hfail] at hread
  · refine .inr ⟨ks, ?_, ?_⟩
    · apply hks.imp
      rintro field k ⟨v, hv, hk⟩
      obtain ⟨value, rfl, rfl⟩ := Outcome.map_eq_ok.1 hk.symm
      exact ⟨rfl, hv⟩
    · have hread := reads_obj hl (List.forall₂_map_right_iff.2 hks)
      rwa [mapM_id_map_ok] at hread

/-- **Every document of a value is read.** The recursion is on the value: a list and
an object are read if their members are. -/
theorem readable (hl : layout.Legible) : ∀ j : Json, Readable layout j
  | .null => .inr ⟨.null, reads_word ['n', 'u', 'l', 'l'] (fun depth => by rw [render])
      ⟨'n', _, rfl, rfl, by decide⟩ fun fuel rest => rfl⟩
  | .bool true => .inr ⟨.bool true, reads_word ['t', 'r', 'u', 'e'] (fun depth => by rw [render]; rfl)
      ⟨'t', _, rfl, rfl, by decide⟩ fun fuel rest => rfl⟩
  | .bool false => .inr ⟨.bool false, reads_word ['f', 'a', 'l', 's', 'e']
      (fun depth => by rw [render]; rfl) ⟨'f', _, rfl, rfl, by decide⟩ fun fuel rest => rfl⟩
  | .int n => by
    -- An integer is the one value that may have too many digits for the reader.
    have hread := reads_int layout n
    by_cases hlong : (Nat.toDigits 10 n.natAbs).length > integerDigitLimit
    · rw [if_pos hlong] at hread
      exact .inl hread
    · rw [if_neg hlong] at hread
      exact .inr ⟨_, hread⟩
  | .float x => by
    obtain ⟨y, hy⟩ := exists_reads_float layout x
    exact .inr ⟨.float y, hy⟩
  | .str t => .inr ⟨.str t.joined, reads_str layout t⟩
  | .arr items => by
    have hitems : ∀ j ∈ items, Readable layout j := fun j hj => readable hl j
    rcases reads_arr_cases hl hitems with hfail | ⟨ks, -, hks⟩
    · exact .inl hfail
    · exact .inr ⟨_, hks⟩
  | .obj fields => by
    have hfields : ∀ field ∈ fields, Readable layout field.2 := fun field hfield => readable hl field.2
    rcases reads_obj_cases hl hfields with hfail | ⟨ks, -, hks⟩
    · exact .inl hfail
    · exact .inr ⟨_, hks⟩
termination_by j => sizeOf j
decreasing_by
  · have hlt := List.sizeOf_lt_of_mem hj
    simp only [arr.sizeOf_spec]
    omega
  · have hlt := List.sizeOf_lt_of_mem hfield
    have hvalue : sizeOf field.2 < sizeOf field := by
      obtain ⟨key, value⟩ := field
      simp only [Prod.mk.sizeOf_spec]
      omega
    simp only [obj.sizeOf_spec]
    omega

/-! ## Fields that were read -/

section Lookup

variable {fields ks : List (Text × Json)}

/-- **Fields, and what was read of them.** -/
def ReadFields (layout : Layout) (fields ks : List (Text × Json)) : Prop :=
  List.Forall₂ (fun field k => k.1 = field.1 ∧ Reads layout field.2 (.ok k.2)) fields ks

/-- Reading keeps the keys of an object, and their order. -/
theorem ReadFields.keys_eq (h : ReadFields layout fields ks) :
    ks.map Prod.fst = fields.map Prod.fst := by
  induction h with
  | nil => rfl
  | cons hfield _ ih => rw [List.map_cons, List.map_cons, hfield.1, ih]

/-- Behind a key stands what was read from behind it. -/
theorem ReadFields.lookup_eq_some (h : ReadFields layout fields ks) {key : Text} {j : Json}
    (hj : fields.lookup key = some j) :
    ∃ k, ks.lookup key = some k ∧ Reads layout j (.ok k) := by
  induction h with
  | nil => cases hj
  | @cons field k fields ks hfield _ ih =>
    obtain ⟨_, value⟩ := field
    obtain ⟨name, k⟩ := k
    obtain ⟨rfl, hread⟩ := hfield
    -- The keys come back in order, so both look-ups stop at the same entry.
    by_cases hkey : key = name
    · rw [hkey, List.lookup_cons_self, Option.some.injEq] at hj
      rw [hkey, List.lookup_cons_self, ← hj]
      exact ⟨k, rfl, hread⟩
    · have hne : (key == name) = false := beq_eq_false_iff_ne.2 hkey
      simp only [List.lookup_cons, hne] at hj ⊢
      exact ih hj

/-- A key that was not written is not there after reading. -/
theorem ReadFields.lookup_eq_none (h : ReadFields layout fields ks) {key : Text}
    (hj : fields.lookup key = none) : ks.lookup key = none := by
  rw [List.lookup_eq_none_iff] at hj ⊢
  intro k hk
  have hkey : k.1 ∈ fields.map Prod.fst := by
    rw [← h.keys_eq]
    exact List.mem_map_of_mem hk
  obtain ⟨field, hfield, hname⟩ := List.mem_map.1 hkey
  rw [← hname]
  exact hj field hfield

end Lookup

end Json

/-! ## Links -/

namespace Link

/-- **What a link may come back as**: every field as what the reader makes of it,
and no assertion where it said nothing. -/
structure ComesBackAs (link back : Link) : Prop where
  specifiers : List.Forall₂ (fun j k => Json.Reads .indented j (.ok k))
    link.specifiers back.specifiers
  source : Json.Reads .indented link.source (.ok back.source)
  assertion : if link.assertion.isTrivial then back.assertion = .null
    else Json.Reads .indented link.assertion (.ok back.assertion)
  origin : back.origin = link.origin

/-- The fields of the record of a link. -/
def recordFields (link : Link) : List (Text × Json) :=
  [(Text.ofString "importSpecifiers", .arr link.specifiers),
    (Text.ofString "source", link.source)]
  ++ (if link.assertion.isTrivial then []
      else [(Text.ofString "assertionType", link.assertion)])
  ++ (link.origin.map fun origin =>
      (Text.ofString "classification", Json.ofString origin.name)).toList

theorem record_eq (link : Link) : record link = .obj link.recordFields := by
  obtain ⟨specifiers, source, assertion, origin⟩ := link
  cases origin <;> rfl

/-- The keys of a record differ, so none hides another. -/
theorem nodup_keys_recordFields (link : Link) : (link.recordFields.map Prod.fst).Nodup := by
  unfold recordFields
  split_ifs <;> cases link.origin <;> simp

/-- The keys of a record are words, in which nothing is joined. -/
theorem joined_of_mem_recordFields {link : Link} {field : Text × Json}
    (h : field ∈ link.recordFields) : field.1.joined = field.1 := by
  have hkey : ∃ word, field.1 = Text.ofString word := by
    simp only [recordFields, List.mem_append, List.mem_cons, List.not_mem_nil, or_false] at h
    rcases h with ((rfl | rfl) | hassertion) | horigin
    · exact ⟨_, rfl⟩
    · exact ⟨_, rfl⟩
    · split_ifs at hassertion
      · cases hassertion
      · rw [List.mem_singleton.1 hassertion]
        exact ⟨_, rfl⟩
    · obtain ⟨origin, _, rfl⟩ := Option.map_eq_some_iff.1 (Option.mem_toList.1 horigin)
      exact ⟨_, rfl⟩
  obtain ⟨word, hword⟩ := hkey
  rw [hword, Text.joined_ofString]

section Lookup

variable (link : Link)

theorem lookup_specifiers :
    link.recordFields.lookup (Text.ofString "importSpecifiers") = some (.arr link.specifiers) := by
  rfl

theorem lookup_source :
    link.recordFields.lookup (Text.ofString "source") = some link.source := by
  rfl

/-- The field for the assertion is left out if the assertion is trivial. -/
theorem lookup_assertion :
    link.recordFields.lookup (Text.ofString "assertionType")
      = if link.assertion.isTrivial then none else some link.assertion := by
  unfold recordFields
  split_ifs <;> cases link.origin <;> rfl

/-- The field for the origin is left out before the link is classified. -/
theorem lookup_origin :
    link.recordFields.lookup (Text.ofString "classification")
      = link.origin.map fun origin => Json.ofString origin.name := by
  unfold recordFields
  split_ifs <;> cases link.origin <;> rfl

end Lookup

/-- The name of an origin says which one it is. -/
theorem originOf_name (origin : Origin) :
    originOf (Json.ofString origin.name) = .ok (some origin) := by
  cases origin <;> rfl

section Record

variable {link : Link} {ks : List (Text × Json)}

/-- The specifiers come back as a list, each read on its own. -/
theorem exists_lookup_specifiers (h : Json.ReadFields .indented link.recordFields ks) :
    ∃ js, ks.lookup (Text.ofString "importSpecifiers") = some (.arr js)
      ∧ List.Forall₂ (fun j k => Json.Reads .indented j (.ok k)) link.specifiers js := by
  have hl := Json.Layout.legible_indented
  obtain ⟨k, hk, hread⟩ := h.lookup_eq_some link.lookup_specifiers
  rcases Json.reads_arr_cases hl (fun j _ => Json.readable hl j) with hfail | ⟨js, hjs, hread'⟩
  · cases hread.unique hfail
  · rw [Except.ok.inj (hread.unique hread')] at hk
    exact ⟨js, hk, hjs⟩

/-- The assertion comes back, or `null` in place of one that was left out. -/
theorem lookup_assertion_of_read (h : Json.ReadFields .indented link.recordFields ks) :
    if link.assertion.isTrivial
      then (ks.lookup (Text.ofString "assertionType")).getD .null = .null
      else Json.Reads .indented link.assertion
        (.ok ((ks.lookup (Text.ofString "assertionType")).getD .null)) := by
  have hfield := link.lookup_assertion
  by_cases htrivial : link.assertion.isTrivial = true
  · rw [if_pos htrivial] at hfield ⊢
    rw [h.lookup_eq_none hfield]
    rfl
  · rw [if_neg htrivial] at hfield ⊢
    obtain ⟨k, hk, hread⟩ := h.lookup_eq_some hfield
    rw [hk]
    exact hread

/-- The origin comes back as it was: its name is plain text. -/
theorem originOf_of_read (h : Json.ReadFields .indented link.recordFields ks) :
    originOf ((ks.lookup (Text.ofString "classification")).getD .null) = .ok link.origin := by
  have hfield := link.lookup_origin
  rcases horigin : link.origin with _ | origin
  · rw [horigin] at hfield
    rw [h.lookup_eq_none hfield]
    rfl
  · rw [horigin] at hfield
    obtain ⟨k, hk, hread⟩ := h.lookup_eq_some hfield
    obtain rfl := Except.ok.inj (hread.unique (TextLink.reads_ofString origin.name))
    rw [hk]
    exact originOf_name origin

/-- **A record that was read is that of a link** which the link may come back as. -/
theorem exists_ofRecord (h : Json.ReadFields .indented link.recordFields ks) :
    ∃ back, ofRecord (.obj ks) = .ok back ∧ link.ComesBackAs back := by
  obtain ⟨specifiers, hspecifiers, hread⟩ := exists_lookup_specifiers h
  obtain ⟨source, hsource, hreadSource⟩ := h.lookup_eq_some link.lookup_source
  refine ⟨⟨specifiers, source, (ks.lookup (Text.ofString "assertionType")).getD .null, link.origin⟩,
    ?_, hread, hreadSource, lookup_assertion_of_read h, rfl⟩
  simp only [ofRecord, Json.isObject, Json.required, Json.field, Json.field?, Json.elements,
    Json.elements?, hspecifiers, hsource, originOf_of_read h]
  rfl

end Record

/-- **What the reader makes of the record of a link**: a failure, or the record of
what the link comes back as. -/
def ReadsBack (link : Link) (r : Except Json.ReadFault Json) : Prop :=
  Json.Reads .indented (record link) r
    ∧ ∀ k, r = .ok k → ∃ back, ofRecord k = .ok back ∧ link.ComesBackAs back

/-- A link is read back, or a number in it has too many digits to be read. -/
theorem readsBack_cases (link : Link) :
    link.ReadsBack (.error .integerTooLong) ∨ ∃ k, link.ReadsBack (.ok k) := by
  have hl := Json.Layout.legible_indented
  unfold ReadsBack
  rw [record_eq]
  rcases Json.reads_obj_cases hl (fun field _ => Json.readable hl field.2) with
    hfail | ⟨ks, hks, hread⟩
  · exact .inl ⟨hfail, nofun⟩
  · -- The keys come back as they were, so no field is written over another.
    have hfields : Json.ReadFields .indented link.recordFields ks := by
      have hwords : ∀ field ∈ link.recordFields, field.1.joined = field.1 :=
        fun _ => joined_of_mem_recordFields
      apply ((List.forall₂_and_left _ _).2 ⟨hwords, hks⟩).imp
      rintro field k ⟨hjoined, hkey, hvalue⟩
      exact ⟨hkey.trans hjoined, hvalue⟩
    rw [Json.ofFields_of_nodup (hfields.keys_eq ▸ link.nodup_keys_recordFields)] at hread
    refine .inr ⟨.obj ks, hread, ?_⟩
    rintro k hk
    rw [← Except.ok.inj hk]
    exact exists_ofRecord hfields

/-- Records that were read are those of the links which come back. -/
theorem exists_mapM_ofRecord {links : List Link} {ks : List Json}
    (h : List.Forall₂ (fun link k => ReadsBack link (.ok k)) links ks) :
    ∃ back, ks.mapM ofRecord = .ok back ∧ List.Forall₂ ComesBackAs links back := by
  induction h with
  | nil => exact ⟨[], rfl, .nil⟩
  | @cons link k links ks hlink _ ih =>
    obtain ⟨first, hfirst, hcomes⟩ := hlink.2 k rfl
    obtain ⟨back, hback, hothers⟩ := ih
    refine ⟨first :: back, ?_, .cons hcomes hothers⟩
    rw [List.mapM_cons, hfirst, hback]
    rfl

/-- Loading an archive goes on from what the reader makes of its records. -/
theorem load_save_of_reads {links : List Link} {r : Except Json.ReadFault Json}
    (h : Json.Reads .indented (.arr (links.map record)) r) :
    load (save links) = match r with
      | .ok j => j.elements >>= fun members => members.mapM ofRecord
      | .error fault => .error (failureOf fault) := by
  have hread := Json.reads_obj Json.Layout.legible_indented
    (.cons ⟨r, h, rfl⟩ .nil : List.Forall₂ (Json.ReadsField .indented)
      [(Text.ofString "result", .arr (links.map record))] [_])
  rw [load, save, listRecord, Json.read_render hread]
  rcases r with e | j
  · rfl
  · rfl

/-- **An archive of any links is loaded**, unless an integer in it has too many
digits, and every link comes back. -/
theorem load_save_cases (links : List Link) :
    load (save links) = .error .integerTooLong
      ∨ ∃ back, load (save links) = .ok back ∧ List.Forall₂ ComesBackAs links back := by
  have hl := Json.Layout.legible_indented
  rcases Json.forall₂_cases fun link (_ : link ∈ links) => readsBack_cases link with
    ⟨rs, hrs, hfail⟩ | ⟨ks, hks⟩
  · have hitems := Json.reads_arr hl (List.forall₂_map_left_iff.2 (hrs.imp fun _ _ h => h.1))
    rw [hfail] at hitems
    exact .inl (load_save_of_reads hitems)
  · have hitems := Json.reads_arr_ok hl (List.forall₂_map_left_iff.2 (hks.imp fun _ _ h => h.1))
    obtain ⟨back, hback, hcomes⟩ := exists_mapM_ofRecord hks
    refine .inr ⟨back, ?_, hcomes⟩
    rw [load_save_of_reads hitems]
    exact hback

end Link

end ModuleLinks
