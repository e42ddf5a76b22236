/-
Paths, written relative to a directory and read back.

A text that names a file relative to a directory is a list of names with slashes
between them: first as many double dots as lead up to the directory that both
have in common, then the names that lead down from there. Reading the text in
the directory walks along these names. The walk ends where the writing began,
`walk_names_relativeTo`, and from this one fact it follows that two paths never
have the same text, whether they lie inside the directory, above it or beside
it.

The fact needs the path to be **normal**: none of its names is empty, has a
slash, or is a dot or two dots. Nothing is asked of the directory. Its own names
are taken back by double dots, one each, whatever they are.
-/
import Mathlib.Data.List.Induction
import ModuleLinks.Path

set_option autoImplicit false

namespace ModuleLinks

/-- A text starts with a word if the word is a prefix of it. -/
theorem Text.startsWith_iff {t : Text} {s : String} :
    t.startsWith s = true ↔ Text.ofString s <+: t :=
  List.isPrefixOf_iff_prefix

namespace Path

/-! ## Names -/

/-- **A step along a path**: a name that reading a text does not drop. -/
structure IsStep (name : Text) : Prop where
  nonempty : name ≠ []
  unslashed : ∀ c ∈ name, c.is '/' = false
  undotted : name ≠ Text.ofString "."

/-- **A name that leads down**, into a directory or to a file. -/
structure IsName (name : Text) : Prop extends IsStep name where
  ne_parentName : name ≠ parentName

/-- **A normal path**: it leads down all the way from the root directory. -/
def IsNormal (path : Path) : Prop := ∀ name ∈ path, IsName name

instance (name : Text) : Decidable (IsStep name) :=
  decidable_of_iff
    (name ≠ [] ∧ (∀ c ∈ name, c.is '/' = false) ∧ name ≠ Text.ofString ".")
    ⟨fun h => ⟨h.1, h.2.1, h.2.2⟩, fun h => ⟨h.nonempty, h.unslashed, h.undotted⟩⟩

instance (name : Text) : Decidable (IsName name) :=
  decidable_of_iff (IsStep name ∧ name ≠ parentName)
    ⟨fun h => ⟨h.1, h.2⟩, fun h => ⟨h.toIsStep, h.ne_parentName⟩⟩

instance (path : Path) : Decidable (IsNormal path) :=
  inferInstanceAs (Decidable (∀ name ∈ path, IsName name))

theorem isStep_parentName : IsStep parentName where
  nonempty := by decide
  unslashed := by decide
  undotted := by decide

theorem isNormal_append {path other : Path} :
    IsNormal (path ++ other) ↔ IsNormal path ∧ IsNormal other :=
  List.forall_mem_append

/-! ## Names in a text -/

theorem pieces_ne_nil (t : Text) : pieces t ≠ [] := by
  unfold pieces
  split
  · simp
  · split
    · simp
    · split <;> simp

/-- No piece between slashes has a slash in it. -/
theorem unslashed_of_mem_pieces {t piece : Text} (h : piece ∈ pieces t) :
    ∀ c ∈ piece, c.is '/' = false := by
  induction t generalizing piece with
  | nil => simp_all [pieces]
  | cons c rest ih =>
    rw [pieces] at h
    by_cases hslash : c.is '/' = true
    · rw [if_pos hslash] at h
      rcases List.mem_cons.1 h with rfl | hrest
      · simp
      · exact ih hrest
    · rw [if_neg hslash] at h
      cases hpieces : pieces rest with
      | nil => exact absurd hpieces (pieces_ne_nil rest)
      | cons first others =>
        rw [hpieces] at h ih
        -- The first piece of the rest goes on with the new character in front.
        rcases List.mem_cons.1 h with rfl | hothers
        · exact List.forall_mem_cons.2 ⟨Bool.eq_false_iff.2 hslash, ih List.mem_cons_self⟩
        · exact ih (List.mem_cons_of_mem first hothers)

theorem pieces_of_unslashed {name : Text} (h : ∀ c ∈ name, c.is '/' = false) :
    pieces name = [name] := by
  induction name with
  | nil => rfl
  | cons c rest ih =>
    rw [List.forall_mem_cons] at h
    rw [pieces, if_neg (by simp [h.1]), ih h.2]

/-- A slash ends the piece in front of it. -/
theorem pieces_append_slash {name : Text} (h : ∀ c ∈ name, c.is '/' = false) (t : Text) :
    pieces (name ++ Text.ofString "/" ++ t) = name :: pieces t := by
  induction name with
  | nil => rfl
  | cons c rest ih =>
    rw [List.forall_mem_cons] at h
    rw [List.cons_append, List.cons_append, pieces, if_neg (by simp [h.1]), ih h.2]

/-- Names with slashes between them are the pieces of their text. -/
theorem pieces_spelled {path : List Text} (hne : path ≠ [])
    (h : ∀ name ∈ path, ∀ c ∈ name, c.is '/' = false) : pieces (spelled path) = path := by
  induction path with
  | nil => exact absurd rfl hne
  | cons name rest ih =>
    rw [List.forall_mem_cons] at h
    cases rest with
    | nil => exact pieces_of_unslashed h.1
    | cons next rest => rw [spelled, pieces_append_slash h.1, ih (by simp) h.2]

/-- The names in a text are steps: empty ones and those for the directory itself are left out. -/
theorem isStep_of_mem_names {t name : Text} (h : name ∈ names t) : IsStep name := by
  obtain ⟨hpiece, hkept⟩ := List.mem_filter.1 h
  simp only [Bool.not_or, Bool.and_eq_true, Bool.not_eq_true', List.isEmpty_eq_false_iff] at hkept
  refine ⟨hkept.1, unslashed_of_mem_pieces hpiece, ?_⟩
  intro hdot
  rw [hdot] at hkept
  exact absurd hkept.2 (by decide)

/-- **Steps are read as they are spelled.** -/
theorem names_spelled {path : List Text} (h : ∀ name ∈ path, IsStep name) :
    names (spelled path) = path := by
  by_cases hne : path = []
  · subst hne
    rfl
  · rw [names, pieces_spelled hne fun name hname => (h name hname).unslashed, List.filter_eq_self]
    intro name hname
    have hdot : name.is "." = false := by
      rw [Bool.eq_false_iff, ne_eq, Text.is_iff]
      exact (h name hname).undotted
    simp [(h name hname).nonempty, hdot]

/-- A dot and a slash in front of a text say nothing. -/
theorem names_here (t : Text) : names (Text.ofString "./" ++ t) = names t := by
  have hdot : ∀ c ∈ Text.ofString ".", c.is '/' = false := by decide
  have hpieces : pieces (Text.ofString "./" ++ t) = Text.ofString "." :: pieces t :=
    pieces_append_slash hdot t
  rw [names, hpieces, List.filter_cons_of_neg (by decide)]
  rfl

/-! ## Walking -/

theorem walk_append (start : Path) (before after : List Text) :
    walk start (before ++ after) = walk (walk start before) after :=
  List.foldl_append

/-- A step leads from a normal path to a normal one, up or down. -/
theorem isNormal_step {path : Path} {name : Text} (hpath : IsNormal path) (hname : IsStep name) :
    IsNormal (step path name) := by
  unfold step
  by_cases h : name = parentName
  · rw [if_pos h]
    exact fun other hother => hpath other (List.dropLast_subset path hother)
  · rw [if_neg h]
    exact isNormal_append.2 ⟨hpath, by simpa [IsNormal] using ⟨hname, h⟩⟩

/-- **A walk from a normal path ends at one.** -/
theorem isNormal_walk {start : Path} (hstart : IsNormal start) {steps : List Text}
    (h : ∀ name ∈ steps, IsStep name) : IsNormal (walk start steps) := by
  induction steps generalizing start with
  | nil => exact hstart
  | cons name rest ih =>
    rw [List.forall_mem_cons] at h
    exact ih (isNormal_step hstart h.1) h.2

/-- A text is read as a normal path from a normal one. -/
theorem isNormal_read {here : Path} (hhere : IsNormal here) (t : Text) :
    IsNormal (read here t) := by
  unfold read
  split
  · exact isNormal_walk (by simp [IsNormal]) fun _ => isStep_of_mem_names
  · exact isNormal_walk hhere fun _ => isStep_of_mem_names

/-- Names that lead down are all put at the end. -/
theorem walk_of_isNormal (start : Path) {path : Path} (h : IsNormal path) :
    walk start path = start ++ path := by
  induction path generalizing start with
  | nil => rw [List.append_nil]; rfl
  | cons name rest ih =>
    obtain ⟨hname, hrest⟩ := List.forall_mem_cons.1 h
    have hstep : step start name = start ++ [name] := if_neg hname.ne_parentName
    show walk (step start name) rest = _
    rw [ih _ hrest, hstep, List.append_assoc, List.singleton_append]

/-- Each double dot takes back one name. The induction is on the names from the
last on, which is the one that goes first. -/
theorem walk_parents (start up : Path) :
    walk (start ++ up) (up.map fun _ => parentName) = start := by
  induction up using List.reverseRecOn with
  | nil => rw [List.append_nil]; rfl
  | append_singleton up name ih =>
    have hback : step (start ++ (up ++ [name])) parentName = start ++ up := by
      rw [step, if_pos rfl, ← List.append_assoc, List.dropLast_concat]
    have hmap : (up ++ [name]).map (fun _ => parentName)
        = parentName :: up.map fun _ => parentName := by
      rw [List.map_const', List.map_const', List.length_append, List.length_singleton,
        List.replicate_succ]
    rw [hmap]
    show walk (step _ parentName) _ = _
    rw [hback, ih]

/-! ## Relative to a directory -/

/-- Two paths are what they have in common and what sets them apart. -/
theorem exists_common (directory path : Path) :
    ∃ common, directory = common ++ (apart directory path).1
      ∧ path = common ++ (apart directory path).2 := by
  fun_induction apart directory path with
  | case1 as a bs ih =>
    obtain ⟨common, hdirectory, hpath⟩ := ih
    exact ⟨a :: common, congrArg (a :: ·) hdirectory, congrArg (a :: ·) hpath⟩
  | case2 as a bs hne => exact ⟨[], rfl, rfl⟩
  | case3 => exact ⟨[], rfl, rfl⟩

/-- **Inside the directory** the way begins with a dot. -/
theorem relativeTo_of_inside {directory path : Path} (h : (apart directory path).1 = []) :
    relativeTo directory path = Text.ofString "./" ++ spelled (apart directory path).2 := by
  unfold relativeTo
  split
  · next inside heq => rw [heq]
  · next up down hup heq => exact absurd (by rw [heq] at h; exact h) hup

/-- **Outside of it** the way begins with the steps up. -/
theorem relativeTo_of_outside {directory path : Path} (h : (apart directory path).1 ≠ []) :
    relativeTo directory path
      = spelled ((apart directory path).1.map (fun _ => parentName)
          ++ (apart directory path).2) := by
  unfold relativeTo
  split
  · next inside heq => exact absurd (by rw [heq]) h
  · next up down hup heq => rw [heq]

/-- All names on the way up and down are steps. -/
theorem isStep_of_mem_way (up : Path) {down : Path} (h : ∀ name ∈ down, IsStep name) :
    ∀ name ∈ up.map (fun _ => parentName) ++ down, IsStep name := by
  rw [List.forall_mem_append]
  refine ⟨?_, h⟩
  intro name hname
  obtain ⟨_, _, rfl⟩ := List.mem_map.1 hname
  exact isStep_parentName

/-- **The names in a relative text**: up to what the two have in common, and down
from there. -/
theorem names_relativeTo (directory : Path) {path : Path} (h : IsNormal path) :
    names (relativeTo directory path)
      = (apart directory path).1.map (fun _ => parentName) ++ (apart directory path).2 := by
  obtain ⟨common, _, hpath⟩ := exists_common directory path
  have hdown : ∀ name ∈ (apart directory path).2, IsStep name := by
    intro name hname
    rw [hpath] at h
    exact ((isNormal_append.1 h).2 name hname).toIsStep
  by_cases hup : (apart directory path).1 = []
  · rw [relativeTo_of_inside hup, names_here, names_spelled hdown, hup]
    rfl
  · rw [relativeTo_of_outside hup, names_spelled (isStep_of_mem_way _ hdown)]

/-- **What is written relative to a directory is found from there.** -/
theorem walk_names_relativeTo (directory : Path) {path : Path} (h : IsNormal path) :
    walk directory (names (relativeTo directory path)) = path := by
  obtain ⟨common, hdirectory, hpath⟩ := exists_common directory path
  rw [names_relativeTo directory h, walk_append]
  have hdown : IsNormal (apart directory path).2 := by
    rw [hpath] at h
    exact (isNormal_append.1 h).2
  generalize apart directory path = both at hdirectory hpath hdown
  rw [hdirectory, walk_parents, walk_of_isNormal _ hdown, hpath]

/-- **Different paths have different texts**, wherever they lie. -/
theorem relativeTo_inj (directory : Path) {path other : Path} (h : IsNormal path)
    (hother : IsNormal other) :
    relativeTo directory path = relativeTo directory other ↔ path = other := by
  constructor
  · intro htext
    rw [← walk_names_relativeTo directory h, htext, walk_names_relativeTo directory hother]
  · intro hpath
    rw [hpath]

/-- **A relative text is one of the four kinds** that sources of modules have:
the directory above or below it, or the directory itself. -/
theorem isRelative_relativeTo (directory path : Path) :
    isRelative (relativeTo directory path) = true := by
  by_cases hup : (apart directory path).1 = []
  · have hstart : Text.startsWith (relativeTo directory path) "./" = true := by
      rw [relativeTo_of_inside hup]
      exact Text.startsWith_iff.2 (List.prefix_append _ _)
    simp [isRelative, hstart]
  · rw [relativeTo_of_outside hup]
    cases h : (apart directory path).1 with
    | nil => exact absurd h hup
    | cons a up =>
      rw [List.map_cons, List.cons_append]
      cases up.map (fun _ => parentName) ++ (apart directory path).2 with
      | nil => decide
      | cons next rest =>
        have hstart : Text.startsWith (spelled (parentName :: next :: rest)) "../" = true :=
          Text.startsWith_iff.2 (List.prefix_append (Text.ofString "../") _)
        simp [isRelative, hstart]

/-- A relative source does not start from the root directory. -/
theorem isAbsolute_of_isRelative {t : Text} (h : isRelative t = true) : isAbsolute t = false := by
  cases t with
  | nil => rfl
  | cons c rest =>
    -- The first character of a relative source is a dot.
    have hdot : c = CodePoint.ofChar '.' := by
      simp only [isRelative, Text.isOneOf, Text.startsWith, List.any_cons, List.any_nil,
        Bool.or_eq_true, Text.is_iff] at h
      rcases h with ((h | h | h) | h) | h <;> simp_all [Text.ofString, Text.ofChars]
    subst hdot
    rfl

end Path

end ModuleLinks
