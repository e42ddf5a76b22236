/-
The form of root-relative paths.

Two paths have a longest start in common. Relative to a root, a path is written as two dots
for every name of the root behind that start, and then its own names behind it. A path in
the root, which has nothing to go back, is written behind a dot and a slash instead, and the
root itself is these two alone.

So a text tells at its first two characters whether the path lies in the root. What looks
special is none of it: a name may begin with dots, and a neighbour's name may begin with the
name of the root. Names are compared as a whole, and only a name that is nothing but two
dots leads up.

Main statement: `rootRelative_form`.
-/
import ModuleLinks.Proofs.ProjectPlace

set_option autoImplicit false

namespace ModuleLinks

namespace Path

/-! ## The longest start in common -/

/-- **The longest start** that two paths have in common. -/
structure IsCommonStart (common directory path : Path) : Prop where
  left : common <+: directory
  right : common <+: path
  longest : ∀ other : Path, other <+: directory → other <+: path → other <+: common

/-- What sets two paths apart begins with different names. -/
theorem head?_apart_ne {directory path : Path} {a b : Text}
    (ha : (apart directory path).1.head? = some a) (hb : (apart directory path).2.head? = some b) :
    a ≠ b := by
  fun_induction apart directory path with
  | case1 name as bs ih => exact ih ha hb
  | case2 first as other bs hne =>
    obtain rfl := Option.some.inj ha
    obtain rfl := Option.some.inj hb
    exact hne
  -- There is no third case for two names: they are the same or they are not.
  | case3 as bs hnone =>
    cases as with
    | nil => cases ha
    | cons first as =>
      cases bs with
      | nil => cases hb
      | cons other bs => exact (hnone first as other bs rfl rfl).elim

/-- What sets two paths apart stands behind their longest start in common. -/
theorem exists_isCommonStart (directory path : Path) :
    ∃ common, IsCommonStart common directory path
      ∧ directory = common ++ (apart directory path).1
      ∧ path = common ++ (apart directory path).2 := by
  obtain ⟨common, hdirectory, hpath⟩ := exists_common directory path
  have hleft : common <+: directory := ⟨_, hdirectory.symm⟩
  have hright : common <+: path := ⟨_, hpath.symm⟩
  refine ⟨common, ⟨hleft, hright, ?_⟩, hdirectory, hpath⟩
  intro other hother hother'
  rcases List.prefix_or_prefix_of_prefix hother hleft with hshort | ⟨extra, rfl⟩
  · exact hshort
  · -- A name more in common would be the first of both rests.
    cases extra with
    | nil => exact ⟨[], by simp⟩
    | cons name rest =>
      rw [hdirectory, List.prefix_append_right_inj] at hother
      rw [hpath, List.prefix_append_right_inj] at hother'
      obtain ⟨up, hup⟩ := hother
      obtain ⟨down, hdown⟩ := hother'
      have hfirst : (apart directory path).1.head? = some name := by rw [← hup]; rfl
      have hsecond : (apart directory path).2.head? = some name := by rw [← hdown]; rfl
      exact absurd rfl (head?_apart_ne hfirst hsecond)

/-! ## Names in a row -/

/-- Names with slashes between them. -/
theorem spelled_eq_intercalate (names : List Text) :
    spelled names = (Text.ofString "/").intercalate names := by
  induction names with
  | nil => rfl
  | cons name rest ih =>
    cases rest with
    | nil => exact List.intercalate_singleton.symm
    | cons next rest => rw [spelled, ih, List.intercalate_cons_cons]

theorem spelled_ne_nil {name : Text} (h : name ≠ []) (rest : List Text) :
    spelled (name :: rest) ≠ [] := by
  cases rest with
  | nil => exact h
  | cons next rest =>
    rw [spelled]
    simp [h]

/-- Names in a row do not end in a slash. -/
theorem not_slash_isSuffix_spelled {names : List Text} (h : ∀ name ∈ names, IsStep name) :
    ¬Text.ofString "/" <:+ spelled names := by
  induction names with
  | nil =>
    intro hslash
    have hlength := hslash.length_le
    cases hlength
  | cons name rest ih =>
    rw [List.forall_mem_cons] at h
    intro hslash
    cases rest with
    | nil =>
      -- A name alone would have the slash in it.
      have hmem : CodePoint.ofChar '/' ∈ name := hslash.subset List.mem_cons_self
      have hslashed := h.1.unslashed _ hmem
      cases hslashed
    | cons next rest =>
      -- The end of the row is that of the names behind the first.
      apply ih h.2
      have hnext : next ≠ [] := (h.2 next List.mem_cons_self).nonempty
      have hlength : 0 < (spelled (next :: rest)).length :=
        List.length_pos_iff.2 (spelled_ne_nil hnext rest)
      exact List.suffix_of_suffix_length_le hslash (List.suffix_append _ _) hlength

/-! ## The form of a path -/

/-- **The form of a path relative to a root.** -/
structure IsRootForm (root path : Path) (t : Text) : Prop where
  /-- In the root, a dot and a slash stand for it. -/
  inside : ∀ down : Path, path = root ++ down →
    IsNormal down ∧ t = Text.ofString "./" ++ (Text.ofString "/").intercalate down
  /-- Outside, two dots stand for each name that leads up to what the two have in common. -/
  outside : ¬root <+: path → ∃ common up down : Path, IsCommonStart common root path
    ∧ root = common ++ up ∧ path = common ++ down ∧ 1 ≤ up.length ∧ IsNormal down
    ∧ t = (Text.ofString "/").intercalate (List.replicate up.length parentName ++ down)
    ∧ ¬Text.ofString "/" <:+ t
  isRelative : isRelative t = true
  /-- The first two characters tell whether the path lies in the root. -/
  startsWith_iff : t.startsWith "./" = true ↔ root <+: path

/-- A path needs no step up if it begins with the root. -/
theorem apart_eq_nil_iff {root path : Path} : (apart root path).1 = [] ↔ root <+: path := by
  constructor
  · intro hup
    obtain ⟨common, hroot, hpath⟩ := exists_common root path
    rw [hup, List.append_nil] at hroot
    exact ⟨_, by rw [hroot]; exact hpath.symm⟩
  · rintro ⟨down, rfl⟩
    rw [apart_append]

/-- Two dots in front are not a dot and a slash. -/
theorem startsWith_of_outside {root path : Path} (h : (apart root path).1 ≠ []) :
    (relativeTo root path).startsWith "./" = false := by
  rw [Bool.eq_false_iff]
  intro hhere
  have hup : (relativeTo root path).startsWith ".." = true := by
    rw [relativeTo_of_outside h]
    apply startsWith_spelled_of_head?
    cases hcons : (apart root path).1 with
    | nil => exact absurd hcons h
    | cons name rest => rfl
  rw [Text.startsWith_iff] at hhere hup
  -- Both would be the first two characters of the text.
  have hsame := List.prefix_of_prefix_length_le hhere hup (by decide)
  exact absurd (hsame.eq_of_length (by decide)) (by decide)

/-- **The text from the root has the form** that its definition asks for. -/
theorem relativeTo_isRootForm (root : Path) {path : Path} (h : IsNormal path) :
    IsRootForm root path (relativeTo root path) where
  inside := by
    rintro down rfl
    refine ⟨(isNormal_append.1 h).2, ?_⟩
    have hapart := apart_append root down
    rw [relativeTo_of_inside (by rw [hapart]), hapart, spelled_eq_intercalate]
  outside := by
    intro houtside
    obtain ⟨common, hcommon, hroot, hpath⟩ := exists_isCommonStart root path
    have hup : (apart root path).1 ≠ [] := fun hnil => houtside (apart_eq_nil_iff.1 hnil)
    have hdown : IsNormal (apart root path).2 := by
      rw [hpath] at h
      exact (isNormal_append.1 h).2
    refine ⟨common, _, _, hcommon, hroot, hpath, List.length_pos_iff.2 hup, hdown, ?_, ?_⟩
    · rw [relativeTo_of_outside hup, List.map_const', spelled_eq_intercalate]
    · rw [relativeTo_of_outside hup]
      exact not_slash_isSuffix_spelled (isStep_of_mem_way _ fun name hname =>
        (hdown name hname).toIsStep)
  isRelative := isRelative_relativeTo root path
  startsWith_iff := by
    rw [← apart_eq_nil_iff]
    by_cases hup : (apart root path).1 = []
    · refine iff_of_true ?_ hup
      rw [relativeTo_of_inside hup, Text.startsWith_iff]
      exact List.prefix_append _ _
    · rw [startsWith_of_outside hup]
      exact iff_of_false Bool.false_ne_true hup

end Path

namespace FileSystem

open ModuleLinks.Path (IsNormal IsRootForm)

/-- Both texts are read from the working directory first. -/
theorem rootRelative_eq (fs : FileSystem) {path root : Text} (h : path ≠ []) :
    fs.rootRelative (.str path) (.str root)
      = .ok (Path.relativeTo (Path.read fs.workingDirectory root)
        (Path.read fs.workingDirectory path)) := by
  cases path with
  | nil => exact absurd rfl h
  | cons c rest => rfl

/-- **A path that is not empty has a root-relative form**, and it is the one of `IsRootForm`, with
both the path and the root read from the working directory. -/
theorem rootRelative_form (fs : FileSystem) (hfs : IsNormal fs.workingDirectory) (path root : Text)
    (hpath : path ≠ []) :
    ∃ t, fs.rootRelative (.str path) (.str root) = .ok t
      ∧ IsRootForm (Path.read fs.workingDirectory root) (Path.read fs.workingDirectory path) t :=
  ⟨_, fs.rootRelative_eq hpath, Path.relativeTo_isRootForm _ (Path.isNormal_read hfs path)⟩

/-- A directory whose name begins that of a neighbour. -/
def shortNamed : Path := ["w", "proj"].map Text.ofString

/-- The form of a path with a name that begins with two dots, relative to the neighbour. -/
theorem rootRelative_form_neighbour :
    IsNormal (bare shortNamed).workingDirectory
      ∧ Text.ofString "src/..foo/./.hidden.js" ≠ []
      ∧ (bare shortNamed).rootRelative (.ofString "src/..foo/./.hidden.js") (.ofString "../project/")
        = .ok (Text.ofString "../proj/src/..foo/.hidden.js")
      ∧ IsRootForm (["w", "project"].map Text.ofString)
        (["w", "proj", "src", "..foo", ".hidden.js"].map Text.ofString)
        (Text.ofString "../proj/src/..foo/.hidden.js") := by
  have hnormal : IsNormal (bare shortNamed).workingDirectory := by decide
  have hne : Text.ofString "src/..foo/./.hidden.js" ≠ [] := by decide
  have htext : (bare shortNamed).rootRelative (.ofString "src/..foo/./.hidden.js")
      (.ofString "../project/") = .ok (Text.ofString "../proj/src/..foo/.hidden.js") := rfl
  obtain ⟨t, ht, hform⟩ := rootRelative_form (bare shortNamed) hnormal
    (Text.ofString "src/..foo/./.hidden.js") (Text.ofString "../project/") hne
  obtain rfl := Except.ok.inj (htext.symm.trans ht)
  exact ⟨hnormal, hne, htext, hform⟩

end FileSystem

end ModuleLinks
