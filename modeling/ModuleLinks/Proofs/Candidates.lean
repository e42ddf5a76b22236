/-
The search for a file as a list of candidates.

A path that a source stands for may be meant in fifteen ways: as a file itself, with one of the
extensions, or as the index file of a directory, again with one of the extensions. The search
takes them in this order and stops at the first file. That the index files are looked for in a
directory only makes no difference to what is found, since a file stands in directories and
nowhere else. So what is found is the first file in the list, whatever else stands at the
candidates, and what stands behind it in the list does not matter.

There is one exception. A path as a whole may be too long for the file system, which then
refuses to look at it, and a search that comes to such a path before it comes to a file ends
there. Names do not come into this as long as those of the path leave room for an extension.

Main statement: `resolve_candidates`.
-/
import Mathlib.Data.List.Find
import Mathlib.Data.List.Infix
import ModuleLinks.Proofs.CanonicalSource

set_option autoImplicit false

namespace ModuleLinks

namespace FileSystem

open ModuleLinks.Path (IsName IsNormal)

variable {fs gs : FileSystem} {target path : Path}

/-! ## Candidates -/

/-- The candidates that stand beside the path: the path itself, and with each extension. -/
def namedCandidates (target : Path) : List Path := target :: extensions.map target.addSuffix

/-- The candidates that stand in the path as a directory. -/
def indexCandidates (target : Path) : List Path := extensions.map (indexFile target)

/-- **The candidates for a path**, in order. -/
def candidates (target : Path) : List Path := namedCandidates target ++ indexCandidates target

/-- The list holds the candidates of a target and nothing else. -/
theorem mem_candidates_iff : path ∈ candidates target ↔ Candidate target path := by
  constructor
  · intro h
    rcases List.mem_append.1 h with hnamed | hindex
    · rcases List.mem_cons.1 hnamed with rfl | hextended
      · exact .itself
      · obtain ⟨extension, hextension, rfl⟩ := List.mem_map.1 hextended
        exact .extended hextension
    · obtain ⟨extension, hextension, rfl⟩ := List.mem_map.1 hindex
      exact .index hextension
  · intro h
    cases h with
    | itself => exact List.mem_append_left _ List.mem_cons_self
    | extended hextension =>
      exact List.mem_append_left _ (List.mem_cons_of_mem _ (List.mem_map_of_mem hextension))
    | index hextension => exact List.mem_append_right _ (List.mem_map_of_mem hextension)

theorem byteLength_append (t u : Text) :
    Utf8.byteLength (t ++ u) = Utf8.byteLength t + Utf8.byteLength u :=
  total_append _ t u

/-- **Names that leave room for an extension** are not too long in any candidate. -/
theorem Candidate.byteLength_le (hpath : Candidate target path)
    (hshort : ∀ name ∈ target, Utf8.byteLength name ≤ 250) :
    ∀ name ∈ path, Utf8.byteLength name ≤ nameLimit := by
  have hextension : ∀ extension ∈ extensions, Utf8.byteLength (Text.ofString extension) ≤ 5 := by
    decide
  have hroom : ∀ name ∈ target, Utf8.byteLength name ≤ nameLimit := by
    intro name hname
    have := hshort name hname
    unfold nameLimit
    omega
  cases hpath with
  -- The names above the last one are those of the target; the last one has five bytes more at most.
  | itself => exact hroom
  | @extended extension h =>
    have hlast : Utf8.byteLength (target.getLast?.getD []) ≤ 250 := by
      cases hlast : target.getLast? with
      | none => decide
      | some name => exact hshort name (List.mem_of_getLast? hlast)
    refine List.forall_mem_append.2 ⟨?_, ?_⟩
    · exact fun name hname => hroom name (List.dropLast_subset target hname)
    · have := hextension extension h
      simp only [List.mem_singleton, forall_eq, byteLength_append, nameLimit]
      omega
  | @index extension h =>
    have hindex : Utf8.byteLength (Text.ofString "index") = 5 := by decide
    refine List.forall_mem_append.2 ⟨hroom, ?_⟩
    have := hextension extension h
    simp only [List.mem_singleton, forall_eq, byteLength_append, nameLimit]
    omega

/-! ## Rooted file systems -/

/-- **Only in directories something stands**: every path above an entry is that of a directory. -/
def IsRooted (fs : FileSystem) : Prop :=
  ∀ above below : Path, below ≠ [] → fs.entry (above ++ below) ≠ none →
    fs.entry above = some .directory

/-- An entry of the kind stands at the path, and no name on the path is one that cannot be. -/
def stands (fs : FileSystem) (kind : Entry) (path : Path) : Bool :=
  fs.entry path == some kind && !path.any isImpossible

/-- The path as a whole is refused: it is too long. -/
def refuses (fs : FileSystem) (path : Path) : Bool :=
  fs.isTooLong path && !path.any isImpossible

/-- The search stops at the path, since there is a file or since the path is refused. -/
def stopsAt (fs : FileSystem) (path : Path) : Bool := fs.refuses path || fs.stands .file path

/-- **The way to an entry leads through directories**, so following it finds the entry. -/
theorem IsRooted.follow_eq (hfs : fs.IsRooted) (above : Path) {names : List Text}
    (hnames : ∀ name ∈ names, Utf8.byteLength name ≤ nameLimit) :
    fs.follow above names = .ok (fs.entry (above ++ names)) := by
  induction names generalizing above with
  | nil => rw [List.append_nil, follow]
  | cons name rest ih =>
    rw [List.forall_mem_cons] at hnames
    rw [follow, if_neg (Nat.not_lt.2 hnames.1), ih _ hnames.2, List.append_assoc,
      List.singleton_append]
    by_cases hdirectory : fs.entry above = some .directory
    · rw [if_neg (not_not_intro hdirectory)]
    · -- Nothing stands below a path that is no directory.
      rw [if_pos hdirectory]
      by_cases hnone : fs.entry (above ++ name :: rest) = none
      · rw [hnone]
      · exact absurd (hfs above _ (List.cons_ne_nil _ _) hnone) hdirectory

/-- A look at a path whose names are not too long: refused, or what stands there. -/
theorem IsRooted.look_map_eq (hfs : fs.IsRooted)
    (hpath : ∀ name ∈ path, Utf8.byteLength name ≤ nameLimit) (kind : Entry) :
    (fs.look path).map (· == some kind)
      = if fs.refuses path then .error .nameTooLong else .ok (fs.stands kind path) := by
  unfold look refuses stands
  by_cases himpossible : path.any isImpossible = true
  · simp [himpossible, Except.map]
  · rw [hfs.follow_eq [] hpath, List.nil_append, if_neg himpossible]
    rw [Bool.not_eq_true] at himpossible
    cases fs.isTooLong path with
    | true => simp [himpossible, Except.map]
    | false => simp [himpossible, Except.map]

/-- **The first file, or the first path that is refused.** -/
theorem IsRooted.firstFile_eq (hfs : fs.IsRooted) {paths : List Path}
    (hpaths : ∀ path ∈ paths, ∀ name ∈ path, Utf8.byteLength name ≤ nameLimit) :
    fs.firstFile paths
      = match paths.find? fs.stopsAt with
        | some path => if fs.refuses path then .error .nameTooLong else .ok (some path)
        | none => .ok none := by
  induction paths with
  | nil => rfl
  | cons path rest ih =>
    rw [List.forall_mem_cons] at hpaths
    rw [firstFile, hasFile, hfs.look_map_eq hpaths.1, ih hpaths.2, List.find?_cons, stopsAt]
    cases hrefuses : fs.refuses path with
    | true => simp [bind, Except.bind, hrefuses]
    | false =>
      cases hfile : fs.stands .file path with
      | true => simp [bind, Except.bind, pure, Except.pure, hrefuses]
      | false => simp [bind, Except.bind]

/-! ## The search -/

/-- The candidates that are looked at as long as none is found: index files only in a directory. -/
def tried (fs : FileSystem) (target : Path) : List Path :=
  namedCandidates target ++ if fs.stands .directory target then indexCandidates target else []

/-- **The search goes through the candidates that are tried**, up to the first stop. -/
theorem IsRooted.probe_eq (hfs : fs.IsRooted)
    (hshort : ∀ name ∈ target, Utf8.byteLength name ≤ 250) :
    fs.probe target
      = match (fs.tried target).find? fs.stopsAt with
        | some path => if fs.refuses path then .error .nameTooLong else .ok (some path)
        | none => .ok none := by
  have hnames : ∀ path ∈ candidates target, ∀ name ∈ path, Utf8.byteLength name ≤ nameLimit :=
    fun path hpath => (mem_candidates_iff.1 hpath).byteLength_le hshort
  have hnamed := hfs.firstFile_eq fun path hpath => hnames path (List.mem_append_left _ hpath)
  have hindex := hfs.firstFile_eq fun path hpath => hnames path (List.mem_append_right _ hpath)
  have hdirectory : fs.hasDirectory target = _ :=
    hfs.look_map_eq (hnames target (mem_candidates_iff.2 .itself)) .directory
  show (fs.firstFile (namedCandidates target) >>= fun found => match found with
    | some path => pure (some path)
    | none => fs.hasDirectory target >>= fun directory =>
      if directory = true then fs.firstFile (indexCandidates target) else pure none) = _
  rw [hnamed, hdirectory, hindex, tried, List.find?_append]
  cases hstop : (namedCandidates target).find? fs.stopsAt with
  | some path =>
    cases hrefuses : fs.refuses path with
    | true => simp [bind, Except.bind, hrefuses]
    | false => simp [bind, Except.bind, pure, Except.pure, hrefuses]
  | none =>
    -- The path itself was among those looked at, so it is not refused as a directory either.
    have hself : fs.refuses target = false := by
      have hnot := List.find?_eq_none.1 hstop target List.mem_cons_self
      rw [stopsAt, Bool.or_eq_true, not_or] at hnot
      exact Bool.eq_false_iff.2 hnot.1
    rw [hself]
    cases fs.stands .directory target with
    | true => simp [bind, Except.bind]
    | false => simp [bind, Except.bind, pure, Except.pure]

/-- **An index file stands in a directory.** -/
theorem IsRooted.stands_directory (hfs : fs.IsRooted) (hindex : path ∈ indexCandidates target)
    (hfile : fs.stands .file path = true) : fs.stands .directory target = true := by
  obtain ⟨extension, -, rfl⟩ := List.mem_map.1 hindex
  simp only [stands, indexFile, Bool.and_eq_true, beq_iff_eq, Bool.not_eq_true', List.any_append,
    Bool.or_eq_false_iff] at hfile ⊢
  have hentry : fs.entry (target ++ [Text.ofString "index" ++ Text.ofString extension]) ≠ none := by
    rw [hfile.1]
    exact nofun
  exact ⟨hfs target _ (List.cons_ne_nil _ []) hentry, hfile.2.1⟩

/-- **A file is looked at**, and all candidates before it, as long as none is found. -/
theorem IsRooted.prefix_tried (hfs : fs.IsRooted) {before after : List Path}
    (hsplit : candidates target = before ++ path :: after) (hfile : fs.stands .file path = true) :
    before ++ [path] <+: fs.tried target := by
  rw [tried]
  by_cases hindex : path ∈ indexCandidates target
  · rw [if_pos (hfs.stands_directory hindex hfile)]
    exact ⟨after, by rw [List.append_assoc, List.singleton_append, ← hsplit]; rfl⟩
  · -- The path has a name beside the target, so the split is one of the names.
    refine List.prefix_append_of_prefix ?_
    rcases List.append_eq_append_iff.1 hsplit with ⟨more, rfl, hmore⟩ | ⟨more, hmore, hrest⟩
    · exact absurd (hmore ▸ List.mem_append_right more List.mem_cons_self) hindex
    · cases more with
      | nil =>
        rw [List.nil_append] at hrest
        exact absurd (hrest ▸ List.mem_cons_self) hindex
      | cons first more =>
        obtain ⟨rfl, -⟩ := List.cons.inj hrest
        exact ⟨more, by rw [hmore, List.append_assoc, List.singleton_append]⟩

/-- **What stands behind a file in the list does not matter.** -/
theorem IsRooted.probe_congr (hfs : fs.IsRooted) (hgs : gs.IsRooted)
    (hlimit : gs.pathLimit = fs.pathLimit)
    (hshort : ∀ name ∈ target, Utf8.byteLength name ≤ 250) {before after : List Path}
    (hsplit : candidates target = before ++ path :: after) (hfile : fs.stands .file path = true)
    (hsame : ∀ other ∈ before ++ [path], gs.stands .file other = fs.stands .file other) :
    gs.probe target = fs.probe target := by
  have hrefuses : ∀ other, gs.refuses other = fs.refuses other := by
    intro other
    rw [refuses, refuses, isTooLong, isTooLong, hlimit]
  have hstops : (before ++ [path]).find? gs.stopsAt = (before ++ [path]).find? fs.stopsAt :=
    List.find?_congr fun other hother => by rw [stopsAt, stopsAt, hrefuses, hsame other hother]
  -- Both searches stop at the file at the latest, and up to there they see the same.
  obtain ⟨stop, hstop⟩ : ∃ stop, (before ++ [path]).find? fs.stopsAt = some stop := by
    rw [← Option.isSome_iff_exists, List.find?_isSome]
    exact ⟨path, List.mem_append_right _ List.mem_cons_self, by simp [stopsAt, hfile]⟩
  have hpath : gs.stands .file path = true := by
    rw [hsame path (List.mem_append_right _ List.mem_cons_self), hfile]
  rw [hfs.probe_eq hshort, hgs.probe_eq hshort,
    (hfs.prefix_tried hsplit hfile).find?_eq_some hstop,
    (hgs.prefix_tried hsplit hpath).find?_eq_some (hstops.trans hstop)]
  simp only [hrefuses]

/-! ## Resolution -/

/-- **The answer for the file that a source stands for**: its root-relative form, or, if there is no
file, the report that keeps the root-relative form of the path. -/
def answer (fs : FileSystem) (source importer root : Text) (found? : Option Path) :
    Except Failure Text :=
  match found? with
  | some path => .ok (Path.relativeTo (fs.rootPath root) path)
  | none => .error (.unresolvedSource (.str source) (.str importer) (.str (Path.relativeTo
      (fs.rootPath root) (targetOf (fs.rootPath root) importer source))))

/-- The directories on the way are there, or are made, where no file is in the way. -/
theorem entry_makeDirectory_above (hway : ∀ above ∈ path.inits, fs.entry above ≠ some .file)
    {above : Path} (h : above <+: path) :
    (fs.makeDirectory path).entry above = some .directory := by
  have hnofile := hway above ((List.mem_inits above path).2 h)
  simp only [makeDirectory, List.isPrefixOf_iff_prefix.2 h, Bool.true_and]
  rcases hthere : fs.entry above with _ | _ | _
  · rfl
  · exact absurd hthere hnofile
  · rfl

/-- Making a directory changes nothing but the way to it. -/
theorem entry_makeDirectory_elsewhere {other : Path} (h : ¬other <+: path) :
    (fs.makeDirectory path).entry other = fs.entry other := by
  simp only [makeDirectory, Bool.and_eq_true, List.isPrefixOf_iff_prefix, h, false_and, if_false]

/-- Writing a file changes nothing but the file and the way to it. -/
theorem entry_writeFile_of_ne {other : Path} (h : other ≠ path) :
    (fs.writeFile path).entry other = (fs.makeDirectory path.dropLast).entry other :=
  if_neg h

/-- **Making a directory** keeps a file system rooted if no file is in the way. -/
theorem IsRooted.makeDirectory (hfs : fs.IsRooted)
    (hway : ∀ above ∈ path.inits, fs.entry above ≠ some .file) :
    (fs.makeDirectory path).IsRooted := by
  intro above below hbelow hentry
  by_cases hprefix : above <+: path
  · exact entry_makeDirectory_above hway hprefix
  · -- The path does not lead there, so nothing has changed.
    have hother : ¬above ++ below <+: path :=
      fun h => hprefix ((List.prefix_append above below).trans h)
    rw [entry_makeDirectory_elsewhere hother] at hentry
    rw [entry_makeDirectory_elsewhere hprefix]
    exact hfs above below hbelow hentry

/-- **Writing a file** keeps a file system rooted if no file is in the way and there is no directory
at the path. -/
theorem IsRooted.writeFile (hfs : fs.IsRooted) (hne : path ≠ [])
    (hway : ∀ above ∈ path.dropLast.inits, fs.entry above ≠ some .file)
    (hnot : fs.entry path ≠ some .directory) : (fs.writeFile path).IsRooted := by
  have hself : ¬path <+: path.dropLast := by
    intro h
    have hlength := h.length_le
    have hpositive := List.length_pos_of_ne_nil hne
    rw [List.length_dropLast] at hlength
    omega
  intro above below hbelow hentry
  have hdirectory : (fs.makeDirectory path.dropLast).entry above = some .directory := by
    by_cases hpath : above ++ below = path
    · refine entry_makeDirectory_above hway ?_
      rw [← hpath, List.dropLast_append_of_ne_nil hbelow]
      exact List.prefix_append _ _
    · rw [entry_writeFile_of_ne hpath] at hentry
      exact hfs.makeDirectory hway above below hbelow hentry
  -- The file itself is no directory, neither now nor before.
  have hother : above ≠ path := by
    rintro rfl
    rw [entry_makeDirectory_elsewhere hself] at hdirectory
    exact hnot hdirectory
  rw [entry_writeFile_of_ne hother]
  exact hdirectory

end FileSystem

end ModuleLinks
