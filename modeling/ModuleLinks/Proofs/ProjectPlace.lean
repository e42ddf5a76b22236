/-
Where a project lies.

Canonical sources are written from the root of the project, so nothing of the way to
the root should show in them: not how long it is, not the names on it, not what lies
beside it. A project can then be moved to another place, or to another machine, and
its links stay the same.

The argument is that a project is a file system of its own. Looking at a path below
the root finds what `below` finds at the rest of the path, so the search for a file
and the answer of resolution come from the project alone. This holds for sources that
stay in the project. A source that leads out of it, even if only to come back, spells
names that stand above the root.

Whether a source leads out is decided on its text. Two dots take back the name in front
of them, and where there is none they stay and lead out.

Main statements: `resolve_below` and `normalizeAll_moved`.
-/
import ModuleLinks.Normalization
import ModuleLinks.Proofs.CanonicalSource

set_option autoImplicit false

namespace ModuleLinks

/-! ## Relative paths in normal form -/

namespace Path

/-- One name more: two dots take back the name in front of them, if there is one. -/
def normalStep (done : List Text) (name : Text) : List Text :=
  if name = parentName ∧ done.getLast?.all (· = parentName) then done ++ [name]
  else step done name

/-- **The names of a relative path in normal form.** -/
def normalNames (names : List Text) : List Text := names.foldl normalStep []

/-- **The text of a relative path in normal form**; a dot where it leads nowhere. -/
def normalText (names : List Text) : Text :=
  if normalNames names = [] then Text.ofString "." else spelled (normalNames names)

/-- The names from the root to what a source in a module stands for. -/
def sourceNames (importer source : Text) : List Text := (names importer).dropLast ++ names source

/-- **A source that leads inside**: in normal form, the text of its path is not empty, no dot, and
does not begin with two dots. -/
structure LeadsInside (importer source : Text) : Prop where
  ne_nil : normalText (sourceNames importer source) ≠ []
  ne_here : normalText (sourceNames importer source) ≠ Text.ofString "."
  not_out : (normalText (sourceNames importer source)).startsWith ".." = false

theorem normalNames_concat (names : List Text) (name : Text) :
    normalNames (names ++ [name]) = normalStep (normalNames names) name :=
  List.foldl_concat ..

/-- **Normal names lead down, or out at once.** In the first case a walk along the path puts them at
the end of any directory. The induction is on the names from the last on, as the names are taken
in. -/
theorem normalNames_cases {names : List Text} (h : ∀ name ∈ names, IsStep name) :
    (IsNormal (normalNames names) ∧ ∀ root : Path, walk root names = root ++ normalNames names)
      ∨ (normalNames names).head? = some parentName := by
  induction names using List.reverseRecOn with
  | nil => exact .inl ⟨by simp [IsNormal, normalNames], fun root => (List.append_nil root).symm⟩
  | append_singleton names name ih =>
    obtain ⟨hnames, hname⟩ := List.forall_mem_append.1 h
    have hname : IsStep name := hname name List.mem_cons_self
    rw [normalNames_concat, normalStep]
    rcases ih hnames with ⟨hdown, hwalk⟩ | hout
    · -- So far all names lead down; the next one goes on, goes back, or leads out.
      by_cases hnext : name = parentName ∧ (normalNames names).getLast?.all (· = parentName)
      · rw [if_pos hnext]
        refine .inr ?_
        rcases List.eq_nil_or_concat (normalNames names) with hnil | ⟨before, last, hlast⟩
        · rw [hnil, hnext.1]
          rfl
        · have hparent := hnext.2
          rw [hlast, List.concat_eq_append, List.getLast?_concat] at hparent
          have hlastDown : IsName last := hdown last (by simp [hlast])
          exact absurd (by simpa using hparent) hlastDown.ne_parentName
      · rw [if_neg hnext]
        refine .inl ⟨isNormal_step hdown hname, fun root => ?_⟩
        rw [walk_append, hwalk]
        show step (root ++ normalNames names) name = _
        unfold step
        by_cases hparent : name = parentName
        · have hne : normalNames names ≠ [] := by
            intro hnil
            exact hnext ⟨hparent, by rw [hnil]; rfl⟩
          rw [if_pos hparent, if_pos hparent, List.dropLast_append_of_ne_nil hne]
        · rw [if_neg hparent, if_neg hparent, List.append_assoc]
    · -- The path leads out, and what leads out is never taken back.
      refine .inr ?_
      obtain ⟨rest, hrest⟩ : ∃ rest, normalNames names = parentName :: rest := by
        cases hcons : normalNames names with
        | nil => simp [hcons] at hout
        | cons first rest => exact ⟨rest, by rw [hcons] at hout; rw [Option.some.inj hout]⟩
      rw [hrest]
      unfold step
      split_ifs with hstay hback
      · rfl
      · cases rest with
        | nil => exact absurd ⟨hback, rfl⟩ hstay
        | cons next rest => rfl
      · rfl

/-- Names that lead out begin a text that does. -/
theorem startsWith_spelled_of_head? {names : List Text} (h : names.head? = some parentName) :
    (spelled names).startsWith ".." = true := by
  rw [Text.startsWith_iff]
  cases names with
  | nil => cases h
  | cons first rest =>
    obtain rfl := Option.some.inj h
    cases rest with
    | nil => exact List.prefix_refl _
    | cons next rest => exact List.prefix_append_of_prefix (List.prefix_append _ _)

/-- **The walk along a source that leads inside**: it ends below the directory it starts from, at
the names in normal form. -/
theorem LeadsInside.walk {importer source : Text} (h : LeadsInside importer source) :
    normalNames (sourceNames importer source) ≠ []
      ∧ IsNormal (normalNames (sourceNames importer source))
      ∧ ∀ root : Path, Path.walk root (sourceNames importer source)
        = root ++ normalNames (sourceNames importer source) := by
  have hne : normalNames (sourceNames importer source) ≠ [] := by
    intro hnil
    exact h.ne_here (if_pos hnil)
  have hsteps : ∀ name ∈ sourceNames importer source, IsStep name := by
    refine List.forall_mem_append.2 ⟨fun name hname => ?_, fun name => isStep_of_mem_names⟩
    exact isStep_of_mem_names (List.dropLast_subset _ hname)
  rcases normalNames_cases hsteps with ⟨hdown, hwalk⟩ | hout
  · exact ⟨hne, hdown, hwalk⟩
  · have hstarts := startsWith_spelled_of_head? hout
    have hnot := h.not_out
    rw [normalText, if_neg hne, hstarts] at hnot
    cases hnot

/-- An absolute text is read as a normal path, wherever one is. -/
theorem isNormal_read_of_isAbsolute (here : Path) {t : Text} (h : isAbsolute t = true) :
    IsNormal (read here t) := by
  rw [read, if_pos h]
  exact isNormal_walk (by simp [IsNormal]) fun _ => isStep_of_mem_names

theorem apart_append (root path : Path) : apart root (root ++ path) = ([], path) := by
  induction root with
  | nil =>
    rw [List.nil_append]
    unfold apart
    rfl
  | cons name root ih => rw [List.cons_append, apart, if_pos rfl, ih]

/-- **Relative to the root only the rest of a path is written.** -/
theorem relativeTo_append (root path : Path) : relativeTo root (root ++ path) = relativeTo [] path := by
  rw [relativeTo, relativeTo, apart_append, ← List.nil_append path, apart_append, List.nil_append]

end Path

namespace FileSystem

open ModuleLinks.Path (IsNormal LeadsInside normalNames sourceNames)

variable {fs gs : FileSystem} {root path : Path}

/-! ## A directory as a file system -/

/-- **A directory as a file system of its own.** -/
def below (fs : FileSystem) (root : Path) : FileSystem where
  entry path := fs.entry (root ++ path)
  workingDirectory := []
  pathLimit := none

/-- The last name of a way is looked up in the directory at the end of the others. -/
theorem follow_concat (fs : FileSystem) (before names : List Text) (name : Text) :
    fs.follow before (names ++ [name])
      = fs.follow before names >>= fun found =>
          if found ≠ some .directory then .ok none
          else if nameLimit < Utf8.byteLength name then .error .nameTooLong
          else .ok (fs.entry (before ++ names ++ [name])) := by
  induction names generalizing before with
  | nil =>
    rw [List.append_nil]
    rfl
  | cons first names ih =>
    rw [List.cons_append, follow, follow]
    by_cases hdirectory : fs.entry before = some .directory
    · by_cases hlong : nameLimit < Utf8.byteLength first
      · rw [if_neg (not_not_intro hdirectory), if_neg (not_not_intro hdirectory), if_pos hlong,
          if_pos hlong]
        rfl
      · rw [if_neg (not_not_intro hdirectory), if_neg (not_not_intro hdirectory), if_neg hlong,
          if_neg hlong, ih, List.append_assoc before, List.singleton_append]
    · rw [if_pos hdirectory, if_pos hdirectory]
      rfl

/-- What is found at the end of a way stands there. -/
theorem entry_of_follow {before names : List Text} {found : Option Entry}
    (h : fs.follow before names = .ok found) (hfound : found ≠ none) :
    fs.entry (before ++ names) = found := by
  rcases List.eq_nil_or_concat names with rfl | ⟨names, name, rfl⟩
  · rw [List.append_nil]
    exact Except.ok.inj h
  · rw [List.concat_eq_append, follow_concat] at h
    obtain ⟨directory, _, h⟩ := Outcome.bind_eq_ok.1 h
    split_ifs at h with hnone
    · exact absurd (Except.ok.inj h).symm hfound
    · rw [List.concat_eq_append, ← List.append_assoc]
      exact Except.ok.inj h

/-- A way through an existing directory goes on from there. -/
theorem follow_append (h : fs.follow [] root = .ok (some .directory)) (path : Path) :
    fs.follow [] (root ++ path) = (fs.below root).follow [] path := by
  -- From the last name on: a way from its first name on would have to start at the root.
  induction path using List.reverseRecOn with
  | nil =>
    have hentry : fs.entry root = some .directory := entry_of_follow h nofun
    rw [List.append_nil, h, ← hentry]
    exact congrArg (Except.ok <| fs.entry ·) (List.append_nil root).symm
  | append_singleton path name ih =>
    rw [← List.append_assoc, follow_concat, follow_concat, ih]
    simp only [below, List.nil_append, List.append_assoc]

/-- Without a limit for paths a look goes the way, unless a name is impossible. -/
theorem look_eq (hlimit : fs.pathLimit = none) (path : Path) :
    fs.look path = if path.any isImpossible then .ok none else fs.follow [] path := by
  have hlong : fs.isTooLong path = false := by
    rw [isTooLong, hlimit]
  rw [look, hlong]
  rfl

theorem look_eq_follow (hlimit : fs.pathLimit = none) (h : ¬path.any isImpossible = true) :
    fs.look path = fs.follow [] path := by
  rw [look_eq hlimit, if_neg h]

/-- **Looking below a directory** is looking into it. -/
theorem look_below (hlimit : fs.pathLimit = none) (hroot : fs.look root = .ok (some .directory))
    (path : Path) : fs.look (root ++ path) = (fs.below root).look path := by
  rw [look_eq hlimit] at hroot
  by_cases himpossible : root.any isImpossible = true
  · rw [if_pos himpossible] at hroot
    cases hroot
  · rw [if_neg himpossible] at hroot
    rw [look_eq hlimit, look_eq rfl, List.any_append, Bool.eq_false_iff.2 himpossible,
      Bool.false_or, follow_append hroot]

/-! ## The search for a file -/

/-- **A file is found below the root if it is found in the project on its own.** -/
theorem hasFile_below (hlimit : fs.pathLimit = none) (hroot : fs.look root = .ok (some .directory))
    (path : Path) : fs.hasFile (root ++ path) = (fs.below root).hasFile path := by
  rw [hasFile, hasFile, look_below hlimit hroot]

/-- So the first file among paths of the project is the same one. -/
theorem firstFile_below (hlimit : fs.pathLimit = none)
    (hroot : fs.look root = .ok (some .directory)) (paths : List Path) :
    fs.firstFile (paths.map (root ++ ·))
      = ((fs.below root).firstFile paths).map (Option.map (root ++ ·)) := by
  induction paths with
  | nil => rfl
  | cons path rest ih =>
    rw [List.map_cons, firstFile, firstFile, hasFile_below hlimit hroot, ih]
    rcases (fs.below root).hasFile path with e | found
    · rfl
    · cases found <;> rfl

/-- A suffix goes to the last name, which is one of the project. -/
theorem addSuffix_append {path : Path} (h : path ≠ []) (root : Path) (suffix : String) :
    Path.addSuffix (root ++ path) suffix = root ++ Path.addSuffix path suffix := by
  rw [Path.addSuffix, Path.addSuffix, List.dropLast_append_of_ne_nil h,
    List.getLast?_append_of_ne_nil root h, List.append_assoc]

/-- **The search for a file** below a directory is the search in it. -/
theorem probe_below (hlimit : fs.pathLimit = none) (hroot : fs.look root = .ok (some .directory))
    (hne : path ≠ []) :
    fs.probe (root ++ path) = ((fs.below root).probe path).map (Option.map (root ++ ·)) := by
  -- The candidates below the root are those of the project with the root in front.
  have hextended : (root ++ path) :: extensions.map (root ++ path).addSuffix
      = (path :: extensions.map path.addSuffix).map (root ++ ·) := by
    rw [List.map_cons, List.map_map]
    exact congrArg _ (List.map_congr_left fun suffix _ => addSuffix_append hne root suffix)
  have hindex : (extensions.map fun extension =>
        (root ++ path) ++ [Text.ofString "index" ++ Text.ofString extension])
      = (extensions.map fun extension =>
        path ++ [Text.ofString "index" ++ Text.ofString extension]).map (root ++ ·) := by
    rw [List.map_map]
    exact List.map_congr_left fun extension _ => List.append_assoc root path _
  rw [probe, probe, hextended, firstFile_below hlimit hroot]
  rcases (fs.below root).firstFile (path :: extensions.map path.addSuffix) with e | found
  · rfl
  cases found with
  | some file => rfl
  | none =>
    -- No file has the name of the path, so a directory is looked for.
    have hdirectory : fs.hasDirectory (root ++ path) = (fs.below root).hasDirectory path := by
      rw [hasDirectory, hasDirectory, look_below hlimit hroot]
    show (fs.hasDirectory (root ++ path) >>= fun directory => _)
      = Except.map _ ((fs.below root).hasDirectory path >>= fun directory => _)
    rw [hdirectory, hindex, firstFile_below hlimit hroot]
    rcases (fs.below root).hasDirectory path with e | directory
    · rfl
    · cases directory <;> rfl

/-! ## Resolution -/

/-- The target of a source is where its names lead from the root. -/
theorem targetOf_eq (hroot : IsNormal root) {importer source : Text}
    (himporter : Path.isAbsolute importer = false) (hnames : Path.names importer ≠ [])
    (hsource : Path.isAbsolute source = false) :
    targetOf root importer source = Path.walk root (sourceNames importer source) := by
  have hdirectory : (Path.append root importer).dropLast
      = root ++ (Path.names importer).dropLast := by
    rw [Path.append, himporter, if_neg Bool.false_ne_true, List.dropLast_append_of_ne_nil hnames]
  rw [targetOf, hdirectory, Path.append, hsource, if_neg Bool.false_ne_true, List.append_assoc,
    Path.walk_append, Path.walk_of_isNormal [] hroot, List.nil_append]
  rfl

/-- The root directory, as the root of a project. -/
def wholeRoot : Text := Text.ofString "/"

/-- **A source that leads inside is resolved in the project alone**: the root of the project might
as well be the root directory. -/
theorem resolve_below (hlimit : fs.pathLimit = none) {rootText importer source : Text}
    (habsolute : Path.isAbsolute rootText = true)
    (hroot : fs.look (fs.rootPath rootText) = .ok (some .directory))
    (himporter : Path.isAbsolute importer = false) (hnames : Path.names importer ≠ [])
    (hsource : Path.isRelative source = true) (hinside : LeadsInside importer source) :
    fs.resolve (.str source) (.str importer) (.str rootText)
      = (fs.below (fs.rootPath rootText)).resolve (.str source) (.str importer) (.str wholeRoot) := by
  obtain ⟨hne, _, hwalk⟩ := hinside.walk
  have hnormal : IsNormal (fs.rootPath rootText) := Path.isNormal_read_of_isAbsolute _ habsolute
  have hhere := Path.isAbsolute_of_isRelative hsource
  have htarget := targetOf_eq hnormal himporter hnames hhere
  -- The source leads inside, so its target below the root is the one in the project alone.
  have hwhole : targetOf [] importer source = normalNames (sourceNames importer source) := by
    rw [targetOf_eq (by simp [IsNormal]) himporter hnames hhere, hwalk, List.nil_append]
  have hwholeRoot : (fs.below (fs.rootPath rootText)).rootPath wholeRoot = [] := rfl
  rw [resolve_eq, resolve_eq, search, search, hwholeRoot, hwhole, htarget, hwalk,
    probe_below hlimit hroot hne, Path.relativeTo_append]
  rcases (fs.below (fs.rootPath rootText)).probe _ with e | found
  · rfl
  cases found with
  | none => rfl
  | some file => exact congrArg Except.ok (Path.relativeTo_append _ file)

/-! ## The same project in two places -/

/-- **The same project in two places.** Both roots are directories, and below them the same paths
lead to files and the same to directories. -/
structure SameProject (fs gs : FileSystem) (root other : Path) : Prop where
  limit : fs.pathLimit = none
  limit_other : gs.pathLimit = none
  directory : fs.look root = .ok (some .directory)
  directory_other : gs.look other = .ok (some .directory)
  entries : ∀ path, IsNormal path → ∀ entry,
    fs.look (root ++ path) = .ok (some entry) ↔ gs.look (other ++ path) = .ok (some entry)

/-- A search sees no more than its candidates. -/
theorem firstFile_congr {paths : List Path} (h : ∀ path ∈ paths, fs.look path = gs.look path) :
    fs.firstFile paths = gs.firstFile paths := by
  induction paths with
  | nil => rfl
  | cons path rest ih =>
    rw [List.forall_mem_cons] at h
    rw [firstFile, firstFile, hasFile, hasFile, h.1, ih h.2]

/-- A search depends on what is found at the candidates, and on nothing else. -/
theorem probe_congr {target : Path} (h : ∀ path, Candidate target path → fs.look path = gs.look path) :
    fs.probe target = gs.probe target := by
  have hextended : fs.firstFile (target :: extensions.map target.addSuffix)
      = gs.firstFile (target :: extensions.map target.addSuffix) := by
    refine firstFile_congr (List.forall_mem_cons.2 ⟨h target .itself, fun path hpath => ?_⟩)
    obtain ⟨extension, hextension, rfl⟩ := List.mem_map.1 hpath
    exact h _ (.extended hextension)
  have hindex : fs.firstFile (extensions.map (indexFile target))
      = gs.firstFile (extensions.map (indexFile target)) := by
    refine firstFile_congr fun path hpath => ?_
    obtain ⟨extension, hextension, rfl⟩ := List.mem_map.1 hpath
    exact h _ (.index hextension)
  have hdirectory : fs.hasDirectory target = gs.hasDirectory target := by
    rw [hasDirectory, hasDirectory, h target .itself]
  unfold indexFile at hindex
  rw [probe, probe, hextended, hdirectory, hindex]

namespace SameProject

variable {other : Path}

/-- **A look finds the same in both places**, also where it fails. The induction is on the path from
its last name on, since what stands before that decides whether the name is looked at. -/
theorem look_below_eq (h : SameProject fs gs root other) {path : Path} (hpath : IsNormal path) :
    (fs.below root).look path = (gs.below other).look path := by
  by_cases himpossible : path.any isImpossible = true
  · rw [look_eq rfl, look_eq rfl, if_pos himpossible, if_pos himpossible]
  rw [look_eq_follow rfl himpossible, look_eq_follow rfl himpossible]
  induction path using List.reverseRecOn with
  | nil =>
    have hdirectory := h.directory
    have hother := h.directory_other
    rw [← List.append_nil root, look_below h.limit h.directory] at hdirectory
    rw [← List.append_nil other, look_below h.limit_other h.directory_other] at hother
    exact hdirectory.trans hother.symm
  | append_singleton path name ih =>
    have hlook : ∀ (fs : FileSystem) (root : Path), (fs.below root).look (path ++ [name])
        = (fs.below root).follow [] (path ++ [name]) := fun _ _ => look_eq_follow rfl himpossible
    have hentries := h.entries (path ++ [name]) hpath
    simp only [look_below h.limit h.directory, look_below h.limit_other h.directory_other,
      hlook] at hentries
    rw [List.any_append, Bool.or_eq_true, not_or] at himpossible
    have hbefore := ih (Path.isNormal_append.1 hpath).1 himpossible.1
    simp only [follow_concat, hbefore] at hentries ⊢
    generalize (gs.below other).follow [] path = way at hentries ⊢
    rcases way with e | found
    · rfl
    by_cases hdirectory : found = some .directory
    · subst hdirectory
      by_cases hlong : nameLimit < Utf8.byteLength name
      · simp [bind, Except.bind, hlong]
      · -- The directory is there and takes the name, so only the entries are left.
        simp only [bind, Except.bind, ne_eq, not_true_eq_false, if_false, hlong, Except.ok.injEq]
          at hentries ⊢
        exact Option.ext hentries
    · simp [bind, Except.bind, hdirectory]

/-- **Resolution is the same in two places of a project.** -/
theorem resolve_eq (fs gs : FileSystem) {rootText otherText importer source : Text}
    (hroot : Path.isAbsolute rootText = true) (hother : Path.isAbsolute otherText = true)
    (h : SameProject fs gs (fs.rootPath rootText) (gs.rootPath otherText))
    (himporter : Path.isAbsolute importer = false) (hnames : Path.names importer ≠ [])
    (hsource : Path.isRelative source = true) (hinside : LeadsInside importer source) :
    fs.resolve (.str source) (.str importer) (.str rootText)
      = gs.resolve (.str source) (.str importer) (.str otherText) := by
  have hhere := Path.isAbsolute_of_isRelative hsource
  have htarget : IsNormal (targetOf [] importer source) := isNormal_targetOf (by simp [IsNormal]) _ _
  have hsearch : (fs.below (fs.rootPath rootText)).probe (targetOf [] importer source)
      = (gs.below (gs.rootPath otherText)).probe (targetOf [] importer source) :=
    probe_congr fun path hpath => h.look_below_eq (hpath.isNormal htarget)
  rw [resolve_below h.limit hroot h.directory himporter hnames hsource hinside,
    resolve_below h.limit_other hother h.directory_other himporter hnames hsource hinside]
  rw [FileSystem.resolve_eq, FileSystem.resolve_eq]
  show (below fs _).probe (targetOf [] importer source) >>= _ = _
  rw [hsearch]
  rfl

end SameProject

end FileSystem

/-! ## Normalization -/

namespace Link

open FileSystem (SameProject)

variable {fs gs : FileSystem} {importer root other : Json}

/-- Files matter only to a relative source of a link that is not settled. -/
theorem normalize_congr {link : Link} (hroot : root.isNull = false) (hother : other.isNull = false)
    (h : link.isSettled = false → link.source.isRelativeSource = .ok true →
      fs.resolve link.source importer root = gs.resolve link.source importer other) :
    normalize fs importer root link = normalize gs importer other link := by
  unfold normalize
  rw [hroot, hother]
  cases hsettled : link.isSettled with
  | true => rfl
  | false =>
    rcases hrelative : link.source.isRelativeSource with e | relative
    · rfl
    cases relative with
    | false => rfl
    | true =>
      show located fs importer root link = located gs importer other link
      rw [located, located, h hsettled hrelative]

/-- **Links do not depend on where the project lies.** The same project in two places gives the same
links and the same log, or ends in the same failure, if the module has a path relative to the root
and the sources that are to be resolved lead inside. -/
theorem normalizeAll_moved (fs gs : FileSystem) (root other importer : Text)
    (hroot : Path.isAbsolute root = true) (hother : Path.isAbsolute other = true)
    (h : SameProject fs gs (fs.rootPath root) (gs.rootPath other))
    (himporter : Path.isAbsolute importer = false) (hnames : Path.names importer ≠ [])
    (links : List Link)
    (hlinks : ∀ link ∈ links, link.origin = none → ∀ source, link.source = .str source →
      Path.isRelative source = true → Path.LeadsInside importer source) :
    normalizeAll fs (.str importer) (.str root) links
      = normalizeAll gs (.str importer) (.str other) links := by
  have hlink : ∀ link ∈ links, normalize fs (.str importer) (.str root) link
      = normalize gs (.str importer) (.str other) link := by
    intro link hlink
    refine normalize_congr rfl rfl fun hsettled hrelative => ?_
    -- A link that is not settled has no origin, so its source leads inside by assumption.
    have horigin : link.origin = none := by
      rw [isSettled, Bool.or_eq_false_iff] at hsettled
      simpa using hsettled.1
    cases hsource : link.source with
    | str source =>
      rw [hsource] at hrelative
      have hsourceRelative : Path.isRelative source = true := Except.ok.inj hrelative
      exact h.resolve_eq fs gs hroot hother himporter hnames hsourceRelative
        (hlinks link hlink horigin source hsource hsourceRelative)
    | _ =>
      rw [hsource] at hrelative
      cases hrelative
  rw [normalizeAll, normalizeAll]
  exact Logged.mapM_congr hlink

end Link

/-! ## A project at hand -/

namespace FileSystem

/-- A project with one file, in a directory of its own. -/
def projectAt (root : Path) : FileSystem where
  entry path :=
    if path = root ++ ["src", "lib.js"].map Text.ofString then some .file
    else if path.isPrefixOf (root ++ ["src"].map Text.ofString) then some .directory
    else none
  workingDirectory := []
  pathLimit := none

/-- Wherever the project stands, it is the same on its own. -/
theorem below_projectAt (root : Path) : (projectAt root).below root = projectAt [] := by
  have hprefix : ∀ path : Path, (root ++ path).isPrefixOf (root ++ ["src"].map Text.ofString)
      = path.isPrefixOf (["src"].map Text.ofString) := by
    intro path
    rw [Bool.eq_iff_iff, List.isPrefixOf_iff_prefix, List.isPrefixOf_iff_prefix,
      List.prefix_append_right_inj]
  unfold below projectAt
  simp only [List.append_cancel_left_eq, hprefix, List.nil_append]

/-- So two of its places hold the same project. -/
theorem sameProject_projectAt {root other : Path}
    (hroot : (projectAt root).look root = .ok (some .directory))
    (hother : (projectAt other).look other = .ok (some .directory)) :
    SameProject (projectAt root) (projectAt other) root other where
  limit := rfl
  limit_other := rfl
  directory := hroot
  directory_other := hother
  entries path _ entry := by
    rw [look_below rfl hroot, look_below rfl hother, below_projectAt, below_projectAt]

end FileSystem

namespace Link

open FileSystem (SameProject projectAt)

/-- A link to the file, one to no file, and one to a package. -/
def projectLinks : List Link :=
  ["./lib", "../lost", "react"].map fun source =>
    { specifiers := [fileTag], source := .ofString source }

theorem leadsInside_projectLinks : ∀ link ∈ projectLinks, link.origin = none →
    ∀ source, link.source = .str source → Path.isRelative source = true →
      Path.LeadsInside (Text.ofString "src/app.js") source := by
  have hsource : ∀ t : Text, t ∈ ["./lib", "../lost", "react"].map Text.ofString →
      Path.isRelative t = true → Path.LeadsInside (Text.ofString "src/app.js") t := by
    simp only [List.map_cons, List.map_nil, List.forall_mem_cons]
    exact ⟨fun _ => ⟨by decide, by decide, rfl⟩, fun _ => ⟨by decide, by decide, rfl⟩,
      fun h => absurd h (by decide), nofun⟩
  intro link hlink _ source hlinkSource
  obtain ⟨word, hword, rfl⟩ := List.mem_map.1 hlink
  obtain rfl := Json.str.inj hlinkSource
  exact hsource _ (List.mem_map_of_mem hword)

/-- A place with directories above it. -/
def deepRoot : Path := ["home", "w", "app"].map Text.ofString

/-- A place near the top. -/
def flatRoot : Path := ["srv"].map Text.ofString

theorem normalizeAll_moved_projectLinks :
    SameProject (projectAt deepRoot) (projectAt flatRoot) deepRoot flatRoot
      ∧ (∀ link ∈ projectLinks, link.origin = none → ∀ source, link.source = .str source →
        Path.isRelative source = true → Path.LeadsInside (Text.ofString "src/app.js") source)
      ∧ normalizeAll (projectAt deepRoot) (.ofString "src/app.js") (.ofString "/home/w/old/../app")
          projectLinks
        = normalizeAll (projectAt flatRoot) (.ofString "src/app.js") (.ofString "/srv") projectLinks
      ∧ (normalizeAll (projectAt flatRoot) (.ofString "src/app.js") (.ofString "/srv")
          projectLinks).outcome.map (·.map Link.source)
        = .ok (["./src/lib.js", "./lost", "react"].map Json.ofString) := by
  have hsame : SameProject (projectAt deepRoot) (projectAt flatRoot) deepRoot flatRoot :=
    FileSystem.sameProject_projectAt rfl rfl
  exact ⟨hsame, leadsInside_projectLinks, normalizeAll_moved _ _ (Text.ofString "/home/w/old/../app")
    (Text.ofString "/srv") (Text.ofString "src/app.js") rfl rfl hsame rfl (by decide) projectLinks
    leadsInside_projectLinks, by rfl⟩

end Link

end ModuleLinks
