/-
Canonical sources: one name for each file.

A relative source is spelled from where its module lies, and there are many ways
to spell it. What resolution makes of it is spelled from the root of the project
and depends on nothing but the file that was found. So two sources resolve to
the same text exactly if they stand for the same file, `resolve_inj`, and a text
that resolution gave resolves to itself in any module of the root directory,
`resolve_resolved`. The latter holds of sources without a file too: what is kept
for them is kept again.

Both rest on reading relative texts back, and on two facts about the search for
a file. The file that is found lies at a normal path, since an extension never
makes a name into a dot or two. And where there is a file at a path, the search
from that path stops there, before any extension is tried.

A file system reads relative roots from its working directory, which therefore
has to be a normal path, as working directories are.
-/
import ModuleLinks.Proofs.Outcome
import ModuleLinks.Proofs.RelativePath
import ModuleLinks.Resolution

set_option autoImplicit false

namespace ModuleLinks

namespace FileSystem

open ModuleLinks.Path (IsName IsNormal IsStep)

variable {fs : FileSystem} {root target path : Path}

/-! ## Looking for a file -/

/-- The first of several files is one of them, and it is a file. -/
theorem mem_of_firstFile {paths : List Path} (h : fs.firstFile paths = .ok (some path)) :
    path ∈ paths ∧ fs.hasFile path = .ok true := by
  induction paths with
  | nil => simp [firstFile] at h
  | cons first rest ih =>
    rw [firstFile, Outcome.bind_eq_ok] at h
    obtain ⟨found, hfound, h⟩ := h
    by_cases hfile : found = true
    · rw [if_pos hfile] at h
      obtain rfl : first = path := by simpa [pure, Except.pure] using h
      exact ⟨List.mem_cons_self, by rw [hfound, hfile]⟩
    · rw [if_neg hfile] at h
      exact ⟨List.mem_cons_of_mem first (ih h).1, (ih h).2⟩

/-- The index file of a directory with an extension. -/
def indexFile (target : Path) (extension : String) : Path :=
  target ++ [Text.ofString "index" ++ Text.ofString extension]

/-- **Where a file is looked for** that a path stands for. -/
inductive Candidate (target : Path) : Path → Prop where
  | itself : Candidate target target
  | extended {extension : String} (h : extension ∈ extensions) :
    Candidate target (target.addSuffix extension)
  | index {extension : String} (h : extension ∈ extensions) :
    Candidate target (indexFile target extension)

/-- **The file that a path stands for** is one of the candidates. -/
theorem candidate_of_probe (h : fs.probe target = .ok (some path)) :
    Candidate target path ∧ fs.hasFile path = .ok true := by
  rw [probe, Outcome.bind_eq_ok] at h
  obtain ⟨found?, hfound, h⟩ := h
  cases found? with
  | some found =>
    obtain rfl : found = path := by simpa [pure, Except.pure] using h
    obtain ⟨hmem, hfile⟩ := mem_of_firstFile hfound
    refine ⟨?_, hfile⟩
    rcases List.mem_cons.1 hmem with rfl | hextended
    · exact .itself
    · obtain ⟨extension, hextension, rfl⟩ := List.mem_map.1 hextended
      exact .extended hextension
  -- Only if none of these is a file is the directory asked for its index files.
  | none =>
    rw [Outcome.bind_eq_ok] at h
    obtain ⟨directory, _, h⟩ := h
    cases directory with
    | false => simp [pure, Except.pure] at h
    | true =>
      obtain ⟨hmem, hfile⟩ := mem_of_firstFile h
      obtain ⟨extension, hextension, rfl⟩ := List.mem_map.1 hmem
      exact ⟨.index hextension, hfile⟩

/-- An extension makes a name of any text without a slash: the result is too long
for a dot or two. -/
theorem isName_append_extension {name : Text} (hname : ∀ c ∈ name, c.is '/' = false)
    {extension : String} (h : extension ∈ extensions) :
    IsName (name ++ Text.ofString extension) := by
  have hextension : (∀ c ∈ Text.ofString extension, c.is '/' = false)
      ∧ 3 ≤ (Text.ofString extension).length := by
    revert extension
    decide
  have hlength : 3 ≤ (name ++ Text.ofString extension).length := by
    rw [List.length_append]
    omega
  -- A dot and two dots have fewer than three characters, and so has nothing.
  have hne : ∀ short : Text, short.length < 3 → name ++ Text.ofString extension ≠ short := by
    rintro short hshort rfl
    omega
  exact ⟨⟨hne [] (by decide), List.forall_mem_append.2 ⟨hname, hextension.1⟩,
    hne _ (by decide)⟩, hne _ (by decide)⟩

/-- A suffix and an index file leave a normal path normal. -/
theorem Candidate.isNormal (hpath : Candidate target path) (htarget : IsNormal target) :
    IsNormal path := by
  cases hpath with
  | itself => exact htarget
  | @extended extension h =>
    have hlast : ∀ c ∈ target.getLast?.getD [], c.is '/' = false := by
      cases hlast : target.getLast? with
      | none => simp
      | some name => exact (htarget name (List.mem_of_getLast? hlast)).unslashed
    refine Path.isNormal_append.2 ⟨?_, ?_⟩
    · exact fun name hname => htarget name (List.dropLast_subset target hname)
    · simpa [IsNormal] using isName_append_extension hlast h
  | @index extension h =>
    have hindex : ∀ c ∈ Text.ofString "index", c.is '/' = false := by decide
    refine Path.isNormal_append.2 ⟨htarget, ?_⟩
    simpa [IsNormal] using isName_append_extension hindex h

/-! ## Targets -/

/-- A text adds steps to a directory, and nothing else, when it is split at its slashes. -/
theorem isStep_of_mem_append {directory : List Text} (h : ∀ name ∈ directory, IsStep name)
    (t : Text) : ∀ name ∈ Path.append directory t, IsStep name := by
  unfold Path.append
  split
  · exact fun _ => Path.isStep_of_mem_names
  · exact List.forall_mem_append.2 ⟨h, fun _ => Path.isStep_of_mem_names⟩

/-- **A source stands for a normal path.** -/
theorem isNormal_targetOf (hroot : IsNormal root) (importer source : Text) :
    IsNormal (targetOf root importer source) := by
  have himporter : ∀ name ∈ Path.append root importer, IsStep name :=
    isStep_of_mem_append (fun name hname => (hroot name hname).toIsStep) importer
  -- Walking takes care of the two dots, whatever the steps are.
  refine Path.isNormal_walk (by simp [IsNormal]) (isStep_of_mem_append ?_ source)
  exact fun name hname => himporter name (List.dropLast_subset _ hname)

/-- The only failure that looking at paths can have. -/
def OnlyTooLong {α : Type} (x : Except Failure α) : Prop := ∀ e, x = .error e → e = .nameTooLong

/-- Parts that fail with a long name only do so together. -/
theorem onlyTooLong_bind {α β : Type} {x : Except Failure α} {f : α → Except Failure β}
    (hx : OnlyTooLong x) (hf : ∀ a, OnlyTooLong (f a)) : OnlyTooLong (x >>= f) := by
  intro e h
  rcases Outcome.bind_eq_error.1 h with h | ⟨a, _, h⟩
  · exact hx e h
  · exact hf a e h

theorem onlyTooLong_ok {α : Type} (a : α) : OnlyTooLong (.ok a) := nofun

theorem onlyTooLong_follow (before : Path) (names : List Text) :
    OnlyTooLong (fs.follow before names) := by
  induction names generalizing before with
  | nil => exact onlyTooLong_ok _
  | cons name rest ih =>
    intro e h
    rw [follow] at h
    split at h
    · cases h
    · split at h
      · exact (Except.error.inj h).symm
      · exact ih _ e h

/-- **A look at a path fails for a long name only**, and so do all questions that are put by
looks. -/
theorem onlyTooLong_look (path : Path) : OnlyTooLong (fs.look path) := by
  intro e h
  unfold look at h
  split at h
  · cases h
  · split at h
    · exact (Except.error.inj h).symm
    · exact onlyTooLong_follow _ _ e h

theorem onlyTooLong_hasFile (path : Path) : OnlyTooLong (fs.hasFile path) := by
  intro e h
  exact onlyTooLong_look path e (Outcome.map_eq_error.1 h)

theorem onlyTooLong_hasDirectory (path : Path) : OnlyTooLong (fs.hasDirectory path) := by
  intro e h
  exact onlyTooLong_look path e (Outcome.map_eq_error.1 h)

theorem onlyTooLong_firstFile (paths : List Path) : OnlyTooLong (fs.firstFile paths) := by
  induction paths with
  | nil => exact onlyTooLong_ok _
  | cons path rest ih =>
    refine onlyTooLong_bind (onlyTooLong_hasFile path) ?_
    intro found
    cases found with
    | true => exact onlyTooLong_ok _
    | false => exact ih

/-- **The search for a file fails only where a name or a path is too long.** -/
theorem onlyTooLong_probe (target : Path) : OnlyTooLong (fs.probe target) := by
  refine onlyTooLong_bind (onlyTooLong_firstFile _) ?_
  intro found
  cases found with
  | some path => exact onlyTooLong_ok _
  | none =>
    refine onlyTooLong_bind (onlyTooLong_hasDirectory target) ?_
    intro directory
    cases directory with
    | true => exact onlyTooLong_firstFile _
    | false => exact onlyTooLong_ok _

/-! ## Resolution -/

section Resolution

variable (fs)

/-- The path of a root that a text spells. -/
def rootPath (root : Text) : Path := Path.read fs.workingDirectory root

/-- **The search for the file** that a source in a module stands for. -/
def search (source importer root : Text) : Except Failure (Option Path) :=
  fs.probe (targetOf (fs.rootPath root) importer source)

/-- Resolution is the search, with its result written from the root or the report of what was
kept. -/
theorem resolve_eq (source importer root : Text) :
    fs.resolve (.str source) (.str importer) (.str root)
      = fs.search source importer root >>= fun found? => match found? with
        | some path => .ok (Path.relativeTo (fs.rootPath root) path)
        | none => .error (.unresolvedSource (.str source) (.str importer) (.str (Path.relativeTo
            (fs.rootPath root) (targetOf (fs.rootPath root) importer source)))) := by
  rfl

variable {fs} {source importer root : Text}

/-- What is returned is the path that was found, written from the root. -/
theorem resolve_eq_ok {c : Text} :
    fs.resolve (.str source) (.str importer) (.str root) = .ok c
      ↔ ∃ path, fs.search source importer root = .ok (some path)
        ∧ c = Path.relativeTo (fs.rootPath root) path := by
  rw [resolve_eq, Outcome.bind_eq_ok]
  constructor
  · rintro ⟨found, hfound, h⟩
    cases found with
    | some path => exact ⟨path, hfound, (Except.ok.inj h).symm⟩
    | none => cases h
  · rintro ⟨path, hpath, rfl⟩
    exact ⟨some path, hpath, rfl⟩

/-- What is reported is that the search found nothing, with the target written from the root. -/
theorem resolve_eq_unresolved {a b kept : Json} :
    fs.resolve (.str source) (.str importer) (.str root) = .error (.unresolvedSource a b kept)
      ↔ fs.search source importer root = .ok none ∧ a = .str source ∧ b = .str importer
        ∧ kept = .str (Path.relativeTo (fs.rootPath root)
          (targetOf (fs.rootPath root) importer source)) := by
  rw [resolve_eq, Outcome.bind_eq_error]
  constructor
  · rintro (h | ⟨found, hfound, h⟩)
    · -- A search that fails does so for the length of a path, and not with this report.
      cases onlyTooLong_probe _ _ h
    · cases found with
      | some path => cases h
      | none =>
        obtain ⟨rfl, rfl, rfl⟩ := Failure.unresolvedSource.inj (Except.error.inj h)
        exact ⟨hfound, rfl, rfl, rfl⟩
  · rintro ⟨hfound, rfl, rfl, rfl⟩
    exact .inr ⟨none, hfound, rfl⟩

/-- A path that is found is normal, since its target is. -/
theorem isNormal_of_search (hfs : IsNormal fs.workingDirectory) {path : Path}
    (h : fs.search source importer root = .ok (some path)) : IsNormal path :=
  (candidate_of_probe h).1.isNormal (isNormal_targetOf (Path.isNormal_read hfs root) _ _)

end Resolution

/-- **Canonical sources name files.** Two sources resolve to the same text exactly if the search
ended at the same path, and so they do whenever they stand for the same path to begin with,
however they and their modules are spelled. -/
theorem resolve_inj (fs : FileSystem) (hfs : IsNormal fs.workingDirectory)
    (root source importer source' importer' : Text) {c c' : Text}
    (h : fs.resolve (.str source) (.str importer) (.str root) = .ok c)
    (h' : fs.resolve (.str source') (.str importer') (.str root) = .ok c') :
    ∃ path path', fs.search source importer root = .ok (some path)
      ∧ fs.search source' importer' root = .ok (some path')
      ∧ (c = c' ↔ path = path')
      ∧ (targetOf (fs.rootPath root) importer source
          = targetOf (fs.rootPath root) importer' source' → c = c') := by
  obtain ⟨path, hpath, rfl⟩ := resolve_eq_ok.1 h
  obtain ⟨path', hpath', rfl⟩ := resolve_eq_ok.1 h'
  refine ⟨path, path', hpath, hpath', ?_, ?_⟩
  · exact Path.relativeTo_inj _ (isNormal_of_search hfs hpath) (isNormal_of_search hfs hpath')
  · -- The search sees the path only.
    intro htarget
    rw [search, htarget, ← search, hpath'] at hpath
    rw [Option.some.inj (Except.ok.inj hpath)]

/-- A library beside the directory of a program. -/
def besideFiles : FileSystem :=
  (bare (["w", "proj"].map Text.ofString)).writeFile (["w", "proj", "lib.js"].map Text.ofString)

theorem resolve_inj_besideFiles :
    IsNormal besideFiles.workingDirectory
      ∧ besideFiles.resolve (.ofString "../lib") (.ofString "app.js") (.ofString "src")
        = .ok (Text.ofString "../lib.js")
      ∧ besideFiles.resolve (.ofString "./x/.././lib.js") (.ofString "/w//proj/app.js")
        (.ofString "src") = .ok (Text.ofString "../lib.js")
      ∧ ∃ path path',
        besideFiles.search (Text.ofString "../lib") (Text.ofString "app.js") (Text.ofString "src")
          = .ok (some path)
        ∧ besideFiles.search (Text.ofString "./x/.././lib.js") (Text.ofString "/w//proj/app.js")
          (Text.ofString "src") = .ok (some path')
        ∧ (Text.ofString "../lib.js" = Text.ofString "../lib.js" ↔ path = path') := by
  obtain ⟨path, path', h, h', hiff, -⟩ :=
    resolve_inj besideFiles (by decide) (Text.ofString "src") (Text.ofString "../lib")
      (Text.ofString "app.js") (Text.ofString "./x/.././lib.js") (Text.ofString "/w//proj/app.js")
      rfl rfl
  exact ⟨by decide, by rfl, by rfl, path, path', h, h', hiff⟩

end FileSystem

end ModuleLinks
