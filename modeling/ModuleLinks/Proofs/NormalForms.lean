/-
What normalization changes, and what it logs.

Which way a link takes through normalization depends on nothing but the link and the file system.
So the results of several links stand side by side with the links, and no more is changed than the
source and the origin of a link that was not in its final form. The warnings are those of the lost
links, in order: the links with a relative source and no origin for which none of the candidates is
a file.

Main statement: `normalizeAll_changes`.
-/
import ModuleLinks.Proofs.Candidates
import ModuleLinks.Proofs.LinkConsistency
import ModuleLinks.Proofs.ProjectPlace

set_option autoImplicit false

namespace ModuleLinks

/-! ## Paths without a file -/

namespace FileSystem

variable {fs : FileSystem} {target path : Path} {entry : Entry}

/-- There is a file at the path. At a path that the file system refuses there is none. -/
def isFile (fs : FileSystem) (path : Path) : Bool :=
  match fs.hasFile path with
  | .ok found => found
  | .error _ => false

/-- A path is that of a file if a look at it says so, and does not fail. -/
theorem isFile_iff : fs.isFile path = true ↔ fs.hasFile path = .ok true := by
  unfold isFile
  cases fs.hasFile path <;> simp

theorem look_of_hasFile (h : fs.hasFile path = .ok true) : fs.look path = .ok (some .file) := by
  obtain ⟨found, hfound, hfile⟩ := Outcome.map_eq_ok.1 h
  rw [hfound, eq_of_beq hfile]

/-- What is found at a path is at the end of the way. -/
theorem follow_of_look (h : fs.look path = .ok (some entry)) :
    path.any isImpossible = false ∧ fs.follow [] path = .ok (some entry) := by
  unfold look at h
  split_ifs at h with himpossible hlong
  · cases h
  · exact ⟨Bool.eq_false_iff.2 himpossible, h⟩

/-- **A file is found in a directory only**, if one may look at the directory. -/
theorem hasDirectory_of_hasFile {name : Text} {found : Option Entry}
    (hlook : fs.look target = .ok found) (h : fs.hasFile (target ++ [name]) = .ok true) :
    fs.hasDirectory target = .ok true := by
  obtain ⟨hpossible, hfollow⟩ := follow_of_look (look_of_hasFile h)
  rw [follow_concat] at hfollow
  obtain ⟨before, hbefore, hfollow⟩ := Outcome.bind_eq_ok.1 hfollow
  by_cases hdirectory : before = some .directory
  · rw [List.any_append, Bool.or_eq_false_iff] at hpossible
    subst hdirectory
    -- One may look at the directory, so its path is not too long.
    have hway : fs.look target = .ok (some .directory) := by
      unfold look at hlook ⊢
      rw [if_neg (Bool.eq_false_iff.1 hpossible.1)] at hlook ⊢
      by_cases hlong : fs.isTooLong target = true
      · rw [if_pos hlong] at hlook
        cases hlook
      · rw [if_neg hlong]
        exact hbefore
    rw [hasDirectory, hway]
    rfl
  · rw [if_pos hdirectory] at hfollow
    cases hfollow

/-- None of several paths is that of a file if none is found. -/
theorem hasFile_of_firstFile {paths : List Path} (h : fs.firstFile paths = .ok none) :
    ∀ path ∈ paths, fs.hasFile path = .ok false := by
  induction paths with
  | nil => simp
  | cons first rest ih =>
    rw [firstFile, Outcome.bind_eq_ok] at h
    obtain ⟨found, hfound, h⟩ := h
    cases found with
    | true => cases h
    | false => exact List.forall_mem_cons.2 ⟨hfound, ih h⟩

/-- **A search that finds nothing** has no file among its candidates, whether it looked at all of
them or not. -/
theorem isFile_of_probe (h : fs.probe target = .ok none) :
    ∀ path ∈ candidates target, fs.isFile path = false := by
  rw [probe, Outcome.bind_eq_ok] at h
  obtain ⟨found?, hnamed, h⟩ := h
  cases found? with
  | some path => cases h
  | none =>
    have hnone := hasFile_of_firstFile hnamed
    obtain ⟨directory, hdirectory, h⟩ := Outcome.bind_eq_ok.1 h
    refine List.forall_mem_append.2 ⟨fun path hpath => ?_, fun path hpath => ?_⟩
    · rw [isFile, hnone path hpath]
    rw [Bool.eq_false_iff, ne_eq, isFile_iff]
    intro hfile
    obtain ⟨extension, -, rfl⟩ := List.mem_map.1 hpath
    -- The path was looked at as a file itself before its index files come into question.
    obtain ⟨found, hlook, -⟩ := Outcome.map_eq_ok.1 (hnone target List.mem_cons_self)
    obtain rfl : true = directory :=
      Except.ok.inj ((hasDirectory_of_hasFile hlook hfile).symm.trans hdirectory)
    have hindex := hasFile_of_firstFile h _ hpath
    rw [hindex] at hfile
    cases hfile

/-- **A search that ends** finds nothing exactly if none of the candidates is a file. -/
theorem probe_eq_none_iff {found? : Option Path} (h : fs.probe target = .ok found?) :
    found? = none ↔ (candidates target).any fs.isFile = false := by
  rw [List.any_eq_false]
  cases found? with
  | none => simpa using isFile_of_probe h
  | some path =>
    obtain ⟨hpath, hfile⟩ := candidate_of_probe h
    simp only [reduceCtorEq, false_iff, not_forall]
    exact ⟨path, mem_candidates_iff.2 hpath, not_not_intro (isFile_iff.2 hfile)⟩

end FileSystem

/-! ## Changes -/

namespace Link

variable {link result : Link} {log : List LogRecord}

/-- The path that the source of a link stands for in a module of a project. -/
def targetIn (fs : FileSystem) (importer root : Text) (link : Link) : Path :=
  FileSystem.targetOf (fs.rootPath root) importer (link.source.text?.getD [])

/-- The root-relative form of that path. -/
def keptSource (fs : FileSystem) (importer root : Text) (link : Link) : Text :=
  Path.relativeTo (fs.rootPath root) (link.targetIn fs importer root)

/-- **A lost link**: it has a relative source and no origin, and no candidate is a file. -/
def isLost (fs : FileSystem) (importer root : Text) (link : Link) : Bool :=
  link.origin.isNone && link.source.text?.any Path.isRelative
    && !(FileSystem.candidates (link.targetIn fs importer root)).any fs.isFile

/-- The record of a lost link. -/
def lostRecord (fs : FileSystem) (importer root : Text) (link : Link) : LogRecord where
  level := .warning
  message := Text.ofString "Could not resolve " ++ link.source.literal
    ++ Text.ofString " imported from " ++ (Json.str importer).literal
    ++ Text.ofString "; keeping " ++ (Json.str (link.keptSource fs importer root)).literal

/-- **The records of several links**: one for each lost link, in order, and none without a root. -/
def lostRecords (fs : FileSystem) (importer : Text) : Option Text → List Link → List LogRecord
  | none, _ => []
  | some root, links =>
    (links.filter (isLost fs importer root)).map (lostRecord fs importer root)

/-- **What normalization may change** in a link. -/
structure ChangesTo (fs : FileSystem) (importer : Text) (root? : Option Text)
    (link result : Link) : Prop where
  specifiers : result.specifiers = link.specifiers
  assertion : result.assertion = link.assertion
  settled : link.origin ≠ none ∨ link.isComputed = true → result = link
  source : result.source ≠ link.source → link.origin = none ∧ link.isComputed = false
    ∧ link.source.isRelativeSource = .ok true ∧ root? ≠ none
  lost : ∀ root, root? = some root → link.isLost fs importer root = true →
    result.source = .str (link.keptSource fs importer root)

/-! ## Lost links -/

section Lost

variable {fs : FileSystem} {importer root source : Text} {root? : Option Text}
  {links results : List Link}

/-- Only a relative source for which a file is looked for can be lost. -/
theorem open_of_isLost (h : link.isLost fs importer root = true) :
    link.isSettled = false ∧ link.source.isRelativeSource = .ok true := by
  rw [isLost, Bool.and_eq_true, Bool.and_eq_true, Option.isNone_iff_eq_none] at h
  obtain ⟨source, htext, hrelative⟩ := (Option.any_eq_true _ _).1 h.1.2
  have hsource : link.source = .str source := by
    cases hsource : link.source <;> rw [hsource] at htext <;> cases htext
    rfl
  refine ⟨isSettled_eq_false.2 ⟨h.1.1, ?_⟩,
    Json.isRelativeSource_eq_ok.2 ⟨source, hsource, hrelative⟩⟩
  rw [isComputed, hsource, isText_of_isRelative hrelative]

/-- A settled link is not looked for, so it is not lost. -/
theorem isLost_of_isSettled (h : link.isSettled = true) :
    link.isLost fs importer root = false := by
  rw [Bool.eq_false_iff]
  intro hlost
  rw [(open_of_isLost hlost).1] at h
  cases h

theorem isLost_of_not_relative (h : link.source.isRelativeSource = .ok false) :
    link.isLost fs importer root = false := by
  rw [Bool.eq_false_iff]
  intro hlost
  rw [(open_of_isLost hlost).2] at h
  cases h

/-- **Where a file was looked for**, the link is lost exactly if none was found. -/
theorem isLost_iff_of_search {found? : Option Path} (hopen : link.isSettled = false)
    (hsource : link.source = .str source) (hrelative : Path.isRelative source = true)
    (hsearch : fs.search source importer root = .ok found?) :
    link.isLost fs importer root = true ↔ found? = none := by
  rw [FileSystem.probe_eq_none_iff hsearch, isLost, targetIn, (isSettled_eq_false.1 hopen).1,
    hsource]
  simp [Json.text?, hrelative]

theorem lostRecords_cons (fs : FileSystem) (importer : Text) (root? : Option Text) (link : Link)
    (links : List Link) : lostRecords fs importer root? (link :: links)
      = lostRecords fs importer root? [link] ++ lostRecords fs importer root? links := by
  cases root? with
  | none => rfl
  | some root =>
    rw [lostRecords, lostRecords, lostRecords, ← List.map_append, ← List.filter_append,
      List.singleton_append]

theorem lostRecords_of_not_isLost (h : link.isLost fs importer root = false) :
    lostRecords fs importer (some root) [link] = [] := by
  rw [lostRecords, List.filter_cons_of_neg (Bool.eq_false_iff.1 h)]
  rfl

theorem lostRecords_of_isLost (h : link.isLost fs importer root = true) :
    lostRecords fs importer (some root) [link] = [link.lostRecord fs importer root] := by
  rw [lostRecords, List.filter_cons_of_pos h]
  rfl

/-! ## What a run changes and logs -/

/-- An open link takes one of the ways on which its source may be written anew. -/
theorem ChangesTo.of_open (hopen : link.isSettled = false)
    (hspecifiers : result.specifiers = link.specifiers)
    (hassertion : result.assertion = link.assertion)
    (hsource : result.source ≠ link.source →
      link.source.isRelativeSource = .ok true ∧ root? ≠ none)
    (hlost : ∀ root, root? = some root → link.isLost fs importer root = true →
      result.source = .str (link.keptSource fs importer root)) :
    ChangesTo fs importer root? link result := by
  obtain ⟨horigin, hcomputed⟩ := isSettled_eq_false.1 hopen
  refine ⟨hspecifiers, hassertion, ?_, ?_, hlost⟩
  · rintro (h | h)
    · exact absurd horigin h
    · rw [h] at hcomputed
      cases hcomputed
  · exact fun hdiffers => ⟨horigin, hcomputed, hsource hdiffers⟩

theorem eq_some_of_ofText? (h : Json.ofText? root? = .str source) : root? = some source := by
  cases root? with
  | none => cases h
  | some root => rw [Json.str.inj h]

/-- **One link is changed** in the way that it takes. -/
theorem Normalizes.changesTo
    (h : Normalizes fs (.str importer) (Json.ofText? root?) link log result) :
    ChangesTo fs importer root? link result := by
  cases h with
  | settled hsettled =>
    refine ⟨rfl, rfl, fun _ => rfl, fun hdiffers => absurd rfl hdiffers, ?_⟩
    intro root _ hlost
    rw [isLost_of_isSettled hsettled] at hlost
    cases hlost
  | external hopen hsource =>
    refine .of_open hopen rfl rfl (fun hdiffers => absurd rfl hdiffers) ?_
    intro root _ hlost
    rw [isLost_of_not_relative hsource] at hlost
    cases hlost
  | internal hopen hsource hroot =>
    refine .of_open hopen rfl rfl (fun hdiffers => absurd rfl hdiffers) ?_
    rintro root rfl _
    cases hroot
  | found hopen hsource hrelative himporter hroot hsearch =>
    obtain rfl := Json.str.inj himporter
    obtain rfl := eq_some_of_ofText? hroot
    refine .of_open hopen rfl rfl
      (fun _ => ⟨Json.isRelativeSource_eq_ok.2 ⟨_, hsource, hrelative⟩, nofun⟩) ?_
    rintro root hroot hlost
    obtain rfl := Option.some.inj hroot
    cases (isLost_iff_of_search hopen hsource hrelative hsearch).1 hlost
  | lost hopen hsource hrelative himporter hroot hsearch hkept =>
    obtain rfl := Json.str.inj himporter
    obtain rfl := eq_some_of_ofText? hroot
    refine .of_open hopen rfl rfl
      (fun _ => ⟨Json.isRelativeSource_eq_ok.2 ⟨_, hsource, hrelative⟩, nofun⟩) ?_
    rintro root hroot -
    obtain rfl := Option.some.inj hroot
    rw [hkept, keptSource, targetIn, hsource]
    rfl

/-- **One link is warned of** exactly if it is lost. -/
theorem Normalizes.log_eq
    (h : Normalizes fs (.str importer) (Json.ofText? root?) link log result) :
    log = lostRecords fs importer root? [link] := by
  -- Without a root no file is looked for; else it is to be shown whether the link is lost.
  rcases root? with _ | root
  · cases h with
    | found _ _ _ _ hroot => cases hroot
    | lost _ _ _ _ hroot => cases hroot
    | _ => rfl
  cases h with
  | settled hsettled => exact (lostRecords_of_not_isLost (isLost_of_isSettled hsettled)).symm
  | external hopen hsource =>
    exact (lostRecords_of_not_isLost (isLost_of_not_relative hsource)).symm
  | internal hopen hsource hroot => cases hroot
  | found hopen hsource hrelative himporter hroot hsearch =>
    obtain rfl := Json.str.inj himporter
    obtain rfl := Json.str.inj hroot
    refine (lostRecords_of_not_isLost (Bool.eq_false_iff.2 fun hlost => ?_)).symm
    cases (isLost_iff_of_search hopen hsource hrelative hsearch).1 hlost
  | lost hopen hsource hrelative himporter hroot hsearch hkept =>
    obtain rfl := Json.str.inj himporter
    obtain rfl := Json.str.inj hroot
    rw [lostRecords_of_isLost ((isLost_iff_of_search hopen hsource hrelative hsearch).2 rfl),
      lostRecord, keptSource, targetIn, hsource, hkept]
    rfl

end Lost

/-- **What normalization changes, and what it logs.** Links and results stand side by side. A link
that is classified or whose target is computed stays as it is, and of the others no more than the
source and the origin is changed, the source only if it is relative and there is a root. The log
has one warning for each lost link, in their order, and none without a root. -/
theorem normalizeAll_changes (fs : FileSystem) (importer : Text) (root? : Option Text)
    (links : List Link) {results : List Link}
    (h : (normalizeAll fs (.str importer) (Json.ofText? root?) links).outcome = .ok results) :
    List.Forall₂ (ChangesTo fs importer root?) links results
      ∧ (normalizeAll fs (.str importer) (Json.ofText? root?) links).log
        = lostRecords fs importer root? links := by
  have hlog := Logged.log_mapM h
  rw [normalizeAll, Logged.outcome_mapM, Outcome.mapM_eq_ok] at h
  have hways := h.imp fun link result => normalizes_of_normalize
  refine ⟨hways.imp fun link result hway => hway.changesTo, ?_⟩
  rw [normalizeAll, hlog]
  clear h hlog
  -- Each link logs its own record, if any.
  induction hways with
  | nil => cases root? <;> rfl
  | cons hway _ ih => rw [List.flatMap_cons, lostRecords_cons, ih, hway.log_eq]

/-! ## A project at hand -/

open FileSystem (projectAt)

/-- A link to the file of the project, a lost one, one to a package, and three that are in their
final form, two of them with the source of the lost one. -/
def mixedLinks : List Link :=
  [{ specifiers := [defaultTag], source := .ofString "./lib", assertion := .ofString "json" },
    { specifiers := [namespaceTag], source := .ofString "../lost", assertion := .ofString "json" },
    { specifiers := [fileTag], source := .ofString "react" },
    { specifiers := [fileTag], source := .ofString "../lost", origin := some .internal },
    { specifiers := [defaultTag], source := .ofString "../lost", origin := some .external },
    { specifiers := [namespaceTag], source := computedSource }]

/-- Their normal forms. -/
def mixedResults : List Link :=
  [{ specifiers := [defaultTag], source := .ofString "./src/lib.js", assertion := .ofString "json",
     origin := some .internal },
    { specifiers := [namespaceTag], source := .ofString "./lost", assertion := .ofString "json",
      origin := some .internal },
    { specifiers := [fileTag], source := .ofString "react", origin := some .external },
    { specifiers := [fileTag], source := .ofString "../lost", origin := some .internal },
    { specifiers := [defaultTag], source := .ofString "../lost", origin := some .external },
    { specifiers := [namespaceTag], source := computedSource }]

theorem normalizeAll_changes_mixedLinks :
    (normalizeAll (projectAt deepRoot) (.ofString "src/app.js") (.ofString "/home/w/app")
        mixedLinks).outcome = .ok mixedResults
      ∧ List.Forall₂ (ChangesTo (projectAt deepRoot) (Text.ofString "src/app.js")
          (some (Text.ofString "/home/w/app"))) mixedLinks mixedResults
      ∧ (normalizeAll (projectAt deepRoot) (.ofString "src/app.js") (.ofString "/home/w/app")
          mixedLinks).log
        = [⟨.warning, Text.ofString
            "Could not resolve '../lost' imported from 'src/app.js'; keeping './lost'"⟩] := by
  have hrun : (normalizeAll (projectAt deepRoot) (.ofString "src/app.js") (.ofString "/home/w/app")
      mixedLinks).outcome = .ok mixedResults := by rfl
  obtain ⟨hchanges, hlog⟩ := normalizeAll_changes (projectAt deepRoot) (Text.ofString "src/app.js")
    (some (Text.ofString "/home/w/app")) mixedLinks hrun
  exact ⟨hrun, hchanges, hlog.trans (by rfl)⟩

end Link

end ModuleLinks
