/-
The links of an analysis.

An analysis surveys the tree, brings what it found into normal form, and leaves
the internal links out unless it is told to keep them. Of a link that was found,
normalization changes the source and the origin alone, and the source only if it
is relative. All that is said here follows from that.

Where the internal links are left out, no file matters. Whatever the files, the
root and the name of the module are, the links of the analysis are those the
survey found without the relative ones. The files decide whether there is an
answer, and not which one.

The record of the links is exact, with one exception. A declaration may assert
the empty type. Its link says so, but the record does not, and a link that is
read from the record asserts nothing.

Main statements: `run_withoutInternal` and `listOfRecord_run_iff`.
-/
import ModuleLinks.Analysis
import ModuleLinks.Proofs.LinkConsistency
import ModuleLinks.Proofs.LinkRecord
import ModuleLinks.Proofs.ParserIndependence
import ModuleLinks.Proofs.ProjectPlace
import ModuleLinks.Proofs.WholeExport

set_option autoImplicit false

namespace ModuleLinks

namespace Link

/-! ## Links that were found, in normal form -/

/-- The source is a text and a relative one. -/
def isRelative (link : Link) : Bool :=
  match link.source with
  | .str t => Path.isRelative t
  | _ => false

/-- The link as one that leads out of the project, unless its target is computed. -/
def outward (link : Link) : Link :=
  { link with origin := if link.isComputed then none else some .external }

section Found

variable {fs : FileSystem} {importer root : Json} {link result : Link}

/-- **What normalization makes of a link that was found**: an internal link, maybe with another
source, if its source is relative, and otherwise the same link with an origin. -/
theorem IsFound.normalize_cases (hlink : link.IsFound)
    (h : (normalize fs importer root link).outcome = .ok result) :
    (link.isRelative = true
        ∧ ∃ c, result = { link with source := .str c, origin := some .internal })
      ∨ (link.isRelative = false ∧ result = link.outward) := by
  -- A found link has a text for its source, so the question whether it is relative has an answer.
  have hasked : ∀ {b : Bool}, link.source.isRelativeSource = .ok b → link.isRelative = b := by
    intro b hb
    obtain ⟨t, hsource, hrelative⟩ := Json.isRelativeSource_eq_ok.1 hb
    rw [isRelative, hsource]
    exact hrelative
  rcases result_cases h with ⟨hsettled, rfl⟩ | ⟨hopen, hexternal, rfl⟩ | ⟨_, hinternal, c, _, rfl⟩
  · -- Without an origin the link is final for its computed target, and the mark is not relative.
    rw [isSettled, hlink.origin, Option.isSome_none, Bool.false_or] at hsettled
    refine .inr ⟨?_, by rw [outward, if_pos hsettled, ← hlink.origin]⟩
    obtain ⟨t, -, hsource⟩ := hlink.exists_source
    rw [isComputed, hsource] at hsettled
    rw [isRelative, hsource, (Text.is_iff _ _).1 hsettled]
    rfl
  · refine .inr ⟨hasked hexternal, ?_⟩
    rw [outward, (isSettled_eq_false.1 hopen).2, if_neg Bool.false_ne_true]
  · exact .inl ⟨hasked hinternal, c, rfl⟩

theorem IsFound.assertion_of_normalize (hlink : link.IsFound)
    (h : (normalize fs importer root link).outcome = .ok result) :
    result.assertion = link.assertion := by
  rcases hlink.normalize_cases h with ⟨-, c, rfl⟩ | ⟨-, rfl⟩
  · rfl
  · rfl

/-- A link is left out as internal if its source was relative when it was found. -/
theorem IsFound.isInternal_iff (hlink : link.IsFound)
    (h : (normalize fs importer root link).outcome = .ok result) :
    result.origin = some .internal ↔ link.isRelative = true := by
  rcases hlink.normalize_cases h with ⟨hrelative, c, rfl⟩ | ⟨hrelative, rfl⟩
  · exact iff_of_true rfl hrelative
  · rw [hrelative, outward]
    cases link.isComputed <;> simp

/-- **What is left of the normal forms without the internal ones** does not depend on where the
relative sources lead. -/
theorem withoutInternal_of_normalizeAll {links results : List Link}
    (hlinks : ∀ link ∈ links, link.IsFound)
    (h : (normalizeAll fs importer root links).outcome = .ok results) :
    withoutInternal results = (links.filter fun link => !link.isRelative).map outward := by
  rw [normalizeAll, Logged.outcome_mapM, Outcome.mapM_eq_ok] at h
  induction h with
  | nil => rfl
  | @cons link result links results hlink _ ih =>
    rw [List.forall_mem_cons] at hlinks
    have hrest := ih hlinks.2
    have hinternal := hlinks.1.isInternal_iff hlink
    rw [withoutInternal] at hrest ⊢
    rcases hlinks.1.normalize_cases hlink with ⟨hrelative, -⟩ | ⟨hrelative, hresult⟩
    · rw [List.filter_cons_of_neg (by simp [hinternal, hrelative]),
        List.filter_cons_of_neg (by simp [hrelative]), hrest]
    · rw [List.filter_cons_of_pos (by simp [hinternal, hrelative]),
        List.filter_cons_of_pos (by simp [hrelative]), hrest, List.map_cons, hresult]

end Found

end Link

namespace Analysis

variable {a b : Analysis} {fs gs : FileSystem} {links : List Link}

/-! ## The parts of an analysis -/

/-- **An analysis gives links** when all of its parts succeed. -/
theorem run_eq_ok : (a.run fs).outcome = .ok links ↔
    ∃ settings name found normal, a.settings = .ok settings ∧ a.dialectName = .ok name
      ∧ (name.survey a.file a.subject).outcome = .ok found
      ∧ (Link.normalizeAll fs a.file settings.projectRoot found).outcome = .ok normal
      ∧ chosen settings normal = links := by
  have hlift : ∀ {α : Type} (x : Except Failure α), (liftM x : Logged α).outcome = x :=
    fun _ => rfl
  simp only [run, Logged.outcome_bind, hlift, Outcome.bind_eq_ok]
  constructor
  · rintro ⟨settings, hsettings, name, hname, found, hfound, normal, hnormal, hlinks⟩
    exact ⟨settings, name, found, normal, hsettings, hname, hfound, hnormal, Except.ok.inj hlinks⟩
  · rintro ⟨settings, name, found, normal, hsettings, hname, hfound, hnormal, hlinks⟩
    exact ⟨settings, hsettings, name, hname, found, hfound, normal, hnormal, congrArg Except.ok hlinks⟩

theorem mem_of_mem_chosen {settings : Settings} {normal : List Link} {link : Link}
    (h : link ∈ chosen settings normal) : link ∈ normal := by
  unfold chosen at h
  split at h
  · exact (List.mem_filter.1 h).1
  · exact h

/-! ## Without internal links -/

/-- **An analysis that leaves out the internal links** gives the links that the survey found without
the relative ones. The files, the root of the project and the name of the module have no part in
it. -/
theorem run_of_leavesInternal {settings : Settings} (hsettings : a.settings = .ok settings)
    (hleaves : settings.keepInternal.isTrivial = true) (h : (a.run fs).outcome = .ok links) :
    ∃ name found, a.dialectName = .ok name
      ∧ (∀ file, (name.survey file a.subject).outcome = .ok found)
      ∧ links = (found.filter fun link => !link.isRelative).map Link.outward := by
  obtain ⟨own, name, found, normal, hown, hname, hfound, hnormal, rfl⟩ := run_eq_ok.1 h
  rw [hsettings] at hown
  obtain rfl := Except.ok.inj hown
  refine ⟨name, found, hname, ?_, ?_⟩
  · intro file
    rw [← hfound]
    exact Dialect.outcome_survey_file _ _ _ _
  · rw [chosen, if_pos hleaves]
    exact Link.withoutInternal_of_normalizeAll (Dialect.isFound_of_survey hfound) hnormal

/-- **Any two analyses of a tree that leave out the internal links agree**, whatever the files, the
roots and the names of the module are: both give the links that the survey finds without the
relative ones, in their order. -/
theorem run_withoutInternal {settings others : Settings} {otherLinks : List Link}
    (hname : a.dialectName = b.dialectName) (hsubject : a.subject = b.subject)
    (hsettings : a.settings = .ok settings) (hleaves : settings.keepInternal.isTrivial = true)
    (hothers : b.settings = .ok others) (hleavesToo : others.keepInternal.isTrivial = true)
    (h : (a.run fs).outcome = .ok links) (hother : (b.run gs).outcome = .ok otherLinks) :
    links = otherLinks
      ∧ ∃ name found, a.dialectName = .ok name
        ∧ (∀ file, (name.survey file a.subject).outcome = .ok found)
        ∧ links = (found.filter fun link => !link.isRelative).map Link.outward := by
  have hlinks := run_of_leavesInternal hsettings hleaves h
  refine ⟨?_, hlinks⟩
  obtain ⟨name, found, haname, hfound, rfl⟩ := hlinks
  obtain ⟨name', found', hbname, hfound', rfl⟩ := run_of_leavesInternal hothers hleavesToo hother
  -- The two surveys are one: they are of the same tree, in the same dialect.
  obtain rfl : name = name' := Except.ok.inj (haname.symm.trans (hname.trans hbname))
  have hsame : found = found' := by
    have hfile := hfound' .null
    rw [← hsubject, hfound .null] at hfile
    exact Except.ok.inj hfile
  rw [hsame]

/-- A module with an import of a file, one of a package, and one that is computed. -/
def mixedModule : List Code.Item :=
  [.importing [] ⟨⟨[.run "./lib".toList]⟩, by decide⟩ [],
    .importing [.defaultBinding "React".toList] ⟨⟨[.run "react".toList]⟩, by decide⟩ [],
    .dynamic .none (.computed Code.pathCall)]

/-- The analysis of that module in Babel's shape, as one that is told a root and a name. -/
def mixedAnalysis (root file : String) : Analysis where
  own := .record { projectRoot := .ofString root }
  occasion := .none
  dialect? := some (.ofString "babel")
  file := .ofString file
  subject := Code.encode unplaced mixedModule .babel

/-- The links of that module that lead out of its project. -/
def outwardLinks : List Link :=
  [{ specifiers := [Link.defaultTag], source := .ofString "react", origin := some .external },
    { specifiers := [Link.defaultTag], source := Link.computedSource }]

/-- All links of that module in normal form, for one source of the internal link. -/
def normalLinks (source : String) : List Link :=
  { specifiers := [Link.fileTag], source := .ofString source, origin := some .internal }
    :: outwardLinks

/-- The survey of a module without positions, whatever its parser. -/
theorem outcome_survey_unplaced (name : DialectName) (items : List Code.Item) (file : Json) :
    (name.survey file (Code.encode unplaced items name)).outcome = .ok (Code.links items) :=
  congrArg Logged.outcome (Dialect.survey_of_yields (Code.root_encode unplaced items name)
    (Code.yields_root unplaced items name) file)

open FileSystem (projectAt) in
/-- The file is found at the one place and missed at the other. -/
theorem run_withoutInternal_mixedModule :
    ((mixedAnalysis "/home/w/app" "src/app.js").run (projectAt Link.deepRoot)).outcome
        = .ok outwardLinks
      ∧ ((mixedAnalysis "/srv" "app.js").run (projectAt Link.flatRoot)).outcome = .ok outwardLinks
      ∧ ∃ name found, (mixedAnalysis "/srv" "app.js").dialectName = .ok name
        ∧ (∀ file, (name.survey file (mixedAnalysis "/srv" "app.js").subject).outcome = .ok found)
        ∧ outwardLinks = (found.filter fun link => !link.isRelative).map Link.outward := by
  have hdeep : ((mixedAnalysis "/home/w/app" "src/app.js").run (projectAt Link.deepRoot)).outcome
      = .ok outwardLinks :=
    run_eq_ok.2 ⟨_, .babel, Code.links mixedModule, normalLinks "./src/lib.js", rfl, rfl,
      outcome_survey_unplaced .babel mixedModule _, by rfl, by rfl⟩
  have hflat : ((mixedAnalysis "/srv" "app.js").run (projectAt Link.flatRoot)).outcome
      = .ok outwardLinks :=
    run_eq_ok.2 ⟨_, .babel, Code.links mixedModule, normalLinks "./lib", rfl, rfl,
      outcome_survey_unplaced .babel mixedModule _, by rfl, by rfl⟩
  have hagree := run_withoutInternal (a := mixedAnalysis "/srv" "app.js")
    (b := mixedAnalysis "/home/w/app" "src/app.js") rfl rfl rfl rfl rfl rfl hflat hdeep
  exact ⟨hdeep, hflat, hagree.2⟩

/-! ## The record of the links -/

/-- The assertion of every link is a text or none, as it was when the link was found. -/
theorem exists_assertion_of_run (h : (a.run fs).outcome = .ok links) :
    ∀ link ∈ links, ∃ t?, link.assertion = Json.ofText? t? := by
  obtain ⟨settings, name, found, normal, -, -, hfound, hnormal, rfl⟩ := run_eq_ok.1 h
  rw [Link.normalizeAll, Logged.outcome_mapM, Outcome.mapM_eq_ok] at hnormal
  have hkept := Outcome.forall_mem_of_forall₂ (Q := fun link => ∃ t?, link.assertion = Json.ofText? t?)
    hnormal fun link hlink result hresult => by
      have hisFound := Dialect.isFound_of_survey hfound link hlink
      rw [hisFound.assertion_of_normalize hresult]
      exact hisFound.exists_assertion
  exact fun link hlink => hkept link (mem_of_mem_chosen hlink)

/-- **The record of the links** of an analysis gives them back without empty assertions. It gives
them back as they were just if there is no empty assertion. -/
theorem listOfRecord_run_iff (h : (a.run fs).outcome = .ok links) :
    Link.listOfRecord (Link.listRecord links) = .ok (links.map Link.recorded)
      ∧ (Link.listOfRecord (Link.listRecord links) = .ok links
        ↔ ∀ link ∈ links, link.assertion ≠ .str []) := by
  have hrecord := Link.listOfRecord_listRecord links
  refine ⟨hrecord, ?_⟩
  have hkept : ∀ link ∈ links, link.recorded = link ↔ link.assertion ≠ .str [] := by
    intro link hlink
    rw [Link.recorded_eq_self_iff]
    obtain ⟨t?, ht⟩ := exists_assertion_of_run h link hlink
    -- Of the assertions that a run leaves, the empty text alone is trivial and not `null`.
    rcases t? with _ | _ | ⟨c, t⟩
    · simp [ht, Json.ofText?]
    · simp [ht, Json.ofText?, Json.isTrivial]
    · simp [ht, Json.ofText?, Json.isTrivial]
  have hall : links.map Link.recorded = links ↔ ∀ link ∈ links, link.recorded = link := by
    rw [← List.map_inj_left, List.map_id']
  rw [hrecord, Except.ok.injEq, hall]
  exact forall₂_congr hkept

/-- A module with an import that asserts a type. -/
def typedImport (type : List Char) : List Code.Item :=
  [.importing [.defaultBinding "data".toList] ⟨⟨[.run "data".toList]⟩, by decide⟩
    [⟨.identifier "type".toList, ⟨[.run type]⟩⟩]]

/-- An analysis of that module. -/
def typedAnalysis (type : List Char) : Analysis where
  own := .none
  occasion := .none
  dialect? := some (.ofString "babel")
  file := .ofString "app.js"
  subject := Code.encode unplaced (typedImport type) .babel

/-- The link of that import. -/
def typedLink (type : List Char) : Link where
  specifiers := [Link.defaultTag]
  source := .ofString "data"
  assertion := .str (Text.ofChars type)
  origin := some .external

/-- It returns the one link, with the type as it was written. -/
theorem run_typedAnalysis (type : List Char) :
    ((typedAnalysis type).run (FileSystem.projectAt [])).outcome = .ok [typedLink type] := by
  have hlinks : chosen {} [typedLink (type ++ [])] = [typedLink type] := by
    rw [List.append_nil]
    rfl
  exact run_eq_ok.2 ⟨{}, .babel, Code.links (typedImport type), [typedLink (type ++ [])], rfl, rfl,
    outcome_survey_unplaced .babel _ _, by rfl, hlinks⟩

theorem listOfRecord_run_iff_json :
    ((typedAnalysis "json".toList).run (FileSystem.projectAt [])).outcome
        = .ok [typedLink "json".toList]
      ∧ Link.listOfRecord (Link.listRecord [typedLink "json".toList])
        = .ok [typedLink "json".toList] :=
  have hrun := run_typedAnalysis "json".toList
  ⟨hrun, (listOfRecord_run_iff hrun).2.2 (by simp [typedLink, Text.ofChars])⟩

/-- **An empty type is lost** in the record of the links. -/
theorem listOfRecord_emptyType_ne :
    ((typedAnalysis []).run (FileSystem.projectAt [])).outcome = .ok [typedLink []]
      ∧ Link.listOfRecord (Link.listRecord [typedLink []])
        = .ok [{ typedLink [] with assertion := .null }]
      ∧ Link.listOfRecord (Link.listRecord [typedLink []]) ≠ .ok [typedLink []] := by
  have hrecord : Link.listOfRecord (Link.listRecord [typedLink []])
      = .ok [{ typedLink [] with assertion := .null }] :=
    Link.listOfRecord_listRecord [typedLink []]
  refine ⟨run_typedAnalysis [], hrecord, ?_⟩
  rw [hrecord]
  intro h
  have hassertion := congrArg Link.assertion (List.cons.inj (Except.ok.inj h)).1
  cases hassertion

end Analysis

end ModuleLinks
