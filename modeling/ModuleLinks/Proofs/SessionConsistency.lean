/-
Sessions over whole runs.

A session that begins with nothing gets its links from trees and from its own
archive. Whatever it then does, in whatever order and while the files around it
change, the origin of every link agrees with its source.

The invariant has two parts, one for the links of the session and one for the
links that its archive would bring back. The second is needed because links
that were saved return after the session has moved on. Each step keeps both
parts, and a run is a sequence of steps.

Main statement: `isConsistent_of_run`.
-/
import Mathlib.Logic.Relation
import ModuleLinks.Proofs.LinkConsistency
import ModuleLinks.Session

set_option autoImplicit false

namespace ModuleLinks.Session

/-! ## Runs -/

/-- **The steps of a session on its own**: it brings in no links but those of trees
and of its archive. -/
inductive IsOwn : Step → Prop where
  | survey (dialect file : Json) (subject : Subject) : IsOwn (.survey dialect file subject)
  | normalize (file root : Json) : IsOwn (.normalize file root)
  | leaveInternal : IsOwn .leaveInternal
  | save : IsOwn .save
  | load : IsOwn (.load none)

/-- **What happens to a session**: a step of its own, or a change of the files. -/
inductive Moves : Session → Session → Prop where
  | perform {s : Session} {step : Step} (h : IsOwn step) : Moves s (s.perform step).1
  | change {s : Session} (files : FileSystem) : Moves s { s with files }

/-- **A run** of a session that begins with no links and no archive. -/
def Reaches (files : FileSystem) (s : Session) : Prop := Relation.ReflTransGen Moves { files } s

/-! ## What a step does -/

variable {s t : Session} {step : Step} {answer : Answer}

/-- A step that succeeds leads to the session that it made. -/
theorem perform_of_ok (h : (s.attempt step).outcome = .ok (t, answer)) :
    (s.perform step).1 = t ∧ (s.perform step).2.outcome = .ok answer := by
  unfold perform
  dsimp only
  rw [h]
  exact ⟨rfl, rfl⟩

/-- A step changes the session and answers, or it fails and changes nothing. -/
theorem perform_cases (s : Session) (step : Step) :
    (∃ t answer, (s.attempt step).outcome = .ok (t, answer) ∧ (s.perform step).1 = t
        ∧ (s.perform step).2.outcome = .ok answer)
      ∨ ∃ e, (s.perform step).1 = s ∧ (s.perform step).2.outcome = .error e := by
  rcases hattempt : (s.attempt step).outcome with e | ⟨t, answer⟩
  · refine .inr ⟨e, ?_⟩
    unfold perform
    dsimp only
    rw [hattempt]
    exact ⟨rfl, rfl⟩
  · exact .inl ⟨t, answer, rfl, perform_of_ok hattempt⟩

/-- A survey adds what it found behind the links, and changes nothing else. -/
theorem attempt_survey {dialect file : Json} {subject : Subject}
    (h : (s.attempt (.survey dialect file subject)).outcome = .ok (t, answer)) :
    ∃ (name : DialectName) (found : List Link), (name.survey file subject).outcome = .ok found
      ∧ t = { s with links := s.links ++ found } := by
  rw [attempt, Logged.outcome_bind] at h
  obtain ⟨name, _, h⟩ := Outcome.bind_eq_ok.1 h
  rw [Logged.outcome_bind] at h
  obtain ⟨found, hfound, h⟩ := Outcome.bind_eq_ok.1 h
  exact ⟨name, found, hfound, (Prod.mk.inj (Except.ok.inj h)).1.symm⟩

/-- A normalization puts its results in place of the links. -/
theorem attempt_normalize {file root : Json}
    (h : (s.attempt (.normalize file root)).outcome = .ok (t, answer)) :
    ∃ links, (Link.normalizeAll s.files file root s.links).outcome = .ok links
      ∧ t = { s with links } := by
  rw [attempt, Logged.outcome_bind] at h
  obtain ⟨links, hlinks, h⟩ := Outcome.bind_eq_ok.1 h
  exact ⟨links, hlinks, (Prod.mk.inj (Except.ok.inj h)).1.symm⟩

/-- A load puts what was saved in place of the links. -/
theorem attempt_load (h : (s.attempt (.load none)).outcome = .ok (t, answer)) :
    ∃ links, Link.load s.archive = .ok links ∧ t = { s with links } := by
  rw [attempt, Logged.outcome_bind] at h
  obtain ⟨text, htext, h⟩ := Outcome.bind_eq_ok.1 h
  -- Without a document of its own the step takes the archive.
  obtain rfl := Except.ok.inj htext
  rw [Logged.outcome_bind] at h
  obtain ⟨links, hlinks, h⟩ := Outcome.bind_eq_ok.1 h
  exact ⟨links, hlinks, (Prod.mk.inj (Except.ok.inj h)).1.symm⟩

/-! ## The invariant -/

/-- **A session whose links are consistent**, those that its archive holds included. -/
structure IsConsistent (s : Session) : Prop where
  links : ∀ link ∈ s.links, link.IsConsistent
  archive : ∀ links, Link.load s.archive = .ok links → ∀ link ∈ links, link.IsConsistent

/-- A session begins with no links, and the empty archive is no document. -/
theorem isConsistent_start (files : FileSystem) : IsConsistent { files } where
  links := by simp
  archive := by
    intro links h
    cases h

/-- **A step keeps a session consistent.** -/
theorem IsConsistent.attempt (hs : s.IsConsistent) (hstep : IsOwn step)
    (h : (s.attempt step).outcome = .ok (t, answer)) : t.IsConsistent := by
  cases hstep with
  | survey dialect file subject =>
    -- The links of the session stay, and those that were found have no origin yet.
    obtain ⟨name, found, hfound, rfl⟩ := attempt_survey h
    refine ⟨?_, hs.archive⟩
    rw [List.forall_mem_append]
    exact ⟨hs.links, Dialect.isConsistent_of_survey hfound⟩
  | normalize file root =>
    obtain ⟨links, hlinks, rfl⟩ := attempt_normalize h
    refine ⟨?_, hs.archive⟩
    intro link hlink
    exact (Link.isConsistent_of_normalizeAll hs.links hlinks link hlink).1
  | leaveInternal =>
    obtain ⟨rfl, -⟩ := Prod.mk.inj (Except.ok.inj h)
    refine ⟨?_, hs.archive⟩
    intro link hlink
    exact hs.links link (List.mem_filter.1 hlink).1
  | save =>
    obtain ⟨rfl, -⟩ := Prod.mk.inj (Except.ok.inj h)
    -- Only the archive is another one now, and it holds the links of the session.
    refine ⟨hs.links, ?_⟩
    intro links hload
    exact Link.isConsistent_of_load_save hs.links hload
  | load =>
    -- This is what the second part of the invariant is for.
    obtain ⟨links, hlinks, rfl⟩ := attempt_load h
    exact ⟨hs.archive links hlinks, hs.archive⟩

/-- **Every move keeps a session consistent**: a step, or a change of the files. -/
theorem IsConsistent.moves (hs : s.IsConsistent) (h : Moves s t) : t.IsConsistent := by
  cases h with
  | perform hstep =>
    rcases perform_cases s _ with ⟨t, answer, hattempt, ht, -⟩ | ⟨e, hs', -⟩
    · rw [ht]
      exact hs.attempt hstep hattempt
    · rwa [hs']
  | change files => exact ⟨hs.links, hs.archive⟩

/-- So every session that can be reached is consistent. -/
theorem Reaches.isConsistent {files : FileSystem} (h : Reaches files s) : s.IsConsistent := by
  induction h with
  | refl => exact isConsistent_start files
  | tail _ hmove ih => exact ih.moves hmove

/-- **Origins agree with sources over whole runs.** In every session that a run reaches, all
links are consistent, and a step that fails changes nothing. Right after links were normalized,
only those with a computed target lack an origin, and leaving out the internal ones then leaves no
relative source. -/
theorem isConsistent_of_run {files : FileSystem} {s : Session} (h : Reaches files s) :
    (∀ link ∈ s.links, link.IsConsistent)
      ∧ (∀ step e, (s.perform step).2.outcome = .error e → (s.perform step).1 = s)
      ∧ ∀ file root answer, (s.perform (.normalize file root)).2.outcome = .ok answer →
        (∀ link ∈ (s.perform (.normalize file root)).1.links,
            link.origin = none ↔ link.isComputed = true)
          ∧ ∀ link ∈ ((s.perform (.normalize file root)).1.perform .leaveInternal).1.links,
            link.source.isRelativeSource = .ok false := by
  refine ⟨h.isConsistent.links, ?_, ?_⟩
  · intro step e hfail
    rcases perform_cases s step with ⟨t, answer, -, -, hanswer⟩ | ⟨e', hs, -⟩
    · rw [hanswer] at hfail
      cases hfail
    · exact hs
  · intro file root answer hsucceeds
    rcases perform_cases s (.normalize file root) with ⟨t, answer', hattempt, ht, -⟩ | ⟨e, -, hfail⟩
    · obtain ⟨links, hlinks, rfl⟩ := attempt_normalize hattempt
      have hnormal := Link.isConsistent_of_normalizeAll h.isConsistent.links hlinks
      rw [ht]
      exact ⟨fun link hlink => (hnormal link hlink).2,
        Link.isRelativeSource_of_withoutInternal hnormal⟩
    · rw [hfail] at hsucceeds
      cases hsucceeds

/-- A source that leads out of the directory of the module. -/
def besideSource : Json := placedNode "StringLiteral" 7 [("value", .ofString "../lib")]

/-- An import of it. -/
def besideImport : Json := placedNode "ImportDeclaration" 0 [("source", besideSource)]

/-- A program that imports the library beside its directory. -/
def besideProgram : Json := placedNode "Program" 0 [("body", .arr [besideImport])]

theorem preorder_besideProgram :
    DialectName.babel.dialect.preorder besideProgram
      = [besideProgram, besideImport, besideSource] := by
  have hprogram : DialectName.babel.dialect.children besideProgram = [besideImport] :=
    List.perm_singleton.1 (Json.inOrder_perm babel.offset? [besideImport])
  have himport : DialectName.babel.dialect.children besideImport = [besideSource] :=
    List.perm_singleton.1 (Json.inOrder_perm babel.offset? [besideSource])
  have hsource : DialectName.babel.dialect.children besideSource = [] :=
    List.perm_nil.1 (Json.inOrder_perm babel.offset? [])
  rw [Dialect.preorder_eq, hprogram, List.flatMap_singleton, Dialect.preorder_eq, himport,
    List.flatMap_singleton, Dialect.preorder_eq, hsource, List.flatMap_nil]

/-- The session after the survey of that program. -/
def besideSession : Session where
  files := FileSystem.besideFiles
  links := [{ specifiers := [Link.fileTag], source := .ofString "../lib" }]

/-- The session is reached by a survey, from an empty one. -/
theorem reaches_besideSession : Reaches FileSystem.besideFiles besideSession := by
  have hroot : DialectName.babel.dialect.root (.json besideProgram) = .ok besideProgram := rfl
  have hsurvey : (DialectName.babel.survey .null (.json besideProgram)).outcome
      = .ok besideSession.links := by
    rw [DialectName.survey, DialectName.babel.dialect.survey_eq .null hroot,
      preorder_besideProgram]
    rfl
  have hname : DialectName.ofJson (.ofString "babel") = .ok .babel := rfl
  have hattempt : (attempt { files := FileSystem.besideFiles }
      (.survey (.ofString "babel") .null (.json besideProgram))).outcome
      = .ok (besideSession, .done) := by
    rw [attempt, hname, Logged.outcome_bind]
    show (DialectName.babel.survey .null (.json besideProgram) >>= _).outcome = _
    rw [Logged.outcome_bind, hsurvey]
    rfl
  rw [← (perform_of_ok hattempt).1]
  exact .single (.perform (.survey _ _ _))

theorem isConsistent_of_run_besideSession :
    Reaches FileSystem.besideFiles besideSession
      ∧ (besideSession.perform (.normalize (.ofString "app.js") (.ofString "src"))).1.links
        = [{ specifiers := [Link.fileTag], source := .ofString "../lib.js",
             origin := some .internal }]
      ∧ ∀ link ∈ ((besideSession.perform
          (.normalize (.ofString "app.js") (.ofString "src"))).1.perform .leaveInternal).1.links,
        link.source.isRelativeSource = .ok false :=
  ⟨reaches_besideSession, by rfl,
    ((isConsistent_of_run reaches_besideSession).2.2 _ _ .done rfl).2⟩

end ModuleLinks.Session
