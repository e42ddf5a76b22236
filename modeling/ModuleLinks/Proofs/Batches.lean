/-
Normalization in batches.

The links of a session may come in over several steps, and they may be normalized in between, as
often as one likes. What counts is the last normalization: it leaves the session, and the steps
have logged, what it would have done alone. For a link that was normalized is in its final form,
and in that form it is left alone, whatever the module, the root and the files around it are by
then. So normalizing some links twice is normalizing them once, and their warnings come with the
first time.

Since a normalization that fails ends a run, the runs agree in their failures as well.

Main statement: `normalize_in_batches`.
-/
import ModuleLinks.Proofs.NormalForms
import ModuleLinks.Proofs.SessionConsistency

set_option autoImplicit false

namespace ModuleLinks

/-! ## Final forms -/

namespace Link

variable {fs : FileSystem} {importer root : Json} {links results : List Link}

/-- What comes out of normalization is settled, so another one leaves it alone. -/
theorem isSettled_of_normalizeAll
    (h : (normalizeAll fs importer root links).outcome = .ok results) :
    ∀ result ∈ results, result.isSettled = true := by
  rw [normalizeAll, Logged.outcome_mapM, Outcome.mapM_eq_ok] at h
  exact Outcome.forall_mem_of_forall₂ h fun link _ result hnormal =>
    isSettled_of_normalize hnormal

/-- **Links in their final form are left alone**, and nothing is logged. -/
theorem normalizeAll_of_isSettled (fs : FileSystem) (importer root : Json)
    (h : ∀ link ∈ links, link.isSettled = true) :
    normalizeAll fs importer root links = pure links := by
  have hsame : ∀ link ∈ links, normalize fs importer root link = pure link := by
    intro link hlink
    rw [normalize, if_pos (h link hlink)]
  rw [normalizeAll, Logged.mapM_congr hsame, List.mapM_pure, List.map_id']

/-- Normalizing two lists one after the other is normalizing them together. -/
theorem normalizeAll_append (fs : FileSystem) (importer root : Json) (first second : List Link) :
    normalizeAll fs importer root (first ++ second) = do
      let first ← normalizeAll fs importer root first
      let second ← normalizeAll fs importer root second
      return first ++ second := by
  rw [normalizeAll, List.mapM_append]
  rfl

/-- **Normalizing the first links beforehand makes no difference.** -/
theorem normalizeAll_normalizeAll (fs : FileSystem) (importer root : Json)
    (first second : List Link) :
    (normalizeAll fs importer root first >>= fun normal =>
        normalizeAll fs importer root (normal ++ second))
      = normalizeAll fs importer root (first ++ second) := by
  rw [normalizeAll_append]
  refine Logged.bind_congr_of_ok fun normal hnormal => ?_
  rw [normalizeAll_append, normalizeAll_of_isSettled fs importer root
    (isSettled_of_normalizeAll hnormal), pure_bind]

end Link

/-! ## Runs -/

namespace Session

variable {s t : Session} {file root : Json} {schedule : List Step}

/-- **Steps one after the other**, up to the first that fails. -/
def runAll (s : Session) (steps : List Step) : Logged Session :=
  steps.foldlM (fun s step => Prod.fst <$> s.attempt step) s

/-- **Links are appended or normalized**, always for the same module of the same project. -/
inductive IsBatched (file root : Json) : Step → Prop
  | append (links : List Link) : IsBatched file root (.append links)
  | normalize : IsBatched file root (.normalize file root)

/-- The step appends links. -/
def Step.isAppend : Step → Bool
  | .append _ => true
  | _ => false

/-- The links that a step appends. -/
def Step.appended : Step → List Link
  | .append links => links
  | _ => []

theorem runAll_cons (s : Session) (step : Step) (rest : List Step) :
    s.runAll (step :: rest) = s.attempt step >>= fun after => after.1.runAll rest := by
  rw [runAll, List.foldlM_cons, map_eq_pure_bind, bind_assoc]
  simp only [pure_bind]
  rfl

/-- A run that goes on after a normalization. -/
theorem runAll_normalize_cons (s : Session) (file root : Json) (rest : List Step) :
    s.runAll (.normalize file root :: rest)
      = Link.normalizeAll s.files file root s.links >>= fun links =>
          { s with links }.runAll rest := by
  rw [runAll_cons, attempt, bind_assoc]
  simp only [pure_bind]

/-- **A run of batches that ends with a normalization** is one normalization of all links. The
induction is on the steps before the last: what a normalization among them does is done again, with
the links that are still to come, and that makes no difference. -/
theorem runAll_batched (hschedule : ∀ step ∈ schedule, IsBatched file root step) (s : Session) :
    s.runAll (schedule ++ [.normalize file root])
      = Link.normalizeAll s.files file root (s.links ++ schedule.flatMap Step.appended) >>=
          fun links => pure { s with links } := by
  induction schedule generalizing s with
  | nil =>
    rw [List.nil_append, runAll_normalize_cons, List.flatMap_nil, List.append_nil]
    rfl
  | cons step rest ih =>
    rw [List.forall_mem_cons] at hschedule
    rw [List.cons_append, List.flatMap_cons]
    cases hschedule.1 with
    | append links =>
      rw [runAll_cons, attempt, pure_bind, ih hschedule.2, List.append_assoc]
      rfl
    -- The links so far are normalized already when the last normalization comes to them.
    | normalize =>
      rw [runAll_normalize_cons, ← Link.normalizeAll_normalizeAll, bind_assoc]
      exact congrArg _ (funext fun links => ih hschedule.2 { s with links })

/-- The steps that append nothing can be dropped before counting what is appended. -/
theorem flatMap_appended_filter (schedule : List Step) :
    (schedule.filter Step.isAppend).flatMap Step.appended = schedule.flatMap Step.appended := by
  induction schedule with
  | nil => rfl
  | cons step rest ih =>
    cases step with
    | append links =>
      rw [List.filter_cons_of_pos rfl, List.flatMap_cons, List.flatMap_cons, ih]
    | _ => exact ih

/-- **Normalization in batches.** Normalizing between the steps that append links changes neither
the session after a last normalization nor the log of the run as a whole, and a run fails with it
exactly if it fails without, in the same way. Once links were normalized, normalizing them again
changes nothing and logs nothing, in whatever module of whatever project and with whatever files. -/
theorem normalize_in_batches (s : Session) (file root : Json) :
    (∀ schedule : List Step, (∀ step ∈ schedule, IsBatched file root step) →
      s.runAll (schedule ++ [.normalize file root])
        = s.runAll (schedule.filter Step.isAppend ++ [.normalize file root]))
      ∧ ∀ t answer, (s.attempt (.normalize file root)).outcome = .ok (t, answer) →
        ∀ (files : FileSystem) (otherFile otherRoot : Json),
          { t with files }.attempt (.normalize otherFile otherRoot)
            = ⟨[], .ok ({ t with files }, .done)⟩ := by
  constructor
  · intro schedule hschedule
    -- Without the normalizations between them the steps are a schedule as well.
    have happends : ∀ step ∈ schedule.filter Step.isAppend, IsBatched file root step :=
      fun step hstep => hschedule step (List.mem_filter.1 hstep).1
    rw [runAll_batched hschedule, runAll_batched happends, flatMap_appended_filter]
  · intro t answer h files otherFile otherRoot
    obtain ⟨links, hlinks, rfl⟩ := attempt_normalize h
    rw [attempt, Link.normalizeAll_of_isSettled files otherFile otherRoot
      (Link.isSettled_of_normalizeAll hlinks)]
    rfl

/-- Links to nothing come in twice, and links are normalized after each time. -/
def lostBatches : List Step :=
  [.append [{ specifiers := [Link.fileTag], source := .ofString "./gone" }],
    .normalize (.ofString "app.js") (.ofString "src"),
    .append [{ specifiers := [Link.fileTag], source := .ofString "./lost" }]]

/-- Both normalizations are for the same place. -/
theorem isBatched_lostBatches :
    ∀ step ∈ lostBatches, IsBatched (.ofString "app.js") (.ofString "src") step := by
  simp only [lostBatches, List.forall_mem_cons]
  exact ⟨.append _, .normalize, .append _, nofun⟩

theorem normalize_in_batches_besideSession :
    (∀ step ∈ lostBatches, IsBatched (.ofString "app.js") (.ofString "src") step)
      ∧ besideSession.runAll
          (lostBatches ++ [.normalize (.ofString "app.js") (.ofString "src")])
        = besideSession.runAll (lostBatches.filter Step.isAppend
          ++ [.normalize (.ofString "app.js") (.ofString "src")])
      ∧ (besideSession.runAll
          (lostBatches ++ [.normalize (.ofString "app.js") (.ofString "src")])).log
        = [⟨.warning, Text.ofString
              "Could not resolve './gone' imported from 'app.js'; keeping './gone'"⟩,
            ⟨.warning, Text.ofString
              "Could not resolve './lost' imported from 'app.js'; keeping './lost'"⟩]
      ∧ ∃ t answer, (besideSession.attempt
            (.normalize (.ofString "app.js") (.ofString "src"))).outcome = .ok (t, answer)
          ∧ { t with files := FileSystem.bare [] }.attempt (.normalize (.ofString "x.js") .null)
            = ⟨[], .ok ({ t with files := FileSystem.bare [] }, .done)⟩ := by
  obtain ⟨hbatches, hagain⟩ :=
    normalize_in_batches besideSession (.ofString "app.js") (.ofString "src")
  exact ⟨isBatched_lostBatches, hbatches lostBatches isBatched_lostBatches, by decide +kernel,
    _, _, rfl, hagain _ _ rfl _ _ _⟩

end Session

end ModuleLinks
