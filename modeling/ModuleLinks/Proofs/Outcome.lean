/-
How a computation ends that can fail.

A sequence of computations succeeds when all of them do, and fails with the
failure of the first that does not. The lemmas say this for each way of putting
computations together, so that a proof about a sequence begins with what its
parts did. A computation that keeps a log ends as it would without the log, and
what it logs is what its parts log, one behind the other.
-/
import Mathlib.Data.List.Forall2
import ModuleLinks.Logged

set_option autoImplicit false

namespace ModuleLinks

namespace Outcome

variable {ε α β : Type}

/-- Two parts have a result if the first has one and the second has one from there. -/
theorem bind_eq_ok {x : Except ε α} {f : α → Except ε β} {b : β} :
    (x >>= f) = .ok b ↔ ∃ a, x = .ok a ∧ f a = .ok b := by
  cases x with
  | ok a => simp [bind, Except.bind]
  | error e => simp [bind, Except.bind]

/-- They fail if the first fails, or the second from where the first got. -/
theorem bind_eq_error {x : Except ε α} {f : α → Except ε β} {e : ε} :
    (x >>= f) = .error e ↔ x = .error e ∨ ∃ a, x = .ok a ∧ f a = .error e := by
  cases x with
  | ok a => simp [bind, Except.bind]
  | error e => simp [bind, Except.bind]

theorem map_eq_ok {x : Except ε α} {f : α → β} {b : β} :
    x.map f = .ok b ↔ ∃ a, x = .ok a ∧ f a = b := by
  cases x with
  | ok a => simp [Except.map]
  | error e => simp [Except.map]

/-- A failure is the same whatever would have been made of a result. -/
theorem map_eq_error {x : Except ε α} {f : α → β} {e : ε} :
    x.map f = .error e ↔ x = .error e := by
  cases x with
  | ok a => simp [Except.map]
  | error e => simp [Except.map]

/-- A loop succeeds when it does so on every member. -/
theorem mapM_eq_ok {f : α → Except ε β} {as : List α} {bs : List β} :
    as.mapM f = .ok bs ↔ List.Forall₂ (fun a b => f a = .ok b) as bs := by
  induction as generalizing bs with
  | nil => simp [pure, Except.pure, eq_comm]
  | cons a as ih =>
    rw [List.mapM_cons, bind_eq_ok, List.forall₂_cons_left_iff]
    simp only [bind_eq_ok, ih, pure, Except.pure, Except.ok.injEq]
    constructor
    · rintro ⟨b, hb, rest, hrest, rfl⟩
      exact ⟨b, rest, hb, hrest, rfl⟩
    · rintro ⟨b, rest, hb, hrest, rfl⟩
      exact ⟨b, hb, rest, hrest, rfl⟩

/-- All items have results exactly if each has one. -/
theorem exists_mapM_eq_ok {f : α → Except ε β} {as : List α} :
    (∃ bs, as.mapM f = .ok bs) ↔ ∀ a ∈ as, ∃ b, f a = .ok b := by
  simp only [mapM_eq_ok]
  induction as with
  | nil => simp
  | cons a as ih =>
    simp only [List.forall₂_cons_left_iff, List.forall_mem_cons, ← ih]
    constructor
    · rintro ⟨_, b, bs, hb, hbs, rfl⟩
      exact ⟨⟨b, hb⟩, bs, hbs⟩
    · rintro ⟨⟨b, hb⟩, bs, hbs⟩
      exact ⟨b :: bs, b, bs, hb, hbs, rfl⟩

/-- What follows of each result from the member that it was made of holds of all results. -/
theorem forall_mem_of_forall₂ {R : α → β → Prop} {Q : β → Prop} {as : List α} {bs : List β}
    (h : List.Forall₂ R as bs) (hQ : ∀ a ∈ as, ∀ b, R a b → Q b) : ∀ b ∈ bs, Q b := by
  induction h with
  | nil => simp
  | @cons a b as bs hab _ ih =>
    rw [List.forall_mem_cons] at hQ ⊢
    exact ⟨hQ.1 b hab, ih hQ.2⟩

end Outcome

namespace Logged

variable {α β : Type}

/-- The log does not matter for what comes out of two parts. -/
theorem outcome_bind (x : Logged α) (f : α → Logged β) :
    (x >>= f).outcome = x.outcome >>= fun a => (f a).outcome := by
  obtain ⟨log, outcome⟩ := x
  cases outcome <;> rfl

theorem outcome_mapM (f : α → Logged β) (as : List α) :
    (as.mapM f).outcome = as.mapM fun a => (f a).outcome := by
  induction as with
  | nil => rfl
  | cons a as ih =>
    rw [List.mapM_cons, List.mapM_cons, outcome_bind]
    simp only [outcome_bind, ih]
    rfl

/-- The second computation sees the value of the first one only. -/
theorem bind_congr_of_ok {x : Logged α} {f g : α → Logged β}
    (h : ∀ a, x.outcome = .ok a → f a = g a) : x >>= f = x >>= g := by
  obtain ⟨log, outcome⟩ := x
  cases outcome with
  | error e => rfl
  | ok a =>
    show Logged.mk (log ++ (f a).log) (f a).outcome = ⟨log ++ (g a).log, (g a).outcome⟩
    rw [h a rfl]

/-- The second computation logs behind the first one, if that succeeds. -/
theorem log_bind {x : Logged α} {a : α} (h : x.outcome = .ok a) (f : α → Logged β) :
    (x >>= f).log = x.log ++ (f a).log := by
  obtain ⟨log, outcome⟩ := x
  obtain rfl : outcome = .ok a := h
  rfl

/-- A loop that succeeds logs what its body logs on each member, in order. -/
theorem log_mapM {f : α → Logged β} {as : List α} {bs : List β}
    (h : (as.mapM f).outcome = .ok bs) : (as.mapM f).log = as.flatMap fun a => (f a).log := by
  induction as generalizing bs with
  | nil => rfl
  | cons a as ih =>
    rw [List.mapM_cons, outcome_bind] at h
    obtain ⟨b, hb, h⟩ := Outcome.bind_eq_ok.1 h
    rw [outcome_bind] at h
    obtain ⟨rest, hrest, -⟩ := Outcome.bind_eq_ok.1 h
    rw [List.mapM_cons, log_bind hb, log_bind hrest, ih hrest, List.flatMap_cons]
    exact congrArg ((f a).log ++ ·) (List.append_nil _)

/-- A loop sees its body on its members only. -/
theorem mapM_congr {f g : α → Logged β} {as : List α} (h : ∀ a ∈ as, f a = g a) :
    as.mapM f = as.mapM g := by
  induction as with
  | nil => rfl
  | cons a as ih =>
    rw [List.forall_mem_cons] at h
    rw [List.mapM_cons, List.mapM_cons, h.1, ih h.2]

end Logged

end ModuleLinks
