/-
Computations that keep a log.

A logged computation ends with a value or with a failure, and it has a log in
both cases: what was logged before a failure is not lost. Sequencing puts the
log of the second computation behind that of the first, and does not run the
second after a failure.

Main statement: sequencing is associative and `pure` is neutral, so a log is
the concatenation of the logs of the steps however the steps are grouped.
-/
import ModuleLinks.Failure

set_option autoImplicit false

namespace ModuleLinks

/-- **How much a log record matters.** -/
inductive Level where
  /-- Of interest when following a run. -/
  | debug
  /-- Something was skipped or guessed. -/
  | warning
deriving DecidableEq

/-- **A log record.** -/
structure LogRecord where
  /-- How much it matters. -/
  level : Level
  /-- What it says. -/
  message : Text
deriving DecidableEq

/-- **A computation with a log.** -/
structure Logged (α : Type) where
  /-- What was logged, in order. -/
  log : List LogRecord
  /-- How the computation ended. -/
  outcome : Except Failure α

namespace Logged

variable {α β γ : Type}

/-- The first computation, then the second one on its value. -/
def andThen (x : Logged α) (f : α → Logged β) : Logged β :=
  match x.outcome with
  | .ok a => ⟨x.log ++ (f a).log, (f a).outcome⟩
  | .error e => ⟨x.log, .error e⟩

instance : Monad Logged where
  pure a := ⟨[], .ok a⟩
  bind := andThen

/-- A computation that logs nothing. -/
def ofExcept (outcome : Except Failure α) : Logged α := ⟨[], outcome⟩

instance : MonadLift (Except Failure) Logged := ⟨ofExcept⟩

/-- Logs one record. -/
def record (level : Level) (message : Text) : Logged Unit := ⟨[⟨level, message⟩], .ok ()⟩

/-- A value alone adds nothing in front, and nothing behind. -/
theorem pure_andThen (a : α) (f : α → Logged β) : andThen ⟨[], .ok a⟩ f = f a := rfl

theorem andThen_pure (x : Logged α) : (x.andThen fun a => ⟨[], .ok a⟩) = x := by
  obtain ⟨log, outcome⟩ := x
  cases outcome <;> simp [andThen]

/-- It does not matter how three parts are grouped: the records come in the same order. -/
theorem andThen_assoc (x : Logged α) (f : α → Logged β) (g : β → Logged γ) :
    (x.andThen f).andThen g = x.andThen fun a => (f a).andThen g := by
  obtain ⟨log, outcome⟩ := x
  cases outcome with
  | error e => rfl
  | ok a =>
    cases h : (f a).outcome <;> simp [andThen, h]

instance : LawfulMonad Logged :=
  LawfulMonad.mk' Logged andThen_pure pure_andThen andThen_assoc

end Logged

end ModuleLinks
