/-
Totals: the sum of a measure over a list.

Termination of the walk over a tree and the length of a name in bytes both rest
on such a sum.

Main statements: the total of two lists in a row is the sum of their totals,
leaving members out never makes a total larger, and the order of a list does
not matter for its total.
-/

set_option autoImplicit false

namespace ModuleLinks

variable {α : Type}

/-- **The total** of a measure over a list. -/
def total (measure : α → Nat) : List α → Nat
  | [] => 0
  | a :: rest => measure a + total measure rest

@[simp] theorem total_nil (measure : α → Nat) : total measure [] = 0 := rfl

@[simp] theorem total_cons (measure : α → Nat) (a : α) (rest : List α) :
    total measure (a :: rest) = measure a + total measure rest := rfl

@[simp] theorem total_append (measure : α → Nat) (as bs : List α) :
    total measure (as ++ bs) = total measure as + total measure bs := by
  induction as with
  | nil => simp
  | cons a as ih => simp only [List.cons_append, total_cons, ih]; omega

theorem total_filter_le (measure : α → Nat) (keep : α → Bool) (as : List α) :
    total measure (as.filter keep) ≤ total measure as := by
  induction as with
  | nil => simp
  | cons a as ih =>
    rw [List.filter_cons]
    split
    · simp only [total_cons]; omega
    · simp only [total_cons]; omega

/-- Permuting a list keeps its total. -/
theorem total_perm (measure : α → Nat) {as bs : List α} (h : as.Perm bs) :
    total measure as = total measure bs := by
  induction h with
  | nil => rfl
  | cons a _ ih => simp only [total_cons, ih]
  | swap a b rest => simp only [total_cons]; omega
  | trans _ _ ih₁ ih₂ => exact ih₁.trans ih₂

end ModuleLinks
