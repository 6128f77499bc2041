/-!
# Machine numbers

Counts, versions and priorities are kept in 64 bits with sign, sizes in 64 bits without, periods in 32 and
ports in 16. A number that is read has to have its place there; a number that is computed is brought back
into its place (`Machine.wrap`), which is what adding past the end does.
-/

namespace Foreman.Machine

/-- The first number beyond 16 bits without sign. -/
def limit16 : Nat := 0x10000

/-- The first number beyond 32 bits without sign. -/
def limit32 : Nat := 0x100000000

/-- The first number beyond 64 bits without sign. -/
def limit64 : Nat := 0x10000000000000000

/-- The least number of 64 bits with sign. -/
def least : Int := -0x8000000000000000

/-- The greatest number of 64 bits with sign. -/
def greatest : Int := 0x7FFFFFFFFFFFFFFF

/-- Whether an integer has its place in 64 bits with sign. -/
def isSigned (n : Int) : Bool :=
  least ≤ n && n ≤ greatest

/-- Brings an integer into 64 bits with sign. -/
def wrap (n : Int) : Int :=
  n.bmod limit64

theorem isSigned_iff {n : Int} : isSigned n = true ↔ least ≤ n ∧ n ≤ greatest := by
  simp only [isSigned, Bool.and_eq_true, decide_eq_true_eq]

/-- Whatever is brought into its place has its place there. -/
theorem isSigned_wrap (n : Int) : isSigned (wrap n) = true := by
  rw [isSigned_iff, wrap, least, greatest, limit64, Int.bmod_def]
  split <;> omega

/-- What has its place stays as it is. -/
theorem wrap_of_isSigned {n : Int} (h : isSigned n = true) : wrap n = n := by
  rw [isSigned_iff, least, greatest] at h
  rw [wrap, limit64, Int.bmod_def]
  split <;> omega

/-- What has its place below the greatest number is raised without passing the end. -/
theorem wrap_add_one_of_isSigned {n : Int} (hsigned : isSigned n = true) (h : n < greatest) :
    wrap (n + 1) = n + 1 := by
  obtain ⟨hleast, -⟩ := isSigned_iff.1 hsigned
  exact wrap_of_isSigned (isSigned_iff.2 ⟨by omega, h⟩)

/-- A count that is below the greatest number is raised without passing the end. -/
theorem wrap_add_one {n : Int} (hnonneg : 0 ≤ n) (h : n < greatest) : wrap (n + 1) = n + 1 := by
  refine wrap_add_one_of_isSigned (isSigned_iff.2 ⟨?_, Int.le_of_lt h⟩) h
  rw [least]
  omega

end Foreman.Machine
