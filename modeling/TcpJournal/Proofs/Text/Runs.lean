import Mathlib.Data.List.Basic
import TcpJournal.Text

/-!
# Where a run ends

A scanner takes as many elements of a class as there are.  It takes exactly those that were
written if what follows does not go on with the class.
-/

namespace TcpJournal

/-- What follows does not go on with a class. -/
def Stops {α : Type} (p : α → Bool) (rest : List α) : Prop :=
  ∀ a ∈ rest.head?, p a = false

section

variable {α : Type} {p : α → Bool}

theorem stops_cons {a : α} {rest : List α} : Stops p (a :: rest) ↔ p a = false := by
  simp [Stops]

theorem Stops.takeWhile {rest : List α} (h : Stops p rest) : rest.takeWhile p = [] := by
  cases rest with
  | nil => rfl
  | cons a rest => rw [List.takeWhile_cons_of_neg (by simp [stops_cons.mp h])]

/-- A run is taken up to where it stops. -/
theorem takeWhile_append {run rest : List α} (hrun : ∀ a ∈ run, p a = true) (h : Stops p rest) :
    (run ++ rest).takeWhile p = run := by
  rw [List.takeWhile_append_of_pos hrun, h.takeWhile, List.append_nil]

end

namespace Text

theorem isWhitespace_of_isDigit {c : Char} (h : isDigit c = true) : isWhitespace c = false := by
  have hdigit : 48 ≤ c.toNat ∧ c.toNat ≤ 57 := by
    simpa [isDigit, Char.le_def, UInt32.le_iff_toNat_le] using h
  simp only [isWhitespace, Bool.or_eq_false_iff, Bool.and_eq_false_iff, decide_eq_false_iff_not,
    beq_eq_false_iff_ne]
  omega

/-- There is no white space in front of a character that is none. -/
theorem trimStart_cons {c : Char} (h : isWhitespace c = false) (rest : List Char) :
    trimStart (c :: rest) = c :: rest := by
  rw [trimStart, List.dropWhile_cons_of_neg (by simp [h])]

end Text

end TcpJournal
