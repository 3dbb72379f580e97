import TcpJournal.Decimal
import TcpJournal.Printable

/-!
# Newlines in text

A newline is the encoding of one character only, the filter neither takes one
away nor adds one, and digits are written without any.  So the newlines of a
record can be counted before it is encoded and filtered.
-/

namespace TcpJournal

/-- What stands neither in the parts nor between them is not in the whole. -/
theorem notMem_intercalate {α : Type} {x : α} {separator : List α} {parts : List (List α)}
    (hseparator : x ∉ separator) (hparts : ∀ part ∈ parts, x ∉ part) :
    x ∉ separator.intercalate parts := by
  induction parts with
  | nil => simp
  | cons part rest ih =>
    obtain ⟨hpart, hrest⟩ := List.forall_mem_cons.mp hparts
    cases rest with
    | nil => rwa [List.intercalate_singleton]
    | cons next later =>
      rw [List.intercalate_cons_cons, List.mem_append, List.mem_append]
      rintro ((h | h) | h)
      · exact hpart h
      · exact hseparator h
      · exact ih hrest h

namespace Bytes

/-- An ASCII byte stands only in the encoding of its own character. -/
theorem mem_utf8EncodeChar_iff {b : UInt8} (hb : b.toNat < 0x80) {c : Char} :
    b ∈ String.utf8EncodeChar c ↔ c.toNat = b.toNat := by
  fun_cases String.utf8EncodeChar c with
  | case1 v hv =>
    rw [List.mem_singleton, ← UInt8.toNat_inj, UInt8.toNat_ofNat']
    change _ ↔ v = b.toNat
    omega
  | case2 v hv | case3 v hv | case4 v hv =>
    change _ ↔ v = b.toNat
    simp only [List.mem_cons, List.not_mem_nil, or_false, ← UInt8.toNat_inj, UInt8.toNat_ofNat']
    omega

/-- A text has a newline exactly if its encoding has one. -/
theorem newline_mem_ofText_iff {text : List Char} :
    newline ∈ ofText text ↔ '\n' ∈ text := by
  have hchar : ∀ c : Char, newline ∈ String.utf8EncodeChar c ↔ c = '\n' := fun c => by
    rw [mem_utf8EncodeChar_iff (by decide), ← Char.toNat_inj]
    rfl
  simp [ofText, hchar]

/-- Numbers are written on one line. -/
theorem newline_notMem_digits (n : Nat) : newline ∉ ofText (Decimal.digits n) := by
  rw [newline_mem_ofText_iff]
  intro h
  exact absurd (Decimal.isDigit_of_mem_digits h) (by decide)

/-- The filter leaves each newline as it is and makes none. -/
theorem printable_eq_newline_iff {b : UInt8} : printable b = newline ↔ b = newline := by
  unfold printable
  constructor
  · intro h
    split at h
    · exact h
    · exact absurd h (by decide)
  · rintro rfl
    rfl

theorem count_newline_sanitized (bytes : Bytes) :
    (sanitized bytes).count newline = bytes.count newline := by
  rw [sanitized, List.count_eq_countP, List.count_eq_countP, List.countP_map]
  refine List.countP_congr fun b _ => ?_
  simp [printable_eq_newline_iff]

/-- Bytes that are counted part by part are counted in the whole. -/
theorem count_flatMap_add {α : Type} {parts : List α} {f g h : α → Bytes} {b : UInt8}
    (hcount : ∀ part ∈ parts, (f part).count b = (g part).count b + (h part).count b) :
    (parts.flatMap f).count b = (parts.flatMap g).count b + (parts.flatMap h).count b := by
  induction parts with
  | nil => rfl
  | cons part rest ih =>
    obtain ⟨hpart, hrest⟩ := List.forall_mem_cons.mp hcount
    simp only [List.flatMap_cons, List.count_append, hpart, ih hrest]
    omega

end Bytes

end TcpJournal
