/-!
# Scanning text

Readers take characters from the front of a text and answer the rest.  The
white space that may surround numbers and lines is that of the Unicode
property `White_Space`.
-/

namespace TcpJournal

namespace Text

/-- A character of the Unicode property `White_Space`. -/
def isWhitespace (c : Char) : Bool :=
  let n := c.toNat
  (0x09 ≤ n && n ≤ 0x0D) || n == 0x20 || n == 0x85 || n == 0xA0 || n == 0x1680 ||
    (0x2000 ≤ n && n ≤ 0x200A) || n == 0x2028 || n == 0x2029 || n == 0x202F ||
    n == 0x205F || n == 0x3000

/-- A text without the white space at its start. -/
def trimStart (text : List Char) : List Char :=
  text.dropWhile isWhitespace

/-- A text without the white space at its end. -/
def trimEnd (text : List Char) : List Char :=
  (text.reverse.dropWhile isWhitespace).reverse

/-- A text without the white space at both ends. -/
def trim (text : List Char) : List Char :=
  trimEnd (trimStart text)

/-- An ASCII letter or digit. -/
def isAlphanumeric (c : Char) : Bool :=
  ('a' ≤ c && c ≤ 'z') || ('A' ≤ c && c ≤ 'Z') || ('0' ≤ c && c ≤ '9')

/-- An ASCII decimal digit. -/
def isDigit (c : Char) : Bool :=
  '0' ≤ c && c ≤ '9'

/-- The value of an ASCII hexadecimal digit. -/
def hexValue? (c : Char) : Option Nat :=
  if '0' ≤ c && c ≤ '9' then some (c.toNat - '0'.toNat)
  else if 'a' ≤ c && c ≤ 'f' then some (c.toNat - 'a'.toNat + 10)
  else if 'A' ≤ c && c ≤ 'F' then some (c.toNat - 'A'.toNat + 10)
  else none

/-- The text after a character that has to come first. -/
def expect? (c : Char) : List Char → Option (List Char)
  | [] => none
  | d :: rest => if c = d then some rest else none

/-- The text before the first `stop` and the text after it, if there is one. -/
def splitAt? (stop : Char) : List Char → Option (List Char × List Char)
  | [] => none
  | c :: rest =>
    if c = stop then some ([], rest)
    else (splitAt? stop rest).map fun (before, after) => (c :: before, after)

theorem expect?_eq_some_iff {c : Char} {text rest : List Char} :
    expect? c text = some rest ↔ text = c :: rest := by
  cases text with
  | nil => simp [expect?]
  | cons d tail => by_cases h : c = d <;> simp [expect?, h, eq_comm]

theorem expect?_eq_none_iff {c : Char} {text : List Char} :
    expect? c text = none ↔ text.head? ≠ some c := by
  cases text with
  | nil => simp [expect?]
  | cons d tail => by_cases h : c = d <;> simp [expect?, h, eq_comm]

/-- A text is split at the first `stop`. -/
theorem splitAt?_eq_some_iff {stop : Char} {text before after : List Char} :
    splitAt? stop text = some (before, after) ↔
      stop ∉ before ∧ text = before ++ stop :: after := by
  induction text generalizing before with
  | nil => simp [splitAt?]
  | cons c rest ih =>
    rw [splitAt?]
    constructor
    · intro h
      split at h
      · next hc =>
        cases h
        simp [hc]
      · next hc =>
        obtain ⟨⟨b, a⟩, hb, he⟩ := Option.map_eq_some_iff.1 h
        cases he
        obtain ⟨hmem, rfl⟩ := ih.1 hb
        exact ⟨by simp [Ne.symm hc, hmem], rfl⟩
    · rintro ⟨hmem, htext⟩
      cases before with
      | nil =>
        cases htext
        rw [if_pos rfl]
      | cons d before =>
        cases htext
        rw [List.mem_cons, not_or] at hmem
        rw [if_neg (Ne.symm hmem.1), ih.2 ⟨hmem.2, rfl⟩]
        rfl

theorem splitAt?_eq_none_iff {stop : Char} {text : List Char} :
    splitAt? stop text = none ↔ stop ∉ text := by
  induction text with
  | nil => simp [splitAt?]
  | cons c rest ih =>
    rw [splitAt?]
    by_cases hc : c = stop
    · simp [hc]
    · simp [hc, ih, Ne.symm hc]

end Text

end TcpJournal
