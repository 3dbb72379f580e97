import Mathlib.Tactic.SplitIfs
import TcpJournal.Json.Content
import TcpJournal.Proofs.Bytes.Encoding
import TcpJournal.Proofs.Bytes.Newlines

/-!
# Strings of JSON documents read back

In a JSON string the quote, the backslash and the control characters are escaped, by a
letter of their own or by their code, and everything else stands for itself.  The string
ends where it was closed (`JsonValue.stringBody?_escaped`), and its text is the one that was
written (`JsonValue.rawText?_escaped`).
-/

namespace TcpJournal

namespace JsonValue

/-- The character that stands after a backslash for a character with a short escape. -/
def shortEscape? (c : Char) : Option Char :=
  if c = '"' then some '"'
  else if c = '\\' then some '\\'
  else if c = '\x08' then some 'b'
  else if c = '\x0C' then some 'f'
  else if c = '\n' then some 'n'
  else if c = '\r' then some 'r'
  else if c = '\t' then some 't'
  else none

/-- A character as it stands in a string. -/
def escapedChar (c : Char) : List Char :=
  match shortEscape? c with
  | some letter => ['\\', letter]
  | none =>
    if c.toNat < 0x20 then
      "\\u00".toList ++ [Nat.digitChar (c.toNat / 16), Nat.digitChar (c.toNat % 16)]
    else [c]

/-- A text as it stands in a string. -/
def escaped (text : List Char) : List Char :=
  text.flatMap escapedChar

/-- A text as a string. -/
def quoted (text : List Char) : List Char :=
  '"' :: escaped text ++ ['"']

/-! ## Steps of the two readers -/

/-- A byte that stands for itself in a string. -/
structure IsPlain (b : UInt8) : Prop where
  notControl : ¬b < 0x20
  notQuote : b ≠ 0x22
  notBackslash : b ≠ 0x5C

theorem stringBody?_plain {b : UInt8} (h : IsPlain b) (rest : Bytes) :
    stringBody? (b :: rest) = (stringBody? rest).map fun (raw, after) => (b :: raw, after) := by
  rw [stringBody?.eq_def]
  split
  · contradiction
  · next heq => exact absurd (List.cons.inj heq).1 h.notQuote
  · next heq => exact absurd (List.cons.inj heq).1 h.notBackslash
  · next heq => exact absurd (List.cons.inj heq).1 h.notBackslash
  · next heq =>
    cases heq
    simp [h.notControl, h.notBackslash]

theorem stringBody?_letter {letter : UInt8} (h : isSimpleEscape letter = true) (rest : Bytes) :
    stringBody? (0x5C :: letter :: rest) =
      (stringBody? rest).map fun (raw, after) => (0x5C :: letter :: raw, after) := by
  have hu : letter ≠ 0x75 := by rintro rfl; exact absurd h (by decide)
  rw [stringBody?.eq_def]
  split
  · contradiction
  · next heq => exact absurd (List.cons.inj heq).1 (by decide)
  · next heq => exact absurd (List.cons.inj (List.cons.inj heq).2).1 hu
  · next heq =>
    cases heq
    rw [if_pos h]
  · next hnot heq =>
    cases heq
    exact (hnot _ _ rfl rfl).elim

theorem stringBody?_code {a b c d : UInt8} (h : (hexValue4? a b c d).isSome) (rest : Bytes) :
    stringBody? (0x5C :: 0x75 :: a :: b :: c :: d :: rest) =
      (stringBody? rest).map fun (raw, after) =>
        (0x5C :: 0x75 :: a :: b :: c :: d :: raw, after) := by
  rw [stringBody?, if_pos h]

theorem unescaped?_plain {b : UInt8} (h : b ≠ 0x5C) (rest : Bytes) :
    unescaped? (b :: rest) = (unescaped? rest).map (b :: ·) := by
  rw [unescaped?.eq_def]
  split
  · contradiction
  · next heq => exact absurd (List.cons.inj heq).1 h
  · next heq => exact absurd (List.cons.inj heq).1 h
  · next heq => exact absurd (List.cons.inj heq).1 h
  · next heq => cases heq; rfl

theorem unescaped?_letter {letter : UInt8} (h : letter ≠ 0x75) (rest : Bytes) :
    unescaped? (0x5C :: letter :: rest) = (unescaped? rest).map (escapedByte letter :: ·) := by
  rw [unescaped?.eq_def]
  split
  · contradiction
  · next heq => exact absurd (List.cons.inj (List.cons.inj heq).2).1 h
  · next heq => exact absurd (List.cons.inj (List.cons.inj heq).2).1 h
  · next heq => cases heq; rfl
  · next hnot heq => cases heq; exact (hnot _ _ rfl rfl).elim

theorem unescaped?_noCode {a b c d : UInt8} (h : hexValue4? a b c d = none) (rest : Bytes) :
    unescaped? (0x5C :: 0x75 :: a :: b :: c :: d :: rest) = none := by
  rw [unescaped?.eq_def]
  split
  · contradiction
  · next heq => cases heq; simp only [h]
  · next heq => cases heq; simp only [h]
  · next hnot heq => cases heq; exact (hnot _ _ _ _ _ rfl rfl).elim
  · next hnot heq => cases heq; exact (hnot _ _ rfl rfl).elim

/-- A code that is no surrogate stands for its character, also in front of another code. -/
theorem unescaped?_code {a b c d : UInt8} {n : Nat} (h : hexValue4? a b c d = some n)
    (hhigh : isHighSurrogate n = false) (hlow : isLowSurrogate n = false) (rest : Bytes) :
    unescaped? (0x5C :: 0x75 :: a :: b :: c :: d :: rest) =
      (unescaped? rest).map (String.utf8EncodeChar (Char.ofNat n) ++ ·) := by
  rw [unescaped?.eq_def]
  split
  · contradiction
  · next a' b' c' d' rest' heq =>
    cases heq
    cases hnext : hexValue4? a' b' c' d' with
    | none => simp only [h, unescaped?_noCode hnext, Option.map_none]
    | some next => simp only [h, hhigh, hlow, Bool.false_eq_true, if_false]
  · next heq =>
    cases heq
    simp only [h, hhigh, hlow, Bool.or_self, Bool.false_eq_true, if_false]
  · next hnot heq => cases heq; exact (hnot _ _ _ _ _ rfl rfl).elim
  · next hnot heq => cases heq; exact (hnot _ _ rfl rfl).elim

/-! ## Characters -/

theorem utf8EncodeChar_ascii {c : Char} (h : c.toNat < 0x80) :
    String.utf8EncodeChar c = [UInt8.ofNat c.toNat] := by
  have hsmall : c.val.toNat ≤ 0x7F := Nat.le_of_lt_succ h
  rw [String.utf8EncodeChar]
  exact if_pos hsmall

/-- Every byte of a character that needs no escape stands for itself. -/
theorem isPlain_of_mem_utf8EncodeChar {c : Char} (hcontrol : ¬c.toNat < 0x20) (hquote : c ≠ '"')
    (hbackslash : c ≠ '\\') {b : UInt8} (h : b ∈ String.utf8EncodeChar c) : IsPlain b := by
  by_cases hascii : b.toNat < 0x80
  · have hsame : c.toNat = b.toNat := (Bytes.mem_utf8EncodeChar_iff hascii).mp h
    refine ⟨?_, ?_, ?_⟩
    · rwa [UInt8.lt_iff_toNat_lt, ← hsame]
    · rintro rfl
      exact hquote (Char.toNat_inj.mp hsame)
    · rintro rfl
      exact hbackslash (Char.toNat_inj.mp hsame)
  · refine ⟨?_, ?_, ?_⟩
    · rw [UInt8.lt_iff_toNat_lt]
      exact fun hless => hascii (Nat.lt_trans hless (by decide))
    · rintro rfl
      exact hascii (by decide)
    · rintro rfl
      exact hascii (by decide)

theorem shortEscape?_eq_some {c letter : Char} (h : shortEscape? c = some letter) :
    ∃ b, String.utf8EncodeChar letter = [b] ∧ isSimpleEscape b = true ∧ b ≠ 0x75 ∧
      String.utf8EncodeChar c = [escapedByte b] := by
  unfold shortEscape? at h
  split_ifs at h with h1 h2 h3 h4 h5 h6 h7 <;> cases h <;> subst c <;>
    exact ⟨_, rfl, by decide, by decide, rfl⟩

/-- The byte of a digit. -/
def digitByte (d : Nat) : UInt8 :=
  UInt8.ofNat (Nat.digitChar d).toNat

theorem utf8EncodeChar_digitChar {d : Nat} (h : d < 16) :
    String.utf8EncodeChar (Nat.digitChar d) = [digitByte d] :=
  utf8EncodeChar_ascii ((by decide : ∀ d < 16, (Nat.digitChar d).toNat < 0x80) d h)

theorem hexValue4?_control :
    ∀ n < 0x20, hexValue4? 0x30 0x30 (digitByte (n / 16)) (digitByte (n % 16)) = some n := by
  decide

theorem isSurrogate_control :
    ∀ n < 0x20, isHighSurrogate n = false ∧ isLowSurrogate n = false := by
  decide

/-- A character as it stands in a string: a letter or a code after a backslash, or the bytes
of the character itself. -/
theorem ofText_escapedChar (c : Char) :
    (∃ letter, Bytes.ofText (escapedChar c) = [0x5C, letter] ∧ isSimpleEscape letter = true ∧
      letter ≠ 0x75 ∧ String.utf8EncodeChar c = [escapedByte letter]) ∨
    (∃ d e, Bytes.ofText (escapedChar c) = [0x5C, 0x75, 0x30, 0x30, d, e] ∧
      hexValue4? 0x30 0x30 d e = some c.toNat ∧ c.toNat < 0x20) ∨
    (Bytes.ofText (escapedChar c) = String.utf8EncodeChar c ∧
      ∀ b ∈ String.utf8EncodeChar c, IsPlain b) := by
  rw [escapedChar]
  split
  · next letter hletter =>
    obtain ⟨b, hbyte, hsimple, hu, hchar⟩ := shortEscape?_eq_some hletter
    refine .inl ⟨b, ?_, hsimple, hu, hchar⟩
    rw [Bytes.ofText_cons, Bytes.ofText_cons, hbyte]
    rfl
  · next hnone =>
    split
    · next hcontrol =>
      refine .inr (.inl ⟨_, _, ?_, hexValue4?_control _ hcontrol, hcontrol⟩)
      have hhigh := utf8EncodeChar_digitChar (d := c.toNat / 16) (by omega)
      have hlow := utf8EncodeChar_digitChar (d := c.toNat % 16) (by omega)
      rw [Bytes.ofText_append, Bytes.ofText_cons, Bytes.ofText_cons, hhigh, hlow]
      rfl
    · next hcontrol =>
      refine .inr (.inr ⟨by simp [Bytes.ofText], fun b => ?_⟩)
      refine isPlain_of_mem_utf8EncodeChar hcontrol ?_ ?_ <;> rintro rfl <;>
        exact absurd hnone (by decide)

/-! ## Whole strings -/

theorem stringBody?_plains {bytes : Bytes} (h : ∀ b ∈ bytes, IsPlain b) (rest : Bytes) :
    stringBody? (bytes ++ rest) =
      (stringBody? rest).map fun (raw, after) => (bytes ++ raw, after) := by
  induction bytes with
  | nil => simp
  | cons b bytes ih =>
    rw [List.cons_append, stringBody?_plain (h b List.mem_cons_self),
      ih fun b hb => h b (List.mem_cons_of_mem _ hb), Option.map_map]
    rfl

theorem unescaped?_plains {bytes : Bytes} (h : ∀ b ∈ bytes, IsPlain b) (rest : Bytes) :
    unescaped? (bytes ++ rest) = (unescaped? rest).map (bytes ++ ·) := by
  induction bytes with
  | nil => simp
  | cons b bytes ih =>
    rw [List.cons_append, unescaped?_plain (h b List.mem_cons_self).notBackslash,
      ih fun b hb => h b (List.mem_cons_of_mem _ hb), Option.map_map]
    rfl

theorem stringBody?_escapedChar (c : Char) (rest : Bytes) :
    stringBody? (Bytes.ofText (escapedChar c) ++ rest) =
      (stringBody? rest).map fun (raw, after) => (Bytes.ofText (escapedChar c) ++ raw, after) := by
  obtain ⟨letter, htext, hsimple, -⟩ | ⟨d, e, htext, hcode, -⟩ | ⟨htext, hplain⟩ :=
    ofText_escapedChar c
  · rw [htext]
    exact stringBody?_letter hsimple rest
  · rw [htext]
    exact stringBody?_code (Option.isSome_iff_exists.mpr ⟨_, hcode⟩) rest
  · rw [htext]
    exact stringBody?_plains hplain rest

theorem unescaped?_escapedChar (c : Char) (rest : Bytes) :
    unescaped? (Bytes.ofText (escapedChar c) ++ rest) =
      (unescaped? rest).map (String.utf8EncodeChar c ++ ·) := by
  obtain ⟨letter, htext, -, hu, hchar⟩ | ⟨d, e, htext, hcode, hcontrol⟩ | ⟨htext, hplain⟩ :=
    ofText_escapedChar c
  · rw [htext, hchar]
    exact unescaped?_letter hu rest
  · obtain ⟨hhigh, hlow⟩ := isSurrogate_control _ hcontrol
    rw [htext]
    exact (unescaped?_code hcode hhigh hlow rest).trans (by rw [Char.ofNat_toNat])
  · rw [htext]
    exact unescaped?_plains hplain rest

/-- A string ends at the quote that closes it. -/
theorem stringBody?_escaped (text : List Char) (rest : Bytes) :
    stringBody? (Bytes.ofText (escaped text) ++ 0x22 :: rest) =
      some (Bytes.ofText (escaped text), rest) := by
  induction text with
  | nil => rfl
  | cons c text ih =>
    have hcons : Bytes.ofText (escaped (c :: text)) =
        Bytes.ofText (escapedChar c) ++ Bytes.ofText (escaped text) := by
      rw [escaped, List.flatMap_cons, Bytes.ofText_append, escaped]
    rw [hcons, List.append_assoc, stringBody?_escapedChar, ih]
    rfl

theorem unescaped?_escaped (text : List Char) :
    unescaped? (Bytes.ofText (escaped text)) = some (Bytes.ofText text) := by
  induction text with
  | nil => rfl
  | cons c text ih =>
    rw [escaped, List.flatMap_cons, Bytes.ofText_append, ← escaped, unescaped?_escapedChar, ih,
      Bytes.ofText_cons]
    rfl

/-- The text of a string is the one that was written. -/
theorem rawText?_escaped (text : List Char) :
    rawText? (Bytes.ofText (escaped text)) = some text := by
  rw [rawText?, unescaped?_escaped, Option.bind_some, Bytes.toText?_ofText]

end JsonValue

end TcpJournal
