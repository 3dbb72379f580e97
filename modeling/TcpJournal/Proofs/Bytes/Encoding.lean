import TcpJournal.Bytes

/-!
# Decoding what was encoded

The encoding of a text is decoded to this text again (`Bytes.toText?_ofText`), one
character at a time: the lead byte of a form is refused by every shorter form, and
the bytes of a form give the code back from which they were made.
-/

namespace TcpJournal

namespace Bytes

theorem ofText_append (before after : List Char) :
    ofText (before ++ after) = ofText before ++ ofText after :=
  List.flatMap_append

theorem ofText_cons (c : Char) (text : List Char) :
    ofText (c :: text) = String.utf8EncodeChar c ++ ofText text :=
  List.flatMap_cons

theorem utf8EncodeChar_ne_nil (c : Char) : String.utf8EncodeChar c ≠ [] := by
  rw [← List.length_pos_iff, String.length_utf8EncodeChar]
  exact c.utf8Size_pos

theorem isTail_ofNat {low : Nat} (h : low < 0x40) : isTail (UInt8.ofNat (low + 0x80)) = true := by
  simp only [isTail, Bool.and_eq_true, decide_eq_true_eq, UInt8.le_iff_toNat_le,
    UInt8.toNat_ofNat', UInt8.reduceToNat]
  omega

theorem tailBits_ofNat {low : Nat} (h : low < 0x40) :
    tailBits (UInt8.ofNat (low + 0x80)) = low := by
  rw [tailBits, UInt8.toNat_ofNat']
  omega

theorem twoByteChar?_ofNat (lead low : Nat) (hmin : 2 ≤ lead) (hlead : lead < 0x20)
    (hlow : low < 0x40) :
    twoByteChar? (UInt8.ofNat (lead + 0xC0)) (UInt8.ofNat (low + 0x80)) =
      some (Char.ofNat (lead * 0x40 + low)) := by
  have hnat : (UInt8.ofNat (lead + 0xC0)).toNat = lead + 0xC0 := by
    rw [UInt8.toNat_ofNat']
    omega
  have hmod : (lead + 0xC0) % 0x20 = lead := by omega
  rw [twoByteChar?, isTail_ofNat hlow, tailBits_ofNat hlow, hnat, hmod, if_pos]
  simp only [Bool.and_true, Bool.and_eq_true, decide_eq_true_eq, UInt8.le_iff_toNat_le, hnat,
    UInt8.reduceToNat]
  omega

theorem twoByteChar?_eq_none {a : UInt8} (h : 0xE0 ≤ a.toNat) (b : UInt8) :
    twoByteChar? a b = none := by
  have hle : ¬a ≤ 0xDF := by
    simp only [UInt8.le_iff_toNat_le, UInt8.reduceToNat]
    omega
  simp [twoByteChar?, hle]

theorem threeByteChar?_ofNat (lead high low : Nat) (hlead : lead < 0x10) (hhigh : high < 0x40)
    (hlow : low < 0x40)
    (hcode : 0x800 ≤ lead * 0x1000 + high * 0x40 + low)
    (hvalid : (lead * 0x1000 + high * 0x40 + low).isValidChar) :
    threeByteChar? (UInt8.ofNat (lead + 0xE0)) (UInt8.ofNat (high + 0x80))
        (UInt8.ofNat (low + 0x80)) =
      some (Char.ofNat (lead * 0x1000 + high * 0x40 + low)) := by
  have hnat : (UInt8.ofNat (lead + 0xE0)).toNat = lead + 0xE0 := by
    rw [UInt8.toNat_ofNat']
    omega
  have hmod : (lead + 0xE0) % 0x10 = lead := by omega
  rw [threeByteChar?, isTail_ofNat hhigh, isTail_ofNat hlow, tailBits_ofNat hhigh,
    tailBits_ofNat hlow, hnat, hmod, if_pos]
  simp only [Bool.and_true, Bool.and_eq_true, decide_eq_true_eq, UInt8.le_iff_toNat_le, hnat,
    UInt8.reduceToNat, Bool.not_eq_true', Bool.and_eq_false_imp, decide_eq_false_iff_not]
  unfold Nat.isValidChar at hvalid
  omega

theorem threeByteChar?_eq_none {a : UInt8} (h : 0xF0 ≤ a.toNat) (b c : UInt8) :
    threeByteChar? a b c = none := by
  have hle : ¬a ≤ 0xEF := by
    simp only [UInt8.le_iff_toNat_le, UInt8.reduceToNat]
    omega
  simp [threeByteChar?, hle]

theorem fourByteChar?_ofNat (lead high middle low : Nat) (hlead : lead < 0x08)
    (hhigh : high < 0x40) (hmiddle : middle < 0x40) (hlow : low < 0x40)
    (hcode : 0x10000 ≤ lead * 0x40000 + high * 0x1000 + middle * 0x40 + low)
    (hvalid : (lead * 0x40000 + high * 0x1000 + middle * 0x40 + low).isValidChar) :
    fourByteChar? (UInt8.ofNat (lead + 0xF0)) (UInt8.ofNat (high + 0x80))
        (UInt8.ofNat (middle + 0x80)) (UInt8.ofNat (low + 0x80)) =
      some (Char.ofNat (lead * 0x40000 + high * 0x1000 + middle * 0x40 + low)) := by
  have hnat : (UInt8.ofNat (lead + 0xF0)).toNat = lead + 0xF0 := by
    rw [UInt8.toNat_ofNat']
    omega
  have hmod : (lead + 0xF0) % 0x08 = lead := by omega
  rw [fourByteChar?, isTail_ofNat hhigh, isTail_ofNat hmiddle, isTail_ofNat hlow,
    tailBits_ofNat hhigh, tailBits_ofNat hmiddle, tailBits_ofNat hlow, hnat, hmod, if_pos]
  simp only [Bool.and_true, Bool.and_eq_true, decide_eq_true_eq, UInt8.le_iff_toNat_le, hnat,
    UInt8.reduceToNat]
  unfold Nat.isValidChar at hvalid
  omega

/-- A byte above 0x7F is no character of its own. -/
theorem not_le_of_le_toNat {a : UInt8} (h : 0x80 ≤ a.toNat) : ¬a ≤ 0x7F := by
  simp only [UInt8.le_iff_toNat_le, UInt8.reduceToNat]
  omega

section Step

variable {a b c d : UInt8} {char : Char}

theorem toText?_of_le (h : a ≤ 0x7F) (rest : Bytes) :
    toText? (a :: rest) = (toText? rest).map (Char.ofNat a.toNat :: ·) := by
  rw [toText?.eq_def]
  exact if_pos h

theorem toText?_of_twoByteChar? (ha : 0x80 ≤ a.toNat) (h : twoByteChar? a b = some char)
    (rest : Bytes) : toText? (a :: b :: rest) = (toText? rest).map (char :: ·) := by
  rw [toText?.eq_def]
  simp only [if_neg (not_le_of_le_toNat ha), h]

theorem toText?_of_threeByteChar? (ha : 0xE0 ≤ a.toNat) (h : threeByteChar? a b c = some char)
    (rest : Bytes) : toText? (a :: b :: c :: rest) = (toText? rest).map (char :: ·) := by
  have hle : ¬a ≤ 0x7F := not_le_of_le_toNat (by omega)
  rw [toText?.eq_def]
  simp only [if_neg hle, twoByteChar?_eq_none ha, h]

theorem toText?_of_fourByteChar? (ha : 0xF0 ≤ a.toNat) (h : fourByteChar? a b c d = some char)
    (rest : Bytes) : toText? (a :: b :: c :: d :: rest) = (toText? rest).map (char :: ·) := by
  have hle : ¬a ≤ 0x7F := not_le_of_le_toNat (by omega)
  have htwo : twoByteChar? a b = none := twoByteChar?_eq_none (by omega) b
  rw [toText?.eq_def]
  simp only [if_neg hle, htwo, threeByteChar?_eq_none ha, h]

end Step

/-- The first character of an encoded text is read back. -/
theorem toText?_utf8EncodeChar_append (c : Char) (rest : Bytes) :
    toText? (String.utf8EncodeChar c ++ rest) = (toText? rest).map (c :: ·) := by
  have hvalid : c.toNat.isValidChar := c.valid
  have hc : Char.ofNat c.toNat = c := Char.ofNat_toNat c
  -- The four forms of an encoded character, by the size of its code.
  fun_cases String.utf8EncodeChar c with
  | case1 v hmax =>
    change Char.ofNat v = c at hc
    have hnat : (UInt8.ofNat v).toNat = v := by
      rw [UInt8.toNat_ofNat']
      omega
    have hle : UInt8.ofNat v ≤ 0x7F := by
      simp only [UInt8.le_iff_toNat_le, hnat, UInt8.reduceToNat]
      omega
    rw [List.singleton_append, toText?_of_le hle, hnat, hc]
  | case2 v hmin hmax =>
    change Char.ofNat v = c at hc
    have hlead : v / 64 % 32 = v / 64 := by omega
    have hcode : v / 64 * 0x40 + v % 64 = v := by omega
    have hread := twoByteChar?_ofNat (v / 64) (v % 64) (by omega) (by omega) (by omega)
    rw [hcode, hc] at hread
    rw [hlead]
    refine toText?_of_twoByteChar? ?_ hread rest
    rw [UInt8.toNat_ofNat']
    omega
  | case3 v _ hmin hmax =>
    change Char.ofNat v = c at hc
    have hlead : v / 4096 % 16 = v / 4096 := by omega
    have hcode : v / 4096 * 0x1000 + v / 64 % 64 * 0x40 + v % 64 = v := by omega
    have hread := threeByteChar?_ofNat (v / 4096) (v / 64 % 64) (v % 64) (by omega) (by omega)
      (by omega) (by omega) (hcode.symm ▸ hvalid)
    rw [hcode, hc] at hread
    rw [hlead]
    refine toText?_of_threeByteChar? ?_ hread rest
    rw [UInt8.toNat_ofNat']
    omega
  | case4 v _ _ hmin =>
    change Char.ofNat v = c at hc
    have hmax : v < 0x110000 := by
      have hbound : v < 0xD800 ∨ 0xDFFF < v ∧ v < 0x110000 := hvalid
      omega
    have hlead : v / 262144 % 8 = v / 262144 := by omega
    have hcode :
        v / 262144 * 0x40000 + v / 4096 % 64 * 0x1000 + v / 64 % 64 * 0x40 + v % 64 = v := by
      omega
    have hread := fourByteChar?_ofNat (v / 262144) (v / 4096 % 64) (v / 64 % 64) (v % 64)
      (by omega) (by omega) (by omega) (by omega) (by omega) (hcode.symm ▸ hvalid)
    rw [hcode, hc] at hread
    rw [hlead]
    refine toText?_of_fourByteChar? ?_ hread rest
    rw [UInt8.toNat_ofNat']
    omega

/-- An encoded text is decoded to itself. -/
theorem toText?_ofText (text : List Char) : toText? (ofText text) = some text := by
  induction text with
  | nil => rfl
  | cons c text ih =>
    rw [ofText_cons, toText?_utf8EncodeChar_append, ih]
    rfl

end Bytes

end TcpJournal
