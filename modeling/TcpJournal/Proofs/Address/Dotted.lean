import Mathlib.Tactic.Ring
import TcpJournal.Proofs.Address.Numeral

/-!
# Dotted decimals read back

A number is cut into parts of some bits each and put together again by shifting and adding
(`Address.foldl_parts`).  The four parts of an IPv4 address come back from their dotted
decimal, whatever follows that is no digit; a group of hexadecimal digits is no dotted
decimal unless a point follows.
-/

namespace TcpJournal

namespace Address

/-- The lowest `count` parts of a number of `width` bits each, most significant first. -/
def parts (width count n : Nat) : List Nat :=
  (List.range count).reverse.map fun i => n / 2 ^ (width * i) % 2 ^ width

theorem parts_succ (width count n : Nat) :
    parts width (count + 1) n = n / 2 ^ (width * count) % 2 ^ width :: parts width count n := by
  simp [parts, List.range_succ]

theorem foldl_parts (width count n start : Nat) :
    (parts width count n).foldl (fun n part => 2 ^ width * n + part) start =
      2 ^ (width * count) * start + n % 2 ^ (width * count) := by
  induction count generalizing start with
  | zero => simp [parts, Nat.mod_one]
  | succ count ih =>
    rw [parts_succ, List.foldl_cons, ih, Nat.mul_succ, Nat.pow_add, Nat.mod_mul]
    ring

theorem octets_eq (value : BitVec 32) : octets value = parts 8 4 value.toNat :=
  rfl

theorem foldl_octets (value : BitVec 32) :
    (octets value).foldl (fun n b => 256 * n + b) 0 = value.toNat := by
  have h := foldl_parts 8 4 value.toNat 0
  rw [Nat.mul_zero, Nat.zero_add, Nat.mod_eq_of_lt value.isLt, ← octets_eq] at h
  exact h

/-- The four bytes of an address, each below 256. -/
theorem exists_octets (value : BitVec 32) :
    ∃ a b c d, octets value = [a, b, c, d] ∧ a ≤ 255 ∧ b ≤ 255 ∧ c ≤ 255 ∧ d ≤ 255 := by
  refine ⟨_, _, _, _, rfl, ?_, ?_, ?_, ?_⟩ <;>
    exact Nat.le_of_lt_succ (Nat.mod_lt _ (by decide))

theorem stops_point (rest : List Char) : Stops (isDigitOf 10) ('.' :: rest) :=
  stops_cons.mpr (by decide)

theorem readNumber?_octet {n : Nat} {rest : List Char} (hn : n ≤ 255)
    (hrest : Stops (isDigitOf 10) rest) :
    readNumber? 10 (some 3) false 255 (Decimal.digits n ++ rest) = some (n, rest) :=
  readNumber?_limited (by decide) (by decide) false hn (by decide) (by omega) hrest

/-- The dotted decimal of an address is read as its four bytes. -/
theorem readDotted?_dotted (value : BitVec 32) {rest : List Char}
    (hrest : Stops (isDigitOf 10) rest) :
    readDotted? (dotted value ++ rest) = some (octets value, rest) := by
  obtain ⟨a, b, c, d, hoctets, ha, hb, hc, hd⟩ := exists_octets value
  have htext : dotted value ++ rest =
      Decimal.digits a ++ '.' :: (Decimal.digits b ++ '.' :: (Decimal.digits c ++ '.' ::
        (Decimal.digits d ++ rest))) := by
    simp [dotted, joined, hoctets, List.intercalate, List.intersperse]
  rw [htext, hoctets, readDotted?]
  refine Option.bind_eq_some_iff.mpr ⟨_, readNumber?_octet ha (stops_point _), ?_⟩
  refine Option.bind_eq_some_iff.mpr ⟨_, Text.expect?_eq_some_iff.mpr rfl, ?_⟩
  refine Option.bind_eq_some_iff.mpr ⟨_, readNumber?_octet hb (stops_point _), ?_⟩
  refine Option.bind_eq_some_iff.mpr ⟨_, Text.expect?_eq_some_iff.mpr rfl, ?_⟩
  refine Option.bind_eq_some_iff.mpr ⟨_, readNumber?_octet hc (stops_point _), ?_⟩
  refine Option.bind_eq_some_iff.mpr ⟨_, Text.expect?_eq_some_iff.mpr rfl, ?_⟩
  exact Option.bind_eq_some_iff.mpr ⟨_, readNumber?_octet hd hrest, rfl⟩

/-- A dotted decimal starts with digits and a point. -/
theorem exists_point_of_readDotted? {text : List Char} {read : List Nat × List Char}
    (h : readDotted? text = some read) :
    ∃ run more, text = run ++ '.' :: more ∧ ∀ c ∈ run, isDigitOf 10 c = true := by
  obtain ⟨⟨a, afterA⟩, hread, h⟩ := Option.bind_eq_some_iff.mp h
  obtain ⟨more, hpoint, -⟩ := Option.bind_eq_some_iff.mp h
  obtain ⟨run, hrun, hdigits⟩ := exists_run_of_readNumber? hread
  exact ⟨run, more, by rw [hrun, Text.expect?_eq_some_iff.mp hpoint], hdigits⟩

theorem readDotted?_of_stops {text : List Char} (h : Stops (isDigitOf 10) text) :
    readDotted? text = none := by
  rw [readDotted?]
  exact Option.bind_eq_none_iff.mpr fun read hread =>
    absurd hread (by rw [readNumber?_of_stops h]; exact nofun)

/-- What follows a group of hexadecimal digits neither continues it nor is a point. -/
structure EndsGroup (rest : List Char) : Prop where
  stops : Stops (isDigitOf 16) rest
  noPoint : rest.head? ≠ some '.'

theorem isDigitOf_sixteen {c : Char} (h : isDigitOf 10 c = true) : isDigitOf 16 c = true := by
  obtain ⟨n, hn⟩ := Option.isSome_iff_exists.mp h
  obtain ⟨hvalue, hless⟩ := Option.filter_eq_some_iff.mp hn
  refine Option.isSome_iff_exists.mpr ⟨n, Option.filter_eq_some_iff.mpr ⟨hvalue, ?_⟩⟩
  exact decide_eq_true (Nat.lt_trans (of_decide_eq_true hless) (by decide))

theorem stops_ten {text : List Char} (h : Stops (isDigitOf 16) text) :
    Stops (isDigitOf 10) text := by
  intro c hc
  refine Bool.eq_false_of_not_eq_true fun hdigit => ?_
  exact absurd (isDigitOf_sixteen hdigit) (by simp [h c hc])

/-- A group of hexadecimal digits is no dotted decimal. -/
theorem readDotted?_group (n : Nat) {rest : List Char} (hrest : EndsGroup rest) :
    readDotted? (Nat.toDigits 16 n ++ rest) = none := by
  refine Option.eq_none_iff_forall_ne_some.mpr fun read hread => ?_
  obtain ⟨run, more, htext, hdigits⟩ := exists_point_of_readDotted? hread
  have hgroup : (Nat.toDigits 16 n ++ rest).takeWhile (isDigitOf 16) = Nat.toDigits 16 n :=
    takeWhile_append (fun _ => isDigitOf_of_mem_toDigits (by decide) (by decide)) hrest.stops
  have hrun : (run ++ '.' :: more).takeWhile (isDigitOf 16) = run :=
    takeWhile_append (fun c hc => isDigitOf_sixteen (hdigits c hc)) (stops_cons.mpr (by decide))
  -- Both runs end at the same place, so the point stands right after the group.
  rw [htext, hrun] at hgroup
  rw [hgroup] at htext
  exact hrest.noPoint (by rw [List.append_cancel_left htext, List.head?_cons])

end Address

end TcpJournal
