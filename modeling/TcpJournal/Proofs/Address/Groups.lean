import TcpJournal.Proofs.Address.Dotted

/-!
# IPv6 addresses read back

An IPv6 address is written as eight groups, with the first longest run of zero groups left
out, or with a dotted decimal at its end.  All three texts are read as the eight groups
(`Address.readGroups8?_text`), and these make up the address.
-/

namespace TcpJournal

namespace Address

/-! ## Groups one after the other -/

/-- What follows the groups of an address: no further group, with or without a colon. -/
structure EndsGroups (rest : List Char) : Prop extends EndsGroup rest where
  stopsAfterColon : ∀ more, rest = ':' :: more → Stops (isDigitOf 16) more

theorem endsGroup_colon (rest : List Char) : EndsGroup (':' :: rest) where
  stops := stops_cons.mpr (by decide)
  noPoint := by simp

/-- What may follow an address other than a colon: the percent sign of a scope, or a
bracket. -/
theorem EndsGroups.of_cons {c : Char} (rest : List Char) (hdigit : isDigitOf 16 c = false)
    (hpoint : c ≠ '.') (hcolon : c ≠ ':') : EndsGroups (c :: rest) where
  stops := stops_cons.mpr hdigit
  noPoint := by simpa using hpoint
  stopsAfterColon _ h := absurd (List.cons.inj h).1 hcolon

theorem endsGroups_colons (rest : List Char) : EndsGroups ("::".toList ++ rest) where
  toEndsGroup := endsGroup_colon (':' :: rest)
  stopsAfterColon _ h := (List.cons.inj h).2 ▸ (endsGroup_colon rest).stops

/-- Groups that follow another one, each after a colon. -/
def laterGroups (groups : List Nat) : List Char :=
  groups.flatMap fun g => ':' :: Nat.toDigits 16 g

theorem colonGroups_cons (g : Nat) (groups : List Nat) :
    colonGroups (g :: groups) = Nat.toDigits 16 g ++ laterGroups groups := by
  induction groups generalizing g with
  | nil => simp [colonGroups, joined, laterGroups]
  | cons next groups ih =>
    have hstep : colonGroups (g :: next :: groups) =
        Nat.toDigits 16 g ++ ':' :: colonGroups (next :: groups) := by
      simp [colonGroups, joined, List.intercalate]
    rw [hstep, ih, laterGroups, laterGroups, List.flatMap_cons, List.cons_append]

theorem endsGroup_laterGroups (groups : List Nat) {rest : List Char} (hrest : EndsGroup rest) :
    EndsGroup (laterGroups groups ++ rest) := by
  cases groups with
  | nil => exact hrest
  | cons next groups => exact endsGroup_colon _

theorem readNumber?_group {g : Nat} {rest : List Char} (hg : g < 2 ^ 16) (hrest : EndsGroup rest) :
    readNumber? 16 (some 4) true 0xFFFF (Nat.toDigits 16 g ++ rest) = some (g, rest) :=
  readNumber?_limited (by decide) (by decide) true (by omega) (by decide) hg hrest.stops

theorem afterColon?_later {text rest : List Char} :
    afterColon? false text = some rest ↔ text = ':' :: rest :=
  Text.expect?_eq_some_iff

/-- A group is read, and the reading goes on after it. -/
theorem readGroups_cons {limit g : Nat} {first : Bool} {text rest : List Char}
    (htext : afterColon? first text = some (Nat.toDigits 16 g ++ rest)) (hg : g < 2 ^ 16)
    (hrest : EndsGroup rest) :
    readGroups (limit + 1) first text =
      let (groups, dotted, rest) := readGroups limit false rest
      (g :: groups, dotted, rest) := by
  rw [readGroups, htext]
  simp only [Option.bind_some, readDotted?_group g hrest, readNumber?_group hg hrest, ite_self]

/-- Where no group follows, none is read. -/
theorem readGroups_nil (limit : Nat) {first : Bool} {text : List Char}
    (h : ∀ more, afterColon? first text = some more → Stops (isDigitOf 16) more) :
    readGroups limit first text = ([], false, text) := by
  cases limit with
  | zero => rfl
  | succ limit =>
    rw [readGroups]
    cases hafter : afterColon? first text with
    | none => simp
    | some more =>
      simp only [Option.bind_some, readDotted?_of_stops (stops_ten (h more hafter)),
        readNumber?_of_stops (h more hafter), ite_self]

theorem readGroups_laterGroups {groups : List Nat} {limit : Nat} {rest : List Char}
    (hlimit : groups.length ≤ limit) (hgroups : ∀ g ∈ groups, g < 2 ^ 16)
    (hrest : EndsGroups rest) :
    readGroups limit false (laterGroups groups ++ rest) = (groups, false, rest) := by
  induction groups generalizing limit with
  | nil =>
    refine readGroups_nil limit fun more hmore => ?_
    exact hrest.stopsAfterColon more (afterColon?_later.mp hmore)
  | cons g groups ih =>
    obtain ⟨limit, rfl⟩ : ∃ smaller, limit = smaller + 1 :=
      ⟨limit - 1, by rw [List.length_cons] at hlimit; omega⟩
    have htext : afterColon? false (laterGroups (g :: groups) ++ rest) =
        some (Nat.toDigits 16 g ++ (laterGroups groups ++ rest)) :=
      afterColon?_later.mpr (by simp [laterGroups])
    rw [readGroups_cons htext (hgroups g List.mem_cons_self)
      (endsGroup_laterGroups groups hrest.toEndsGroup),
      ih (Nat.le_of_succ_le_succ hlimit) fun g hg => hgroups g (List.mem_cons_of_mem _ hg)]

/-- Groups with colons between them are read back, up to the limit. -/
theorem readGroups_colonGroups {groups : List Nat} {limit : Nat} {rest : List Char}
    (hlimit : groups.length ≤ limit) (hgroups : ∀ g ∈ groups, g < 2 ^ 16)
    (hrest : EndsGroups rest) :
    readGroups limit true (colonGroups groups ++ rest) = (groups, false, rest) := by
  cases groups with
  | nil =>
    refine readGroups_nil limit fun more hmore => ?_
    exact Option.some.inj hmore ▸ hrest.stops
  | cons g groups =>
    obtain ⟨limit, rfl⟩ : ∃ smaller, limit = smaller + 1 :=
      ⟨limit - 1, by rw [List.length_cons] at hlimit; omega⟩
    rw [colonGroups_cons, List.append_assoc, readGroups_cons rfl (hgroups g List.mem_cons_self)
      (endsGroup_laterGroups groups hrest.toEndsGroup),
      readGroups_laterGroups (Nat.le_of_succ_le_succ hlimit)
      (fun g hg => hgroups g (List.mem_cons_of_mem _ hg)) hrest]

/-! ## The run that is left out -/

/-- A start and a length mark a run of zeros. -/
def IsZeroRun (groups : List Nat) (run : Nat × Nat) : Prop :=
  ∃ front back, groups = front ++ List.replicate run.2 0 ++ back ∧ front.length = run.1

/-- A start and a length mark the zeros at the end. -/
def EndsInZeros (groups : List Nat) (run : Nat × Nat) : Prop :=
  ∃ front, groups = front ++ List.replicate run.2 0 ∧ front.length = run.1

theorem EndsInZeros.isZeroRun {before : List Nat} {run : Nat × Nat} (h : EndsInZeros before run)
    (after : List Nat) : IsZeroRun (before ++ after) run := by
  obtain ⟨front, hfront, hstart⟩ := h
  exact ⟨front, after, by rw [hfront], hstart⟩

/-- A zero starts a run, or makes the run in front of it one longer. -/
theorem endsInZeros_concat {before : List Nat} {run : Nat × Nat}
    (h : run.2 ≠ 0 → EndsInZeros before run) :
    EndsInZeros (before ++ [0]) (if run.2 = 0 then before.length else run.1, run.2 + 1) := by
  split
  · next hempty => exact ⟨before, by rw [hempty]; rfl, rfl⟩
  · next hrun =>
    obtain ⟨front, hfront, hstart⟩ := h hrun
    exact ⟨front, by rw [hfront, List.replicate_succ', List.append_assoc], hstart⟩

/-- The scan finds a run of zeros if the best one so far is such a run and the current one,
unless it is empty, ends where the scan stands. -/
theorem isZeroRun_longestZeroRun (before : List Nat) {after : List Nat} {current best : Nat × Nat}
    (hcurrent : current.2 ≠ 0 → EndsInZeros before current)
    (hbest : IsZeroRun (before ++ after) best) :
    IsZeroRun (before ++ after) (longestZeroRun after before.length current best) := by
  induction after generalizing before current best with
  | nil => exact hbest
  | cons g after ih =>
    have hassoc : before ++ g :: after = before ++ [g] ++ after := by simp
    have hlength : before.length + 1 = (before ++ [g]).length := by simp
    rw [hassoc] at hbest ⊢
    rw [longestZeroRun, hlength]
    split
    · next hzero =>
      subst hzero
      have hnext := endsInZeros_concat hcurrent
      generalize (if current.2 = 0 then before.length else current.1, current.2 + 1) = next
        at hnext ⊢
      refine ih (before ++ [0]) (fun _ => hnext) ?_
      split
      · exact hnext.isZeroRun after
      · exact hbest
    · exact ih (before ++ [g]) (fun h => absurd rfl h) hbest

/-! ## Whole addresses -/

theorem groups_eq (value : BitVec 128) : groups value = parts 16 8 value.toNat :=
  rfl

theorem length_groups (value : BitVec 128) : (groups value).length = 8 :=
  rfl

theorem lt_of_mem_groups {value : BitVec 128} {g : Nat} (h : g ∈ groups value) : g < 2 ^ 16 := by
  obtain ⟨shift, -, rfl⟩ := List.mem_map.mp h
  exact Nat.mod_lt _ (by decide)

theorem foldl_groups (value : BitVec 128) :
    (groups value).foldl (fun n g => 2 ^ 16 * n + g) 0 = value.toNat := by
  rw [groups_eq, foldl_parts, Nat.mul_zero, Nat.zero_add, Nat.mod_eq_of_lt value.isLt]

theorem readGroups8?_colonGroups {groups : List Nat} {rest : List Char}
    (hlength : groups.length = 8) (hgroups : ∀ g ∈ groups, g < 2 ^ 16)
    (hrest : EndsGroups rest) :
    readGroups8? (colonGroups groups ++ rest) = some (groups, rest) := by
  rw [readGroups8?, readGroups_colonGroups (Nat.le_of_eq hlength) hgroups hrest]
  exact if_pos hlength

/-- Two colons stand for the groups that are missing around them. -/
theorem readGroups8?_colons {front tail : List Nat} {text rest : List Char} {dotted : Bool}
    (hlength : front.length < 8) (hfront : ∀ g ∈ front, g < 2 ^ 16)
    (htail : readGroups (7 - front.length) true text = (tail, dotted, rest)) :
    readGroups8? (colonGroups front ++ ("::".toList ++ text)) =
      some (front ++ List.replicate (8 - front.length - tail.length) 0 ++ tail, rest) := by
  rw [readGroups8?, readGroups_colonGroups (Nat.le_of_lt hlength) hfront (endsGroups_colons text)]
  dsimp only
  rw [if_neg (Nat.ne_of_lt hlength), if_neg Bool.false_ne_true]
  refine Option.bind_eq_some_iff.mpr ⟨':' :: text, Text.expect?_eq_some_iff.mpr rfl, ?_⟩
  refine Option.bind_eq_some_iff.mpr ⟨text, Text.expect?_eq_some_iff.mpr rfl, ?_⟩
  rw [htail]
  rfl

theorem readGroups8?_compressed {front back : List Nat} {length : Nat} {rest : List Char}
    (hlength : front.length + length + back.length = 8) (hpositive : 0 < length)
    (hfront : ∀ g ∈ front, g < 2 ^ 16) (hback : ∀ g ∈ back, g < 2 ^ 16)
    (hrest : EndsGroups rest) :
    readGroups8? (colonGroups front ++ ("::".toList ++ (colonGroups back ++ rest))) =
      some (front ++ List.replicate length 0 ++ back, rest) := by
  rw [readGroups8?_colons (by omega) hfront (readGroups_colonGroups (by omega) hback hrest),
    show 8 - front.length - back.length = length by omega]

/-- Groups are read back from a text that leaves out a run of zeros. -/
theorem readGroups8?_of_isZeroRun {groups : List Nat} {start length : Nat} {rest : List Char}
    (hrun : IsZeroRun groups (start, length)) (hpositive : 0 < length)
    (hlength : groups.length = 8) (hgroups : ∀ g ∈ groups, g < 2 ^ 16)
    (hrest : EndsGroups rest) :
    readGroups8? (colonGroups (groups.take start) ++
      ("::".toList ++ (colonGroups (groups.drop (start + length)) ++ rest))) =
      some (groups, rest) := by
  obtain ⟨front, back, rfl, hstart⟩ := hrun
  obtain rfl : front.length = start := hstart
  have hdrop : (front ++ List.replicate length 0 ++ back).drop (front.length + length) = back :=
    List.drop_left' (by simp)
  have htake : (front ++ List.replicate length 0 ++ back).take front.length = front := by
    rw [List.append_assoc, List.take_left]
  dsimp only at hlength hgroups ⊢
  rw [hdrop, htake]
  simp only [List.length_append, List.length_replicate] at hlength
  simp only [List.mem_append] at hgroups
  exact readGroups8?_compressed hlength hpositive (fun g hg => hgroups g (.inl (.inl hg)))
    (fun g hg => hgroups g (.inr hg)) hrest

/-- The last two groups are the four bytes of the dotted decimal. -/
theorem groups_mapped {value : BitVec 128} (h : (groups value).take 6 = [0, 0, 0, 0, 0, 0xFFFF])
    {a b c d : Nat} (hoctets : octets (value.setWidth 32) = [a, b, c, d]) :
    groups value = [0, 0, 0, 0, 0, 0xFFFF, 256 * a + b, 256 * c + d] := by
  let low := value.toNat % 2 ^ 32
  have hlast : (groups value).drop 6 =
      [value.toNat / 2 ^ 16 % 2 ^ 16, value.toNat / 2 ^ 0 % 2 ^ 16] :=
    rfl
  have hbytes : [low / 2 ^ 24 % 2 ^ 8, low / 2 ^ 16 % 2 ^ 8, low / 2 ^ 8 % 2 ^ 8,
      low / 2 ^ 0 % 2 ^ 8] = [a, b, c, d] := by
    rw [← hoctets, octets, BitVec.toNat_setWidth]
    rfl
  simp only [List.cons.injEq, and_true] at hbytes
  obtain ⟨ha, hb, hc, hd⟩ := hbytes
  have hhigh : value.toNat / 2 ^ 16 % 2 ^ 16 = 256 * a + b := by omega
  have hlow : value.toNat / 2 ^ 0 % 2 ^ 16 = 256 * c + d := by omega
  rw [← List.take_append_drop 6 (groups value), h, hlast, hhigh, hlow]
  rfl

/-- A dotted decimal is read as the last two groups, unless only one may follow. -/
theorem readGroups_dotted {limit a b c d : Nat} {first : Bool} {text after rest : List Char}
    (hlimit : limit ≠ 0) (hafter : afterColon? first text = some after)
    (h : readDotted? after = some ([a, b, c, d], rest)) :
    readGroups (limit + 1) first text = ([256 * a + b, 256 * c + d], true, rest) := by
  rw [readGroups, hafter, Option.bind_some, h, if_neg hlimit]

theorem readGroups8?_mapped {value : BitVec 128}
    (h : (groups value).take 6 = [0, 0, 0, 0, 0, 0xFFFF]) {rest : List Char}
    (hrest : EndsGroups rest) :
    readGroups8? ("::ffff:".toList ++ (dotted (value.setWidth 32) ++ rest)) =
      some (groups value, rest) := by
  obtain ⟨a, b, c, d, hoctets, -⟩ := exists_octets (value.setWidth 32)
  have hread := readDotted?_dotted (value.setWidth 32) (stops_ten hrest.stops)
  rw [hoctets] at hread
  have hgroup : afterColon? true ("ffff:".toList ++ (dotted (value.setWidth 32) ++ rest)) =
      some (Nat.toDigits 16 0xFFFF ++ ':' :: (dotted (value.setWidth 32) ++ rest)) :=
    rfl
  have htail : readGroups 7 true ("ffff:".toList ++ (dotted (value.setWidth 32) ++ rest)) =
      ([0xFFFF, 256 * a + b, 256 * c + d], true, rest) := by
    rw [readGroups_cons hgroup (by decide) (endsGroup_colon _),
      readGroups_dotted (by decide) (afterColon?_later.mpr rfl) hread]
  have hlength : ([] : List Nat).length < 8 := by decide
  rw [groups_mapped h hoctets]
  exact readGroups8?_colons hlength nofun htail

/-- The text of an IPv6 address is read as its groups. -/
theorem readGroups8?_text (value : BitVec 128) {rest : List Char} (hrest : EndsGroups rest) :
    readGroups8? ((v6 value).text ++ rest) = some (groups value, rest) := by
  have hgroups : ∀ g ∈ groups value, g < 2 ^ 16 := fun _ => lt_of_mem_groups
  rw [text]
  dsimp only
  split
  · next hmapped => rw [List.append_assoc, readGroups8?_mapped hmapped hrest]
  · next hmapped =>
    have hfound : IsZeroRun (groups value) (longestZeroRun (groups value) 0 (0, 0) (0, 0)) :=
      isZeroRun_longestZeroRun [] (fun h => absurd rfl h) ⟨[], groups value, rfl, rfl⟩
    revert hfound
    rcases longestZeroRun (groups value) 0 (0, 0) (0, 0) with ⟨start, length⟩
    intro hfound
    dsimp only
    split
    · exact readGroups8?_colonGroups (length_groups value) hgroups hrest
    · next hlong =>
      have hpositive : 0 < length := by omega
      rw [List.append_assoc, List.append_assoc]
      exact readGroups8?_of_isZeroRun hfound hpositive (length_groups value) hgroups hrest

end Address

end TcpJournal
