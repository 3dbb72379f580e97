import TcpJournal.Proofs.Decimal.Reading
import TcpJournal.Proofs.Json.Escapes
import TcpJournal.Proofs.Text.Runs

/-!
# JSON objects read back

An object whose members are strings, lists of byte values and nulls is written without white
space and in the order of its members.  Its text is a document
(`JsonValue.parse?_objectText`), and the values of this document have the contents that were
written (`JsonValue.Content.holds_value`).

Every reader spends less fuel than it takes bytes, so a document, which is read with more
fuel than it has bytes, never runs out of it.
-/

namespace TcpJournal

namespace JsonValue

/-- What a value says. -/
inductive Content where
  | null
  | text (text : List Char)
  | bytes (bytes : Bytes)
  deriving DecidableEq, Repr

/-- The number of a byte, as it is written without a sign, a fraction or an exponent. -/
def ofByte (b : UInt8) : JsonValue :=
  .number ⟨false, Bytes.ofText (Decimal.digits b.toNat), none, none⟩

/-- The text of a list of byte values, without its brackets. -/
def itemsText (bytes : Bytes) : List Char :=
  [','].intercalate (bytes.map fun b => Decimal.digits b.toNat)

namespace Content

/-- A value says this, in whichever spelling. -/
def Holds : Content → JsonValue → Prop
  | null, value => value = .null
  | text t, value => value.text? = some t
  | bytes b, value => value.bytes? = some b

/-- The text of a value that says this. -/
def chars : Content → List Char
  | null => "null".toList
  | text t => quoted t
  | bytes b => '[' :: itemsText b ++ [']']

/-- The value of this text. -/
def value : Content → JsonValue
  | null => .null
  | text t => .string (Bytes.ofText (escaped t))
  | bytes b => .array (b.map ofByte)

end Content

/-- The text of a member of an object. -/
def memberText (member : List Char × Content) : List Char :=
  quoted member.1 ++ ':' :: member.2.chars

/-- The text of members, without the braces of their object. -/
def membersText (members : List (List Char × Content)) : List Char :=
  [','].intercalate (members.map memberText)

/-- The text of an object. -/
def objectText (members : List (List Char × Content)) : List Char :=
  '\x7b' :: membersText members ++ ['\x7d']

/-- A member as it is read from its text. -/
def ofMember (member : List Char × Content) : Bytes × JsonValue :=
  (Bytes.ofText (escaped member.1), member.2.value)

/-! ## Numbers -/

/-- A byte that goes on with a whole number or makes it another number. -/
def isNumberByte (b : UInt8) : Bool :=
  isDigit b || b = 0x2E || b = 0x65 || b = 0x45

theorem ofText_digit {d : Nat} (h : d < 10) : Bytes.ofText (Decimal.digits d) = [digitByte d] := by
  rw [Decimal.digits, Nat.toDigits_of_lt_base h, Bytes.ofText_cons,
    utf8EncodeChar_digitChar (by omega)]
  rfl

theorem ofText_digits_concat {n d : Nat} (hn : 0 < n) (hd : d < 10) :
    Bytes.ofText (Decimal.digits (10 * n + d)) =
      Bytes.ofText (Decimal.digits n) ++ [digitByte d] := by
  rw [Decimal.digits, Decimal.toDigits_concat (by decide) hn hd, Bytes.ofText_append,
    ← Decimal.digits, ← Nat.toDigits_of_lt_base hd, ← Decimal.digits, ofText_digit hd]

theorem isDigit_digitByte : ∀ d < 10, isDigit (digitByte d) = true := by
  decide

theorem toNat_digitByte : ∀ d < 10, (digitByte d).toNat - 0x30 = d := by
  decide

theorem digitByte_eq_zero : ∀ d < 10, digitByte d = 0x30 → d = 0 := by
  decide

theorem isDigit_of_mem_digits {n : Nat} {b : UInt8} (h : b ∈ Bytes.ofText (Decimal.digits n)) :
    isDigit b = true := by
  induction n using Decimal.digits_induction (show 1 < 10 by decide) with
  | digit d hd =>
    rw [ofText_digit hd] at h
    exact List.mem_singleton.mp h ▸ isDigit_digitByte d hd
  | concat n d hn hd ih =>
    rw [ofText_digits_concat hn hd] at h
    rcases List.mem_append.mp h with hmem | hmem
    · exact ih hmem
    · exact List.mem_singleton.mp hmem ▸ isDigit_digitByte d hd

theorem ofText_digits_ne_nil (n : Nat) : Bytes.ofText (Decimal.digits n) ≠ [] := by
  induction n using Decimal.digits_induction (show 1 < 10 by decide) with
  | digit d hd => simp [ofText_digit hd]
  | concat n d hn hd => simp [ofText_digits_concat hn hd]

theorem digitsValue_digits (n : Nat) : digitsValue (Bytes.ofText (Decimal.digits n)) = n := by
  induction n using Decimal.digits_induction (show 1 < 10 by decide) with
  | digit d hd => simp [ofText_digit hd, digitsValue, toNat_digitByte d hd]
  | concat n d hn hd ih =>
    rw [digitsValue] at ih ⊢
    rw [ofText_digits_concat hn hd, List.foldl_append, ih]
    simp [toNat_digitByte d hd]

/-- Only zero is written with a zero in front. -/
theorem eq_zero_of_head?_digits {n : Nat}
    (h : (Bytes.ofText (Decimal.digits n)).head? = some 0x30) : n = 0 := by
  induction n using Decimal.digits_induction (show 1 < 10 by decide) with
  | digit d hd =>
    rw [ofText_digit hd] at h
    exact digitByte_eq_zero d hd (Option.some.inj h)
  | concat n d hn hd ih =>
    rw [ofText_digits_concat hn hd, List.head?_append_of_ne_nil _ (ofText_digits_ne_nil n)] at h
    exact absurd (ih h) (Nat.ne_of_gt hn)

theorem digits?_append {run rest : Bytes} (hrun : ∀ b ∈ run, isDigit b = true) (hne : run ≠ [])
    (hrest : Stops isDigit rest) : digits? (run ++ rest) = some (run, rest) := by
  rw [digits?, takeWhile_append hrun hrest, if_neg hne, List.drop_left]

theorem whole?_digits (n : Nat) {rest : Bytes} (hrest : Stops isDigit rest) :
    whole? (Bytes.ofText (Decimal.digits n) ++ rest) =
      some (Bytes.ofText (Decimal.digits n), rest) := by
  rw [whole?.eq_def]
  split
  · next rest' heq =>
    have hhead := congrArg List.head? heq
    rw [List.head?_append_of_ne_nil _ (ofText_digits_ne_nil n)] at hhead
    obtain rfl := eq_zero_of_head?_digits hhead
    cases heq
    rfl
  · exact digits?_append (fun b => isDigit_of_mem_digits) (ofText_digits_ne_nil n) hrest

theorem fraction?_of_stops {rest : Bytes} (h : Stops isNumberByte rest) :
    fraction? rest = some (none, rest) := by
  rw [fraction?.eq_def]
  split
  · exact absurd (stops_cons.mp h) (by decide)
  · rfl

theorem exponent?_of_stops {rest : Bytes} (h : Stops isNumberByte rest) :
    exponent? rest = some (none, rest) := by
  rw [exponent?.eq_def]
  split
  · next e rest' =>
    have he := stops_cons.mp h
    simp only [isNumberByte, Bool.or_eq_false_iff] at he
    rw [if_neg (by simp [he])]
  · rfl

theorem stops_digit {rest : Bytes} (h : Stops isNumberByte rest) : Stops isDigit rest := by
  intro b hb
  have hnone := h b hb
  simp only [isNumberByte, Bool.or_eq_false_iff] at hnone
  exact hnone.1.1.1

theorem number?_digits (n : Nat) {rest : Bytes} (hrest : Stops isNumberByte rest) :
    number? (Bytes.ofText (Decimal.digits n) ++ rest) =
      some (⟨false, Bytes.ofText (Decimal.digits n), none, none⟩, rest) := by
  have hsign : ∀ more, Bytes.ofText (Decimal.digits n) ++ rest ≠ 0x2D :: more := fun more heq => by
    have hhead := congrArg List.head? heq
    rw [List.head?_append_of_ne_nil _ (ofText_digits_ne_nil n)] at hhead
    exact absurd (isDigit_of_mem_digits (List.mem_of_head? hhead)) (by decide)
  rw [number?]
  · refine Option.bind_eq_some_iff.mpr ⟨_, whole?_digits n (stops_digit hrest), ?_⟩
    refine Option.bind_eq_some_iff.mpr ⟨_, fraction?_of_stops hrest, ?_⟩
    exact Option.bind_eq_some_iff.mpr ⟨_, exponent?_of_stops hrest, rfl⟩
  · exact hsign

/-! ## Values -/

theorem skipBlank_cons {b : UInt8} (h : isBlank b = false) (rest : Bytes) :
    skipBlank (b :: rest) = b :: rest := by
  rw [skipBlank, List.dropWhile_cons_of_neg (by simp [h])]

theorem isBlank_of_isDigit {b : UInt8} (h : isDigit b = true) : isBlank b = false := by
  rw [← Bool.not_eq_true]
  intro hblank
  simp only [isBlank, Bool.or_eq_true, decide_eq_true_eq] at hblank
  obtain ((rfl | rfl) | rfl) | rfl := hblank <;> exact absurd h (by decide)

theorem value?_quote (fuel : Nat) (rest : Bytes) :
    value? (fuel + 1) (0x22 :: rest) =
      (stringBody? rest).map fun (raw, after) => (.string raw, after) := by
  rw [value?, skipBlank_cons (by decide)]
  rfl

theorem value?_null (fuel : Nat) (rest : Bytes) :
    value? (fuel + 1) (0x6E :: 0x75 :: 0x6C :: 0x6C :: rest) = some (.null, rest) := by
  rw [value?, skipBlank_cons (by decide)]
  rfl

theorem value?_bracket (fuel : Nat) {b : UInt8} (hblank : isBlank b = false) (hb : b ≠ 0x5D)
    (rest : Bytes) :
    value? (fuel + 1) (0x5B :: b :: rest) =
      (items? fuel (b :: rest)).map fun (items, after) => (.array items, after) := by
  rw [value?, skipBlank_cons (by decide)]
  simp only [skipBlank_cons hblank]
  simp [hb]

theorem value?_digit (fuel : Nat) {b : UInt8} (h : isDigit b = true) (rest : Bytes) :
    value? (fuel + 1) (b :: rest) =
      (number? (b :: rest)).map fun (n, after) => (.number n, after) := by
  rw [value?, skipBlank_cons (isBlank_of_isDigit h)]
  split
  case h_7 => rfl
  all_goals
    next heq =>
    obtain rfl := (List.cons.inj heq).1
    exact absurd h (by decide)

/-! ## Lists of bytes -/

theorem stops_isNumberByte {b : UInt8} (h : isNumberByte b = false) (rest : Bytes) :
    Stops isNumberByte (b :: rest) :=
  stops_cons.mpr h

theorem exists_digit_cons (n : Nat) :
    ∃ d more, Bytes.ofText (Decimal.digits n) = d :: more ∧ isDigit d = true := by
  obtain ⟨d, more, htext⟩ := List.exists_cons_of_ne_nil (ofText_digits_ne_nil n)
  exact ⟨d, more, htext, isDigit_of_mem_digits (htext ▸ List.mem_cons_self)⟩

theorem value?_ofByte {fuel : Nat} (hfuel : 0 < fuel) (b : UInt8) {rest : Bytes}
    (hrest : Stops isNumberByte rest) :
    value? fuel (Bytes.ofText (Decimal.digits b.toNat) ++ rest) = some (ofByte b, rest) := by
  obtain ⟨fuel, rfl⟩ := Nat.exists_eq_succ_of_ne_zero (Nat.ne_of_gt hfuel)
  have hnumber := number?_digits b.toNat hrest
  obtain ⟨d, more, htext, hd⟩ := exists_digit_cons b.toNat
  rw [htext] at hnumber ⊢
  rw [List.cons_append] at hnumber ⊢
  rw [value?_digit fuel hd, hnumber, ofByte, htext]
  rfl

theorem ofText_itemsText_cons_cons (b next : UInt8) (bytes : Bytes) :
    Bytes.ofText (itemsText (b :: next :: bytes)) =
      Bytes.ofText (Decimal.digits b.toNat) ++
        0x2C :: Bytes.ofText (itemsText (next :: bytes)) := by
  rw [itemsText, List.map_cons, List.map_cons, List.intercalate_cons_cons, Bytes.ofText_append,
    Bytes.ofText_append, List.append_assoc]
  rfl

theorem items?_itemsText (b : UInt8) (bytes : Bytes) (fuel : Nat) (rest : Bytes)
    (hfuel : (Bytes.ofText (itemsText (b :: bytes))).length < fuel) :
    items? fuel (Bytes.ofText (itemsText (b :: bytes)) ++ 0x5D :: rest) =
      some ((b :: bytes).map ofByte, rest) := by
  -- On the items that are left.  An item and its comma take two bytes or more, and only one
  -- unit of the fuel.
  induction bytes generalizing b fuel with
  | nil =>
    obtain ⟨fuel, rfl⟩ := Nat.exists_eq_succ_of_ne_zero (Nat.ne_zero_of_lt hfuel)
    have hone : itemsText [b] = Decimal.digits b.toNat := List.intercalate_singleton
    have hpositive := List.length_pos_of_ne_nil (ofText_digits_ne_nil b.toNat)
    rw [hone] at hfuel ⊢
    rw [items?, value?_ofByte (by omega) b (stops_isNumberByte (by decide) rest)]
    dsimp only
    rw [skipBlank_cons (by decide)]
    rfl
  | cons next bytes ih =>
    obtain ⟨fuel, rfl⟩ := Nat.exists_eq_succ_of_ne_zero (Nat.ne_zero_of_lt hfuel)
    rw [ofText_itemsText_cons_cons] at hfuel ⊢
    rw [List.length_append, List.length_cons] at hfuel
    rw [List.append_assoc, List.cons_append, items?,
      value?_ofByte (by omega) b (stops_isNumberByte (by decide) _)]
    dsimp only
    rw [skipBlank_cons (by decide)]
    simp only [ih next fuel (by omega)]
    rfl

theorem exists_digit_itemsText (b : UInt8) (bytes : Bytes) :
    ∃ d more, Bytes.ofText (itemsText (b :: bytes)) = d :: more ∧ isDigit d = true := by
  obtain ⟨d, more, htext, hd⟩ := exists_digit_cons b.toNat
  cases bytes with
  | nil =>
    have hone : itemsText [b] = Decimal.digits b.toNat := List.intercalate_singleton
    exact ⟨d, more, hone ▸ htext, hd⟩
  | cons next bytes =>
    exact ⟨d, _, by rw [ofText_itemsText_cons_cons, htext, List.cons_append], hd⟩

/-- A list of byte values in brackets is read as a value. -/
theorem value?_itemsText (bytes : Bytes) (fuel : Nat) (rest : Bytes)
    (hfuel : (Bytes.ofText (itemsText bytes)).length < fuel) :
    value? (fuel + 1) (0x5B :: (Bytes.ofText (itemsText bytes) ++ 0x5D :: rest)) =
      some (.array (bytes.map ofByte), rest) := by
  cases bytes with
  | nil =>
    rw [value?, skipBlank_cons (by decide)]
    rfl
  | cons b bytes =>
    have hitems := items?_itemsText b bytes fuel rest hfuel
    obtain ⟨d, more, hd, hdigit⟩ := exists_digit_itemsText b bytes
    have hclose : d ≠ 0x5D := by
      rintro rfl
      exact absurd hdigit (by decide)
    rw [hd, List.cons_append] at hitems ⊢
    rw [value?_bracket fuel (isBlank_of_isDigit hdigit) hclose, hitems]
    rfl

/-! ## Objects -/

theorem ofText_quoted (text : List Char) (rest : Bytes) :
    Bytes.ofText (quoted text) ++ rest =
      0x22 :: (Bytes.ofText (escaped text) ++ 0x22 :: rest) := by
  rw [quoted, List.cons_append, Bytes.ofText_cons, Bytes.ofText_append, List.append_assoc,
    List.append_assoc]
  rfl

theorem ofText_bytes (bytes rest : Bytes) :
    Bytes.ofText (Content.bytes bytes).chars ++ rest =
      0x5B :: (Bytes.ofText (itemsText bytes) ++ 0x5D :: rest) := by
  rw [Content.chars, List.cons_append, Bytes.ofText_cons, Bytes.ofText_append, List.append_assoc,
    List.append_assoc]
  rfl

/-- The text of a content is read as its value. -/
theorem value?_chars (content : Content) {fuel : Nat} (rest : Bytes)
    (hfuel : (Bytes.ofText content.chars).length ≤ fuel) :
    value? fuel (Bytes.ofText content.chars ++ rest) = some (content.value, rest) := by
  have hpositive : 0 < (Bytes.ofText content.chars).length := by
    cases content <;> exact Nat.succ_pos _
  have hsome : 0 < fuel := Nat.lt_of_lt_of_le hpositive hfuel
  obtain ⟨fuel, rfl⟩ := Nat.exists_eq_succ_of_ne_zero (Nat.ne_of_gt hsome)
  cases content with
  | null => exact value?_null fuel rest
  | text t =>
    rw [Content.chars, ofText_quoted, value?_quote, stringBody?_escaped]
    rfl
  | bytes b =>
    have hlength := congrArg List.length (ofText_bytes b rest)
    simp only [List.length_append, List.length_cons] at hlength
    rw [ofText_bytes, value?_itemsText b fuel rest (by omega)]
    rfl

theorem ofText_memberText (member : List Char × Content) (rest : Bytes) :
    Bytes.ofText (memberText member) ++ rest =
      0x22 :: (Bytes.ofText (escaped member.1) ++
        0x22 :: 0x3A :: (Bytes.ofText member.2.chars ++ rest)) := by
  rw [memberText, Bytes.ofText_append, List.append_assoc, ofText_quoted, Bytes.ofText_cons]
  rfl

theorem ofText_membersText_cons_cons (member next : List Char × Content)
    (members : List (List Char × Content)) :
    Bytes.ofText (membersText (member :: next :: members)) =
      Bytes.ofText (memberText member) ++ 0x2C :: Bytes.ofText (membersText (next :: members)) := by
  rw [membersText, List.map_cons, List.map_cons, List.intercalate_cons_cons, Bytes.ofText_append,
    Bytes.ofText_append, List.append_assoc]
  rfl

theorem length_chars_lt_memberText (member : List Char × Content) :
    (Bytes.ofText member.2.chars).length < (Bytes.ofText (memberText member)).length := by
  have htext := ofText_memberText member []
  rw [List.append_nil, List.append_nil] at htext
  rw [htext]
  simp only [List.length_append, List.length_cons]
  omega

/-- A member is read, and what follows it decides whether there are more. -/
theorem members?_memberText (member : List Char × Content) {fuel : Nat} (rest : Bytes)
    (hfuel : (Bytes.ofText member.2.chars).length ≤ fuel) :
    members? (fuel + 1) (Bytes.ofText (memberText member) ++ rest) =
      match skipBlank rest with
      | 0x7D :: after => some ([ofMember member], after)
      | 0x2C :: rest =>
        (members? fuel rest).map fun (members, after) => (ofMember member :: members, after)
      | _ => none := by
  rw [ofText_memberText, members?, skipBlank_cons (by decide)]
  simp only [stringBody?_escaped, skipBlank_cons (show isBlank 0x3A = false by decide),
    value?_chars member.2 rest hfuel]
  rfl

theorem members?_membersText (member : List Char × Content) (members : List (List Char × Content))
    (fuel : Nat) (rest : Bytes)
    (hfuel : (Bytes.ofText (membersText (member :: members))).length < fuel) :
    members? fuel (Bytes.ofText (membersText (member :: members)) ++ 0x7D :: rest) =
      some ((member :: members).map ofMember, rest) := by
  induction members generalizing member fuel with
  | nil =>
    obtain ⟨fuel, rfl⟩ := Nat.exists_eq_succ_of_ne_zero (Nat.ne_zero_of_lt hfuel)
    have hone : membersText [member] = memberText member := List.intercalate_singleton
    have hless := length_chars_lt_memberText member
    rw [hone] at hfuel ⊢
    rw [members?_memberText member _ (by omega), skipBlank_cons (by decide)]
    rfl
  | cons next members ih =>
    obtain ⟨fuel, rfl⟩ := Nat.exists_eq_succ_of_ne_zero (Nat.ne_zero_of_lt hfuel)
    have hless := length_chars_lt_memberText member
    rw [ofText_membersText_cons_cons] at hfuel ⊢
    rw [List.length_append, List.length_cons] at hfuel
    rw [List.append_assoc, List.cons_append, members?_memberText member _ (by omega),
      skipBlank_cons (by decide)]
    simp only [ih next fuel (by omega)]
    rfl

theorem exists_quote_membersText (member : List Char × Content)
    (members : List (List Char × Content)) :
    ∃ more, Bytes.ofText (membersText (member :: members)) = 0x22 :: more := by
  cases members with
  | nil =>
    have hone : membersText [member] = memberText member := List.intercalate_singleton
    exact ⟨_, by rw [hone, ← List.append_nil (Bytes.ofText _), ofText_memberText]⟩
  | cons next members => exact ⟨_, by rw [ofText_membersText_cons_cons, ofText_memberText]⟩

theorem value?_brace (fuel : Nat) (rest : Bytes) :
    value? (fuel + 1) (0x7B :: 0x22 :: rest) =
      (members? fuel (0x22 :: rest)).map fun (members, after) => (.object members, after) := by
  rw [value?, skipBlank_cons (by decide)]
  rfl

theorem ofText_objectText (members : List (List Char × Content)) :
    Bytes.ofText (objectText members) = 0x7B :: (Bytes.ofText (membersText members) ++ [0x7D]) := by
  rw [objectText, List.cons_append, Bytes.ofText_cons, Bytes.ofText_append]
  rfl

/-- The text of an object is a document. -/
theorem parse?_objectText (members : List (List Char × Content)) :
    parse? (Bytes.ofText (objectText members)) = some (.object (members.map ofMember)) := by
  have hvalue : value? (2 * (Bytes.ofText (objectText members)).length + 2)
      (Bytes.ofText (objectText members)) = some (.object (members.map ofMember), []) := by
    cases members with
    | nil => rfl
    | cons member members =>
      have hlength := congrArg List.length (ofText_objectText (member :: members))
      simp only [List.length_append, List.length_cons] at hlength
      have hmembers := members?_membersText member members
        (2 * (Bytes.ofText (objectText (member :: members))).length + 1) [] (by omega)
      obtain ⟨more, hquote⟩ := exists_quote_membersText member members
      rw [ofText_objectText, hquote, List.cons_append] at hmembers ⊢
      rw [value?_brace, hmembers]
      rfl
  rw [parse?, hvalue]
  rfl

theorem byte?_ofByte (b : UInt8) : byte? (ofByte b) = some b := by
  rw [ofByte, byte?, digitsValue_digits, if_pos (Nat.le_of_lt_succ b.toNat_lt), UInt8.ofNat_toNat]

theorem bytes?_ofByte (bytes : Bytes) : (array (bytes.map ofByte)).bytes? = some bytes := by
  rw [bytes?]
  induction bytes with
  | nil => rfl
  | cons b bytes ih => rw [List.map_cons, List.mapM_cons, byte?_ofByte, ih]; rfl

/-- The value of a content says what was written. -/
theorem Content.holds_value (content : Content) : content.Holds content.value := by
  cases content with
  | null => rfl
  | text t => exact rawText?_escaped t
  | bytes b => exact bytes?_ofByte b

end JsonValue

end TcpJournal
