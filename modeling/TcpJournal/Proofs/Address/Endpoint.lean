import TcpJournal.Proofs.Address.Groups

/-!
# Endpoints read back

The text of every endpoint is read as this endpoint (`Endpoint.parse?_text`): its address,
its port and, for IPv6, its scope.
-/

namespace TcpJournal

namespace Endpoint

/-- A port that ends a text is read back. -/
theorem readPort?_digits (port : UInt16) :
    readPort? (':' :: Decimal.digits port.toNat) = some (port, []) := by
  have hbound : port.toNat ≤ 0xFFFF := Nat.le_of_lt_succ port.toNat_lt
  have hread : Address.readNumber? 10 none true 0xFFFF (Decimal.digits port.toNat ++ []) =
      some (port.toNat, []) :=
    Address.readNumber?_toDigits (by decide) (by decide) true hbound nofun nofun
  rw [List.append_nil] at hread
  rw [readPort?]
  refine Option.bind_eq_some_iff.mpr ⟨_, Text.expect?_eq_some_iff.mpr rfl, ?_⟩
  refine Option.bind_eq_some_iff.mpr ⟨_, hread, ?_⟩
  dsimp only
  rw [UInt16.ofNat_toNat]
  rfl

theorem readV4?_text (value : BitVec 32) (port : UInt16) :
    readV4? (v4 value port).text = some (v4 value port, []) := by
  have hstops : Stops (Address.isDigitOf 10) (':' :: Decimal.digits port.toNat) :=
    stops_cons.mpr (by decide)
  rw [readV4?]
  refine Option.bind_eq_some_iff.mpr ⟨_, Address.readDotted?_dotted value hstops, ?_⟩
  refine Option.bind_eq_some_iff.mpr ⟨_, readPort?_digits port, ?_⟩
  dsimp only
  rw [Address.foldl_octets, BitVec.ofNat_toNat, BitVec.setWidth_eq]
  rfl

/-- The scope behind an IPv6 address, unless it is 0. -/
def zone (scope : UInt32) : List Char :=
  if scope = 0 then [] else '%' :: Decimal.digits scope.toNat

theorem endsGroups_zone (scope : UInt32) (rest : List Char) :
    Address.EndsGroups (zone scope ++ ']' :: rest) := by
  rw [zone]
  split
  · exact .of_cons rest (by decide) (by decide) (by decide)
  · exact .of_cons _ (by decide) (by decide) (by decide)

/-- The scope is read back; a missing one is 0. -/
theorem readScope?_zone (scope : UInt32) (rest : List Char) :
    (readScope? (zone scope ++ ']' :: rest)).getD (0, zone scope ++ ']' :: rest) =
      (scope.toNat, ']' :: rest) := by
  rw [zone]
  split
  · next hzero =>
    subst hzero
    have hnone : readScope? (']' :: rest) = none := by
      rw [readScope?, Text.expect?_eq_none_iff.mpr (by simp)]
      rfl
    rw [List.nil_append, hnone]
    rfl
  · have hbound : scope.toNat ≤ 0xFFFFFFFF := Nat.le_of_lt_succ scope.toNat_lt
    have hread : Address.readNumber? 10 none true 0xFFFFFFFF
        (Decimal.digits scope.toNat ++ ']' :: rest) = some (scope.toNat, ']' :: rest) :=
      Address.readNumber?_toDigits (by decide) (by decide) true hbound nofun
        (stops_cons.mpr (by decide))
    have hscope : readScope? ('%' :: (Decimal.digits scope.toNat ++ ']' :: rest)) =
        some (scope.toNat, ']' :: rest) := by
      rw [readScope?]
      exact Option.bind_eq_some_iff.mpr ⟨_, Text.expect?_eq_some_iff.mpr rfl, hread⟩
    rw [List.cons_append, hscope, Option.getD_some]

theorem text_v6 (value : BitVec 128) (port : UInt16) (scope : UInt32) :
    (v6 value port scope).text =
      '[' :: ((Address.v6 value).text ++
        (zone scope ++ ']' :: ':' :: Decimal.digits port.toNat)) := by
  simp [text, zone]

theorem readV6?_text (value : BitVec 128) (port : UInt16) (scope : UInt32) :
    readV6? (v6 value port scope).text = some (v6 value port scope, []) := by
  rw [text_v6, readV6?]
  refine Option.bind_eq_some_iff.mpr ⟨_, Text.expect?_eq_some_iff.mpr rfl, ?_⟩
  refine Option.bind_eq_some_iff.mpr
    ⟨_, Address.readGroups8?_text value (endsGroups_zone scope _), ?_⟩
  dsimp only
  rw [readScope?_zone]
  refine Option.bind_eq_some_iff.mpr ⟨_, Text.expect?_eq_some_iff.mpr rfl, ?_⟩
  refine Option.bind_eq_some_iff.mpr ⟨_, readPort?_digits port, ?_⟩
  dsimp only
  rw [Address.foldl_groups, BitVec.ofNat_toNat, BitVec.setWidth_eq, UInt32.ofNat_toNat]
  rfl

/-- A bracket starts no IPv4 endpoint. -/
theorem readV4?_bracket (rest : List Char) : readV4? ('[' :: rest) = none := by
  rw [readV4?, Address.readDotted?_of_stops (stops_cons.mpr (by decide))]
  rfl

/-- An endpoint is read back from its text. -/
theorem parse?_text (e : Endpoint) : parse? e.text = some e := by
  cases e with
  | v4 value port => rw [parse?, readV4?_text]; rfl
  | v6 value port scope =>
    have hnone : readV4? (v6 value port scope).text = none := readV4?_bracket _
    rw [parse?, hnone, Option.orElse_none, readV6?_text]

example : parse? "[fe80::1%3]:443".toList = some (v6 (0xfe80 <<< 112 ||| 1) 443 3) := by
  decide +kernel

end Endpoint

end TcpJournal
