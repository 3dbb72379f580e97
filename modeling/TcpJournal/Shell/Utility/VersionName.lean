import TcpJournal.Shell.Conversion

/-!
# The order of names with versions

Digits in a name are compared as numbers, letters come in front of other
characters, and a tilde comes in front of everything, even of the end.  Names
are compared without their suffixes first.
-/

namespace TcpJournal

namespace Shell

/-- A piece of a name: characters that are no digits, and digits behind them. -/
structure NamePiece where
  text : Chars
  digits : Chars
  deriving DecidableEq, Repr

namespace NamePiece

/-- The pieces of a name. -/
def listOf (name : Chars) : List NamePiece :=
  name.foldr
    (fun c pieces =>
      match pieces with
      | ⟨[], digits⟩ :: rest =>
        if Text.isDigit c then ⟨[], c :: digits⟩ :: rest else ⟨[c], digits⟩ :: rest
      | ⟨text, digits⟩ :: rest =>
        if Text.isDigit c then ⟨[], [c]⟩ :: pieces else ⟨c :: text, digits⟩ :: rest
      | [] => if Text.isDigit c then [⟨[], [c]⟩] else [⟨[c], []⟩]) []

/-- The rank of a character that is no digit. -/
def rank (c : Char) : Int :=
  if c = '~' then -2
  else if Text.isAlphanumeric c then c.toNat
  else c.toNat + 256

/-- The rank of what stands behind the characters of a piece. -/
def endRank (piece : NamePiece) : Int := if piece.digits = [] then -1 else 0

/-- The order of texts without digits; where one of them ends the rank of what
stands behind it counts. -/
def compareTexts (endA endB : Int) : Chars → Chars → Ordering
  | [], [] => .eq
  | a :: _, [] => compare (rank a) endB
  | [], b :: _ => compare endA (rank b)
  | a :: as, b :: bs => (compare (rank a) (rank b)).then (compareTexts endA endB as bs)

/-- The order of two pieces. -/
def compare (a b : NamePiece) : Ordering :=
  (compareTexts a.endRank b.endRank a.text b.text).then
    (Ord.compare (Decimal.value a.digits) (Decimal.value b.digits))

/-- The order of two lists of pieces; a list goes on with empty ones. -/
def compareLists : List NamePiece → List NamePiece → Ordering
  | [], [] => .eq
  | a :: as, [] => (a.compare ⟨[], []⟩).then (compareLists as [])
  | [], b :: bs => (compare ⟨[], []⟩ b).then (compareLists [] bs)
  | a :: as, b :: bs => (a.compare b).then (compareLists as bs)

end NamePiece

namespace VersionName

/-- A text is made of suffixes: points, each with a letter or tilde behind it and
perhaps more letters, digits and tildes. -/
def isSuffixes (text : Chars) : Bool :=
  let step (state : Option Bool) (c : Char) : Option Bool :=
    match state with
    | none => none
    | some true =>
      if c = '~' || (Text.isAlphanumeric c && !Text.isDigit c) then some false else none
    | some false =>
      if c = '.' then some true
      else if c = '~' || Text.isAlphanumeric c then some false
      else none
  (text = [] || text.head? = some '.') && text.foldl step (some false) = some false

/-- A name without its suffixes. -/
def withoutSuffixes (name : Chars) : Chars :=
  let length := (List.range name.length).find? fun k => isSuffixes (name.drop (k + 1))
  name.take ((length.getD 0) + 1)

/-- The rank of a name by its points at the front. -/
def rank (name : Chars) : Nat :=
  match name with
  | [] => 0
  | ['.'] => 1
  | ['.', '.'] => 2
  | '.' :: _ => 3
  | _ => 4

/-- The order of two names. -/
def compare (a b : Chars) : Ordering :=
  (Ord.compare (rank a) (rank b)).then
    (if rank a < 3 then .eq
    else
      let order (a b : Chars) : Ordering :=
        NamePiece.compareLists (NamePiece.listOf a) (NamePiece.listOf b)
      (order (withoutSuffixes a) (withoutSuffixes b)).then (order a b))

end VersionName

end Shell

end TcpJournal
