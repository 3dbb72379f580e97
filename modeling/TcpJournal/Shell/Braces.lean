import TcpJournal.Decimal
import TcpJournal.Shell.Assignment
import TcpJournal.Text

/-!
# Words in braces

A word with braces that stand without quotes becomes several words: one for each
of the alternatives between its commas, or one for each member of a sequence of
numbers or of characters.  Braces around neither stay as they are.
-/

namespace TcpJournal

namespace Shell

namespace Braces

/-- The atoms up to the brace that closes the first one, split at the commas that
no other braces enclose, and the atoms behind it. -/
def alternatives? : Nat → List Atom → Option (List (List Atom) × List Atom)
  | _, [] => none
  | depth, atom :: rest =>
    let onward (depth : Nat) : Option (List (List Atom) × List Atom) :=
      (alternatives? depth rest).map fun (pieces, after) =>
        (match pieces with
          | [] => [[atom]]
          | piece :: pieces => (atom :: piece) :: pieces, after)
    match atom with
    | .char c =>
      if c = '\x7b' then onward (depth + 1)
      else if c = '\x7d' then
        match depth with
        | 0 => some ([[]], rest)
        | depth + 1 => onward depth
      else if c = ',' && depth = 0 then
        (alternatives? depth rest).map fun (pieces, after) => ([] :: pieces, after)
      else onward depth
    | .part _ => onward depth

/-- The whole number that a text is. -/
def number? (text : Chars) : Option Int :=
  let (negative, digits) : Bool × Chars := match text with
    | '-' :: rest => (true, rest)
    | '+' :: rest => (false, rest)
    | rest => (false, rest)
  if digits = [] || !digits.all Text.isDigit || digits.length > 18 then none
  else some (if negative then -(Decimal.value digits : Int) else Decimal.value digits)

/-- A text at its double points. -/
def splitAtPoints : Chars → List Chars
  | [] => [[]]
  | '.' :: '.' :: rest => [] :: splitAtPoints rest
  | c :: rest =>
    match splitAtPoints rest with
    | piece :: pieces => (c :: piece) :: pieces
    | [] => [[c]]

/-- The most members that a sequence may have. -/
def mostMembers : Nat := 100000

/-- The numbers from one to another in steps. -/
def steps (first last step : Int) : List Int :=
  let step := max 1 step.natAbs
  let count := (last - first).natAbs / step + 1
  if count > mostMembers then []
  else (List.range count).map fun (n : Nat) =>
    if first ≤ last then first + (n * step : Nat) else first - (n * step : Nat)

/-- The members of the sequence that a text describes. -/
def sequence? (text : Chars) : Option (List Chars) :=
  let between (first last : Chars) (step : Int) : Option (List Chars) :=
    match number? first, number? last with
    | some a, some b =>
      let isPadded (t : Chars) : Bool :=
        let digits := if t.head? = some '-' then t.drop 1 else t
        digits.length > 1 && digits.head? = some '0'
      let width := if isPadded first || isPadded last then max first.length last.length else 0
      let shown (n : Int) : Chars :=
        if n < 0 then '-' :: Decimal.padLeft '0' (width - 1) (Decimal.digits n.natAbs)
        else Decimal.padLeft '0' width (Decimal.digits n.natAbs)
      some ((steps a b step).map shown)
    | none, none =>
      match first, last with
      | [a], [b] =>
        if a.isAlpha && b.isAlpha then
          some ((steps a.toNat b.toNat step).map fun n => [Char.ofNat n.toNat])
        else none
      | _, _ => none
    | _, _ => none
  match splitAtPoints text with
  | [first, last] => between first last 1
  | [first, last, step] => (number? step).bind fun step => between first last step
  | _ => none

/-- The words that atoms become. -/
def expand : Nat → List Atom → List (List Atom)
  | 0, atoms => [atoms]
  | _, [] => [[]]
  | fuel + 1, atom :: rest =>
    let onward : List (List Atom) := (expand fuel rest).map (atom :: ·)
    match atom with
    | .char c =>
      if c ≠ '\x7b' then onward
      else
        match alternatives? 0 rest with
        | none => onward
        | some ([only], after) =>
          let text := only.filterMap Atom.char?
          match if text.length = only.length then sequence? text else none with
          | some members =>
            let behind := expand fuel after
            members.flatMap fun member => behind.map (member.map Atom.char ++ ·)
          | none => onward
        | some (pieces, after) =>
          let behind := expand fuel after
          (pieces.flatMap (expand fuel)).flatMap fun piece => behind.map (piece ++ ·)
    | .part _ => onward

/-- The words that a word with braces becomes. -/
def words (word : Word) : List Word :=
  let hasBrace : Bool := word.any fun part => match part with
    | .text content false => content.contains '\x7b'
    | _ => false
  if hasBrace then
    let atoms := Atom.ofWord word
    (expand (2 * atoms.length + 2) atoms).map Atom.toWord
  else [word]

end Braces

end Shell

end TcpJournal
