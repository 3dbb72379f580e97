import TcpJournal.Shell.Conversion

/-!
# Scripts of names with sigils

A script is a list of statements over expressions.  A sigil in front of a name
says what the name stands for: one value, a list, or a table of values under
keys.  A value is a text or a number, and each is taken for the other where that
is needed.
-/

namespace TcpJournal

namespace Shell

namespace Sigil

/-- A value; a piece of code is known by its number. -/
inductive Scalar where
  | undefined
  | text (t : List Char)
  | whole (i : Int)
  | number (x : Binary64)
  | code (index : Nat)
  deriving DecidableEq, Repr

mutual

/-- An expression. -/
inductive Expr where
  | constant (v : Scalar)
  | joined (pieces : List Expr)
  | scalar (name : List Char)
  | element (name : List Char) (index : Expr)
  | entry (name : List Char) (key : Expr)
  | array (name : List Char)
  | lastIndex (name : List Char)
  | table (name : List Char)
  | slice (name : List Char) (indices : Expr)
  | entrySlice (name : List Char) (keys : Expr)
  | listSlice (items indices : Expr)
  | list (items : List Expr)
  | mine (target : Expr)
  | assign (operator : List Char) (target value : Expr)
  | unary (operator : List Char) (operand : Expr)
  | stepped (isBefore isUp : Bool) (target : Expr)
  | binary (operator : List Char) (left right : Expr)
  | both (left right : Expr)
  | either (left right : Expr)
  | defaulted (left right : Expr)
  | conditional (condition consequence alternative : Expr)
  | range (first last : Expr)
  | matching (target : Option Expr) (isNegated : Bool) (pattern : Expr) (flags : List Char)
  | substitution (target : Option Expr) (pattern replacement : Expr) (flags : List Char)
  | transliteration (target : Option Expr) (source target' flags : List Char)
  | call (name : List Char) (arguments : List Expr)
  | blockCall (name : List Char) (block : List Statement) (arguments : List Expr)
  | lineOf (handle : List Char)
  | outputOf (command : Expr)
  | code (body : List Statement)
  | guarded (body : List Statement)
  | block (body : List Statement)

/-- A statement. -/
inductive Statement where
  | expression (line : Nat) (e : Expr)
  | branch (condition : Expr) (consequence alternative : List Statement)
  | loop (isUntil : Bool) (condition : Expr) (body after : List Statement)
  | counted (start goal next : Expr) (body : List Statement)
  | forEach (name : List Char) (isMine : Bool) (items : Expr) (body : List Statement)
  | block (body : List Statement)
  | define (name : List Char) (body : List Statement)
  | first (body : List Statement)
  | last (body : List Statement)

end

instance : Inhabited Expr := ⟨.constant .undefined⟩

/-- Why a text is no script, and the line where that shows. -/
structure Malformed where
  reason : Chars
  line : Nat
  deriving DecidableEq, Repr

namespace Scalar

/-- A value of an integer that fits into a word, or of the number closest to it. -/
def ofInt (i : Int) : Scalar :=
  if -(2 ^ 63) ≤ i ∧ i < 2 ^ 64 then whole i else number (.ofInt i)

/-- A value of a number that may be whole. -/
def ofNat (n : Nat) : Scalar := ofInt n

/-- The value of a truth. -/
def ofBool (b : Bool) : Scalar := if b then whole 1 else text []

/-- The text of a number with up to fifteen digits. -/
def numberText : Binary64 → Chars
  | .nan => "NaN".toList
  | .infinite negative => (if negative then "-Inf" else "Inf").toList
  | x => (Conversion.mk [] 0 (some 15) 'g').ofNumber x

/-- The text for a value. -/
def toText : Scalar → Chars
  | undefined => []
  | text t => t
  | whole i => Decimal.ofInt i
  | number x => numberText x
  | code index => "CODE(0x".toList ++ Nat.toDigits 16 (0x55d0 + index) ++ [')']

/-- The number that a text starts with. -/
def numberOfText (t : Chars) : Scalar :=
  let t := t.dropWhile isBlankChar
  let (negative, rest) := leadingSign t
  let digits := rest.takeWhile Text.isDigit
  let after := rest.drop digits.length
  let isWhole : Bool := match after with
    | '.' :: _ | 'e' :: _ | 'E' :: _ => false
    | _ => digits ≠ []
  if isWhole then ofInt (if negative then -(Decimal.value digits : Int) else Decimal.value digits)
  else
    match leadingDecimal? t with
    | some (x, _) => number x
    | none => whole 0

/-- The number for a value. -/
def toNumber : Scalar → Scalar
  | undefined => whole 0
  | text t => numberOfText t
  | code index => whole (0x55d0 + index)
  | v => v

/-- The number for a value in the format of reals. -/
def toReal (v : Scalar) : Binary64 :=
  match v.toNumber with
  | whole i => .ofInt i
  | number x => x
  | _ => .zero

/-- The whole part of the number for a value. -/
def toInt (v : Scalar) : Int :=
  match v.toNumber with
  | whole i => i
  | number x => max (-(2 ^ 63)) (min (2 ^ 64 - 1) (x.whole?.getD 0))
  | _ => 0

/-- A value that is true. -/
def isTrue : Scalar → Bool
  | undefined => false
  | text t => t ≠ [] && t ≠ ['0']
  | whole i => i ≠ 0
  | number x => !x.isZero
  | code _ => true

/-- A value is there. -/
def isDefined : Scalar → Bool
  | undefined => false
  | _ => true

/-- The order of two numbers, if neither is missing. -/
def order? (a b : Scalar) : Option Ordering :=
  match a.toNumber, b.toNumber with
  | whole i, whole j => some (compare i j)
  | _, _ =>
    let x := a.toReal
    let y := b.toReal
    if x.isLess y then some .lt else if y.isLess x then some .gt
    else if x.isEqual y then some .eq else none

/-- The order of two texts. -/
def textOrder (a b : Chars) : Ordering :=
  if a < b then .lt else if b < a then .gt else .eq

/-- The text behind a text in the order in which names are counted: its last digit or
letter goes on, and what comes behind the last one is carried. -/
def nextText (t : Chars) : Chars :=
  let rec up : Chars → Chars × Bool
    | [] => ([], true)
    | c :: rest =>
      let (rest, carries) := up rest
      if !carries then (c :: rest, false)
      else if c = 'z' then ('a' :: rest, true)
      else if c = 'Z' then ('A' :: rest, true)
      else if c = '9' then ('0' :: rest, true)
      else (Char.ofNat (c.toNat + 1) :: rest, false)
  let (shown, carries) := up t
  if carries then
    (match t with
      | [] => []
      | c :: _ => [if Text.isDigit c then '1' else if 'a' ≤ c then 'a' else 'A']) ++ shown
  else shown

/-- The value behind a value. -/
def next (v : Scalar) : Scalar :=
  match v with
  | text t =>
    let letters := t.takeWhile fun c => ('a' ≤ c && c ≤ 'z') || ('A' ≤ c && c ≤ 'Z')
    if letters ≠ [] && (t.drop letters.length).all Text.isDigit then text (nextText t)
    else plusOne v
  | v => plusOne v
where
  /-- The number behind the number for a value. -/
  plusOne (v : Scalar) : Scalar :=
    match v.toNumber with
    | whole i => ofInt (i + 1)
    | v => number (v.toReal.add (.ofInt 1))

/-- The value in front of a value. -/
def previous (v : Scalar) : Scalar :=
  match v.toNumber with
  | whole i => ofInt (i - 1)
  | v => number (v.toReal.sub (.ofInt 1))

/-- A function of two real numbers, rounded. -/
def viaBits (f : Float → Float → Float) (x y : Binary64) : Binary64 :=
  .ofBits (f (Float.ofBits x.toBits) (Float.ofBits y.toBits)).toBits

/-- A whole number as an unsigned word. -/
def toWord (v : Scalar) : Nat := (v.toInt % 2 ^ 64).toNat

/-- The result of an operation on two values, or the reason that there is none. -/
def apply (operator : String) (a b : Scalar) : Except Chars Scalar :=
  let real (f : Binary64 → Binary64 → Binary64) : Except Chars Scalar :=
    .ok (number (f a.toReal b.toReal))
  let bits (f : Nat → Nat → Nat) : Except Chars Scalar :=
    .ok (ofNat (f a.toWord b.toWord % 2 ^ 64))
  let ordered (holds : Ordering → Bool) : Except Chars Scalar :=
    .ok (ofBool ((order? a b).any holds))
  let texts (holds : Ordering → Bool) : Except Chars Scalar :=
    .ok (ofBool (holds (textOrder a.toText b.toText)))
  let sign : Ordering → Int
    | .lt => -1
    | .eq => 0
    | .gt => 1
  match operator, a.toNumber, b.toNumber with
  | ".", _, _ => .ok (text (a.toText ++ b.toText))
  | "x", _, _ => .ok (text (List.replicate b.toInt.toNat a.toText).flatten)
  | "+", whole i, whole j => .ok (ofInt (i + j))
  | "+", _, _ => real Binary64.add
  | "-", whole i, whole j => .ok (ofInt (i - j))
  | "-", _, _ => real Binary64.sub
  | "*", whole i, whole j => .ok (ofInt (i * j))
  | "*", _, _ => real Binary64.mul
  | "/", whole i, whole j =>
    if j = 0 then .error "Illegal division by zero".toList
    else if i.tmod j = 0 then .ok (ofInt (i.tdiv j))
    else real Binary64.div
  | "/", _, _ =>
    if b.toReal.isZero then .error "Illegal division by zero".toList else real Binary64.div
  | "%", _, _ =>
    if b.toInt = 0 then .error "Illegal modulus zero".toList
    else .ok (ofInt (Int.fmod a.toInt b.toInt))
  | "**", whole i, whole j =>
    if 0 ≤ j ∧ j ≤ 64 ∧ (i ^ j.toNat).natAbs < 2 ^ 64 then .ok (ofInt (i ^ j.toNat))
    else real (viaBits Float.pow)
  | "**", _, _ => real (viaBits Float.pow)
  | "<<", _, _ => bits fun n m => if m ≥ 64 then 0 else n <<< m
  | ">>", _, _ => bits fun n m => if m ≥ 64 then 0 else n >>> m
  | "&", _, _ => bits (· &&& ·)
  | "|", _, _ => bits (· ||| ·)
  | "^", _, _ => bits (· ^^^ ·)
  | "==", _, _ => ordered (· = .eq)
  | "!=", _, _ => .ok (ofBool (order? a b ≠ some .eq))
  | "<", _, _ => ordered (· = .lt)
  | ">", _, _ => ordered (· = .gt)
  | "<=", _, _ => ordered (· ≠ .gt)
  | ">=", _, _ => ordered (· ≠ .lt)
  | "<=>", _, _ => .ok (((order? a b).map fun o => whole (sign o)).getD undefined)
  | "eq", _, _ => texts (· = .eq)
  | "ne", _, _ => texts (· ≠ .eq)
  | "lt", _, _ => texts (· = .lt)
  | "gt", _, _ => texts (· = .gt)
  | "le", _, _ => texts (· ≠ .gt)
  | "ge", _, _ => texts (· ≠ .lt)
  | "cmp", _, _ => .ok (whole (sign (textOrder a.toText b.toText)))
  | _, _, _ => .error "syntax error".toList

end Scalar

end Sigil

end Shell

end TcpJournal
