import TcpJournal.Shell.Arithmetic
import TcpJournal.Shell.Escape
import TcpJournal.Shell.Quotation

/-!
# Printing

What `echo` and `printf` write.  A print format is used again until its
arguments are used up; an argument that is no number counts as zero or as the
number it starts with, and is reported.
-/

namespace TcpJournal

namespace Shell

/-- What comes behind a text in which escape sequences are replaced: more, the end
of all that is printed, or an error. -/
inductive PrintEnding where
  | onward
  | stop
  | faulty (reason : String)
  deriving DecidableEq, Repr

/-- A text with the escape sequences of an argument replaced, and what comes
behind it. -/
def unescape (style : PrintStyle) : Nat → Chars → Chars × PrintEnding
  | 0, _ => ([], .onward)
  | _, [] => ([], .onward)
  | fuel + 1, '\\' :: rest =>
    match argumentEscape style rest with
    | .stop => ([], .stop)
    | .faulty reason => ([], .faulty reason)
    | .text chars rest =>
      let (shown, ending) := unescape style fuel rest
      (chars ++ shown, ending)
  | fuel + 1, c :: rest =>
    let (shown, ending) := unescape style fuel rest
    (c :: shown, ending)

/-- What `echo` in the shell writes. -/
def echoText (arguments : List Chars) : Chars :=
  let bare := arguments.head? = some ['-', 'n']
  let text := [' '].intercalate (if bare then arguments.drop 1 else arguments)
  let (shown, ending) := unescape .inner (text.length + 1) text
  shown ++ if bare || ending ≠ .onward then [] else ['\n']

/-- The options of the program `echo`, and the arguments behind them. -/
def echoOptions : List Chars → Chars × List Chars
  | ('-' :: c :: letters) :: rest =>
    if (c :: letters).all fun d => d = 'n' || d = 'e' || d = 'E' then
      let (more, arguments) := echoOptions rest
      (c :: letters ++ more, arguments)
    else ([], ('-' :: c :: letters) :: rest)
  | arguments => ([], arguments)

/-- What the program `echo` writes. -/
def outerEchoText (arguments : List Chars) : Chars :=
  let (options, arguments) := echoOptions arguments
  let text := [' '].intercalate arguments
  let escapes := (options.filter (· ≠ 'n')).getLast? = some 'e'
  let (shown, ending) :=
    if escapes then unescape .echo (text.length + 1) text else (text, .onward)
  shown ++ if options.contains 'n' || ending ≠ .onward then [] else ['\n']

/-- What `echo` in the extended shell writes. -/
def extendedEchoText (arguments : List Chars) : Chars :=
  let (options, arguments) := echoOptions arguments
  let text := [' '].intercalate arguments
  let escapes := (options.filter (· ≠ 'n')).getLast? = some 'e'
  let (shown, ending) :=
    if escapes then unescape .extendedEcho (text.length + 1) text else (text, .onward)
  shown ++ if options.contains 'n' || ending ≠ .onward then [] else ['\n']

/-- What a print has written so far, the arguments left, what is reported, and
whether it has come to an end. -/
structure Print where
  written : Chars
  arguments : List Chars
  reports : List Chars
  isOver : Bool
  isFaulty : Bool
  deriving DecidableEq, Repr

namespace Print

/-- Write a text. -/
def put (p : Print) (text : Chars) : Print :=
  { p with written := text.reverse ++ p.written }

/-- The next argument, if there is one. -/
def next (p : Print) : Option Chars × Print :=
  (p.arguments.head?, { p with arguments := p.arguments.drop 1 })

/-- Report something about an argument. -/
def report (p : Print) (argument : Chars) (reason : String) : Print :=
  { p with reports := p.reports ++ [argument ++ ": ".toList ++ reason.toList] }

/-- End with an error. -/
def fault (p : Print) (reason : Chars) : Print :=
  { p with reports := p.reports ++ [reason], isOver := true, isFaulty := true }

/-- The character that an argument shows behind a quote, if it starts with one;
outside the shell a quote alone shows none, and is no number. -/
def quoted? (style : PrintStyle) (argument : Chars) : Option Nat :=
  match argument with
  | '"' :: rest | '\'' :: rest =>
    match rest with
    | c :: _ => some c.toNat
    | [] => if style = .format then none else some 0
  | _ => none

/-- The whole number that an argument is, within limits. -/
def whole (style : PrintStyle) (p : Print) (argument : Option Chars) (isSigned : Bool) :
    Int × Print :=
  match argument with
  | none => (0, p)
  | some text =>
    match quoted? style text with
    | some n => (n, p)
    | none =>
      let (negative, digits) := leadingSign (text.dropWhile isBlankChar)
      if text = [] then (0, p)
      else if !digits.head?.any Text.isDigit then (0, p.report text "expected numeric value")
      else
        let (n, rest) := leadingConstant digits
        let value : Int := if negative then -(n : Int) else n
        let low : Int := if isSigned then -(2 ^ 63) else -(2 ^ 64 - 1)
        let high : Int := if isSigned then 2 ^ 63 - 1 else 2 ^ 64 - 1
        let limit := max low (min high value)
        if rest ≠ [] then (limit, p.report text "not completely converted")
        else if limit ≠ value then
          (if isSigned then limit else high, p.report text "Numerical result out of range")
        else (value, p)

/-- The format of the numbers that a command prints. -/
def floatFormat (style : PrintStyle) : FloatFormat :=
  if style = .inner then .double else .extended

/-- The number that an argument is. -/
def number (style : PrintStyle) (p : Print) (argument : Option Chars) : Quantity × Print :=
  match argument with
  | none => (.zero, p)
  | some text =>
    match quoted? style text with
    | some n => (.ofNat n, p)
    | none =>
      match leadingQuantity? text with
      | none => (.zero, if text = [] then p else p.report text "expected numeric value")
      | some (q, rest) =>
        let shown := q.rounded (floatFormat style)
        if rest ≠ [] then (shown, p.report text "not completely converted")
        else if q.isOutOfRange (floatFormat style) then
          (shown, p.report text "Numerical result out of range")
        else (shown, p)

/-- The numbers that fill the stars of a conversion. -/
def stars (style : PrintStyle) : Nat → Print → List Int × Print
  | 0, p => ([], p)
  | n + 1, p =>
    let (argument, p) := p.next
    let (value, p) := p.whole style argument true
    let (more, p) := stars style n p
    (value :: more, p)

/-- Write a text with escape sequences by a conversion, if there is one. -/
def putUnescaped (style : PrintStyle) (p : Print) (v? : Option Conversion) (text : Chars) :
    Print :=
  let (shown, ending) := unescape style (text.length + 1) text
  let p := p.put (match v? with
    | some v => v.ofText shown
    | none => shown)
  match ending with
  | .onward => p
  | .stop => { p with isOver := true }
  | .faulty reason => p.fault reason.toList

/-- Write one argument by a conversion. -/
def convert (style : PrintStyle) (p : Print) (v : Conversion) (source : Chars) : Print :=
  let (argument, after) := p.next
  if v.letter = 's' then after.put (v.ofText (argument.getD []))
  else if v.letter = 'b' && style ≠ .format then
    after.putUnescaped style (some v) (argument.getD [])
  else if (v.letter = 'q' || v.letter = 'Q') && style = .extendedFormat then
    after.put (v.ofText (Quotation.backslashed (argument.getD [])))
  else if v.letter = 'c' then
    after.put (v.inField false [] [(argument.getD []).headD '\x00'])
  else if v.letter = 'd' || v.letter = 'i' then
    let (value, after) := after.whole style argument true
    after.put (v.ofInt value)
  else if v.letter = 'o' || v.letter = 'u' || v.letter = 'x' || v.letter = 'X' then
    let (value, after) := after.whole style argument false
    after.put (v.ofNat (value % 2 ^ 64).toNat)
  else if "aAeEfFgG".toList.contains v.letter then
    let (value, after) := after.number style argument
    after.put (v.ofQuantity (floatFormat style) value)
  else p.fault ('%' :: source ++ ": invalid directive".toList)

/-- The flags and the precision go with the letter of a conversion. -/
def isCoherent (v : Conversion) (source : Chars) : Bool :=
  let without (letters : String) : Bool := !letters.toList.contains v.letter
  (!v.has '\'' || without "aAceEosxX") && (!v.has '#' || without "cdisu") &&
    (!v.has '0' || without "cs") && (!source.contains '.' || v.letter ≠ 'c')

/-- Write one round of a format. -/
def round (style : PrintStyle) : Nat → Chars → Print → Print
  | 0, _, p => p
  | _, [], p => p
  | fuel + 1, '\\' :: rest, p =>
    match formatEscape style rest with
    | .stop => { p with isOver := true }
    | .faulty reason => p.fault reason.toList
    | .text chars rest => round style fuel rest (p.put chars)
  | fuel + 1, '%' :: '%' :: rest, p => round style fuel rest (p.put ['%'])
  | fuel + 1, '%' :: rest, p =>
    let form : Conversion.Form := if style = .inner then .plain else .sized
    match style, rest with
    | .format, 'b' :: rest =>
      let (argument, p) := p.next
      let p := p.putUnescaped style none (argument.getD [])
      if p.isOver then p else round style fuel rest p
    | .format, 'q' :: rest =>
      let (argument, p) := p.next
      round style fuel rest (p.put ((argument.map Quotation.word).getD []))
    | _, rest =>
      let (numbers, p) := p.stars style (Conversion.starCountBy form rest)
      match Conversion.readBy? form rest numbers with
      | none => p.fault "missing format character".toList
      | some (v, after, _) =>
        let source := rest.take (rest.length - after.length)
        let p :=
          if style = .format && (!isCoherent v source || v.letter = 'b') then
            p.fault ('%' :: source ++ ": invalid conversion specification".toList)
          else p.convert style v source
        if p.isOver then p else round style fuel after p
  | fuel + 1, c :: rest, p => round style fuel rest (p.put [c])

/-- Write rounds of a format until the arguments are used up. -/
def rounds (style : PrintStyle) (format : Chars) : Nat → Print → Print
  | 0, p => p
  | fuel + 1, p =>
    let after := p.round style (format.length + 1) format
    if after.isOver || after.arguments = [] || after.arguments.length = p.arguments.length then
      after
    else rounds style format fuel after

/-- What a format makes of arguments. -/
def run (style : PrintStyle) (format : Chars) (arguments : List Chars) : Print :=
  rounds style format (arguments.length + 1) ⟨[], arguments, [], false, false⟩

end Print

end Shell

end TcpJournal
