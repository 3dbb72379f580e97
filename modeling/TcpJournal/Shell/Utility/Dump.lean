import TcpJournal.Shell.Utility.Fields

/-!
# Programs that show or sum up bytes

Bytes as numbers or characters, in an alphabet of 64 letters, or as remainders.
-/

namespace TcpJournal

namespace Shell

namespace Utility

open Shell.Program

/-- One way to show the bytes of a line, perhaps with their characters at its
end. -/
structure DumpStyle where
  kind : Char
  size : Nat
  showsText : Bool
  deriving DecidableEq, Repr

/-- The sizes that letters and the lack of a size stand for. -/
def unitSize? (text : Chars) : Option Nat × Chars :=
  match text with
  | 'C' :: rest => (some 1, rest)
  | 'S' :: rest => (some 2, rest)
  | 'I' :: rest => (some 4, rest)
  | 'L' :: rest => (some 8, rest)
  | rest =>
    let digits := rest.takeWhile Text.isDigit
    let n := Decimal.value digits
    (if digits = [] then some 4 else if [1, 2, 4, 8].contains n then some n else none,
      rest.drop digits.length)

/-- The styles that a text describes, with a measure of its length. -/
def dumpStyles (whole : Chars) : Nat → Chars → Except Chars (List DumpStyle)
  | 0, _ => .ok []
  | _, [] => .ok []
  | fuel + 1, c :: rest => do
    let quoted := '\'' :: whole ++ ['\'']
    let (size, after) ←
      if c = 'c' || c = 'a' then .ok (1, rest)
      else if "doux".toList.contains c then
        match unitSize? rest with
        | (some size, after) => .ok (size, after)
        | (none, after) =>
          .error ("invalid type string ".toList ++ quoted ++
            ";\nthis system doesn't provide a ".toList ++
            rest.take (rest.length - after.length) ++ "-byte integral type".toList)
      else
        .error ("invalid character '".toList ++ c :: "' in type string ".toList ++ quoted)
    let showsText := after.head? = some 'z'
    let more ← dumpStyles whole fuel (if showsText then after.drop 1 else after)
    return ⟨c, size, showsText⟩ :: more

/-- The names of the control characters. -/
def controlNames : List String :=
  ["nul", "soh", "stx", "etx", "eot", "enq", "ack", "bel", "bs", "ht", "nl", "vt", "ff", "cr",
   "so", "si", "dle", "dc1", "dc2", "dc3", "dc4", "nak", "syn", "etb", "can", "em", "sub", "esc",
   "fs", "gs", "rs", "us", "sp"]

namespace DumpStyle

/-- The number of characters in which one unit is shown. -/
def width (style : DumpStyle) : Nat :=
  match style.kind with
  | 'c' | 'a' => 3
  | 'x' => 2 * style.size
  | 'o' => (8 * style.size + 2) / 3
  | 'u' => if style.size = 1 then 3 else if style.size = 2 then 5 else if style.size = 4 then 10
      else 20
  | _ => if style.size = 1 then 4 else if style.size = 2 then 6 else if style.size = 4 then 11
      else 20

/-- A unit as text; its bytes are in the order from the lowest. -/
def unitText (style : DumpStyle) (bytes : Chars) : Chars :=
  let n := bytes.reverse.foldl (fun n c => 256 * n + c.toNat) 0
  match style.kind with
  | 'x' => Decimal.padLeft '0' style.width (Nat.toDigits 16 n)
  | 'o' => Decimal.padLeft '0' style.width (Nat.toDigits 8 n)
  | 'u' => Decimal.digits n
  | 'a' =>
    let n := n % 128
    if n = 127 then "del".toList
    else (controlNames[n]?).elim [Char.ofNat n] String.toList
  | 'c' =>
    match bytes with
    | ['\x00'] => ['\\', '0']
    | ['\x07'] => ['\\', 'a']
    | ['\x08'] => ['\\', 'b']
    | ['\x0c'] => ['\\', 'f']
    | ['\n'] => ['\\', 'n']
    | ['\x0d'] => ['\\', 'r']
    | ['\t'] => ['\\', 't']
    | ['\x0b'] => ['\\', 'v']
    | [c] => if ' ' ≤ c && c ≤ '~' then [c] else Decimal.padLeft '0' 3 (Nat.toDigits 8 c.toNat)
    | _ => []
  | _ =>
    let limit := 2 ^ (8 * style.size)
    if n ≥ limit / 2 then '-' :: Decimal.digits (limit - n) else Decimal.digits n

/-- The number of units on a line of bytes. -/
def perLine (style : DumpStyle) (count : Nat) : Nat := max 1 (count / style.size)

/-- A line of bytes.  A full line is `lineWidth` characters wide, and the blanks
in it are shared out among its `count` bytes. -/
def line (style : DumpStyle) (isBig : Bool) (lineWidth count : Nat) (bytes : Chars) : Chars :=
  let fields := style.perLine count
  let blanks := lineWidth - style.width * fields
  let before (i : Nat) : Nat := blanks * (fields - i) / fields
  let shown := (bytes.length + style.size - 1) / style.size
  let units := (List.range shown).flatMap fun i =>
    let part := (bytes.drop (i * style.size)).take style.size
    let unit := part ++ List.replicate (style.size - part.length) '\x00'
    Decimal.padLeft ' ' (style.width + before i - before (i + 1))
      (style.unitText (if isBig then unit.reverse else unit))
  if style.showsText then
    let text := bytes.map fun c => if ' ' ≤ c && c ≤ '~' then c else '.'
    let missing := fields - shown
    let width := missing * (style.width + 1) + (blanks - fields) * missing / fields
    units ++ List.replicate width ' ' ++
      "  >".toList ++ text ++ ['<']
  else units

end DumpStyle

/-- How bytes are dumped: from where, how many of them, and in which form. -/
structure Dump where
  styles : List DumpStyle
  radix : Char
  skip : Nat
  limit : Option Nat
  width : Option Nat
  keepsRepeats : Bool
  isBig : Bool
  deriving DecidableEq, Repr

namespace Dump

/-- A place in the text, in front of a line. -/
def address (d : Dump) (n : Nat) : Chars :=
  match d.radix with
  | 'n' => []
  | 'd' => Decimal.padLeft '0' 7 (Decimal.digits n)
  | 'x' => Decimal.padLeft '0' 6 (Nat.toDigits 16 n)
  | _ => Decimal.padLeft '0' 7 (Nat.toDigits 8 n)

/-- The number of bytes on a line: whole units of all styles, about sixteen of
them unless another number is asked for. -/
def perLine (d : Dump) : Nat :=
  let unit := (d.styles.map DumpStyle.size).foldl Nat.lcm 1
  match d.width with
  | some width => if width % unit = 0 then width else unit
  | none => if unit < 16 then 16 / unit * unit else unit

/-- Pieces of a text of one length; the first number bounds how many there are. -/
def rows (size : Nat) : Nat → Chars → List Chars
  | 0, _ => []
  | _, [] => []
  | most + 1, text => text.take size :: rows size most (text.drop size)

/-- The dump of the bytes behind those that are skipped. -/
def text (d : Dump) (bytes : Chars) : Chars :=
  let perLine := d.perLine
  let lineWidth := (d.styles.map fun s => (s.width + 1) * s.perLine perLine).foldl max 1
  let hidden : Chars := (d.address 0).map fun _ => ' '
  let step (state : List Chars × Bool × Option Chars) (entry : Chars × Nat) :
      List Chars × Bool × Option Chars :=
    let (done, isRepeated, before) := state
    let (row, i) := entry
    if !d.keepsRepeats && before = some row && row.length = perLine then
      (if isRepeated then done else "*\n".toList :: done, true, before)
    else
      let lines := d.styles.zipIdx.flatMap fun (style, k) =>
        (if k = 0 then d.address (d.skip + i * perLine) else hidden) ++
          style.line d.isBig lineWidth perLine row ++ ['\n']
      (lines :: done, false, some row)
  let shown := ((rows perLine bytes.length bytes).zipIdx.foldl step ([], false, none)).1
  let last := d.address (d.skip + bytes.length)
  shown.reverse.flatten ++ if last = [] then [] else last ++ ['\n']

/-- The texts of at least some printable characters that a null byte ends, each
behind its place. -/
def strings (d : Dump) (least : Nat) (bytes : Chars) : Chars :=
  let step (state : Chars × Chars) (entry : Char × Nat) : Chars × Chars :=
    let (done, run) := state
    let (c, i) := entry
    if ' ' ≤ c && c ≤ '~' then (done, c :: run)
    else if c = '\x00' && run.length ≥ least then
      (done ++ d.address (d.skip + i - run.length) ++ (if d.radix = 'n' then [] else [' ']) ++
        run.reverse ++ ['\n'], [])
    else (done, [])
  (bytes.zipIdx.foldl step ([], [])).1

end Dump

/-- The number that a text is in its own base: one with a mark, eight behind a
zero, or ten, perhaps with a letter that multiplies it. -/
def basedSize? (text : Chars) : Option Nat :=
  let read (base : Nat) (digits : Chars) : Option Nat :=
    let isDigit (c : Char) : Bool := (Text.hexValue? c).any (· < base)
    let number := digits.takeWhile isDigit
    let n := number.foldl (fun n c => base * n + (Text.hexValue? c).getD 0) 0
    if number = [] then none
    else (size? ('1' :: digits.drop number.length)).map (n * ·)
  match text with
  | '0' :: x :: rest =>
    if x = 'x' || x = 'X' then read 16 rest else read 8 text
  | text => read 10 text

/-- The number of bytes that an operand says to skip, to the base of eight. -/
def offsetOf? (text : Chars) : Option Nat :=
  let text := if text.head? = some '+' then text.drop 1 else text
  let (text, factor) := match text.getLast? with
    | some 'b' => (text.dropLast, 512)
    | some 'B' => (text.dropLast, 1024)
    | _ => (text, 1)
  let n? := match text with
    | '0' :: 'x' :: _ => basedSize? text
    | _ => if text ≠ [] && text.all isOctal then basedSize? ('0' :: '0' :: text) else none
  n?.map (factor * ·)

/-- The styles that options ask for. -/
def stylesOf (options : List GivenOption) : Except Chars (List DumpStyle) := do
  let named (letter : Char) : Option DumpStyle :=
    match letter with
    | 'a' => some ⟨'a', 1, false⟩
    | 'b' => some ⟨'o', 1, false⟩
    | 'c' => some ⟨'c', 1, false⟩
    | 'd' => some ⟨'u', 2, false⟩
    | 'D' => some ⟨'u', 4, false⟩
    | 'o' | 'B' => some ⟨'o', 2, false⟩
    | 'O' => some ⟨'o', 4, false⟩
    | 'x' | 'h' => some ⟨'x', 2, false⟩
    | 'X' | 'H' => some ⟨'x', 4, false⟩
    | 's' => some ⟨'d', 2, false⟩
    | 'i' => some ⟨'d', 4, false⟩
    | 'l' | 'I' | 'L' => some ⟨'d', 8, false⟩
    | _ => none
  let styles ← options.mapM fun o =>
    if o.letter = 't' then dumpStyles o.value (o.value.length + 1) o.value
    else .ok (named o.letter).toList
  return if styles.flatten = [] then [⟨'o', 2, false⟩] else styles.flatten

/-- Show bytes. -/
def od : Program := fun words =>
  let withWidth (word : Chars) : Chars :=
    if word = "-w".toList || word = "--width".toList then "-w32".toList
    else if word = "--strings".toList then "-S3".toList
    else word
  withOptions "od" 1
    ⟨"aBbcDdHhIiLlOosXxvA:t:N:j:w:S:\x01:", [("address-radix", 'A'), ("format", 't'),
      ("read-bytes", 'N'), ("skip-bytes", 'j'), ("width", 'w'), ("output-duplicates", 'v'),
      ("strings", 'S'), ("endian", '\x01')], true⟩ (fun g => do
    let fail (reason : Chars) : Steps Nat := do
      report "od" reason
      return 1
    let sizes := [('N', basedSize?), ('j', basedSize?), ('S', basedSize?), ('w', number?)]
    let wrong? := sizes.findSome? fun (letter, read) =>
      (g.value? letter).bind fun text =>
        if (read text).all (letter = 'w' && · = 0) then some (letter, text) else none
    let isPlain := !(g.options.any fun o => "AjNStvw".toList.contains o.letter)
    let (offset?, files) := match isPlain, g.operands with
      | true, [word] => if word.head? = some '+' then (offsetOf? word, []) else (none, [])
      | true, [file, word] =>
        if word.head?.any fun c => c = '+' || Text.isDigit c then (offsetOf? word, [file])
        else (none, [])
      | _, _ => (none, [])
    match stylesOf g.options, wrong?, (g.value? 'A').getD ['o'] with
    | .error reason, _, _ => fail reason
    | _, some (letter, text), _ =>
      fail ("invalid -".toList ++ letter :: " argument '".toList ++ text ++ ['\''])
    | .ok styles, none, radix =>
      if ["d", "n", "o", "x"].all fun name => name.toList ≠ radix then
        fail ("invalid output address radix '".toList ++ radix ++
          "'; it must be one character from [doxn]".toList)
      else
        let skip := offset?.getD (((g.value? 'j').bind basedSize?).getD 0)
        let d : Dump := ⟨styles, radix.headD 'o', skip, (g.value? 'N').bind basedSize?,
          (g.value? 'w').bind number?, g.has 'v',
          (g.value? '\x01').any fun order => "big".toList = order⟩
        let (texts, failed) ← inputs "od" (if offset?.isSome then files else g.operands)
        let all := texts.flatMap Prod.snd
        if failed && texts = [] then return 1
        else if skip > all.length then fail "cannot skip past end of combined input".toList
        else
          let bytes := all.drop skip
          let bytes := match d.limit with
            | some n => bytes.take n
            | none => bytes
          let status ← output "od" (match (g.value? 'S').bind basedSize? with
            | some least => d.strings least bytes
            | none => d.text bytes)
          return if failed then 1 else status) (words.map withWidth)

/-- The letters for six bits. -/
def sextetLetters : Array Char :=
  "ABCDEFGHIJKLMNOPQRSTUVWXYZabcdefghijklmnopqrstuvwxyz0123456789+/".toList.toArray

/-- Three bytes as four letters. -/
def encode64 : Chars → Chars
  | a :: b :: c :: rest =>
    let n := a.toNat * 65536 + b.toNat * 256 + c.toNat
    letter (n / 262144) :: letter (n / 4096) :: letter (n / 64) :: letter n :: encode64 rest
  | [a, b] =>
    let n := a.toNat * 65536 + b.toNat * 256
    [letter (n / 262144), letter (n / 4096), letter (n / 64), '=']
  | [a] =>
    let n := a.toNat * 65536
    [letter (n / 262144), letter (n / 4096), '=', '=']
  | [] => []
where
  /-- The letter for the lowest six bits. -/
  letter (n : Nat) : Char := sextetLetters.getD (n % 64) 'A'

/-- The bits of a letter. -/
def sextet? (c : Char) : Option Nat := sextetLetters.findIdx? (· = c)

/-- The bytes that up to four letters hold as a whole. -/
def sextetBytes (letters : List Nat) : Chars :=
  let n := letters.foldl (fun n x => 64 * n + x) 0
  match letters.length with
  | 4 => [Char.ofNat (n / 65536), Char.ofNat (n / 256 % 256), Char.ofNat (n % 256)]
  | 3 => [Char.ofNat (n / 1024), Char.ofNat (n / 4 % 256)]
  | 2 => [Char.ofNat (n / 16)]
  | _ => []

/-- The bytes of letters, and whether all of them could be read; the letters of
a group that is not complete yet come first. -/
def decode64 : List Nat → Chars → Chars × Bool
  | [], [] => ([], true)
  | group, [] => (sextetBytes group, false)
  | group, '=' :: rest =>
    let missing := 3 - group.length
    let isPadding : Bool := 2 ≤ group.length && rest.take missing = List.replicate missing '='
    (sextetBytes group, isPadding && rest.length = missing)
  | group, c :: rest =>
    match sextet? c with
    | none => (sextetBytes group, false)
    | some x =>
      let group := group ++ [x]
      if group.length = 4 then
        let (bytes, isWhole) := decode64 [] rest
        (sextetBytes group ++ bytes, isWhole)
      else decode64 group rest

/-- Write bytes in 64 letters, or read them. -/
def base64 : Program :=
  withOptions "base64" 1
    ⟨"dDiw:", [("decode", 'd'), ("wrap", 'w'), ("ignore-garbage", 'i')], true⟩ fun g => do
    let (texts, failed) ← inputs "base64" (g.operands.take 1)
    let text := texts.flatMap Prod.snd
    if failed then return 1
    else if g.has 'd' || g.has 'D' then
      let isLetter (c : Char) : Bool := (sextet? c).isSome || c = '='
      let (decoded, isWhole) := decode64 []
        (text.filter fun c => if g.has 'i' then isLetter c else c ≠ '\n')
      let status ← output "base64" decoded
      if isWhole then return status
      else
        report "base64" "invalid input".toList
        return 1
    else
      let width := ((g.value? 'w').bind number?).getD 76
      let encoded := encode64 text
      if width = 0 then output "base64" encoded
      else output "base64" (ofLines (Dump.rows width encoded.length encoded))

/-- The remainders of single bytes under the polynomial of `cksum`. -/
def crcTable : Array UInt32 :=
  ((List.range 256).map fun i =>
    (List.range 8).foldl
      (fun (r : UInt32) _ =>
        if r &&& 0x80000000 ≠ 0 then (r <<< 1) ^^^ 0x04C11DB7 else r <<< 1)
      ((UInt32.ofNat i) <<< 24)).toArray

/-- The checksum of a text and its length. -/
def crc (text : Chars) : Nat :=
  let step (r : UInt32) (n : Nat) : UInt32 :=
    (r <<< 8) ^^^ crcTable.getD (((r >>> 24).toNat ^^^ n) % 256) 0
  let rec lengthBytes : Nat → Nat → List Nat
    | 0, _ => []
    | fuel + 1, n => if n = 0 then [] else n % 256 :: lengthBytes fuel (n / 256)
  let r := text.foldl (fun r c => step r c.toNat) 0
  ((lengthBytes 8 text.length).foldl step r ^^^ 0xFFFFFFFF).toNat

/-- Sum up files. -/
def cksum : Program :=
  withOptions "cksum" 1 ⟨"a:", [("algorithm", 'a')], true⟩ fun g => do
    if (g.value? 'a').any fun name => name ≠ "crc".toList then
      report "cksum" "invalid argument for '--algorithm'".toList
      return 1
    else
      let (texts, failed) ← inputs "cksum" g.operands
      let lines := texts.map fun (file, text) =>
        Decimal.digits (crc text) ++ ' ' :: Decimal.digits text.length ++
          (if g.operands = [] then [] else ' ' :: file)
      let status ← output "cksum" (ofLines lines)
      return if failed then 1 else status

/-- A sum of bytes that is turned by one bit in front of each. -/
def turnedSum (text : Chars) : Nat :=
  text.foldl (fun n c => (n / 2 + n % 2 * 32768 + c.toNat) % 65536) 0

/-- A sum of bytes whose upper half is added to its lower one. -/
def foldedSum (text : Chars) : Nat :=
  let n := text.foldl (fun n c => n + c.toNat) 0 % 2 ^ 32
  let n := n % 65536 + n / 65536
  n % 65536 + n / 65536

/-- Sum up files in sixteen bits and count their blocks. -/
def sum : Program :=
  withOptions "sum" 1 ⟨"rs", [("sysv", 's')], true⟩ fun g => do
    let (texts, failed) ← inputs "sum" g.operands
    let named (file : Chars) : Chars := if g.operands = [] then [] else ' ' :: file
    let line (file text : Chars) : Chars :=
      if g.last? "rs" = some 's' then
        Decimal.digits (foldedSum text) ++ ' ' :: Decimal.digits ((text.length + 511) / 512) ++
          named file
      else
        Decimal.padLeft '0' 5 (Decimal.digits (turnedSum text)) ++ ' ' ::
          Decimal.padLeft ' ' 5 (Decimal.digits ((text.length + 1023) / 1024)) ++ named file
    let status ← output "sum" (ofLines (texts.map fun (file, text) => line file text))
    return if failed then 1 else status

end Utility

end Shell

end TcpJournal
