import TcpJournal.Shell.Utility.Options

/-!
# Filling paragraphs

The words of a paragraph are broken into lines of nearly the same width.  Every
way of breaking has a cost, and the words from each one on are broken in the
cheapest way, which is found from the last word to the first.
-/

namespace TcpJournal

namespace Shell

namespace Utility

open Shell.Program

/-- A word of a paragraph with the number of blanks behind it. -/
structure FillWord where
  text : Chars
  space : Nat
  isFinal : Bool
  deriving DecidableEq, Repr

namespace FillWord

/-- The word starts with an opening character. -/
def opens (w : FillWord) : Bool := w.text.head?.any "(['\x60\"".toList.contains

/-- The word ends with a mark of punctuation. -/
def isPunctuated (w : FillWord) : Bool :=
  w.text.getLast?.any fun c => '!' ≤ c && c ≤ '~' && !Text.isAlphanumeric c

/-- A text ends like a sentence. -/
def endsSentence (text : Chars) : Bool :=
  let body := (text.drop 1).reverse.dropWhile ")]'\"".toList.contains
  (body ++ text.take 1).head?.any ".?!".toList.contains

end FillWord

/-- The widths of a paragraph, and the blanks in front of its lines. -/
structure Margins where
  width : Nat
  goal : Nat
  indent : Nat
  deriving DecidableEq, Repr

/-- The best way to break a paragraph from a word on: its cost, the width of its
first line and the number of words on it. -/
structure FillPlan where
  cost : Int
  lineWidth : Int
  words : Nat
  deriving DecidableEq, Repr

namespace FillPlan

/-- The cost of a distance from the goal. -/
def shortCost (n : Int) : Int := (10 * n) * (10 * n)

/-- The cost of a line, before what follows it. -/
def lineCost (m : Margins) (width : Int) : List FillPlan → Int
  | [] => 0
  | [_] => shortCost (m.goal - width)
  | next :: rest =>
    let ragged := if next.words ≤ rest.length then shortCost (width - next.lineWidth) / 2 else 0
    shortCost (m.goal - width) + ragged

/-- The cost of a line that starts with a word behind other words, the nearest
one first. -/
def startCost (word : FillWord) (before : List FillWord) : Int :=
  let lineCost : Int := 70 * 70
  let behind : Int := match before with
    | [] => 0
    | last :: earlier =>
      if FillWord.endsSentence last.text then (if last.isFinal then -(50 * 50) else 600 * 600)
      else if last.isPunctuated then -(40 * 40)
      else if earlier.head?.any FillWord.isFinal then 200 * 200 / (last.text.length + 2)
      else 0
  let own : Int :=
    if word.opens then -(40 * 40)
    else if word.isFinal then 150 * 150 / (word.text.length + 2)
    else 0
  lineCost + behind + own

/-- The better of two plans; of equal ones the first. -/
def better (best : Option FillPlan) (plan : FillPlan) : FillPlan :=
  match best with
  | some best => if plan.cost < best.cost then plan else best
  | none => plan

/-- The cheapest line of so many words and that width, or of more words; the
plans are those from the words behind it on. -/
def cheapest (m : Margins) (best : Option FillPlan) :
    Nat → Int → Nat → List FillWord → List FillPlan → Option FillPlan
  | count, width, space, words, plans =>
    let cost := lineCost m width plans + (plans.head?.map FillPlan.cost).getD 0
    let best := better best ⟨cost, width, count⟩
    match words, plans with
    | next :: words, _ :: plans =>
      let wider : Int := width + space + next.text.length
      if wider < m.width then cheapest m (some best) (count + 1) wider next.space words plans
      else some best
    | _, _ => some best

/-- The plans from each word on, given the words in front of them. -/
def listOf (m : Margins) : List FillWord → List FillWord → List FillPlan
  | _, [] => []
  | before, word :: rest =>
    let plans := listOf m (word :: before) rest
    match cheapest m none 1 (m.indent + word.text.length : Nat) word.space rest plans with
    | some plan => { plan with cost := plan.cost + startCost word before } :: plans
    | none => plans

end FillPlan

/-- Blanks up to a column, as tabs where the text has tabs. -/
def fillSpace (usesTabs : Bool) (column target : Nat) : Chars :=
  let tabTarget := target / 8 * 8
  if usesTabs && column + 1 < tabTarget then
    List.replicate ((tabTarget - column + 7) / 8) '\t' ++ List.replicate (target - tabTarget) ' '
  else List.replicate (target - column) ' '

/-- The lines of a paragraph: of each of the plans that are left over the first
one says how many words are on a line. -/
def fillLines (usesTabs : Bool) (m : Margins) : Nat → List FillWord → List FillPlan → List Chars
  | 0, _, _ => []
  | fuel + 1, words, plan :: plans =>
    let here := words.take plan.words
    let start := fillSpace usesTabs 0 m.indent
    let line := here.zipIdx.foldl
      (fun (state : Chars × Nat) (word, i) =>
        let (written, column) := state
        let column := column + word.text.length
        let space := if i + 1 < here.length then word.space else 0
        (written ++ word.text ++ fillSpace usesTabs column (column + space), column + space))
      (start, m.indent)
    line.1 :: fillLines usesTabs m fuel (words.drop plan.words) ((plan :: plans).drop plan.words)
  | _ + 1, _, [] => []

/-- The words of a line from a column on. -/
def fillWords (isUniform isLast : Bool) : Nat → Nat → Chars → List FillWord
  | 0, _, _ => []
  | fuel + 1, column, text =>
    let word := text.takeWhile fun c => c ≠ ' ' && c ≠ '\t'
    if word = [] then []
    else
      let rest := text.drop word.length
      let blanks := rest.takeWhile fun c => c = ' ' || c = '\t'
      let after := rest.drop blanks.length
      let start := column + word.length
      let next := blanks.foldl (fun n c => if c = '\t' then (n / 8 + 1) * 8 else n + 1) start
      let atEnd := after = []
      let isFinal := (atEnd && isLast) ||
        (FillWord.endsSentence word && (atEnd || next - start > 1))
      let space := if atEnd || isUniform then (if isFinal then 2 else 1) else next - start
      ⟨word, space, isFinal⟩ :: fillWords isUniform isLast fuel next after

/-- A line of a text: the column of its first word, and its words. -/
structure FillLine where
  indent : Nat
  words : List FillWord
  deriving DecidableEq, Repr

/-- The paragraphs of lines, empty ones for blank lines: lines one after another
that start in the same column. -/
def fillParagraphs (splits : Bool) (lines : List FillLine) : List FillLine :=
  lines.foldr
    (fun line (paragraphs : List FillLine) =>
      match paragraphs with
      | next :: rest =>
        if !splits && line.words ≠ [] && next.words ≠ [] && line.indent = next.indent then
          ⟨line.indent, line.words ++ next.words⟩ :: rest
        else line :: paragraphs
      | [] => [line]) []

/-- The last word of a paragraph, which ends a sentence. -/
def withFinalWord (words : List FillWord) : List FillWord :=
  match words.getLast? with
  | some last => words.dropLast ++ [{ last with isFinal := true }]
  | none => []

/-- Fill the paragraphs of a text. -/
def refill (width goal : Nat) (isUniform splits : Bool) (text : Chars) : Chars :=
  let usesTabs := text.contains '\t'
  let (lines, isEnded) := linesOf text
  let read := lines.zipIdx.map fun (line, i) =>
    let isBlank (c : Char) : Bool := c = ' ' || c = '\t'
    let blanks := line.takeWhile isBlank
    let indent := blanks.foldl (fun n c => if c = '\t' then (n / 8 + 1) * 8 else n + 1) 0
    let isLast := !isEnded && i + 1 = lines.length
    FillLine.mk indent
      (fillWords isUniform isLast (line.length + 1) indent (line.drop blanks.length))
  ofLines ((fillParagraphs splits read).flatMap fun paragraph =>
    let m : Margins := ⟨width, goal, paragraph.indent⟩
    let words := withFinalWord paragraph.words
    if words = [] then [[]]
    else fillLines usesTabs m (words.length + 1) words (FillPlan.listOf m [] words))

/-- Fill paragraphs. -/
def fmt : Program := fun words =>
  let words := match words with
    | ('-' :: c :: digits) :: rest =>
      if Text.isDigit c then "-w".toList :: (c :: digits) :: rest else words
    | words => words
  withOptions "fmt" 1 ⟨"w:g:usct", [("width", 'w'), ("goal", 'g'), ("uniform-spacing", 'u'),
      ("split-only", 's')], true⟩ (fun g => do
    let number (letter : Char) : Option (Option Nat) :=
      match g.value? letter with
      | none => some none
      | some text => ((number? text).filter (· ≤ 2500)).map some
    match number 'w', number 'g' with
    | some width?, some goal? =>
      let width := width?.getD (match goal? with
        | some goal => goal + 10
        | none => 75)
      let goal := goal?.getD (width * 187 / 200)
      if goal > width then
        report "fmt" "invalid width".toList
        return 1
      else filter "fmt" g.operands (refill width goal (g.has 'u') (g.has 's'))
    | _, _ =>
      report "fmt" "invalid width".toList
      return 1) words

end Utility

end Shell

end TcpJournal
