import DocIndex.Markdown.Block
import DocIndex.Markdown.Entity
import DocIndex.Markdown.Place
import DocIndex.Unicode.Punctuation
import DocIndex.Text.Whitespace

/-!
# Lines of text

A line of a paragraph, a heading or a table cell is a sequence of tokens. `Line.read` finds them
without regard to what the lines around it hold: whether a delimiter belongs to a pair is decided
later, for all lines of a block together.
-/

namespace DocIndex.Markdown

open DocIndex.Text (isSpace)
open DocIndex.Unicode (isPunctuation)

/-- The braces that stand open, each with a number of its own. -/
structure Braces where
  /-- The numbers of the open braces, the innermost one first. -/
  inner : List Nat
  /-- The number that stands for being in no brace at all. -/
  outer : Nat
  /-- The number of the next brace. -/
  next : Nat

namespace Braces

/-- No brace is open. -/
def none : Braces := ⟨[], 0, 1⟩

/-- The number of the innermost brace. -/
def current (braces : Braces) : Nat := braces.inner.head?.getD braces.outer

/-- The most braces that are told apart inside each other. -/
def maxNesting : Nat := 25

/-- After an opening brace. -/
def opened (braces : Braces) : Braces :=
  if braces.inner.length == maxNesting then braces
  else { braces with inner := braces.next :: braces.inner, next := braces.next + 1 }

/-- After a closing brace; one that closes nothing divides the text before it from that after it. -/
def closed (braces : Braces) : Braces :=
  match braces.inner with
  | [] => { braces with outer := braces.next, next := braces.next + 1 }
  | _ :: inner => { braces with inner }

end Braces

/-- What stands around a run of delimiters. -/
structure Surroundings where
  /-- The delimiter of the run. -/
  delimiter : Char
  /-- The number of delimiters in the run. -/
  length : Nat
  before : Option Char
  after : Option Char
  /-- A pipe before the run begins a cell of a table. -/
  cellStart : Bool
  /-- A pipe after the run ends a cell of a table. -/
  cellEnd : Bool

namespace Surroundings

/-- Whether a run of delimiters may open emphasis, or a quotation. -/
def opens (run : Surroundings) : Bool :=
  match run.after with
  | none => false
  | some after =>
    if isSpace after then false
    else
      match run.before with
      | none => true
      | some before =>
        if run.cellStart then true
        else if run.cellEnd then false
        else if run.delimiter == '*' && ! isPunctuation after then true
        else if run.delimiter == '^' && ! isPunctuation after then true
        else if run.delimiter == '~' && 1 < run.length then true
        else if run.delimiter == '~' && before == '~' && ! isPunctuation after then true
        else
          isSpace before ||
            (isPunctuation before && (run.delimiter != '\'' || (before != ']' && before != ')')))

/-- Whether a run of delimiters may close emphasis, or a quotation. -/
def closes (run : Surroundings) : Bool :=
  match run.before with
  | none => false
  | some before =>
    if isSpace before then false
    else
      match run.after with
      | none => true
      | some after =>
        let withinWords := run.delimiter == '*' || run.delimiter == '^' ||
          (run.delimiter == '~' && 1 < run.length)
        if run.cellStart then false
        else if run.cellEnd then true
        else if withinWords && ! isPunctuation before then true
        else if run.delimiter == '~' && before == '~' then true
        else isSpace after || isPunctuation after

end Surroundings

/-- What the next characters of a line amount to. -/
inductive Reading
  /-- Literal text of the given length. -/
  | literal (length : Nat)
  /--
  Tokens that take up the given length, where literal text goes on from `resume` characters on.
  -/
  | marks (tokens : List Token) (resume length : Nat)

/-- One token of the given length. -/
def Reading.mark (kind : TokenKind) (here length : Nat) : Reading :=
  .marks [⟨kind, here, here + length⟩] length length

namespace Line

/-- What stands around the run of `length` delimiters with which `text` begins. -/
def surroundings (inCell : Bool) (before : List Char) (delimiter : Char) (length : Nat)
    (text : List Char) : Surroundings :=
  let after := (text.drop length).head?
  { delimiter, length, before := before.head?, after
    cellStart := inCell && before.head? == some '|' && (before.drop 1).head? != some '\\'
    cellEnd := inCell && after == some '|' }

/-- Reads a backslash; `rest` follows it. -/
def readBackslash (inCell : Bool) (here : Nat) (rest : List Char) : Reading :=
  match rest with
  | '`' :: _ =>
    let count := countRun '`' rest
    .marks [⟨.code true, here + 1, here + 1 + count⟩] (1 + count) (1 + count)
  | '\\' :: '|' :: _ => if inCell then .marks [] 2 3 else .marks [] 1 2
  | c :: _ => if isAsciiPunctuation c then .marks [] 1 2 else .literal 1
  | [] => .literal 1

/-- Reads a run of delimiters of emphasis. -/
def readEmphasis (inCell : Bool) (here : Nat) (before : List Char) (delimiter : Char)
    (text : List Char) : Reading :=
  let length := countRun delimiter text
  let run := surroundings inCell before delimiter length text
  let allowed := (delimiter != '~' || length ≤ 2) && (delimiter != '^' || length == 1)
  if (run.opens || run.closes) && allowed then
    .mark (.emphasis delimiter run.opens run.closes) here length
  else .literal length

/-- Reads what `text` begins with: `first`, which is no line end, and `rest`. -/
def readNext (inCell : Bool) (here : Nat) (before : List Char) (braces : Braces) (lineStart : Bool)
    (first : Char) (rest : List Char) : Reading :=
  let text := first :: rest
  match first with
  | '\\' => readBackslash inCell here rest
  | '*' | '_' | '~' | '^' => readEmphasis inCell here before first text
  | '$' =>
    let opens := ! rest.head?.all isAsciiSpace
    let closes := ! lineStart && ! before.head?.all isAsciiSpace
    .mark (.math opens closes braces.current) here 1
  | '`' => .mark (.code false) here (countRun '`' text)
  | '<' => if rest.head? == some '\\' then .literal 1 else .mark .angle here 1
  | '!' => if rest.head? == some '[' then .mark .imageOpen here 2 else .literal 1
  | '[' => .mark .linkOpen here 1
  | ']' => .mark (.linkClose true) here 1
  | '&' =>
    match entity? text with
    | some length => .mark .replaced here length
    | none => .literal 1
  | '.' => if startsWith ['.', '.'] rest then .mark .replaced here 3 else .literal 1
  | '-' =>
    let length := countRun '-' text
    if length == 1 then .literal 1 else .mark .replaced here length
  | '\'' | '"' => .mark .replaced here 1
  | _ => .literal 1

end Line

/-- Adds literal text to tokens, the last one first; text that adjoins the last token extends it. -/
def addText (start stop : Nat) (tokens : List Token) : List Token :=
  if stop ≤ start then tokens
  else
    match tokens with
    | ⟨.text, first, last⟩ :: earlier =>
      if last == start then ⟨.text, first, stop⟩ :: earlier else ⟨.text, start, stop⟩ :: tokens
    | _ => ⟨.text, start, stop⟩ :: tokens

/-- A line of text that has been read. -/
structure Line where
  /-- The tokens, without the line end. -/
  tokens : List Token
  /-- The number of characters read, up to the start of the next line if there is a line end. -/
  length : Nat
  /-- The line end, as a token; none in a table cell, and where the source ends. -/
  lineEnd : Option Token
  /-- The number of pipes that could divide the cells of a row. -/
  pipes : Nat
  /-- What follows the last pipe. -/
  afterLastPipe : List Char
  /-- The braces open at the end. -/
  braces : Braces

namespace Line

/-- What has been read of a line so far. -/
structure State where
  /-- The position reached. -/
  here : Nat
  /-- The position from which on there is literal text. -/
  textStart : Nat
  /-- The tokens, the last one first. -/
  tokens : List Token
  /-- The characters before the position, the last one first. -/
  before : List Char
  braces : Braces
  pipes : Nat
  afterLastPipe : List Char

/-- The line that ends at the position reached, with literal text up to `textEnd`. -/
def State.finish (state : State) (start textEnd length : Nat) (lineEnd : Option Token) : Line :=
  { tokens := (addText state.textStart textEnd state.tokens).reverse
    length := state.here + length - start
    lineEnd
    pipes := state.pipes
    afterLastPipe := state.afterLastPipe
    braces := state.braces }

/-- The line that ends without a line end of its own. -/
def State.stop (state : State) (start : Nat) : Line :=
  let spaces := min (countWhile isInlineSpace state.before) (state.here - state.textStart)
  state.finish start (state.here - spaces) 0 none

/-- The line that ends with a line end of the given length. -/
def State.endLine (state : State) (start length : Nat) (atEnd : Bool) : Line :=
  let here := state.here
  let spaces := countWhile isInlineSpace state.before
  let lineEnd (kind : TokenKind) (from_ : Nat) : Option Token := some ⟨kind, from_, here + length⟩
  if countRun '\\' state.before % 2 == 1 && ! atEnd then
    state.finish start (here - 1) length (lineEnd (.hardBreak true) (here - 1))
  else if 2 ≤ spaces then
    state.finish start (here - spaces) length (lineEnd (.hardBreak false) (here - spaces))
  else state.finish start (here - spaces) length (lineEnd .softBreak here)

/-- Reads the rest of a line that starts at position `start`; in a table cell, up to its end. -/
def readFrom (inCell : Bool) (start : Nat) (state : State) : List Char → Line
  | [] => state.stop start
  | first :: rest =>
    let here := state.here
    let passed (length : Nat) : State :=
      { state with
        here := here + length
        before := ((first :: rest).take length).reverse ++ state.before }
    if isNewline first then
      if inCell then state.stop start
      else
        let length := (lineEnd? (first :: rest)).getD 1
        state.endLine start length (rest.drop (length - 1)).isEmpty
    else if first == '|' && state.before.head? != some '\\' then
      if inCell then state.stop start
      else
        readFrom inCell start
          { passed 1 with pipes := state.pipes + 1, afterLastPipe := rest } rest
    else if first == '\x7b' then
      readFrom inCell start { passed 1 with braces := state.braces.opened } rest
    else if first == '\x7d' then
      readFrom inCell start { passed 1 with braces := state.braces.closed } rest
    else
      match readNext inCell here state.before state.braces (here == start) first rest with
      | .literal length => readFrom inCell start (passed length) (rest.drop (length - 1))
      | .marks tokens resume length =>
        readFrom inCell start
          { passed length with
            textStart := here + resume
            tokens := tokens.reverse ++ addText state.textStart here state.tokens }
          (rest.drop (length - 1))
termination_by text => text.length
decreasing_by all_goals simp only [List.length_drop, List.length_cons]; omega

/-- Reads the line at a place, of which no more than the given text belongs to the block. -/
def read (inCell : Bool) (braces : Braces) (place : Place) (text : List Char) : Line :=
  readFrom inCell place.here
    { here := place.here, textStart := place.here, tokens := [], before := place.previous.toList
      braces, pipes := 0, afterLastPipe := [] } text

end Line

end DocIndex.Markdown
