import DocIndex.Markdown.Container
import DocIndex.Markdown.Link
import DocIndex.Markdown.Line

/-!
# Code, math, HTML and links in text

The first step from the tokens of a block to its inline structure. It goes from left to right: code
spans, math and HTML take in the tokens that they cover, and a closing bracket may turn what follows
an opening one into a link or an image. Runs of delimiters stay as they are, for `Emphasis`.
-/

namespace DocIndex.Markdown

/-- The kinds of inline structure without a structure of their own. -/
inductive LeafKind
  | text | softBreak | hardBreak | code | math | displayMath | html | footnote | task
  deriving DecidableEq, Repr

/-- The kinds of inline structure that hold others. -/
inductive SpanKind
  | emphasis | strong | strikethrough | subscript | superscript | link | image
  deriving DecidableEq, Repr

/-- A piece of the text of a block, in which runs of delimiters have not been paired yet. -/
inductive Piece
  | leaf (kind : LeafKind) (start stop : Nat)
  | delimiters (delimiter : Char) (opens closes : Bool) (start stop : Nat)
  | link (kind : SpanKind) (start stop : Nat) (children : List Piece)

namespace Piece

/-- The position at which a piece ends. -/
def stop : Piece → Nat
  | leaf _ _ stop => stop
  | delimiters _ _ _ _ stop => stop
  | link _ _ stop _ => stop

/-- The position at which a piece starts. -/
def start : Piece → Nat
  | leaf _ start _ => start
  | delimiters _ _ _ start _ => start
  | link _ start _ _ => start

/-- A piece that starts at the given position. -/
def withStart (start : Nat) : Piece → Piece
  | leaf kind _ stop => leaf kind start stop
  | delimiters delimiter opens closes _ stop => delimiters delimiter opens closes start stop
  | link kind _ stop children => link kind start stop children

end Piece

/-- What an opening bracket may begin. -/
inductive Opener
  | link | image
  /-- A link that may not be one any more, because there is a link inside it. -/
  | disabled
  deriving DecidableEq, Repr

/-- An opening bracket that has no closing bracket yet. -/
structure OpenBracket where
  opener : Opener
  /-- The number of pieces before the one of the bracket. -/
  index : Nat
  start : Nat
  stop : Nat

namespace OpenBracket

/-- No link may hold another one. -/
def disable (bracket : OpenBracket) : OpenBracket :=
  if bracket.opener == .link then { bracket with opener := .disabled } else bracket

/-- The kind of structure that the bracket begins. -/
def spanKind (bracket : OpenBracket) : SpanKind :=
  if bracket.opener == .image then .image else .link

end OpenBracket

/-- The text of a block, and what the rest of the document means for it. -/
structure Passage where
  /-- The position at which the text starts. -/
  start : Nat
  text : List Char
  /-- The blocks around it, the outermost one first. -/
  kinds : List BlockKind
  /-- The labels for which there are link definitions. -/
  labels : List (List Char)

namespace Passage

/-- The text from a position on. -/
def textFrom (passage : Passage) (position : Nat) : List Char :=
  passage.text.drop (position - passage.start)

/-- The number of characters in the marks of the containers at the start of a line. -/
def containerLength (passage : Passage) (line : List Char) : Nat :=
  ((Cursor.start line).containers passage.kinds).2.passed

/-- The label at the start of a text, which may go on over the end of a line. -/
def label? (passage : Passage) (text : List Char) : Option Label :=
  Markdown.label? (fun line => some (passage.containerLength line)) text

/-- The length of the space between the parts of a link, in which one line may end. -/
def separator (passage : Passage) (text : List Char) : Nat :=
  let before := countWhile isInlineSpace text
  let ending := (lineEnd? (text.drop before)).getD 0
  let line := text.drop (before + ending)
  let marks := if ending == 0 then 0 else passage.containerLength line
  before + ending + marks + countWhile isInlineSpace (line.drop marks)

/--
The length of the title of a link, counted from after its opening sign, at position `here`. After a
line end the title goes on where the next token starts.
-/
def titleEnd? (opening close : Char) (tokens : List Token) (here : Nat) : List Char → Option Nat
  | [] => none
  | c :: rest =>
    let pass (count : Nat) : Option Nat :=
      (titleEnd? opening close tokens (here + 1 + count) (rest.drop count)).map (· + 1 + count)
    if c == close then some 1
    else if c == opening then none
    else if isNewline c then
      match tokens.find? fun token => here + 1 < token.stop with
      | some token => pass (token.start - here - 1)
      | none => pass 0
    else if c == '\\' && rest.head?.any isAsciiPunctuation then pass 1
    else pass 0
termination_by text => text.length
decreasing_by all_goals simp only [List.length_drop, List.length_cons]; omega

/-- The position at which the destination in parentheses after position `here` ends. -/
def inlineLink? (passage : Passage) (tokens : List Token) (here : Nat) : Option Nat :=
  match passage.textFrom here with
  | '(' :: rest =>
    let before := passage.separator rest
    (destination? 5 (rest.drop before)).bind fun destination =>
      let after := before + destination
      let after := after + passage.separator (rest.drop after)
      let title? := (rest.drop after).head?.bind fun opening =>
        (titleClose? opening).bind fun close =>
          titleEnd? opening close tokens (here + 2 + after) (rest.drop (after + 1))
      let close := match title? with
        | none => after
        | some title =>
          let titled := after + 1 + title
          titled + passage.separator (rest.drop titled)
      if (rest.drop close).head? == some ')' then some (here + 2 + close) else none
  | _ => none

end Passage

/-- The pieces found so far, and the brackets that stand open. -/
structure Brackets where
  /-- The pieces, the last one first. -/
  pieces : List Piece
  /-- The open brackets, the last one first. -/
  opened : List OpenBracket
  /-- The first brackets of two that stand together, the last one first. -/
  doubled : List OpenBracket

namespace Brackets

/-- Adds a piece. -/
def add (piece : Piece) (state : Brackets) : Brackets :=
  { state with pieces := piece :: state.pieces }

/-- Adds a piece without a structure of its own. -/
def leaf (kind : LeafKind) (start stop : Nat) (state : Brackets) : Brackets :=
  state.add (.leaf kind start stop)

/-- Adds an opening bracket, which another one may follow at once. -/
def openBracket (opener : Opener) (token : Token) (later : List Token) (state : Brackets) :
    Brackets :=
  let bracket : OpenBracket := ⟨opener, state.pieces.length, token.start, token.stop⟩
  let isDoubled := later.head?.any (·.kind == .linkOpen)
  { pieces := .leaf .text token.start token.stop :: state.pieces
    opened := bracket :: state.opened
    doubled := if isDoubled then bracket :: state.doubled else state.doubled }

/-- No open bracket may become a link. -/
def disableLinks (state : Brackets) : Brackets :=
  { state with
    opened := state.opened.map OpenBracket.disable
    doubled := state.doubled.map OpenBracket.disable }

/-- The pieces after that of a bracket, in order. -/
def inside (bracket : OpenBracket) (state : Brackets) : List Piece :=
  (state.pieces.take (state.pieces.length - (bracket.index + 1))).reverse

/-- Replaces the piece of a bracket and all later ones by the given piece. -/
def replaceFrom (bracket : OpenBracket) (piece : Piece) (state : Brackets) : Brackets :=
  { state with pieces := piece :: state.pieces.drop (state.pieces.length - bracket.index) }

/-- Makes a link or an image of the pieces from a bracket on. -/
def closeLink (bracket : OpenBracket) (stop : Nat) (state : Brackets) : Brackets :=
  let link : Piece := .link bracket.spanKind bracket.start stop (state.inside bracket)
  let state := state.replaceFrom bracket link
  if bracket.opener == .link then state.disableLinks else state

end Brackets

/-- The tokens from a position on; the first one starts there if it began before. -/
def tokensFrom (position : Nat) (tokens : List Token) : List Token :=
  match tokens.dropWhile (·.stop ≤ position) with
  | [] => []
  | token :: later => { token with start := max token.start position } :: later

/-- The run of backticks of the given length, and the tokens after it. -/
def closingCode? (length : Nat) : List Token → Option (Token × List Token)
  | [] => none
  | token :: later =>
    match token.kind with
    | .code _ =>
      if token.stop - token.start == length then some (token, later) else closingCode? length later
    | _ => closingCode? length later

/-- Whether a token is a dollar sign. -/
def isMath (token : Token) : Bool :=
  match token.kind with
  | .math .. => true
  | _ => false

/--
The end of the math that is opened within the given brace, and the tokens after it: the next dollar
sign within the same brace has to close it, and has to be doubled for a formula of its own.
-/
def closingMath? (display : Bool) (brace : Nat) : List Token → Option (Nat × List Token)
  | [] => none
  | token :: later =>
    match token.kind with
    | .math _ closes inside =>
      if inside != brace then closingMath? display brace later
      else if display then
        match later with
        | second :: later => if isMath second then some (second.stop, later) else none
        | [] => none
      else if closes then some (token.stop, later) else none
    | _ => closingMath? display brace later

/-- The tokens, of which the one that reaches beyond a position can name no reference by itself. -/
def withoutReference (position : Nat) : List Token → List Token
  | [] => []
  | token :: later =>
    if token.stop ≤ position then token :: withoutReference position later
    else { token with kind := .linkClose false } :: later

/--
What becomes of a closing bracket that stands before another one: the pieces, and the tokens after
both brackets, when they close a link in double brackets.
-/
def closeDouble? (passage : Passage) (token : Token) (later : List Token) (bracket : OpenBracket)
    (state : Brackets) : Option (Brackets × List Token) :=
  let body := (state.inside bracket).drop 1
  let bodyStart := (body.head?.map Piece.start).getD token.start
  let text := (passage.textFrom bodyStart).take (token.start - bodyStart)
  let name := text.takeWhile (· != '|')
  if bracket.opener == .disabled || name.isEmpty then none
  else
    let children :=
      if name.length == text.length then [.leaf .text bodyStart token.start]
      else
        let visible := bodyStart + name.length + 1
        match body.dropWhile (·.stop ≤ visible) with
        | [] => []
        | first :: others => first.withStart visible :: others
    let link : Piece := .link bracket.spanKind bracket.start (token.start + 2) children
    some ((state.replaceFrom bracket link).disableLinks, later.drop 1)

/-- How a link refers to its definition. -/
inductive Referral
  /-- By a label of its own, which ends at position `stop`. -/
  | label (text : List Char) (stop : Nat)
  /-- By its text, before a pair of brackets. -/
  | collapsed
  /-- By its text alone. -/
  | shortcut

/-- What follows a closing bracket that may close a link with a definition. -/
def referral (passage : Passage) (later : List Token) : Referral :=
  match later with
  | [] => .shortcut
  | next :: _ =>
    let text := passage.textFrom next.start
    if startsWith ['[', ']'] text then .collapsed
    else
      match passage.label? text with
      | some label =>
        if label.footnote then .shortcut else .label label.text (next.start + label.length)
      | none => .shortcut

/--
What becomes of a closing bracket with the given opening one, when no destination follows it: a link
with a definition, or a reference to a footnote. Gives the pieces and the tokens after them.
-/
def closeReference (passage : Passage) (token : Token) (reference : Bool) (later : List Token)
    (bracket : OpenBracket) (state : Brackets) : Brackets × List Token :=
  let literal := state.leaf .text token.start token.stop
  let byText (after : List Token) : Brackets × List Token :=
    let labelStart := bracket.stop - 1
    let source := (passage.textFrom labelStart).take (token.stop - labelStart)
    match (passage.label? source).filter (·.length == source.length) with
    | none => (literal, later)
    | some label =>
      if label.footnote then
        let opened := { state with opened := [] }
        if bracket.opener == .image then
          let sign : Piece := .leaf .text bracket.start (bracket.start + 1)
          ((opened.replaceFrom bracket sign).leaf .footnote (bracket.start + 1) token.stop, later)
        else (opened.replaceFrom bracket (.leaf .footnote bracket.start token.stop), later)
      else if passage.labels.contains label.text then (state.closeLink bracket token.stop, after)
      else (literal, later)
  match referral passage later with
  | .label text stop =>
    if passage.labels.contains text then
      (state.closeLink bracket stop, (later.dropWhile (·.stop ≤ stop - 1)).drop 1)
    else (literal, withoutReference (stop - 1) later)
  | .collapsed => if reference then byText (later.drop 2) else (literal, later)
  | .shortcut => if reference then byText later else (literal, later)

/-- What becomes of a closing bracket: the pieces, and the tokens after it. -/
def closeBracket (passage : Passage) (token : Token) (reference : Bool) (later : List Token)
    (state : Brackets) : Brackets × List Token :=
  let bracket? := state.opened.head?
  let state := { state with opened := state.opened.drop 1 }
  let isDoubled := later.head?.any fun next => match next.kind with
    | .linkClose _ => true
    | _ => false
  let double? := if isDoubled then state.doubled.head? else none
  let state := if isDoubled then { state with doubled := state.doubled.drop 1 } else state
  match double?.bind fun bracket => closeDouble? passage token later bracket state with
  | some closed => closed
  | none =>
    let literal := (state.leaf .text token.start token.stop, later)
    match bracket? with
    | none => literal
    | some bracket =>
      if bracket.opener == .disabled then literal
      else
        match passage.inlineLink? later token.stop with
        | some stop => (state.closeLink bracket stop, tokensFrom stop later)
        | none => closeReference passage token reference later bracket state

/-- Finds code, math, HTML and links among tokens; `fuel` bounds their number. -/
def piecesFrom (passage : Passage) (fuel : Nat) (state : Brackets) (tokens : List Token) :
    List Piece :=
  match fuel, tokens with
  | 0, _ | _, [] => state.pieces.reverse
  | fuel + 1, token :: later =>
    let continue_ (state : Brackets) (tokens : List Token) := piecesFrom passage fuel state tokens
    let literal (kind : LeafKind) := continue_ (state.leaf kind token.start token.stop) later
    match token.kind with
    | .text | .replaced => literal .text
    | .softBreak => literal .softBreak
    | .hardBreak _ => literal .hardBreak
    | .html => literal .html
    | .task => literal .task
    | .emphasis delimiter opens closes =>
      continue_ (state.add (.delimiters delimiter opens closes token.start token.stop)) later
    | .angle =>
      match later with
      | [] => literal .text
      | next :: _ =>
        let lines : TagLines := some passage.containerLength
        match automaticLink? (passage.textFrom next.start) with
        | some length =>
          let stop := next.start + length
          let address : Piece := .leaf .text (token.start + 1) (stop - 1)
          continue_ (state.add (.link .link token.start stop [address])) (tokensFrom stop later)
        | none =>
          match inlineHtml? lines (passage.textFrom (next.start - 1)) with
          | some length =>
            let stop := next.start - 1 + length
            continue_ (state.leaf .html token.start stop) (tokensFrom stop later)
          | none => literal .text
    | .math opens _ brace =>
      let display := later.head?.any isMath
      let content := later.drop (if display then 1 else 0)
      match if opens then closingMath? display brace content else none with
      | some (stop, after) =>
        continue_ (state.leaf (if display then .displayMath else .math) token.start stop) after
      | none => literal .text
    | .code escaped =>
      let length := token.stop - token.start - (if escaped then 1 else 0)
      match if length == 0 then none else closingCode? length later with
      | none => literal .text
      | some (closing, after) =>
        if escaped then
          continue_ ((state.leaf .text token.start (token.start + 1)).leaf .code (token.start + 1)
            closing.stop) after
        else continue_ (state.leaf .code token.start closing.stop) after
    | .linkOpen => continue_ (state.openBracket .link token later) later
    | .imageOpen => continue_ (state.openBracket .image token later) later
    | .linkClose reference =>
      let (state, later) := closeBracket passage token reference later state
      continue_ state later

/-- The pieces of a passage with the given tokens. -/
def pieces (passage : Passage) (tokens : List Token) : List Piece :=
  piecesFrom passage tokens.length ⟨[], [], []⟩ tokens

end DocIndex.Markdown
