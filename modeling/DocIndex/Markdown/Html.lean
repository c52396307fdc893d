import DocIndex.Markdown.Scan

/-!
# HTML in Markdown

How HTML blocks begin and end, and the extent of tags, comments and declarations within text.
-/

namespace DocIndex.Markdown

/-- The elements whose blocks end with their closing tag, and that tag. -/
def verbatimElements : List (String × String) :=
  [("pre", "</pre>"), ("style", "</style>"), ("script", "</script>"), ("textarea", "</textarea>")]

/-- The beginnings of comments, instructions and character data, and their ends. -/
def htmlSections : List (String × String) := [("!--", "-->"), ("?", "?>"), ("![CDATA[", "]]>")]

/-- The text that ends an HTML block which ends with a text, by what follows its opening bracket. -/
def htmlBlockEnd? (text : List Char) : Option (List Char) :=
  let verbatim := verbatimElements.find? fun (element, _) =>
    startsWithIgnoringCase element.toList text &&
      (text.drop element.length).head?.all fun c => isAsciiSpace c || c == '>'
  match verbatim with
  | some (_, closing) => some closing.toList
  | none =>
    match htmlSections.find? fun (opening, _) => startsWith opening.toList text with
    | some (_, closing) => some closing.toList
    | none =>
      match text with
      | '!' :: c :: _ => if c.isAlpha then some ['>'] else none
      | _ => none

/-- The elements that begin a block wherever their tags stand at the start of a line. -/
def blockElements : List String :=
  ["address", "article", "aside", "base", "basefont", "blockquote", "body", "caption", "center",
   "col", "colgroup", "dd", "details", "dialog", "dir", "div", "dl", "dt", "fieldset", "figcaption",
   "figure", "footer", "form", "frame", "frameset", "h1", "h2", "h3", "h4", "h5", "h6", "head",
   "header", "hr", "html", "iframe", "legend", "li", "link", "main", "menu", "menuitem", "nav",
   "noframes", "ol", "optgroup", "option", "p", "param", "search", "section", "summary", "table",
   "tbody", "td", "tfoot", "th", "thead", "title", "tr", "track", "ul"]

/-- Whether the tag of a block element follows an opening angle bracket. -/
def startsBlockElement (text : List Char) : Bool :=
  let text := if text.head? == some '/' then text.drop 1 else text
  let name := text.takeWhile Char.isAlphanum
  let after := text.drop name.length
  blockElements.contains (String.ofList (name.map Char.toLower)) &&
    (after.isEmpty || after.head?.any (fun c => c == ' ' || c == '\t' || isNewline c || c == '>') ||
      startsWith ['/', '>'] after)

/--
What is passed after a line end inside a tag: the markers of the blocks around it. Nothing at all
where a tag has to end in its line.
-/
abbrev TagLines := Option (List Char → Nat)

/-- The length of whitespace, line ends included, inside a tag. -/
def tagSpace? (lines : TagLines) : List Char → Option Nat
  | [] => some 0
  | c :: rest =>
    if isInlineSpace c then (tagSpace? lines rest).map (· + 1)
    else if isNewline c then
      match lines with
      | none => none
      | some passed =>
        let ending := (lineEnd? (c :: rest)).getD 1
        let following := rest.drop (ending - 1)
        let skipped := passed following
        (tagSpace? lines (following.drop skipped)).map (ending + skipped + ·)
    else some 0
termination_by text => text.length
decreasing_by all_goals simp only [List.length_drop, List.length_cons]; omega

/-- The length of a quoted attribute value, counted from after the opening quote. -/
def quotedValue? (lines : TagLines) (quote : Char) : List Char → Option Nat
  | [] => none
  | c :: rest =>
    if c == quote then some 1
    else if isNewline c then
      match lines with
      | none => none
      | some passed =>
        let ending := (lineEnd? (c :: rest)).getD 1
        let following := rest.drop (ending - 1)
        let skipped := passed following
        (quotedValue? lines quote (following.drop skipped)).map (ending + skipped + ·)
    else (quotedValue? lines quote rest).map (· + 1)
termination_by text => text.length
decreasing_by all_goals simp only [List.length_drop, List.length_cons]; omega

/-- The signs that end an attribute value without quotes. -/
def endsBareValue (c : Char) : Bool :=
  c == '\'' || c == '"' || c == ' ' || c == '=' || c == '>' || c == '<' || c == '`' || isNewline c

/-- The length of an attribute value. -/
def attributeValue? (lines : TagLines) (text : List Char) : Option Nat :=
  match text with
  | [] => none
  | c :: rest =>
    if c == '"' || c == '\'' then (quotedValue? lines c rest).map (· + 1)
    else if endsBareValue c then none
    else some (countWhile (! endsBareValue ·) text)

/-- The length of an attribute, its value included. -/
def attribute? (lines : TagLines) (text : List Char) : Option Nat :=
  match text with
  | [] => none
  | first :: rest =>
    if ! (first.isAlpha || first == '_' || first == ':') then none
    else
      let name := 1 + countWhile
        (fun c => c.isAlphanum || c == '_' || c == '.' || c == ':' || c == '-') rest
      (tagSpace? lines (text.drop name)).bind fun before =>
        if (text.drop (name + before)).head? != some '=' then some name
        else
          let equals := name + before + 1
          (tagSpace? lines (text.drop equals)).bind fun after =>
            (attributeValue? lines (text.drop (equals + after))).map (equals + after + ·)

/--
The length of the attributes of a tag and of the space among them; `fuel` bounds their number.
-/
def attributes? (lines : TagLines) (fuel : Nat) (text : List Char) : Option Nat :=
  match fuel with
  | 0 => none
  | fuel + 1 =>
    (tagSpace? lines text).bind fun space =>
      let after := text.drop space
      match after with
      | [] => none
      | c :: _ =>
        if c == '/' || c == '>' then some space
        else if space == 0 then none
        else
          (attribute? lines after).bind fun length =>
            (attributes? lines fuel (after.drop length)).map (space + length + ·)

/-- The length of a tag, from its opening to its closing angle bracket. -/
def tag? (lines : TagLines) (text : List Char) : Option Nat :=
  match text with
  | '<' :: rest =>
    let closing := rest.head? == some '/'
    let nameStart := if closing then 2 else 1
    let letters := countWhile Char.isAlpha (text.drop nameStart)
    if letters == 0 then none
    else
      let nameEnd := nameStart + letters +
        countWhile (fun c => c.isAlphanum || c == '-') (text.drop (nameStart + letters))
      let content :=
        if closing then some nameEnd
        else (attributes? lines text.length (text.drop nameEnd)).map (nameEnd + ·)
      content.bind fun content =>
        let content := content + countWhile isInlineSpace (text.drop content)
        let slash := if ! closing && (text.drop content).head? == some '/' then 1 else 0
        if (text.drop (content + slash)).head? == some '>' then some (content + slash + 1) else none
  | _ => none

/-- Whether a line consists of one complete tag. -/
def isTagLine (text : List Char) : Bool :=
  match tag? none text with
  | none => false
  | some length => (blankLine? (text.drop length)).isSome

/-- The length of a comment, counted from after the two hyphens that open it. -/
def commentEnd? (text : List Char) : Option Nat :=
  match text with
  | '>' :: _ => some 1
  | '-' :: '>' :: _ => some 2
  | _ => (findText? ['-', '-', '>'] text).map (· + 3)

/-- The length of HTML within text, from its opening angle bracket; `lines` as for tags. -/
def inlineHtml? (lines : TagLines) (text : List Char) : Option Nat :=
  match text with
  | '<' :: '!' :: '-' :: '-' :: rest => (commentEnd? rest).map (4 + ·)
  | '<' :: '!' :: '[' :: 'C' :: 'D' :: 'A' :: 'T' :: 'A' :: '[' :: rest =>
    let before := countWhile (· != ']') rest
    let brackets := countRun ']' (rest.drop before)
    if brackets != 0 && (rest.drop (before + brackets)).head? == some '>' then
      some (9 + before + brackets + 1)
    else none
  | '<' :: '!' :: c :: rest =>
    if c.isAlpha then (findText? ['>'] rest).map (3 + · + 1) else none
  | '<' :: '?' :: rest => (findText? ['?', '>'] rest).map (2 + · + 2)
  | _ => tag? lines text

end DocIndex.Markdown
