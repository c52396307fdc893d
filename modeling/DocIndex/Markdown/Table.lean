import DocIndex.Markdown.Draft

/-!
# Tables

The rows of a table are lines whose cells are divided by pipes. Every row has the number of columns
of the delimiter row: cells that are missing are empty ones at its end, and further cells are
dropped.
-/

namespace DocIndex.Markdown

/-- The cells of a row from the place on, and the place after the row. -/
def tableCells (braces : Braces) (place : Place) : List Node × Place :=
  let start := place.advance (if place.rest.head? == some '|' then 1 else 0)
  let content := start.advance (countWhile isInlineSpace start.rest)
  match lineEnd? content.rest with
  | some length => ([], content.advance length)
  | none =>
    let line := Line.read true braces content content.rest
    let next := content.advance line.length
    let cell : Node := .block .tableCell start.here next.here (line.tokens.map .token)
    if next.rest.length < place.rest.length then
      let (cells, stop) := tableCells line.braces next
      (cell :: cells, stop)
    else ([cell], next)
termination_by place.rest.length
decreasing_by assumption

namespace Draft

/-- Reads a row with the given number of columns, if there are cells in it. -/
def tableRow? (kind : BlockKind) (columns : Nat) (draft : Draft) (place : Place) :
    Option (Draft × Place) :=
  let (cells, next) := tableCells draft.braces place
  if cells.isEmpty then none
  else
    let missing := List.replicate (columns - cells.length)
      (Node.block .tableCell next.here next.here [])
    let row := Node.block kind place.here next.here (cells.take columns ++ missing)
    some (draft.append row, next)

/-- Reads the rows of a table up to the first line that is none of them. -/
def tableRows (columns : Nat) (draft : Draft) (place : Place) : Draft × Place :=
  let row? := (draft.allContainers? place).bind fun cursor =>
    let line := place.follow cursor.allSpaces
    if startsBlock draft.kinds true line.rest then none
    else draft.tableRow? .tableRow columns line
  match row? with
  | none => (draft.pop place.here, place)
  | some (draft, next) =>
    if next.rest.length < place.rest.length then tableRows columns draft next
    else (draft.pop next.here, next)
termination_by place.rest.length

/-- Reads a table in the innermost block, from its head at `place` and its rows at `rows` on. -/
def table (columns : Nat) (draft : Draft) (place rows : Place) : Draft × Place :=
  let draft := (draft.mapKind fun _ => .table).mapChildren fun _ => []
  let draft := match draft.tableRow? .tableHead columns place with
    | none => draft
    | some (draft, _) => draft
  draft.tableRows columns rows

end Draft

end DocIndex.Markdown
