import DocIndex.Markdown.Cursor

/-!
# Places in the source

A place is a position in a Markdown document together with the source that is left there and the
character before it.
-/

namespace DocIndex.Markdown

/-- A place in the source. -/
structure Place where
  /-- The number of characters before the place. -/
  here : Nat
  /-- The character before the place. -/
  previous : Option Char
  /-- The source from the place on. -/
  rest : List Char

namespace Place

/-- The place at the start of a document. -/
def start (text : List Char) : Place := ⟨0, none, text⟩

/-- The place a number of characters later. -/
def advance (place : Place) (count : Nat) : Place :=
  { here := place.here + count
    previous := (place.rest.take count).getLast?.or place.previous
    rest := place.rest.drop count }

/-- The place of a cursor that started from this place. -/
def follow (place : Place) (cursor : Cursor) : Place := place.advance cursor.passed

/-- The cursor at a place where a line begins. -/
def cursor (place : Place) : Cursor := Cursor.start place.rest

/-- The start of the next line. -/
def nextLine (place : Place) : Place := place.advance (lineLength place.rest)

/-- The place after the blank rest of a line, when there is nothing else in it. -/
def blankLine? (place : Place) : Option Place := (Markdown.blankLine? place.rest).map place.advance

/-- The place after the rest of the line if it is blank, else the place itself. -/
def passBlank (place : Place) : Place := place.blankLine?.getD place

end Place

end DocIndex.Markdown
