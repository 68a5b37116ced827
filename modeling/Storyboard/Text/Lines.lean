/-!
# Pieces and lines

A text is cut at every occurrence of a separator, or into lines: a line ends at a line
feed, a carriage return before it belongs to the end and not to the line, and after the
last line feed there is no further line unless it has characters.
-/

namespace Storyboard

namespace Text

/-- The pieces between separators; there is one more of them than separators. -/
def pieces (separator : Char) : List Char → List (List Char)
  | [] => [[]]
  | c :: rest =>
    if c = separator then [] :: pieces separator rest
    else
      match pieces separator rest with
      | [] => [[c]]
      | piece :: others => (c :: piece) :: others

/-- The texts between separators. -/
def splitAt (separator : Char) (text : String) : List String :=
  (pieces separator text.toList).map String.ofList

/-- A line without the carriage return that ends it. -/
def dropReturn : List Char → List Char
  | [] => []
  | ['\r'] => []
  | c :: rest => c :: dropReturn rest

/-- The lines of characters: every piece but the last was ended by a line feed, and the
last is a line only if it has characters. -/
def lineChars : List (List Char) → List (List Char)
  | [] => []
  | [last] => if last.isEmpty then [] else [last]
  | line :: rest => dropReturn line :: lineChars rest

/-- The lines of a text. -/
def lines (text : String) : List String :=
  (lineChars (pieces '\n' text.toList)).map String.ofList

theorem pieces_ne_nil (separator : Char) (text : List Char) : pieces separator text ≠ [] := by
  cases text with
  | nil => simp [pieces]
  | cons c rest =>
    simp only [pieces]
    split
    · simp
    · split <;> simp

/-- Without a separator there is one piece. -/
theorem pieces_of_not_mem {separator : Char} {text : List Char} (h : separator ∉ text) :
    pieces separator text = [text] := by
  induction text with
  | nil => rfl
  | cons c rest ih =>
    simp only [List.mem_cons, not_or] at h
    simp [pieces, ih h.2, Ne.symm h.1]

/-- The first separator ends the first piece. -/
theorem pieces_append {separator : Char} {piece : List Char} (h : separator ∉ piece)
    (rest : List Char) :
    pieces separator (piece ++ separator :: rest) = piece :: pieces separator rest := by
  induction piece with
  | nil => simp [pieces]
  | cons c piece ih =>
    simp only [List.mem_cons, not_or] at h
    simp [pieces, ih h.2, Ne.symm h.1]

end Text

end Storyboard
