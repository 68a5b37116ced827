/-!
# Searching texts

Whether a text starts with another one, and whether it holds it anywhere.
-/

namespace Storyboard

namespace Text

/-- Whether characters start with a pattern. -/
def startsWith (pattern : String) (text : List Char) : Bool :=
  pattern.toList.isPrefixOf text

/-- Whether characters hold a pattern, at whatever place. -/
def holds (pattern : String) : List Char → Bool
  | [] => startsWith pattern []
  | c :: rest => startsWith pattern (c :: rest) || holds pattern rest

/-- What follows a pattern that characters start with. -/
def after? (pattern : String) (text : List Char) : Option (List Char) :=
  if startsWith pattern text then some (text.drop pattern.length) else none

theorem startsWith_iff {pattern : String} {text : List Char} :
    startsWith pattern text ↔ pattern.toList <+: text := by
  simp [startsWith]

theorem holds_iff {pattern : String} {text : List Char} :
    holds pattern text ↔ pattern.toList <:+: text := by
  induction text with
  | nil => simp [holds, startsWith_iff]
  | cons c rest ih => simp [holds, startsWith_iff, ih, List.infix_cons_iff]

end Text

end Storyboard
