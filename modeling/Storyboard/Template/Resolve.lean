import Storyboard.Json.Printer
import Storyboard.Template.Scopes
/-!
# Resolution

References in text and in JSON trees are replaced by what they refer to. Resolution
never fails: a reference without a value stays in the text as it was written. It is a
single pass: text that was put in is not searched again.
-/

namespace Storyboard

namespace Token

/-- The text that takes the place of a token. -/
def resolve (scopes : Scopes) : Token → String
  | literal text => text
  | placeholder reference =>
    match scopes.lookup reference with
    | some value => value.inlineText
    | none => reference.text

end Token

namespace Template

/-- A template with every reference that has a value replaced by its text. -/
def resolve (template : String) (scopes : Scopes) : String :=
  String.join ((tokens template).map (Token.resolve scopes))

/-- The value that a template stands for: a template that is one reference with a value
stands for that value, any other for its resolved text. -/
def resolveValue (template : String) (scopes : Scopes) : Json :=
  match tokens template with
  | [.placeholder reference] =>
    match scopes.lookup reference with
    | some value => value
    | none => .str (resolve template scopes)
  | _ => .str (resolve template scopes)

end Template

namespace Json

/-- The key that marks an object as an action. -/
def actionKey : String := "action"

mutual

/-- Resolves every string of a tree, keys aside. With `keepActions`, objects that are
actions stay as they are. -/
def resolveTree (keepActions : Bool) (scopes : Scopes) : Json → Json
  | str template => Template.resolveValue template scopes
  | arr items => arr (resolveItems keepActions scopes items)
  | obj fields =>
    if keepActions && Table.contains fields actionKey then obj fields
    else obj (resolveFields keepActions scopes fields)
  | value => value
termination_by structural value => value

@[inherit_doc resolveTree]
def resolveItems (keepActions : Bool) (scopes : Scopes) : List Json → List Json
  | [] => []
  | item :: rest => resolveTree keepActions scopes item :: resolveItems keepActions scopes rest
termination_by structural items => items

@[inherit_doc resolveTree]
def resolveFields (keepActions : Bool) (scopes : Scopes) :
    List (String × Json) → List (String × Json)
  | [] => []
  | (key, value) :: rest =>
    (key, resolveTree keepActions scopes value) :: resolveFields keepActions scopes rest
termination_by structural fields => fields

end

/-- A tree with every string resolved. -/
def resolve (value : Json) (scopes : Scopes) : Json :=
  value.resolveTree false scopes

/-- A screen with every string resolved, actions aside: they are resolved when they run. -/
def resolveScreen (value : Json) (scopes : Scopes) : Json :=
  value.resolveTree true scopes

end Json

/-- A table with every value resolved. -/
def Fields.resolve (fields : Fields) (scopes : Scopes) : Fields :=
  Json.resolveFields false scopes fields

end Storyboard
