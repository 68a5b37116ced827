/-!
# Templates

A template is text with references in it. A reference is a dollar sign and, in braces,
the name of a scope, a point and a key: letters for the scope, letters, digits and
underscores for the key. Whatever looks like a reference and is none belongs to the
text around it.

Main definitions: `Reference.read?` recognises one reference, `Template.tokens`
splits a template at the leftmost references that do not overlap.
-/

namespace Storyboard

/-- A reference to a value in a scope. -/
structure Reference where
  scope : String
  key : String
deriving DecidableEq, Repr

namespace Reference

/-- Whether a character may occur in the name of a scope. -/
def isScopeChar (c : Char) : Bool := c.isAlpha

/-- Whether a character may occur in a key. -/
def isKeyChar (c : Char) : Bool := c.isAlphanum || c == '_'

/-- The name and the key are of the right characters, and neither is empty. -/
def WellFormed (reference : Reference) : Prop :=
  reference.scope.toList ≠ [] ∧ (∀ c ∈ reference.scope.toList, isScopeChar c = true) ∧
    reference.key.toList ≠ [] ∧ ∀ c ∈ reference.key.toList, isKeyChar c = true

/-- The characters of the written reference. -/
def chars (reference : Reference) : List Char :=
  '$' :: '\x7b' :: (reference.scope.toList ++ '.' :: (reference.key.toList ++ ['\x7d']))

/-- The written reference. -/
def text (reference : Reference) : String :=
  String.ofList reference.chars

/-- The key and the closing brace at the start of a text. -/
def readKey? (scope text : List Char) : Option Reference :=
  match text.takeWhile isKeyChar, text.dropWhile isKeyChar with
  | [], _ => none
  | key, '\x7d' :: _ => some ⟨String.ofList scope, String.ofList key⟩
  | _, _ => none

/-- The reference that a text starts with. -/
def read? : List Char → Option Reference
  | '$' :: '\x7b' :: text =>
    match text.takeWhile isScopeChar, text.dropWhile isScopeChar with
    | [], _ => none
    | scope, '.' :: rest => readKey? scope rest
    | _, _ => none
  | _ => none

end Reference

/-- A piece of a template. -/
inductive Token where
  | literal (text : String)
  | placeholder (reference : Reference)
deriving DecidableEq, Repr

namespace Token

/-- The part of the template that a token stands for. -/
def text : Token → String
  | literal text => text
  | placeholder reference => reference.text

/-- The literal of the characters read so far, latest first, if there are any. -/
def ofPending : List Char → List Token
  | [] => []
  | pending => [literal (String.ofList pending.reverse)]

end Token

namespace Template

/-- The tokens of the rest of a template, `pending` being the literal characters just
before it, latest first, and `covered` the number of characters at its start that belong
to the placeholder before it. -/
def tokensFrom (pending : List Char) (covered : Nat) : List Char → List Token
  | [] => Token.ofPending pending
  | c :: rest =>
    match covered with
    | covered + 1 => tokensFrom pending covered rest
    | 0 =>
      match Reference.read? (c :: rest) with
      | some reference =>
        Token.ofPending pending ++
          .placeholder reference :: tokensFrom [] (reference.chars.length - 1) rest
      | none => tokensFrom (c :: pending) 0 rest

/-- The literals and placeholders of a template, in order. -/
def tokens (template : String) : List Token :=
  tokensFrom [] 0 template.toList

end Template

end Storyboard
