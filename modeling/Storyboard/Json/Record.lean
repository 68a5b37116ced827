import Storyboard.Json.Reader
/-!
# Reading records

A record is written as an object, whose unknown members are skipped, or as an array of
its fields in the order of their declaration. A field may be written once only. A choice
between several records is written as one record with a tag in front: a member of its own
in an object, the first item of an array.
-/

namespace Storyboard

namespace Written

/-- The members with their keys, if every key has a text. -/
def keyed? : List (Option String × Written) → Option (List (String × Written))
  | [] => some []
  | (key, item) :: rest => do
    let key ← key
    let rest ← keyed? rest
    return (key, item) :: rest

/-- The one member of a name; none if it is repeated. -/
def member? (members : List (String × Written)) (name : String) : Option (Option Written) :=
  match members.filter fun member => member.1 == name with
  | [] => some none
  | [(_, item)] => some (some item)
  | _ => none

/-- What is written for each of the named fields of a record. -/
def record? (names : List String) : Written → Option (List (Option Written))
  | obj members => do
    let members ← keyed? members
    names.mapM (member? members)
  | arr items =>
    if items.length ≤ names.length then
      some ((List.range names.length).map fun i => items[i]?)
    else none
  | _ => none

/-- The tag of a choice and the record behind it. Everything in it must have a value. -/
def tagged? (tagName : String) (written : Written) : Option (String × Written) :=
  match written.value? greatestDepth, written with
  | some _, obj members => do
    let members ← keyed? members
    let tag ← member? members tagName
    match tag with
    | some (str (some tag)) =>
      let rest := members.filter fun member => member.1 != tagName
      return (tag, obj (rest.map fun member => (some member.1, member.2)))
    | _ => none
  | some _, arr (str (some tag) :: rest) => some (tag, arr rest)
  | _, _ => none

/-- Whether a record without fields is written. -/
def isBare : Written → Bool
  | obj _ => true
  | arr items => items.isEmpty
  | _ => false

/-- A text. -/
def text? : Written → Option String
  | str text => text
  | _ => none

/-- An integer below 2^64 that is not negative. -/
def natural? : Written → Option Nat
  | number (some (.int value)) => if 0 ≤ value then some value.toNat else none
  | _ => none

/-- The nesting left for the value of a record's field. -/
def fieldDepth : Nat := greatestDepth - 1

/-- An object. -/
def table? (written : Written) : Option Fields :=
  match written.value? fieldDepth with
  | some (.obj fields) => some fields
  | _ => none

/-- A name out of a few, written as text or as an object that has it as its only key, with
`null` as the value. -/
def name? : Written → Option String
  | str text => text
  | obj [(some name, null)] => some name
  | _ => none

end Written

end Storyboard
