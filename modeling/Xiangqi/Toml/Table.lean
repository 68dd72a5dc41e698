/-!
# Tables of settings

A table maps keys to items, in the order in which they were given. A table is defined once, but it
may be mentioned before: by the header of a table inside it, or by dotted keys. The form of a table
remembers which of these brought it into being, since that decides what may still be added.
-/

namespace Xiangqi.Toml

/-- What brought a table into being. -/
inductive Form where
  /-- The header of a table inside it. -/
  | implied
  /-- A dotted key that leads through it. -/
  | dotted
  /-- A header of its own. -/
  | header
  /-- A value in braces, which is complete. -/
  | inline
deriving DecidableEq

/-- A value, or a table with its members. -/
inductive Item where
  | text (value : String)
  | bool (value : Bool)
  | array (elements : List Item)
  | table (form : Form) (members : List (String × Item))

/-- The members of a table. -/
abbrev Members := List (String × Item)

namespace Members

/-- The item under a key. -/
def get? (members : Members) (key : String) : Option Item :=
  (members.find? fun member => member.1 == key).map Prod.snd

/-- The members with the item under a key replaced, or with a new member at the end. -/
def put (members : Members) (key : String) (item : Item) : Members :=
  if members.any fun member => member.1 == key then
    members.map fun member => if member.1 == key then (key, item) else member
  else
    members ++ [(key, item)]

/-- Change the item under a key, given what it is now; fails if the change does. -/
def alter (members : Members) (key : String) (change : Option Item → Option Item) :
    Option Members :=
  (change (members.get? key)).map (members.put key)

/-- Give a value to a dotted key. The last part must be new, the table it belongs to must have come
into being by dotted keys, and the tables on the way must not have been defined otherwise. -/
def assign (item : Item) : List String → Members → Option Members
  | [], _ => none
  | [key], members =>
    members.alter key fun
      | none => some item
      | some _ => none
  | key :: next :: rest, members =>
    members.alter key fun
      | none => (assign item (next :: rest) []).map (.table .dotted)
      | some (.table form inner) =>
        if form = .dotted ∨ (form = .implied ∧ rest ≠ []) then
          (assign item (next :: rest) inner).map (.table form)
        else
          none
      | some _ => none

/-- Define the table of a header. It must be new, or have been mentioned in headers only. -/
def define : List String → Members → Option Members
  | [], _ => none
  | [key], members =>
    members.alter key fun
      | none => some (.table .header [])
      | some (.table .implied inner) => some (.table .header inner)
      | some _ => none
  | key :: next :: rest, members =>
    members.alter key fun
      | none => (define (next :: rest) []).map (.table .implied)
      | some (.table .inline _) => none
      | some (.table form inner) => (define (next :: rest) inner).map (.table form)
      | some _ => none

/-- Change the table that a path of keys leads to. -/
def within (change : Members → Option Members) : List String → Members → Option Members
  | [], members => change members
  | key :: rest, members =>
    members.alter key fun
      | some (.table form inner) => (within change rest inner).map (.table form)
      | _ => none

end Members

/-- A line of a document. -/
inductive Statement where
  | header (path : List String)
  | assign (path : List String) (item : Item)

/-- A document while it is read: all tables, and the path of the one that lines now belong to. -/
structure Document where
  members : Members
  current : List String

/-- Take in one statement; fails if it repeats or contradicts an earlier one. -/
def Document.take (document : Document) : Statement → Option Document
  | .header path => do
    let members ← Members.define path document.members
    return ⟨members, path⟩
  | .assign path item => do
    let members ← Members.within (Members.assign item path) document.current document.members
    return { document with members := members }

/-- The top table of a document. -/
def Document.ofStatements? (statements : List Statement) : Option Members := do
  let document ← statements.foldlM Document.take ⟨[], []⟩
  return document.members

end Xiangqi.Toml
