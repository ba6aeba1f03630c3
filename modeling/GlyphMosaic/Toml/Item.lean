/-!
# TOML documents as data

A document is a table of items.  A table remembers how it came about, because that decides what may
be added to it later: a table may be defined by a header only once, a dotted key may only extend
tables that dotted keys or longer headers made, and an inline table is complete.

`Table.descend` walks down a path of keys, making the tables that are missing, and changes the table
at its end.
-/

namespace GlyphMosaic

namespace Toml

/-- How a table came about. -/
inductive Origin where
  /-- A header of its own, or an element of an array of tables. -/
  | header
  /-- A header of a table inside it. -/
  | path
  /-- A dotted key. -/
  | dotted
  /-- Written inline. -/
  | inline
  deriving DecidableEq

/-- A dotted key may extend such a table. -/
def Origin.isImplicit : Origin → Bool
  | .path | .dotted => true
  | .header | .inline => false

/-- What a key can stand for. -/
inductive Item where
  | string (s : String)
  | integer (i : Int)
  /-- A number by its double-precision bits. -/
  | float (bits : Nat)
  | boolean (b : Bool)
  | datetime
  | array (items : List Item)
  | table (origin : Origin) (entries : List (String × Item))
  /-- An array of tables, the last one first. -/
  | tables (elements : List (List (String × Item)))

/-- The entries of a table. -/
abbrev Table := List (String × Item)

namespace Table

/-- The item of a key. -/
def get? (t : Table) (key : String) : Option Item := t.lookup key

/-- Adds a key. -/
def insert (t : Table) (key : String) (item : Item) : Table := (key, item) :: t

/-- Removes a key. -/
def erase (t : Table) (key : String) : Table := t.filter fun entry => entry.1 ≠ key

/-- Replaces the item of a key. -/
def replace (t : Table) (key : String) (item : Item) : Table := (t.erase key).insert key item

/-- Changes the table at the end of a path, below a table with an origin; `change` gets that table's
origin and entries.  Through an array of tables the path leads into its last table.  With `dotted`
the path is that of a dotted key. -/
def descend {α : Type} (dotted : Bool) (change : Origin → Table → Option (α × Table)) :
    List String → Origin → Table → Option (α × Table)
  | [], origin, t => change origin t
  | key :: path, _, t =>
    match t.get? key with
    | none => do
      let origin := if dotted then .dotted else .path
      let (a, child) ← descend dotted change path origin []
      return (a, t.insert key (.table origin child))
    | some (.table .inline entries) =>
      let _ := entries
      none
    | some (.table origin entries) =>
      if dotted && !origin.isImplicit then none
      else do
        let (a, child) ← descend dotted change path origin entries
        return (a, t.replace key (.table origin child))
    | some (.tables (last :: earlier)) => do
      let (a, child) ← descend dotted change path .header last
      return (a, t.replace key (.tables (child :: earlier)))
    | some _ => none

/-- Adds a new key to a table that a path of `path` leads to; a table that is not made by dotted
keys only gets keys without a path, and the others only keys with one. -/
def addEntry (path : List String) (key : String) (item : Item) (origin : Origin) (t : Table) :
    Option (Unit × Table) :=
  if (origin = .dotted) = path.isEmpty then none
  else if (t.get? key).isSome then none
  else some ((), t.insert key item)

/-- Adds a key with its path to a table. -/
def addKey (t : Table) (keys : List String) (item : Item) : Option Table :=
  match keys.getLast? with
  | none => none
  | some key =>
    Prod.snd <$> t.descend true (addEntry keys.dropLast key item) keys.dropLast .header

end Table

end Toml

end GlyphMosaic
