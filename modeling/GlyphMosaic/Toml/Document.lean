import GlyphMosaic.Toml.Literal

/-!
# Reading TOML documents

A document is a sequence of lines: headers, keys with values, comments and blank lines.  The keys
below a header belong to its table, which is entered into the document when the next header begins
or the text ends.
-/

namespace GlyphMosaic

namespace Toml

/-! ### Values -/

mutual

/-- A value inside `depth` arrays and inline tables. -/
def value? : (fuel depth : Nat) → Scan Item
  | 0, _, _ => none
  | fuel + 1, depth, cs =>
    match cs with
    | '[' :: rest =>
      if depth + 1 < depthLimit then elements? fuel (depth + 1) [] rest else none
    | '\x7b' :: rest =>
      if depth + 1 < depthLimit then
        match dropBlanks rest with
        | '\x7d' :: rest => some (.table .inline [], rest)
        | _ => members? fuel (depth + 1) [] rest
      else none
    | cs => simpleValue? cs

/-- The elements of an array behind those in `acc`, which are reversed, up to its end. -/
def elements? : (fuel depth : Nat) → (acc : List Item) → Scan Item
  | 0, _, _, _ => none
  | fuel + 1, depth, acc, cs =>
    match dropFiller fuel cs with
    | ']' :: rest => some (.array acc.reverse, rest)
    | rest => do
      let (item, rest) ← value? fuel depth rest
      match dropFiller fuel rest with
      | ',' :: rest => elements? fuel depth (item :: acc) rest
      | ']' :: rest => return (.array (item :: acc).reverse, rest)
      | _ => none

/-- The members of an inline table besides those in `t`, up to its end. -/
def members? : (fuel depth : Nat) → (t : Table) → Scan Item
  | 0, _, _, _ => none
  | fuel + 1, depth, t, cs => do
    let (keys, rest) ← key? cs
    let (item, rest) ← value? fuel depth (dropBlanks (← expect? '=' rest))
    let t ← t.addKey keys item
    match dropBlanks rest with
    | ',' :: rest => members? fuel depth t rest
    | '\x7d' :: rest => return (.table .inline t, rest)
    | _ => none

end

/-! ### Lines -/

/-- A document as far as it was read. -/
structure Draft where
  /-- The tables that are complete. -/
  root : Table
  /-- The path of the current table, and whether it is an element of an array; none before the first
  header. -/
  header : Option (List String × Bool)
  /-- The current table. -/
  current : Table

namespace Draft

/-- An empty document. -/
def empty : Draft := ⟨[], none, []⟩

/-- The table behind a last key, with nothing or an array of tables in its place. -/
def pushTable (key : String) (table : Table) (_ : Origin) (t : Table) : Option (Unit × Table) :=
  match t.get? key with
  | none => some ((), t.insert key (.tables [table]))
  | some (.tables earlier) => some ((), t.replace key (.tables (table :: earlier)))
  | some _ => none

/-- Enters the current table into the document. -/
def finish (d : Draft) : Option Table :=
  match d.header with
  | none => some d.current
  | some (keys, isElement) =>
    match keys.getLast? with
    | none => none
    | some key =>
      let change : Origin → Table → Option (Unit × Table) :=
        if isElement then pushTable key d.current
        else fun _ t => some ((), t.insert key (.table .header d.current))
      Prod.snd <$> d.root.descend false change keys.dropLast .header

/-- Takes the place of a table for its own header: it may be free, or made by longer headers; what
is there already is the start of the table. -/
def takeTable (key : String) (_ : Origin) (t : Table) : Option (Table × Table) :=
  match t.get? key with
  | none => some ([], t)
  | some (.table .path entries) => some (entries, t.erase key)
  | some _ => none

/-- Checks the place of an array of tables, which may be free. -/
def takeElement (key : String) (_ : Origin) (t : Table) : Option (Table × Table) :=
  match t.get? key with
  | none => some ([], t.insert key (.tables []))
  | some (.tables _) => some ([], t)
  | some _ => none

/-- Begins the table of a header. -/
def begin (d : Draft) (keys : List String) (isElement : Bool) : Option Draft := do
  let root ← d.finish
  let key ← keys.getLast?
  let change := if isElement then takeElement key else takeTable key
  let (current, root) ← root.descend false change keys.dropLast .header
  return ⟨root, some (keys, isElement), current⟩

/-- A header, behind its first bracket. -/
def header? (d : Draft) : List Char → Option (Draft × List Char)
  | '[' :: rest => do
    let (keys, rest) ← key? rest
    let rest ← lineEnd? (← expect? ']' (← expect? ']' rest))
    return (← d.begin keys true, rest)
  | rest => do
    let (keys, rest) ← key? rest
    let rest ← lineEnd? (← expect? ']' rest)
    return (← d.begin keys false, rest)

/-- A key with its value. -/
def entry? (d : Draft) (cs : List Char) : Option (Draft × List Char) := do
  let (keys, rest) ← key? cs
  let rest ← expect? '=' rest
  let (item, rest) ← value? (2 * rest.length + 2) 0 (dropBlanks rest)
  let rest ← lineEnd? rest
  let current ← d.current.addKey keys item
  return ({ d with current }, rest)

/-- One line, without the blanks before it. -/
def line? (d : Draft) : List Char → Option (Draft × List Char)
  | '[' :: rest => d.header? rest
  | '#' :: rest => (lineEnd? ('#' :: rest)).map fun rest => (d, rest)
  | cs =>
    match newline? cs with
    | some rest => some (d, rest)
    | none => d.entry? cs

/-- All lines, at most `fuel`. -/
def lines? : (fuel : Nat) → Draft → List Char → Option Draft
  | 0, _, _ => none
  | fuel + 1, d, cs =>
    match dropBlanks cs with
    | [] => some d
    | cs => do
      let (d, rest) ← d.line? cs
      lines? fuel d rest

end Draft

/-- Reads a document; a byte order mark may stand before it. -/
def read? (s : String) : Option Table :=
  let cs := match s.toList with
    | '\ufeff' :: rest => rest
    | cs => cs
  (Draft.lines? (cs.length + 1) .empty cs).bind Draft.finish

end Toml

end GlyphMosaic
