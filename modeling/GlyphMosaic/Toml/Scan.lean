/-!
# Scanning TOML text

A scanner takes a lexeme off the front of a text and leaves the rest, or refuses.  This module has
the scanners for blanks, comments, line ends, strings and keys.
-/

namespace GlyphMosaic

namespace Toml

/-- Takes a lexeme off a text. -/
abbrev Scan (α : Type) := List Char → Option (α × List Char)

/-! ### Blanks and line ends -/

/-- A space or a tab. -/
def isBlank (c : Char) : Bool := c = ' ' || c = '\t'

/-- The text behind its leading blanks. -/
def dropBlanks (cs : List Char) : List Char := cs.dropWhile isBlank

/-- The text behind a line feed or a carriage return with a line feed. -/
def newline? : List Char → Option (List Char)
  | '\n' :: rest => some rest
  | '\r' :: '\n' :: rest => some rest
  | _ => none

/-- A character that does not end a comment: no control character but the tab. -/
def isCommentChar (c : Char) : Bool := c = '\t' || (32 ≤ c.toNat && c.toNat ≠ 127)

/-- The text behind a comment at its front, if there is one. -/
def dropComment : List Char → List Char
  | '#' :: rest => rest.dropWhile isCommentChar
  | cs => cs

/-- The text behind the end of a line: blanks, perhaps a comment, and a line end or nothing at
all. -/
def lineEnd? (cs : List Char) : Option (List Char) :=
  match dropComment (dropBlanks cs) with
  | [] => some []
  | rest => newline? rest

/-- The text behind blanks and line ends. -/
def dropSpace : List Char → List Char
  | '\r' :: '\n' :: rest => dropSpace rest
  | '\n' :: rest => dropSpace rest
  | ' ' :: rest => dropSpace rest
  | '\t' :: rest => dropSpace rest
  | cs => cs

/-- The text behind blanks, line ends and comments, with `fuel` comments at most. -/
def dropFiller : (fuel : Nat) → List Char → List Char
  | 0, cs => cs
  | fuel + 1, cs =>
    match dropSpace cs with
    | '#' :: rest => dropFiller fuel (rest.dropWhile isCommentChar)
    | rest => rest

/-! ### Strings -/

/-- The value of a hexadecimal digit. -/
def hexValue? (c : Char) : Option Nat :=
  if c.isDigit then some (c.toNat - 48)
  else if 'a' ≤ c && c ≤ 'f' then some (c.toNat - 87)
  else if 'A' ≤ c && c ≤ 'F' then some (c.toNat - 55)
  else none

/-- The character with a hexadecimal number; surrogates are none. -/
def hexChar? (ds : List Char) : Option Char := do
  let n ← ds.foldlM (fun n d => return 16 * n + (← hexValue? d)) 0
  if n.isValidChar then some (Char.ofNat n) else none

/-- The character that a letter behind a backslash stands for. -/
def escaped? : Char → Option Char
  | 'b' => some '\x08'
  | 'f' => some '\x0c'
  | 'n' => some '\n'
  | 'r' => some '\r'
  | 't' => some '\t'
  | '\\' => some '\\'
  | '\"' => some '\"'
  | _ => none

/-- The character of an escape sequence, behind its backslash. -/
def escape? : Scan Char
  | 'u' :: rest => do
    let c ← if (rest.take 4).length = 4 then hexChar? (rest.take 4) else none
    return (c, rest.drop 4)
  | 'U' :: rest => do
    let c ← if (rest.take 8).length = 8 then hexChar? (rest.take 8) else none
    return (c, rest.drop 8)
  | c :: rest => do
    let c ← escaped? c
    return (c, rest)
  | [] => none

/-- A character that stands for itself in a basic string. -/
def isBasicChar (c : Char) : Bool := isCommentChar c && c ≠ '\"' && c ≠ '\\'

/-- A character of a literal string. -/
def isLiteralChar (c : Char) : Bool := isCommentChar c && c ≠ '\''

/-- A basic string behind its opening quote; `acc` is what was read of it, reversed. -/
def basicBody? : (fuel : Nat) → (acc : List Char) → Scan String
  | 0, _, _ => none
  | fuel + 1, acc, cs =>
    match cs with
    | '\"' :: rest => some (String.ofList acc.reverse, rest)
    | '\\' :: rest => do
      let (c, rest) ← escape? rest
      basicBody? fuel (c :: acc) rest
    | c :: rest => if isBasicChar c then basicBody? fuel (c :: acc) rest else none
    | [] => none

/-- A literal string behind its opening quote. -/
def literalBody? (cs : List Char) : Option (String × List Char) :=
  match cs.dropWhile isLiteralChar with
  | '\'' :: rest => some (String.ofList (cs.takeWhile isLiteralChar), rest)
  | _ => none

/-- The text behind a backslash at the end of a line in a long string: the line end and all blanks
and line ends that follow. -/
def joinedLine? (cs : List Char) : Option (List Char) :=
  (newline? (dropBlanks cs)).map dropSpace

/-- How a long string goes on at a row of `n` of its quotes: three close it and up to two more
before them belong to it, fewer than three belong to it; answers with the quotes that belong to it
and whether it is closed. -/
def closingQuotes (n : Nat) : Nat × Bool :=
  if n < 3 then (n, false) else (min (n - 3) 2, true)

/-- A long string behind its opening quotes: with `quote` for its quotes, and with escape sequences
if `escapes`. -/
def longBody? (quote : Char) (escapes : Bool) : (fuel : Nat) → (acc : List Char) → Scan String
  | 0, _, _ => none
  | fuel + 1, acc, cs =>
    match cs with
    | [] => none
    | c :: rest =>
      if c = quote then
        let (own, closed) := closingQuotes (cs.takeWhile (· = quote)).length
        let acc := List.replicate own quote ++ acc
        if closed then some (String.ofList acc.reverse, cs.drop (own + 3))
        else longBody? quote escapes fuel acc (cs.drop own)
      else if escapes && c = '\\' then
        match joinedLine? rest with
        | some rest => longBody? quote escapes fuel acc rest
        | none => do
          let (c, rest) ← escape? rest
          longBody? quote escapes fuel (c :: acc) rest
      else
        match newline? cs with
        | some rest => longBody? quote escapes fuel ('\n' :: acc) rest
        | none => if isCommentChar c then longBody? quote escapes fuel (c :: acc) rest else none

/-- The text behind a line end at its front, if there is one. -/
def dropNewline (cs : List Char) : List Char := (newline? cs).getD cs

/-- A string on one line. -/
def shortString? : Scan String
  | '\"' :: rest => basicBody? (rest.length + 1) [] rest
  | '\'' :: rest => literalBody? rest
  | _ => none

/-- A string of any of the four kinds. -/
def string? : Scan String
  | '\"' :: '\"' :: '\"' :: rest => longBody? '\"' true (rest.length + 1) [] (dropNewline rest)
  | '\'' :: '\'' :: '\'' :: rest => longBody? '\'' false (rest.length + 1) [] (dropNewline rest)
  | cs => shortString? cs

/-! ### Keys -/

/-- A character of a bare key. -/
def isBareChar (c : Char) : Bool := c.isAlphanum || c = '_' || c = '-'

/-- A key without dots. -/
def simpleKey? (cs : List Char) : Option (String × List Char) :=
  match shortString? cs with
  | some found => some found
  | none =>
    let name := cs.takeWhile isBareChar
    if name.isEmpty then none else some (String.ofList name, cs.dropWhile isBareChar)

/-- The parts of a key, at most `fuel`, with the blanks around them. -/
def keyParts? : (fuel : Nat) → Scan (List String)
  | 0, _ => none
  | fuel + 1, cs => do
    let (name, rest) ← simpleKey? (dropBlanks cs)
    match dropBlanks rest with
    | '.' :: rest => do
      let (names, rest) ← keyParts? fuel rest
      return (name :: names, rest)
    | rest => return ([name], rest)

/-- How deep keys and values may nest. -/
def depthLimit : Nat := 80

/-- A key with its dots and the blanks around it; it has fewer parts than the limit. -/
def key? (cs : List Char) : Option (List String × List Char) := keyParts? (depthLimit - 1) cs

end Toml

end GlyphMosaic
