import GlyphMosaic.CommandLine.Options

/-!
# Reading a command line

The words of a command line are read one after the other.  An option is `--name`, `--name=value` or
a letter behind a dash, and letters can share a dash; the value of a parameter is attached to it or
is the next word, unless that word looks like an option.

The value of a parameter that was not attached is looked at when the next option comes, or at the
end.  So what is wrong with it is reported only if nothing is wrong with the next word.
-/

namespace GlyphMosaic

namespace CommandLine

/-- What is wrong with a command line. -/
inductive Refusal where
  /-- A word that is no option and no value. -/
  | unknown (word : String)
  /-- A parameter without a value. -/
  | noValue (p : Parameter)
  /-- A switch with a value. -/
  | needlessValue (s : Switch)
  /-- An option that is there twice. -/
  | repeated (option : OptionName)
  /-- A value that is none for its parameter. -/
  | badValue (p : Parameter) (cause : ValueRefusal)

/-- Why reading ends without a run. -/
inductive Stop where
  | help
  | version
  | refused (r : Refusal)

/-- How far reading has come. -/
structure Progress where
  /-- The options so far. -/
  options : Options := {}
  /-- The options that were there. -/
  given : List OptionName := []
  /-- A parameter that is not looked at yet, and its value, if it has one. -/
  pending : Option (Parameter × Option String) := none
  /-- Options can no longer follow. -/
  closed : Bool := false

namespace Progress

/-- An option is there for the first time. -/
def note (s : Progress) (option : OptionName) : Except Refusal Progress :=
  if s.given.contains option then .error (.repeated option)
  else return { s with given := option :: s.given }

/-- Sets a parameter. -/
def supply (s : Progress) (p : Parameter) (value : String) : Except Refusal Progress := do
  let s ← s.note (.parameter p)
  let options ← (s.options.assign p value).mapError (.badValue p)
  return { s with options }

/-- Looks at the pending parameter. -/
def settle (s : Progress) : Except Refusal Progress :=
  match s.pending with
  | none => .ok s
  | some (p, none) => .error (.noValue p)
  | some (p, some value) => { s with pending := none }.supply p value

/-- Starts a parameter, with its value if that is attached. -/
def parameter (s : Progress) (p : Parameter) (value : Option String) : Except Refusal Progress := do
  let s ← s.settle
  match value with
  | some value => s.supply p value
  | none => return { s with pending := some (p, none) }

/-- Sets a switch. -/
def switch (s : Progress) (which : Switch) : Except Stop Progress := do
  let s ← s.settle.mapError .refused
  match which with
  | .help => .error .help
  | .version => .error .version
  | .scalar =>
    let s ← (s.note (.switch which)).mapError .refused
    return { s with options := { s.options with scalar := true } }

/-- Reads what follows two dashes. -/
def long (s : Progress) (word : String) (rest : List Char) : Except Stop Progress :=
  let name := String.ofList (rest.takeWhile (· ≠ '='))
  let value := match rest.dropWhile (· ≠ '=') with
    | [] => none
    | _ :: value => some (String.ofList value)
  match OptionName.ofName? name, value with
  | none, _ => .error (.refused (.unknown word))
  | some (.parameter p), value => (s.parameter p value).mapError .refused
  | some (.switch which), none => s.switch which
  | some (.switch which), some _ => .error (.refused (.needlessValue which))

/-- Reads the letters behind one dash.  What follows the letter of a parameter is its value, and an
equals sign may stand between them. -/
def letters (s : Progress) (word : String) : List Char → Except Stop Progress
  | [] => .ok s
  | c :: rest =>
    match OptionName.ofLetter? c with
    | none => .error (.refused (.unknown word))
    | some (.switch which) => do
      let s ← s.switch which
      s.letters word rest
    | some (.parameter p) =>
      let value := match rest with
        | [] => none
        | '=' :: value => some (String.ofList value)
        | value => some (String.ofList value)
      (s.parameter p value).mapError .refused

/-- Reads a word that is no option. -/
def plain (s : Progress) (word : String) : Except Stop Progress :=
  match s.closed, s.pending with
  | false, some (p, none) => .ok { s with pending := some (p, some word) }
  | _, _ => .error (.refused (.unknown word))

/-- Reads a word. -/
def word (s : Progress) (word : String) : Except Stop Progress :=
  if s.closed then s.plain word
  else match word.toList with
    | ['-', '-'] => .ok { s with closed := true }
    | '-' :: '-' :: rest => s.long word rest
    | '-' :: c :: rest => s.letters word (c :: rest)
    | _ => s.plain word

end Progress

/-- The options on a command line. -/
def read (words : List String) : Except Stop Options := do
  let s ← words.foldlM Progress.word {}
  let s ← s.settle.mapError .refused
  return s.options

end CommandLine

end GlyphMosaic
