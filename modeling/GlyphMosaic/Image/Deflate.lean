import GlyphMosaic.Image.Bytes

/-!
# Compressed data

A compressed stream is a sequence of blocks of bits.  A block holds bytes as they are, or symbols of
a prefix code: bytes, and references to bytes that are already there.  The prefix codes are given by
the lengths of their words alone: among words of one length the order is that of the symbols, and
shorter words come first.

Bits are taken from the least significant bit of a byte on, and so are the bits of a number; the
bits of a code word come in the order of the word.

A stream is read until there are as many bytes as are wanted, and what would come behind them does
not count (`read`).  So every reading ends with a `Stop`.
-/

namespace GlyphMosaic

namespace Deflate

/-- Why the reading of a stream comes to its end. -/
inductive Stop where
  /-- There are as many bytes as are wanted. -/
  | full (output : ByteArray)
  /-- The stream goes on where its bytes end. -/
  | short
  /-- The stream makes no sense, or it is over. -/
  | broken

/-- Where there is nothing, the stream makes no sense. -/
def orBroken {α : Type} : Option α → Except Stop α
  | some a => .ok a
  | none => .error .broken

/-! ### Bits -/

/-- A place in a row of bits. -/
structure BitCursor where
  /-- The bytes that hold the bits. -/
  bytes : ByteArray
  /-- The number of bits before the place. -/
  position : Nat

namespace BitCursor

/-- The number of bits behind the place. -/
def left (c : BitCursor) : Nat := 8 * c.bytes.size - c.position

/-- The next bit. -/
def bit (c : BitCursor) : Except Stop (Nat × BitCursor) :=
  if h : c.position / 8 < c.bytes.size then
    .ok ((c.bytes[c.position / 8]).toNat >>> (c.position % 8) % 2,
      { c with position := c.position + 1 })
  else .error .short

/-- A number of `n` bits. -/
def number : (n : Nat) → BitCursor → Except Stop (Nat × BitCursor)
  | 0, c => .ok (0, c)
  | n + 1, c => do
    let (low, c) ← c.bit
    let (high, c) ← number n c
    return (low + 2 * high, c)

/-- The place of the next whole byte. -/
def aligned (c : BitCursor) : BitCursor := { c with position := (c.position + 7) / 8 * 8 }

end BitCursor

/-! ### Prefix codes -/

/-- A prefix code. -/
structure PrefixCode where
  /-- The number of words of each length, from length 1 on. -/
  counts : List Nat
  /-- The symbols in the order of their words. -/
  symbols : Array Nat

namespace PrefixCode

/-- The greatest length of a word. -/
def maxLength : Nat := 15

/-- The number of words of the greatest length that a set of words leaves free, out of `free` nodes;
nothing if there are more words than nodes. -/
def room? : List Nat → (free : Nat) → Option Nat
  | [], free => some free
  | n :: rest, free => if 2 * free < n then none else room? rest (2 * free - n)

/-- The code with the lengths of the symbols' words, where length 0 means that the symbol is not
used.  The words have to fill the code; a sparse code may also have a single word of length 1, or
none. -/
def ofLengths? (sparse : Bool) (lengths : List Nat) : Option PrefixCode :=
  let sizes := (List.range maxLength).map (· + 1)
  let counts := sizes.map lengths.count
  let symbols := sizes.flatMap fun n =>
    (lengths.zipIdx.filter (·.1 = n)).map (·.2)
  let code : PrefixCode := ⟨counts, symbols.toArray⟩
  match room? counts 1 with
  | some 0 => some code
  | some _ =>
    if sparse && (symbols.isEmpty || (symbols.length = 1 && counts.head? = some 1)) then some code
    else none
  | none => none

/-- Follows a word through the lengths: `offset` is the word's distance from the first word of the
length before, and `index` the number of shorter words. -/
def follow (code : PrefixCode) :
    List Nat → (offset index : Nat) → BitCursor → Except Stop (Nat × BitCursor)
  | [], _, _, _ => .error .broken
  | n :: rest, offset, index, c => do
    let (b, c) ← c.bit
    let offset := 2 * offset + b
    if offset < n then
      let symbol ← orBroken code.symbols[index + offset]?
      return (symbol, c)
    else follow code rest (offset - n) (index + n) c

/-- The symbol of the next word. -/
def symbol (code : PrefixCode) (c : BitCursor) : Except Stop (Nat × BitCursor) :=
  code.follow code.counts 0 0 c

end PrefixCode

/-! ### Blocks -/

/-- A place in the stream, and the bytes that came before it. -/
structure State where
  /-- The place. -/
  cursor : BitCursor
  /-- The bytes. -/
  output : ByteArray

/-- The least lengths that the symbols from 257 on stand for, and the number of bits to add. -/
def lengthTable : Array (Nat × Nat) :=
  #[(3, 0), (4, 0), (5, 0), (6, 0), (7, 0), (8, 0), (9, 0), (10, 0), (11, 1), (13, 1), (15, 1),
    (17, 1), (19, 2), (23, 2), (27, 2), (31, 2), (35, 3), (43, 3), (51, 3), (59, 3), (67, 4),
    (83, 4), (99, 4), (115, 4), (131, 5), (163, 5), (195, 5), (227, 5), (258, 0)]

/-- The least distances that the distance symbols stand for, and the number of bits to add. -/
def distanceTable : Array (Nat × Nat) :=
  #[(1, 0), (2, 0), (3, 0), (4, 0), (5, 1), (7, 1), (9, 2), (13, 2), (17, 3), (25, 3), (33, 4),
    (49, 4), (65, 5), (97, 5), (129, 6), (193, 6), (257, 7), (385, 7), (513, 8), (769, 8),
    (1025, 9), (1537, 9), (2049, 10), (3073, 10), (4097, 11), (6145, 11), (8193, 12), (12289, 12),
    (16385, 13), (24577, 13)]

/-- The number that a symbol of a table and its additional bits stand for. -/
def tableNumber (table : Array (Nat × Nat)) (symbol : Nat) (c : BitCursor) :
    Except Stop (Nat × BitCursor) := do
  let (least, bits) ← orBroken table[symbol]?
  let (more, c) ← c.number bits
  return (least + more, c)

/-- Repeats `n` bytes from `distance` bytes back. -/
def repeatBytes (distance : Nat) : (n : Nat) → ByteArray → ByteArray
  | 0, output => output
  | n + 1, output => repeatBytes distance n (output.push (output.get! (output.size - distance)))

/-- Two literals are read at once if their words have that many bits together at most. -/
def pairSize : Nat := 12

/-- The literal between two places is the first of a pair whose second is cut short, if the stream
is taken to go on with zeros. -/
def cutsPair (literals : PrefixCode) (start stop : BitCursor) : Bool :=
  let used := stop.position - start.position
  if pairSize ≤ used + stop.left then false
  else
    match literals.symbol { stop with bytes := stop.bytes ++ Bytes.zeros 2 } with
    | .ok (next, behind) =>
      let more := behind.position - stop.position
      next < 256 && used + more ≤ pairSize && stop.left < more
    | .error _ => false

/-- The state behind the symbols of a block, or the stop as soon as there are `limit` bytes.  Each
symbol takes a bit at least, so that the number of bits is fuel enough. -/
def symbols (limit : Nat) (literals distances : PrefixCode) :
    (fuel : Nat) → State → Except Stop State
  | 0, _ => .error .short
  | fuel + 1, s =>
    if limit ≤ s.output.size then .error (.full s.output)
    else do
      let (symbol, c) ← literals.symbol s.cursor
      if symbol < 256 then
        if cutsPair literals s.cursor c then throw .short
        else symbols limit literals distances fuel ⟨c, s.output.push symbol.toUInt8⟩
      else if symbol = 256 then return { s with cursor := c }
      else
        let (length, c) ← tableNumber lengthTable (symbol - 257) c
        let (word, c) ← distances.symbol c
        let (distance, c) ← tableNumber distanceTable word c
        if s.output.size < distance then throw .broken
        else symbols limit literals distances fuel ⟨c, repeatBytes distance length s.output⟩

/-- The state behind a block of bytes as they are: their number, its complement, and the bytes. -/
def stored (limit : Nat) (s : State) : Except Stop State := do
  let (count, c) ← s.cursor.aligned.number 16
  let (complement, c) ← c.number 16
  if count + complement ≠ 0xFFFF then throw .broken
  let start := c.position / 8
  let output := s.output ++ c.bytes.extract start (start + count)
  if start + count ≤ c.bytes.size && output.size ≤ limit then
    return ⟨{ c with position := c.position + 8 * count }, output⟩
  else if limit ≤ output.size then throw (.full output)
  else throw .short

/-- The lengths of the literals' words in the fixed code. -/
def fixedLengths : List Nat :=
  List.replicate 144 8 ++ List.replicate 112 9 ++ List.replicate 24 7 ++ List.replicate 8 8

/-- The order in which the lengths of the code for lengths are given. -/
def lengthOrder : List Nat := [16, 17, 18, 0, 8, 7, 9, 6, 10, 5, 11, 4, 12, 3, 13, 2, 14, 1, 15]

/-- `n` numbers of three bits. -/
def triples : (n : Nat) → BitCursor → Except Stop (List Nat × BitCursor)
  | 0, c => .ok ([], c)
  | n + 1, c => do
    let (first, c) ← c.number 3
    let (rest, c) ← triples n c
    return (first :: rest, c)

/-- Word lengths until there are `count`: symbols up to 15 are lengths, 16 repeats the last one, and
17 and 18 are runs of zeros.  The words have seven bits at most, and that many have to be there. -/
def lengths (code : PrefixCode) (count : Nat) :
    (fuel : Nat) → Array Nat → BitCursor → Except Stop (List Nat × BitCursor)
  | 0, _, _ => .error .short
  | fuel + 1, done, c =>
    if done.size = count then .ok (done.toList, c)
    else if count < done.size then .error .broken
    else if c.left < 7 then .error .short
    else do
      let (symbol, c) ← code.symbol c
      if symbol < 16 then lengths code count fuel (done.push symbol) c
      else if symbol = 16 then
        let (more, c) ← c.number 2
        let last ← orBroken done.back?
        lengths code count fuel (done ++ Array.replicate (3 + more) last) c
      else
        let (more, c) ← c.number (if symbol = 17 then 3 else 7)
        lengths code count fuel
          (done ++ Array.replicate ((if symbol = 17 then 3 else 11) + more) 0) c

/-- The two codes at the front of a block that brings its own.  The literals have to have a word for
the end of the block. -/
def codes (c : BitCursor) : Except Stop (PrefixCode × PrefixCode × BitCursor) := do
  let (literals, c) ← c.number 5
  let (distances, c) ← c.number 5
  let (given, c) ← c.number 4
  let literals := 257 + literals
  let distances := 1 + distances
  if 286 < literals || 30 < distances then throw .broken
  let (given, c) ← triples (4 + given) c
  let pairs := lengthOrder.zip given
  let code ← orBroken (PrefixCode.ofLengths? false
    ((List.range lengthOrder.length).map fun symbol => (pairs.lookup symbol).getD 0))
  let (lengths, c) ← lengths code (literals + distances) (literals + distances + 1) #[] c
  if lengths.getD 256 0 = 0 then throw .broken
  let literalCode ← orBroken (PrefixCode.ofLengths? false (lengths.take literals))
  let distanceCode ← orBroken (PrefixCode.ofLengths? true (lengths.drop literals))
  return (literalCode, distanceCode, c)

/-- Reads a block: whether it says that it is the last one, and the state behind it.  No block has
fewer than ten bits, and one of the fixed code that is empty is read although there may be bytes
enough. -/
def block (limit : Nat) (s : State) : Except Stop (Bool × State) := do
  if s.cursor.left < 10 then throw .short
  let fuel := 8 * s.cursor.bytes.size
  let (last, c) ← s.cursor.bit
  let (kind, c) ← c.number 2
  let s ← match kind with
    | 0 => stored limit { s with cursor := c }
    | 1 => do
      let (word, behind) ← c.number 7
      if word = 0 then pure { s with cursor := behind }
      else
        let literals ← orBroken (PrefixCode.ofLengths? false fixedLengths)
        let distances ← orBroken (PrefixCode.ofLengths? false (List.replicate 32 5))
        symbols limit literals distances fuel { s with cursor := c }
    | 2 => do
      let (literals, distances, c) ← codes c
      symbols limit literals distances fuel { s with cursor := c }
    | _ => throw .broken
  return (last = 1, s)

/-- Reads blocks up to the last one.  Where there are bytes enough, a block need not be complete. -/
def blocks (limit : Nat) : (fuel : Nat) → State → Stop
  | 0, _ => .short
  | fuel + 1, s =>
    match block limit s with
    | .ok (false, s) => blocks limit fuel s
    | .ok (true, s) => if limit ≤ s.output.size then .full s.output else .broken
    | .error .short => if limit ≤ s.output.size then .full s.output else .short
    | .error stop => stop

/-- Reads a stream, with the two bytes of its header in front, until there are `limit` bytes. -/
def read (limit : Nat) (bytes : ByteArray) : Stop :=
  match (bytes.extract 0 2).toList with
  | [first, second] =>
    let method := first.toNat
    let flags := second.toNat
    if method % 16 ≠ 8 || 7 < method / 16 || flags / 32 % 2 = 1
        || (256 * method + flags) % 31 ≠ 0 then
      .broken
    else blocks limit (8 * bytes.size) ⟨⟨bytes, 16⟩, .empty⟩
  | _ => .short

end Deflate

end GlyphMosaic
