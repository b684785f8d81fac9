import SessionReplay.Picture.Lossless.Bits
import SessionReplay.Picture.Lossless.Heap

/-!
# Prefix codes

Symbols that occur often get short codes. The lengths come from a tree built by joining the two
lightest subtrees until one is left; the codes are the canonical ones for these lengths, numbered by
length and then by symbol, and written from their most significant bit on.
-/

namespace SessionReplay.Lossless

/-- A tree of symbols. -/
inductive CodeTree where
  /-- A symbol. -/
  | leaf (symbol : Nat)
  /-- Two subtrees. -/
  | join (left right : CodeTree)

namespace CodeTree

/-- Writes the depth of every symbol into a table of lengths. -/
def fillLengths (lengths : Array Nat) (depth : Nat) : CodeTree → Array Nat
  | .leaf symbol => lengths.setIfInBounds symbol depth
  | .join left right => right.fillLengths (left.fillLengths lengths (depth + 1)) (depth + 1)

/-- Joins the two lightest trees until one is left. The first argument bounds the joins. -/
def combine : Nat → Heap CodeTree → Option CodeTree
  | 0, h => (h.pop?).map (·.1.2)
  | fuel + 1, h => do
    let (first, rest) ← h.pop?
    match rest.entries[0]? with
    | none => some first.2
    | some second =>
      combine fuel (rest.replaceTop (first.1 + second.1, .join first.2 second.2))

end CodeTree

/-- The symbols that occur, with how often they do. -/
def usedSymbols (counts : Array Nat) : List Nat :=
  (List.range counts.size).filter fun s => (counts[s]?).getD 0 != 0

/-- The length of each symbol's code, zero for a symbol that does not occur. -/
def codeLengths (counts : Array Nat) : Array Nat :=
  let leaves := (usedSymbols counts).map fun s => ((counts[s]?).getD 0, CodeTree.leaf s)
  let zeros := Array.replicate counts.size 0
  match CodeTree.combine leaves.length (Heap.ofArray leaves.toArray) with
  | none => zeros
  | some tree => tree.fillLengths zeros 0

/-- The number with the low `count` bits in reverse order. -/
def reverseBits : Nat → Nat → Nat
  | 0, _ => 0
  | count + 1, value => (value % 2) <<< count + reverseBits count (value / 2)

/-- The longest code. -/
def maxCodeLength : Nat := 15

/-- How many symbols have a code of a length. -/
def lengthCount (lengths : Array Nat) (length : Nat) : Nat :=
  if length = 0 then 0 else lengths.foldl (fun n l => if l = length then n + 1 else n) 0

/-- The first code of every length, from zero up to the longest. -/
def firstCodes (lengths : Array Nat) : Array Nat :=
  (List.range maxCodeLength).foldl
    (fun firsts l => firsts.push (2 * ((firsts[l]?).getD 0 + lengthCount lengths l))) #[0]

/-- A prefix code: the length and the written bits of each symbol's code. -/
structure PrefixCode where
  /-- Code lengths. -/
  lengths : Array Nat
  /-- Codes with their bits in the order in which they are written. -/
  codes : Array Nat

namespace PrefixCode

/-- The canonical code for some lengths. -/
def ofLengths (lengths : Array Nat) : PrefixCode where
  lengths := lengths
  codes :=
    (lengths.foldl
      (fun (state : Array Nat × Array Nat) length =>
        let code := (state.1[length]?).getD 0
        (state.1.setIfInBounds length (code + 1), state.2.push (reverseBits length code)))
      (firstCodes lengths, #[])).2

/-- The length of a symbol's code. -/
def length (c : PrefixCode) (symbol : Nat) : Nat := (c.lengths[symbol]?).getD 0

/-- Writes a symbol. -/
def write (c : PrefixCode) (s : Bits) (symbol : Nat) : Bits :=
  s.write (c.length symbol) ((c.codes[symbol]?).getD 0)

end PrefixCode

/-! ## Code tables -/

/-- The alphabets that a picture's code tables are over. -/
inductive Alphabet where
  /-- The bytes of a component. -/
  | bytes
  /-- The bytes of a component and the lengths of runs. -/
  | bytesAndRuns
deriving DecidableEq

/-- The number of symbols of an alphabet. -/
def Alphabet.size : Alphabet → Nat
  | .bytes => 256
  | .bytesAndRuns => 280

/-- What a table says about how many lengths follow. -/
def Alphabet.writeCount : Alphabet → Bits → Bits
  | .bytes, s => s.writeAll [(1, 1), (3, 3), (8, 254)]
  | .bytesAndRuns, s => s.write 1 0

/-- Writes the table of a code with a single symbol. -/
def writeSingle (s : Bits) (symbol : Nat) : Bits :=
  if symbol ≤ 1 then s.writeAll [(2, 1), (1, 0), (1, symbol)]
  else s.writeAll [(2, 1), (1, 1), (8, symbol)]

/-- The order in which the lengths of the lengths' own code are written. -/
def lengthOrder : List Nat :=
  [17, 18, 0, 1, 2, 3, 4, 5, 16, 6, 7, 8, 9, 10, 11, 12, 13, 14, 15]

/-- Writes a table of code lengths, which are themselves written in a prefix code. -/
def writeLengths (s : Bits) (alphabet : Alphabet) (lengths : Array Nat) : Bits :=
  let counts := lengths.foldl (fun counts l => counts.modify l (· + 1))
    (Array.replicate (maxCodeLength + 1) 0)
  let uniform := (usedSymbols counts).length == 1
  let own := PrefixCode.ofLengths (codeLengths counts)
  let describe (i : Nat) : Nat :=
    if (counts[i]?).getD 0 = 0 then 0 else if uniform then 1 else own.length i
  let s := s.writeAll [(1, 0), (4, 15)]
  let s := s.writeAll (lengthOrder.map fun i => (3, describe i))
  let s := alphabet.writeCount s
  if uniform then s else lengths.foldl own.write s

/-- Writes the code table for some symbol counts; the code comes with the bits. A table with at most
one symbol is written as that symbol, and the symbol's code is empty. -/
def writeTable (s : Bits) (alphabet : Alphabet) (counts : Array Nat) : Bits × PrefixCode :=
  match usedSymbols counts with
  | [] => (writeSingle s 0, ⟨#[], #[]⟩)
  | [symbol] => (writeSingle s symbol, ⟨#[], #[]⟩)
  | _ =>
    let lengths := codeLengths counts
    (writeLengths s alphabet lengths, .ofLengths lengths)

end SessionReplay.Lossless
