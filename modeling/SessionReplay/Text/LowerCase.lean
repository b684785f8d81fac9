import SessionReplay.Text.CaseTables

/-!
# Lower-casing

Each capital becomes its small letter. Two letters need more than a table: the capital I with a dot
becomes a small i followed by a combining dot, and a capital sigma at the end of a word, that is
behind a letter and not before one, takes its final form.
-/

namespace SessionReplay.Text

/-- Whether a letter stands next to a position, given the characters from there outwards. Characters
such as apostrophes and combining marks are looked through. -/
def letterAdjacent (cs : List Char) : Bool :=
  match cs.dropWhile (inRanges caseIgnorableRanges) with
  | [] => false
  | c :: _ => inRanges casedRanges c

/-- The small letter of a character that does not depend on its neighbours. -/
def lowerChar (c : Char) : List Char :=
  if c.toNat = 0x130 then [Char.ofNat 0x69, Char.ofNat 0x307]
  else
    match capitals.find? fun r =>
      r.first ≤ c.toNat && c.toNat ≤ r.last && (c.toNat - r.first) % r.step == 0 with
    | some r => [Char.ofNat (c.toNat + r.shift).toNat]
    | none => [c]

/-- Lower-cases a text, given the characters before it, the nearest first. -/
def lowerFrom (before : List Char) : List Char → List Char
  | [] => []
  | c :: rest =>
    let small :=
      if c.toNat = 0x3a3 then
        [Char.ofNat (if letterAdjacent before && !letterAdjacent rest then 0x3c2 else 0x3c3)]
      else lowerChar c
    small ++ lowerFrom (c :: before) rest

/-- A text in lower case. -/
def lower (text : String) : String :=
  String.ofList (lowerFrom [] text.toList)

end SessionReplay.Text
