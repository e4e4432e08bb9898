/-!
Tables of the Unicode character database, kept as inclusive ranges of code points in increasing
order, and their reading from words: `41-5a` is a range and `5f` a single code point.
-/

namespace Topiary.Text

/-- Whether `n` lies in one of the inclusive ranges. -/
def inRanges (ranges : Array (Nat × Nat)) (n : Nat) : Bool :=
  ranges.any fun (low, high) => low ≤ n && n ≤ high

/-- The number that hexadecimal digits in lower case write. -/
def hexNumber (digits : String) : Nat :=
  digits.foldl (fun n c =>
    n * 16 + (if c.isDigit then c.toNat - '0'.toNat else c.toNat - 'a'.toNat + 10)) 0

/-- The range that a word spells. -/
def rangeOfWord (word : String) : Nat × Nat :=
  match word.splitOn "-" with
  | [low, high] => (hexNumber low, hexNumber high)
  | _ => (hexNumber word, hexNumber word)

/-- The words on lines, which blanks separate. -/
def wordsOfLines (lines : List String) : List String :=
  lines.flatMap fun line => line.splitOn " "

/-- The ranges that words on lines spell. -/
def rangesOfLines (lines : List String) : Array (Nat × Nat) :=
  ((wordsOfLines lines).map rangeOfWord).toArray

end Topiary.Text
