/-!
Blank characters. Two sets are in use: the Unicode white space that separates class names and is
trimmed from values, and the five ASCII blanks of selector and markup text.
-/

namespace Topiary.Text

/-- The Unicode property `White_Space`. -/
def isBlank (c : Char) : Bool :=
  let n := c.toNat
  (0x09 ≤ n && n ≤ 0x0d) || n == 0x20 || n == 0x85 || n == 0xa0 || n == 0x1680 ||
    (0x2000 ≤ n && n ≤ 0x200a) || n == 0x2028 || n == 0x2029 || n == 0x202f || n == 0x205f ||
    n == 0x3000

/-- Space, tab, line feed, carriage return and form feed. -/
def isAsciiBlank (c : Char) : Bool :=
  c == ' ' || c == '\t' || c == '\n' || c == '\r' || c == '\x0c'

theorem isBlank_of_isAsciiBlank {c : Char} (h : isAsciiBlank c = true) : isBlank c = true := by
  simp only [isAsciiBlank, Bool.or_eq_true, beq_iff_eq] at h
  rcases h with (((rfl | rfl) | rfl) | rfl) | rfl <;> decide

/-- The maximal runs of characters that are not blank, in order. -/
def splitBlank : List Char → List (List Char)
  | [] => []
  | c :: rest =>
    if isBlank c then splitBlank rest
    else match rest with
      | [] => [[c]]
      | d :: _ =>
        if isBlank d then [c] :: splitBlank rest
        else match splitBlank rest with
          | word :: words => (c :: word) :: words
          | [] => [[c]]

/-- The words of a text: what stands between its blanks. -/
def words (s : String) : List String :=
  (splitBlank s.toList).map String.ofList

/-- The list without its leading and trailing members of a class. -/
def trimBy (p : Char → Bool) (cs : List Char) : List Char :=
  ((cs.dropWhile p).reverse.dropWhile p).reverse

/-- The text without leading and trailing blanks. -/
def trim (s : String) : String :=
  String.ofList (trimBy isBlank s.toList)

/-- ASCII letters in lower case, all else unchanged. -/
def lower (s : String) : String :=
  s.map Char.toLower

end Topiary.Text
