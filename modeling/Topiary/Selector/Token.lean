/-!
Selector tokens. A token is one atomic fragment of a selector, together with the exact text it was
read from. Per-node tokens restrict a single node; structural tokens relate nodes or separate
selectors. The universal selector is structural: it never joins a compound.
-/

namespace Topiary.Selector

/-- A written plus or minus. -/
inductive Sign where
  | plus
  | minus
deriving Repr, DecidableEq

/-- The character of a sign. -/
def Sign.char : Sign → Char
  | .plus => '+'
  | .minus => '-'

/-- The sign that a character writes. -/
def Sign.ofChar? : Char → Option Sign
  | '+' => some .plus
  | '-' => some .minus
  | _ => none

/-- The parts of an argument such as `-n+4`, `2n`, `odd` or `7`; every part may be missing. -/
structure Equation where
  function : String
  scalarSign : Option Sign
  /-- Digits, empty when only a sign or nothing was written. -/
  scalar : String
  /-- Lower-case letters. -/
  symbol : Option String
  offsetSign : Option Sign
  /-- Digits, empty when there is no offset or only its sign was written. -/
  offset : String
deriving Repr, DecidableEq

/-- How an attribute's value is compared with the value in a selector. -/
inductive Relation where
  | equals
  | differs
  /-- The value, or the value followed by a dash. -/
  | dashed
  | contains
  /-- One of the words of the attribute. -/
  | word
  | ends
  | starts
deriving Repr, DecidableEq

/-- The operator that writes a relation. -/
def Relation.symbol : Relation → List Char
  | .equals => ['=']
  | .differs => ['!', '=']
  | .dashed => ['|', '=']
  | .contains => ['*', '=']
  | .word => ['~', '=']
  | .ends => ['$', '=']
  | .starts => ['^', '=']

/-- The kind of a token with what it captured. -/
inductive Kind where
  | tag (name : String)
  | id (name : String)
  | className (name : String)
  | pseudoClass (name : String)
  | pseudoElement (name : String)
  /-- `:function()` -/
  | emptyCall (function : String)
  /-- `:function("argument")` -/
  | quotedCall (function argument : String)
  /-- `:function(argument)` -/
  | call (function argument : String)
  /-- `:function(an+b)` -/
  | equationCall (equation : Equation)
  /-- `[name]` -/
  | attrPresence (name : String)
  /-- `[name="value"]` and the like -/
  | attrValue (name : String) (relation : Relation) (value : String)
  | child
  | descendant
  | nextAdjacent
  | nextSibling
  | separator
  | universal
deriving Repr, DecidableEq

/-- Whether a kind relates nodes instead of restricting one. -/
def Kind.isStructural : Kind → Bool
  | .child | .descendant | .nextAdjacent | .nextSibling | .separator | .universal => true
  | _ => false

/-- One atomic selector fragment and the text it was read from. -/
structure Token where
  kind : Kind
  source : String
deriving Repr, DecidableEq

def Token.isStructural (t : Token) : Bool :=
  t.kind.isStructural

/-- The concatenated sources of a list of tokens. -/
def sources (tokens : List Token) : String :=
  String.join (tokens.map Token.source)

end Topiary.Selector
