import Topiary.Selector.Tokenized

/-!
Selector sequences: consecutive per-node tokens form a compound group, and every structural token
stands between the groups as a combinator.
-/

namespace Topiary.Selector

/-- Per-node tokens that all restrict one node. -/
structure Group where
  tokens : List Token
deriving Repr, DecidableEq

namespace Group

def source (g : Group) : String :=
  sources g.tokens

/-- The tag name, if the group starts with a tag. -/
def tag (g : Group) : Option String :=
  match g.tokens with
  | ⟨.tag name, _⟩ :: _ => some name
  | _ => none

end Group

/-- One entry of a sequence. -/
inductive Item where
  | compound (group : Group)
  | combinator (token : Token)
deriving Repr, DecidableEq

def Item.source : Item → String
  | .compound group => group.source
  | .combinator token => token.source

/-- The tokens that make up an item. -/
def Item.tokens : Item → List Token
  | .compound group => group.tokens
  | .combinator token => [token]

/-- Compound groups and the combinators between them. -/
structure Sequence where
  items : List Item
deriving Repr, DecidableEq

/-- The group of the given tokens, if there are any. -/
def flush (pending : List Token) : List Item :=
  if pending.isEmpty then [] else [.compound ⟨pending⟩]

/-- The items of a token list whose `pending` per-node tokens have been read already. -/
def groupFrom (pending : List Token) : List Token → List Item
  | [] => flush pending
  | token :: tokens =>
    if token.isStructural then flush pending ++ .combinator token :: groupFrom [] tokens
    else groupFrom (pending ++ [token]) tokens

/-- Group a token list. -/
def group (tokens : List Token) : Sequence :=
  ⟨groupFrom [] tokens⟩

namespace Sequence

/-- The text of the whole sequence. -/
def source (s : Sequence) : String :=
  String.join (s.items.map Item.source)

/-- The text of the items up to and including place `index`. -/
def upTo (s : Sequence) (index : Nat) : String :=
  String.join ((s.items.take (index + 1)).map Item.source)

/-- Tokenize and group a text. -/
def parse (text : String) : Except SelectorError Sequence :=
  (tokenize text).map group

end Sequence

end Topiary.Selector
