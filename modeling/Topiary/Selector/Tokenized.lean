import Topiary.Selector.Catalogue.Lemmas
import Topiary.Text.Quoted

/-!
Tokenizing selector text. Blanks at the very start of a text or right behind a comma separate
nothing; they are read as tokens like all others but set aside.
-/

namespace Topiary.Selector

/-- Why a selector text has no tokens. -/
inductive SelectorError where
  /-- No form of the catalogue accepts the beginning of `remaining`. -/
  | unparseable (remaining : String)
deriving Repr, DecidableEq

def SelectorError.message : SelectorError → String
  | .unparseable remaining => "Unparseable selector text: " ++ Text.quoted remaining

/-- The first cuts of a text one after another, or the rest that no form accepts. -/
def cutAll (cs : List Char) : Except (List Char) (List Token) :=
  match cs with
  | [] => .ok []
  | c :: tail =>
    match h : firstCut (c :: tail) with
    | none => .error (c :: tail)
    | some cut =>
      have : cut.rest.length < tail.length + 1 := (splits_of_firstCut h).length_lt
      (cutAll cut.rest).map (⟨cut.kind, String.ofList cut.source⟩ :: ·)
termination_by cs.length

/-- The tokens of a text and those that were set aside, each of the latter with the number of tokens
before it. -/
structure Tokenized where
  tokens : List Token
  elided : List (Nat × Token)
deriving Repr, DecidableEq

namespace Tokenized

/-- Whether blanks that come next would separate nothing. -/
def atStart (t : Tokenized) : Bool :=
  match t.tokens.getLast? with
  | none => true
  | some last => last.kind == .separator

/-- Add the next token of the text. -/
def add (t : Tokenized) (token : Token) : Tokenized :=
  if token.kind == .descendant && t.atStart then
    { t with elided := t.elided ++ [(t.tokens.length, token)] }
  else { t with tokens := t.tokens ++ [token] }

/-- Sort the tokens of a text into kept and elided ones. -/
def ofTokens (tokens : List Token) : Tokenized :=
  tokens.foldl add ⟨[], []⟩

/-- The sources of kept tokens from place `index` on, each behind the elided tokens of its place. -/
def textFrom (index : Nat) : List Token → List (Nat × Token) → String
  | [], elided => sources (elided.map Prod.snd)
  | token :: tokens, elided =>
    sources ((elided.takeWhile fun entry => entry.1 == index).map Prod.snd) ++ token.source ++
      textFrom (index + 1) tokens (elided.dropWhile fun entry => entry.1 == index)

/-- The text that the kept and elided tokens were read from. -/
def sourceText (t : Tokenized) : String :=
  textFrom 0 t.tokens t.elided

end Tokenized

/-- Tokenize a text, keeping account of elided blanks. -/
def tokenizeWithElided (text : String) : Except SelectorError Tokenized :=
  match cutAll text.toList with
  | .ok tokens => .ok (.ofTokens tokens)
  | .error remaining => .error (.unparseable (String.ofList remaining))

/-- Tokenize a text. -/
def tokenize (text : String) : Except SelectorError (List Token) :=
  (tokenizeWithElided text).map Tokenized.tokens

end Topiary.Selector
