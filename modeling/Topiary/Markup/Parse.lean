import Topiary.Markup.Rules

/-!
HTML documents from text: every token goes through the rules of the phase that the tokens before it
have led to.
-/

namespace Topiary.Markup

/-- Deal with a token as in a body, where new nodes go before the table that is open. -/
def fosterRule (t : Token) : Build Next := do
  modify fun b => { b with fostering := true }
  let next ← inBodyRule t
  let next ← if next = .via .inHead then inHeadRule t else pure next
  modify fun b => { b with fostering := false }
  pure next

/-- Put the text that has waited into the table, or before it unless all of it is white space. -/
def flushTableText : Build Unit := do
  let pending := (← get).tableText.reverse
  modify fun b => { b with tableText := [] }
  let shown := pending.any fun t => match t with
    | .text _ => true
    | _ => false
  pending.forM fun t =>
    if shown then do
      let _ ← fosterRule t
    else
      match t with
      | .blank content => insertText content
      | _ => pure ()

def inTableTextRule (t : Token) : Build Next := do
  match t with
  | .null => ignore
  | .blank _ => doing (modify fun b => { b with tableText := t :: b.tableText })
  | .text _ => doing (modify fun b => { b with tableText := t :: b.tableText })
  | _ => do
    flushTableText
    retryIn (← get).returnPhase

/-- The rules of a phase. -/
def ruleOf : Phase → Token → Build Next
  | .initial => initialRule
  | .beforeHtml => beforeHtmlRule
  | .beforeHead => beforeHeadRule
  | .inHead => inHeadRule
  | .afterHead => afterHeadRule
  | .inBody => inBodyRule
  | .inText => inTextRule
  | .inTable => inTableRule
  | .inTableText => inTableTextRule
  | .inCaption => inCaptionRule
  | .inColumnGroup => inColumnGroupRule
  | .inTableBody => inTableBodyRule
  | .inRow => inRowRule
  | .inCell => inCellRule
  | .inSelect => inSelectRule
  | .inSelectInTable => inSelectInTableRule
  | .inTemplate => inTemplateRule
  | .afterBody => afterBodyRule
  | .inFrameset => inFramesetRule
  | .afterFrameset => afterFramesetRule
  | .afterAfterBody => afterAfterBodyRule
  | .afterAfterFrameset => afterAfterFramesetRule

/-- Take a token through rule after rule until it is used up, in at most `steps` steps. -/
def follow (t : Token) : (steps : Nat) → Next → Build Unit
  | 0, _ => pure ()
  | _ + 1, .done => pure ()
  | steps + 1, .again => do
    let b ← get
    let next ← if isForeign b t then foreignRule t else ruleOf b.phase t
    follow t steps next
  | steps + 1, .via phase => do
    let next ← ruleOf phase t
    follow t steps next
  | steps + 1, .foster => do
    let next ← fosterRule t
    follow t steps next

/-- The number of steps that a token may take: each phase hands it on a few times, and closes an
element when it does so again. -/
def stepsFor (b : Builder) : Nat := 64 + 4 * b.stack.length

/-- The token without a line feed at its front, if one is to be dropped. -/
def withoutLineFeed (t : Token) : Option Token :=
  match t with
  | .blank content =>
    match content.toList with
    | ['\n'] => none
    | '\n' :: rest => some (.blank (String.ofList rest))
    | _ => some t
  | t => some t

/-- Add one token to the document. A document type that comes late counts for nothing in any
phase. -/
def addToken (t : Token) : Build Unit := do
  let b ← get
  set { b with skipLineFeed := false }
  match if b.skipLineFeed then withoutLineFeed t else some t with
  | none => pure ()
  | some (.doctype d) => if b.phase = .initial then follow (.doctype d) (stepsFor b) .again
  | some t => follow t (stepsFor b) .again

/-- Add what has been found in the text. -/
def addFound : Found → Build Unit
  | .token t => addToken t
  | .fault => modify fun b => { b with skipLineFeed := false }

/-- Whether the innermost open element belongs to another vocabulary. -/
def insideForeign (b : Builder) : Bool :=
  (b.stack.head?.bind b.shape?).any fun shape => shape.vocabulary != .html

/-- Add what a text holds, in at most `count` steps. -/
def addTokens : (count : Nat) → List Char → Build Unit
  | 0, _ => pure ()
  | _ + 1, [] => pure ()
  | count + 1, cs => do
    let b ← get
    let (found, rest) := takeToken b.mode (insideForeign b) cs
    found.forM addFound
    addTokens count rest

/-- The document that an HTML text describes. -/
def parse (text : String) : Document :=
  let cs := normalize text.toList
  let work : Build Unit := do
    addTokens cs.length cs
    addToken .finish
  let (_, b) := work.run Builder.start
  documentOfContent b.sketch.content

end Topiary.Markup
