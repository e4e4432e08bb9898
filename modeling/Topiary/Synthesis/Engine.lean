import Topiary.Sheet.Flatten
import Topiary.Synthesis.Settings

/-!
The engine applies style rules to a document tree, one after another. Content that has to be fetched
is held back until it is settled.
-/

namespace Topiary.Synthesis

open Topiary.Selector Topiary.Sheet

/-- Why a rule was not applied. -/
inductive RuleError where
  | selector (error : SelectorError)
  | synthesis (error : SynthesisError)
deriving Repr, DecidableEq

def RuleError.message : RuleError → String
  | .selector error => error.message
  | .synthesis error => error.message

/-- A rule that was not applied. -/
structure RuleFailure where
  selector : String
  error : RuleError
deriving Repr, DecidableEq

/-- The account of a list of rules. -/
structure ApplyReport where
  rules : Nat
  applied : Nat
  created : Nat
  failures : List RuleFailure
deriving Repr, DecidableEq

namespace ApplyReport

def empty : ApplyReport := ⟨0, 0, 0, []⟩

/-- The accounts of two lists of rules, one applied after the other. -/
def merge (a b : ApplyReport) : ApplyReport :=
  ⟨a.rules + b.rules, a.applied + b.applied, a.created + b.created, a.failures ++ b.failures⟩

/-- Take one further rule into account. -/
def add (r : ApplyReport) (selector : String) (outcome : Except RuleError Report) : ApplyReport :=
  match outcome with
  | .ok report =>
    { r with
      rules := r.rules + 1, applied := r.applied + 1, created := r.created + report.created }
  | .error error =>
    { r with rules := r.rules + 1, failures := r.failures ++ [⟨selector, error⟩] }

end ApplyReport

structure Engine where
  settings : Settings
  fetcher : Fetcher
  binder : Binder

namespace Engine

def new (settings : Settings) (fetcher : Fetcher) : Engine :=
  ⟨settings, fetcher, .empty⟩

/-- Parse a rule's selector, decode its content and make the selector true. -/
def applyRule (e : Engine) (t : Tree) (rule : Rule) : Except RuleError Report × Engine × Tree :=
  match Sequence.parse rule.selector with
  | .error error => (.error (.selector error), e, t)
  | .ok sequence =>
    let (payload, fetcher) := decodeContent e.fetcher rule.content
    let (outcome, t, binder) := materialize e.settings.limits sequence payload t e.binder
    (outcome.mapError .synthesis, { e with fetcher := fetcher, binder := binder }, t)

/-- Apply rules in order; a rule that fails does not stop the others. -/
def applyRules (e : Engine) (t : Tree) (rules : List Rule) : ApplyReport × Engine × Tree :=
  rules.foldl (fun (state : ApplyReport × Engine × Tree) rule =>
    let (report, e, t) := state
    let (outcome, e, t) := e.applyRule t rule
    (report.add rule.selector outcome, e, t)) (.empty, e, t)

/-- Parse a stylesheet, expand its imports and apply every rule. The answer also lists the sheets
that were asked for. -/
def applySheet (parse : String → Except ParseError Stylesheet) (loader : Loader) (e : Engine)
    (t : Tree) (css : String) :
    Except ParseError ApplyReport × List (String × Option String) × Engine × Tree :=
  match parse css with
  | .error error => (.error error, [], e, t)
  | .ok sheet =>
    let events := flatten parse loader e.settings.maxImportDepth sheet
    let (report, e, t) := e.applyRules t (rulesOf events)
    (.ok report, loadsOf events, e, t)

/-- Apply stylesheets in order and merge their accounts; the first that does not parse ends it. -/
def applySheets (parse : String → Except ParseError Stylesheet) (loader : Loader) (e : Engine)
    (t : Tree) (report : ApplyReport) :
    List String → Except ParseError ApplyReport × List (String × Option String) × Engine × Tree
  | [] => (.ok report, [], e, t)
  | css :: rest =>
    match e.applySheet parse loader t css with
    | (.error error, loads, e, t) => (.error error, loads, e, t)
    | (.ok more, loads, e, t) =>
      let (outcome, later, e, t) := e.applySheets parse loader t (report.merge more) rest
      (outcome, loads ++ later, e, t)

/-- Bind all content that is pending. -/
def settle (e : Engine) (t : Tree) : SettleReport × Engine × Tree :=
  let (report, binder, t) := e.binder.settle t
  (report, { e with binder := binder }, t)

end Engine

end Topiary.Synthesis
