import Topiary.Sheet.Selectors.Basic

/-!
Pseudo-classes and pseudo-elements that are known by their names. Known names may be written in any
case and are put in lower case; unknown ones stay as they are.
-/

namespace Topiary.Sheet

/-- Pseudo-classes that tell the place of an element in the tree. -/
def structuralNames : List String :=
  ["first-child", "last-child", "only-child", "first-of-type", "last-of-type", "only-of-type",
    "root", "empty", "scope", "host"]

/-- Pseudo-classes that tell what a reader does with an element. -/
def actionNames : List String := ["hover", "active", "focus", "focus-visible", "focus-within"]

/-- Pseudo-classes of the parts of a scroll bar. -/
def scrollbarClassNames : List String :=
  ["horizontal", "vertical", "decrement", "increment", "start", "end", "double-button",
    "single-button", "no-button", "corner-present", "window-inactive"]

/-- Pseudo-classes that the parts of a scroll bar may have besides their own. -/
def scrollbarStateNames : List String := ["enabled", "disabled", "hover", "active"]

/-- Other pseudo-classes, under the names that are written. -/
def stateNames : List String :=
  actionNames ++
    ["current", "past", "future", "playing", "paused", "seeking", "buffering", "stalled", "muted",
      "volume-locked", "fullscreen", "-webkit-full-screen", "-moz-full-screen", "-ms-fullscreen",
      "open", "closed", "modal", "picture-in-picture", "popover-open", "defined", "any-link",
      "-webkit-any-link", "-moz-any-link", "link", "local-link", "target", "target-within",
      "visited", "enabled", "disabled", "read-only", "-moz-read-only", "read-write",
      "-moz-read-write", "placeholder-shown", "default", "checked", "indeterminate", "blank",
      "valid", "invalid", "in-range", "out-of-range", "required", "optional", "user-valid",
      "user-invalid", "autofill", "-webkit-autofill", "-o-autofill", "active-view-transition"]

/-- Pseudo-classes that are written under another name. -/
def renamedStates : List (String × String) :=
  [("-moz-placeholder", "-moz-placeholder-shown"),
    ("-ms-input-placeholder", "-ms-placeholder-shown")]

/-- Pseudo-elements that are a scroll bar or a part of one. -/
def scrollbarElementNames : List String :=
  ["-webkit-scrollbar", "-webkit-scrollbar-button", "-webkit-scrollbar-track",
    "-webkit-scrollbar-track-piece", "-webkit-scrollbar-thumb", "-webkit-scrollbar-corner",
    "-webkit-resizer"]

/-- Pseudo-elements for what a form control shows before anything is entered. -/
def placeholderNames : List String :=
  ["placeholder", "-webkit-input-placeholder", "-moz-placeholder", "-ms-input-placeholder"]

/-- Pseudo-elements for the button that chooses files. -/
def fileButtonNames : List String :=
  ["file-selector-button", "-webkit-file-upload-button", "-ms-browse"]

def pseudoElementNames : List String :=
  oldPseudoElements ++ placeholderNames ++ fileButtonNames ++ scrollbarElementNames ++
    ["marker", "selection", "-moz-selection", "backdrop", "-webkit-backdrop", "cue", "cue-region",
      "details-content", "target-text", "search-text", "spelling-error", "grammar-error",
      "picker-icon", "checkmark", "view-transition"]

/-- Pseudo-elements that what is put into a slot may have. -/
def slottedElementNames : List String :=
  ["before", "after", "marker"] ++ placeholderNames ++ fileButtonNames

/-- Pseudo-elements for the parts of a change between views. -/
def transitionNames : List String :=
  ["view-transition-group", "view-transition-image-pair", "view-transition-old",
    "view-transition-new"]

/-- A known name in lower case, an unknown one as it is. -/
def settleName (known : List String) (name : String) : String :=
  if known.contains (Text.lower name) then Text.lower name else name

def placeNames : List (String × Place) :=
  [("nth-child", .child), ("nth-last-child", .lastChild), ("nth-of-type", .ofType),
    ("nth-last-of-type", .lastOfType), ("nth-col", .column), ("nth-last-col", .lastColumn)]

end Topiary.Sheet
