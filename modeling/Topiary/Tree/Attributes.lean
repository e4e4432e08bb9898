/-!
Attributes in the order in which their names were first set, with an index that tells where the
entry of a name stands. Setting a name again changes the value in place.
-/

namespace Topiary

structure Attribute where
  name : String
  value : String
deriving Repr, DecidableEq

/-- The attributes of one element, each name once. -/
@[ext]
structure Attributes where
  entries : List Attribute
  /-- Places among the entries by name; where a name is listed more than once the first counts. -/
  index : List (String × Nat)
  indexed : ∀ name, index.lookup name = entries.findIdx? fun entry => entry.name == name
deriving Repr, DecidableEq

namespace Attributes

def empty : Attributes := ⟨[], [], fun _ => rfl⟩

/-- Where the entry of a name stands. -/
def place? (a : Attributes) (name : String) : Option Nat :=
  a.index.lookup name

/-- The value of a name. -/
def get? (a : Attributes) (name : String) : Option String :=
  match a.place? name with
  | some place => a.entries[place]?.map Attribute.value
  | none => none

def contains (a : Attributes) (name : String) : Bool :=
  (a.place? name).isSome

/-- A changed value leaves all names where they are. -/
theorem findIdx?_modify (entries : List Attribute) (place : Nat) (value name : String) :
    (entries.modify place fun entry => { entry with value := value }).findIdx?
        (fun entry => entry.name == name) =
      entries.findIdx? fun entry => entry.name == name := by
  induction entries generalizing place with
  | nil => cases place <;> rfl
  | cons entry entries ih =>
    cases place with
    | zero => simp [List.findIdx?_cons]
    | succ place => simp [List.findIdx?_cons, ih]

/-- A new name stands behind all others. -/
theorem findIdx?_concat {entries : List Attribute} {name : String}
    (h : entries.findIdx? (fun entry => entry.name == name) = none) (value other : String) :
    (entries ++ [Attribute.mk name value]).findIdx? (fun entry => entry.name == other) =
      if other = name then some entries.length
      else entries.findIdx? fun entry => entry.name == other := by
  by_cases hother : other = name
  · subst hother
    simp [List.findIdx?_append, h]
  · simp [List.findIdx?_append, Ne.symm hother, hother]

/-- Set the value of a name, in place if the name is there. -/
def set (a : Attributes) (name value : String) : Attributes :=
  match h : a.place? name with
  | some place =>
    { entries := a.entries.modify place fun entry => { entry with value := value }
      index := a.index
      indexed := fun other => by rw [findIdx?_modify, a.indexed] }
  | none =>
    { entries := a.entries ++ [⟨name, value⟩]
      index := a.index ++ [(name, a.entries.length)]
      indexed := fun other => by
        rw [place?, a.indexed] at h
        rw [findIdx?_concat h, List.lookup_append, a.indexed, List.lookup_cons]
        by_cases hother : other = name
        · rw [if_pos hother, hother, h, beq_self_eq_true]
          rfl
        · rw [if_neg hother, beq_false_of_ne hother, List.lookup_nil, Option.or_none] }

end Attributes

end Topiary
