import VOTable.Constraint.Basic

/-!
# Merging constraints

When several constraints apply to one element, they are merged into one that demands what all of
them demand. Exact keys must agree, and of two bounds the tighter is kept. A bound that is already
at least as tight keeps its text, however it is spelt.

Merging goes key by key in the order of `Key.all` and stops at the first key on which the two
disagree; the keys before it are then merged already.
-/

namespace VOTable

/-- What becomes of a held text when another one comes in. -/
inductive MergeOutcome where
  | keep
  | replace (text : String)
  | conflict
deriving DecidableEq, Repr

namespace Key

/-- Merges two bounds on the arraysize. -/
def mergeArraysize (held incoming : String) : MergeOutcome :=
  match Arraysize.ofText? held, Arraysize.ofText? incoming with
  | some own, some other =>
    match own.narrowedBy other with
    | some narrowed => .replace narrowed.text
    | none => .keep
  | _, _ => .conflict

/-- Merges two bounds on the width. -/
def mergeWidth (held incoming : String) : MergeOutcome :=
  match Text.naturalBelow? UInt64.size held, Text.naturalBelow? UInt64.size incoming with
  | some own, some other => if other < own then .replace (toString other) else .keep
  | _, _ => .conflict

/-- Merges two bounds on the precision, which must count the same kind of digits. -/
def mergePrecision (held incoming : String) : MergeOutcome :=
  match Precision.ofText? held, Precision.ofText? incoming with
  | some own, some other =>
    match own.isFiner? other with
    | some true => .replace other.text
    | some false => .keep
    | none => .conflict
  | _, _ => .conflict

/-- Merges two texts that differ. -/
def mergeTexts (key : Key) (held incoming : String) : MergeOutcome :=
  match key.rule with
  | .exact => .conflict
  | .arraysizeBound => mergeArraysize held incoming
  | .widthBound => mergeWidth held incoming
  | .precisionBound => mergePrecision held incoming

/-- What becomes of what is held for the key when another constraint comes in. -/
def merge (key : Key) (held incoming : Option String) : MergeOutcome :=
  match held, incoming with
  | _, none => .keep
  | none, some text => .replace text
  | some own, some other => if own = other then .keep else key.mergeTexts own other

end Key

namespace Constraint

/-- Merges the given keys in order. The result holds what was merged, and the key on which the two
constraints disagree if there is one. -/
def mergeKeys (incoming : Constraint) : List Key → Constraint → Constraint × Option Key
  | [], held => (held, none)
  | key :: rest, held =>
    match key.merge (held.get key) (incoming.get key) with
    | .keep => mergeKeys incoming rest held
    | .replace text => mergeKeys incoming rest (held.update key (some text))
    | .conflict => (held, some key)

/-- Folds one constraint into another, narrowing bounds. -/
def mergeIn (held incoming : Constraint) : Constraint × Option Key :=
  mergeKeys incoming Key.all held

/-- Folds constraints into one in their order, or tells the key on which two of them disagree. -/
def mergeAll : List Constraint → Constraint → Except Key Constraint
  | [], held => .ok held
  | incoming :: rest, held =>
    match held.mergeIn incoming with
    | (merged, none) => mergeAll rest merged
    | (_, some key) => .error key

end Constraint

end VOTable
