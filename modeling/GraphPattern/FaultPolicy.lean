import GraphPattern.Error
import GraphPattern.Text.Blank
import GraphPattern.Text.LetterCase

/-!
# Fault policies

A fault policy says what a run does after a pattern had faults: go on to the
other patterns or skip them, and which of the observed faults it reports.
-/

namespace GraphPattern

/-- What a run does with faults. -/
inductive FaultPolicy where
  /-- Every pattern is matched, and the last fault is reported. -/
  | last
  /-- Patterns behind the first one with a fault are skipped, and the first fault is reported. -/
  | first
  /-- Every pattern is matched, and all faults are reported. -/
  | collect
  deriving DecidableEq

namespace FaultPolicy

/-- The word for a policy. -/
def name : FaultPolicy → String
  | last => "last"
  | first => "first"
  | collect => "collect"

/-- The policy that a word names. -/
def ofName? (word : String) : Option FaultPolicy := [last, first, collect].find? (·.name == word)

/-- The policy that a value names exactly. -/
def ofValue (value : Value) : Except Error FaultPolicy :=
  match value.text?.bind ofName? with
  | some policy => .ok policy
  | none => .error (.unknownPolicy value)

/-- The policy that a value names once it is shown, without the blanks around it and in small
letters. -/
def ofSpelling (value : Value) : Except Error FaultPolicy :=
  ofValue (.text (Text.lower (Text.trim value.shown)))

/-- A policy goes by its own name and by no other. -/
theorem ofName?_eq_some_iff (word : String) (policy : FaultPolicy) :
    ofName? word = some policy ↔ word = policy.name := by
  constructor
  · intro found
    have same := List.find?_some found
    exact (beq_iff_eq.1 same).symm
  · rintro rfl
    cases policy <;> rfl

end FaultPolicy

end GraphPattern
