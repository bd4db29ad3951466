import GraphPattern.Binding
import GraphPattern.Checked

/-!
# Registrations

A registration pairs a pattern with the variables it declares and with the
action that is called for each of its matches. It is requested by a declaration
whose fields need not make sense, and checking the declaration either gives the
registration or tells everything that is wrong with it.

Main statement: the declared variables of an accepted declaration are the texts
of a list, none of them empty and no two the same.
-/

namespace GraphPattern

/-- What is called with every binding that a pattern is matched by. -/
structure Action where
  /-- Tells actions apart. -/
  number : Nat
  /-- The error that a call ends with, if it fails, after a number of earlier calls. -/
  failure : (earlier : Nat) → (binding : Binding) → Option Error

/-- What a declaration gives as an action. -/
inductive GivenAction where
  /-- Nothing. -/
  | absent
  /-- Something that cannot be called. -/
  | uncallable
  /-- An action. -/
  | callable (action : Action)

/-- A request to register a pattern, before it is checked. -/
structure Declaration where
  /-- The pattern, if one is given. -/
  pattern : Option Value
  /-- The name under which variables are given. -/
  variablesField : String
  /-- The variables, if any are given. -/
  variableNames : Option Value
  /-- The action, if one is given. -/
  action : GivenAction
  /-- The name, if one is given. -/
  name : Option Value

namespace Declaration

/-- The declaration whose fields are named values. Variables go by a long and a short name; the
short one wins. -/
def ofFields (fields : Entries Value) (action : GivenAction) : Declaration where
  pattern := Entries.get? fields "pattern"
  variablesField := if Entries.has fields "vars" then "vars" else "variables"
  variableNames := (Entries.get? fields "vars").or (Entries.get? fields "variables")
  action := action
  name := Entries.get? fields "name"

/-- The declaration that is given part by part. Any value that can be gone through is taken as the
list of what it offers as variables. -/
def ofParts (pattern variableNames : Value) (action : GivenAction) (name : Value) :
    Except Error Declaration := do
  return ⟨some pattern, "variables", some (.list (← variableNames.elements)), action, some name⟩

/-- The declaration written as a mapping of keywords, of which the pattern and the action must be
there. -/
def ofKeywords (fields : Entries Value) (action : GivenAction) : Except Error Declaration :=
  match Entries.get? fields "@pattern" with
  | none => .error (.missingKey "@pattern")
  | some pattern => do
    let variableNames ← ((Entries.get? fields "@var").getD (.list [])).elements
    match action with
    | .absent => .error (.missingKey "@action")
    | action =>
      return ⟨some pattern, "variables", some (.list variableNames), action,
        Entries.get? fields "@name"⟩

end Declaration

/-- The ways to request a registration. -/
inductive Request where
  /-- By named fields. -/
  | fields (given : Entries Value) (action : GivenAction)
  /-- Part by part. -/
  | parts (pattern variableNames : Value) (action : GivenAction) (name : Value)
  /-- By a mapping of keywords. -/
  | keywords (given : Entries Value) (action : GivenAction)

/-- The declaration that a request makes. -/
def Request.declaration : Request → Except Error Declaration
  | fields given action => .ok (.ofFields given action)
  | parts pattern variableNames action name => Declaration.ofParts pattern variableNames action name
  | keywords given action => Declaration.ofKeywords given action

/-- A pattern to match. -/
@[ext]
structure Registration where
  /-- The pattern, as a document. -/
  pattern : Value
  /-- The declared variables. -/
  variableNames : List String
  /-- What is called for each match. -/
  action : Action
  /-- The name in logs and reports, if it has one. -/
  name : Option String

namespace Registration

/-- The label that a registration has by its place if it has no name of its own. -/
def placeLabel (index : Nat) : String := "match[" ++ toString index ++ "]"

/-- The label of a registration at a place. An empty name is none. -/
def label (registration : Registration) (index : Nat) : String :=
  match registration.name with
  | none | some "" => placeLabel index
  | some name => name

/-- Checks declared variables. -/
def checkVariables (field : String) (value : Value) : Checked (List String) :=
  match Checked.texts field value with
  | .error issues => .error issues
  | .ok variableNames =>
    if "" ∈ variableNames then
      Checked.refuse field (.unacceptable "variable identifiers must be non-empty")
    else if variableNames.Nodup then .ok variableNames
    else Checked.refuse field
      (.unacceptable ("duplicate variable identifiers in " ++ value.literal))

/-- Checks a declared action. -/
def checkAction : GivenAction → Checked Action
  | .absent => Checked.refuse "action" .missing
  | .uncallable => Checked.refuse "action" .notCallable
  | .callable action => .ok action

/-- Checks a declared name; null is none. -/
def checkName : Value → Checked (Option String)
  | .null => .ok none
  | value => (Checked.text "name" value).map some

/-- The registration that a declaration asks for, or all that is wrong with it. -/
def check (declaration : Declaration) : Checked Registration :=
  let pattern := Checked.required "pattern" declaration.pattern
  let variableNames := Checked.optional declaration.variableNames []
    (checkVariables declaration.variablesField)
  let action := checkAction declaration.action
  let name := Checked.optional declaration.name none checkName
  (Checked.both pattern (Checked.both variableNames (Checked.both action name))).map
    fun (pattern, variableNames, action, name) => ⟨pattern, variableNames, action, name⟩

/-- The registration that a request leads to. -/
def ofRequest (request : Request) : Except Error Registration := do
  (check (← request.declaration)).result

/-- Variables are accepted exactly when they are the texts of a list, none of them empty and no two
the same. -/
theorem checkVariables_eq_ok_iff (field : String) (value : Value) (variableNames : List String) :
    checkVariables field value = .ok variableNames ↔
      value = .list (variableNames.map .text) ∧ "" ∉ variableNames ∧ variableNames.Nodup := by
  rw [← Checked.texts_eq_ok_iff field value variableNames, checkVariables]
  cases checked : Checked.texts field value with
  | error issues => simp
  | ok found =>
    simp only [Except.ok.injEq]
    split
    · next empty =>
      simp only [Checked.refuse, reduceCtorEq, false_iff]
      rintro ⟨rfl, filled, _⟩
      exact filled empty
    · next filled =>
      split
      · next distinct =>
        simp only [Except.ok.injEq]
        exact ⟨fun same => same ▸ ⟨rfl, filled, distinct⟩, fun same => same.1⟩
      · next repeated =>
        simp only [Checked.refuse, reduceCtorEq, false_iff]
        rintro ⟨rfl, _, distinct⟩
        exact repeated distinct

/-- What an accepted declaration declared. -/
theorem check_eq_ok_iff (declaration : Declaration) (registration : Registration) :
    check declaration = .ok registration ↔
      declaration.pattern = some registration.pattern ∧
      Checked.optional declaration.variableNames [] (checkVariables declaration.variablesField) =
        .ok registration.variableNames ∧
      declaration.action = .callable registration.action ∧
      Checked.optional declaration.name none checkName = .ok registration.name := by
  have required : ∀ pattern, Checked.required "pattern" declaration.pattern = .ok pattern ↔
      declaration.pattern = some pattern := by
    intro pattern
    cases declaration.pattern <;> simp [Checked.required, Checked.refuse]
  have called : ∀ action, checkAction declaration.action = .ok action ↔
      declaration.action = .callable action := by
    intro action
    cases declaration.action <;> simp [checkAction, Checked.refuse]
  have passed : ∀ (checked : Checked (Value × List String × Action × Option String)),
      checked.map (fun (pattern, variableNames, action, name) =>
        (⟨pattern, variableNames, action, name⟩ : Registration)) = .ok registration ↔
      checked = .ok (registration.pattern, registration.variableNames, registration.action,
        registration.name) := by
    rintro (_ | ⟨_, _, _, _⟩) <;> simp [Except.map, Registration.ext_iff]
  rw [check, passed, Checked.both_eq_ok_iff, Checked.both_eq_ok_iff, Checked.both_eq_ok_iff,
    required, called]

end Registration

end GraphPattern
