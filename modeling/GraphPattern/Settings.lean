import GraphPattern.Checked
import GraphPattern.FaultPolicy
import GraphPattern.Log
import GraphPattern.Term

/-!
# Settings

What a program that embeds the library can configure. Settings come from named
values or from environment variables, each field from the variable that bears
its name in capitals behind a common start. What is not given has a default, and
names of no field are ignored.
-/

namespace GraphPattern

/-- What can be configured. -/
structure Settings where
  /-- The name of the least severe level that is logged. -/
  logLevel : String := "WARNING"
  /-- What a run does with faults. -/
  faultPolicy : FaultPolicy := .last
  /-- The start of identifiers that are variables without being declared. -/
  blankStart : String := blankPrefix
  /-- Whether every delivered binding is logged. -/
  logBindings : Bool := false

namespace Settings

/-- The names of the fields, in their order. -/
def fieldNames : List String := ["log_level", "fault_policy", "blank_node_prefix", "log_bindings"]

/-- Checks the name of a level; any text may be one, and small letters count as capitals. -/
def checkLevel (value : Value) : Checked String := (Checked.text "log_level" value).map Text.upper

/-- Checks the name of a fault policy, capitals counting as small letters. -/
def checkPolicy (value : Value) : Checked FaultPolicy :=
  match value.text?.bind fun word => FaultPolicy.ofName? (Text.lower word) with
  | some policy => .ok policy
  | none => Checked.refuse "fault_policy" .notAllowed

/-- Checks the start of blank identifiers. If it were empty, every identifier would be a
variable. -/
def checkStart : Value → Checked String
  | .text "" =>
    Checked.refuse "blank_node_prefix" (.unacceptable "blank_node_prefix must not be empty")
  | value => Checked.text "blank_node_prefix" value

/-- The settings given by named values. -/
def ofFields (fields : Entries Value) : Checked Settings :=
  let level := Checked.optional (Entries.get? fields "log_level") "WARNING" checkLevel
  let policy := Checked.optional (Entries.get? fields "fault_policy") .last checkPolicy
  let start := Checked.optional (Entries.get? fields "blank_node_prefix") blankPrefix checkStart
  let bindings := Checked.optional (Entries.get? fields "log_bindings") false
    (Checked.truth "log_bindings")
  (Checked.both level (Checked.both policy (Checked.both start bindings))).map
    fun (level, policy, start, bindings) => ⟨level, policy, start, bindings⟩

/-- The environment variable of a field. -/
def variableOf (field : String) : String := "LDMATCH_" ++ Text.upper field

/-- The settings given by environment variables; those that are not set do not count. -/
def ofEnvironment (environment : Entries Value) : Checked Settings :=
  ofFields (fieldNames.filterMap fun field =>
    match Entries.get? environment (variableOf field) with
    | none | some .null => none
    | some value => some (field, value))

/-- The threshold of the log that a value configures. Null stands for what the environment
configures. -/
def threshold (environment : Entries Value) (level : Value) : Except Error LogThreshold :=
  match level with
  | .null => do
    let settings ← (ofEnvironment environment).result
    LogThreshold.ofValue (.text settings.logLevel)
  | level => LogThreshold.ofValue level

/-- Just the texts that are not empty can start blank identifiers. -/
theorem checkStart_eq_ok_iff (value : Value) (start : String) :
    checkStart value = .ok start ↔ value = .text start ∧ start ≠ "" := by
  unfold checkStart
  split
  · simp only [Checked.refuse, reduceCtorEq, Value.text.injEq, false_iff]
    rintro ⟨same, filled⟩
    exact filled same.symm
  · next filled =>
    cases value with
    | text chars =>
      simp only [Checked.text, Value.text?, Except.ok.injEq, Value.text.injEq, ne_eq]
      refine ⟨fun same => ⟨same, ?_⟩, fun same => same.1⟩
      rintro rfl
      exact filled (by rw [same])
    | _ => simp [Checked.text, Checked.refuse, Value.text?]

end Settings

end GraphPattern
