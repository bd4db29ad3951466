import GraphPattern.Error
import GraphPattern.Text.LetterCase

/-!
# Checked fields

A record given as named values is checked field by field. A check does not stop
at the first wrong field: all fields are checked, and what is wrong with them is
told in the order of the fields.
-/

namespace GraphPattern

/-- A value that passed its checks, or all that is wrong. -/
abbrev Checked (α : Type) := Except (List Issue) α

namespace Checked

variable {α β : Type}

/-- Refuses a field. -/
def refuse (field : String) (complaint : Complaint) : Checked α :=
  .error [⟨[.field field], complaint⟩]

/-- Two checks that are both made; the issues of the first come before those of the second. -/
def both (first : Checked α) (second : Checked β) : Checked (α × β) :=
  match first, second with
  | .ok value, .ok other => .ok (value, other)
  | .ok _, .error issues => .error issues
  | .error issues, .ok _ => .error issues
  | .error issues, .error further => .error (issues ++ further)

/-- The check of a field that may be absent. -/
def optional (given : Option Value) (default : α) (check : Value → Checked α) : Checked α :=
  match given with
  | some value => check value
  | none => .ok default

/-- The check of a field that must be there. -/
def required (field : String) (given : Option α) : Checked α :=
  match given with
  | some value => .ok value
  | none => refuse field .missing

/-- Checks that a field is a text. -/
def text (field : String) (value : Value) : Checked String :=
  match value.text? with
  | some chars => .ok chars
  | none => refuse field .notText

/-- The issues of list items that are no texts. -/
def itemIssues (field : String) (items : List Value) : List Issue :=
  items.zipIdx.filterMap fun (item, index) =>
    match item.text? with
    | some _ => none
    | none => some ⟨[.field field, .item index], .notText⟩

/-- Checks that a field is a list of texts. -/
def texts (field : String) (value : Value) : Checked (List String) :=
  match value with
  | .list items =>
    if items.all fun item => item.text?.isSome then .ok (items.filterMap Value.text?)
    else .error (itemIssues field items)
  | _ => refuse field .notList

/-- The words that stand for true. -/
def trueWords : List String := ["1", "true", "t", "yes", "y", "on"]

/-- The words that stand for false. -/
def falseWords : List String := ["0", "false", "f", "no", "n", "off"]

/-- The size from which on whole numbers are too large to be read as truth values. -/
def wordLimit : Int := 9223372036854775808

/-- The truth value that a whole number stands for. Only one and zero stand for one. -/
def truthOfWhole (field : String) (number : Int) : Checked Bool :=
  if number = 1 then .ok true
  else if number = 0 then .ok false
  else refuse field .unreadableTruth

/-- Checks that a field stands for a truth value: one itself, the numbers one and zero, or a word
for one of them. Other whole numbers are unreadable if they fit a word of 64 bits, of which a
double must not be the least; whatever else there is has the wrong kind. -/
def truth (field : String) (value : Value) : Checked Bool :=
  match value with
  | .bool truth => .ok truth
  | .text word =>
    if trueWords.contains (Text.lower word) then .ok true
    else if falseWords.contains (Text.lower word) then .ok false
    else refuse field .unreadableTruth
  | .int number =>
    if -wordLimit ≤ number && number < wordLimit then truthOfWhole field number
    else refuse field .notTruth
  | .double number =>
    match number.magnitude with
    | .whole number =>
      if -wordLimit < number && number < wordLimit then truthOfWhole field number
      else refuse field .notTruth
    | _ => refuse field .notTruth
  | _ => refuse field .notTruth

/-- The checked value, or the error that tells all issues. -/
def result (checked : Checked α) : Except Error α := checked.mapError .validation

/-- Two checks pass together exactly when each does. -/
theorem both_eq_ok_iff (first : Checked α) (second : Checked β) (value : α) (other : β) :
    both first second = .ok (value, other) ↔ first = .ok value ∧ second = .ok other := by
  rcases first with _ | _ <;> rcases second with _ | _ <;> simp [both]

/-- A list of texts passes exactly when the value is the list of just these texts. -/
theorem texts_eq_ok_iff (field : String) (value : Value) (chars : List String) :
    texts field value = .ok chars ↔ value = .list (chars.map .text) := by
  have only_texts : ∀ items : List Value,
      ((items.all fun item => item.text?.isSome) = true ∧ items.filterMap Value.text? = chars) ↔
        items = chars.map .text := by
    intro items
    induction items generalizing chars with
    | nil => cases chars <;> simp
    | cons item rest ih =>
      cases item with
      | text head =>
        cases chars with
        | nil => simp [Value.text?]
        | cons first others => simpa [Value.text?, and_left_comm] using fun _ => ih others
      | _ => cases chars <;> simp [Value.text?]
  cases value with
  | list items =>
    rw [Value.list.injEq, ← only_texts, texts]
    split
    · next passed => simp [passed]
    · next refused => simp [refused]
  | _ => simp [texts, refuse]

end Checked

end GraphPattern
