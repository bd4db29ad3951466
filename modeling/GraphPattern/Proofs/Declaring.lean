import GraphPattern.Registration
import Mathlib.Data.List.Nodup
import Mathlib.Data.String.Basic

/-!
# Two ways to declare a pattern

The same pattern, variables, action and name can be given by named fields or by
a mapping of keywords. The fields are checked as they are given. Behind the
keywords, whatever can be gone through is first made a list of what it offers,
and that list is checked. So the two ways differ in what they take as variables.

Main statement: fields accept just the lists that keywords accept, and alike;
texts and objects are accepted by keywords alone, which take their characters
or names as variables.
-/

namespace GraphPattern

namespace Request

variable (pattern variableNames : Value) (action : Action) (name : Option String)

/-- The request by named fields; a name need not be given. -/
def byFields : Request :=
  .fields ([("pattern", pattern), ("vars", variableNames)] ++
    (name.map fun chars => ("name", Value.text chars)).toList) (.callable action)

/-- The request by keywords; a name need not be given. -/
def byKeywords : Request :=
  .keywords ([("@pattern", pattern), ("@var", variableNames)] ++
    (name.map fun chars => ("@name", Value.text chars)).toList) (.callable action)

end Request

namespace Registration

/-- A value that offers just these texts one by one, none of them empty and no two the same. -/
def Offers (given : Value) (variableNames : List String) : Prop :=
  given.elements? = some (variableNames.map .text) ∧ "" ∉ variableNames ∧ variableNames.Nodup

/-- A text offers its characters, each as a text of its own. -/
theorem offers_text_iff (chars : String) (variableNames : List String) :
    Offers (.text chars) variableNames ↔
      chars.toList.Nodup ∧ variableNames = chars.toList.map String.singleton := by
  have injective : Function.Injective String.singleton := fun first second same => by
    simpa using congrArg String.toList same
  have offered : Value.elements? (.text chars) =
      some ((chars.toList.map String.singleton).map .text) := by
    rw [List.map_map]
    rfl
  rw [Offers, offered, Option.some.injEq,
    (List.map_injective_iff.2 fun _ _ => Value.text.inj).eq_iff]
  constructor
  · rintro ⟨rfl, _, distinct⟩
    exact ⟨(List.nodup_map_iff injective).1 distinct, rfl⟩
  · rintro ⟨distinct, rfl⟩
    refine ⟨rfl, fun empty => ?_, (List.nodup_map_iff injective).2 distinct⟩
    obtain ⟨char, _, none⟩ := List.mem_map.1 empty
    simpa using congrArg String.toList none

/-- An object offers its names. -/
theorem offers_object_iff (members : Entries Value) (variableNames : List String) :
    Offers (.object members) variableNames ↔
      ("" ∉ Entries.keys members ∧ (Entries.keys members).Nodup) ∧
        variableNames = Entries.keys members := by
  rw [Offers, Value.elements?, Option.some.injEq,
    (List.map_injective_iff.2 fun _ _ => Value.text.inj).eq_iff]
  constructor
  · rintro ⟨rfl, filled, distinct⟩
    exact ⟨⟨filled, distinct⟩, rfl⟩
  · rintro ⟨⟨filled, distinct⟩, rfl⟩
    exact ⟨rfl, filled, distinct⟩

/-- Only lists are accepted as they stand. -/
theorem checkVariables_eq_ok_iff_offers (field : String) (given : Value)
    (variableNames : List String) :
    checkVariables field given = .ok variableNames ↔
      given.isList = true ∧ Offers given variableNames := by
  rw [checkVariables_eq_ok_iff, Offers]
  cases given <;> simp [Value.isList, Value.elements?]

variable {pattern : Value} {action : Action} {name : Option String}

/-- What a declaration is accepted with that gives everything. -/
theorem check_eq_ok_iff_offers (field : String) (given : Value) (registration : Registration) :
    (check ⟨some pattern, field, some given, .callable action, name.map .text⟩).result =
        .ok registration ↔
      (given.isList = true ∧ Offers given registration.variableNames) ∧
        registration = ⟨pattern, registration.variableNames, action, name⟩ := by
  have passes : ∀ checked : Checked Registration,
      checked.result = .ok registration ↔ checked = .ok registration := by
    rintro (_ | _) <;> simp [Checked.result, Except.mapError]
  have named : Checked.optional (name.map Value.text) none checkName = .ok name := by
    cases name <;> rfl
  rw [passes, check_eq_ok_iff, named]
  show (_ ∧ checkVariables field given = _ ∧ _) ↔ _
  rw [checkVariables_eq_ok_iff_offers, Registration.ext_iff]
  simp only [Option.some.injEq, GivenAction.callable.injEq, Except.ok.injEq]
  tauto

variable {given : Value}

/-- What named fields are accepted with. -/
theorem ofRequest_byFields_iff (registration : Registration) :
    ofRequest (.byFields pattern given action name) = .ok registration ↔
      (given.isList = true ∧ Offers given registration.variableNames) ∧
        registration = ⟨pattern, registration.variableNames, action, name⟩ := by
  have declared : (Request.byFields pattern given action name).declaration =
      .ok ⟨some pattern, "vars", some given, .callable action, name.map .text⟩ := by
    cases name <;> rfl
  rw [ofRequest, declared]
  exact check_eq_ok_iff_offers "vars" given registration

/-- What keywords are accepted with. -/
theorem ofRequest_byKeywords_iff (registration : Registration) :
    ofRequest (.byKeywords pattern given action name) = .ok registration ↔
      Offers given registration.variableNames ∧
        registration = ⟨pattern, registration.variableNames, action, name⟩ := by
  have declared : (Request.byKeywords pattern given action name).declaration =
      given.elements >>= fun items =>
        .ok ⟨some pattern, "variables", some (.list items), .callable action, name.map .text⟩ := by
    cases name <;> rfl
  rw [ofRequest, declared, Value.elements, Offers]
  cases offered : given.elements? with
  | none => exact ⟨nofun, fun accepted => nomatch accepted.1.1⟩
  | some items =>
    exact (check_eq_ok_iff_offers "variables" (.list items) registration).trans
      (and_congr_left' (and_iff_right rfl))

/-- A registration with these variables and no other part left open. -/
theorem eq_whole_iff (registration : Registration) (variableNames : List String) :
    (registration.variableNames = variableNames ∧
      registration = ⟨pattern, registration.variableNames, action, name⟩) ↔
    registration = ⟨pattern, variableNames, action, name⟩ := by
  constructor
  · rintro ⟨rfl, whole⟩
    exact whole
  · rintro rfl
    exact ⟨rfl, rfl⟩

/-- Fields accept the lists that keywords accept, and keywords alone take texts and objects
apart. Let the pattern, the action and the name be the same. Keywords accept a value exactly if
what it offers one by one are texts, none of them empty and no two the same; these are then the
variables, and the other parts are kept. Fields accept a value exactly if it is a list and keywords
accept it, with the same registration and so with the same label. Hence fields refuse every text and
every object, but keywords accept a text in which no character repeats, with its characters as
variables, and an object whose names are distinct and not empty, with its names as variables. -/
theorem keywords_take_apart (pattern : Value) (action : Action) (name : Option String) :
    let fields := fun given => ofRequest (.byFields pattern given action name)
    let keywords := fun given => ofRequest (.byKeywords pattern given action name)
    (∀ given registration, keywords given = .ok registration ↔
      Offers given registration.variableNames ∧
        registration = ⟨pattern, registration.variableNames, action, name⟩) ∧
    (∀ given registration, fields given = .ok registration ↔
      given.isList = true ∧ keywords given = .ok registration) ∧
    (∀ chars registration, fields (.text chars) ≠ .ok registration ∧
      (keywords (.text chars) = .ok registration ↔ chars.toList.Nodup ∧
        registration = ⟨pattern, chars.toList.map String.singleton, action, name⟩)) ∧
    ∀ members registration, fields (.object members) ≠ .ok registration ∧
      (keywords (.object members) = .ok registration ↔
        ("" ∉ Entries.keys members ∧ (Entries.keys members).Nodup) ∧
          registration = ⟨pattern, Entries.keys members, action, name⟩) := by
  intro fields keywords
  have keywords_iff : ∀ given registration, keywords given = .ok registration ↔ _ :=
    fun _ => ofRequest_byKeywords_iff
  have fields_iff : ∀ given registration, fields given = .ok registration ↔
      given.isList = true ∧ keywords given = .ok registration := by
    intro given registration
    rw [keywords_iff, ← and_assoc]
    exact ofRequest_byFields_iff registration
  refine ⟨keywords_iff, fields_iff, fun chars registration => ⟨?_, ?_⟩,
    fun members registration => ⟨?_, ?_⟩⟩
  · rw [Ne, fields_iff]
    exact fun accepted => Bool.noConfusion accepted.1
  · rw [keywords_iff, offers_text_iff, and_assoc]
    exact and_congr_right' (eq_whole_iff registration _)
  · rw [Ne, fields_iff]
    exact fun accepted => Bool.noConfusion accepted.1
  · rw [keywords_iff, offers_object_iff, and_assoc]
    exact and_congr_right' (eq_whole_iff registration _)

/-- A single variable that is given without a list is refused as a field; as a keyword it declares
its characters. -/
theorem text_taken_apart :
    let pattern := Value.object [("@id", .text "?x")]
    let action : Action := ⟨0, fun _ _ => none⟩
    ofRequest (.byKeywords pattern (.text "?x") action none) =
        .ok ⟨pattern, ["?", "x"], action, none⟩ ∧
      ofRequest (.byFields pattern (.text "?x") action none) =
        .error (.validation [⟨[.field "vars"], .notList⟩]) :=
  ⟨rfl, rfl⟩

end Registration

end GraphPattern
