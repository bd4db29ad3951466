import GraphPattern.Proofs.Answering
import GraphPattern.Proofs.Renaming

/-!
# Patterns with other variables

In a pattern a variable is the `@id` of a subject, a name in a subject, or what
an object names. In all three places it is told from a constant by its spelling
alone: a declared name, or a label of a blank node. The variables of a pattern
can be spelled otherwise, as long as different ones stay different, constants
stay as they are, and nothing becomes a variable or ceases to be one.

Main statement: matching a pattern with renamed variables goes as before, step
by step, and ends with the same source, in which the variables are renamed.
-/

namespace GraphPattern

namespace Node

/-- The texts in a member of a pattern subject that can be variables: under `@id` the value, and
elsewhere the name and what the objects name. -/
def spelledIn : String × Value → List String
  | (name, value) =>
    if name = "@id" then value.text?.toList else name :: value.toList.filterMap identifierOf

/-- The texts in a pattern subject that can be variables. -/
def spelled : Value → List String
  | .object members => members.flatMap spelledIn
  | _ => []

/-- The names of a subject are spelled in it. -/
theorem mem_spelled_of_mem_names {subject : Value} {name : String}
    (inNames : name ∈ names subject) : name ∈ spelled subject := by
  have different := ne_id_of_mem_names inNames
  cases subject with
  | object members =>
    obtain ⟨⟨_, value⟩, member, rfl⟩ := List.mem_map.1 (List.mem_filter.1 inNames).1
    refine List.mem_flatMap.2 ⟨_, member, ?_⟩
    rw [spelledIn, if_neg different]
    exact List.mem_cons_self
  | _ => cases inNames

/-- What a subject goes by is spelled in it. -/
theorem mem_spelled_of_identifier {subject : Value} {name : String}
    (named : identifier subject = .text name) : name ∈ spelled subject := by
  cases subject with
  | object members =>
    unfold identifier at named
    cases held : (Value.object members).member? "@id" with
    | none =>
      rw [held] at named
      cases named
    | some value =>
      rw [held, Option.getD_some] at named
      subst named
      refine List.mem_flatMap.2 ⟨_, Entries.mem_of_get?_eq_some held, ?_⟩
      rw [spelledIn, if_pos rfl]
      exact List.mem_cons_self
  | _ => cases named

/-- What an object of a subject names is spelled in the subject. -/
theorem mem_spelled_of_valuesOf {subject object : Value} {name spelling : String}
    (different : name ≠ "@id") (listed : object ∈ valuesOf subject name)
    (named : identifierOf object = some spelling) : spelling ∈ spelled subject := by
  unfold valuesOf at listed
  cases subject with
  | object members =>
    cases held : (Value.object members).member? name with
    | none =>
      rw [held] at listed
      cases listed
    | some value =>
      rw [held, Option.map_some, Option.getD_some] at listed
      refine List.mem_flatMap.2 ⟨_, Entries.mem_of_get?_eq_some held, ?_⟩
      rw [spelledIn, if_neg different]
      exact List.mem_cons_of_mem _ (List.mem_filterMap.2 ⟨object, listed, named⟩)
  | _ => cases listed

end Node

namespace Matcher

section Renamed

variable (matcher : Matcher) (declared : List String) (rename : String → String)

/-- A text in which variables are renamed: it is replaced if it is a variable itself. -/
def renamedText (text : String) : String :=
  if matcher.isVariable declared text then rename text else text

/-- An object of a pattern, which names another variable if it names one. -/
def renamedObject (object : Value) : Value :=
  match matcher.objectVariable? declared object, object with
  | some name, .text _ => .text (rename name)
  | some name, .object members => .object (Entries.put members "@id" (.text (rename name)))
  | _, object => object

/-- The `@id` of a pattern subject, which is another variable if it is one. -/
def renamedIdentifier (value : Value) : Value :=
  match matcher.asVariable? declared value with
  | some name => .text (rename name)
  | none => value

/-- The name of a member of a pattern subject, which is another variable if it is one; `@id` is
none. -/
def renamedName (name : String) : String :=
  if name = "@id" then name else matcher.renamedText declared rename name

/-- What stands under a name of a pattern subject, with other variables. -/
def renamedValue (name : String) (value : Value) : Value :=
  if name = "@id" then matcher.renamedIdentifier declared rename value
  else value.mapItems (matcher.renamedObject declared rename)

/-- A pattern subject with other variables. -/
def renamedSubject : Value → Value
  | .object members => .object (members.map fun entry =>
      (matcher.renamedName declared rename entry.1,
        matcher.renamedValue declared rename entry.1 entry.2))
  | other => other

/-- A subject with other variables stays an object. -/
theorem isObject_renamedSubject {subject : Value} (described : subject.isObject = true) :
    (matcher.renamedSubject declared rename subject).isObject = true := by
  cases subject with
  | object members => rfl
  | _ => cases described

/-- What a renaming has to keep, for the texts of a pattern: constants, and what is a variable. -/
structure Renames (matcher : Matcher) (declared texts : List String) (rename : String ↪ String) :
    Prop where
  /-- The name that stands for no predicate stays. -/
  identifier : rename "@id" = "@id"
  /-- Constants stay. -/
  constant : ∀ text ∈ texts, matcher.isVariable declared text = false → rename text = text
  /-- Variables become variables, and constants do not. -/
  ranging : ∀ text ∈ texts,
    matcher.isVariable (declared.map rename) (rename text) = matcher.isVariable declared text

variable {matcher declared} {texts : List String} {rename : String ↪ String}

/-- In a pattern, all texts are as if renamed, since constants stay. -/
theorem Renames.renamedText_eq (renames : matcher.Renames declared texts rename) {text : String}
    (spelled : text ∈ texts) : matcher.renamedText declared rename text = rename text := by
  unfold renamedText
  by_cases ranging : matcher.isVariable declared text = true
  · rw [if_pos ranging]
  · rw [if_neg ranging]
    exact (renames.constant text spelled (Bool.eq_false_iff.2 ranging)).symm

/-- An object with other variables names what it named, renamed if that is a variable. -/
theorem identifierOf_renamedObject (rename : String → String) (object : Value) :
    identifierOf (matcher.renamedObject declared rename object) =
      (identifierOf object).map (matcher.renamedText declared rename) := by
  unfold renamedObject objectVariable?
  cases named : identifierOf object with
  | none => exact named
  | some name =>
    rw [Option.filter_some, Option.map_some, renamedText]
    by_cases ranging : matcher.isVariable declared name = true
    · rw [if_pos ranging, if_pos ranging]
      cases object with
      | text chars => rfl
      | object members =>
        have unvalued := Value.unvalued_of_identifierOf named
        refine (Value.identifierOf_eq_some_iff _ _).2 (.inr ⟨?_, ?_⟩)
        · exact (Entries.get?_put members _ _ _).trans ((if_neg (by decide)).trans unvalued)
        · exact (Entries.get?_put members _ _ _).trans (if_pos rfl)
      | _ => cases named
    · rw [if_neg ranging, if_neg ranging]
      exact named

/-- An object that names no variable stays. -/
theorem renamedObject_of_constant (rename : String → String) {object : Value}
    (constant : matcher.objectVariable? declared object = none) :
    matcher.renamedObject declared rename object = object := by
  unfold renamedObject
  rw [constant]

namespace Renames

/-- A renamed object names the variable that it named, under its new name. -/
theorem objectVariable?_eq (renames : matcher.Renames declared texts rename) {object : Value}
    (spelled : ∀ text, identifierOf object = some text → text ∈ texts) :
    matcher.objectVariable? (declared.map rename) (matcher.renamedObject declared rename object) =
      (matcher.objectVariable? declared object).map rename := by
  unfold objectVariable?
  rw [identifierOf_renamedObject]
  cases named : identifierOf object with
  | none => rfl
  | some text =>
    have member := spelled text named
    rw [Option.map_some, Option.filter_some, Option.filter_some, renames.renamedText_eq member,
      renames.ranging text member]
    by_cases ranging : matcher.isVariable declared text = true
    · rw [if_pos ranging, if_pos ranging]
      rfl
    · rw [if_neg ranging, if_neg ranging]
      rfl

/-- A renamed subject is the variable that it was, under its new name. -/
theorem asVariable?_eq (renames : matcher.Renames declared texts rename) {value : Value}
    (spelled : ∀ text, value = .text text → text ∈ texts) :
    matcher.asVariable? (declared.map rename) (matcher.renamedIdentifier declared rename value) =
      (matcher.asVariable? declared value).map rename := by
  unfold renamedIdentifier
  cases value with
  | text text =>
    have member := spelled text rfl
    rw [asVariable?_text]
    by_cases ranging : matcher.isVariable declared text = true
    · rw [if_pos ranging]
      show matcher.asVariable? _ (.text (rename text)) = some (rename text)
      rw [asVariable?_text, renames.ranging text member, if_pos ranging]
    · rw [if_neg ranging]
      show matcher.asVariable? _ (.text text) = none
      have constant := renames.ranging text member
      rw [renames.constant text member (Bool.eq_false_iff.2 ranging)] at constant
      rw [asVariable?_text, constant, if_neg ranging]
  | _ => rfl

variable {subject : Value}

/-- The members of a subject have new names and new values. -/
theorem members_eq (renames : matcher.Renames declared texts rename) {members : Entries Value}
    (spelled : ∀ text ∈ Node.spelled (.object members), text ∈ texts) :
    matcher.renamedSubject declared rename (.object members) =
      .object (Entries.renamed rename (members.map fun entry =>
        (entry.1, matcher.renamedValue declared rename entry.1 entry.2))) := by
  have newName : ∀ entry ∈ members, matcher.renamedName declared rename entry.1 =
      rename entry.1 := by
    intro entry member
    unfold renamedName
    by_cases isId : entry.1 = "@id"
    · rw [if_pos isId, isId, renames.identifier]
    · rw [if_neg isId]
      have inNames : entry.1 ∈ Node.names (.object members) :=
        List.mem_filter.2 ⟨List.mem_map_of_mem member, bne_iff_ne.2 isId⟩
      exact renames.renamedText_eq (spelled _ (Node.mem_spelled_of_mem_names inNames))
  rw [renamedSubject, Entries.renamed, List.map_map]
  congr 1
  refine List.map_congr_left fun entry member => ?_
  rw [newName entry member]
  rfl

/-- The new names of a subject are the old ones renamed. -/
theorem names_eq (renames : matcher.Renames declared texts rename)
    (spelled : ∀ text ∈ Node.spelled subject, text ∈ texts) :
    Node.names (matcher.renamedSubject declared rename subject) =
      (Node.names subject).map rename := by
  have onlyId : ∀ name, (rename name != "@id") = (name != "@id") := by
    intro name
    rw [Bool.eq_iff_iff, bne_iff_ne, bne_iff_ne]
    refine not_congr ⟨fun same => ?_, fun same => ?_⟩
    · exact rename.injective (same.trans renames.identifier.symm)
    · rw [same, renames.identifier]
  cases subject with
  | object members =>
    have sameKeys : Entries.keys (members.map fun entry =>
        (entry.1, matcher.renamedValue declared rename entry.1 entry.2)) =
          Entries.keys members := by
      rw [Entries.keys, Entries.keys, List.map_map]
      rfl
    rw [renames.members_eq spelled, Node.names, Node.names, Entries.keys_renamed, sameKeys,
      List.filter_map]
    simp only [Function.comp_def, onlyId]
  | _ => rfl

/-- Under a new name of a subject stands the new value of the old one. -/
theorem member?_eq (renames : matcher.Renames declared texts rename)
    (spelled : ∀ text ∈ Node.spelled subject, text ∈ texts) (name : String) :
    (matcher.renamedSubject declared rename subject).member? (rename name) =
      (subject.member? name).map (matcher.renamedValue declared rename name) := by
  cases subject with
  | object members =>
    rw [renames.members_eq spelled]
    show Entries.get? (Entries.renamed rename _) (rename name) = (Entries.get? members name).map _
    rw [Entries.get?_renamed fun _ _ same => rename.injective same, Entries.get?_map_values]
  | _ => rfl

/-- A renamed subject goes by what it went by, with another variable if that was one. -/
theorem identifier_eq (renames : matcher.Renames declared texts rename)
    (spelled : ∀ text ∈ Node.spelled subject, text ∈ texts) :
    Node.identifier (matcher.renamedSubject declared rename subject) =
      matcher.renamedIdentifier declared rename (Node.identifier subject) := by
  have held := renames.member?_eq spelled "@id"
  rw [renames.identifier] at held
  rw [Node.identifier, Node.identifier, held]
  cases subject.member? "@id" <;> rfl

/-- The values under a new name are the old ones, each with other variables. -/
theorem valuesOf_eq (renames : matcher.Renames declared texts rename)
    (spelled : ∀ text ∈ Node.spelled subject, text ∈ texts) {name : String}
    (different : name ≠ "@id") :
    Node.valuesOf (matcher.renamedSubject declared rename subject) (rename name) =
      (Node.valuesOf subject name).map (matcher.renamedObject declared rename) := by
  rw [Node.valuesOf, Node.valuesOf, renames.member?_eq spelled]
  cases subject.member? name with
  | none => rfl
  | some value =>
    have scalar : ∀ object : Value, object.isList = false →
        (matcher.renamedObject declared rename object).isList = false := by
      intro object notList
      unfold renamedObject
      cases matcher.objectVariable? declared object with
      | none => exact notList
      | some name => cases object <;> first | rfl | exact notList
    show (matcher.renamedValue declared rename name value).toList = value.toList.map _
    rw [renamedValue, if_neg different, Value.toList_mapItems scalar]

end Renames

/-- A build with other variables is guarded as before, since a fault has none. -/
theorem guarded_renamed (rename : String ↪ String) (part : String) (build : Logged Source) :
    guarded part (build.map (Source.renamed rename)) =
      (guarded part build).map (Source.renamed rename) := by
  rcases build with ⟨trace, error | source⟩
  · cases error <;> rfl
  · rfl

/-- Matching an object with another variable gives the same values to that. -/
theorem matchObject_renamed (renames : matcher.Renames declared texts rename) {object : Value}
    (spelled : ∀ text, identifierOf object = some text → text ∈ texts)
    (node predicate : Value) :
    matcher.matchObject (declared.map rename) node predicate
        (matcher.renamedObject declared rename object) =
      (matcher.matchObject declared node predicate object).map (Source.renamed rename) := by
  unfold matchObject
  rw [renames.objectVariable?_eq spelled, ← guarded_renamed]
  congr 1
  cases ranging : matcher.objectVariable? declared object with
  | some name =>
    dsimp only [Option.map_some]
    rw [Traced.map_bind]
    congr 1
    funext values
    rw [Traced.map_pure, Source.renamed_union, List.map_map]
    rfl
  | none =>
    dsimp only [Option.map_none]
    rw [renamedObject_of_constant rename ranging, Traced.map_bind]
    congr 1
    funext present
    cases present <;> rfl

/-- A join of builds with other variables. -/
theorem joinAll_renamed (rename : String ↪ String) {α : Type} {list : List α}
    {build other : α → Logged Source}
    (each : ∀ element ∈ list, other element = (build element).map (Source.renamed rename)) :
    (do return Source.joinAll (← list.mapM other) : Logged Source) =
      (do return Source.joinAll (← list.mapM build) : Logged Source).map
        (Source.renamed rename) := by
  rw [Traced.mapM_map each, Traced.bind_map, Traced.map_bind]
  congr 1
  funext sources
  rw [Traced.map_pure, Source.renamed_joinAll]

/-- Matching objects with other variables. -/
theorem matchObjects_renamed (renames : matcher.Renames declared texts rename)
    {objects : List Value}
    (spelled : ∀ object ∈ objects, ∀ text, identifierOf object = some text → text ∈ texts)
    (node predicate : Value) :
    matcher.matchObjects (declared.map rename) node predicate
        (objects.map (matcher.renamedObject declared rename)) =
      (matcher.matchObjects declared node predicate objects).map (Source.renamed rename) := by
  have each : ∀ object ∈ objects,
      (matcher.matchObject (declared.map rename) node predicate ∘
        matcher.renamedObject declared rename) object =
          (matcher.matchObject declared node predicate object).map (Source.renamed rename) :=
    fun object member => matchObject_renamed renames (spelled object member) node predicate
  rw [matchObjects, matchObjects, List.mapM_map]
  exact joinAll_renamed rename each

/-- A union over everything that a variable can stand for has the operands renamed, where `value`
gives what the variable is bound to. -/
theorem union_renamed (rename : String ↪ String) (name : String)
    {build other : Value → Logged Source}
    (each : ∀ choice, other choice = (build choice).map (Source.renamed rename))
    (value : Value → Logged Value) (choices : List Value) :
    (do
      let sources ← choices.mapM fun choice => do
        let source ← other choice
        let value ← value choice
        return Source.extend source (Binding.single (rename name) value)
      return Source.union sources) =
    (do
      let sources ← choices.mapM fun choice => do
        let source ← build choice
        let value ← value choice
        return Source.extend source (Binding.single name value)
      return Source.union sources).map (Source.renamed rename) := by
  have extended : ∀ choice ∈ choices,
      (do
        let source ← other choice
        let value ← value choice
        return Source.extend source (Binding.single (rename name) value)) =
      (do
        let source ← build choice
        let value ← value choice
        return Source.extend source (Binding.single name value)).map (Source.renamed rename) := by
    intro choice _
    rw [each, Traced.bind_map, Traced.map_bind]
    congr 1
    funext source
    rw [Traced.map_bind]
    rfl
  rw [Traced.mapM_map extended, Traced.bind_map, Traced.map_bind]
  congr 1
  funext sources
  rw [Traced.map_pure, Source.renamed_union]

variable {same : Value → Value → Bool}

/-- Matching a predicate of a subject with other variables. -/
theorem matchPredicate_renamed (gives : matcher.accessor.Gives (Accessor.read same))
    (renames : matcher.Renames declared texts rename) {subject : Value}
    (described : subject.isObject = true) (spelled : ∀ text ∈ Node.spelled subject, text ∈ texts)
    {name : String} (inNames : name ∈ Node.names subject) (node : Value) :
    matcher.matchPredicate (declared.map rename) node
        (matcher.renamedSubject declared rename subject) (.text (rename name)) =
      (matcher.matchPredicate declared node subject (.text name)).map (Source.renamed rename) := by
  have different := Node.ne_id_of_mem_names inNames
  have nameSpelled := spelled name (Node.mem_spelled_of_mem_names inNames)
  have objectsSpelled : ∀ object ∈ Node.valuesOf subject name, ∀ text,
      identifierOf object = some text → text ∈ texts :=
    fun object listed text named =>
      spelled text (Node.mem_spelled_of_valuesOf different listed named)
  have describedOther := isObject_renamedSubject matcher declared rename described
  have objects : matcher.accessor.getValues (matcher.renamedSubject declared rename subject)
      (.text (rename name)) =
        .ok ((Node.valuesOf subject name).map (matcher.renamedObject declared rename)) := by
    rw [gives.getValues _ _ describedOther, ← renames.valuesOf_eq spelled different]
    rfl
  have objectsBefore : matcher.accessor.getValues subject (.text name) =
      .ok (Node.valuesOf subject name) := gives.getValues _ _ described
  have joined : ∀ predicate : Value, _ := matchObjects_renamed renames objectsSpelled node
  unfold matchPredicate
  rw [asVariable?_text, asVariable?_text, renames.ranging name nameSpelled, ← guarded_renamed,
    objects, objectsBefore, Traced.ofExcept_ok_bind, Traced.ofExcept_ok_bind]
  congr 1
  by_cases ranging : matcher.isVariable declared name = true
  · rw [if_pos ranging, if_pos ranging]
    dsimp only
    rw [Traced.map_bind]
    congr 1
    funext predicates
    exact union_renamed rename name joined pure predicates
  · rw [if_neg ranging, if_neg ranging, renames.constant name nameSpelled
      (Bool.eq_false_iff.2 ranging)]
    dsimp only
    rw [Traced.map_bind]
    congr 1
    funext present
    cases present with
    | true => exact joined _
    | false => rfl

/-- Matching all predicates of a subject with other variables. -/
theorem matchPredicates_renamed (gives : matcher.accessor.Gives (Accessor.read same))
    (renames : matcher.Renames declared texts rename) {subject : Value}
    (described : subject.isObject = true) (spelled : ∀ text ∈ Node.spelled subject, text ∈ texts)
    (node : Value) :
    matcher.matchPredicates (declared.map rename) node
        (matcher.renamedSubject declared rename subject) =
      (matcher.matchPredicates declared node subject).map (Source.renamed rename) := by
  have each : ∀ name ∈ Node.names subject,
      (matcher.matchPredicate (declared.map rename) node
        (matcher.renamedSubject declared rename subject) ∘ Value.text ∘ rename) name =
      ((matcher.matchPredicate declared node subject ∘ Value.text) name).map
        (Source.renamed rename) :=
    fun name inNames => matchPredicate_renamed gives renames described spelled inNames node
  have describedOther := isObject_renamedSubject matcher declared rename described
  rw [matchPredicates, matchPredicates, Node.predicates_eq described,
    Node.predicates_eq describedOther, renames.names_eq spelled, Traced.ofExcept_ok_bind,
    Traced.ofExcept_ok_bind, List.map_map, List.mapM_map, List.mapM_map]
  exact joinAll_renamed rename each

/-- Matching a subject with other variables. What is no object is refused as before. -/
theorem matchSubject_renamed (gives : matcher.accessor.Gives (Accessor.read same))
    (renames : matcher.Renames declared texts rename) {subject : Value}
    (spelled : ∀ text ∈ Node.spelled subject, text ∈ texts) (graph : Value) :
    matcher.matchSubject (declared.map rename) graph
        (matcher.renamedSubject declared rename subject) =
      (matcher.matchSubject declared graph subject).map (Source.renamed rename) := by
  by_cases described : subject.isObject = true
  · have predicates := matchPredicates_renamed gives renames described spelled
    have describedOther := isObject_renamedSubject matcher declared rename described
    unfold matchSubject
    rw [Node.member_id_eq described, Node.member_id_eq describedOther,
      Traced.ofExcept_ok_bind, Traced.ofExcept_ok_bind, renames.identifier_eq spelled,
      renames.asVariable?_eq fun text named =>
        spelled text (Node.mem_spelled_of_identifier named), ← guarded_renamed]
    congr 1
    cases ranging : matcher.asVariable? declared (Node.identifier subject) with
    | some name =>
      dsimp only [Option.map_some]
      rw [Traced.map_bind]
      congr 1
      funext nodes
      exact union_renamed rename name predicates
        (fun node => Traced.ofExcept (node.member "@id")) nodes
    | none =>
      dsimp only [Option.map_none]
      rw [renamedIdentifier, ranging, Traced.map_bind]
      congr 1
      funext found
      cases found with
      | some node => exact predicates node
      | none => rfl
  · cases subject with
    | object members => exact absurd rfl described
    | _ => rfl

/-- Matching a pattern with other variables goes as before, and its source has the variables
renamed. -/
theorem matchPattern_renamed (gives : matcher.accessor.Gives (Accessor.read same))
    {pattern : List Value}
    (renames : matcher.Renames declared (pattern.flatMap Node.spelled) rename) (graph : Value) :
    matcher.matchPattern graph (.list (pattern.map (matcher.renamedSubject declared rename)))
        (declared.map rename) =
      (matcher.matchPattern graph (.list pattern) declared).map (Source.renamed rename) := by
  have each : ∀ subject ∈ pattern,
      (matcher.matchSubject (declared.map rename) graph ∘
        matcher.renamedSubject declared rename) subject =
      (matcher.matchSubject declared graph subject).map (Source.renamed rename) :=
    fun subject member => matchSubject_renamed gives renames
      (fun text spelled => List.mem_flatMap.2 ⟨subject, member, spelled⟩) graph
  have subjects : matcher.matchSubjects (declared.map rename) graph
        (.list (pattern.map (matcher.renamedSubject declared rename))) =
      (matcher.matchSubjects declared graph (.list pattern)).map (Source.renamed rename) := by
    show (do return Source.joinAll (← List.mapM _ (pattern.map _))) =
      (do return Source.joinAll (← List.mapM _ pattern) : Logged Source).map _
    rw [List.mapM_map]
    exact joinAll_renamed rename each
  rw [matchPattern, matchPattern, subjects, Traced.bind_map, Traced.map_bind]
  rfl

end Renamed

end Matcher

end GraphPattern
