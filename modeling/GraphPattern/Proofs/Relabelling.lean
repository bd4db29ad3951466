import GraphPattern.Proofs.Join
import GraphPattern.Proofs.RenamedPattern
import Mathlib.Algebra.Group.End
import Mathlib.Data.Fintype.Sum

/-!
# The labels of blank nodes

The label of a blank node is a variable without being declared. Results are
projected onto the declared variables, so no binding shows such a label, and
what it is called can be seen nowhere. A few labels are replaced as some
permutation of all texts would do it, which is a renaming of variables.

Main statement: if the variables of a pattern are renamed, the same bindings are
found with their variables renamed, and if labels of blank nodes are replaced,
nothing changes at all. The test of equality may be any, and may fail.
-/

namespace GraphPattern

namespace Traced

variable {ε α β : Type}

/-- A computation leaves what another one leaves and ends like it: with the same error, or with a
value that is related to the other's. -/
structure Mirrors (related : α → β → Prop) (first : Traced ε α) (second : Traced ε β) : Prop where
  /-- Both leave the same. -/
  trace : second.trace = first.trace
  /-- Where the first fails, so does the second. -/
  error : ∀ error, first.result = .error error → second.result = .error error
  /-- Where the first succeeds, the second gives a value that is related. -/
  value : ∀ value, first.result = .ok value →
    ∃ image, second.result = .ok image ∧ related value image

/-- A computation with a changed value at its end mirrors the one before the change. -/
theorem mirrors_map {related : α → β → Prop} {change : α → β} {computation : Traced ε α}
    (each : ∀ value, computation.result = .ok value → related value (change value)) :
    Mirrors related computation (computation.map change) where
  trace := rfl
  error _ failed := congrArg (Except.map change) failed
  value value ended := ⟨change value, congrArg (Except.map change) ended, each value ended⟩

end Traced

namespace Matcher

section Relabelled

variable {matcher : Matcher} {declared texts : List String} {relabel : String → String}

/-- A label of a blank node that is not declared: a variable that no binding of a result shows. -/
def isHidden (matcher : Matcher) (declared : List String) (text : String) : Bool :=
  isBlankNode text matcher.blankStart && !declared.contains text

/-- What a relabelling has to keep, for the texts of a pattern: declared names, and that different
labels of blank nodes are different ones. -/
structure Relabels (matcher : Matcher) (declared texts : List String)
    (relabel : String → String) : Prop where
  /-- The name that stands for no predicate stays. -/
  identifier : relabel "@id" = "@id"
  /-- Declared names stay. -/
  stays : ∀ name ∈ declared, relabel name = name
  /-- Hidden labels become hidden labels. -/
  hidden : ∀ text ∈ texts, matcher.isHidden declared text = true →
    matcher.isHidden declared (relabel text) = true
  /-- No two of them become the same, and none becomes `@id`. -/
  distinct : Set.InjOn relabel
    ("@id" :: texts.filter (matcher.isHidden declared)).toFinset

/-- A relabelling of a few texts is that of a permutation of all texts, which moves only these and
what they become. -/
theorem exists_perm_of_injOn {labels : Finset String} (distinct : Set.InjOn relabel labels) :
    ∃ permuted : Equiv.Perm String, (∀ label ∈ labels, permuted label = relabel label) ∧
      ∀ text, text ∉ labels → text ∉ labels.image relabel → permuted text = text := by
  let moved : Finset String := labels ∪ labels.image relabel
  have within : Finset.image (fun text : moved => relabel text) (labels.subtype (· ∈ moved)) ⊆
      moved := by
    intro text isImage
    obtain ⟨label, isLabel, rfl⟩ := Finset.mem_image.1 isImage
    exact Finset.mem_union_right _ (Finset.mem_image_of_mem _ (Finset.mem_subtype.1 isLabel))
  have injective : Set.InjOn (fun text : moved => relabel text) (labels.subtype (· ∈ moved)) := by
    intro first isFirst second isSecond same
    exact Subtype.ext (distinct (Finset.mem_subtype.1 isFirst) (Finset.mem_subtype.1 isSecond) same)
  obtain ⟨moving, agrees⟩ :=
    Finset.exists_equiv_extend_of_card_eq (Fintype.card_coe moved) within injective
  refine ⟨Equiv.Perm.ofSubtype moving, fun label isLabel => ?_, fun text notLabel notImage => ?_⟩
  · have isMoved : label ∈ moved := Finset.mem_union_left _ isLabel
    rw [Equiv.Perm.ofSubtype_apply_of_mem moving isMoved]
    exact agrees ⟨label, isMoved⟩ (Finset.mem_subtype.2 isLabel)
  · refine Equiv.Perm.ofSubtype_apply_of_not_mem moving fun isMoved => ?_
    rcases Finset.mem_union.1 isMoved with isLabel | isImage
    · exact notLabel isLabel
    · exact notImage isImage

/-- A hidden label is a variable. -/
theorem isVariable_of_isHidden {text : String} (hidden : matcher.isHidden declared text = true) :
    matcher.isVariable declared text = true := by
  rw [isVariable, (Bool.and_eq_true_iff.1 hidden).1, Bool.true_or]

/-- A variable that is not declared is a hidden label. -/
theorem isHidden_of_isVariable {text : String} (ranging : matcher.isVariable declared text = true)
    (undeclared : text ∉ declared) : matcher.isHidden declared text = true := by
  have notContained : declared.contains text = false := by
    rw [Bool.eq_false_iff, Ne, List.contains_iff_mem]
    exact undeclared
  rw [isVariable, notContained, Bool.or_false] at ranging
  rw [isHidden, ranging, notContained]
  rfl

namespace Relabels

/-- A relabelling acts on the hidden labels of a pattern as some permutation of all texts does that
moves hidden labels only. -/
theorem exists_perm (relabels : matcher.Relabels declared texts relabel) :
    ∃ permuted : Equiv.Perm String,
      (∀ text ∈ texts, matcher.isHidden declared text = true → permuted text = relabel text) ∧
      permuted "@id" = "@id" ∧
      ∀ text, matcher.isHidden declared text = false → permuted text = text := by
  obtain ⟨permuted, agrees, fixes⟩ := exists_perm_of_injOn relabels.distinct
  have idFixed : permuted "@id" = "@id" :=
    (agrees "@id" (List.mem_toFinset.2 List.mem_cons_self)).trans relabels.identifier
  refine ⟨permuted, fun text member hidden => ?_, idFixed, fun text shown => ?_⟩
  · have isLabel := List.mem_cons_of_mem "@id" (List.mem_filter.2 ⟨member, hidden⟩)
    exact agrees text (List.mem_toFinset.2 isLabel)
  · by_cases isId : text = "@id"
    · rw [isId, idFixed]
    -- Nothing but `@id` and hidden labels is moved or is what something that is moved becomes.
    · refine fixes text (fun label => ?_) (fun image => ?_)
      · rcases List.mem_cons.1 (List.mem_toFinset.1 label) with same | hidden
        · exact isId same
        · rw [(List.mem_filter.1 hidden).2] at shown
          cases shown
      · obtain ⟨label, isOld, rfl⟩ := Finset.mem_image.1 image
        rcases List.mem_cons.1 (List.mem_toFinset.1 isOld) with rfl | hidden
        · exact isId relabels.identifier
        · obtain ⟨member, isHidden⟩ := List.mem_filter.1 hidden
          rw [relabels.hidden label member isHidden] at shown
          cases shown

/-- A relabelling acts on the variables of a pattern as some renaming does that fixes the declared
ones. -/
theorem exists_renames (relabels : matcher.Relabels declared texts relabel) :
    ∃ rename : String ↪ String, matcher.Renames declared texts rename ∧
      (∀ name ∈ declared, rename name = name) ∧
      ∀ text ∈ texts, matcher.isVariable declared text = true → rename text = relabel text := by
  obtain ⟨permuted, agrees, idFixed, fixed⟩ := relabels.exists_perm
  have declaredFixed : ∀ name ∈ declared, permuted name = name := by
    intro name isDeclared
    apply fixed
    rw [isHidden, List.contains_iff_mem.2 isDeclared, Bool.not_true, Bool.and_false]
  have sameDeclared : declared.map permuted = declared :=
    (List.map_congr_left declaredFixed).trans (List.map_id' _)
  refine ⟨permuted.toEmbedding, ⟨idFixed, fun text member constant => ?_, fun text member => ?_⟩,
    declaredFixed, fun text member ranging => ?_⟩
  · apply fixed
    rw [Bool.eq_false_iff]
    intro hidden
    rw [isVariable_of_isHidden hidden] at constant
    cases constant
  · show matcher.isVariable (declared.map permuted) (permuted text) = _
    rw [sameDeclared]
    by_cases hidden : matcher.isHidden declared text = true
    · rw [agrees text member hidden, isVariable_of_isHidden hidden,
        isVariable_of_isHidden (relabels.hidden text member hidden)]
    · rw [fixed text (Bool.eq_false_iff.2 hidden)]
  · by_cases isDeclared : text ∈ declared
    · exact (declaredFixed text isDeclared).trans (relabels.stays text isDeclared).symm
    · exact agrees text member (isHidden_of_isVariable ranging isDeclared)

end Relabels

section Agreeing

variable {rename other : String → String}

/-- Renamings that agree on a variable make the same of an object that names it. -/
theorem renamedObject_congr {object : Value}
    (agree : ∀ text, identifierOf object = some text → matcher.isVariable declared text = true →
      rename text = other text) :
    matcher.renamedObject declared rename object = matcher.renamedObject declared other object := by
  unfold renamedObject
  cases named : matcher.objectVariable? declared object with
  | none => rfl
  | some text =>
    obtain ⟨names, ranging⟩ := Option.filter_eq_some_iff.1 named
    have sameText := agree text names ranging
    cases object <;> simp only [sameText]

/-- Renamings that agree on a variable make the same of a subject that it is. -/
theorem renamedIdentifier_congr {value : Value}
    (agree : ∀ text, value = .text text → matcher.isVariable declared text = true →
      rename text = other text) :
    matcher.renamedIdentifier declared rename value =
      matcher.renamedIdentifier declared other value := by
  unfold renamedIdentifier
  cases named : matcher.asVariable? declared value with
  | none => rfl
  | some text =>
    obtain ⟨isText, ranging⟩ := Option.filter_eq_some_iff.1 named
    cases value with
    | text chars =>
      obtain rfl := Option.some.inj isText
      exact congrArg Value.text (agree chars rfl ranging)
    | _ => cases isText

/-- Renamings that agree on the variables of a subject make the same of it. -/
theorem renamedSubject_congr {subject : Value}
    (agree : ∀ text ∈ Node.spelled subject, matcher.isVariable declared text = true →
      rename text = other text) :
    matcher.renamedSubject declared rename subject =
      matcher.renamedSubject declared other subject := by
  cases subject with
  | object members =>
    refine congrArg Value.object (List.map_congr_left fun entry member => ?_)
    obtain ⟨name, value⟩ := entry
    have spelled : ∀ text ∈ Node.spelledIn (name, value),
        matcher.isVariable declared text = true → rename text = other text :=
      fun text inMember => agree text (List.mem_flatMap.2 ⟨_, member, inMember⟩)
    dsimp only
    unfold renamedName renamedValue
    unfold Node.spelledIn at spelled
    by_cases isId : name = "@id"
    · simp only [if_pos isId] at spelled ⊢
      congr 1
      refine renamedIdentifier_congr fun text isText => spelled text ?_
      rw [isText]
      exact List.mem_cons_self
    · simp only [if_neg isId] at spelled ⊢
      have sameName : matcher.renamedText declared rename name =
          matcher.renamedText declared other name := by
        unfold renamedText
        by_cases ranging : matcher.isVariable declared name = true
        · rw [if_pos ranging, if_pos ranging, spelled name List.mem_cons_self ranging]
        · rw [if_neg ranging, if_neg ranging]
      rw [sameName, Value.mapItems_congr fun object listed => ?_]
      refine renamedObject_congr fun text named => spelled text ?_
      exact List.mem_cons_of_mem _ (List.mem_filterMap.2 ⟨object, listed, named⟩)
  | _ => rfl

end Agreeing

/-- Hidden labels of a pattern can be replaced: the source that matching builds is walked through as
before. -/
theorem mirrors_relabelled {same : Value → Value → Bool} {pattern : List Value}
    (gives : matcher.accessor.Gives (Accessor.read same)) (equal : EqualityTest)
    (relabels : matcher.Relabels declared (pattern.flatMap Node.spelled) relabel) (graph : Value) :
    Traced.Mirrors (fun source image => image.walk equal = source.walk equal)
      (matcher.matchPattern graph (.list pattern) declared)
      (matcher.matchPattern graph
        (.list (pattern.map (matcher.renamedSubject declared relabel))) declared) := by
  obtain ⟨rename, renames, fixed, agrees⟩ := relabels.exists_renames
  have sameDeclared : declared.map rename = declared :=
    (List.map_congr_left fixed).trans (List.map_id' _)
  have samePattern : pattern.map (matcher.renamedSubject declared relabel) =
      pattern.map (matcher.renamedSubject declared rename) := by
    refine List.map_congr_left fun subject member => renamedSubject_congr fun text inSubject => ?_
    have inPattern : text ∈ pattern.flatMap Node.spelled :=
      List.mem_flatMap.2 ⟨subject, member, inSubject⟩
    exact fun ranging => (agrees text inPattern ranging).symm
  have built := matchPattern_renamed gives renames graph
  rw [sameDeclared] at built
  rw [samePattern, built]
  refine Traced.mirrors_map fun source ended => ?_
  -- Every source of a pattern is a projection onto the declared names, which keep their names.
  obtain ⟨inner, _, made⟩ := Traced.ok_of_result_bind ended
  obtain rfl : .project inner declared = source := Except.ok.inj made
  rw [Source.walk_renamed, Source.walk, Walk.map_map]
  congr 1
  funext event
  exact Event.renamed_restricted_eq_self rename fixed event

end Relabelled

/-- The names of variables and the labels of blank nodes do not matter. Let the variables of a
pattern be renamed together with the declared names, so that constants stay, different names stay
different, and the same are variables. Then matching leaves the same lines in the log and fails
alike, and if it gives a source, then going through it shows the same as before, comparisons and
errors included, with the variables renamed in each binding. If hidden labels are replaced, as
different ones by different hidden ones, possibly labels of the graph, then it shows exactly the
same. If the nodes and subjects are objects, matching gives a source. -/
theorem mirrors_matchPattern (documents : Entries Value) (base : Option String)
    (equality : EqualityTest) (blankStart : String) (declared : List String)
    (graph pattern : List Value) :
    let matcher : Matcher := ⟨.jsonLd documents base, equality, blankStart⟩
    let built := matcher.matchPattern (.list graph) (.list pattern) declared
    (∀ rename : String ↪ String,
      matcher.Renames declared (pattern.flatMap Node.spelled) rename →
      Traced.Mirrors (fun source image =>
          image.walk equality = (source.walk equality).map (Event.renamed rename) ∧
          image.bindings equality = (source.bindings equality).map (Binding.renamed rename))
        built (matcher.matchPattern (.list graph)
          (.list (pattern.map (matcher.renamedSubject declared rename))) (declared.map rename))) ∧
    (∀ relabel : String → String,
      matcher.Relabels declared (pattern.flatMap Node.spelled) relabel →
      Traced.Mirrors (fun source image => image.walk equality = source.walk equality)
        built (matcher.matchPattern (.list graph)
          (.list (pattern.map (matcher.renamedSubject declared relabel))) declared)) ∧
    ((∀ node ∈ graph, node.isObject = true) → (∀ subject ∈ pattern, subject.isObject = true) →
      ∃ source, built.result = .ok source) := by
  intro matcher built
  have gives : matcher.accessor.Gives (Accessor.read Value.sameTerm) :=
    Accessor.gives_jsonLd documents base
  refine ⟨fun rename renames => ?_, fun relabel relabels => ?_, fun nodes described => ?_⟩
  · rw [matchPattern_renamed gives renames]
    refine Traced.mirrors_map fun source _ => ⟨Source.walk_renamed rename equality source, ?_⟩
    rw [Source.bindings, Source.walk_renamed, Walk.elements, Walk.observe_map,
      Event.bindings_map_renamed]
    rfl
  · exact mirrors_relabelled gives equality relabels (.list graph)
  · exact ⟨_, result_matchPattern gives.guarded nodes described⟩

/-- A declared variable with another name, and the label of a blank node replaced by one that the
graph has. -/
theorem mirrors_matchPattern_swapped :
    let matcher : Matcher := ⟨.jsonLd [] none, .sameTerm, "_:"⟩
    let node (name other : String) : Value :=
      .object [("@id", .text name), ("p", .list [.text other])]
    let graph := [node "_:a" "b", node "c" "_:a"]
    let rename : String ↪ String := (Equiv.swap "?o" "?v").toEmbedding
    let relabel : String → String := Equiv.swap "_:s" "_:a"
    let built (pattern : List Value) (declared : List String) :=
      (matcher.matchPattern (.list graph) (.list pattern) declared).result
    let before := [node "_:s" "?o"]
    ∃ source renamed relabelled, built before ["?o"] = .ok source ∧
      built (before.map (matcher.renamedSubject ["?o"] rename)) ["?v"] = .ok renamed ∧
      built (before.map (matcher.renamedSubject ["?o"] relabel)) ["?o"] = .ok relabelled ∧
      renamed.bindings .sameTerm = (source.bindings .sameTerm).map (Binding.renamed rename) ∧
      relabelled.bindings .sameTerm = source.bindings .sameTerm ∧
      (source.bindings .sameTerm).map
        (fun binding => (binding.keys, (binding.get? "?o").bind Value.text?)) =
          [(["?o"], some "b"), (["?o"], some "_:a")] := by
  intro matcher node graph rename relabel built before
  obtain ⟨mirrorsRenamed, mirrorsRelabelled, builds⟩ :=
    mirrors_matchPattern [] none .sameTerm "_:" ["?o"] graph before
  have renames : matcher.Renames ["?o"] (before.flatMap Node.spelled) rename := by
    refine ⟨?_, ?_, ?_⟩
    · decide +kernel
    · decide +kernel
    · decide +kernel
  have relabels : matcher.Relabels ["?o"] (before.flatMap Node.spelled) relabel := by
    refine ⟨?_, ?_, ?_, ?_⟩
    · decide +kernel
    · decide +kernel
    · decide +kernel
    · exact (Equiv.injective _).injOn
  have nodes : ∀ other ∈ graph, other.isObject = true := by
    simp [graph, node, Value.isObject]
  have described : ∀ subject ∈ before, subject.isObject = true := by
    simp [before, node, Value.isObject]
  obtain ⟨source, ended⟩ := builds nodes described
  obtain ⟨renamed, endedRenamed, _, sameRenamed⟩ :=
    (mirrorsRenamed rename renames).value source ended
  obtain ⟨relabelled, endedRelabelled, sameWalk⟩ :=
    (mirrorsRelabelled relabel relabels).value source ended
  have newDeclared : ["?o"].map rename = ["?v"] := by
    decide +kernel
  rw [newDeclared] at endedRenamed
  have promised : matcher.accessor.Guarded := (Accessor.gives_jsonLd [] none).guarded
  have isSource : source = matcher.patternSource ["?o"] graph before :=
    eq_patternSource promised nodes described ended
  refine ⟨source, renamed, relabelled, ended, endedRenamed, endedRelabelled, sameRenamed, ?_, ?_⟩
  · rw [Source.bindings, Source.bindings, sameWalk]
  · rw [isSource]
    clear * -
    subst before graph matcher node
    decide +kernel

end Matcher

end GraphPattern
