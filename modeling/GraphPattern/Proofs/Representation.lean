import GraphPattern.Proofs.Occurrence
import Mathlib.Data.List.Forall2

/-!
# Other representations of values

One value can be written in several ways that a test of equality does not tell
apart. Two bindings are the same under a test if they bind the same variables to
equal values, and two sources are the same if they are built alike from bindings
that are. Walks through such sources compare different values and in a different
order, since the order of variables may differ too, so they are related by what
they show and not by what they compare.

Main statement: if the test is symmetric and transitive, then going through two
sources that are the same shows as many events, and place by place the same
faults and bindings that are the same. If one of them ends in an error, so does
the other.
-/

namespace GraphPattern

namespace Binding

/-- Two bindings are the same under a test of equality: the test of their sameness says so. -/
def Same (equal : EqualityTest) (binding other : Binding) : Prop :=
  (binding.sameness equal other).elements = [()]

instance (equal : EqualityTest) (binding other : Binding) : Decidable (binding.Same equal other) :=
  inferInstanceAs (Decidable (_ = _))

end Binding

/-- Two events are the same: one fault, or bindings that are the same. -/
inductive Event.Same (equal : EqualityTest) : Event → Event → Prop where
  /-- Two bindings that are the same. -/
  | binding {bound other : Binding} (same : bound.Same equal other) :
      Same equal (.binding bound) (.binding other)
  /-- One fault. -/
  | fault (error : Error) : Same equal (.fault error) (.fault error)

/-- Two operators of one kind with the same numbers, variables and faults, over bindings and
operands that are related one by one. -/
inductive Operator.Over {α β : Type} (bindings : Binding → Binding → Prop)
    (operands : α → β → Prop) : Operator α → Operator β → Prop where
  /-- Single bindings. -/
  | single {binding other : Binding} (related : bindings binding other) :
      Over bindings operands (.single binding) (.single other)
  /-- Tables of as many bindings. -/
  | table {list others : List Binding} (related : List.Forall₂ bindings list others) :
      Over bindings operands (.table list) (.table others)
  /-- As many copies. -/
  | multiply {operand : α} {other : β} (related : operands operand other) (times : Nat) :
      Over bindings operands (.multiply operand times) (.multiply other times)
  /-- Unions of as many operands. -/
  | union {list : List α} {others : List β} (related : List.Forall₂ operands list others) :
      Over bindings operands (.union list) (.union others)
  /-- Extensions. -/
  | extend {operand : α} {other : β} (related : operands operand other)
      {binding otherBinding : Binding} (relatedBinding : bindings binding otherBinding) :
      Over bindings operands (.extend operand binding) (.extend other otherBinding)
  /-- Joins. -/
  | join {left right : α} {otherLeft otherRight : β} (relatedLeft : operands left otherLeft)
      (relatedRight : operands right otherRight) :
      Over bindings operands (.join left right) (.join otherLeft otherRight)
  /-- Projections onto the same variables. -/
  | project {operand : α} {other : β} (related : operands operand other) (kept : List String) :
      Over bindings operands (.project operand kept) (.project other kept)
  /-- One fault. -/
  | failure (fault : Error) : Over bindings operands (.failure fault) (.failure fault)
  /-- Expressions that cannot be enumerated. -/
  | unknown : Over bindings operands .unknown .unknown

/-- Two sources of one shape, with the same numbers, variables and faults, in which bindings that
stand in one place are the same. -/
inductive Source.Same (equal : EqualityTest) : Source → Source → Prop where
  /-- The outermost operators are alike, and so on for their operands. -/
  | intro {source other : Source}
      (operators : Operator.Over (Binding.Same equal) (Same equal) source.operator other.operator) :
      Same equal source other

namespace Binding

variable {equal : EqualityTest} {binding other : Binding}

/-- Bindings are the same exactly if both bind the same variables and every variable has equal
values in both. -/
theorem same_iff_agrees : binding.Same equal other ↔
    (∀ name, name ∈ binding.keys ↔ name ∈ other.keys) ∧ other.agrees equal binding = true := by
  have aligned : (binding.keys.all other.has && other.keys.all binding.has) = true ↔
      ∀ name, name ∈ binding.keys ↔ name ∈ other.keys := by
    rw [Bool.and_eq_true, List.all_eq_true, List.all_eq_true]
    simp only [has_iff_mem_keys, iff_def, forall_and]
  rw [← aligned, Same, sameness, aligned?]
  by_cases names : (binding.keys.all other.has && other.keys.all binding.has) = true
  · rw [if_pos names]
    show (Walk.agreeing equal () (other.shared binding)).elements = [()] ↔ _
    rw [Walk.elements_agreeing, ← agrees]
    cases other.agrees equal binding with
    | true => simpa using names
    | false => simp
  · rw [if_neg names]
    constructor
    · intro shown
      cases shown
    · exact fun same => absurd same.1 names

/-- Bindings are the same exactly if every variable has equal values in both, or no value in
either. -/
theorem same_iff : binding.Same equal other ↔
    ∀ name, Option.Rel (fun first second => equal.holds first second = true)
      (binding.get? name) (other.get? name) := by
  rw [same_iff_agrees, agrees_iff]
  constructor
  · rintro ⟨names, agreeing⟩ name
    cases held : binding.get? name with
    | none =>
      have missing := (get?_eq_none_iff binding name).1 held
      rw [names] at missing
      rw [(get?_eq_none_iff other name).2 missing]
      exact .none
    | some first =>
      cases given : other.get? name with
      | none =>
        have missing := (get?_eq_none_iff other name).1 given
        rw [← names, ← get?_eq_none_iff, held] at missing
        cases missing
      | some second => exact .some (agreeing name first second held given)
  · intro related
    refine ⟨fun name => ?_, fun name first second held given => ?_⟩
    · rw [← not_iff_not, ← get?_eq_none_iff, ← get?_eq_none_iff]
      have values := related name
      generalize binding.get? name = first at values
      generalize other.get? name = second at values
      cases values <;> simp
    · have values := related name
      rw [held, given] at values
      cases values with
      | some holds => exact holds

/-- Bindings stay the same when both are restricted to some variables. -/
theorem Same.restricted (same : binding.Same equal other) (kept : List String) :
    (binding.restricted kept).Same equal (other.restricted kept) := by
  rw [same_iff] at same ⊢
  intro name
  rw [get?_restricted, get?_restricted]
  by_cases member : kept.contains name = true
  · rw [if_pos member, if_pos member]
    exact same name
  · rw [if_neg member, if_neg member]
    exact .none

variable {extension otherExtension : Binding}

/-- Merging bindings that are the same gives bindings that are. -/
theorem Same.merged (same : binding.Same equal other)
    (extended : extension.Same equal otherExtension) :
    (binding.merged extension).Same equal (other.merged otherExtension) := by
  rw [same_iff] at same extended ⊢
  intro name
  rw [get?_merged, get?_merged]
  have values := same name
  generalize binding.get? name = first at values
  generalize other.get? name = second at values
  cases values with
  | none => exact extended name
  | some holds => exact .some holds

/-- The order of two bindings that are the same does not matter. -/
theorem Same.symm (equivalence : equal.PartialEquivalence) (same : binding.Same equal other) :
    other.Same equal binding := by
  rw [same_iff] at same ⊢
  intro name
  have values := same name
  generalize binding.get? name = first at values
  generalize other.get? name = second at values
  cases values with
  | none => exact .none
  | some holds => exact .some (equivalence.symm holds)

/-- A binding that agrees with an extension may be exchanged, and so may the extension: a variable
that both bind has equal values before, and three steps of equality lead from one of the other
values to the other. -/
theorem Same.agrees_of_agrees (equivalence : equal.PartialEquivalence)
    (same : binding.Same equal other) (extended : extension.Same equal otherExtension)
    (agreeing : binding.agrees equal extension = true) :
    other.agrees equal otherExtension = true := by
  rw [same_iff] at same extended
  rw [agrees_iff] at agreeing ⊢
  intro name first second given bound
  have extensions := extended name
  have bindings := same name
  rw [given] at extensions
  rw [bound] at bindings
  cases held : extension.get? name with
  | none =>
    rw [held] at extensions
    cases extensions
  | some oldFirst =>
    cases kept : binding.get? name with
    | none =>
      rw [kept] at bindings
      cases bindings
    | some oldSecond =>
      rw [held] at extensions
      rw [kept] at bindings
      cases extensions with
      | some toFirst =>
        cases bindings with
        | some toSecond =>
          have between := agreeing name oldFirst oldSecond held kept
          exact equivalence.trans (equivalence.symm toFirst) (equivalence.trans between toSecond)

/-- Whether bindings agree is the same for bindings that are the same. -/
theorem Same.agrees_eq (equivalence : equal.PartialEquivalence) (same : binding.Same equal other)
    (extended : extension.Same equal otherExtension) :
    binding.agrees equal extension = other.agrees equal otherExtension := by
  rw [Bool.eq_iff_iff]
  exact ⟨same.agrees_of_agrees equivalence extended,
    (same.symm equivalence).agrees_of_agrees equivalence (extended.symm equivalence)⟩

end Binding

namespace Walk

variable {α β γ δ : Type} {related : α → β → Prop} {relatedOther : γ → δ → Prop}

/-- Two walks show related elements, one by one, and end in the same way. Each of them may compare
values wherever it likes. -/
inductive Alike (related : α → β → Prop) : Walk α → Walk β → Prop where
  /-- Both have ended. -/
  | done : Alike related done done
  /-- One error ends both. -/
  | failed (error : Error) : Alike related (failed error) (failed error)
  /-- The first walk compares two values. -/
  | comparedFirst {left right : Value} {rest : Unit → Walk α} {other : Walk β}
      (later : Alike related (rest ()) other) : Alike related (compared left right rest) other
  /-- The second walk compares two values. -/
  | comparedSecond {left right : Value} {walk : Walk α} {rest : Unit → Walk β}
      (later : Alike related walk (rest ())) : Alike related walk (compared left right rest)
  /-- Related elements come next. -/
  | emit {element : α} {other : β} {rest : Unit → Walk α} {restOther : Unit → Walk β}
      (head : related element other) (later : Alike related (rest ()) (restOther ())) :
      Alike related (emit element rest) (emit other restOther)

namespace Alike

variable {walk : Walk α} {other : Walk β}

/-- Walks that are alike show related elements. -/
theorem elements (alike : walk.Alike related other) :
    List.Forall₂ related walk.elements other.elements := by
  induction alike with
  | done => exact .nil
  | failed error => exact .nil
  | comparedFirst later ih => exact ih
  | comparedSecond later ih => exact ih
  | emit head later ih => exact .cons head ih

/-- Walks that are alike end in the same way. -/
theorem error_eq (alike : walk.Alike related other) :
    walk.observe.error = other.observe.error := by
  induction alike with
  | done => rfl
  | failed error => rfl
  | comparedFirst later ih => exact ih
  | comparedSecond later ih => exact ih
  | emit head later ih => exact ih

/-- Walks of one element each are alike if the elements are related. -/
theorem one {element : α} {other : β} (head : related element other) :
    (one element).Alike related (one other) := .emit head .done

/-- Walks through lists are alike if the lists are related. -/
theorem ofList {list : List α} {others : List β} (lists : List.Forall₂ related list others) :
    (ofList list).Alike related (ofList others) := by
  induction lists with
  | nil => exact .done
  | cons head rest ih => exact .emit head ih

/-- One walk behind another is alike if both are. -/
theorem append (alike : walk.Alike related other) {next : Unit → Walk α} {nextOther : Unit → Walk β}
    (second : (next ()).Alike related (nextOther ())) :
    (walk.append next).Alike related (other.append nextOther) := by
  induction alike with
  | done => exact second
  | failed error => exact .failed error
  | comparedFirst later ih => exact .comparedFirst ih
  | comparedSecond later ih => exact .comparedSecond ih
  | emit head later ih => exact .emit head ih

/-- Walks in the place of elements are alike if those in the place of related elements are. -/
theorem bind (alike : walk.Alike related other) {next : α → Walk γ} {nextOther : β → Walk δ}
    (inner : ∀ element other, related element other →
      (next element).Alike relatedOther (nextOther other)) :
    (walk.bind next).Alike relatedOther (other.bind nextOther) := by
  induction alike with
  | done => exact .done
  | failed error => exact .failed error
  | comparedFirst later ih => exact .comparedFirst ih
  | comparedSecond later ih => exact .comparedSecond ih
  | emit head later ih => exact (inner _ _ head).append ih

/-- Changed elements are alike if related elements are changed to related ones. -/
theorem map (alike : walk.Alike related other) {change : α → γ} {changeOther : β → δ}
    (each : ∀ element other, related element other →
      relatedOther (change element) (changeOther other)) :
    (walk.map change).Alike relatedOther (other.map changeOther) := by
  induction alike with
  | done => exact .done
  | failed error => exact .failed error
  | comparedFirst later ih => exact .comparedFirst ih
  | comparedSecond later ih => exact .comparedSecond ih
  | emit head later ih => exact .emit (each _ _ head) ih

/-- As many copies of walks that are alike are alike. -/
theorem copies (alike : walk.Alike related other) (times : Nat) :
    (walk.copies times).Alike related (other.copies times) := by
  induction times with
  | zero => exact .done
  | succ times ih => exact alike.append ih

variable {equal : EqualityTest}

/-- Comparing pairs is like showing the element at once if every pair passes, and else nothing. -/
theorem agreeing_first (total : equal.Total) (element : α) (pairs : List (Value × Value))
    (alike : Alike related
      (if pairs.all fun pair => equal.holds pair.1 pair.2 then Walk.one element else .done) other) :
    (agreeing equal element pairs).Alike related other := by
  induction pairs with
  | nil => exact alike
  | cons pair rest ih =>
    obtain ⟨first, second⟩ := pair
    rw [List.all_cons] at alike
    rw [agreeing, total.eq_ok first second]
    refine .comparedFirst ?_
    cases truth : equal.holds first second with
    | true =>
      rw [truth, Bool.true_and] at alike
      exact ih alike
    | false =>
      rw [truth, Bool.false_and] at alike
      exact alike

/-- Showing an element at once, or nothing, is like comparing pairs that decide about it. -/
theorem agreeing_second (total : equal.Total) (element : β) (pairs : List (Value × Value))
    (alike : Alike related walk
      (if pairs.all fun pair => equal.holds pair.1 pair.2 then Walk.one element else .done)) :
    walk.Alike related (agreeing equal element pairs) := by
  induction pairs with
  | nil => exact alike
  | cons pair rest ih =>
    obtain ⟨first, second⟩ := pair
    rw [List.all_cons] at alike
    rw [agreeing, total.eq_ok first second]
    refine .comparedSecond ?_
    cases truth : equal.holds first second with
    | true =>
      rw [truth, Bool.true_and] at alike
      exact ih alike
    | false =>
      rw [truth, Bool.false_and] at alike
      exact alike

/-- Comparing pairs is alike if the same is found of both and the elements are related. -/
theorem agreeing (total : equal.Total) {element : α} {other : β} (head : related element other)
    {pairs others : List (Value × Value)}
    (sameTruth : (pairs.all fun pair => equal.holds pair.1 pair.2) =
      others.all fun pair => equal.holds pair.1 pair.2) :
    (Walk.agreeing equal element pairs).Alike related (Walk.agreeing equal other others) := by
  refine agreeing_first total element pairs (agreeing_second total other others ?_)
  rw [← sameTruth]
  split
  · exact one head
  · exact .done

end Alike

end Walk

section Sources

variable {equal : EqualityTest}

/-- Events that are the same are extended alike by bindings that are. -/
theorem Event.Same.extended (equivalence : equal.PartialEquivalence) {event other : Event}
    (same : event.Same equal other) {extension otherExtension : Binding}
    (extensions : extension.Same equal otherExtension) :
    (event.extended equal extension).Alike (Event.Same equal)
      (other.extended equal otherExtension) := by
  cases same with
  | binding bindings =>
    exact .agreeing equivalence.total (.binding (bindings.merged extensions))
      (bindings.agrees_eq equivalence extensions)
  | fault error => exact .one (.fault error)

/-- Events that are the same stay so when both are restricted to some variables. -/
theorem Event.Same.restricted {event other : Event} (same : event.Same equal other)
    (kept : List String) : (event.restricted kept).Same equal (other.restricted kept) := by
  cases same with
  | binding bindings => exact .binding (bindings.restricted kept)
  | fault error => exact .fault error

namespace Source

/-- The constants are walked through like the operators that they stand for. -/
theorem walk_ofOperator (equal : EqualityTest) (source : Source) :
    (ofOperator source.operator).walk equal = source.walk equal := by
  cases source <;> rfl

/-- What holds of two sources whenever it holds of their operands, one by one, holds of sources that
are the same. -/
theorem Same.induction {motive : Source → Source → Prop} {source other : Source}
    (step : ∀ source other : Source,
      Operator.Over (Binding.Same equal) motive source.operator other.operator →
        motive source other)
    (same : source.Same equal other) : motive source other :=
  -- The recursor has one motive for each layer of the nested relation.
  @Same.rec equal (fun source other _ => motive source other)
    (fun operator other _ => Operator.Over (Binding.Same equal) motive operator other)
    (fun sources others _ => List.Forall₂ motive sources others)
    (fun _ operators => step _ _ operators)
    .single .table (fun _ times related => .multiply related times)
    (fun _ related => .union related)
    (fun _ _ _ relatedBinding related => .extend related relatedBinding)
    (fun _ _ left right => .join left right) (fun _ kept related => .project related kept)
    .failure .unknown .nil (fun _ _ head rest => .cons head rest) source other same

/-- Walks through operators are alike if those through their operands are. -/
theorem walk_alike_over (equivalence : equal.PartialEquivalence)
    {operator other : Operator Source}
    (operators : operator.Over (Binding.Same equal) (fun operand other =>
      (operand.walk equal).Alike (Event.Same equal) (other.walk equal)) other) :
    ((ofOperator operator).walk equal).Alike (Event.Same equal)
      ((ofOperator other).walk equal) := by
  cases operators with
  | single related => exact .one (.binding related)
  | table related => exact (Walk.Alike.ofList related).map fun _ _ same => .binding same
  | multiply related times => exact related.copies times
  | union related =>
    show (walkAll equal _).Alike _ (walkAll equal _)
    induction related with
    | nil => exact .done
    | cons head rest ih => exact head.append ih
  | extend related relatedBinding =>
    exact related.bind fun _ _ same => same.extended equivalence relatedBinding
  | join relatedLeft relatedRight =>
    refine relatedRight.bind fun event other same => ?_
    cases same with
    | binding extensions =>
      exact relatedLeft.bind fun _ _ same => same.extended equivalence extensions
    | fault error => exact .one (.fault error)
  | project related kept => exact related.map fun _ _ same => same.restricted kept
  | failure fault => exact .one (.fault fault)
  | unknown => exact .failed _

/-- Walks through sources that are the same are alike. -/
theorem Same.walk_alike (equivalence : equal.PartialEquivalence) {source other : Source}
    (same : source.Same equal other) :
    (source.walk equal).Alike (Event.Same equal) (other.walk equal) := by
  refine same.induction (motive := fun source other =>
    (source.walk equal).Alike (Event.Same equal) (other.walk equal))
    fun source other operators => ?_
  rw [← walk_ofOperator equal source, ← walk_ofOperator equal other]
  exact walk_alike_over equivalence operators

/-- Results do not depend on how values are written. Under a test that is symmetric and
transitive, sources that are the same show as many events, and place by place the same fault or
bindings that are the same. They end in the same way, and without an error if no part of them is
unknown. -/
theorem elements_of_same (equivalence : equal.PartialEquivalence) {source other : Source}
    (same : source.Same equal other) :
    (source.walk equal).elements.length = (other.walk equal).elements.length ∧
      List.Forall₂ (Event.Same equal) (source.walk equal).elements (other.walk equal).elements ∧
      (source.walk equal).observe.error = (other.walk equal).observe.error ∧
      (source.Known → (source.walk equal).Finishes ∧ (other.walk equal).Finishes) := by
  have alike := same.walk_alike equivalence
  refine ⟨alike.elements.length_eq, alike.elements, alike.error_eq, fun known => ?_⟩
  have finishes := finishes_walk equivalence.total source known
  refine ⟨finishes, ?_⟩
  rw [Walk.Finishes, ← alike.error_eq]
  exact finishes

/-- Whole numbers count as equal if their last digits are. Two joins are the same, in one of which
other numbers with the same last digits stand, and variables in another order. Both show the fault
of the extended operand, once for each binding on their right, and one binding. -/
theorem elements_of_same_digits :
    let equal : EqualityTest := .byImage fun value => value.integer?.map (· % 10)
    let source : Source := join (union [failure .unknownSource, single (.single "x" (.int 1))])
      (table [.ofPairs [("y", .int 2), ("x", .int 11)], .single "x" (.int 3)])
    let other : Source := join (union [failure .unknownSource, single (.single "x" (.int 21))])
      (table [.ofPairs [("x", .int 31), ("y", .int 12)], .single "x" (.int 13)])
    let shown (source : Source) := (source.walk equal).elements.map fun event =>
      event.binding?.map fun binding => (binding.keys, (binding.get? "x").bind Value.integer?)
    List.Forall₂ (Event.Same equal) (source.walk equal).elements (other.walk equal).elements ∧
      shown source = [none, some (["x", "y"], some 1), none] ∧
      shown other = [none, some (["x", "y"], some 21), none] := by
  intro equal source other shown
  have operand : Same equal (union [failure .unknownSource, single (.single "x" (.int 1))])
      (union [failure .unknownSource, single (.single "x" (.int 21))]) :=
    .intro (.union (.cons (.intro (.failure _))
      (.cons (.intro (.single (by decide +kernel))) .nil)))
  have extensions : Same equal
      (table [.ofPairs [("y", .int 2), ("x", .int 11)], .single "x" (.int 3)])
      (table [.ofPairs [("x", .int 31), ("y", .int 12)], .single "x" (.int 13)]) :=
    .intro (.table (.cons (by decide +kernel) (.cons (by decide +kernel) .nil)))
  have same : Same equal source other := .intro (.join operand extensions)
  refine ⟨(elements_of_same (EqualityTest.partialEquivalence_byImage _) same).2.1, ?_, ?_⟩
  · clear * -
    subst shown source equal
    decide +kernel
  · clear * -
    subst shown other equal
    decide +kernel

end Source

end Sources

end GraphPattern
