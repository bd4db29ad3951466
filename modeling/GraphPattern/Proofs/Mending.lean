import GraphPattern.Comparison
import GraphPattern.Proofs.Composition
import GraphPattern.Proofs.Join
import Mathlib.Data.List.Forall2

/-!
# Sources in the places of failures

A source can have failures among its parts, and mending it puts other sources
in the places of some of them. Whether bindings went missing cannot be told from
a fault alone: on the left of a join a fault is repeated for every binding on the
right, and it does not show at all if there is none.

Main statement: the bindings of a source are some of those of every mended one,
in the same order, and if the source shows no fault then nothing that is put in
the places of its failures is ever looked at.
-/

namespace GraphPattern

namespace Event

/-- Some bindings of a list of events, in order and possibly with faults in the place of others.
Without a fault nothing is missing. -/
structure Weakened (weaker stronger : List Event) : Prop where
  /-- The bindings are some of the others. -/
  bindings : (Event.bindings weaker).Sublist (Event.bindings stronger)
  /-- Without a fault the events are the same. -/
  whole : faults weaker = [] → weaker = stronger

namespace Weakened

variable {equal : EqualityTest} {weaker stronger : List Event}

/-- Nothing is missing from events that are the same. -/
theorem refl (events : List Event) : Weakened events events :=
  ⟨List.Sublist.refl _, fun _ => rfl⟩

/-- A fault can stand for any events. -/
theorem of_fault (error : Error) (events : List Event) : Weakened [fault error] events :=
  ⟨List.nil_sublist _, fun clean => nomatch clean⟩

/-- Weakened events one behind the other. -/
theorem append {weakerBack strongerBack : List Event} (front : Weakened weaker stronger)
    (back : Weakened weakerBack strongerBack) :
    Weakened (weaker ++ weakerBack) (stronger ++ strongerBack) where
  bindings := by
    rw [bindings_append, bindings_append]
    exact front.bindings.append back.bindings
  whole clean := by
    rw [faults_append, List.append_eq_nil_iff] at clean
    rw [front.whole clean.1, back.whole clean.2]

/-- Several copies of weakened events. -/
theorem copies (weakened : Weakened weaker stronger) (times : Nat) :
    Weakened (List.replicate times weaker).flatten (List.replicate times stronger).flatten := by
  induction times with
  | zero => exact refl []
  | succ times ih =>
    rw [List.replicate_succ, List.flatten_cons, List.replicate_succ, List.flatten_cons]
    exact weakened.append ih

/-- Extending keeps events weakened. -/
theorem extensions (extension : Binding) (weakened : Weakened weaker stronger) :
    Weakened (weaker.flatMap (Event.extensions equal extension))
      (stronger.flatMap (Event.extensions equal extension)) where
  bindings := sublist_bindings_extensions extension weakened.bindings
  whole clean := by
    rw [faults_extensions] at clean
    rw [weakened.whole clean]

/-- Restricting keeps events weakened. -/
theorem restricted (kept : List String) (weakened : Weakened weaker stronger) :
    Weakened (weaker.map (Event.restricted kept)) (stronger.map (Event.restricted kept)) where
  bindings := sublist_bindings_restricted kept weakened.bindings
  whole clean := by
    rw [faults_map_restricted] at clean
    rw [weakened.whole clean]

/-- Joining keeps events weakened, although a fault on the left shows only if there is a binding on
the right: without one there is nothing to join with, whatever the left events are. -/
theorem joined {weakerRight strongerRight : List Event} (left : Weakened weaker stronger)
    (right : Weakened weakerRight strongerRight) :
    Weakened (Event.joined equal weaker weakerRight)
      (Event.joined equal stronger strongerRight) where
  bindings := sublist_bindings_joined left.bindings right.bindings
  whole clean := by
    obtain ⟨clear, unbound | leftClear⟩ := faults_joined_eq_nil_iff.1 clean
    · have nothing := eq_nil_of_bindings_of_faults unbound clear
      rw [← right.whole clear, nothing]
      rfl
    · rw [left.whole leftClear, right.whole clear]

end Weakened

end Event

namespace Source

/-- One source has some of the events of another, possibly with faults in the place of others. -/
def Weakens (equal : EqualityTest) (weaker stronger : Source) : Prop :=
  Event.Weakened (weaker.listing equal) (stronger.listing equal)

/-- A source in which sources that fit stand in the places of some failures of another one. -/
inductive Mended (fits : Source → Prop) : Source → Source → Prop where
  /-- No failure is replaced. -/
  | same (source : Source) : Mended fits source source
  /-- A failure is replaced. -/
  | replaced {fault : Error} {source : Source} (fit : fits source) :
      Mended fits (.failure fault) source
  /-- The operand of a multiple is mended. -/
  | multiply {source other : Source} (operand : Mended fits source other) (times : Nat) :
      Mended fits (.multiply source times) (.multiply other times)
  /-- The operands of a union are mended, one by one. -/
  | union {sources others : List Source} (operands : List.Forall₂ (Mended fits) sources others) :
      Mended fits (.union sources) (.union others)
  /-- The operand of an extension is mended. -/
  | extend {source other : Source} (operand : Mended fits source other) (extension : Binding) :
      Mended fits (.extend source extension) (.extend other extension)
  /-- Both operands of a join are mended. -/
  | join {left otherLeft right otherRight : Source} (first : Mended fits left otherLeft)
      (second : Mended fits right otherRight) :
      Mended fits (.join left right) (.join otherLeft otherRight)
  /-- The operand of a projection is mended. -/
  | project {source other : Source} (operand : Mended fits source other) (kept : List String) :
      Mended fits (.project source kept) (.project other kept)

variable {equal : EqualityTest} {fits : Source → Prop}

/-- Unions of sources that are mended one by one. -/
theorem Mended.union_map {α : Type} {list : List α} {build other : α → Source}
    (each : ∀ element ∈ list, Mended fits (build element) (other element)) :
    Mended fits (.union (list.map build)) (.union (list.map other)) :=
  .union (List.forall₂_map_left_iff.2 (List.forall₂_map_right_iff.2 (List.forall₂_same.2 each)))

/-- Joins of sources that are mended one by one. -/
theorem Mended.joinAll_map {α : Type} {list : List α} {build other : α → Source}
    (each : ∀ element ∈ list, Mended fits (build element) (other element)) :
    Mended fits (.joinAll (list.map build)) (.joinAll (list.map other)) := by
  induction list with
  | nil => exact .same _
  | cons element rest ih =>
    rw [List.forall_mem_cons] at each
    exact .join each.1 (ih each.2)

mutual

/-- A known source stays known if it is mended with known ones. -/
theorem Mended.known (fine : ∀ source, fits source → source.Known) {source other : Source}
    (mended : Mended fits source other) (known : source.Known) : other.Known := by
  cases mended with
  | same => exact known
  | replaced fit => exact fine _ fit
  | multiply operand times =>
    have operandKnown := operand.known fine known
    exact operandKnown
  | union operands => exact knownAll_of_mended fine operands known
  | extend operand extension =>
    have operandKnown := operand.known fine known
    exact operandKnown
  | join first second => exact ⟨first.known fine known.1, second.known fine known.2⟩
  | project operand kept =>
    have operandKnown := operand.known fine known
    exact operandKnown

/-- Known sources stay known if they are mended with known ones. -/
theorem knownAll_of_mended (fine : ∀ source, fits source → source.Known)
    {sources others : List Source} (mended : List.Forall₂ (Mended fits) sources others)
    (known : KnownAll sources) : KnownAll others := by
  cases mended with
  | nil => trivial
  | cons head rest => exact ⟨head.known fine known.1, knownAll_of_mended fine rest known.2⟩

end

mutual

/-- A source weakens every mended one. -/
theorem Mended.weakens {source other : Source} (mended : Mended fits source other) :
    Weakens equal source other := by
  cases mended with
  | same => exact .refl _
  | replaced fit => exact .of_fault _ _
  | multiply operand times => exact operand.weakens.copies times
  | union operands => exact weakened_listingAll operands
  | extend operand extension => exact operand.weakens.extensions extension
  | join first second => exact first.weakens.joined second.weakens
  | project operand kept => exact operand.weakens.restricted kept

/-- Sources weaken mended ones. -/
theorem weakened_listingAll {sources others : List Source}
    (mended : List.Forall₂ (Mended fits) sources others) :
    Event.Weakened (listingAll equal sources) (listingAll equal others) := by
  cases mended with
  | nil => exact .refl []
  | cons head rest => exact head.weakens.append (weakened_listingAll rest)

end

mutual

/-- If only sources without a binding are put in the places of failures, the bindings stay. -/
theorem Mended.bindings_listing
    (void : ∀ source, fits source → Event.bindings (source.listing equal) = [])
    {source other : Source} (mended : Mended fits source other) :
    Event.bindings (other.listing equal) = Event.bindings (source.listing equal) := by
  cases mended with
  | same => rfl
  | replaced fit => exact void _ fit
  | multiply operand times =>
    rw [listing, listing, Event.bindings_copies, Event.bindings_copies,
      operand.bindings_listing void]
  | union operands => exact bindings_listingAll_of_mended void operands
  | extend operand extension =>
    rw [listing, listing, Event.bindings_extensions, Event.bindings_extensions,
      operand.bindings_listing void]
  | join first second =>
    rw [listing, listing, Event.bindings_joined, Event.bindings_joined,
      first.bindings_listing void, second.bindings_listing void]
  | project operand kept =>
    rw [listing, listing, Event.bindings_map_restricted, Event.bindings_map_restricted,
      operand.bindings_listing void]

/-- If only sources without a binding are put in the places of failures, the bindings stay. -/
theorem bindings_listingAll_of_mended
    (void : ∀ source, fits source → Event.bindings (source.listing equal) = [])
    {sources others : List Source} (mended : List.Forall₂ (Mended fits) sources others) :
    Event.bindings (listingAll equal others) = Event.bindings (listingAll equal sources) := by
  cases mended with
  | nil => rfl
  | cons head rest =>
    rw [listingAll, listingAll, Event.bindings_append, Event.bindings_append,
      head.bindings_listing void, bindings_listingAll_of_mended void rest]

end

mutual

/-- If a source shows no fault, its walk stays the same, whatever is put in the places of its
failures. -/
theorem Mended.walk_eq (total : equal.Total) {source other : Source}
    (mended : Mended fits source other) (known : source.Known)
    (clean : Event.faults (source.listing equal) = []) :
    other.walk equal = source.walk equal := by
  cases mended with
  | same => rfl
  | replaced fit => exact nomatch clean
  | @multiply source other operand times =>
    cases times with
    | zero => rfl
    | succ times =>
      rw [listing, List.replicate_succ, List.flatten_cons, Event.faults_append,
        List.append_eq_nil_iff] at clean
      rw [walk, walk, operand.walk_eq total known clean.1]
  | union operands => exact walkAll_eq_of_mended total operands known clean
  | extend operand extension =>
    rw [listing, Event.faults_extensions] at clean
    rw [walk, walk, operand.walk_eq total known clean]
  | @join left otherLeft right otherRight first second =>
    obtain ⟨clear, unbound | leftClear⟩ := Event.faults_joined_eq_nil_iff.1 clean
    · -- Nothing on the right is joined with, so the left operand is not walked through at all.
      have nothing : (right.walk equal).elements = [] := by
        rw [elements_walk total known.2]
        exact Event.eq_nil_of_bindings_of_faults unbound clear
      rw [walk, walk, second.walk_eq total known.2 clear]
      refine Walk.bind_congr_of_elements fun event member => ?_
      rw [nothing] at member
      cases member
    · rw [walk, walk, first.walk_eq total known.1 leftClear, second.walk_eq total known.2 clear]
  | project operand kept =>
    rw [listing, Event.faults_map_restricted] at clean
    rw [walk, walk, operand.walk_eq total known clean]

/-- If sources show no fault, the walk through them stays the same, whatever is put in the places
of their failures. -/
theorem walkAll_eq_of_mended (total : equal.Total) {sources others : List Source}
    (mended : List.Forall₂ (Mended fits) sources others) (known : KnownAll sources)
    (clean : Event.faults (listingAll equal sources) = []) :
    walkAll equal others = walkAll equal sources := by
  cases mended with
  | nil => rfl
  | cons head rest =>
    rw [listingAll, Event.faults_append, List.append_eq_nil_iff] at clean
    rw [walkAll, walkAll, head.walk_eq total known.1 clean.1,
      walkAll_eq_of_mended total rest known.2 clean.2]

end

/-- All bindings of a source without faults are given to a caller who asks for bindings. -/
theorem observe_bindings_of_clean {source : Source} (finishes : (source.walk equal).Finishes)
    (clean : Event.faults (source.walk equal).elements = []) :
    (source.walk equal).observe.bindings = .ok (source.bindings equal) := by
  have ended : (source.walk equal).observe.error = none := finishes
  have faultless : (source.walk equal).observe.elements.filterMap Event.fault? = [] := clean
  rw [Observation.bindings, ended, faultless]
  rfl

/-- A caller who asks for the bindings of a source with faults gets an error that carries them. -/
theorem observe_bindings_of_faulty {source : Source} (finishes : (source.walk equal).Finishes)
    (faulty : Event.faults (source.walk equal).elements ≠ []) :
    (source.walk equal).observe.bindings =
      .error (.ofFaults (Event.faults (source.walk equal).elements)) := by
  have ended : (source.walk equal).observe.error = none := finishes
  obtain ⟨fault, rest, shown⟩ := List.exists_cons_of_ne_nil faulty
  have faults : (source.walk equal).observe.elements.filterMap Event.fault? = fault :: rest := shown
  rw [Observation.bindings, ended, faults, shown]

/-- Replacing failures is conservative. Let a test answer for all values, and let a source have
no unknown part. Put any sources in the places of any of its failures. If the mended source can be
walked through to its end, as it can unless an unknown part is met, the bindings of the source are
some of its bindings, in order. If the source shows no fault, both walks are the same. If all that
is put in the places of failures is the source without bindings, the bindings are the same. So a
caller who asks for the bindings of the source either gets an error that carries its faults, or the
bindings that every mended source gives. -/
theorem bindings_of_mended (total : equal.Total) {source : Source} (known : source.Known) :
    (∀ other, Mended (fun _ => True) source other →
      (other.Known → (other.walk equal).Finishes) ∧
      ((other.walk equal).Finishes →
        (source.bindings equal).Sublist (other.bindings equal)) ∧
      (Event.faults (source.walk equal).elements = [] →
        other.walk equal = source.walk equal)) ∧
    (∀ other, Mended (· = incompatible) source other →
      (other.walk equal).Finishes ∧ other.bindings equal = source.bindings equal) ∧
    ((∃ faults, faults ≠ [] ∧
        (source.walk equal).observe.bindings = .error (.ofFaults faults)) ∨
      ∃ list, (source.walk equal).observe.bindings = .ok list ∧
        ∀ other, Mended (fun _ => True) source other →
          (other.walk equal).observe.bindings = .ok list) := by
  have finishes := finishes_walk total source known
  have shown := elements_walk total known
  have sameWalk : Event.faults (source.walk equal).elements = [] → ∀ other,
      Mended (fun _ => True) source other → other.walk equal = source.walk equal := by
    intro clean other mended
    rw [shown] at clean
    exact mended.walk_eq total known clean
  refine ⟨fun other mended => ⟨finishes_walk total other, fun ends => ?_,
    fun clean => sameWalk clean other mended⟩, fun other mended => ?_, ?_⟩
  · have all := (follows_listing equal other).2 ends
    rw [bindings, bindings, shown, all]
    exact mended.weakens.bindings
  · have otherKnown : other.Known := mended.known (by rintro _ rfl; trivial) known
    refine ⟨finishes_walk total other otherKnown, ?_⟩
    rw [bindings, bindings, shown, elements_walk total otherKnown]
    exact mended.bindings_listing (by rintro _ rfl; rfl)
  · by_cases clean : Event.faults (source.walk equal).elements = []
    · have given := observe_bindings_of_clean finishes clean
      refine .inr ⟨_, given, fun other mended => ?_⟩
      rw [sameWalk clean other mended]
      exact given
    · exact .inl ⟨_, clean, observe_bindings_of_faulty finishes clean⟩

/-- A failure on the left of a join with nothing on its right, or repeated no times, does not show,
and then even an unknown source in its place is not met. A failure in a union shows, and bindings
in its place come on top of the others. -/
theorem bindings_of_mended_quiet_loud :
    let one := Binding.single "x" (.int 1)
    let two := Binding.single "x" (.int 2)
    let quiet (part : Source) : Source :=
      union [join part (extend (single one) two), multiply part 0, single one]
    let loud (part : Source) : Source := union [single one, part]
    let broken : Source := failure .beyondEnd
    let shown (source : Source) := (source.bindings .sameTerm).map fun binding =>
      (binding.get? "x").bind Value.integer?
    (quiet unknown).walk .sameTerm = (quiet broken).walk .sameTerm ∧
      ((loud broken).bindings .sameTerm).Sublist ((loud (table [two])).bindings .sameTerm) ∧
      (loud incompatible).bindings .sameTerm = (loud broken).bindings .sameTerm ∧
      shown (quiet broken) = [some 1] ∧ shown (loud broken) = [some 1] ∧
      shown (loud (table [two])) = [some 1, some 2] := by
  intro one two quiet loud broken shown
  have total : EqualityTest.sameTerm.Total := fun first second => ⟨first.sameTerm second, rfl⟩
  have quietMended : Mended (fun _ => True) (quiet broken) (quiet unknown) :=
    .union (.cons (.join (.replaced trivial) (.same _))
      (.cons (.multiply (.replaced trivial) 0) (.cons (.same _) .nil)))
  have loudMended : ∀ (fits : Source → Prop) (part : Source), fits part →
      Mended fits (loud broken) (loud part) :=
    fun _ _ fit => .union (.cons (.same _) (.cons (.replaced fit) .nil))
  have quietKnown : (quiet broken).Known := ⟨⟨trivial, trivial⟩, trivial, trivial, trivial⟩
  have loudKnown : (loud broken).Known := ⟨trivial, trivial, trivial⟩
  obtain ⟨someOf, same, _⟩ := bindings_of_mended total loudKnown
  obtain ⟨ends, sublist, _⟩ := someOf _ (loudMended _ (table [two]) trivial)
  refine ⟨?_, sublist (ends ⟨trivial, trivial, trivial⟩), (same _ (loudMended _ _ rfl)).2, ?_⟩
  · obtain ⟨_, _, unmoved⟩ := (bindings_of_mended total quietKnown).1 _ quietMended
    refine unmoved ?_
    rw [elements_walk total quietKnown]
    decide +kernel
  · clear * -
    subst shown broken loud quiet two one
    decide +kernel

end Source

end GraphPattern
