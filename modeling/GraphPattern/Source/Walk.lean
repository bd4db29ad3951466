import GraphPattern.Error

/-!
# Lazy walks

A walk is an enumeration that has not happened yet. It shows one step at a
time: an element, a pair of values that is about to be compared, an error that
ends it, or its end. What lies behind a step is computed only when someone asks
for it, so a long or endlessly repeated walk costs no more than the part of it
that is looked at.

Walks are combined like lists, one behind the other or by putting a walk in
the place of every element. Comparisons and errors keep their places between
the elements.
-/

namespace GraphPattern

/-- A test of two values for equality. It need not be an equivalence, and it may fail. -/
abbrev EqualityTest := Value → Value → Except Error Bool

/-- An enumeration of elements, step by step. -/
inductive Walk (α : Type) where
  /-- Nothing follows. -/
  | done
  /-- An error ends the walk. -/
  | failed (error : Error)
  /-- Two values are compared. -/
  | compared (first second : Value) (rest : Unit → Walk α)
  /-- An element comes next. -/
  | emit (element : α) (rest : Unit → Walk α)

/-- What someone sees who goes through a walk. -/
structure Observation (α : Type) where
  /-- The elements, in order. -/
  elements : List α
  /-- The pairs of values that were compared, in order. -/
  comparisons : List (Value × Value)
  /-- The error that ended the walk, if one did. -/
  error : Option Error

/-- One observation and then another, unless an error ended the first. -/
def Observation.followedBy {α : Type} (first second : Observation α) : Observation α :=
  match first.error with
  | some _ => first
  | none =>
    ⟨first.elements ++ second.elements, first.comparisons ++ second.comparisons, second.error⟩

namespace Walk

variable {α β : Type}

/-- The walk of one element. -/
def one (element : α) : Walk α := emit element fun _ => done

/-- The walk through a list. -/
def ofList : List α → Walk α
  | [] => done
  | element :: rest => emit element fun _ => ofList rest

/-- One walk and then another. -/
def append : Walk α → (Unit → Walk α) → Walk α
  | done, next => next ()
  | failed error, _ => failed error
  | compared first second rest, next => compared first second fun _ => (rest ()).append next
  | emit element rest, next => emit element fun _ => (rest ()).append next

/-- A walk in the place of every element. -/
def bind : Walk α → (α → Walk β) → Walk β
  | done, _ => done
  | failed error, _ => failed error
  | compared first second rest, next => compared first second fun _ => (rest ()).bind next
  | emit element rest, next => (next element).append fun _ => (rest ()).bind next

/-- Another element in the place of every element. -/
def map (change : α → β) : Walk α → Walk β
  | done => done
  | failed error => failed error
  | compared first second rest => compared first second fun _ => (rest ()).map change
  | emit element rest => emit (change element) fun _ => (rest ()).map change

/-- A walk a number of times over. -/
def copies (walk : Walk α) : Nat → Walk α
  | 0 => done
  | times + 1 => walk.append fun _ => walk.copies times

/-- Compares pairs in order and has one element, namely the given one, if all are equal; the first
pair that differs ends it. -/
def agreeing (equal : EqualityTest) (element : α) : List (Value × Value) → Walk α
  | [] => one element
  | (first, second) :: rest =>
    compared first second fun _ =>
      match equal first second with
      | .error error => failed error
      | .ok true => agreeing equal element rest
      | .ok false => done

/-- Goes through the whole walk. -/
def observe : Walk α → Observation α
  | done => ⟨[], [], none⟩
  | failed error => ⟨[], [], some error⟩
  | compared first second rest =>
    let seen := (rest ()).observe
    ⟨seen.elements, (first, second) :: seen.comparisons, seen.error⟩
  | emit element rest =>
    let seen := (rest ()).observe
    ⟨element :: seen.elements, seen.comparisons, seen.error⟩

/-- Goes through a walk until a number of elements has been seen and asks for nothing behind the
last of them. -/
def observeFirst : Nat → Walk α → Observation α
  | 0, _ => ⟨[], [], none⟩
  | _ + 1, done => ⟨[], [], none⟩
  | _ + 1, failed error => ⟨[], [], some error⟩
  | count + 1, compared first second rest =>
    let seen := (rest ()).observeFirst (count + 1)
    ⟨seen.elements, (first, second) :: seen.comparisons, seen.error⟩
  | count + 1, emit element rest =>
    let seen := (rest ()).observeFirst count
    ⟨element :: seen.elements, seen.comparisons, seen.error⟩

/-- The elements of a walk, in order. -/
def elements (walk : Walk α) : List α := walk.observe.elements

/-- What is seen of two walks, one behind the other, is what is seen of each. -/
theorem observe_append (walk : Walk α) (next : Unit → Walk α) :
    (walk.append next).observe = walk.observe.followedBy (next ()).observe := by
  induction walk with
  | done => simp [append, observe, Observation.followedBy]
  | failed error => simp [append, observe, Observation.followedBy]
  | compared first second rest ih =>
    simp only [append, observe, ih]
    cases ended : (rest ()).observe.error <;> simp [Observation.followedBy, ended]
  | emit element rest ih =>
    simp only [append, observe, ih]
    cases ended : (rest ()).observe.error <;> simp [Observation.followedBy, ended]

/-- Changing elements changes nothing else that is seen. -/
theorem observe_map (change : α → β) (walk : Walk α) :
    (walk.map change).observe =
      ⟨walk.observe.elements.map change, walk.observe.comparisons, walk.observe.error⟩ := by
  induction walk with
  | done => rfl
  | failed error => rfl
  | compared first second rest ih => simp [map, observe, ih]
  | emit element rest ih => simp [map, observe, ih]

/-- A list is seen as it is. -/
theorem observe_ofList (list : List α) : (ofList list).observe = ⟨list, [], none⟩ := by
  induction list with
  | nil => rfl
  | cons element rest ih => simp [ofList, observe, ih]

end Walk

end GraphPattern
