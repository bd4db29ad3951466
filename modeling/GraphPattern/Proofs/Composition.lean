import GraphPattern.Source.Enumeration

/-!
# Laws of walks

Walks are put together like lists: one behind the other, a walk in the place of
every element, another element in the place of every element. The laws of lists
hold for them. They are equations between walks and not between what is seen of
them, so both sides compare the same values in the same order and end in the
same error.
-/

namespace GraphPattern

namespace Walk

variable {α β γ : Type}

/-- Nothing behind a walk changes nothing. -/
theorem append_done (walk : Walk α) : (walk.append fun _ => done) = walk := by
  induction walk with
  | done => rfl
  | failed error => rfl
  | compared first second rest ih => simp only [append, ih]
  | emit element rest ih => simp only [append, ih]

/-- How walks that stand one behind the other are grouped does not matter. -/
theorem append_assoc (walk : Walk α) (next last : Unit → Walk α) :
    (walk.append next).append last = walk.append fun _ => (next ()).append last := by
  induction walk with
  | done => rfl
  | failed error => rfl
  | compared first second rest ih => simp only [append, ih]
  | emit element rest ih => simp only [append, ih]

/-- Every element stands in its own place. -/
theorem bind_one (walk : Walk α) : walk.bind one = walk := by
  induction walk with
  | done => rfl
  | failed error => rfl
  | compared first second rest ih => simp only [bind, ih]
  | emit element rest ih => simp only [bind, one, append, ih]

/-- In the place of a single element stands one walk. -/
theorem one_bind (element : α) (next : α → Walk β) : (one element).bind next = next element :=
  append_done _

/-- Walks stand in the places of the elements of one walk and then of those of the walk behind
it. -/
theorem append_bind (walk : Walk α) (next : Unit → Walk α) (image : α → Walk β) :
    (walk.append next).bind image = (walk.bind image).append fun _ => (next ()).bind image := by
  induction walk with
  | done => rfl
  | failed error => rfl
  | compared first second rest ih => simp only [append, bind, ih]
  | emit element rest ih => simp only [append, bind, ih, append_assoc]

/-- Walks in the places of elements that the outer walk does not show do not matter. -/
theorem bind_congr_of_elements {walk : Walk α} {next other : α → Walk β}
    (same : ∀ element ∈ walk.elements, next element = other element) :
    walk.bind next = walk.bind other := by
  induction walk with
  | done => rfl
  | failed error => rfl
  | compared first second rest ih =>
    exact congrArg (compared first second) (funext fun _ => ih () same)
  | emit element rest ih =>
    have head : next element = other element := same element List.mem_cons_self
    have tail := ih () fun later member => same later (List.mem_cons_of_mem _ member)
    rw [bind, bind, head, tail]

/-- Copies of a walk stand behind further copies of it. -/
theorem copies_add (walk : Walk α) (first second : Nat) :
    walk.copies (first + second) = (walk.copies first).append fun _ => walk.copies second := by
  induction first with
  | zero => rw [Nat.zero_add]; rfl
  | succ first ih => rw [Nat.succ_add, copies, copies, append_assoc, ih]

/-- Copies of copies of a walk are copies of it. -/
theorem copies_copies (walk : Walk α) (inner outer : Nat) :
    (walk.copies inner).copies outer = walk.copies (outer * inner) := by
  induction outer with
  | zero => rw [Nat.zero_mul]; rfl
  | succ outer ih => rw [copies, ih, Nat.succ_mul, Nat.add_comm, copies_add]

/-- Elements are changed in one walk and then in the one behind it. -/
theorem map_append (change : α → β) (walk : Walk α) (next : Unit → Walk α) :
    (walk.append next).map change = (walk.map change).append fun _ => (next ()).map change := by
  induction walk with
  | done => rfl
  | failed error => rfl
  | compared first second rest ih => simp only [append, map, ih]
  | emit element rest ih => simp only [append, map, ih]

/-- Elements are changed in each of the walks that stand in the place of others. -/
theorem map_bind (change : β → γ) (walk : Walk α) (next : α → Walk β) :
    (walk.bind next).map change = walk.bind fun element => (next element).map change := by
  induction walk with
  | done => rfl
  | failed error => rfl
  | compared first second rest ih => simp only [bind, map, ih]
  | emit element rest ih => simp only [bind, map_append, ih]

/-- Walks that stand in the place of changed elements. -/
theorem bind_map (change : α → β) (walk : Walk α) (next : β → Walk γ) :
    (walk.map change).bind next = walk.bind fun element => next (change element) := by
  induction walk with
  | done => rfl
  | failed error => rfl
  | compared first second rest ih => simp only [bind, map, ih]
  | emit element rest ih => simp only [bind, map, ih]

/-- Elements that are changed twice. -/
theorem map_map (change : α → β) (further : β → γ) (walk : Walk α) :
    (walk.map change).map further = walk.map fun element => further (change element) := by
  induction walk with
  | done => rfl
  | failed error => rfl
  | compared first second rest ih => simp only [map, ih]
  | emit element rest ih => simp only [map, ih]

/-- Elements are changed in each copy of a walk. -/
theorem map_copies (change : α → β) (walk : Walk α) (times : Nat) :
    (walk.copies times).map change = (walk.map change).copies times := by
  induction times with
  | zero => rfl
  | succ times ih => rw [copies, copies, map_append, ih]

/-- Elements are changed in a list that is walked through. -/
theorem map_ofList (change : α → β) (list : List α) :
    (ofList list).map change = ofList (list.map change) := by
  induction list with
  | nil => rfl
  | cons element rest ih => simp only [ofList, map, List.map_cons, ih]

/-- Which element follows a comparison of values does not matter to the comparison. -/
theorem map_agreeing (change : α → β) (equal : EqualityTest) (element : α)
    (pairs : List (Value × Value)) :
    (agreeing equal element pairs).map change = agreeing equal (change element) pairs := by
  induction pairs with
  | nil => rfl
  | cons pair rest ih =>
    obtain ⟨first, second⟩ := pair
    simp only [agreeing, map]
    congr 1
    funext _
    cases equal first second with
    | error error => rfl
    | ok same =>
      cases same with
      | true => exact ih
      | false => rfl

end Walk

end GraphPattern
