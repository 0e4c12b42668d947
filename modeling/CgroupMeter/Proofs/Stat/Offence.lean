import CgroupMeter.Stat.Error
import Mathlib.Data.List.Perm.Basic

/-!
# The line that a file is refused for

A file is refused for the first of its lines that offends.  Whether a line
offends may depend on the lines before it, and so does its number, which is
part of what is said about it.

Files whose lines are read one by one are refused in this way, and give what
their lines give.  When such a file follows the lines of another, it gives the
same or is refused for the same, except that its lines have later numbers.
-/

namespace CgroupMeter

section Offence

variable {α ε : Type} {offends : List α → α → ε → Prop} {item : α}
    {rest items : List α} {error : ε}

/-- An item offends in its place among others. -/
def Offence (offends : List α → α → ε → Prop) (items : List α) (error : ε) :
    Prop :=
  ∃ before item after, items = before ++ item :: after ∧
    offends before item error

/-- The first item that offends in its place does so with an error. -/
def FirstOffence (offends : List α → α → ε → Prop) (items : List α)
    (error : ε) : Prop :=
  ∃ before item after, items = before ++ item :: after ∧
    offends before item error ∧ ∀ other, ¬ Offence offends before other

theorem not_offence_nil : ¬ Offence offends [] error := by
  rintro ⟨before, item, after, split, -⟩
  simp at split

theorem not_firstOffence_nil : ¬ FirstOffence offends [] error := by
  rintro ⟨before, item, after, split, -⟩
  simp at split

theorem offence_cons_iff :
    Offence offends (item :: rest) error ↔
      offends [] item error ∨
        Offence (fun before => offends (item :: before)) rest error := by
  constructor
  · rintro ⟨_ | ⟨first, before⟩, other, after, split, offending⟩
    · cases split
      exact Or.inl offending
    · cases split
      exact Or.inr ⟨before, other, after, rfl, offending⟩
  · rintro (offending | ⟨before, other, after, rfl, offending⟩)
    · exact ⟨[], item, rest, rfl, offending⟩
    · exact ⟨item :: before, other, after, rfl, offending⟩

/-- The first offence is by the first item, or else by a later one. -/
theorem firstOffence_cons_iff :
    FirstOffence offends (item :: rest) error ↔
      offends [] item error ∨
        (∀ other, ¬ offends [] item other) ∧
          FirstOffence (fun before => offends (item :: before)) rest error := by
  constructor
  · rintro ⟨_ | ⟨first, before⟩, other, after, split, offending, clean⟩
    · cases split
      exact Or.inl offending
    · cases split
      refine Or.inr ⟨fun error first => ?_, before, other, after, rfl,
        offending, fun error inside => ?_⟩
      · exact clean error (offence_cons_iff.2 (Or.inl first))
      · exact clean error (offence_cons_iff.2 (Or.inr inside))
  · rintro (offending | ⟨clean, before, other, after, rfl, offending, later⟩)
    · exact ⟨[], item, rest, rfl, offending, fun _ => not_offence_nil⟩
    · refine ⟨item :: before, other, after, rfl, offending, ?_⟩
      intro error inside
      rcases offence_cons_iff.1 inside with first | others
      · exact clean error first
      · exact later error others

/-- Where anything offends, something offends first. -/
theorem exists_firstOffence_iff :
    (∃ error, FirstOffence offends items error) ↔
      ∃ error, Offence offends items error := by
  constructor
  · rintro ⟨error, before, item, after, split, offending, -⟩
    exact ⟨error, before, item, after, split, offending⟩
  · intro offence
    induction items generalizing offends with
    | nil =>
        rcases offence with ⟨error, offence⟩
        exact absurd offence not_offence_nil
    | cons item rest ih =>
        by_cases clean : ∀ other, ¬ offends [] item other
        · rcases offence with ⟨error, offence⟩
          rcases offence_cons_iff.1 offence with first | later
          · exact absurd first (clean error)
          · rcases ih ⟨error, later⟩ with ⟨other, first⟩
            exact ⟨other, firstOffence_cons_iff.2 (Or.inr ⟨clean, first⟩)⟩
        · simp only [not_forall, not_not] at clean
          rcases clean with ⟨other, first⟩
          exact ⟨other, firstOffence_cons_iff.2 (Or.inl first)⟩

end Offence

/-- What is refused exactly for the first offence is accepted exactly when
nothing offends. -/
theorem exists_ok_iff_of_refused {α β ε : Type}
    {offends : List α → α → ε → Prop} {items : List α} {result : Except ε β}
    (refused : ∀ error,
      result = .error error ↔ FirstOffence offends items error) :
    (∃ value, result = .ok value) ↔
      ∀ error, ¬ Offence offends items error := by
  have first := @exists_firstOffence_iff α ε offends items
  cases result with
  | ok value =>
      have none : ¬ ∃ error, Offence offends items error := by
        rw [← first]
        rintro ⟨error, offence⟩
        cases (refused error).2 offence
      simpa using none
  | error error =>
      have some : ∃ error, Offence offends items error :=
        first.1 ⟨error, (refused error).1 rfl⟩
      simpa using some

/-! ## Items that are read one by one -/

section Each

variable {α β ε : Type} {read : α → Except ε β} {items : List α}

theorem exists_forall₂_iff {related : α → β → Prop} :
    (∃ values, List.Forall₂ related items values) ↔
      ∀ item ∈ items, ∃ value, related item value := by
  induction items with
  | nil => simp
  | cons item rest ih =>
      rw [List.forall_mem_cons, ← ih]
      constructor
      · rintro ⟨_, first | ⟨first, others⟩⟩
        exact ⟨⟨_, first⟩, _, others⟩
      · rintro ⟨⟨value, first⟩, values, others⟩
        exact ⟨value :: values, .cons first others⟩

theorem mapM_eq_ok_iff {values : List β} :
    items.mapM read = .ok values ↔
      List.Forall₂ (fun item value => read item = .ok value) items values := by
  induction items generalizing values with
  | nil => cases values <;> simp [pure, Except.pure]
  | cons item rest ih =>
      rw [List.mapM_cons]
      cases first : read item with
      | error error => cases values <;> simp [bind, Except.bind, first]
      | ok value =>
          cases others : rest.mapM read with
          | error error =>
              cases values <;>
                simp [bind, Except.bind, first, ← ih, others]
          | ok found =>
              cases values <;>
                simp [bind, Except.bind, pure, Except.pure, first, ← ih, others]

theorem mapM_eq_error_iff {error : ε} :
    items.mapM read = .error error ↔
      FirstOffence (fun _ item error => read item = .error error) items
        error := by
  induction items with
  | nil => simpa [pure, Except.pure] using not_firstOffence_nil
  | cons item rest ih =>
      rw [List.mapM_cons, firstOffence_cons_iff, ← ih]
      cases first : read item with
      | error error => simp [bind, Except.bind]
      | ok value =>
          cases others : rest.mapM read <;>
            simp [bind, Except.bind, pure, Except.pure]

end Each

/-- What is said about a line, said about a line that many further down. -/
def StatError.later (count : Nat) : StatError → StatError
  | .duplicateField field line => .duplicateField field (line + count)
  | .invalidKeyValue key value line cause =>
      .invalidKeyValue key value (line + count) cause
  | .invalidValue value line cause => .invalidValue value (line + count) cause
  | .malformedLine line content => .malformedLine (line + count) content
  | .invalidCpuset token input => .invalidCpuset token input

section Numbered

variable {α : Type} {readLine : Nat → String → Except StatError (List α)}
    {number : Nat} {line : String} {rest lines : List String}
    {items : List α} {error : StatError}

theorem collectLines_cons_eq_ok_iff :
    collectLines readLine number (line :: rest) = .ok items ↔
      ∃ own others, readLine number line = .ok own ∧
        collectLines readLine (number + 1) rest = .ok others ∧
        items = own ++ others := by
  rw [collectLines]
  cases readLine number line <;>
    cases collectLines readLine (number + 1) rest <;>
      simp [bind, Except.bind, pure, Except.pure, eq_comm]

theorem collectLines_cons_eq_error_iff :
    collectLines readLine number (line :: rest) = .error error ↔
      readLine number line = .error error ∨
        (∃ own, readLine number line = .ok own) ∧
          collectLines readLine (number + 1) rest = .error error := by
  rw [collectLines]
  cases readLine number line <;>
    cases collectLines readLine (number + 1) rest <;>
      simp [bind, Except.bind, pure, Except.pure]

/-- Lines give together what each of them tells. -/
theorem collectLines_eq_ok_iff {tells : String → List α → Prop}
    (reads : ∀ number line items,
      readLine number line = .ok items ↔ tells line items) :
    collectLines readLine number lines = .ok items ↔
      ∃ parts, List.Forall₂ tells lines parts ∧ items = parts.flatten := by
  induction lines generalizing number items with
  | nil => simp [collectLines, eq_comm]
  | cons line rest ih =>
      simp only [collectLines_cons_eq_ok_iff, reads, ih,
        List.forall₂_cons_left_iff]
      constructor
      · rintro ⟨own, _, told, ⟨parts, others, rfl⟩, rfl⟩
        exact ⟨own :: parts, ⟨own, parts, told, others, rfl⟩, rfl⟩
      · rintro ⟨_, ⟨own, parts, told, others, rfl⟩, rfl⟩
        exact ⟨own, parts.flatten, told, ⟨parts, others, rfl⟩, rfl⟩

/-- Lines are refused together for the first one that is refused. -/
theorem collectLines_eq_error_iff {offends : Nat → String → StatError → Prop}
    (refuses : ∀ number line error,
      readLine number line = .error error ↔ offends number line error) :
    collectLines readLine number lines = .error error ↔
      FirstOffence (fun before => offends (before.length + number)) lines
        error := by
  induction lines generalizing number with
  | nil => simpa [collectLines] using not_firstOffence_nil
  | cons line rest ih =>
      have accepted : (∃ own, readLine number line = .ok own) ↔
          ∀ other, ¬ offends number line other := by
        simp only [← refuses]
        cases readLine number line <;> simp
      have later : (fun before : List String =>
            offends ((line :: before).length + number)) =
          fun before => offends (before.length + (number + 1)) := by
        funext before
        rw [List.length_cons, Nat.add_right_comm, Nat.add_assoc]
      rw [collectLines_cons_eq_error_iff, firstOffence_cons_iff, accepted, ih,
        refuses, later, List.length_nil, Nat.zero_add]

theorem collectLines_append (first second : List String) :
    collectLines readLine number (first ++ second) = do
      let items ← collectLines readLine number first
      let others ← collectLines readLine (number + first.length) second
      return items ++ others := by
  induction first generalizing number with
  | nil =>
      cases second' : collectLines readLine number second <;>
        simp [collectLines, second', bind, Except.bind, pure, Except.pure]
  | cons line rest ih =>
      have behind :
          number + (line :: rest).length = number + 1 + rest.length := by
        rw [List.length_cons]
        omega
      rw [List.cons_append, collectLines, collectLines, ih, behind]
      cases readLine number line with
      | error error => rfl
      | ok own =>
          cases collectLines readLine (number + 1) rest with
          | error error => rfl
          | ok found =>
              cases collectLines readLine (number + 1 + rest.length) second <;>
                simp [bind, Except.bind, pure, Except.pure]

/-- Lines that stand further down are refused for later numbers. -/
theorem collectLines_later {count : Nat}
    (shifts : ∀ number line, readLine (number + count) line =
      (readLine number line).mapError (StatError.later count)) :
    collectLines readLine (number + count) lines =
      (collectLines readLine number lines).mapError (StatError.later count) := by
  induction lines generalizing number with
  | nil => rfl
  | cons line rest ih =>
      rw [collectLines, collectLines, shifts, Nat.add_right_comm, ih]
      cases readLine number line with
      | error error => rfl
      | ok own =>
          cases collectLines readLine (number + 1) rest <;> rfl

/-- Lines that follow others are read as they are alone, but for their
numbers. -/
theorem collectLines_append_eq
    (shifts : ∀ number count line, readLine (number + count) line =
      (readLine number line).mapError (StatError.later count))
    (first second : List String) :
    collectLines readLine number (first ++ second) = do
      let items ← collectLines readLine number first
      let others ← (collectLines readLine number second).mapError
        (StatError.later first.length)
      return items ++ others := by
  rw [collectLines_append]
  simp only [collectLines_later fun number => shifts number first.length]

/-- Lines in another order are read as well, and give the same in another
order. -/
theorem exists_collectLines_perm {tells : String → List α → Prop}
    (reads : ∀ number line items,
      readLine number line = .ok items ↔ tells line items)
    {others : List String} (order : others.Perm lines)
    (read : collectLines readLine number lines = .ok items) :
    ∃ found, collectLines readLine number others = .ok found ∧
      found.Perm items := by
  rcases (collectLines_eq_ok_iff reads).1 read with ⟨parts, told, rfl⟩
  rcases List.perm_comp_forall₂ order told with ⟨again, toldAgain, reordered⟩
  exact ⟨again.flatten,
    (collectLines_eq_ok_iff reads).2 ⟨again, toldAgain, rfl⟩,
    reordered.flatten⟩

/-- What does not depend on the order of items does not depend on the order of
the lines that they are read from. -/
theorem map_toOption_collectLines_of_perm {β : Type}
    {tells : String → List α → Prop}
    (reads : ∀ number line items,
      readLine number line = .ok items ↔ tells line items)
    {measure : List α → β}
    (unordered : ∀ first second, first.Perm second →
      measure first = measure second)
    {others : List String} (order : others.Perm lines) :
    (collectLines readLine number others).toOption.map measure =
      (collectLines readLine number lines).toOption.map measure := by
  cases read : collectLines readLine number lines with
  | ok items =>
      rcases exists_collectLines_perm reads order read with
        ⟨found, taken, reordered⟩
      simp [taken, Except.toOption, unordered _ _ reordered]
  | error error =>
      cases taken : collectLines readLine number others with
      | error other => rfl
      | ok found =>
          rcases exists_collectLines_perm reads order.symm taken with
            ⟨items, readAgain, -⟩
          cases read.symm.trans readAgain

end Numbered

/-! ## Whole files -/

/-- What is said about a file, said about lines that many further down. -/
def ContentError.later (count : Nat) : ContentError → ContentError
  | .read fault => .read fault
  | .parse error => .parse (error.later count)

theorem Lines.complete_of_whole {α : Type} (texts : List String)
    (value : Except StatError α) :
    complete ⟨texts, none⟩ value = value.mapError .parse := by
  cases value <;> rfl

theorem mapError_parse_eq_error_iff {α : Type} {value : Except StatError α}
    {error : ContentError} :
    value.mapError ContentError.parse = .error error ↔
      ∃ offence, error = .parse offence ∧ value = .error offence := by
  cases value <;> simp [Except.mapError, eq_comm]

theorem mapError_parse_eq_ok_iff {α : Type} {value : Except StatError α}
    {result : α} :
    value.mapError ContentError.parse = .ok result ↔ value = .ok result := by
  cases value <;> simp [Except.mapError]

theorem mapError_later_parse {α : Type} (count : Nat)
    (value : Except StatError α) :
    (value.mapError ContentError.parse).mapError (ContentError.later count) =
      (value.mapError (StatError.later count)).mapError .parse := by
  cases value <;> rfl

theorem toOption_map {α β ε : Type} (transform : α → β) (value : Except ε α) :
    (value.map transform).toOption = value.toOption.map transform := by
  cases value <;> rfl

theorem toOption_eq_some_iff {α ε : Type} {value : Except ε α} {result : α} :
    value.toOption = some result ↔ value = .ok result := by
  cases value <;> simp [Except.toOption]

theorem toOption_mapError {α ε ε' : Type} (said : ε → ε')
    (value : Except ε α) : (value.mapError said).toOption = value.toOption := by
  cases value <;> rfl

end CgroupMeter
