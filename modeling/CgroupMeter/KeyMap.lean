/-!
# Finite maps with text keys

A map keeps its entries in strictly ascending order of their keys, so it has
one form whatever the order in which it was built.  Texts are ordered
character by character, which is also the order of their UTF-8 bytes.

The main statements say what each operation does to a look-up, and that two
maps with the same look-ups are equal.
-/

namespace CgroupMeter

/-- A finite map from texts to values. -/
structure KeyMap (α : Type) where
  entries : List (String × α)
  sorted : entries.Pairwise fun left right => left.1 < right.1

namespace KeyMap

variable {α : Type}

/-- The value of a key in a list of entries. -/
def findIn (key : String) : List (String × α) → Option α
  | [] => none
  | (other, value) :: rest => if other = key then some value else findIn key rest

/-- A list of entries with one entry put in its place by key. -/
def insertIn (key : String) (value : α) :
    List (String × α) → List (String × α)
  | [] => [(key, value)]
  | (other, old) :: rest =>
      if key < other then (key, value) :: (other, old) :: rest
      else if key = other then (key, value) :: rest
      else (other, old) :: insertIn key value rest

theorem mem_insertIn {key : String} {value : α} {entry : String × α}
    {entries : List (String × α)}
    (member : entry ∈ insertIn key value entries) :
    entry = (key, value) ∨ entry ∈ entries := by
  induction entries with
  | nil => simpa [insertIn] using member
  | cons first rest ih =>
      obtain ⟨other, old⟩ := first
      simp only [insertIn] at member
      split at member
      · simpa using member
      · split at member
        · simp only [List.mem_cons] at member ⊢
          rcases member with equal | member
          · exact Or.inl equal
          · exact Or.inr (Or.inr member)
        · simp only [List.mem_cons] at member ⊢
          rcases member with equal | member
          · exact Or.inr (Or.inl equal)
          · rcases ih member with equal | member
            · exact Or.inl equal
            · exact Or.inr (Or.inr member)

theorem lt_of_not_lt_of_ne {left right : String} (notLess : ¬ left < right)
    (different : left ≠ right) : right < left := by
  rcases Decidable.em (right < left) with less | notGreater
  · exact less
  · exact absurd (String.le_antisymm notGreater notLess) different

theorem sorted_insertIn {key : String} {value : α}
    {entries : List (String × α)}
    (sorted : entries.Pairwise fun left right => left.1 < right.1) :
    (insertIn key value entries).Pairwise
      fun left right => left.1 < right.1 := by
  induction entries with
  | nil => simp [insertIn]
  | cons first rest ih =>
      obtain ⟨other, old⟩ := first
      rw [List.pairwise_cons] at sorted
      simp only [insertIn]
      split
      · rename_i less
        refine List.pairwise_cons.2 ⟨?_, List.pairwise_cons.2 sorted⟩
        intro entry member
        rcases List.mem_cons.1 member with rfl | member
        · exact less
        · exact String.lt_trans less (sorted.1 entry member)
      · split
        · rename_i same
          subst same
          exact List.pairwise_cons.2 sorted
        · rename_i notLess different
          refine List.pairwise_cons.2 ⟨?_, ih sorted.2⟩
          intro entry member
          rcases mem_insertIn member with rfl | member
          · exact lt_of_not_lt_of_ne notLess different
          · exact sorted.1 entry member

/-- The map without entries. -/
def empty : KeyMap α := ⟨[], List.Pairwise.nil⟩

/-- The value of a key. -/
def find? (map : KeyMap α) (key : String) : Option α :=
  findIn key map.entries

/-- The map with a value for a key, in place of the one it may have. -/
def insert (map : KeyMap α) (key : String) (value : α) : KeyMap α :=
  ⟨insertIn key value map.entries, sorted_insertIn map.sorted⟩

/-- The entries of a map that pass a test. -/
def filter (map : KeyMap α) (keep : String → α → Bool) : KeyMap α :=
  ⟨map.entries.filter fun entry => keep entry.1 entry.2,
    map.sorted.filter _⟩

/-- The map without a key. -/
def erase (map : KeyMap α) (key : String) : KeyMap α :=
  map.filter fun other _ => other != key

/-- The number of entries. -/
def size (map : KeyMap α) : Nat := map.entries.length

/-- The map without entries is empty. -/
def isEmpty (map : KeyMap α) : Bool := map.entries.isEmpty

/-- The map of a list of entries, a later value of a key replacing an earlier
one. -/
def ofList (entries : List (String × α)) : KeyMap α :=
  entries.foldl (fun map entry => map.insert entry.1 entry.2) empty

/-! ## Look-ups -/

theorem findIn_insertIn (key other : String) (value : α)
    (entries : List (String × α)) :
    findIn other (insertIn key value entries) =
      if key = other then some value else findIn other entries := by
  induction entries with
  | nil => simp [insertIn, findIn]
  | cons first rest ih =>
      obtain ⟨present, old⟩ := first
      simp only [insertIn]
      split
      · simp [findIn]
      · split
        · rename_i same
          subst same
          by_cases equal : key = other <;> simp [findIn, equal]
        · rename_i different
          by_cases equal : present = other
          · subst equal
            simp [findIn, different]
          · simp [findIn, equal, ih]

@[simp]
theorem find?_empty (key : String) : (empty : KeyMap α).find? key = none := rfl

@[simp]
theorem find?_insert (map : KeyMap α) (key other : String) (value : α) :
    (map.insert key value).find? other =
      if key = other then some value else map.find? other :=
  findIn_insertIn key other value map.entries

theorem findIn_eq_none {key : String} {entries : List (String × α)}
    (absent : ∀ entry ∈ entries, entry.1 ≠ key) : findIn key entries = none := by
  induction entries with
  | nil => rfl
  | cons first rest ih =>
      obtain ⟨present, value⟩ := first
      have different : present ≠ key := absent (present, value) (by simp)
      simp only [findIn, different, if_false]
      exact ih fun entry member => absent entry (by simp [member])

theorem findIn_filter {key : String} {keep : String → α → Bool}
    {entries : List (String × α)}
    (sorted : entries.Pairwise fun left right => left.1 < right.1) :
    findIn key (entries.filter fun entry => keep entry.1 entry.2) =
      (findIn key entries).filter (keep key) := by
  induction entries with
  | nil => rfl
  | cons first rest ih =>
      obtain ⟨present, value⟩ := first
      rw [List.pairwise_cons] at sorted
      by_cases same : present = key
      · subst same
        cases kept : keep present value
        · simp only [List.filter_cons, kept, Bool.false_eq_true, if_false, findIn,
            if_true, Option.filter_some]
          apply findIn_eq_none
          intro entry member equal
          have less := sorted.1 entry (List.mem_filter.1 member).1
          rw [equal] at less
          exact String.lt_irrefl _ less
        · simp [kept, findIn, Option.filter]
      · cases kept : keep present value <;>
          simp [kept, findIn, same, ih sorted.2]

@[simp]
theorem find?_filter (map : KeyMap α) (keep : String → α → Bool) (key : String) :
    (map.filter keep).find? key = (map.find? key).filter (keep key) :=
  findIn_filter map.sorted

@[simp]
theorem find?_erase (map : KeyMap α) (key other : String) :
    (map.erase key).find? other =
      if key = other then none else map.find? other := by
  simp only [erase, find?_filter]
  cases found : map.find? other with
  | none => simp
  | some value =>
      by_cases same : key = other
      · simp [same]
      · simp [same, Ne.symm same]

/-! ## Equality -/

theorem findIn_eq_some_of_mem {entry : String × α}
    {entries : List (String × α)}
    (sorted : entries.Pairwise fun left right => left.1 < right.1)
    (member : entry ∈ entries) : findIn entry.1 entries = some entry.2 := by
  induction entries with
  | nil => cases member
  | cons first rest ih =>
      rw [List.pairwise_cons] at sorted
      rcases List.mem_cons.1 member with rfl | later
      · simp [findIn]
      · have less := sorted.1 entry later
        have different : first.1 ≠ entry.1 := by
          intro equal
          rw [equal] at less
          exact String.lt_irrefl _ less
        obtain ⟨present, value⟩ := first
        simpa [findIn, different] using ih sorted.2 later

theorem mem_of_findIn_eq_some {key : String} {value : α}
    {entries : List (String × α)} (found : findIn key entries = some value) :
    (key, value) ∈ entries := by
  induction entries with
  | nil => simp [findIn] at found
  | cons first rest ih =>
      obtain ⟨present, old⟩ := first
      by_cases same : present = key
      · simp only [findIn, same, if_true, Option.some.injEq] at found
        simp [same, found]
      · simp only [findIn, same, if_false] at found
        exact List.mem_cons_of_mem _ (ih found)

/-- A map holds an entry exactly when looking its key up gives its value. -/
theorem mem_entries_iff {map : KeyMap α} {key : String} {value : α} :
    (key, value) ∈ map.entries ↔ map.find? key = some value :=
  ⟨findIn_eq_some_of_mem map.sorted, mem_of_findIn_eq_some⟩

theorem entries_eq_of_findIn {left right : List (String × α)}
    (leftSorted : left.Pairwise fun first second => first.1 < second.1)
    (rightSorted : right.Pairwise fun first second => first.1 < second.1)
    (same : ∀ key, findIn key left = findIn key right) : left = right := by
  induction left generalizing right with
  | nil =>
      cases right with
      | nil => rfl
      | cons entry rest => simpa [findIn] using same entry.1
  | cons leftEntry leftRest ih =>
      cases right with
      | nil => simpa [findIn] using same leftEntry.1
      | cons rightEntry rightRest =>
          have leftMember : leftEntry ∈ rightEntry :: rightRest := by
            have found :=
              findIn_eq_some_of_mem leftSorted (List.mem_cons_self : leftEntry ∈ _)
            rw [same] at found
            exact mem_of_findIn_eq_some found
          have rightMember : rightEntry ∈ leftEntry :: leftRest := by
            have found :=
              findIn_eq_some_of_mem rightSorted (List.mem_cons_self : rightEntry ∈ _)
            rw [← same] at found
            exact mem_of_findIn_eq_some found
          have leftOrder := List.pairwise_cons.1 leftSorted
          have rightOrder := List.pairwise_cons.1 rightSorted
          have equal : leftEntry = rightEntry := by
            rcases List.mem_cons.1 leftMember with equal | later
            · exact equal
            · rcases List.mem_cons.1 rightMember with equal | earlier
              · exact equal.symm
              · exact absurd (String.lt_trans (rightOrder.1 _ later)
                  (leftOrder.1 _ earlier)) (String.lt_irrefl _)
          subst equal
          congr 1
          refine ih leftOrder.2 rightOrder.2 fun key => ?_
          have whole := same key
          by_cases first : leftEntry.1 = key
          · have absent : ∀ {rest : List (String × α)},
                (∀ entry ∈ rest, leftEntry.1 < entry.1) →
                  findIn key rest = none := by
              intro rest above
              refine findIn_eq_none fun entry member equal => ?_
              have less := above entry member
              rw [equal, first] at less
              exact String.lt_irrefl _ less
            rw [absent leftOrder.1, absent rightOrder.1]
          · obtain ⟨present, value⟩ := leftEntry
            simpa [findIn, first] using whole

/-- Maps with the same look-ups are equal. -/
@[ext]
theorem ext_find? {left right : KeyMap α}
    (same : ∀ key, left.find? key = right.find? key) : left = right := by
  obtain ⟨leftEntries, leftSorted⟩ := left
  obtain ⟨rightEntries, rightSorted⟩ := right
  have equal := entries_eq_of_findIn leftSorted rightSorted same
  subst equal
  rfl

end KeyMap

end CgroupMeter
