/-!
# Cutting a text at a mark

A text is split at every occurrence of a mark, or cut at the first one.  The
parts never hold the mark at which they were separated, and joining them with
the mark gives the text again.
-/

namespace CgroupMeter.Text

/-- The parts of a text between the occurrences of a mark.  A text without
the mark is its own only part. -/
def split (mark : Char) (text : String) : List String :=
  (text.toList.splitOn mark).map String.ofList

/-- The characters before and after the first occurrence of a mark. -/
def cutChars (mark : Char) : List Char → Option (List Char × List Char)
  | [] => none
  | char :: rest =>
      if char = mark then some ([], rest)
      else (cutChars mark rest).map fun (before, after) => (char :: before, after)

/-- The texts before and after the first occurrence of a mark. -/
def cut (mark : Char) (text : String) : Option (String × String) :=
  (cutChars mark text.toList).map fun (before, after) =>
    (String.ofList before, String.ofList after)

/-- A cut loses nothing but the mark, and cuts at its first occurrence. -/
theorem cutChars_eq_some_iff {mark : Char} {chars before after : List Char} :
    cutChars mark chars = some (before, after) ↔
      chars = before ++ mark :: after ∧ mark ∉ before := by
  induction chars generalizing before with
  | nil => simp [cutChars]
  | cons char rest ih =>
      by_cases same : char = mark
      · subst same
        cases before with
        | nil => simp [cutChars, eq_comm]
        | cons first before =>
            simp [cutChars]
            grind
      · cases before with
        | nil => simp [cutChars, same]
        | cons first before =>
            simp [cutChars, same, ih]
            grind

/-- A text has no cut exactly when the mark does not occur in it. -/
theorem cutChars_eq_none_iff {mark : Char} {chars : List Char} :
    cutChars mark chars = none ↔ mark ∉ chars := by
  induction chars with
  | nil => simp [cutChars]
  | cons char rest ih =>
      by_cases same : char = mark
      · simp [cutChars, same]
      · simp [cutChars, same, ih, Ne.symm same]

end CgroupMeter.Text
