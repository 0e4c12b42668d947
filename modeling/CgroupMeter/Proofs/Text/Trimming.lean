import CgroupMeter.Proofs.Text.Words
import Mathlib.Data.List.DropRight

/-!
# Trimmed texts

Trimming takes nothing from the words of a text, and it does not matter which
end is trimmed first.  A text is cut at the same mark before and after it is
trimmed, when the mark itself is no blank.
-/

namespace CgroupMeter.Text

/-- A blank separates the words before it from those behind it. -/
theorem wordsOfChars_append_cons {char : Char} (blank : isBlank char = true)
    (before after : List Char) :
    wordsOfChars (before ++ char :: after) =
      wordsOfChars before ++ wordsOfChars after := by
  simp [wordsOfChars, List.splitOnP_append_cons _ _ blank]

theorem wordsOfChars_append_of_blank {blanks : List Char}
    (blank : ∀ char ∈ blanks, isBlank char = true) (chars : List Char) :
    wordsOfChars (blanks ++ chars) = wordsOfChars chars := by
  induction blanks with
  | nil => rfl
  | cons char rest ih =>
      rw [List.forall_mem_cons] at blank
      rw [List.cons_append, wordsOfChars_blank blank.1, ih blank.2]

theorem trimEndChars_eq (chars : List Char) :
    trimEndChars chars = chars.rdropWhile isBlank := rfl

@[simp]
theorem wordsOfChars_trimEndChars (chars : List Char) :
    wordsOfChars (trimEndChars chars) = wordsOfChars chars := by
  induction chars using List.reverseRecOn with
  | nil => rfl
  | append_singleton chars char ih =>
      rw [trimEndChars_eq, List.rdropWhile_concat]
      split
      · rename_i blank
        rw [← trimEndChars_eq, ih, wordsOfChars_append_cons blank]
        simp [wordsOfChars]
      · rfl

/-- The blanks that a text ends with are no part of its words. -/
@[simp]
theorem words_trimEnd (text : String) : words (trimEnd text) = words text := by
  simp [words, trimEnd]

/-- Blanks are trimmed at the end of what stands behind a mark. -/
theorem trimEndChars_append_cons {mark : Char} (solid : isBlank mark = false)
    (before after : List Char) :
    trimEndChars (before ++ mark :: after) =
      before ++ mark :: trimEndChars after := by
  induction after using List.reverseRecOn with
  | nil => simp [trimEndChars_eq, solid]
  | append_singleton after char ih =>
      have split : before ++ mark :: (after ++ [char]) =
          (before ++ mark :: after) ++ [char] := by
        simp
      rw [split, trimEndChars_eq, trimEndChars_eq, List.rdropWhile_concat,
        List.rdropWhile_concat]
      split
      · exact ih
      · exact split.symm

/-- Blanks are trimmed at the start of what stands before a mark. -/
theorem trimStartChars_append_cons {mark : Char} (solid : isBlank mark = false)
    (before after : List Char) :
    trimStartChars (before ++ mark :: after) =
      trimStartChars before ++ mark :: after := by
  rw [trimStartChars, List.dropWhile_append]
  split
  · rename_i empty
    rw [List.isEmpty_iff] at empty
    simp [trimStartChars, empty, solid]
  · rfl

/-- A text that is trimmed is cut at the same mark. -/
theorem cutChars_trim {mark : Char} (solid : isBlank mark = false)
    (chars : List Char) :
    cutChars mark (trimEndChars (trimStartChars chars)) =
      (cutChars mark chars).map fun (before, after) =>
        (trimStartChars before, trimEndChars after) := by
  cases parts : cutChars mark chars with
  | none =>
      rw [cutChars_eq_none_iff] at parts
      rw [Option.map_none, cutChars_eq_none_iff]
      intro member
      have inStart := (List.rdropWhile_prefix _ _).subset member
      exact parts ((List.dropWhile_sublist _).subset inStart)
  | some pair =>
      rcases pair with ⟨before, after⟩
      rcases cutChars_eq_some_iff.1 parts with ⟨rfl, clean⟩
      rw [trimStartChars_append_cons solid, trimEndChars_append_cons solid,
        Option.map_some, cutChars_eq_some_iff]
      exact ⟨rfl, fun member =>
        clean ((List.dropWhile_sublist _).subset member)⟩

/-- The text before the mark loses the blanks at its start, and the text behind
it those at its end. -/
theorem cut_trim {mark : Char} (solid : isBlank mark = false) (text : String) :
    cut mark (trim text) = (cut mark text).map fun (before, after) =>
      (String.ofList (trimStartChars before.toList), trimEnd after) := by
  rw [cut, cut, trim, String.toList_ofList, cutChars_trim solid]
  cases cutChars mark text.toList <;> simp [trimEnd]

/-! ## Both ends -/

/-- It does not matter which end is trimmed first. -/
theorem trimEndChars_trimStartChars (chars : List Char) :
    trimEndChars (trimStartChars chars) =
      trimStartChars (trimEndChars chars) := by
  induction chars using List.reverseRecOn with
  | nil => rfl
  | append_singleton chars char ih =>
      by_cases blank : isBlank char = true
      · have shorter : trimEndChars (chars ++ [char]) = trimEndChars chars := by
          rw [trimEndChars_eq, List.rdropWhile_concat_pos _ _ _ blank,
            trimEndChars_eq]
        rw [shorter, ← ih, trimStartChars, List.dropWhile_append]
        split
        · rename_i empty
          rw [List.isEmpty_iff] at empty
          simp [trimStartChars, empty, blank]
        · rw [trimEndChars_eq, List.rdropWhile_concat_pos _ _ _ blank]
          rfl
      · have solid : isBlank char = false := by simpa using blank
        rw [trimStartChars_append_cons solid, trimEndChars_append_cons solid,
          trimEndChars_append_cons solid, trimStartChars_append_cons solid]

/-- It does not matter whether a text was trimmed at its start before. -/
theorem trim_trimStart (text : String) :
    trim (String.ofList (trimStartChars text.toList)) = trim text := by
  rw [trim, String.toList_ofList, trim, trimStartChars, trimStartChars,
    List.dropWhile_idempotent]

/-- It does not matter whether a text was trimmed at its end before. -/
theorem trim_trimEnd (text : String) : trim (trimEnd text) = trim text := by
  rw [trim, trimEnd, String.toList_ofList, trim,
    ← trimEndChars_trimStartChars, trimEndChars_eq, trimEndChars_eq,
    List.rdropWhile_idempotent]

/-- A text without blanks at its ends has none at its start. -/
theorem trimStartChars_of_trimmed {text : String}
    (trimmed : trim text = text) : trimStartChars text.toList = text.toList := by
  have chars : trimEndChars (trimStartChars text.toList) = text.toList := by
    rw [← String.toList_inj, trim, String.toList_ofList] at trimmed
    exact trimmed
  have shorter := (List.rdropWhile_prefix isBlank
    (trimStartChars text.toList)).length_le
  rw [← trimEndChars_eq, chars] at shorter
  exact (List.dropWhile_suffix isBlank).eq_of_length_le shorter

/-- Nor has it any at its end. -/
theorem trimEnd_of_trimmed {text : String} (trimmed : trim text = text) :
    trimEnd text = text := by
  have started := trimStartChars_of_trimmed trimmed
  rw [trim, started] at trimmed
  exact trimmed

/-- Of two texts with a mark between them, the first one is trimmed at its
start and the second one at its end. -/
theorem trim_append {mark : Char} (solid : isBlank mark = false)
    (first second : String) :
    trim (first ++ String.singleton mark ++ second) =
      String.ofList (trimStartChars first.toList) ++ String.singleton mark ++
        trimEnd second := by
  have chars : (first ++ String.singleton mark ++ second).toList =
      first.toList ++ mark :: second.toList := by
    simp
  rw [trim, chars, trimStartChars_append_cons solid,
    trimEndChars_append_cons solid, ← String.toList_inj]
  simp [trimEnd]

end CgroupMeter.Text
