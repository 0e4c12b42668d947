import CgroupMeter.Text.Blank
import CgroupMeter.Text.Split
import Mathlib.Data.List.Basic

/-!
# Words of a text that is put together

A line of words with single blanks between them has just these words, and only
a text of blanks has none.  A text without a mark is cut at the mark that is
put after it, and texts with a mark between them are split into the parts of
both.
-/

namespace CgroupMeter.Text

/-- A text that can be a word: it is not empty and holds no blank. -/
structure IsWord (text : String) : Prop where
  filled : text ≠ ""
  solid : ∀ char ∈ text.toList, isBlank char = false

-- The instance is named: there is another one, which goes through all characters.
instance (text : String) : Decidable (IsWord text) :=
  haveI : Decidable (∀ char ∈ text.toList, isBlank char = false) :=
    List.decidableBAll _ _
  decidable_of_iff
    (text ≠ "" ∧ ∀ char ∈ text.toList, isBlank char = false)
    ⟨fun word => ⟨word.1, word.2⟩, fun word => ⟨word.filled, word.solid⟩⟩

theorem IsWord.toList_ne_nil {text : String} (word : IsWord text) :
    text.toList ≠ [] := by
  intro empty
  exact word.filled (String.toList_eq_nil_iff.1 empty)

theorem wordsOfChars_blank {char : Char} (blank : isBlank char = true)
    (chars : List Char) :
    wordsOfChars (char :: chars) = wordsOfChars chars := by
  simp [wordsOfChars, List.splitOnP_cons_eq_if_modifyHead, blank]

theorem wordsOfChars_append_blank {word : List Char} {char : Char}
    (filled : word ≠ []) (solid : ∀ inner ∈ word, isBlank inner = false)
    (blank : isBlank char = true) (chars : List Char) :
    wordsOfChars (word ++ char :: chars) = word :: wordsOfChars chars := by
  rw [wordsOfChars,
    List.splitOnP_append_cons_of_forall_mem solid char blank chars]
  simp [wordsOfChars, filled]

theorem wordsOfChars_solid {word : List Char} (filled : word ≠ [])
    (solid : ∀ inner ∈ word, isBlank inner = false) :
    wordsOfChars word = [word] := by
  rw [wordsOfChars, List.splitOnP_eq_singleton solid]
  simp [filled]

theorem wordsOfChars_eq_nil_iff (chars : List Char) :
    wordsOfChars chars = [] ↔ chars.all isBlank = true := by
  induction chars with
  | nil => simp [wordsOfChars]
  | cons char rest ih =>
      by_cases blank : isBlank char = true
      · rw [wordsOfChars_blank blank, ih]
        simp [blank]
      · simp only [Bool.not_eq_true] at blank
        constructor
        · intro none
          cases runs : rest.splitOnP isBlank with
          | nil => exact absurd runs (List.splitOnP_ne_nil _ _)
          | cons run others =>
              simp [wordsOfChars, List.splitOnP_cons_eq_if_modifyHead, blank,
                runs] at none
        · intro all
          simp [blank] at all

/-- A text without words is one of blanks. -/
theorem words_eq_nil_iff (text : String) :
    words text = [] ↔ isBlankText text = true := by
  simp [words, isBlankText, wordsOfChars_eq_nil_iff]

theorem ne_empty_of_mem_words {text word : String}
    (member : word ∈ words text) : word ≠ "" := by
  rcases List.mem_map.1 member with ⟨run, listed, rfl⟩
  have filled := (List.mem_filter.1 listed).2
  simpa [← String.toList_inj] using filled

theorem words_of_isWord {text : String} (word : IsWord text) :
    words text = [text] := by
  simp [words, wordsOfChars_solid word.toList_ne_nil word.solid]

theorem words_append_blank {first : String} (word : IsWord first)
    (rest : String) : words (first ++ " " ++ rest) = first :: words rest := by
  have chars : (first ++ " " ++ rest).toList =
      first.toList ++ ' ' :: rest.toList := by
    simp
  rw [words, chars,
    wordsOfChars_append_blank word.toList_ne_nil word.solid rfl]
  simp [words]

theorem IsWord.append {first second : String} (isFirst : IsWord first)
    (isSecond : IsWord second) : IsWord (first ++ second) where
  filled := by
    intro empty
    have chars := congrArg String.toList empty
    simp [isFirst.toList_ne_nil] at chars
  solid := by
    intro char member
    rw [String.toList_append, List.mem_append] at member
    rcases member with inFirst | inSecond
    · exact isFirst.solid char inFirst
    · exact isSecond.solid char inSecond

/-- The words of a line are those that it was put together from. -/
theorem words_intercalate {line : List String}
    (isWord : ∀ word ∈ line, IsWord word) :
    words (" ".intercalate line) = line := by
  induction line with
  | nil => rfl
  | cons first rest ih =>
      have firstIsWord := isWord first List.mem_cons_self
      have others := ih fun word member =>
        isWord word (List.mem_cons_of_mem _ member)
      cases rest with
      | nil => simpa using words_of_isWord firstIsWord
      | cons second rest =>
          rw [String.intercalate_cons_cons, words_append_blank firstIsWord,
            others]

/-- A text is cut at the first mark in it. -/
theorem cut_eq_some_iff {mark : Char} {text before after : String} :
    cut mark text = some (before, after) ↔
      text = before ++ String.singleton mark ++ after ∧
        mark ∉ before.toList := by
  have chars : text = before ++ String.singleton mark ++ after ↔
      text.toList = before.toList ++ mark :: after.toList := by
    rw [← String.toList_inj]
    simp
  rw [chars, ← cutChars_eq_some_iff, cut]
  constructor
  · intro found
    simp only [Option.map_eq_some_iff, Prod.exists, Prod.mk.injEq] at found
    rcases found with ⟨_, _, found, rfl, rfl⟩
    simp [found]
  · intro found
    simp [found]

theorem cut_append {mark : Char} {before : String}
    (clean : mark ∉ before.toList) (after : String) :
    cut mark (before ++ String.singleton mark ++ after) =
      some (before, after) :=
  cut_eq_some_iff.2 ⟨rfl, clean⟩

theorem count_of_cut {mark : Char} {text before after : String}
    (parts : cut mark text = some (before, after)) :
    text.toList.count mark = after.toList.count mark + 1 := by
  rcases cut_eq_some_iff.1 parts with ⟨rfl, clean⟩
  simp [List.count_eq_zero.2 clean]

/-- A text has no cut exactly when the mark does not occur in it. -/
theorem cut_eq_none_iff {mark : Char} {text : String} :
    cut mark text = none ↔ mark ∉ text.toList := by
  simp [cut, cutChars_eq_none_iff]

/-! ## Parts between marks -/

/-- Two texts with a mark between them have the parts of both. -/
theorem split_append (mark : Char) (first second : String) :
    split mark (first ++ String.singleton mark ++ second) =
      split mark first ++ split mark second := by
  have chars : (first ++ String.singleton mark ++ second).toList =
      first.toList ++ mark :: second.toList := by
    simp
  rw [split, chars, List.splitOn_append_cons_self, List.map_append, split,
    split]

theorem exists_mem_of_mem_intercalate {mark char : Char}
    {parts : List (List Char)} (member : char ∈ [mark].intercalate parts)
    (other : char ≠ mark) : ∃ part ∈ parts, char ∈ part := by
  induction parts with
  | nil => simp at member
  | cons first rest ih =>
      cases rest with
      | nil =>
          refine ⟨first, List.mem_cons_self, ?_⟩
          simpa using member
      | cons second rest =>
          rw [List.intercalate_cons_cons, List.mem_append, List.mem_append,
            List.mem_singleton] at member
          rcases member with (inFirst | same) | later
          · exact ⟨first, List.mem_cons_self, inFirst⟩
          · exact absurd same other
          · rcases ih later with ⟨part, listed, inside⟩
            exact ⟨part, List.mem_cons_of_mem _ listed, inside⟩

/-- All characters of a text but the marks are in its parts. -/
theorem exists_mem_split {mark char : Char} {text : String}
    (member : char ∈ text.toList) (other : char ≠ mark) :
    ∃ part ∈ split mark text, char ∈ part.toList := by
  have joined : [mark].intercalate (text.toList.splitOn mark) = text.toList :=
    List.intercalate_splitOn mark
  rw [← joined] at member
  rcases exists_mem_of_mem_intercalate member other with
    ⟨part, listed, inside⟩
  refine ⟨String.ofList part, List.mem_map_of_mem listed, ?_⟩
  simpa using inside

end CgroupMeter.Text
