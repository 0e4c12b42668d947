import CgroupMeter.Proofs.Stat.KnownKeys
import CgroupMeter.Proofs.Text.Numeral

/-!
# Key/value files that are put together

A file may list the values of known keys in any order and among any other
lines.  Where each known key stands on one line at most, the file is read as
these values.
-/

namespace CgroupMeter

/-- A line of a key/value file. -/
inductive KeyValueLine where
  | known (key : String) (value : Counter)
  | other (text : String)

namespace KeyValueLine

/-- The text of a line. -/
def text : KeyValueLine → String
  | .known key value => " ".intercalate [key, value.toNat.repr]
  | .other text => text

/-- The key and the value that a line lists. -/
def listed? : KeyValueLine → Option (String × Counter)
  | .known key value => some (key, value)
  | .other _ => none

end KeyValueLine

namespace KeyValueFormat

variable {α : Type} {keys texts : List String} {lines : List KeyValueLine}
    {values : List (String × Counter)}

/-- Texts list the values of some known keys, in any order and among lines
that start with no known key. -/
def Lists (keys texts : List String) (values : List (String × Counter)) :
    Prop :=
  ∃ lines : List KeyValueLine, texts = lines.map KeyValueLine.text ∧
    (lines.filterMap KeyValueLine.listed?).Perm values ∧
    ∀ text, .other text ∈ lines → ∀ key ∈ keys,
      (Text.words text).head? ≠ some key

section Format

variable {format : KeyValueFormat α}

theorem told?_known {key : String} {value : Counter}
    (known : key ∈ format.keys) (word : Text.IsWord key) :
    format.told? (KeyValueLine.known key value).text = some (key, value) := by
  have words : Text.words (KeyValueLine.known key value).text =
      [key, value.toNat.repr] := by
    refine Text.words_intercalate ?_
    simp [word, Text.isWord_repr]
  exact told?_eq_some_iff.2
    ⟨_, ⟨known, [], words⟩, Numeral.readUInt64_repr value⟩

/-- A line lists a known key, or starts with none. -/
def Proper (keys : List String) : KeyValueLine → Prop
  | .known key _ => key ∈ keys ∧ Text.IsWord key
  | .other text => ∀ key ∈ keys, (Text.words text).head? ≠ some key

/-- A line gives a known key the value that it lists. -/
theorem listed?_of_gives {line : KeyValueLine} {key value : String}
    (proper : Proper format.keys line)
    (gives : Gives format.keys line.text key value) :
    ∃ counter, line.listed? = some (key, counter) ∧
      Numeral.readUInt64 value = .ok counter := by
  cases line with
  | known own counter =>
      rcases told?_eq_some_iff.1 (told?_known proper.1 proper.2) with
        ⟨text, given, number⟩
      obtain ⟨rfl, rfl⟩ := given.unique gives
      exact ⟨counter, rfl, number⟩
  | other text =>
      rcases gives with ⟨known, further, words⟩
      rw [KeyValueLine.text] at words
      exact absurd (by simp [words]) (proper key known)

theorem told?_text {line : KeyValueLine} (proper : Proper format.keys line) :
    format.told? line.text = line.listed? := by
  cases line with
  | known key value => exact told?_known proper.1 proper.2
  | other text =>
      rw [KeyValueLine.listed?, Option.eq_none_iff_forall_ne_some]
      rintro ⟨key, counter⟩ told
      rcases told?_eq_some_iff.1 told with ⟨value, gives, -⟩
      rcases listed?_of_gives proper gives with ⟨again, listed, -⟩
      cases listed

/-- Lines that list each key once at most are acceptable. -/
theorem acceptable_map_text
    (proper : ∀ line ∈ lines, Proper format.keys line)
    (apart : (lines.filterMap KeyValueLine.listed?).Pairwise
      fun first second => first.1 ≠ second.1) :
    Acceptable format.keys (lines.map KeyValueLine.text) where
  numbers := by
    intro text member key value gives
    rcases List.mem_map.1 member with ⟨line, inside, rfl⟩
    rcases listed?_of_gives (proper line inside) gives with
      ⟨counter, -, number⟩
    exact ⟨counter, number⟩
  once := by
    rw [List.pairwise_map]
    refine (List.pairwise_filterMap.1 apart).imp_of_mem ?_
    intro line other inside insideToo apart key value again gives given
    rcases listed?_of_gives (proper line inside) gives with ⟨one, listed, -⟩
    rcases listed?_of_gives (proper other insideToo) given with
      ⟨two, listedToo, -⟩
    exact apart _ listed _ listedToo rfl

/-- A file that lists values of distinct keys is read as what these values make
of the initial value. -/
theorem read_of_lists (once : format.allowsRepeats = false)
    (exchanges : format.Exchanges) (lists : Lists format.keys texts values)
    (known : ∀ listed ∈ values, listed.1 ∈ format.keys ∧ Text.IsWord listed.1)
    (distinct : (values.map Prod.fst).Nodup) :
    format.read ⟨texts, none⟩ =
      .ok (values.foldl format.take format.initial) := by
  rcases lists with ⟨lines, rfl, order, others⟩
  have proper : ∀ line ∈ lines, Proper format.keys line := by
    intro line member
    cases line with
    | known key value =>
        exact known (key, value)
          (order.mem_iff.1 (List.mem_filterMap.2 ⟨_, member, rfl⟩))
    | other text => exact others text member
  have apart : values.Pairwise fun first second => first.1 ≠ second.1 :=
    List.pairwise_map.1 distinct
  have listed : (lines.map KeyValueLine.text).filterMap format.told? =
      lines.filterMap KeyValueLine.listed? := by
    rw [List.filterMap_map]
    exact List.filterMap_congr fun line member => told?_text (proper line member)
  have acceptable := acceptable_map_text proper
    ((order.pairwise_iff fun different => Ne.symm different).2 apart)
  have read := (readTexts_eq_ok_iff once).2 ⟨acceptable, rfl⟩
  rw [takeLines, listed, foldl_take_of_perm exchanges apart order] at read
  simp [KeyValueFormat.read, read, Lines.complete, Lines.finish,
    Except.mapError]

end Format

end KeyValueFormat

end CgroupMeter
