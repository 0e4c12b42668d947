import CgroupMeter.Proofs.Stat.Offence
import CgroupMeter.Proofs.Text.Numeral
import CgroupMeter.Proofs.Text.Trimming
import CgroupMeter.Stat.Cpuset
import Mathlib.Algebra.Ring.Nat
import Mathlib.Data.List.Forall2

/-!
# What a list of CPUs counts

The parts of a list are single CPUs and ascending ranges, with commas between
them.  A text is accepted exactly when each of its parts is one of the two.
It then counts its single CPUs and the differences of its ranges, and a text
that is not accepted is refused for its first part that is neither.

Lists with a comma between them count together what each of them counts.
-/

namespace CgroupMeter.Cpuset

/-- A part of a list of CPUs. -/
inductive Interval where
  | single (cpu : Counter)
  | range (low high : Counter)

namespace Interval

/-- An interval has a written form: a number, or two ascending numbers with a
dash between them. -/
inductive Written : Interval → String → Prop where
  | single {cpu : Counter} {text : String}
      (number : Numeral.Denotes text cpu.toNat) : Written (.single cpu) text
  | range {low high : Counter} {first last : String}
      (lower : Numeral.Denotes first low.toNat)
      (upper : Numeral.Denotes last high.toNat) (ascending : low < high) :
      Written (.range low high) (first ++ "-" ++ last)

/-- An interval is a single CPU. -/
def isSingle : Interval → Bool
  | .single _ => true
  | .range _ _ => false

/-- The difference of the ends of a range. -/
def difference : Interval → Nat
  | .single _ => 0
  | .range low high => high.toNat - low.toNat

/-- What intervals count: each single CPU as one, and each range as the
difference of its ends. -/
def total (intervals : List Interval) : Nat :=
  intervals.countP isSingle + (intervals.map difference).sum

@[simp]
theorem total_nil : total [] = 0 := rfl

@[simp]
theorem total_single (cpu : Counter) (rest : List Interval) :
    total (.single cpu :: rest) = 1 + total rest := by
  simp only [total, List.countP_cons, isSingle, if_true, List.map_cons,
    List.sum_cons, difference]
  omega

@[simp]
theorem total_range (low high : Counter) (rest : List Interval) :
    total (.range low high :: rest) = (high.toNat - low.toNat) + total rest := by
  simp only [total, List.countP_cons, isSingle, Bool.false_eq_true, if_false,
    List.map_cons, List.sum_cons, difference]
  omega

theorem total_append (first second : List Interval) :
    total (first ++ second) = total first + total second := by
  simp only [total, List.countP_append, List.map_append, List.sum_append]
  omega

theorem Written.isWord {interval : Interval} {text : String}
    (written : interval.Written text) : Text.IsWord text := by
  cases written with
  | single number => exact number.isWord
  | range lower upper ascending =>
      have dash : Text.IsWord "-" := by decide
      exact (lower.isWord.append dash).append upper.isWord

end Interval

/-! ## Single parts -/

/-- A part of a list is what the list is refused for. -/
def Refuses (list : String) (_ : List String) (part : String)
    (error : StatError) : Prop :=
  (∀ interval, ¬ Interval.Written interval part) ∧
    error = .invalidCpuset part list

theorem toOption_readUInt64_eq_some_iff {text : String} {number : Counter} :
    (Numeral.readUInt64 text).toOption = some number ↔
      Numeral.Denotes text number.toNat := by
  rw [← Numeral.readUInt64_eq_ok_iff]
  cases Numeral.readUInt64 text <;> simp [Except.toOption]

theorem tokenCount_of_written {interval : Interval} {part : String}
    (written : interval.Written part) :
    tokenCount part = some (Interval.total [interval]) := by
  cases written with
  | single number =>
      have whole : Text.cut '-' part = none :=
        Text.cut_eq_none_iff.2 (number.not_mem (by decide) (by decide))
      simp [tokenCount, whole, toOption_readUInt64_eq_some_iff.2 number]
  | @range low high first last lower upper ascending =>
      -- No number holds a dash, so the first dash is the one between the ends.
      have clean : '-' ∉ first.toList :=
        lower.not_mem (by decide) (by decide)
      have ends : Text.cut '-' (first ++ "-" ++ last) = some (first, last) :=
        Text.cut_append clean last
      simp [tokenCount, ends, toOption_readUInt64_eq_some_iff.2 lower,
        toOption_readUInt64_eq_some_iff.2 upper, ascending]

theorem exists_written_of_tokenCount {part : String} {number : Nat}
    (counted : tokenCount part = some number) :
    ∃ interval, Interval.Written interval part := by
  unfold tokenCount at counted
  split at counted
  · simp only [Option.map_eq_some_iff, toOption_readUInt64_eq_some_iff]
      at counted
    rcases counted with ⟨cpu, single, -⟩
    exact ⟨.single cpu, .single single⟩
  · rename_i first last ends
    simp only [Option.bind_eq_bind, Option.bind_eq_some_iff,
      toOption_readUInt64_eq_some_iff] at counted
    rcases counted with ⟨low, lower, high, upper, ordered⟩
    split at ordered
    · rename_i ascending
      rw [(Text.cut_eq_some_iff.1 ends).1]
      exact ⟨.range low high, .range lower upper ascending⟩
    · cases ordered

theorem tokenCount_eq_none_iff {part : String} :
    tokenCount part = none ↔ ∀ interval, ¬ Interval.Written interval part := by
  constructor
  · intro refused interval written
    rw [tokenCount_of_written written] at refused
    cases refused
  · intro unwritten
    by_contra counted
    rcases Option.ne_none_iff_exists'.1 counted with ⟨number, counted⟩
    rcases exists_written_of_tokenCount counted with ⟨interval, written⟩
    exact unwritten interval written

/-! ## Lists -/

/-- The parts of a text: what stands between its commas, once it is trimmed. -/
def parts (text : String) : List String :=
  Text.split ',' (Text.trim text)

theorem countTokens_of_written {list : String} {intervals : List Interval}
    {tokens : List String}
    (written : List.Forall₂ Interval.Written intervals tokens) :
    countTokens list tokens = .ok (Interval.total intervals) := by
  induction written with
  | nil => rfl
  | @cons interval token intervals tokens first rest ih =>
      have both : Interval.total (interval :: intervals) =
          Interval.total [interval] + Interval.total intervals :=
        Interval.total_append [interval] intervals
      rw [both]
      simp [countTokens, tokenCount_of_written first, ih, Except.map]

theorem countTokens_eq_error_iff {list : String} {tokens : List String}
    {error : StatError} :
    countTokens list tokens = .error error ↔
      FirstOffence (Refuses list) tokens error := by
  induction tokens with
  | nil => simpa [countTokens] using not_firstOffence_nil
  | cons token rest ih =>
      have further : (fun before => Refuses list (token :: before)) =
          Refuses list := rfl
      rw [firstOffence_cons_iff, further, ← ih]
      simp only [Refuses, ← tokenCount_eq_none_iff]
      cases counted : tokenCount token with
      | none => simp [countTokens, counted, eq_comm]
      | some number =>
          cases others : countTokens list rest <;>
            simp [countTokens, counted, others, Except.map]

section Count

variable {text : String} {intervals : List Interval}

theorem count_of_written
    (written : List.Forall₂ Interval.Written intervals (parts text)) :
    count text = .ok (UInt64.ofNat (Interval.total intervals)) := by
  have counted := @countTokens_of_written (Text.trim text) _ _ written
  unfold parts at counted
  simp [count, counted, Except.map]

theorem count_eq_error_iff {error : StatError} :
    count text = .error error ↔
      FirstOffence (Refuses (Text.trim text)) (parts text) error := by
  rw [← countTokens_eq_error_iff, count, parts]
  cases countTokens (Text.trim text) (Text.split ',' (Text.trim text)) <;>
    simp [Except.map]

/-- A text is accepted exactly when each of its parts is written for an
interval. -/
theorem exists_count_iff :
    (∃ counted, count text = .ok counted) ↔
      ∀ part ∈ parts text, ∃ interval, Interval.Written interval part := by
  rw [exists_ok_iff_of_refused fun _ => count_eq_error_iff]
  constructor
  · intro clean part member
    by_contra unwritten
    rw [not_exists] at unwritten
    rcases List.append_of_mem member with ⟨before, after, split⟩
    exact clean _ ⟨before, part, after, split, unwritten, rfl⟩
  · rintro written error ⟨before, part, after, split, unwritten, -⟩
    rcases written part (by simp [split]) with ⟨interval, own⟩
    exact unwritten interval own

theorem exists_written_of_count {counted : Counter}
    (accepted : count text = .ok counted) :
    ∃ intervals, List.Forall₂ Interval.Written intervals (parts text) ∧
      counted = UInt64.ofNat (Interval.total intervals) := by
  have each := exists_count_iff.1 ⟨counted, accepted⟩
  rcases exists_forall₂_iff.2 each with ⟨intervals, written⟩
  have flipped := written.flip
  refine ⟨intervals, flipped, ?_⟩
  rw [count_of_written flipped] at accepted
  exact (Except.ok.inj accepted).symm

end Count

/-! ## Lists with a comma between them -/

section Joined

variable {first second : String}

theorem parts_append (first second : String) :
    parts (first ++ "," ++ second) =
      Text.split ',' (String.ofList (Text.trimStartChars first.toList)) ++
        Text.split ',' (Text.trimEnd second) := by
  have trimmed := @Text.trim_append ',' (by decide) first second
  have comma : String.singleton ',' = "," := rfl
  rw [comma] at trimmed
  rw [parts, trimmed, ← comma, Text.split_append]

theorem parts_append_of_trimmed (firstTrimmed : Text.trim first = first)
    (secondTrimmed : Text.trim second = second) :
    parts (first ++ "," ++ second) = parts first ++ parts second := by
  rw [parts_append, Text.trimStartChars_of_trimmed firstTrimmed,
    Text.trimEnd_of_trimmed secondTrimmed, String.ofList_toList, parts, parts,
    firstTrimmed, secondTrimmed]

/-- Two lists count together what each of them counts. -/
theorem count_append {one other : Counter}
    (firstTrimmed : Text.trim first = first)
    (secondTrimmed : Text.trim second = second)
    (firstCounted : count first = .ok one)
    (secondCounted : count second = .ok other) :
    count (first ++ "," ++ second) = .ok (one + other) := by
  rcases exists_written_of_count firstCounted with
    ⟨intervals, written, rfl⟩
  rcases exists_written_of_count secondCounted with
    ⟨others, otherWritten, rfl⟩
  have both : List.Forall₂ Interval.Written (intervals ++ others)
      (parts (first ++ "," ++ second)) := by
    rw [parts_append_of_trimmed firstTrimmed secondTrimmed]
    exact List.rel_append written otherWritten
  rw [count_of_written both, Interval.total_append, UInt64.ofNat_add]

/-- A text of which all parts are written for intervals is one word: a blank
would be in one of the parts. -/
theorem isWord_of_written {text : String}
    (written : ∀ part ∈ Text.split ',' text,
      ∃ interval, Interval.Written interval part) : Text.IsWord text where
  filled := by
    rintro rfl
    rcases written "" (by decide) with ⟨interval, own⟩
    exact own.isWord.filled rfl
  solid := by
    intro char member
    by_cases comma : char = ','
    · subst comma
      decide
    · rcases Text.exists_mem_split member comma with ⟨part, listed, inside⟩
      rcases written part listed with ⟨interval, own⟩
      exact own.isWord.solid char inside

/-- Two texts are accepted together only if both are accepted, whatever blanks
they have at their ends. -/
theorem exists_count_of_append
    (accepted : ∃ both, count (first ++ "," ++ second) = .ok both) :
    (∃ one, count first = .ok one) ∧ ∃ other, count second = .ok other := by
  rw [exists_count_iff, parts_append, List.forall_mem_append] at accepted
  rcases accepted with ⟨firstWritten, secondWritten⟩
  -- Blanks at the comma would be in a part, and those at the ends are trimmed
  -- from each text just as from both together.
  have firstTrimmed := Text.trim_of_isWord (isWord_of_written firstWritten)
  have secondTrimmed := Text.trim_of_isWord (isWord_of_written secondWritten)
  rw [Text.trim_trimStart] at firstTrimmed
  rw [Text.trim_trimEnd] at secondTrimmed
  rw [exists_count_iff, exists_count_iff, parts, firstTrimmed, parts,
    secondTrimmed]
  exact ⟨firstWritten, secondWritten⟩

end Joined

/-- A text is accepted exactly when each of its parts is a number or two
ascending numbers with a dash between them.  It counts its single CPUs and the
differences of its ranges, as long as a counter can hold that, and is else
refused for its first part that is neither.  Two lists count together, in
either order, what both count, and are accepted together only if both are. -/
theorem lists_are_counted :
    (∀ text,
      ((∃ counted, count text = .ok counted) ↔
        ∀ part ∈ parts text, ∃ interval, Interval.Written interval part) ∧
      (∀ intervals,
        List.Forall₂ Interval.Written intervals (parts text) →
        Interval.total intervals < 2 ^ 64 →
        ∃ counted, count text = .ok counted ∧
          counted.toNat = Interval.total intervals) ∧
      ∀ error, count text = .error error ↔
        FirstOffence (Refuses (Text.trim text)) (parts text) error) ∧
    ∀ first second,
      (∀ one other, Text.trim first = first → Text.trim second = second →
        count first = .ok one → count second = .ok other →
        one.toNat + other.toNat < 2 ^ 64 →
        ∃ both, count (first ++ "," ++ second) = .ok both ∧
          count (second ++ "," ++ first) = .ok both ∧
          both.toNat = one.toNat + other.toNat) ∧
      ((∃ both, count (first ++ "," ++ second) = .ok both) →
        (∃ one, count first = .ok one) ∧
          ∃ other, count second = .ok other) := by
  refine ⟨fun text => ⟨exists_count_iff, ?_, fun _ => count_eq_error_iff⟩,
    fun first second => ⟨?_, exists_count_of_append⟩⟩
  · intro intervals written fits
    exact ⟨_, count_of_written written, UInt64.toNat_ofNat_of_lt' fits⟩
  · intro one other firstTrimmed secondTrimmed firstCounted secondCounted fits
    have reversed := count_append secondTrimmed firstTrimmed secondCounted
      firstCounted
    rw [UInt64.add_comm] at reversed
    refine ⟨one + other, count_append firstTrimmed secondTrimmed firstCounted
      secondCounted, reversed, ?_⟩
    rw [UInt64.toNat_add, Nat.mod_eq_of_lt fits]

/-- Lists with blanks at the ends, a plus sign and a leading zero, and a text
with two parts that are neither a number nor a range. -/
theorem signedLists_are_counted :
    (∃ counted, count " 0-4,8,+10,12-016\n" = .ok counted ∧
        counted.toNat = 10) ∧
      count "0-3, 4,1--2" = .error (.invalidCpuset " 4" "0-3, 4,1--2") ∧
      ∃ both, count ("0-4,8" ++ "," ++ "+10,12-016") = .ok both ∧
        count ("+10,12-016" ++ "," ++ "0-4,8") = .ok both ∧
        both.toNat = 10 := by
  rcases lists_are_counted with ⟨each, joined⟩
  rcases each " 0-4,8,+10,12-016\n" with ⟨-, counts, -⟩
  rcases each "0-3, 4,1--2" with ⟨-, -, refused⟩
  rcases joined "0-4,8" "+10,12-016" with ⟨sums, -⟩
  have reads (text : String) (number : Counter)
      (read : Numeral.readUInt64 text = .ok number) :
      Numeral.Denotes text number.toNat :=
    Numeral.readUInt64_eq_ok_iff.1 read
  have written : List.Forall₂ Interval.Written
      [.range 0 4, .single 8, .single 10, .range 12 16]
      (parts " 0-4,8,+10,12-016\n") := by
    have split : parts " 0-4,8,+10,12-016\n" =
        ["0" ++ "-" ++ "4", "8", "+10", "12" ++ "-" ++ "016"] := by
      decide +kernel
    rw [split]
    exact .cons (.range (reads "0" 0 (by decide)) (reads "4" 4 (by decide))
        (by decide))
      (.cons (.single (reads "8" 8 (by decide)))
        (.cons (.single (reads "+10" 10 (by decide)))
          (.cons (.range (reads "12" 12 (by decide))
            (reads "016" 16 (by decide)) (by decide)) .nil)))
  refine ⟨counts _ written (by decide), (refused _).2 ?_,
    sums 5 5 (by decide +kernel) (by decide +kernel) (by decide +kernel)
      (by decide +kernel) (by decide)⟩
  have split : parts "0-3, 4,1--2" = ["0-3"] ++ " 4" :: ["1--2"] := by
    decide +kernel
  refine ⟨_, _, _, split, ⟨?_, by decide +kernel⟩, ?_⟩
  · exact tokenCount_eq_none_iff.1 (by decide +kernel)
  · rintro error ⟨before, part, after, first, unwritten, -⟩
    have member : part ∈ ["0-3"] := by simp [first]
    obtain rfl := List.mem_singleton.1 member
    exact unwritten _ (.range (reads "0" 0 (by decide))
      (reads "3" 3 (by decide)) (by decide))

end CgroupMeter.Cpuset
