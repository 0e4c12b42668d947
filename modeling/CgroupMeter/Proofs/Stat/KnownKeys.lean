import CgroupMeter.Proofs.Stat.Offence
import CgroupMeter.Proofs.Text.Lines
import CgroupMeter.Stat.Cpu
import CgroupMeter.Stat.Memory
import Mathlib.Data.List.Pairwise

/-!
# What a key/value file is read as

A line gives a known key a value when the key is its first word and the value
its second.  Where known keys may not be repeated, a file is read when all
values that are given are numbers and no key is given one on two lines.  Any
other file is refused for the first line that gives no number, or a second one
to a key.

A file that is read makes of the initial value what its lines tell one after
another.  Where the handlers set distinct fields, each field then has the value
of its key, in whatever order the lines stand, and keeps its initial value if
its key is given none.
-/

namespace CgroupMeter

namespace KeyValueFormat

variable {keys lines earlier : List String} {line key value : String}

/-- A line gives a known key a value, which need not be a number. -/
def Gives (keys : List String) (line key value : String) : Prop :=
  key ∈ keys ∧ ∃ further, Text.words line = key :: value :: further

/-- A known key has a value on one of some lines. -/
def GivenOn (keys lines : List String) (key : String) : Prop :=
  ∃ line ∈ lines, ∃ value, Gives keys line key value

/-- There is no known key that two lines both give a value. -/
def NoCommonKey (keys : List String) (line other : String) : Prop :=
  ∀ key value again, Gives keys line key value → ¬ Gives keys other key again

instance (keys : List String) : Std.Symm (NoCommonKey keys) where
  symm _ _ apart key value again gives given :=
    apart key again value given gives

/-- Lines that give nothing but numbers, and no key one on two lines. -/
structure Acceptable (keys lines : List String) : Prop where
  numbers : ∀ line ∈ lines, ∀ key value, Gives keys line key value →
    ∃ counter, Numeral.readUInt64 value = .ok counter
  once : lines.Pairwise (NoCommonKey keys)

/-- The value that lines give a key, or another if they give it none. -/
def Stands (keys lines : List String) (key : String)
    (absent counter : Counter) : Prop :=
  (∃ line ∈ lines, ∃ value, Gives keys line key value ∧
      Numeral.readUInt64 value = .ok counter) ∨
    ¬ GivenOn keys lines key ∧ counter = absent

/-- What a line is refused for when it stands after others. -/
inductive Offends (keys earlier : List String) (line : String) :
    StatError → Prop where
  | notNumber {key value : String} {cause : NumeralError}
      (gives : Gives keys line key value)
      (refused : Numeral.readUInt64 value = .error cause) :
      Offends keys earlier line
        (.invalidKeyValue key value (earlier.length + 1) cause)
  | repeated {key value : String} {counter : Counter}
      (gives : Gives keys line key value)
      (number : Numeral.readUInt64 value = .ok counter)
      (before : GivenOn keys earlier key) :
      Offends keys earlier line (.duplicateField key (earlier.length + 1))

theorem Gives.unique {other again : String} (gives : Gives keys line key value)
    (gives' : Gives keys line other again) : other = key ∧ again = value := by
  rcases gives with ⟨-, further, words⟩
  rcases gives' with ⟨-, others, same⟩
  cases same.symm.trans words
  exact ⟨rfl, rfl⟩

theorem Offends.unique {error other : StatError}
    (offends : Offends keys earlier line error)
    (again : Offends keys earlier line other) : other = error := by
  cases offends with
  | notNumber gives refused =>
      cases again with
      | notNumber given cause =>
          obtain ⟨rfl, rfl⟩ := gives.unique given
          cases refused.symm.trans cause
          rfl
      | repeated given number =>
          obtain ⟨rfl, rfl⟩ := gives.unique given
          cases refused.symm.trans number
  | repeated gives number =>
      cases again with
      | notNumber given cause =>
          obtain ⟨rfl, rfl⟩ := gives.unique given
          cases number.symm.trans cause
      | repeated given =>
          obtain ⟨rfl, -⟩ := gives.unique given
          rfl

theorem givenOn_append_singleton_iff :
    GivenOn keys (earlier ++ [line]) key ↔
      GivenOn keys earlier key ∨ ∃ value, Gives keys line key value := by
  simp [GivenOn, or_and_right, exists_or]

/-- No line offends exactly when all values are numbers and no key is given
one on two lines. -/
theorem acceptable_iff :
    Acceptable keys lines ↔ ∀ error, ¬ Offence (Offends keys) lines error := by
  constructor
  · rintro acceptable error ⟨before, line, after, rfl, offends⟩
    cases offends with
    | notNumber gives refused =>
        rcases acceptable.numbers line (by simp) _ _ gives with
          ⟨counter, number⟩
        cases number.symm.trans refused
    | repeated gives number repeated =>
        rcases repeated with ⟨earlier, member, value, given⟩
        have apart := (List.pairwise_append.1 acceptable.once).2.2 earlier
          member line List.mem_cons_self
        exact apart _ _ _ given gives
  · intro clean
    constructor
    · intro line member key value gives
      rcases List.append_of_mem member with ⟨before, after, rfl⟩
      cases number : Numeral.readUInt64 value with
      | ok counter => exact ⟨counter, rfl⟩
      | error cause =>
          exact absurd ⟨before, line, after, rfl, .notNumber gives number⟩
            (clean _)
    · rw [List.pairwise_iff_getElem]
      intro first second firstIn secondIn less key value again gives given
      have split : lines = lines.take second ++
          lines[second] :: lines.drop (second + 1) := by
        rw [← List.drop_eq_getElem_cons, List.take_append_drop]
      have before : GivenOn keys (lines.take second) key :=
        ⟨lines[first], List.mem_take_iff_getElem.2 ⟨first, by omega, rfl⟩,
          value, gives⟩
      cases number : Numeral.readUInt64 again with
      | ok counter =>
          exact clean _ ⟨_, _, _, split, .repeated given number before⟩
      | error cause =>
          exact clean _ ⟨_, _, _, split, .notNumber given number⟩

theorem Acceptable.perm {others : List String}
    (acceptable : Acceptable keys lines) (order : lines.Perm others) :
    Acceptable keys others where
  numbers line member := acceptable.numbers line (order.mem_iff.2 member)
  once := (order.pairwise_iff symm).1 acceptable.once

section Format

variable {α β : Type} (format : KeyValueFormat α)

/-! ## What lines tell -/

/-- What a line tells: a known key and its value, where that is a number. -/
def told? (line : String) : Option (String × Counter) :=
  match format.relevant? line with
  | some (key, value, _) =>
      (Numeral.readUInt64 value).toOption.map fun counter => (key, counter)
  | none => none

/-- Take over the value of a key. -/
def take (stat : α) (told : String × Counter) : α :=
  match format.handlers.lookup told.1 with
  | some handler => handler stat told.2
  | none => stat

/-- Take over what some lines tell, one after another. -/
def takeLines (stat : α) (lines : List String) : α :=
  (lines.filterMap format.told?).foldl format.take stat

variable {format}

theorem lookup_eq_some_of_mem {handler : α → Counter → α}
    (member : (key, handler) ∈ format.handlers) :
    format.handlers.lookup key = some handler := by
  rcases List.append_of_mem member with ⟨before, after, split⟩
  refine List.lookup_eq_some_iff.2 ⟨before, after, split, ?_⟩
  have distinct := format.distinct
  rw [split, List.map_append, List.nodup_append] at distinct
  rintro ⟨other, earlier⟩ inside
  have different := distinct.2.2 other
    (List.mem_map_of_mem (f := Prod.fst) inside) key (by simp)
  simpa using Ne.symm different

theorem mem_handlers_iff {handler : α → Counter → α} :
    (key, handler) ∈ format.handlers ↔
      format.handlers.lookup key = some handler := by
  constructor
  · exact lookup_eq_some_of_mem
  · intro found
    rcases List.lookup_eq_some_iff.1 found with ⟨before, after, split, -⟩
    simp [split]

theorem mem_keys_iff :
    key ∈ format.keys ↔ ∃ handler, format.handlers.lookup key = some handler := by
  simp only [keys, List.mem_map, Prod.exists, exists_and_right,
    exists_eq_right, mem_handlers_iff]

theorem relevant?_eq_some_iff {handler : α → Counter → α} :
    format.relevant? line = some (key, value, handler) ↔
      Gives format.keys line key value ∧
        format.handlers.lookup key = some handler := by
  unfold relevant? Gives
  split
  · rename_i first second rest words
    simp only [Option.map_eq_some_iff, Prod.mk.injEq, words, List.cons.injEq,
      mem_keys_iff]
    constructor
    · rintro ⟨own, found, rfl, rfl, rfl⟩
      exact ⟨⟨⟨own, found⟩, rest, rfl, rfl, rfl⟩, found⟩
    · rintro ⟨⟨-, further, rfl, rfl, rfl⟩, found⟩
      exact ⟨handler, found, rfl, rfl, rfl⟩
  · rename_i short
    simp only [reduceCtorEq, false_iff]
    rintro ⟨⟨-, further, words⟩, -⟩
    exact short _ _ _ words

theorem relevant?_eq_none_iff :
    format.relevant? line = none ↔
      ∀ key value, ¬ Gives format.keys line key value := by
  constructor
  · intro skipped key value gives
    rcases mem_keys_iff.1 gives.1 with ⟨handler, found⟩
    rw [relevant?_eq_some_iff.2 ⟨gives, found⟩] at skipped
    cases skipped
  · intro silent
    by_contra relevant
    rcases Option.ne_none_iff_exists'.1 relevant with
      ⟨⟨key, value, handler⟩, relevant⟩
    exact silent key value (relevant?_eq_some_iff.1 relevant).1

theorem told?_eq_some_iff {counter : Counter} :
    format.told? line = some (key, counter) ↔
      ∃ value, Gives format.keys line key value ∧
        Numeral.readUInt64 value = .ok counter := by
  unfold told?
  split
  · rename_i own value handler relevant
    have gives := (relevant?_eq_some_iff.1 relevant).1
    constructor
    · intro told
      cases number : Numeral.readUInt64 value with
      | error cause => simp [number, Except.toOption] at told
      | ok read =>
          simp only [number, Except.toOption, Option.map_some,
            Option.some.injEq, Prod.mk.injEq] at told
          rcases told with ⟨rfl, rfl⟩
          exact ⟨value, gives, number⟩
    · rintro ⟨other, given, number⟩
      obtain ⟨rfl, rfl⟩ := gives.unique given
      simp [number, Except.toOption]
  · rename_i skipped
    simp only [reduceCtorEq, false_iff, not_exists, not_and]
    intro value gives
    exact absurd gives (relevant?_eq_none_iff.1 skipped key value)

theorem takeLines_cons (stat : α) (line : String) (rest : List String) :
    format.takeLines stat (line :: rest) =
      format.takeLines (format.takeLines stat [line]) rest := by
  cases told : format.told? line <;> simp [takeLines, told]

theorem takeLines_of_silent {stat : α}
    (silent : ∀ key value, ¬ Gives format.keys line key value) :
    format.takeLines stat [line] = stat := by
  simp [takeLines, told?, relevant?_eq_none_iff.2 silent]

theorem takeLines_of_told {stat : α} {counter : Counter}
    (told : format.told? line = some (key, counter)) :
    format.takeLines stat [line] = format.take stat (key, counter) := by
  simp [takeLines, told]

/-! ## Reading the lines in turn -/

/-- A line is what the scan is refused for, or the scan takes over what it
tells and goes on behind it. -/
theorem scan_cons_cases (once : format.allowsRepeats = false)
    {seen : List String} (before : ∀ key, key ∈ seen ↔
      GivenOn format.keys earlier key) (stat : α) (line : String)
    (rest : List String) :
    (∃ error, Offends format.keys earlier line error ∧
        format.scan stat seen (earlier.length + 1) (line :: rest) =
          .error error) ∨
      ∃ after, (∀ error, ¬ Offends format.keys earlier line error) ∧
        (∀ key, key ∈ after ↔ GivenOn format.keys (earlier ++ [line]) key) ∧
        format.scan stat seen (earlier.length + 1) (line :: rest) =
          format.scan (format.takeLines stat [line]) after
            ((earlier ++ [line]).length + 1) rest := by
  rw [List.length_append, List.length_singleton]
  simp only [givenOn_append_singleton_iff, ← before]
  cases relevant : format.relevant? line with
  | none =>
      have silent := relevant?_eq_none_iff.1 relevant
      refine Or.inr ⟨seen, ?_, by simp [silent],
        by rw [scan, relevant, takeLines_of_silent silent]⟩
      rintro error (⟨gives, -⟩ | ⟨gives, -, -⟩)
      · exact silent _ _ gives
      · exact silent _ _ gives
  | some given =>
      rcases given with ⟨key, value, handler⟩
      rcases relevant?_eq_some_iff.1 relevant with ⟨gives, found⟩
      cases number : Numeral.readUInt64 value with
      | error cause =>
          exact Or.inl ⟨_, .notNumber gives number,
            by rw [scan, relevant]; simp [number]⟩
      | ok counter =>
          by_cases repeated : key ∈ seen
          · exact Or.inl ⟨_, .repeated gives number ((before key).1 repeated),
              by rw [scan, relevant]; simp [number, once, repeated]⟩
          · have told := told?_eq_some_iff.2 ⟨value, gives, number⟩
            refine Or.inr ⟨key :: seen, ?_, ?_, ?_⟩
            · rintro error (⟨given, refused⟩ | ⟨given, -, again⟩)
              · obtain ⟨rfl, rfl⟩ := gives.unique given
                cases number.symm.trans refused
              · obtain ⟨rfl, -⟩ := gives.unique given
                exact repeated ((before _).2 again)
            · intro other
              rw [List.mem_cons, or_comm]
              refine or_congr_right ⟨?_, ?_⟩
              · rintro rfl
                exact ⟨value, gives⟩
              · rintro ⟨again, given⟩
                exact (gives.unique given).1
            · rw [scan, relevant, takeLines_of_told told, take, found]
              simp [number, once, repeated]

/-- A scan that comes to the end has taken over what all lines tell. -/
theorem scan_eq_takeLines (once : format.allowsRepeats = false)
    {seen : List String} (before : ∀ key, key ∈ seen ↔
      GivenOn format.keys earlier key) {stat all : α}
    (scanned : format.scan stat seen (earlier.length + 1) lines = .ok all) :
    all = format.takeLines stat lines := by
  induction lines generalizing earlier seen stat with
  | nil =>
      cases scanned
      rfl
  | cons line rest ih =>
      rcases scan_cons_cases once before stat line rest with
        ⟨error, -, refused⟩ | ⟨after, -, others, goesOn⟩
      · cases refused.symm.trans scanned
      · rw [takeLines_cons]
        exact ih others (goesOn.symm.trans scanned)

/-- A scan is refused for the first line that offends. -/
theorem scan_eq_error_iff (once : format.allowsRepeats = false)
    {seen : List String} (before : ∀ key, key ∈ seen ↔
      GivenOn format.keys earlier key) {stat : α} {error : StatError} :
    format.scan stat seen (earlier.length + 1) lines = .error error ↔
      FirstOffence (fun before => Offends format.keys (earlier ++ before))
        lines error := by
  induction lines generalizing earlier seen stat with
  | nil => simpa [scan] using not_firstOffence_nil
  | cons line rest ih =>
      rw [firstOffence_cons_iff, List.append_nil]
      rcases scan_cons_cases once before stat line rest with
        ⟨first, offends, refused⟩ | ⟨after, clean, others, goesOn⟩
      · rw [refused, Except.error.injEq]
        constructor
        · rintro rfl
          exact Or.inl offends
        · rintro (again | ⟨clean, -⟩)
          · exact (offends.unique again).symm
          · exact absurd offends (clean first)
      · rw [goesOn, ih others]
        simp [clean]

theorem mem_nil_iff_givenOn (key : String) :
    key ∈ ([] : List String) ↔ GivenOn format.keys [] key := by
  simp [GivenOn]

theorem readTexts_eq_error_iff (once : format.allowsRepeats = false)
    {error : StatError} :
    format.readTexts lines = .error error ↔
      FirstOffence (Offends format.keys) lines error :=
  scan_eq_error_iff once mem_nil_iff_givenOn

theorem readTexts_eq_ok_iff_acceptable (once : format.allowsRepeats = false) :
    (∃ stat, format.readTexts lines = .ok stat) ↔
      Acceptable format.keys lines := by
  rw [acceptable_iff]
  exact exists_ok_iff_of_refused fun _ => readTexts_eq_error_iff once

/-- Acceptable lines are read as what they make of the initial value. -/
theorem readTexts_eq_ok_iff (once : format.allowsRepeats = false) {stat : α} :
    format.readTexts lines = .ok stat ↔
      Acceptable format.keys lines ∧
        stat = format.takeLines format.initial lines := by
  have taken {all : α} (read : format.readTexts lines = .ok all) :
      all = format.takeLines format.initial lines :=
    scan_eq_takeLines once mem_nil_iff_givenOn read
  rw [← readTexts_eq_ok_iff_acceptable once]
  constructor
  · intro read
    exact ⟨⟨stat, read⟩, taken read⟩
  · rintro ⟨⟨all, read⟩, rfl⟩
    rw [← taken read, read]

/-! ## Handlers that set distinct fields -/

/-- The handlers of a format set distinct fields.  A value is made up of one
field for each known key and of a rest.  A handler gives its own field the
value that it is given, and leaves the other fields and the rest alone. -/
structure SetsFields (format : KeyValueFormat α)
    (field : String → α → Counter) (rest : α → β) : Prop where
  own : ∀ known ∈ format.handlers, ∀ stat counter,
    field known.1 (known.2 stat counter) = counter
  others : ∀ known ∈ format.handlers, ∀ key ∈ format.keys, key ≠ known.1 →
    ∀ stat counter, field key (known.2 stat counter) = field key stat
  keeps : ∀ known ∈ format.handlers, ∀ stat counter,
    rest (known.2 stat counter) = rest stat
  whole : ∀ stat other, (∀ key ∈ format.keys, field key stat = field key other) →
    rest stat = rest other → stat = other

/-- The values of two keys are taken over in either order alike. -/
def Exchanges (format : KeyValueFormat α) : Prop :=
  ∀ first second : String × Counter, first.1 ≠ second.1 → ∀ stat,
    format.take (format.take stat first) second =
      format.take (format.take stat second) first

/-- The order in which values of distinct keys are taken over does not
matter. -/
theorem foldl_take_of_perm (exchanges : format.Exchanges)
    {told others : List (String × Counter)}
    (apart : told.Pairwise fun first second => first.1 ≠ second.1)
    (order : others.Perm told) (stat : α) :
    others.foldl format.take stat = told.foldl format.take stat := by
  refine (order.symm.foldl_eq' ?_ stat).symm
  intro first member second inside stat
  by_cases same : first = second
  · rw [same]
  · have symmetric : Std.Symm fun first second : String × Counter =>
        first.1 ≠ second.1 := ⟨fun _ _ => Ne.symm⟩
    exact exchanges first second (apart.forall member inside same) stat

theorem takeLines_of_perm (exchanges : format.Exchanges)
    (acceptable : Acceptable format.keys lines) {others : List String}
    (order : others.Perm lines) (stat : α) :
    format.takeLines stat others = format.takeLines stat lines := by
  refine foldl_take_of_perm exchanges ?_ (order.filterMap format.told?) stat
  refine List.pairwise_filterMap.2 (acceptable.once.imp ?_)
  rintro line other apart ⟨key, counter⟩ told ⟨again, second⟩ toldToo rfl
  rcases told?_eq_some_iff.1 told with ⟨value, gives, -⟩
  rcases told?_eq_some_iff.1 toldToo with ⟨text, given, -⟩
  exact apart key value text gives given

variable {field : String → α → Counter} {rest : α → β}

namespace SetsFields

variable (sets : format.SetsFields field rest)

include sets

theorem field_take (known : key ∈ format.keys) (counter : Counter) (stat : α) :
    field key (format.take stat (key, counter)) = counter := by
  rcases mem_keys_iff.1 known with ⟨handler, found⟩
  rw [take, found]
  exact sets.own _ (mem_handlers_iff.2 found) _ _

theorem field_take_of_ne {other : String} (known : key ∈ format.keys)
    (different : key ≠ other) (counter : Counter) (stat : α) :
    field key (format.take stat (other, counter)) = field key stat := by
  unfold take
  split
  · rename_i handler found
    exact sets.others _ (mem_handlers_iff.2 found) key known different _ _
  · rfl

theorem rest_take (told : String × Counter) (stat : α) :
    rest (format.take stat told) = rest stat := by
  unfold take
  split
  · rename_i handler found
    exact sets.keeps _ (mem_handlers_iff.2 found) _ _
  · rfl

theorem exchanges : format.Exchanges := by
  rintro ⟨first, one⟩ ⟨second, two⟩ different stat
  refine sets.whole _ _ (fun key known => ?_) (by simp only [sets.rest_take])
  by_cases isFirst : key = first
  · subst isFirst
    rw [sets.field_take_of_ne known different, sets.field_take known,
      sets.field_take known]
  · by_cases isSecond : key = second
    · subst isSecond
      rw [sets.field_take known, sets.field_take_of_ne known isFirst,
        sets.field_take known]
    · simp only [sets.field_take_of_ne known isFirst,
        sets.field_take_of_ne known isSecond]

theorem rest_takeLines (stat : α) (lines : List String) :
    rest (format.takeLines stat lines) = rest stat := by
  unfold takeLines
  induction lines.filterMap format.told? generalizing stat with
  | nil => rfl
  | cons told others ih => rw [List.foldl_cons, ih, sets.rest_take]

/-- A line that gives a key no value leaves its field as it was. -/
theorem field_takeLines_of_silent (known : key ∈ format.keys)
    (silent : ∀ value, ¬ Gives format.keys line key value) (stat : α) :
    field key (format.takeLines stat [line]) = field key stat := by
  cases told : format.told? line with
  | none => simp [takeLines, told]
  | some pair =>
      rw [takeLines_of_told told]
      refine sets.field_take_of_ne known ?_ _ stat
      rintro rfl
      rcases told?_eq_some_iff.1 told with ⟨value, gives, -⟩
      exact silent value gives

/-- Lines that give nothing but numbers leave a field with the value of its
key, or as it was. -/
theorem stands_takeLines (known : key ∈ format.keys)
    (numbers : ∀ line ∈ lines, ∀ key value,
      Gives format.keys line key value →
        ∃ counter, Numeral.readUInt64 value = .ok counter) (stat : α) :
    Stands format.keys lines key (field key stat)
      (field key (format.takeLines stat lines)) := by
  -- Each line changes what the field is before the rest of them.
  induction lines generalizing stat with
  | nil => exact Or.inr ⟨by simp [GivenOn], rfl⟩
  | cons line rest ih =>
      rw [takeLines_cons]
      rcases ih (fun other member => numbers other
          (List.mem_cons_of_mem _ member)) (format.takeLines stat [line]) with
        ⟨other, member, given⟩ | ⟨silent, kept⟩
      · exact Or.inl ⟨other, List.mem_cons_of_mem _ member, given⟩
      · rw [kept]
        by_cases gives : ∃ value, Gives format.keys line key value
        · rcases gives with ⟨value, gives⟩
          rcases numbers line List.mem_cons_self key value gives with
            ⟨counter, number⟩
          have told := told?_eq_some_iff.2 ⟨value, gives, number⟩
          rw [takeLines_of_told told, sets.field_take known]
          exact Or.inl ⟨line, List.mem_cons_self, value, gives, number⟩
        · refine Or.inr ⟨?_, sets.field_takeLines_of_silent known
            (not_exists.1 gives) stat⟩
          rintro ⟨other, member, given⟩
          rcases List.mem_cons.1 member with rfl | later
          · exact gives given
          · exact silent ⟨other, later, given⟩

end SetsFields

/-! ## Files -/

/-- The order of the lines does not matter. -/
theorem toOption_readTexts_of_perm (once : format.allowsRepeats = false)
    (exchanges : format.Exchanges) {others : List String}
    (order : others.Perm lines) :
    (format.readTexts others).toOption = (format.readTexts lines).toOption := by
  have acceptable_congr : Acceptable format.keys others ↔
      Acceptable format.keys lines :=
    ⟨fun acceptable => acceptable.perm order,
      fun acceptable => acceptable.perm order.symm⟩
  ext stat
  simp only [toOption_eq_some_iff, readTexts_eq_ok_iff once, acceptable_congr]
  refine and_congr_right fun acceptable => ?_
  rw [takeLines_of_perm exchanges acceptable order]

theorem read_text (text : String) :
    format.read (.ofText text) =
      (format.readTexts (Text.linesOf text)).mapError .parse := by
  rw [read, Lines.ofText_eq, Lines.complete_of_whole]

/-- All fields are zero at first. -/
def StartsAtZero (format : KeyValueFormat α) (field : String → α → Counter) :
    Prop :=
  ∀ key ∈ format.keys, field key format.initial = 0

end Format

/-- A text is read exactly when its lines are acceptable.  Each field then has
the value that stands for its key, and keeps its initial value where none does,
which is zero for a format that starts at zero; the order of the lines does not
matter.  Any other text is refused for the first line that offends. -/
theorem read_of_text {α β : Type} (format : KeyValueFormat α)
    (once : format.allowsRepeats = false) {field : String → α → Counter}
    {rest : α → β} (sets : format.SetsFields field rest) (text : String) :
    ((∃ stat, format.read (.ofText text) = .ok stat) ↔
        Acceptable format.keys (Text.linesOf text)) ∧
      (∀ stat, format.read (.ofText text) = .ok stat →
        rest stat = rest format.initial ∧
        (∀ key ∈ format.keys, Stands format.keys (Text.linesOf text) key
          (field key format.initial) (field key stat)) ∧
        (format.StartsAtZero field →
          ∀ key ∈ format.keys, Stands format.keys (Text.linesOf text) key 0
            (field key stat))) ∧
      (∀ other : String, (Text.linesOf other).Perm (Text.linesOf text) →
        (format.read (.ofText other)).toOption =
          (format.read (.ofText text)).toOption) ∧
      ∀ error, format.read (.ofText text) = .error error ↔
        ∃ offence, error = .parse offence ∧
          FirstOffence (Offends format.keys) (Text.linesOf text) offence := by
  simp only [read_text, mapError_parse_eq_ok_iff, mapError_parse_eq_error_iff,
    readTexts_eq_error_iff once]
  refine ⟨readTexts_eq_ok_iff_acceptable once, ?_, ?_, fun _ => trivial⟩
  · intro stat read
    rcases (readTexts_eq_ok_iff once).1 read with ⟨acceptable, rfl⟩
    have stands : ∀ key ∈ format.keys, Stands format.keys (Text.linesOf text)
        key (field key format.initial) (field key
          (format.takeLines format.initial (Text.linesOf text))) :=
      fun key known => sets.stands_takeLines known acceptable.numbers _
    refine ⟨sets.rest_takeLines _ _, stands, ?_⟩
    intro zero key known
    rw [← zero key known]
    exact stands key known
  · intro other order
    rw [toOption_mapError, toOption_mapError]
    exact toOption_readTexts_of_perm once sets.exchanges order

example : KeyValueFormat.read ⟨(5 : Counter), [("foo", fun _ value => value)],
    by decide, false⟩ (.ofText "bar 8") = .ok 5 := by
  decide +kernel

end KeyValueFormat

/-! ## The formats of the accounting files -/

section Formats

open KeyValueFormat

/-- The field that a key sets. -/
def UnifiedCpuStat.fieldOf (key : String) (stat : UnifiedCpuStat) : Counter :=
  match key with
  | "usage_usec" => stat.usageMicros
  | "user_usec" => stat.userMicros
  | "system_usec" => stat.systemMicros
  | "nr_periods" => stat.periods
  | "nr_throttled" => stat.throttledPeriods
  | _ => stat.throttledMicros

/-- The field that a key sets. -/
def ThrottlingStat.fieldOf (key : String) (stat : ThrottlingStat) : Counter :=
  match key with
  | "nr_periods" => stat.periods
  | "nr_throttled" => stat.throttledPeriods
  | _ => stat.throttledNanos

/-- The field that a key sets. -/
def CpuTicksStat.fieldOf (key : String) (stat : CpuTicksStat) : Counter :=
  if key = "user" then stat.user else stat.system

/-- The field that a key sets. -/
def UnifiedMemoryStat.fieldOf (key : String) (stat : UnifiedMemoryStat) :
    Counter :=
  match key with
  | "anon" => stat.anonymous
  | "file" => stat.file
  | "kernel_stack" => stat.kernelStack
  | _ => stat.slab

/-- The field that a key sets. -/
def ControllerMemoryStat.fieldOf (key : String) (stat : ControllerMemoryStat) :
    Counter :=
  if key = "rss" then stat.anonymous else stat.cache

theorem UnifiedCpuStat.setsFields_format :
    format.SetsFields fieldOf fun _ => () where
  own := by simp [format, fieldOf]
  others := by simp [format, keys, fieldOf]
  keeps := by simp
  whole := by rintro ⟨⟩ ⟨⟩; simp [format, keys, fieldOf]

theorem ThrottlingStat.setsFields_format :
    format.SetsFields fieldOf fun _ => () where
  own := by simp [format, fieldOf]
  others := by simp [format, keys, fieldOf]
  keeps := by simp
  whole := by rintro ⟨⟩ ⟨⟩; simp [format, keys, fieldOf]

theorem CpuTicksStat.setsFields_format :
    format.SetsFields fieldOf fun _ => () where
  own := by simp [format, fieldOf]
  others := by simp [format, keys, fieldOf]
  keeps := by simp
  whole := by rintro ⟨⟩ ⟨⟩; simp [format, keys, fieldOf]

theorem UnifiedMemoryStat.setsFields_format :
    format.SetsFields fieldOf fun _ => () where
  own := by simp [format, fieldOf]
  others := by simp [format, keys, fieldOf]
  keeps := by simp
  whole := by rintro ⟨⟩ ⟨⟩; simp [format, keys, fieldOf]

theorem ControllerMemoryStat.setsFields_format :
    format.SetsFields fieldOf fun _ => () where
  own := by simp [format, fieldOf]
  others := by simp [format, keys, fieldOf]
  keeps := by simp
  whole := by rintro ⟨⟩ ⟨⟩; simp [format, keys, fieldOf]

theorem formats_startAtZero :
    UnifiedCpuStat.format.StartsAtZero UnifiedCpuStat.fieldOf ∧
      ThrottlingStat.format.StartsAtZero ThrottlingStat.fieldOf ∧
      CpuTicksStat.format.StartsAtZero CpuTicksStat.fieldOf ∧
      UnifiedMemoryStat.format.StartsAtZero UnifiedMemoryStat.fieldOf ∧
      ControllerMemoryStat.format.StartsAtZero
        ControllerMemoryStat.fieldOf := by
  simp [StartsAtZero, keys, UnifiedCpuStat.format, UnifiedCpuStat.fieldOf,
    ThrottlingStat.format, ThrottlingStat.fieldOf, CpuTicksStat.format,
    CpuTicksStat.fieldOf, UnifiedMemoryStat.format, UnifiedMemoryStat.fieldOf,
    ControllerMemoryStat.format, ControllerMemoryStat.fieldOf]

/-- A key without a value does not count, and neither does a third word; a
value that is no number counts although its key stands there again. -/
theorem UnifiedCpuStat.periods_are_given_once :
    format.SetsFields fieldOf (fun _ => ()) ∧ format.StartsAtZero fieldOf ∧
      Acceptable format.keys
        (Text.linesOf "nr_periods\nnr_periods +4 5\nuser_usec 2") ∧
      Stands format.keys
        (Text.linesOf "nr_periods\nnr_periods +4 5\nuser_usec 2")
        "nr_periods" 0 4 ∧
      Stands format.keys
        (Text.linesOf "nr_periods\nnr_periods +4 5\nuser_usec 2")
        "nr_throttled" 0 0 ∧
      FirstOffence (Offends format.keys)
        (Text.linesOf "nr_periods 4\n\nnr_periods x\nnr_periods 5\n")
        (.invalidKeyValue "nr_periods" "x" 3 .invalidDigit) := by
  have sets := setsFields_format
  have zero := formats_startAtZero.1
  have read : format.read (.ofText
      "nr_periods\nnr_periods +4 5\nuser_usec 2") =
        .ok ⟨0, 2, 0, 4, 0, 0⟩ := by
    decide +kernel
  have refused : format.read (.ofText
      "nr_periods 4\n\nnr_periods x\nnr_periods 5\n") =
        .error (.parse (.invalidKeyValue "nr_periods" "x" 3 .invalidDigit)) := by
    decide +kernel
  rcases format.read_of_text rfl sets
    "nr_periods\nnr_periods +4 5\nuser_usec 2" with ⟨accepted, fields, -, -⟩
  rcases format.read_of_text rfl sets
    "nr_periods 4\n\nnr_periods x\nnr_periods 5\n" with ⟨-, -, -, refusals⟩
  rcases (refusals _).1 refused with ⟨offence, same, first⟩
  cases same
  have stands := (fields _ read).2.2 zero
  exact ⟨sets, zero, accepted.1 ⟨_, read⟩, stands "nr_periods" (by decide),
    stands "nr_throttled" (by decide), first⟩

end Formats

end CgroupMeter
