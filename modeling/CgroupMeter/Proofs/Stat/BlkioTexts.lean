import CgroupMeter.Metrics.Blkio
import CgroupMeter.Proofs.Counter
import CgroupMeter.Proofs.Stat.Offence
import CgroupMeter.Proofs.Text.Lines
import CgroupMeter.Proofs.Text.Numeral

/-!
# Block I/O counts from texts to totals

The two layouts write block I/O counts with different tolerance.  A file of the
`blkio` controller is refused for any line that is neither blank, nor a line of
totals, nor a count.  In `io.stat`, whatever is no count of a known key is
passed over, and only a known key with a value that is no number is refused.

Either file gives the counts in the order in which they stand.  Two files put
together give the counts of both, and are refused for the first fault of
either.  The metrics are the exact sums of the counts, as far as a counter can
hold them, and do not depend on any order.
-/

namespace CgroupMeter

namespace BlkioStat

variable {number : Nat} {text line word : String} {major minor : Counter}
    {error : StatError}

/-- A text names a device: two numbers with a colon between them. -/
def NamesDevice (text : String) (major minor : Counter) : Prop :=
  ∃ first second, text = first ++ ":" ++ second ∧
    Numeral.readUInt64 first = .ok major ∧
    Numeral.readUInt64 second = .ok minor

theorem device?_eq_some_iff :
    device? text = some (major, minor) ↔ NamesDevice text major minor := by
  constructor
  · intro told
    cases parts : Text.cut ':' text with
    | none => simp [device?, parts] at told
    | some pair =>
        rcases pair with ⟨first, second⟩
        refine ⟨first, second, (Text.cut_eq_some_iff.1 parts).1, ?_⟩
        cases left : Numeral.readUInt64 first <;>
          cases right : Numeral.readUInt64 second <;>
            simp_all [device?, Except.toOption]
  · rintro ⟨first, second, rfl, left, right⟩
    have clean : ':' ∉ first.toList :=
      (Numeral.readUInt64_eq_ok_iff.1 left).not_mem (by decide) (by decide)
    have parts : Text.cut ':' (first ++ ":" ++ second) = some (first, second) :=
      Text.cut_append clean second
    simp [device?, parts, left, right, Except.toOption]

theorem device?_eq_none_iff :
    device? text = none ↔ ∀ major minor, ¬ NamesDevice text major minor := by
  simp only [Option.eq_none_iff_forall_ne_some, Prod.forall, ne_eq,
    device?_eq_some_iff]

theorem not_namesDevice_total : ¬ NamesDevice "Total" major minor := by
  rw [← device?_eq_some_iff]
  exact nofun

/-! ## Files of the `blkio` controller -/

/-- A line without a count is blank or starts with `Total`. -/
def HasNoCount (line : String) : Prop :=
  Text.words line = [] ∨ (Text.words line).head? = some "Total"

instance : DecidablePred HasNoCount := fun _ => inferInstanceAs (Decidable (_ ∨ _))

/-- The words of a line are a device, an operation and the count of it. -/
def TellsCount (line : String) (entry : BlkioEntry) : Prop :=
  ∃ device value, Text.words line = [device, entry.operation, value] ∧
    NamesDevice device entry.major entry.minor ∧
    Numeral.readUInt64 value = .ok entry.value

/-- The entries that a line tells. -/
inductive ControllerTells (line : String) : List BlkioEntry → Prop where
  | nothing (noCount : HasNoCount line) : ControllerTells line []
  | count {entry : BlkioEntry} (tells : TellsCount line entry) :
      ControllerTells line [entry]

/-- What a line of a `blkio` file is refused for. -/
inductive ControllerOffends (number : Nat) (line : String) :
    StatError → Prop where
  | malformed (counted : ¬ HasNoCount line)
      (shapeless : ∀ device operation value, Text.words line =
        [device, operation, value] → ∀ major minor,
          ¬ NamesDevice device major minor) :
      ControllerOffends number line
        (.malformedLine number (Text.trimEnd line))
  | notNumber {device operation value : String} {major minor : Counter}
      {cause : NumeralError}
      (words : Text.words line = [device, operation, value])
      (names : NamesDevice device major minor)
      (refused : Numeral.readUInt64 value = .error cause) :
      ControllerOffends number line (.invalidValue value number cause)

theorem TellsCount.counted {entry : BlkioEntry} (tells : TellsCount line entry) :
    ¬ HasNoCount line := by
  rcases tells with ⟨device, value, words, names, -⟩
  rintro (blank | total)
  · simp [words] at blank
  · rw [words, List.head?_cons, Option.some.injEq] at total
    subst total
    exact not_namesDevice_total names

theorem controllerLine_of_tells {items : List BlkioEntry}
    (tells : ControllerTells line items) :
    controllerLine number line = .ok items := by
  cases tells with
  | nothing noCount =>
      rcases noCount with blank | total
      · simp [controllerLine, blank]
      · rcases List.head?_eq_some_iff.1 total with ⟨rest, words⟩
        simp [controllerLine, words]
  | @count entry tells =>
      have counted := tells.counted
      rcases tells with ⟨device, value, words, names, count⟩
      have named := device?_eq_some_iff.2 names
      have notTotal : device ≠ "Total" := by
        rintro rfl
        exact not_namesDevice_total names
      simp [controllerLine, words, notTotal, named, count]

theorem controllerLine_of_offends
    (offends : ControllerOffends number line error) :
    controllerLine number line = .error error := by
  cases offends with
  | malformed counted shapeless =>
      unfold controllerLine
      split
      · rename_i blank
        exact absurd (Or.inl blank) counted
      · rename_i first rest words
        have notTotal : first ≠ "Total" := by
          rintro rfl
          exact counted (Or.inr (by simp [words]))
        rw [if_neg notTotal]
        split
        · rename_i operation value
          simp [device?_eq_none_iff.2 (shapeless first operation value words)]
        · rfl
  | @notNumber device operation value major minor cause words names refused =>
      have named := device?_eq_some_iff.2 names
      have notTotal : device ≠ "Total" := by
        rintro rfl
        exact not_namesDevice_total names
      simp [controllerLine, words, notTotal, named, refused]

/-- A line tells its entries, or it offends. -/
theorem controllerTells_or_offends (number : Nat) (line : String) :
    (∃ items, ControllerTells line items) ∨
      ∃ error, ControllerOffends number line error := by
  by_cases noCount : HasNoCount line
  · exact Or.inl ⟨[], .nothing noCount⟩
  · by_cases shape : ∃ device operation value major minor,
      Text.words line = [device, operation, value] ∧
        NamesDevice device major minor
    · rcases shape with ⟨device, operation, value, major, minor, words, names⟩
      cases count : Numeral.readUInt64 value with
      | ok counter =>
          exact Or.inl ⟨[⟨major, minor, operation, counter⟩],
            .count ⟨device, value, words, names, count⟩⟩
      | error cause => exact Or.inr ⟨_, .notNumber words names count⟩
    · refine Or.inr ⟨_, .malformed noCount ?_⟩
      intro device operation value words major minor names
      exact shape ⟨device, operation, value, major, minor, words, names⟩

theorem controllerLine_eq_ok_iff (number : Nat) (line : String)
    (items : List BlkioEntry) :
    controllerLine number line = .ok items ↔ ControllerTells line items := by
  refine ⟨fun read => ?_, controllerLine_of_tells⟩
  rcases controllerTells_or_offends number line with
    ⟨others, tells⟩ | ⟨error, offends⟩
  · cases read.symm.trans (controllerLine_of_tells tells)
    exact tells
  · cases read.symm.trans (controllerLine_of_offends offends)

theorem controllerLine_eq_error_iff (number : Nat) (line : String)
    (error : StatError) :
    controllerLine number line = .error error ↔
      ControllerOffends number line error := by
  refine ⟨fun read => ?_, controllerLine_of_offends⟩
  rcases controllerTells_or_offends number line with
    ⟨others, tells⟩ | ⟨other, offends⟩
  · cases read.symm.trans (controllerLine_of_tells tells)
  · cases read.symm.trans (controllerLine_of_offends offends)
    exact offends

/-- The entries of a file are those of its lines with a count, in order. -/
theorem exists_controllerTells_iff {lines : List String}
    {entries : List BlkioEntry} :
    (∃ parts, List.Forall₂ ControllerTells lines parts ∧
        entries = parts.flatten) ↔
      List.Forall₂ TellsCount (lines.filter fun line => ¬ HasNoCount line)
        entries := by
  induction lines generalizing entries with
  | nil => simp
  | cons line rest ih =>
      simp only [List.forall₂_cons_left_iff]
      by_cases noCount : HasNoCount line
      · rw [List.filter_cons_of_neg (by simpa using noCount), ← ih]
        constructor
        · rintro ⟨_, ⟨own, parts, tells, others, rfl⟩, rfl⟩
          cases tells with
          | nothing => exact ⟨parts, others, rfl⟩
          | count tells => exact absurd noCount tells.counted
        · rintro ⟨parts, others, rfl⟩
          exact ⟨[] :: parts, ⟨[], parts, .nothing noCount, others, rfl⟩, rfl⟩
      · rw [List.filter_cons_of_pos (by simpa using noCount),
          List.forall₂_cons_left_iff]
        constructor
        · rintro ⟨_, ⟨own, parts, tells, others, rfl⟩, rfl⟩
          cases tells with
          | nothing blank => exact absurd blank noCount
          | @count entry tells =>
              exact ⟨entry, parts.flatten, tells, ih.1 ⟨parts, others, rfl⟩, rfl⟩
        · rintro ⟨entry, others, tells, told, rfl⟩
          rcases ih.2 told with ⟨parts, others, rfl⟩
          exact ⟨[entry] :: parts, ⟨[entry], parts, .count tells, others, rfl⟩,
            rfl⟩

/-! ## The file of the unified hierarchy -/

/-- A word assigns a value to a key, with the first `=` between them. -/
def Assigns (word key value : String) : Prop :=
  word = key ++ "=" ++ value ∧ '=' ∉ key.toList

theorem assigns_iff {key value : String} :
    Assigns word key value ↔ Text.cut '=' word = some (key, value) := by
  rw [Text.cut_eq_some_iff]
  rfl

theorem Assigns.unique {key value other again : String}
    (assigns : Assigns word key value) (assigns' : Assigns word other again) :
    other = key ∧ again = value := by
  have parts := assigns_iff.1 assigns
  rw [assigns_iff.1 assigns'] at parts
  simpa using parts

/-- The counts that a word behind a device tells. -/
inductive WordTells (major minor : Counter) (word : String) :
    List (Quantity × BlkioEntry) → Prop where
  | nothing (unknown : ∀ key value, Assigns word key value →
      keyMeaning key = none) : WordTells major minor word []
  | count {key value operation : String} {quantity : Quantity}
      {counter : Counter} (assigns : Assigns word key value)
      (known : keyMeaning key = some (quantity, operation))
      (number : Numeral.readUInt64 value = .ok counter) :
      WordTells major minor word [(quantity, ⟨major, minor, operation, counter⟩)]

/-- What a word behind a device is refused for. -/
inductive WordOffends (number : Nat) (word : String) : StatError → Prop where
  | notNumber {key value : String} {cause : NumeralError}
      (assigns : Assigns word key value) (known : (keyMeaning key).isSome)
      (refused : Numeral.readUInt64 value = .error cause) :
      WordOffends number word (.invalidKeyValue key value number cause)

/-- The words of a line are those of a device and others. -/
def StartsWithDevice (line : String) (major minor : Counter)
    (words : List String) : Prop :=
  ∃ device, Text.words line = device :: words ∧
    NamesDevice device major minor

/-- The counts that a line tells. -/
inductive UnifiedTells (line : String) :
    List (Quantity × BlkioEntry) → Prop where
  | nothing (noDevice : ∀ major minor words,
      ¬ StartsWithDevice line major minor words) : UnifiedTells line []
  | counts {major minor : Counter} {words : List String}
      {parts : List (List (Quantity × BlkioEntry))}
      (starts : StartsWithDevice line major minor words)
      (told : List.Forall₂ (WordTells major minor) words parts) :
      UnifiedTells line parts.flatten

/-- What a line of `io.stat` is refused for. -/
inductive UnifiedOffends (number : Nat) (line : String) :
    StatError → Prop where
  | word {major minor : Counter} {words : List String} {error : StatError}
      (starts : StartsWithDevice line major minor words)
      (first : FirstOffence (fun _ => WordOffends number) words error) :
      UnifiedOffends number line error

theorem unifiedWord_eq_ok_iff {items : List (Quantity × BlkioEntry)} :
    unifiedWord number major minor word = .ok items ↔
      WordTells major minor word items := by
  constructor
  · intro read
    unfold unifiedWord at read
    split at read
    · rename_i uncut
      cases read
      refine .nothing fun key value assigns => ?_
      cases uncut.symm.trans (assigns_iff.1 assigns)
    · rename_i key value parts
      have assigns := assigns_iff.2 parts
      split at read
      · rename_i unknown
        cases read
        refine .nothing fun other again same => ?_
        obtain ⟨rfl, -⟩ := assigns.unique same
        exact unknown
      · rename_i quantity operation known
        split at read
        · cases read
        · rename_i count
          cases read
          exact .count assigns known count
  · intro tells
    cases tells with
    | nothing unknown =>
        cases parts : Text.cut '=' word with
        | none => simp [unifiedWord, parts]
        | some pair =>
            have none := unknown pair.1 pair.2 (assigns_iff.2 parts)
            simp [unifiedWord, parts, none]
    | count assigns known count =>
        simp [unifiedWord, assigns_iff.1 assigns, known, count]

theorem unifiedWord_eq_error_iff :
    unifiedWord number major minor word = .error error ↔
      WordOffends number word error := by
  constructor
  · intro read
    unfold unifiedWord at read
    split at read
    · cases read
    · rename_i key value parts
      split at read
      · cases read
      · rename_i known
        split at read
        · rename_i refused
          cases read
          exact .notNumber (assigns_iff.2 parts) (by simp [known]) refused
        · cases read
  · rintro ⟨assigns, known, refused⟩
    rcases Option.isSome_iff_exists.1 known with ⟨⟨quantity, operation⟩, meaning⟩
    simp [unifiedWord, assigns_iff.1 assigns, meaning, refused]

theorem StartsWithDevice.unique {others again : Counter}
    {words rest : List String} (starts : StartsWithDevice line major minor words)
    (starts' : StartsWithDevice line others again rest) :
    others = major ∧ again = minor ∧ rest = words := by
  rcases starts with ⟨device, split, names⟩
  rcases starts' with ⟨other, splitAgain, namesAgain⟩
  rw [split, List.cons.injEq] at splitAgain
  rw [← splitAgain.1, ← device?_eq_some_iff, device?_eq_some_iff.2 names]
    at namesAgain
  cases namesAgain
  exact ⟨rfl, rfl, splitAgain.2.symm⟩

/-- A line has no device, or is read word by word behind it. -/
theorem unifiedLine_cases (number : Nat) (line : String) :
    (∀ major minor words, ¬ StartsWithDevice line major minor words) ∧
        unifiedLine number line = .ok [] ∨
      ∃ major minor words, StartsWithDevice line major minor words ∧
        unifiedLine number line =
          (words.mapM (unifiedWord number major minor)).map List.flatten := by
  cases words : Text.words line with
  | nil =>
      refine Or.inl ⟨?_, by simp [unifiedLine, words]⟩
      rintro major minor rest ⟨device, split, -⟩
      simp [words] at split
  | cons first rest =>
      cases device : device? first with
      | none =>
          refine Or.inl ⟨?_, by simp [unifiedLine, words, device]⟩
          rintro major minor others ⟨name, split, names⟩
          rw [words, List.cons.injEq] at split
          rw [← split.1] at names
          exact device?_eq_none_iff.1 device major minor names
      | some numbers =>
          rcases numbers with ⟨major, minor⟩
          exact Or.inr ⟨major, minor, rest,
            ⟨first, words, device?_eq_some_iff.1 device⟩,
            by simp [unifiedLine, words, device]⟩

theorem unifiedLine_eq_ok_iff (number : Nat) (line : String)
    (items : List (Quantity × BlkioEntry)) :
    unifiedLine number line = .ok items ↔ UnifiedTells line items := by
  rcases unifiedLine_cases number line with
    ⟨noDevice, read⟩ | ⟨major, minor, words, starts, read⟩
  · rw [read]
    constructor
    · rintro ⟨⟩
      exact .nothing noDevice
    · rintro (_ | ⟨starts, -⟩)
      · rfl
      · exact absurd starts (noDevice _ _ _)
  · have each : ∀ parts, words.mapM (unifiedWord number major minor) =
        .ok parts ↔ List.Forall₂ (WordTells major minor) words parts := by
      intro parts
      simp only [mapM_eq_ok_iff, unifiedWord_eq_ok_iff]
    rw [read]
    constructor
    · intro told
      cases parts : words.mapM (unifiedWord number major minor) with
      | error error => simp [parts, Except.map] at told
      | ok found =>
          simp only [parts, Except.map, Except.ok.injEq] at told
          subst told
          exact .counts starts ((each found).1 parts)
    · rintro (noDevice | ⟨again, told⟩)
      · exact absurd starts (noDevice _ _ _)
      · obtain ⟨rfl, rfl, rfl⟩ := starts.unique again
        rw [(each _).2 told]
        rfl

theorem unifiedLine_eq_error_iff (number : Nat) (line : String)
    (error : StatError) :
    unifiedLine number line = .error error ↔
      UnifiedOffends number line error := by
  rcases unifiedLine_cases number line with
    ⟨noDevice, read⟩ | ⟨major, minor, words, starts, read⟩
  · rw [read]
    constructor
    · rintro ⟨⟩
    · rintro ⟨starts, -⟩
      exact absurd starts (noDevice _ _ _)
  · have first : words.mapM (unifiedWord number major minor) = .error error ↔
        FirstOffence (fun _ => WordOffends number) words error := by
      simp only [mapM_eq_error_iff, unifiedWord_eq_error_iff]
    rw [read]
    constructor
    · intro told
      cases parts : words.mapM (unifiedWord number major minor) with
      | error other =>
          simp only [parts, Except.map, Except.error.injEq] at told
          subst told
          exact .word starts (first.1 parts)
      | ok found => simp [parts, Except.map] at told
    · rintro ⟨again, offence⟩
      obtain ⟨rfl, rfl, rfl⟩ := starts.unique again
      rw [first.2 offence]
      rfl

/-! ## Whole files -/

theorem readController_ofText (text : String) :
    readController (.ofText text) =
      (collectLines controllerLine 1 (Text.linesOf text)).mapError .parse := by
  rw [readController, Lines.ofText_eq, Lines.complete_of_whole]

/-- The statistics that counts of `io.stat` make up. -/
def ofCounts (counts : List (Quantity × BlkioEntry)) : BlkioStat :=
  ⟨entriesOf .serviceBytes counts, entriesOf .serviced counts⟩

theorem readUnified_ofText (text : String) :
    readUnified (.ofText text) =
      ((collectLines unifiedLine 1 (Text.linesOf text)).map
        ofCounts).mapError .parse := by
  rw [readUnified, Lines.ofText_eq, Lines.complete_of_whole]
  cases collectLines unifiedLine 1 (Text.linesOf text) <;> rfl

theorem collectLines_controllerLine_eq_ok_iff {lines : List String}
    {entries : List BlkioEntry} :
    collectLines controllerLine number lines = .ok entries ↔
      List.Forall₂ TellsCount (lines.filter fun line => ¬ HasNoCount line)
        entries := by
  rw [← exists_controllerTells_iff]
  exact collectLines_eq_ok_iff controllerLine_eq_ok_iff

theorem map_collectLines_unifiedLine_eq_ok_iff {lines : List String}
    {stat : BlkioStat} :
    (collectLines unifiedLine number lines).map ofCounts = .ok stat ↔
      ∃ parts, List.Forall₂ UnifiedTells lines parts ∧
        stat = ofCounts parts.flatten := by
  have told : ∀ counts, collectLines unifiedLine number lines = .ok counts ↔
      ∃ parts, List.Forall₂ UnifiedTells lines parts ∧
        counts = parts.flatten := fun _ =>
    collectLines_eq_ok_iff unifiedLine_eq_ok_iff
  cases read : collectLines unifiedLine number lines with
  | error error =>
      simp only [read, reduceCtorEq, false_iff] at told
      simp only [Except.map, reduceCtorEq, false_iff]
      rintro ⟨parts, each, -⟩
      exact told _ ⟨parts, each, rfl⟩
  | ok counts =>
      rcases (told counts).1 read with ⟨parts, each, rfl⟩
      simp only [Except.map, Except.ok.injEq]
      constructor
      · rintro rfl
        exact ⟨parts, each, rfl⟩
      · rintro ⟨others, again, rfl⟩
        rw [Except.ok.inj (read.symm.trans ((told _).2 ⟨others, again, rfl⟩))]

/-- How a text is read as a file of the `blkio` controller. -/
structure ControllerReading (text : String) : Prop where
  accepts : (∃ entries, readController (.ofText text) = .ok entries) ↔
    ∀ line ∈ Text.linesOf text,
      HasNoCount line ∨ ∃ entry, TellsCount line entry
  entries : ∀ entries, readController (.ofText text) = .ok entries ↔
    List.Forall₂ TellsCount
      ((Text.linesOf text).filter fun line => ¬ HasNoCount line) entries
  refuses : ∀ error, readController (.ofText text) = .error error ↔
    ∃ offence, error = .parse offence ∧
      FirstOffence (fun before => ControllerOffends (before.length + 1))
        (Text.linesOf text) offence

/-- How a text is read as an `io.stat` file. -/
structure UnifiedReading (text : String) : Prop where
  accepts : (∃ stat, readUnified (.ofText text) = .ok stat) ↔
    ∀ line ∈ Text.linesOf text, ∀ major minor words,
      StartsWithDevice line major minor words → ∀ word ∈ words,
        ∀ key value, Assigns word key value → (keyMeaning key).isSome →
          ∃ counter, Numeral.readUInt64 value = .ok counter
  counts : ∀ stat, readUnified (.ofText text) = .ok stat ↔
    ∃ parts, List.Forall₂ UnifiedTells (Text.linesOf text) parts ∧
      stat = ofCounts parts.flatten
  refuses : ∀ error, readUnified (.ofText text) = .error error ↔
    ∃ offence, error = .parse offence ∧
      FirstOffence (fun before => UnifiedOffends (before.length + 1))
        (Text.linesOf text) offence

theorem controllerReading (text : String) : ControllerReading text where
  accepts := by
    simp only [readController_ofText, mapError_parse_eq_ok_iff,
      collectLines_controllerLine_eq_ok_iff, exists_forall₂_iff,
      List.mem_filter, decide_eq_true_eq]
    refine forall_congr' fun line => ?_
    rw [and_imp]
    exact forall_congr' fun _ => or_iff_not_imp_left.symm
  entries entries := by
    rw [readController_ofText, mapError_parse_eq_ok_iff,
      collectLines_controllerLine_eq_ok_iff]
  refuses error := by
    rw [readController_ofText, mapError_parse_eq_error_iff]
    refine exists_congr fun offence => and_congr_right fun _ => ?_
    exact collectLines_eq_error_iff controllerLine_eq_error_iff

theorem exists_wordTells_iff :
    (∃ counts, WordTells major minor word counts) ↔
      ∀ key value, Assigns word key value → (keyMeaning key).isSome →
        ∃ counter, Numeral.readUInt64 value = .ok counter := by
  constructor
  · rintro ⟨_, unknown | ⟨assigns, known, number⟩⟩ key value given meant
    · simp [unknown key value given] at meant
    · obtain ⟨-, rfl⟩ := assigns.unique given
      exact ⟨_, number⟩
  · intro numbers
    by_cases known : ∃ key value, Assigns word key value ∧
      (keyMeaning key).isSome
    · rcases known with ⟨key, value, assigns, meant⟩
      rcases numbers key value assigns meant with ⟨counter, number⟩
      rcases Option.isSome_iff_exists.1 meant with
        ⟨⟨quantity, operation⟩, meaning⟩
      exact ⟨_, .count assigns meaning number⟩
    · refine ⟨[], .nothing fun key value assigns => ?_⟩
      rw [← Option.not_isSome_iff_eq_none]
      exact fun meant => known ⟨key, value, assigns, meant⟩

theorem exists_unifiedTells_iff :
    (∃ counts, UnifiedTells line counts) ↔
      ∀ major minor words, StartsWithDevice line major minor words →
        ∀ word ∈ words, ∃ counts, WordTells major minor word counts := by
  simp only [← exists_forall₂_iff]
  constructor
  · rintro ⟨_, noDevice | ⟨starts, told⟩⟩ major minor words again
    · exact absurd again (noDevice _ _ _)
    · obtain ⟨rfl, rfl, rfl⟩ := starts.unique again
      exact ⟨_, told⟩
  · intro told
    by_cases device : ∃ major minor words,
      StartsWithDevice line major minor words
    · rcases device with ⟨major, minor, words, starts⟩
      rcases told major minor words starts with ⟨parts, told⟩
      exact ⟨_, .counts starts told⟩
    · refine ⟨[], .nothing fun major minor words starts => ?_⟩
      exact device ⟨major, minor, words, starts⟩

theorem unifiedReading (text : String) : UnifiedReading text where
  accepts := by
    have given : (∃ stat, readUnified (.ofText text) = .ok stat) ↔
        ∃ parts, List.Forall₂ UnifiedTells (Text.linesOf text) parts := by
      simp only [readUnified_ofText, mapError_parse_eq_ok_iff,
        map_collectLines_unifiedLine_eq_ok_iff]
      rw [exists_comm]
      simp
    simp only [given, exists_forall₂_iff, exists_unifiedTells_iff,
      exists_wordTells_iff]
  counts stat := by
    rw [readUnified_ofText, mapError_parse_eq_ok_iff,
      map_collectLines_unifiedLine_eq_ok_iff]
  refuses error := by
    rw [readUnified_ofText, mapError_parse_eq_error_iff]
    refine exists_congr fun offence => and_congr_right fun _ => ?_
    have first : collectLines unifiedLine 1 (Text.linesOf text) =
        .error offence ↔ FirstOffence
          (fun before => UnifiedOffends (before.length + 1))
          (Text.linesOf text) offence :=
      collectLines_eq_error_iff unifiedLine_eq_error_iff
    rw [← first]
    cases collectLines unifiedLine 1 (Text.linesOf text) <;> simp [Except.map]

/-! ## Files put together -/

theorem controllerLine_later (number count : Nat) (line : String) :
    controllerLine (number + count) line =
      (controllerLine number line).mapError (StatError.later count) := by
  rcases controllerTells_or_offends number line with
    ⟨items, tells⟩ | ⟨error, offends⟩
  · rw [controllerLine_of_tells tells, controllerLine_of_tells tells]
    rfl
  · have further : ControllerOffends (number + count) line
        (error.later count) := by
      cases offends with
      | malformed counted shapeless => exact .malformed counted shapeless
      | notNumber words names refused => exact .notNumber words names refused
    rw [controllerLine_of_offends offends, controllerLine_of_offends further]
    rfl

theorem unifiedWord_later (number count : Nat) (major minor : Counter)
    (word : String) :
    unifiedWord (number + count) major minor word =
      (unifiedWord number major minor word).mapError
        (StatError.later count) := by
  unfold unifiedWord
  split
  · rfl
  · split
    · rfl
    · split <;> rfl

theorem unifiedLine_later (number count : Nat) (line : String) :
    unifiedLine (number + count) line =
      (unifiedLine number line).mapError (StatError.later count) := by
  have each : ∀ (major minor : Counter) (words : List String),
      words.mapM (unifiedWord (number + count) major minor) =
        (words.mapM (unifiedWord number major minor)).mapError
          (StatError.later count) := by
    intro major minor words
    induction words with
    | nil => rfl
    | cons word rest ih =>
        rw [List.mapM_cons, List.mapM_cons, unifiedWord_later, ih]
        cases unifiedWord number major minor word with
        | error error => rfl
        | ok items =>
            cases rest.mapM (unifiedWord number major minor) <;> rfl
  unfold unifiedLine
  split
  · rfl
  · split
    · rfl
    · rename_i first rest _ _ major minor _
      rw [each]
      cases rest.mapM (unifiedWord number major minor) <;> rfl

/-- A file that starts with terminated lines is read as these and the others
are, which stand further down. -/
theorem readController_append (first second : String) :
    readController (.ofText (first ++ "\n" ++ second)) = do
      let entries ← readController (.ofText (first ++ "\n"))
      let others ← (readController (.ofText second)).mapError
        (ContentError.later (Text.linesOf (first ++ "\n")).length)
      return entries ++ others := by
  simp only [readController_ofText, Text.linesOf_append_newline,
    collectLines_append_eq controllerLine_later, mapError_later_parse]
  cases collectLines controllerLine 1 (Text.linesOf (first ++ "\n")) with
  | error error => rfl
  | ok entries =>
      cases collectLines controllerLine 1 (Text.linesOf second) <;> rfl

theorem ofCounts_append (counts others : List (Quantity × BlkioEntry)) :
    ofCounts (counts ++ others) =
      ⟨(ofCounts counts).serviceBytes ++ (ofCounts others).serviceBytes,
        (ofCounts counts).serviced ++ (ofCounts others).serviced⟩ := by
  simp [ofCounts, entriesOf]

theorem readUnified_append (first second : String) :
    readUnified (.ofText (first ++ "\n" ++ second)) = do
      let stat ← readUnified (.ofText (first ++ "\n"))
      let other ← (readUnified (.ofText second)).mapError
        (ContentError.later (Text.linesOf (first ++ "\n")).length)
      return ⟨stat.serviceBytes ++ other.serviceBytes,
        stat.serviced ++ other.serviced⟩ := by
  simp only [readUnified_ofText, Text.linesOf_append_newline,
    collectLines_append_eq unifiedLine_later, mapError_later_parse]
  cases collectLines unifiedLine 1 (Text.linesOf (first ++ "\n")) with
  | error error => rfl
  | ok counts =>
      cases collectLines unifiedLine 1 (Text.linesOf second) with
      | error error => rfl
      | ok others =>
          exact congrArg Except.ok (ofCounts_append counts others)

end BlkioStat

/-! ## Totals -/

namespace BlkioMetrics

open BlkioStat

/-- The exact sum of the counts of an operation, whose name is in lower
case. -/
def exactTotal (operation : String) (entries : List BlkioEntry) : Nat :=
  ((entries.filter fun entry => entry.operation.toLower = operation).map
    fun entry => entry.value.toNat).sum

theorem toList_toLower (text : String) :
    text.toLower.toList = text.toList.map Char.toLower :=
  String.toList_map

theorem sameName_eq (left right : String) :
    sameName left right = decide (left.toLower = right.toLower) := by
  rw [sameName, ← toList_toLower, ← toList_toLower, Bool.eq_iff_iff, beq_iff_eq,
    decide_eq_true_eq, String.toList_inj]

/-- A total is the exact sum, at most the largest counter. -/
theorem toNat_total (operation : String) (entries : List BlkioEntry) :
    (total operation entries).toNat =
      min (2 ^ 64 - 1) (exactTotal operation.toLower entries) := by
  rw [total, Counter.toNat_sum, Nat.min_comm, Counter.exactSum_eq, exactTotal]
  simp only [sameName_eq, List.map_map]
  rfl

theorem total_perm (operation : String) {entries others : List BlkioEntry}
    (order : entries.Perm others) :
    total operation entries = total operation others :=
  Counter.sum_perm ((order.filter _).map _)

theorem ofStat_perm {stat other : BlkioStat}
    (bytes : stat.serviceBytes.Perm other.serviceBytes)
    (operations : stat.serviced.Perm other.serviced) :
    ofStat stat = ofStat other := by
  simp only [ofStat, total_perm _ bytes, total_perm _ operations]

/-- The order of the lines does not matter to the totals of a `blkio` file. -/
theorem map_total_readController_of_perm (operation : String)
    {text other : String}
    (order : (Text.linesOf other).Perm (Text.linesOf text)) :
    (readController (.ofText other)).toOption.map (total operation) =
      (readController (.ofText text)).toOption.map (total operation) := by
  simp only [readController_ofText, toOption_mapError]
  exact map_toOption_collectLines_of_perm controllerLine_eq_ok_iff
    (fun _ _ => total_perm operation) order

/-- The order of the lines does not matter to the metrics of `io.stat`. -/
theorem map_ofStat_readUnified_of_perm {text other : String}
    (order : (Text.linesOf other).Perm (Text.linesOf text)) :
    (readUnified (.ofText other)).toOption.map ofStat =
      (readUnified (.ofText text)).toOption.map ofStat := by
  have unordered : ∀ counts others : List (Quantity × BlkioEntry),
      counts.Perm others →
        ofStat (ofCounts counts) = ofStat (ofCounts others) := by
    intro counts others reordered
    exact ofStat_perm ((reordered.filter _).map _) ((reordered.filter _).map _)
  simp only [readUnified_ofText, toOption_mapError, toOption_map, Option.map_map]
  exact map_toOption_collectLines_of_perm unifiedLine_eq_ok_iff unordered order

/-- What is read from a text, alone and before another one, and what it
amounts to. -/
theorem counts_of_text (text : String) :
    ControllerReading text ∧ UnifiedReading text ∧
      (∀ second : String,
        (readController (.ofText (text ++ "\n" ++ second)) = do
          let entries ← readController (.ofText (text ++ "\n"))
          let others ← (readController (.ofText second)).mapError
            (ContentError.later (Text.linesOf (text ++ "\n")).length)
          return entries ++ others) ∧
        (readUnified (.ofText (text ++ "\n" ++ second)) = do
          let stat ← readUnified (.ofText (text ++ "\n"))
          let other ← (readUnified (.ofText second)).mapError
            (ContentError.later (Text.linesOf (text ++ "\n")).length)
          return ⟨stat.serviceBytes ++ other.serviceBytes,
            stat.serviced ++ other.serviced⟩)) ∧
      (∀ stat : BlkioStat,
        (ofStat stat).readBytes.toNat =
            min (2 ^ 64 - 1) (exactTotal "read" stat.serviceBytes) ∧
          (ofStat stat).writeBytes.toNat =
            min (2 ^ 64 - 1) (exactTotal "write" stat.serviceBytes) ∧
          (ofStat stat).readOps.toNat =
            min (2 ^ 64 - 1) (exactTotal "read" stat.serviced) ∧
          (ofStat stat).writeOps.toNat =
            min (2 ^ 64 - 1) (exactTotal "write" stat.serviced)) ∧
      (∀ stat other : BlkioStat, stat.serviceBytes.Perm other.serviceBytes →
        stat.serviced.Perm other.serviced → ofStat stat = ofStat other) ∧
      ∀ other : String, (Text.linesOf other).Perm (Text.linesOf text) →
        (∀ operation,
          (readController (.ofText other)).toOption.map (total operation) =
            (readController (.ofText text)).toOption.map (total operation)) ∧
        (readUnified (.ofText other)).toOption.map ofStat =
          (readUnified (.ofText text)).toOption.map ofStat := by
  refine ⟨controllerReading text, unifiedReading text, ?_, ?_, ?_, ?_⟩
  · intro second
    exact ⟨readController_append text second, readUnified_append text second⟩
  · intro stat
    have read : readOperation.toLower = "read" := by
      rw [← String.toList_inj, toList_toLower]
      rfl
    have write : writeOperation.toLower = "write" := by
      rw [← String.toList_inj, toList_toLower]
      rfl
    simp only [ofStat, toNat_total, read, write, and_self]
  · intro stat other bytes operations
    exact ofStat_perm bytes operations
  · intro other order
    exact ⟨fun operation => map_total_readController_of_perm operation order,
      map_ofStat_readUnified_of_perm order⟩

/-- The second file is refused for its second line, which is the fourth of
both; the first one has its count wherever the line of totals stands. -/
theorem read_of_two_files :
    readController (.ofText ("8:0 rEAD 5\nTotal x" ++ "\n" ++ "\n8:1 Read")) =
        .error (.parse (.malformedLine 4 "8:1 Read")) ∧
      (readController (.ofText "Total x\n8:0 rEAD 5")).toOption.map
        (total readOperation) = some 5 ∧
      (total readOperation [⟨8, 0, "rEAD", 5⟩]).toNat =
        min (2 ^ 64 - 1) (exactTotal "read" [⟨8, 0, "rEAD", 5⟩]) := by
  have first : readController (.ofText ("8:0 rEAD 5\nTotal x" ++ "\n")) =
      .ok [⟨8, 0, "rEAD", 5⟩] := by
    decide +kernel
  have second : readController (.ofText "\n8:1 Read") =
      .error (.parse (.malformedLine 2 "8:1 Read")) := by
    decide +kernel
  have lines : (Text.linesOf ("8:0 rEAD 5\nTotal x" ++ "\n")).length = 2 := by
    decide +kernel
  have order : (Text.linesOf "Total x\n8:0 rEAD 5").Perm
      (Text.linesOf "8:0 rEAD 5\nTotal x") := by
    decide +kernel
  have alone : (readController (.ofText "8:0 rEAD 5\nTotal x")).toOption.map
      (total readOperation) = some 5 := by
    decide +kernel
  rcases counts_of_text "8:0 rEAD 5\nTotal x" with
    ⟨-, -, together, totals, -, unordered⟩
  refine ⟨?_, ?_, (totals ⟨[⟨8, 0, "rEAD", 5⟩], []⟩).1⟩
  · rw [(together "\n8:1 Read").1, first, second, lines]
    rfl
  · exact ((unordered _ order).1 readOperation).trans alone

end BlkioMetrics

end CgroupMeter
