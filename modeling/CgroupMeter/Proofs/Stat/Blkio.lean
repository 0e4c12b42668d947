import CgroupMeter.Metrics.Blkio
import CgroupMeter.Proofs.Counter
import CgroupMeter.Proofs.Text.Numeral

/-!
# Block I/O files that are put together

The `blkio` controller lists the counts of its devices operation by operation,
with lines of totals between and after them; the unified hierarchy lists them
device by device.  Whatever the order of the lines, the metrics are the sums
over the devices.
-/

namespace CgroupMeter

/-- What the devices of a group have read and written. -/
structure DeviceCounts where
  major : Counter
  minor : Counter
  readBytes : Counter
  writeBytes : Counter
  readOps : Counter
  writeOps : Counter

/-- The text that names a device. -/
def deviceName (major minor : Counter) : String :=
  major.toNat.repr ++ ":" ++ minor.toNat.repr

theorem isWord_deviceName (major minor : Counter) :
    Text.IsWord (deviceName major minor) := by
  have marked : Text.IsWord (major.toNat.repr ++ ":") :=
    (Text.isWord_repr _).append (by decide)
  exact marked.append (Text.isWord_repr _)

theorem device?_deviceName (major minor : Counter) :
    BlkioStat.device? (deviceName major minor) = some (major, minor) := by
  have parts : Text.cut ':' (deviceName major minor) =
      some (major.toNat.repr, minor.toNat.repr) :=
    Text.cut_append (Text.not_mem_repr (by decide) _) _
  simp [BlkioStat.device?, parts, Except.toOption]

theorem collectLines_map {α β : Type}
    {readLine : Nat → String → Except StatError (List α)}
    {text : β → String} {items : β → List α} {lines : List β}
    (reads : ∀ line ∈ lines, ∀ number,
      readLine number (text line) = .ok (items line))
    (number : Nat) :
    collectLines readLine number (lines.map text) =
      .ok (lines.flatMap items) := by
  induction lines generalizing number with
  | nil => rfl
  | cons line rest ih =>
      have others := ih (fun other member =>
        reads other (List.mem_cons_of_mem _ member)) (number + 1)
      simp [collectLines, reads line List.mem_cons_self number, others, bind,
        Except.bind, pure, Except.pure]

/-! ## Files of the `blkio` controller -/

/-- The operations that the `blkio` controller counts. -/
inductive BlkioOperation where
  | read
  | write
  | sync
  | async
  | discard
  | total
  deriving DecidableEq

/-- The name of an operation. -/
def BlkioOperation.name : BlkioOperation → String
  | .read => BlkioStat.readOperation
  | .write => BlkioStat.writeOperation
  | .sync => "Sync"
  | .async => "Async"
  | .discard => "Discard"
  | .total => "Total"

theorem BlkioOperation.isWord_name (operation : BlkioOperation) :
    Text.IsWord operation.name := by
  cases operation <;> decide

/-- A line of a file of the `blkio` controller. -/
inductive ThrottleLine where
  | count (major minor : Counter) (operation : BlkioOperation) (value : Counter)
  | total (value : Counter)

namespace ThrottleLine

/-- The text of a line. -/
def text : ThrottleLine → String
  | .count major minor operation value =>
      " ".intercalate
        [deviceName major minor, operation.name, value.toNat.repr]
  | .total value => " ".intercalate ["Total", value.toNat.repr]

/-- The entry that a line is read as. -/
def entries : ThrottleLine → List BlkioEntry
  | .count major minor operation value =>
      [⟨major, minor, operation.name, value⟩]
  | .total _ => []

/-- The device and the count of an operation that a line tells. -/
def countOf? (operation : BlkioOperation) :
    ThrottleLine → Option (Counter × Counter × Counter)
  | .count major minor counted value =>
      if counted = operation then some (major, minor, value) else none
  | .total _ => none

theorem controllerLine_text (number : Nat) (line : ThrottleLine) :
    BlkioStat.controllerLine number line.text = .ok line.entries := by
  cases line with
  | count major minor operation value =>
      have words : Text.words (count major minor operation value).text =
          [deviceName major minor, operation.name, value.toNat.repr] := by
        refine Text.words_intercalate ?_
        simp [isWord_deviceName, operation.isWord_name, Text.isWord_repr]
      have noTotal : deviceName major minor ≠ "Total" := by
        intro same
        have marked : ':' ∈ (deviceName major minor).toList := by
          simp [deviceName]
        simp [same] at marked
      simp [BlkioStat.controllerLine, words, noTotal, device?_deviceName,
        entries]
  | total value =>
      have words : Text.words (total value).text =
          ["Total", value.toNat.repr] := by
        refine Text.words_intercalate ?_
        intro word member
        simp only [List.mem_cons, List.not_mem_nil, or_false] at member
        rcases member with rfl | rfl
        · exact BlkioOperation.isWord_name .total
        · exact Text.isWord_repr _
      simp [BlkioStat.controllerLine, words, entries]

end ThrottleLine

/-- Texts are those of a `blkio` file that lists a count of each device for
reads and one for writes. -/
def ThrottleLists (texts : List String)
    (reads writes : List (Counter × Counter × Counter)) : Prop :=
  ∃ lines : List ThrottleLine, texts = lines.map ThrottleLine.text ∧
    (lines.filterMap (ThrottleLine.countOf? .read)).Perm reads ∧
    (lines.filterMap (ThrottleLine.countOf? .write)).Perm writes

theorem BlkioStat.readController_text (lines : List ThrottleLine) :
    BlkioStat.readController ⟨lines.map ThrottleLine.text, none⟩ =
      .ok (lines.flatMap ThrottleLine.entries) := by
  have collected := collectLines_map
    (fun (line : ThrottleLine) (_ : line ∈ lines) number =>
      line.controllerLine_text number) 1
  simp [BlkioStat.readController, collected, Lines.complete, Lines.finish,
    Except.mapError]

namespace BlkioMetrics

theorem sameName_name (counted operation : BlkioOperation) :
    sameName counted.name operation.name = decide (counted = operation) := by
  cases counted <;> cases operation <;> decide

theorem total_entries (operation : BlkioOperation)
    (lines : List ThrottleLine) :
    total operation.name (lines.flatMap ThrottleLine.entries) =
      Counter.sum ((lines.filterMap (ThrottleLine.countOf? operation)).map
        fun count => count.2.2) := by
  have values : ((lines.flatMap ThrottleLine.entries).filter fun entry =>
        sameName entry.operation operation.name).map BlkioEntry.value =
      (lines.filterMap (ThrottleLine.countOf? operation)).map
        fun count => count.2.2 := by
    induction lines with
    | nil => rfl
    | cons line rest ih =>
        cases line with
        | total value =>
            simpa [ThrottleLine.entries, ThrottleLine.countOf?,
              List.filterMap_cons] using ih
        | count major minor counted value =>
            by_cases same : counted = operation <;>
              simpa [ThrottleLine.entries, ThrottleLine.countOf?, sameName_name,
                same] using ih
  rw [total, values]

/-- The total of an operation is the sum of the counts that are listed. -/
theorem total_of_perm {operation : BlkioOperation} {lines : List ThrottleLine}
    {counts : List (Counter × Counter × Counter)}
    (order : (lines.filterMap (ThrottleLine.countOf? operation)).Perm counts) :
    total operation.name (lines.flatMap ThrottleLine.entries) =
      Counter.sum (counts.map fun count => count.2.2) := by
  rw [total_entries]
  exact Counter.sum_perm (order.map _)

/-- A `blkio` file is read as entries with the totals that it lists. -/
theorem read_of_throttleLists {texts : List String}
    {reads writes : List (Counter × Counter × Counter)}
    (lists : ThrottleLists texts reads writes) :
    ∃ entries, BlkioStat.readController ⟨texts, none⟩ = .ok entries ∧
      total BlkioStat.readOperation entries =
        Counter.sum (reads.map fun count => count.2.2) ∧
      total BlkioStat.writeOperation entries =
        Counter.sum (writes.map fun count => count.2.2) := by
  rcases lists with ⟨lines, rfl, readOrder, writeOrder⟩
  have reads := total_of_perm readOrder
  have writes := total_of_perm writeOrder
  exact ⟨_, BlkioStat.readController_text lines, reads, writes⟩

end BlkioMetrics

/-! ## The file of the unified hierarchy -/

/-- A word of `io.stat` that tells a count. -/
def assignment (key : String) (value : Counter) : String :=
  key ++ "=" ++ value.toNat.repr

/-- A line of `io.stat`: the counts of a device, and further words. -/
structure IoLine where
  counts : DeviceCounts
  further : List String

namespace IoLine

/-- The words that tell the counts of a line. -/
def assignments (line : IoLine) : List String :=
  [assignment "rbytes" line.counts.readBytes,
    assignment "wbytes" line.counts.writeBytes,
    assignment "rios" line.counts.readOps,
    assignment "wios" line.counts.writeOps]

/-- The text of a line. -/
def text (line : IoLine) : String :=
  " ".intercalate (deviceName line.counts.major line.counts.minor ::
    (line.assignments ++ line.further))

/-- The counts that a line is read as. -/
def entries (line : IoLine) : List (BlkioStat.Quantity × BlkioEntry) :=
  let counts := line.counts
  [(.serviceBytes,
      ⟨counts.major, counts.minor, BlkioStat.readOperation, counts.readBytes⟩),
    (.serviceBytes,
      ⟨counts.major, counts.minor, BlkioStat.writeOperation,
        counts.writeBytes⟩),
    (.serviced,
      ⟨counts.major, counts.minor, BlkioStat.readOperation, counts.readOps⟩),
    (.serviced,
      ⟨counts.major, counts.minor, BlkioStat.writeOperation,
        counts.writeOps⟩)]

/-- The further words of a line tell no count that is read. -/
def Unread (line : IoLine) : Prop :=
  ∀ word ∈ line.further, Text.IsWord word ∧
    ∀ key value, Text.cut '=' word = some (key, value) →
      BlkioStat.keyMeaning key = none

theorem isWord_assignment {key : String} (word : Text.IsWord key)
    (value : Counter) : Text.IsWord (assignment key value) := by
  have marked : Text.IsWord (key ++ "=") := word.append (by decide)
  exact marked.append (Text.isWord_repr _)

theorem cut_assignment {key : String} (clean : '=' ∉ key.toList)
    (value : Counter) :
    Text.cut '=' (assignment key value) = some (key, value.toNat.repr) :=
  Text.cut_append clean _

theorem words_text {line : IoLine} (unread : line.Unread) :
    Text.words line.text =
      deviceName line.counts.major line.counts.minor ::
        (line.assignments ++ line.further) := by
  refine Text.words_intercalate ?_
  intro word member
  simp only [assignments, List.cons_append, List.nil_append,
    List.mem_cons] at member
  rcases member with rfl | rfl | rfl | rfl | rfl | further
  · exact isWord_deviceName _ _
  · exact isWord_assignment (by decide) _
  · exact isWord_assignment (by decide) _
  · exact isWord_assignment (by decide) _
  · exact isWord_assignment (by decide) _
  · exact (unread word further).1

theorem unifiedWord_assignment {key : String} (clean : '=' ∉ key.toList)
    {quantity : BlkioStat.Quantity} {operation : String}
    (known : BlkioStat.keyMeaning key = some (quantity, operation))
    (number : Nat) (major minor value : Counter) :
    BlkioStat.unifiedWord number major minor (assignment key value) =
      .ok [(quantity, ⟨major, minor, operation, value⟩)] := by
  simp [BlkioStat.unifiedWord, cut_assignment clean, known]

theorem mapM_unread {words : List String}
    (unread : ∀ word ∈ words, ∀ key value, Text.cut '=' word = some (key, value) →
      BlkioStat.keyMeaning key = none)
    (number : Nat) (major minor : Counter) :
    words.mapM (BlkioStat.unifiedWord number major minor) =
      .ok (words.map fun _ => []) := by
  induction words with
  | nil => rfl
  | cons word rest ih =>
      have others := ih fun word member =>
        unread word (List.mem_cons_of_mem _ member)
      have none : BlkioStat.unifiedWord number major minor word = .ok [] := by
        cases parts : Text.cut '=' word with
        | none => simp [BlkioStat.unifiedWord, parts]
        | some pair =>
            have unknown := unread word List.mem_cons_self pair.1 pair.2 parts
            simp [BlkioStat.unifiedWord, parts, unknown]
      rw [List.mapM_cons, none, others]
      rfl

theorem mapM_assignments (line : IoLine) (number : Nat)
    (major minor : Counter) :
    line.assignments.mapM (BlkioStat.unifiedWord number major minor) =
      .ok [[(.serviceBytes, ⟨major, minor, BlkioStat.readOperation,
          line.counts.readBytes⟩)],
        [(.serviceBytes, ⟨major, minor, BlkioStat.writeOperation,
          line.counts.writeBytes⟩)],
        [(.serviced, ⟨major, minor, BlkioStat.readOperation,
          line.counts.readOps⟩)],
        [(.serviced, ⟨major, minor, BlkioStat.writeOperation,
          line.counts.writeOps⟩)]] := by
  simp only [assignments, List.mapM_cons, List.mapM_nil]
  rw [unifiedWord_assignment (by decide) rfl,
    unifiedWord_assignment (by decide) rfl,
    unifiedWord_assignment (by decide) rfl,
    unifiedWord_assignment (by decide) rfl]
  rfl

theorem unifiedLine_text {line : IoLine} (unread : line.Unread)
    (number : Nat) :
    BlkioStat.unifiedLine number line.text = .ok line.entries := by
  have further := mapM_unread (fun word member => (unread word member).2) number
    line.counts.major line.counts.minor
  simp only [BlkioStat.unifiedLine, words_text unread, device?_deviceName,
    List.mapM_append, mapM_assignments, further]
  simp [bind, Except.bind, pure, Except.pure, Except.map, entries]

end IoLine

/-- Texts are those of an `io.stat` file that lists the counts of some
devices. -/
def IoLists (texts : List String) (devices : List DeviceCounts) : Prop :=
  ∃ lines : List IoLine, texts = lines.map IoLine.text ∧
    (∀ line ∈ lines, line.Unread) ∧ (lines.map IoLine.counts).Perm devices

theorem BlkioStat.readUnified_text {lines : List IoLine}
    (unread : ∀ line ∈ lines, line.Unread) :
    BlkioStat.readUnified ⟨lines.map IoLine.text, none⟩ =
      .ok ⟨entriesOf .serviceBytes (lines.flatMap IoLine.entries),
        entriesOf .serviced (lines.flatMap IoLine.entries)⟩ := by
  have collected := collectLines_map (fun line member number =>
    IoLine.unifiedLine_text (unread line member) number) 1
  simp [BlkioStat.readUnified, collected, Lines.complete, Lines.finish,
    Except.mapError, bind, Except.bind, pure, Except.pure]

namespace BlkioMetrics

/-- The metrics of what some devices have read and written. -/
def ofDevices (devices : List DeviceCounts) : BlkioMetrics where
  readBytes := Counter.sum (devices.map DeviceCounts.readBytes)
  writeBytes := Counter.sum (devices.map DeviceCounts.writeBytes)
  readOps := Counter.sum (devices.map DeviceCounts.readOps)
  writeOps := Counter.sum (devices.map DeviceCounts.writeOps)

theorem ofDevices_perm {first second : List DeviceCounts}
    (order : first.Perm second) : ofDevices first = ofDevices second := by
  simp only [ofDevices, Counter.sum_perm (order.map DeviceCounts.readBytes),
    Counter.sum_perm (order.map DeviceCounts.writeBytes),
    Counter.sum_perm (order.map DeviceCounts.readOps),
    Counter.sum_perm (order.map DeviceCounts.writeOps)]

theorem values_entriesOf (quantity : BlkioStat.Quantity) (lines : List IoLine)
    (operation : String) :
    ((BlkioStat.entriesOf quantity (lines.flatMap IoLine.entries)).filter
        fun entry => sameName entry.operation operation).map
          BlkioEntry.value =
      lines.flatMap fun line =>
        ((BlkioStat.entriesOf quantity line.entries).filter
          fun entry => sameName entry.operation operation).map
            BlkioEntry.value := by
  induction lines with
  | nil => rfl
  | cons line rest ih =>
      simp only [BlkioStat.entriesOf] at ih
      simp [BlkioStat.entriesOf, ih]

theorem ofStat_entries (lines : List IoLine) :
    ofStat ⟨BlkioStat.entriesOf .serviceBytes (lines.flatMap IoLine.entries),
        BlkioStat.entriesOf .serviced (lines.flatMap IoLine.entries)⟩ =
      ofDevices (lines.map IoLine.counts) := by
  -- Of each line, one count is in each of the four sums.
  have values : ∀ (quantity : BlkioStat.Quantity) (operation : String)
      (count : DeviceCounts → Counter),
      (∀ line : IoLine, ((BlkioStat.entriesOf quantity line.entries).filter
        fun entry => sameName entry.operation operation).map
          BlkioEntry.value = [count line.counts]) →
      total operation
          (BlkioStat.entriesOf quantity (lines.flatMap IoLine.entries)) =
        Counter.sum ((lines.map IoLine.counts).map count) := by
    intro quantity operation count one
    rw [total, values_entriesOf]
    simp only [one, List.map_map, Function.comp_def, ← List.map_eq_flatMap]
  have readIsRead :
      sameName BlkioStat.readOperation BlkioStat.readOperation = true :=
    sameName_name .read .read
  have writeIsWrite :
      sameName BlkioStat.writeOperation BlkioStat.writeOperation = true :=
    sameName_name .write .write
  have readIsNotWrite :
      sameName BlkioStat.readOperation BlkioStat.writeOperation = false :=
    sameName_name .read .write
  have writeIsNotRead :
      sameName BlkioStat.writeOperation BlkioStat.readOperation = false :=
    sameName_name .write .read
  simp only [ofStat, ofDevices,
    values .serviceBytes BlkioStat.readOperation DeviceCounts.readBytes
      (by simp [BlkioStat.entriesOf, IoLine.entries, readIsRead,
        writeIsNotRead]),
    values .serviceBytes BlkioStat.writeOperation DeviceCounts.writeBytes
      (by simp [BlkioStat.entriesOf, IoLine.entries, writeIsWrite,
        readIsNotWrite]),
    values .serviced BlkioStat.readOperation DeviceCounts.readOps
      (by simp [BlkioStat.entriesOf, IoLine.entries, readIsRead,
        writeIsNotRead]),
    values .serviced BlkioStat.writeOperation DeviceCounts.writeOps
      (by simp [BlkioStat.entriesOf, IoLine.entries, writeIsWrite,
        readIsNotWrite])]

/-- An `io.stat` file is read as counts with the metrics of the devices that it
lists. -/
theorem read_of_ioLists {texts : List String} {devices : List DeviceCounts}
    (lists : IoLists texts devices) :
    ∃ stat, BlkioStat.readUnified ⟨texts, none⟩ = .ok stat ∧
      ofStat stat = ofDevices devices := by
  rcases lists with ⟨lines, rfl, unread, order⟩
  refine ⟨_, BlkioStat.readUnified_text unread, ?_⟩
  rw [ofStat_entries, ofDevices_perm order]

end BlkioMetrics

end CgroupMeter
