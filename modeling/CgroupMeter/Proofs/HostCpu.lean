import CgroupMeter.HostCpu
import CgroupMeter.Proofs.Counter
import CgroupMeter.Proofs.Host.Reading
import CgroupMeter.Proofs.Stat.Offence
import CgroupMeter.Proofs.Text.Numeral

/-!
# The exact CPU time of a host

The first line that begins with `cpu`, with no digit after it, is the one for
all CPUs.  Of its numbers the first seven are summed, and their sum in
nanoseconds is exact, up to the largest counter: it does not matter whether the
sum or the product is what goes beyond it.  The CPUs are counted on the lines
where a digit follows, wherever these stand.
-/

namespace CgroupMeter.HostCpuUsage

/-- A line is for all CPUs: it begins with `cpu`, and no digit follows. -/
def ForAllCpus (line : String) : Prop :=
  ∃ rest, line.toList = ['c', 'p', 'u'] ++ rest ∧
    ∀ char ∈ rest.head?, char.isDigit = false

/-- A line is for one CPU: it begins with `cpu` and a digit. -/
def ForOneCpu (line : String) : Prop :=
  ∃ digit rest, line.toList = ['c', 'p', 'u'] ++ digit :: rest ∧
    digit.isDigit = true

/-- A line is the first one for all CPUs. -/
def FirstForAllCpus (lines : List String) (line : String) : Prop :=
  ∃ before after, lines = before ++ line :: after ∧ ForAllCpus line ∧
    ∀ earlier ∈ before, ¬ ForAllCpus earlier

/-- The words of a line that are summed: the second one to the eighth. -/
def summedWords (line : String) : List String :=
  ((Text.words line).drop 1).take 7

/-- A word is what a line is refused for: it is no number that fits. -/
def RefusesWord (path : Path) (word : String) (error : HostCpuError) : Prop :=
  (∀ number : Counter, ¬ Numeral.Denotes word number.toNat) ∧
    ∃ cause, Numeral.readUInt64 word = .error cause ∧
      error = .invalidValue path word cause

/-- The words of a line denote numbers, and this is the CPU time that they
sum up to. -/
def SumsUpTo (line : String) (time : Counter) : Prop :=
  ∃ numbers : List Counter,
    List.Forall₂ (fun word number => Numeral.Denotes word number.toNat)
      (summedWords line) numbers ∧
    time.toNat = min (2 ^ 64 - 1) (10 ^ 7 * (numbers.map UInt64.toNat).sum)

/-! ## Single lines -/

theorem subject_eq_allCpus_iff {line : String} :
    subject line = .allCpus ↔ ForAllCpus line := by
  unfold subject ForAllCpus
  split
  · rename_i char rest chars
    cases digit : char.isDigit <;> simp [chars, digit]
  · rename_i chars
    simp [chars]
  · rename_i longer bare
    simp only [reduceCtorEq, false_iff]
    rintro ⟨_ | ⟨char, rest⟩, chars, -⟩
    · exact bare chars
    · exact longer char rest chars

theorem subject_eq_oneCpu_iff {line : String} :
    subject line = .oneCpu ↔ ForOneCpu line := by
  unfold subject ForOneCpu
  split
  · rename_i char rest chars
    cases digit : char.isDigit <;> simp [chars, digit]
  · rename_i chars
    simp [chars]
  · rename_i longer bare
    simp only [reduceCtorEq, false_iff]
    rintro ⟨char, rest, chars, -⟩
    exact longer char rest chars

instance : DecidablePred ForOneCpu := fun _ =>
  decidable_of_iff _ subject_eq_oneCpu_iff

/-- Two clamps are one: the product of a clamped sum is clamped where that of
the exact sum is. -/
theorem toNat_ticksToNanos_sum (ticks : List Counter) :
    (ticksToNanos (Counter.sum ticks)).toNat =
      min (2 ^ 64 - 1) (10 ^ 7 * (ticks.map UInt64.toNat).sum) := by
  rw [ticksToNanos, Counter.toNat_scale, Counter.toNat_sum, Counter.exactSum_eq]
  unfold nanosPerTick Counter.bound
  omega

/-- The numbers on a line that are summed. -/
def readTicks (path : Path) (line : String) :
    Except HostCpuError (List Counter) :=
  (summedWords line).mapM fun word =>
    (Numeral.readUInt64 word).mapError (.invalidValue path word)

section Line

variable {path : Path} {line word : String}

theorem mapError_readUInt64_eq_ok_iff {number : Counter} :
    (Numeral.readUInt64 word).mapError (HostCpuError.invalidValue path word) =
        .ok number ↔
      Numeral.Denotes word number.toNat := by
  rw [mapError_eq_ok_iff, Numeral.readUInt64_eq_ok_iff]

theorem mapError_readUInt64_eq_error_iff {error : HostCpuError} :
    (Numeral.readUInt64 word).mapError (HostCpuError.invalidValue path word) =
        .error error ↔
      RefusesWord path word error := by
  unfold RefusesWord
  simp only [← Numeral.readUInt64_eq_ok_iff]
  cases Numeral.readUInt64 word <;> simp [Except.mapError, eq_comm]

theorem readTicks_eq_ok_iff {ticks : List Counter} :
    readTicks path line = .ok ticks ↔
      List.Forall₂ (fun word number => Numeral.Denotes word number.toNat)
        (summedWords line) ticks := by
  rw [readTicks, mapM_eq_ok_iff]
  simp only [mapError_readUInt64_eq_ok_iff]

theorem readTicks_eq_error_iff {error : HostCpuError} :
    readTicks path line = .error error ↔
      FirstOffence (fun _ => RefusesWord path) (summedWords line) error := by
  have refuses : (fun (_ : List String) word error =>
      (Numeral.readUInt64 word).mapError (HostCpuError.invalidValue path word) =
        .error error) = fun _ => RefusesWord path := by
    funext _ word error
    exact propext mapError_readUInt64_eq_error_iff
  rw [readTicks, mapM_eq_error_iff, refuses]

/-- A line with eight words is read as the sum of its ticks. -/
theorem ofLine_eq (path : Path) (line : String) :
    ofLine path line =
      if (Text.words line).length < 8 then
        .error (.tooFewFields path (Text.trimEnd line))
      else
        (readTicks path line).map fun ticks =>
          ticksToNanos (Counter.sum ticks) := by
  unfold ofLine readTicks summedWords summedFields
  cases words : Text.words line with
  | nil => rfl
  | cons first fields =>
      by_cases few : fields.length < 7
      · have fewWords : (first :: fields).length < 8 := Nat.succ_lt_succ few
        rw [if_pos fewWords]
        exact if_pos few
      · have enough : ¬ (first :: fields).length < 8 :=
          fun less => few (Nat.lt_of_succ_lt_succ less)
        rw [if_neg enough]
        refine (if_neg few).trans ?_
        rw [List.drop_succ_cons, List.drop_zero]
        cases (fields.take 7).mapM fun word => (Numeral.readUInt64 word).mapError
          (HostCpuError.invalidValue path word) <;> rfl

theorem ofLine_eq_ok_iff {time : Counter} :
    ofLine path line = .ok time ↔
      8 ≤ (Text.words line).length ∧ SumsUpTo line time := by
  rw [ofLine_eq]
  split
  · rename_i few
    simp [Nat.not_le.2 few]
  · rename_i enough
    rw [and_iff_right (Nat.not_lt.1 enough), SumsUpTo]
    simp only [← @readTicks_eq_ok_iff path, ← toNat_ticksToNanos_sum]
    cases readTicks path line with
    | error error => simp [Except.map]
    | ok ticks => simp [Except.map, UInt64.toNat_inj, eq_comm]

theorem ofLine_eq_error_iff {error : HostCpuError} :
    ofLine path line = .error error ↔
      ((Text.words line).length < 8 ∧
        error = .tooFewFields path (Text.trimEnd line)) ∨
      (8 ≤ (Text.words line).length ∧
        FirstOffence (fun _ => RefusesWord path) (summedWords line) error) := by
  rw [ofLine_eq, ← readTicks_eq_error_iff]
  split
  · rename_i few
    simp [few, Nat.not_le.2 few, eq_comm]
  · rename_i enough
    cases readTicks path line <;>
      simp [enough, Nat.not_lt.1 enough, Except.map]

end Line

/-! ## All lines -/

/-- What the lines of a file tell of the CPU time of a host. -/
inductive Told (path : Path) (lines : List String) :
    Except HostCpuError HostCpuUsage → Prop where
  | missing (none : ∀ line ∈ lines, ¬ ForAllCpus line) :
      Told path lines (.error (.missingLine path))
  | tooFew {line : String} (first : FirstForAllCpus lines line)
      (few : (Text.words line).length < 8) :
      Told path lines (.error (.tooFewFields path (Text.trimEnd line)))
  | invalid {line : String} {error : HostCpuError}
      (first : FirstForAllCpus lines line)
      (enough : 8 ≤ (Text.words line).length)
      (refused : FirstOffence (fun _ => RefusesWord path) (summedWords line)
        error) :
      Told path lines (.error error)
  | usage {line : String} {usage : HostCpuUsage}
      (first : FirstForAllCpus lines line)
      (enough : 8 ≤ (Text.words line).length)
      (time : SumsUpTo line usage.usage)
      (cpus : usage.onlineCpus.toNat = lines.countP (ForOneCpu ·)) :
      Told path lines (.ok usage)

section Lines

variable {path : Path} {lines : List String} {line : String}

theorem find?_subject_eq_some_iff :
    (lines.find? fun text => subject text == .allCpus) = some line ↔
      FirstForAllCpus lines line := by
  rw [List.find?_eq_some_iff_append]
  simp only [beq_iff_eq, Bool.not_eq_true', beq_eq_false_iff_ne, ne_eq,
    subject_eq_allCpus_iff, FirstForAllCpus]
  constructor
  · rintro ⟨own, before, after, split, others⟩
    exact ⟨before, after, split, own, others⟩
  · rintro ⟨before, after, split, own, others⟩
    exact ⟨own, before, after, split, others⟩

theorem find?_subject_eq_none_iff :
    (lines.find? fun text => subject text == .allCpus) = none ↔
      ∀ line ∈ lines, ¬ ForAllCpus line := by
  simp only [List.find?_eq_none, beq_iff_eq, subject_eq_allCpus_iff]

theorem countP_subject (lines : List String) :
    (lines.countP fun text => subject text == .oneCpu) =
      lines.countP (ForOneCpu ·) := by
  refine List.countP_congr fun line _ => ?_
  rw [beq_iff_eq, subject_eq_oneCpu_iff, decide_eq_true_iff]

theorem FirstForAllCpus.unique {other : String}
    (first : FirstForAllCpus lines line)
    (again : FirstForAllCpus lines other) : line = other := by
  have found := find?_subject_eq_some_iff.2 first
  rw [find?_subject_eq_some_iff.2 again] at found
  exact (Option.some.inj found).symm

theorem FirstForAllCpus.mem (first : FirstForAllCpus lines line) :
    line ∈ lines ∧ ForAllCpus line := by
  rcases first with ⟨before, after, rfl, own, -⟩
  exact ⟨by simp, own⟩

/-- Lines that are all read give the time on the first one for all CPUs. -/
theorem ofLines_of_first (first : FirstForAllCpus lines line) :
    ofLines path ⟨lines, none⟩ =
      (ofLine path line).map fun time =>
        ⟨time, UInt32.ofNat (lines.countP (ForOneCpu ·))⟩ := by
  simp only [ofLines, find?_subject_eq_some_iff.2 first, countP_subject]
  cases ofLine path line <;> rfl

theorem ofLines_of_missing (none : ∀ line ∈ lines, ¬ ForAllCpus line) :
    ofLines path ⟨lines, .none⟩ = .error (.missingLine path) := by
  simp only [ofLines, find?_subject_eq_none_iff.2 none]
  rfl

theorem toNat_ofNat_countP (few : lines.length < 2 ^ 32) :
    (UInt32.ofNat (lines.countP (ForOneCpu ·))).toNat =
      lines.countP (ForOneCpu ·) := by
  refine UInt32.toNat_ofNat_of_lt' ?_
  exact Nat.lt_of_le_of_lt List.countP_le_length few

/-- What is read is what the lines tell. -/
theorem ofLines_eq_iff (few : lines.length < 2 ^ 32)
    {result : Except HostCpuError HostCpuUsage} :
    ofLines path ⟨lines, none⟩ = result ↔ Told path lines result := by
  cases found : lines.find? fun text => subject text == .allCpus with
  | none =>
      have missing := find?_subject_eq_none_iff.1 found
      rw [ofLines_of_missing missing]
      constructor
      · rintro rfl
        exact .missing missing
      · intro told
        cases told with
        | missing none => rfl
        | tooFew first | invalid first | usage first =>
            exact absurd first.mem.2 (missing _ first.mem.1)
  | some line =>
      have first := find?_subject_eq_some_iff.1 found
      rw [ofLines_of_first first]
      constructor
      · rintro rfl
        cases read : ofLine path line with
        | ok time =>
            rcases ofLine_eq_ok_iff.1 read with ⟨enough, sums⟩
            exact .usage first enough sums (toNat_ofNat_countP few)
        | error error =>
            rcases ofLine_eq_error_iff.1 read with
              ⟨fewWords, rfl⟩ | ⟨enough, refused⟩
            · exact .tooFew first fewWords
            · exact .invalid first enough refused
      · intro told
        cases told with
        | missing none => exact absurd first.mem.2 (none _ first.mem.1)
        | tooFew again fewWords =>
            obtain rfl := first.unique again
            rw [ofLine_eq_error_iff.2 (Or.inl ⟨fewWords, rfl⟩)]
            rfl
        | invalid again enough refused =>
            obtain rfl := first.unique again
            rw [ofLine_eq_error_iff.2 (Or.inr ⟨enough, refused⟩)]
            rfl
        | @usage _ usage again enough time cpus =>
            obtain rfl := first.unique again
            rw [ofLine_eq_ok_iff.2 ⟨enough, time⟩]
            have count : UInt32.ofNat (lines.countP (ForOneCpu ·)) =
                usage.onlineCpus := by
              rw [← UInt32.toNat_inj, toNat_ofNat_countP few, cpus]
            rw [count]
            rfl

/-- Lines in another order give the same, as long as the first one for all
CPUs stays the first one. -/
theorem ofLines_of_perm {others : List String} (order : others.Perm lines)
    (same : ∀ line, FirstForAllCpus others line ↔ FirstForAllCpus lines line) :
    ofLines path ⟨others, none⟩ = ofLines path ⟨lines, none⟩ := by
  cases found : lines.find? fun text => subject text == .allCpus with
  | none =>
      have missing := find?_subject_eq_none_iff.1 found
      have missingToo : ∀ line ∈ others, ¬ ForAllCpus line :=
        fun line member => missing line (order.mem_iff.1 member)
      rw [ofLines_of_missing missing, ofLines_of_missing missingToo]
  | some line =>
      have first := find?_subject_eq_some_iff.1 found
      rw [ofLines_of_first first, ofLines_of_first ((same line).2 first),
        order.countP_eq]

end Lines

/-! ## Files -/

theorem found_read_of_text {root : Path} {tree : FileTree} {text : String}
    (file : tree.openFile (path root) = .ok (.file (Text.toBytes text))) :
    (read root).found tree =
      ofLines (path root) ⟨Text.linesOf text, none⟩ := by
  simp [read, FileTree.linesAt_of_text file]

/-- The CPU time of a host is what the lines of its file tell, and it is the
same for lines in any order in which the first one for all CPUs is the same. -/
theorem usage_is_exact {root : Path} {tree : FileTree} {text : String}
    (file : tree.openFile (path root) = .ok (.file (Text.toBytes text)))
    (few : (Text.linesOf text).length < 2 ^ 32) :
    (∀ result, (read root).found tree = result ↔
        Told (path root) (Text.linesOf text) result) ∧
      ∀ (other : FileTree) (otherText : String),
        other.openFile (path root) = .ok (.file (Text.toBytes otherText)) →
        (Text.linesOf otherText).Perm (Text.linesOf text) →
        (∀ line, FirstForAllCpus (Text.linesOf otherText) line ↔
          FirstForAllCpus (Text.linesOf text) line) →
        (read root).found other = (read root).found tree := by
  rw [found_read_of_text file]
  refine ⟨fun result => ofLines_eq_iff few, ?_⟩
  intro other otherText otherFile order same
  rw [found_read_of_text otherFile, ofLines_of_perm order same]

/-- A host of whose files only the one with its CPU time is there. -/
def cpuHost (text : String) : FileTree :=
  ((FileTree.empty []).setEntry ["proc"] (some .directory)).setEntry
    ["stat", "proc"] (some (.file (Text.toBytes text)))

/-- The line that is summed stands between those of the CPUs, has a number with
a sign and more words than are summed, and another one like it comes after. -/
def scatteredText : String :=
  "cpu1 1\ncpu 1 2 3 4 5 6 +7 x\nintr\ncpu0 1\ncpu bad"

/-- The same lines, with the one that is summed in front. -/
def gatheredText : String :=
  "cpu 1 2 3 4 5 6 +7 x\ncpu0 1\ncpu bad\ncpu1 1\nintr"

theorem usage_of_scatteredText :
    (read ⟨"/"⟩).found (cpuHost scatteredText) = .ok ⟨280000000, 2⟩ ∧
      (read ⟨"/"⟩).found (cpuHost gatheredText) = .ok ⟨280000000, 2⟩ := by
  have first : FirstForAllCpus (Text.linesOf scatteredText)
      "cpu 1 2 3 4 5 6 +7 x" :=
    find?_subject_eq_some_iff.1 (by decide +kernel)
  have firstToo : FirstForAllCpus (Text.linesOf gatheredText)
      "cpu 1 2 3 4 5 6 +7 x" :=
    find?_subject_eq_some_iff.1 (by decide +kernel)
  have file : (cpuHost scatteredText).openFile (path ⟨"/"⟩) =
      .ok (.file (Text.toBytes scatteredText)) := by
    decide +kernel
  rcases usage_is_exact file (by decide +kernel) with ⟨exact, reorder⟩
  have same := reorder (cpuHost gatheredText) gatheredText
    (by decide +kernel) (by decide +kernel) fun line =>
      ⟨fun again => firstToo.unique again ▸ first,
        fun again => first.unique again ▸ firstToo⟩
  rw [same, and_self, exact]
  refine .usage first (by decide +kernel) ⟨[1, 2, 3, 4, 5, 6, 7], ?_, rfl⟩
    (by decide +kernel)
  simp only [← Numeral.readUInt64_eq_ok_iff]
  decide +kernel

end CgroupMeter.HostCpuUsage
