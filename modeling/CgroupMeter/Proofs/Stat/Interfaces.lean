import CgroupMeter.Proofs.Counter
import CgroupMeter.Proofs.Host.Reading
import CgroupMeter.Proofs.Text.Lines
import CgroupMeter.Proofs.Text.Trimming
import CgroupMeter.Stat.Network

/-!
# What the interfaces of a `net/dev` file add up to

Behind the two header lines, a line counts when it names an interface that is
no loopback and has enough fields to reach the last one that is read.  Each
network counter is the exact sum of the numbers at its position on these lines,
as far as a counter can hold it.  So it depends neither on their order, nor on
lines that do not count, nor on the blanks behind a colon.
-/

namespace CgroupMeter

namespace Lines

/-- A line that is no text is what keeps a file from being read. -/
theorem fault_ofByteLines_of_unreadable {lines : List (List UInt8)}
    {line : List UInt8} (member : line ∈ lines) (unreadable : ¬ Readable line) :
    (ofByteLines lines).fault = some .notUtf8 := by
  induction lines with
  | nil => cases member
  | cons first rest ih =>
      cases read : Text.ofBytes first with
      | none => rw [ofByteLines_cons_fault read]
      | some text =>
          rw [ofByteLines_cons_text read]
          rcases List.mem_cons.1 member with rfl | later
          · exact absurd ⟨text, read⟩ unreadable
          · exact ih later

end Lines

/-- The fields of an interface, enough to reach the last one that is read. -/
structure InterfaceLine where
  fields : List String
  enough : 12 ≤ fields.length

namespace InterfaceLine

/-- The number that a field tells, which is zero if it is none. -/
def numberOf (field : String) : Nat :=
  match Numeral.readUInt64 field with
  | .ok number => number.toNat
  | .error _ => 0

/-- The number at a position of an interface. -/
def number (line : InterfaceLine) (position : Fin 12) : Nat :=
  numberOf (line.fields.get
    ⟨position, Nat.lt_of_lt_of_le position.isLt line.enough⟩)

/-- The interface on a line: its name stands before the first colon and its
fields behind it.  Loopback interfaces do not count. -/
def ofLine? (line : String) : Option InterfaceLine :=
  match Text.cut ':' line with
  | none => none
  | some (name, data) =>
      if ['l', 'o'] <+: (Text.trim name).toList then none
      else if enough : 12 ≤ (Text.words data).length then
        some ⟨Text.words data, enough⟩
      else none

/-- The exact sum of the numbers at a position on the lines that count. -/
def sumAt (position : Fin 12) (lines : List String) : Nat :=
  ((lines.filterMap ofLine?).map fun line => line.number position).sum

end InterfaceLine

namespace NetworkStat

open InterfaceLine

/-- A line that does not count. -/
inductive Uncounted (line : String) : Prop where
  | blank (all : Text.isBlankText line = true)
  | noColon (none : ':' ∉ line.toList)
  | loopback {name data : String} (parts : line = name ++ ":" ++ data)
      (clean : ':' ∉ name.toList)
      (start : ['l', 'o'] <+: (Text.trim name).toList)
  | short {name data : String} (parts : line = name ++ ":" ++ data)
      (clean : ':' ∉ name.toList) (few : (Text.words data).length < 12)

/-- What a line says does not depend on the blanks at its ends. -/
theorem meaning_eq (line : String) :
    meaning line =
      match Text.cut ':' line with
      | none => if Text.trim line = "" then .blank else .malformed
      | some (name, data) =>
          if loopbackStart.isPrefixOf (Text.trim name).toList then .loopback
          else if neededCounters ≤ (Text.words data).length then
            .traffic (ofCounters (Text.words data))
          else .malformed := by
  have solid : Text.isBlank ':' = false := by decide
  simp only [meaning]
  rw [Text.cut_trim solid]
  cases Text.cut ':' line with
  | none => rfl
  | some pair => simp only [Option.map_some, Text.trim_trimStart,
      Text.words_trimEnd]

/-- A line adds the counters of its interface, or nothing. -/
theorem stat_meaning (line : String) :
    (meaning line).stat =
      match ofLine? line with
      | none => zero
      | some interface => ofCounters interface.fields := by
  rw [meaning_eq, ofLine?]
  cases Text.cut ':' line with
  | none => simp only; split <;> rfl
  | some pair =>
      rcases pair with ⟨name, data⟩
      by_cases start : ['l', 'o'] <+: (Text.trim name).toList
      · simp [loopbackStart, start, LineMeaning.stat]
      · by_cases enough : 12 ≤ (Text.words data).length <;>
          simp [loopbackStart, start, neededCounters, enough, LineMeaning.stat]

theorem ofLine?_eq_none_iff {line : String} :
    ofLine? line = none ↔ Uncounted line := by
  unfold ofLine?
  cases parts : Text.cut ':' line with
  | none =>
      rw [Text.cut_eq_none_iff] at parts
      simpa using Uncounted.noColon parts
  | some pair =>
      rcases pair with ⟨name, data⟩
      rcases Text.cut_eq_some_iff.1 parts with ⟨split, clean⟩
      by_cases start : ['l', 'o'] <+: (Text.trim name).toList
      · simpa [start] using Uncounted.loopback split clean start
      · by_cases enough : 12 ≤ (Text.words data).length
        · have counted : ¬ Uncounted line := by
            intro uncounted
            have colon : ':' ∈ line.toList := by simp [split]
            have only {other rest : String} (same : line = other ++ ":" ++ rest)
                (clean : ':' ∉ other.toList) : other = name ∧ rest = data := by
              have cut : Text.cut ':' line = some (other, rest) :=
                Text.cut_eq_some_iff.2 ⟨same, clean⟩
              simpa [parts, eq_comm] using cut
            cases uncounted with
            | blank all =>
                have blank := List.all_eq_true.1 all ':' colon
                exact absurd blank (by decide)
            | noColon none => exact none colon
            | loopback same clean begins =>
                obtain ⟨rfl, -⟩ := only same clean
                exact start begins
            | short same clean few =>
                obtain ⟨-, rfl⟩ := only same clean
                omega
          simpa [start, enough] using counted
        · simpa [start, enough] using
            Uncounted.short split clean (Nat.lt_of_not_le enough)

/-! ## Sums over lines -/

theorem counterAt_fields (line : InterfaceLine) (position : Fin 12) :
    (counterAt line.fields position).toNat = line.number position := by
  have inside : position.val < line.fields.length :=
    Nat.lt_of_lt_of_le position.isLt line.enough
  rw [counterAt, List.getElem?_eq_getElem inside, number, numberOf]
  simp only [List.get_eq_getElem]
  cases Numeral.readUInt64 line.fields[position.val] <;>
    simp [Except.toOption]

section Field

variable {field : NetworkStat → Counter} {position : Fin 12}

/-- A counter of all lines together is the sum of that of each. -/
theorem field_total
    (adds : ∀ left right,
      field (add left right) = Counter.add (field left) (field right))
    (start : field zero = 0) (lines : List String) :
    field (total lines) =
      Counter.sum (lines.map fun line => field (meaning line).stat) := by
  have folded : ∀ stat, field (lines.foldl
      (fun sum line => add sum (meaning line).stat) stat) =
        (lines.map fun line => field (meaning line).stat).foldl Counter.add
          (field stat) := by
    induction lines with
    | nil => exact fun _ => rfl
    | cons line rest ih =>
        intro stat
        rw [List.foldl_cons, ih, adds, List.map_cons, List.foldl_cons]
  rw [total, folded, start]
  rfl

/-- A counter that is read at a position sums up the numbers there. -/
theorem toNat_field_total
    (adds : ∀ left right,
      field (add left right) = Counter.add (field left) (field right))
    (start : field zero = 0)
    (placed : ∀ counters,
      field (ofCounters counters) = counterAt counters position)
    (lines : List String) :
    (field (total lines)).toNat =
      min (2 ^ 64 - 1) (sumAt position lines) := by
  have exact : Counter.exactSum
      (lines.map fun line => field (meaning line).stat) =
        sumAt position lines := by
    induction lines with
    | nil => rfl
    | cons line rest ih =>
        rw [List.map_cons, Counter.exactSum, ih, stat_meaning, sumAt, sumAt,
          List.filterMap_cons]
        cases ofLine? line with
        | none => simp [start]
        | some counted => simp [placed, counterAt_fields]
  rw [field_total adds start, Counter.toNat_sum, exact, Nat.min_comm]
  rfl

end Field

/-- Each counter is the exact sum at its position, at most the largest
counter. -/
structure SumsUp (stat : NetworkStat) (lines : List String) : Prop where
  receivedBytes : stat.receivedBytes.toNat = min (2 ^ 64 - 1) (sumAt 0 lines)
  receivedPackets :
    stat.receivedPackets.toNat = min (2 ^ 64 - 1) (sumAt 1 lines)
  receiveErrors : stat.receiveErrors.toNat = min (2 ^ 64 - 1) (sumAt 2 lines)
  receiveDropped : stat.receiveDropped.toNat = min (2 ^ 64 - 1) (sumAt 3 lines)
  sentBytes : stat.sentBytes.toNat = min (2 ^ 64 - 1) (sumAt 8 lines)
  sentPackets : stat.sentPackets.toNat = min (2 ^ 64 - 1) (sumAt 9 lines)
  sendErrors : stat.sendErrors.toNat = min (2 ^ 64 - 1) (sumAt 10 lines)
  sendDropped : stat.sendDropped.toNat = min (2 ^ 64 - 1) (sumAt 11 lines)

theorem sumsUp_total (lines : List String) : SumsUp (total lines) lines where
  receivedBytes := toNat_field_total (fun _ _ => rfl) rfl (fun _ => rfl) lines
  receivedPackets := toNat_field_total (fun _ _ => rfl) rfl (fun _ => rfl) lines
  receiveErrors := toNat_field_total (fun _ _ => rfl) rfl (fun _ => rfl) lines
  receiveDropped := toNat_field_total (fun _ _ => rfl) rfl (fun _ => rfl) lines
  sentBytes := toNat_field_total (fun _ _ => rfl) rfl (fun _ => rfl) lines
  sentPackets := toNat_field_total (fun _ _ => rfl) rfl (fun _ => rfl) lines
  sendErrors := toNat_field_total (fun _ _ => rfl) rfl (fun _ => rfl) lines
  sendDropped := toNat_field_total (fun _ _ => rfl) rfl (fun _ => rfl) lines

/-- Counters that sum up to the same are the same. -/
theorem SumsUp.unique {stat other : NetworkStat} {lines others : List String}
    (sums : SumsUp stat lines) (again : SumsUp other others)
    (same : ∀ position, sumAt position lines = sumAt position others) :
    stat = other := by
  have equal {counter second : Counter} {position : Fin 12}
      (first : counter.toNat = min (2 ^ 64 - 1) (sumAt position lines))
      (last : second.toNat = min (2 ^ 64 - 1) (sumAt position others)) :
      counter = second := by
    apply Counter.eq_of_toNat
    rw [first, last, same]
  cases stat
  cases other
  simp only [mk.injEq]
  exact ⟨equal sums.receivedBytes again.receivedBytes,
    equal sums.receivedPackets again.receivedPackets,
    equal sums.receiveErrors again.receiveErrors,
    equal sums.receiveDropped again.receiveDropped,
    equal sums.sentBytes again.sentBytes,
    equal sums.sentPackets again.sentPackets,
    equal sums.sendErrors again.sendErrors,
    equal sums.sendDropped again.sendDropped⟩

/-! ## Lines that are rearranged -/

/-- Lines are put in another order, lines that do not count are put in or taken
out, and blanks are put behind a colon or taken from there. -/
inductive Rearranged : List String → List String → Prop where
  | reordered {lines others : List String} (order : lines.Perm others) :
      Rearranged lines others
  | uncounted {line : String} {lines : List String}
      (uncounted : Uncounted line) : Rearranged (line :: lines) lines
  | spaced {name blanks data : String} {lines : List String}
      (clean : ':' ∉ name.toList) (blank : Text.isBlankText blanks = true) :
      Rearranged ((name ++ ":" ++ (blanks ++ data)) :: lines)
        ((name ++ ":" ++ data) :: lines)
  | symm {lines others : List String} (step : Rearranged lines others) :
      Rearranged others lines
  | trans {lines others further : List String}
      (step : Rearranged lines others) (next : Rearranged others further) :
      Rearranged lines further

theorem ofLine?_spaced {name blanks : String} (clean : ':' ∉ name.toList)
    (blank : Text.isBlankText blanks = true) (data : String) :
    ofLine? (name ++ ":" ++ (blanks ++ data)) = ofLine? (name ++ ":" ++ data) := by
  have words : Text.words (blanks ++ data) = Text.words data := by
    have each : ∀ char ∈ blanks.toList, Text.isBlank char = true := by
      simpa [Text.isBlankText] using blank
    rw [Text.words, String.toList_append,
      Text.wordsOfChars_append_of_blank each, Text.words]
  have cut (rest : String) :
      Text.cut ':' (name ++ ":" ++ rest) = some (name, rest) :=
    Text.cut_append clean rest
  simp only [ofLine?, cut, words]

theorem Rearranged.sumAt_eq {lines others : List String}
    (rearranged : Rearranged lines others) (position : Fin 12) :
    sumAt position lines = sumAt position others := by
  induction rearranged with
  | reordered order => exact ((order.filterMap _).map _).sum_nat
  | uncounted uncounted =>
      rw [sumAt, List.filterMap_cons, ofLine?_eq_none_iff.2 uncounted, sumAt]
  | spaced clean blank =>
      rw [sumAt, sumAt, List.filterMap_cons, List.filterMap_cons,
        ofLine?_spaced clean blank]
  | symm _ ih => exact ih.symm
  | trans _ _ first second => exact first.trans second

/-! ## Files -/

@[simp]
theorem found_read (lines : Lines) (tree : FileTree) :
    (read lines).found tree =
      lines.finish (total (lines.texts.drop headerLines)) := by
  simp [read]

/-- Each counter of a text is the exact sum at its position, and all positions
that are read are on the line.  Rearranged lines sum up to the same, and a file
with a line that is no text has no sums. -/
theorem read_sums_interfaces (tree : FileTree) (text : String) :
    (∃ stat, (read (.ofText text)).found tree = .ok stat ∧
        SumsUp stat ((Text.linesOf text).drop 2)) ∧
      (∀ line stat, meaning line = .traffic stat → ∃ name data,
        line = name ++ ":" ++ data ∧ ':' ∉ name.toList ∧
          stat = ofCounters (Text.words data) ∧
          ∀ position ∈ [0, 1, 2, 3, 8, 9, 10, 11],
            position < (Text.words data).length) ∧
      (∀ other : String, Rearranged ((Text.linesOf text).drop 2)
          ((Text.linesOf other).drop 2) →
        (read (.ofText other)).found tree =
          (read (.ofText text)).found tree) ∧
      ∀ bytes, (∃ line ∈ Text.linesBy Text.newline bytes,
          ¬ Lines.Readable line) →
        (read (.ofBytes bytes)).found tree = .error .notUtf8 := by
  refine ⟨?_, ?_, ?_, ?_⟩
  · refine ⟨total ((Text.linesOf text).drop 2), ?_, sumsUp_total _⟩
    rw [found_read, Lines.ofText_eq]
    rfl
  · intro line stat traffic
    rw [meaning_eq] at traffic
    split at traffic
    · split at traffic <;> cases traffic
    · rename_i name data parts
      rcases Text.cut_eq_some_iff.1 parts with ⟨split, clean⟩
      split at traffic
      · cases traffic
      · split at traffic
        · rename_i enough
          cases traffic
          refine ⟨name, data, split, clean, rfl, ?_⟩
          have needed : neededCounters = 12 := rfl
          simp only [List.forall_mem_cons, List.not_mem_nil, false_imp_iff,
            implies_true, and_true]
          omega
        · cases traffic
  · intro other rearranged
    have same := (sumsUp_total _).unique (sumsUp_total _)
      rearranged.sumAt_eq
    rw [found_read, found_read, Lines.ofText_eq, Lines.ofText_eq]
    exact congrArg Except.ok same.symm
  · rintro bytes ⟨line, member, unreadable⟩
    have faulty := Lines.fault_ofByteLines_of_unreadable member unreadable
    rw [found_read, Lines.finish, Lines.ofBytes, faulty]

/-- The first counter may follow the colon at once; the loopback, a blank line
and a line with two fields do not count. -/
theorem traffic_of_one_interface :
    (read (.ofText "h\nh\neth1: 1 2\neth0: \t7 0 0 0 0 0 0 0 9 0 0 x")).found
        (FileTree.empty []) = .ok ⟨7, 0, 0, 0, 9, 0, 0, 0⟩ ∧
      (read (.ofBytes [104, 10, 104, 10, 0xFF])).found (FileTree.empty []) =
        .error .notUtf8 := by
  have alone : (read (.ofText
      "\n\neth0:7 0 0 0 0 0 0 0 9 0 0 x\n\nlo: 1 1 1 1 1 1 1 1 1 1 1 1")).found
        (FileTree.empty []) = .ok ⟨7, 0, 0, 0, 9, 0, 0, 0⟩ := by
    decide +kernel
  have lines : (Text.linesOf
      "\n\neth0:7 0 0 0 0 0 0 0 9 0 0 x\n\nlo: 1 1 1 1 1 1 1 1 1 1 1 1").drop 2 =
        ["eth0" ++ ":" ++ "7 0 0 0 0 0 0 0 9 0 0 x", "",
          "lo" ++ ":" ++ " 1 1 1 1 1 1 1 1 1 1 1 1"] := by
    decide +kernel
  have others : (Text.linesOf
      "h\nh\neth1: 1 2\neth0: \t7 0 0 0 0 0 0 0 9 0 0 x").drop 2 =
        ["eth1" ++ ":" ++ " 1 2",
          "eth0" ++ ":" ++ (" \t" ++ "7 0 0 0 0 0 0 0 9 0 0 x")] := by
    decide +kernel
  have idle : Uncounted ("lo" ++ ":" ++ " 1 1 1 1 1 1 1 1 1 1 1 1") :=
    .loopback rfl (by decide) (by decide)
  have short : Uncounted ("eth1" ++ ":" ++ " 1 2") :=
    .short rfl (by decide) (by decide)
  have bytes : ∃ line ∈ Text.linesBy Text.newline [104, 10, 104, 10, 0xFF],
      ¬ Lines.Readable line := by
    refine ⟨[0xFF], by decide, ?_⟩
    rintro ⟨text, read⟩
    have unread : Text.ofBytes [0xFF] = none := by decide +kernel
    rw [unread] at read
    cases read
  rcases read_sums_interfaces (FileTree.empty [])
    "\n\neth0:7 0 0 0 0 0 0 0 9 0 0 x\n\nlo: 1 1 1 1 1 1 1 1 1 1 1 1" with
    ⟨-, -, rearranged, unread⟩
  refine ⟨(rearranged _ ?_).trans alone, unread _ bytes⟩
  rw [lines, others]
  have bare : Rearranged ["eth0" ++ ":" ++ "7 0 0 0 0 0 0 0 9 0 0 x", "",
      "lo" ++ ":" ++ " 1 1 1 1 1 1 1 1 1 1 1 1"]
      ["eth0" ++ ":" ++ "7 0 0 0 0 0 0 0 9 0 0 x"] :=
    .trans (.reordered (List.reverse_perm _).symm)
      (.trans (.uncounted idle) (.uncounted (.blank rfl)))
  have spaced : Rearranged ["eth0" ++ ":" ++ "7 0 0 0 0 0 0 0 9 0 0 x"]
      ["eth0" ++ ":" ++ (" \t" ++ "7 0 0 0 0 0 0 0 9 0 0 x")] :=
    .symm (.spaced (by decide) (by decide))
  exact .trans bare (.trans spaced (.symm (.uncounted short)))

end NetworkStat

end CgroupMeter
