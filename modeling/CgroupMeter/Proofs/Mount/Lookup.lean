import CgroupMeter.Mount.Table
import CgroupMeter.Proofs.Host.Reading
import CgroupMeter.Proofs.Text.Words

/-!
# What is found in a mount table

A line of the mount table can be used when it is text and is blank or has four
words.  The entries of a table are those on its lines before the first one
that cannot be used.  The look-up of the hierarchies of single controllers
needs all lines; the look-up of the unified hierarchy needs the lines up to
the first mount of its type.
-/

namespace CgroupMeter

namespace KeyMap

variable {α : Type}

theorem isSome_find?_foldl (entries : List (String × α)) (start : KeyMap α)
    (key : String) :
    ((entries.foldl (fun map entry => map.insert entry.1 entry.2) start).find?
        key).isSome ↔
      (start.find? key).isSome ∨ ∃ value, (key, value) ∈ entries := by
  induction entries generalizing start with
  | nil => simp
  | cons entry rest ih =>
      rcases entry with ⟨first, value⟩
      rw [List.foldl_cons, ih]
      by_cases same : first = key
      · simp [same]
      · simp [same, Ne.symm same]

theorem isSome_find?_ofList (entries : List (String × α)) (key : String) :
    ((ofList entries).find? key).isSome ↔ ∃ value, (key, value) ∈ entries := by
  simp [ofList, isSome_find?_foldl]

theorem isEmpty_eq_false_iff {map : KeyMap α} :
    map.isEmpty = false ↔ ∃ key, (map.find? key).isSome := by
  rw [isEmpty, List.isEmpty_eq_false_iff_exists_mem]
  constructor
  · rintro ⟨⟨key, value⟩, member⟩
    exact ⟨key, by rw [mem_entries_iff.1 member]; rfl⟩
  · rintro ⟨key, told⟩
    rcases Option.isSome_iff_exists.1 told with ⟨value, found⟩
    exact ⟨(key, value), mem_entries_iff.2 found⟩

theorem isEmpty_eq_false_of_find? {map : KeyMap α} {key : String}
    (told : (map.find? key).isSome) : map.isEmpty = false :=
  isEmpty_eq_false_iff.2 ⟨key, told⟩

end KeyMap

namespace MountEntry

/-- The first four words of a line tell of a mounted file system. -/
def WrittenOn (entry : MountEntry) (line : List UInt8) : Prop :=
  ∃ text further, Text.ofBytes line = some text ∧
    Text.words text =
      entry.device :: entry.mountPoint :: entry.fsType :: entry.options ::
        further

theorem ofLine_eq_ok_iff {text : String} {entry : MountEntry} :
    ofLine text = .ok entry ↔
      ∃ further, Text.words text =
        entry.device :: entry.mountPoint :: entry.fsType :: entry.options ::
          further := by
  rcases entry with ⟨device, mountPoint, fsType, options⟩
  rcases words : Text.words text with
    _ | ⟨first, _ | ⟨second, _ | ⟨third, _ | ⟨fourth, rest⟩⟩⟩⟩
  all_goals simp [ofLine, words]

theorem ofLine_of_length {text : String}
    (columns : 4 ≤ (Text.words text).length) :
    ∃ entry, ofLine text = .ok entry := by
  rcases words : Text.words text with
    _ | ⟨first, _ | ⟨second, _ | ⟨third, _ | ⟨fourth, rest⟩⟩⟩⟩
  all_goals simp_all [ofLine]

theorem length_of_ofLine {text : String} {entry : MountEntry}
    (told : ofLine text = .ok entry) : 4 ≤ (Text.words text).length := by
  rcases ofLine_eq_ok_iff.1 told with ⟨further, words⟩
  simp [words]

end MountEntry

namespace MountTable

/-- A line that can be used: it is text, and blank or with four words. -/
def UsableLine (line : List UInt8) : Prop :=
  ∃ text, Text.ofBytes line = some text ∧
    (Text.words text = [] ∨ 4 ≤ (Text.words text).length)

/-- A line mounts the hierarchy of a controller in a directory. -/
def Mounted (lines : List (List UInt8)) (controller : String) : Prop :=
  ∃ entry : MountEntry, ∃ line ∈ lines, entry.WrittenOn line ∧
    entry.fsType = controllerFsType ∧
    (Path.parent ⟨entry.mountPoint⟩).isSome ∧
    controller ∈ Text.split ',' entry.options

/-- A line mounts the unified hierarchy, and all lines before it can be
used. -/
def MountedUnified (lines : List (List UInt8)) : Prop :=
  ∃ entry : MountEntry, ∃ before line after,
    lines = before ++ line :: after ∧
    (∀ earlier ∈ before, UsableLine earlier) ∧ entry.WrittenOn line ∧
    entry.fsType = unifiedFsType

/-- What the lines of a file tell. -/
def ofByteLines (path : Path) (lines : List (List UInt8)) : MountTable :=
  ofLines path (Lines.ofByteLines lines)

section Lines

variable (path : Path) {line : List UInt8} {text : String}
    (rest : List (List UInt8))

theorem ofByteLines_unread (unread : Text.ofBytes line = none) :
    ofByteLines path (line :: rest) =
      ⟨path, [], some (.readLine path .notUtf8)⟩ := by
  simp [ofByteLines, ofLines, Lines.ofByteLines_cons_fault unread, parseTexts]

theorem ofByteLines_blank (read : Text.ofBytes line = some text)
    (blank : Text.words text = []) :
    ofByteLines path (line :: rest) = ofByteLines path rest := by
  have skipped := (Text.words_eq_nil_iff text).1 blank
  simp [ofByteLines, ofLines, Lines.ofByteLines_cons_text read, parseTexts,
    skipped]

theorem ofByteLines_entry {entry : MountEntry}
    (read : Text.ofBytes line = some text)
    (told : MountEntry.ofLine text = .ok entry) :
    ofByteLines path (line :: rest) =
      { ofByteLines path rest with
        entries := entry :: (ofByteLines path rest).entries } := by
  have filled : Text.isBlankText text = false := by
    have columns := MountEntry.length_of_ofLine told
    cases blank : Text.isBlankText text with
    | false => rfl
    | true => simp [(Text.words_eq_nil_iff text).2 blank] at columns
  simp [ofByteLines, ofLines, Lines.ofByteLines_cons_text read, parseTexts,
    filled, told]

theorem ofByteLines_short {error : MissingField}
    (read : Text.ofBytes line = some text)
    (filled : Text.words text ≠ [])
    (short : MountEntry.ofLine text = .error error) :
    ofByteLines path (line :: rest) =
      ⟨path, [], some (.parse path error)⟩ := by
  have notBlank : Text.isBlankText text = false := by
    cases blank : Text.isBlankText text with
    | false => rfl
    | true => exact absurd ((Text.words_eq_nil_iff text).2 blank) filled
  simp [ofByteLines, ofLines, Lines.ofByteLines_cons_text read, parseTexts,
    notBlank, short]

end Lines

/-- What a first line does to the table of the lines after it. -/
theorem ofByteLines_cons (path : Path) (line : List UInt8)
    (rest : List (List UInt8)) :
    (UsableLine line ∧ (∀ entry : MountEntry, ¬ entry.WrittenOn line) ∧
        ofByteLines path (line :: rest) = ofByteLines path rest) ∨
      (∃ entry : MountEntry, UsableLine line ∧
        (∀ other : MountEntry, other.WrittenOn line ↔ other = entry) ∧
        ofByteLines path (line :: rest) =
          { ofByteLines path rest with
            entries := entry :: (ofByteLines path rest).entries }) ∨
      (¬ UsableLine line ∧ (∀ entry : MountEntry, ¬ entry.WrittenOn line) ∧
        ∃ error, ofByteLines path (line :: rest) = ⟨path, [], some error⟩) := by
  cases read : Text.ofBytes line with
  | none =>
      refine Or.inr (Or.inr ⟨?_, ?_, _, ofByteLines_unread path rest read⟩)
      · simp [UsableLine, read]
      · simp [MountEntry.WrittenOn, read]
  | some text =>
      have written : ∀ entry : MountEntry,
          entry.WrittenOn line ↔ MountEntry.ofLine text = .ok entry := by
        intro entry
        simp [MountEntry.WrittenOn, read, MountEntry.ofLine_eq_ok_iff]
      by_cases blank : Text.words text = []
      · refine Or.inl ⟨⟨text, read, Or.inl blank⟩, ?_,
          ofByteLines_blank path rest read blank⟩
        intro entry
        rw [written, MountEntry.ofLine_eq_ok_iff]
        simp [blank]
      · cases told : MountEntry.ofLine text with
        | ok entry =>
            refine Or.inr (Or.inl ⟨entry, ?_, ?_,
              ofByteLines_entry path rest read told⟩)
            · exact ⟨text, read, Or.inr (MountEntry.length_of_ofLine told)⟩
            · intro other
              rw [written, told]
              simp [eq_comm]
        | error error =>
            refine Or.inr (Or.inr ⟨?_, ?_, _,
              ofByteLines_short path rest read blank told⟩)
            · rintro ⟨again, readAgain, empty | columns⟩
              · cases read.symm.trans readAgain
                exact blank empty
              · cases read.symm.trans readAgain
                rcases MountEntry.ofLine_of_length columns with ⟨entry, ok⟩
                rw [told] at ok
                cases ok
            · intro entry
              rw [written, told]
              simp

/-- A table can be used to its end exactly when each of its lines can. -/
theorem fault_ofByteLines_eq_none_iff (path : Path)
    (lines : List (List UInt8)) :
    (ofByteLines path lines).fault = none ↔
      ∀ line ∈ lines, UsableLine line := by
  induction lines with
  | nil => simp [ofByteLines, ofLines, Lines.ofByteLines, parseTexts]
  | cons line rest ih =>
      rcases ofByteLines_cons path line rest with
        ⟨usable, -, table⟩ | ⟨entry, usable, -, table⟩ |
        ⟨unusable, -, error, table⟩
      · simp [table, usable, ih]
      · simp [table, usable, ih]
      · simp [table, unusable]

/-- The entries of a table are those that are written on a line before which
every line can be used. -/
theorem mem_entries_ofByteLines_iff {path : Path}
    {lines : List (List UInt8)} {entry : MountEntry} :
    entry ∈ (ofByteLines path lines).entries ↔
      ∃ before line after, lines = before ++ line :: after ∧
        (∀ earlier ∈ before, UsableLine earlier) ∧ entry.WrittenOn line := by
  induction lines with
  | nil => simp [ofByteLines, ofLines, Lines.ofByteLines, parseTexts]
  | cons first rest ih =>
      -- The line with the entry is the first one, or stands in the rest.
      have split : (∃ before line after,
          first :: rest = before ++ line :: after ∧
            (∀ earlier ∈ before, UsableLine earlier) ∧
            entry.WrittenOn line) ↔
          entry.WrittenOn first ∨
            UsableLine first ∧ entry ∈ (ofByteLines path rest).entries := by
        rw [ih]
        constructor
        · rintro ⟨_ | ⟨head, before⟩, line, after, lines, usable, written⟩
          · cases lines
            exact Or.inl written
          · cases lines
            exact Or.inr ⟨usable first List.mem_cons_self, before, line, after,
              rfl, fun earlier member =>
                usable earlier (List.mem_cons_of_mem _ member), written⟩
        · rintro (written | ⟨usable, before, line, after, rfl, others, written⟩)
          · exact ⟨[], first, rest, rfl, by simp, written⟩
          · refine ⟨first :: before, line, after, rfl, ?_, written⟩
            simpa [usable] using others
      rw [split]
      rcases ofByteLines_cons path first rest with
        ⟨usable, blank, table⟩ | ⟨told, usable, written, table⟩ |
        ⟨unusable, blank, error, table⟩
      · simp [table, usable, blank]
      · simp [table, usable, written]
      · simp [table, unusable, blank]

theorem mem_entries_of_usable {path : Path} {lines : List (List UInt8)}
    (usable : ∀ line ∈ lines, UsableLine line) {entry : MountEntry} :
    entry ∈ (ofByteLines path lines).entries ↔
      ∃ line ∈ lines, entry.WrittenOn line := by
  rw [mem_entries_ofByteLines_iff]
  constructor
  · rintro ⟨before, line, after, rfl, -, written⟩
    exact ⟨line, by simp, written⟩
  · rintro ⟨line, member, written⟩
    rcases List.append_of_mem member with ⟨before, after, rfl⟩
    exact ⟨before, line, after, rfl, fun earlier inside =>
      usable earlier (by simp [inside]), written⟩

/-! ## Look-ups -/

theorem found_read (root : Path) (tree : FileTree) :
    (read root).found tree =
      match tree.linesAt (tablePath root) with
      | .error error => .error (.openFile error)
      | .ok lines => .ok (ofLines (tablePath root) lines) := by
  cases opened : tree.linesAt (tablePath root) <;> simp [read, opened]

/-- The table gives a value, and its lines are used to the end. -/
theorem finish_bind_eq_ok_iff {α β : Type} {table : MountTable} {value : α}
    {next : α → Except MountError β} {result : β} :
    (table.finish value >>= next) = .ok result ↔
      table.fault = none ∧ next value = .ok result := by
  cases fault : table.fault with
  | none => simp [finish, fault, bind, Except.bind]
  | some error => simp [finish, fault, bind, Except.bind]

theorem found_read_of_byteLinesAt {root : Path} {tree : FileTree}
    {lines : List (List UInt8)}
    (file : tree.byteLinesAt (tablePath root) = some lines) :
    (read root).found tree = .ok (ofByteLines (tablePath root) lines) := by
  simp [found_read, FileTree.linesAt_of_byteLinesAt file, ofByteLines]

theorem not_used_of_byteLinesAt_eq_none {root : Path} {tree : FileTree}
    {table : MountTable}
    (noFile : tree.byteLinesAt (tablePath root) = none)
    (told : (read root).found tree = .ok table) :
    table.entries = [] ∧ table.fault ≠ none := by
  rw [found_read] at told
  rcases FileTree.linesAt_of_byteLinesAt_eq_none noFile with
    ⟨error, opened⟩ | opened
  · simp [opened] at told
  · simp only [opened, Except.ok.injEq] at told
    subst told
    simp [ofLines, parseTexts]

/-- A table with an entry, or without a fault, is that of a file. -/
theorem byteLinesAt_of_used {root : Path} {tree : FileTree}
    {table : MountTable} (told : (read root).found tree = .ok table)
    (used : table.entries ≠ [] ∨ table.fault = none) :
    ∃ lines, tree.byteLinesAt (tablePath root) = some lines ∧
      table = ofByteLines (tablePath root) lines := by
  cases file : tree.byteLinesAt (tablePath root) with
  | none =>
      rcases not_used_of_byteLinesAt_eq_none file told with ⟨empty, fault⟩
      rcases used with filled | whole
      · exact absurd empty filled
      · exact absurd whole fault
  | some lines =>
      exact ⟨lines, rfl, Except.ok.inj
        (told.symm.trans (found_read_of_byteLinesAt file))⟩

theorem byteLinesAt_of_mem {root : Path} {tree : FileTree}
    {table : MountTable} {entry : MountEntry}
    (told : (read root).found tree = .ok table)
    (member : entry ∈ table.entries) :
    ∃ lines, tree.byteLinesAt (tablePath root) = some lines ∧
      table = ofByteLines (tablePath root) lines :=
  byteLinesAt_of_used told (Or.inl (List.ne_nil_of_mem member))

/-- A table that is used to its end is that of a file, and all its lines can
be used. -/
theorem byteLinesAt_of_whole {root : Path} {tree : FileTree}
    {table : MountTable} (told : (read root).found tree = .ok table)
    (whole : table.fault = none) :
    ∃ lines, tree.byteLinesAt (tablePath root) = some lines ∧
      (∀ line ∈ lines, UsableLine line) ∧
      table = ofByteLines (tablePath root) lines := by
  rcases byteLinesAt_of_used told (Or.inr whole) with ⟨lines, file, rfl⟩
  exact ⟨lines, file, (fault_ofByteLines_eq_none_iff _ lines).1 whole, rfl⟩

theorem found_controllerMounts_eq_ok_iff {root : Path} {fsType : String}
    {tree : FileTree} {mounts : KeyMap Path} :
    (controllerMounts root fsType).found tree = .ok mounts ↔
      ∃ table, (read root).found tree = .ok table ∧ table.fault = none ∧
        mounts = KeyMap.ofList
          (table.entries.flatMap (controllerDirectories root fsType)) ∧
        mounts.isEmpty = false := by
  cases told : (read root).found tree with
  | error error => simp [controllerMounts, told]
  | ok table =>
      simp only [controllerMounts, Inquiry.found_bind, told,
        Inquiry.found_pure, finish_bind_eq_ok_iff, Except.ok.injEq,
        exists_eq_left']
      refine and_congr_right fun _ => ?_
      constructor
      · intro found
        split at found
        · cases found
        · rename_i filled
          cases found
          exact ⟨rfl, by simpa using filled⟩
      · rintro ⟨rfl, filled⟩
        simp [filled]

theorem found_unifiedMount_eq_ok_iff {root : Path} {fsType : String}
    {tree : FileTree} {mount : Path} :
    (unifiedMount root fsType).found tree = .ok mount ↔
      ∃ table entry, (read root).found tree = .ok table ∧
        table.entries.find? (fun entry => entry.fsType == fsType) =
          some entry ∧
        mount = Path.below ⟨entry.mountPoint⟩ root := by
  cases told : (read root).found tree with
  | error error => simp [unifiedMount, told]
  | ok table =>
      cases entry : table.entries.find? fun entry => entry.fsType == fsType with
      | some entry => simp [unifiedMount, told, entry, eq_comm]
      | none => simp [unifiedMount, told, entry, finish_bind_eq_ok_iff]

/-- The directories that the lines of a file tell. -/
def directories (root : Path) (lines : List (List UInt8)) : KeyMap Path :=
  KeyMap.ofList ((ofByteLines (tablePath root) lines).entries.flatMap
    (controllerDirectories root controllerFsType))

theorem found_controllerMounts_of_file {root : Path} {tree : FileTree}
    {mounts : KeyMap Path} :
    (controllerMounts root controllerFsType).found tree = .ok mounts ↔
      ∃ lines, tree.byteLinesAt (tablePath root) = some lines ∧
        (∀ line ∈ lines, UsableLine line) ∧
        mounts = directories root lines ∧ mounts.isEmpty = false := by
  rw [found_controllerMounts_eq_ok_iff]
  constructor
  · rintro ⟨table, told, whole, rfl, filled⟩
    rcases byteLinesAt_of_whole told whole with ⟨lines, file, usable, rfl⟩
    exact ⟨lines, file, usable, rfl, filled⟩
  · rintro ⟨lines, file, usable, rfl, filled⟩
    exact ⟨_, found_read_of_byteLinesAt file,
      (fault_ofByteLines_eq_none_iff _ lines).2 usable, rfl, filled⟩

theorem mem_controllerDirectories_iff {root : Path} {fsType : String}
    {entry : MountEntry} {controller : String} {directory : Path} :
    (controller, directory) ∈ controllerDirectories root fsType entry ↔
      entry.fsType = fsType ∧ controller ∈ controllers entry ∧
        ∃ parent, Path.parent ⟨entry.mountPoint⟩ = some parent ∧
          directory = parent.below root := by
  by_cases type : entry.fsType = fsType
  · cases parent : Path.parent ⟨entry.mountPoint⟩ with
    | none => simp [controllerDirectories, type, parent]
    | some outer =>
        simp [controllerDirectories, type, parent, eq_comm]
  · simp [controllerDirectories, type]

theorem mem_controllers_iff {entry : MountEntry} {controller : String} :
    controller ∈ controllers entry ↔
      controller ∈ Text.split ',' entry.options ∧
        controller ∈ knownControllers := by
  have named : "" ∉ knownControllers := by decide
  simp only [controllers, MountEntry.optionList, List.mem_filter, bne_iff_ne,
    ne_eq, decide_eq_true_eq]
  constructor
  · rintro ⟨⟨listed, -⟩, known⟩
    exact ⟨listed, known⟩
  · rintro ⟨listed, known⟩
    refine ⟨⟨listed, ?_⟩, known⟩
    rintro rfl
    exact named known

/-- A controller that is read has a directory exactly when a line mounts its
hierarchy. -/
theorem isSome_find?_directories {root : Path} {lines : List (List UInt8)}
    (usable : ∀ line ∈ lines, UsableLine line) {controller : String}
    (known : controller ∈ knownControllers) :
    ((directories root lines).find? controller).isSome ↔
      Mounted lines controller := by
  have added : ∀ entry : MountEntry,
      (∃ directory, (controller, directory) ∈
        controllerDirectories root controllerFsType entry) ↔
      entry.fsType = controllerFsType ∧
        (Path.parent ⟨entry.mountPoint⟩).isSome ∧
        controller ∈ Text.split ',' entry.options := by
    intro entry
    cases parent : Path.parent ⟨entry.mountPoint⟩ <;>
      simp [mem_controllerDirectories_iff, mem_controllers_iff, known, parent]
  simp only [directories, KeyMap.isSome_find?_ofList, List.mem_flatMap,
    mem_entries_of_usable usable, Mounted]
  constructor
  · rintro ⟨directory, entry, ⟨line, member, written⟩, told⟩
    exact ⟨entry, line, member, written, (added entry).1 ⟨directory, told⟩⟩
  · rintro ⟨entry, line, member, written, told⟩
    rcases (added entry).2 told with ⟨directory, told⟩
    exact ⟨directory, entry, ⟨line, member, written⟩, told⟩

/-- The unified hierarchy is found exactly when a line mounts it and all lines
before that one can be used. -/
theorem found_unifiedMount_of_file {root : Path} {tree : FileTree} :
    (∃ mount, (unifiedMount root unifiedFsType).found tree = .ok mount) ↔
      ∃ lines, tree.byteLinesAt (tablePath root) = some lines ∧
        MountedUnified lines := by
  simp only [found_unifiedMount_eq_ok_iff]
  constructor
  · rintro ⟨_, table, entry, told, found, rfl⟩
    have member := List.mem_of_find?_eq_some found
    rcases byteLinesAt_of_mem told member with ⟨lines, file, rfl⟩
    rcases mem_entries_ofByteLines_iff.1 member with
      ⟨before, line, after, rfl, usable, written⟩
    refine ⟨_, file, entry, before, line, after, rfl, usable, written, ?_⟩
    simpa using List.find?_some found
  · rintro ⟨_, file, entry, before, line, after, rfl, usable, written, type⟩
    have member : entry ∈ (ofByteLines (tablePath root)
        (before ++ line :: after)).entries :=
      mem_entries_ofByteLines_iff.2
        ⟨before, line, after, rfl, usable, written⟩
    have isSome : ((ofByteLines (tablePath root)
        (before ++ line :: after)).entries.find?
          fun entry => entry.fsType == unifiedFsType).isSome := by
      rw [List.find?_isSome]
      exact ⟨entry, member, by simpa using type⟩
    rcases Option.isSome_iff_exists.1 isSome with ⟨first, found⟩
    exact ⟨_, _, first, found_read_of_byteLinesAt file, found, rfl⟩

end MountTable

end CgroupMeter
