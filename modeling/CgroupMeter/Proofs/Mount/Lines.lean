import CgroupMeter.Proofs.Group.Placement
import CgroupMeter.Proofs.Mount.Detection
import CgroupMeter.Proofs.Text.Lines

/-!
# Which lines of a mount table decide

The look-up of the hierarchies of single controllers goes over all lines: each
controller is where the last line that lists it says, and a line that lacks a
column fails the look-up wherever it stands.  The look-up of the unified
hierarchy stops at the first line that mounts it or lacks a column, and what
stands behind that line does not matter.
-/

namespace CgroupMeter

/-- The columns of a line in their order. -/
def MountField.columns : List MountField :=
  [.device, .mountPoint, .fsType, .options]

/-- The mounted file system that a line of text tells, if it has a word for
each column. -/
def MountEntry.ofLine? (line : String) : Option MountEntry :=
  (ofLine line).toOption

namespace MountTable

variable {fsType controller line : String}

/-- A line that is blank or has a word for each column. -/
def CompleteLine (line : String) : Prop :=
  Text.words line = [] ∨ 4 ≤ (Text.words line).length

/-- A line that has words, but not for each column: the first column without
one is missing. -/
structure LacksColumn (line : String) (missing : MissingField) : Prop where
  filled : Text.words line ≠ []
  column : MountField.columns[(Text.words line).length]? = some missing.field
  text : missing.line = Text.trimEnd line

/-- The first words of a line tell of a mounted file system of a type. -/
structure EntryOf (fsType line : String) (entry : MountEntry) : Prop where
  words : ∃ further, Text.words line =
    entry.device :: entry.mountPoint :: entry.fsType :: entry.options :: further
  type : entry.fsType = fsType

/-- A line mounts the hierarchy of a controller at a place with a parent. -/
def Lists (fsType controller line : String) (parent : Path) : Prop :=
  ∃ entry : MountEntry, EntryOf fsType line entry ∧
    Path.parent ⟨entry.mountPoint⟩ = some parent ∧
    controller ∈ Text.split ',' entry.options

/-- A line that ends the search for a mount of a type. -/
inductive Meets (fsType line : String) : Except MissingField MountEntry → Prop
    where
  | short {missing : MissingField} (lacks : LacksColumn line missing) :
      Meets fsType line (.error missing)
  | entry {entry : MountEntry} (told : EntryOf fsType line entry) :
      Meets fsType line (.ok entry)

/-! ## Single lines -/

/-- The column that a line lacks. -/
def missing? (line : String) : Option MissingField :=
  if Text.isBlankText line then none
  else
    match MountEntry.ofLine line with
    | .error missing => some missing
    | .ok _ => none

/-- What a line gives to the search for a mount of a type. -/
def met? (fsType line : String) : Option (Except MissingField MountEntry) :=
  match missing? line with
  | some missing => some (.error missing)
  | none =>
      ((MountEntry.ofLine? line).filter fun entry => entry.fsType = fsType).map
        .ok

/-- A column is missing when there are words, but none for that column. -/
theorem missing?_eq (line : String) :
    missing? line =
      if Text.words line = [] then none
      else MountField.columns[(Text.words line).length]?.map fun field =>
        ⟨field, Text.trimEnd line⟩ := by
  have blank := Text.words_eq_nil_iff line
  rcases words : Text.words line with
    _ | ⟨device, _ | ⟨mountPoint, _ | ⟨fsType, _ | ⟨options, further⟩⟩⟩⟩
  all_goals
    simp [missing?, MountEntry.ofLine, MountField.columns, words, ← blank]

theorem missing?_eq_some_iff {missing : MissingField} :
    missing? line = some missing ↔ LacksColumn line missing := by
  rw [missing?_eq]
  split
  · rename_i blank
    exact ⟨nofun, fun lacks => absurd blank lacks.filled⟩
  · rename_i filled
    rw [Option.map_eq_some_iff]
    constructor
    · rintro ⟨field, column, rfl⟩
      exact ⟨filled, column, rfl⟩
    · rintro ⟨-, column, text⟩
      exact ⟨missing.field, column, by rw [← text]⟩

theorem missing?_eq_none_iff : missing? line = none ↔ CompleteLine line := by
  rw [missing?_eq, CompleteLine]
  split
  · rename_i blank
    simp [blank]
  · rename_i filled
    rw [Option.map_eq_none_iff, List.getElem?_eq_none_iff]
    exact (or_iff_right filled).symm

theorem ofLine?_eq_some_iff {entry : MountEntry} :
    MountEntry.ofLine? line = some entry ∧ entry.fsType = fsType ↔
      EntryOf fsType line entry := by
  have told : MountEntry.ofLine? line = some entry ↔
      MountEntry.ofLine line = .ok entry := by
    cases read : MountEntry.ofLine line <;>
      simp [MountEntry.ofLine?, Except.toOption, read]
  rw [told, MountEntry.ofLine_eq_ok_iff]
  constructor
  · rintro ⟨words, type⟩
    exact ⟨words, type⟩
  · intro entry
    exact ⟨entry.words, entry.type⟩

/-- A line that tells of a mounted file system has a word for each column. -/
theorem EntryOf.complete {entry : MountEntry} (told : EntryOf fsType line entry) :
    CompleteLine line := by
  rcases told.words with ⟨further, words⟩
  exact Or.inr (by simp [words])

theorem EntryOf.unique {entry other : MountEntry}
    (told : EntryOf fsType line entry) (again : EntryOf fsType line other) :
    entry = other := by
  have read := (ofLine?_eq_some_iff.2 told).1
  rw [(ofLine?_eq_some_iff.2 again).1] at read
  exact (Option.some.inj read).symm

/-- The controllers of a joint mount are at the same place. -/
theorem Lists.unique {second : String} {parent other : Path}
    (lists : Lists fsType controller line parent)
    (again : Lists fsType second line other) : parent = other := by
  rcases lists with ⟨entry, told, above, -⟩
  rcases again with ⟨_, toldAgain, aboveAgain, -⟩
  obtain rfl := told.unique toldAgain
  exact Option.some.inj (above.symm.trans aboveAgain)

theorem met?_eq_some_iff {met : Except MissingField MountEntry} :
    met? fsType line = some met ↔ Meets fsType line met := by
  cases lacks : missing? line with
  | some missing =>
      have short := missing?_eq_some_iff.1 lacks
      have incomplete : ¬ CompleteLine line := by
        rw [← missing?_eq_none_iff, lacks]
        exact nofun
      simp only [met?, lacks, Option.some.injEq]
      constructor
      · rintro rfl
        exact .short short
      · rintro (other | told)
        · rw [missing?_eq_some_iff.2 other] at lacks
          rw [Option.some.inj lacks]
        · exact absurd told.complete incomplete
  | none =>
      have complete := missing?_eq_none_iff.1 lacks
      simp only [met?, lacks, Option.map_eq_some_iff, Option.filter_eq_some_iff,
        decide_eq_true_eq, ofLine?_eq_some_iff]
      constructor
      · rintro ⟨entry, told, rfl⟩
        exact .entry told
      · rintro (short | told)
        · rw [missing?_eq_some_iff.2 short] at lacks
          cases lacks
        · exact ⟨_, told, rfl⟩

/-- Nothing on a line ends the search. -/
theorem met?_eq_none_iff :
    met? fsType line = none ↔
      CompleteLine line ∧ ∀ entry, ¬ EntryOf fsType line entry := by
  rw [← missing?_eq_none_iff]
  cases lacks : missing? line <;>
    simp [met?, lacks, Option.filter_eq_none_iff, ← ofLine?_eq_some_iff]

/-! ## Texts of lines -/

theorem findSome?_missing?_eq_some_iff {lines : List String}
    {missing : MissingField} :
    lines.findSome? missing? = some missing ↔
      FirstTells LacksColumn lines missing :=
  findSome?_eq_some_iff_firstTells fun _ _ => missing?_eq_some_iff

theorem findSome?_missing?_eq_none_iff {lines : List String} :
    lines.findSome? missing? = none ↔ ∀ line ∈ lines, CompleteLine line := by
  simp only [List.findSome?_eq_none_iff, missing?_eq_none_iff]

theorem findSome?_met?_eq_some_iff {lines : List String}
    {met : Except MissingField MountEntry} :
    lines.findSome? (met? fsType) = some met ↔
      FirstTells (Meets fsType) lines met :=
  findSome?_eq_some_iff_firstTells fun _ _ => met?_eq_some_iff

theorem findSome?_met?_eq_none_iff {lines : List String} :
    lines.findSome? (met? fsType) = none ↔
      ∀ line ∈ lines, CompleteLine line ∧
        ∀ entry, ¬ EntryOf fsType line entry := by
  simp only [List.findSome?_eq_none_iff, met?_eq_none_iff]

theorem parseTexts_cons (line : String) (rest : List String) :
    parseTexts (line :: rest) =
      match missing? line with
      | some missing => ([], some missing)
      | none =>
          ((MountEntry.ofLine? line).toList ++ (parseTexts rest).1,
            (parseTexts rest).2) := by
  rw [parseTexts, missing?, MountEntry.ofLine?]
  by_cases blank : Text.isBlankText line = true
  · have words := (Text.words_eq_nil_iff line).2 blank
    simp [blank, MountEntry.ofLine, words, Except.toOption]
  · cases MountEntry.ofLine line <;> simp [blank, Except.toOption]

/-- The column that is missing is that of the first line that lacks one. -/
theorem parseTexts_snd (lines : List String) :
    (parseTexts lines).2 = lines.findSome? missing? := by
  induction lines with
  | nil => rfl
  | cons line rest ih =>
      rw [parseTexts_cons, List.findSome?_cons]
      cases missing? line with
      | some missing => rfl
      | none => exact ih

/-- Where no line lacks a column, all of them are read. -/
theorem parseTexts_fst {lines : List String}
    (complete : ∀ line ∈ lines, CompleteLine line) :
    (parseTexts lines).1 = lines.filterMap MountEntry.ofLine? := by
  induction lines with
  | nil => rfl
  | cons line rest ih =>
      rw [List.forall_mem_cons] at complete
      rw [parseTexts_cons, missing?_eq_none_iff.2 complete.1, ih complete.2,
        List.filterMap_cons]
      cases MountEntry.ofLine? line <;> rfl

/-- The search for a mount of a type ends at the first entry of the type, or
else at the line that lacks a column. -/
theorem findSome?_met? (fsType : String) (lines : List String) :
    lines.findSome? (met? fsType) =
      match (parseTexts lines).1.find? fun entry => entry.fsType == fsType with
      | some entry => some (.ok entry)
      | none => (parseTexts lines).2.map .error := by
  induction lines with
  | nil => rfl
  | cons line rest ih =>
      rw [parseTexts_cons, List.findSome?_cons, met?]
      cases missing? line with
      | some missing => rfl
      | none =>
          cases MountEntry.ofLine? line with
          | none => exact ih
          | some entry =>
              by_cases type : entry.fsType = fsType <;>
                simp [Option.filter, type, ih]

/-! ## The unified hierarchy -/

/-- What the look-up of the unified hierarchy gives for lines. -/
structure UnifiedLookUp (root : Path) (fsType : String) (lines : List String)
    (result : Except MountError Path) : Prop where
  /-- The mount is that of the first entry of the type, before which no line
  lacks a column. -/
  found : ∀ place, result = .ok place ↔
    ∃ entry, FirstTells (Meets fsType) lines (.ok entry) ∧
      place = Path.below ⟨entry.mountPoint⟩ root
  /-- A look-up fails for a column that is missing before any entry of the
  type, or because all lines are complete and none is an entry of the type. -/
  refused : ∀ error, result = .error error ↔
    (∃ missing, FirstTells (Meets fsType) lines (.error missing) ∧
        error = .parse (tablePath root) missing) ∨
      ((∀ line ∈ lines, CompleteLine line ∧
          ∀ entry, ¬ EntryOf fsType line entry) ∧
        error = .missingMount fsType (tablePath root))

section Unified

variable {root : Path} {tree : FileTree} {lines : Lines}

theorem found_unifiedMount_of_lines
    (opened : tree.linesAt (tablePath root) = .ok lines) (fsType : String) :
    (unifiedMount root fsType).found tree =
      match lines.texts.findSome? (met? fsType) with
      | some (.ok entry) => .ok (Path.below ⟨entry.mountPoint⟩ root)
      | some (.error missing) => .error (.parse (tablePath root) missing)
      | none =>
          match lines.fault with
          | some fault => .error (.readLine (tablePath root) fault)
          | none => .error (.missingMount fsType (tablePath root)) := by
  have told : (read root).found tree = .ok (ofLines (tablePath root) lines) := by
    rw [found_read, opened]
  rw [findSome?_met?]
  cases first : (parseTexts lines.texts).1.find? fun entry =>
      entry.fsType == fsType with
  | some entry =>
      have found : (ofLines (tablePath root) lines).entries.find?
          (fun entry => entry.fsType == fsType) = some entry := first
      simp [unifiedMount, told, found]
  | none =>
      have absent : (ofLines (tablePath root) lines).entries.find?
          (fun entry => entry.fsType == fsType) = none := first
      simp only [unifiedMount, Inquiry.found_bind, told, absent,
        Inquiry.found_pure]
      cases missing : (parseTexts lines.texts).2 <;>
        cases fault : lines.fault <;>
        simp [finish, ofLines, missing, fault, bind, Except.bind]

theorem unifiedLookUp_of_texts {texts : List String}
    (opened : tree.linesAt (tablePath root) = .ok ⟨texts, none⟩)
    (fsType : String) :
    UnifiedLookUp root fsType texts
      ((unifiedMount root fsType).found tree) where
  found place := by
    simp only [found_unifiedMount_of_lines opened,
      ← findSome?_met?_eq_some_iff]
    rcases texts.findSome? (met? fsType) with _ | missing | entry <;>
      simp [eq_comm]
  refused error := by
    simp only [found_unifiedMount_of_lines opened,
      ← findSome?_met?_eq_some_iff, ← findSome?_met?_eq_none_iff]
    rcases texts.findSome? (met? fsType) with _ | missing | entry <;>
      simp [eq_comm]

/-- Lines behind the one that ends the search do not matter, be they text or
not. -/
theorem found_unifiedMount_of_same_front {before after : List String}
    {line : String} {rest : List (List UInt8)} {other : FileTree}
    (opened : tree.linesAt (tablePath root) =
      .ok ⟨before ++ line :: after, none⟩)
    (file : other.byteLinesAt (tablePath root) =
      some ((before ++ [line]).map Text.toBytes ++ rest))
    {met : Except MissingField MountEntry} (ends : Meets fsType line met) :
    (unifiedMount root fsType).found other =
      (unifiedMount root fsType).found tree := by
  have otherOpened := FileTree.linesAt_of_byteLinesAt file
  rw [Lines.ofByteLines_map_toBytes_append] at otherOpened
  have told := met?_eq_some_iff.2 ends
  rw [found_unifiedMount_of_lines opened, found_unifiedMount_of_lines otherOpened]
  simp only [List.append_assoc, List.singleton_append, List.findSome?_append,
    List.findSome?_cons, told]
  cases before.findSome? (met? fsType) with
  | none => cases met <;> rfl
  | some first => cases first <;> rfl

end Unified

/-! ## The hierarchies of single controllers -/

/-- What the look-up of the hierarchies of single controllers gives for
lines. -/
structure ControllerLookUp (root : Path) (fsType : String)
    (lines : List String) (result : Except MountError (KeyMap Path)) :
    Prop where
  /-- It succeeds when all lines are complete and one lists a controller. -/
  succeeds : (∃ mounts, result = .ok mounts) ↔
    (∀ line ∈ lines, CompleteLine line) ∧
      ∃ controller ∈ knownControllers, ∃ line ∈ lines, ∃ parent,
        Lists fsType controller line parent
  /-- The keys are the known controllers that are listed. -/
  keys : ∀ mounts, result = .ok mounts → ∀ controller,
    (mounts.find? controller).isSome ↔
      controller ∈ knownControllers ∧ ∃ line ∈ lines, ∃ parent,
        Lists fsType controller line parent
  /-- The last line that lists a controller tells its directory. -/
  places : ∀ mounts, result = .ok mounts → ∀ controller place,
    mounts.find? controller = some place ↔
      controller ∈ knownControllers ∧ ∃ parent,
        LastTells (Lists fsType controller) lines parent ∧
          place = parent.below root
  /-- Controllers that the same line lists last share a directory. -/
  joint : ∀ mounts, result = .ok mounts → ∀ before line after,
    lines = before ++ line :: after → ∀ first ∈ knownControllers,
    ∀ second ∈ knownControllers, ∀ parent other,
    Lists fsType first line parent → Lists fsType second line other →
    (∀ later ∈ after, ∀ further, ¬ Lists fsType first later further) →
    (∀ later ∈ after, ∀ further, ¬ Lists fsType second later further) →
      mounts.find? first = some (parent.below root) ∧
        mounts.find? second = mounts.find? first
  /-- The name of a hierarchy is not taken for a controller. -/
  unnamed : ∀ mounts, result = .ok mounts → ∀ name,
    mounts.find? ("name=" ++ name) = none
  /-- It fails for the first line that lacks a column, or because all lines
  are complete and none lists a controller. -/
  refused : ∀ error, result = .error error ↔
    (∃ missing, FirstTells LacksColumn lines missing ∧
        error = .parse (tablePath root) missing) ∨
      ((∀ line ∈ lines, CompleteLine line) ∧
        (∀ controller ∈ knownControllers, ∀ line ∈ lines, ∀ parent,
          ¬ Lists fsType controller line parent) ∧
        error = .missingMount fsType (tablePath root))

/-- The directories of the controllers that lines list. -/
def listedDirectories (root : Path) (fsType : String) (lines : List String) :
    KeyMap Path :=
  KeyMap.ofList ((lines.filterMap MountEntry.ofLine?).flatMap
    (controllerDirectories root fsType))

section Controllers

variable {root place : Path} {tree : FileTree} {lines : List String}

theorem exists_directory_iff :
    (∃ entry, MountEntry.ofLine? line = some entry ∧
        (controller, place) ∈ controllerDirectories root fsType entry) ↔
      controller ∈ knownControllers ∧ ∃ parent,
        Lists fsType controller line parent ∧ place = parent.below root := by
  simp only [mem_controllerDirectories_iff, mem_controllers_iff, Lists,
    ← ofLine?_eq_some_iff]
  constructor
  · rintro ⟨entry, told, type, ⟨listed, known⟩, parent, above, rfl⟩
    exact ⟨known, parent, ⟨entry, ⟨told, type⟩, above, listed⟩, rfl⟩
  · rintro ⟨known, parent, ⟨entry, ⟨told, type⟩, above, listed⟩, rfl⟩
    exact ⟨entry, told, type, ⟨listed, known⟩, parent, above, rfl⟩

theorem isSome_find?_listedDirectories_iff :
    ((listedDirectories root fsType lines).find? controller).isSome ↔
      controller ∈ knownControllers ∧ ∃ line ∈ lines, ∃ parent,
        Lists fsType controller line parent := by
  simp only [listedDirectories, KeyMap.isSome_find?_ofList, List.mem_flatMap,
    List.mem_filterMap]
  constructor
  · rintro ⟨place, entry, ⟨line, member, told⟩, listed⟩
    rcases exists_directory_iff.1 ⟨entry, told, listed⟩ with
      ⟨known, parent, lists, -⟩
    exact ⟨known, line, member, parent, lists⟩
  · rintro ⟨known, line, member, parent, lists⟩
    rcases exists_directory_iff.2 ⟨known, parent, lists, rfl⟩ with
      ⟨entry, told, listed⟩
    exact ⟨_, entry, ⟨line, member, told⟩, listed⟩

theorem find?_listedDirectories_eq_some_iff :
    (listedDirectories root fsType lines).find? controller = some place ↔
      controller ∈ knownControllers ∧ ∃ parent,
        LastTells (Lists fsType controller) lines parent ∧
          place = parent.below root := by
  have single (entry : MountEntry) (first second : Path)
      (listed : (controller, first) ∈ controllerDirectories root fsType entry)
      (again : (controller, second) ∈ controllerDirectories root fsType entry) :
      first = second := by
    rcases mem_controllerDirectories_iff.1 listed with ⟨-, -, outer, above, rfl⟩
    rcases mem_controllerDirectories_iff.1 again with ⟨-, -, other, same, rfl⟩
    rw [Option.some.inj (above.symm.trans same)]
  rw [listedDirectories, KeyMap.find?_ofList_eq_some_iff_lastTells single,
    lastTells_filterMap_iff]
  constructor
  · rintro ⟨before, line, after, split, tells, silent⟩
    rcases exists_directory_iff.1 tells with ⟨known, parent, lists, rfl⟩
    refine ⟨known, parent, ⟨before, line, after, split, lists, ?_⟩, rfl⟩
    intro later member other lists
    exact silent later member (other.below root)
      (exists_directory_iff.2 ⟨known, other, lists, rfl⟩)
  · rintro ⟨known, parent, ⟨before, line, after, split, lists, silent⟩, rfl⟩
    refine ⟨before, line, after, split,
      exists_directory_iff.2 ⟨known, parent, lists, rfl⟩, ?_⟩
    intro later member other tells
    rcases exists_directory_iff.1 tells with ⟨-, above, lists, -⟩
    exact silent later member above lists

theorem isEmpty_listedDirectories_eq_false_iff :
    (listedDirectories root fsType lines).isEmpty = false ↔
      ∃ controller ∈ knownControllers, ∃ line ∈ lines, ∃ parent,
        Lists fsType controller line parent := by
  simp only [KeyMap.isEmpty_eq_false_iff, isSome_find?_listedDirectories_iff]

theorem isEmpty_listedDirectories_iff :
    (listedDirectories root fsType lines).isEmpty = true ↔
      ∀ controller ∈ knownControllers, ∀ line ∈ lines, ∀ parent,
        ¬ Lists fsType controller line parent := by
  rw [← Bool.not_eq_false, isEmpty_listedDirectories_eq_false_iff]
  push Not
  rfl

theorem found_controllerMounts_of_texts
    (opened : tree.linesAt (tablePath root) = .ok ⟨lines, none⟩)
    (fsType : String) :
    (controllerMounts root fsType).found tree =
      match lines.findSome? missing? with
      | some missing => .error (.parse (tablePath root) missing)
      | none =>
          if (listedDirectories root fsType lines).isEmpty then
            .error (.missingMount fsType (tablePath root))
          else .ok (listedDirectories root fsType lines) := by
  have told : (read root).found tree =
      .ok (ofLines (tablePath root) ⟨lines, none⟩) := by
    rw [found_read, opened]
  have missing := parseTexts_snd lines
  cases first : lines.findSome? missing? with
  | some error =>
      rw [first] at missing
      exact (passes_of_fault told (by simp [ofLines, missing]) fsType).2.1
  | none =>
      rw [first] at missing
      have entries : (ofLines (tablePath root) ⟨lines, none⟩).entries =
          lines.filterMap MountEntry.ofLine? :=
        parseTexts_fst (findSome?_missing?_eq_none_iff.1 first)
      rw [(passes_of_whole told (by simp [ofLines, missing]) fsType).2.1,
        entries]
      rfl

theorem eq_listedDirectories_of_found
    (opened : tree.linesAt (tablePath root) = .ok ⟨lines, none⟩)
    {mounts : KeyMap Path}
    (found : (controllerMounts root fsType).found tree = .ok mounts) :
    mounts = listedDirectories root fsType lines := by
  rw [found_controllerMounts_of_texts opened] at found
  split at found
  · cases found
  · split at found
    · cases found
    · exact (Except.ok.inj found).symm

theorem equals_not_mem_of_known (known : controller ∈ knownControllers) :
    '=' ∉ controller.toList := by
  have none : ∀ controller ∈ knownControllers, '=' ∉ controller.toList := by
    decide
  exact none controller known

theorem controllerLookUp_of_texts
    (opened : tree.linesAt (tablePath root) = .ok ⟨lines, none⟩)
    (fsType : String) :
    ControllerLookUp root fsType lines
      ((controllerMounts root fsType).found tree) where
  succeeds := by
    rw [found_controllerMounts_of_texts opened,
      ← findSome?_missing?_eq_none_iff,
      ← @isEmpty_listedDirectories_eq_false_iff fsType root]
    cases lines.findSome? missing? with
    | some missing => simp
    | none => cases (listedDirectories root fsType lines).isEmpty <;> simp
  keys mounts found controller := by
    rw [eq_listedDirectories_of_found opened found,
      isSome_find?_listedDirectories_iff]
  places mounts found controller place := by
    rw [eq_listedDirectories_of_found opened found,
      find?_listedDirectories_eq_some_iff]
  joint mounts found before line after split first firstKnown second
      secondKnown parent other lists listsSecond silent silentSecond := by
    obtain rfl := lists.unique listsSecond
    rw [eq_listedDirectories_of_found opened found,
      find?_listedDirectories_eq_some_iff.2 ⟨firstKnown, parent,
        ⟨before, line, after, split, lists, silent⟩, rfl⟩,
      find?_listedDirectories_eq_some_iff.2 ⟨secondKnown, parent,
        ⟨before, line, after, split, listsSecond, silentSecond⟩, rfl⟩]
    exact ⟨rfl, rfl⟩
  unnamed mounts found name := by
    rw [eq_listedDirectories_of_found opened found,
      ← Option.not_isSome_iff_eq_none, isSome_find?_listedDirectories_iff]
    rintro ⟨known, -⟩
    exact equals_not_mem_of_known known (by simp)
  refused error := by
    rw [found_controllerMounts_of_texts opened,
      ← findSome?_missing?_eq_none_iff, ← and_assoc,
      ← @isEmpty_listedDirectories_iff fsType root]
    simp only [← findSome?_missing?_eq_some_iff]
    cases lines.findSome? missing? with
    | some missing => simp [@eq_comm _ error]
    | none =>
        cases (listedDirectories root fsType lines).isEmpty <;>
          simp [@eq_comm _ error]

end Controllers

/-! ## A table that is a text -/

/-- The lines of a table that is a text decide both look-ups.  That of the
unified hierarchy does not depend on what stands behind a line where it ends,
be it text or not. -/
theorem lookUps_of_text {root : Path} {tree : FileTree} {text : String}
    (file : tree.openFile (tablePath root) = .ok (.file (Text.toBytes text)))
    (fsType : String) :
    ControllerLookUp root fsType (Text.linesOf text)
        ((controllerMounts root fsType).found tree) ∧
      UnifiedLookUp root fsType (Text.linesOf text)
        ((unifiedMount root fsType).found tree) ∧
      ∀ before line after met, Text.linesOf text = before ++ line :: after →
        Meets fsType line met → ∀ (other : FileTree) (rest : List (List UInt8)),
        other.byteLinesAt (tablePath root) =
            some ((before ++ [line]).map Text.toBytes ++ rest) →
          (unifiedMount root fsType).found other =
            (unifiedMount root fsType).found tree := by
  have opened : tree.linesAt (tablePath root) =
      .ok ⟨Text.linesOf text, none⟩ := by
    simp [FileTree.linesAt, file, Except.mapError, Except.map, Lines.ofEntry,
      ← Lines.ofText_eq, Lines.ofText]
  refine ⟨controllerLookUp_of_texts opened fsType,
    unifiedLookUp_of_texts opened fsType, ?_⟩
  intro before line after met split ends other rest otherFile
  rw [split] at opened
  exact found_unifiedMount_of_same_front opened otherFile ends

/-- A table that mounts a controller before and behind the unified
hierarchy. -/
def remountedTable : String :=
  "c /a/x cgroup cpu,name=x\nu /u cgroup2 rw\nc /b/y cgroup rw,cpu"

/-- The same table with a last line that lacks columns. -/
def shortenedTable : String :=
  "c /a/x cgroup cpu,name=x\nu /u cgroup2 rw\nshort"

open GroupLayout in
/-- A controller that is mounted twice is at the later place, and the name of a
hierarchy is no controller.  The unified hierarchy is found before a short
line. -/
theorem lookUps_around_unified_mount :
    (∃ mounts, (controllerMounts ⟨"/"⟩ controllerFsType).found
          (tableHost remountedTable) = .ok mounts ∧
        mounts.find? "cpu" = some ⟨"/b"⟩ ∧
        mounts.find? ("name=" ++ "x") = none) ∧
      (unifiedMount ⟨"/"⟩ unifiedFsType).found (tableHost shortenedTable) =
        .ok ⟨"/u"⟩ := by
  have file : (tableHost remountedTable).openFile (tablePath ⟨"/"⟩) =
      .ok (.file (Text.toBytes remountedTable)) := by
    decide +kernel
  have lines : Text.linesOf remountedTable = ["c /a/x cgroup cpu,name=x",
      "u /u cgroup2 rw", "c /b/y cgroup rw,cpu"] := by
    decide +kernel
  rcases lookUps_of_text file controllerFsType with ⟨controllers, -, -⟩
  rcases lookUps_of_text file unifiedFsType with ⟨-, -, sameFront⟩
  rw [lines] at controllers sameFront
  constructor
  · have complete : ∀ line ∈ ["c /a/x cgroup cpu,name=x", "u /u cgroup2 rw",
        "c /b/y cgroup rw,cpu"], CompleteLine line := by
      unfold CompleteLine
      decide
    have lists : Lists controllerFsType "cpu" "c /b/y cgroup rw,cpu" ⟨"/b"⟩ :=
      ⟨⟨"c", "/b/y", "cgroup", "rw,cpu"⟩, ⟨⟨[], by decide⟩, rfl⟩, by decide,
        by decide⟩
    have last : LastTells (Lists controllerFsType "cpu")
        ["c /a/x cgroup cpu,name=x", "u /u cgroup2 rw", "c /b/y cgroup rw,cpu"]
        ⟨"/b"⟩ :=
      ⟨["c /a/x cgroup cpu,name=x", "u /u cgroup2 rw"], _, [], rfl, lists,
        by simp⟩
    rcases controllers.succeeds.2
      ⟨complete, "cpu", by decide, _, by simp, _, lists⟩ with ⟨mounts, found⟩
    exact ⟨mounts, found,
      (controllers.places mounts found _ _).2 ⟨by decide, _, last, by decide⟩,
      controllers.unnamed mounts found "x"⟩
  · have unified : (unifiedMount ⟨"/"⟩ unifiedFsType).found
        (tableHost remountedTable) = .ok ⟨"/u"⟩ := by
      decide +kernel
    have entry : EntryOf unifiedFsType "u /u cgroup2 rw"
        ⟨"u", "/u", "cgroup2", "rw"⟩ := ⟨⟨[], by decide⟩, rfl⟩
    have otherFile : (tableHost shortenedTable).byteLinesAt (tablePath ⟨"/"⟩) =
        some ((["c /a/x cgroup cpu,name=x"] ++ ["u /u cgroup2 rw"]).map
          Text.toBytes ++ [Text.toBytes "short"]) := by
      decide +kernel
    exact (sameFront ["c /a/x cgroup cpu,name=x"] _ _ _ rfl (.entry entry) _ _
      otherFile).trans unified

end MountTable

end CgroupMeter
