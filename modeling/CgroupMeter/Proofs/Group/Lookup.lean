import CgroupMeter.Group.Location
import CgroupMeter.Proofs.Mount.Lookup

/-!
# What is found of the groups of a process

A line of a membership file can be used when it is text and is empty or has
two colons: the first two part the hierarchy, the controllers and the group.
All lines are needed.  Then the process is in the group of a controller when
a line names the controller, and in the unified hierarchy when a line has the
hierarchy `0` and no controllers.

The groups of a process are known when the mount table and the memberships
together tell the directory of one of the controllers that are read, or of the
unified hierarchy.
-/

namespace CgroupMeter

namespace Membership

/-- A line tells of a membership. -/
def WrittenOn (membership : Membership) (line : List UInt8) : Prop :=
  Text.ofBytes line =
      some (membership.hierarchy ++ ":" ++ membership.controllers ++ ":" ++
        membership.group) ∧
    ':' ∉ membership.hierarchy.toList ∧ ':' ∉ membership.controllers.toList

/-- A line that can be used: it is text, and empty or with two colons. -/
def UsableLine (line : List UInt8) : Prop :=
  ∃ text, Text.ofBytes line = some text ∧
    (text = "" ∨ 2 ≤ text.toList.count ':')

theorem ofLine_eq_some_iff {text : String} {membership : Membership} :
    ofLine text = some membership ↔
      text = membership.hierarchy ++ ":" ++ membership.controllers ++ ":" ++
          membership.group ∧
        ':' ∉ membership.hierarchy.toList ∧
        ':' ∉ membership.controllers.toList := by
  rcases membership with ⟨hierarchy, controllers, group⟩
  constructor
  · intro told
    simp only [ofLine, bind, Option.bind_eq_some_iff, Prod.exists, pure,
      Option.some.injEq, mk.injEq] at told
    rcases told with ⟨_, rest, outer, _, _, inner, rfl, rfl, rfl⟩
    rcases Text.cut_eq_some_iff.1 outer with ⟨rfl, cleanHierarchy⟩
    rcases Text.cut_eq_some_iff.1 inner with ⟨rfl, cleanControllers⟩
    refine ⟨?_, cleanHierarchy, cleanControllers⟩
    simp [String.append_assoc]
  · rintro ⟨rfl, cleanHierarchy, cleanControllers⟩
    have outer : Text.cut ':'
        (hierarchy ++ ":" ++ controllers ++ ":" ++ group) =
          some (hierarchy, controllers ++ ":" ++ group) :=
      Text.cut_eq_some_iff.2 ⟨by simp [String.append_assoc], cleanHierarchy⟩
    have inner : Text.cut ':' (controllers ++ ":" ++ group) =
        some (controllers, group) :=
      Text.cut_eq_some_iff.2 ⟨rfl, cleanControllers⟩
    simp [ofLine, outer, inner]

theorem isSome_ofLine_iff (text : String) :
    (ofLine text).isSome ↔ 2 ≤ text.toList.count ':' := by
  cases outer : Text.cut ':' text with
  | none =>
      have clean := List.count_eq_zero.2 (Text.cut_eq_none_iff.1 outer)
      simp [ofLine, outer, clean]
  | some parts =>
      rcases parts with ⟨hierarchy, rest⟩
      rw [Text.count_of_cut outer]
      cases inner : Text.cut ':' rest with
      | none =>
          have clean := List.count_eq_zero.2 (Text.cut_eq_none_iff.1 inner)
          simp [ofLine, outer, inner, clean]
      | some parts =>
          rcases parts with ⟨controllers, group⟩
          rw [Text.count_of_cut inner]
          simp [ofLine, outer, inner]

theorem parseTexts_eq_ok_iff {number : Nat} {texts : List String}
    {memberships : List Membership} :
    parseTexts number texts = .ok memberships ↔
      (∀ text ∈ texts, text = "" ∨ (ofLine text).isSome) ∧
        texts.filterMap ofLine = memberships := by
  induction texts generalizing number memberships with
  | nil => simp [parseTexts]
  | cons text rest ih =>
      by_cases empty : text = ""
      · subst empty
        have none : ofLine "" = none := rfl
        simp [parseTexts, ih, none]
      · cases told : ofLine text with
        | none => simp [parseTexts, empty, told]
        | some membership =>
            cases others : parseTexts (number + 1) rest with
            | error error =>
                have refused : ¬ ∀ text ∈ rest,
                    text = "" ∨ (ofLine text).isSome := by
                  intro usable
                  cases others.symm.trans (ih.2 ⟨usable, rfl⟩)
                simp only [parseTexts, empty, if_false, told, others, Except.map,
                  reduceCtorEq, false_iff]
                rintro ⟨usable, -⟩
                exact refused fun text member =>
                  usable text (List.mem_cons_of_mem _ member)
            | ok found =>
                rcases ih.1 others with ⟨usable, rfl⟩
                simpa [parseTexts, empty, told, others, Except.map] using
                  fun _ => usable

/-- What the lines of a file tell. -/
def ofByteLines (path : Path) (lines : List (List UInt8)) :
    Except MembershipError (List Membership) :=
  ofLines path (Lines.ofByteLines lines)

theorem ofLines_eq_ok_iff {path : Path} {lines : Lines}
    {memberships : List Membership} :
    ofLines path lines = .ok memberships ↔
      lines.fault = none ∧ parseTexts 1 lines.texts = .ok memberships := by
  rcases lines with ⟨texts, fault⟩
  cases parsed : parseTexts 1 texts with
  | error error => simp [ofLines, parsed]
  | ok found =>
      cases fault with
      | none => simp [ofLines, parsed, Lines.finish, Except.mapError]
      | some fault => simp [ofLines, parsed, Lines.finish, Except.mapError]

theorem readable_of_usable {lines : List (List UInt8)}
    (usable : ∀ line ∈ lines, UsableLine line) :
    ∀ line ∈ lines, Lines.Readable line := by
  intro line member
  rcases usable line member with ⟨text, read, -⟩
  exact ⟨text, read⟩

/-- The memberships of a process are told exactly when each line of the file
can be used. -/
theorem ofByteLines_eq_ok_iff {path : Path} {lines : List (List UInt8)}
    {memberships : List Membership} :
    ofByteLines path lines = .ok memberships ↔
      (∀ line ∈ lines, UsableLine line) ∧
        (Lines.ofByteLines lines).texts.filterMap ofLine = memberships := by
  rw [ofByteLines, ofLines_eq_ok_iff, parseTexts_eq_ok_iff,
    Lines.fault_ofByteLines_eq_none_iff, ← and_assoc]
  refine and_congr_left fun _ => ?_
  constructor
  · rintro ⟨whole, told⟩ line member
    rcases whole line member with ⟨text, read⟩
    refine ⟨text, read, ?_⟩
    rw [← isSome_ofLine_iff]
    exact told text ((Lines.mem_texts_ofByteLines_iff whole).2
      ⟨line, member, read⟩)
  · intro usable
    have whole := readable_of_usable usable
    refine ⟨whole, ?_⟩
    intro text member
    rcases (Lines.mem_texts_ofByteLines_iff whole).1 member with
      ⟨line, inside, read⟩
    rcases usable line inside with ⟨again, readAgain, told⟩
    cases read.symm.trans readAgain
    rwa [isSome_ofLine_iff]

theorem mem_ofByteLines_iff {path : Path} {lines : List (List UInt8)}
    {memberships : List Membership}
    (told : ofByteLines path lines = .ok memberships)
    {membership : Membership} :
    membership ∈ memberships ↔ ∃ line ∈ lines, membership.WrittenOn line := by
  rcases ofByteLines_eq_ok_iff.1 told with ⟨usable, rfl⟩
  have whole := readable_of_usable usable
  simp only [List.mem_filterMap, Lines.mem_texts_ofByteLines_iff whole,
    ofLine_eq_some_iff, WrittenOn]
  constructor
  · rintro ⟨text, ⟨line, member, read⟩, rfl, clean⟩
    exact ⟨line, member, read, clean⟩
  · rintro ⟨line, member, read, clean⟩
    exact ⟨_, ⟨line, member, read⟩, rfl, clean⟩

theorem found_read (root : Path) (pid : UInt32) (tree : FileTree) :
    (read root pid).found tree =
      match tree.linesAt (filePath root pid) with
      | .error error => .error (.openFile error)
      | .ok lines => ofLines (filePath root pid) lines := by
  cases opened : tree.linesAt (filePath root pid) <;> simp [read, opened]

theorem found_read_of_file {root : Path} {pid : UInt32} {tree : FileTree}
    {memberships : List Membership} :
    (read root pid).found tree = .ok memberships ↔
      ∃ lines, tree.byteLinesAt (filePath root pid) = some lines ∧
        ofByteLines (filePath root pid) lines = .ok memberships := by
  rw [found_read]
  cases file : tree.byteLinesAt (filePath root pid) with
  | none =>
      rcases FileTree.linesAt_of_byteLinesAt_eq_none file with
        ⟨error, opened⟩ | opened
      · simp [opened]
      · simp [opened, ofLines_eq_ok_iff]
  | some lines =>
      simp [FileTree.linesAt_of_byteLinesAt file, ofByteLines]

/-- A line names a controller. -/
def Joined (lines : List (List UInt8)) (controller : String) : Prop :=
  ∃ membership : Membership, ∃ line ∈ lines, membership.WrittenOn line ∧
    controller ∈ Text.split ',' membership.controllers

/-- A line is that of the unified hierarchy. -/
def JoinedUnified (lines : List (List UInt8)) : Prop :=
  ∃ membership : Membership, ∃ line ∈ lines, membership.WrittenOn line ∧
    membership.hierarchy = "0" ∧ membership.controllers = ""

theorem mem_controllerGroups_iff {membership : Membership}
    {controller group : String} :
    (controller, group) ∈ controllerGroups membership ↔
      controller ∈ Text.split ',' membership.controllers ∧ controller ≠ "" ∧
        membership.group = group := by
  simp [controllerGroups, and_assoc]

theorem isSome_find?_groupsByController {path : Path}
    {lines : List (List UInt8)} {memberships : List Membership}
    (told : ofByteLines path lines = .ok memberships) {controller : String}
    (named : controller ≠ "") :
    ((groupsByController memberships).find? controller).isSome ↔
      Joined lines controller := by
  have added : ∀ membership : Membership,
      (∃ group, (controller, group) ∈ controllerGroups membership) ↔
        controller ∈ Text.split ',' membership.controllers := by
    intro membership
    simp [mem_controllerGroups_iff, named]
  simp only [groupsByController, KeyMap.isSome_find?_ofList, List.mem_flatMap,
    mem_ofByteLines_iff told, Joined]
  constructor
  · rintro ⟨group, membership, ⟨line, member, written⟩, listed⟩
    exact ⟨membership, line, member, written,
      (added membership).1 ⟨group, listed⟩⟩
  · rintro ⟨membership, line, member, written, listed⟩
    rcases (added membership).2 listed with ⟨group, listed⟩
    exact ⟨group, membership, ⟨line, member, written⟩, listed⟩

theorem found_readUnified_eq_ok_iff {root : Path} {pid : UInt32}
    {tree : FileTree} {group : String} :
    (readUnified root pid).found tree = .ok group ↔
      ∃ memberships, (read root pid).found tree = .ok memberships ∧
        unifiedGroup memberships = some group := by
  cases told : (read root pid).found tree with
  | error error => simp [readUnified, told]
  | ok memberships =>
      cases first : unifiedGroup memberships <;>
        simp [readUnified, told, first]

/-- The group in the unified hierarchy is told exactly when each line can be
used and one is that of the unified hierarchy. -/
theorem found_readUnified_of_file {root : Path} {pid : UInt32}
    {tree : FileTree} :
    (∃ group, (readUnified root pid).found tree = .ok group) ↔
      ∃ lines, tree.byteLinesAt (filePath root pid) = some lines ∧
        (∀ line ∈ lines, UsableLine line) ∧ JoinedUnified lines := by
  have told_iff : ∀ memberships : List Membership,
      (∃ group, unifiedGroup memberships = some group) ↔
        ∃ membership ∈ memberships,
          membership.hierarchy = "0" ∧ membership.controllers = "" := by
    intro memberships
    rw [← Option.isSome_iff_exists, unifiedGroup, Option.isSome_map,
      List.find?_isSome]
    simp [isUnified]
  simp only [found_readUnified_eq_ok_iff, found_read_of_file]
  constructor
  · rintro ⟨group, memberships, ⟨lines, file, told⟩, first⟩
    rcases (told_iff memberships).1 ⟨group, first⟩ with
      ⟨membership, member, unified⟩
    rcases (mem_ofByteLines_iff told).1 member with ⟨line, inside, written⟩
    exact ⟨lines, file, (ofByteLines_eq_ok_iff.1 told).1,
      membership, line, inside, written, unified⟩
  · rintro ⟨lines, file, usable, membership, line, inside, written, unified⟩
    have told : ofByteLines (filePath root pid) _ = .ok _ :=
      ofByteLines_eq_ok_iff.2 ⟨usable, rfl⟩
    rcases (told_iff _).2 ⟨membership,
      (mem_ofByteLines_iff told).2 ⟨line, inside, written⟩, unified⟩ with
      ⟨group, first⟩
    exact ⟨group, _, ⟨lines, file, told⟩, first⟩

end Membership

namespace GroupLocations

/-- The groups of a process are known: the mount table and the memberships of
the process are files whose lines can be used, and together they tell the
directory of a controller that is read or of the unified hierarchy. -/
def Known (layout : GroupLayout) (root : Path) (pid : UInt32)
    (tree : FileTree) : Prop :=
  ∃ mounts memberships,
    tree.byteLinesAt (MountTable.tablePath root) = some mounts ∧
    tree.byteLinesAt (Membership.filePath root pid) = some memberships ∧
    (∀ line ∈ memberships, Membership.UsableLine line) ∧
    match layout with
    | .perController =>
        (∀ line ∈ mounts, MountTable.UsableLine line) ∧
          ∃ controller ∈ readControllers,
            MountTable.Mounted mounts controller ∧
              Membership.Joined memberships controller
    | .unified =>
        MountTable.MountedUnified mounts ∧
          Membership.JoinedUnified memberships

theorem reachesController_iff {mounts : KeyMap Path} {groups : KeyMap String} :
    (perController mounts groups).reachesController = true ↔
      ∃ controller ∈ readControllers, (mounts.find? controller).isSome ∧
        (groups.find? controller).isSome := by
  simp only [reachesController, List.any_eq_true]
  refine exists_congr fun controller => and_congr_right fun _ => ?_
  cases mount : mounts.find? controller <;>
    cases group : groups.find? controller <;>
      simp [directory, mount, group]

theorem found_resolvePerController {root : Path} {pid : UInt32}
    {tree : FileTree} {locations : GroupLocations} :
    (resolvePerController root pid).found tree = .ok locations ↔
      ∃ mounts memberships,
        (MountTable.controllerMounts root MountTable.controllerFsType).found
            tree = .ok mounts ∧
          (Membership.read root pid).found tree = .ok memberships ∧
          locations = perController mounts
            (Membership.groupsByController memberships) ∧
          locations.reachesController = true := by
  cases mounted : (MountTable.controllerMounts root
      MountTable.controllerFsType).found tree with
  | error error => simp [resolvePerController, mounted]
  | ok mounts =>
      cases told : (Membership.read root pid).found tree with
      | error error =>
          simp [resolvePerController, mounted, told, Membership.readByController,
            Except.map]
      | ok memberships =>
          simp only [resolvePerController, Membership.readByController,
            Inquiry.found_bind, Inquiry.found_pure, mounted, told, Except.map,
            Except.ok.injEq, exists_and_left, exists_eq_left']
          constructor
          · intro found
            split at found
            · rename_i reached
              cases found
              exact ⟨rfl, reached⟩
            · cases found
          · rintro ⟨rfl, reached⟩
            simp [reached]

theorem found_resolveUnified {root : Path} {pid : UInt32} {tree : FileTree}
    {locations : GroupLocations} :
    (resolveUnified root pid).found tree = .ok locations ↔
      ∃ mount group,
        (MountTable.unifiedMount root MountTable.unifiedFsType).found tree =
            .ok mount ∧
          (Membership.readUnified root pid).found tree = .ok group ∧
          locations = ofUnified mount group := by
  cases mounted : (MountTable.unifiedMount root MountTable.unifiedFsType).found
      tree with
  | error error => simp [resolveUnified, mounted]
  | ok mount =>
      cases told : (Membership.readUnified root pid).found tree with
      | error error => simp [resolveUnified, mounted, told]
      | ok group => simp [resolveUnified, mounted, told, eq_comm]

/-- The groups of a process are found exactly when they are known. -/
theorem found_resolve_iff {layout : GroupLayout} {root : Path} {pid : UInt32}
    {tree : FileTree} :
    (∃ locations, (resolve layout root pid).found tree = .ok locations) ↔
      Known layout root pid tree := by
  cases layout with
  | perController =>
      -- Each controller that is read is a known one with a name.
      have read : ∀ controller ∈ readControllers,
          controller ∈ MountTable.knownControllers ∧ controller ≠ "" := by
        decide
      simp only [resolve, found_resolvePerController,
        MountTable.found_controllerMounts_of_file,
        Membership.found_read_of_file, Known]
      constructor
      · rintro ⟨_, _, memberships, ⟨mounts, mountFile, usable, rfl, -⟩,
          ⟨lines, file, told⟩, rfl, reached⟩
        rcases reachesController_iff.1 reached with
          ⟨controller, listed, mount, group⟩
        rcases read controller listed with ⟨known, named⟩
        exact ⟨mounts, lines, mountFile, file,
          (Membership.ofByteLines_eq_ok_iff.1 told).1, usable, controller,
          listed, (MountTable.isSome_find?_directories usable known).1
            mount,
          (Membership.isSome_find?_groupsByController told named).1 group⟩
      · rintro ⟨mounts, lines, mountFile, file, usableLines, usable,
          controller, listed, mounted, joined⟩
        rcases read controller listed with ⟨known, named⟩
        have told : Membership.ofByteLines (Membership.filePath root pid) _ =
            .ok _ :=
          Membership.ofByteLines_eq_ok_iff.2 ⟨usableLines, rfl⟩
        have mount : ((MountTable.directories root _).find? controller).isSome :=
          (MountTable.isSome_find?_directories usable known).2 mounted
        have group :=
          (Membership.isSome_find?_groupsByController told named).2 joined
        exact ⟨_, _, _, ⟨mounts, mountFile, usable, rfl,
            KeyMap.isEmpty_eq_false_of_find? mount⟩, ⟨lines, file, told⟩, rfl,
          reachesController_iff.2 ⟨controller, listed, mount, group⟩⟩
  | unified =>
      simp only [resolve, found_resolveUnified, Known]
      constructor
      · rintro ⟨_, mount, group, mounted, told, rfl⟩
        rcases MountTable.found_unifiedMount_of_file.1 ⟨mount, mounted⟩ with
          ⟨mounts, mountFile, mounted⟩
        rcases Membership.found_readUnified_of_file.1 ⟨group, told⟩ with
          ⟨lines, file, usable, joined⟩
        exact ⟨mounts, lines, mountFile, file, usable, mounted, joined⟩
      · rintro ⟨mounts, lines, mountFile, file, usable, mounted, joined⟩
        rcases MountTable.found_unifiedMount_of_file.2
          ⟨mounts, mountFile, mounted⟩ with ⟨mount, mounted⟩
        rcases Membership.found_readUnified_of_file.2
          ⟨lines, file, usable, joined⟩ with ⟨group, told⟩
        exact ⟨_, mount, group, mounted, told, rfl⟩

/-- Trees that show the same mount table and memberships tell the same
groups. -/
theorem found_resolve_eq_ok_of_showSame {layout : GroupLayout} {root : Path}
    {pid : UInt32} {first second : FileTree}
    (sameMounts : first.ShowSame second (MountTable.tablePath root))
    (sameMembership : first.ShowSame second (Membership.filePath root pid))
    {locations : GroupLocations}
    (located : (resolve layout root pid).found first = .ok locations) :
    (resolve layout root pid).found second = .ok locations := by
  have tables : ∀ table, (MountTable.read root).found first = .ok table →
      (MountTable.read root).found second = .ok table := by
    intro table
    rw [MountTable.found_read, MountTable.found_read]
    cases opened : first.linesAt (MountTable.tablePath root) with
    | error error => simp
    | ok lines => simp [sameMounts.linesAt_eq_ok opened]
  have memberships : ∀ told, (Membership.read root pid).found first = .ok told →
      (Membership.read root pid).found second = .ok told := by
    intro told
    rw [Membership.found_read, Membership.found_read]
    cases opened : first.linesAt (Membership.filePath root pid) with
    | error error => simp
    | ok lines => simp [sameMembership.linesAt_eq_ok opened]
  cases layout with
  | perController =>
      simp only [resolve, found_resolvePerController,
        MountTable.found_controllerMounts_eq_ok_iff] at located ⊢
      rcases located with ⟨mounts, groups, ⟨table, read, rest⟩, told, located⟩
      exact ⟨mounts, groups, ⟨table, tables table read, rest⟩,
        memberships groups told, located⟩
  | unified =>
      simp only [resolve, found_resolveUnified,
        MountTable.found_unifiedMount_eq_ok_iff,
        Membership.found_readUnified_eq_ok_iff] at located ⊢
      rcases located with
        ⟨mount, group, ⟨table, entry, read, rest⟩, ⟨told, listed, first⟩,
          located⟩
      exact ⟨mount, group, ⟨table, entry, tables table read, rest⟩,
        ⟨told, memberships told listed, first⟩, located⟩

end GroupLocations

end CgroupMeter
