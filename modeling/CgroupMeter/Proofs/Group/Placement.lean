import CgroupMeter.Proofs.Group.Lookup
import CgroupMeter.Proofs.Path.Joining
import CgroupMeter.Proofs.Sample.Fetchable
import Mathlib.Data.List.Induction

/-!
# The names on the way to a file of a group

The mount table and the memberships of a process are texts of the kernel with
any slashes in them.  The last line that mounts a controller, and the last one
that names it, decide where its group is; for the unified hierarchy it is the
first line of each.  Whatever these lines say, the path of a file of the group
starts where the root starts, and its names are those of the root, of the
directory of the hierarchy, of the group and of the file, with none lost and
none added.
-/

namespace CgroupMeter

/-! ## The first and the last that tell -/

section Told

variable {α β γ : Type}

/-- The first of some items to tell anything tells a value. -/
def FirstTells (tells : α → β → Prop) (items : List α) (value : β) : Prop :=
  ∃ before item after, items = before ++ item :: after ∧ tells item value ∧
    ∀ earlier ∈ before, ∀ other, ¬ tells earlier other

/-- The last of some items to tell anything tells a value. -/
def LastTells (tells : α → β → Prop) (items : List α) (value : β) : Prop :=
  ∃ before item after, items = before ++ item :: after ∧ tells item value ∧
    ∀ later ∈ after, ∀ other, ¬ tells later other

/-- What is told by items that are read from others is told by those. -/
def tellsThrough (read : α → Option β) (tells : β → γ → Prop) (item : α)
    (value : γ) : Prop :=
  ∃ inner, read item = some inner ∧ tells inner value

theorem FirstTells.of_filterMap {read : α → Option β} {tells : β → γ → Prop}
    {items : List α} {value : γ}
    (told : FirstTells tells (items.filterMap read) value) :
    FirstTells (tellsThrough read tells) items value := by
  rcases told with ⟨before, inner, after, split, tells, silent⟩
  rcases List.filterMap_eq_append_iff.1 split with
    ⟨front, back, rfl, rfl, behind⟩
  rcases List.filterMap_eq_cons_iff.1 behind with
    ⟨skipped, item, rest, rfl, unread, first, -⟩
  refine ⟨front ++ skipped, item, rest, by simp, ⟨inner, first, tells⟩, ?_⟩
  rintro earlier member other ⟨again, readAgain, tellsAgain⟩
  rcases List.mem_append.1 member with inFront | inSkipped
  · exact silent again (List.mem_filterMap.2 ⟨earlier, inFront, readAgain⟩)
      other tellsAgain
  · cases (unread earlier inSkipped).symm.trans readAgain

theorem LastTells.of_filterMap {read : α → Option β} {tells : β → γ → Prop}
    {items : List α} {value : γ}
    (told : LastTells tells (items.filterMap read) value) :
    LastTells (tellsThrough read tells) items value := by
  rcases told with ⟨before, inner, after, split, tells, silent⟩
  rcases List.filterMap_eq_append_iff.1 split with
    ⟨front, back, rfl, -, behind⟩
  rcases List.filterMap_eq_cons_iff.1 behind with
    ⟨skipped, item, rest, rfl, -, first, rfl⟩
  refine ⟨front ++ skipped, item, rest, by simp, ⟨inner, first, tells⟩, ?_⟩
  rintro later member other ⟨again, readAgain, tellsAgain⟩
  exact silent again (List.mem_filterMap.2 ⟨later, member, readAgain⟩) other
    tellsAgain

theorem lastTells_filterMap_iff {read : α → Option β} {tells : β → γ → Prop}
    {items : List α} {value : γ} :
    LastTells tells (items.filterMap read) value ↔
      LastTells (tellsThrough read tells) items value := by
  refine ⟨LastTells.of_filterMap, ?_⟩
  rintro ⟨before, item, after, rfl, ⟨inner, readNow, tells⟩, silent⟩
  refine ⟨before.filterMap read, inner, after.filterMap read, by simp [readNow],
    tells, ?_⟩
  intro later member other tellsAgain
  rcases List.mem_filterMap.1 member with ⟨item, inside, readLater⟩
  exact silent item inside other ⟨later, readLater, tellsAgain⟩

theorem FirstTells.of_find? {test : α → Bool} {items : List α} {value : α}
    (found : items.find? test = some value) :
    FirstTells (fun item other => test item = true ∧ item = other) items
      value := by
  rcases List.find?_eq_some_iff_append.1 found with
    ⟨passes, before, after, split, others⟩
  refine ⟨before, value, after, split, ⟨passes, rfl⟩, ?_⟩
  rintro earlier member other ⟨passed, -⟩
  simpa [passed] using others earlier member

/-- What is told first is what a search finds that asks each item what it
tells. -/
theorem findSome?_eq_some_iff_firstTells {ask : α → Option β}
    {tells : α → β → Prop}
    (answers : ∀ item value, ask item = some value ↔ tells item value)
    {items : List α} {value : β} :
    items.findSome? ask = some value ↔ FirstTells tells items value := by
  simp only [List.findSome?_eq_some_iff, FirstTells, ← answers,
    ← Option.eq_none_iff_forall_ne_some]

/-- Behind an item after which nothing is told, no other item tells
anything. -/
theorem eq_of_silent_behind {tells : α → β → Prop} {item last : α}
    {after between back : List α} {first second : β}
    (single : ∀ item value other,
      tells item value → tells item other → value = other)
    (told : tells item first)
    (silent : ∀ later ∈ after, ∀ other, ¬ tells later other)
    (split : item :: after = between ++ last :: back)
    (toldLast : tells last second) : first = second := by
  cases between with
  | nil =>
      obtain ⟨rfl, -⟩ := List.cons_eq_cons.1 split
      exact single _ _ _ told toldLast
  | cons head between =>
      obtain ⟨-, rfl⟩ := List.cons_eq_cons.1 split
      exact absurd toldLast (silent last (by simp) second)

/-- Where each item tells one value at most, one value at most is told
last. -/
theorem LastTells.unique {tells : α → β → Prop} {items : List α}
    {first second : β}
    (single : ∀ item value other,
      tells item value → tells item other → value = other)
    (told : LastTells tells items first)
    (again : LastTells tells items second) : first = second := by
  rcases told with ⟨before, item, after, rfl, told, silent⟩
  rcases again with ⟨front, last, back, split, toldLast, silentBack⟩
  rcases List.append_eq_append_iff.1 split with
    ⟨between, -, cut⟩ | ⟨between, -, cut⟩
  · exact eq_of_silent_behind single told silent cut toldLast
  · exact (eq_of_silent_behind single toldLast silentBack cut told).symm

end Told

namespace KeyMap

variable {α β : Type}

theorem find?_ofList_concat (entries : List (String × α))
    (entry : String × α) (key : String) :
    (ofList (entries ++ [entry])).find? key =
      if entry.1 = key then some entry.2 else (ofList entries).find? key := by
  simp [ofList]

theorem mem_of_find?_ofList {entries : List (String × α)} {key : String}
    {value : α} (found : (ofList entries).find? key = some value) :
    (key, value) ∈ entries := by
  induction entries using List.reverseRecOn with
  | nil => simp [ofList] at found
  | append_singleton entries entry ih =>
      rw [find?_ofList_concat] at found
      split at found
      · rename_i same
        obtain rfl : entry.2 = value := Option.some.inj found
        subst same
        simp
      · exact List.mem_append_left _ (ih found)

/-- What is put in later decides. -/
theorem find?_ofList_append (left right : List (String × α)) (key : String) :
    (ofList (left ++ right)).find? key =
      ((ofList right).find? key).or ((ofList left).find? key) := by
  induction right using List.reverseRecOn with
  | nil => simp [ofList]
  | append_singleton right entry ih =>
      rw [← List.append_assoc, find?_ofList_concat, find?_ofList_concat, ih]
      split <;> rfl

/-- The value of a key is that of the last item that has one for it. -/
theorem lastTells_of_find?_ofList {items : List β}
    {told : β → List (String × α)} {key : String} {value : α}
    (found : (ofList (items.flatMap told)).find? key = some value) :
    LastTells (fun item value => (key, value) ∈ told item) items value := by
  induction items using List.reverseRecOn with
  | nil => simp [ofList] at found
  | append_singleton items item ih =>
      rw [List.flatMap_append, List.flatMap_singleton, find?_ofList_append]
        at found
      cases own : (ofList (told item)).find? key with
      | some other =>
          rw [own, Option.some_or] at found
          obtain rfl := Option.some.inj found
          exact ⟨items, item, [], rfl, mem_of_find?_ofList own, by simp⟩
      | none =>
          rw [own, Option.none_or] at found
          rcases ih found with ⟨before, last, after, rfl, tells, silent⟩
          refine ⟨before, last, after ++ [item], by simp, tells, ?_⟩
          intro later member other
          rcases List.mem_append.1 member with inside | final
          · exact silent later inside other
          · obtain rfl := List.mem_singleton.1 final
            intro listed
            have isSome := (isSome_find?_ofList (told later) key).2
              ⟨other, listed⟩
            simp [own] at isSome

/-- Where no item has two values for a key, its value is exactly that of the
last item that has one. -/
theorem find?_ofList_eq_some_iff_lastTells {items : List β}
    {told : β → List (String × α)} {key : String} {value : α}
    (single : ∀ item first second,
      (key, first) ∈ told item → (key, second) ∈ told item → first = second) :
    (ofList (items.flatMap told)).find? key = some value ↔
      LastTells (fun item value => (key, value) ∈ told item) items value := by
  refine ⟨lastTells_of_find?_ofList, ?_⟩
  intro last
  have isSome : ((ofList (items.flatMap told)).find? key).isSome := by
    rcases last with ⟨before, item, after, rfl, tells, -⟩
    rw [isSome_find?_ofList]
    exact ⟨value, List.mem_flatMap.2 ⟨item, by simp, tells⟩⟩
  rcases Option.isSome_iff_exists.1 isSome with ⟨other, found⟩
  rw [found, last.unique single (lastTells_of_find?_ofList found)]

end KeyMap

/-! ## Lines of the mount table -/

namespace MountEntry

/-- The mounted file system that a line tells, if it is text and has four
words. -/
def ofBytes? (line : List UInt8) : Option MountEntry :=
  (Text.ofBytes line).bind fun text => (ofLine text).toOption

theorem ofBytes?_eq_some_iff {line : List UInt8} {entry : MountEntry} :
    ofBytes? line = some entry ↔ entry.WrittenOn line := by
  cases read : Text.ofBytes line with
  | none => simp [ofBytes?, WrittenOn, read]
  | some text =>
      cases told : ofLine text with
      | ok other =>
          have words := @ofLine_eq_ok_iff text entry
          rw [told] at words
          simpa [ofBytes?, WrittenOn, read, told, Except.toOption] using words
      | error error =>
          have words := @ofLine_eq_ok_iff text entry
          rw [told] at words
          simpa [ofBytes?, WrittenOn, read, told, Except.toOption] using words

end MountEntry

namespace MountTable

/-- A line mounts the hierarchy of a controller at a place that has a
parent. -/
def Mounts (controller : String) (line : List UInt8) (mountPoint : String) :
    Prop :=
  ∃ entry : MountEntry, entry.WrittenOn line ∧
    entry.fsType = controllerFsType ∧
    (Path.parent ⟨entry.mountPoint⟩).isSome ∧
    controller ∈ Text.split ',' entry.options ∧
    entry.mountPoint = mountPoint

/-- A line mounts the unified hierarchy. -/
def MountsUnified (line : List UInt8) (mountPoint : String) : Prop :=
  ∃ entry : MountEntry, entry.WrittenOn line ∧
    entry.fsType = unifiedFsType ∧ entry.mountPoint = mountPoint

/-- The entries of a table are told by the lines at its front, all of which
can be used; these are all its lines if there is no fault. -/
theorem entries_ofByteLines (path : Path) (lines : List (List UInt8)) :
    ∃ used rest, lines = used ++ rest ∧ (∀ line ∈ used, UsableLine line) ∧
      (ofByteLines path lines).entries = used.filterMap MountEntry.ofBytes? ∧
      ((ofByteLines path lines).fault = none → rest = []) := by
  induction lines with
  | nil => exact ⟨[], [], rfl, by simp, rfl, fun _ => rfl⟩
  | cons line lines ih =>
      rcases ih with ⟨used, rest, split, usable, entries, whole⟩
      have further (usableLine : UsableLine line) :
          ∀ other ∈ line :: used, UsableLine other := by
        simpa [usableLine] using usable
      -- A blank line tells nothing; a line that cannot be used ends the table.
      rcases ofByteLines_cons path line lines with
        ⟨usableLine, blank, table⟩ | ⟨entry, usableLine, written, table⟩ |
        ⟨-, -, error, table⟩
      · have unread : MountEntry.ofBytes? line = none := by
          rw [Option.eq_none_iff_forall_ne_some]
          intro entry told
          exact blank entry (MountEntry.ofBytes?_eq_some_iff.1 told)
        refine ⟨line :: used, rest, by simp [split], further usableLine, ?_, ?_⟩
        · simp [table, entries, unread]
        · simpa [table] using whole
      · have told : MountEntry.ofBytes? line = some entry :=
          MountEntry.ofBytes?_eq_some_iff.2 ((written entry).2 rfl)
        refine ⟨line :: used, rest, by simp [split], further usableLine, ?_, ?_⟩
        · simp [table, entries, told]
        · simpa [table] using whole
      · exact ⟨[], line :: lines, rfl, by simp, by simp [table],
          by simp [table]⟩

/-- The directory of a controller comes from the last line that mounts its
hierarchy. -/
theorem lastTells_of_find?_directories {root : Path}
    {lines : List (List UInt8)} (usable : ∀ line ∈ lines, UsableLine line)
    {controller : String} {directory : Path}
    (found : (directories root lines).find? controller = some directory) :
    controller ∈ knownControllers ∧
      ∃ mountPoint parent, LastTells (Mounts controller) lines mountPoint ∧
        Path.parent ⟨mountPoint⟩ = some parent ∧
        directory = parent.below root := by
  rcases entries_ofByteLines (tablePath root) lines with
    ⟨used, rest, rfl, -, entries, whole⟩
  obtain rfl : rest = [] :=
    whole ((fault_ofByteLines_eq_none_iff _ _).2 usable)
  rw [List.append_nil] at found entries ⊢
  rw [directories, entries] at found
  rcases (KeyMap.lastTells_of_find?_ofList found).of_filterMap with
    ⟨before, line, after, rfl, ⟨entry, told, listed⟩, silent⟩
  rcases mem_controllerDirectories_iff.1 listed with
    ⟨type, mounted, parent, above, rfl⟩
  rcases mem_controllers_iff.1 mounted with ⟨option, known⟩
  refine ⟨known, entry.mountPoint, parent, ⟨before, line, after, rfl, ?_, ?_⟩,
    above, rfl⟩
  · exact ⟨entry, MountEntry.ofBytes?_eq_some_iff.1 told, type, by simp [above],
      option, rfl⟩
  · rintro later member _ ⟨other, written, otherType, isSome, otherOption, rfl⟩
    rcases Option.isSome_iff_exists.1 isSome with ⟨outer, otherAbove⟩
    exact silent later member (outer.below root) ⟨other,
      MountEntry.ofBytes?_eq_some_iff.2 written,
      mem_controllerDirectories_iff.2 ⟨otherType,
        mem_controllers_iff.2 ⟨otherOption, known⟩, outer, otherAbove, rfl⟩⟩

/-- The unified hierarchy is where the first line that mounts it says, before
which all lines can be used. -/
theorem firstTells_of_found_unifiedMount {root : Path} {tree : FileTree}
    {mount : Path}
    (found : (unifiedMount root unifiedFsType).found tree = .ok mount) :
    ∃ used rest mountPoint,
      tree.byteLinesAt (tablePath root) = some (used ++ rest) ∧
        (∀ line ∈ used, UsableLine line) ∧
        FirstTells MountsUnified used mountPoint ∧
        mount = Path.below ⟨mountPoint⟩ root := by
  rcases found_unifiedMount_eq_ok_iff.1 found with
    ⟨table, entry, read, first, rfl⟩
  rcases byteLinesAt_of_mem read (List.mem_of_find?_eq_some first) with
    ⟨lines, file, rfl⟩
  rcases entries_ofByteLines (tablePath root) lines with
    ⟨used, rest, rfl, usable, entries, -⟩
  rw [entries] at first
  rcases (FirstTells.of_find? first).of_filterMap with
    ⟨before, line, after, rfl, ⟨_, told, type, rfl⟩, silent⟩
  refine ⟨_, rest, _, file, usable, ⟨before, line, after, rfl, ?_, ?_⟩, rfl⟩
  · exact ⟨_, MountEntry.ofBytes?_eq_some_iff.1 told, by simpa using type, rfl⟩
  · rintro earlier member _ ⟨other, written, otherType, rfl⟩
    exact silent earlier member other ⟨other,
      MountEntry.ofBytes?_eq_some_iff.2 written, by simpa using otherType, rfl⟩

end MountTable

/-! ## Lines of a membership file -/

namespace Membership

/-- A line names a controller, with a group. -/
def Joins (controller : String) (line : List UInt8) (group : String) : Prop :=
  ∃ membership : Membership, membership.WrittenOn line ∧
    controller ∈ Text.split ',' membership.controllers ∧
    membership.group = group

/-- A line tells the group in the unified hierarchy. -/
def JoinsUnified (line : List UInt8) (group : String) : Prop :=
  ∃ membership : Membership, membership.WrittenOn line ∧
    membership.hierarchy = "0" ∧ membership.controllers = "" ∧
    membership.group = group

/-- The membership that a line tells, if it is text and has two colons. -/
def ofBytes? (line : List UInt8) : Option Membership :=
  (Text.ofBytes line).bind ofLine

theorem ofBytes?_eq_some_iff {line : List UInt8} {membership : Membership} :
    ofBytes? line = some membership ↔ membership.WrittenOn line := by
  cases read : Text.ofBytes line with
  | none => simp [ofBytes?, WrittenOn, read]
  | some text => simp [ofBytes?, WrittenOn, read, ofLine_eq_some_iff]

/-- The memberships of a process are those that the lines tell. -/
theorem eq_filterMap_of_told {path : Path} {lines : List (List UInt8)}
    {memberships : List Membership}
    (told : ofByteLines path lines = .ok memberships) :
    memberships = lines.filterMap ofBytes? := by
  rcases ofByteLines_eq_ok_iff.1 told with ⟨usable, rfl⟩
  rw [Lines.texts_ofByteLines_of_readable (readable_of_usable usable),
    List.filterMap_filterMap]
  rfl

/-- The group of a controller comes from the last line that names it. -/
theorem lastTells_of_find?_groupsByController {path : Path}
    {lines : List (List UInt8)} {memberships : List Membership}
    (told : ofByteLines path lines = .ok memberships)
    {controller group : String}
    (found : (groupsByController memberships).find? controller = some group) :
    LastTells (Joins controller) lines group := by
  rw [eq_filterMap_of_told told, groupsByController] at found
  rcases (KeyMap.lastTells_of_find?_ofList found).of_filterMap with
    ⟨before, line, after, rfl, ⟨membership, read, listed⟩, silent⟩
  rcases mem_controllerGroups_iff.1 listed with ⟨member, named, rfl⟩
  refine ⟨before, line, after, rfl, ?_, ?_⟩
  · exact ⟨membership, ofBytes?_eq_some_iff.1 read, member, rfl⟩
  · rintro later inside _ ⟨other, written, otherMember, rfl⟩
    exact silent later inside other.group ⟨other,
      ofBytes?_eq_some_iff.2 written,
      mem_controllerGroups_iff.2 ⟨otherMember, named, rfl⟩⟩

/-- The group in the unified hierarchy comes from the first line that tells
it. -/
theorem firstTells_of_unifiedGroup {path : Path} {lines : List (List UInt8)}
    {memberships : List Membership}
    (told : ofByteLines path lines = .ok memberships) {group : String}
    (found : unifiedGroup memberships = some group) :
    FirstTells JoinsUnified lines group := by
  rw [eq_filterMap_of_told told, unifiedGroup, Option.map_eq_some_iff] at found
  rcases found with ⟨_, first, rfl⟩
  rcases (FirstTells.of_find? first).of_filterMap with
    ⟨before, line, after, rfl, ⟨_, read, unified, rfl⟩, silent⟩
  simp only [isUnified, Bool.and_eq_true, beq_iff_eq] at unified silent
  refine ⟨before, line, after, rfl, ?_, ?_⟩
  · exact ⟨_, ofBytes?_eq_some_iff.1 read, unified.1, unified.2, rfl⟩
  · rintro earlier inside _ ⟨other, written, hierarchy, controllers, rfl⟩
    exact silent earlier inside other ⟨other, ofBytes?_eq_some_iff.2 written,
      ⟨hierarchy, controllers⟩, rfl⟩

end Membership

/-! ## Names below the root -/

theorem MountTable.isName_of_known {controller : String}
    (known : controller ∈ knownControllers) : Path.IsName controller := by
  have all : ∀ name ∈ knownControllers, Path.IsName name := by decide
  exact all controller known

theorem AccountFile.isName_of_inGroup {layout : GroupLayout}
    {file : AccountFile layout} {controller name : String}
    (used : file.inGroup = some (controller, name)) : Path.IsName name := by
  cases file with
  | hostCpu => cases used
  | cpuset =>
      cases layout with
      | perController =>
          cases used
          decide
      | unified =>
          cases used
          decide
  | _ =>
      cases used
      decide

namespace GroupLocations

/-- The names between the root and the group of a controller, as the lines of
the mount table and of the memberships have them. -/
def NamesToGroup (mounts memberships : List (List UInt8))
    (controller : String) : GroupLayout → List String → Prop
  | .perController, names =>
      ∃ mountPoint parent group,
        LastTells (MountTable.Mounts controller) mounts mountPoint ∧
          LastTells (Membership.Joins controller) memberships group ∧
          Path.parent ⟨mountPoint⟩ = some parent ∧
          parent.names = (Path.names ⟨mountPoint⟩).dropLast ∧
          names = parent.names ++ [controller] ++ Path.names ⟨group⟩
  | .unified, names =>
      ∃ used rest mountPoint group, mounts = used ++ rest ∧
        (∀ line ∈ used, MountTable.UsableLine line) ∧
          FirstTells MountTable.MountsUnified used mountPoint ∧
          FirstTells Membership.JoinsUnified memberships group ∧
          names = Path.names ⟨mountPoint⟩ ++ Path.names ⟨group⟩

theorem directory_perController_eq_ok_iff {mounts : KeyMap Path}
    {groups : KeyMap String} {controller : String} {place : Path} :
    (perController mounts groups).directory controller = .ok place ↔
      ∃ mount group, mounts.find? controller = some mount ∧
        groups.find? controller = some group ∧
        place = (mount.join ⟨controller⟩).join (relativeGroup group) := by
  cases mount : mounts.find? controller <;>
    cases group : groups.find? controller <;>
      simp [directory, mount, group, eq_comm]

/-- The directory of a group is below the root, by the names that the mount
table and the memberships have for it. -/
theorem names_directory {layout : GroupLayout} {root : Path} {pid : UInt32}
    {tree : FileTree} {locations : GroupLocations}
    (located : (resolve layout root pid).found tree = .ok locations)
    {controller : String} {directory : Path}
    (reached : locations.directory controller = .ok directory) :
    ∃ mounts memberships names,
      tree.byteLinesAt (MountTable.tablePath root) = some mounts ∧
        tree.byteLinesAt (Membership.filePath root pid) = some memberships ∧
        NamesToGroup mounts memberships controller layout names ∧
        directory.isAbsolute = root.isAbsolute ∧
        directory.names = root.names ++ names := by
  cases layout with
  | perController =>
      rcases found_resolvePerController.1 located with
        ⟨_, told, mounted, read, rfl, -⟩
      rcases MountTable.found_controllerMounts_of_file.1 mounted with
        ⟨mounts, mountFile, usable, rfl, -⟩
      rcases Membership.found_read_of_file.1 read with
        ⟨memberships, file, parsed⟩
      rcases directory_perController_eq_ok_iff.1 reached with
        ⟨mount, group, place, joined, rfl⟩
      rcases MountTable.lastTells_of_find?_directories usable place with
        ⟨known, mountPoint, parent, mountsLast, above, rfl⟩
      have isName := MountTable.isName_of_known known
      refine ⟨mounts, memberships, _, mountFile, file,
        ⟨mountPoint, parent, group, mountsLast,
          Membership.lastTells_of_find?_groupsByController parsed joined,
          above, Path.names_parent above, rfl⟩, ?_, ?_⟩
      · rw [Path.isAbsolute_join (isAbsolute_relativeGroup group),
          Path.isAbsolute_join isName.isAbsolute, Path.isAbsolute_below]
      · rw [names_join_relativeGroup, Path.names_join isName.isAbsolute,
          Path.names_below, isName.names]
        simp only [List.append_assoc]
  | unified =>
      rcases found_resolveUnified.1 located with
        ⟨mount, group, mounted, joined, rfl⟩
      rcases MountTable.firstTells_of_found_unifiedMount mounted with
        ⟨used, rest, mountPoint, mountFile, usable, mountsFirst, rfl⟩
      rcases Membership.found_readUnified_eq_ok_iff.1 joined with
        ⟨told, read, first⟩
      rcases Membership.found_read_of_file.1 read with
        ⟨memberships, file, parsed⟩
      obtain rfl := Except.ok.inj reached
      refine ⟨_, memberships, _, mountFile, file,
        ⟨used, rest, mountPoint, group, rfl, usable, mountsFirst,
          Membership.firstTells_of_unifiedGroup parsed first, rfl⟩, ?_, ?_⟩
      · rw [Path.isAbsolute_join (isAbsolute_relativeGroup group),
          Path.isAbsolute_below]
      · rw [names_join_relativeGroup, Path.names_below, List.append_assoc]

/-- A file that is read for a sample lies below the root: its path starts
where the root starts and has the names of the root, those on the way to the
group of the controller, and its own name. -/
theorem statFile_below_root {layout : GroupLayout} {root : Path} {pid : UInt32}
    {tree : FileTree} {locations : GroupLocations}
    (located : (resolve layout root pid).found tree = .ok locations)
    {controller : String} {directory : Path}
    (reached : locations.directory controller = .ok directory)
    {kind : GroupLayout} (file : AccountFile kind) {owner name : String}
    (used : file.inGroup = some (owner, name)) :
    ∃ mounts memberships names path,
      tree.byteLinesAt (MountTable.tablePath root) = some mounts ∧
        tree.byteLinesAt (Membership.filePath root pid) = some memberships ∧
        NamesToGroup mounts memberships controller layout names ∧
        locations.statFile controller name = .ok path ∧
        path.isAbsolute = root.isAbsolute ∧
        path.names = root.names ++ names ++ [name] := by
  have isName := AccountFile.isName_of_inGroup used
  rcases names_directory located reached with
    ⟨mounts, memberships, names, mountFile, membershipFile, way, start, whole⟩
  refine ⟨mounts, memberships, names, directory.join ⟨name⟩, mountFile,
    membershipFile, way, ?_, ?_, ?_⟩
  · rw [statFile, reached]
    rfl
  · rw [Path.isAbsolute_join isName.isAbsolute, start]
  · rw [Path.names_join isName.isAbsolute, whole, isName.names]

/-- A host with more slashes than names in its mount table and memberships,
where a group asks for its parent. -/
def slashedHost : FileTree :=
  RawSample.hostTree
    "c //sys//./fs/cpu,cpuacct cgroup rw,cpu,cpuacct"
    "4:cpu,cpuacct:///../x//" []

theorem slashedHost_keeps_all_names :
    ∃ locations path,
      (resolve .perController ⟨"/proc/.."⟩ 7).found slashedHost =
          .ok locations ∧
        locations.statFile "cpuacct" "cpuacct.usage" = .ok path ∧
        path = ⟨"/proc/../sys//./fs/cpuacct/../x//cpuacct.usage"⟩ ∧
        path.isAbsolute = true ∧
        ["proc", ".."] <+: path.names := by
  have isOk : ((resolve .perController ⟨"/proc/.."⟩ 7).found
      slashedHost).isOk = true := by
    decide +kernel
  rcases exists_ok_of_isOk isOk with ⟨locations, located⟩
  have placed : ((resolve .perController ⟨"/proc/.."⟩ 7).found slashedHost).bind
      (fun locations => locations.directory "cpuacct") =
        .ok ⟨"/proc/../sys//./fs/cpuacct/../x//"⟩ := by
    decide +kernel
  rw [located] at placed
  rcases statFile_below_root located placed AccountFile.cpuUsage rfl with
    ⟨mounts, memberships, names, path, -, -, -, file, start, whole⟩
  have text := file
  rw [statFile, show locations.directory "cpuacct" = _ from placed] at text
  refine ⟨locations, path, located, file, (Except.ok.inj text).symm, start, ?_⟩
  exact ⟨names ++ ["cpuacct.usage"], by rw [whole, List.append_assoc]; rfl⟩

end GroupLocations

end CgroupMeter
