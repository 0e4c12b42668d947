import CgroupMeter.Container.HostProcess
import CgroupMeter.Proofs.Mount.Lookup
import CgroupMeter.Proofs.Path.Joining
import CgroupMeter.Sample.Error

/-!
# Which layout is detected

Four passes go over the mount table: one finds the layout to use, one tells its
version to a caller, and one for each layout looks up its hierarchies.  They
filter and stop differently.  The detected layout is the one that the told
version stands for, its look-up finds what was detected, and a table that
cannot be used fails them alike, but for the look-up that stops at the first
mount of the unified hierarchy.
-/

namespace CgroupMeter

namespace Path

/-- A path that is the root, however it is written. -/
def IsRoot (path : Path) : Prop :=
  path.isAbsolute = true ∧ path.names = []

theorem names_eq_nil_iff (path : Path) :
    path.names = [] ↔ path.layout.named = [] := by
  cases last : path.layout.named.getLast? with
  | none =>
      have nameless := List.getLast?_eq_none_iff.1 last
      simp [names_of_nameless nameless, nameless]
  | some name =>
      rcases exists_endsIn last with ⟨outer, voids, ends⟩
      have named : path.layout.named ≠ [] := by
        intro nameless
        simp [nameless] at last
      simp [ends.names, named]

/-- Of the paths with a text only the root has no parent. -/
theorem parent_eq_none_iff {path : Path} (filled : path.text ≠ "") :
    path.parent = none ↔ path.IsRoot := by
  rw [IsRoot, names_eq_nil_iff]
  cases named : path.layout.named with
  | cons first rest => simp [Path.parent, named]
  | nil =>
      cases absolute : path.isAbsolute with
      | true =>
          have start : path.layout.start = .root := by
            simp [layout, absolute]
          simp [Path.parent, named, start]
      | false =>
          -- A relative path that names nothing starts with a dot.
          have here : path.segments.head? = some "." := by
            have bare := (names_eq_nil_iff path).2 named
            have parts := path.segments_ne_nil
            cases whole : path.segments with
            | nil => exact absurd whole parts
            | cons first rest =>
                have void : isVoid first = true := by
                  have all := List.filter_eq_nil_iff.1 bare first
                    (by simp [whole])
                  simpa using all
                have dot : first ≠ "" := by
                  rintro rfl
                  cases rest with
                  | nil =>
                      apply filled
                      rw [← joinSegments_segments, whole]
                      rfl
                  | cons second others =>
                      rw [isAbsolute_iff.2 ⟨second, others, whole⟩] at absolute
                      cases absolute
                simpa [isVoid, dot] using void
          have start : path.layout.start = .here := by
            simp [layout, absolute, here]
          simp [Path.parent, named, start]

end Path

namespace MountEntry

theorem WrittenOn.mountPoint_ne_empty {entry : MountEntry} {line : List UInt8}
    (written : entry.WrittenOn line) : entry.mountPoint ≠ "" := by
  rcases written with ⟨text, further, -, words⟩
  have listed : entry.mountPoint ∈ Text.words text := by simp [words]
  exact Text.ne_empty_of_mem_words listed

end MountEntry

namespace MountTable

/-! ## The passes over a table -/

section Passes

variable {root : Path} {tree : FileTree} {table : MountTable}
    {error : MountError}

/-- A table that cannot be opened fails every pass. -/
theorem passes_of_error (failed : (read root).found tree = .error error)
    (fsType : String) :
    (mountedLayouts root).found tree = .error error ∧
      (controllerMounts root fsType).found tree = .error error ∧
      (unifiedMount root fsType).found tree = .error error := by
  simp [mountedLayouts, controllerMounts, unifiedMount, failed]

/-- A line that cannot be used fails every pass that comes to it. -/
theorem passes_of_fault (told : (read root).found tree = .ok table)
    (fault : table.fault = some error) (fsType : String) :
    (mountedLayouts root).found tree = .error error ∧
      (controllerMounts root fsType).found tree = .error error ∧
      (unifiedMount root fsType).found tree =
        match table.entries.find? fun entry => entry.fsType == fsType with
        | some entry => .ok (Path.below ⟨entry.mountPoint⟩ root)
        | none => .error error := by
  refine ⟨?_, ?_, ?_⟩
  · simp [mountedLayouts, told, finish, fault]
  · simp only [controllerMounts, Inquiry.found_bind, told, Inquiry.found_pure]
    simp [finish, fault, bind, Except.bind]
  · cases first : table.entries.find? fun entry => entry.fsType == fsType with
    | some entry => simp [unifiedMount, told, first]
    | none =>
        simp only [unifiedMount, Inquiry.found_bind, told, first,
          Inquiry.found_pure]
        simp [finish, fault, bind, Except.bind]

theorem passes_of_whole (told : (read root).found tree = .ok table)
    (whole : table.fault = none) (fsType : String) :
    (mountedLayouts root).found tree = .ok table.layouts ∧
      (controllerMounts root fsType).found tree =
        (let mounts := KeyMap.ofList
          (table.entries.flatMap (controllerDirectories root fsType))
        if mounts.isEmpty then .error (.missingMount fsType table.path)
        else .ok mounts) ∧
      (unifiedMount root fsType).found tree =
        match table.entries.find? fun entry => entry.fsType == fsType with
        | some entry => .ok (Path.below ⟨entry.mountPoint⟩ root)
        | none => .error (.missingMount fsType table.path) := by
  refine ⟨?_, ?_, ?_⟩
  · simp [mountedLayouts, told, finish, whole]
  · simp only [controllerMounts, Inquiry.found_bind, told, Inquiry.found_pure]
    simp [finish, whole, bind, Except.bind]
  · cases first : table.entries.find? fun entry => entry.fsType == fsType with
    | some entry => simp [unifiedMount, told, first]
    | none =>
        simp only [unifiedMount, Inquiry.found_bind, told, first,
          Inquiry.found_pure]
        simp [finish, whole, bind, Except.bind]

end Passes

/-! ## What is mounted -/

theorem perController_layouts_iff {table : MountTable} :
    table.layouts.perController = true ↔
      ∃ entry ∈ table.entries, entry.fsType = controllerFsType ∧
        ∃ controller ∈ knownControllers,
          controller ∈ Text.split ',' entry.options := by
  simp only [layouts, List.any_eq_true, Bool.and_eq_true, beq_iff_eq,
    Bool.not_eq_true', List.isEmpty_eq_false_iff_exists_mem,
    mem_controllers_iff]
  refine exists_congr fun entry => and_congr_right fun _ =>
    and_congr_right fun _ => exists_congr fun controller => ?_
  exact And.comm

theorem unified_layouts_iff {table : MountTable} :
    table.layouts.unified = true ↔
      ∃ entry ∈ table.entries, entry.fsType = unifiedFsType := by
  simp [layouts]

/-- What is mounted does not depend on the order of the lines. -/
theorem layouts_eq_of_mem_iff {table other : MountTable}
    (same : ∀ entry, entry ∈ table.entries ↔ entry ∈ other.entries) :
    table.layouts = other.layouts := by
  have perController :
      table.layouts.perController = other.layouts.perController := by
    rw [Bool.eq_iff_iff, perController_layouts_iff, perController_layouts_iff]
    simp only [same]
  have unified : table.layouts.unified = other.layouts.unified := by
    rw [Bool.eq_iff_iff, unified_layouts_iff, unified_layouts_iff]
    simp only [same]
  exact congrArg₂ MountedLayouts.mk perController unified

/-- A directory is found for some controller exactly when a line mounts a
controller at a place with a parent. -/
theorem isEmpty_directories_eq_false_iff {root : Path}
    {lines : List (List UInt8)} (usable : ∀ line ∈ lines, UsableLine line) :
    (directories root lines).isEmpty = false ↔
      ∃ controller ∈ knownControllers, Mounted lines controller := by
  constructor
  · intro filled
    rcases KeyMap.isEmpty_eq_false_iff.1 filled with ⟨controller, isSome⟩
    rcases (KeyMap.isSome_find?_ofList _ _).1 isSome with ⟨value, listed⟩
    rcases List.mem_flatMap.1 listed with ⟨entry, -, told⟩
    have known :=
      (mem_controllers_iff.1 (mem_controllerDirectories_iff.1 told).2.1).2
    exact ⟨controller, known, (isSome_find?_directories usable known).1 isSome⟩
  · rintro ⟨controller, known, mounted⟩
    exact KeyMap.isEmpty_eq_false_of_find?
      ((isSome_find?_directories usable known).2 mounted)

/-- The layouts of two tables with the same lines in some order are found
alike. -/
theorem toOption_found_mountedLayouts_of_perm {root otherRoot : Path}
    {tree other : FileTree} {lines others : List (List UInt8)}
    (file : tree.byteLinesAt (tablePath root) = some lines)
    (otherFile : other.byteLinesAt (tablePath otherRoot) = some others)
    (reordered : lines.Perm others) :
    ((mountedLayouts root).found tree).toOption =
      ((mountedLayouts otherRoot).found other).toOption := by
  have told := found_read_of_byteLinesAt file
  have otherTold := found_read_of_byteLinesAt otherFile
  by_cases usable : ∀ line ∈ lines, UsableLine line
  · have otherUsable : ∀ line ∈ others, UsableLine line := fun line member =>
      usable line (reordered.mem_iff.2 member)
    have same : ∀ entry,
        entry ∈ (ofByteLines (tablePath root) lines).entries ↔
          entry ∈ (ofByteLines (tablePath otherRoot) others).entries := by
      intro entry
      simp only [mem_entries_of_usable usable,
        mem_entries_of_usable otherUsable, reordered.mem_iff]
    rw [(passes_of_whole told ((fault_ofByteLines_eq_none_iff _ _).2 usable)
        controllerFsType).1,
      (passes_of_whole otherTold
        ((fault_ofByteLines_eq_none_iff _ _).2 otherUsable) controllerFsType).1,
      layouts_eq_of_mem_iff same]
  · have faulty : (ofByteLines (tablePath root) lines).fault ≠ none := by
      intro whole
      exact usable ((fault_ofByteLines_eq_none_iff _ _).1 whole)
    have otherFaulty :
        (ofByteLines (tablePath otherRoot) others).fault ≠ none := by
      intro whole
      apply usable
      intro line member
      exact (fault_ofByteLines_eq_none_iff _ _).1 whole line
        (reordered.mem_iff.1 member)
    rcases Option.ne_none_iff_exists'.1 faulty with ⟨error, fault⟩
    rcases Option.ne_none_iff_exists'.1 otherFaulty with
      ⟨otherError, otherFault⟩
    rw [(passes_of_fault told fault controllerFsType).1,
      (passes_of_fault otherTold otherFault controllerFsType).1]
    rfl

/-! ## Look-ups in a table of usable lines -/

section Usable

variable {root : Path} {tree : FileTree} {lines : List (List UInt8)}

theorem controllerMounts_ok_iff
    (file : tree.byteLinesAt (tablePath root) = some lines)
    (usable : ∀ line ∈ lines, UsableLine line) :
    (∃ mounts, (controllerMounts root controllerFsType).found tree =
        .ok mounts) ↔
      ∃ controller ∈ knownControllers, Mounted lines controller := by
  rw [← @isEmpty_directories_eq_false_iff root lines usable]
  constructor
  · rintro ⟨_, found⟩
    rcases found_controllerMounts_of_file.1 found with
      ⟨others, sameFile, -, rfl, filled⟩
    cases file.symm.trans sameFile
    exact filled
  · intro filled
    exact ⟨_, found_controllerMounts_of_file.2
      ⟨lines, file, usable, rfl, filled⟩⟩

theorem controllerMounts_missing
    (file : tree.byteLinesAt (tablePath root) = some lines)
    (usable : ∀ line ∈ lines, UsableLine line)
    (absent : ¬ ∃ controller ∈ knownControllers, Mounted lines controller) :
    (controllerMounts root controllerFsType).found tree =
      .error (.missingMount controllerFsType (tablePath root)) := by
  have told := found_read_of_byteLinesAt file
  have whole := (fault_ofByteLines_eq_none_iff (tablePath root) lines).2 usable
  have empty : (directories root lines).isEmpty = true := by
    rw [← @isEmpty_directories_eq_false_iff root lines usable] at absent
    simpa using absent
  rw [(passes_of_whole told whole controllerFsType).2.1]
  exact if_pos empty

theorem perController_of_mounted
    (usable : ∀ line ∈ lines, UsableLine line)
    (placed : ∃ controller ∈ knownControllers, Mounted lines controller) :
    (ofByteLines (tablePath root) lines).layouts.perController = true := by
  rcases placed with
    ⟨controller, known, entry, line, member, written, type, -, listed⟩
  exact perController_layouts_iff.2 ⟨entry,
    (mem_entries_of_usable usable).2 ⟨line, member, written⟩, type,
    controller, known, listed⟩

theorem unifiedMount_ok
    (file : tree.byteLinesAt (tablePath root) = some lines)
    (counted : (ofByteLines (tablePath root) lines).layouts.unified = true) :
    ∃ mount, (unifiedMount root unifiedFsType).found tree = .ok mount := by
  rcases unified_layouts_iff.1 counted with ⟨entry, member, type⟩
  rcases mem_entries_ofByteLines_iff.1 member with
    ⟨before, line, after, rfl, usableBefore, written⟩
  exact found_unifiedMount_of_file.2
    ⟨_, file, entry, before, line, after, rfl, usableBefore, written, type⟩

theorem unifiedMount_missing
    (file : tree.byteLinesAt (tablePath root) = some lines)
    (usable : ∀ line ∈ lines, UsableLine line)
    (uncounted :
      (ofByteLines (tablePath root) lines).layouts.unified = false) :
    (unifiedMount root unifiedFsType).found tree =
      .error (.missingMount unifiedFsType (tablePath root)) := by
  have told := found_read_of_byteLinesAt file
  have whole := (fault_ofByteLines_eq_none_iff (tablePath root) lines).2 usable
  rw [(passes_of_whole told whole unifiedFsType).2.2]
  cases first : (ofByteLines (tablePath root) lines).entries.find?
      fun entry => entry.fsType == unifiedFsType with
  | none => rfl
  | some entry =>
      have counted := unified_layouts_iff.2 ⟨entry,
        List.mem_of_find?_eq_some first, by simpa using List.find?_some first⟩
      rw [uncounted] at counted
      cases counted

end Usable

end MountTable

/-! ## Detection -/

open MountTable

theorem HostProcess.found_info (root : Path) (tree : FileTree) :
    (HostProcess.info root).found tree =
      match (mountedLayouts root).found tree with
      | .error error => .error (.info (.mounts error))
      | .ok layouts =>
          match versionOf layouts with
          | none => .error (.info .nothingMounted)
          | some version => .ok ⟨version, ""⟩ := by
  cases told : (mountedLayouts root).found tree with
  | error error => simp [info, told]
  | ok layouts =>
      cases version : versionOf layouts <;> simp [info, told, version]

namespace GroupLayout

theorem found_detect (root : Path) (tree : FileTree) :
    (detect root).found tree =
      match (mountedLayouts root).found tree with
      | .error error => .error (.detect error)
      | .ok layouts => ofMounted layouts := by
  cases told : (mountedLayouts root).found tree <;> simp [detect, told]

theorem toOption_found_detect (root : Path) (tree : FileTree) :
    ((detect root).found tree).toOption =
      ((mountedLayouts root).found tree).toOption.bind fun layouts =>
        (ofMounted layouts).toOption := by
  rw [found_detect]
  cases (mountedLayouts root).found tree <;> rfl

/-- The version that is told stands for the layout that is used. -/
theorem ofVersion_versionOf (layouts : MountedLayouts) :
    ((HostProcess.versionOf layouts).bind fun version =>
        (ofVersion version).toOption) =
      (ofMounted layouts).toOption := by
  rcases layouts with ⟨_ | _, _ | _⟩ <;> rfl

theorem ofVersion_found_info (root : Path) (tree : FileTree) :
    (((HostProcess.info root).found tree).toOption.bind fun info =>
        (ofVersion info.version).toOption) =
      ((detect root).found tree).toOption := by
  rw [toOption_found_detect, HostProcess.found_info]
  cases (mountedLayouts root).found tree with
  | error error => rfl
  | ok layouts =>
      refine Eq.trans ?_ (ofVersion_versionOf layouts)
      cases version : HostProcess.versionOf layouts <;>
        simp [Except.toOption, version]

/-- What the look-ups find when this is what is detected. -/
def LookUpsAgree (root : Path) (tree : FileTree) :
    Except FetchError GroupLayout → Prop
  | .ok .unified =>
      ∃ mount, (unifiedMount root unifiedFsType).found tree = .ok mount
  | .ok .perController =>
      ∃ lines, tree.byteLinesAt (tablePath root) = some lines ∧
        (∀ line ∈ lines, ∀ entry : MountEntry, entry.WrittenOn line →
          (Path.parent ⟨entry.mountPoint⟩ = none ↔
            Path.IsRoot ⟨entry.mountPoint⟩)) ∧
        ((∃ mounts,
            (controllerMounts root controllerFsType).found tree =
              .ok mounts) ↔
          ∃ controller ∈ knownControllers, Mounted lines controller) ∧
        ((¬ ∃ controller ∈ knownControllers, Mounted lines controller) →
          (controllerMounts root controllerFsType).found tree =
            .error (.missingMount controllerFsType (tablePath root)))
  | .error .nothingMounted =>
      (controllerMounts root controllerFsType).found tree =
          .error (.missingMount controllerFsType (tablePath root)) ∧
        (unifiedMount root unifiedFsType).found tree =
          .error (.missingMount unifiedFsType (tablePath root))
  | .error (.detect error) =>
      (controllerMounts root controllerFsType).found tree = .error error ∧
        ((∃ mount, (unifiedMount root unifiedFsType).found tree = .ok mount) ↔
          ∃ lines, tree.byteLinesAt (tablePath root) = some lines ∧
            MountedUnified lines) ∧
        ((¬ ∃ lines, tree.byteLinesAt (tablePath root) = some lines ∧
            MountedUnified lines) →
          (unifiedMount root unifiedFsType).found tree = .error error)
  | .error _ => False

theorem lookUpsAgree_of_error {root : Path} {tree : FileTree}
    {error : MountError} (failed : (read root).found tree = .error error) :
    LookUpsAgree root tree ((detect root).found tree) := by
  rcases passes_of_error failed controllerFsType with ⟨layouts, mounts, -⟩
  rcases passes_of_error failed unifiedFsType with ⟨-, -, unified⟩
  rw [found_detect, layouts]
  exact ⟨mounts, found_unifiedMount_of_file, fun _ => unified⟩

theorem lookUpsAgree_of_fault {root : Path} {tree : FileTree}
    {table : MountTable} {error : MountError}
    (told : (read root).found tree = .ok table)
    (fault : table.fault = some error) :
    LookUpsAgree root tree ((detect root).found tree) := by
  rcases passes_of_fault told fault controllerFsType with ⟨layouts, mounts, -⟩
  rcases passes_of_fault told fault unifiedFsType with ⟨-, -, unified⟩
  rw [found_detect, layouts]
  refine ⟨mounts, found_unifiedMount_of_file, ?_⟩
  rw [← found_unifiedMount_of_file]
  intro absent
  cases first : table.entries.find? fun entry =>
      entry.fsType == unifiedFsType with
  | none => rw [unified, first]
  | some entry =>
      rw [first] at unified
      exact absurd ⟨_, unified⟩ absent

theorem lookUpsAgree_of_whole {root : Path} {tree : FileTree}
    {table : MountTable} (told : (read root).found tree = .ok table)
    (whole : table.fault = none) :
    LookUpsAgree root tree ((detect root).found tree) := by
  rcases byteLinesAt_of_whole told whole with ⟨lines, file, usable, rfl⟩
  rw [found_detect, (passes_of_whole told whole controllerFsType).1]
  cases perController :
      (ofByteLines (tablePath root) lines).layouts.perController with
  | true =>
      simp only [ofMounted, perController, if_true]
      refine ⟨lines, file, ?_, controllerMounts_ok_iff file usable,
        controllerMounts_missing file usable⟩
      intro line member entry written
      exact Path.parent_eq_none_iff written.mountPoint_ne_empty
  | false =>
      have absent :
          ¬ ∃ controller ∈ knownControllers, Mounted lines controller := by
        intro placed
        rw [perController_of_mounted usable placed] at perController
        cases perController
      cases unified : (ofByteLines (tablePath root) lines).layouts.unified with
      | true =>
          simp only [ofMounted, perController, unified, if_true]
          exact unifiedMount_ok file unified
      | false =>
          simp only [ofMounted, perController, unified]
          exact ⟨controllerMounts_missing file usable absent,
            unifiedMount_missing file usable unified⟩

/-- The version that is told stands for the detected layout, the look-ups find
what is detected, and the order of the lines does not matter. -/
theorem detect_agrees (root : Path) (tree : FileTree) :
    ((((HostProcess.info root).found tree).toOption.bind fun info =>
        (ofVersion info.version).toOption) =
      ((detect root).found tree).toOption) ∧
    LookUpsAgree root tree ((detect root).found tree) ∧
    ∀ (otherRoot : Path) (other : FileTree) (lines others : List (List UInt8)),
      tree.byteLinesAt (tablePath root) = some lines →
        other.byteLinesAt (tablePath otherRoot) = some others →
        lines.Perm others →
        ((detect root).found tree).toOption =
          ((detect otherRoot).found other).toOption := by
  refine ⟨ofVersion_found_info root tree, ?_, ?_⟩
  · cases told : (read root).found tree with
    | error error => exact lookUpsAgree_of_error told
    | ok table =>
        cases fault : table.fault with
        | some error => exact lookUpsAgree_of_fault told fault
        | none => exact lookUpsAgree_of_whole told fault
  · intro otherRoot other lines others file otherFile reordered
    rw [toOption_found_detect, toOption_found_detect,
      toOption_found_mountedLayouts_of_perm file otherFile reordered]

/-- A host with nothing but a mount table. -/
def tableHost (mounts : String) : FileTree :=
  ((FileTree.empty []).setEntry ["proc"] (some .directory)).setEntry
    ["mounts", "proc"] (some (.file (Text.toBytes mounts)))

/-- A host with both layouts, whose only controller is mounted at the root. -/
theorem hybrid_is_detected_in_either_order :
    ((detect ⟨"/"⟩).found (tableHost "c / cgroup cpu\nu /u cgroup2 rw")) =
        .ok .perController ∧
      ((detect ⟨"/"⟩).found
        (tableHost "u /u cgroup2 rw\nc / cgroup cpu")).toOption =
          some .perController ∧
      (controllerMounts ⟨"/"⟩ controllerFsType).found
          (tableHost "c / cgroup cpu\nu /u cgroup2 rw") =
        .error (.missingMount "cgroup" ⟨"/proc/mounts"⟩) := by
  have detected : (detect ⟨"/"⟩).found
      (tableHost "c / cgroup cpu\nu /u cgroup2 rw") = .ok .perController := by
    decide +kernel
  rcases detect_agrees ⟨"/"⟩ (tableHost "c / cgroup cpu\nu /u cgroup2 rw") with
    ⟨-, lookUps, reorder⟩
  have second := reorder ⟨"/"⟩ (tableHost "u /u cgroup2 rw\nc / cgroup cpu")
    [Text.toBytes "c / cgroup cpu", Text.toBytes "u /u cgroup2 rw"]
    [Text.toBytes "u /u cgroup2 rw", Text.toBytes "c / cgroup cpu"]
    (by decide +kernel) (by decide +kernel) (List.Perm.swap _ _ [])
  rw [detected] at lookUps second
  rcases lookUps with ⟨lines, file, -, found, missing⟩
  refine ⟨detected, second.symm, missing ?_⟩
  rw [← found]
  rintro ⟨mounts, taken⟩
  have refused : ((controllerMounts ⟨"/"⟩ controllerFsType).found
      (tableHost "c / cgroup cpu\nu /u cgroup2 rw")).isOk = false := by
    decide +kernel
  rw [taken] at refused
  cases refused

end GroupLayout

end CgroupMeter
