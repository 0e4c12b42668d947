import CgroupMeter.Proofs.Group.Placement
import CgroupMeter.Proofs.Stat.Offence
import CgroupMeter.Proofs.Text.Lines

/-!
# Memberships that are written down and read back

The kernel writes each membership of a process on a line of its own.  Whatever
colons and blanks the path of a group holds, the memberships are read back from
these lines: a controller is in the group of the last one that names it, and
the group in the unified hierarchy is that of the first one that is about it.

A text is refused for its first line that is not empty and has less than two
colons, wherever that line stands: an answer that was found before it does not
count.
-/

namespace CgroupMeter

namespace Membership

/-- The line on which a membership is written. -/
def line (membership : Membership) : String :=
  membership.hierarchy ++ ":" ++ membership.controllers ++ ":" ++
    membership.group

/-- A membership that can be written on one line.  The path of its group may
hold colons. -/
structure Writable (membership : Membership) : Prop where
  hierarchy : ∀ char ∈ membership.hierarchy.toList, char ≠ ':' ∧ char ≠ '\n'
  controllers :
    ∀ char ∈ membership.controllers.toList, char ≠ ':' ∧ char ≠ '\n'
  group : ∀ char ∈ membership.group.toList, char ≠ '\n'

-- As for words, the instance of the parts is named.
instance (membership : Membership) : Decidable (Writable membership) :=
  haveI (part : String) (clean : Char → Prop) [DecidablePred clean] :
      Decidable (∀ char ∈ part.toList, clean char) :=
    List.decidableBAll _ _
  decidable_of_iff
    ((∀ char ∈ membership.hierarchy.toList, char ≠ ':' ∧ char ≠ '\n') ∧
      (∀ char ∈ membership.controllers.toList, char ≠ ':' ∧ char ≠ '\n') ∧
        ∀ char ∈ membership.group.toList, char ≠ '\n')
    ⟨fun ⟨hierarchy, controllers, group⟩ => ⟨hierarchy, controllers, group⟩,
      fun clean => ⟨clean.hierarchy, clean.controllers, clean.group⟩⟩

/-- A text has memberships on its lines, in order and perhaps with empty lines
in between.  The last line may lack its newline. -/
inductive Listing : List Membership → String → Prop where
  | nothing : Listing [] ""
  | unterminated (membership : Membership) :
      Listing [membership] membership.line
  | blank {memberships : List Membership} {text : String}
      (rest : Listing memberships text) : Listing memberships ("\n" ++ text)
  | entry (membership : Membership) {memberships : List Membership}
      {text : String} (rest : Listing memberships text) :
      Listing (membership :: memberships) (membership.line ++ "\n" ++ text)

/-- A membership names a controller, with the group. -/
def Names (name : String) (membership : Membership) (group : String) : Prop :=
  name ∈ Text.split ',' membership.controllers ∧ membership.group = group

/-- A membership is that of the unified hierarchy, with the group. -/
def Unifies (membership : Membership) (group : String) : Prop :=
  membership.hierarchy = "0" ∧ membership.controllers = "" ∧
    membership.group = group

/-- A line that is not empty and has less than two colons. -/
def Malformed (line : String) : Prop :=
  line ≠ "" ∧ line.toList.count ':' < 2

/-- A line is malformed, and this is its number and its content, where the
first line has a given number. -/
def Refuses (first : Nat) (before : List String) (line : String)
    (error : Nat × String) : Prop :=
  Malformed line ∧ error = (before.length + first, line)

/-! ## Single lines -/

theorem Writable.ofLine_line {membership : Membership}
    (writable : membership.Writable) :
    ofLine membership.line = some membership := by
  refine ofLine_eq_some_iff.2 ⟨rfl, ?_, ?_⟩
  · exact fun member => (writable.hierarchy ':' member).1 rfl
  · exact fun member => (writable.controllers ':' member).1 rfl

theorem Writable.newline_not_mem_line {membership : Membership}
    (writable : membership.Writable) : '\n' ∉ membership.line.toList := by
  have hierarchy : '\n' ∉ membership.hierarchy.toList :=
    fun member => (writable.hierarchy '\n' member).2 rfl
  have controllers : '\n' ∉ membership.controllers.toList :=
    fun member => (writable.controllers '\n' member).2 rfl
  have group : '\n' ∉ membership.group.toList :=
    fun member => writable.group '\n' member rfl
  simp [line, hierarchy, controllers, group]

theorem line_ne_empty (membership : Membership) : membership.line ≠ "" := by
  intro empty
  have chars := congrArg String.toList empty
  simp [line] at chars

theorem malformed_iff {line : String} :
    Malformed line ↔ line ≠ "" ∧ ofLine line = none := by
  rw [Malformed, ← Option.not_isSome_iff_eq_none, isSome_ofLine_iff,
    Nat.not_le]

/-! ## Texts of lines -/

theorem Listing.parseTexts {memberships : List Membership} {text : String}
    (listing : Listing memberships text)
    (writable : ∀ membership ∈ memberships, membership.Writable)
    (number : Nat) :
    Membership.parseTexts number (Text.linesOf text) = .ok memberships := by
  induction listing generalizing number with
  | nothing => rfl
  | unterminated membership =>
      have own := writable membership List.mem_cons_self
      rw [Text.linesOf_line membership.line_ne_empty own.newline_not_mem_line]
      simp [Membership.parseTexts, membership.line_ne_empty, own.ofLine_line,
        Except.map]
  | blank rest ih =>
      rw [Text.linesOf_newline_append]
      simp [Membership.parseTexts, ih writable]
  | entry membership rest ih =>
      have own := writable membership List.mem_cons_self
      have others := ih
        (fun other member => writable other (List.mem_cons_of_mem _ member))
        (number + 1)
      rw [Text.linesOf_line_append own.newline_not_mem_line]
      simp [Membership.parseTexts, membership.line_ne_empty, own.ofLine_line,
        others, Except.map]

/-- Lines are refused together for the first one that is malformed. -/
theorem parseTexts_eq_error_iff {number : Nat} {texts : List String}
    {error : Nat × String} :
    parseTexts number texts = .error error ↔
      FirstOffence (Refuses number) texts error := by
  induction texts generalizing number with
  | nil => simpa [parseTexts] using not_firstOffence_nil
  | cons text rest ih =>
      have further : (fun before => Refuses number (text :: before)) =
          Refuses (number + 1) := by
        funext before line error
        rw [Refuses, Refuses, List.length_cons, Nat.add_assoc, Nat.add_comm 1]
      rw [firstOffence_cons_iff, further, ← ih]
      simp only [Refuses, malformed_iff, List.length_nil, Nat.zero_add]
      by_cases empty : text = ""
      · simp [parseTexts, empty]
      · cases told : ofLine text with
        | none => simp [parseTexts, empty, told, eq_comm]
        | some membership =>
            cases others : parseTexts (number + 1) rest <;>
              simp [parseTexts, empty, told, others, Except.map]

/-! ## What memberships tell -/

/-- A name has a group exactly when a membership names it: that of the last
one. -/
theorem find?_groupsByController_eq_some_iff {memberships : List Membership}
    {name group : String} :
    (groupsByController memberships).find? name = some group ↔
      name ≠ "" ∧ LastTells (Names name) memberships group := by
  have listed : ∀ membership other,
      (name, other) ∈ controllerGroups membership ↔
        name ≠ "" ∧ Names name membership other := by
    intro membership other
    rw [mem_controllerGroups_iff, Names, and_left_comm]
  have single : ∀ membership first second,
      (name, first) ∈ controllerGroups membership →
        (name, second) ∈ controllerGroups membership → first = second := by
    intro membership first second own again
    rw [← ((listed _ _).1 own).2.2, ← ((listed _ _).1 again).2.2]
  rw [groupsByController, KeyMap.find?_ofList_eq_some_iff_lastTells single]
  simp only [listed]
  by_cases filled : name = ""
  · simp [filled, LastTells]
  · simp [filled]

/-- The group that a membership gives in the unified hierarchy. -/
def unifiedGroup? (membership : Membership) : Option String :=
  if isUnified membership then some membership.group else none

theorem unifiedGroup?_eq_some_iff (membership : Membership) (group : String) :
    unifiedGroup? membership = some group ↔ Unifies membership group := by
  simp [unifiedGroup?, isUnified, Unifies, and_assoc]

theorem unifiedGroup_eq_findSome? (memberships : List Membership) :
    unifiedGroup memberships = memberships.findSome? unifiedGroup? := by
  induction memberships with
  | nil => rfl
  | cons membership rest ih =>
      rw [unifiedGroup] at ih
      rw [unifiedGroup, List.find?_cons, List.findSome?_cons, ← ih,
        unifiedGroup?]
      cases isUnified membership <;> rfl

/-- The group in the unified hierarchy is that of the first membership that is
about it. -/
theorem unifiedGroup_eq_some_iff {memberships : List Membership}
    {group : String} :
    unifiedGroup memberships = some group ↔
      FirstTells Unifies memberships group := by
  rw [unifiedGroup_eq_findSome?,
    findSome?_eq_some_iff_firstTells unifiedGroup?_eq_some_iff]

theorem unifiedGroup_eq_none_iff {memberships : List Membership} :
    unifiedGroup memberships = none ↔
      ∀ membership ∈ memberships, ∀ group, ¬ Unifies membership group := by
  rw [unifiedGroup_eq_findSome?, List.findSome?_eq_none_iff]
  simp only [← unifiedGroup?_eq_some_iff, Option.eq_none_iff_forall_ne_some,
    ne_eq]

/-! ## Files -/

section Files

variable {root : Path} {pid : UInt32} {tree : FileTree} {text : String}

/-- What is read of a file depends on its lines. -/
theorem found_read_of_text
    (file : tree.openFile (filePath root pid) =
      .ok (.file (Text.toBytes text))) :
    (read root pid).found tree =
      (parseTexts 1 (Text.linesOf text)).mapError fun error =>
        .parse (filePath root pid) error.1 error.2 := by
  rw [found_read, FileTree.linesAt_of_text file]
  simp only [ofLines]
  cases parseTexts 1 (Text.linesOf text) <;> rfl

theorem found_readByController_of_text
    (file : tree.openFile (filePath root pid) =
      .ok (.file (Text.toBytes text))) :
    (readByController root pid).found tree =
      match parseTexts 1 (Text.linesOf text) with
      | .error error => .error (.parse (filePath root pid) error.1 error.2)
      | .ok memberships => .ok (groupsByController memberships) := by
  have told := found_read_of_text file
  cases parsed : parseTexts 1 (Text.linesOf text) <;>
    simp [readByController, told, parsed, Except.mapError, Except.map]

theorem found_readUnified_of_text
    (file : tree.openFile (filePath root pid) =
      .ok (.file (Text.toBytes text))) :
    (readUnified root pid).found tree =
      match parseTexts 1 (Text.linesOf text) with
      | .error error => .error (.parse (filePath root pid) error.1 error.2)
      | .ok memberships =>
          match unifiedGroup memberships with
          | some group => .ok group
          | none => .error (.missingUnified (filePath root pid)) := by
  have told := found_read_of_text file
  cases parsed : parseTexts 1 (Text.linesOf text) with
  | error error => simp [readUnified, told, parsed, Except.mapError]
  | ok memberships =>
      cases first : unifiedGroup memberships <;>
        simp [readUnified, told, parsed, Except.mapError, first]

/-- A reading of lines fails for a malformed line exactly when there is one,
and tells the first one. -/
structure RefusesMalformed {α : Type} (path : Path) (lines : List String)
    (result : Except MembershipError α) : Prop where
  exactly : (∃ origin number content,
      result = .error (.parse origin number content)) ↔
    ∃ line ∈ lines, Malformed line
  first : ∀ origin number content,
    result = .error (.parse origin number content) ↔
      origin = path ∧ FirstOffence (Refuses 1) lines (number, content)

theorem exists_firstOffence_refuses_iff {number : Nat} {lines : List String} :
    (∃ error, FirstOffence (Refuses number) lines error) ↔
      ∃ line ∈ lines, Malformed line := by
  rw [exists_firstOffence_iff]
  constructor
  · rintro ⟨error, before, line, after, rfl, malformed, -⟩
    exact ⟨line, by simp, malformed⟩
  · rintro ⟨line, member, malformed⟩
    rcases List.append_of_mem member with ⟨before, after, rfl⟩
    exact ⟨_, before, line, after, rfl, malformed, rfl⟩

theorem refusesMalformed_of_parseTexts {α : Type} {path : Path}
    {lines : List String} {result : Except MembershipError α}
    (refused : ∀ origin number content,
      result = .error (.parse origin number content) ↔
        origin = path ∧ parseTexts 1 lines = .error (number, content)) :
    RefusesMalformed path lines result := by
  simp only [parseTexts_eq_error_iff] at refused
  refine ⟨?_, refused⟩
  rw [← @exists_firstOffence_refuses_iff 1]
  simp only [refused]
  constructor
  · rintro ⟨origin, number, content, -, first⟩
    exact ⟨_, first⟩
  · rintro ⟨⟨number, content⟩, first⟩
    exact ⟨path, number, content, rfl, first⟩

/-- Memberships that are listed in a file are read back from it, each group
path as it was written.  A file with a malformed line is refused for the first
one, whatever it is read for. -/
theorem memberships_are_read_back
    (file : tree.openFile (filePath root pid) =
      .ok (.file (Text.toBytes text))) :
    (∀ memberships, Listing memberships text →
      (∀ membership ∈ memberships, membership.Writable) →
      (∃ groups, (readByController root pid).found tree = .ok groups ∧
        ∀ name group, groups.find? name = some group ↔
          name ≠ "" ∧ LastTells (Names name) memberships group) ∧
      (∀ group, (readUnified root pid).found tree = .ok group ↔
        FirstTells Unifies memberships group) ∧
      ((readUnified root pid).found tree =
          .error (.missingUnified (filePath root pid)) ↔
        ∀ membership ∈ memberships, ∀ group, ¬ Unifies membership group)) ∧
      RefusesMalformed (filePath root pid) (Text.linesOf text)
        ((readByController root pid).found tree) ∧
      RefusesMalformed (filePath root pid) (Text.linesOf text)
        ((readUnified root pid).found tree) := by
  have byController := found_readByController_of_text file
  have unified := found_readUnified_of_text file
  refine ⟨?_, ?_, ?_⟩
  · intro memberships listing writable
    rw [byController, unified, listing.parseTexts writable]
    refine ⟨⟨_, rfl, fun _ _ => find?_groupsByController_eq_some_iff⟩, ?_, ?_⟩
    · intro group
      rw [← unifiedGroup_eq_some_iff]
      cases told : unifiedGroup memberships <;> simp [told]
    · rw [← unifiedGroup_eq_none_iff]
      cases told : unifiedGroup memberships <;> simp [told]
  · apply refusesMalformed_of_parseTexts
    intro origin number content
    rw [byController]
    cases parseTexts 1 (Text.linesOf text) <;> simp [Prod.ext_iff, eq_comm]
  · apply refusesMalformed_of_parseTexts
    intro origin number content
    rw [unified]
    cases parseTexts 1 (Text.linesOf text) with
    | error error => simp [Prod.ext_iff, eq_comm]
    | ok memberships => cases told : unifiedGroup memberships <;> simp [told]

end Files

/-- A host with a file of memberships for the process 7. -/
def membershipHost (text : String) : FileTree :=
  RawSample.hostTree "" text []

/-- Memberships among which a controller is named twice, and a group path holds
a colon. -/
def rejoinedText : String :=
  "4:cpu,cpuacct,:/a b\n\n0::/x:y\n0:cpu:/c\n0::/z"

theorem groups_of_rejoinedText :
    (∃ groups, (readByController ⟨"/"⟩ 7).found
          (membershipHost rejoinedText) = .ok groups ∧
        groups.find? "cpu" = some "/c" ∧ groups.find? "" = none) ∧
      (readUnified ⟨"/"⟩ 7).found (membershipHost rejoinedText) =
        .ok "/x:y" ∧
      (readUnified ⟨"/"⟩ 7).found (membershipHost "0::/x\n\n4:cpu\n5") =
        .error (.parse (filePath ⟨"/"⟩ 7) 3 "4:cpu") := by
  have file : (membershipHost rejoinedText).openFile (filePath ⟨"/"⟩ 7) =
      .ok (.file (Text.toBytes rejoinedText)) := by
    decide +kernel
  have cutFile : (membershipHost "0::/x\n\n4:cpu\n5").openFile
      (filePath ⟨"/"⟩ 7) =
        .ok (.file (Text.toBytes "0::/x\n\n4:cpu\n5")) := by
    decide +kernel
  have listing : Listing [⟨"4", "cpu,cpuacct,", "/a b"⟩, ⟨"0", "", "/x:y"⟩,
      ⟨"0", "cpu", "/c"⟩, ⟨"0", "", "/z"⟩] rejoinedText :=
    .entry ⟨"4", "cpu,cpuacct,", "/a b"⟩ (.blank
      (.entry ⟨"0", "", "/x:y"⟩ (.entry ⟨"0", "cpu", "/c"⟩
        (.unterminated ⟨"0", "", "/z"⟩))))
  have writable : ∀ membership ∈ [⟨"4", "cpu,cpuacct,", "/a b"⟩,
      ⟨"0", "", "/x:y"⟩, ⟨"0", "cpu", "/c"⟩, ⟨"0", "", "/z"⟩],
      Writable membership := by
    intro membership member
    simp only [List.mem_cons, List.not_mem_nil, or_false] at member
    rcases member with rfl | rfl | rfl | rfl <;> decide
  rcases memberships_are_read_back file with ⟨told, -, -⟩
  rcases told _ listing writable with ⟨⟨groups, found, each⟩, unified, -⟩
  rcases memberships_are_read_back cutFile with ⟨-, -, refuses⟩
  have lines : Text.linesOf "0::/x\n\n4:cpu\n5" =
      ["0::/x", ""] ++ "4:cpu" :: ["5"] := by
    decide +kernel
  refine ⟨⟨groups, found, (each _ _).2 ⟨by decide, ?_⟩, ?_⟩,
    (unified _).2 ?_, (refuses.first _ _ _).2 ⟨rfl, ?_⟩⟩
  · refine ⟨[_, _], ⟨"0", "cpu", "/c"⟩, [_], rfl, ⟨by decide, rfl⟩, ?_⟩
    rintro later member other ⟨named, -⟩
    obtain rfl := List.mem_singleton.1 member
    exact absurd named (by decide)
  · rw [Option.eq_none_iff_forall_ne_some]
    intro group unnamed
    exact ((each _ _).1 unnamed).1 rfl
  · refine ⟨[_], ⟨"0", "", "/x:y"⟩, [_, _], rfl, ⟨rfl, rfl, rfl⟩, ?_⟩
    rintro earlier member other ⟨hierarchy, -⟩
    obtain rfl := List.mem_singleton.1 member
    exact absurd hierarchy (by decide)
  · refine ⟨_, _, _, lines, ⟨⟨by decide, by decide⟩, rfl⟩, ?_⟩
    rintro error ⟨before, line, after, split, malformed, -⟩
    have member : line ∈ ["0::/x", ""] := by simp [split]
    simp only [List.mem_cons, List.not_mem_nil, or_false] at member
    rcases member with rfl | rfl
    · exact absurd malformed.2 (by decide)
    · exact malformed.1 rfl

end Membership

end CgroupMeter
