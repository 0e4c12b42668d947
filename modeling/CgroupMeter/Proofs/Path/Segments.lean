import CgroupMeter.Path
import Mathlib.Data.List.Basic
import Mathlib.Data.List.TakeWhile

/-!
# The segments of a path and of its parent

Paths are texts, and a tree is walked by segments.  This module says which
segments a path that is made from another one has.

A path that names something consists of outer segments, its last name, and
segments at the end that name nothing.  Its parent keeps the outer segments up
to the last one that names something.
-/

namespace CgroupMeter.Path

/-! ## Texts and segments -/

/-- A text that can stand between two slashes. -/
def IsSegment (segment : String) : Prop :=
  '/' ∉ segment.toList

theorem not_mem_of_mem_splitOn {chars part : List Char}
    (member : part ∈ chars.splitOn '/') : '/' ∉ part := by
  induction chars generalizing part with
  | nil =>
      have empty : part = [] := by simpa using member
      simp [empty]
  | cons char chars ih =>
      rw [List.splitOn_cons_eq_if_modifyHead] at member
      split at member
      · rcases List.mem_cons.1 member with rfl | later
        · simp
        · exact ih later
      · rename_i different
        have notSlash : char ≠ '/' := by simpa using different
        cases parts : chars.splitOn '/' with
        | nil => exact absurd parts (List.splitOn_ne_nil _ _)
        | cons first rest =>
            rw [parts] at ih member
            simp only [List.modifyHead_cons, List.mem_cons] at member
            rcases member with rfl | later
            · have firstClean : '/' ∉ first := ih List.mem_cons_self
              simp [Ne.symm notSlash, firstClean]
            · exact ih (List.mem_cons_of_mem first later)

theorem isSegment_of_mem_segments {path : Path} {segment : String}
    (member : segment ∈ path.segments) : IsSegment segment := by
  rcases List.mem_map.1 member with ⟨chars, part, rfl⟩
  have clean := not_mem_of_mem_splitOn part
  simpa [IsSegment] using clean

theorem segments_ne_nil (path : Path) : path.segments ≠ [] := by
  simp [segments, Text.split, List.splitOn_ne_nil]

theorem joinSegments_segments (path : Path) :
    joinSegments path.segments = path.text := by
  have undone : String.toList ∘ String.ofList = id := by
    funext chars
    exact String.toList_ofList
  simp [joinSegments, segments, Text.split, undone]

/-- A path is made of any segments. -/
theorem segments_mk_joinSegments {parts : List String}
    (clean : ∀ part ∈ parts, IsSegment part) (filled : parts ≠ []) :
    Path.segments ⟨joinSegments parts⟩ = parts := by
  have undone : String.ofList ∘ String.toList = id := by
    funext text
    exact String.ofList_toList
  have split :
      (['/'].intercalate (parts.map String.toList)).splitOn '/' =
        parts.map String.toList := by
    refine List.splitOn_intercalate '/' ?_ (by simpa using filled)
    intro chars member
    rcases List.mem_map.1 member with ⟨part, listed, rfl⟩
    exact clean part listed
  simp [segments, Text.split, joinSegments, split, undone]

theorem ext_segments {left right : Path}
    (same : left.segments = right.segments) : left = right := by
  have text : left.text = right.text := by
    rw [← joinSegments_segments left, ← joinSegments_segments right, same]
  cases left
  cases right
  simpa using text

/-- The characters of segments with a slash after each. -/
def slashed (parts : List String) : List Char :=
  parts.flatMap fun part => part.toList ++ ['/']

/-- The characters of segments with a slash before each. -/
def trailing (parts : List String) : List Char :=
  parts.flatMap fun part => '/' :: part.toList

theorem intercalate_cons_eq (first : List Char) (parts : List String) :
    ['/'].intercalate (first :: parts.map String.toList) =
      first ++ trailing parts := by
  induction parts generalizing first with
  | nil => simp [trailing]
  | cons part parts ih =>
      rw [List.map_cons, List.intercalate_cons_cons, ih]
      simp [trailing]

theorem slashed_cons (first : String) (parts : List String) :
    slashed (first :: parts) = first.toList ++ (trailing parts ++ ['/']) := by
  induction parts generalizing first with
  | nil => simp [slashed, trailing]
  | cons part parts ih =>
      have rest := ih part
      simp only [slashed, trailing, List.flatMap_cons, List.append_assoc] at rest ⊢
      rw [rest]
      rfl

theorem toList_text {path : Path} {outer inner : List String} {segment : String}
    (parts : path.segments = outer ++ segment :: inner) :
    path.text.toList =
      slashed outer ++ (segment.toList ++ trailing inner) := by
  rw [← joinSegments_segments, parts, joinSegments, String.toList_ofList]
  cases outer with
  | nil => simp [slashed, intercalate_cons_eq]
  | cons first outer =>
      rw [slashed_cons, List.cons_append, List.map_cons, intercalate_cons_eq]
      simp [trailing]

theorem splitOn_slashed {outer : List String}
    (clean : ∀ part ∈ outer, IsSegment part) (chars : List Char) :
    (slashed outer ++ chars).splitOn '/' =
      outer.map String.toList ++ chars.splitOn '/' := by
  induction outer with
  | nil => simp [slashed]
  | cons part outer ih =>
      have rest := ih fun other member => clean other (List.mem_cons_of_mem part member)
      simp only [slashed, List.flatMap_cons, List.append_assoc,
        List.cons_append, List.nil_append] at rest ⊢
      rw [List.splitOn_append_cons_self_of_not_mem
        (clean part List.mem_cons_self), rest]
      rfl

/-- The segments of a path whose text is made of slashed segments and other
characters. -/
theorem segments_ofList_slashed {outer : List String}
    (clean : ∀ part ∈ outer, IsSegment part) (chars : List Char) :
    Path.segments ⟨String.ofList (slashed outer ++ chars)⟩ =
      outer ++ Path.segments ⟨String.ofList chars⟩ := by
  have undone : String.ofList ∘ String.toList = id := by
    funext text
    exact String.ofList_toList
  simp [segments, Text.split, splitOn_slashed clean, undone]

/-! ## Where a path starts -/

/-- The segments that a path's start takes. -/
def Start.lead : Start → List String
  | .root => [""]
  | .here => ["."]
  | .plain => []

theorem isAbsolute_iff {path : Path} :
    path.isAbsolute = true ↔
      ∃ second rest, path.segments = "" :: second :: rest := by
  constructor
  · intro absolute
    cases chars : path.text.toList with
    | nil => simp [isAbsolute, chars] at absolute
    | cons char after =>
        obtain rfl : char = '/' := by simpa [isAbsolute, chars] using absolute
        cases parts : after.splitOn '/' with
        | nil => exact absurd parts (List.splitOn_ne_nil _ _)
        | cons second rest =>
            refine ⟨String.ofList second, rest.map String.ofList, ?_⟩
            simp [segments, Text.split, chars,
              List.splitOn_cons_eq_if_modifyHead, parts]
  · rintro ⟨second, rest, parts⟩
    have whole :=
      toList_text (show path.segments = [] ++ "" :: second :: rest from parts)
    simp [isAbsolute, whole, slashed, trailing]

/-- Two paths that differ only in and behind a last name start at the same
place. -/
theorem isAbsolute_congr {left right : Path} {outer leftRest rightRest : List String}
    {leftName rightName : String}
    (leftParts : left.segments = outer ++ leftName :: leftRest)
    (rightParts : right.segments = outer ++ rightName :: rightRest)
    (leftNamed : leftName ≠ "") (rightNamed : rightName ≠ "") :
    left.isAbsolute = right.isAbsolute := by
  rw [Bool.eq_iff_iff, isAbsolute_iff, isAbsolute_iff, leftParts, rightParts]
  cases outer with
  | nil => simp [leftNamed, rightNamed]
  | cons first outer =>
      cases outer with
      | nil => simp
      | cons second outer => simp

theorem segments_eq_lead_append (path : Path) :
    path.segments = path.layout.start.lead ++ path.layout.body := by
  unfold layout
  split
  · rename_i absolute
    rcases isAbsolute_iff.1 absolute with ⟨second, rest, parts⟩
    simp [parts, Start.lead]
  · split
    · rename_i here
      cases parts : path.segments with
      | nil => exact absurd parts path.segments_ne_nil
      | cons first rest =>
          have dot : first = "." := by simpa [parts] using here
          simp [Start.lead, dot]
    · simp [Start.lead]

/-! ## The last name -/

/-- Segments end in some that name nothing, after the last one that does. -/
theorem dropVoidEnd_split (parts : List String) :
    ∃ voids, parts = dropVoidEnd parts ++ voids ∧
      ∀ part ∈ voids, isVoid part = true := by
  refine ⟨(parts.reverse.takeWhile isVoid).reverse, ?_, ?_⟩
  · rw [dropVoidEnd, ← List.reverse_append, List.takeWhile_append_dropWhile,
      List.reverse_reverse]
  · intro part member
    exact List.mem_takeWhile_imp (List.mem_reverse.1 member)

/-- Nothing is dropped behind a segment that names something but those that
do not. -/
theorem dropVoidEnd_append {name : String} (named : isVoid name = false)
    (outer : List String) {voids : List String}
    (void : ∀ part ∈ voids, isVoid part = true) :
    dropVoidEnd (outer ++ name :: voids) = outer ++ [name] := by
  have skipped : voids.reverse.dropWhile isVoid = [] := by
    rw [List.dropWhile_eq_nil_iff]
    intro part member
    exact void part (List.mem_reverse.1 member)
  simp [dropVoidEnd, List.dropWhile_append, skipped, named]

theorem ne_empty_of_named {part : String} (named : isVoid part = false) :
    part ≠ "" := by
  rintro rfl
  cases named

/-- A path taken apart at its last name: the segments before it, the name, and
those after it, which name nothing. -/
structure EndsIn (path : Path) (outer : List String) (name : String)
    (voids : List String) : Prop where
  segments : path.segments = outer ++ name :: voids
  named : isVoid name = false
  void : ∀ part ∈ voids, isVoid part = true

theorem isVoid_of_mem_lead {start : Start} {part : String}
    (member : part ∈ start.lead) : isVoid part = true := by
  cases start with
  | root =>
      obtain rfl := List.mem_singleton.1 member
      rfl
  | here =>
      obtain rfl := List.mem_singleton.1 member
      rfl
  | plain => cases member

/-- The outer segments of a path begin with its lead. -/
theorem EndsIn.body {path : Path} {outer voids : List String} {name : String}
    (ends : path.EndsIn outer name voids) :
    ∃ inner, outer = path.layout.start.lead ++ inner ∧
      path.layout.body = inner ++ name :: voids := by
  have whole := segments_eq_lead_append path
  rw [ends.segments] at whole
  rcases List.append_eq_append_iff.1 whole with
    ⟨inner, lead, body⟩ | ⟨inner, outerParts, body⟩
  · cases inner with
    | nil => exact ⟨[], by simpa using lead.symm, by simpa using body.symm⟩
    | cons first inner =>
        have inLead : name ∈ path.layout.start.lead := by
          rcases List.cons.inj body with ⟨rfl, -⟩
          rw [lead]
          simp
        have void := isVoid_of_mem_lead inLead
        rw [ends.named] at void
        cases void
  · exact ⟨inner, outerParts, body⟩

/-- Up to its last name, a path has these segments after its lead. -/
theorem EndsIn.named_eq {path : Path} {outer voids inner : List String}
    {name : String} (ends : path.EndsIn outer name voids)
    (body : path.layout.body = inner ++ name :: voids) :
    path.layout.named = inner ++ [name] := by
  rw [Layout.named, body, dropVoidEnd_append ends.named inner ends.void]

/-- A path that names something is taken apart at its last name. -/
theorem exists_endsIn {path : Path} {name : String}
    (last : path.layout.named.getLast? = some name) :
    ∃ outer voids, path.EndsIn outer name voids := by
  rcases dropVoidEnd_split path.layout.body with ⟨voids, split, void⟩
  have parts : path.layout.named.dropLast ++ [name] = path.layout.named :=
    List.dropLast_append_getLast? name last
  refine ⟨path.layout.start.lead ++ path.layout.named.dropLast, voids,
    ?_, ?_, void⟩
  · rw [segments_eq_lead_append, split, ← Layout.named, ← parts]
    simp
  · have headed :
        (path.layout.body.reverse.dropWhile isVoid).head? = some name := by
      rw [← last, Layout.named, dropVoidEnd, List.getLast?_reverse]
    cases rest : path.layout.body.reverse.dropWhile isVoid with
    | nil =>
        rw [rest] at headed
        cases headed
    | cons first others =>
        rw [rest] at headed
        obtain rfl : first = name := by simpa using headed
        have kept := List.head_dropWhile_not isVoid
          (show path.layout.body.reverse.dropWhile isVoid ≠ [] by simp [rest])
        simpa [rest] using kept

theorem EndsIn.reversed {path : Path} {outer voids : List String}
    {name : String} (ends : path.EndsIn outer name voids) :
    path.segments.reverse.takeWhile isVoid = voids.reverse ∧
      path.segments.reverse.dropWhile isVoid = name :: outer.reverse := by
  have skipped : ∀ part ∈ voids.reverse, isVoid part = true := by
    intro part member
    exact ends.void part (List.mem_reverse.1 member)
  have split : path.segments.reverse = voids.reverse ++ name :: outer.reverse := by
    rw [ends.segments]
    simp
  rw [split, List.takeWhile_append_of_pos skipped,
    List.dropWhile_append_of_pos skipped]
  simp [ends.named]

theorem EndsIn.unique {path : Path} {outer other voids rest : List String}
    {name another : String} (ends : path.EndsIn outer name voids)
    (ends' : path.EndsIn other another rest) :
    outer = other ∧ name = another ∧ voids = rest := by
  rcases ends.reversed with ⟨taken, dropped⟩
  rcases ends'.reversed with ⟨taken', dropped'⟩
  rw [taken] at taken'
  rw [dropped] at dropped'
  rcases List.cons.inj dropped' with ⟨sameName, sameOuter⟩
  exact ⟨List.reverse_injective sameOuter, sameName,
    List.reverse_injective taken'⟩

theorem EndsIn.names {path : Path} {outer voids : List String} {name : String}
    (ends : path.EndsIn outer name voids) :
    path.names = outer.filter (fun part => !isVoid part) ++ [name] := by
  have none : voids.filter (fun part => !isVoid part) = [] := by
    rw [List.filter_eq_nil_iff]
    intro part member
    simp [ends.void part member]
  simp [Path.names, ends.segments, ends.named, none]

/-- The last name of a path, `..` excepted. -/
theorem EndsIn.fileName {path : Path} {outer voids : List String} {name : String}
    (ends : path.EndsIn outer name voids) (notUp : name ≠ "..") :
    path.fileName = some name := by
  rcases ends.body with ⟨inner, -, body⟩
  rw [Path.fileName, ends.named_eq body, List.getLast?_concat]
  split
  · rename_i up
    exact absurd (Option.some.inj up) notUp
  · rfl

/-- A path that ends in `..` has no last name. -/
theorem EndsIn.fileName_up {path : Path} {outer voids : List String}
    (ends : path.EndsIn outer ".." voids) : path.fileName = none := by
  rcases ends.body with ⟨inner, -, body⟩
  rw [Path.fileName, ends.named_eq body, List.getLast?_concat]
  rfl

theorem exists_endsIn_of_fileName {path : Path} {name : String}
    (last : path.fileName = some name) :
    name ≠ ".." ∧ ∃ outer voids, path.EndsIn outer name voids := by
  rw [Path.fileName] at last
  split at last
  · cases last
  · rename_i notUp
    refine ⟨?_, exists_endsIn last⟩
    rintro rfl
    exact notUp last

/-! ## Parents -/

/-- The segments of a text behind a void segment and a slash. -/
theorem segments_behind_lead (lead : String) (clean : IsSegment lead)
    (text : String) :
    Path.segments ⟨lead ++ "/" ++ text⟩ = lead :: Path.segments ⟨text⟩ := by
  have chars : lead ++ "/" ++ text =
      String.ofList (slashed [lead] ++ text.toList) := by
    rw [← String.toList_inj]
    simp [slashed]
  rw [chars, segments_ofList_slashed (by simpa using clean),
    String.ofList_toList]
  rfl

/-- The segments that a layout is written with, if it has a body. -/
theorem segments_layout_path {start : Start} {body : List String}
    (clean : ∀ part ∈ body, IsSegment part) (filled : body ≠ []) :
    (Layout.path ⟨start, body⟩).segments = start.lead ++ body := by
  have joined := segments_mk_joinSegments clean filled
  cases start with
  | root =>
      have behind :=
        segments_behind_lead "" (by simp [IsSegment])
          (joinSegments body)
      rw [joined] at behind
      exact behind
  | here =>
      rcases List.exists_cons_of_ne_nil filled with ⟨first, rest, rfl⟩
      have behind :=
        segments_behind_lead "." (by simp [IsSegment])
          (joinSegments (first :: rest))
      rw [joined] at behind
      exact behind
  | plain => exact joined

/-- The segments of a path that are kept in its parent, and a void one if
otherwise there were none after the lead. -/
structure KeepsParent (path parent : Path) (kept dropped : List String) : Prop
    where
  /-- The kept segments come first. -/
  segments : path.segments = kept ++ dropped
  /-- They are the parent's, or all but an empty one at its end. -/
  parent : parent.segments = kept ∨ parent.segments = kept ++ [""]
  /-- Something is dropped. -/
  dropped : dropped ≠ []

theorem parent_of_named {path : Path} {inner : List String} {name : String}
    (named : path.layout.named = inner ++ [name]) :
    path.parent = some (Layout.path ⟨path.layout.start, dropVoidEnd inner⟩) := by
  rcases List.exists_cons_of_ne_nil (show inner ++ [name] ≠ [] by simp) with
    ⟨first, rest, shape⟩
  have last : (first :: rest).dropLast = inner := by
    rw [← shape, List.dropLast_concat]
  unfold Path.parent
  simp only [named, shape, last]

theorem segments_layout_path_nil (start : Start) :
    (Layout.path ⟨start, []⟩).segments = start.lead ∨
      (Layout.path ⟨start, []⟩).segments = start.lead ++ [""] := by
  cases start with
  | root => exact Or.inr (by decide)
  | here => exact Or.inl (by decide)
  | plain => exact Or.inr (by decide)

theorem EndsIn.parent {path parent : Path} {outer voids : List String}
    {name : String} (ends : path.EndsIn outer name voids)
    (found : path.parent = some parent) :
    ∃ kept between, outer = kept ++ between ∧
      (∀ part ∈ between, isVoid part = true) ∧
      path.KeepsParent parent kept (between ++ name :: voids) := by
  rcases ends.body with ⟨inner, rfl, body⟩
  rcases dropVoidEnd_split inner with ⟨between, split, void⟩
  have clean : ∀ part ∈ dropVoidEnd inner, IsSegment part := by
    intro part member
    have listed : part ∈ path.segments := by
      rw [ends.segments, split]
      simp [member]
    exact isSegment_of_mem_segments listed
  rw [parent_of_named (ends.named_eq body)] at found
  obtain rfl := Option.some.inj found
  have outer :
      path.layout.start.lead ++ inner =
        path.layout.start.lead ++ dropVoidEnd inner ++ between := by
    rw [List.append_assoc, ← split]
  refine ⟨path.layout.start.lead ++ dropVoidEnd inner, between, outer, void,
    ?_, ?_, by simp⟩
  · rw [ends.segments, outer, List.append_assoc]
  · cases kept : dropVoidEnd inner with
    | nil =>
        rw [List.append_nil]
        exact segments_layout_path_nil path.layout.start
    | cons first rest =>
        rw [kept] at clean
        exact Or.inl (segments_layout_path clean (List.cons_ne_nil first rest))

/-- The parent of a path without a name is the empty path. -/
theorem parent_of_nameless {path parent : Path}
    (nameless : path.layout.named = []) (found : path.parent = some parent) :
    parent.text = "" := by
  unfold Path.parent at found
  simp only [nameless] at found
  split at found
  · obtain rfl := Option.some.inj found
    rfl
  · cases found
  · rename_i filled _
    exact absurd rfl filled

/-- The text of a parent begins the text of the path. -/
theorem KeepsParent.isPrefix {path parent : Path} {kept dropped : List String}
    (keeps : path.KeepsParent parent kept dropped) :
    parent.text.toList <+: path.text.toList := by
  rcases keeps.parent with parts | parts
  · rcases List.eq_nil_or_concat kept with rfl | ⟨front, last, rfl⟩
    · exact absurd parts parent.segments_ne_nil
    · rw [List.concat_eq_append] at parts
      have segments := keeps.segments
      rw [List.concat_eq_append, List.append_assoc] at segments
      rw [toList_text parts, toList_text segments]
      simp [trailing]
  · rcases List.exists_cons_of_ne_nil keeps.dropped with ⟨first, rest, shape⟩
    have segments := keeps.segments
    rw [shape] at segments
    rw [toList_text parts, toList_text segments]
    simp [trailing]

theorem KeepsParent.isAbsolute {path parent : Path} {kept dropped : List String}
    (keeps : path.KeepsParent parent kept dropped) (filled : parent.text ≠ "") :
    parent.isAbsolute = path.isAbsolute := by
  have notVoid : parent.segments ≠ [""] := by
    intro alone
    apply filled
    rw [← joinSegments_segments, alone]
    rfl
  rcases List.exists_cons_of_ne_nil keeps.dropped with ⟨first, rest, shape⟩
  have whole := keeps.segments
  have parts := keeps.parent
  rw [shape] at whole
  rw [Bool.eq_iff_iff, isAbsolute_iff, isAbsolute_iff]
  cases kept with
  | nil =>
      rcases parts with parts | parts
      · exact absurd parts parent.segments_ne_nil
      · exact absurd parts notVoid
  | cons lead kept =>
      rw [whole]
      cases kept with
      | nil =>
          rcases parts with parts | parts
          · have different : lead ≠ "" := by
              rintro rfl
              exact notVoid parts
            simp [parts, different]
          · simp [parts]
      | cons second kept =>
          rcases parts with parts | parts
          · simp [parts]
          · simp [parts]

/-- The names of a parent are those of the path without the last one. -/
theorem EndsIn.parent_names {path parent : Path} {outer voids : List String}
    {name : String} (ends : path.EndsIn outer name voids)
    (found : path.parent = some parent) :
    path.names = parent.names ++ [name] := by
  rcases ends.parent found with ⟨kept, between, rfl, void, keeps⟩
  have none : between.filter (fun part => !isVoid part) = [] := by
    rw [List.filter_eq_nil_iff]
    intro part member
    simp [void part member]
  have own : parent.names = kept.filter (fun part => !isVoid part) := by
    rcases keeps.parent with parts | parts
    · rw [Path.names, parts]
    · rw [Path.names, parts, List.filter_append]
      simp [isVoid]
  rw [ends.names, own, List.filter_append, none, List.append_nil]

end CgroupMeter.Path
