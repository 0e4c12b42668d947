import CgroupMeter.Group.Location
import CgroupMeter.Proofs.Path.Segments
import CgroupMeter.Proofs.Text.Words

/-!
# The names of a path below another

A path that is not absolute, joined to another one, keeps all names of both
and starts where the first one starts.  A path of the host seen below a root,
and the path of a group, are never joined as absolute paths: both lose their
leading slashes first, and with them no name.
-/

namespace CgroupMeter.Path

/-! ## Texts between slashes -/

theorem names_append_slash (left right : String) :
    names ⟨left ++ "/" ++ right⟩ = names ⟨left⟩ ++ names ⟨right⟩ := by
  have parts : Text.split '/' (left ++ "/" ++ right) =
      Text.split '/' left ++ Text.split '/' right :=
    Text.split_append '/' left right
  simp only [names, segments, parts, List.filter_append]

theorem names_slash (text : String) : names ⟨"/" ++ text⟩ = names ⟨text⟩ :=
  names_append_slash "" text

/-- A text that can stand between two slashes and names something. -/
structure IsName (name : String) : Prop where
  clean : IsSegment name
  named : isVoid name = false

instance (name : String) : Decidable (IsName name) :=
  decidable_of_iff ('/' ∉ name.toList ∧ isVoid name = false)
    ⟨fun both => ⟨both.1, both.2⟩, fun isName => ⟨isName.clean, isName.named⟩⟩

theorem IsName.names {name : String} (isName : IsName name) :
    Path.names ⟨name⟩ = [name] := by
  have single : Path.segments ⟨name⟩ = [name] := by
    simp [segments, Text.split, List.splitOn_eq_singleton isName.clean]
  simp [Path.names, single, isName.named]

theorem isAbsolute_eq_false_of_isSegment {segment : String}
    (clean : IsSegment segment) : isAbsolute ⟨segment⟩ = false := by
  unfold IsSegment at clean
  cases chars : segment.toList with
  | nil => simp [isAbsolute, chars]
  | cons first rest =>
      have notSlash : first ≠ '/' := by
        rintro rfl
        exact clean (by simp [chars])
      simp [isAbsolute, chars, notSlash]

theorem IsName.isAbsolute {name : String} (isName : IsName name) :
    Path.isAbsolute ⟨name⟩ = false :=
  isAbsolute_eq_false_of_isSegment isName.clean

/-! ## Joined paths -/

variable {base path : Path}

theorem isAbsolute_join (relative : path.isAbsolute = false) :
    (base.join path).isAbsolute = base.isAbsolute := by
  unfold join
  rw [relative]
  cases chars : base.text.toList with
  | nil => simpa [isAbsolute, chars] using relative
  | cons first rest =>
      simp only [Bool.false_eq_true, if_false]
      split <;> simp [isAbsolute, chars]

/-- A text that ends with a slash has the names of what is before the slash. -/
theorem names_of_getLast?_slash {text : String}
    (slash : text.toList.getLast? = some '/') (rest : String) :
    names ⟨text ++ rest⟩ = names ⟨text⟩ ++ names ⟨rest⟩ := by
  have whole : text = String.ofList text.toList.dropLast ++ "/" := by
    rw [← String.toList_inj]
    simpa using (List.dropLast_append_getLast? '/' slash).symm
  have empty : names ⟨""⟩ = [] := by decide
  have ended := names_append_slash (String.ofList text.toList.dropLast) ""
  rw [String.append_empty, ← whole, empty, List.append_nil] at ended
  rw [ended]
  conv_lhs => rw [whole]
  exact names_append_slash _ rest

theorem names_join (relative : path.isAbsolute = false) :
    (base.join path).names = base.names ++ path.names := by
  unfold join
  rw [relative]
  simp only [Bool.false_eq_true, if_false]
  split
  · rename_i bare
    simp only [Bool.or_eq_true, decide_eq_true_eq, beq_iff_eq] at bare
    rcases bare with empty | slash
    · have text : base.text = "" := by simpa using empty
      simp [names, segments, text, Text.split, isVoid]
    · exact names_of_getLast?_slash slash path.text
  · exact names_append_slash base.text path.text

/-! ## Paths below a root -/

theorem filter_dropVoidEnd (parts : List String) :
    (dropVoidEnd parts).filter (fun part => !isVoid part) =
      parts.filter fun part => !isVoid part := by
  rcases dropVoidEnd_split parts with ⟨voids, split, void⟩
  have none : voids.filter (fun part => !isVoid part) = [] := by
    rw [List.filter_eq_nil_iff]
    intro part member
    simp [void part member]
  conv_rhs => rw [split]
  rw [List.filter_append, none, List.append_nil]

theorem filter_dropWhile_isVoid (parts : List String) :
    (parts.dropWhile isVoid).filter (fun part => !isVoid part) =
      parts.filter fun part => !isVoid part := by
  induction parts with
  | nil => rfl
  | cons first rest ih =>
      cases void : isVoid first with
      | false => simp [void]
      | true => simp [void, ih]

/-- A text made of segments has the names among them. -/
theorem names_mk_joinSegments {parts : List String}
    (clean : ∀ part ∈ parts, IsSegment part) :
    names ⟨joinSegments parts⟩ = parts.filter fun part => !isVoid part := by
  cases parts with
  | nil => decide
  | cons first rest =>
      rw [names, segments_mk_joinSegments clean (List.cons_ne_nil first rest)]

theorem isAbsolute_mk_joinSegments {parts : List String}
    (clean : ∀ part ∈ parts, IsSegment part)
    (named : parts.head? ≠ some "") :
    isAbsolute ⟨joinSegments parts⟩ = false := by
  cases parts with
  | nil => decide
  | cons first rest =>
      rw [Bool.eq_false_iff, ne_eq, isAbsolute_iff,
        segments_mk_joinSegments clean (List.cons_ne_nil first rest)]
      rintro ⟨second, others, shape⟩
      obtain ⟨rfl, -⟩ := List.cons.inj shape
      exact named rfl

/-- Segments that are stripped at both ends begin with one that names
something. -/
theorem head?_stripped (parts : List String) :
    (dropVoidEnd (parts.dropWhile isVoid)).head? ≠ some "" := by
  intro void
  rcases dropVoidEnd_split (parts.dropWhile isVoid) with ⟨voids, split, -⟩
  have first : (parts.dropWhile isVoid).head? = some "" := by
    rw [split, List.head?_append, void]
    rfl
  cases rest : parts.dropWhile isVoid with
  | nil => simp [rest] at first
  | cons head others =>
      obtain rfl : head = "" := by simpa [rest] using first
      have kept := List.head_dropWhile_not isVoid
        (show parts.dropWhile isVoid ≠ [] by simp [rest])
      simp [rest, isVoid] at kept

theorem isSegment_of_mem_stripped {part : String}
    (member : part ∈ dropVoidEnd (path.segments.tail.dropWhile isVoid)) :
    IsSegment part := by
  rcases dropVoidEnd_split (path.segments.tail.dropWhile isVoid) with
    ⟨voids, split, -⟩
  have inside : part ∈ path.segments.tail.dropWhile isVoid := by
    rw [split]
    exact List.mem_append_left voids member
  exact isSegment_of_mem_segments
    (List.mem_of_mem_tail ((List.dropWhile_sublist isVoid).subset inside))

theorem stripRoot_of_relative (relative : path.isAbsolute = false) :
    path.stripRoot = path := by
  cases here : path.segments.head? == some "." <;>
    simp [stripRoot, layout, relative, here]

theorem stripRoot_of_absolute (absolute : path.isAbsolute = true) :
    path.stripRoot = ⟨joinSegments
      (dropVoidEnd (path.segments.tail.dropWhile isVoid))⟩ := by
  simp [stripRoot, layout, absolute]

theorem isAbsolute_stripRoot (path : Path) :
    path.stripRoot.isAbsolute = false := by
  cases absolute : path.isAbsolute with
  | false => rw [stripRoot_of_relative absolute, absolute]
  | true =>
      rw [stripRoot_of_absolute absolute]
      exact isAbsolute_mk_joinSegments (fun _ => isSegment_of_mem_stripped)
        (head?_stripped path.segments.tail)

theorem names_stripRoot (path : Path) : path.stripRoot.names = path.names := by
  cases absolute : path.isAbsolute with
  | false => rw [stripRoot_of_relative absolute]
  | true =>
      rcases isAbsolute_iff.1 absolute with ⟨second, rest, parts⟩
      rw [stripRoot_of_absolute absolute,
        names_mk_joinSegments fun _ => isSegment_of_mem_stripped,
        filter_dropVoidEnd, filter_dropWhile_isVoid, names]
      simp [parts, isVoid]

theorem isAbsolute_below (path root : Path) :
    (path.below root).isAbsolute = root.isAbsolute :=
  isAbsolute_join path.isAbsolute_stripRoot

theorem names_below (path root : Path) :
    (path.below root).names = root.names ++ path.names := by
  rw [below, names_join path.isAbsolute_stripRoot, names_stripRoot]

/-! ## Parents -/

theorem names_of_nameless {path : Path} (nameless : path.layout.named = []) :
    path.names = [] := by
  rw [names, segments_eq_lead_append, List.filter_append,
    ← filter_dropVoidEnd path.layout.body, ← Layout.named, nameless,
    List.filter_nil, List.append_nil, List.filter_eq_nil_iff]
  intro part member
  simp [isVoid_of_mem_lead member]

/-- A parent has all names of the path but the last one. -/
theorem names_parent {parent : Path} (found : path.parent = some parent) :
    parent.names = path.names.dropLast := by
  cases last : path.layout.named.getLast? with
  | some name =>
      rcases exists_endsIn last with ⟨outer, voids, ends⟩
      rw [ends.parent_names found, List.dropLast_concat]
  | none =>
      have nameless : path.layout.named = [] := List.getLast?_eq_none_iff.1 last
      have text := parent_of_nameless nameless found
      rw [names_of_nameless nameless]
      simp [names, segments, text, Text.split, isVoid]

end CgroupMeter.Path

namespace CgroupMeter.GroupLocations

theorem isAbsolute_relativeGroup (group : String) :
    (relativeGroup group).isAbsolute = false := by
  have first := List.head?_dropWhile_not (fun char => char == '/') group.toList
  cases rest : group.toList.dropWhile (fun char => char == '/') with
  | nil => simp [relativeGroup, Path.isAbsolute, rest]
  | cons char others => simpa [relativeGroup, Path.isAbsolute, rest] using first

theorem names_relativeGroup (group : String) :
    (relativeGroup group).names = Path.names ⟨group⟩ := by
  rw [relativeGroup]
  generalize text : group.toList = chars
  obtain rfl : group = String.ofList chars := by
    rw [← text, String.ofList_toList]
  clear text
  induction chars with
  | nil => rfl
  | cons char rest ih =>
      by_cases slash : char = '/'
      · subst slash
        have shown :
            String.ofList ('/' :: rest) = "/" ++ String.ofList rest := by
          rw [← String.toList_inj]
          simp
        rw [shown, Path.names_slash]
        simpa using ih
      · simp [slash]

/-- A directory keeps its names when a group is put below it. -/
theorem names_join_relativeGroup (directory : Path) (group : String) :
    (directory.join (relativeGroup group)).names =
      directory.names ++ Path.names ⟨group⟩ := by
  rw [Path.names_join (isAbsolute_relativeGroup group), names_relativeGroup]

end CgroupMeter.GroupLocations
