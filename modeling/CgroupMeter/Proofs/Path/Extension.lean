import CgroupMeter.Proofs.Path.Segments

/-!
# The segments of a path with another extension

The extension of a path is dropped from the end of its text, also where
slashes stand behind the last name.  Whatever that leaves of the name has the
same stem, so another extension changes the last name as it should and drops
what is behind it.

There is one exception.  Of a name that is two dots and an extension, only the
two dots are left, and these have no extension.
-/

namespace CgroupMeter.Path

/-- A name is cut at its last dot, unless that is its first character. -/
theorem cutName_eq_some_iff {name stem extension : String} :
    cutName name = (stem, some extension) ↔
      name.toList = stem.toList ++ '.' :: extension.toList ∧ stem ≠ "" ∧
        '.' ∉ extension.toList := by
  have whole :
      name.toList.reverse.takeWhile (· ≠ '.') ++
        name.toList.reverse.dropWhile (· ≠ '.') = name.toList.reverse :=
    List.takeWhile_append_dropWhile
  constructor
  · intro cut
    unfold cutName at cut
    simp only at cut
    split at cut
    · cases cut
    · cases cut
    · rename_i dot chars shape filled
      rcases Prod.mk.inj cut with ⟨rfl, same⟩
      obtain rfl := Option.some.inj same
      have isDot : dot = '.' := by
        have some : name.toList.reverse.dropWhile (· ≠ '.') ≠ [] := by
          rw [filled]
          exact List.cons_ne_nil dot chars
        have kept := List.head_dropWhile_not (· ≠ '.') some
        simp only [filled, List.head_cons, ne_eq, decide_eq_false_iff_not,
          Decidable.not_not] at kept
        exact kept
      subst isDot
      refine ⟨?_, ?_, ?_⟩
      · rw [filled] at whole
        have turned := congrArg List.reverse whole
        rw [List.reverse_append, List.reverse_reverse] at turned
        apply turned.symm.trans
        simp
      · intro empty
        have none : chars = [] := by
          simpa using congrArg String.toList empty
        subst none
        exact shape rfl
      · intro member
        simp only [String.toList_ofList, List.mem_reverse] at member
        have different := List.mem_takeWhile_imp member
        simp at different
  · rintro ⟨split, stemFilled, clean⟩
    obtain ⟨first, rest, stemShape⟩ :
        ∃ first rest, stem.toList.reverse = first :: rest := by
      apply List.exists_cons_of_ne_nil
      intro empty
      exact stemFilled (by simpa using empty)
    have passes : ∀ char ∈ extension.toList.reverse, (decide (char ≠ '.')) = true := by
      intro char member
      have present := List.mem_reverse.1 member
      simp only [ne_eq, decide_eq_true_eq]
      rintro rfl
      exact clean present
    have reversed :
        name.toList.reverse =
          extension.toList.reverse ++ '.' :: first :: rest := by
      rw [split, List.reverse_append, List.reverse_cons, stemShape]
      simp
    have dropped :
        name.toList.reverse.dropWhile (· ≠ '.') = '.' :: first :: rest := by
      rw [reversed, List.dropWhile_append_of_pos passes]
      simp
    have taken :
        name.toList.reverse.takeWhile (· ≠ '.') = extension.toList.reverse := by
      rw [reversed, List.takeWhile_append_of_pos passes]
      simp
    unfold cutName
    simp only [dropped, taken, List.reverse_reverse, String.ofList_toList]
    rw [← stemShape, List.reverse_reverse, String.ofList_toList]

/-- A name without an extension is all stem. -/
theorem cutName_eq_none {name stem : String} (cut : cutName name = (stem, none)) :
    stem = name := by
  unfold cutName at cut
  simp only at cut
  split at cut
  · exact (Prod.mk.inj cut).1.symm
  · exact (Prod.mk.inj cut).1.symm
  · cases cut

/-- The stem of a segment can stand between slashes. -/
theorem isSegment_cutName {name : String} (clean : IsSegment name) :
    IsSegment (cutName name).1 := by
  cases cut : cutName name with
  | mk stem old =>
      cases old with
      | none =>
          obtain rfl := cutName_eq_none cut
          exact clean
      | some old =>
          rcases cutName_eq_some_iff.1 cut with ⟨split, -, -⟩
          intro slash
          have inName : '/' ∈ name.toList := by
            rw [split]
            simp [show '/' ∈ stem.toList from slash]
          exact clean inName

theorem isSegment_of_isVoid {part : String} (void : isVoid part = true) :
    IsSegment part := by
  simp only [isVoid, Bool.or_eq_true, beq_iff_eq] at void
  rcases void with rfl | rfl
  · simp [IsSegment]
  · simp [IsSegment]

/-- What is cut off the end of void segments leaves void segments. -/
theorem take_trailing {voids : List String}
    (void : ∀ part ∈ voids, isVoid part = true) (count : Nat) :
    ∃ left, (trailing voids).take count = trailing left ∧
      ∀ part ∈ left, isVoid part = true := by
  induction voids generalizing count with
  | nil => exact ⟨[], by simp [trailing], by simp⟩
  | cons part voids ih =>
      have partVoid := void part List.mem_cons_self
      have restVoid : ∀ other ∈ voids, isVoid other = true :=
        fun other member => void other (List.mem_cons_of_mem part member)
      cases count with
      | zero => exact ⟨[], by simp [trailing], by simp⟩
      | succ count =>
          by_cases inside : count ≤ part.toList.length
          · refine ⟨[String.ofList (part.toList.take count)], ?_, ?_⟩
            · simp [trailing, List.take_append, Nat.sub_eq_zero_of_le inside]
            · intro other member
              obtain rfl := List.mem_singleton.1 member
              simp only [isVoid, Bool.or_eq_true, beq_iff_eq] at partVoid
              rcases partVoid with rfl | rfl
              · simp [isVoid]
              · cases count with
                | zero => simp [isVoid]
                | succ count => simp [isVoid]
          · rcases ih restVoid (count - part.toList.length) with
              ⟨left, equal, leftVoid⟩
            refine ⟨part :: left, ?_, ?_⟩
            · have long : part.toList.length ≤ count := by omega
              have whole := equal
              simp only [trailing] at whole
              simp only [trailing, List.flatMap_cons, List.cons_append,
                List.take_succ_cons, List.take_append,
                List.take_of_length_le long, whole]
            · intro other member
              rcases List.mem_cons.1 member with rfl | later
              · exact partVoid
              · exact leftVoid other later

/-- The segments of a name and void segments behind it. -/
theorem segments_ofList_trailing {name : String} {voids : List String}
    (clean : IsSegment name) (void : ∀ part ∈ voids, isVoid part = true) :
    Path.segments ⟨String.ofList (name.toList ++ trailing voids)⟩ =
      name :: voids := by
  have allClean : ∀ part ∈ name :: voids, IsSegment part := by
    intro part member
    rcases List.mem_cons.1 member with rfl | later
    · exact clean
    · exact isSegment_of_isVoid (void part later)
  have text :
      String.ofList (name.toList ++ trailing voids) =
        joinSegments (name :: voids) := by
    rw [joinSegments, List.map_cons, intercalate_cons_eq]
  rw [text]
  exact segments_mk_joinSegments allClean (List.cons_ne_nil name voids)

/-- Another last name takes the place of the old one and of all behind it. -/
theorem EndsIn.withFileName {path : Path} {outer voids : List String}
    {name : String} (ends : path.EndsIn outer name voids) {other : String}
    (clean : IsSegment other) :
    (path.withFileName other).segments = outer ++ [other] := by
  rcases ends.body with ⟨inner, rfl, body⟩
  have innerClean : ∀ part ∈ inner ++ [other], IsSegment part := by
    intro part member
    rcases List.mem_append.1 member with present | last
    · have listed : part ∈ path.segments := by
        rw [ends.segments]
        simp [present]
      exact isSegment_of_mem_segments listed
    · obtain rfl := List.mem_singleton.1 last
      exact clean
  have made :
      (Layout.path ⟨path.layout.start, inner ++ [other]⟩).segments =
        path.layout.start.lead ++ (inner ++ [other]) :=
    segments_layout_path innerClean (by simp)
  rw [Path.withFileName, ends.named_eq body]
  simpa using made

/-- What is left of a path when as many characters are dropped from its end as
its extension has: its last name, or the stem with a dot and a part of the
extension. -/
theorem EndsIn.dropEnd {path : Path} {outer voids : List String}
    {name stem extension : String} (ends : path.EndsIn outer name voids)
    (cut : cutName name = (stem, some extension)) :
    ∃ left voids', (path.dropEnd extension.length).EndsIn outer left voids' ∧
      (cutName left).1 = stem := by
  rcases cutName_eq_some_iff.1 cut with ⟨split, stemFilled, extensionClean⟩
  have outerClean : ∀ part ∈ outer, IsSegment part := by
    intro part member
    have listed : part ∈ path.segments := by
      rw [ends.segments]
      simp [member]
    exact isSegment_of_mem_segments listed
  have nameClean : IsSegment name := by
    have listed : name ∈ path.segments := by
      rw [ends.segments]
      simp
    exact isSegment_of_mem_segments listed
  have chars := toList_text ends.segments
  have size : name.toList.length =
      stem.toList.length + 1 + extension.toList.length := by
    rw [split]
    simp
    omega
  have dropped :
      path.dropEnd extension.length =
        ⟨String.ofList (slashed outer ++
          (name.toList ++ trailing voids).take
            (name.toList.length + (trailing voids).length -
              extension.toList.length))⟩ := by
    have length : path.text.toList.length - extension.length =
        (slashed outer).length +
          (name.toList.length + (trailing voids).length -
            extension.toList.length) := by
      rw [chars, ← String.length_toList]
      simp only [List.length_append]
      omega
    rw [Path.dropEnd, length, chars, List.take_length_add_append]
  by_cases behind : extension.toList.length ≤ (trailing voids).length
  · rcases take_trailing ends.void
        ((trailing voids).length - extension.toList.length) with
      ⟨left, equal, leftVoid⟩
    have taken :
        (name.toList ++ trailing voids).take
            (name.toList.length + (trailing voids).length -
              extension.toList.length) = name.toList ++ trailing left := by
      rw [Nat.add_sub_assoc behind, List.take_length_add_append, equal]
    refine ⟨name, left, ⟨?_, ends.named, leftVoid⟩, by rw [cut]⟩
    rw [dropped, taken, segments_ofList_slashed outerClean,
      segments_ofList_trailing nameClean leftVoid]
  · let part := extension.toList.take (trailing voids).length
    let left := String.ofList (stem.toList ++ '.' :: part)
    have leftChars : left.toList = stem.toList ++ '.' :: part :=
      String.toList_ofList
    have taken :
        (name.toList ++ trailing voids).take
            (name.toList.length + (trailing voids).length -
              extension.toList.length) = left.toList := by
      have count : name.toList.length + (trailing voids).length -
          extension.toList.length =
            stem.toList.length + ((trailing voids).length + 1) := by omega
      have inside : (trailing voids).length ≤ extension.toList.length := by omega
      rw [count, split, List.append_assoc, List.take_length_add_append,
        List.cons_append, List.take_succ_cons,
        List.take_append_of_le_length inside, leftChars]
    have leftClean : IsSegment left := by
      intro slash
      have inName : '/' ∈ name.toList := by
        rw [split]
        rw [leftChars] at slash
        rcases List.mem_append.1 slash with inStem | later
        · simp [inStem]
        · rcases List.mem_cons.1 later with dot | inPart
          · cases dot
          · simp [List.mem_of_mem_take inPart]
      exact nameClean inName
    have leftNamed : isVoid left = false := by
      have long : 2 ≤ left.toList.length := by
        have some : 0 < stem.toList.length :=
          List.length_pos_of_ne_nil (by simpa using stemFilled)
        rw [leftChars]
        simp
        omega
      have notEmpty : left ≠ "" := by
        intro equal
        simp [equal] at long
      have notDot : left ≠ "." := by
        intro equal
        simp [equal] at long
      simp [isVoid, notEmpty, notDot]
    have leftCut : cutName left = (stem, some (String.ofList part)) := by
      refine cutName_eq_some_iff.2 ⟨?_, stemFilled, ?_⟩
      · rw [leftChars, String.toList_ofList]
      · rw [String.toList_ofList]
        exact fun member => extensionClean (List.mem_of_mem_take member)
    have alone :
        Path.segments ⟨String.ofList (left.toList ++ trailing [])⟩ = [left] :=
      segments_ofList_trailing leftClean (by simp)
    refine ⟨left, [], ⟨?_, leftNamed, by simp⟩, by rw [leftCut]⟩
    rw [dropped, taken, segments_ofList_slashed outerClean]
    simpa [trailing] using alone

/-- Another extension changes the last name and drops what is behind it.  A
name of two dots and an extension may be left as the two dots. -/
theorem EndsIn.withExtension {path : Path} {outer voids : List String}
    {name : String} (ends : path.EndsIn outer name voids) (notUp : name ≠ "..")
    {extension : String} (clean : IsSegment extension) :
    (path.withExtension extension).segments =
        outer ++ [(cutName name).1 ++ "." ++ extension] ∨
      ∃ voids', (path.withExtension extension).EndsIn outer ".." voids' := by
  have nameClean : IsSegment name := by
    have listed : name ∈ path.segments := by
      rw [ends.segments]
      simp
    exact isSegment_of_mem_segments listed
  have madeClean : IsSegment ((cutName name).1 ++ "." ++ extension) := by
    have stemClean := isSegment_cutName nameClean
    unfold IsSegment at clean stemClean ⊢
    simp only [String.toList_append, List.mem_append, not_or]
    exact ⟨⟨stemClean, by decide⟩, clean⟩
  have own := ends.fileName notUp
  cases cut : cutName name with
  | mk stem old =>
      simp only [cut] at madeClean
      cases old with
      | none =>
          have kept : path.extension = none := by
            simp [Path.extension, own, cut]
          apply Or.inl
          unfold Path.withExtension
          simp only [kept, own, cut]
          exact ends.withFileName madeClean
      | some old =>
          have kept : path.extension = some old := by
            simp [Path.extension, own, cut]
          rcases ends.dropEnd cut with ⟨left, voids', leftEnds, sameStem⟩
          unfold Path.withExtension
          simp only [kept]
          by_cases up : left = ".."
          · subst up
            refine Or.inr ⟨voids', ?_⟩
            rw [leftEnds.fileName_up]
            exact leftEnds
          · apply Or.inl
            rw [leftEnds.fileName up]
            simp only [sameStem]
            exact leftEnds.withFileName madeClean

/-- An extension puts a name in the place of itself only if it has it
already. -/
theorem cutName_append_eq_iff {name extension : String} :
    (cutName name).1 ++ "." ++ extension = name ↔
      (cutName name).2 = some extension := by
  cases cut : cutName name with
  | mk stem old =>
      simp only
      constructor
      · intro same
        have chars : stem.toList ++ '.' :: extension.toList = name.toList := by
          rw [← same]
          simp
        cases old with
        | none =>
            obtain rfl := cutName_eq_none cut
            have length := congrArg List.length chars
            simp at length
        | some old =>
            rcases cutName_eq_some_iff.1 cut with ⟨split, -, -⟩
            rw [split] at chars
            have equal := List.append_cancel_left chars
            have extensions : extension = old := by
              rw [← String.toList_inj]
              exact (List.cons.inj equal).2
            rw [extensions]
      · rintro rfl
        rcases cutName_eq_some_iff.1 cut with ⟨split, -, -⟩
        rw [← String.toList_inj, split]
        simp

/-- A path without a last name has no other extension. -/
theorem withExtension_of_nameless {path : Path} (nameless : path.fileName = none)
    (extension : String) : path.withExtension extension = path := by
  have none : path.extension = none := by simp [Path.extension, nameless]
  unfold Path.withExtension
  simp only [none, nameless]

/-- The extension of a path is that of its last name. -/
theorem EndsIn.extension {path : Path} {outer voids : List String}
    {name : String} (ends : path.EndsIn outer name voids) (notUp : name ≠ "..") :
    path.extension = (cutName name).2 := by
  rw [Path.extension, ends.fileName notUp]
  rfl

end CgroupMeter.Path
