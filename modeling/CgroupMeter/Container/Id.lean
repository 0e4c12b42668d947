/-!
# Container names

A container is named by a text that is not empty and not longer than 255
bytes.
-/

namespace CgroupMeter

/-- The name of a container. -/
structure ContainerId where
  text : String
  valid : text ≠ "" ∧ text.utf8ByteSize ≤ 255
  deriving DecidableEq

namespace ContainerId

/-- The name that a text is, if it is one. -/
def ofText? (text : String) : Option ContainerId :=
  if valid : text ≠ "" ∧ text.utf8ByteSize ≤ 255 then some ⟨text, valid⟩
  else none

/-- A text is a name exactly when it is the text of one. -/
theorem ofText?_eq_some_iff {text : String} {id : ContainerId} :
    ofText? text = some id ↔ id.text = text := by
  unfold ofText?
  split
  · simp only [Option.some.injEq]
    constructor
    · rintro rfl
      rfl
    · intro same
      cases id
      subst same
      rfl
  · rename_i invalid
    simp only [reduceCtorEq, false_iff]
    rintro rfl
    exact invalid id.valid

end ContainerId

end CgroupMeter
