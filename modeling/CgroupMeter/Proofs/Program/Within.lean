import CgroupMeter.Program

/-!
# What a program may ask

A program stays within some requests when it asks no others, whichever of the
possible answers it is given.  This is a matter of the program alone, so it
holds in every monad that runs the program, and it is put together from the
parts of a program by `within_bind` and `within_request_bind`.
-/

namespace CgroupMeter.Program

variable {Request : Type} {Answer : Request → Type} {α β : Type}

/-- A program only asks requests that are allowed, as long as its requests are
given possible answers. -/
def Within (allowed : Request → Prop)
    (possible : (asked : Request) → Answer asked → Prop) :
    Program Request Answer α → Prop
  | .done _ => True
  | .ask asked next =>
      allowed asked ∧
        ∀ given, possible asked given → (next given).Within allowed possible

variable {allowed : Request → Prop}
    {possible : (asked : Request) → Answer asked → Prop}

@[simp]
theorem within_pure (value : α) :
    (pure value : Program Request Answer α).Within allowed possible :=
  trivial

@[simp]
theorem within_request (asked : Request) :
    (request asked : Program Request Answer (Answer asked)).Within allowed
      possible ↔ allowed asked := by
  constructor
  · intro within
    exact within.1
  · intro permitted
    exact ⟨permitted, fun _ _ => trivial⟩

theorem within_bind {program : Program Request Answer α}
    {next : α → Program Request Answer β}
    (first : program.Within allowed possible)
    (rest : ∀ value, (next value).Within allowed possible) :
    (program >>= next).Within allowed possible := by
  rw [bind_eq_andThen]
  induction program with
  | done value => exact rest value
  | ask asked after ih =>
      refine ⟨first.1, ?_⟩
      intro given answered
      exact ih given (first.2 given answered)

/-- After a request, only its possible answers have to be looked at. -/
theorem within_request_bind {asked : Request}
    {next : Answer asked → Program Request Answer β} (permitted : allowed asked)
    (rest : ∀ given, possible asked given →
      (next given).Within allowed possible) :
    (request asked >>= next).Within allowed possible :=
  ⟨permitted, rest⟩

theorem Within.mono {program : Program Request Answer α}
    {wider : Request → Prop} (within : program.Within allowed possible)
    (widens : ∀ asked, allowed asked → wider asked) :
    program.Within wider possible := by
  induction program with
  | done value => trivial
  | ask asked next ih =>
      refine ⟨widens asked within.1, ?_⟩
      intro given answered
      exact ih given (within.2 given answered)

/-! ## Whatever the answers -/

/-- A program only asks requests that are allowed, whichever answers it is
given. -/
abbrev Only (allowed : Request → Prop) (program : Program Request Answer α) :
    Prop :=
  program.Within allowed fun _ _ => True

theorem only_request {asked : Request} (permitted : allowed asked) :
    (request asked : Program Request Answer (Answer asked)).Only allowed :=
  (within_request asked).2 permitted

theorem only_forM {Item : Type} {items : List Item}
    {visit : Item → Program Request Answer PUnit}
    (each : ∀ item, (visit item).Only allowed) :
    (forM items visit).Only allowed := by
  induction items with
  | nil => exact within_pure _
  | cons item items ih =>
      rw [List.forM_cons]
      exact within_bind (each item) fun _ => ih

/-- A program that runs in another asks what its handler asks. -/
theorem only_runIn {Other : Type} {OtherAnswer : Other → Type}
    {permitted : Other → Prop}
    {handler : (asked : Request) → Program Other OtherAnswer (Answer asked)}
    (handled : ∀ asked, allowed asked → (handler asked).Only permitted)
    {program : Program Request Answer α} (only : program.Only allowed) :
    (program.runIn handler).Only permitted := by
  induction program with
  | done value => exact within_pure value
  | ask asked next ih =>
      exact within_bind (handled asked only.1) fun given =>
        ih given (only.2 given trivial)

end CgroupMeter.Program
