/-!
# Programs that ask their surroundings

A program either is done with a value or asks a request and goes on with the
answer.  It does nothing by itself: a handler gives the answers.  The same
program can therefore be run on the real host, be evaluated against a fixed
view that answers every request, or be run over a state that the requests
change.

The main statements say that each of these readings respects sequencing:
`runIn_bind`, `eval_bind` and `trace_bind`.
-/

namespace CgroupMeter

/-- A program that asks requests and ends with a value. -/
inductive Program (Request : Type) (Answer : Request → Type) (α : Type) : Type
  where
  /-- The program has ended. -/
  | done (value : α)
  /-- The program asks a request and goes on with its answer. -/
  | ask (request : Request)
      (next : Answer request → Program Request Answer α)

namespace Program

variable {Request : Type} {Answer : Request → Type} {α β γ : Type}

/-- Go on with a program after another one has ended. -/
def andThen (program : Program Request Answer α)
    (next : α → Program Request Answer β) : Program Request Answer β :=
  match program with
  | .done value => next value
  | .ask request rest => .ask request fun answer => (rest answer).andThen next

instance : Monad (Program Request Answer) where
  pure := .done
  bind := andThen

/-- The program that asks one request and ends with its answer. -/
def request (asked : Request) : Program Request Answer (Answer asked) :=
  .ask asked .done

theorem bind_eq_andThen (program : Program Request Answer α)
    (next : α → Program Request Answer β) :
    program >>= next = program.andThen next := rfl

theorem andThen_done (program : Program Request Answer α) :
    program.andThen .done = program := by
  induction program with
  | done value => rfl
  | ask asked next ih => simp [andThen, ih]

theorem andThen_assoc (program : Program Request Answer α)
    (second : α → Program Request Answer β)
    (third : β → Program Request Answer γ) :
    (program.andThen second).andThen third =
      program.andThen fun value => (second value).andThen third := by
  induction program with
  | done value => rfl
  | ask asked next ih => simp [andThen, ih]

instance : LawfulMonad (Program Request Answer) :=
  LawfulMonad.mk' _ andThen_done (fun _ _ => rfl) andThen_assoc

/-- Run a program in a monad that answers its requests. -/
def runIn {m : Type → Type} [Monad m]
    (handler : (asked : Request) → m (Answer asked)) :
    Program Request Answer α → m α
  | .done value => pure value
  | .ask asked next => do runIn handler (next (← handler asked))

@[simp]
theorem runIn_pure {m : Type → Type} [Monad m]
    (handler : (asked : Request) → m (Answer asked)) (value : α) :
    runIn handler (pure value : Program Request Answer α) = pure value := rfl

@[simp]
theorem runIn_bind {m : Type → Type} [Monad m] [LawfulMonad m]
    (handler : (asked : Request) → m (Answer asked))
    (program : Program Request Answer α)
    (next : α → Program Request Answer β) :
    runIn handler (program >>= next) =
      runIn handler program >>= fun value => runIn handler (next value) := by
  rw [bind_eq_andThen]
  induction program with
  | done value => simp [andThen, runIn]
  | ask asked rest ih => simp [andThen, runIn, ih]

@[simp]
theorem runIn_request {m : Type → Type} [Monad m] [LawfulMonad m]
    (handler : (asked : Request) → m (Answer asked)) (asked : Request) :
    runIn handler (request asked) = handler asked := by
  simp [request, runIn]

/-- The value of a program when a fixed view answers its requests. -/
def eval (view : (asked : Request) → Answer asked) :
    Program Request Answer α → α
  | .done value => value
  | .ask asked next => eval view (next (view asked))

/-- The requests that a program asks when a fixed view answers them. -/
def trace (view : (asked : Request) → Answer asked) :
    Program Request Answer α → List Request
  | .done _ => []
  | .ask asked next => asked :: trace view (next (view asked))

section View

variable (view : (asked : Request) → Answer asked)

@[simp]
theorem eval_pure (value : α) :
    eval view (pure value : Program Request Answer α) = value := rfl

@[simp]
theorem eval_bind (program : Program Request Answer α)
    (next : α → Program Request Answer β) :
    eval view (program >>= next) = eval view (next (eval view program)) := by
  rw [bind_eq_andThen]
  induction program with
  | done value => rfl
  | ask asked rest ih => simp [andThen, eval, ih]

@[simp]
theorem eval_map (transform : α → β) (program : Program Request Answer α) :
    eval view (transform <$> program) = transform (eval view program) := by
  rw [map_eq_pure_bind, eval_bind, eval_pure]

@[simp]
theorem eval_request (asked : Request) :
    eval view (request asked : Program Request Answer (Answer asked)) =
      view asked := rfl

@[simp]
theorem trace_pure (value : α) :
    trace view (pure value : Program Request Answer α) = [] := rfl

@[simp]
theorem trace_bind (program : Program Request Answer α)
    (next : α → Program Request Answer β) :
    trace view (program >>= next) =
      trace view program ++ trace view (next (eval view program)) := by
  rw [bind_eq_andThen]
  induction program with
  | done value => rfl
  | ask asked rest ih => simp [andThen, eval, trace, ih]

@[simp]
theorem trace_map (transform : α → β) (program : Program Request Answer α) :
    trace view (transform <$> program) = trace view program := by
  rw [map_eq_pure_bind, trace_bind, trace_pure, List.append_nil]

@[simp]
theorem trace_request (asked : Request) :
    trace view (request asked : Program Request Answer (Answer asked)) =
      [asked] := rfl

end View

end Program

end CgroupMeter
