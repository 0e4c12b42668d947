import CgroupMeter.Proofs.Program.Within
import Mathlib.Data.List.Pairwise
import Mathlib.Data.List.Perm.Basic
import Mathlib.Logic.Relation

/-!
# Programs that take turns on one state

Parties run programs on a state they share, each with answers of its own, and
take turns in any order, one request at a time.  When no request of one party
notices those of another, a run yields what the parties yield one after
another, in whichever order, and what each would yield alone.

A step of a run exchanges one request with those that come before it in turn.
The outcome of the parties in turn is therefore an invariant of the run.
-/

namespace CgroupMeter

/-- How requests are answered from a state, which they may change. -/
abbrev Answering (Request : Type) (Answer : Request → Type) (State : Type) :=
  (asked : Request) → State → Answer asked × State

/-- A party has its requests answered in its own way, and has a program left to
run. -/
structure Party (Request : Type) (Answer : Request → Type) (State α : Type)
    where
  answer : Answering Request Answer State
  rest : Program Request Answer α

/-! ## Requests that do not notice each other -/

namespace Answering

variable {Request : Type} {Answer : Request → Type} {State : Type}

/-- An answer that a request can be given, whatever the state. -/
def MayAnswer (answer : Answering Request Answer State) (asked : Request)
    (given : Answer asked) : Prop :=
  ∃ state, (answer asked state).1 = given

/-- A request of one party and a request of another are answered alike in
either order, and leave the same state. -/
structure Commutes (first second : Answering Request Answer State)
    (asked other : Request) : Prop where
  left : ∀ state, (first asked (second other state).2).1 = (first asked state).1
  right : ∀ state,
    (second other (first asked state).2).1 = (second other state).1
  state : ∀ state,
    (first asked (second other state).2).2 =
      (second other (first asked state).2).2

theorem Commutes.symm {first second : Answering Request Answer State}
    {asked other : Request} (commutes : Commutes first second asked other) :
    Commutes second first other asked :=
  ⟨commutes.right, commutes.left, fun state => (commutes.state state).symm⟩

end Answering

namespace Party

variable {Request : Type} {Answer : Request → Type} {State α : Type}

/-- Run all that a party has left. -/
def finish (party : Party Request Answer State α) (state : State) :
    α × State :=
  (Program.runIn (m := StateM State) party.answer party.rest).run state

@[simp]
theorem finish_done (answer : Answering Request Answer State)
    (value : α) (state : State) :
    finish ⟨answer, .done value⟩ state = (value, state) := rfl

@[simp]
theorem finish_ask (answer : Answering Request Answer State)
    (asked : Request) (next : Answer asked → Program Request Answer α)
    (state : State) :
    finish ⟨answer, .ask asked next⟩ state =
      finish ⟨answer, next (answer asked state).1⟩ (answer asked state).2 :=
  rfl

/-! ## Independent parties -/

/-- Whatever two parties have left to ask commutes. -/
def Independent (first second : Party Request Answer State α) : Prop :=
  ∃ mine yours : Request → Prop,
    first.rest.Within mine (Answering.MayAnswer first.answer) ∧
      second.rest.Within yours (Answering.MayAnswer second.answer) ∧
      ∀ asked other, mine asked → yours other →
        Answering.Commutes first.answer second.answer asked other

theorem Independent.symm {first second : Party Request Answer State α}
    (independent : first.Independent second) : second.Independent first := by
  rcases independent with ⟨mine, yours, within, withinToo, commutes⟩
  refine ⟨yours, mine, withinToo, within, ?_⟩
  intro other asked yourRequest myRequest
  exact (commutes asked other myRequest yourRequest).symm

section Requests

variable {answer : Answering Request Answer State}
    {asked : Request} {next : Answer asked → Program Request Answer α}
    {other : Party Request Answer State α}

/-- Parties stay independent as one of them goes on. -/
theorem Independent.advance
    (independent : Independent ⟨answer, .ask asked next⟩ other)
    (state : State) :
    Independent ⟨answer, next (answer asked state).1⟩ other := by
  rcases independent with ⟨mine, yours, within, withinToo, commutes⟩
  exact ⟨mine, yours, within.2 _ ⟨state, rfl⟩, withinToo, commutes⟩

/-- A request does not notice whether an independent party has finished, and
that party does not notice the request. -/
theorem Independent.answer_finish
    (independent : Independent ⟨answer, .ask asked next⟩ other)
    (state : State) :
    (answer asked (other.finish state).2).1 = (answer asked state).1 ∧
      other.finish (answer asked state).2 =
        ((other.finish state).1, (answer asked (other.finish state).2).2) := by
  rcases independent with ⟨mine, yours, within, withinToo, commutes⟩
  obtain ⟨otherAnswer, rest⟩ := other
  induction rest generalizing state with
  | done value => exact ⟨rfl, rfl⟩
  | ask request after ih =>
      have here := commutes asked request within.1 withinToo.1
      have later := ih _ (otherAnswer request state).2
        (withinToo.2 _ ⟨state, rfl⟩) commutes
      have left := here.left state
      have right := here.right state
      have same := here.state state
      simp only at left right same
      constructor
      · rw [finish_ask, later.1, left]
      · rw [finish_ask, right, ← same, later.2, finish_ask]

end Requests

/-- Independent parties finish alike in either order. -/
theorem Independent.finish_finish
    {first second : Party Request Answer State α}
    (independent : first.Independent second) (state : State) :
    (second.finish (first.finish state).2).1 = (second.finish state).1 ∧
      (second.finish (first.finish state).2).2 =
        (first.finish (second.finish state).2).2 := by
  obtain ⟨answer, rest⟩ := first
  induction rest generalizing state with
  | done value => exact ⟨rfl, rfl⟩
  | ask asked next ih =>
      have exchanged := independent.answer_finish state
      have later := ih _ (answer asked state).2 (independent.advance state)
      rw [exchanged.2] at later
      constructor
      · rw [finish_ask, later.1]
      · rw [finish_ask, later.2, finish_ask, exchanged.1]

/-! ## Parties one after another -/

/-- Run parties one after another, each on the state that the one before it
left. -/
def inTurn : List (Party Request Answer State α) → State → List α × State
  | [], state => ([], state)
  | party :: parties, state =>
      let (value, after) := party.finish state
      let (values, last) := inTurn parties after
      (value :: values, last)

@[simp]
theorem inTurn_nil (state : State) :
    inTurn ([] : List (Party Request Answer State α)) state = ([], state) :=
  rfl

@[simp]
theorem inTurn_cons (party : Party Request Answer State α)
    (parties : List (Party Request Answer State α)) (state : State) :
    inTurn (party :: parties) state =
      ((party.finish state).1 :: (inTurn parties (party.finish state).2).1,
        (inTurn parties (party.finish state).2).2) := rfl

theorem state_inTurn (parties : List (Party Request Answer State α))
    (state : State) :
    (inTurn parties state).2 =
      parties.foldl (fun reached party => (party.finish reached).2) state := by
  induction parties generalizing state with
  | nil => rfl
  | cons party parties ih =>
      rw [inTurn_cons, ih, List.foldl_cons]

/-- The first request of a party can be answered before the parties ahead of
it take their turns. -/
theorem inTurn_answer {answer : Answering Request Answer State}
    {asked : Request} {next : Answer asked → Program Request Answer α}
    {before after : List (Party Request Answer State α)}
    (independent : ∀ party ∈ before,
      Independent ⟨answer, .ask asked next⟩ party) (state : State) :
    inTurn (before ++ ⟨answer, .ask asked next⟩ :: after) state =
      inTurn (before ++ ⟨answer, next (answer asked state).1⟩ :: after)
        (answer asked state).2 := by
  induction before generalizing state with
  | nil => rfl
  | cons party before ih =>
      have exchanged := (independent party (by simp)).answer_finish state
      have later := ih (fun other member => independent other (by simp [member]))
        (party.finish state).2
      simp only [List.cons_append, inTurn_cons, exchanged.2]
      rw [later, exchanged.1]

/-- Parties that are independent yield in turn what each yields alone. -/
theorem inTurn_eq_alone {parties : List (Party Request Answer State α)}
    (independent : parties.Pairwise Independent) (state : State) :
    (inTurn parties state).1 =
      parties.map fun party => (party.finish state).1 := by
  induction parties generalizing state with
  | nil => rfl
  | cons party parties ih =>
      rw [List.pairwise_cons] at independent
      have undisturbed :
          (parties.map fun other => (other.finish (party.finish state).2).1) =
            parties.map fun other => (other.finish state).1 := by
        apply List.map_congr_left
        intro other member
        exact ((independent.1 other member).finish_finish state).1
      rw [inTurn_cons, ih independent.2, undisturbed, List.map_cons]

/-- The order of independent parties does not matter to the state. -/
theorem state_inTurn_perm {parties order : List (Party Request Answer State α)}
    (independent : parties.Pairwise Independent) (same : order.Perm parties)
    (state : State) :
    (inTurn order state).2 = (inTurn parties state).2 := by
  rw [state_inTurn, state_inTurn]
  have exchanges : parties.Pairwise fun first second =>
      ∀ reached, (second.finish (first.finish reached).2).2 =
        (first.finish (second.finish reached).2).2 :=
    independent.imp fun apart reached => (apart.finish_finish reached).2
  have exchangesAll := exchanges.forall_of_forall_of_flip (fun _ _ _ => rfl)
    (exchanges.imp fun exchange reached => (exchange reached).symm)
  refine (same.symm.foldl_eq' ?_ state).symm
  intro first member second memberToo reached
  exact exchangesAll member memberToo reached

/-! ## Turns in any order -/

/-- One of the parties has its next request answered. -/
inductive Step :
    List (Party Request Answer State α) × State →
      List (Party Request Answer State α) × State → Prop where
  | answered (before after : List (Party Request Answer State α))
      (answer : Answering Request Answer State)
      (asked : Request) (next : Answer asked → Program Request Answer α)
      (state : State) :
      Step (before ++ ⟨answer, .ask asked next⟩ :: after, state)
        (before ++ ⟨answer, next (answer asked state).1⟩ :: after,
          (answer asked state).2)

/-- The parties have nothing left to ask, and yield some values. -/
def Finished (parties : List (Party Request Answer State α))
    (values : List α) : Prop :=
  List.Forall₂ (fun party value => party.rest = .done value) parties values

/-- A step leaves independent parties independent. -/
theorem Step.independent
    {earlier later : List (Party Request Answer State α) × State}
    (step : Step earlier later) (independent : earlier.1.Pairwise Independent) :
    later.1.Pairwise Independent := by
  cases step with
  | answered before after answer asked next state =>
      rw [List.pairwise_append, List.pairwise_cons] at independent ⊢
      rcases independent with ⟨ahead, ⟨behind, restApart⟩, across⟩
      refine ⟨ahead, ⟨?_, restApart⟩, ?_⟩
      · intro party member
        exact (behind party member).advance state
      · intro party member other memberToo
        rcases List.mem_cons.1 memberToo with rfl | memberToo
        · exact ((across party member _ (by simp)).symm.advance state).symm
        · exact across party member other (by simp [memberToo])

/-- A step changes nothing of what independent parties come to in turn. -/
theorem Step.inTurn_eq
    {earlier later : List (Party Request Answer State α) × State}
    (step : Step earlier later) (independent : earlier.1.Pairwise Independent) :
    inTurn later.1 later.2 = inTurn earlier.1 earlier.2 := by
  cases step with
  | answered before after answer asked next state =>
      refine (inTurn_answer ?_ state).symm
      intro party member
      rw [List.pairwise_append] at independent
      exact (independent.2.2 party member _ (by simp)).symm

/-- Nor does a run. -/
theorem inTurn_eq_of_run
    {start reached : List (Party Request Answer State α) × State}
    (independent : start.1.Pairwise Independent)
    (run : Relation.ReflTransGen Step start reached) :
    inTurn reached.1 reached.2 = inTurn start.1 start.2 := by
  have invariant :
      reached.1.Pairwise Independent ∧
        inTurn reached.1 reached.2 = inTurn start.1 start.2 := by
    induction run with
    | refl => exact ⟨independent, rfl⟩
    | tail earlier step ih =>
        exact ⟨step.independent ih.1, (step.inTurn_eq ih.1).trans ih.2⟩
  exact invariant.2

theorem Finished.inTurn_eq {parties : List (Party Request Answer State α)}
    {values : List α} (finished : Finished parties values) (state : State) :
    inTurn parties state = (values, state) := by
  induction finished with
  | nil => rfl
  | @cons party value parties values ended finished ih =>
      obtain ⟨answer, rest⟩ := party
      simp only at ended
      subst ended
      simp only [inTurn_cons, finish_done, ih]

theorem Finished.stuck {parties : List (Party Request Answer State α)}
    {values : List α} (finished : Finished parties values) (state : State)
    (later : List (Party Request Answer State α) × State) :
    ¬ Step (parties, state) later := by
  intro step
  generalize reached : (parties, state) = earlier at step
  cases step with
  | answered before after answer asked next =>
      cases reached
      rcases List.forall₂_iff_get.1 finished with ⟨sameLength, done⟩
      have ended := done before.length (by simp) (by simp [← sameLength])
      simp at ended

/-- Parties that can take no more step have finished. -/
theorem exists_finished_of_stuck
    {parties : List (Party Request Answer State α)} {state : State}
    (stuck : ∀ later, ¬ Step (parties, state) later) :
    ∃ values, Finished parties values := by
  induction parties with
  | nil => exact ⟨[], .nil⟩
  | cons party parties ih =>
      obtain ⟨answer, rest⟩ := party
      cases rest with
      | ask asked next =>
          exact absurd (Step.answered [] parties answer asked next state)
            (stuck _)
      | done value =>
          have stuckBehind : ∀ later, ¬ Step (parties, state) later := by
            intro later step
            generalize reached : (parties, state) = earlier at step
            cases step with
            | answered before after other asked next =>
                cases reached
                exact stuck _ (.answered (⟨answer, .done value⟩ :: before)
                  after other asked next state)
          rcases ih stuckBehind with ⟨values, finished⟩
          exact ⟨value :: values, .cons rfl finished⟩

/-- A run of independent parties that has come to its end has yielded what
each of them yields alone, and has left the state that they leave one after
another, in any order. -/
theorem run_eq_inTurn
    {parties : List (Party Request Answer State α)} {start : State}
    {reached : List (Party Request Answer State α) × State}
    (independent : parties.Pairwise Independent)
    (run : Relation.ReflTransGen Step (parties, start) reached)
    (stuck : ∀ later, ¬ Step reached later) :
    Finished reached.1 (parties.map fun party => (party.finish start).1) ∧
      ∀ order : List (Party Request Answer State α), order.Perm parties →
        inTurn order start =
          (order.map fun party => (party.finish start).1, reached.2) := by
  rcases exists_finished_of_stuck stuck with ⟨values, finished⟩
  have same := inTurn_eq_of_run independent run
  rw [finished.inTurn_eq reached.2] at same
  constructor
  · rw [← inTurn_eq_alone independent start, ← same]
    exact finished
  · intro order rearranged
    have independentToo : order.Pairwise Independent :=
      (rearranged.pairwise_iff fun apart => apart.symm).2 independent
    have states := state_inTurn_perm independent rearranged start
    rw [← same] at states
    exact Prod.ext (inTurn_eq_alone independentToo start) states

/-! ## Turns in a given order -/

/-- Have the next request of the party at a place answered, if there is one. -/
def takeTurn : Nat → List (Party Request Answer State α) → State →
    List (Party Request Answer State α) × State
  | _, [], state => ([], state)
  | 0, ⟨answer, .done value⟩ :: parties, state =>
      (⟨answer, .done value⟩ :: parties, state)
  | 0, ⟨answer, .ask asked next⟩ :: parties, state =>
      let (given, after) := answer asked state
      (⟨answer, next given⟩ :: parties, after)
  | place + 1, party :: parties, state =>
      let (others, after) := takeTurn place parties state
      (party :: others, after)

/-- Have the parties take turns as their places are listed. -/
def takeTurns (places : List Nat) (parties : List (Party Request Answer State α))
    (state : State) : List (Party Request Answer State α) × State :=
  places.foldl (fun reached place => takeTurn place reached.1 reached.2)
    (parties, state)

theorem Step.behind (party : Party Request Answer State α)
    {earlier later : List (Party Request Answer State α) × State}
    (step : Step earlier later) :
    Step (party :: earlier.1, earlier.2) (party :: later.1, later.2) := by
  cases step with
  | answered before after answer asked next state =>
      exact .answered (party :: before) after answer asked next state

theorem run_takeTurn (place : Nat)
    (parties : List (Party Request Answer State α)) (state : State) :
    Relation.ReflTransGen Step (parties, state)
      (takeTurn place parties state) := by
  induction place generalizing parties with
  | zero =>
      match parties with
      | [] => exact .refl
      | ⟨_, .done _⟩ :: _ => exact .refl
      | ⟨answer, .ask asked next⟩ :: others =>
          exact .single (.answered [] others answer asked next state)
  | succ place ih =>
      match parties with
      | [] => exact .refl
      | party :: others =>
          have behind := (ih others).lift
            (fun reached => (party :: reached.1, reached.2))
            fun _ _ step => Step.behind party step
          simpa only [takeTurn, Function.onFun] using behind

theorem run_takeTurns (places : List Nat)
    (parties : List (Party Request Answer State α)) (state : State) :
    Relation.ReflTransGen Step (parties, state)
      (takeTurns places parties state) := by
  unfold takeTurns
  induction places generalizing parties state with
  | nil => exact .refl
  | cons place places ih =>
      exact (run_takeTurn place parties state).trans (ih _ _)

/-! ## Runs come to an end -/

/-- One of the parties has been given some answer to its next request. -/
inductive Shrinks :
    List (Party Request Answer State α) →
      List (Party Request Answer State α) → Prop where
  | head (answer : Answering Request Answer State)
      (asked : Request) (next : Answer asked → Program Request Answer α)
      (given : Answer asked) (parties : List (Party Request Answer State α)) :
      Shrinks (⟨answer, next given⟩ :: parties)
        (⟨answer, .ask asked next⟩ :: parties)
  | tail (party : Party Request Answer State α)
      {parties fewer : List (Party Request Answer State α)}
      (shrinks : Shrinks fewer parties) :
      Shrinks (party :: fewer) (party :: parties)

theorem Step.shrinks
    {earlier later : List (Party Request Answer State α) × State}
    (step : Step earlier later) : Shrinks later.1 earlier.1 := by
  cases step with
  | answered before after answer asked next state =>
      induction before with
      | nil => exact .head answer asked next _ after
      | cons party before ih => exact .tail party ih

/-- Parties shrink only so often, whatever answers they are given. -/
theorem acc_shrinks (parties : List (Party Request Answer State α)) :
    Acc Shrinks parties := by
  induction parties with
  | nil => exact ⟨_, fun fewer shrinks => nomatch shrinks⟩
  | cons party parties ends =>
      obtain ⟨answer, rest⟩ := party
      -- The first party's program gets shorter, or it stays and the others
      -- shrink, so the induction on the program goes around the one on them.
      induction rest generalizing parties with
      | done value =>
          induction ends with
          | intro parties _ ih =>
              constructor
              rintro _ (_ | ⟨_, shrinks⟩)
              exact ih _ shrinks
      | ask asked next shorter =>
          induction ends with
          | intro parties ended ih =>
              constructor
              rintro _ (⟨_, _, _, given, _⟩ | ⟨_, shrinks⟩)
              · exact shorter given parties ⟨_, ended⟩
              · exact ih _ shrinks

/-- No run goes on for ever. -/
theorem wellFounded_step :
    WellFounded fun later earlier :
      List (Party Request Answer State α) × State => Step earlier later :=
  Subrelation.wf Step.shrinks (InvImage.wf Prod.fst ⟨acc_shrinks⟩)

end Party

end CgroupMeter
