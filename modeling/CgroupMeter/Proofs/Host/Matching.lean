import CgroupMeter.Proofs.Host.Running
import CgroupMeter.Proofs.Store.Document

/-!
# Tasks that do the same

Two tasks match when they leave every host behind in the same state and end
with values that a relation holds between.  Matching goes through sequencing:
what comes next has to match only for related values.  Hosts are those whose
clock shows times in range.

Whatever a task does, it leaves the clock alone, and the reports that were made
before it bear on nothing but the reports after it.
-/

namespace CgroupMeter

namespace Host

theorem clock_answer (host : Host) (action : Action) :
    (Host.answer action host).2.clock = host.clock := by
  have change : ∀ changed, (host.change changed).2.clock = host.clock := by
    intro changed
    cases changed with
    | ok files => rfl
    | error cause => rfl
  cases action with
  | inquire query => rfl
  | readClock => rfl
  | makeDirectories path => rfl
  | writeFile path bytes => exact change _
  | rename source target => exact change _
  | emit bytes => rfl

theorem answer_with_reports (host : Host) (action : Action)
    (reports : List Report) :
    ∃ after, Host.answer action { host with reports } =
      ((Host.answer action host).1,
        { (Host.answer action host).2 with reports := after }) := by
  have change : ∀ changed, Host.change { host with reports } changed =
      ((host.change changed).1, { (host.change changed).2 with reports }) := by
    intro changed
    cases changed with
    | ok files => rfl
    | error cause => rfl
  cases action with
  | inquire query => exact ⟨reports ++ query.report?.toList, rfl⟩
  | readClock => exact ⟨reports, rfl⟩
  | makeDirectories path => exact ⟨reports, rfl⟩
  | writeFile path bytes => exact ⟨reports, change _⟩
  | rename source target => exact ⟨reports, change _⟩
  | emit bytes => exact ⟨reports, rfl⟩

end Host

namespace Task

variable {α β γ δ : Type}

theorem clock_runOn (task : Task α) (host : Host) :
    (task.runOn host).2.clock = host.clock := by
  induction task generalizing host with
  | done value => rfl
  | ask action next ih =>
      have asked : runOn (Program.ask action next) host =
          runOn (next (Host.answer action host).1)
            (Host.answer action host).2 := rfl
      rw [asked, ih, Host.clock_answer]

theorem runOn_with_reports (task : Task α) (host : Host)
    (reports : List Report) :
    ∃ after, task.runOn { host with reports } =
      ((task.runOn host).1, { (task.runOn host).2 with reports := after }) := by
  induction task generalizing host reports with
  | done value => exact ⟨reports, rfl⟩
  | ask action next ih =>
      have asked : ∀ start, runOn (Program.ask action next) start =
          runOn (next (Host.answer action start).1)
            (Host.answer action start).2 := fun start => rfl
      rcases host.answer_with_reports action reports with ⟨middle, answered⟩
      rw [asked, asked, answered]
      exact ih _ _ middle

/-- Two tasks do the same on every host whose clock shows times in range, and
end with related values. -/
def Match (related : α → β → Prop) (left : Task α) (right : Task β) : Prop :=
  ∀ host : Host, (∀ reading, (host.clock reading).InRange) →
    (left.runOn host).2 = (right.runOn host).2 ∧
      related (left.runOn host).1 (right.runOn host).1

theorem match_pure {related : α → β → Prop} {left : α} {right : β}
    (values : related left right) : Match related (pure left) (pure right) := by
  intro host clock
  exact ⟨rfl, values⟩

theorem Match.bind {related : α → β → Prop} {after : γ → δ → Prop}
    {left : Task α} {right : Task β} {next : α → Task γ} {other : β → Task δ}
    (first : Match related left right)
    (rest : ∀ value image, related value image →
      Match after (next value) (other image)) :
    Match after (left >>= next) (right >>= other) := by
  intro host clock
  rcases first host clock with ⟨hosts, values⟩
  rw [runOn_bind, runOn_bind, ← hosts]
  apply rest _ _ values (left.runOn host).2
  rw [clock_runOn]
  exact clock

theorem match_refl (task : Task α) : Match Eq task task := by
  intro host clock
  exact ⟨rfl, rfl⟩

/-- A task matches itself, and what is known of its value is kept. -/
theorem match_self (holds : α → Prop) (task : Task α)
    (value : ∀ host : Host, (∀ reading, (host.clock reading).InRange) →
      holds (task.runOn host).1) :
    Match (fun left right => left = right ∧ holds left) task task := by
  intro host clock
  exact ⟨rfl, rfl, value host clock⟩

theorem match_readClock :
    Match (fun left right => left = right ∧ left.InRange) readClock
      readClock := by
  apply match_self Time.InRange readClock
  intro host clock
  rw [runOn_readClock]
  exact clock host.readings

theorem match_ofInquiry (holds : α → Prop) (inquiry : Inquiry α)
    (found : ∀ tree, holds (inquiry.found tree)) :
    Match (fun left right => left = right ∧ holds left) (ofInquiry inquiry)
      (ofInquiry inquiry) := by
  apply match_self holds _
  intro host clock
  rw [runOn_ofInquiry]
  exact found host.files

end Task

end CgroupMeter
