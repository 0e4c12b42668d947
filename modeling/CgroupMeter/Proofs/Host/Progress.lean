import CgroupMeter.Proofs.Host.Running
import CgroupMeter.Proofs.Program.Within

/-!
# What a task makes of a host

A task leaves a host with other files, some readings of the clock later, and
with reports and output added to those that were there.  All of it depends on
the files and on what the clock shows meanwhile: on another host with the same
files, and a clock that shows the same, the task does the same.
-/

namespace CgroupMeter

/-- What a task makes of a host. -/
structure Progress where
  /-- The files in the end. -/
  files : FileTree
  /-- How often the clock was read. -/
  readings : Nat
  /-- The reports that were added. -/
  reports : List Report
  /-- The output that was added. -/
  output : List UInt8

namespace Host

/-- A host after some progress. -/
def after (host : Host) (progress : Progress) : Host where
  files := progress.files
  clock := host.clock
  readings := host.readings + progress.readings
  reports := host.reports ++ progress.reports
  output := host.output ++ progress.output

/-- What the clock of a host shows in its next readings. -/
def shown (host : Host) (count : Nat) : List Time :=
  (List.range count).map fun reading => host.clock (host.readings + reading)

@[simp]
theorem length_shown (host : Host) (count : Nat) :
    (host.shown count).length = count := by
  simp [shown]

/-- A host whose clock was read some more times. -/
def later (host : Host) (count : Nat) : Host :=
  { host with readings := host.readings + count }

theorem shown_add (host : Host) (first rest : Nat) :
    host.shown (first + rest) =
      host.shown first ++ (host.later first).shown rest := by
  simp only [shown, List.range_add, List.map_append, List.map_map, later,
    Function.comp_def, Nat.add_assoc]

/-- The next readings of the clock of a host show the given times. -/
def Shows (host : Host) (times : List Time) : Prop :=
  host.shown times.length = times

theorem shows_shown (host : Host) (count : Nat) :
    host.Shows (host.shown count) := by
  rw [Shows, length_shown]

theorem shows_append_iff {host : Host} {first rest : List Time} :
    host.Shows (first ++ rest) ↔
      host.Shows first ∧ (host.later first.length).Shows rest := by
  rw [Shows, List.length_append, shown_add]
  constructor
  · intro both
    exact List.append_inj both (by simp)
  · rintro ⟨before, behind⟩
    rw [before, behind]

/-- Hosts have the same files, and their clocks show the same in the next
readings. -/
structure Alike (host other : Host) (count : Nat) : Prop where
  files : other.files = host.files
  shown : other.shown count = host.shown count

/-- Hosts that are alike for longer are alike after the same progress. -/
theorem Alike.split {host other : Host} {progress : Progress} {count : Nat}
    (alike : host.Alike other (progress.readings + count)) :
    host.Alike other progress.readings ∧
      (host.after progress).Alike (other.after progress) count := by
  have shown := alike.shown
  rw [shown_add, shown_add] at shown
  have parts := List.append_inj shown (by simp)
  exact ⟨⟨alike.files, parts.1⟩, ⟨rfl, parts.2⟩⟩

end Host

namespace Progress

/-- No progress on given files. -/
def none (files : FileTree) : Progress := ⟨files, 0, [], []⟩

/-- Progress and then more. -/
def append (first second : Progress) : Progress where
  files := second.files
  readings := first.readings + second.readings
  reports := first.reports ++ second.reports
  output := first.output ++ second.output

theorem after_none (host : Host) : host.after (none host.files) = host := by
  simp [Host.after, none]

theorem after_append (host : Host) (first second : Progress) :
    host.after (first.append second) = (host.after first).after second := by
  simp [Host.after, append, Nat.add_assoc]

end Progress

theorem Host.change_eq_after (host : Host)
    (changed : Except OsError FileTree) :
    host.change changed =
      (changed.map fun _ => (),
        host.after ⟨changed.toOption.getD host.files, 0, [], []⟩) := by
  cases changed with
  | ok files => simp [change, after, Except.toOption, Except.map]
  | error cause => simp [change, after, Except.toOption, Except.map]

/-- Every action makes some progress, and the same on every host that is alike
for as long. -/
theorem Host.answer_eq_after (action : Action) (host : Host) :
    ∃ given progress, Host.answer action host = (given, host.after progress) ∧
      ∀ other, host.Alike other progress.readings →
        Host.answer action other = (given, other.after progress) := by
  have changing (change : FileTree → Except OsError FileTree) :
      ∃ given progress,
        host.change (change host.files) = (given, host.after progress) ∧
          ∀ other, host.Alike other progress.readings →
            other.change (change other.files) =
              (given, other.after progress) := by
    refine ⟨_, _, host.change_eq_after _, ?_⟩
    intro other alike
    rw [alike.files, other.change_eq_after, alike.files]
  cases action with
  | inquire query =>
      refine ⟨host.files.view query,
        ⟨host.files, 0, query.report?.toList, []⟩, ?_, ?_⟩
      · simp [answer, answerQuery, after]
      · intro other alike
        simp [answer, answerQuery, after, ← alike.files]
  | readClock =>
      refine ⟨host.clock host.readings, ⟨host.files, 1, [], []⟩, ?_, ?_⟩
      · simp [answer, after]
      · intro other alike
        have shown := alike.shown
        simp only [Host.shown, List.range_one, List.map_cons, List.map_nil,
          Nat.add_zero, List.cons.injEq, and_true] at shown
        simp [answer, after, shown, ← alike.files]
  | makeDirectories path =>
      refine ⟨(host.files.makeDirectories path).2,
        ⟨(host.files.makeDirectories path).1, 0, [], []⟩, ?_, ?_⟩
      · simp [answer, after]
      · intro other alike
        simp [answer, after, alike.files]
  | writeFile path bytes => exact changing fun files => files.writeFile path bytes
  | rename source target =>
      exact changing fun files => files.renameFile source target
  | emit bytes =>
      refine ⟨.ok (), ⟨host.files, 0, [], bytes⟩, ?_, ?_⟩
      · simp [answer, after]
      · intro other alike
        simp [answer, after, ← alike.files]

namespace Task

variable {α : Type}

/-- Every task makes some progress, and the same on every host that is alike
for as long. -/
theorem runOn_eq_after (task : Task α) (host : Host) :
    ∃ value progress, task.runOn host = (value, host.after progress) ∧
      ∀ other, host.Alike other progress.readings →
        task.runOn other = (value, other.after progress) := by
  induction task generalizing host with
  | done value =>
      refine ⟨value, .none host.files, ?_, ?_⟩
      · rw [Progress.after_none]
        rfl
      · intro other alike
        rw [← alike.files, Progress.after_none]
        rfl
  | ask action next ih =>
      rcases host.answer_eq_after action with ⟨given, first, answered, same⟩
      rcases ih given (host.after first) with ⟨value, second, ran, sameAfter⟩
      have asked (other : Host) : runOn (Program.ask action next) other =
          runOn (next (Host.answer action other).1)
            (Host.answer action other).2 := rfl
      refine ⟨value, first.append second, ?_, ?_⟩
      · rw [asked, answered, ran, Progress.after_append]
      · intro other alike
        rcases alike.split with ⟨before, behind⟩
        rw [asked, same other before, sameAfter _ behind,
          Progress.after_append]

end Task

end CgroupMeter
