import ExactWord.Command.Run

namespace ExactWord.Command

namespace Plan

variable {t left written : Tree} {path text : String} {cause : FileError}

theorem saveIn_of_uncreated (makes : t.makeDirectories (Path.ofText path).parents = (.error cause, left)) :
    saveIn t path text = (.error (.create (Path.ofText path).parentText cause), left) := by
  simp only [saveIn, makes]

theorem saveIn_of_unwritten (makes : t.makeDirectories (Path.ofText path).parents = (.ok (), left))
    (writes : left.writeFile (Path.ofText path) text = .error cause) :
    saveIn t path text = (.error (.write path cause), left) := by
  simp only [saveIn, makes, writes]

theorem saveIn_of_written (makes : t.makeDirectories (Path.ofText path).parents = (.ok (), left))
    (writes : left.writeFile (Path.ofText path) text = .ok written) : saveIn t path text = (.ok (), written) := by
  simp only [saveIn, makes, writes]

inductive Saving (t : Tree) (path text : String) : Except Failure Unit × Tree → Prop where
  | uncreated {cause : FileError} {left : Tree}
      (makes : t.makeDirectories (Path.ofText path).parents = (.error cause, left)) :
      Saving t path text (.error (.create (Path.ofText path).parentText cause), left)
  | unwritten {cause : FileError} {left : Tree}
      (makes : t.makeDirectories (Path.ofText path).parents = (.ok (), left))
      (writes : left.writeFile (Path.ofText path) text = .error cause) :
      Saving t path text (.error (.write path cause), left)
  | written {left written : Tree} (makes : t.makeDirectories (Path.ofText path).parents = (.ok (), left))
      (writes : left.writeFile (Path.ofText path) text = .ok written) : Saving t path text (.ok (), written)

theorem saving_saveIn (t : Tree) (path text : String) : Saving t path text (saveIn t path text) := by
  rcases makes : t.makeDirectories (Path.ofText path).parents with ⟨result, left⟩
  cases result with
  | error cause =>
    rw [saveIn_of_uncreated makes]
    exact .uncreated makes
  | ok =>
    cases writes : left.writeFile (Path.ofText path) text with
    | error cause =>
      rw [saveIn_of_unwritten makes writes]
      exact .unwritten makes writes
    | ok written =>
      rw [saveIn_of_written makes writes]
      exact .written makes writes

end Plan

section Run

variable {setting : Option String} {arguments : List String} {t left : Tree} {o : Options} {i : Interface}
  {path : String}

theorem run_of_print (accepted : Options.parse arguments = .ok o) (valid : Interface.ofName o.guard o.helpers = .ok i)
    (unnamed : o.output = none) :
    run setting arguments t = ⟨0, i.text, LogFilter.log (.ofSetting setting o.verbose) (.rendered i), t⟩ := by
  simp only [run, Plan.make, accepted, Plan.ofOptions, valid, unnamed, Plan.perform]

theorem run_of_failed {failure : Failure} (accepted : Options.parse arguments = .ok o)
    (valid : Interface.ofName o.guard o.helpers = .ok i) (named : o.output = some path)
    (saves : Plan.saveIn t path i.text = (.error failure, left)) :
    run setting arguments t = ⟨failure.exitCode, "",
      LogFilter.log (.ofSetting setting o.verbose) (.rendered i) ++ [.failure failure], left⟩ := by
  simp only [run, Plan.make, accepted, Plan.ofOptions, valid, named, Plan.perform, saves]

theorem run_of_saved (accepted : Options.parse arguments = .ok o) (valid : Interface.ofName o.guard o.helpers = .ok i)
    (named : o.output = some path) (saves : Plan.saveIn t path i.text = (.ok (), left)) :
    run setting arguments t = ⟨0, "", LogFilter.log (.ofSetting setting o.verbose) (.rendered i) ++
      LogFilter.log (.ofSetting setting o.verbose) (.wrote path i.text.utf8ByteSize), left⟩ := by
  simp only [run, Plan.make, accepted, Plan.ofOptions, valid, named, Plan.perform, saves]

end Run

/-- The ways a run can go, each with its outcome. -/
inductive Course (setting : Option String) (arguments : List String) (t : Tree) : Outcome → Prop where
  | misused {error : UsageError} (rejected : Options.parse arguments = .error (.usage error)) :
      Course setting arguments t ⟨2, "", [.failure (.usage error)], t⟩
  | informed {stop : Stop} {text : String} (asked : Options.parse arguments = .error stop)
      (answer : (stop = .help ∧ text = helpText) ∨ (stop = .version ∧ text = versionText)) :
      Course setting arguments t ⟨0, text, [], t⟩
  | misnamed {o : Options} {error : GuardError} (accepted : Options.parse arguments = .ok o)
      (invalid : Interface.ofName o.guard o.helpers = .error error) :
      Course setting arguments t ⟨1, "", [.failure (.guard error)], t⟩
  | printed {o : Options} {i : Interface} (accepted : Options.parse arguments = .ok o)
      (valid : Interface.ofName o.guard o.helpers = .ok i) (unnamed : o.output = none) :
      Course setting arguments t ⟨0, i.text, LogFilter.log (.ofSetting setting o.verbose) (.rendered i), t⟩
  | failed {o : Options} {i : Interface} {path : String} {failure : Failure} {left : Tree}
      (accepted : Options.parse arguments = .ok o) (valid : Interface.ofName o.guard o.helpers = .ok i)
      (named : o.output = some path) (saves : Plan.saveIn t path i.text = (.error failure, left)) :
      Course setting arguments t ⟨failure.exitCode, "",
        LogFilter.log (.ofSetting setting o.verbose) (.rendered i) ++ [.failure failure], left⟩
  | saved {o : Options} {i : Interface} {path : String} {left : Tree}
      (accepted : Options.parse arguments = .ok o) (valid : Interface.ofName o.guard o.helpers = .ok i)
      (named : o.output = some path) (saves : Plan.saveIn t path i.text = (.ok (), left)) :
      Course setting arguments t ⟨0, "", LogFilter.log (.ofSetting setting o.verbose) (.rendered i) ++
        LogFilter.log (.ofSetting setting o.verbose) (.wrote path i.text.utf8ByteSize), left⟩

theorem course_run (setting : Option String) (arguments : List String) (t : Tree) :
    Course setting arguments t (run setting arguments t) := by
  cases read : Options.parse arguments with
  | error stop =>
    cases stop with
    | help =>
      have outcome : run setting arguments t = ⟨0, helpText, [], t⟩ := by simp only [run, Plan.make, read, Plan.perform]
      rw [outcome]
      exact .informed read (.inl ⟨rfl, rfl⟩)
    | version =>
      have outcome : run setting arguments t = ⟨0, versionText, [], t⟩ := by
        simp only [run, Plan.make, read, Plan.perform]
      rw [outcome]
      exact .informed read (.inr ⟨rfl, rfl⟩)
    | usage error =>
      have outcome : run setting arguments t = ⟨2, "", [.failure (.usage error)], t⟩ := by
        simp only [run, Plan.make, read, Plan.perform, Failure.exitCode]
      rw [outcome]
      exact .misused read
  | ok o =>
    cases guard : Interface.ofName o.guard o.helpers with
    | error error =>
      have outcome : run setting arguments t = ⟨1, "", [.failure (.guard error)], t⟩ := by
        simp only [run, Plan.make, read, Plan.ofOptions, guard, Plan.perform, Failure.exitCode]
      rw [outcome]
      exact .misnamed read guard
    | ok i =>
      cases output : o.output with
      | none =>
        rw [run_of_print read guard output]
        exact .printed read guard output
      | some path =>
        rcases saves : Plan.saveIn t path i.text with ⟨result, left⟩
        cases result with
        | error failure =>
          rw [run_of_failed read guard output saves]
          exact .failed read guard output saves
        | ok =>
          rw [run_of_saved read guard output saves]
          exact .saved read guard output saves

end ExactWord.Command
