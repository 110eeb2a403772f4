import ExactWord.Proofs.Course

namespace ExactWord

theorem Text.unlines_append (first second : List String) :
    unlines (first ++ second) = unlines first ++ unlines second := by
  rw [unlines, List.map_append, String.join_append]
  rfl

namespace Command

def Diagnostic.event? : Diagnostic → Option Event
  | .event e => some e
  | .failure _ => none

def Outcome.logged (o : Outcome) : List Event := o.diagnostics.filterMap Diagnostic.event?

/-- What a run does, with the events that it offers to the log. -/
structure Deed where
  exitCode : Nat
  stdout : String
  events : List Event
  failures : List Failure
  tree : Tree

namespace Deed

def loggedBy (d : Deed) (f : LogFilter) : Outcome :=
  ⟨d.exitCode, d.stdout, d.events.flatMap f.log ++ d.failures.map .failure, d.tree⟩

def report (d : Deed) : String := Text.unlines (d.failures.map Failure.text)

theorem log_eq (f : LogFilter) (events : List Event) :
    events.flatMap f.log = (events.filter fun e => f.allows e.topic e.level).map .event := by
  induction events with
  | nil => rfl
  | cons e rest ih =>
    rw [List.flatMap_cons, ih, LogFilter.log, List.filter_cons]
    split <;> rfl

theorem logged_loggedBy (d : Deed) (f : LogFilter) :
    (d.loggedBy f).logged = d.events.filter fun e => f.allows e.topic e.level := by
  have events : ∀ events : List Event, (events.map Diagnostic.event).filterMap Diagnostic.event? = events := by
    intro events
    rw [List.filterMap_map]
    exact List.filterMap_some
  have failures : (d.failures.map Diagnostic.failure).filterMap Diagnostic.event? = [] := by
    simp [Diagnostic.event?]
  rw [Outcome.logged, loggedBy, List.filterMap_append, log_eq, events, failures, List.append_nil]

def Offers (d : Deed) (i : Interface) (path : String) (bytes : Nat) : Prop :=
  d.events.Sublist [.rendered i, .wrote path bytes]

theorem Offers.logged {d : Deed} {i : Interface} {path : String} {bytes : Nat} (offers : d.Offers i path bytes)
    (f : LogFilter) : (d.loggedBy f).logged.Sublist [.rendered i, .wrote path bytes] := by
  rw [logged_loggedBy]
  exact List.filter_sublist.trans offers

theorem stderr_loggedBy (d : Deed) (f : LogFilter) :
    (d.loggedBy f).stderr = Text.unlines ((d.loggedBy f).logged.map Event.text) ++ d.report := by
  rw [logged_loggedBy, report, ← Text.unlines_append, Outcome.stderr, loggedBy, log_eq, List.map_append, List.map_map,
    List.map_map]
  rfl

end Deed

section Run

variable {arguments : List String} {t : Tree} {o : Options}

theorem run_of_stopped {stop : Stop} (stopped : Options.parse arguments = .error stop) :
    ∃ exitCode stdout failures, ∀ setting filter,
      run setting arguments t = Deed.loggedBy ⟨exitCode, stdout, [], failures, t⟩ filter := by
  cases stop with
  | help =>
    refine ⟨0, helpText, [], fun _ _ => ?_⟩
    simp only [run, Plan.make, stopped]
    rfl
  | version =>
    refine ⟨0, versionText, [], fun _ _ => ?_⟩
    simp only [run, Plan.make, stopped]
    rfl
  | usage error =>
    refine ⟨2, "", [.usage error], fun _ _ => ?_⟩
    simp only [run, Plan.make, stopped]
    rfl

theorem run_of_accepted (accepted : Options.parse arguments = .ok o) :
    ∃ (d : Deed) (i : Interface) (path : String) (bytes : Nat), d.Offers i path bytes ∧
      ∀ setting, run setting arguments t = d.loggedBy (.ofSetting setting o.verbose) := by
  cases guard : Interface.ofName o.guard o.helpers with
  | error error =>
    refine ⟨⟨1, "", [], [.guard error], t⟩, .standard, "", 0, List.nil_sublist _, fun setting => ?_⟩
    simp only [run, Plan.make, accepted, Plan.ofOptions, guard]
    rfl
  | ok i =>
    cases output : o.output with
    | none =>
      refine ⟨⟨0, i.text, [.rendered i], [], t⟩, i, "", 0, by simp [Deed.Offers], fun setting => ?_⟩
      rw [run_of_print accepted guard output]
      simp [Deed.loggedBy]
    | some path =>
      rcases saves : Plan.saveIn t path i.text with ⟨result, left⟩
      cases result with
      | error failure =>
        refine ⟨⟨failure.exitCode, "", [.rendered i], [failure], left⟩, i, "", 0, by simp [Deed.Offers],
          fun setting => ?_⟩
        rw [run_of_failed accepted guard output saves]
        simp [Deed.loggedBy]
      | ok =>
        refine ⟨⟨0, "", [.rendered i, .wrote path i.text.utf8ByteSize], [], left⟩, i, path, i.text.utf8ByteSize,
          List.Sublist.refl _, fun setting => ?_⟩
        rw [run_of_saved accepted guard output saves]
        simp [Deed.loggedBy]

theorem run_eq_loggedBy (arguments : List String) (t : Tree) :
    ∃ (d : Deed) (i : Interface) (path : String) (bytes : Nat), d.Offers i path bytes ∧
      ∀ setting, ∃ filter, run setting arguments t = d.loggedBy filter := by
  cases read : Options.parse arguments with
  | error stop =>
    obtain ⟨exitCode, stdout, failures, same⟩ := run_of_stopped (t := t) read
    exact ⟨⟨exitCode, stdout, [], failures, t⟩, .standard, "", 0, List.nil_sublist _,
      fun setting => ⟨.ofSetting setting false, same setting _⟩⟩
  | ok o =>
    obtain ⟨d, i, path, bytes, offers, same⟩ := run_of_accepted (t := t) read
    exact ⟨d, i, path, bytes, offers, fun setting => ⟨_, same setting⟩⟩

theorem LogFilter.ofSetting_of_readable {text : String} {filter : LogFilter} (readable : ofText? text = some filter)
    (verbose : Bool) : ofSetting (some text) verbose = filter := by
  simp only [ofSetting, Option.bind_some, readable]

theorem run_of_readable {text : String} {filter : LogFilter} (readable : LogFilter.ofText? text = some filter)
    (accepted : Options.parse arguments = .ok o) :
    run (some text) arguments t = (Plan.ofOptions filter o).perform t := by
  simp only [run, Plan.make, accepted, LogFilter.ofSetting_of_readable readable]

end Run

/-- Two settings of the log filter make no difference but in the events that are reported, of which there are two at
most and which stand in front of a report that is the same for both. Where the setting can be read, the verbose option
makes no difference at all. -/
theorem logging_without_influence (arguments : List String) (t : Tree) :
    (∀ first second, (run first arguments t).exitCode = (run second arguments t).exitCode ∧
      (run first arguments t).stdout = (run second arguments t).stdout ∧
      (run first arguments t).tree = (run second arguments t).tree) ∧
    (∃ report i path bytes, ∀ setting,
      (run setting arguments t).logged.Sublist [.rendered i, .wrote path bytes] ∧
      (run setting arguments t).stderr = Text.unlines ((run setting arguments t).logged.map Event.text) ++ report) ∧
    (∀ text filter o others verbose, LogFilter.ofText? text = some filter → Options.parse arguments = .ok o →
      Options.parse others = .ok { o with verbose := verbose } →
      run (some text) arguments t = run (some text) others t) := by
  obtain ⟨d, i, path, bytes, offers, same⟩ := run_eq_loggedBy arguments t
  refine ⟨?_, ⟨d.report, i, path, bytes, ?_⟩, ?_⟩
  · intro first second
    obtain ⟨f, runs⟩ := same first
    obtain ⟨g, runsToo⟩ := same second
    rw [runs, runsToo]
    exact ⟨rfl, rfl, rfl⟩
  · intro setting
    obtain ⟨f, runs⟩ := same setting
    rw [runs]
    exact ⟨offers.logged f, d.stderr_loggedBy f⟩
  · intro text filter o others verbose readable accepted acceptedToo
    rw [run_of_readable readable accepted, run_of_readable readable acceptedToo]
    rfl

theorem readableSetting_outweighs_verbose :
    LogFilter.ofText? "info" = some ⟨[⟨none, .always, .info⟩]⟩ ∧
      run (some "info") ["-o", "x.h"] .empty = run (some "info") ["-vo", "x.h"] .empty := by
  have readable : LogFilter.ofText? "info" = some ⟨[⟨none, .always, .info⟩]⟩ := by rfl
  exact ⟨readable, (logging_without_influence ["-o", "x.h"] .empty).2.2 _ _ ⟨some "x.h", "CKD_CHECKED_H", true, false⟩ _
    true readable rfl rfl⟩

end Command

end ExactWord
