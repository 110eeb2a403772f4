import ExactWord.Proofs.Omission
import ExactWord.Proofs.Saving

namespace ExactWord.Command

def Options.parents (o : Options) : List Path :=
  match o.output with
  | none => []
  | some path => (Path.ofText path).parents

theorem Options.parents_of_named {o : Options} {path : String} (named : o.output = some path) :
    o.parents = (Path.ofText path).parents := by
  rw [parents, named]

/-- One file holds a text, all other files are as before, and new directories are named by the given paths. -/
structure Tree.WrittenAt (t later : Tree) (place : Location) (text : String) (leads : List Path) : Prop where
  content : later.find? place = some (.file text)
  files : ∀ other old, other ≠ place → (later.find? other = some (.file old) ↔ t.find? other = some (.file old))
  keepsDirectories : t.KeepsDirectories later
  named : ∀ other, later.find? other = some .directory → t.find? other ≠ some .directory →
    ∃ lead ∈ leads, later.locate lead.segments = .ok other

namespace Tree

variable {t left : Tree} {leads : List Path}

theorem GrownBy.writtenAt {p : Path} {place : Location} (grown : GrownBy t left leads)
    (writable : left.Writable p place) (text : String) :
    WrittenAt t (left.put place (.file text)) place text leads := by
  have keeps := KeepsDirectories.put_file text writable.free
  obtain ⟨name, around, rfl⟩ := writable.place_cons
  have content := find?_put_self left name around (.file text)
  refine ⟨content, ?_, ?_, ?_⟩
  · intro other old different
    rw [find?_put_of_ne _ different]
    exact grown.file_iff other old
  · intro other directory
    exact keeps other (grown.kept other .directory directory)
  · intro other directory new
    have different : other ≠ name :: around := by
      rintro rfl
      rw [content] at directory
      cases directory
    rw [find?_put_of_ne _ different] at directory
    cases before : t.find? other with
    | none =>
      obtain ⟨-, lead, member, located⟩ := grown.named other before (by simp [directory])
      exact ⟨lead, member, locate_kept keeps located⟩
    | some entry =>
      rw [grown.kept other entry before] at directory
      exact absurd (before.trans directory) new

end Tree

theorem Path.parents_grown (t : Tree) (p : Path) : Tree.GrownBy t (t.makeDirectories p.parents).2 p.parents := by
  obtain ⟨outer, same⟩ := p.exists_parents
  rw [same]
  exact t.makeDirectories_grown outer

namespace Plan

variable {t left : Tree} {path text : String}

theorem saveIn_failed {failure : Failure} (saves : saveIn t path text = (.error failure, left)) :
    Tree.GrownBy t left (Path.ofText path).parents := by
  have grown := Path.parents_grown t (Path.ofText path)
  have saving := saving_saveIn t path text
  rw [saves] at saving
  cases saving with
  | uncreated makes => rwa [makes] at grown
  | unwritten makes writes => rwa [makes] at grown

theorem saveIn_saved (saves : saveIn t path text = (.ok (), left)) :
    ∃ place, left.locate (Path.ofText path).segments = .ok place ∧
      Tree.WrittenAt t left place text (Path.ofText path).parents := by
  have grown := Path.parents_grown t (Path.ofText path)
  have saving := saving_saveIn t path text
  rw [saves] at saving
  cases saving with
  | written makes writes =>
    rw [makes] at grown
    obtain ⟨place, writable, rfl⟩ := Tree.writable_of_writeFile writes
    exact ⟨place, Tree.locate_kept (.put_file text writable.free) writable.located, grown.writtenAt writable text⟩

end Plan

theorem LogFilter.failure_not_mem_log (f : LogFilter) (e : Event) (failure : Failure) : .failure failure ∉ f.log e := by
  unfold log
  split <;> simp

namespace Course

variable {setting : Option String} {arguments : List String} {t : Tree} {outcome : Outcome}

theorem grown_of_failed (course : Course setting arguments t outcome) (fails : outcome.exitCode ≠ 0) :
    outcome.stdout = "" ∧
      (∃ failure, outcome.diagnostics.getLast? = some (.failure failure) ∧ outcome.exitCode = failure.exitCode) ∧
      (outcome.tree = t ∨ ∃ o, Options.parse arguments = .ok o ∧ Tree.GrownBy t outcome.tree o.parents) := by
  cases course with
  | misused => exact ⟨rfl, ⟨_, rfl, rfl⟩, .inl rfl⟩
  | informed => exact absurd rfl fails
  | misnamed => exact ⟨rfl, ⟨_, rfl, rfl⟩, .inl rfl⟩
  | printed => exact absurd rfl fails
  | @failed o i path failure left accepted valid named saves =>
    refine ⟨rfl, ⟨failure, List.getLast?_concat, rfl⟩, .inr ⟨o, accepted, ?_⟩⟩
    rw [Options.parents_of_named named]
    exact Plan.saveIn_failed saves
  | saved => exact absurd rfl fails

theorem saveIn_cause {path text : String} {failure : Failure} {left : Tree}
    (saves : Plan.saveIn t path text = (.error failure, left)) :
    (∀ error, failure ≠ .usage error) ∧ ∀ error, failure ≠ .guard error := by
  have saving := Plan.saving_saveIn t path text
  rw [saves] at saving
  cases saving <;> exact ⟨nofun, nofun⟩

theorem unchanged_of_arguments (course : Course setting arguments t outcome) {failure : Failure}
    (reported : .failure failure ∈ outcome.diagnostics)
    (cause : (∃ error, failure = .usage error) ∨ ∃ error, failure = .guard error) : outcome.tree = t := by
  cases course with
  | misused => rfl
  | informed => rfl
  | misnamed => rfl
  | printed => rfl
  | failed accepted valid named saves =>
    obtain ⟨proper, validGuard⟩ := saveIn_cause saves
    rcases List.mem_append.mp reported with logged | last
    · exact absurd logged (LogFilter.failure_not_mem_log _ _ _)
    · cases List.mem_singleton.mp last
      rcases cause with ⟨error, same⟩ | ⟨error, same⟩
      · exact absurd same (proper error)
      · exact absurd same (validGuard error)
  | saved =>
    rcases List.mem_append.mp reported with logged | logged
    · exact absurd logged (LogFilter.failure_not_mem_log _ _ _)
    · exact absurd logged (LogFilter.failure_not_mem_log _ _ _)

theorem unchanged_of_unnamed (course : Course setting arguments t outcome)
    (unnamed : Options.parse arguments = .error .help ∨ Options.parse arguments = .error .version ∨
      ∃ o, Options.parse arguments = .ok o ∧ o.output = none) : outcome.tree = t := by
  have other : ∀ {o path}, Options.parse arguments = .ok o → o.output = some path → False := by
    intro o path accepted named
    rw [accepted] at unnamed
    obtain (absent | absent | ⟨same, accepted, absent⟩) := unnamed
    · cases absent
    · cases absent
    · cases accepted
      rw [named] at absent
      cases absent
  cases course with
  | misused => rfl
  | informed => rfl
  | misnamed => rfl
  | printed => rfl
  | failed accepted valid named saves => exact (other accepted named).elim
  | saved accepted valid named saves => exact (other accepted named).elim

theorem written_of_saved (course : Course setting arguments t outcome) {o : Options} {path : String}
    (accepted : Options.parse arguments = .ok o) (named : o.output = some path) (succeeds : outcome.exitCode = 0) :
    outcome.stdout = "" ∧ (run setting (withoutOutput arguments) t).exitCode = 0 ∧
      ∃ place, outcome.tree.locate (Path.ofText path).segments = .ok place ∧
        Tree.WrittenAt t outcome.tree place (run setting (withoutOutput arguments) t).stdout
          (Path.ofText path).parents := by
  cases course with
  | misused => cases succeeds
  | informed asked answer =>
    rw [accepted] at asked
    cases asked
  | misnamed => cases succeeds
  | printed read valid unnamed =>
    cases accepted.symm.trans read
    rw [named] at unnamed
    cases unnamed
  | @failed _ _ _ failure => exact absurd succeeds failure.exitCode_ne_zero
  | @saved o i path left read valid output saves =>
    cases accepted.symm.trans read
    cases named.symm.trans output
    have printed : run setting (withoutOutput arguments) t = _ :=
      run_of_print (parse_withoutOutput accepted) valid rfl
    simp only [printed]
    exact ⟨trivial, trivial, Plan.saveIn_saved saves⟩

end Course

/-- A run that fails says so, prints nothing and at most makes directories on the way to its output, and none at all if
the arguments are at fault. One that succeeds leaves at its output what it would print without that option, and touches
no other file. All other runs leave the tree alone. -/
theorem run_touches_only_output (setting : Option String) (arguments : List String) (t : Tree) :
    ((run setting arguments t).exitCode ≠ 0 → (run setting arguments t).stdout = "" ∧
      (∃ failure, (run setting arguments t).diagnostics.getLast? = some (.failure failure) ∧
        (run setting arguments t).exitCode = failure.exitCode) ∧
      ((run setting arguments t).tree = t ∨ ∃ o, Options.parse arguments = .ok o ∧
        Tree.GrownBy t (run setting arguments t).tree o.parents)) ∧
    (∀ failure, .failure failure ∈ (run setting arguments t).diagnostics →
      ((∃ error, failure = .usage error) ∨ ∃ error, failure = .guard error) → (run setting arguments t).tree = t) ∧
    (∀ o path, Options.parse arguments = .ok o → o.output = some path → (run setting arguments t).exitCode = 0 →
      (run setting arguments t).stdout = "" ∧ (run setting (withoutOutput arguments) t).exitCode = 0 ∧
      ∃ place, (run setting arguments t).tree.locate (Path.ofText path).segments = .ok place ∧
        Tree.WrittenAt t (run setting arguments t).tree place (run setting (withoutOutput arguments) t).stdout
          (Path.ofText path).parents) ∧
    ((Options.parse arguments = .error .help ∨ Options.parse arguments = .error .version ∨
        ∃ o, Options.parse arguments = .ok o ∧ o.output = none) → (run setting arguments t).tree = t) := by
  have course := course_run setting arguments t
  exact ⟨course.grown_of_failed, fun _ => course.unchanged_of_arguments, fun _ _ => course.written_of_saved,
    course.unchanged_of_unnamed⟩

theorem nested_output_saved :
    (run none ["-o", "include/ckd.h"] .empty).exitCode = 0 ∧
      (run none ["-o", "include/ckd.h"] .empty).stdout = "" ∧
      Tree.WrittenAt .empty (run none ["-o", "include/ckd.h"] .empty).tree ["ckd.h", "include"]
        (run none [] .empty).stdout [⟨["include"]⟩] := by
  have accepted : Options.parse ["-o", "include/ckd.h"] =
      .ok ⟨some "include/ckd.h", IncludeGuard.standardName, true, false⟩ := rfl
  have spelled : Path.ofText "include/ckd.h" = ⟨["ckd.h", "include"]⟩ := by decide
  have straight : ∀ name ∈ ["ckd.h", "include"], IsName name := by simp [IsName]
  have passable : Tree.empty.Passable ["include"] := by
    refine ⟨(List.forall_mem_cons.mp straight).2, by decide, by decide, fun around text _ file => ?_⟩
    cases around <;> cases file
  have succeeds := (run_succeeds_iff accepted rfl rfl none .empty).mpr
    ((Plan.saveIn_ok_iff_of_straight spelled straight).mpr ⟨passable, by decide, by decide, by decide⟩)
  obtain ⟨-, -, saved, -⟩ := run_touches_only_output none ["-o", "include/ckd.h"] .empty
  obtain ⟨silent, -, place, located, written⟩ := saved _ _ accepted rfl succeeds
  rw [spelled] at located written
  obtain ⟨_, _, around, same, -, -, way, rfl⟩ := Tree.name_of_locate located (by simp [written.content])
  cases same
  obtain ⟨rfl, -⟩ := Tree.enter_straight passable.straight way
  exact ⟨succeeds, silent, written⟩

end ExactWord.Command
