import ExactWord.Proofs.Footprint

namespace ExactWord.Command

open ExactWord.Command.Path (leadsOf leadsOf_of_step leadsOf_of_not_step mem_leadsOf isStep isStep_ne)

namespace Tree

variable {t left : Tree} {segment : String} {outer segments : List String} {p lead : Path} {leads : List Path}
  {cause : FileError}

theorem makeDirectories_of_enter {place : Location} (short : ∀ lead ∈ leadsOf segments, lead.isTooLong = false)
    (way : t.enter segments = .ok place) : t.makeDirectories (leadsOf segments) = (.ok (), t) := by
  induction segments generalizing place with
  | nil => rfl
  | cons segment outer ih =>
    by_cases step : isStep segment outer = true
    · rw [leadsOf_of_step step] at short ⊢
      exact makeDirectories_of_ok (ensureDirectory_of_present (short _ List.mem_cons_self) (isStep_ne step) way) _
    · rw [leadsOf_of_not_step step] at short ⊢
      rw [enter_of_not_step step] at way
      exact ih short way

def NamesFile (t : Tree) (p : Path) : Prop :=
  ∃ place text, t.locate p.segments = .ok place ∧ t.find? place = some (.file text)

theorem NamesFile.enter (names : t.NamesFile p) : t.enter p.segments = .error .notDirectory := by
  obtain ⟨place, text, located, file⟩ := names
  obtain ⟨segment, outer, around, same, name, fits, way, rfl⟩ := name_of_locate located (by simp [file])
  rw [same]
  exact (enter_of_ok way).trans (step_of_file name fits file)

theorem NamesFile.enter_around (names : t.NamesFile lead) (member : lead ∈ leadsOf segments) :
    t.enter segments = .error .notDirectory := by
  obtain ⟨segment, outer, rfl, -, part⟩ := mem_leadsOf member
  exact enter_of_error_suffix names.enter part

theorem Stuck.enter_around (stops : t.Stuck lead cause) (member : lead ∈ leadsOf segments) :
    t.enter segments = .error cause.below := by
  obtain ⟨segment, outer, rfl, -, part⟩ := mem_leadsOf member
  exact enter_of_error_suffix stops.enter part

theorem Stuck.way (stops : t.Stuck ⟨segment :: outer⟩ cause) : ∃ place, t.enter outer = .ok place := by
  cases stops with
  | @occupied _ _ place _ _ _ way => exact ⟨place, way⟩
  | @overlong _ _ place _ _ way => exact ⟨place, way⟩

/-- A second series stops where the first one got stuck. It gives another reason only if it meets a file before it comes
to the last of the directories. -/
theorem makeDirectories_of_stuck (short : ∀ lead ∈ leadsOf segments, lead.isTooLong = false)
    (member : lead ∈ leadsOf segments) (stops : t.Stuck lead cause) :
    (t.makeDirectories (leadsOf segments) = (.error cause, t) ∧
        ∀ inner ∈ (leadsOf segments).tail, ¬ t.NamesFile inner) ∨
      (cause = .alreadyExists ∧ t.makeDirectories (leadsOf segments) = (.error .notDirectory, t) ∧
        ∃ inner ∈ (leadsOf segments).tail, t.NamesFile inner) := by
  induction segments with
  | nil => cases member
  | cons segment outer ih =>
    by_cases step : isStep segment outer = true
    · rw [leadsOf_of_step step] at short member ⊢
      rw [List.tail_cons]
      have first := short _ List.mem_cons_self
      rcases List.mem_cons.mp member with rfl | inside
      · obtain ⟨place, way⟩ := stops.way
        refine .inl ⟨makeDirectories_of_error (ensureDirectory_of_stuck first stops) stops.cause_ne_missing _, ?_⟩
        intro inner among names
        rw [names.enter_around among] at way
        cases way
      · -- the very first attempt fails: the place where the series is stuck lies on the way
        have closed := stops.enter_around inside
        have fails := ensureDirectory_of_blocked first (isStep_ne step) closed
        cases stops with
        | occupied name fits way file =>
          exact .inr ⟨rfl, makeDirectories_of_error fails nofun _, _, inside, _, _, locate_of_name name fits way, file⟩
        | overlong name long way =>
          refine .inl ⟨makeDirectories_of_error fails nofun _, ?_⟩
          intro inner among names
          rw [names.enter_around among] at closed
          cases closed
    · rw [leadsOf_of_not_step step] at short member ⊢
      exact ih short member

def Closed (t : Tree) : Prop :=
  ∀ name place entry, t.find? (name :: place) = some entry → t.find? place = some .directory

theorem Closed.find?_of_suffix {place around : Location} (closed : t.Closed)
    (directory : t.find? place = some .directory) (part : around <:+ place) : t.find? around = some .directory := by
  induction place with
  | nil =>
    rw [List.suffix_nil.mp part]
    exact directory
  | cons name rest ih =>
    rcases List.suffix_cons_iff.mp part with rfl | inside
    · exact directory
    · exact ih (closed name rest .directory directory) inside

theorem enter_of_no_up {place : Location} (way : left.enter segments = .ok place) (straight : ".." ∉ segments)
    (passable : ∀ around, around <:+ place → t.find? around = some .directory) : t.enter segments = .ok place := by
  induction segments generalizing place with
  | nil => exact way
  | cons segment outer ih =>
    obtain ⟨before, reached, moves⟩ := enter_cons_ok way
    have straightOuter : ".." ∉ outer := fun member => straight (List.mem_cons_of_mem segment member)
    rcases step_cases moves with ⟨blank, rfl⟩ | ⟨rfl, -⟩ | ⟨name, fits, -, rfl⟩
    · exact (enter_of_ok (ih reached straightOuter passable)).trans (step_of_blank blank)
    · exact absurd List.mem_cons_self straight
    · have outerWay := ih reached straightOuter fun around part =>
        passable around (part.trans (List.suffix_cons segment before))
      exact (enter_of_ok outerWay).trans (step_of_directory name fits (passable _ (List.suffix_refl _)))

theorem NamesFile.goes_up (names : left.NamesFile lead) (member : lead ∈ leadsOf segments)
    (grown : GrownBy t left leads) (missing : t.enter segments = .error .missing) (closed : t.Closed) :
    ".." ∈ lead.segments := by
  apply Decidable.byContradiction
  intro straight
  obtain ⟨place, text, located, file⟩ := names
  obtain ⟨segment, outer, around, same, name, fits, way, rfl⟩ := name_of_locate located (by simp [file])
  rw [same] at straight located
  have before := (grown.file_iff _ _).mp file
  -- a way that does not go up passes only places around the file, and those were there before
  have passed : t.enter outer = .ok around := by
    refine enter_of_no_up way (fun inside => straight (List.mem_cons_of_mem segment inside)) fun inner part => ?_
    exact closed.find?_of_suffix (closed _ _ _ before) part
  have seen : t.NamesFile lead := ⟨_, _, by rw [same]; exact locate_of_name name fits passed, before⟩
  rw [seen.enter_around member] at missing
  cases missing

theorem makeDirectories_again (makes : t.makeDirectories (leadsOf segments) = (.error cause, left)) :
    (left.makeDirectories (leadsOf segments) = (.error cause, left) ∧
      (left = t ∨ ∀ inner ∈ (leadsOf segments).tail, ¬ left.NamesFile inner)) ∨
    (cause = .alreadyExists ∧ left.makeDirectories (leadsOf segments) = (.error .notDirectory, left) ∧
      left ≠ t ∧ (∃ inner ∈ (leadsOf segments).tail, left.NamesFile inner) ∧
      ∀ inner ∈ (leadsOf segments).tail, left.NamesFile inner → t.Closed → ".." ∈ inner.segments) := by
  have grown := t.makeDirectories_grown segments
  have series := series_makeDirectories t segments
  rw [makes] at series grown
  cases series with
  | stuck short missing member stops =>
    rcases makeDirectories_of_stuck short member stops with ⟨same, unseen⟩ | ⟨rfl, other, seen⟩
    · exact .inl ⟨same, .inr unseen⟩
    · refine .inr ⟨rfl, other, ?_, seen, fun inner among names => ?_⟩
      · rintro rfl
        rw [stops.enter_around member] at missing
        cases missing
      · exact names.goes_up (List.mem_of_mem_tail among) grown missing
  | refused => exact .inl ⟨makes, .inl rfl⟩

end Tree

/-- Directories were made, and behind one of them a file bars the way to the last directory. -/
structure Tree.Barred (t left : Tree) (leads : List Path) (lead : Path) : Prop where
  changed : left ≠ t
  inner : lead ∈ leads.tail
  file : left.NamesFile lead

namespace Plan

variable {t left : Tree} {path text : String}

theorem not_barred_of_enter {segments : List String} {place : Location} (way : left.enter segments = .ok place)
    (lead : Path) : ¬ t.Barred left (leadsOf segments) lead := by
  intro barred
  rw [barred.file.enter_around (List.mem_of_mem_tail barred.inner)] at way
  cases way

theorem saveIn_again {result : Except Failure Unit} (saves : saveIn t path text = (result, left)) :
    (saveIn left path text = (result, left) ∧ ∀ lead, ¬ t.Barred left (Path.ofText path).parents lead) ∨
    (result = .error (.create (Path.ofText path).parentText .alreadyExists) ∧
      saveIn left path text = (.error (.create (Path.ofText path).parentText .notDirectory), left) ∧
      (∃ lead, t.Barred left (Path.ofText path).parents lead) ∧
      ∀ lead, t.Barred left (Path.ofText path).parents lead → t.Closed → ".." ∈ lead.segments) := by
  obtain ⟨segments, parents⟩ := (Path.ofText path).exists_parents
  have saving := saving_saveIn t path text
  rw [saves] at saving
  cases saving with
  | uncreated makes =>
    rw [parents] at makes
    rcases Tree.makeDirectories_again makes with ⟨again, unseen⟩ | ⟨rfl, again, changed, ⟨lead, among, names⟩, up⟩
    · rw [← parents] at again
      refine .inl ⟨saveIn_of_uncreated again, fun lead barred => ?_⟩
      rw [parents] at barred
      rcases unseen with same | none
      · exact barred.changed same
      · exact none lead barred.inner barred.file
    · rw [← parents] at again
      refine .inr ⟨rfl, saveIn_of_uncreated again, ?_, ?_⟩
      · rw [parents]
        exact ⟨lead, changed, among, names⟩
      · rw [parents]
        exact fun lead barred => up lead barred.inner barred.file
  | unwritten makes writes =>
    rw [parents] at makes
    obtain ⟨short, place, way⟩ := Tree.enter_of_makeDirectories makes
    have again := Tree.makeDirectories_of_enter short way
    rw [← parents] at again
    refine .inl ⟨saveIn_of_unwritten again writes, ?_⟩
    rw [parents]
    exact not_barred_of_enter way
  | written makes writes =>
    rw [parents] at makes
    obtain ⟨short, place, way⟩ := Tree.enter_of_makeDirectories makes
    obtain ⟨target, writable, rfl⟩ := Tree.writable_of_writeFile writes
    have still := Tree.enter_kept (.put_file text writable.free) way
    have again := Tree.makeDirectories_of_enter short still
    rw [← parents] at again
    refine .inl ⟨saveIn_of_written again (writable.writeFile_again text), ?_⟩
    rw [parents]
    exact not_barred_of_enter still

end Plan

def rerun (setting : Option String) (arguments : List String) (t : Tree) : Outcome :=
  run setting arguments (run setting arguments t).tree

theorem rerun_of_unchanged {setting : Option String} {arguments : List String} {t : Tree}
    (same : (run setting arguments t).tree = t) : rerun setting arguments t = run setting arguments t := by
  rw [rerun, same]

theorem not_barred_of_named {arguments : List String} {o : Options} {path : String} {t left : Tree}
    (accepted : Options.parse arguments = .ok o) (named : o.output = some path)
    (clear : ∀ lead, ¬ t.Barred left (Path.ofText path).parents lead) (other : Options) (lead : Path)
    (same : Options.parse arguments = .ok other) : ¬ t.Barred left other.parents lead := by
  cases accepted.symm.trans same
  rw [Options.parents_of_named named]
  exact clear lead

theorem rerun_cases (setting : Option String) (arguments : List String) (t : Tree) :
    (rerun setting arguments t = run setting arguments t ∧ ∀ o lead, Options.parse arguments = .ok o →
      ¬ t.Barred (run setting arguments t).tree o.parents lead) ∨
    ∃ o path log left, Options.parse arguments = .ok o ∧ o.output = some path ∧
      run setting arguments t =
        ⟨1, "", log ++ [.failure (.create (Path.ofText path).parentText .alreadyExists)], left⟩ ∧
      rerun setting arguments t =
        ⟨1, "", log ++ [.failure (.create (Path.ofText path).parentText .notDirectory)], left⟩ ∧
      (∃ lead, t.Barred left o.parents lead) ∧
      ∀ lead, t.Barred left o.parents lead → t.Closed → ".." ∈ lead.segments := by
  have course := course_run setting arguments t
  have unchanged : (run setting arguments t).tree = t →
      rerun setting arguments t = run setting arguments t ∧ ∀ o lead, Options.parse arguments = .ok o →
        ¬ t.Barred (run setting arguments t).tree o.parents lead :=
    fun same => ⟨rerun_of_unchanged same, fun _ _ _ barred => barred.changed same⟩
  generalize outcome : run setting arguments t = first at course
  cases course with
  | misused => exact .inl (outcome ▸ unchanged (congrArg Outcome.tree outcome))
  | informed => exact .inl (outcome ▸ unchanged (congrArg Outcome.tree outcome))
  | misnamed => exact .inl (outcome ▸ unchanged (congrArg Outcome.tree outcome))
  | printed => exact .inl (outcome ▸ unchanged (congrArg Outcome.tree outcome))
  | @failed o i path failure left accepted valid named saves =>
    rcases Plan.saveIn_again saves with ⟨again, clear⟩ | ⟨cause, again, barred, up⟩
    · refine .inl ⟨?_, not_barred_of_named accepted named clear⟩
      rw [rerun, outcome]
      exact run_of_failed accepted valid named again
    · cases cause
      refine .inr ⟨o, path, _, left, accepted, named, rfl, ?_, ?_⟩
      · rw [rerun, outcome]
        exact run_of_failed accepted valid named again
      · rw [Options.parents_of_named named]
        exact ⟨barred, up⟩
  | saved accepted valid named saves =>
    rcases Plan.saveIn_again saves with ⟨again, clear⟩ | ⟨cause, -⟩
    · refine .inl ⟨?_, not_barred_of_named accepted named clear⟩
      rw [rerun, outcome]
      exact run_of_saved accepted valid named again
    · cases cause

theorem stderr_ne_of_cause {first second : Outcome} {log : List Diagnostic} {parent : String}
    (occupied : first.diagnostics = log ++ [.failure (.create parent .alreadyExists)])
    (barred : second.diagnostics = log ++ [.failure (.create parent .notDirectory)]) :
    second.stderr ≠ first.stderr := by
  rw [Outcome.stderr, Outcome.stderr, occupied, barred]
  simp [Text.unlines, String.join_append, Diagnostic.text, Failure.text, Failure.createText, Failure.caused,
    FileError.message, String.append_assoc, String.append_right_inj]

/-- A second run repeats the first, whether that one succeeded or failed. Only where the first one made directories and
then found a file behind one of them, where the way comes up again, does the second one find that file before the
directories are tried one by one, and call it no directory. -/
theorem rerun_repeats (setting : Option String) (arguments : List String) (t : Tree) :
    (rerun setting arguments t).exitCode = (run setting arguments t).exitCode ∧
    (rerun setting arguments t).stdout = (run setting arguments t).stdout ∧
    (rerun setting arguments t).tree = (run setting arguments t).tree ∧
    ((rerun setting arguments t).stderr = (run setting arguments t).stderr ↔
      ¬ ∃ o lead, Options.parse arguments = .ok o ∧ t.Barred (run setting arguments t).tree o.parents lead) ∧
    ∀ o lead, Options.parse arguments = .ok o → t.Barred (run setting arguments t).tree o.parents lead →
      (t.Closed → ".." ∈ lead.segments) ∧
      ∃ path log, o.output = some path ∧
        (run setting arguments t).diagnostics =
          log ++ [.failure (.create (Path.ofText path).parentText .alreadyExists)] ∧
        (rerun setting arguments t).diagnostics =
          log ++ [.failure (.create (Path.ofText path).parentText .notDirectory)] := by
  rcases rerun_cases setting arguments t with
    ⟨same, clear⟩ | ⟨o, path, log, left, accepted, named, first, second, ⟨lead, barred⟩, up⟩
  · rw [same]
    exact ⟨rfl, rfl, rfl, iff_of_true rfl fun ⟨o, lead, accepted, barred⟩ => clear o lead accepted barred,
      fun o lead accepted barred => absurd barred (clear o lead accepted)⟩
  · have differ := stderr_ne_of_cause (congrArg Outcome.diagnostics first) (congrArg Outcome.diagnostics second)
    refine ⟨?_, ?_, ?_, iff_of_false differ ?_, ?_⟩
    · rw [first, second]
    · rw [first, second]
    · rw [first, second]
    · rw [first]
      exact fun clear => clear ⟨o, lead, accepted, barred⟩
    · intro other lead same barred
      cases accepted.symm.trans same
      rw [first] at barred
      exact ⟨up lead barred, path, log, named, congrArg Outcome.diagnostics first,
        congrArg Outcome.diagnostics second⟩

def detourArguments : List String := ["-o", "c/../f/b/x"]

def detourTree : Tree := ⟨[(["f"], .file "text")]⟩

theorem detour_rerun_names_other_cause :
    detourTree.Closed ∧
      (rerun none detourArguments detourTree).stderr ≠ (run none detourArguments detourTree).stderr := by
  refine ⟨?_, by decide +kernel⟩
  intro name place entry found
  by_cases only : name :: place = ["f"]
  · cases only
    rfl
  · simp [Tree.find?, detourTree, List.lookup_cons, beq_false_of_ne only] at found

end ExactWord.Command
