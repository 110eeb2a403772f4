import ExactWord.Proofs.Course
import ExactWord.Proofs.Directories

namespace ExactWord.Command

open ExactWord.Command.Path (leadsOf leadsOf_of_step mem_leadsOf isStep)

theorem isStep_of_isName {segment : String} (name : IsName segment) (outer : List String) :
    isStep segment outer = true := by
  simp [isStep, name.1, name.2.1]

theorem Path.parents_of_isName {segment : String} (name : IsName segment) (outer : List String) :
    Path.parents ⟨segment :: outer⟩ = leadsOf outer := by
  rw [parents, leads, leadsOf_of_step (isStep_of_isName name outer), List.tail_cons]

namespace Tree

variable {t left : Tree} {segment : String} {outer segments : List String} {leads : List Path} {place : Location}

theorem enter_straight (straight : ∀ name ∈ segments, IsName name) (way : t.enter segments = .ok place) :
    place = segments ∧ ∀ name ∈ segments, nameFits name = true := by
  induction segments generalizing place with
  | nil =>
    cases way
    exact ⟨rfl, nofun⟩
  | cons segment outer ih =>
    obtain ⟨before, reached, moves⟩ := enter_cons_ok way
    obtain ⟨name, names⟩ := List.forall_mem_cons.mp straight
    obtain ⟨rfl, fits⟩ := ih names reached
    rcases step_cases moves with ⟨rfl | rfl, -⟩ | ⟨rfl, -⟩ | ⟨-, short, -, rfl⟩
    · exact absurd rfl name.1
    · exact absurd rfl name.2.1
    · exact absurd rfl name.2.2
    · exact ⟨rfl, List.forall_mem_cons.mpr ⟨short, fits⟩⟩

/-- A path straight down, of a length that the system allows, with no file on its way. -/
structure Passable (t : Tree) (segments : List String) : Prop where
  straight : ∀ name ∈ segments, IsName name
  fits : ∀ name ∈ segments, nameFits name = true
  short : Path.isTooLong ⟨segments⟩ = false
  clear : ∀ around text, around <:+ segments → t.find? around ≠ some (.file text)

namespace Passable

theorem tail (passable : t.Passable (segment :: outer)) : t.Passable outer := by
  have part := List.suffix_cons segment outer
  exact ⟨(List.forall_mem_cons.mp passable.straight).2, (List.forall_mem_cons.mp passable.fits).2,
    Path.short_of_suffix part passable.short, fun around text inner => passable.clear around text (inner.trans part)⟩

theorem grown (passable : t.Passable segments) (grown : GrownBy t left leads) : left.Passable segments := by
  refine ⟨passable.straight, passable.fits, passable.short, fun around text part file => ?_⟩
  exact passable.clear around text part ((grown.file_iff around text).mp file)

theorem enter_error {cause : FileError} (passable : t.Passable segments) (blocked : t.enter segments = .error cause) :
    cause = .missing := by
  induction segments with
  | nil => cases blocked
  | cons segment outer ih =>
    cases way : t.enter outer with
    | error earlier =>
      rw [enter_of_error way] at blocked
      cases blocked
      exact ih passable.tail way
    | ok place =>
      obtain ⟨rfl, -⟩ := enter_straight passable.tail.straight way
      have name := passable.straight segment List.mem_cons_self
      have fits := passable.fits segment List.mem_cons_self
      rw [enter_of_ok way] at blocked
      rcases step_error blocked with ⟨-, -, vacant⟩ | ⟨-, -, text, file⟩ | ⟨-, long⟩
      · rw [step_of_vacant name fits vacant] at blocked
        cases blocked
        rfl
      · exact absurd file (passable.clear _ text (List.suffix_refl _))
      · rw [fits] at long
        cases long

theorem ensureDirectory_cases (passable : t.Passable (segment :: outer)) :
    (∃ made, t.ensureDirectory ⟨segment :: outer⟩ = .ok made ∧
        made.enter (segment :: outer) = .ok (segment :: outer)) ∨
      (t.ensureDirectory ⟨segment :: outer⟩ = .error .missing ∧ t.enter outer = .error .missing) := by
  have attempt := attempt_ensureDirectory t (passable.straight segment List.mem_cons_self).1 outer
  cases ensures : t.ensureDirectory ⟨segment :: outer⟩ with
  | ok made =>
    rw [ensures] at attempt
    obtain ⟨place, way⟩ := attempt.entered
    obtain ⟨rfl, -⟩ := enter_straight passable.straight way
    exact .inl ⟨made, rfl, way⟩
  | error cause =>
    rw [ensures] at attempt
    cases attempt with
    | stuck stops =>
      cases stops with
      | @occupied _ _ _ text _ _ way file =>
        obtain ⟨rfl, -⟩ := enter_straight passable.tail.straight way
        exact absurd file (passable.clear _ text (List.suffix_refl _))
      | overlong _ long _ =>
        rw [passable.fits segment List.mem_cons_self] at long
        cases long
    | blocked way =>
      cases passable.tail.enter_error way
      exact .inr ⟨rfl, way⟩
    | refused long =>
      rw [passable.short] at long
      cases long

theorem makeDirectories (passable : t.Passable segments) :
    ∃ left, t.makeDirectories (leadsOf segments) = (.ok (), left) ∧ left.enter segments = .ok segments := by
  induction segments with
  | nil => exact ⟨t, rfl, rfl⟩
  | cons segment outer ih =>
    obtain ⟨left, makes, way⟩ := ih passable.tail
    have grown := t.makeDirectories_grown outer
    rw [makes] at grown
    rw [leadsOf_of_step (isStep_of_isName (passable.straight segment List.mem_cons_self) outer)]
    rcases passable.ensureDirectory_cases with ⟨made, ensures, arrives⟩ | ⟨ensures, -⟩
    · exact ⟨made, makeDirectories_of_ok ensures _, arrives⟩
    · -- the second attempt starts from a tree that has grown, where nothing is missing on the way
      rcases (passable.grown grown).ensureDirectory_cases with ⟨made, again, arrives⟩ | ⟨-, blocked⟩
      · exact ⟨made, makeDirectories_of_made ensures makes again, arrives⟩
      · rw [way] at blocked
        cases blocked

end Passable

theorem Passable.of_enter (short : Path.isTooLong ⟨segments⟩ = false) (straight : ∀ name ∈ segments, IsName name)
    (grown : GrownBy t left leads) (way : left.enter segments = .ok place) : t.Passable segments := by
  obtain ⟨rfl, fits⟩ := enter_straight straight way
  refine ⟨straight, fits, short, fun around text part file => ?_⟩
  rw [← grown.file_iff, find?_of_enter way part] at file
  cases file

theorem GrownBy.find?_ne_directory (grown : GrownBy t left (leadsOf outer)) (longer : outer.length < place.length)
    (free : t.find? place ≠ some .directory) : left.find? place ≠ some .directory := by
  intro directory
  cases before : t.find? place with
  | some entry =>
    rw [grown.kept place entry before] at directory
    exact free (before.trans directory)
  | none =>
    obtain ⟨-, lead, member, located⟩ := grown.named place before (by simp [directory])
    obtain ⟨name, around, rfl, -, part⟩ := mem_leadsOf member
    have bound : place.length ≤ (name :: around).length := length_of_locate located
    have inside := part.length_le
    omega

end Tree

namespace Plan

variable {t : Tree} {path text : String}

theorem saveIn_ok_iff :
    (∃ saved, saveIn t path text = (.ok (), saved)) ↔
      ∃ left place, t.makeDirectories (Path.ofText path).parents = (.ok (), left) ∧
        left.Writable (Path.ofText path) place := by
  constructor
  · intro ⟨saved, saves⟩
    have saving := saving_saveIn t path text
    rw [saves] at saving
    cases saving with
    | @written left _ makes writes =>
      obtain ⟨place, writable, -⟩ := Tree.writable_of_writeFile writes
      exact ⟨left, place, makes, writable⟩
  · intro ⟨left, place, makes, writable⟩
    exact ⟨_, saveIn_of_written makes (Tree.writeFile_of_writable writable text)⟩

/-- Where the path leads straight down, a text can be saved unless a file is on the way, a directory at the end, or a
name or the whole of it too long. -/
theorem saveIn_ok_iff_of_straight {segment : String} {outer : List String}
    (spelled : Path.ofText path = ⟨segment :: outer⟩) (straight : ∀ name ∈ segment :: outer, IsName name) :
    (∃ saved, saveIn t path text = (.ok (), saved)) ↔
      t.Passable outer ∧ Path.isTooLong ⟨segment :: outer⟩ = false ∧ nameFits segment = true ∧
        t.find? (segment :: outer) ≠ some .directory := by
  obtain ⟨name, names⟩ := List.forall_mem_cons.mp straight
  have grown := t.makeDirectories_grown outer
  rw [saveIn_ok_iff, spelled, Path.parents_of_isName name]
  constructor
  · intro ⟨left, place, makes, writable⟩
    rw [makes] at grown
    obtain ⟨_, _, around, same, -, fits, way, rfl⟩ := Tree.name_of_locate writable.located writable.free
    cases same
    obtain ⟨rfl, -⟩ := Tree.enter_straight names way
    have short := Path.short_of_suffix (List.suffix_cons segment around) writable.short
    refine ⟨.of_enter short names grown way, writable.short, fits, fun directory => ?_⟩
    exact writable.free (grown.kept _ _ directory)
  · intro ⟨passable, short, fits, free⟩
    obtain ⟨left, makes, way⟩ := passable.makeDirectories
    rw [makes] at grown
    exact ⟨left, _, makes, short, Tree.locate_of_name name fits way,
      grown.find?_ne_directory (Nat.lt_succ_self _) free⟩

end Plan

theorem Failure.exitCode_ne_zero (failure : Failure) : failure.exitCode ≠ 0 := by
  cases failure <;> simp [exitCode]

theorem run_succeeds_iff {arguments : List String} {o : Options} {i : Interface} {path : String}
    (accepted : Options.parse arguments = .ok o) (valid : Interface.ofName o.guard o.helpers = .ok i)
    (named : o.output = some path) (setting : Option String) (t : Tree) :
    (run setting arguments t).exitCode = 0 ↔ ∃ saved, Plan.saveIn t path i.text = (.ok (), saved) := by
  rcases saves : Plan.saveIn t path i.text with ⟨result, left⟩
  cases result with
  | error failure =>
    rw [run_of_failed accepted valid named saves]
    apply iff_of_false failure.exitCode_ne_zero
    intro ⟨_, same⟩
    cases same
  | ok =>
    rw [run_of_saved accepted valid named saves]
    exact iff_of_true rfl ⟨left, rfl⟩

end ExactWord.Command
