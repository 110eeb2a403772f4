import ExactWord.Proofs.Places

namespace ExactWord.Command

namespace Path

theorem join_snoc (separator : Char) (pieces : List (List Char)) (last : List Char) :
    Text.join separator (pieces ++ [last]) =
      if pieces = [] then last else Text.join separator pieces ++ separator :: last := by
  induction pieces with
  | nil => simp [Text.join]
  | cons piece rest ih =>
    cases rest with
    | nil => simp [Text.join]
    | cons next others =>
      simp only [List.cons_append, Text.join, reduceCtorEq, if_false] at ih ⊢
      rw [ih]
      simp

theorem text_size_cons (segment : String) (outer : List String) :
    (text ⟨outer⟩).utf8ByteSize ≤ (text ⟨segment :: outer⟩).utf8ByteSize := by
  simp only [text, List.reverse_cons, List.map_append, List.map_cons, List.map_nil, join_snoc]
  split
  · rename_i none
    simp [none, Text.join]
  · rw [String.ofList_append, String.utf8ByteSize_append]
    omega

theorem short_of_suffix {outer segments : List String} (part : outer <:+ segments)
    (short : isTooLong ⟨segments⟩ = false) : isTooLong ⟨outer⟩ = false := by
  obtain ⟨inner, rfl⟩ := part
  induction inner with
  | nil => exact short
  | cons segment rest ih =>
    apply ih
    have size := text_size_cons segment (rest ++ outer)
    simp only [isTooLong, decide_eq_false_iff_not, List.cons_append] at short ⊢
    omega

theorem isStep_ne {segment : String} {outer : List String} (step : isStep segment outer = true) : segment ≠ "" := by
  simp only [isStep, Bool.and_eq_true, bne_iff_ne] at step
  exact step.1

theorem leadsOf_of_step {segment : String} {outer : List String} (step : isStep segment outer = true) :
    leadsOf (segment :: outer) = ⟨segment :: outer⟩ :: leadsOf outer := by
  rw [leadsOf, if_pos step]

theorem leadsOf_of_not_step {segment : String} {outer : List String} (skipped : ¬ isStep segment outer = true) :
    leadsOf (segment :: outer) = leadsOf outer := by
  rw [leadsOf, if_neg skipped]

theorem mem_leadsOf {lead : Path} {segments : List String} (member : lead ∈ leadsOf segments) :
    ∃ segment outer, lead = ⟨segment :: outer⟩ ∧ segment ≠ "" ∧ segment :: outer <:+ segments := by
  induction segments with
  | nil => cases member
  | cons segment outer ih =>
    by_cases step : isStep segment outer = true
    · rw [leadsOf_of_step step] at member
      rcases List.mem_cons.mp member with rfl | inner
      · exact ⟨segment, outer, rfl, isStep_ne step, List.suffix_refl _⟩
      · obtain ⟨name, rest, same, nonempty, part⟩ := ih inner
        exact ⟨name, rest, same, nonempty, part.trans (List.suffix_cons segment outer)⟩
    · rw [leadsOf_of_not_step step] at member
      obtain ⟨name, rest, same, nonempty, part⟩ := ih member
      exact ⟨name, rest, same, nonempty, part.trans (List.suffix_cons segment outer)⟩

theorem exists_parents (p : Path) : ∃ outer, p.parents = leadsOf outer := by
  obtain ⟨segments⟩ := p
  change ∃ outer, (leadsOf segments).tail = leadsOf outer
  induction segments with
  | nil => exact ⟨[], rfl⟩
  | cons segment outer ih =>
    by_cases step : isStep segment outer = true
    · exact ⟨outer, by rw [leadsOf_of_step step, List.tail_cons]⟩
    · rwa [leadsOf_of_not_step step]

end Path

open ExactWord.Command.Path (leadsOf leadsOf_of_step leadsOf_of_not_step mem_leadsOf isStep isStep_ne)

def FileError.below : FileError → FileError
  | .alreadyExists => .notDirectory
  | cause => cause

namespace Tree

variable {t left : Tree} {segment : String} {outer segments : List String}

theorem enter_of_not_step (skipped : ¬ isStep segment outer = true) : t.enter (segment :: outer) = t.enter outer := by
  have blank : segment = "" ∨ segment = "." := by
    by_cases none : segment = ""
    · exact .inl none
    · by_cases dot : segment = "."
      · exact .inr dot
      · simp [isStep, none, dot] at skipped
  cases way : t.enter outer with
  | error cause => exact enter_of_error way
  | ok place => rw [enter_of_ok way, step_of_blank blank]

/-- The path leads to a place where no directory can be made: a file is there, or the name is too long for any entry. -/
inductive Stuck (t : Tree) : Path → FileError → Prop where
  | occupied {segment : String} {outer : List String} {place : Location} {text : String} (name : IsName segment)
      (short : nameFits segment = true) (way : t.enter outer = .ok place)
      (file : t.find? (segment :: place) = some (.file text)) : Stuck t ⟨segment :: outer⟩ .alreadyExists
  | overlong {segment : String} {outer : List String} {place : Location} (name : IsName segment)
      (long : nameFits segment = false) (way : t.enter outer = .ok place) : Stuck t ⟨segment :: outer⟩ .nameTooLong

inductive Attempt (t : Tree) (segment : String) (outer : List String) : Except FileError Tree → Prop where
  | present {place : Location} (way : t.enter (segment :: outer) = .ok place) : Attempt t segment outer (.ok t)
  | made {place : Location} (name : IsName segment) (short : nameFits segment = true) (way : t.enter outer = .ok place)
      (vacant : t.find? (segment :: place) = none) :
      Attempt t segment outer (.ok (t.put (segment :: place) .directory))
  | stuck {cause : FileError} (stops : Stuck t ⟨segment :: outer⟩ cause) : Attempt t segment outer (.error cause)
  | blocked {cause : FileError} (way : t.enter outer = .error cause) : Attempt t segment outer (.error cause)
  | refused (long : Path.isTooLong ⟨segment :: outer⟩ = true) : Attempt t segment outer (.error .nameTooLong)

theorem isDirectory_of_ok {place : Location} (short : Path.isTooLong ⟨segments⟩ = false)
    (way : t.enter segments = .ok place) : t.isDirectory ⟨segments⟩ = true := by
  simp [isDirectory, short, way, Except.isOk, Except.toBool]

theorem isDirectory_of_error {cause : FileError} (way : t.enter segments = .error cause) :
    t.isDirectory ⟨segments⟩ = false := by
  simp [isDirectory, way, Except.isOk, Except.toBool]

theorem ensureDirectory_of_makeDirectory {p : Path} {cause : FileError} (fails : t.makeDirectory p = .error cause) :
    t.ensureDirectory p = if t.isDirectory p then .ok t else .error cause := by
  simp [ensureDirectory, fails]

theorem makeDirectory_eq {place : Location} (short : Path.isTooLong ⟨segment :: outer⟩ = false)
    (nonempty : segment ≠ "") (way : t.enter outer = .ok place) :
    t.makeDirectory ⟨segment :: outer⟩ =
      if isDots segment then .error .alreadyExists
      else if nameFits segment then
        if t.find? (segment :: place) = none then .ok (t.put (segment :: place) .directory) else .error .alreadyExists
      else .error .nameTooLong := by
  cases found : t.find? (segment :: place) <;>
    simp [makeDirectory, short, makeAt, nonempty, way, found, bind, Except.bind]

theorem ensureDirectory_of_tooLong {p : Path} (long : p.isTooLong = true) :
    t.ensureDirectory p = .error .nameTooLong := by
  have fails : t.makeDirectory p = .error .nameTooLong := by simp [makeDirectory, long]
  rw [ensureDirectory_of_makeDirectory fails, if_neg (by simp [isDirectory, long])]

theorem ensureDirectory_of_blocked {cause : FileError} (short : Path.isTooLong ⟨segment :: outer⟩ = false)
    (nonempty : segment ≠ "") (way : t.enter outer = .error cause) :
    t.ensureDirectory ⟨segment :: outer⟩ = .error cause := by
  have fails : t.makeDirectory ⟨segment :: outer⟩ = .error cause := by
    simp [makeDirectory, short, makeAt, nonempty, way, bind, Except.bind]
  rw [ensureDirectory_of_makeDirectory fails, isDirectory_of_error (enter_of_error way)]
  rfl

theorem ensureDirectory_of_present {place : Location} (short : Path.isTooLong ⟨segment :: outer⟩ = false)
    (nonempty : segment ≠ "") (way : t.enter (segment :: outer) = .ok place) :
    t.ensureDirectory ⟨segment :: outer⟩ = .ok t := by
  obtain ⟨before, outerWay, moves⟩ := enter_cons_ok way
  have fails : t.makeDirectory ⟨segment :: outer⟩ = .error .alreadyExists := by
    rw [makeDirectory_eq short nonempty outerWay]
    rcases step_cases moves with ⟨rfl | rfl, -⟩ | ⟨rfl, -⟩ | ⟨name, fits, directory, -⟩
    · exact absurd rfl nonempty
    · rfl
    · rfl
    · simp [isDots_of_isName name, fits, directory]
  rw [ensureDirectory_of_makeDirectory fails, isDirectory_of_ok short way]
  rfl

theorem ensureDirectory_of_vacant {place : Location} (short : Path.isTooLong ⟨segment :: outer⟩ = false)
    (name : IsName segment) (fits : nameFits segment = true) (way : t.enter outer = .ok place)
    (vacant : t.find? (segment :: place) = none) :
    t.ensureDirectory ⟨segment :: outer⟩ = .ok (t.put (segment :: place) .directory) := by
  simp [ensureDirectory, makeDirectory_eq short name.1 way, isDots_of_isName name, fits, vacant]

theorem Stuck.enter {p : Path} {cause : FileError} (stuck : t.Stuck p cause) :
    t.enter p.segments = .error cause.below := by
  cases stuck with
  | occupied name short way file => exact (enter_of_ok way).trans (step_of_file name short file)
  | overlong name long way => exact (enter_of_ok way).trans (step_of_overlong name long)

theorem ensureDirectory_of_stuck {p : Path} {cause : FileError} (short : p.isTooLong = false)
    (stuck : t.Stuck p cause) : t.ensureDirectory p = .error cause := by
  have outside := isDirectory_of_error stuck.enter
  cases stuck with
  | occupied name fits way file =>
    have fails := makeDirectory_eq short name.1 way
    simp only [isDots_of_isName name, fits, file, Bool.false_eq_true, if_false, if_true, reduceCtorEq] at fails
    rw [ensureDirectory_of_makeDirectory fails, outside]
    rfl
  | overlong name long way =>
    have fails := makeDirectory_eq short name.1 way
    simp only [isDots_of_isName name, long, Bool.false_eq_true, if_false] at fails
    rw [ensureDirectory_of_makeDirectory fails, outside]
    rfl

theorem attempt_ensureDirectory (t : Tree) (nonempty : segment ≠ "") (outer : List String) :
    Attempt t segment outer (t.ensureDirectory ⟨segment :: outer⟩) := by
  cases long : Path.isTooLong ⟨segment :: outer⟩ with
  | true =>
    rw [ensureDirectory_of_tooLong long]
    exact .refused long
  | false =>
    cases whole : t.enter (segment :: outer) with
    | ok place =>
      rw [ensureDirectory_of_present long nonempty whole]
      exact .present whole
    | error reason =>
      cases way : t.enter outer with
      | error cause =>
        rw [ensureDirectory_of_blocked long nonempty way]
        exact .blocked way
      | ok place =>
        rcases step_error (enter_of_ok way ▸ whole) with
          ⟨name, fits, vacant⟩ | ⟨name, fits, text, file⟩ | ⟨name, overlong⟩
        · rw [ensureDirectory_of_vacant long name fits way vacant]
          exact .made name fits way vacant
        · have stuck := Stuck.occupied name fits way file
          rw [ensureDirectory_of_stuck long stuck]
          exact .stuck stuck
        · have stuck := Stuck.overlong name overlong way
          rw [ensureDirectory_of_stuck long stuck]
          exact .stuck stuck

/-- Nothing that stood in the tree changed, and what is new is a directory that one of the paths names. -/
structure GrownBy (t left : Tree) (leads : List Path) : Prop where
  kept : ∀ place entry, t.find? place = some entry → left.find? place = some entry
  named : ∀ place, t.find? place = none → left.find? place ≠ none →
    left.find? place = some .directory ∧ ∃ lead ∈ leads, left.locate lead.segments = .ok place

namespace GrownBy

variable {leads more : List Path} {later : Tree}

theorem refl (t : Tree) (leads : List Path) : GrownBy t t leads :=
  ⟨fun _ _ found => found, fun _ vacant taken => absurd vacant taken⟩

theorem mono (grown : GrownBy t left leads) (part : leads ⊆ more) : GrownBy t left more := by
  refine ⟨grown.kept, fun place vacant taken => ?_⟩
  obtain ⟨directory, lead, member, located⟩ := grown.named place vacant taken
  exact ⟨directory, lead, part member, located⟩

theorem keepsDirectories (grown : GrownBy t left leads) : KeepsDirectories t left :=
  fun place found => grown.kept place .directory found

theorem trans (first : GrownBy t left leads) (second : GrownBy left later leads) : GrownBy t later leads := by
  refine ⟨fun place entry found => second.kept place entry (first.kept place entry found), fun place vacant taken => ?_⟩
  by_cases midway : left.find? place = none
  · exact second.named place midway taken
  · obtain ⟨directory, lead, member, located⟩ := first.named place vacant midway
    exact ⟨second.kept place .directory directory, lead, member, locate_kept second.keepsDirectories located⟩

theorem file_iff (grown : GrownBy t left leads) (place : Location) (text : String) :
    left.find? place = some (.file text) ↔ t.find? place = some (.file text) := by
  refine ⟨fun found => ?_, grown.kept place _⟩
  cases before : t.find? place with
  | none =>
    have directory := (grown.named place before (by simp [found])).1
    rw [found] at directory
    cases directory
  | some entry => rw [← grown.kept place entry before, found]

end GrownBy

theorem Attempt.grown {made : Tree} (attempt : Attempt t segment outer (.ok made)) :
    GrownBy t made [⟨segment :: outer⟩] := by
  cases attempt with
  | present way => exact .refl t _
  | @made place name short way vacant =>
    have keeps : ∀ other entry, t.find? other = some entry →
        (t.put (segment :: place) .directory).find? other = some entry := by
      intro other entry found
      have different : other ≠ segment :: place := by
        rintro rfl
        rw [vacant] at found
        cases found
      rw [find?_put_of_ne _ different, found]
    refine ⟨keeps, fun other free taken => ?_⟩
    by_cases here : other = segment :: place
    · subst here
      refine ⟨find?_put_self t segment place .directory, _, List.mem_singleton_self _, ?_⟩
      exact locate_of_name name short (enter_kept (fun other found => keeps other .directory found) way)
    · rw [find?_put_of_ne _ here] at taken
      exact absurd free taken

theorem Attempt.entered {made : Tree} (attempt : Attempt t segment outer (.ok made)) :
    ∃ place, made.enter (segment :: outer) = .ok place := by
  have keeps := attempt.grown.keepsDirectories
  cases attempt with
  | @present place way => exact ⟨place, way⟩
  | @made place name short way vacant =>
    refine ⟨segment :: place, (enter_of_ok (enter_kept keeps way)).trans ?_⟩
    exact step_of_directory name short (find?_put_self t segment place .directory)

theorem makeDirectories_grown (t : Tree) (segments : List String) :
    GrownBy t (t.makeDirectories (leadsOf segments)).2 (leadsOf segments) := by
  induction segments with
  | nil => exact .refl t _
  | cons segment outer ih =>
    by_cases step : isStep segment outer = true
    · rw [leadsOf_of_step step]
      have ofPath : ∀ tree made, tree.ensureDirectory ⟨segment :: outer⟩ = .ok made →
          GrownBy tree made (⟨segment :: outer⟩ :: leadsOf outer) := by
        intro tree made ensures
        have attempt := attempt_ensureDirectory tree (isStep_ne step) outer
        rw [ensures] at attempt
        exact attempt.grown.mono (by simp)
      have ofOuter := ih.mono (List.subset_cons_self ⟨segment :: outer⟩ (leadsOf outer))
      unfold makeDirectories
      split
      · rename_i made ensures
        exact ofPath t made ensures
      · split
        · rename_i cause left outcome
          rwa [outcome] at ofOuter
        · rename_i left outcome
          rw [outcome] at ofOuter
          split
          · rename_i made ensures
            exact ofOuter.trans (ofPath left made ensures)
          · exact ofOuter
      · exact .refl t _
    · rwa [leadsOf_of_not_step step]

section Series

variable {p : Path} {leads : List Path} {cause : FileError}

theorem makeDirectories_of_ok {made : Tree} (ensures : t.ensureDirectory p = .ok made) (leads : List Path) :
    t.makeDirectories (p :: leads) = (.ok (), made) := by
  simp only [makeDirectories, ensures]

theorem makeDirectories_of_error (ensures : t.ensureDirectory p = .error cause) (other : cause ≠ .missing)
    (leads : List Path) : t.makeDirectories (p :: leads) = (.error cause, t) := by
  cases cause with
  | missing => exact absurd rfl other
  | alreadyExists => simp only [makeDirectories, ensures]
  | notDirectory => simp only [makeDirectories, ensures]
  | isDirectory => simp only [makeDirectories, ensures]
  | nameTooLong => simp only [makeDirectories, ensures]

theorem makeDirectories_of_missing (ensures : t.ensureDirectory p = .error .missing)
    (makes : t.makeDirectories leads = (.error cause, left)) :
    t.makeDirectories (p :: leads) = (.error cause, left) := by
  simp only [makeDirectories, ensures, makes]

theorem makeDirectories_of_made {made : Tree} (ensures : t.ensureDirectory p = .error .missing)
    (makes : t.makeDirectories leads = (.ok (), left)) (again : left.ensureDirectory p = .ok made) :
    t.makeDirectories (p :: leads) = (.ok (), made) := by
  simp only [makeDirectories, ensures, makes, again]

theorem makeDirectories_of_unmade (ensures : t.ensureDirectory p = .error .missing)
    (makes : t.makeDirectories leads = (.ok (), left)) (again : left.ensureDirectory p = .error cause) :
    t.makeDirectories (p :: leads) = (.error cause, left) := by
  simp only [makeDirectories, ensures, makes, again]

/-- How making the directories of all leading parts ends: they are all there, or one of them cannot be made although
the way to it is open, or the first attempt is refused and nothing was made. -/
inductive Series (t : Tree) (segments : List String) : Except FileError Unit × Tree → Prop where
  | reached {left : Tree} {place : Location} (short : ∀ lead ∈ leadsOf segments, lead.isTooLong = false)
      (way : left.enter segments = .ok place) : Series t segments (.ok (), left)
  | stuck {left : Tree} {lead : Path} {cause : FileError} (short : ∀ lead ∈ leadsOf segments, lead.isTooLong = false)
      (missing : t.enter segments = .error .missing) (member : lead ∈ leadsOf segments)
      (stops : left.Stuck lead cause) : Series t segments (.error cause, left)
  | refused {cause : FileError} : Series t segments (.error cause, t)

theorem Series.skip {result : Except FileError Unit × Tree} (skipped : ¬ isStep segment outer = true)
    (series : Series t outer result) : Series t (segment :: outer) result := by
  cases series with
  | reached short way =>
    rw [← leadsOf_of_not_step skipped] at short
    exact .reached short ((enter_of_not_step skipped).trans way)
  | stuck short missing member stops =>
    rw [← leadsOf_of_not_step skipped] at short member
    exact .stuck short ((enter_of_not_step skipped).trans missing) member stops
  | refused => exact .refused

theorem short_leads (short : Path.isTooLong ⟨segments⟩ = false) :
    ∀ lead ∈ leadsOf segments, lead.isTooLong = false := by
  intro lead member
  obtain ⟨name, outer, rfl, -, part⟩ := mem_leadsOf member
  exact Path.short_of_suffix part short

theorem Stuck.cause_ne_missing (stops : t.Stuck p cause) : cause ≠ .missing := by
  cases stops <;> nofun

theorem Series.of_outer {place : Location} (nonempty : segment ≠ "")
    (short : ∀ lead ∈ leadsOf (segment :: outer), lead.isTooLong = false)
    (member : ⟨segment :: outer⟩ ∈ leadsOf (segment :: outer)) (blocked : t.enter outer = .error .missing)
    (ensures : t.ensureDirectory ⟨segment :: outer⟩ = .error .missing)
    (makes : t.makeDirectories leads = (.ok (), left)) (way : left.enter outer = .ok place) :
    Series t (segment :: outer) (t.makeDirectories (⟨segment :: outer⟩ :: leads)) := by
  -- the attempt is made once more, now that the directories around it are there
  have attempt := attempt_ensureDirectory left nonempty outer
  cases again : left.ensureDirectory ⟨segment :: outer⟩ with
  | ok made =>
    rw [again] at attempt
    obtain ⟨inside, arrives⟩ := attempt.entered
    rw [makeDirectories_of_made ensures makes again]
    exact .reached short arrives
  | error cause =>
    rw [again] at attempt
    rw [makeDirectories_of_unmade ensures makes again]
    cases attempt with
    | stuck stops => exact .stuck short (enter_of_error blocked) member stops
    | blocked closed => rw [way] at closed; cases closed
    | refused long => rw [short _ member] at long; cases long

theorem Series.of_step {result : Except FileError Unit × Tree} (step : isStep segment outer = true)
    (long : Path.isTooLong ⟨segment :: outer⟩ = false) (makes : t.makeDirectories (leadsOf outer) = result)
    (series : Series t outer result) :
    Series t (segment :: outer) (t.makeDirectories (⟨segment :: outer⟩ :: leadsOf outer)) := by
  have short := short_leads long
  have member : ⟨segment :: outer⟩ ∈ leadsOf (segment :: outer) := by
    rw [leadsOf_of_step step]
    exact List.mem_cons_self
  have attempt := attempt_ensureDirectory t (isStep_ne step) outer
  cases ensures : t.ensureDirectory ⟨segment :: outer⟩ with
  | ok made =>
    rw [ensures] at attempt
    obtain ⟨place, way⟩ := attempt.entered
    rw [makeDirectories_of_ok ensures]
    exact .reached short way
  | error cause =>
    rw [ensures] at attempt
    by_cases missing : cause = .missing
    · subst missing
      cases attempt with
      | stuck stops => exact absurd rfl stops.cause_ne_missing
      | blocked blocked =>
        cases series with
        | reached _ way => exact .of_outer (isStep_ne step) short member blocked ensures makes way
        | stuck _ missing inner stops =>
          rw [makeDirectories_of_missing ensures makes]
          refine .stuck short (enter_of_error missing) ?_ stops
          rw [leadsOf_of_step step]
          exact List.mem_cons_of_mem _ inner
        | refused =>
          rw [makeDirectories_of_missing ensures makes]
          exact .refused
    · rw [makeDirectories_of_error ensures missing]
      exact .refused

theorem series_makeDirectories (t : Tree) (segments : List String) :
    Series t segments (t.makeDirectories (leadsOf segments)) := by
  induction segments with
  | nil => exact .reached nofun rfl
  | cons segment outer ih =>
    by_cases step : isStep segment outer = true
    · rw [leadsOf_of_step step]
      cases long : Path.isTooLong ⟨segment :: outer⟩ with
      | true =>
        rw [makeDirectories_of_error (ensureDirectory_of_tooLong long) nofun]
        exact .refused
      | false => exact .of_step step long rfl ih
    · rw [leadsOf_of_not_step step]
      exact ih.skip step

theorem enter_of_makeDirectories (makes : t.makeDirectories (leadsOf segments) = (.ok (), left)) :
    (∀ lead ∈ leadsOf segments, lead.isTooLong = false) ∧ ∃ place, left.enter segments = .ok place := by
  have series := series_makeDirectories t segments
  rw [makes] at series
  cases series with
  | reached short way => exact ⟨short, _, way⟩

end Series

/-- The path names a file or nothing, inside a directory that is there, so that a file can be written. -/
structure Writable (t : Tree) (p : Path) (place : Location) : Prop where
  short : p.isTooLong = false
  located : t.locate p.segments = .ok place
  free : t.find? place ≠ some .directory

theorem writeAt_of_slashed (t : Tree) (text : String) (segments : List String) :
    ∃ cause, t.writeAt text true segments = .error cause := by
  induction segments with
  | nil => exact ⟨.isDirectory, rfl⟩
  | cons segment outer ih =>
    by_cases none : segment = ""
    · simpa [writeAt, none] using ih
    · cases way : t.enter outer <;> simp [writeAt, none, way, bind, Except.bind]

theorem writeFile_of_writable {p : Path} {place : Location} (writable : t.Writable p place) (text : String) :
    t.writeFile p text = .ok (t.put place (.file text)) := by
  obtain ⟨segments⟩ := p
  obtain ⟨segment, outer, around, rfl, name, fits, way, rfl⟩ := name_of_locate writable.located writable.free
  have short := writable.short
  have free := writable.free
  cases found : t.find? (segment :: around) with
  | none => simp [writeFile, short, writeAt, name.1, way, isDots_of_isName name, fits, found, bind, Except.bind]
  | some entry =>
    cases entry with
    | directory => exact absurd found free
    | file old => simp [writeFile, short, writeAt, name.1, way, isDots_of_isName name, fits, found, bind, Except.bind]

theorem writable_of_writeFile {p : Path} {text : String} {written : Tree} (writes : t.writeFile p text = .ok written) :
    ∃ place, t.Writable p place ∧ written = t.put place (.file text) := by
  obtain ⟨segments⟩ := p
  cases short : Path.isTooLong ⟨segments⟩ with
  | true => simp [writeFile, short] at writes
  | false =>
    simp only [writeFile, short, Bool.false_eq_true, if_false] at writes
    cases segments with
    | nil => cases writes
    | cons segment outer =>
      by_cases none : segment = ""
      · obtain ⟨cause, fails⟩ := t.writeAt_of_slashed text outer
        simp [writeAt, none, fails] at writes
      · cases way : t.enter outer with
        | error cause => simp [writeAt, none, way, bind, Except.bind] at writes
        | ok around =>
          cases dots : isDots segment with
          | true => simp [writeAt, none, way, dots, bind, Except.bind] at writes
          | false =>
            have name := isName_of_not_dots none dots
            cases fits : nameFits segment with
            | false => simp [writeAt, none, way, dots, fits, bind, Except.bind] at writes
            | true =>
              have located := locate_of_name name fits way
              by_cases free : t.find? (segment :: around) = some .directory
              · simp [writeAt, none, way, dots, fits, free, bind, Except.bind] at writes
              · have writable : t.Writable ⟨segment :: outer⟩ (segment :: around) := ⟨short, located, free⟩
                have again := writeFile_of_writable writable text
                simp only [writeFile, short, Bool.false_eq_true, if_false, writes] at again
                exact ⟨segment :: around, writable, Except.ok.inj again⟩

theorem Writable.place_cons {p : Path} {place : Location} (writable : t.Writable p place) :
    ∃ name around, place = name :: around := by
  obtain ⟨name, outer, around, -, -, -, -, same⟩ := name_of_locate writable.located writable.free
  exact ⟨name, around, same⟩

theorem Writable.writeFile_again {p : Path} {place : Location} (writable : t.Writable p place) (text : String) :
    (t.put place (.file text)).writeFile p text = .ok (t.put place (.file text)) := by
  obtain ⟨name, around, rfl⟩ := writable.place_cons
  have found := find?_put_self t name around (.file text)
  have again : (t.put (name :: around) (.file text)).Writable p (name :: around) :=
    ⟨writable.short, locate_kept (.put_file text writable.free) writable.located, by simp [found]⟩
  rw [writeFile_of_writable again, put_of_find? found]

end Tree

end ExactWord.Command
