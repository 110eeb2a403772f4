import ExactWord.Command.Tree

namespace ExactWord.Command

/-- The segment names an entry of a directory, not the directory itself or the one around it. -/
def IsName (segment : String) : Prop := segment ≠ "" ∧ segment ≠ "." ∧ segment ≠ ".."

theorem isDots_of_isName {segment : String} (name : IsName segment) : isDots segment = false := by
  simp [isDots, name.2.1, name.2.2]

theorem isName_of_not_dots {segment : String} (nonempty : segment ≠ "") (other : isDots segment = false) :
    IsName segment := by
  simp only [isDots, Bool.or_eq_false_iff, beq_eq_false_iff_ne] at other
  exact ⟨nonempty, other.1, other.2⟩

namespace Tree

variable {t later : Tree} {place : Location} {segment : String} {outer segments : List String}

theorem lookup_putEntry (place other : Location) (entry : Entry) (entries : List (Location × Entry)) :
    (putEntry place entry entries).lookup other = if other = place then some entry else entries.lookup other := by
  induction entries with
  | nil =>
    by_cases same : other = place
    · simp [putEntry, same]
    · simp [putEntry, List.lookup_cons, same, beq_false_of_ne same]
  | cons first rest ih =>
    obtain ⟨key, old⟩ := first
    by_cases here : key = place
    · subst here
      by_cases same : other = key
      · simp [putEntry, same]
      · simp [putEntry, List.lookup_cons, same, beq_false_of_ne same]
    · by_cases same : other = key
      · subst same
        simp [putEntry, here]
      · simp [putEntry, List.lookup_cons, here, beq_false_of_ne same, ih]

theorem find?_put_self (t : Tree) (name : String) (place : Location) (entry : Entry) :
    (t.put (name :: place) entry).find? (name :: place) = some entry := by
  simp [find?, put, lookup_putEntry]

theorem find?_put_of_ne {other : Location} (entry : Entry) (different : other ≠ place) :
    (t.put place entry).find? other = t.find? other := by
  cases other with
  | nil => rfl
  | cons name rest => simp [find?, put, lookup_putEntry, different]

theorem putEntry_of_lookup {entry : Entry} {entries : List (Location × Entry)}
    (found : entries.lookup place = some entry) : putEntry place entry entries = entries := by
  induction entries with
  | nil => simp at found
  | cons first rest ih =>
    obtain ⟨key, old⟩ := first
    by_cases here : key = place
    · simp only [here, List.lookup_cons_self, Option.some.injEq] at found
      simp [putEntry, here, found]
    · rw [List.lookup_cons, beq_false_of_ne (Ne.symm here)] at found
      simp [putEntry, here, ih found]

theorem put_of_find? {name : String} {entry : Entry} (found : t.find? (name :: place) = some entry) :
    t.put (name :: place) entry = t := by
  rw [put, putEntry_of_lookup found]

def KeepsDirectories (t later : Tree) : Prop :=
  ∀ place, t.find? place = some .directory → later.find? place = some .directory

theorem KeepsDirectories.put_file (text : String) (free : t.find? place ≠ some .directory) :
    KeepsDirectories t (t.put place (.file text)) := by
  intro other directory
  have different : other ≠ place := by
    rintro rfl
    exact free directory
  rw [find?_put_of_ne _ different, directory]

theorem step_of_directory (name : IsName segment) (short : nameFits segment = true)
    (found : t.find? (segment :: place) = some .directory) : t.step place segment = .ok (segment :: place) := by
  simp [step, name.1, name.2.1, name.2.2, short, found]

theorem step_of_file {text : String} (name : IsName segment) (short : nameFits segment = true)
    (found : t.find? (segment :: place) = some (.file text)) : t.step place segment = .error .notDirectory := by
  simp [step, name.1, name.2.1, name.2.2, short, found]

theorem step_of_overlong (name : IsName segment) (long : nameFits segment = false) :
    t.step place segment = .error .nameTooLong := by
  simp [step, name.1, name.2.1, name.2.2, long]

theorem step_of_vacant (name : IsName segment) (short : nameFits segment = true)
    (vacant : t.find? (segment :: place) = none) : t.step place segment = .error .missing := by
  simp [step, name.1, name.2.1, name.2.2, short, vacant]

theorem step_of_blank (blank : segment = "" ∨ segment = ".") : t.step place segment = .ok place :=
  if_pos blank

theorem step_cases {next : Location} (moves : t.step place segment = .ok next) :
    ((segment = "" ∨ segment = ".") ∧ next = place) ∨ (segment = ".." ∧ next = place.tail) ∨
      (IsName segment ∧ nameFits segment = true ∧ t.find? (segment :: place) = some .directory ∧
        next = segment :: place) := by
  unfold step at moves
  split at moves
  · rename_i blank
    cases moves
    exact .inl ⟨blank, rfl⟩
  · rename_i visible
    split at moves
    · rename_i up
      cases moves
      exact .inr (.inl ⟨up, rfl⟩)
    · rename_i down
      have name : IsName segment := ⟨fun none => visible (.inl none), fun dot => visible (.inr dot), down⟩
      split at moves
      · rename_i short
        split at moves
        · rename_i directory
          cases moves
          exact .inr (.inr ⟨name, short, directory, rfl⟩)
        · cases moves
        · cases moves
      · cases moves

theorem step_error {cause : FileError} (fails : t.step place segment = .error cause) :
    (IsName segment ∧ nameFits segment = true ∧ t.find? (segment :: place) = none) ∨
      (IsName segment ∧ nameFits segment = true ∧ ∃ text, t.find? (segment :: place) = some (.file text)) ∨
      (IsName segment ∧ nameFits segment = false) := by
  have name : IsName segment := by
    refine ⟨?_, ?_, ?_⟩ <;> rintro rfl <;> cases fails
  cases short : nameFits segment with
  | false => exact .inr (.inr ⟨name, rfl⟩)
  | true =>
    cases found : t.find? (segment :: place) with
    | none => exact .inl ⟨name, rfl, rfl⟩
    | some entry =>
      cases entry with
      | directory => rw [step_of_directory name short found] at fails; cases fails
      | file text => exact .inr (.inl ⟨name, rfl, text, rfl⟩)

theorem step_kept {next : Location} (keeps : KeepsDirectories t later) (moves : t.step place segment = .ok next) :
    later.step place segment = .ok next := by
  rcases step_cases moves with ⟨blank, rfl⟩ | ⟨rfl, rfl⟩ | ⟨name, short, directory, rfl⟩
  · exact step_of_blank blank
  · rfl
  · exact step_of_directory name short (keeps _ directory)

theorem enter_of_ok (way : t.enter outer = .ok place) : t.enter (segment :: outer) = t.step place segment := by
  rw [enter, way]
  rfl

theorem enter_of_error {cause : FileError} (blocked : t.enter outer = .error cause) :
    t.enter (segment :: outer) = .error cause := by
  rw [enter, blocked]
  rfl

theorem enter_cons_ok {next : Location} (way : t.enter (segment :: outer) = .ok next) :
    ∃ place, t.enter outer = .ok place ∧ t.step place segment = .ok next := by
  cases before : t.enter outer with
  | error cause => rw [enter_of_error before] at way; cases way
  | ok place => exact ⟨place, rfl, by rwa [enter_of_ok before] at way⟩

theorem length_of_enter (way : t.enter segments = .ok place) : place.length ≤ segments.length := by
  induction segments generalizing place with
  | nil =>
    cases way
    exact Nat.le_refl _
  | cons segment outer ih =>
    obtain ⟨before, reached, moves⟩ := enter_cons_ok way
    have bound := ih reached
    rcases step_cases moves with ⟨-, rfl⟩ | ⟨-, rfl⟩ | ⟨-, -, -, rfl⟩ <;> simp <;> omega

theorem enter_kept (keeps : KeepsDirectories t later) (way : t.enter segments = .ok place) :
    later.enter segments = .ok place := by
  induction segments generalizing place with
  | nil => exact way
  | cons segment outer ih =>
    obtain ⟨before, reached, moves⟩ := enter_cons_ok way
    rw [enter_of_ok (ih reached)]
    exact step_kept keeps moves

theorem find?_of_enter {around : Location} (way : t.enter segments = .ok place) (part : around <:+ place) :
    t.find? around = some .directory := by
  induction segments generalizing place with
  | nil =>
    cases way
    rw [List.suffix_nil.mp part]
    rfl
  | cons segment outer ih =>
    obtain ⟨before, reached, moves⟩ := enter_cons_ok way
    rcases step_cases moves with ⟨-, rfl⟩ | ⟨-, rfl⟩ | ⟨-, -, directory, rfl⟩
    · exact ih reached part
    · -- going up leads to a place around the last one, hence the statement for all of them
      exact ih reached (part.trans (List.tail_suffix before))
    · rcases List.suffix_cons_iff.mp part with rfl | inside
      · exact directory
      · exact ih reached inside

theorem enter_of_error_suffix {cause : FileError} (blocked : t.enter outer = .error cause)
    (part : outer <:+ segments) : t.enter segments = .error cause := by
  obtain ⟨inner, rfl⟩ := part
  induction inner with
  | nil => exact blocked
  | cons segment rest ih => exact enter_of_error ih

def locate (t : Tree) : List String → Except FileError Location
  | [] => .ok []
  | segment :: outer => do
    let place ← t.enter outer
    if segment = "" ∨ segment = "." then return place
    else if segment = ".." then return place.tail
    else if nameFits segment then return segment :: place
    else throw .nameTooLong

theorem locate_of_name (name : IsName segment) (short : nameFits segment = true) (way : t.enter outer = .ok place) :
    t.locate (segment :: outer) = .ok (segment :: place) := by
  rw [locate, way]
  simp [bind, Except.bind, name.1, name.2.1, name.2.2, short]
  rfl

theorem locate_cons_ok {located : Location} (names : t.locate (segment :: outer) = .ok located) :
    ∃ place, t.enter outer = .ok place ∧
      (located <:+ place ∨ (IsName segment ∧ nameFits segment = true ∧ located = segment :: place)) := by
  cases way : t.enter outer with
  | error cause => rw [locate, way] at names; cases names
  | ok place =>
    refine ⟨place, rfl, ?_⟩
    simp only [locate, way, bind, Except.bind] at names
    split at names
    · cases names
      exact .inl (List.suffix_refl _)
    · rename_i visible
      split at names
      · cases names
        exact .inl (List.tail_suffix place)
      · rename_i down
        split at names
        · rename_i short
          cases names
          exact .inr ⟨⟨fun none => visible (.inl none), fun dot => visible (.inr dot), down⟩, short, rfl⟩
        · cases names

theorem length_of_locate {located : Location} (names : t.locate segments = .ok located) :
    located.length ≤ segments.length := by
  cases segments with
  | nil =>
    cases names
    exact Nat.le_refl _
  | cons segment outer =>
    obtain ⟨place, way, part | ⟨-, -, rfl⟩⟩ := locate_cons_ok names
    · have inside := part.length_le
      have bound := length_of_enter way
      simp
      omega
    · exact Nat.succ_le_succ (length_of_enter way)

/-- Only the last segment of a path can lead to something that is no directory, and then it is a name. -/
theorem name_of_locate {located : Location} (names : t.locate segments = .ok located)
    (other : t.find? located ≠ some .directory) :
    ∃ segment outer place, segments = segment :: outer ∧ IsName segment ∧ nameFits segment = true ∧
      t.enter outer = .ok place ∧ located = segment :: place := by
  cases segments with
  | nil =>
    cases names
    exact absurd rfl other
  | cons segment outer =>
    obtain ⟨place, way, passed | ⟨name, short, same⟩⟩ := locate_cons_ok names
    · exact absurd (find?_of_enter way passed) other
    · exact ⟨segment, outer, place, rfl, name, short, way, same⟩

theorem locate_kept (keeps : KeepsDirectories t later) {located : Location} (names : t.locate segments = .ok located) :
    later.locate segments = .ok located := by
  cases segments with
  | nil => exact names
  | cons segment outer =>
    obtain ⟨place, way, -⟩ := locate_cons_ok names
    rw [locate, way] at names
    rw [locate, enter_kept keeps way]
    exact names

end Tree

end ExactWord.Command
