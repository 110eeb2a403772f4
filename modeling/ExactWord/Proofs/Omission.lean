import ExactWord.Command.Arguments

namespace ExactWord.Command

def outputInCluster : List Char → Option (List Char × Bool)
  | [] => none
  | letter :: rest =>
    match OptionName.ofShort? letter with
    | some (.valued .output) => some ([], rest.isEmpty)
    | some (.flag _) => (outputInCluster rest).map fun (kept, apart) => (letter :: kept, apart)
    | _ => none

/-- What is left of an argument without the output option, and whether the value of that option stands apart. -/
def outputIn (argument : String) : Option (List String × Bool) :=
  match argument.toList with
  | ['-', '-'] => none
  | '-' :: '-' :: body =>
    if OptionName.ofLong? (String.ofList (body.takeWhile (· != '='))) = some (.valued .output) then
      some ([], (body.dropWhile (· != '=')).isEmpty)
    else
      none
  | '-' :: letter :: rest =>
    (outputInCluster (letter :: rest)).map fun (kept, apart) =>
      (if kept.isEmpty then [] else [String.ofList ('-' :: kept)], apart)
  | _ => none

def withoutOutput : List String → List String
  | [] => []
  | argument :: rest =>
    match outputIn argument, rest with
    | none, rest => argument :: withoutOutput rest
    | some (kept, false), rest => kept ++ withoutOutput rest
    | some (kept, true), [] => kept
    | some (kept, true), _ :: later => kept ++ withoutOutput later

theorem withoutOutput_of_absent {argument : String} (absent : outputIn argument = none) (rest : List String) :
    withoutOutput (argument :: rest) = argument :: withoutOutput rest := by
  rw [withoutOutput.eq_def]
  simp only [absent]

theorem withoutOutput_of_attached {argument : String} {kept : List String}
    (found : outputIn argument = some (kept, false)) (rest : List String) :
    withoutOutput (argument :: rest) = kept ++ withoutOutput rest := by
  rw [withoutOutput.eq_def]
  simp only [found]

theorem withoutOutput_of_apart {argument : String} {kept : List String} (found : outputIn argument = some (kept, true))
    (value : String) (rest : List String) :
    withoutOutput (argument :: value :: rest) = kept ++ withoutOutput rest := by
  rw [withoutOutput.eq_def]
  simp only [found]

theorem outputIn_of_long {argument : String} {body : List Char} (text : argument.toList = '-' :: '-' :: body)
    (more : body ≠ []) :
    outputIn argument =
      if OptionName.ofLong? (String.ofList (body.takeWhile (· != '='))) = some (.valued .output) then
        some ([], (body.dropWhile (· != '=')).isEmpty)
      else none := by
  cases body with
  | nil => exact absurd rfl more
  | cons c rest => simp only [outputIn, text]

theorem outputIn_of_cluster {argument : String} {letter : Char} {rest : List Char}
    (text : argument.toList = '-' :: letter :: rest) (single : letter ≠ '-') :
    outputIn argument = (outputInCluster (letter :: rest)).map fun (kept, apart) =>
      (if kept.isEmpty then [] else [String.ofList ('-' :: kept)], apart) := by
  simp [outputIn, text, single]

theorem outputInCluster_head {letter : Char} {rest kept : List Char} {apart : Bool}
    (found : outputInCluster (letter :: rest) = some (kept, apart)) : kept = [] ∨ ∃ inner, kept = letter :: inner := by
  unfold outputInCluster at found
  split at found
  · cases found
    exact .inl rfl
  · obtain ⟨⟨inner, _⟩, -, same⟩ := Option.map_eq_some_iff.mp found
    cases same
    exact .inr ⟨inner, rfl⟩
  · cases found

def Dashed (argument : String) : Prop := ∃ c rest, argument.toList = '-' :: c :: rest

theorem ok_of_bind {α β : Type} {first : Except Stop α} {next : α → Except Stop β} {b : β}
    (returns : (first >>= next) = .ok b) : ∃ a, first = .ok a ∧ next a = .ok b := by
  cases first with
  | error stop => cases returns
  | ok a => exact ⟨a, rfl, returns⟩

namespace Draft

def erase (d : Draft) : Draft := { d with output := none }

theorem raise_erase {d raised : Draft} {f : Flag} (raises : d.raise f = .ok raised) :
    d.erase.raise f = .ok raised.erase := by
  cases f with
  | noHelpers =>
    simp only [raise, erase] at raises ⊢
    split at raises
    · cases raises
    · rename_i unset
      cases raises
      simp [unset]
  | verbose =>
    simp only [raise, erase] at raises ⊢
    split at raises
    · cases raises
    · rename_i unset
      cases raises
      simp [unset]
  | help => cases raises
  | version => cases raises

theorem set_guard_erase {d given : Draft} {value : String} (sets : d.set value .guard = .ok given) :
    d.erase.set value .guard = .ok given.erase := by
  simp only [set, erase] at sets ⊢
  split at sets
  · cases sets
  · rename_i unset
    cases sets
    simp [unset]

theorem erase_of_set_output {d given : Draft} {value : String} (sets : d.set value .output = .ok given) :
    given.erase = d.erase := by
  simp only [set] at sets
  split at sets
  · cases sets
  · split at sets
    · cases sets
    · cases sets
      rfl

end Draft

namespace Reading

variable {r follower s : Reading}

def erase (r : Reading) : Reading := { r with draft := r.draft.erase }

theorem settle_ok (settles : r.settle = .ok s) : s.pending = none ∧ s.optionsEnded = r.optionsEnded := by
  unfold settle at settles
  split at settles
  · rename_i settled
    cases settles
    exact ⟨settled, rfl⟩
  · cases settles
  · obtain ⟨draft, -, same⟩ := ok_of_bind settles
    cases same
    exact ⟨rfl, rfl⟩

/-- One reading follows another without its output option. It may still have an option to settle that the other one
settled when it met the output option. -/
structure Follows (r follower : Reading) : Prop where
  ended : follower.optionsEnded = r.optionsEnded
  settles : ∀ s, r.settle = .ok s → follower.settle = .ok s.erase
  awaits : ∀ option, r.pending = some ⟨option, none⟩ → option = .guard ∧ follower = r.erase

theorem follows_erase (other : ∀ value, r.pending ≠ some ⟨.output, value⟩) : Follows r r.erase where
  ended := rfl
  settles := by
    intro s settles
    obtain ⟨draft, pending, optionsEnded⟩ := r
    cases pending with
    | none =>
      cases settles
      rfl
    | some pending =>
      obtain ⟨option, value⟩ := pending
      cases option with
      | output => exact absurd rfl (other value)
      | guard =>
        cases value with
        | none => cases settles
        | some value =>
          obtain ⟨given, sets, same⟩ := ok_of_bind settles
          cases same
          simp only [settle, erase, Draft.set_guard_erase sets, bind, Except.bind]
          rfl
  awaits := by
    intro option awaited
    cases option with
    | output => exact absurd awaited (other none)
    | guard => exact ⟨rfl, rfl⟩

theorem follows_settled {draft : Draft} {ended : Bool} (settles : follower.settle = .ok ⟨draft.erase, none, ended⟩) :
    Follows ⟨draft, none, ended⟩ follower where
  ended := (settle_ok settles).2.symm
  settles := by
    intro s same
    cases same
    exact settles
  awaits := nofun

theorem follows_given {draft : Draft} {ended : Bool} (settles : follower.settle = .ok ⟨draft.erase, none, ended⟩)
    (value : String) : Follows ⟨draft, some ⟨.output, some value⟩, ended⟩ follower where
  ended := (settle_ok settles).2.symm
  settles := by
    intro s same
    obtain ⟨given, sets, same⟩ := ok_of_bind same
    cases same
    rw [settles, erase, Draft.erase_of_set_output sets]
  awaits := nofun

theorem settle_endOptions (r : Reading) :
    settle { r with optionsEnded := true } = r.settle.map fun s => { s with optionsEnded := true } := by
  obtain ⟨draft, pending, ended⟩ := r
  cases pending with
  | none => rfl
  | some pending =>
    obtain ⟨option, value⟩ := pending
    cases value with
    | none => rfl
    | some value =>
      simp only [settle]
      cases draft.set value option <;> rfl

theorem Follows.endOptions (follows : Follows r follower) :
    Follows { r with optionsEnded := true } { follower with optionsEnded := true } where
  ended := rfl
  settles := by
    intro s settled
    rw [settle_endOptions] at settled ⊢
    cases before : r.settle with
    | error stop => rw [before] at settled; cases settled
    | ok earlier =>
      rw [before] at settled
      cases settled
      rw [follows.settles earlier before]
      rfl
  awaits := by
    intro option awaiting
    obtain ⟨same, rfl⟩ := follows.awaits option awaiting
    exact ⟨same, rfl⟩

theorem Follows.flag {f : Flag} (follows : Follows r follower) (reads : r.flag f = .ok s) :
    ∃ next, follower.flag f = .ok next ∧ Follows s next := by
  obtain ⟨settled, settles, rest⟩ := ok_of_bind reads
  obtain ⟨draft, raises, same⟩ := ok_of_bind rest
  cases same
  refine ⟨erase { settled with draft := draft }, ?_, follows_erase ?_⟩
  · rw [Reading.flag, follows.settles settled settles]
    simp only [bind, Except.bind, erase, Draft.raise_erase raises]
    rfl
  · simp [(settle_ok settles).1]

theorem Follows.attach_guard {value : List Char} (follows : Follows r follower)
    (reads : r.attach .guard value = .ok s) : ∃ next, follower.attach .guard value = .ok next ∧ Follows s next := by
  obtain ⟨settled, settles, rest⟩ := ok_of_bind reads
  obtain ⟨draft, sets, same⟩ := ok_of_bind rest
  cases same
  refine ⟨erase { settled with draft := draft }, ?_, follows_erase ?_⟩
  · rw [attach, follows.settles settled settles]
    simp only [bind, Except.bind, erase, Draft.set_guard_erase sets]
    rfl
  · simp [(settle_ok settles).1]

theorem Follows.await_guard (follows : Follows r follower) (reads : r.await .guard = .ok s) :
    ∃ next, follower.await .guard = .ok next ∧ Follows s next := by
  obtain ⟨settled, settles, same⟩ := ok_of_bind reads
  cases same
  refine ⟨erase { settled with pending := some ⟨.guard, none⟩ }, ?_, follows_erase (by simp)⟩
  rw [await, follows.settles settled settles]
  rfl

theorem Follows.attach_output {value : List Char} (follows : Follows r follower)
    (reads : r.attach .output value = .ok s) : Follows s follower := by
  obtain ⟨settled, settles, rest⟩ := ok_of_bind reads
  obtain ⟨draft, sets, same⟩ := ok_of_bind rest
  have later := follows.settles settled settles
  obtain ⟨before, pending, ended⟩ := settled
  cases (settle_ok settles).1
  cases same
  rw [erase, ← Draft.erase_of_set_output sets] at later
  exact follows_settled later

theorem settle_of_awaiting {option : Valued} (awaiting : r.pending = some ⟨option, none⟩) :
    r.settle = .error (.usage (.valueRequired option)) := by
  simp [settle, awaiting]

theorem argument_of_value (going : r.optionsEnded = false) {value : String} (undashed : ¬ Dashed value) :
    r.argument value = r.plain value := by
  unfold Reading.argument
  rw [if_neg (by simp [going])]
  split
  · rename_i text
    exact absurd ⟨_, _, text⟩ undashed
  · rename_i text
    exact absurd ⟨_, _, text⟩ undashed
  · rename_i text
    exact absurd ⟨_, _, text⟩ undashed
  · rfl

theorem argument_of_dashed {option : Valued} {argument : String} (awaiting : r.pending = some ⟨option, none⟩)
    (dashed : Dashed argument) :
    (∃ error, r.argument argument = .error (.usage error)) ∨
      r.argument argument = .ok { r with optionsEnded := true } := by
  -- every option settles the one before it first
  have refused : ∀ {α} (next : Reading → Except Stop α), ∃ error, (r.settle >>= next) = .error (.usage error) := by
    intro α next
    rw [settle_of_awaiting awaiting]
    exact ⟨_, rfl⟩
  unfold Reading.argument
  split
  · exact .inl ⟨_, rfl⟩
  · split
    · exact .inr rfl
    · refine .inl ?_
      simp only [long]
      split
      · exact ⟨_, rfl⟩
      · exact refused _
      · exact ⟨_, rfl⟩
      · exact refused _
      · exact refused _
    · refine .inl ?_
      simp only [cluster]
      split
      · exact ⟨_, rfl⟩
      · simp only [Reading.flag, bind_assoc]
        exact refused _
      · split
        · exact refused _
        · exact refused _
        · exact refused _
    · rename_i noCluster
      obtain ⟨c, rest, text⟩ := dashed
      exact absurd text (noCluster c rest)

theorem argument_of_awaiting {option : Valued} {argument : String} (awaiting : r.pending = some ⟨option, none⟩)
    (reads : r.argument argument = .ok s) :
    s = { r with pending := some ⟨option, some argument⟩ } ∨ s = { r with optionsEnded := true } := by
  by_cases dashed : Dashed argument
  · rcases argument_of_dashed awaiting dashed with ⟨error, refused⟩ | ended
    · rw [refused] at reads
      cases reads
    · rw [ended] at reads
      cases reads
      exact .inr rfl
  · by_cases ended : r.optionsEnded = true
    · simp [Reading.argument, ended, unexpected] at reads
    · rw [argument_of_value (Bool.eq_false_iff.mpr ended) dashed] at reads
      simp only [plain, awaiting] at reads
      cases reads
      exact .inl rfl

theorem Follows.plain {argument : String} (follows : Follows r follower) (reads : r.plain argument = .ok s) :
    ∃ next, follower.plain argument = .ok next ∧ Follows s next := by
  unfold Reading.plain at reads
  split at reads
  · rename_i option awaiting
    obtain ⟨rfl, rfl⟩ := follows.awaits option awaiting
    cases reads
    refine ⟨erase { r with pending := some ⟨.guard, some argument⟩ }, ?_, follows_erase (by simp)⟩
    simp [Reading.plain, erase, awaiting]
  · cases reads

theorem Follows.long {body : List Char} (follows : Follows r follower)
    (other : OptionName.ofLong? (String.ofList (body.takeWhile (· != '='))) ≠ some (.valued .output))
    (reads : r.long body = .ok s) : ∃ next, follower.long body = .ok next ∧ Follows s next := by
  simp only [Reading.long] at reads ⊢
  split at reads
  · cases reads
  · exact follows.flag reads
  · cases reads
  · rename_i option named _
    cases option with
    | output => exact absurd named other
    | guard => exact follows.await_guard reads
  · rename_i option _ _ named _
    cases option with
    | output => exact absurd named other
    | guard => exact follows.attach_guard reads

theorem Follows.cluster {letters : List Char} (follows : Follows r follower) (other : outputInCluster letters = none)
    (reads : r.cluster letters = .ok s) : ∃ next, follower.cluster letters = .ok next ∧ Follows s next := by
  induction letters generalizing r follower with
  | nil =>
    cases reads
    exact ⟨follower, rfl, follows⟩
  | cons letter rest ih =>
    simp only [Reading.cluster, outputInCluster] at reads other ⊢
    cases known : OptionName.ofShort? letter with
    | none => simp [known, unexpected] at reads
    | some name =>
      cases name with
      | flag f =>
        simp only [known, Option.map_eq_none_iff] at reads other ⊢
        obtain ⟨middle, raises, more⟩ := ok_of_bind reads
        obtain ⟨next, raised, follows⟩ := follows.flag raises
        rw [raised]
        exact ih follows other more
      | valued option =>
        cases option with
        | output => simp [known] at other
        | guard =>
          simp only [known] at reads ⊢
          split at reads
          · exact follows.await_guard reads
          · exact follows.attach_guard reads
          · exact follows.attach_guard reads

inductive ReadsOutput (r s : Reading) : Bool → Prop where
  | attached {value : List Char} (reads : r.attach .output value = .ok s) : ReadsOutput r s false
  | apart (reads : r.await .output = .ok s) : ReadsOutput r s true

theorem Follows.cluster_output {letters kept : List Char} {apart : Bool} (follows : Follows r follower)
    (found : outputInCluster letters = some (kept, apart)) (reads : r.cluster letters = .ok s) :
    ∃ middle next, follower.cluster kept = .ok next ∧ Follows middle next ∧ ReadsOutput middle s apart := by
  induction letters generalizing r follower kept with
  | nil => cases found
  | cons letter rest ih =>
    simp only [Reading.cluster, outputInCluster] at reads found
    cases known : OptionName.ofShort? letter with
    | none => simp [known] at found
    | some name =>
      cases name with
      | flag f =>
        simp only [known, Option.map_eq_some_iff] at reads found
        obtain ⟨⟨inner, _⟩, found, same⟩ := found
        cases same
        obtain ⟨raised, raises, more⟩ := ok_of_bind reads
        obtain ⟨next, raisesNext, follows⟩ := follows.flag raises
        obtain ⟨middle, last, readsKept, follows, output⟩ := ih follows found more
        refine ⟨middle, last, ?_, follows, output⟩
        simp only [Reading.cluster, known, raisesNext]
        exact readsKept
      | valued option =>
        cases option with
        | guard => simp [known] at found
        | output =>
          simp only [known, Option.some.injEq, Prod.mk.injEq] at reads found
          obtain ⟨rfl, rfl⟩ := found
          refine ⟨r, follower, rfl, follows, ?_⟩
          split at reads
          · exact .apart reads
          · exact .attached reads
          · rename_i nonempty _
            rw [List.isEmpty_eq_false_iff.mpr nonempty]
            exact .attached reads

theorem Follows.argument {argument : String} (follows : Follows r follower) (other : outputIn argument = none)
    (reads : r.argument argument = .ok s) : ∃ next, follower.argument argument = .ok next ∧ Follows s next := by
  simp only [Reading.argument, follows.ended] at reads ⊢
  split at reads
  · cases reads
  · rename_i going
    rw [if_neg going]
    split at reads
    · cases reads
      exact ⟨_, rfl, follows.endOptions⟩
    · rename_i body more text
      rw [outputIn_of_long text more] at other
      refine follows.long ?_ reads
      intro named
      simp [named] at other
    · rename_i letter rest _ single text
      rw [outputIn_of_cluster text single, Option.map_eq_none_iff] at other
      exact follows.cluster other reads
    · exact follows.plain reads

theorem argument_of_cluster {letter : Char} (going : r.optionsEnded = false) (single : letter ≠ '-')
    (rest : List Char) : r.argument (String.ofList ('-' :: letter :: rest)) = r.cluster (letter :: rest) := by
  simp [Reading.argument, going, single]

theorem Follows.argument_output {argument : String} {kept : List String} {apart : Bool} (follows : Follows r follower)
    (found : outputIn argument = some (kept, apart)) (reads : r.argument argument = .ok s) :
    ∃ middle next, kept.foldlM Reading.argument follower = .ok next ∧ Follows middle next ∧
      ReadsOutput middle s apart := by
  simp only [Reading.argument] at reads
  split at reads
  · cases reads
  · rename_i going
    split at reads
    · rename_i text
      simp [outputIn, text] at found
    · rename_i body more text
      rw [outputIn_of_long text more] at found
      split at found
      · rename_i named
        cases found
        refine ⟨r, follower, rfl, follows, ?_⟩
        cases given : body.dropWhile (· != '=') with
        | nil =>
          simp only [Reading.long, named, given] at reads
          exact .apart reads
        | cons sign value =>
          simp only [Reading.long, named, given] at reads
          exact .attached reads
      · cases found
    · rename_i letter rest _ single text
      rw [outputIn_of_cluster text single, Option.map_eq_some_iff] at found
      obtain ⟨⟨letters, _⟩, found, same⟩ := found
      cases same
      obtain ⟨middle, next, readsKept, keeps, output⟩ := follows.cluster_output found reads
      refine ⟨middle, next, ?_, keeps, output⟩
      rcases outputInCluster_head found with rfl | ⟨inner, rfl⟩
      · exact readsKept
      · have again := argument_of_cluster (follows.ended.trans (Bool.eq_false_iff.mpr going)) single inner
        simp only [List.isEmpty_cons, Bool.false_eq_true, if_false, List.foldlM_cons, List.foldlM_nil, again, readsKept]
        rfl
    · rename_i noEnd noLong noCluster
      unfold outputIn at found
      split at found
      · cases found
      · rename_i text
        exact absurd text (noLong _)
      · rename_i text
        exact absurd text (noCluster _ _)
      · cases found

theorem Follows.await_output (follows : Follows r follower) (reads : r.await .output = .ok s) :
    s.pending = some ⟨.output, none⟩ ∧
      ∀ value, Follows { s with pending := some ⟨.output, some value⟩ } follower := by
  obtain ⟨settled, settles, same⟩ := ok_of_bind reads
  have later := follows.settles settled settles
  obtain ⟨draft, pending, ended⟩ := settled
  cases (settle_ok settles).1
  cases same
  exact ⟨rfl, follows_given later⟩

theorem awaiting_not_accepted {option : Valued} {last settled : Reading} {arguments : List String}
    (awaiting : r.pending = some ⟨option, none⟩) (stopped : arguments = [] ∨ r.optionsEnded = true)
    (reads : arguments.foldlM Reading.argument r = .ok last) (settles : last.settle = .ok settled) : False := by
  cases arguments with
  | nil =>
    cases reads
    rw [settle_of_awaiting awaiting] at settles
    cases settles
  | cons argument rest =>
    have ended : r.optionsEnded = true := stopped.resolve_left nofun
    rw [List.foldlM_cons] at reads
    obtain ⟨next, step, -⟩ := ok_of_bind reads
    simp [Reading.argument, ended, unexpected] at step

theorem Follows.withoutOutput {arguments : List String} {last settled : Reading} (follows : Follows r follower)
    (reads : arguments.foldlM Reading.argument r = .ok last) (settles : last.settle = .ok settled) :
    ∃ lastFollower, (withoutOutput arguments).foldlM Reading.argument follower = .ok lastFollower ∧
      lastFollower.settle = .ok settled.erase := by
  induction arguments using withoutOutput.induct generalizing r follower with
  | case1 =>
    cases reads
    exact ⟨follower, rfl, follows.settles settled settles⟩
  | case2 argument rest absent ih =>
    rw [List.foldlM_cons] at reads
    obtain ⟨s, step, more⟩ := ok_of_bind reads
    obtain ⟨next, stepNext, follows⟩ := follows.argument absent step
    rw [withoutOutput_of_absent absent, List.foldlM_cons, stepNext]
    exact ih follows more
  | case3 argument kept rest found ih =>
    rw [List.foldlM_cons] at reads
    obtain ⟨s, step, more⟩ := ok_of_bind reads
    obtain ⟨middle, next, readsKept, follows, output⟩ := follows.argument_output found step
    cases output with
    | attached given =>
      rw [withoutOutput_of_attached found, List.foldlM_append, readsKept]
      exact ih (follows.attach_output given) more
  | case4 argument kept found =>
    rw [List.foldlM_cons] at reads
    obtain ⟨s, step, more⟩ := ok_of_bind reads
    obtain ⟨middle, next, -, follows, output⟩ := follows.argument_output found step
    cases output with
    | apart waits => exact (awaiting_not_accepted (follows.await_output waits).1 (.inl rfl) more settles).elim
  | case5 argument kept value later found ih =>
    rw [List.foldlM_cons] at reads
    obtain ⟨s, step, more⟩ := ok_of_bind reads
    obtain ⟨middle, next, readsKept, follows, output⟩ := follows.argument_output found step
    cases output with
    | apart waits =>
      obtain ⟨awaiting, given⟩ := follows.await_output waits
      rw [List.foldlM_cons] at more
      obtain ⟨s', takes, rest⟩ := ok_of_bind more
      rcases argument_of_awaiting awaiting takes with rfl | rfl
      · rw [withoutOutput_of_apart found, List.foldlM_append, readsKept]
        exact ih (given value) rest
      · exact (awaiting_not_accepted (r := { s with optionsEnded := true }) awaiting (.inr rfl) rest settles).elim

end Reading

/-- Without the output option an accepted list is accepted again, and asks for everything else as before. -/
theorem parse_withoutOutput {arguments : List String} {o : Options} (accepted : Options.parse arguments = .ok o) :
    Options.parse (withoutOutput arguments) = .ok { o with output := none } := by
  obtain ⟨last, reads, rest⟩ := ok_of_bind accepted
  obtain ⟨settled, settles, same⟩ := ok_of_bind rest
  cases same
  have follows : Reading.Follows .start .start := Reading.follows_erase nofun
  obtain ⟨follower, readsFollower, settlesFollower⟩ := follows.withoutOutput reads settles
  rw [Options.parse, readsFollower]
  simp only [bind, Except.bind, settlesFollower]
  rfl

example : withoutOutput ["-vo", "x.h", "-goX"] = ["-v", "-goX"] := by decide

end ExactWord.Command
