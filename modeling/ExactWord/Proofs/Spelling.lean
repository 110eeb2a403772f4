import ExactWord.Proofs.Omission

namespace ExactWord.Command

def Draft.take (d : Draft) : Written → Except Stop Draft
  | .valued option value _ => d.set value option
  | .noHelpers => d.raise .noHelpers
  | .verbose _ => d.raise .verbose

namespace Written

/-- Where the value stands it is taken neither for an option nor for the sign in front of a value. -/
def Legible : Written → Prop
  | .valued _ value .longApart | .valued _ value .shortApart => ¬ Dashed value
  | .valued _ value .shortJoined => value ≠ "" ∧ value.toList.head? ≠ some '='
  | _ => True

def Dangling (w : Written) : Prop :=
  ∃ v opening rest, w.arguments = opening :: rest ∧
    (∀ r : Reading, r.optionsEnded = false → r.argument opening = r.await v) ∧
    (rest = [] ∨ ∃ value, rest = [value] ∧ Dashed value)

end Written

theorem Valued.ofShort?_short (v : Valued) : OptionName.ofShort? v.short = some (.valued v) := by
  cases v <;> rfl

namespace Reading

variable {r : Reading}

theorem argument_of_short (going : r.optionsEnded = false) (v : Valued) (rest : String) :
    r.argument ("-" ++ v.letter ++ rest) = r.cluster (v.short :: rest.toList) := by
  have single : v.short ≠ '-' := by cases v <;> decide
  have text : "-" ++ v.letter ++ rest = String.ofList ('-' :: v.short :: rest.toList) := by
    apply String.toList_inj.mp
    simp [Valued.letter]
  rw [text, argument_of_cluster going single]

theorem argument_of_letter (going : r.optionsEnded = false) (v : Valued) :
    r.argument ("-" ++ v.letter) = r.await v := by
  rw [← String.append_empty (s := "-" ++ v.letter), argument_of_short going]
  simp [cluster, v.ofShort?_short]

theorem argument_of_joined (going : r.optionsEnded = false) (v : Valued) {value : String} (nonempty : value ≠ "")
    (unsigned : value.toList.head? ≠ some '=') :
    r.argument ("-" ++ v.letter ++ value) = r.attach v value.toList := by
  rw [argument_of_short going]
  simp only [cluster, v.ofShort?_short]
  split
  · rename_i empty
    exact absurd (String.toList_inj.mp empty) nonempty
  · rename_i signed
    simp [signed] at unsigned
  · rfl

theorem argument_of_shortEquals (going : r.optionsEnded = false) (v : Valued) (value : String) :
    r.argument ("-" ++ v.letter ++ "=" ++ value) = r.attach v value.toList := by
  rw [String.append_assoc, argument_of_short going]
  simp [cluster, v.ofShort?_short]

theorem argument_of_long (going : r.optionsEnded = false) (v : Valued) :
    r.argument ("--" ++ v.long) = r.await v := by
  unfold Reading.argument
  rw [if_neg (by simp [going])]
  cases v <;> rfl

theorem argument_of_longEquals (going : r.optionsEnded = false) (v : Valued) (value : String) :
    r.argument ("--" ++ v.long ++ "=" ++ value) = r.attach v value.toList := by
  have text : ("--" ++ v.long ++ "=" ++ value).toList = '-' :: '-' :: (v.long.toList ++ '=' :: value.toList) := by
    simp
  unfold Reading.argument
  rw [if_neg (by simp [going]), text]
  cases v <;> rfl

theorem argument_of_noHelpers (going : r.optionsEnded = false) : r.argument "--no-compat" = r.flag .noHelpers := by
  simp only [Reading.argument, going]
  rfl

theorem argument_of_verbose (going : r.optionsEnded = false) (short : Bool) :
    r.argument (if short then "-v" else "--verbose") = r.flag .verbose := by
  cases short with
  | true =>
    simp only [Reading.argument, going]
    exact bind_pure (r.flag .verbose)
  | false =>
    simp only [Reading.argument, going]
    rfl

theorem foldlM_apart {option value : String} {v : Valued} (going : r.optionsEnded = false)
    (opens : r.argument option = r.await v) (legible : ¬ Dashed value) :
    [option, value].foldlM Reading.argument r = r.settle.map fun s => { s with pending := some ⟨v, some value⟩ } := by
  rw [List.foldlM_cons, opens, await]
  cases settles : r.settle with
  | error stop => rfl
  | ok s =>
    have still : Reading.optionsEnded { s with pending := some ⟨v, none⟩ } = false := (settle_ok settles).2.trans going
    simp only [bind, Except.bind, pure, Except.pure, List.foldlM_cons, List.foldlM_nil, argument_of_value still legible]
    rfl

def held (r : Reading) : Except Stop Draft := r.settle.map Reading.draft

theorem held_of_settled (settled : r.pending = none) : r.held = .ok r.draft := by
  simp [held, settle, settled, Except.map]

theorem held_given (d : Draft) (v : Valued) (value : String) (ended : Bool) :
    held ⟨d, some ⟨v, some value⟩, ended⟩ = d.set value v := by
  simp only [held, settle]
  cases d.set value v <;> rfl

/-- A reading takes an action on its options when its result holds what the action makes of them. The action may become
visible later, when the result is settled. -/
structure Takes (r : Reading) (action : Draft → Except Stop Draft) (result : Except Stop Reading) : Prop where
  held : (result >>= Reading.held) = r.held >>= action
  going : ∀ next, result = .ok next → next.optionsEnded = r.optionsEnded

namespace Takes

variable {action later : Draft → Except Stop Draft} {result : Except Stop Reading}

theorem done (r : Reading) : r.Takes pure (.ok r) where
  held := (bind_pure r.held).symm
  going := by
    intro next same
    cases same
    rfl

theorem update (r : Reading) (action : Draft → Except Stop Draft) :
    r.Takes action (do
      let settled ← r.settle
      let draft ← action settled.draft
      return { settled with draft := draft }) where
  held := by
    cases settles : r.settle with
    | error stop => simp [Reading.held, settles, Bind.bind, Except.bind, Except.map]
    | ok s =>
      simp only [Reading.held, settles, Bind.bind, Except.bind, Except.map]
      cases action s.draft with
      | error stop => rfl
      | ok d => exact held_of_settled (settle_ok settles).1
  going := by
    intro next same
    obtain ⟨s, settles, rest⟩ := ok_of_bind same
    obtain ⟨d, -, same⟩ := ok_of_bind rest
    cases same
    exact (settle_ok settles).2

theorem apart (r : Reading) (v : Valued) (value : String) :
    r.Takes (fun d => d.set value v) (r.settle.map fun s => { s with pending := some ⟨v, some value⟩ }) where
  held := by
    cases settles : r.settle with
    | error stop => simp [Reading.held, settles, Bind.bind, Except.bind, Except.map]
    | ok s =>
      have given := held_given s.draft v value s.optionsEnded
      simpa only [Reading.held, settles, Bind.bind, Except.bind, Except.map] using given
  going := by
    intro next same
    cases settles : r.settle with
    | error stop =>
      rw [settles] at same
      cases same
    | ok s =>
      rw [settles] at same
      cases same
      exact (settle_ok settles).2

theorem bind {more : Reading → Except Stop Reading} (first : r.Takes action result)
    (second : ∀ next, result = .ok next → next.Takes later (more next)) :
    r.Takes (fun d => action d >>= later) (result >>= more) where
  held := by
    have inner : (result >>= fun next => more next >>= Reading.held) = result >>= fun next => next.held >>= later := by
      cases result with
      | error stop => rfl
      | ok next => exact (second next rfl).held
    calc ((result >>= more) >>= Reading.held)
      _ = result >>= fun next => more next >>= Reading.held := bind_assoc ..
      _ = (result >>= Reading.held) >>= later := by rw [inner, bind_assoc]
      _ = r.held >>= fun d => action d >>= later := by rw [first.held, bind_assoc]
  going := by
    intro last same
    obtain ⟨next, reads, same⟩ := ok_of_bind same
    rw [(second next reads).going last same, first.going next reads]

end Takes

theorem takes_argument {argument : String} {action : Draft → Except Stop Draft}
    (reads : r.Takes action (r.argument argument)) : r.Takes action ([argument].foldlM Reading.argument r) := by
  rw [List.foldlM_cons]
  exact (bind_pure (r.argument argument)).symm ▸ reads

theorem takes_arguments {w : Written} (going : r.optionsEnded = false) (legible : w.Legible) :
    r.Takes (fun d => d.take w) (w.arguments.foldlM Reading.argument r) := by
  have attached : ∀ {argument : String} {v value}, r.argument argument = r.attach v value.toList →
      r.Takes (fun d => d.set value v) ([argument].foldlM Reading.argument r) := by
    intro argument v value reads
    apply takes_argument
    rw [reads, Reading.attach, String.ofList_toList]
    exact .update r _
  cases w with
  | noHelpers =>
    apply takes_argument
    rw [argument_of_noHelpers going]
    exact .update r _
  | verbose short =>
    have spelled : (Written.verbose short).arguments = [if short then "-v" else "--verbose"] := by cases short <;> rfl
    rw [spelled]
    apply takes_argument
    rw [argument_of_verbose going]
    exact .update r _
  | valued v value form =>
    cases form with
    | longApart =>
      rw [Written.arguments, Valued.spell, foldlM_apart going (argument_of_long going v) legible]
      exact .apart r v value
    | shortApart =>
      rw [Written.arguments, Valued.spell, foldlM_apart going (argument_of_letter going v) legible]
      exact .apart r v value
    | longEquals => exact attached (argument_of_longEquals going v value)
    | shortEquals => exact attached (argument_of_shortEquals going v value)
    | shortJoined => exact attached (argument_of_joined going v legible.1 legible.2)

theorem takes_written {ws : List Written} (legible : ∀ w ∈ ws, w.Legible) (going : r.optionsEnded = false) :
    r.Takes (fun d => ws.foldlM Draft.take d) ((ws.flatMap Written.arguments).foldlM Reading.argument r) := by
  -- the reading stays general: it still has a value to take over if the option before was written apart from it
  induction ws generalizing r with
  | nil => exact .done r
  | cons w rest ih =>
    have first := takes_arguments going (legible w (by simp))
    simp only [List.flatMap_cons, List.foldlM_append, List.foldlM_cons]
    refine first.bind fun next reads => ih (fun other member => legible other (by simp [member])) ?_
    exact (first.going next reads).trans going

theorem settle_of_held {d : Draft} (holds : r.held = .ok d) : ∃ s, r.settle = .ok s := by
  unfold held at holds
  cases settles : r.settle with
  | error stop =>
    rw [settles] at holds
    cases holds
  | ok s => exact ⟨s, rfl⟩

theorem held_of_awaiting {v : Valued} (awaiting : r.pending = some ⟨v, none⟩) :
    r.held = .error (.usage (.valueRequired v)) := by
  rw [held, settle_of_awaiting awaiting]
  rfl

theorem refused_of_ended {v : Valued} (awaiting : r.pending = some ⟨v, none⟩) (ended : r.optionsEnded = true)
    (arguments : List String) :
    ∃ error, (arguments.foldlM Reading.argument r >>= held) = .error (.usage error) := by
  cases arguments with
  | nil => exact ⟨_, held_of_awaiting awaiting⟩
  | cons argument rest =>
    have stray : r.argument argument = .error (.usage (.unexpectedArgument argument)) := by
      simp [Reading.argument, ended, unexpected]
    rw [List.foldlM_cons, stray]
    exact ⟨_, rfl⟩

theorem refused_of_dangling {w : Written} {after : List Written} {d : Draft} (dangling : w.Dangling)
    (going : r.optionsEnded = false) (holds : r.held = .ok d) (legible : ∀ u ∈ after, u.Legible) :
    ∃ error, ((w.arguments ++ after.flatMap Written.arguments).foldlM Reading.argument r >>= held) =
      .error (.usage error) := by
  obtain ⟨v, opening, rest, arguments, opens, tail⟩ := dangling
  obtain ⟨s, settles⟩ := settle_of_held holds
  have still : s.optionsEnded = false := (settle_ok settles).2.trans going
  rw [arguments, List.cons_append, List.foldlM_cons, opens r going, await, settles]
  change ∃ error, ((rest ++ after.flatMap Written.arguments).foldlM Reading.argument
    { s with pending := some ⟨v, none⟩ } >>= held) = .error (.usage error)
  rcases tail with rfl | ⟨value, rfl, dashed⟩
  · have later := (takes_written (r := { s with pending := some ⟨v, none⟩ }) legible still).held
    rw [List.nil_append, later, held_of_awaiting rfl]
    exact ⟨_, rfl⟩
  · rw [List.singleton_append, List.foldlM_cons]
    -- the two dashes alone are no error here, but they leave the option without a value for good
    rcases argument_of_dashed (r := { s with pending := some ⟨v, none⟩ }) rfl dashed with ⟨error, refused⟩ | ended
    · rw [refused]
      exact ⟨error, rfl⟩
    · rw [ended]
      exact refused_of_ended rfl rfl _

end Reading

theorem parse_eq_held (arguments : List String) :
    Options.parse arguments = (arguments.foldlM Reading.argument .start >>= Reading.held).map Draft.options := by
  unfold Options.parse Reading.held
  cases arguments.foldlM Reading.argument .start with
  | error stop => rfl
  | ok last => cases settles : last.settle <;> simp [settles, bind, Except.bind, Except.map, pure, Except.pure]

/-- The spellings make no difference: a list of written options is read as the options one after the other. -/
theorem parse_written {ws : List Written} (legible : ∀ w ∈ ws, w.Legible) :
    Options.parse (ws.flatMap Written.arguments) = (ws.foldlM Draft.take .blank).map Draft.options := by
  rw [parse_eq_held, (Reading.takes_written legible (r := .start) rfl).held]
  rfl

def Presentable (value : String) : Prop :=
  value ≠ "" ∧ value.toList.head? ≠ some '-' ∧ value.toList.head? ≠ some '='

namespace Written

def Presentable : Written → Prop
  | .valued _ value _ => Command.Presentable value
  | .noHelpers | .verbose _ => True

theorem Presentable.legible {w : Written} (presentable : w.Presentable) : w.Legible := by
  rcases w with ⟨v, value, form⟩ | _ | _
  · obtain ⟨nonempty, noDash, noSign⟩ := presentable
    have apart : ¬ Dashed value := by
      rintro ⟨c, rest, text⟩
      simp [text] at noDash
    cases form with
    | longApart => exact apart
    | shortApart => exact apart
    | shortJoined => exact ⟨nonempty, noSign⟩
    | longEquals => exact trivial
    | shortEquals => exact trivial
  · exact trivial
  · exact trivial

theorem spell_joined_sign (v : Valued) {value : String} (signed : value.toList.head? = some '=') :
    ∃ rest, v.spell rest .shortEquals = v.spell value .shortJoined := by
  obtain ⟨rest, text⟩ : ∃ rest, value.toList = '=' :: rest := by
    cases text : value.toList with
    | nil => simp [text] at signed
    | cons c rest => exact ⟨rest, by simpa [text] using signed⟩
  refine ⟨String.ofList rest, ?_⟩
  simp only [Valued.spell, ← String.toList_inj, List.cons.injEq, and_true]
  simp [text]

theorem illegible_cases {w : Written} (illegible : ¬ w.Legible) :
    (∃ u : Written, u.Legible ∧ u.name = w.name ∧ u.arguments = w.arguments) ∨ w.Dangling := by
  rcases w with ⟨v, value, form⟩ | _ | _
  · cases form with
    | longApart =>
      have dashed := Classical.not_not.mp illegible
      exact .inr ⟨v, _, [value], rfl, fun _ going => Reading.argument_of_long going v, .inr ⟨value, rfl, dashed⟩⟩
    | shortApart =>
      have dashed := Classical.not_not.mp illegible
      exact .inr ⟨v, _, [value], rfl, fun _ going => Reading.argument_of_letter going v, .inr ⟨value, rfl, dashed⟩⟩
    | shortJoined =>
      by_cases empty : value = ""
      · refine .inr ⟨v, "-" ++ v.letter, [], ?_, fun _ going => Reading.argument_of_letter going v, .inl rfl⟩
        simp [arguments, Valued.spell, empty]
      · have signed := Classical.not_not.mp fun unsigned => illegible ⟨empty, unsigned⟩
        obtain ⟨rest, same⟩ := spell_joined_sign v signed
        exact .inl ⟨.valued v rest .shortEquals, trivial, rfl, same⟩
    | longEquals => exact absurd trivial illegible
    | shortEquals => exact absurd trivial illegible
  · exact absurd trivial illegible
  · exact absurd trivial illegible

end Written

end ExactWord.Command
