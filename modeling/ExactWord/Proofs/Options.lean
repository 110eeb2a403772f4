import ExactWord.Proofs.Spelling

namespace ExactWord.Command

namespace Draft

def has (d : Draft) : OptionName → Bool
  | .valued .output => d.output.isSome
  | .valued .guard => d.guard.isSome
  | .flag .noHelpers => d.noHelpers
  | .flag .verbose => d.verbose
  | .flag .help | .flag .version => false

theorem has_blank (n : OptionName) : blank.has n = false := by
  rcases n with (_ | _ | _ | _) | (_ | _) <;> rfl

def Holds (d : Draft) : Written → Prop
  | .valued .output value _ => d.output = some value
  | .valued .guard value _ => d.guard = some value
  | .noHelpers => d.noHelpers = true
  | .verbose _ => d.verbose = true

def record (d : Draft) : Written → Draft
  | .valued .output value _ => { d with output := some value }
  | .valued .guard value _ => { d with guard := some value }
  | .noHelpers => { d with noHelpers := true }
  | .verbose _ => { d with verbose := true }

theorem has_record (d : Draft) (w : Written) (n : OptionName) : (d.record w).has n = (d.has n || n == w.name) := by
  rcases w with ⟨_ | _, _, _⟩ | _ | _ <;> rcases n with (_ | _ | _ | _) | (_ | _) <;> simp [record, has, Written.name]

theorem holds_record (d : Draft) (w : Written) : (d.record w).Holds w := by
  rcases w with ⟨_ | _, _, _⟩ | _ | _ <;> rfl

theorem record_holds_of_ne {d : Draft} {w u : Written} (other : u.name ≠ w.name) (holds : d.Holds u) :
    (d.record w).Holds u := by
  rcases w with ⟨_ | _, _, _⟩ | _ | _ <;> rcases u with ⟨_ | _, _, _⟩ | _ | _ <;>
    simp_all [record, Holds, Written.name]

inductive Taking (d : Draft) (w : Written) : Except Stop Draft → Prop where
  | repeated (given : d.has w.name = true) : Taking d w (.error (.usage (.repeated w.name)))
  | empty {form : ValueForm} (nameless : w = .valued .output "" form) :
      Taking d w (.error (.usage (.valueRequired .output)))
  | taken (fresh : d.has w.name = false) : Taking d w (.ok (d.record w))

theorem taking_take (d : Draft) (w : Written) : d.Taking w (d.take w) := by
  cases given : d.has w.name with
  | true =>
    have refused : d.take w = .error (.usage (.repeated w.name)) := by
      rcases w with ⟨_ | _, _, _⟩ | _ | _ <;> simp_all [take, set, raise, has, Written.name]
    rw [refused]
    exact .repeated given
  | false =>
    by_cases nameless : ∃ form, w = .valued .output "" form
    · obtain ⟨form, rfl⟩ := nameless
      have refused : d.take (.valued .output "" form) = .error (.usage (.valueRequired .output)) := by
        simp_all [take, set, has, Written.name]
      rw [refused]
      exact .empty rfl
    · have taken : d.take w = .ok (d.record w) := by
        rcases w with ⟨_ | _, _, _⟩ | _ | _ <;> simp_all [take, set, raise, has, record, Written.name]
      rw [taken]
      exact .taken given

/-- How often an option is given, by the draft and by the options that are still to be taken. -/
def uses (d : Draft) (ws : List Written) (n : OptionName) : Nat := (d.has n).toNat + (ws.map Written.name).count n

theorem uses_blank (ws : List Written) (n : OptionName) : blank.uses ws n = (ws.map Written.name).count n := by
  simp [uses, has_blank]

theorem uses_blank_insert {before after : List Written} (u : Written) (n : OptionName) :
    blank.uses (before ++ u :: after) n =
      (if u.name = n then 1 else 0) + ((before ++ after).map Written.name).count n := by
  have order : ((before ++ u :: after).map Written.name).Perm (u.name :: (before ++ after).map Written.name) :=
    List.perm_middle.map Written.name
  rw [uses_blank, order.count_eq, List.count_cons, Nat.add_comm]
  simp only [beq_iff_eq]

theorem uses_record {d : Draft} {w : Written} (fresh : d.has w.name = false) (rest : List Written) (n : OptionName) :
    (d.record w).uses rest n = d.uses (w :: rest) n := by
  simp only [uses, has_record, List.map_cons, List.count_cons]
  by_cases same : n = w.name
  · rw [same, fresh, beq_self_eq_true, Bool.false_or, Bool.toNat_true, Bool.toNat_false, if_pos rfl]
    omega
  · rw [beq_eq_false_iff_ne.mpr same, beq_eq_false_iff_ne.mpr (Ne.symm same), Bool.or_false]
    rfl

inductive TakingAll (d : Draft) (ws : List Written) : Except Stop Draft → Prop where
  | repeated {n : OptionName} (twice : 2 ≤ d.uses ws n) : TakingAll d ws (.error (.usage (.repeated n)))
  | empty {form : ValueForm} (nameless : .valued .output "" form ∈ ws) :
      TakingAll d ws (.error (.usage (.valueRequired .output)))
  | taken (once : ∀ n, d.uses ws n ≤ 1) : TakingAll d ws (.ok (ws.foldl record d))

theorem takingAll_foldlM (d : Draft) (ws : List Written) : d.TakingAll ws (ws.foldlM take d) := by
  induction ws generalizing d with
  | nil =>
    refine .taken fun n => ?_
    simp [uses, Bool.toNat_le]
  | cons w rest ih =>
    rw [List.foldlM_cons]
    have taking := d.taking_take w
    generalize d.take w = first at taking
    cases taking with
    | repeated given =>
      refine .repeated (n := w.name) ?_
      rw [uses, given, List.map_cons, List.count_cons_self, Bool.toNat_true]
      omega
    | empty nameless =>
      subst nameless
      exact .empty List.mem_cons_self
    | taken fresh =>
      have later := ih (d.record w)
      change d.TakingAll (w :: rest) (rest.foldlM take (d.record w))
      generalize rest.foldlM take (d.record w) = result at later
      cases later with
      | repeated twice => exact .repeated (uses_record fresh rest _ ▸ twice)
      | empty nameless => exact .empty (List.mem_cons_of_mem _ nameless)
      | taken once => exact .taken fun n => uses_record fresh rest n ▸ once n

theorem foldlM_take_of_once {ws : List Written} (once : (ws.map Written.name).Nodup)
    (presentable : ∀ w ∈ ws, w.Presentable) : ws.foldlM take blank = .ok (ws.foldl record blank) := by
  have taking := blank.takingAll_foldlM ws
  generalize ws.foldlM take blank = result at taking
  cases taking with
  | repeated twice =>
    rename_i n
    have single := List.nodup_iff_count.mp once n
    rw [uses_blank] at twice
    omega
  | empty nameless => exact absurd rfl (presentable _ nameless).1
  | taken => rfl

theorem has_foldl_record (ws : List Written) (d : Draft) (n : OptionName) :
    (ws.foldl record d).has n = true ↔ d.has n = true ∨ n ∈ ws.map Written.name := by
  induction ws generalizing d with
  | nil => simp
  | cons w rest ih =>
    rw [List.foldl_cons, ih, has_record, Bool.or_eq_true, beq_iff_eq, List.map_cons, List.mem_cons, or_assoc]

theorem foldl_record_holds_of_not_mem {ws : List Written} {d : Draft} {u : Written}
    (absent : u.name ∉ ws.map Written.name) (holds : d.Holds u) : (ws.foldl record d).Holds u := by
  induction ws generalizing d with
  | nil => exact holds
  | cons w rest ih =>
    rw [List.map_cons, List.mem_cons, not_or] at absent
    exact ih absent.2 (record_holds_of_ne absent.1 holds)

theorem foldl_record_holds {ws : List Written} (once : (ws.map Written.name).Nodup) (d : Draft) :
    ∀ w ∈ ws, (ws.foldl record d).Holds w := by
  induction ws generalizing d with
  | nil => simp
  | cons first rest ih =>
    obtain ⟨absent, once⟩ := List.nodup_cons.mp once
    intro w member
    rw [List.foldl_cons]
    rcases List.mem_cons.mp member with rfl | member
    · exact foldl_record_holds_of_not_mem absent (holds_record d w)
    · exact ih once _ w member

end Draft

def Written.Agrees (o : Options) : Written → Prop
  | .valued .output value _ => o.output = some value
  | .valued .guard value _ => o.guard = value
  | .noHelpers => o.helpers = false
  | .verbose _ => o.verbose = true

namespace Options

def Presentable (o : Options) : Prop :=
  Command.Presentable o.guard ∧ ∀ path, o.output = some path → Command.Presentable path

def Needs (o : Options) : OptionName → Prop
  | .valued .output => o.output ≠ none
  | .valued .guard => o.guard ≠ IncludeGuard.standardName
  | .flag .noHelpers => o.helpers = false
  | .flag .verbose => o.verbose = true
  | .flag .help | .flag .version => False

/-- A list of written options asks for what is wanted: nothing that is needed is missing, nothing else is said and
nothing is said twice. -/
structure WrittenAs (o : Options) (ws : List Written) : Prop where
  once : (ws.map Written.name).Nodup
  agrees : ∀ w ∈ ws, w.Agrees o
  needed : ∀ n, o.Needs n → n ∈ ws.map Written.name

variable {o : Options} {ws : List Written}

theorem WrittenAs.presentable (written : o.WrittenAs ws) (values : o.Presentable) : ∀ w ∈ ws, w.Presentable := by
  intro w member
  have agrees := written.agrees w member
  rcases w with ⟨_ | _, value, form⟩ | _ | _
  · exact values.2 value agrees
  · exact agrees ▸ values.1
  · exact trivial
  · exact trivial

theorem eq_of_draft {d : Draft} (given : ∀ n, d.has n = true → ∃ w, w.name = n ∧ w.Agrees o ∧ d.Holds w)
    (missing : ∀ n, d.has n = false → ¬ o.Needs n) : d.options = o := by
  have output : d.output = o.output := by
    cases held : d.output with
    | none =>
      have absent := missing (.valued .output) (by simp [Draft.has, held])
      exact (Decidable.not_not.mp absent).symm
    | some path =>
      obtain ⟨⟨_, value, form⟩ | _ | _, name, agrees, holds⟩ := given (.valued .output) (by simp [Draft.has, held])
      all_goals cases name
      exact held.symm.trans (holds.trans agrees.symm)
  have guard : d.guard.getD IncludeGuard.standardName = o.guard := by
    cases held : d.guard with
    | none =>
      have absent := missing (.valued .guard) (by simp [Draft.has, held])
      exact (Decidable.not_not.mp absent).symm
    | some name =>
      obtain ⟨⟨_, value, form⟩ | _ | _, name, agrees, holds⟩ := given (.valued .guard) (by simp [Draft.has, held])
      all_goals cases name
      exact Option.some.inj (held.symm.trans (holds.trans (congrArg some agrees.symm)))
  have helpers : (!d.noHelpers) = o.helpers := by
    cases held : d.noHelpers with
    | false => simpa [Options.Needs] using (missing (.flag .noHelpers) held)
    | true =>
      obtain ⟨⟨_, value, form⟩ | _ | _, name, agrees, -⟩ := given (.flag .noHelpers) held
      all_goals cases name
      exact agrees.symm
  have verbose : d.verbose = o.verbose := by
    cases held : d.verbose with
    | false => simpa [Options.Needs] using (missing (.flag .verbose) held)
    | true =>
      obtain ⟨⟨_, value, form⟩ | _ | _, name, agrees, -⟩ := given (.flag .verbose) held
      all_goals cases name
      exact agrees.symm
  rw [Draft.options, output, guard, helpers, verbose]

theorem WrittenAs.options_eq (written : o.WrittenAs ws) : (ws.foldl Draft.record .blank).options = o := by
  have has : ∀ n, (ws.foldl Draft.record .blank).has n = true ↔ n ∈ ws.map Written.name := by
    intro n
    simp [Draft.has_foldl_record, Draft.has_blank]
  apply eq_of_draft
  · intro n given
    obtain ⟨w, member, name⟩ := List.mem_map.mp ((has n).mp given)
    exact ⟨w, name, written.agrees w member, Draft.foldl_record_holds written.once .blank w member⟩
  · intro n absent needed
    have given := (has n).mpr (written.needed n needed)
    rw [absent] at given
    cases given

theorem WrittenAs.refuses_second {before after : List Written} {u : Written} (written : o.WrittenAs (before ++ after))
    (values : o.Presentable) (second : u.name ∈ (before ++ after).map Written.name) (legible : u.Legible) :
    ∃ error, Options.parse ((before ++ u :: after).flatMap Written.arguments) = .error (.usage error) ∧
      (u.Presentable → error = .repeated u.name) := by
  have presentable := written.presentable values
  have inserted : ∀ {p : Written → Prop}, (∀ w ∈ before ++ after, p w) → p u → ∀ w ∈ before ++ u :: after, p w := by
    intro p others own w member
    rcases List.mem_cons.mp (List.perm_middle.mem_iff.mp member) with rfl | member
    · exact own
    · exact others w member
  have readable := inserted (fun w member => (presentable w member).legible) legible
  rw [parse_written readable]
  have taking := Draft.blank.takingAll_foldlM (before ++ u :: after)
  generalize (before ++ u :: after).foldlM Draft.take .blank = result at taking
  cases taking with
  | repeated twice =>
    rename_i n
    have once := List.nodup_iff_count.mp written.once n
    rw [Draft.uses_blank_insert] at twice
    have same : u.name = n := by
      apply Decidable.byContradiction
      intro other
      rw [if_neg other] at twice
      omega
    exact ⟨_, rfl, fun _ => by rw [same]⟩
  | empty nameless =>
    refine ⟨_, rfl, fun shown => ?_⟩
    exact absurd rfl (inserted presentable shown _ nameless).1
  | taken once =>
    have twice := once u.name
    rw [Draft.uses_blank_insert, if_pos rfl] at twice
    have found := List.count_pos_iff.mpr second
    omega

theorem WrittenAs.refuses_dangling {before after : List Written} {w : Written} (written : o.WrittenAs (before ++ after))
    (values : o.Presentable) (dangling : w.Dangling) :
    ∃ error, Options.parse ((before ++ w :: after).flatMap Written.arguments) = .error (.usage error) := by
  have presentable := written.presentable values
  have first := Draft.foldlM_take_of_once (written.once.sublist ((List.sublist_append_left before after).map _))
    fun u member => presentable u (List.mem_append_left _ member)
  have legible : ∀ u ∈ before, u.Legible := fun u member => (presentable u (List.mem_append_left _ member)).legible
  have takes := Reading.takes_written (r := .start) legible rfl
  obtain ⟨next, reads, holds⟩ := ok_of_bind (takes.held.trans first)
  obtain ⟨error, refused⟩ := Reading.refused_of_dangling dangling (takes.going next reads) holds
    fun u member => (presentable u (List.mem_append_right before member)).legible
  refine ⟨error, ?_⟩
  rw [parse_eq_held, List.flatMap_append, List.flatMap_cons, List.foldlM_append, reads]
  exact congrArg (Except.map Draft.options) refused

end Options

/-- However the options are written down, in any order and spelling, reading the arguments gives them back. With one of
them written a second time, anywhere and in any spelling, the arguments are refused. -/
theorem written_options_read_back {o : Options} {ws : List Written} (values : o.Presentable)
    (written : o.WrittenAs ws) :
    Options.parse (ws.flatMap Written.arguments) = .ok o ∧
      ∀ before after w, before ++ after = ws → w.name ∈ ws.map Written.name →
        ∃ error, Options.parse ((before ++ w :: after).flatMap Written.arguments) = .error (.usage error) ∧
          (w.Presentable → error = .repeated w.name) := by
  have presentable := written.presentable values
  constructor
  · rw [parse_written fun w member => (presentable w member).legible,
      Draft.foldlM_take_of_once written.once presentable]
    exact congrArg Except.ok written.options_eq
  · rintro before after w rfl second
    by_cases legible : w.Legible
    · exact written.refuses_second values second legible
    · -- the value of the second one may be anything, so its arguments may be read as something else than was written
      have unpresentable : ¬ w.Presentable := fun shown => legible shown.legible
      rcases Written.illegible_cases legible with ⟨u, readable, name, arguments⟩ | dangling
      · obtain ⟨error, refused, -⟩ := written.refuses_second values (name ▸ second) readable
        refine ⟨error, ?_, fun shown => absurd shown unpresentable⟩
        simpa only [List.flatMap_append, List.flatMap_cons, arguments] using refused
      · obtain ⟨error, refused⟩ := written.refuses_dangling values dangling
        exact ⟨error, refused, fun shown => absurd shown unpresentable⟩

def clusterLike : Options := ⟨some "out/x.h", "vV", false, true⟩

def clusterLikeWritten : List Written :=
  [.verbose true, .valued .guard "vV" .shortJoined, .noHelpers, .valued .output "out/x.h" .longApart]

theorem clusterLike_read_back :
    clusterLike.Presentable ∧ clusterLike.WrittenAs clusterLikeWritten ∧
      Options.parse ["-v", "-gvV", "--no-compat", "--output", "out/x.h"] = .ok clusterLike ∧
      ∃ error, Options.parse ["-v", "-gvV", "-g", "-h", "--no-compat", "--output", "out/x.h"] =
        .error (.usage error) := by
  have values : clusterLike.Presentable := by
    refine ⟨⟨by decide, by decide, by decide⟩, ?_⟩
    rintro path ⟨⟩
    exact ⟨by decide, by decide, by decide⟩
  have written : clusterLike.WrittenAs clusterLikeWritten := by
    refine ⟨by decide, ?_, ?_⟩
    · simp [clusterLikeWritten, Written.Agrees, clusterLike]
    · rintro ((_ | _ | _ | _) | (_ | _)) needed
      · decide
      · decide
      · exact needed.elim
      · exact needed.elim
      · decide
      · decide
  obtain ⟨reads, refuses⟩ := written_options_read_back values written
  obtain ⟨error, refused, -⟩ := refuses (clusterLikeWritten.take 2) (clusterLikeWritten.drop 2)
    (.valued .guard "-h" .shortApart) (List.take_append_drop 2 clusterLikeWritten) (by decide)
  exact ⟨values, written, reads, error, refused⟩

end ExactWord.Command
