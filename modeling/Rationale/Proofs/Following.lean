/-
Module: Rationale.Proofs.Following
Purpose: Recording computations do to a recorder exactly what the account of a tree says.
Main exports: Recording.Follows, Tree.eval_follows, Tree.eval_of_account_ok,
  Tree.account_of_eval_ok, Tree.evaluate_eq_account
-/
import Rationale.Proofs.Extension
import Rationale.Proofs.Shape

namespace Rationale

/-- A mistake in the use of a recorder, as opposed to one in the making of a tree. -/
def Fault.IsMisuse : Fault → Prop
  | .emptyJunction _ | .notBoolean _ _ => False
  | .unbalanced _ _ | .openRows _ => True

namespace Recording

variable {α β : Type} {recorder : Recorder}

/-- A computation does to a recorder what a plan says: it gives the planned result and appends the
planned rows, or it aborts with the planned fault and leaves the recorder in the middle. -/
def Follows (run : Recording α) (recorder : Recorder) : Except Fault (α × Forest) → Prop
  | .ok (result, forest) => run recorder = .ok result (recorder.extend forest)
  | .error fault =>
    ¬ fault.IsMisuse ∧ ∃ after, run recorder = .error fault after ∧ recorder.Abandoned after

theorem follows_pure (result : α) :
    Follows (pure result) recorder (.ok (result, .nil)) := by
  rw [Follows, Recorder.extend_nil]
  rfl

theorem Follows.congr {run : Recording α} {plan other : Except Fault (α × Forest)}
    (follows : run.Follows recorder plan) (same : plan = other) : run.Follows recorder other :=
  same ▸ follows

theorem follows_ofExcept_bind {given : Except Fault α} {next : α → Recording β}
    {later : α → Except Fault (β × Forest)}
    (proper : ∀ fault, given = .error fault → ¬ fault.IsMisuse)
    (second : ∀ result, given = .ok result → (next result).Follows recorder (later result)) :
    Follows (ofExcept given >>= next) recorder (given.bind later) := by
  cases given with
  | ok result => exact second result rfl
  | error fault => exact ⟨proper fault rfl, recorder, rfl, .refl recorder⟩

theorem Follows.bind {run : Recording α} {next : α → Recording β}
    {plan : Except Fault (α × Forest)} (later : α → Except Fault (β × Forest))
    (first : run.Follows recorder plan)
    (second : ∀ result forest, plan = .ok (result, forest) →
      (next result).Follows (recorder.extend forest) (later result)) :
    Follows (run >>= next) recorder
      (plan.bind fun given => (later given.1).map fun last => (last.1, given.2 ++ last.2)) := by
  cases plan with
  | error fault =>
      obtain ⟨proper, after, aborted, abandoned⟩ := first
      refine ⟨proper, after, ?_, abandoned⟩
      simp [Bind.bind, EStateM.bind, aborted]
  | ok given =>
      obtain ⟨result, forest⟩ := given
      have reached : run recorder = .ok result (recorder.extend forest) := first
      have continued : (run >>= next) recorder = next result (recorder.extend forest) := by
        simp [Bind.bind, EStateM.bind, reached]
      have rest := second result forest rfl
      rw [Except.bind]
      cases last : later result with
      | error fault =>
          rw [last] at rest
          obtain ⟨proper, after, aborted, abandoned⟩ := rest
          refine ⟨proper, after, ?_, (Recorder.Abandoned.of_note recorder _ _).trans abandoned⟩
          rw [continued, aborted]
      | ok given =>
          rw [last] at rest
          obtain ⟨final, others⟩ := given
          show (run >>= next) recorder = .ok final (recorder.extend (forest ++ others))
          rw [continued, ← Recorder.extend_extend]
          exact rest

theorem Follows.flipped {run : Recording α} {plan : Except Fault (α × Forest)}
    (body : run.Follows recorder.flip plan) : Follows (flipped run) recorder plan := by
  cases plan with
  | error fault =>
      obtain ⟨proper, after, aborted, abandoned⟩ := body
      refine ⟨proper, after.flip, ?_, abandoned.of_flip⟩
      simp [Recording.flipped, aborted]
  | ok given =>
      obtain ⟨result, forest⟩ := given
      have reached : run recorder.flip = .ok result (recorder.flip.extend forest) := body
      show Recording.flipped run recorder = .ok result (recorder.extend forest)
      simp [Recording.flipped, reached, Recorder.flip_extend]

theorem follows_flippedIf {run : Recording α} (plan : Bool → Except Fault (α × Forest))
    (each : ∀ other : Recorder, other.settings = recorder.settings →
      run.Follows other (plan other.flipped)) (condition : Bool) :
    Follows (flippedIf condition run) recorder (plan (recorder.flipped != condition)) := by
  cases condition with
  | false =>
      rw [Bool.bne_false]
      exact each recorder rfl
  | true =>
      rw [Bool.bne_true]
      exact (each recorder.flip rfl).flipped

/-- A part whose outcome becomes that of the row around it, perhaps in another form. -/
theorem Follows.attempt {run : Recording (Outcome Value)} {plan : Except Fault Account}
    (conclude : Outcome Value → Outcome Value)
    (body : run.Follows recorder (plan.map Account.pair)) :
    Follows (run >>= fun outcome => pure ({ outcome := conclude outcome } : Attempt)) recorder
      (plan.map fun inner => ({ outcome := conclude inner.outcome }, inner.forest)) := by
  refine (body.bind (fun outcome => .ok ({ outcome := conclude outcome }, .nil)) ?_).congr ?_
  · intro outcome _ _
    exact follows_pure _
  · cases plan with
    | error fault => rfl
    | ok inner => simp [Except.map, Except.bind, Account.pair]

/-- A row whose inside ran to its end comes before the rows noted inside, and is told of after
them. -/
theorem within_eq {draft : Draft} {run : Recording Attempt} {attempt : Attempt} {rows : List Row}
    {events : List Event}
    (inside : run (recorder.push draft) = .ok attempt ((recorder.push draft).note rows events)) :
    let row := (draft.row recorder.settings recorder.flipped attempt).atLevel recorder.level
    within draft run recorder = .ok attempt.outcome
      (recorder.note (row :: rows) (events ++ Recorder.closing recorder.settings row)) := by
  intro row
  have closes := recorder.leave_note_push draft rows events attempt
  simp only [within, enter, Bind.bind, EStateM.bind, inside, closes]
  rfl

/-- A row whose inside aborts is left open. -/
theorem within_aborts {draft : Draft} {run : Recording Attempt} {fault : Fault} {after : Recorder}
    (aborted : run (recorder.push draft) = .error fault after) :
    within draft run recorder = .error fault after := by
  simp [within, enter, Bind.bind, EStateM.bind, aborted]

theorem Follows.within {draft : Draft} {run : Recording Attempt}
    {plan : Except Fault (Attempt × Forest)}
    (ordinary : draft.kind ≠ .leaf ∧ draft.kind ≠ .transform)
    (body : run.Follows (recorder.push draft) plan) :
    Follows (within draft run) recorder ((plan.map fun given => Account.within recorder.settings
      recorder.flipped draft given.1 given.2).map Account.pair) := by
  cases plan with
  | error fault =>
      obtain ⟨proper, after, aborted, abandoned⟩ := body
      exact ⟨proper, after, within_aborts aborted,
        (Recorder.Abandoned.of_push recorder draft).trans abandoned⟩
  | ok given =>
      obtain ⟨attempt, inner⟩ := given
      have reached : run (recorder.push draft) = .ok attempt ((recorder.push draft).extend inner) :=
        body
      have kind : (draft.row recorder.settings recorder.flipped attempt).kind = draft.kind := rfl
      show Recording.within draft run recorder = .ok attempt.outcome (recorder.extend
        (.node (draft.row recorder.settings recorder.flipped attempt) inner))
      rw [within_eq reached]
      simp [Recorder.extend, Forest.node, Forest.rows, Forest.events, kind, ordinary,
        Recorder.closing]

/-- A mapping stage: the part runs in a recording of its own, whose rows come right after that of
the stage. -/
theorem follows_stage {draft : Draft} {run : Recording α} {conclude : α → Attempt}
    {plan : Except Fault (α × Forest)} (isTransform : draft.kind = .transform)
    (body : run.Follows recorder.child plan) :
    Follows (within draft (inChild run >>= fun result => pure (conclude result))) recorder
      ((plan.map fun given => Account.within recorder.settings recorder.flipped draft
        (conclude given.1) given.2).map Account.pair) := by
  cases plan with
  | error fault =>
      obtain ⟨proper, after, aborted, abandoned⟩ := body
      refine ⟨proper, recorder.push draft, within_aborts ?_, .of_push recorder draft⟩
      have aborted : run (recorder.push draft).child = .error fault after := aborted
      simp [inChild, Bind.bind, EStateM.bind, aborted]
  | ok given =>
      obtain ⟨result, inner⟩ := given
      have reached : run (recorder.push draft).child = .ok result (recorder.child.extend inner) :=
        body
      have appended : importChild (recorder.child.extend inner) (recorder.push draft).level
          (recorder.push draft) = .ok () ((recorder.push draft).note
            (inner.rows (recorder.level + 1)) (inner.events recorder.settings 0)) :=
        (recorder.push draft).importChild_extend_child inner
      have inside : (inChild run >>= fun result => pure (conclude result)) (recorder.push draft) =
          .ok (conclude result) ((recorder.push draft).note (inner.rows (recorder.level + 1))
            (inner.events recorder.settings 0)) := by
        simp only [inChild, Bind.bind, EStateM.bind, reached, appended]
        rfl
      have kind : (draft.row recorder.settings recorder.flipped (conclude result)).kind =
        draft.kind := rfl
      show Recording.within draft _ recorder = .ok (conclude result).outcome (recorder.extend
        (.node (draft.row recorder.settings recorder.flipped (conclude result)) inner))
      rw [within_eq inside]
      simp [Recorder.extend, Forest.node, Forest.rows, Forest.events, kind, isTransform,
        Recorder.closing]

end Recording

namespace Tree

open Recording (Follows)

theorem answer?_proper {form : String} {outcome : Outcome Value} (fault : Fault)
    (refused : outcome.answer? form = .error fault) : ¬ fault.IsMisuse := by
  unfold Outcome.answer? at refused
  split at refused <;> cases refused
  simp [Fault.IsMisuse]

/-- One step of a round: a part is asked, and its answer stops the round or goes before the rest. -/
theorem follows_visit {α β : Type} {recorder : Recorder} {run : Recording (Outcome Value)}
    {next : Outcome Value → Option Bool → Recording β} {stops : Option Bool → Bool}
    {inquiry : Inquiry α} {rest : List (Inquiry α)} {finish : List (Visit α) → β}
    (first : run.Follows recorder (inquiry.result.map Account.pair))
    (stopped : ∀ account answer, stops answer = true →
      next account.outcome answer = pure (finish [⟨inquiry.subject, account, answer⟩]))
    (continued : ∀ account answer, stops answer = false →
      (next account.outcome answer).Follows (recorder.extend account.forest)
        ((visit stops rest).map fun visits =>
          (finish (⟨inquiry.subject, account, answer⟩ :: visits), forestOf visits))) :
    Follows (do
        let outcome ← run
        let answer ← Recording.ofExcept (outcome.answer? inquiry.form)
        next outcome answer) recorder
      ((visit stops (inquiry :: rest)).map fun visits => (finish visits, forestOf visits)) := by
  cases given : inquiry.result with
  | error fault =>
      rw [given] at first
      rw [visit_of_fault given]
      exact (first.bind (fun _ => .error fault) (by simp [Except.map])).congr rfl
  | ok account =>
      rw [given] at first
      let later : Except Fault (β × Forest) :=
        (account.outcome.answer? inquiry.form).bind fun answer =>
          if stops answer then .ok (finish [⟨inquiry.subject, account, answer⟩], .nil)
          else (visit stops rest).map fun visits =>
            (finish (⟨inquiry.subject, account, answer⟩ :: visits), forestOf visits)
      refine (first.bind (fun _ => later) ?_).congr ?_
      · intro outcome forest same
        cases same
        refine Recording.follows_ofExcept_bind answer?_proper fun answer _ => ?_
        cases stop : stops answer with
        | true =>
            rw [if_pos rfl, stopped account answer stop]
            exact Recording.follows_pure _
        | false => exact continued account answer stop
      · cases answered : account.outcome.answer? inquiry.form with
        | error fault =>
            rw [visit_of_refusal given answered]
            simp [later, answered, Except.map, Except.bind]
        | ok answer =>
            cases stop : stops answer with
            | true =>
                rw [visit_of_stop given answered stop]
                simp [later, answered, stop, Except.map, Except.bind, Account.pair, forestOf]
            | false =>
                rw [visit_of_go given answered stop]
                cases visited : visit stops rest with
                | error fault => simp [later, answered, stop, visited, Except.map, Except.bind]
                | ok visits =>
                    simp [later, answered, stop, visited, Except.map, Except.bind, Account.pair,
                      forestOf]

/-- Evaluating the tree does to a recorder what the account of the tree says, whatever the recorder
holds. -/
def IsFollowed (tree : Tree) : Prop :=
  ∀ (input : Option Value) (recorder : Recorder), Follows (tree.eval input) recorder
    ((tree.account recorder.settings recorder.flipped input).map Account.pair)

theorem evalOperands_follows {operands : List Tree}
    (each : ∀ operand ∈ operands, operand.IsFollowed) (connective : Connective) (lazily : Bool)
    (input : Option Value) (recorder : Recorder) :
    Follows (evalOperands connective lazily operands input) recorder
      ((visit (fun answer => lazily && connective.settledBy answer)
        (accountEach recorder.settings operands recorder.flipped input)).map
          fun visits => (answersOf visits, forestOf visits)) := by
  induction operands generalizing recorder with
  | nil => exact Recording.follows_pure []
  | cons operand rest ih =>
      rw [evalOperands, accountEach]
      refine follows_visit (each operand (by simp) input recorder) ?_ ?_
      · intro account answer stop
        rw [if_pos stop]
        rfl
      · intro account answer go
        rw [if_neg (by simp [go])]
        have others := ih (fun other member => each other (by simp [member]))
          (recorder.extend account.forest)
        rw [Recorder.settings_extend, Recorder.flipped_extend] at others
        refine (others.bind (fun answers => .ok (answer :: answers, .nil)) ?_).congr ?_
        · intro answers _ _
          exact Recording.follows_pure _
        · cases visit _ (accountEach recorder.settings rest recorder.flipped input) with
          | error fault => rfl
          | ok visits => simp [Except.map, Except.bind, answersOf]

theorem scan_follows {form : String} {cutOn default : Bool}
    {ask : Value → Recording (Outcome Value)} {asked : Value → Except Fault Account}
    {settings : Settings} {flipped : Bool}
    (each : ∀ item (recorder : Recorder), recorder.settings = settings →
      recorder.flipped = flipped → Follows (ask item) recorder ((asked item).map Account.pair))
    (items : List Value) (recorder : Recorder) (sameSettings : recorder.settings = settings)
    (samePolarity : recorder.flipped = flipped) :
    Follows (scan form cutOn default ask items) recorder
      ((visit (fun answer => answer != some !cutOn)
        (items.map fun item => ⟨item, form, asked item⟩)).map
          fun visits => (searchOutcome cutOn default visits, forestOf visits)) := by
  induction items generalizing recorder with
  | nil => exact Recording.follows_pure _
  | cons item rest ih =>
      rw [scan, List.map_cons]
      refine follows_visit (each item recorder sameSettings samePolarity) ?_ ?_
      · intro account answer stop
        cases answer with
        | none => rfl
        | some answer =>
            have found : answer = cutOn := by
              cases answer <;> cases cutOn <;> first | rfl | cases stop
            simp [found, searchOutcome]
      · intro account answer go
        obtain rfl : answer = some !cutOn := by simpa using go
        have others := ih (recorder.extend account.forest) sameSettings samePolarity
        simpa [searchOutcome] using others

/-!
### One routine after the other

Each form of tree follows its account if its parts follow theirs.
-/

theorem leaf_isFollowed (check : Check) : IsFollowed (.leaf check) := by
  intro input recorder
  let attempt := check.ask recorder.wantedAnswer input
  let opened := recorder.push (draft input (.leaf check))
  let inside : Recording Attempt := do
    let recorder ← get
    Recording.tell (.leafEvaluated check.name)
    return check.ask recorder.wantedAnswer input
  have told : inside opened = .ok attempt (opened.note [] [.leafEvaluated check.name]) := by
    have ran : inside opened = .ok attempt (opened.tell (.leafEvaluated check.name)) := rfl
    rw [ran]
    simp [Recorder.tell, Recorder.note]
  have kind : ((draft input (.leaf check)).row recorder.settings recorder.flipped attempt).kind =
    .leaf := rfl
  have form : ((draft input (.leaf check)).row recorder.settings recorder.flipped attempt).form =
    check.name := rfl
  show Recording.within (draft input (.leaf check)) inside recorder = .ok attempt.outcome
    (recorder.extend (.node ((draft input (.leaf check)).row recorder.settings recorder.flipped
      attempt) .nil))
  rw [Recording.within_eq told]
  simp [Recorder.extend, Forest.node, Forest.rows, Forest.events, kind, form, Recorder.closing]

theorem junction_isFollowed {operands : List Tree}
    (each : ∀ operand ∈ operands, operand.IsFollowed) (connective : Connective) (lazily : Bool) :
    IsFollowed (.junction connective lazily operands) := by
  intro input recorder
  rw [eval, account]
  by_cases empty : operands.isEmpty
  · rw [if_pos empty, if_pos empty]
    exact ⟨id, recorder, rfl, .refl recorder⟩
  · rw [if_neg empty, if_neg empty]
    have inside := evalOperands_follows each connective lazily input
      (recorder.push (draft input (.junction connective lazily operands)))
    refine (Follows.within ?_ (inside.bind (fun answers =>
      .ok ({ outcome := .ofAnswer (connective.conclude answers) }, .nil)) ?_)).congr ?_
    · cases connective <;> simp [draft, Connective.kind]
    · intro answers _ _
      exact Recording.follows_pure _
    · rw [Recorder.settings_push, Recorder.flipped_push]
      cases visit _ (accountEach recorder.settings operands recorder.flipped input) with
      | error fault => rfl
      | ok visits =>
          simp [Except.map, Except.bind, Bind.bind, pure, Except.pure, Account.pair,
            Account.within]

theorem negation_isFollowed {target : Tree} (part : target.IsFollowed) :
    IsFollowed (.negation target) := by
  intro input recorder
  rw [eval, account]
  have inside := (part input (recorder.push (draft input (.negation target))).flip).flipped
  refine (Follows.within (by simp [draft]) (inside.bind (fun outcome =>
    (outcome.answer? target.form).bind fun answer =>
      .ok ({ outcome := outcome.negated answer }, .nil)) ?_)).congr ?_
  · intro outcome _ _
    refine Recording.follows_ofExcept_bind answer?_proper fun answer _ => ?_
    cases answer <;> exact Recording.follows_pure _
  · let inside := !recorder.flipped
    change ((((account recorder.settings target inside input).map _).bind _).map _).map _ = _
    cases account recorder.settings target (!recorder.flipped) input with
    | error fault => rfl
    | ok inner =>
        cases answered : inner.outcome.answer? target.form with
        | error fault => simp [Except.map, Except.bind, Bind.bind, Account.pair, answered]
        | ok answer =>
            simp [Except.map, Except.bind, Bind.bind, Account.pair, Account.within, answered, pure,
              Except.pure]

/-- A mapping in a row of its own follows its account. -/
theorem record_follows (mapping : Mapping) (continued : Bool) (input : Option Value)
    (recorder : Recorder) :
    Follows (mapping.record continued input) recorder
      (.ok (mapping.account recorder.settings recorder.flipped
        { kind := .function, form := mapping.name, input, continued,
          isTrivial := mapping.isTrivial } input).pair) := by
  let draft : Draft :=
    { kind := .function, form := mapping.name, input, continued, isTrivial := mapping.isTrivial }
  have inside : Follows (pure (mapping.attempt input)) (recorder.push draft) _ :=
    Recording.follows_pure (mapping.attempt input)
  have around := Follows.within (by simp [draft]) inside
  refine (around.bind (fun outcome => .ok (outcome.withOrigin .head, .nil)) ?_).congr rfl
  intro outcome _ _
  exact Recording.follows_pure _

theorem function_isFollowed (head : Mapping) : IsFollowed (.function head) :=
  fun input recorder => record_follows head false input recorder

theorem chain_isFollowed {tail : Tree} (part : tail.IsFollowed) (head : Mapping) :
    IsFollowed (.chain head tail) := by
  intro input recorder
  rw [eval, account]
  let finish (outcome last : Outcome Value) :=
    if outcome.value?.isSome then last.withOrigin .tail else outcome
  let later (outcome : Outcome Value) :=
    (account recorder.settings tail recorder.flipped outcome.value?).map fun last =>
      (finish outcome last.outcome, last.forest)
  refine ((record_follows head true input recorder).bind later ?_).congr ?_
  · intro outcome forest same
    have rest := part outcome.value? (recorder.extend forest)
    rw [Recorder.settings_extend, Recorder.flipped_extend] at rest
    refine (rest.bind (fun last => .ok (finish outcome last, .nil)) ?_).congr ?_
    · intro last _ _
      exact Recording.follows_pure _
    · change _ = (account recorder.settings tail recorder.flipped outcome.value?).map _
      cases account recorder.settings tail recorder.flipped outcome.value? with
      | error fault => rfl
      | ok last => simp [Except.map, Except.bind, Account.pair]
  · let first := head.account recorder.settings recorder.flipped
      (draft input (.chain head tail)) input
    change ((account recorder.settings tail recorder.flipped first.outcome.value?).map _).map _ = _
    cases account recorder.settings tail recorder.flipped first.outcome.value? <;> rfl

/-- A checking stage that comes after some outcome follows its account. -/
theorem checking_follows {checker : Tree} (part : checker.IsFollowed) (input : Option Value)
    (recorder : Recorder) :
    Follows (Recording.within (checkDraft input) do
        let outcome ← checker.eval input
        return { outcome := if input.isSome then outcome else .skipped }) recorder
      (((checker.account recorder.settings recorder.flipped input).map
        (checkingStage recorder.settings recorder.flipped input)).map Account.pair) := by
  have inner := part input (recorder.push (checkDraft input))
  refine (Follows.within (by simp [checkDraft]) (inner.attempt fun checked =>
    if input.isSome then checked else .skipped)).congr ?_
  rw [Recorder.settings_push, Recorder.flipped_push]
  cases checker.account recorder.settings recorder.flipped input <;> rfl

theorem transform_isFollowed {mapper checker : Tree} (mapperFollows : mapper.IsFollowed)
    (checkerFollows : checker.IsFollowed) : IsFollowed (.transform mapper checker) := by
  intro input recorder
  rw [eval, account]
  by_cases identity : mapper.isIdentity
  · rw [if_pos identity, if_pos identity]
    exact checkerFollows input recorder
  · rw [if_neg identity, if_neg identity]
    let mapped (outcome : Outcome Value) : Attempt := { outcome := outcome.withOrigin .transform }
    let finish (first last : Outcome Value) := if first.value?.isSome then last else first
    let checking (first : Outcome Value) :=
      (account recorder.settings checker recorder.flipped first.value?).map
        (checkingStage recorder.settings recorder.flipped first.value?)
    have mapping : Follows (Recording.within (draft input (.transform mapper checker))
        (Recording.inChild (mapper.eval input) >>= fun outcome => pure (mapped outcome)))
          recorder _ := Recording.follows_stage rfl (mapperFollows input recorder.child)
    refine (mapping.bind (fun first => (checking first).map fun last =>
      (finish first last.outcome, last.forest)) ?_).congr ?_
    · intro first forest _
      have last := checking_follows checkerFollows first.value? (recorder.extend forest)
      rw [Recorder.settings_extend, Recorder.flipped_extend] at last
      refine (last.bind (fun outcome => .ok (finish first outcome, .nil)) ?_).congr ?_
      · intro outcome _ _
        exact Recording.follows_pure _
      · change ((checking first).map _).bind _ = _
        cases checking first with
        | error fault => rfl
        | ok last => simp [Except.map, Except.bind, Account.pair]
    · change (((account recorder.settings mapper recorder.flipped input).map _).map _ |>.map _).bind
        _ = _
      cases account recorder.settings mapper recorder.flipped input with
      | error fault => rfl
      | ok mapping =>
          let checked := account recorder.settings checker recorder.flipped
            (mapping.outcome.withOrigin .transform).value?
          change ((checked.map _).map _).map _ = (checked.bind _).map _
          cases checked <;> rfl

theorem quantifier_isFollowed {predicate : Tree} (part : predicate.IsFollowed)
    (cutOn default : Bool) : IsFollowed (.quantifier predicate cutOn default) := by
  intro input recorder
  let inside := recorder.flipped != (cutOn == default)
  let asked (input : Option Value) := account recorder.settings predicate inside input
  have asking (input : Option Value) (other : Recorder)
      (sameSettings : other.settings = recorder.settings)
      (samePolarity : other.flipped = recorder.flipped) :
      Follows (Recording.flippedIf (cutOn == default) (predicate.eval input)) other
        ((asked input).map Account.pair) := by
    have either := Recording.follows_flippedIf
      (fun flipped => (account other.settings predicate flipped input).map Account.pair)
      (fun third same => same ▸ part input third) (cutOn == default)
    rw [sameSettings, samePolarity] at either
    exact either
  cases input with
  | none =>
      rw [eval, account]
      have passed := asking none (recorder.push (draft none (.quantifier predicate cutOn default)))
        rfl rfl
      refine (Follows.within (by simp [draft]) (passed.attempt fun _ => .skipped)).congr ?_
      change _ = (asked none >>= _).map _
      cases asked none <;> rfl
  | some value =>
      cases listed : value.list? with
      | error failure =>
          rw [eval, account]
          simp only [listed]
          exact Follows.within (by simp) (Recording.follows_pure _)
      | ok items =>
          rw [eval, account]
          simp only [listed]
          have searched := (scan_follows (fun item => asking (some item)) items
            (recorder.push (draft (some value) (.quantifier predicate cutOn default))) rfl rfl :
              Follows (scan predicate.form cutOn default _ items) _ _)
          refine (Follows.within (by simp [draft]) (searched.bind (fun outcome =>
            .ok ({ outcome }, .nil)) ?_)).congr ?_
          · intro outcome _ _
            exact Recording.follows_pure _
          · change _ = (visit _ (items.map fun item =>
              ⟨item, predicate.form, asked (some item)⟩) >>= _).map _
            cases visit _ (items.map fun item =>
              (⟨item, predicate.form, asked (some item)⟩ : Inquiry Value)) with
            | error fault => rfl
            | ok visits => simp [Except.map, Except.bind, Bind.bind, pure, Except.pure]

theorem curried_isFollowed {enclosed : Tree} (part : enclosed.IsFollowed) (slot : Nat) :
    IsFollowed (.curried enclosed slot) := by
  intro input recorder
  have inside (content : Option Value) :=
    (part content (recorder.push (draft input (.curried enclosed slot)))).attempt id
  cases input with
  | none =>
      rw [eval, account]
      refine (Follows.within (by simp [draft]) (inside none)).congr ?_
      rw [Recorder.settings_push, Recorder.flipped_push]
      cases account recorder.settings enclosed recorder.flipped none <;> rfl
  | some value =>
      cases projected : value.slot? slot with
      | error failure =>
          rw [eval, account]
          simp only [projected]
          exact Follows.within (by simp) (Recording.follows_pure _)
      | ok content =>
          rw [eval, account]
          simp only [projected]
          refine (Follows.within (by simp [draft]) (inside (some content))).congr ?_
          rw [Recorder.settings_push, Recorder.flipped_push]
          cases account recorder.settings enclosed recorder.flipped (some content) <;> rfl

theorem eval_follows (tree : Tree) : tree.IsFollowed := by
  induction tree with
  | leaf check => exact leaf_isFollowed check
  | junction connective lazily operands ih => exact junction_isFollowed ih connective lazily
  | negation target ih => exact negation_isFollowed ih
  | function head => exact function_isFollowed head
  | chain head tail ih => exact chain_isFollowed ih head
  | transform mapper checker mapperIH checkerIH => exact transform_isFollowed mapperIH checkerIH
  | quantifier predicate cutOn default ih => exact quantifier_isFollowed ih cutOn default
  | curried enclosed slot ih => exact curried_isFollowed ih slot

section Runs

variable {tree : Tree} {input : Option Value} {recorder : Recorder}

theorem eval_of_account_ok {account : Account}
    (given : tree.account recorder.settings recorder.flipped input = .ok account) :
    tree.eval input recorder = .ok account.outcome (recorder.extend account.forest) := by
  have follows := tree.eval_follows input recorder
  rw [given] at follows
  exact follows

theorem eval_of_account_error {fault : Fault}
    (given : tree.account recorder.settings recorder.flipped input = .error fault) :
    ¬ fault.IsMisuse ∧ ∃ after, tree.eval input recorder = .error fault after ∧
      recorder.Abandoned after := by
  have follows := tree.eval_follows input recorder
  rw [given] at follows
  exact follows

/-- A run that ends well has given and appended what the account says. -/
theorem account_of_eval_ok {outcome : Outcome Value} {after : Recorder}
    (run : tree.eval input recorder = .ok outcome after) :
    ∃ account, tree.account recorder.settings recorder.flipped input = .ok account ∧
      account.outcome = outcome ∧ recorder.extend account.forest = after := by
  cases given : tree.account recorder.settings recorder.flipped input with
  | error fault =>
      obtain ⟨-, left, aborted, -⟩ := eval_of_account_error given
      rw [run] at aborted
      cases aborted
  | ok account =>
      have ended := eval_of_account_ok given
      rw [run] at ended
      cases ended
      exact ⟨account, rfl, rfl, rfl⟩

end Runs

end Tree

/-- What an evaluation with this account leaves behind. -/
def Account.evaluation (settings : Settings) (account : Account) : Evaluation where
  outcome := account.outcome
  trace := account.forest.rows 0
  journal := account.forest.events settings 0

/-- A valid tree is evaluated by its account: the rows of the trace are those of the forest. -/
theorem Tree.evaluate_eq_account (settings : Settings) (tree : Tree) (input : Value) :
    tree.evaluate settings input = tree.validate.bind fun _ =>
      (tree.account settings false (some input)).map (Account.evaluation settings) := by
  cases valid : tree.validate with
  | error fault => simp [Tree.evaluate, valid, Bind.bind, Except.bind]
  | ok _ =>
      have follows := tree.eval_follows (some input) { settings }
      cases given : tree.account settings false (some input) with
      | error fault =>
          simp only [given] at follows
          obtain ⟨-, after, aborted, -⟩ := follows
          simp only [Tree.evaluate, valid, Bind.bind, Except.bind, aborted, Except.map]
          rfl
      | ok account =>
          simp only [given] at follows
          have reached : tree.eval (some input) { settings } =
            .ok account.outcome (Recorder.extend { settings } account.forest) := follows
          have finished := Recorder.trace?_extend_new settings false account.forest
          have told : (Recorder.extend { settings } account.forest).journal.toList =
              account.forest.events settings 0 := by
            simp [Recorder.extend, Recorder.note, Recorder.level]
          simp only [Tree.evaluate, valid, Bind.bind, Except.bind, reached, finished, told]
          rfl

end Rationale
