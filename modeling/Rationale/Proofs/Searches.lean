/-
Module: Rationale.Proofs.Searches
Purpose: Three ways to put a search for a counterexample: the quantifier that turns its predicate
  round, the negation of the opposite quantifier, and the search for the opposite answer with the
  negated predicate.
Main exports: Tree.searched, Row.HeadsSearch, Tree.SearchAlike, Tree.eval_search_duals
-/
import Rationale.Proofs.Duality
import Rationale.Proofs.Skipping

namespace Rationale

section Outcomes

variable {α β : Type} {settings : Settings} {flipped : Bool} {input : α → Option Value}
  {name : α → β} {visits : List (Visit α)}

/-- A search with the opposite default comes to an answer, or to none, and its negation to what the
search comes to. -/
theorem searchOutcome_opposite (cutOn default : Bool) (form : String)
    (answered : ∀ visit ∈ visits, ∃ form, visit.account.outcome.answer? form = .ok visit.answer) :
    ∃ answer, (searchOutcome cutOn (!default) visits).answer? form = .ok answer ∧
      (searchOutcome cutOn (!default) visits).negated answer =
        searchOutcome cutOn default visits := by
  induction visits with
  | nil => exact ⟨some !default, rfl, by simp [searchOutcome, Outcome.negated]⟩
  | cons visit rest ih =>
      obtain ⟨asked, isAnswer⟩ := answered visit List.mem_cons_self
      rw [searchOutcome, searchOutcome]
      rcases Outcome.cases_of_answer? isAnswer with ⟨given, isGiven, -⟩ | ⟨isNone, -, unanswered⟩
      · rw [isGiven]
        by_cases found : given == cutOn
        · simp only [found, if_true]
          cases default <;> exact ⟨_, rfl, rfl⟩
        · simp only [found]
          exact ih fun other member => answered other (List.mem_cons_of_mem visit member)
      · rw [isNone]
        exact ⟨none, unanswered form, rfl⟩

/-- Searching among the negations for the opposite answer comes to the same. -/
theorem searchOutcome_negated (cutOn default : Bool) :
    searchOutcome (!cutOn) default (visits.map (Visit.negated settings flipped input name)) =
      searchOutcome cutOn default visits := by
  induction visits with
  | nil => rfl
  | cons visit rest ih =>
      rw [List.map_cons, searchOutcome, searchOutcome, ih]
      cases answered : visit.answer with
      | none => simp [Visit.negated, answered, Account.within, Outcome.negated]
      | some given =>
          have same : ((!given) == !cutOn) = (given == cutOn) := by
            cases given <;> cases cutOn <;> rfl
          simp [Visit.negated, answered, same]

/-- A negation stops a search for the opposite answer where its target stops the search. -/
theorem negated_stops (cutOn : Bool) (answer : Option Bool) :
    (answer.map not != some !!cutOn) = (answer != some !cutOn) := by
  cases answer with
  | none => rfl
  | some given => cases given <;> cases cutOn <;> rfl

end Outcomes

/-- The row of a search, whatever there is to explain about it. -/
structure Row.HeadsSearch (form : String) (level : Nat) (flipped : Bool) (input : Option Value)
    (outcome : Outcome Value) (row : Row) : Prop where
  form : row.form = form
  level : row.level = level
  kind : row.kind = .quantifier
  actualInput : row.actual.input = .ofInput input
  expectedOutput : row.expected.output = .value (.bool !flipped)
  actualOutput : row.actual.output = .ofResult outcome.result

/-- The account of a quantifier leaves its row and those inside. -/
theorem Account.rows_quantifier (settings : Settings) (flipped : Bool) (input : Option Value)
    (predicate : Tree) (cutOn default : Bool) (attempt : Attempt) (inner : Forest) (level : Nat) :
    ∃ head : Row,
      head.HeadsSearch (Tree.quantifierForm cutOn default) level flipped input attempt.outcome ∧
      (Account.within settings flipped (Tree.draft input (.quantifier predicate cutOn default))
        attempt inner).forest.rows level = head :: inner.rows (level + 1) :=
  ⟨_, ⟨rfl, rfl, rfl, rfl, rfl, rfl⟩, congrArg (List.cons _) (List.append_nil _)⟩

namespace Tree

/-- The inputs that a quantifier may ask its predicate about: the items of a list one by one, and on
an absent input that input once. -/
def searched : Option Value → List (Option Value)
  | none => [none]
  | some value =>
    match value.list? with
    | .ok items => items.map some
    | .error _ => []

section Accounts

variable {settings : Settings} {flipped : Bool} {predicate : Tree} {input : Option Value}

/-- The visits of a search for `cutOn` with a predicate, on whatever input, and what each of three
ways to put the search makes of them. -/
structure IsSearchedBy (settings : Settings) (predicate : Tree) (cutOn flipped : Bool)
    (input : Option Value) (visits : List (Visit Value)) (part : Value → Option Value)
    (attempt : Attempt) (inner : Outcome Value) : Prop where
  inOrder : (visits.map Visit.subject).map part <+: searched input
  evaluated : ∀ visit ∈ visits,
    predicate.account settings (!flipped) (part visit.subject) = .ok visit.account
  answered : ∀ visit ∈ visits, ∃ form, visit.account.outcome.answer? form = .ok visit.answer
  opposite : inner.result.opposite = attempt.outcome.result
  plain : (quantifier predicate cutOn cutOn).account settings flipped input =
    .ok (.within settings flipped (draft input (.quantifier predicate cutOn cutOn)) attempt
      (forestOf visits))
  outward : (negation (quantifier predicate cutOn !cutOn)).account settings flipped input =
    .ok (.within settings flipped (draft input (.negation predicate)) { outcome := attempt.outcome }
      (Account.within settings (!flipped) (draft input (.quantifier predicate cutOn !cutOn))
        { attempt with outcome := inner } (forestOf visits)).forest)
  inward : (quantifier (negation predicate) (!cutOn) cutOn).account settings flipped input =
    .ok (.within settings flipped (draft input (.quantifier (negation predicate) (!cutOn) cutOn))
      attempt (forestOf (visits.map (Visit.negated settings flipped part id))))

theorem account_quantifier_refused {cutOn default : Bool} {value : Value} {failure : Failure}
    (refused : value.list? = .error failure) :
    (quantifier predicate cutOn default).account settings flipped (some value) =
      .ok (.within settings flipped (draft (some value) (.quantifier predicate cutOn default))
        (.failed value failure) .nil) := by
  rw [account]
  simp only [refused]

section Quantifiers

variable (settings flipped predicate) (cutOn default : Bool) {value : Value}

theorem account_quantifier_none :
    (quantifier predicate cutOn default).account settings flipped none =
      (predicate.account settings (flipped != (cutOn == default)) none).map fun passed =>
        .within settings flipped (draft none (.quantifier predicate cutOn default))
          { outcome := .skipped } passed.forest := by
  rw [account]
  cases predicate.account settings (flipped != (cutOn == default)) none <;> rfl

theorem account_quantifier_list {items : List Value} (listed : value.list? = .ok items) :
    (quantifier predicate cutOn default).account settings flipped (some value) =
      (visit (fun answer => answer != some !cutOn) (items.map fun item =>
        ⟨item, predicate.form,
          predicate.account settings (flipped != (cutOn == default)) (some item)⟩)).map
        fun visits =>
          .within settings flipped (draft (some value) (.quantifier predicate cutOn default))
            { outcome := searchOutcome cutOn default visits } (forestOf visits) := by
  rw [account]
  simp only [listed]
  cases visit _ (items.map _) <;> rfl

end Quantifiers

variable (settings predicate) in
theorem account_quantifier_negation {items : List Value} {cutOn default : Bool} {value : Value}
    (inside : (flipped != ((!cutOn) == default)) = flipped) (listed : value.list? = .ok items) :
    (quantifier (negation predicate) (!cutOn) default).account settings flipped (some value) =
      (visit (fun answer => answer != some !cutOn) (items.map fun item =>
        ⟨item, predicate.form, predicate.account settings (!flipped) (some item)⟩)).map
        fun visits =>
          .within settings flipped
            (draft (some value) (.quantifier (negation predicate) (!cutOn) default))
            { outcome := searchOutcome cutOn default visits }
            (forestOf (visits.map (Visit.negated settings flipped some id))) := by
  have same : visit (fun answer => answer != some !!cutOn) (items.map fun item =>
        ⟨item, (negation predicate).form,
          (negation predicate).account settings flipped (some item)⟩) =
      (visit (fun answer => answer != some !cutOn) (items.map fun item =>
        ⟨item, predicate.form, predicate.account settings (!flipped) (some item)⟩)).map
        (·.map (Visit.negated settings flipped some id)) :=
    visit_map (fun item _ => ask_negation some id predicate item)
      (fun visit => negated_stops cutOn visit.answer)
  rw [account_quantifier_list _ _ _ _ _ listed, inside, same]
  cases visit (fun answer => answer != some !cutOn) (items.map _) with
  | error fault => rfl
  | ok visits => simp only [Except.map, searchOutcome_negated]

/-- The three ways are refused for one fault, or make one search. -/
inductive ThreeWays (settings : Settings) (predicate : Tree) (cutOn flipped : Bool)
    (input : Option Value) : Prop where
  | refused (fault : Fault)
    (plain : (quantifier predicate cutOn cutOn).account settings flipped input = .error fault)
    (outward : (negation (quantifier predicate cutOn !cutOn)).account settings flipped input =
      .error fault)
    (inward : (quantifier (negation predicate) (!cutOn) cutOn).account settings flipped input =
      .error fault)
  | searched {visits : List (Visit Value)} {part : Value → Option Value} {attempt : Attempt}
    {inner : Outcome Value}
    (search : IsSearchedBy settings predicate cutOn flipped input visits part attempt inner)

section Polarity

variable (flipped cutOn : Bool)

theorem plain_polarity : (flipped != (cutOn == cutOn)) = !flipped := by
  cases flipped <;> cases cutOn <;> rfl

theorem outward_polarity : ((!flipped) != (cutOn == !cutOn)) = !flipped := by
  cases flipped <;> cases cutOn <;> rfl

theorem inward_polarity : (flipped != ((!cutOn) == cutOn)) = flipped := by
  cases flipped <;> cases cutOn <;> rfl

end Polarity

variable (settings predicate) in
theorem threeWays_none (cutOn flipped : Bool) :
    ThreeWays settings predicate cutOn flipped none := by
  have plain := account_quantifier_none settings flipped predicate cutOn cutOn
  have opposite := account_quantifier_none settings (!flipped) predicate cutOn (!cutOn)
  have inward := account_quantifier_none settings flipped (negation predicate) (!cutOn) cutOn
  rw [plain_polarity] at plain
  rw [outward_polarity] at opposite
  rw [inward_polarity] at inward
  cases given : predicate.account settings (!flipped) none with
  | error fault =>
      rw [given] at plain opposite
      rw [account_negation_of_fault given] at inward
      exact .refused fault plain (account_negation_of_fault opposite) inward
  | ok passed =>
      -- Any predicate skips an absent input, so that it is the one visit of each search.
      have skipped := ((evaluates_of_account given).skipped rfl).1
      have unanswered : passed.outcome.answer? predicate.form = .ok none := by
        rw [Outcome.answer?, skipped]
      have single (visit : Visit Value) : forestOf [visit] = visit.account.forest :=
        Forest.append_nil _
      rw [given] at plain opposite
      rw [account_negation given unanswered] at inward
      refine .searched (?_ : IsSearchedBy settings predicate cutOn flipped none
        [⟨.null, passed, none⟩] (fun _ => none) { outcome := .skipped } .skipped)
      constructor
      · exact List.prefix_rfl
      · simpa using given
      · simpa using ⟨_, unanswered⟩
      · rfl
      · rw [single]
        exact plain
      · rw [single]
        exact account_negation opposite rfl
      · rw [List.map_singleton, single]
        exact inward

theorem threeWays_refused (settings : Settings) (predicate : Tree) (cutOn flipped : Bool)
    {value : Value} {failure : Failure} (refused : value.list? = .error failure) :
    ThreeWays settings predicate cutOn flipped (some value) := by
  refine .searched (?_ : IsSearchedBy settings predicate cutOn flipped (some value) [] some
    (.failed value failure) (.thrown failure))
  constructor
  · exact List.nil_prefix
  · simp
  · simp
  · rfl
  · exact account_quantifier_refused refused
  · exact account_negation (account_quantifier_refused refused) rfl
  · exact account_quantifier_refused refused

theorem threeWays_list (settings : Settings) (predicate : Tree) (cutOn flipped : Bool)
    {value : Value} {items : List Value} (listed : value.list? = .ok items) :
    ThreeWays settings predicate cutOn flipped (some value) := by
  have plain := account_quantifier_list settings flipped predicate cutOn cutOn listed
  have opposite := account_quantifier_list settings (!flipped) predicate cutOn (!cutOn) listed
  have inward := account_quantifier_negation settings predicate (inward_polarity flipped cutOn)
    listed
  rw [plain_polarity] at plain
  rw [outward_polarity] at opposite
  cases visited : visit (fun answer => answer != some !cutOn) (items.map fun item =>
      ⟨item, predicate.form, predicate.account settings (!flipped) (some item)⟩) with
  | error fault =>
      rw [visited] at plain opposite inward
      exact .refused fault plain (account_negation_of_fault opposite) inward
  | ok visits =>
      rw [visited] at plain opposite inward
      obtain ⟨inOrder, -, each⟩ := visit_ok visited
      have answered : ∀ visit ∈ visits, ∃ form,
          visit.account.outcome.answer? form = .ok visit.answer :=
        fun visit member => ⟨_, (each visit member).2⟩
      obtain ⟨answer, isAnswer, negates⟩ := searchOutcome_opposite cutOn cutOn
        (quantifier predicate cutOn !cutOn).form answered
      refine .searched (?_ : IsSearchedBy settings predicate cutOn flipped (some value) visits some
        { outcome := searchOutcome cutOn cutOn visits } (searchOutcome cutOn (!cutOn) visits))
      constructor
      · rw [searched, listed]
        exact inOrder.map some
      · exact fun visit member => (each visit member).1
      · exact answered
      · rw [← negates]
        exact (Outcome.result_negated isAnswer).symm
      · exact plain
      · rw [← negates]
        exact account_negation opposite isAnswer
      · exact inward

theorem threeWays (settings : Settings) (predicate : Tree) (cutOn flipped : Bool)
    (input : Option Value) : ThreeWays settings predicate cutOn flipped input := by
  cases input with
  | none => exact threeWays_none settings predicate cutOn flipped
  | some value =>
      cases listed : value.list? with
      | error failure => exact threeWays_refused settings predicate cutOn flipped listed
      | ok items => exact threeWays_list settings predicate cutOn flipped listed

end Accounts

/-- Three trees evaluated here are refused for one fault, or give one outcome after asking the
predicate about the same inputs.  For each of these the predicate leaves the same rows in all three,
those that it leaves on its own under the other polarity: one level further in below the row of the
plain search, and two levels further in below a negation and a search, and below a search and a
negation for each input. -/
def SearchAlike (predicate plain target inward : Tree) (input : Option Value)
    (recorder : Recorder) : Prop :=
  match plain.eval input recorder, (negation target).eval input recorder,
    inward.eval input recorder with
  | .ok outcome after, .ok other later, .ok third last =>
    outcome = other ∧ outcome = third ∧
      ∃ (shares : List (Share (Option Value))) (plainRow targetRow inwardRow : Row),
        shares.map Share.part <+: searched input ∧
        (∀ share ∈ shares,
          recorder.flip.Gains predicate share.part share.outcome share.rows) ∧
        plainRow.HeadsSearch plain.form recorder.level recorder.flipped input outcome ∧
        targetRow.HeadsSearch target.form (recorder.level + 1) (!recorder.flipped) input
          outcome.opposite ∧
        inwardRow.HeadsSearch inward.form recorder.level recorder.flipped input outcome ∧
        recorder.Appends after
          (plainRow :: shares.flatMap fun share => share.rows.map (Row.deepen 1)) ∧
        recorder.Appends later
          (.ofNegation recorder.level recorder.flipped input outcome :: targetRow ::
            shares.flatMap fun share => share.rows.map (Row.deepen 2)) ∧
        recorder.Appends last
          (inwardRow :: shares.flatMap fun share =>
            .ofNegation (recorder.level + 1) recorder.flipped share.part share.outcome.opposite ::
              share.rows.map (Row.deepen 2))
  | .error fault _, .error other _, .error third _ => fault = other ∧ fault = third
  | _, _, _ => False

theorem searchAlike (predicate : Tree) (cutOn : Bool) (input : Option Value)
    (recorder : Recorder) :
    SearchAlike predicate (quantifier predicate cutOn cutOn) (quantifier predicate cutOn !cutOn)
      (quantifier (negation predicate) (!cutOn) cutOn) input recorder := by
  rw [SearchAlike]
  cases threeWays recorder.settings predicate cutOn recorder.flipped input with
  | refused fault plain outward inward =>
      obtain ⟨-, after, aborted, -⟩ := eval_of_account_error plain
      obtain ⟨-, later, alsoAborted, -⟩ := eval_of_account_error outward
      obtain ⟨-, last, lastAborted, -⟩ := eval_of_account_error inward
      rw [aborted, alsoAborted, lastAborted]
      exact ⟨rfl, rfl⟩
  | @searched visits part attempt inner search =>
      obtain ⟨plainRow, heads, plainRows⟩ := Account.rows_quantifier recorder.settings
        recorder.flipped input predicate cutOn cutOn attempt (forestOf visits) recorder.level
      obtain ⟨targetRow, headsTarget, targetRows⟩ := Account.rows_quantifier recorder.settings
        (!recorder.flipped) input predicate cutOn (!cutOn) { attempt with outcome := inner }
        (forestOf visits) (recorder.level + 1)
      obtain ⟨inwardRow, headsInward, inwardRows⟩ := Account.rows_quantifier recorder.settings
        recorder.flipped input (negation predicate) (!cutOn) cutOn attempt
        (forestOf (visits.map (Visit.negated recorder.settings recorder.flipped part id)))
        recorder.level
      rw [eval_of_account_ok search.plain, eval_of_account_ok search.outward,
        eval_of_account_ok search.inward]
      refine ⟨rfl, rfl, visits.map (Visit.share recorder.level part), plainRow, targetRow,
        inwardRow, ?_, ?_, heads, ?_, headsInward, ?_, ?_, ?_⟩
      · rw [List.map_map]
        have inOrder := search.inOrder
        rwa [List.map_map] at inOrder
      · intro share member
        obtain ⟨visit, isVisit, rfl⟩ := List.mem_map.mp member
        exact recorder.flip.gains_of_account (search.evaluated visit isVisit)
      · refine { headsTarget with actualOutput := ?_ }
        have turned : attempt.outcome.result.opposite = inner.result := by
          rw [← search.opposite, Result.opposite_opposite]
        rw [headsTarget.actualOutput]
        exact congrArg Cell.ofResult turned.symm
      · refine recorder.appends_of_rows ?_
        rw [plainRows, rows_forestOf _ 1 part]
      · refine recorder.appends_of_rows ?_
        rw [Account.rows_negation, targetRows, rows_forestOf _ 2 part]
        rfl
      · refine recorder.appends_of_rows ?_
        rw [inwardRows, rows_forestOf_negated part _ part id (fun _ => rfl) search.answered]
        rfl

/-- That no item matches, that all items match the negation, and that not any item matches: these
three are one question, and so are the three that not all items match, that any item matches the
negation, and the negation of all items matching. -/
theorem eval_search_duals (predicate : Tree) (input : Option Value) (recorder : Recorder) :
    SearchAlike predicate (noneMatch predicate) (anyMatch predicate)
        (allMatch (negation predicate)) input recorder ∧
      SearchAlike predicate (notAllMatch predicate) (allMatch predicate)
        (anyMatch (negation predicate)) input recorder :=
  ⟨searchAlike predicate true input recorder, searchAlike predicate false input recorder⟩

end Tree

end Rationale
