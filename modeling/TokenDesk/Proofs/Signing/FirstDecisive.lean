import Mathlib.Algebra.BigOperators.Group.Finset.Basic
import Mathlib.Data.Nat.Find
import TokenDesk.Signing.Custodial
import TokenDesk.Proofs.Timing

/-!
Custodial signing takes the first decisive answer.

`Respondent` is a provider that answers the creation in a given way and the status queries by an
infinite sequence; it writes down everything it is asked. Against it a call that is not cancelled
asks until an answer decides (`decision?`) or the allowed number of queries is used up, and its
result is what that answer decides. `pollFrom_pending` and `pollFrom_decisive` are the two steps of
the polling, and `pollFrom_run` puts the pending ones together.
-/

namespace TokenDesk.Signing

/-! ## Decisions -/

/-- What an answer to a status query decides about a request; nothing if it leaves it pending. -/
def decision? (request : String) :
    Except ProviderError (RemoteStatus Material) → Option (Except Error Material)
  | .ok .pending => none
  | .ok (.signed material) => some (.ok material)
  | .ok (.failed reason) => some (.error (.rejected request reason))
  | .error e => if e.isPermanent then some (.error (.rejected request e.message)) else none

/-- The text of a query that failed. -/
def errorText? : Except ProviderError (RemoteStatus Material) → Option String
  | .ok _ => none
  | .error e => some e.message

theorem observe_of_pending {request : String}
    {answer : Except ProviderError (RemoteStatus Material)}
    (pending : decision? request answer = none) :
    observe answer = (.pending, errorText? answer) := by
  cases answer with
  | ok status =>
    cases status with
    | pending => rfl
    | signed material => cases pending
    | failed reason => cases pending
  | error e =>
    dsimp only [decision?] at pending
    split at pending
    · cases pending
    · rename_i temporary
      rw [observe, if_neg temporary]
      rfl

theorem observe_of_decisive {request : String}
    {answer : Except ProviderError (RemoteStatus Material)} {outcome : Except Error Material}
    (decided : decision? request answer = some outcome) :
    (∃ material, observe answer = (.signed material, none) ∧ outcome = .ok material) ∨
      ∃ reason, observe answer = (.failed reason, none) ∧
        outcome = .error (.rejected request reason) := by
  cases answer with
  | ok status =>
    cases status with
    | pending => cases decided
    | signed material =>
      cases decided
      exact Or.inl ⟨material, rfl, rfl⟩
    | failed reason =>
      cases decided
      exact Or.inr ⟨reason, rfl, rfl⟩
  | error e =>
    dsimp only [decision?] at decided
    split at decided
    · rename_i permanent
      cases decided
      refine Or.inr ⟨e.message, ?_, rfl⟩
      rw [observe, if_pos permanent]
    · cases decided

/-! ## Respondents -/

/-- What a provider is asked. -/
inductive Question
  | create (payload : Bytes)
  | status (request : String)
  deriving DecidableEq, Repr

/-- Whether a question is a status query. -/
def Question.isStatus : Question → Bool
  | .create _ => false
  | .status _ => true

/-- How a provider answers: the creation, the status queries one after the other, and how many
nanoseconds each answer takes. -/
structure Respondent where
  name : String
  creation : Except ProviderError String
  creationDelay : Nat
  answer : Nat → Except ProviderError (RemoteStatus Material)
  delay : Nat → Nat

/-- The provider that answers like this. Its state is what it has been asked. -/
def Respondent.provider (p : Respondent) : Provider (List Question) where
  name := p.name
  create payload asked :=
    (⟨p.creationDelay, some p.creation, false⟩, asked ++ [.create payload])
  status request asked :=
    let n := asked.countP Question.isStatus
    (⟨p.delay n, some (p.answer n), false⟩, asked ++ [.status request])

/-- The questions of a call with some status queries. -/
def questions (payload : Bytes) (request : String) (queries : Nat) : List Question :=
  .create payload :: List.replicate queries (.status request)

theorem questions_succ (payload : Bytes) (request : String) (n : Nat) :
    questions payload request n ++ [.status request] = questions payload request (n + 1) := by
  rw [questions, questions, List.cons_append, ← List.replicate_succ']

theorem countP_questions (payload : Bytes) (request : String) (n : Nat) :
    (questions payload request n).countP Question.isStatus = n := by
  simp [questions, List.countP_replicate, Question.isStatus]

variable {p : Respondent} {payload : Bytes} {request : String} {interval began left n : Nat}
  {last : Option String} {t : Timeline}

/-! ## Steps of the polling -/

/-- The time when the next answer has come. -/
def Respondent.answeredAt (p : Respondent) (interval n : Nat) (t : Timeline) : Timeline :=
  (t.advance (t.now + interval)).advance (t.now + interval + p.delay n)

theorem Respondent.now_le_answeredAt (p : Respondent) (interval n : Nat) (t : Timeline) :
    t.now ≤ (p.answeredAt interval n t).now :=
  Nat.le_trans (Nat.le_add_right _ interval) (Nat.le_add_right _ _)

/-- One round: a pause and a query, and then what its answer means. -/
theorem pollFrom_round {n : Nat} (clear : t.ClearTo (p.answeredAt interval n t).now)
    (began left : Nat) :
    pollFrom p.provider interval began (left + 1) ⟨request, left + 1, n⟩ last t
        (questions payload request n) =
      match (Poller.mk request (left + 1) n).advance (observe (p.answer n)).1 with
      | (.signed material, _) =>
        ⟨some (.ok material), p.answeredAt interval n t, questions payload request (n + 1)⟩
      | (.failed reason, _) =>
        ⟨some (.error (.rejected request reason)), p.answeredAt interval n t,
          questions payload request (n + 1)⟩
      | (.timedOut attempts, _) =>
        ⟨some (.error (.timedOut request attempts ((p.answeredAt interval n t).now - began)
          (observe (p.answer n)).2)), p.answeredAt interval n t,
          questions payload request (n + 1)⟩
      | (.pending _, poller) =>
        pollFrom p.provider interval began left poller (observe (p.answer n)).2
          (p.answeredAt interval n t) (questions payload request (n + 1)) := by
  have paused : t.race (fun s : List Question => (Wait.pause interval, s))
      (questions payload request n) =
        (.answered () (t.advance (t.now + interval)), questions payload request n) :=
    Timeline.race_of_clear (clear.mono (Nat.le_add_right _ _)) rfl
  have asked : p.provider.status request (questions payload request n) =
      (⟨p.delay n, some (p.answer n), false⟩, questions payload request (n + 1)) := by
    rw [← questions_succ]
    simp only [Respondent.provider, countP_questions]
  have answered := Timeline.race_of_clear (t := t.advance (t.now + interval)) clear asked
  rw [pollFrom]
  simp only [paused, answered]
  rfl

/-- A pending answer leaves one query less. After the last one the polling times out. -/
theorem pollFrom_pending (clear : t.ClearTo (p.answeredAt interval n t).now)
    (pending : decision? request (p.answer n) = none) :
    pollFrom p.provider interval began (left + 1) ⟨request, left + 1, n⟩ last t
        (questions payload request n) =
      pollFrom p.provider interval began left ⟨request, left, n + 1⟩ (errorText? (p.answer n))
        (p.answeredAt interval n t) (questions payload request (n + 1)) := by
  rw [pollFrom_round clear, observe_of_pending pending]
  -- The last query times out at once, and so does polling with no query left.
  cases left with
  | zero => rfl
  | succ left => rfl

/-- A decisive answer ends the polling. -/
theorem pollFrom_decisive (clear : t.ClearTo (p.answeredAt interval n t).now)
    {outcome : Except Error Material} (decided : decision? request (p.answer n) = some outcome) :
    pollFrom p.provider interval began (left + 1) ⟨request, left + 1, n⟩ last t
        (questions payload request n) =
      ⟨some outcome, p.answeredAt interval n t, questions payload request (n + 1)⟩ := by
  rw [pollFrom_round clear]
  rcases observe_of_decisive decided with ⟨material, observed, rfl⟩ | ⟨reason, observed, rfl⟩
  · rw [observed]
    rfl
  · rw [observed]
    rfl

/-! ## Runs of the polling -/

/-- The time when so many answers have come. -/
def Respondent.after (p : Respondent) (interval : Nat) (t : Timeline) : Nat → Timeline
  | 0 => t
  | n + 1 => p.answeredAt interval n (p.after interval t n)

/-- What went wrong with the last of so many queries. -/
def Respondent.lastError (p : Respondent) : Nat → Option String
  | 0 => none
  | n + 1 => errorText? (p.answer n)

/-- A respondent does not cancel the call. -/
theorem Respondent.after_cancelAt (n : Nat) : (p.after interval t n).cancelAt = t.cancelAt := by
  induction n with
  | zero => rfl
  | succ n ih => exact ih

theorem Respondent.after_clearTo {time : Nat} (clear : t.ClearTo time) (n : Nat) :
    (p.after interval t n).ClearTo time := by
  intro c known
  rw [after_cancelAt] at known
  exact clear c known

/-- So many answers take their intervals and their delays. -/
theorem Respondent.after_now (n : Nat) :
    (p.after interval t n).now = t.now + (n * interval + ∑ i ∈ Finset.range n, p.delay i) := by
  induction n with
  | zero => simp [after]
  | succ n ih =>
    have step : (p.after interval t (n + 1)).now =
        (p.after interval t n).now + interval + p.delay n := rfl
    rw [step, ih, Finset.sum_range_succ, Nat.succ_mul]
    omega

/-- As long as the answers are pending the polling goes on, one query less each time. -/
theorem pollFrom_run (clear : t.ClearTo (p.after interval t n).now) (enough : n ≤ left)
    (pending : ∀ i < n, decision? request (p.answer i) = none) :
    pollFrom p.provider interval began left ⟨request, left, 0⟩ none t
        (questions payload request 0) =
      pollFrom p.provider interval began (left - n) ⟨request, left - n, n⟩ (p.lastError n)
        (p.after interval t n) (questions payload request n) := by
  induction n with
  | zero => rfl
  | succ n ih =>
    have remaining : left - n = left - (n + 1) + 1 := by omega
    have sooner : (p.after interval t n).now ≤ (p.after interval t (n + 1)).now :=
      p.now_le_answeredAt interval n _
    rw [ih (clear.mono sooner) (by omega) fun i small => pending i (by omega), remaining]
    exact pollFrom_pending (p.after_clearTo clear n) (pending n (Nat.lt_succ_self n))

/-- The first decisive answer ends the polling with what it decides, if it comes before any
cancellation. -/
theorem poll_decided {config : PollConfig} {outcome : Except Error Material}
    (clear : t.ClearTo (p.after config.interval t (n + 1)).now)
    (allowed : n < config.maxAttempts.toNat)
    (pending : ∀ i < n, decision? request (p.answer i) = none)
    (decided : decision? request (p.answer n) = some outcome) :
    poll p.provider config request t (questions payload request 0) =
      ⟨some outcome, p.after config.interval t (n + 1), questions payload request (n + 1)⟩ := by
  have remaining : config.maxAttempts.toNat - n = config.maxAttempts.toNat - (n + 1) + 1 := by
    omega
  have sooner := p.now_le_answeredAt config.interval n (p.after config.interval t n)
  unfold poll Poller.start
  rw [pollFrom_run (clear.mono sooner) (Nat.le_of_lt allowed) pending, remaining]
  exact pollFrom_decisive (p.after_clearTo clear n) decided

/-- Without a decisive answer all queries are made, and the last one's error is kept. -/
theorem poll_exhausted {config : PollConfig}
    (clear : t.ClearTo (p.after config.interval t config.maxAttempts.toNat).now)
    (pending : ∀ i < config.maxAttempts.toNat, decision? request (p.answer i) = none) :
    poll p.provider config request t (questions payload request 0) =
      ⟨some (.error (.timedOut request config.maxAttempts.toNat
          (config.maxAttempts.toNat * config.interval +
            ∑ i ∈ Finset.range config.maxAttempts.toNat, p.delay i)
          (p.lastError config.maxAttempts.toNat))),
        p.after config.interval t config.maxAttempts.toNat,
        questions payload request config.maxAttempts.toNat⟩ := by
  unfold poll Poller.start
  rw [pollFrom_run clear (Nat.le_refl _) pending, Nat.sub_self, pollFrom,
    Respondent.after_now, Nat.add_sub_cancel_left]

/-- The answer that ends the polling: the first decisive one, or else the last one allowed. -/
structure Respondent.EndsAt (p : Respondent) (request : String) (ceiling n : Nat) : Prop where
  allowed : n < ceiling
  pending : ∀ i < n, decision? request (p.answer i) = none
  last : decision? request (p.answer n) = none → n + 1 = ceiling

theorem Respondent.exists_endsAt (p : Respondent) (request : String) {ceiling : Nat}
    (some_query : 0 < ceiling) : ∃ n, p.EndsAt request ceiling n := by
  by_cases pending : ∀ i < ceiling, decision? request (p.answer i) = none
  · exact ⟨ceiling - 1, by omega, fun i before => pending i (by omega), fun _ => by omega⟩
  · simp only [not_forall] at pending
    obtain ⟨allowed, decisive⟩ := Nat.find_spec pending
    refine ⟨Nat.find pending, allowed, ?_, fun undecided => absurd undecided decisive⟩
    intro i before
    by_contra sooner
    exact Nat.find_min pending before ⟨Nat.lt_trans before allowed, sooner⟩

/-- What the polling comes to when it ends with an answer. -/
def Respondent.outcome (p : Respondent) (interval : Nat) (request : String) (n : Nat) :
    Except Error Material :=
  (decision? request (p.answer n)).getD (.error (.timedOut request (n + 1)
    ((n + 1) * interval + ∑ i ∈ Finset.range (n + 1), p.delay i) (p.lastError (n + 1))))

/-- If the answer that ends the polling comes before any cancellation, it is the result. -/
theorem poll_of_endsAt {config : PollConfig}
    (ends : p.EndsAt request config.maxAttempts.toNat n)
    (clear : t.ClearTo (p.after config.interval t (n + 1)).now) :
    poll p.provider config request t (questions payload request 0) =
      ⟨some (p.outcome config.interval request n), p.after config.interval t (n + 1),
        questions payload request (n + 1)⟩ := by
  unfold Respondent.outcome
  cases decided : decision? request (p.answer n) with
  | some outcome => exact poll_decided clear ends.allowed ends.pending decided
  | none =>
    have full := ends.last decided
    have undecided : ∀ i < config.maxAttempts.toNat, decision? request (p.answer i) = none := by
      intro i allowed
      rcases Nat.lt_succ_iff_lt_or_eq.mp (full ▸ allowed) with before | rfl
      · exact ends.pending i before
      · exact decided
    rw [full] at clear ⊢
    exact poll_exhausted clear undecided

/-- Whatever a respondent answers, it is asked for no more than the allowed number of statuses. -/
theorem exists_poll_state (p : Respondent) (config : PollConfig) (payload : Bytes)
    (request : String) (uncancelled : t.cancelAt = none) : ∃ n ≤ config.maxAttempts.toNat,
      (poll p.provider config request t (questions payload request 0)).state =
        questions payload request n := by
  rcases Nat.eq_zero_or_pos config.maxAttempts.toNat with zero | some_query
  · refine ⟨0, Nat.zero_le _, ?_⟩
    rw [poll_exhausted (.of_uncancelled uncancelled _) (by simp [zero]), zero]
  · obtain ⟨n, ends⟩ := p.exists_endsAt request some_query
    refine ⟨n + 1, ends.allowed, ?_⟩
    rw [poll_of_endsAt ends (.of_uncancelled uncancelled _)]

/-! ## Signing -/

/-- What signing comes to against a respondent. -/
structure FirstDecisive (p : Respondent) (config : PollConfig) (payload : Bytes)
    (run : Run (List Question) (Except Error Bytes)) : Prop where
  /-- An empty payload is refused without a question. -/
  empty : payload = [] →
    run.state = [] ∧ run.result = some (.error (.malformedPayload .empty))
  /-- Without a request no status is asked for. -/
  uncreated : payload ≠ [] → ∀ e, p.creation = .error e →
    run.state = [.create payload] ∧ run.result = some (.error (.provider p.name e.message))
  /-- The first decisive answer within the ceiling is the last one that is asked for. -/
  decided : payload ≠ [] → ∀ request, p.creation = .ok request →
    ∀ n < config.maxAttempts.toNat, ∀ outcome,
      (∀ i < n, decision? request (p.answer i) = none) →
      decision? request (p.answer n) = some outcome →
      run.state = questions payload request (n + 1) ∧
        run.result = some (outcome.bind Material.reconstruct)
  /-- If none of the answers within the ceiling is decisive, all of them are asked for. -/
  exhausted : payload ≠ [] → ∀ request, p.creation = .ok request →
    (∀ i < config.maxAttempts.toNat, decision? request (p.answer i) = none) →
    run.state = questions payload request config.maxAttempts.toNat ∧
      run.result = some (.error (.timedOut request config.maxAttempts.toNat
        (config.maxAttempts.toNat * config.interval +
          ∑ i ∈ Finset.range config.maxAttempts.toNat, p.delay i)
        (p.lastError config.maxAttempts.toNat)))

/-- Signing a payload that is not empty creates a request, once. -/
theorem signCustodial_of_created (clear : t.ClearTo (t.now + p.creationDelay)) (config : PollConfig)
    (nonempty : payload ≠ []) :
    signCustodial p.provider config payload t [] =
      match p.creation with
      | .error e =>
        ⟨some (.error (.provider p.name e.message)), t.advance (t.now + p.creationDelay),
          [.create payload]⟩
      | .ok request =>
        let run := poll p.provider config request (t.advance (t.now + p.creationDelay))
          (questions payload request 0)
        ⟨run.result.map fun r => r.bind Material.reconstruct, run.time, run.state⟩ := by
  have some_byte : payload.isEmpty = false := by simpa using nonempty
  have created : t.race (p.provider.create payload) [] =
      (.answered p.creation (t.advance (t.now + p.creationDelay)), [.create payload]) :=
    Timeline.race_of_clear clear rfl
  simp only [signCustodial, some_byte, created]
  cases p.creation with
  | error e => rfl
  | ok request => rfl

/-- **First decisive answer.** However a provider answers, a call that is not cancelled asks it for
the creation and for as many statuses as it takes, and gives what the first decisive one says. -/
theorem signCustodial_firstDecisive (p : Respondent) (config : PollConfig) (payload : Bytes)
    (now : Nat) (answerFirst : Nat → Bool) :
    FirstDecisive p config payload
      (signCustodial p.provider config payload ⟨now, none, answerFirst⟩ []) := by
  have uncancelled : (Timeline.mk now none answerFirst).cancelAt = none := rfl
  refine ⟨?_, ?_, ?_, ?_⟩
  · rintro rfl
    exact ⟨rfl, rfl⟩
  · intro nonempty e refused
    rw [signCustodial_of_created (.of_uncancelled uncancelled _) config nonempty, refused]
    exact ⟨rfl, rfl⟩
  · intro nonempty request created n allowed outcome pending decided
    rw [signCustodial_of_created (.of_uncancelled uncancelled _) config nonempty, created]
    dsimp only
    rw [poll_decided (.of_uncancelled rfl _) allowed pending decided]
    exact ⟨rfl, rfl⟩
  · intro nonempty request created pending
    rw [signCustodial_of_created (.of_uncancelled uncancelled _) config nonempty, created]
    dsimp only
    rw [poll_exhausted (.of_uncancelled rfl _) pending]
    exact ⟨rfl, rfl⟩

end TokenDesk.Signing
