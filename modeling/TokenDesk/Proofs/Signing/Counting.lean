import TokenDesk.Signing.Scripted

/-!
What a poller counts.

A poller counts its attempts up and the queries that remain down to zero. Both counts depend on
nothing but the ceiling and the number of statuses, so they are right also behind a status that has
decided the request (`Poller.trace_counted`), and words of 32 bits hold them as long as fewer than
2^32 statuses are counted (`PollWords.exists_after?`).

`Round.play` is one round of the polling, and `Round.HeadAt` leads from round to round without a
bound on their number. It is the counts that bound it: at the head of every round they add up to the
ceiling and a query remains (`Round.HeadAt.counted`), so there is a last round, and what it comes to
is what `poll` gives (`Round.HeadAt.exists_ended`). The main statement is `polling_counted`.
-/

namespace TokenDesk.Signing

variable {α σ : Type} {ceiling : UInt32} {k : Nat}

/-! ## Counting in words -/

/-- The two counts of a poller in words of 32 bits. -/
structure PollWords where
  remaining : UInt32
  attempts : UInt32
  deriving DecidableEq, Repr

namespace PollWords

/-- Counts a status. What remains stops at zero; one attempt more than a word holds overflows. -/
def count? (w : PollWords) : Option PollWords :=
  if w.attempts.toNat + 1 < UInt32.size then
    some ⟨if w.remaining = 0 then 0 else w.remaining - 1, w.attempts + 1⟩
  else none

/-- The words after so many statuses. -/
def after? (ceiling : UInt32) : Nat → Option PollWords
  | 0 => some ⟨ceiling, 0⟩
  | k + 1 => (after? ceiling k).bind count?

theorem exists_count? {w : PollWords} (room : w.attempts.toNat + 1 < UInt32.size) :
    ∃ w', w.count? = some w' ∧ w'.attempts.toNat = w.attempts.toNat + 1 ∧
      w'.remaining.toNat = w.remaining.toNat - 1 := by
  refine ⟨_, if_pos room, ?_, ?_⟩
  · have one : (1 : UInt32).toNat = 1 := rfl
    rw [UInt32.toNat_add, one]
    exact Nat.mod_eq_of_lt room
  · dsimp only
    split
    · rename_i nothing
      rw [nothing]
      rfl
    · rename_i something
      have positive : (1 : UInt32) ≤ w.remaining := by
        rw [UInt32.le_iff_toNat_le]
        exact Nat.pos_of_ne_zero fun zero => something (UInt32.toNat_inj.mp zero)
      exact UInt32.toNat_sub_of_le _ _ positive

/-- Words are enough for fewer statuses than a word has values. -/
theorem exists_after? (ceiling : UInt32) (short : k < UInt32.size) :
    ∃ w, after? ceiling k = some w ∧ w.attempts.toNat = k ∧
      w.remaining.toNat = ceiling.toNat - k := by
  induction k with
  | zero => exact ⟨_, rfl, rfl, rfl⟩
  | succ k ih =>
    obtain ⟨w, reached, attempts, remaining⟩ := ih (Nat.lt_of_succ_lt short)
    obtain ⟨w', counted, attempts', remaining'⟩ := exists_count? (attempts.symm ▸ short)
    refine ⟨w', ?_, attempts'.trans (congrArg (· + 1) attempts), ?_⟩
    · rw [after?, reached]
      exact counted
    · rw [remaining', remaining, Nat.sub_sub]

end PollWords

/-! ## Counting statuses -/

/-- What a poller has counted after `k` statuses, and that words of 32 bits hold it. -/
structure Poller.Counted (p : Poller) (ceiling : UInt32) (k : Nat) : Prop where
  attempts : p.attempts = k
  remaining : p.remaining = ceiling.toNat - k
  held : ∃ w, PollWords.after? ceiling k = some w ∧ w.attempts.toNat = p.attempts ∧
    w.remaining.toNat = p.remaining

/-- What a poller says after the `k`-th status, by this status and a ceiling. -/
structure PollState.Tells (state : PollState α) (ceiling k : Nat) (status : RemoteStatus α) :
    Prop where
  signed : ∀ a, state = .signed a ↔ status = .signed a
  failed : ∀ reason, state = .failed reason ↔ status = .failed reason
  timedOut : ∀ n, state = .timedOut n ↔ status = .pending ∧ ceiling ≤ k ∧ n = k
  pending : ∀ n, state = .pending n ↔ status = .pending ∧ k < ceiling ∧ n = ceiling - k

namespace Poller

variable {p : Poller}

theorem Counted.of_counts (attempts : p.attempts = k) (remaining : p.remaining = ceiling.toNat - k)
    (short : k < UInt32.size) : p.Counted ceiling k := by
  obtain ⟨w, reached, attempts', remaining'⟩ := PollWords.exists_after? ceiling short
  exact ⟨attempts, remaining, w, reached, attempts'.trans attempts.symm,
    remaining'.trans remaining.symm⟩

theorem start_counted (request : String) (config : PollConfig) :
    (start request config).Counted config.maxAttempts 0 :=
  .of_counts rfl rfl (by decide)

/-- One more status is one more attempt, and one query less if there is any. -/
theorem Counted.advance (counted : p.Counted ceiling k) (short : k + 1 < UInt32.size)
    (status : RemoteStatus α) : (p.advance status).2.Counted ceiling (k + 1) := by
  refine .of_counts ?_ ?_ short
  · exact congrArg (· + 1) counted.attempts
  · have less : (p.advance status).2.remaining = p.remaining - 1 := rfl
    rw [less, counted.remaining, Nat.sub_sub]

/-- A decided status is passed on, and a pending one is judged by what remains after it. -/
theorem Counted.tells (counted : p.Counted ceiling k) (status : RemoteStatus α) :
    (p.advance status).1.Tells ceiling.toNat (k + 1) status := by
  cases status with
  | signed a => constructor <;> simp [Poller.advance]
  | failed reason => constructor <;> simp [Poller.advance]
  | pending =>
    have judged : (p.advance (.pending : RemoteStatus α)).1 =
        if ceiling.toNat ≤ k + 1 then .timedOut (k + 1)
        else .pending (ceiling.toNat - (k + 1)) := by
      simp only [Poller.advance, counted.attempts, counted.remaining, Nat.sub_sub,
        Nat.sub_eq_zero_iff_le]
    rw [judged]
    -- At the ceiling the status ends the polling, below it a positive number of queries remains.
    split
    · constructor <;> simp <;> omega
    · constructor <;> simp <;> omega

/-- What a poller says after each of some statuses, and the poller then. -/
def trace (p : Poller) : List (RemoteStatus α) → List (PollState α × Poller)
  | [] => []
  | status :: rest => p.advance status :: (p.advance status).2.trace rest

/-- Any statuses are counted, whatever they say and whatever was said before. -/
theorem trace_counted {statuses : List (RemoteStatus α)} {status : RemoteStatus α} {n : Nat}
    (counted : p.Counted ceiling n) (short : n + statuses.length < UInt32.size)
    (fed : statuses[k]? = some status) :
    ∃ state next, (p.trace statuses)[k]? = some (state, next) ∧
      next.Counted ceiling (n + k + 1) ∧ state.Tells ceiling.toNat (n + k + 1) status := by
  induction statuses generalizing p n k with
  | nil => cases fed
  | cons front rest ih =>
    rw [List.length_cons] at short
    have next := counted.advance (by omega) front
    cases k with
    | zero =>
      cases fed
      exact ⟨_, _, rfl, next, counted.tells status⟩
    | succ k =>
      have place : n + (k + 1) + 1 = n + 1 + k + 1 := by omega
      rw [place]
      exact ih next (by omega) fed

end Poller

/-! ## Rounds of the polling -/

/-- What the polling carries from round to round. -/
structure Round (σ : Type) where
  poller : Poller
  lastError : Option String
  time : Timeline
  state : σ

/-- How a round ends. -/
inductive RoundEnd (σ : Type)
  /-- The polling is over or waits in vain, and this is what has been counted. -/
  | ended (poller : Poller) (run : Run σ (Except Error Material))
  | again (next : Round σ)

namespace Round

variable {provider : Provider σ} {config : PollConfig} {request : String} {interval began : Nat}
  {t : Timeline} {s : σ} {r : Round σ}

/-- Where the polling of a request begins. -/
def start (request : String) (config : PollConfig) (t : Timeline) (s : σ) : Round σ :=
  ⟨.start request config, none, t, s⟩

/-- Waits and asks, and counts the status if there is one. -/
def play (provider : Provider σ) (interval began : Nat) (r : Round σ) : RoundEnd σ :=
  match r.time.race (fun s => (Wait.pause interval, s)) r.state with
  | (.endless t, s) => .ended r.poller ⟨none, t, s⟩
  | (.cancelled t, s) =>
    .ended r.poller ⟨some (.error (.cancelled (some r.poller.request))), t, s⟩
  | (.answered _ t, s) =>
    match t.race (provider.status r.poller.request) s with
    | (.endless t, s) => .ended r.poller ⟨none, t, s⟩
    | (.cancelled t, s) =>
      .ended r.poller ⟨some (.error (.cancelled (some r.poller.request))), t, s⟩
    | (.answered answer t, s) =>
      match r.poller.advance (observe answer).1 with
      | (.signed material, p) => .ended p ⟨some (.ok material), t, s⟩
      | (.failed reason, p) => .ended p ⟨some (.error (.rejected r.poller.request reason)), t, s⟩
      | (.timedOut attempts, p) =>
        .ended p ⟨some (.error (.timedOut r.poller.request attempts (t.now - began)
          (observe answer).2)), t, s⟩
      | (.pending _, p) => .again ⟨p, (observe answer).2, t, s⟩

/-- The head of a round, with the number of rounds before it. There is no bound on that. -/
inductive HeadAt (provider : Provider σ) (interval began : Nat) (origin : Round σ) :
    Nat → Round σ → Prop
  | origin : HeadAt provider interval began origin 0 origin
  | again {k : Nat} {r next : Round σ} : HeadAt provider interval began origin k r →
    r.play provider interval began = .again next →
    HeadAt provider interval began origin (k + 1) next

/-- Polling with some queries left plays a round, and goes on with the next if there is one. -/
theorem pollFrom_eq_play (provider : Provider σ) (interval began left : Nat) (r : Round σ) :
    pollFrom provider interval began (left + 1) r.poller r.lastError r.time r.state =
      match r.play provider interval began with
      | .ended _ run => run
      | .again next =>
        pollFrom provider interval began left next.poller next.lastError next.time next.state := by
  rw [pollFrom, play]
  rcases r.time.race (fun s => (Wait.pause interval, s)) r.state with ⟨waited, s⟩
  cases waited with
  | endless t => rfl
  | cancelled t => rfl
  | answered _ t =>
    dsimp only
    rcases t.race (provider.status r.poller.request) s with ⟨waited, s⟩
    cases waited with
    | endless t => rfl
    | cancelled t => rfl
    | answered answer t =>
      dsimp only
      rcases r.poller.advance (observe answer).1 with ⟨state, next⟩
      cases state with
      | pending remaining => rfl
      | signed material => rfl
      | failed reason => rfl
      | timedOut attempts => rfl

/-- Every round counts one status at most, and one that is not the last counts a pending one. -/
theorem of_play (provider : Provider σ) (interval began : Nat) (r : Round σ) :
    match r.play provider interval began with
    | .ended p _ =>
      p = r.poller ∨ ∃ status : RemoteStatus Material, p = (r.poller.advance status).2
    | .again next => ∃ (status : RemoteStatus Material) (remaining : Nat),
      r.poller.advance status = (.pending remaining, next.poller) := by
  unfold play
  rcases r.time.race (fun s => (Wait.pause interval, s)) r.state with ⟨waited, s⟩
  cases waited with
  | endless t => exact Or.inl rfl
  | cancelled t => exact Or.inl rfl
  | answered _ t =>
    dsimp only
    rcases t.race (provider.status r.poller.request) s with ⟨waited, s⟩
    cases waited with
    | endless t => exact Or.inl rfl
    | cancelled t => exact Or.inl rfl
    | answered answer t =>
      dsimp only
      rcases advanced : r.poller.advance (observe answer).1 with ⟨state, next⟩
      have counted : next = (r.poller.advance (observe answer).1).2 := by rw [advanced]
      cases state with
      | pending remaining => exact ⟨_, remaining, advanced⟩
      | signed material => exact Or.inr ⟨_, counted⟩
      | failed reason => exact Or.inr ⟨_, counted⟩
      | timedOut attempts => exact Or.inr ⟨_, counted⟩

/-- A ceiling that allows a query is not used up at the head of any round. -/
theorem HeadAt.counted (some_query : 0 < config.maxAttempts.toNat)
    (head : HeadAt provider interval began (start request config t s) k r) :
    r.poller.Counted config.maxAttempts k ∧ k < config.maxAttempts.toNat := by
  induction head with
  | origin => exact ⟨Poller.start_counted request config, some_query⟩
  | @again k r next head again ih =>
    obtain ⟨counted, below⟩ := ih
    have step := of_play provider interval began r
    rw [again] at step
    obtain ⟨status, remaining, advanced⟩ := step
    have short : k + 1 < UInt32.size := Nat.lt_of_le_of_lt below config.maxAttempts.toNat_lt_size
    have further := counted.advance short status
    have pending := (counted.tells status).pending remaining
    rw [advanced] at further pending
    exact ⟨further, (pending.mp rfl).2.1⟩

/-- From the head of a round on, what is left of the ceiling is enough to come to an end. -/
theorem HeadAt.exists_ended (some_query : 0 < config.maxAttempts.toNat)
    (head : HeadAt provider interval began (start request config t s) k r) :
    ∃ k' r' p, HeadAt provider interval began (start request config t s) k' r' ∧
      r'.play provider interval began =
        .ended p (pollFrom provider interval began (config.maxAttempts.toNat - k) r.poller
          r.lastError r.time r.state) := by
  -- On what is left of the ceiling: a round that is not the last has used one query, and `counted`
  -- says that the head of the next one is still below the ceiling.
  generalize enough : config.maxAttempts.toNat - k = left
  induction left generalizing k r with
  | zero =>
    have below := (head.counted some_query).2
    omega
  | succ left ih =>
    rw [pollFrom_eq_play]
    rcases played : r.play provider interval began with ⟨p, run⟩ | next
    · exact ⟨k, r, p, head, played⟩
    · exact ih (head.again played) (by omega)

end Round

/-- What a run of the polling counts. -/
structure CountsRounds (provider : Provider σ) (config : PollConfig) (request : String)
    (t : Timeline) (s : σ) : Prop where
  /-- If no query is allowed nothing is asked or counted. -/
  unasked : config.maxAttempts.toNat = 0 →
    poll provider config request t s = ⟨some (.error (.timedOut request 0 0 none)), t, s⟩
  /-- At the head of every round the counts make up the ceiling, and a query remains. -/
  heads : 0 < config.maxAttempts.toNat → ∀ k r,
    Round.HeadAt provider config.interval t.now (.start request config t s) k r →
      r.poller.Counted config.maxAttempts k ∧ 0 < r.poller.remaining ∧
        r.poller.attempts + r.poller.remaining = config.maxAttempts.toNat
  /-- One of the rounds is the last, and the ceiling is kept to. -/
  ends : 0 < config.maxAttempts.toNat → ∃ k r p n,
    Round.HeadAt provider config.interval t.now (.start request config t s) k r ∧
      r.play provider config.interval t.now = .ended p (poll provider config request t s) ∧
      p.Counted config.maxAttempts n ∧ n ≤ config.maxAttempts.toNat

theorem countsRounds (provider : Provider σ) (config : PollConfig) (request : String)
    (t : Timeline) (s : σ) : CountsRounds provider config request t s where
  unasked zero := by
    rw [poll, zero, pollFrom, Nat.sub_self]
    rfl
  heads some_query k r head := by
    obtain ⟨counted, below⟩ := head.counted some_query
    refine ⟨counted, ?_, ?_⟩
    · rw [counted.remaining]
      exact Nat.sub_pos_of_lt below
    · rw [counted.attempts, counted.remaining]
      exact Nat.add_sub_of_le (Nat.le_of_lt below)
  ends some_query := by
    have begins : Round.HeadAt provider config.interval t.now (.start request config t s) 0
        (.start request config t s) := .origin
    obtain ⟨k, r, p, head, ended⟩ := begins.exists_ended some_query
    obtain ⟨counted, below⟩ := head.counted some_query
    have last := Round.of_play provider config.interval t.now r
    rw [ended] at last
    rcases last with same | ⟨status, advanced⟩
    · exact ⟨k, r, p, k, head, ended, same ▸ counted, Nat.le_of_lt below⟩
    · have short : k + 1 < UInt32.size :=
        Nat.lt_of_le_of_lt below config.maxAttempts.toNat_lt_size
      exact ⟨k, r, p, k + 1, head, ended, advanced ▸ counted.advance short status, below⟩

/-- **Counting.** Whatever statuses a poller is fed, also after the request is decided, it has made
one attempt for each of them and has that many queries less than its ceiling, or none; what it says
is the status itself, or for a pending one whether the ceiling is reached. So the rounds of the
polling come to an end within the ceiling, whatever it is, and at the head of each of them the two
counts add up to it. Words of 32 bits hold both all the time. -/
theorem polling_counted (provider : Provider σ) (config : PollConfig) (request : String)
    (t : Timeline) (s : σ) :
    (∀ {α : Type} (statuses : List (RemoteStatus α)), statuses.length < UInt32.size →
      ∀ k status, statuses[k]? = some status →
        ∃ (state : PollState α) (next : Poller),
          ((Poller.start request config).trace statuses)[k]? = some (state, next) ∧
          next.Counted config.maxAttempts (k + 1) ∧
          state.Tells config.maxAttempts.toNat (k + 1) status) ∧
      CountsRounds provider config request t s := by
  refine ⟨?_, countsRounds provider config request t s⟩
  intro α statuses short k status fed
  have traced := Poller.trace_counted (Poller.start_counted request config)
    ((Nat.zero_add _).symm ▸ short) fed
  rw [Nat.zero_add] at traced
  exact traced

/-- At the greatest ceiling, a status behind a signature is one that is counted, and the rounds of a
scripted provider come to an end. -/
theorem polling_counted_greatest :
    let config : PollConfig := ⟨4294967295, 1000⟩
    let provider := Scripted.provider
    let script := Scripted.ofScript [.pending, .signed (.whole "0a0b")]
    let t := Timeline.start none fun _ => true
    (∃ next, ((Poller.start "request" config).trace [.pending, .signed 7, .pending])[2]? =
        some (.pending 4294967292, next) ∧ next.attempts = 3) ∧
      ∃ k r p, Round.HeadAt provider 1000 0 (.start "request" config t script) k r ∧
        r.play provider 1000 0 = .ended p (poll provider config "request" t script) ∧
        p.attempts ≤ 4294967295 := by
  intro config provider script t
  obtain ⟨statuses, rounds⟩ := polling_counted provider config "request" t script
  obtain ⟨state, next, fed, counted, tells⟩ :=
    statuses [.pending, .signed 7, .pending] (by decide) 2 .pending rfl
  have pending : state = .pending 4294967292 :=
    (tells.pending _).mpr ⟨rfl, by decide, by decide⟩
  obtain ⟨k, r, p, n, head, ended, counted', within⟩ := rounds.ends (by decide)
  exact ⟨⟨next, pending ▸ fed, counted.attempts⟩, k, r, p, head, ended,
    counted'.attempts.symm ▸ within⟩

end TokenDesk.Signing
