import TokenDesk.Proofs.Signing.FirstDecisive

/-!
Cancelling a poll truncates it.

A respondent that answers at once is asked at the multiples of the interval. A cancellation between
two of them meets the polling in a pause (`pollFrom_cancelled`), and what went before is the run
that is not cancelled (`poll_cut`). So the call either ends before the cancellation, like the one
that is not cancelled, or is cut off after the queries made so far (`poll_truncated`).
-/

namespace TokenDesk.Signing

variable {α : Type} {p : Respondent} {payload : Bytes} {request : String} {interval c k n : Nat}
  {config : PollConfig} {t : Timeline}

/-! ## A cancellation in a pause -/

/-- A cancellation in a pause ends the polling, and nothing more is asked. -/
theorem pollFrom_cancelled {σ : Type} {provider : Provider σ} (known : t.cancelAt = some c)
    (live : t.now < c) (early : c < t.now + interval) (began left : Nat) (poller : Poller)
    (last : Option String) (s : σ) :
    pollFrom provider interval began (left + 1) poller last t s =
      ⟨some (.error (.cancelled (some poller.request))), t.advance c, s⟩ := by
  have paused : t.race (fun s : σ => (Wait.pause interval, s)) s = (.cancelled (t.advance c), s) :=
    Timeline.race_of_cancelled known live early rfl
  rw [pollFrom]
  simp only [paused]

/-- A cancellation in the pause after some pending answers. -/
theorem poll_cut (known : t.cancelAt = some c) (live : (p.after config.interval t n).now < c)
    (early : c < (p.after config.interval t n).now + config.interval)
    (allowed : n < config.maxAttempts.toNat)
    (pending : ∀ i < n, decision? request (p.answer i) = none) :
    poll p.provider config request t (questions payload request 0) =
      ⟨some (.error (.cancelled (some request))), (p.after config.interval t n).advance c,
        questions payload request n⟩ := by
  have clear := Timeline.ClearTo.of_known known live
  have remaining : config.maxAttempts.toNat - n = config.maxAttempts.toNat - (n + 1) + 1 := by
    omega
  unfold poll Poller.start
  rw [pollFrom_run clear (Nat.le_of_lt allowed) pending, remaining]
  exact pollFrom_cancelled ((p.after_cancelAt n).trans known) live early _ _ _ _ _

/-- Answers that come at once take only the pauses. -/
theorem Respondent.after_now_of_prompt (prompt : ∀ i, p.delay i = 0) (n : Nat) :
    (p.after interval t n).now = t.now + n * interval := by
  simp [after_now, prompt]

/-! ## Truncation -/

/-- Two runs whose polling began at one time: one that is not cancelled and asks so many times, and
one that is cancelled after `c` nanoseconds of polling. -/
structure Truncates (payload : Bytes) (request : String) (interval began c k : Nat)
    (quiet cut : Run (List Question) (Except Error α)) : Prop where
  /-- The run that is not cancelled ends with its last query. -/
  finished : quiet.result.isSome = true
  asked : quiet.state = questions payload request k
  ended : quiet.time.now = began + k * interval
  /-- If that is before the cancellation, the other one is the same. -/
  kept : k * interval < c → cut.result = quiet.result ∧ cut.state = quiet.state
  /-- Otherwise it is cancelled, there and then, with the queries made so far. -/
  dropped : c ≤ k * interval → cut.result = some (.error (.cancelled (some request))) ∧
    cut.state = questions payload request (c / interval) ∧ cut.time.now = began + c

/-- A result is rebuilt from what the polling gave, and a cancellation stays one. -/
theorem Truncates.bind {began : Nat} {quiet cut : Run (List Question) (Except Error Material)}
    (truncates : Truncates payload request interval began c k quiet cut)
    (f : Material → Except Error α) :
    Truncates payload request interval began c k
      (⟨quiet.result.map fun r => r.bind f, quiet.time, quiet.state⟩ :
        Run (List Question) (Except Error α))
      ⟨cut.result.map fun r => r.bind f, cut.time, cut.state⟩ where
  finished := Option.isSome_map.trans truncates.finished
  asked := truncates.asked
  ended := truncates.ended
  kept before := by
    obtain ⟨result, state⟩ := truncates.kept before
    exact ⟨congrArg (Option.map fun r => r.bind f) result, state⟩
  dropped after := by
    obtain ⟨result, state, time⟩ := truncates.dropped after
    exact ⟨congrArg (Option.map fun r => r.bind f) result, state, time⟩

/-- The polling of a respondent that answers at once, with and without a cancellation between two
queries. -/
theorem poll_truncated {began : Nat} (prompt : ∀ i, p.delay i = 0)
    (some_pause : 0 < config.interval) (between : ¬ config.interval ∣ c)
    (ends : p.EndsAt request config.maxAttempts.toNat n) (choice choice' : Nat → Bool) :
    Truncates payload request config.interval began c (n + 1)
      (poll p.provider config request ⟨began, none, choice⟩ (questions payload request 0))
      (poll p.provider config request ⟨began, some (began + c), choice'⟩
        (questions payload request 0)) := by
  have now_after : ∀ cancelAt choice n,
      (p.after config.interval ⟨began, cancelAt, choice⟩ n).now = began + n * config.interval :=
    fun _ _ => p.after_now_of_prompt prompt
  have uncancelled : (Timeline.mk began none choice).cancelAt = none := rfl
  have known : (Timeline.mk began (some (began + c)) choice').cancelAt = some (began + c) := rfl
  rw [poll_of_endsAt ends (.of_uncancelled uncancelled _)]
  refine ⟨rfl, rfl, now_after _ _ _, fun before => ?_, fun after => ?_⟩
  · rw [poll_of_endsAt ends (.of_known known (by rw [now_after]; omega))]
    exact ⟨rfl, rfl⟩
  · -- The cancellation comes in the pause after `c / config.interval` queries.
    have started : c / config.interval * config.interval < c := by
      refine Nat.lt_of_le_of_ne (Nat.div_mul_le_self c _) fun whole => between ?_
      exact ⟨_, whole.symm.trans (Nat.mul_comm _ _)⟩
    have unfinished : c < c / config.interval * config.interval + config.interval :=
      Nat.lt_div_mul_add some_pause
    have reached : c / config.interval ≤ n :=
      Nat.lt_succ_iff.mp (Nat.lt_of_mul_lt_mul_right (Nat.lt_of_lt_of_le started after))
    rw [poll_cut known (by rw [now_after]; omega) (by rw [now_after]; omega)
      (Nat.lt_of_le_of_lt reached ends.allowed)
      fun i before => ends.pending i (Nat.lt_of_lt_of_le before reached)]
    exact ⟨rfl, rfl, rfl⟩

/-- **Truncation.** Cancelling the polling of a respondent that answers at once, between two of its
queries, keeps the call if it ends earlier and else cuts it off: it is cancelled with its request
and makes no more queries. Signing starts to poll once the request is created. -/
theorem polling_truncated (p : Respondent) (config : PollConfig) (payload : Bytes)
    (request : String) (now c : Nat) (choice choice' : Nat → Bool) (prompt : ∀ i, p.delay i = 0)
    (some_query : 0 < config.maxAttempts.toNat) (some_pause : 0 < config.interval)
    (between : ¬ config.interval ∣ c) :
    ∃ n, p.EndsAt request config.maxAttempts.toNat n ∧
      Truncates payload request config.interval now c (n + 1)
        (poll p.provider config request ⟨now, none, choice⟩ (questions payload request 0))
        (poll p.provider config request ⟨now, some (now + c), choice'⟩
          (questions payload request 0)) ∧
      (payload ≠ [] → p.creation = .ok request →
        Truncates payload request config.interval (now + p.creationDelay) c (n + 1)
          (signCustodial p.provider config payload ⟨now, none, choice⟩ [])
          (signCustodial p.provider config payload
            ⟨now, some (now + p.creationDelay + c), choice'⟩ [])) := by
  obtain ⟨n, ends⟩ := p.exists_endsAt request some_query
  refine ⟨n, ends, poll_truncated prompt some_pause between ends choice choice', ?_⟩
  intro nonempty created
  have positive : 0 < c := Nat.pos_of_ne_zero fun zero => between (zero ▸ Nat.dvd_zero _)
  have later : now + p.creationDelay < now + p.creationDelay + c := by omega
  rw [signCustodial_of_created (.of_uncancelled rfl _) config nonempty,
    signCustodial_of_created (.of_known rfl later) config nonempty, created]
  exact (poll_truncated prompt some_pause between ends _ _).bind Material.reconstruct

/-- A provider that is pending, then out of reach, and then signs. -/
def thirdSigns : Respondent where
  name := "vault"
  creation := .ok "request"
  creationDelay := 40
  answer
    | 0 => .ok .pending
    | 1 => .error (.http "reset")
    | _ => .ok (.signed (.whole "0a0b"))
  delay _ := 0

/-- Of the five statuses that it may be asked for, the provider is asked for three. Half a pause
before the third one the call is cancelled after two. -/
theorem polling_truncated_thirdSigns :
    let run cancelAt := signCustodial thirdSigns.provider ⟨5, 1000⟩ [1]
      ⟨0, cancelAt, fun _ => true⟩ []
    (run none).state = questions [1] "request" 3 ∧
      (run (some 2540)).result = some (.error (.cancelled (some "request"))) ∧
      (run (some 2540)).state = questions [1] "request" 2 := by
  obtain ⟨n, ends, -, signing⟩ := polling_truncated thirdSigns ⟨5, 1000⟩ [1] "request" 0 2500
    (fun _ => true) (fun _ => true) (fun _ => rfl) (by decide) (by decide) (by decide)
  have third : n = 2 := by
    match n, ends with
    | 0, ends => cases ends.last rfl
    | 1, ends => cases ends.last rfl
    | 2, _ => rfl
    | n + 3, ends => cases ends.pending 2 (by omega)
  subst third
  have truncates := signing (by decide) rfl
  obtain ⟨result, state, -⟩ := truncates.dropped (by decide)
  exact ⟨truncates.asked, result, state⟩

end TokenDesk.Signing
