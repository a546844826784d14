import TokenDesk.Signing.Signer
import TokenDesk.Proofs.Timing

/-!
Signers and the cancellation of a call.

A signer that `Heeds` a call's cancellation does not take it back, and ends if it comes. A key at
hand signs at once and does not look; a custodial provider and a paired wallet look whenever they
wait, and every wait is a race. So all signers heed it (`Signer.ofKey_heeds`,
`Signer.ofProvider_heeds`, `Signer.ofWallet_heeds`), whatever provider or wallet is asked.
-/

namespace TokenDesk.Signing

variable {ρ σ α β : Type} {t : Timeline}

/-! ## Runs -/

/-- A run that began at a time goes on from there, and never ends only if it is not cancelled. -/
structure RunHeeds (t : Timeline) (run : Run σ α) : Prop where
  follows : t.Follows run.time
  ends : run.result = none → run.time.cancelAt = none

namespace RunHeeds

theorem ended {time : Timeline} (follows : t.Follows time) (a : α) (s : σ) :
    RunHeeds t ⟨some a, time, s⟩ := by
  refine ⟨follows, ?_⟩
  rintro ⟨⟩

theorem of_follows {time : Timeline} {run : Run σ α} (follows : t.Follows time)
    (heeds : RunHeeds time run) : RunHeeds t run :=
  ⟨follows.trans heeds.follows, heeds.ends⟩

theorem map {run : Run σ α} (heeds : RunHeeds t run) (f : α → β) :
    RunHeeds t (⟨run.result.map f, run.time, run.state⟩ : Run σ β) :=
  ⟨heeds.follows, fun never => heeds.ends (Option.map_eq_none_iff.mp never)⟩

/-- A run that races for an answer, ends if it is cancelled, and else goes on with the answer. -/
theorem of_race (ask : ρ → Wait β × ρ) (r : ρ) {run : Run σ α}
    (endless : ∀ {time r'}, t.race ask r = (.endless time, r') → ∃ s, run = ⟨none, time, s⟩)
    (cancelled : ∀ {time r'}, t.race ask r = (.cancelled time, r') →
      ∃ a s, run = ⟨some a, time, s⟩)
    (answered : ∀ {b time r'}, t.race ask r = (.answered b time, r') → RunHeeds time run) :
    RunHeeds t run := by
  have follows := Timeline.follows_race t ask r
  rcases raced : t.race ask r with ⟨outcome, r'⟩
  rw [raced] at follows
  cases outcome with
  | endless time =>
    obtain ⟨s, same⟩ := endless raced
    rw [same]
    exact ⟨follows, fun _ => (Timeline.of_race_endless raced).2⟩
  | cancelled time =>
    obtain ⟨a, s, same⟩ := cancelled raced
    rw [same]
    exact ended follows a s
  | answered b time => exact of_follows follows (answered raced)

end RunHeeds

/-! ## Custodial providers -/

/-- Every round of the polling waits twice, for the time to pass and for the status. -/
theorem pollFrom_heeds (provider : Provider σ) (interval began left : Nat) (poller : Poller)
    (lastError : Option String) (t : Timeline) (s : σ) :
    RunHeeds t (pollFrom provider interval began left poller lastError t s) := by
  induction left generalizing poller lastError t s with
  | zero => exact RunHeeds.ended (Timeline.Follows.refl t) _ s
  | succ left ih =>
    unfold pollFrom
    refine RunHeeds.of_race (fun s => (Wait.pause interval, s)) s (fun raced => ?_)
      (fun raced => ?_) (fun {_ time s} raced => ?_)
    · rw [raced]
      exact ⟨_, rfl⟩
    · rw [raced]
      exact ⟨_, _, rfl⟩
    · rw [raced]
      dsimp only
      refine RunHeeds.of_race (provider.status poller.request) s (fun asked => ?_)
        (fun asked => ?_) (fun {answer time s} asked => ?_)
      · rw [asked]
        exact ⟨_, rfl⟩
      · rw [asked]
        exact ⟨_, _, rfl⟩
      · rw [asked]
        dsimp only
        split
        · exact RunHeeds.ended (Timeline.Follows.refl time) _ s
        · exact RunHeeds.ended (Timeline.Follows.refl time) _ s
        · exact RunHeeds.ended (Timeline.Follows.refl time) _ s
        · exact ih _ _ time s

theorem signCustodial_heeds (provider : Provider σ) (config : PollConfig) (payload : Bytes)
    (t : Timeline) (s : σ) : RunHeeds t (signCustodial provider config payload t s) := by
  unfold signCustodial
  split
  · exact RunHeeds.ended (Timeline.Follows.refl t) _ s
  · refine RunHeeds.of_race (provider.create payload) s (fun raced => ?_) (fun raced => ?_)
      (fun {answer time s'} raced => ?_)
    · rw [raced]
      exact ⟨_, rfl⟩
    · rw [raced]
      exact ⟨_, _, rfl⟩
    · rw [raced]
      cases answer with
      | error e => exact RunHeeds.ended (Timeline.Follows.refl time) _ s'
      | ok request => exact (pollFrom_heeds provider _ _ _ _ _ time s').map _

/-! ## Wallets -/

theorem Wallet.sign_heeds (payload : Bytes) (t : Timeline) (w : Option Wallet) :
    RunHeeds t (Wallet.sign payload t w) := by
  cases w with
  | none => exact RunHeeds.ended (Timeline.Follows.refl t) _ _
  | some w =>
    dsimp only [Wallet.sign]
    split
    · exact RunHeeds.ended (Timeline.Follows.refl t) _ _
    · refine RunHeeds.of_race (Wallet.ask w.session.calls.length) (w.after [.call payload])
        (fun raced => ?_) (fun raced => ?_) (fun {outcome time w} raced => ?_)
      · rw [raced]
        exact ⟨_, rfl⟩
      · rw [raced]
        exact ⟨_, _, rfl⟩
      · rw [raced]
        exact RunHeeds.ended (Timeline.Follows.refl time) _ _

/-! ## Signers -/

namespace Signer

/-- A signer that neither takes a cancellation back nor goes on for ever in spite of one. -/
def Heeds (signer : Signer σ) : Prop :=
  ∀ payload t s, RunHeeds t (signer.sign payload t s)

theorem ofKey_heeds (key : LocalKey) : (ofKey key).Heeds := fun _ t s =>
  (RunHeeds.ended (Timeline.Follows.refl t) _ s).map _

theorem ofProvider_heeds (strategy : Strategy) (provider : Provider σ) (config : PollConfig) :
    (ofProvider strategy provider config).Heeds := fun payload t s =>
  (signCustodial_heeds provider config payload t s).map _

theorem ofWallet_heeds : ofWallet.Heeds := fun payload t w => (Wallet.sign_heeds payload t w).map _

end Signer

end TokenDesk.Signing
