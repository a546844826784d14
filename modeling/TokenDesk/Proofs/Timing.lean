import TokenDesk.Timing

/-!
How waits end. An answer is always one that the asked party gave, and a wait that is not answered
leaves the party as it was or as asking left it. An answer that comes before any cancellation is
heard, and a cancellation that comes before the answer ends the wait. Time only goes on, a
cancellation is never taken back, and only a wait that no cancellation reaches can be endless
(`Timeline.Follows`, `Timeline.of_race_endless`).
-/

namespace TokenDesk

/-- The end of a wait with a function applied to its answer. -/
def Waited.map (f : α → β) : Waited α → Waited β
  | .answered a time => .answered (f a) time
  | .cancelled time => .cancelled time
  | .endless time => .endless time

/-- The end of a call with a function applied to the state that it left. -/
def Run.mapState (f : σ → τ) (run : Run σ α) : Run τ α := ⟨run.result, run.time, f run.state⟩

namespace Timeline

theorem answer_of_settle {t time : Timeline} {w : Wait α} {a : α}
    (settled : t.settle w = .answered a time) : w.answer = some a := by
  unfold settle at settled
  split at settled
  · cases settled
    assumption
  · dsimp only at settled
    split at settled
    · cases settled
    · cases settled
      assumption
  · split at settled <;> cases settled
  · cases settled

/-- A race that is answered was asked, and the answer is the party's own. -/
theorem of_race_answered {t time : Timeline} {ask : σ → Wait α × σ} {s s' : σ} {a : α}
    (raced : t.race ask s = (.answered a time, s')) :
    (ask s).1.answer = some a ∧ s' = (ask s).2 := by
  unfold race at raced
  split at raced
  · cases raced
  · simp only [Prod.mk.injEq] at raced
    exact ⟨answer_of_settle raced.1, raced.2.symm⟩

/-- After a race the party is as it was before, or as it is once it was asked. -/
theorem race_state (t : Timeline) (ask : σ → Wait α × σ) (s : σ) :
    (t.race ask s).2 = s ∨ (t.race ask s).2 = (ask s).2 := by
  unfold race
  split
  · exact Or.inl rfl
  · exact Or.inr rfl

theorem answer_of_await {t time : Timeline} {w : Wait α} {a : α}
    (awaited : t.await w = .answered a time) : w.answer = some a := by
  unfold await at awaited
  split at awaited
  · cases awaited
    assumption
  · cases awaited

theorem settle_map (t : Timeline) (f : α → β) (w : Wait α) :
    t.settle (w.map f) = (t.settle w).map f := by
  rcases w with ⟨delay, answer, cancels⟩
  cases answer with
  | none =>
    cases known : t.cancelAt with
    | none => cases cancels <;> simp [settle, Wait.map, Waited.map, known]
    | some c =>
      simp only [settle, Wait.map, Option.map_none, known]
      rfl
  | some a =>
    cases known : t.cancelAt with
    | none =>
      simp only [settle, Wait.map, Option.map_some, known]
      rfl
    | some c =>
      simp only [settle, Wait.map, Option.map_some, known]
      rw [apply_ite (Waited.map f)]
      rfl

/-- What is asked does not depend on what is made of the answer. -/
theorem race_map (t : Timeline) (f : α → β) (ask : σ → Wait α × σ) (s : σ) :
    t.race (fun s => ((ask s).1.map f, (ask s).2)) s =
      ((t.race ask s).1.map f, (t.race ask s).2) := by
  unfold race
  split
  · rfl
  · simp only [settle_map]

/-- A party that answers alike along a map of its states is waited for alike. -/
theorem race_along {f : σ → τ} {ask : σ → Wait α × σ} {ask' : τ → Wait α × τ}
    (along : ∀ s, ask' (f s) = ((ask s).1, f (ask s).2)) (t : Timeline) (s : σ) :
    t.race ask' (f s) = ((t.race ask s).1, f (t.race ask s).2) := by
  unfold race
  split
  · rfl
  · rw [along]

/-- No cancellation comes by a time, as far as one is known. -/
def ClearTo (t : Timeline) (time : Nat) : Prop := ∀ c, t.cancelAt = some c → time < c

theorem ClearTo.of_uncancelled {t : Timeline} (uncancelled : t.cancelAt = none) (time : Nat) :
    t.ClearTo time := by
  intro c known
  rw [uncancelled] at known
  cases known

theorem ClearTo.of_known {t : Timeline} {time c : Nat} (known : t.cancelAt = some c)
    (later : time < c) : t.ClearTo time := by
  intro c' known'
  cases known.symm.trans known'
  exact later

theorem ClearTo.mono {t : Timeline} {time later : Nat} (clear : t.ClearTo later)
    (sooner : time ≤ later) : t.ClearTo time :=
  fun c known => Nat.lt_of_le_of_lt sooner (clear c known)

/-- A call is not cancelled yet if no cancellation comes by now. -/
theorem isCancelled_eq_false_iff {t : Timeline} : t.isCancelled = false ↔ t.ClearTo t.now := by
  unfold isCancelled ClearTo
  cases t.cancelAt with
  | none => simp
  | some c => simp

/-- An answer that comes before any cancellation is heard when it comes. -/
theorem race_of_clear {t : Timeline} {delay : Nat} (clear : t.ClearTo (t.now + delay))
    {ask : σ → Wait α × σ} {s s' : σ} {a : α} (asked : ask s = (⟨delay, some a, false⟩, s')) :
    t.race ask s = (.answered a (t.advance (t.now + delay)), s') := by
  have live := isCancelled_eq_false_iff.mpr (clear.mono (Nat.le_add_right _ _))
  cases known : t.cancelAt with
  | none =>
    simp only [race, live, asked, settle, known]
    simp [afterAnswer, advance, known]
  | some c =>
    have later := clear c known
    have heard :
        ¬(max t.now c < t.now + delay || (max t.now c = t.now + delay && !t.answerFirst 0)) := by
      simp only [Bool.or_eq_true, Bool.and_eq_true, decide_eq_true_eq]
      omega
    simp only [race, live, asked, settle, known]
    rw [if_neg heard]
    simp [afterAnswer, advance, known]

/-- A call that is not cancelled yet hears an answer that comes at once. -/
theorem race_of_prompt {t : Timeline} (live : t.isCancelled = false) {ask : σ → Wait α × σ}
    {s s' : σ} {a : α} (asked : ask s = (.now a, s')) :
    t.race ask s = (.answered a (t.advance t.now), s') :=
  race_of_clear (isCancelled_eq_false_iff.mp live) asked

/-- A cancellation that comes before the answer ends the wait. -/
theorem race_of_cancelled {t : Timeline} {c delay : Nat} (known : t.cancelAt = some c)
    (live : t.now < c) (early : c < t.now + delay) {ask : σ → Wait α × σ} {s s' : σ} {a : α}
    (asked : ask s = (⟨delay, some a, false⟩, s')) :
    t.race ask s = (.cancelled (t.advance c), s') := by
  have waiting : t.isCancelled = false := by
    unfold isCancelled
    rw [known, Option.elim_some, decide_eq_false_iff_not]
    exact Nat.not_le_of_lt live
  have due : max t.now c = c := Nat.max_eq_right (Nat.le_of_lt live)
  simp only [race, waiting, asked, settle, known, due, early, decide_true, Bool.true_or]
  rfl

end Timeline

/-! ## Time goes on -/

theorem Timeline.isCancelled_of_le {t : Timeline} {c : Nat} (known : t.cancelAt = some c)
    (due : c ≤ t.now) : t.isCancelled = true := by
  unfold isCancelled
  rw [known, Option.elim_some, decide_eq_true_eq]
  exact due

/-- The timeline at the end of a wait. -/
def Waited.time : Waited α → Timeline
  | .answered _ time | .cancelled time | .endless time => time

namespace Timeline

/-- A timeline comes after another: it is not earlier, and it is cancelled by the same time or
before. -/
structure Follows (earlier later : Timeline) : Prop where
  now_le : earlier.now ≤ later.now
  kept : ∀ c, earlier.cancelAt = some c → ∃ c' ≤ c, later.cancelAt = some c'

namespace Follows

theorem refl (t : Timeline) : t.Follows t :=
  ⟨Nat.le_refl _, fun c known => ⟨c, Nat.le_refl c, known⟩⟩

theorem trans {a b c : Timeline} (first : a.Follows b) (second : b.Follows c) : a.Follows c := by
  refine ⟨Nat.le_trans first.now_le second.now_le, fun due known => ?_⟩
  obtain ⟨due', sooner, known'⟩ := first.kept due known
  obtain ⟨due'', sooner', known''⟩ := second.kept due' known'
  exact ⟨due'', Nat.le_trans sooner' sooner, known''⟩

/-- A cancellation that was known comes at its time at the latest. -/
theorem isCancelled_of_due {a b : Timeline} (later : a.Follows b) {c : Nat}
    (known : a.cancelAt = some c) (due : c ≤ b.now) : b.isCancelled = true := by
  obtain ⟨c', sooner, known'⟩ := later.kept c known
  exact isCancelled_of_le known' (Nat.le_trans sooner due)

/-- Who is cancelled stays cancelled. -/
theorem isCancelled {a b : Timeline} (later : a.Follows b) (cancelled : a.isCancelled = true) :
    b.isCancelled = true := by
  unfold Timeline.isCancelled at cancelled
  cases known : a.cancelAt with
  | none =>
    rw [known] at cancelled
    cases cancelled
  | some c =>
    rw [known, Option.elim_some, decide_eq_true_eq] at cancelled
    exact later.isCancelled_of_due known (Nat.le_trans cancelled later.now_le)

end Follows

theorem cancelAt_ne_none {t : Timeline} (cancelled : t.isCancelled = true) : t.cancelAt ≠ none := by
  intro never
  rw [isCancelled, never] at cancelled
  cases cancelled

theorem follows_advance {t : Timeline} {time : Nat} (later : t.now ≤ time) :
    t.Follows (t.advance time) := ⟨later, fun c known => ⟨c, Nat.le_refl c, known⟩⟩

theorem follows_afterAnswer (t : Timeline) (w : Wait α) : t.Follows (t.afterAnswer w) := by
  refine ⟨Nat.le_add_right _ _, fun c known => ?_⟩
  unfold afterAnswer
  dsimp only
  split
  · exact ⟨_, Nat.min_le_right _ c, by rw [cancelBy, known]; rfl⟩
  · exact ⟨c, Nat.le_refl c, known⟩

theorem follows_settle (t : Timeline) (w : Wait α) : t.Follows (t.settle w).time := by
  unfold settle
  dsimp only
  split
  · exact follows_afterAnswer t w
  · split
    · exact follows_advance (Nat.le_max_left _ _)
    · exact follows_afterAnswer t w
  · rename_i unknown
    split
    · exact ⟨Nat.le_add_right _ _, fun c known => by rw [unknown] at known; cases known⟩
    · exact Follows.refl t
  · rename_i c silent known
    refine ⟨?_, fun c' known' => ⟨_, ?_, rfl⟩⟩
    · change t.now ≤ if w.cancels then min (t.now + w.delay) (max t.now c) else max t.now c
      split <;> omega
    · cases known.symm.trans known'
      exact Nat.min_le_left _ _

theorem follows_race (t : Timeline) (ask : σ → Wait α × σ) (s : σ) :
    t.Follows (t.race ask s).1.time := by
  unfold race
  split
  · exact follows_advance (Nat.le_refl _)
  · exact follows_settle t (ask s).1

theorem follows_await (t : Timeline) (w : Wait α) : t.Follows (t.await w).time := by
  unfold await
  split
  · exact follows_afterAnswer t w
  · refine ⟨Nat.le_refl _, fun c known => ?_⟩
    change ∃ c' ≤ c, (if w.cancels then t.cancelBy (t.now + w.delay) else t.cancelAt) = some c'
    split
    · exact ⟨_, Nat.min_le_right _ c, by rw [cancelBy, known]; rfl⟩
    · exact ⟨c, Nat.le_refl c, known⟩

/-- Who stops waiting for a cancellation is cancelled. -/
theorem isCancelled_of_race {t time : Timeline} {ask : σ → Wait α × σ} {s s' : σ}
    (raced : t.race ask s = (.cancelled time, s')) : time.isCancelled = true := by
  unfold race at raced
  split at raced
  · rename_i seen
    cases raced
    exact (Bool.and_eq_true_iff.mp seen).1
  · have settled : t.settle (ask s).1 = .cancelled time := congrArg Prod.fst raced
    unfold settle at settled
    dsimp only at settled
    split at settled
    · cases settled
    · rename_i c answered known
      split at settled
      · cases settled
        exact isCancelled_of_le known (Nat.le_max_right t.now c)
      · cases settled
    · split at settled
      · cases settled
        exact isCancelled_of_le rfl (Nat.le_refl _)
      · cases settled
    · cases settled
      exact isCancelled_of_le rfl (Nat.min_le_right _ _)

/-- Only who gives no answer is waited for in vain. -/
theorem answer_of_await_endless {t time : Timeline} {w : Wait α}
    (awaited : t.await w = .endless time) : w.answer = none := by
  unfold await at awaited
  split at awaited
  · cases awaited
  · assumption

theorem await_ne_cancelled {t time : Timeline} {w : Wait α} : t.await w ≠ .cancelled time := by
  unfold await
  split <;> rintro ⟨⟩

theorem of_settle_endless {t time : Timeline} {w : Wait α}
    (settled : t.settle w = .endless time) : w.answer = none ∧ time.cancelAt = none := by
  unfold settle at settled
  dsimp only at settled
  split at settled
  · cases settled
  · split at settled <;> cases settled
  · rename_i silent unknown
    split at settled
    · cases settled
    · cases settled
      exact ⟨silent, unknown⟩
  · cases settled

/-- A race that never ends got no answer and was not cancelled, now or later. -/
theorem of_race_endless {t time : Timeline} {ask : σ → Wait α × σ} {s s' : σ}
    (raced : t.race ask s = (.endless time, s')) :
    (ask s).1.answer = none ∧ time.cancelAt = none := by
  unfold race at raced
  split at raced
  · cases raced
  · exact of_settle_endless (congrArg Prod.fst raced)

end Timeline

end TokenDesk
