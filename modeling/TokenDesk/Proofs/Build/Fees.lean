import TokenDesk.Build.Native
import TokenDesk.Proofs.Build.Amounts
import TokenDesk.Proofs.Wire.Request

/-!
Fee schedules.

The terms of a fee are the fee itself with its amounts in base units (`Native.Converts`), for every
fee that can be charged (`Native.Chargeable`). A fee that cannot be charged fails by the first thing
that is wrong with it: the rules of `Native.Faulty` follow the order in which a fee is looked at,
and each of them says what was found right before. A schedule of fees that come through the gate is
converted as a whole, or fails by its first faulty fee (`Native.fees_convert`).
-/

namespace TokenDesk.Native

variable {token : Token} {fee : CustomFee} {terms : FeeTerms} {e : BuildError}

/-! ## Fees -/

/-- The decimals that a fixed fee has to have: those of the ledger's currency, or of the token if it
is charged in the token itself. In another token any will do. -/
inductive Expects (token : Token) (amount : Amount) : Option EntityId → UInt8 → Prop
  | currency : Expects token amount none 8
  | token : Expects token amount (some token.id) token.decimals
  | foreign {id : EntityId} : id ≠ token.id → Expects token amount (some id) amount.decimals

/-- A part of what is transferred. -/
structure IsFraction (numerator denominator : Int64) : Prop where
  denominator : 0 < denominator.toInt
  numerator : 0 ≤ numerator.toInt

/-- A fee that can be charged. A maximum of zero is no bound. -/
inductive Chargeable (token : Token) : CustomFee → Prop
  | fixed {amount : Amount} {currency : Option EntityId} {collector : EntityId} {exempt : Bool}
    (decimals : Expects token amount currency amount.decimals) (fits : amount.baseUnits < 2 ^ 63) :
    Chargeable token (.fixed amount currency collector exempt)
  | fractional {numerator denominator : Int64} {minimum maximum : Amount} {net : Bool}
    {collector : EntityId} {exempt : Bool} (fraction : IsFraction numerator denominator)
    (least : token.Takes minimum) (most : token.Takes maximum)
    (bounds : maximum.baseUnits = 0 ∨ minimum.baseUnits ≤ maximum.baseUnits) :
    Chargeable token (.fractional numerator denominator minimum maximum net collector exempt)

/-- The terms of a fee: every amount in base units, and the rest as it is. -/
inductive Converts : CustomFee → FeeTerms → Prop
  | fixed {amount : Amount} {currency : Option EntityId} {collector : EntityId} {exempt : Bool}
    {n : Int64} (counts : amount.CountsTo n) :
    Converts (.fixed amount currency collector exempt) (.fixed n currency collector exempt)
  | fractional {numerator denominator : Int64} {minimum maximum : Amount} {net : Bool}
    {collector : EntityId} {exempt : Bool} {least most : Int64}
    (least_counts : minimum.CountsTo least) (most_counts : maximum.CountsTo most) :
    Converts (.fractional numerator denominator minimum maximum net collector exempt)
      (.fractional numerator denominator least most net collector exempt)

/-- The first thing that is wrong with a fee, and how it fails by it. -/
inductive Faulty (token : Token) : CustomFee → BuildError → Prop
  | decimals {amount : Amount} {currency : Option EntityId} {collector : EntityId} {exempt : Bool}
    {expected : UInt8} : Expects token amount currency expected → amount.decimals ≠ expected →
    Faulty token (.fixed amount currency collector exempt)
      (.refused (.feeDecimals amount.decimals expected))
  | overflow {amount : Amount} {currency : Option EntityId} {collector : EntityId} {exempt : Bool} :
    Expects token amount currency amount.decimals → 2 ^ 63 ≤ amount.baseUnits →
    Faulty token (.fixed amount currency collector exempt)
      (.amount (.overflow amount.value amount.decimals))
  | fraction {numerator denominator : Int64} {minimum maximum : Amount} {net : Bool}
    {collector : EntityId} {exempt : Bool} : ¬IsFraction numerator denominator →
    Faulty token (.fractional numerator denominator minimum maximum net collector exempt)
      (.refused (.notFraction numerator denominator))
  | minimum {numerator denominator : Int64} {minimum maximum : Amount} {net : Bool}
    {collector : EntityId} {exempt : Bool} {e : BuildError} : IsFraction numerator denominator →
    token.Misfit minimum e →
    Faulty token (.fractional numerator denominator minimum maximum net collector exempt) e
  | maximum {numerator denominator : Int64} {minimum maximum : Amount} {net : Bool}
    {collector : EntityId} {exempt : Bool} {e : BuildError} : IsFraction numerator denominator →
    token.Takes minimum → token.Misfit maximum e →
    Faulty token (.fractional numerator denominator minimum maximum net collector exempt) e
  | bounds {numerator denominator : Int64} {minimum maximum : Amount} {net : Bool}
    {collector : EntityId} {exempt : Bool} {least most : Int64} :
    IsFraction numerator denominator → token.Takes minimum → token.Takes maximum →
    maximum.baseUnits ≠ 0 → maximum.baseUnits < minimum.baseUnits →
    minimum.CountsTo least → maximum.CountsTo most →
    Faulty token (.fractional numerator denominator minimum maximum net collector exempt)
      (.refused (.minimumAboveMaximum least most))

theorem expects_feeDecimals (token : Token) (amount : Amount) (currency : Option EntityId) :
    Expects token amount currency (feeDecimals token amount currency) := by
  cases currency with
  | none => exact .currency
  | some id =>
    change Expects token amount (some id)
      (if id = token.id then token.decimals else amount.decimals)
    split
    · rename_i same
      cases same
      exact .token
    · rename_i other
      exact .foreign other

theorem Expects.unique {amount : Amount} {currency : Option EntityId} {m n : UInt8}
    (first : Expects token amount currency m) (second : Expects token amount currency n) :
    m = n := by
  cases first with
  | currency =>
    cases second
    rfl
  | token =>
    cases second with
    | token => rfl
    | foreign other => exact absurd rfl other
  | foreign other =>
    cases second with
    | token => exact absurd rfl other
    | foreign _ => rfl

theorem isFraction_iff (numerator denominator : Int64) :
    IsFraction numerator denominator ↔ ¬(denominator ≤ 0 ∨ numerator < 0) := by
  rw [not_or, Int64.not_le, Int64.not_lt, Int64.lt_iff_toInt_lt, Int64.le_iff_toInt_le,
    Int64.toInt_zero]
  exact ⟨fun fraction => ⟨fraction.denominator, fraction.numerator⟩,
    fun ⟨denominator, numerator⟩ => ⟨denominator, numerator⟩⟩

/-- Counted bounds are compared as the base units are. -/
theorem above_iff {minimum maximum : Amount} {least most : Int64} (first : minimum.CountsTo least)
    (second : maximum.CountsTo most) : most ≠ 0 ∧ most < least ↔
      maximum.baseUnits ≠ 0 ∧ maximum.baseUnits < minimum.baseUnits := by
  rw [Amount.countsTo_iff] at first second
  rw [Int64.lt_iff_toInt_lt, ne_eq, ← Int64.toInt_inj, Int64.toInt_zero, first, second]
  omega

/-- A fee with terms can be charged, and these are its terms. -/
theorem of_feeTerms_ok (accepted : ∀ a ∈ fee.amounts, a.Accepted)
    (done : feeTerms token fee = .ok terms) : Chargeable token fee ∧ Converts fee terms := by
  cases fee with
  | fixed amount currency collector exempt =>
    dsimp only [feeTerms] at done
    split at done
    · rename_i same
      obtain ⟨units, counted, done⟩ := of_bind_ok done
      cases done
      have expects := expects_feeDecimals token amount currency
      rw [← same] at expects
      obtain ⟨fits, counts⟩ := (accepted amount List.mem_cons_self).of_checkedUnits_ok counted
      exact ⟨.fixed expects fits, .fixed counts⟩
    · cases done
  | fractional numerator denominator minimum maximum net collector exempt =>
    dsimp only [feeTerms] at done
    split at done
    · cases done
    · rename_i fraction
      obtain ⟨least, minimum_counted, done⟩ := of_bind_ok done
      obtain ⟨most, maximum_counted, done⟩ := of_bind_ok done
      split at done
      · cases done
      · rename_i bounds
        cases done
        obtain ⟨first, first_counts⟩ :=
          (accepted minimum List.mem_cons_self).of_tokenUnits_ok minimum_counted
        obtain ⟨second, second_counts⟩ :=
          (accepted maximum (List.mem_cons_of_mem _ List.mem_cons_self)).of_tokenUnits_ok
            maximum_counted
        rw [above_iff first_counts second_counts] at bounds
        exact ⟨.fractional ((isFraction_iff _ _).mpr fraction) first second (by omega),
          .fractional first_counts second_counts⟩

/-- A fee without terms is faulty. -/
theorem faulty_of_feeTerms (accepted : ∀ a ∈ fee.amounts, a.Accepted)
    (failed : feeTerms token fee = .error e) : Faulty token fee e := by
  cases fee with
  | fixed amount currency collector exempt =>
    have expects := expects_feeDecimals token amount currency
    dsimp only [feeTerms] at failed
    split at failed
    · rename_i same
      obtain ⟨large, rfl⟩ := (accepted amount List.mem_cons_self).of_checkedUnits_error
        (of_bind_pure_error failed)
      exact .overflow (same ▸ expects) large
    · rename_i other
      cases failed
      exact .decimals expects other
  | fractional numerator denominator minimum maximum net collector exempt =>
    -- the four checks in the order in which they are made, each after those before it succeeded
    have minimum_accepted := accepted minimum List.mem_cons_self
    have maximum_accepted := accepted maximum (List.mem_cons_of_mem _ List.mem_cons_self)
    dsimp only [feeTerms] at failed
    split at failed
    · rename_i other
      cases failed
      exact .fraction fun fraction => (isFraction_iff _ _).mp fraction other
    · rename_i both
      have fraction := (isFraction_iff _ _).mpr both
      rcases of_bind_error failed with failed | ⟨least, minimum_counted, failed⟩
      · exact .minimum fraction (minimum_accepted.of_tokenUnits_error failed)
      obtain ⟨first, first_counts⟩ := minimum_accepted.of_tokenUnits_ok minimum_counted
      rcases of_bind_error failed with failed | ⟨most, maximum_counted, failed⟩
      · exact .maximum fraction first (maximum_accepted.of_tokenUnits_error failed)
      obtain ⟨second, second_counts⟩ := maximum_accepted.of_tokenUnits_ok maximum_counted
      split at failed
      · rename_i bounds
        cases failed
        obtain ⟨positive, above⟩ := (above_iff first_counts second_counts).mp bounds
        exact .bounds fraction first second positive above first_counts second_counts
      · cases failed

theorem Chargeable.not_faulty (chargeable : Chargeable token fee) : ¬Faulty token fee e := by
  intro faulty
  cases chargeable with
  | fixed decimals fits =>
    cases faulty with
    | decimals expects other => exact other (decimals.unique expects)
    | overflow _ large => exact Nat.not_le.mpr fits large
  | fractional fraction least most bounds =>
    cases faulty with
    | fraction other => exact other fraction
    | minimum _ misfit => exact least.not_misfit misfit
    | maximum _ _ misfit => exact most.not_misfit misfit
    | bounds _ _ _ positive above _ _ => omega

/-- A fee fails in one way only: each rule takes for granted that those before it do not apply. -/
theorem Faulty.unique {e' : BuildError} (first : Faulty token fee e)
    (second : Faulty token fee e') : e = e' := by
  -- Where both rules agree, what they found is the same; where they differ, the later one says that
  -- what the earlier one found wrong is right.
  cases first with
  | decimals expects other =>
    cases second with
    | decimals expects' _ => rw [expects.unique expects']
    | overflow expects' _ => exact absurd (expects'.unique expects) other
  | overflow expects _ =>
    cases second with
    | decimals expects' other => exact absurd (expects.unique expects') other
    | overflow _ _ => rfl
  | fraction other =>
    cases second with
    | fraction _ => rfl
    | minimum fraction _ | maximum fraction _ _ | bounds fraction _ _ _ _ _ _ =>
      exact absurd fraction other
  | minimum fraction misfit =>
    cases second with
    | fraction other => exact absurd fraction other
    | minimum _ misfit' => exact misfit.unique misfit'
    | maximum _ least _ | bounds _ least _ _ _ _ _ => exact absurd misfit least.not_misfit
  | maximum fraction least misfit =>
    cases second with
    | fraction other => exact absurd fraction other
    | minimum _ misfit' => exact absurd misfit' least.not_misfit
    | maximum _ _ misfit' => exact misfit.unique misfit'
    | bounds _ _ most _ _ _ _ => exact absurd misfit most.not_misfit
  | bounds fraction least most _ _ counts counts' =>
    cases second with
    | fraction other => exact absurd fraction other
    | minimum _ misfit => exact absurd misfit least.not_misfit
    | maximum _ _ misfit => exact absurd misfit most.not_misfit
    | bounds _ _ _ _ _ again again' => rw [counts.unique again, counts'.unique again']

/-- A fee can be charged exactly if it has terms. -/
theorem exists_feeTerms_iff (accepted : ∀ a ∈ fee.amounts, a.Accepted) :
    (∃ terms, feeTerms token fee = .ok terms) ↔ Chargeable token fee := by
  constructor
  · intro ⟨terms, done⟩
    exact (of_feeTerms_ok accepted done).1
  · intro chargeable
    cases known : feeTerms token fee with
    | ok terms => exact ⟨terms, rfl⟩
    | error e => exact absurd (faulty_of_feeTerms accepted known) chargeable.not_faulty

theorem feeTerms_eq_error_iff (accepted : ∀ a ∈ fee.amounts, a.Accepted) :
    feeTerms token fee = .error e ↔ Faulty token fee e := by
  refine ⟨faulty_of_feeTerms accepted, fun faulty => ?_⟩
  cases known : feeTerms token fee with
  | ok terms => exact absurd faulty (of_feeTerms_ok accepted known).1.not_faulty
  | error e' => rw [(faulty_of_feeTerms accepted known).unique faulty]

/-! ## Schedules -/

variable {fees : List CustomFee} {body : NativeBody}

theorem build_of_many_fees (many : 10 < fees.length) :
    build token (.updateCustomFees fees) = .error (.refused (.tooManyFees fees.length)) :=
  if_pos many

theorem build_of_few_fees (few : fees.length ≤ 10) : build token (.updateCustomFees fees) =
    fees.mapM (feeTerms token) >>= fun terms => pure (.feeSchedule token.id terms) :=
  if_neg (Nat.not_lt.mpr few)

/-- What becomes of a fee schedule. -/
structure Schedules (token : Token) (fees : List CustomFee)
    (result : Except BuildError NativeBody) : Prop where
  succeeds_iff : (∃ body, result = .ok body) ↔
    fees.length ≤ 10 ∧ ∀ fee ∈ fees, Chargeable token fee
  converts : ∀ body, result = .ok body → ∃ terms,
    body = .feeSchedule token.id terms ∧ List.Forall₂ Converts fees terms
  oversized : 10 < fees.length → result = .error (.refused (.tooManyFees fees.length))
  /-- Inside the limit, it fails by what is wrong with the first fee with which something is. -/
  fails_iff : fees.length ≤ 10 → ∀ e, result = .error e ↔ ∃ front fee back,
    fees = front ++ fee :: back ∧ (∀ earlier ∈ front, Chargeable token earlier) ∧
      Faulty token fee e

/-- A schedule that is built is short enough, and its terms are those of its fees. -/
theorem of_build_fees_ok (built : build token (.updateCustomFees fees) = .ok body) :
    fees.length ≤ 10 ∧ ∃ terms, body = .feeSchedule token.id terms ∧
      fees.mapM (feeTerms token) = .ok terms := by
  have few : fees.length ≤ 10 := by
    by_contra many
    cases (build_of_many_fees (Nat.lt_of_not_le many)).symm.trans built
  rw [build_of_few_fees few] at built
  obtain ⟨terms, done, made⟩ := of_bind_ok built
  exact ⟨few, terms, (Except.ok.inj made).symm, done⟩

theorem converts_of_mapM (accepted : ∀ fee ∈ fees, ∀ a ∈ fee.amounts, a.Accepted)
    {list : List FeeTerms} (done : fees.mapM (feeTerms token) = .ok list) :
    List.Forall₂ Converts fees list := by
  have both := (List.forall₂_and_left _ _).mpr ⟨accepted, mapM_eq_ok_iff.mp done⟩
  exact both.imp fun _ _ ⟨accepted, done⟩ => (of_feeTerms_ok accepted done).2

/-- **Fee schedules convert faithfully or not at all.** -/
theorem fees_convert (token : Token) (fees : List CustomFee)
    (accepted : ∀ fee ∈ fees, ∀ a ∈ fee.amounts, a.Accepted) :
    Schedules token fees (build token (.updateCustomFees fees)) where
  succeeds_iff := by
    have charged : (∃ terms, fees.mapM (feeTerms token) = .ok terms) ↔
        ∀ fee ∈ fees, Chargeable token fee := by
      rw [exists_mapM_ok_iff]
      exact forall₂_congr fun fee member => exists_feeTerms_iff (accepted fee member)
    rw [← charged]
    constructor
    · intro ⟨body, built⟩
      obtain ⟨few, terms, -, done⟩ := of_build_fees_ok built
      exact ⟨few, terms, done⟩
    · intro ⟨few, terms, done⟩
      rw [build_of_few_fees few, done]
      exact ⟨_, rfl⟩
  converts body built := by
    obtain ⟨-, terms, rfl, done⟩ := of_build_fees_ok built
    exact ⟨terms, rfl, converts_of_mapM accepted done⟩
  oversized := build_of_many_fees
  fails_iff few e := by
    rw [build_of_few_fees few, bind_pure_eq_error_iff, mapM_eq_error_iff]
    refine exists_congr fun front => exists_congr fun fee => exists_congr fun back =>
      and_congr_right fun split => ?_
    subst split
    have earlier : ∀ fee ∈ front, ∀ a ∈ fee.amounts, a.Accepted := fun fee member =>
      accepted fee (List.mem_append_left _ member)
    have here : ∀ a ∈ fee.amounts, a.Accepted :=
      accepted fee (List.mem_append_right front List.mem_cons_self)
    exact and_congr (forall₂_congr fun fee member => exists_feeTerms_iff (earlier fee member))
      (feeTerms_eq_error_iff here)

/-- Half a unit of the currency, and one in a hundred with at least 0.01 and no upper bound. With
two more fees behind them, the schedule fails by the first of these: its fraction is one, but its
minimum is above its maximum, and what is wrong with the other does not matter. -/
theorem fees_convert_mixed :
    let token : Token := ⟨⟨0, 0, 7⟩, none, ⟨0, 0, 8⟩, 2⟩
    let half : Amount := ⟨⟨false, 50000000, 8, by decide, by decide, by decide⟩, 8, rfl, by decide⟩
    let cent : Amount := ⟨⟨false, 1, 2, by decide, by decide, by decide⟩, 2, rfl, by decide⟩
    let euro : Amount := ⟨⟨false, 100, 2, by decide, by decide, by decide⟩, 2, rfl, by decide⟩
    let nothing : Amount := ⟨⟨false, 0, 2, by decide, by decide, by decide⟩, 2, rfl, by decide⟩
    let fees : List CustomFee := [.fixed half none ⟨0, 0, 4⟩ false,
      .fractional 1 100 cent nothing true ⟨0, 0, 4⟩ true]
    let more : List CustomFee := fees ++ [.fractional 1 100 euro cent true ⟨0, 0, 4⟩ false,
      .fractional 1 0 cent nothing true ⟨0, 0, 4⟩ true]
    (∀ fee ∈ more, ∀ a ∈ fee.amounts, a.Accepted) ∧
      build token (.updateCustomFees fees) = .ok (.feeSchedule token.id
        [.fixed 50000000 none ⟨0, 0, 4⟩ false, .fractional 1 100 1 0 true ⟨0, 0, 4⟩ true]) ∧
      (∀ fee ∈ fees, Chargeable token fee) ∧
      build token (.updateCustomFees more) = .error (.refused (.minimumAboveMaximum 100 1)) ∧
      ∃ front fee back, more = front ++ fee :: back ∧
        (∀ earlier ∈ front, Chargeable token earlier) ∧
        Faulty token fee (.refused (.minimumAboveMaximum 100 1)) := by
  intro token half cent euro nothing fees more
  have gate : ∀ fee ∈ more, ∀ a ∈ fee.amounts, Amount.ofDecimal a.value a.decimals = .ok a := by
    decide +kernel
  have accepted : ∀ fee ∈ more, ∀ a ∈ fee.amounts, a.Accepted := fun fee member a of =>
    Amount.accepted_of_ofDecimal (gate fee member a of)
  have built : build token (.updateCustomFees fees) = .ok (.feeSchedule token.id
      [.fixed 50000000 none ⟨0, 0, 4⟩ false, .fractional 1 100 1 0 true ⟨0, 0, 4⟩ true]) := by
    decide +kernel
  have failed : build token (.updateCustomFees more) =
      .error (.refused (.minimumAboveMaximum 100 1)) := by
    decide +kernel
  have converts := fees_convert token fees fun fee member =>
    accepted fee (List.mem_append_left _ member)
  have fails := fees_convert token more accepted
  exact ⟨accepted, built, (converts.succeeds_iff.mp ⟨_, built⟩).2, failed,
    (fails.fails_iff (by decide) _).mp failed⟩

end TokenDesk.Native
