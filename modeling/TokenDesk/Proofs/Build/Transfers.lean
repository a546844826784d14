import TokenDesk.Build.Native
import TokenDesk.Proofs.Build.Amounts

/-!
Batches of transfers.

The builder reads the list from the front and adds up the credits in 64 bits, so a batch may fail at
a transfer that would do alone. `Native.offence?` says what is wrong with a transfer that follows
others, for sums without a bound. The builder stops at the first transfer with which something is
wrong, and until then its sum is the exact one (`Native.credits_eq`). So a batch that is built takes
from its source what it pays out, to the last base unit (`Native.transfers_conserve`).
-/

namespace TokenDesk.Native

variable {token : Token} {source : EntityId} {before : Nat} {total : Int64} {t : Transfer}
variable {transfers rest : List Transfer} {e : BuildError}

/-! ## Offences -/

/-- The base units of all transfers together, however many. -/
def unitsOf (transfers : List Transfer) : Nat := (transfers.map fun t => t.amount.baseUnits).sum

theorem unitsOf_cons : unitsOf (t :: rest) = t.amount.baseUnits + unitsOf rest := by
  rw [unitsOf, List.map_cons, List.sum_cons, unitsOf]

/-- What is wrong with a transfer, if anything, that follows transfers of `before` base units. -/
def offence? (token : Token) (source : EntityId) (before : Nat) (t : Transfer) :
    Option BuildError :=
  if t.recipient = source then some (.refused (.selfTransfer source))
  else if t.amount.decimals ≠ token.decimals then
    some (.decimalsMismatch token.id token.decimals t.amount.decimals)
  else if 2 ^ 63 ≤ t.amount.baseUnits then
    some (.amount (.overflow t.amount.value t.amount.decimals))
  else if t.amount.baseUnits = 0 then some (.refused (.zeroTransfer t.recipient))
  else if 2 ^ 63 ≤ before + t.amount.baseUnits then some (.refused .totalOverflow)
  else none

/-- A transfer that can be made on its own. -/
structure Payable (token : Token) (source : EntityId) (t : Transfer) : Prop where
  other : t.recipient ≠ source
  decimals : t.amount.decimals = token.decimals
  nonzero : t.amount.value.toRat ≠ 0
  fits : t.amount.baseUnits < 2 ^ 63

theorem offence?_eq_none_iff : offence? token source before t = none ↔
    Payable token source t ∧ before + t.amount.baseUnits < 2 ^ 63 := by
  constructor
  · intro fine
    unfold offence? at fine
    split at fine
    · cases fine
    split at fine
    · cases fine
    split at fine
    · cases fine
    split at fine
    · cases fine
    split at fine
    · cases fine
    rename_i other decimals fits nonzero room
    rw [Amount.baseUnits_eq_zero_iff] at nonzero
    exact ⟨⟨other, not_not.mp decimals, nonzero, Nat.lt_of_not_le fits⟩, Nat.lt_of_not_le room⟩
  · intro ⟨payable, room⟩
    have nonzero := mt t.amount.baseUnits_eq_zero_iff.mp payable.nonzero
    rw [offence?, if_neg payable.other, if_neg (not_not.mpr payable.decimals),
      if_neg (Nat.not_le.mpr payable.fits), if_neg nonzero, if_neg (Nat.not_le.mpr room)]

/-- What is wrong with the first transfer of a list with which something is wrong. -/
def firstOffence? (token : Token) (source : EntityId) (before : Nat) :
    List Transfer → Option BuildError
  | [] => none
  | t :: rest =>
    (offence? token source before t).or
      (firstOffence? token source (before + t.amount.baseUnits) rest)

theorem firstOffence?_eq_none_iff (small : before < 2 ^ 63) :
    firstOffence? token source before transfers = none ↔
      (∀ t ∈ transfers, Payable token source t) ∧ before + unitsOf transfers < 2 ^ 63 := by
  induction transfers generalizing before with
  | nil => exact iff_of_true rfl ⟨nofun, small⟩
  | cons t rest ih =>
    rw [firstOffence?, Option.or_eq_none_iff, offence?_eq_none_iff, List.forall_mem_cons,
      unitsOf_cons, ← Nat.add_assoc]
    constructor
    · intro ⟨⟨payable, room⟩, fine⟩
      rcases (ih room).mp fine with ⟨others, sum⟩
      exact ⟨⟨payable, others⟩, sum⟩
    · intro ⟨⟨payable, others⟩, sum⟩
      have room := Nat.lt_of_le_of_lt (Nat.le_add_right _ _) sum
      exact ⟨⟨payable, room⟩, (ih room).mpr ⟨others, sum⟩⟩

/-- What is wrong with the transfer at a place, after those in front of it. -/
def offenceAt? (token : Token) (source : EntityId) (before : Nat) (transfers : List Transfer)
    (place : Nat) : Option BuildError :=
  transfers[place]?.bind (offence? token source (before + unitsOf (transfers.take place)))

theorem offenceAt?_succ (place : Nat) : offenceAt? token source before (t :: rest) (place + 1) =
    offenceAt? token source (before + t.amount.baseUnits) rest place := by
  rw [offenceAt?, List.getElem?_cons_succ, List.take_succ_cons, unitsOf_cons, ← Nat.add_assoc,
    offenceAt?]

/-- The first offence is at a place with none in front of it. -/
theorem firstOffence?_eq_some_iff : firstOffence? token source before transfers = some e ↔
    ∃ place, offenceAt? token source before transfers place = some e ∧
      ∀ earlier < place, offenceAt? token source before transfers earlier = none := by
  induction transfers generalizing before with
  | nil => exact iff_of_false nofun fun ⟨_, found, _⟩ => nomatch found
  | cons t rest ih =>
    have head : offenceAt? token source before (t :: rest) 0 = offence? token source before t := rfl
    rw [firstOffence?, Option.or_eq_some_iff, ih]
    constructor
    · intro somewhere
      rcases somewhere with here | ⟨fine, place, found, first⟩
      · exact ⟨0, here, nofun⟩
      · refine ⟨place + 1, (offenceAt?_succ place).trans found, fun earlier less => ?_⟩
        cases earlier with
        | zero => exact fine
        | succ earlier => exact (offenceAt?_succ earlier).trans (first earlier (by omega))
    · intro ⟨place, found, first⟩
      cases place with
      | zero => exact .inl found
      | succ place =>
        refine .inr ⟨first 0 (Nat.succ_pos place), place, (offenceAt?_succ place).symm.trans found,
          fun earlier less => ?_⟩
        exact (offenceAt?_succ earlier).symm.trans (first (earlier + 1) (by omega))

/-! ## Credits -/

/-- What a transfer adds to its recipient's balance. -/
def creditOf (t : Transfer) : Adjustment := ⟨t.recipient, Int64.ofNat t.amount.baseUnits⟩

/-- The debit of a batch, which takes back all its credits. -/
def debitOf (source : EntityId) (transfers : List Transfer) : Adjustment :=
  ⟨source, -Int64.ofNat (unitsOf transfers)⟩

theorem addUnits?_eq {n : Nat} (sum : total.toInt = before) (small : n < 2 ^ 63) :
    addUnits? total (Int64.ofNat n) =
      if before + n < 2 ^ 63 then some (Int64.ofNat (before + n)) else none := by
  unfold addUnits?
  simp only [sum, Int64.toInt_ofNat_of_lt small, ← Int.natCast_add, Decimal.inRange_natCast_iff]
  rfl

theorem ofNat_eq_zero_iff {n : Nat} (small : n < 2 ^ 63) : Int64.ofNat n = 0 ↔ n = 0 := by
  rw [← Int64.toInt_inj, Int64.toInt_ofNat_of_lt small, Int64.toInt_zero, Int.natCast_eq_zero]

/-- One transfer: with an offence the list ends here, and else its credit is put in front of the
later ones, whose sum starts with it. -/
theorem credits_cons (accepted : t.amount.Accepted) (sum : total.toInt = before) :
    credits token source total (t :: rest) =
      match offence? token source before t with
      | some e => .error e
      | none => do
        let (later, total) ← credits token source (Int64.ofNat (before + t.amount.baseUnits)) rest
        return (creditOf t :: later, total) := by
  -- the checks in the order in which both make them; the builder's are on machine numbers
  rw [credits, offence?]
  by_cases same : t.recipient = source
  · rw [if_pos same, if_pos same]
  rw [if_neg same, if_neg same, Token.units]
  by_cases scale : t.amount.decimals = token.decimals
  · rw [if_pos scale, if_neg (not_not.mpr scale), accepted.checkedUnits_eq]
    by_cases small : t.amount.baseUnits < 2 ^ 63
    · rw [if_pos small, if_neg (Nat.not_le.mpr small)]
      change (if Int64.ofNat t.amount.baseUnits = 0 then _ else _) = _
      by_cases zero : t.amount.baseUnits = 0
      · rw [if_pos zero, if_pos ((ofNat_eq_zero_iff small).mpr zero)]
        rfl
      · rw [if_neg zero, if_neg fun none => zero ((ofNat_eq_zero_iff small).mp none),
          addUnits?_eq sum small]
        by_cases room : before + t.amount.baseUnits < 2 ^ 63
        · rw [if_pos room, if_neg (Nat.not_le.mpr room)]
          rfl
        · rw [if_neg room, if_pos (Nat.le_of_not_lt room)]
          rfl
    · rw [if_neg small, if_pos (Nat.le_of_not_lt small)]
      rfl
  · rw [if_neg scale, if_pos scale]
    rfl

/-- The credits of a list are those of its transfers if there is no offence, and their sum is the
exact one. -/
theorem credits_eq (accepted : ∀ t ∈ transfers, t.amount.Accepted) (sum : total.toInt = before) :
    credits token source total transfers =
      match firstOffence? token source before transfers with
      | some e => .error e
      | none => .ok (transfers.map creditOf, Int64.ofNat (before + unitsOf transfers)) := by
  induction transfers generalizing before total with
  | nil =>
    rw [Amount.eq_ofNat sum]
    rfl
  | cons t rest ih =>
    rw [credits_cons (accepted t List.mem_cons_self) sum, firstOffence?]
    cases first : offence? token source before t with
    | some e => rfl
    | none =>
      have room := (offence?_eq_none_iff.mp first).2
      dsimp only
      rw [ih (fun other member => accepted other (List.mem_cons_of_mem t member))
        (Int64.toInt_ofNat_of_lt room), Option.none_or, unitsOf_cons, ← Nat.add_assoc]
      cases firstOffence? token source (before + t.amount.baseUnits) rest with
      | some e => rfl
      | none => rfl

/-- The checked sum of credits that have room together is the exact one. -/
theorem foldlM_addUnits? (fits : ∀ t ∈ transfers, t.amount.baseUnits < 2 ^ 63)
    (room : before + unitsOf transfers < 2 ^ 63) (sum : total.toInt = before) :
    (transfers.map creditOf).foldlM (fun total c => addUnits? total c.amount) total =
      some (Int64.ofNat (before + unitsOf transfers)) := by
  induction transfers generalizing before total with
  | nil =>
    rw [Amount.eq_ofNat sum]
    rfl
  | cons t rest ih =>
    rw [unitsOf_cons, ← Nat.add_assoc] at room ⊢
    have next : before + t.amount.baseUnits < 2 ^ 63 :=
      Nat.lt_of_le_of_lt (Nat.le_add_right _ _) room
    rw [List.map_cons, List.foldlM_cons, creditOf,
      addUnits?_eq sum (fits t List.mem_cons_self), if_pos next]
    exact ih (fun other member => fits other (List.mem_cons_of_mem t member)) room
      (Int64.toInt_ofNat_of_lt next)

theorem sum_credits (fits : ∀ t ∈ transfers, t.amount.baseUnits < 2 ^ 63) :
    ((transfers.map creditOf).map fun c => c.amount.toInt).sum = unitsOf transfers := by
  induction transfers with
  | nil => rfl
  | cons t rest ih =>
    rw [List.map_cons, List.map_cons, List.sum_cons, unitsOf_cons, creditOf,
      Int64.toInt_ofNat_of_lt (fits t List.mem_cons_self),
      ih fun other member => fits other (List.mem_cons_of_mem t member), Int.natCast_add]

theorem unitsOf_take_le (transfers : List Transfer) (count : Nat) :
    unitsOf (transfers.take count) ≤ unitsOf transfers :=
  ((List.take_sublist count transfers).map _).sum_le_sum fun _ _ => Nat.zero_le _

/-! ## Batches -/

/-- A batch that can be paid. -/
structure AllPayable (token : Token) (source : EntityId) (transfers : List Transfer) : Prop where
  least : 1 ≤ transfers.length
  few : transfers.length ≤ 9
  each : ∀ t ∈ transfers, Payable token source t
  together : unitsOf transfers < 2 ^ 63

/-- The credit of a transfer: all of its amount, for its recipient. -/
structure Credits (token : Token) (t : Transfer) (credit : Adjustment) : Prop where
  account : credit.account = t.recipient
  positive : 0 < credit.amount.toInt
  exactly : (credit.amount.toInt : ℚ) = t.amount.value.toRat * 10 ^ token.decimals.toNat

/-- The adjustments of a batch: a credit for each transfer in order, then one debit of the source
that takes all of them back. -/
structure Conserves (token : Token) (source : EntityId) (transfers : List Transfer)
    (credits : List Adjustment) (debit : Adjustment) : Prop where
  credited : List.Forall₂ (Credits token) transfers credits
  account : debit.account = source
  debited : debit.amount.toInt = -(credits.map fun c => c.amount.toInt).sum
  balanced : ((credits ++ [debit]).map fun a => a.amount.toInt).sum = 0
  /-- On the way no sum leaves 64 bits. -/
  room : ∀ front, front <+: credits →
    ∃ total, front.foldlM (fun total c => addUnits? total c.amount) 0 = some total ∧
      total.toInt = (front.map fun c => c.amount.toInt).sum

theorem credits_creditOf (payable : Payable token source t) : Credits token t (creditOf t) where
  account := rfl
  positive := by
    have nonzero := mt t.amount.baseUnits_eq_zero_iff.mp payable.nonzero
    rw [creditOf, Int64.toInt_ofNat_of_lt payable.fits]
    omega
  exactly := by
    rw [creditOf, Int64.toInt_ofNat_of_lt payable.fits, Int.cast_natCast, t.amount.baseUnits_eq,
      payable.decimals]

theorem AllPayable.conserves (payable : AllPayable token source transfers) :
    Conserves token source transfers (transfers.map creditOf) (debitOf source transfers) := by
  have fits : ∀ t ∈ transfers, t.amount.baseUnits < 2 ^ 63 := fun t member =>
    (payable.each t member).fits
  have debited : (debitOf source transfers).amount.toInt = -(unitsOf transfers : ℤ) :=
    Int64.toInt_neg_ofNat_of_le payable.together.le
  refine ⟨?_, rfl, ?_, ?_, fun front start => ?_⟩
  · rw [List.forall₂_map_right_iff, List.forall₂_same]
    exact fun t member => credits_creditOf (payable.each t member)
  · rw [sum_credits fits, debited]
  · rw [List.map_append, List.sum_append, sum_credits fits, List.map_singleton, List.sum_singleton,
      debited, add_neg_cancel]
  · rw [List.prefix_iff_eq_take.mp start, ← List.map_take]
    have fewer := Nat.lt_of_le_of_lt (unitsOf_take_le transfers front.length) payable.together
    have fits' : ∀ t ∈ transfers.take front.length, t.amount.baseUnits < 2 ^ 63 := fun t member =>
      fits t (List.mem_of_mem_take member)
    have zero : (0 : Int64).toInt = (0 : Nat) := rfl
    refine ⟨_, foldlM_addUnits? fits' (by rwa [Nat.zero_add]) zero, ?_⟩
    rw [Nat.zero_add, sum_credits fits', Int64.toInt_ofNat_of_lt fewer]

theorem build_of_empty (none : transfers.length = 0) :
    build token (.transfers source transfers) = .error (.refused .noTransfers) := by
  rw [List.eq_nil_of_length_eq_zero none]
  rfl

theorem build_of_oversized (many : 10 ≤ transfers.length) :
    build token (.transfers source transfers) =
      .error (.refused (.tooManyRecipients transfers.length)) := by
  have nonempty : ¬transfers.isEmpty = true := by
    rw [List.isEmpty_iff_length_eq_zero]
    omega
  dsimp only [build]
  rw [adjustments, if_neg nonempty]
  change (if 10 ≤ transfers.length then _ else _) >>= _ = _
  rw [if_pos many]
  rfl

/-- A list of an admitted length is built from its credits and the debit if there is no offence. -/
theorem build_of_length (least : 1 ≤ transfers.length) (few : transfers.length ≤ 9)
    (accepted : ∀ t ∈ transfers, t.amount.Accepted) :
    build token (.transfers source transfers) =
      match firstOffence? token source 0 transfers with
      | some e => .error e
      | none =>
        .ok (.transfer token.id (transfers.map creditOf ++ [debitOf source transfers])) := by
  have nonempty : ¬transfers.isEmpty = true := by
    rw [List.isEmpty_iff_length_eq_zero]
    omega
  have within : ¬maxAdjustments ≤ transfers.length := by
    have limit : maxAdjustments = 10 := rfl
    omega
  have zero : (0 : Int64).toInt = (0 : Nat) := rfl
  dsimp only [build]
  rw [adjustments, if_neg nonempty, if_neg within, credits_eq accepted zero, Nat.zero_add]
  cases firstOffence? token source 0 transfers with
  | some e => rfl
  | none => rfl

theorem build_eq_ok_iff {body : NativeBody} (accepted : ∀ t ∈ transfers, t.amount.Accepted) :
    build token (.transfers source transfers) = .ok body ↔ AllPayable token source transfers ∧
      body = .transfer token.id (transfers.map creditOf ++ [debitOf source transfers]) := by
  have start : 0 < 2 ^ 63 := by decide
  constructor
  · intro built
    by_cases none : transfers.length = 0
    · cases (build_of_empty none).symm.trans built
    by_cases many : 10 ≤ transfers.length
    · cases (build_of_oversized many).symm.trans built
    rw [build_of_length (by omega) (by omega) accepted] at built
    cases first : firstOffence? token source 0 transfers with
    | some e =>
      rw [first] at built
      cases built
    | none =>
      rw [first] at built
      cases built
      rcases (firstOffence?_eq_none_iff start).mp first with ⟨each, together⟩
      rw [Nat.zero_add] at together
      exact ⟨⟨by omega, by omega, each, together⟩, rfl⟩
  · rintro ⟨payable, rfl⟩
    have fine : firstOffence? token source 0 transfers = none :=
      (firstOffence?_eq_none_iff start).mpr ⟨payable.each, by
        rw [Nat.zero_add]
        exact payable.together⟩
    rw [build_of_length payable.least payable.few accepted, fine]

/-- What becomes of a batch of transfers. -/
structure Settles (token : Token) (source : EntityId) (transfers : List Transfer)
    (result : Except BuildError NativeBody) : Prop where
  succeeds_iff : (∃ body, result = .ok body) ↔ AllPayable token source transfers
  conserves : ∀ body, result = .ok body → ∃ credits debit,
    body = .transfer token.id (credits ++ [debit]) ∧ Conserves token source transfers credits debit
  empty : transfers.length = 0 → result = .error (.refused .noTransfers)
  oversized : 10 ≤ transfers.length →
    result = .error (.refused (.tooManyRecipients transfers.length))
  /-- Inside the list, it fails by what is wrong with the first transfer with which something is. -/
  offends : 1 ≤ transfers.length → transfers.length ≤ 9 → ∀ e, result = .error e ↔
    ∃ place, offenceAt? token source 0 transfers place = some e ∧
      ∀ earlier < place, offenceAt? token source 0 transfers earlier = none

/-- **Batches conserve value.** -/
theorem transfers_conserve (token : Token) (source : EntityId) (transfers : List Transfer)
    (accepted : ∀ t ∈ transfers, t.amount.Accepted) :
    Settles token source transfers (build token (.transfers source transfers)) where
  succeeds_iff :=
    ⟨fun ⟨_, built⟩ => ((build_eq_ok_iff accepted).mp built).1,
      fun payable => ⟨_, (build_eq_ok_iff accepted).mpr ⟨payable, rfl⟩⟩⟩
  conserves body built := by
    obtain ⟨payable, rfl⟩ := (build_eq_ok_iff accepted).mp built
    exact ⟨_, _, rfl, payable.conserves⟩
  empty := build_of_empty
  oversized := build_of_oversized
  offends least few e := by
    rw [build_of_length least few accepted, ← firstOffence?_eq_some_iff]
    cases firstOffence? token source 0 transfers with
    | some first => exact ⟨fun failed => congrArg some (Except.error.inj failed), fun same =>
        congrArg Except.error (Option.some.inj same)⟩
    | none => exact iff_of_false nofun nofun

/-- Two credits and their debit. With more transfers behind them, the batch fails by the first one
that is wrong, which is of nothing, and not by the one after it, which goes to the source. -/
theorem transfers_conserve_pair :
    let token : Token := ⟨⟨0, 0, 7⟩, none, ⟨0, 0, 8⟩, 2⟩
    let most : Amount := ⟨⟨false, 150, 2, by decide, by decide, by decide⟩, 2, rfl, by decide⟩
    let least : Amount := ⟨⟨false, 1, 2, by decide, by decide, by decide⟩, 2, rfl, by decide⟩
    let nothing : Amount := ⟨⟨false, 0, 2, by decide, by decide, by decide⟩, 2, rfl, by decide⟩
    let pair : List Transfer := [⟨⟨0, 0, 4⟩, most⟩, ⟨⟨0, 0, 5⟩, least⟩]
    let more : List Transfer := pair ++ [⟨⟨0, 0, 6⟩, nothing⟩, ⟨⟨0, 0, 3⟩, least⟩]
    (∀ t ∈ more, t.amount.Accepted) ∧
      build token (.transfers ⟨0, 0, 3⟩ pair) =
        .ok (.transfer token.id [⟨⟨0, 0, 4⟩, 150⟩, ⟨⟨0, 0, 5⟩, 1⟩, ⟨⟨0, 0, 3⟩, -151⟩]) ∧
      AllPayable token ⟨0, 0, 3⟩ pair ∧
      build token (.transfers ⟨0, 0, 3⟩ more) = .error (.refused (.zeroTransfer ⟨0, 0, 6⟩)) := by
  intro token most least nothing pair more
  have gate : ∀ t ∈ more, Amount.ofDecimal t.amount.value 2 = .ok t.amount := by decide +kernel
  have accepted : ∀ t ∈ more, t.amount.Accepted := fun t member =>
    Amount.accepted_of_ofDecimal (gate t member)
  have built : build token (.transfers ⟨0, 0, 3⟩ pair) =
      .ok (.transfer token.id [⟨⟨0, 0, 4⟩, 150⟩, ⟨⟨0, 0, 5⟩, 1⟩, ⟨⟨0, 0, 3⟩, -151⟩]) := by
    decide +kernel
  have pays := transfers_conserve token ⟨0, 0, 3⟩ pair fun t member =>
    accepted t (List.mem_append_left _ member)
  have fails := transfers_conserve token ⟨0, 0, 3⟩ more accepted
  have places : ∀ place < 2, offenceAt? token ⟨0, 0, 3⟩ 0 more place = none := by decide +kernel
  refine ⟨accepted, built, pays.succeeds_iff.mp ⟨_, built⟩, ?_⟩
  apply (fails.offends (by decide) (by decide) _).mpr
  exact ⟨2, by decide +kernel, places⟩

end TokenDesk.Native
