import TokenDesk.Build.Error
import TokenDesk.Proofs.Amount.Units
import TokenDesk.Proofs.Except

/-!
Amounts as the builders count them.

An amount of a token has the token's decimals, and base units that 64 bits hold (`Token.Takes`). One
that came through the gate is counted exactly if it is such an amount, and otherwise the builder
says which of the two is wrong (`Token.Misfit`).
-/

namespace TokenDesk

variable {token : Token} {a : Amount} {e e' : BuildError} {m n : Int64}

namespace Amount

/-- A number of base units for the value as it is written. -/
def CountsTo (a : Amount) (n : Int64) : Prop :=
  (n.toInt : ℚ) = a.value.toRat * 10 ^ a.decimals.toNat

theorem countsTo_iff : a.CountsTo n ↔ n.toInt = a.baseUnits := by
  rw [CountsTo, ← a.baseUnits_eq]
  exact_mod_cast Iff.rfl

theorem CountsTo.unique (first : a.CountsTo m) (second : a.CountsTo n) : m = n := by
  rw [← Int64.toInt_inj, countsTo_iff.mp first, countsTo_iff.mp second]

namespace Accepted

theorem checkedUnits_eq (accepted : a.Accepted) :
    a.checkedUnits = if a.baseUnits < 2 ^ 63 then .ok (Int64.ofNat a.baseUnits)
      else .error (.amount (.overflow a.value a.decimals)) := by
  rw [checkedUnits, accepted.units_eq]
  split
  · rfl
  · rfl

theorem of_checkedUnits_ok (accepted : a.Accepted) (counted : a.checkedUnits = .ok n) :
    a.baseUnits < 2 ^ 63 ∧ a.CountsTo n := by
  rw [accepted.checkedUnits_eq] at counted
  split at counted
  · rename_i fits
    cases counted
    exact ⟨fits, countsTo_iff.mpr (Int64.toInt_ofNat_of_lt fits)⟩
  · cases counted

/-- An amount that came through the gate can only be too large. -/
theorem of_checkedUnits_error (accepted : a.Accepted) (failed : a.checkedUnits = .error e) :
    2 ^ 63 ≤ a.baseUnits ∧ e = .amount (.overflow a.value a.decimals) := by
  rw [accepted.checkedUnits_eq] at failed
  split at failed
  · cases failed
  · rename_i large
    exact ⟨Nat.le_of_not_lt large, (Except.error.inj failed).symm⟩

end Accepted

end Amount

/-- An amount in the decimals of the token, with base units that 64 bits hold. -/
structure Token.Takes (token : Token) (a : Amount) : Prop where
  decimals : a.decimals = token.decimals
  fits : a.baseUnits < 2 ^ 63

/-- What is wrong with an amount that should be one of the token. -/
inductive Token.Misfit (token : Token) (a : Amount) : BuildError → Prop
  | decimals : a.decimals ≠ token.decimals →
    Misfit token a (.decimalsMismatch token.id token.decimals a.decimals)
  | overflow : a.decimals = token.decimals → 2 ^ 63 ≤ a.baseUnits →
    Misfit token a (.amount (.overflow a.value a.decimals))

theorem Token.Takes.not_misfit (takes : token.Takes a) : ¬token.Misfit a e := by
  intro misfit
  cases misfit with
  | decimals other => exact other takes.decimals
  | overflow _ large => exact Nat.not_le.mpr takes.fits large

theorem Token.Misfit.unique (first : token.Misfit a e) (second : token.Misfit a e') : e = e' := by
  cases first with
  | decimals other =>
    cases second with
    | decimals _ => rfl
    | overflow same _ => exact absurd same other
  | overflow same _ =>
    cases second with
    | decimals other => exact absurd same other
    | overflow _ _ => rfl

theorem Amount.Accepted.of_tokenUnits_ok (accepted : a.Accepted) (counted : token.units a = .ok n) :
    token.Takes a ∧ a.CountsTo n := by
  unfold Token.units at counted
  split at counted
  · rename_i decimals
    obtain ⟨fits, counts⟩ := accepted.of_checkedUnits_ok counted
    exact ⟨⟨decimals, fits⟩, counts⟩
  · cases counted

theorem Amount.Accepted.of_tokenUnits_error (accepted : a.Accepted)
    (failed : token.units a = .error e) : token.Misfit a e := by
  unfold Token.units at failed
  split at failed
  · rename_i decimals
    obtain ⟨large, rfl⟩ := accepted.of_checkedUnits_error failed
    exact .overflow decimals large
  · rename_i other
    cases failed
    exact .decimals other

end TokenDesk
