import TokenDesk.Proofs.Build.Parameters

/-!
Calldata round trip. The calldata of a request is the selector of the declared function and then
whole words, and decoding these words by the declared types gives what the request stands for. The
only part of a request without a fixed size is the data of a hold, so only there does its length
matter.
-/

namespace TokenDesk

open Abi (Value encodeAll)

/-! ## Lengths -/

theorem length_padToMultiple_le (bytes : Bytes) :
    (Bytes.padToMultiple 32 bytes).length ≤ bytes.length + 31 := by
  rw [Bytes.padToMultiple, List.length_append, List.length_replicate]
  omega

/-- A hold takes five words, one for the length of its data, and the words of its data. -/
theorem Hold.length_parameter (h : Hold) :
    h.parameter.encode.length = 192 + (Bytes.padToMultiple 32 h.data).length := by
  have escrow : (Bytes.padLeft 32 h.escrow.address).length = 32 :=
    Bytes.length_padLeft (by rw [EntityId.length_address]; decide)
  have destination : (Bytes.padLeft 32
      (h.destination.elim (List.replicate 20 0) EntityId.address)).length = 32 := by
    cases h.destination with
    | none => rfl
    | some id =>
      exact Bytes.length_padLeft (by rw [Option.elim_some, EntityId.length_address]; decide)
  simp only [parameter, Value.encode, Abi.assemble, Abi.valueParts, Abi.headLength,
    Abi.Part.headLength, Abi.tails, Value.isDynamic, Abi.intWord, Abi.lengthPrefixed,
    Abi.length_word, Abi.length_heads, escrow, destination, List.length_append,
    List.length_nil, Bool.false_eq_true, ↓reduceIte]
  omega

/-- The data of a hold is shorter than 2 ^ 63 bytes, as every byte string in memory is. -/
def Request.FitsMemory (request : Request) : Prop :=
  ∀ hold, request.hold? = some hold → hold.data.length < 2 ^ 63

/-- Parameters without a fixed size have offsets of 64 bits. -/
theorem Request.FitsMemory.length_lt {request : Request} (fits : request.FitsMemory)
    (dynamic : Abi.anyDynamicValue request.parameters = true) :
    (encodeAll request.parameters).length < UInt64.size := by
  have size : UInt64.size = 2 ^ 64 := rfl
  cases request with
  | createHold hold =>
    have short := fits hold rfl
    have padded := length_padToMultiple_le hold.data
    have kind : hold.parameter.isDynamic = true := rfl
    simp only [parameters, encodeAll, Abi.assemble, Abi.valueParts, Abi.headLength,
      Abi.Part.headLength, Abi.tails, Abi.length_heads, hold.length_parameter, kind,
      List.length_append, List.length_nil, ↓reduceIte]
    omega
  | createHoldByController source hold =>
    have short := fits hold rfl
    have padded := length_padToMultiple_le hold.data
    have kind : hold.parameter.isDynamic = true := rfl
    have holder : (Bytes.padLeft 32 source.address).length = 32 :=
      Bytes.length_padLeft (by rw [EntityId.length_address]; decide)
    -- The operator's data is empty and takes the word of its length.
    have operator : (Abi.lengthPrefixed []).length = 32 := rfl
    simp only [parameters, encodeAll, Abi.assemble, Abi.valueParts, Abi.headLength,
      Abi.Part.headLength, Abi.tails, Abi.length_heads, hold.length_parameter, kind, holder,
      operator, Value.isDynamic, Value.encode, List.length_append, List.length_nil,
      Bool.false_eq_true, ↓reduceIte]
    omega
  | _ => cases dynamic

/-! ## The round trip -/

namespace Request

/-- The amounts in a request that a contract carries out. -/
def amounts : Request → List Amount
  | .cashIn _ amount | .burn amount | .wipe _ amount | .rescue amount | .rescueHbar amount
  | .executeHold _ _ amount | .releaseHold _ amount | .grantSupplierRole _ amount
  | .increaseSupplierAllowance _ amount | .decreaseSupplierAllowance _ amount
  | .updateReserveAmount _ amount => [amount]
  | .createHold hold | .createHoldByController _ hold => [hold.amount]
  | _ => []

end Request

namespace Contract

/-- How a call carries a request: by the entry point's function and words that mean the request. -/
structure Carries (call : ContractCall) (entry : EntryPoint) (request : Request) : Prop where
  function : call.function = entry.method.name
  /-- The calldata begins with the four bytes of the declared function. -/
  selector : call.calldata.take 4 = Abi.selector entry.method.signature ∧
    (Abi.selector entry.method.signature).length = 4
  /-- Whole words follow. -/
  words : 32 ∣ (call.calldata.drop 4).length
  /-- By the declared types the words decode to what the request stands for. -/
  decoded : Abi.decodeAll entry.method.parameters (call.calldata.drop 4) = .ok request.parameters
  /-- Encoding this again gives the same words, so offsets and padding are as they have to be. -/
  canonical : encodeAll request.parameters = call.calldata.drop 4
  /-- No amount was rounded. -/
  units : ∀ amount ∈ request.amounts,
    (amount.baseUnits : ℚ) = amount.value.toRat * 10 ^ amount.decimals.toNat
  /-- The second in which a hold expires is the exact one. -/
  expiration : ∀ hold, request.hold? = some hold →
    (hold.expiration.seconds.toNat : Int) = hold.expiration.seconds

/-- The text that the selector of the longest declared function is made from. -/
example : (entryPoint? .createHoldByController).map (fun entry => entry.method.signature) =
    some "createHoldByController(address,(int64,uint256,address,address,bytes),bytes)" := by
  cbv

theorem length_selector (signature : String) : (Abi.selector signature).length = 4 := by
  rw [Abi.selector, List.length_take, Keccak.hashText, length_keccak]
  rfl

/-- A hold is built only if it expires after the epoch. -/
theorem expiration_of_arguments {token : Token} {request : Request} {values : List Value}
    {hold : Hold} (argued : arguments token request = .ok values)
    (holds : request.hold? = some hold) : 0 ≤ hold.expiration.seconds := by
  cases request with
  | createHold h | createHoldByController source h =>
    cases holds
    obtain ⟨v, built, -⟩ := of_bind_ok argued
    exact (of_holdArgument built).1
  | _ => cases holds

/-- **Calldata round trip.** A contract call carries its request. -/
theorem build_carries {token : Token} {request : Request} {call : ContractCall}
    (fits : request.FitsMemory) (built : build token request = .ok call) :
    ∃ entry, entryPoint? request.operation = some entry ∧ Carries call entry request := by
  unfold build at built
  split at built
  · cases built
  · rename_i entry carried
    obtain ⟨contract, -, rest⟩ := of_bind_ok built
    obtain ⟨values, argued, rest⟩ := of_bind_ok rest
    obtain ⟨rfl, fit⟩ := of_arguments argued carried
    cases rest
    have front := length_selector entry.method.signature
    have behind : (entry.method.calldata request.parameters).drop 4 =
        encodeAll request.parameters := List.drop_left' front
    refine ⟨entry, carried, rfl, ⟨List.take_left' front, front⟩, ?_, ?_, behind.symm, ?_, ?_⟩
    · rw [behind]
      exact Abi.dvd_assemble fit.dvd_length
    · rw [behind]
      exact Abi.decodeAll_encodeAll fit fits.length_lt
    · intro amount _
      exact amount.baseUnits_eq
    · intro hold holds
      exact Int.toNat_of_nonneg (expiration_of_arguments argued holds)

/-- A hold of 1.5 tokens with 33 bytes of data and no destination. -/
theorem build_carries_createHoldByController :
    let token : Token := ⟨⟨0, 0, 7⟩, some ⟨0, 0, 9⟩, ⟨0, 0, 8⟩, 6⟩
    let amount : Amount := ⟨⟨false, 1500000, 6, by decide, by decide, by decide⟩, 6, rfl,
      by decide⟩
    let hold : Hold := ⟨amount, ⟨0, 0, 11⟩, ⟨1700000000, 500000000, by decide +kernel⟩, none,
      List.replicate 33 7⟩
    let request : Request := .createHoldByController ⟨0, 0, 10⟩ hold
    request.FitsMemory ∧ ∃ call, build token request = .ok call ∧
      ∃ entry, entryPoint? request.operation = some entry ∧ Carries call entry request := by
  intro token amount hold request
  have fits : request.FitsMemory := by
    rintro created ⟨⟩
    decide
  have succeeds : (build token request).isOk = true := by decide +kernel
  cases built : build token request with
  | error e =>
    rw [built] at succeeds
    cases succeeds
  | ok call => exact ⟨fits, call, rfl, build_carries fits built⟩

end Contract

end TokenDesk
