import TokenDesk.Json.Access
import TokenDesk.Proofs.Wire.Scalar
import TokenDesk.Wire.Request

/-!
Requests on the wire. A request whose amounts came through the gate is decoded from its JSON text,
and the operation that the text names is its own. It is decoded as it was exactly if a clock shows
the instant at which its hold expires; past the end of any other second the text names the next one,
and this is what is decoded. A request that was decoded from any text is canonical, so that writing
and decoding it again changes nothing (`request_roundTrip`).
-/

namespace TokenDesk

/-- The amounts of a fee. -/
def CustomFee.amounts : CustomFee → List Amount
  | .fixed amount _ _ _ => [amount]
  | .fractional _ _ minimum maximum _ _ _ => [minimum, maximum]

/-- All amounts of a request, those of fees and credits included. -/
def Request.allAmounts : Request → List Amount
  | .cashIn _ amount | .burn amount | .wipe _ amount | .rescue amount | .rescueHbar amount
  | .executeHold _ _ amount | .releaseHold _ amount | .grantSupplierRole _ amount
  | .increaseSupplierAllowance _ amount | .decreaseSupplierAllowance _ amount
  | .updateReserveAmount _ amount => [amount]
  | .freeze _ | .unfreeze _ | .pause | .unpause | .delete | .grantKyc _ | .revokeKyc _
  | .grantRole _ _ | .revokeRole _ _ | .reclaimHold _ | .grantUnlimitedSupplierRole _
  | .revokeSupplierRole _ | .resetSupplierAllowance _ | .updateReserveAddress _ => []
  | .updateCustomFees fees => fees.flatMap CustomFee.amounts
  | .createHold hold | .createHoldByController _ hold => [hold.amount]
  | .transfers _ credits => credits.map Transfer.amount

/-- When the hold that a request makes expires. -/
def Request.expiration? : Request → Option Calendar.Instant
  | .createHold hold | .createHoldByController _ hold => some hold.expiration
  | _ => none

/-! ## What the text of a request names -/

def Hold.asWritten (h : Hold) : Hold := { h with expiration := h.expiration.asWritten }

/-- The request that the text of a request names: its hold expires at the instant that is written
there. -/
def Request.asWritten : Request → Request
  | .createHold hold => .createHold hold.asWritten
  | .createHoldByController source hold => .createHoldByController source hold.asWritten
  | request => request

theorem Hold.asWritten_of_isOnClock {h : Hold} (shown : h.expiration.isOnClock = true) :
    h.asWritten = h := by
  unfold asWritten
  rw [Calendar.Instant.asWritten_of_isOnClock shown]

namespace Request

theorem operation_asWritten (r : Request) : r.asWritten.operation = r.operation := by
  cases r <;> rfl

theorem allAmounts_asWritten (r : Request) : r.asWritten.allAmounts = r.allAmounts := by
  cases r <;> rfl

theorem isOnClock_asWritten (r : Request) :
    ∀ t ∈ r.asWritten.expiration?, t.isOnClock = true := by
  intro t member
  cases r with
  | createHold h | createHoldByController _ h =>
    cases member
    exact h.expiration.isOnClock_asWritten
  | _ => cases member

/-- The text of a request names the request itself if a clock shows when its hold expires. -/
theorem asWritten_eq_self_iff {r : Request} :
    r.asWritten = r ↔ ∀ t ∈ r.expiration?, t.isOnClock = true := by
  constructor
  · intro same
    rw [← same]
    exact r.isOnClock_asWritten
  · intro shown
    cases r with
    | createHold h =>
      exact congrArg Request.createHold (Hold.asWritten_of_isOnClock (shown _ rfl))
    | createHoldByController source h =>
      exact congrArg (Request.createHoldByController source)
        (Hold.asWritten_of_isOnClock (shown _ rfl))
    | _ => rfl

/-- What every request that is decoded keeps to. -/
structure Canonical (r : Request) : Prop where
  accepted : ∀ a ∈ r.allAmounts, a.Accepted
  shown : ∀ t ∈ r.expiration?, t.isOnClock = true

theorem Canonical.of_amounts {r : Request} (holdless : r.expiration? = none)
    (accepted : ∀ a ∈ r.allAmounts, a.Accepted) : r.Canonical :=
  ⟨accepted, fun t member => by simp [holdless] at member⟩

theorem Canonical.of_hold {r : Request} {h : Hold} (amounts : r.allAmounts = [h.amount])
    (expiration : r.expiration? = some h.expiration) (accepted : h.amount.Accepted)
    (shown : h.expiration.isOnClock = true) : r.Canonical where
  accepted a member := by
    rw [amounts, List.mem_singleton] at member
    exact member ▸ accepted
  shown t member := by
    rw [expiration, Option.mem_some_iff] at member
    exact member ▸ shown

end Request

namespace Wire

open Json (Document toDocument Fits)

/-! ## What is written fits -/

section

variable (depth : Nat)

theorem fits_ofEntity (id : EntityId) : Fits depth (ofEntity id) := by
  simp [ofEntity, Fits]

theorem fits_ofEntity? (id : Option EntityId) : Fits depth (ofEntity? id) := by
  cases id with
  | none => simp [ofEntity?, Fits]
  | some id => exact fits_ofEntity depth id

theorem fits_ofAmount (a : Amount) : Fits (depth + 1) (ofAmount a) := by
  simp [ofAmount, Fits, Json.nat, inRange_of_uint8]

theorem fits_ofCustomFee (fee : CustomFee) : Fits (depth + 2) (ofCustomFee fee) := by
  cases fee with
  | fixed amount token collector exempt =>
    simp [ofCustomFee, Fits, fits_ofAmount, fits_ofEntity?, fits_ofEntity]
  | fractional numerator denominator minimum maximum net collector exempt =>
    simp [ofCustomFee, Fits, fits_ofAmount, fits_ofEntity, inRange_of_int64]

theorem fits_ofHold (h : Hold) : Fits (depth + 2) (ofHold h) := by
  simp [ofHold, Fits, fits_ofAmount, fits_ofEntity, fits_ofEntity?, ofInstant, ofBytes]

theorem fits_ofHoldRef (h : HoldRef) : Fits (depth + 1) (ofHoldRef h) := by
  simp [ofHoldRef, Fits, fits_ofEntity, Json.nat, inRange_of_uint64]

theorem fits_ofTransfer (t : Transfer) : Fits (depth + 2) (ofTransfer t) := by
  simp [ofTransfer, Fits, fits_ofAmount, fits_ofEntity]

theorem fits_ofRequest (r : Request) : Fits (depth + 4) (ofRequest r) := by
  cases r <;>
    simp [ofRequest, ofParameters, Fits, fits_ofEntity, fits_ofAmount, fits_ofHold, fits_ofHoldRef,
      fits_ofCustomFee, fits_ofTransfer]

end

/-! ## The parts of a request -/

theorem role_name (role : Role) : Wire.role .buffered (Json.text role.name).toDocument = .ok role :=
  named_name (by cases role <;> decide) (by simp [Role.all, Role.name])

theorem customFee_ofCustomFee {fee : CustomFee} (accepted : ∀ a ∈ fee.amounts, a.Accepted) :
    customFee .buffered (ofCustomFee fee).toDocument = .ok fee := by
  have fits : Fits maxDepth (ofCustomFee fee) := fits_ofCustomFee 125 fee
  cases fee with
  | fixed a token collector exempt =>
    let members : List (String × Json) := [("amount", ofAmount a),
      ("denominating_token", ofEntity? token), ("collector", ofEntity collector),
      ("collectors_exempt", .bool exempt)]
    have form : ofCustomFee (.fixed a token collector exempt) =
        .object (("kind", .text (FeeKind.name .fixed)) :: members) := rfl
    rw [form] at fits ⊢
    have taken : tagged .buffered "kind" [.fixed, .fractional] FeeKind.name
        (Json.object (("kind", .text (FeeKind.name .fixed)) :: members)).toDocument =
        .ok (.fixed, (Json.object members).toDocument) :=
      tagged_object (by simp) (by simp [FeeKind.name]) (by simp [members]) fits
    have opened : record ["amount", "denominating_token", "collector", "collectors_exempt"]
        (Json.object members).toDocument = .ok (Record.ofMembers members) :=
      record_object (by simp [members])
    have amount : (Record.ofMembers members).field 0 amount = .value a :=
      field_ofMembers rfl (amount_ofAmount (accepted a (by simp [CustomFee.amounts])))
    have token : (Record.ofMembers members).field? 1 entity = .value token :=
      field?_ofMembers rfl (optional_ofEntity? token)
    have collector : (Record.ofMembers members).field 2 entity = .value collector :=
      field_ofMembers rfl (entity_ofEntity collector)
    have exempt : (Record.ofMembers members).field 3 bool = .value exempt :=
      field_ofMembers rfl (bool_bool exempt)
    unfold customFee
    simp only [bind, Except.bind, taken, opened, amount, token, collector, exempt,
      Reading.map_value, Reading.seq_value, settle_ofMembers]
  | fractional numerator denominator minimum maximum net collector exempt =>
    let members : List (String × Json) := [("numerator", .int numerator.toInt),
      ("denominator", .int denominator.toInt), ("minimum", ofAmount minimum),
      ("maximum", ofAmount maximum), ("net_of_transfers", .bool net),
      ("collector", ofEntity collector), ("collectors_exempt", .bool exempt)]
    have form : ofCustomFee
        (.fractional numerator denominator minimum maximum net collector exempt) =
        .object (("kind", .text (FeeKind.name .fractional)) :: members) := rfl
    rw [form] at fits ⊢
    have taken : tagged .buffered "kind" [.fixed, .fractional] FeeKind.name
        (Json.object (("kind", .text (FeeKind.name .fractional)) :: members)).toDocument =
        .ok (.fractional, (Json.object members).toDocument) :=
      tagged_object (by simp) (by simp [FeeKind.name]) (by simp [members]) fits
    have opened : record ["numerator", "denominator", "minimum", "maximum", "net_of_transfers",
        "collector", "collectors_exempt"] (Json.object members).toDocument =
        .ok (Record.ofMembers members) :=
      record_object (by simp [members])
    have numerator : (Record.ofMembers members).field 0 int64 = .value numerator :=
      field_ofMembers rfl (int64_int numerator)
    have denominator : (Record.ofMembers members).field 1 int64 = .value denominator :=
      field_ofMembers rfl (int64_int denominator)
    have minimum : (Record.ofMembers members).field 2 amount = .value minimum :=
      field_ofMembers rfl (amount_ofAmount (accepted minimum (by simp [CustomFee.amounts])))
    have maximum : (Record.ofMembers members).field 3 amount = .value maximum :=
      field_ofMembers rfl (amount_ofAmount (accepted maximum (by simp [CustomFee.amounts])))
    have net : (Record.ofMembers members).field 4 bool = .value net :=
      field_ofMembers rfl (bool_bool net)
    have collector : (Record.ofMembers members).field 5 entity = .value collector :=
      field_ofMembers rfl (entity_ofEntity collector)
    have exempt : (Record.ofMembers members).field 6 bool = .value exempt :=
      field_ofMembers rfl (bool_bool exempt)
    unfold customFee
    simp only [bind, Except.bind, taken, opened, numerator, denominator, minimum, maximum, net,
      collector, exempt, Reading.map_value, Reading.seq_value, settle_ofMembers]

theorem hold_ofHold {h : Hold} (accepted : h.amount.Accepted)
    (shown : h.expiration.isOnClock = true) : hold (ofHold h).toDocument = .ok h := by
  let members : List (String × Json) := [("amount", ofAmount h.amount),
    ("escrow", ofEntity h.escrow), ("expiration", ofInstant h.expiration),
    ("destination", ofEntity? h.destination), ("data", ofBytes h.data)]
  have opened : record ["amount", "escrow", "expiration", "destination", "data"]
      (ofHold h).toDocument = .ok (Record.ofMembers members) :=
    record_object (by simp)
  have amount : (Record.ofMembers members).field 0 amount = .value h.amount :=
    field_ofMembers rfl (amount_ofAmount accepted)
  have escrow : (Record.ofMembers members).field 1 entity = .value h.escrow :=
    field_ofMembers rfl (entity_ofEntity h.escrow)
  have expiration : (Record.ofMembers members).field 2 instant = .value h.expiration :=
    field_ofMembers rfl (instant_ofInstant shown)
  have destination : (Record.ofMembers members).field? 3 entity = .value h.destination :=
    field?_ofMembers rfl (optional_ofEntity? h.destination)
  have data : (Record.ofMembers members).field 4 bytes = .value h.data :=
    field_ofMembers rfl (bytes_ofBytes h.data)
  unfold hold
  simp only [bind, Except.bind, opened, amount, escrow, expiration, destination, data,
    Reading.map_value, Reading.seq_value, settle_ofMembers]

theorem holdRef_ofHoldRef (h : HoldRef) : holdRef (ofHoldRef h).toDocument = .ok h :=
  record2_object (by simp) (entity_ofEntity h.tokenHolder) (uint64_nat h.holdId)

theorem transfer_ofTransfer {t : Transfer} (accepted : t.amount.Accepted) :
    transfer (ofTransfer t).toDocument = .ok t :=
  record2_object (by simp) (entity_ofEntity t.recipient) (amount_ofAmount accepted)

/-! ## Requests -/

/-- The parameters of a request are decoded by its operation. -/
theorem parameters_ofParameters {r : Request} (canonical : r.Canonical) :
    parameters (Json.object (ofParameters r)).toDocument r.operation = .ok r := by
  obtain ⟨accepted, shown⟩ := canonical
  cases r with
  | cashIn target amount =>
    exact record2_object (by simp) (entity_ofEntity target)
      (amount_ofAmount (accepted amount List.mem_cons_self))
  | burn amount => exact record1_object (amount_ofAmount (accepted amount List.mem_cons_self))
  | wipe target amount =>
    exact record2_object (by simp) (entity_ofEntity target)
      (amount_ofAmount (accepted amount List.mem_cons_self))
  | freeze target => exact record1_object (entity_ofEntity target)
  | unfreeze target => exact record1_object (entity_ofEntity target)
  | pause => rfl
  | unpause => rfl
  | delete => rfl
  | rescue amount => exact record1_object (amount_ofAmount (accepted amount List.mem_cons_self))
  | rescueHbar amount =>
    exact record1_object (amount_ofAmount (accepted amount List.mem_cons_self))
  | grantKyc target => exact record1_object (entity_ofEntity target)
  | revokeKyc target => exact record1_object (entity_ofEntity target)
  | grantRole target role =>
    exact record2_object (by simp) (entity_ofEntity target) (role_name role)
  | revokeRole target role =>
    exact record2_object (by simp) (entity_ofEntity target) (role_name role)
  | updateCustomFees fees =>
    refine record1_object (list_array fun fee member => customFee_ofCustomFee fun a inside => ?_)
    exact accepted a (List.mem_flatMap.mpr ⟨fee, member, inside⟩)
  | createHold h =>
    exact record1_object (hold_ofHold (accepted h.amount List.mem_cons_self) (shown _ rfl))
  | createHoldByController source h =>
    exact record2_object (by simp) (entity_ofEntity source)
      (hold_ofHold (accepted h.amount List.mem_cons_self) (shown _ rfl))
  | executeHold h recipient a =>
    let members : List (String × Json) :=
      [("hold", ofHoldRef h), ("to", ofEntity recipient), ("amount", ofAmount a)]
    have opened : record ["hold", "to", "amount"] (Json.object members).toDocument =
        .ok (Record.ofMembers members) := record_object (by simp [members])
    have hold : (Record.ofMembers members).field 0 holdRef = .value h :=
      field_ofMembers rfl (holdRef_ofHoldRef h)
    have recipient : (Record.ofMembers members).field 1 entity = .value recipient :=
      field_ofMembers rfl (entity_ofEntity recipient)
    have amount : (Record.ofMembers members).field 2 amount = .value a :=
      field_ofMembers rfl (amount_ofAmount (accepted a List.mem_cons_self))
    simp only [ofParameters, Request.operation, parameters, bind, Except.bind]
    rw [opened]
    simp only [hold, recipient, amount, Reading.map_value, Reading.seq_value, settle_ofMembers]
  | releaseHold h amount =>
    exact record2_object (by simp) (holdRef_ofHoldRef h)
      (amount_ofAmount (accepted amount List.mem_cons_self))
  | reclaimHold h => exact record1_object (holdRef_ofHoldRef h)
  | grantSupplierRole target allowance =>
    exact record2_object (by simp) (entity_ofEntity target)
      (amount_ofAmount (accepted allowance List.mem_cons_self))
  | grantUnlimitedSupplierRole target => exact record1_object (entity_ofEntity target)
  | revokeSupplierRole target => exact record1_object (entity_ofEntity target)
  | increaseSupplierAllowance target amount =>
    exact record2_object (by simp) (entity_ofEntity target)
      (amount_ofAmount (accepted amount List.mem_cons_self))
  | decreaseSupplierAllowance target amount =>
    exact record2_object (by simp) (entity_ofEntity target)
      (amount_ofAmount (accepted amount List.mem_cons_self))
  | resetSupplierAllowance target => exact record1_object (entity_ofEntity target)
  | updateReserveAddress reserve => exact record1_object (entity_ofEntity reserve)
  | updateReserveAmount reserve amount =>
    exact record2_object (by simp) (entity_ofEntity reserve)
      (amount_ofAmount (accepted amount List.mem_cons_self))
  | transfers source credits =>
    refine record2_object (by simp) (entity_ofEntity source)
      (list_array fun t member => transfer_ofTransfer ?_)
    exact accepted t.amount (List.mem_map_of_mem member)

theorem operation_names_distinct : (Operation.all.map Operation.name).Nodup := by
  simp [Operation.all, Operation.name]

/-- A canonical request is decoded as it was written. -/
theorem request_ofRequest {r : Request} (canonical : r.Canonical) :
    request .streaming (ofRequest r).toDocument = .ok r := by
  have fits : Fits maxDepth (ofRequest r) := fits_ofRequest 123 r
  have others : ∀ m ∈ ofParameters r, m.1 ≠ "operation" := by
    cases r <;> simp [ofParameters]
  have taken : tagged .streaming "operation" Operation.all Operation.name
      (ofRequest r).toDocument = .ok (r.operation, (Json.object (ofParameters r)).toDocument) :=
    tagged_object r.operation.mem_all operation_names_distinct others fits
  unfold request
  simp only [bind, Except.bind, taken, parameters_ofParameters canonical]

/-- The request that a text names has this text as well. -/
theorem ofRequest_asWritten (r : Request) : ofRequest r.asWritten = ofRequest r := by
  have hold : ∀ h : Hold, ofHold h.asWritten = ofHold h := by
    intro h
    unfold ofHold ofInstant Hold.asWritten
    rw [Calendar.Instant.text_asWritten]
  cases r with
  | createHold h | createHoldByController _ h =>
    simp only [Request.asWritten, ofRequest, ofParameters, Request.operation, hold]
  | _ => rfl

/-! ## Decoded requests -/

theorem canonical_of_hold {d : Document} {h : Hold} (decoded : hold d = .ok h) :
    h.amount.Accepted ∧ h.expiration.isOnClock = true := by
  obtain ⟨r, -, settled⟩ := of_bind_ok decoded
  obtain ⟨_, data, four, -, made⟩ := value_of_seq (value_of_settle settled)
  obtain ⟨_, destination, three, -, rfl⟩ := value_of_seq four
  obtain ⟨_, expiration, two, expires, rfl⟩ := value_of_seq three
  obtain ⟨_, escrow, one, -, rfl⟩ := value_of_seq two
  obtain ⟨amount, read, rfl⟩ := value_of_map one
  obtain ⟨d, decoded⟩ := decoded_of_field read
  obtain ⟨d', instant⟩ := decoded_of_field expires
  rw [← made]
  exact ⟨accepted_of_amount decoded, isOnClock_of_instant instant⟩

theorem accepted_of_customFee {pass : Pass} {d : Document} {fee : CustomFee}
    (decoded : customFee pass d = .ok fee) : ∀ a ∈ fee.amounts, a.Accepted := by
  obtain ⟨⟨kind, rest⟩, -, decoded⟩ := of_bind_ok decoded
  cases kind with
  | fixed =>
    obtain ⟨r, -, settled⟩ := of_bind_ok decoded
    obtain ⟨_, exempt, three, -, made⟩ := value_of_seq (value_of_settle settled)
    obtain ⟨_, collector, two, -, rfl⟩ := value_of_seq three
    obtain ⟨_, token, one, -, rfl⟩ := value_of_seq two
    obtain ⟨amount, read, rfl⟩ := value_of_map one
    obtain ⟨d, decoded⟩ := decoded_of_field read
    rw [← made]
    intro a member
    cases List.mem_singleton.mp member
    exact accepted_of_amount decoded
  | fractional =>
    obtain ⟨r, -, settled⟩ := of_bind_ok decoded
    obtain ⟨_, exempt, six, -, made⟩ := value_of_seq (value_of_settle settled)
    obtain ⟨_, collector, five, -, rfl⟩ := value_of_seq six
    obtain ⟨_, net, four, -, rfl⟩ := value_of_seq five
    obtain ⟨_, maximum, three, most, rfl⟩ := value_of_seq four
    obtain ⟨_, minimum, two, least, rfl⟩ := value_of_seq three
    obtain ⟨_, denominator, one, -, rfl⟩ := value_of_seq two
    obtain ⟨numerator, -, rfl⟩ := value_of_map one
    obtain ⟨d, least⟩ := decoded_of_field least
    obtain ⟨d', most⟩ := decoded_of_field most
    rw [← made]
    intro a member
    simp only [CustomFee.amounts, List.mem_cons, List.not_mem_nil, or_false] at member
    rcases member with rfl | rfl
    · exact accepted_of_amount least
    · exact accepted_of_amount most

theorem accepted_of_transfer {d : Document} {t : Transfer} (decoded : transfer d = .ok t) :
    t.amount.Accepted := by
  obtain ⟨recipient, amount, -, ⟨d, read⟩, rfl⟩ := decoded_of_record2 decoded
  exact accepted_of_amount read

/-- Whatever operation the parameters of a request are decoded by, the request is canonical. -/
theorem canonical_of_parameters {d : Document} {operation : Operation} {r : Request}
    (decoded : parameters d operation = .ok r) : r.Canonical := by
  have one : ∀ {amount : Amount}, (∃ d, Wire.amount d = .ok amount) →
      ∀ a ∈ [amount], a.Accepted := by
    rintro amount ⟨d, decoded⟩ a member
    cases List.mem_singleton.mp member
    exact accepted_of_amount decoded
  have none : ∀ a ∈ ([] : List Amount), a.Accepted := fun a member => nomatch member
  cases operation with
  | cashIn | wipe | releaseHold | grantSupplierRole | increaseSupplierAllowance
  | decreaseSupplierAllowance | updateReserveAmount =>
    obtain ⟨_, _, -, amount, rfl⟩ := decoded_of_record2 decoded
    exact .of_amounts rfl (one amount)
  | burn | rescue | rescueHbar =>
    obtain ⟨_, amount, rfl⟩ := decoded_of_record1 decoded
    exact .of_amounts rfl (one amount)
  | freeze | unfreeze | grantKyc | revokeKyc | reclaimHold | grantUnlimitedSupplierRole
  | revokeSupplierRole | resetSupplierAllowance | updateReserveAddress =>
    obtain ⟨_, -, rfl⟩ := decoded_of_record1 decoded
    exact .of_amounts rfl none
  | grantRole | revokeRole =>
    obtain ⟨_, _, -, -, rfl⟩ := decoded_of_record2 decoded
    exact .of_amounts rfl none
  | pause | unpause | delete =>
    obtain ⟨_, -, rfl⟩ := of_map_ok decoded
    exact .of_amounts rfl none
  | updateCustomFees =>
    obtain ⟨fees, ⟨d, read⟩, rfl⟩ := decoded_of_record1 decoded
    refine .of_amounts rfl fun a member => ?_
    obtain ⟨fee, listed, inside⟩ := List.mem_flatMap.mp member
    obtain ⟨d, item⟩ := decoded_of_list read fee listed
    exact accepted_of_customFee item a inside
  | createHold =>
    obtain ⟨h, ⟨d, read⟩, rfl⟩ := decoded_of_record1 decoded
    obtain ⟨accepted, shown⟩ := canonical_of_hold read
    exact .of_hold rfl rfl accepted shown
  | createHoldByController =>
    obtain ⟨_, h, -, ⟨d, read⟩, rfl⟩ := decoded_of_record2 decoded
    obtain ⟨accepted, shown⟩ := canonical_of_hold read
    exact .of_hold rfl rfl accepted shown
  | executeHold =>
    obtain ⟨r, -, settled⟩ := of_bind_ok decoded
    obtain ⟨_, amount, two, read, made⟩ := value_of_seq (value_of_settle settled)
    obtain ⟨_, recipient, one', -, rfl⟩ := value_of_seq two
    obtain ⟨h, -, rfl⟩ := value_of_map one'
    rw [← made]
    exact .of_amounts rfl (one (decoded_of_field read))
  | transfers =>
    obtain ⟨_, credits, -, ⟨d, read⟩, rfl⟩ := decoded_of_record2 decoded
    refine .of_amounts rfl fun a member => ?_
    obtain ⟨t, listed, rfl⟩ := List.mem_map.mp member
    obtain ⟨d, item⟩ := decoded_of_list read t listed
    exact accepted_of_transfer item

theorem canonical_of_request {pass : Pass} {d : Document} {r : Request}
    (decoded : request pass d = .ok r) : r.Canonical := by
  obtain ⟨⟨operation, rest⟩, -, decoded⟩ := of_bind_ok decoded
  exact canonical_of_parameters decoded

/-! ## Texts of requests -/

/-- The operation that a request names in its text is found by the name of its tag. -/
theorem text?_ofRequest (r : Request) :
    (ofRequest r).toDocument.text? "operation" = some r.operation.name := by
  have first : (Json.toMembers (("operation", .text r.operation.name) :: ofParameters r)).find?
      (fun m => m.1 = some "operation".toList) =
        some (some "operation".toList, .text (some r.operation.name.toList)) := by
    rw [Json.toMembers, toDocument]
    exact List.find?_cons_of_pos (decide_eq_true rfl)
  unfold ofRequest Document.text? Document.member?
  rw [toDocument]
  dsimp only
  rw [first]
  exact congrArg some String.ofList_toList

/-- What is decoded from the text of a request is the request that the text names. -/
theorem decodeText_ofRequest {r : Request} (accepted : ∀ a ∈ r.allAmounts, a.Accepted) :
    decodeText (request .streaming) (ofRequest r).chars = .ok r.asWritten := by
  have canonical : r.asWritten.Canonical := by
    refine ⟨?_, r.isOnClock_asWritten⟩
    rw [r.allAmounts_asWritten]
    exact accepted
  rw [decodeText_chars (fits_ofRequest 0 r), ← ofRequest_asWritten, request_ofRequest canonical]

/-- Requests survive the way over the wire. Of a request whose amounts came through the gate, with
any accounts, roles, holds, fees, credits, bytes and instants, the text names the operation, and it
is decoded as a request of that operation. This is the same request if and only if the nanoseconds
of its hold's expiration are below one thousand million or lie in the last second of a minute;
otherwise the hold expires one second later, with one thousand million nanoseconds less. And
whatever text a request was decoded from, its own text is decoded as the same request and is written
again as the same text. -/
theorem request_roundTrip :
    (∀ r : Request, (∀ a ∈ r.allAmounts, a.Accepted) →
      (decodeText (request .streaming) (ofRequest r).chars = .ok r ↔
        ∀ t ∈ r.expiration?, t.nanos < 1_000_000_000 ∨ t.seconds % 60 = 59) ∧
      decodeText (request .streaming) (ofRequest r).chars = .ok r.asWritten ∧
      r.asWritten.operation = r.operation ∧
      (Json.read (ofRequest r).chars).1.text? "operation" = some r.operation.name) ∧
    (∀ (text : List Char) (r : Request), decodeText (request .streaming) text = .ok r →
      ∃ again, decodeText (request .streaming) (ofRequest r).chars = .ok again ∧
        again = r ∧ (ofRequest again).chars = (ofRequest r).chars) := by
  constructor
  · intro r accepted
    have decoded := decodeText_ofRequest accepted
    refine ⟨?_, decoded, r.operation_asWritten, ?_⟩
    · rw [decoded, Except.ok.injEq, Request.asWritten_eq_self_iff]
      simp only [Calendar.Instant.isOnClock_iff]
    · rw [Json.read_chars (fits_ofRequest 0 r)]
      exact text?_ofRequest r
  · intro text r first
    have canonical := canonical_of_request (decode_of_decodeText first)
    have decoded := decodeText_ofRequest canonical.accepted
    rw [Request.asWritten_eq_self_iff.mpr canonical.shown] at decoded
    exact ⟨r, decoded, rfl, rfl⟩

/-- An amount with all the digits that there is room for. -/
def longestAmount : Amount :=
  ⟨⟨false, 79228162514264337593543950335, 18, by decide, by decide, by decide⟩, 18, rfl,
    by decide⟩

/-- A hold of this amount until some instant. -/
def longestHold (expiration : Calendar.Instant) : Hold where
  amount := longestAmount
  escrow := ⟨0, 0, 18446744073709551615⟩
  expiration
  destination := none
  data := [0, 255]

theorem accepted_longestHold (expiration : Calendar.Instant) :
    ∀ a ∈ (Request.createHold (longestHold expiration)).allAmounts, a.Accepted := by
  have gate : Amount.ofDecimal longestAmount.value 18 = .ok longestAmount := by decide +kernel
  intro a member
  cases List.mem_singleton.mp member
  exact Amount.accepted_of_ofDecimal gate

/-- Within the leap second of the first minute. -/
theorem request_roundTrip_leapSecond :
    let early : Calendar.Instant := ⟨Calendar.firstSecond + 59, 1_999_999_999, by decide⟩
    let r : Request := .createHold (longestHold early)
    (∀ a ∈ r.allAmounts, a.Accepted) ∧
      ∃ text, decodeText (request .streaming) text = .ok r ∧
        decodeText (request .streaming) (ofRequest r).chars = .ok r := by
  intro early r
  have accepted := accepted_longestHold early
  obtain ⟨same, -⟩ := request_roundTrip.1 r accepted
  have shown : ∀ t ∈ r.expiration?, t.nanos < 1_000_000_000 ∨ t.seconds % 60 = 59 := by
    rintro t ⟨⟩
    exact .inr (by decide)
  have decoded := same.mpr shown
  obtain ⟨again, read, rfl, -⟩ := request_roundTrip.2 _ _ decoded
  exact ⟨accepted, _, decoded, read⟩

/-- Half a second past the end of the first second of 1970, which its text gives to the next. -/
theorem request_roundTrip_offMinute :
    let past : Calendar.Instant := ⟨0, 1_500_000_000, by decide⟩
    let next : Calendar.Instant := ⟨1, 500_000_000, by decide⟩
    let r : Request := .createHold (longestHold past)
    (∀ a ∈ r.allAmounts, a.Accepted) ∧ past.text = "1970-01-01T00:00:01.500Z".toList ∧
      decodeText (request .streaming) (ofRequest r).chars =
        .ok (.createHold (longestHold next)) ∧
      Request.createHold (longestHold next) ≠ r := by
  intro past next r
  have accepted := accepted_longestHold past
  have carried : past.asWritten = next := by decide +kernel
  have named : r.asWritten = .createHold (longestHold next) :=
    congrArg (fun t => Request.createHold (longestHold t)) carried
  have decoded := decodeText_ofRequest accepted
  rw [named] at decoded
  exact ⟨accepted, by decide +kernel, decoded, by decide +kernel⟩

end Wire

end TokenDesk
