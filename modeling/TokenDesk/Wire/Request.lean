import TokenDesk.Request
import TokenDesk.Wire.Scalar

/-!
The wire forms of tokens, capabilities and requests. A request is an object whose member
`operation` names the operation; the other members are its parameters.
-/

namespace TokenDesk.Wire

open Json (Document)

/-- An operation, by its name. -/
def operation (pass : Pass) : Document → Outcome Operation :=
  choice pass Operation.all Operation.name

/-- A role, by its name. -/
def role (pass : Pass) : Document → Outcome Role := choice pass Role.all Role.name

/-- A surface, by its name. -/
def surface (pass : Pass) : Document → Outcome Surface := choice pass Surface.all Surface.name

def capability (pass : Pass) (d : Document) : Outcome Capability := do
  let r ← record ["operation", "surface"] d
  r.settle (Capability.mk <$> r.field 0 (operation pass) <*> r.field 1 (surface pass))

def ofCapability (c : Capability) : Json :=
  .object [("operation", .text c.operation.name), ("surface", .text c.surface.name)]

def token (d : Document) : Outcome Token := do
  let r ← record ["token_id", "contract", "treasury", "decimals"] d
  r.settle (Token.mk <$> r.field 0 entity <*> r.field? 1 entity <*> r.field 2 entity <*>
    r.field 3 uint8)

def ofEntity? (id : Option EntityId) : Json := id.elim .null ofEntity

def ofToken (t : Token) : Json :=
  .object [("token_id", ofEntity t.id), ("contract", ofEntity? t.manager),
    ("treasury", ofEntity t.treasury), ("decimals", .nat t.decimals.toNat)]

/-- The kinds of custom fees. -/
inductive FeeKind
  | fixed
  | fractional

def FeeKind.name : FeeKind → String
  | .fixed => "fixed"
  | .fractional => "fractional"

/-- A custom fee, told apart by its member `kind`. -/
def customFee (pass : Pass) (d : Document) : Outcome CustomFee := do
  match ← tagged pass "kind" [.fixed, .fractional] FeeKind.name d with
  | (.fixed, d) =>
    let r ← record ["amount", "denominating_token", "collector", "collectors_exempt"] d
    r.settle (CustomFee.fixed <$> r.field 0 amount <*> r.field? 1 entity <*> r.field 2 entity <*>
      r.field 3 bool)
  | (.fractional, d) =>
    let r ← record ["numerator", "denominator", "minimum", "maximum", "net_of_transfers",
      "collector", "collectors_exempt"] d
    r.settle (CustomFee.fractional <$> r.field 0 int64 <*> r.field 1 int64 <*> r.field 2 amount <*>
      r.field 3 amount <*> r.field 4 bool <*> r.field 5 entity <*> r.field 6 bool)

def ofCustomFee : CustomFee → Json
  | .fixed amount denominatingToken collector exempt =>
    .object [("kind", .text "fixed"), ("amount", ofAmount amount),
      ("denominating_token", ofEntity? denominatingToken), ("collector", ofEntity collector),
      ("collectors_exempt", .bool exempt)]
  | .fractional numerator denominator minimum maximum net collector exempt =>
    .object [("kind", .text "fractional"), ("numerator", .int numerator.toInt),
      ("denominator", .int denominator.toInt), ("minimum", ofAmount minimum),
      ("maximum", ofAmount maximum), ("net_of_transfers", .bool net),
      ("collector", ofEntity collector), ("collectors_exempt", .bool exempt)]

def hold (d : Document) : Outcome Hold := do
  let r ← record ["amount", "escrow", "expiration", "destination", "data"] d
  r.settle (Hold.mk <$> r.field 0 amount <*> r.field 1 entity <*> r.field 2 instant <*>
    r.field? 3 entity <*> r.field 4 bytes)

def ofHold (h : Hold) : Json :=
  .object [("amount", ofAmount h.amount), ("escrow", ofEntity h.escrow),
    ("expiration", ofInstant h.expiration), ("destination", ofEntity? h.destination),
    ("data", ofBytes h.data)]

def holdRef (d : Document) : Outcome HoldRef := do
  let r ← record ["token_holder", "hold_id"] d
  r.settle (HoldRef.mk <$> r.field 0 entity <*> r.field 1 uint64)

def ofHoldRef (h : HoldRef) : Json :=
  .object [("token_holder", ofEntity h.tokenHolder), ("hold_id", .nat h.holdId.toNat)]

def transfer (d : Document) : Outcome Transfer := do
  let r ← record ["to", "amount"] d
  r.settle (Transfer.mk <$> r.field 0 entity <*> r.field 1 amount)

def ofTransfer (t : Transfer) : Json :=
  .object [("to", ofEntity t.recipient), ("amount", ofAmount t.amount)]

def record1 (make : α → β) (name : String) (decode : Document → Outcome α) (d : Document) :
    Outcome β := do
  let r ← record [name] d
  r.settle (make <$> r.field 0 decode)

def record2 (make : α → β → γ) (name1 : String) (decode1 : Document → Outcome α) (name2 : String)
    (decode2 : Document → Outcome β) (d : Document) : Outcome γ := do
  let r ← record [name1, name2] d
  r.settle (make <$> r.field 0 decode1 <*> r.field 1 decode2)

def parameters (d : Document) : Operation → Outcome Request
  | .cashIn => record2 Request.cashIn "target" entity "amount" amount d
  | .burn => record1 Request.burn "amount" amount d
  | .wipe => record2 Request.wipe "target" entity "amount" amount d
  | .freeze => record1 Request.freeze "target" entity d
  | .unfreeze => record1 Request.unfreeze "target" entity d
  | .pause => (nothing d).map fun _ => .pause
  | .unpause => (nothing d).map fun _ => .unpause
  | .delete => (nothing d).map fun _ => .delete
  | .rescue => record1 Request.rescue "amount" amount d
  | .rescueHbar => record1 Request.rescueHbar "amount" amount d
  | .grantKyc => record1 Request.grantKyc "target" entity d
  | .revokeKyc => record1 Request.revokeKyc "target" entity d
  | .grantRole => record2 Request.grantRole "target" entity "role" (role .buffered) d
  | .revokeRole => record2 Request.revokeRole "target" entity "role" (role .buffered) d
  | .updateCustomFees => record1 Request.updateCustomFees "fees" (list (customFee .buffered)) d
  | .createHold => record1 Request.createHold "hold" hold d
  | .createHoldByController =>
    record2 Request.createHoldByController "source" entity "hold" hold d
  | .executeHold => do
    let r ← record ["hold", "to", "amount"] d
    r.settle (Request.executeHold <$> r.field 0 holdRef <*> r.field 1 entity <*> r.field 2 amount)
  | .releaseHold => record2 Request.releaseHold "hold" holdRef "amount" amount d
  | .reclaimHold => record1 Request.reclaimHold "hold" holdRef d
  | .grantSupplierRole => record2 Request.grantSupplierRole "target" entity "allowance" amount d
  | .grantUnlimitedSupplierRole => record1 Request.grantUnlimitedSupplierRole "target" entity d
  | .revokeSupplierRole => record1 Request.revokeSupplierRole "target" entity d
  | .increaseSupplierAllowance =>
    record2 Request.increaseSupplierAllowance "target" entity "amount" amount d
  | .decreaseSupplierAllowance =>
    record2 Request.decreaseSupplierAllowance "target" entity "amount" amount d
  | .resetSupplierAllowance => record1 Request.resetSupplierAllowance "target" entity d
  | .updateReserveAddress => record1 Request.updateReserveAddress "reserve" entity d
  | .updateReserveAmount =>
    record2 Request.updateReserveAmount "reserve" entity "amount" amount d
  | .transfers => record2 Request.transfers "from" entity "transfers" (list transfer) d

/-- A request, told apart by its member `operation`. -/
def request (pass : Pass) (d : Document) : Outcome Request := do
  let (operation, rest) ← tagged pass "operation" Operation.all Operation.name d
  parameters rest operation

/-- The parameters of a request, in order. -/
def ofParameters : Request → List (String × Json)
  | .cashIn target amount | .wipe target amount =>
    [("target", ofEntity target), ("amount", ofAmount amount)]
  | .burn amount | .rescue amount | .rescueHbar amount => [("amount", ofAmount amount)]
  | .freeze target | .unfreeze target | .grantKyc target | .revokeKyc target =>
    [("target", ofEntity target)]
  | .pause | .unpause | .delete => []
  | .grantRole target role | .revokeRole target role =>
    [("target", ofEntity target), ("role", .text role.name)]
  | .updateCustomFees fees => [("fees", .array (fees.map ofCustomFee))]
  | .createHold hold => [("hold", ofHold hold)]
  | .createHoldByController source hold => [("source", ofEntity source), ("hold", ofHold hold)]
  | .executeHold hold recipient amount =>
    [("hold", ofHoldRef hold), ("to", ofEntity recipient), ("amount", ofAmount amount)]
  | .releaseHold hold amount => [("hold", ofHoldRef hold), ("amount", ofAmount amount)]
  | .reclaimHold hold => [("hold", ofHoldRef hold)]
  | .grantSupplierRole target allowance =>
    [("target", ofEntity target), ("allowance", ofAmount allowance)]
  | .grantUnlimitedSupplierRole target | .revokeSupplierRole target
  | .resetSupplierAllowance target => [("target", ofEntity target)]
  | .increaseSupplierAllowance target amount | .decreaseSupplierAllowance target amount =>
    [("target", ofEntity target), ("amount", ofAmount amount)]
  | .updateReserveAddress reserve => [("reserve", ofEntity reserve)]
  | .updateReserveAmount reserve amount =>
    [("reserve", ofEntity reserve), ("amount", ofAmount amount)]
  | .transfers source credits =>
    [("from", ofEntity source), ("transfers", .array (credits.map ofTransfer))]

def ofRequest (r : Request) : Json :=
  .object (("operation", .text r.operation.name) :: ofParameters r)

end TokenDesk.Wire
