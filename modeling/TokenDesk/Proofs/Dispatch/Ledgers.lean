import TokenDesk.Dispatch
import TokenDesk.Proofs.Timing

/-!
Calls on ledgers that answer alike.

A call sees nothing of a ledger but its answers. So if the answers of a ledger depend only on what
some map shows of its state, a call goes as it would on a ledger that has no more than that for its
state (`Dispatcher.execute_along`). The two calls do and report the same, and the map takes the one
ledger that is left to the other.
-/

namespace TokenDesk

variable {κ σ τ τ' α : Type}

/-- The same states of a desk, with what a map makes of the ledger's. -/
def DeskState.mapLedger (f : τ → τ') (s : DeskState κ σ τ) : DeskState κ σ τ' :=
  ⟨s.lookup, s.signer, f s.ledger⟩

def CallReport.mapLedger (f : τ → τ') (report : CallReport κ σ τ α) : CallReport κ σ τ' α :=
  ⟨report.result, report.submitted, report.actions, report.time, report.state.mapLedger f⟩

/-- The same desk with another ledger. -/
def Desk.withLedger (desk : Desk κ σ τ) (ledger : Ledger τ') : Desk κ σ τ' :=
  ⟨desk.capabilities, desk.signer, ledger⟩

/-- A ledger answers like another one, whose state is what a map makes of its own. -/
structure Ledger.Along (f : τ → τ') (ledger : Ledger τ) (ledger' : Ledger τ') : Prop where
  submit : ∀ artifact l, ledger'.submit artifact (f l) =
    ((ledger.submit artifact l).1, f (ledger.submit artifact l).2)
  receipt : ∀ id l, ledger'.receipt id (f l) = ((ledger.receipt id l).1, f (ledger.receipt id l).2)
  record : ∀ id l, ledger'.record id (f l) = ((ledger.record id l).1, f (ledger.record id l).2)

namespace Dispatcher

variable {f : τ → τ'} {desk : Desk κ σ τ} {ledger' : Ledger τ'}

theorem fetch_along (along : desk.ledger.Along f ledger') (kind : ResponseKind)
    (handle : TransactionId) (l : τ) :
    fetch ledger' kind handle (f l) =
      ((fetch desk.ledger kind handle l).1, f (fetch desk.ledger kind handle l).2) := by
  cases kind with
  | receiptOnly => simp only [fetch, along.receipt]
  | fullRecord => simp only [fetch, along.record]

theorem submit_along (along : desk.ledger.Along f ledger') (plan : Plan) (artifact : Artifact)
    (before : List Action) (t : Timeline) (s : DeskState κ σ τ) :
    submit (desk.withLedger ledger') plan artifact before t (s.mapLedger f) =
      (submit desk plan artifact before t s).mapLedger f := by
  have taken : (desk.withLedger ledger').ledger.submit artifact (s.mapLedger f).ledger =
      ((desk.ledger.submit artifact s.ledger).1, f (desk.ledger.submit artifact s.ledger).2) :=
    along.submit artifact s.ledger
  unfold submit
  rw [taken]
  dsimp only
  cases t.await (desk.ledger.submit artifact s.ledger).1 with
  | endless time => rfl
  | cancelled time => rfl
  | answered answer time =>
    cases answer with
    | error e => rfl
    | ok handle =>
      have raced := Timeline.race_along (fetch_along along plan.response handle) time
        (desk.ledger.submit artifact s.ledger).2
      change time.race (fetch (desk.withLedger ledger').ledger plan.response handle) _ = _ at raced
      dsimp only
      rw [raced]
      rcases time.race (fetch desk.ledger plan.response handle)
        (desk.ledger.submit artifact s.ledger).2 with ⟨outcome, l⟩
      cases outcome with
      | endless time => rfl
      | cancelled time => rfl
      | answered answer time =>
        cases answer with
        | error e => rfl
        | ok settlement => rfl

theorem signAndSubmit_along (along : desk.ledger.Along f ledger') (d : Dispatcher) (plan : Plan)
    (id : TransactionId) (t : Timeline) (s : DeskState κ σ τ) :
    d.signAndSubmit (desk.withLedger ledger') plan id t (s.mapLedger f) =
      (d.signAndSubmit desk plan id t s).mapLedger f := by
  unfold signAndSubmit
  have signed : (desk.withLedger ledger').signer.sign (d.unsigned plan id).bytes t
      (s.mapLedger f).signer = desk.signer.sign (d.unsigned plan id).bytes t s.signer := rfl
  dsimp only
  rw [signed]
  cases (desk.signer.sign (d.unsigned plan id).bytes t s.signer).result with
  | none => rfl
  | some answer =>
    cases answer with
    | error e => rfl
    | ok authorization =>
      dsimp only
      split
      · rfl
      · exact submit_along along plan _ _ _ { s with signer := _ }

theorem run_along (along : desk.ledger.Along f ledger') (d : Dispatcher) (token : Token)
    (request : Request) (id : TransactionId) (t : Timeline) (s : DeskState κ σ τ) :
    d.run (desk.withLedger ledger') token request id t (s.mapLedger f) =
      (d.run desk token request id t s).mapLedger f := by
  unfold run
  have raced : t.race ((desk.withLedger ledger').capabilities d.account token)
      (s.mapLedger f).lookup = t.race (desk.capabilities d.account token) s.lookup := rfl
  rw [raced]
  rcases t.race (desk.capabilities d.account token) s.lookup with ⟨outcome, lookup⟩
  cases outcome with
  | endless time => rfl
  | cancelled time => rfl
  | answered answer time =>
    cases answer with
    | error reason => rfl
    | ok capabilities =>
      dsimp only
      cases d.plan capabilities token request with
      | error e => rfl
      | ok plan => exact signAndSubmit_along along d plan id time { s with lookup }

/-- A call sees of the ledger only what it answers. -/
theorem execute_along (along : desk.ledger.Along f ledger') (d : Dispatcher) (token : Token)
    (request : Request) (id : TransactionId) (t : Timeline) (s : DeskState κ σ τ) :
    d.execute (desk.withLedger ledger') token request id t (s.mapLedger f) =
      (d.execute desk token request id t s).mapLedger f := by
  unfold execute
  rw [run_along along]
  rfl

end Dispatcher

end TokenDesk
