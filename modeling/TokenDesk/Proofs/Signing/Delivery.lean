import TokenDesk.Proofs.Signing.Session
import TokenDesk.Proofs.Timing
import TokenDesk.Signing.Wallet

/-!
Every answer of a wallet goes to the call that it is meant for.

A history is any list of events, in any order, from a fresh session on. `Session.Happened` says that
an event stands in a history, and how the session stood when it came; so `Session.Answered` and
`Session.Dropped` say what the wallet did with a request that it had. Wherever a call stands, a
history has brought it there (`Session.cause_run`), so what calls end with is what the wallet did
with their own requests (`Session.delivers_run`). Signing is one such call (`Wallet.sign_calls`).
-/

namespace TokenDesk.Signing

namespace Session

variable {s : Session} {e : SessionEvent} {events : List SessionEvent} {i : Nat}
  {c c' : SessionCall} {outcome : Except Error Bytes}

/-! ## Histories -/

/-- An event of a history, and how the session stood when it came. -/
def Happened (events : List SessionEvent) (e : SessionEvent) (stood : Session → Prop) : Prop :=
  ∃ before after, events = before ++ e :: after ∧ stood (fresh.run before)

theorem happened_concat {x : SessionEvent} {P : Session → Prop} :
    Happened (events ++ [e]) x P ↔ Happened events x P ∨ e = x ∧ P (fresh.run events) := by
  constructor
  · rintro ⟨before, after, split, held⟩
    rcases after.eq_nil_or_concat with rfl | ⟨after, last, rfl⟩
    · obtain ⟨rfl, same⟩ := List.append_inj' split rfl
      exact Or.inr ⟨List.head_eq_of_cons_eq same, held⟩
    · rw [List.concat_eq_append, ← List.cons_append, ← List.append_assoc] at split
      exact Or.inl ⟨before, after, (List.append_inj' split rfl).1, held⟩
  · rintro (⟨before, after, rfl, held⟩ | ⟨rfl, held⟩)
    · exact ⟨before, after ++ [e], by rw [List.append_assoc, List.cons_append], held⟩
    · exact ⟨events, [], rfl, held⟩

/-- The wallet answered the request of a call, which it had. -/
def Answered (events : List SessionEvent) (call : Nat) (reply : WalletReply) : Prop :=
  Happened events (.reply call reply) fun s => s.holds call

/-- The wallet dropped the request of a call, or went away while it stood in the queue. -/
def Dropped (events : List SessionEvent) (call : Nat) : Prop :=
  Happened events (.drop call) (fun s => s.holds call) ∨
    Happened events .disconnect fun s => s.queues call

theorem answered_concat {reply : WalletReply} :
    Answered (events ++ [e]) i reply ↔
      Answered events i reply ∨ e = .reply i reply ∧ (fresh.run events).holds i :=
  happened_concat

theorem dropped_concat :
    Dropped (events ++ [e]) i ↔
      Dropped events i ∨ e = .drop i ∧ (fresh.run events).holds i ∨
        e = .disconnect ∧ (fresh.run events).queues i := by
  unfold Dropped
  rw [happened_concat, happened_concat]
  exact or_or_or_comm

/-! ## What becomes of requests and calls -/

theorem not_happened_nil {P : Session → Prop} : ¬ Happened [] e P := by
  rintro ⟨before, after, split, -⟩
  cases before <;> cases split

theorem gone_of_answered {reply : WalletReply} (answered : Answered events i reply) :
    (fresh.run events).Gone i := by
  induction events using List.reverseRecOn with
  | nil => exact absurd answered not_happened_nil
  | append_singleton events e ih =>
    rw [run_concat]
    rcases answered_concat.mp answered with before | ⟨rfl, held⟩
    · exact (ih before).step (ordered_run events) e
    · exact gone_of_release (ordered_run events) held _

theorem gone_of_dropped (dropped : Dropped events i) : (fresh.run events).Gone i := by
  induction events using List.reverseRecOn with
  | nil => exact absurd dropped (not_or.mpr ⟨not_happened_nil, not_happened_nil⟩)
  | append_singleton events e ih =>
    rw [run_concat]
    rcases dropped_concat.mp dropped with before | ⟨rfl, held⟩ | ⟨rfl, queued⟩
    · exact (ih before).step (ordered_run events) e
    · exact gone_of_release (ordered_run events) held _
    · exact gone_of_disconnect (ordered_run events) queued

/-- A request is not both answered and dropped: after the one the wallet has it no more. -/
theorem not_dropped_of_answered {reply : WalletReply} (answered : Answered events i reply) :
    ¬ Dropped events i := by
  induction events using List.reverseRecOn with
  | nil => exact absurd answered not_happened_nil
  | append_singleton events e ih =>
    intro dropped
    rcases answered_concat.mp answered with before | ⟨rfl, held⟩
    · rcases dropped_concat.mp dropped with earlier | ⟨-, held⟩ | ⟨-, queued⟩
      · exact ih before earlier
      · exact (gone_of_answered before).unheld held
      · exact (gone_of_answered before).unqueued queued
    · rcases dropped_concat.mp dropped with earlier | ⟨⟨⟩, -⟩ | ⟨⟨⟩, -⟩
      exact (gone_of_dropped earlier).unheld held

/-- A call is cancelled only by its own cancellation. -/
theorem cancel_mem (here : (fresh.run events).calls[i]? = some c) (flag : c.cancelled) :
    .cancel i ∈ events := by
  induction events using List.reverseRecOn generalizing c with
  | nil => cases here
  | append_singleton events e ih =>
    rw [run_concat] at here
    rcases of_calls_step here with ⟨_, _, _, rfl⟩ | ⟨before, found, moves⟩
    · cases flag
    · cases moves with
      | cancelled => exact List.mem_append_right _ (List.mem_singleton.mpr rfl)
      | _ => exact List.mem_append_left _ (ih found flag)

/-- What brought a call to where it stands. -/
inductive Cause (events : List SessionEvent) (s : Session) (i : Nat) : CallStage → Prop
  | sending : Cause events s i .sending
  | waiting : Cause events s i .waiting
  | answered {reply : WalletReply} : Answered events i reply → Cause events s i (.answered reply)
  | dropped : Dropped events i → Cause events s i .dropped
  | heard {reply : WalletReply} {outcome : Except Error Bytes} : Answered events i reply →
    reply.outcome = outcome → Cause events s i (.ended outcome)
  | lost : Dropped events i → Cause events s i (.ended (.error .sessionDisconnected))
  | refused : ¬ s.HasSent i → Cause events s i (.ended (.error .sessionDisconnected))
  | cancelled : .cancel i ∈ events → Cause events s i (.ended (.error (.cancelled none)))
  | empty : ¬ s.HasSent i → Cause events s i (.ended (.error (.malformedPayload .empty)))

/-- Only a call whose request has just been sent waits and had not sent it before. -/
theorem unsent_step (unsent : ¬ s.HasSent i) (there : (s.step e).calls[i]? = some c')
    (unwaiting : c'.stage ≠ .waiting) : ¬ (s.step e).HasSent i := by
  intro sent
  rcases hasSent_of_step sent with before | ⟨c, -, -, waits⟩
  · exact unsent before
  · cases there.symm.trans waits
    exact unwaiting rfl

/-- A cause stays one as long as the call stands where it stood. -/
theorem Cause.step (cause : Cause events s i c'.stage)
    (there : (s.step e).calls[i]? = some c') : Cause (events ++ [e]) (s.step e) i c'.stage := by
  generalize at_stage : c'.stage = stage at cause
  have settled (ended : ∃ outcome, stage = .ended outcome) (unsent : ¬ s.HasSent i) :
      ¬ (s.step e).HasSent i := by
    refine unsent_step unsent there fun waits => ?_
    obtain ⟨outcome, same⟩ := ended
    cases (at_stage.symm.trans waits).symm.trans same
  cases cause with
  | sending => exact .sending
  | waiting => exact .waiting
  | answered answered => exact .answered (answered_concat.mpr (Or.inl answered))
  | dropped dropped => exact .dropped (dropped_concat.mpr (Or.inl dropped))
  | heard answered given => exact .heard (answered_concat.mpr (Or.inl answered)) given
  | lost dropped => exact .lost (dropped_concat.mpr (Or.inl dropped))
  | refused unsent => exact .refused (settled ⟨_, rfl⟩ unsent)
  | cancelled member => exact .cancelled (List.mem_append_left _ member)
  | empty unsent => exact .empty (settled ⟨_, rfl⟩ unsent)

/-- What a call ends with is what it knew. -/
theorem Cause.of_heard (ordered : s.Ordered) (cause : Cause events s i c.stage)
    (here : s.calls[i]? = some c) (known : c.heard s.connected = some outcome) :
    Cause events s i (.ended outcome) := by
  unfold SessionCall.heard at known
  split at known
  · rename_i stage
    split at known
    · cases known
    · cases known
      exact .refused (ordered.unsent i c here stage)
  · rename_i reply stage
    cases known
    rw [stage] at cause
    cases cause with
    | answered answered => exact .heard answered rfl
  · rename_i stage
    cases known
    rw [stage] at cause
    cases cause with
    | dropped dropped => exact .lost dropped
  · cases known
  · cases known

/-- Wherever a call stands, something brought it there. -/
theorem cause_run (here : (fresh.run events).calls[i]? = some c) :
    Cause events (fresh.run events) i c.stage := by
  induction events using List.reverseRecOn generalizing c with
  | nil => cases here
  | append_singleton events e ih =>
    rw [run_concat] at here ⊢
    have ordered := ordered_run events
    rcases of_calls_step here with ⟨payload, rfl, rfl, rfl⟩ | ⟨before, found, moves⟩
    · unfold SessionCall.start
      dsimp only
      split
      · exact .empty fun sent => Nat.lt_irrefl _ (ordered.lt_of_hasSent sent)
      · exact .sending
    · cases moves with
      | still => exact (ih found).step here
      | sent => exact .waiting
      | answered _ held => exact .answered (answered_concat.mpr (Or.inr ⟨rfl, held⟩))
      | dropped _ held => exact .dropped (dropped_concat.mpr (Or.inr (Or.inl ⟨rfl, held⟩)))
      | lost _ queued => exact .dropped (dropped_concat.mpr (Or.inr (Or.inr ⟨rfl, queued⟩)))
      | cancelled =>
        have known := ih found
        have cause : Cause events (fresh.run events) i
            ({ before with cancelled := true } : SessionCall).stage := known
        exact cause.step here
      | heard known => exact ((ih found).of_heard ordered found known).step here
      | abandoned flag => exact .cancelled (List.mem_append_left _ (cancel_mem found flag))

/-! ## Payloads and outcomes -/

/-- The payloads of the calls that begin in a history, in order. -/
def payloads (events : List SessionEvent) : List Bytes :=
  events.filterMap fun
    | .call payload => some payload
    | _ => none

/-- Only a beginning adds a call, and no event changes a payload. -/
theorem map_payload_step (s : Session) (others : ∀ payload, e ≠ .call payload) :
    (s.step e).calls.map SessionCall.payload = s.calls.map SessionCall.payload := by
  refine List.ext_getElem? fun i => ?_
  rw [List.getElem?_map, List.getElem?_map]
  cases there : (s.step e).calls[i]? with
  | none =>
    have short := List.getElem?_eq_none_iff.mp there
    rw [List.getElem?_eq_none (Nat.le_trans (length_calls_step s e) short)]
  | some c' =>
    rcases of_calls_step there with ⟨payload, begins, -, -⟩ | ⟨c, here, moves⟩
    · exact absurd begins (others payload)
    · rw [here, Option.map_some, Option.map_some, moves.payload]

/-- The calls of a session are those that began, with their payloads. -/
theorem map_payload_run (events : List SessionEvent) :
    (fresh.run events).calls.map SessionCall.payload = payloads events := by
  induction events using List.reverseRecOn with
  | nil => rfl
  | append_singleton events e ih =>
    rw [run_concat, payloads, List.filterMap_append, ← payloads, ← ih]
    cases e with
    | call payload => exact List.map_append
    | _ => exact (map_payload_step _ (by rintro payload ⟨⟩)).trans (List.append_nil _).symm

/-- A call with an empty payload ends where it begins. -/
theorem outcome?_of_empty (here : (fresh.run events).calls[i]? = some c)
    (empty : c.payload = []) :
    (fresh.run events).outcome? i = some (.error (.malformedPayload .empty)) := by
  induction events using List.reverseRecOn generalizing c with
  | nil => cases here
  | append_singleton events e ih =>
    rw [run_concat] at here ⊢
    rcases of_calls_step here with ⟨payload, rfl, rfl, rfl⟩ | ⟨before, found, moves⟩
    · refine Option.bind_eq_some_iff.mpr ⟨_, here, ?_⟩
      cases empty
      rfl
    · exact outcome?_step (ih found (moves.payload.symm.trans empty)) e

theorem cause_of_outcome? (ended : (fresh.run events).outcome? i = some outcome) :
    Cause events (fresh.run events) i (.ended outcome) := by
  obtain ⟨c, here, known⟩ := Option.bind_eq_some_iff.mp ended
  have cause := cause_run here
  unfold SessionCall.outcome? at known
  split at known
  · rename_i stage
    cases known
    exact stage ▸ cause
  · cases known

/-! ## Delivery -/

/-- What a history of a session comes to. -/
structure Delivers (events : List SessionEvent) (s : Session) : Prop where
  /-- The wallet has received what was sent, in the order in which it was sent. -/
  inOrder : s.delivered <+: s.sent
  /-- No call's request was received twice. -/
  once : (s.delivered.map WalletRequest.call).Nodup
  /-- A request carries the payload that its call began with. -/
  unchanged : ∀ r ∈ s.delivered, (payloads events)[r.call]? = some r.payload
  signed : ∀ i bytes, s.outcome? i = some (.ok bytes) → Answered events i (.signed bytes)
  rejected : ∀ i reason, s.outcome? i = some (.error (.sessionRejected reason)) →
    Answered events i (.rejected reason)
  /-- The request was never accepted, or it was dropped and not answered. -/
  disconnected : ∀ i, s.outcome? i = some (.error .sessionDisconnected) →
    ¬ s.HasSent i ∨ Dropped events i ∧ ∀ reply, ¬ Answered events i reply
  cancelled : ∀ i request, s.outcome? i = some (.error (.cancelled request)) → .cancel i ∈ events
  /-- A reply reaches no other call than its own, and none at all if that has ended. -/
  apart : ∀ i reply, (∀ j ≠ i, (s.step (.reply i reply)).calls[j]? = s.calls[j]?) ∧
    (s.outcome? i ≠ none → (s.step (.reply i reply)).calls = s.calls)
  /-- Later events change nothing of what a call has come to. -/
  final : ∀ i outcome later, s.outcome? i = some outcome →
    (s.run later).outcome? i = some outcome
  /-- A call with an empty payload fails, and its request never reaches the wallet. -/
  empty : ∀ i, (payloads events)[i]? = some [] →
    s.outcome? i = some (.error (.malformedPayload .empty)) ∧ ¬ s.HasSent i

namespace Cause

theorem signed {bytes : Bytes} (cause : Cause events s i (.ended (.ok bytes))) :
    Answered events i (.signed bytes) := by
  cases cause with
  | @heard reply _ answered given =>
    cases reply with
    | signed own =>
      cases given
      exact answered
    | rejected reason => cases given

theorem rejected {reason : String}
    (cause : Cause events s i (.ended (.error (.sessionRejected reason)))) :
    Answered events i (.rejected reason) := by
  cases cause with
  | @heard reply _ answered given =>
    cases reply with
    | signed bytes => cases given
    | rejected own =>
      cases given
      exact answered

theorem disconnected (cause : Cause events s i (.ended (.error .sessionDisconnected))) :
    ¬ s.HasSent i ∨ Dropped events i := by
  cases cause with
  | @heard reply _ _ given => cases reply <;> cases given
  | lost dropped => exact Or.inr dropped
  | refused unsent => exact Or.inl unsent

theorem cancelled_mem {request : Option String}
    (cause : Cause events s i (.ended (.error (.cancelled request)))) : .cancel i ∈ events := by
  cases cause with
  | @heard reply _ _ given => cases reply <;> cases given
  | cancelled member => exact member

theorem malformed {fault : PayloadFault}
    (cause : Cause events s i (.ended (.error (.malformedPayload fault)))) : ¬ s.HasSent i := by
  cases cause with
  | @heard reply _ _ given => cases reply <;> cases given
  | empty unsent => exact unsent

end Cause

theorem delivers_run (events : List SessionEvent) : Delivers events (fresh.run events) := by
  have ordered := ordered_run events
  obtain ⟨lost, kept, -⟩ := ordered.kept
  have inOrder : (fresh.run events).delivered <+: (fresh.run events).sent := ⟨_, kept.symm⟩
  refine
    { inOrder
      once := (inOrder.sublist.map _).nodup ordered.once
      unchanged := fun r taken => ?_
      signed := fun i bytes ended => (cause_of_outcome? ended).signed
      rejected := fun i reason ended => (cause_of_outcome? ended).rejected
      disconnected := fun i ended => ?_
      cancelled := fun i request ended => (cause_of_outcome? ended).cancelled_mem
      apart := fun i reply => ⟨fun j other => calls_reply_of_ne _ i reply other, fun ended => ?_⟩
      final := fun i outcome later ended => outcome?_run ended later
      empty := fun i begun => ?_ }
  · obtain ⟨c, here, same⟩ := ordered.made r (inOrder.subset taken)
    rw [← map_payload_run, List.getElem?_map, here, Option.map_some, same]
  · rcases (cause_of_outcome? ended).disconnected with unsent | dropped
    · exact Or.inl unsent
    · exact Or.inr ⟨dropped, fun reply answered => not_dropped_of_answered answered dropped⟩
  · obtain ⟨outcome, ended⟩ := Option.ne_none_iff_exists'.mp ended
    exact calls_reply_of_ended ended reply
  · rw [← map_payload_run, List.getElem?_map] at begun
    obtain ⟨c, here, empty⟩ := Option.map_eq_some_iff.mp begun
    have ended := outcome?_of_empty here empty
    exact ⟨ended, (cause_of_outcome? ended).malformed⟩

end Session

/-! ## Signing -/

namespace Wallet

open Session (Quiet)

theorem leave_run (w : Wallet) :
    ∃ events, w.leave.session = w.session.run events ∧ Quiet events := by
  unfold leave
  split
  · exact ⟨[.disconnect], rfl, by simp [Quiet]⟩
  · exact ⟨[], rfl, nofun⟩

theorem quiet_eventOf (request : WalletRequest) (answer : WalletAnswer) :
    Quiet (eventOf request answer).toList := by
  cases answer <;> simp [Quiet, eventOf]

/-- What a wallet does are events of its session, and no call ends in them. -/
theorem act_run (w : Wallet) :
    ∃ events, w.act.1.session = w.session.run events ∧ Quiet events := by
  unfold act
  split
  · rename_i action rest request others _ _
    obtain ⟨events, left, quiet⟩ := leave_run
      ({ w with actions := rest }.after (.receive :: (eventOf request action.answer).toList))
    refine ⟨.receive :: (eventOf request action.answer).toList ++ events, ?_, ?_⟩
    · rw [Session.run_append]
      exact left
    · intro e member
      rcases List.mem_append.mp member with own | later
      · rcases List.mem_cons.mp own with rfl | answer
        · exact fun i => ⟨nofun, nofun⟩
        · exact quiet_eventOf _ _ e answer
      · exact quiet e later
  · exact ⟨[], rfl, nofun⟩

theorem ask_run (call : Nat) (w : Wallet) :
    ∃ events, (ask call w).2.session = w.session.run events ∧ Quiet events := by
  obtain ⟨events, acted, quiet⟩ := act_run (w.after [.send call])
  refine ⟨.send call :: events, acted, List.forall_mem_cons.mpr ⟨fun i => ⟨nofun, nofun⟩, quiet⟩⟩

/-- Signing is one call of the session, and gives what the call ends with. -/
def Calls (payload : Bytes) (w : Wallet) (run : Run (Option Wallet) (Except Error Bytes)) : Prop :=
  ∃ w' events, run.state = some w' ∧ w'.session = w.session.run (.call payload :: events) ∧
    ∀ outcome, run.result = some outcome →
      w'.session.outcome? w.session.calls.length = some outcome

theorem sign_calls (payload : Bytes) (t : Timeline) (w : Wallet) :
    Calls payload w (sign payload t (some w)) := by
  dsimp only [sign]
  split
  · rename_i outcome refused
    refine ⟨_, [], rfl, rfl, ?_⟩
    rintro _ ⟨⟩
    exact refused
  · rename_i unended
    have here : (w.after [.call payload]).session.calls[w.session.calls.length]? =
        some (.start payload) := List.getElem?_concat_length
    have waits : (SessionCall.start payload).outcome? = none := by
      rw [Session.outcome?, here] at unended
      exact unended
    -- Whatever the wallet does by then, it leaves the call to end by itself.
    have asked (w' : Wallet) (state : w' = w.after [.call payload] ∨
        w' = (ask w.session.calls.length (w.after [.call payload])).2) :
        ∃ events, w'.session = w.session.run (.call payload :: events) ∧ Quiet events := by
      rcases state with rfl | rfl
      · exact ⟨[], rfl, nofun⟩
      · exact ask_run _ _
    have state := t.race_state (ask w.session.calls.length) (w.after [.call payload])
    split
    · rename_i time w' raced
      rw [raced] at state
      obtain ⟨events, same, -⟩ := asked w' state
      exact ⟨w', events, rfl, same, nofun⟩
    · rename_i time w' raced
      rw [raced] at state
      obtain ⟨events, same, quiet⟩ := asked w' state
      obtain ⟨c, there, live⟩ := Session.unended_run here waits quiet
      refine ⟨_, events ++ [.cancel w.session.calls.length, .abandon w.session.calls.length], rfl,
        ?_, ?_⟩
      · rw [← List.cons_append, Session.run_append, ← same]
        rfl
      · rintro _ ⟨⟩
        refine Session.outcome?_abandon ?_ live
        rw [same]
        exact there
    · rename_i outcome time w' raced
      rw [raced] at state
      obtain ⟨events, same, -⟩ := asked w' state
      obtain ⟨known, rfl⟩ := Timeline.of_race_answered raced
      refine ⟨_, events ++ [.hear w.session.calls.length], rfl, ?_, ?_⟩
      · rw [← List.cons_append, Session.run_concat, ← same]
        rfl
      · rintro _ ⟨⟩
        exact Session.outcome?_hear known

end Wallet

/-- **Delivery.** However calls, wallet and cancellations interleave, every call ends with what the
wallet did with its own request. Signing with a session is such a call, and signing without one
fails before anything is sent. -/
theorem Session.run_delivers (events : List SessionEvent) :
    Delivers events (fresh.run events) ∧
      (∀ payload t w, Wallet.Calls payload w (Wallet.sign payload t (some w))) ∧
      ∀ payload t, Wallet.sign payload t none = ⟨some (.error .notInitialized), t, none⟩ :=
  ⟨delivers_run events, Wallet.sign_calls, fun _ _ => rfl⟩

/-- The second call is first to send. Its reply comes after it was cancelled, and is lost. -/
example :
    let s := Session.fresh.run [.call [1], .call [2], .send 1, .send 0, .receive, .receive,
      .cancel 1, .abandon 1, .reply 1 (.signed [8]), .reply 0 (.signed [7]), .hear 1, .hear 0]
    s.delivered = [⟨1, [2]⟩, ⟨0, [1]⟩] ∧ s.outcome? 0 = some (.ok [7]) ∧
      s.outcome? 1 = some (.error (.cancelled none)) := ⟨rfl, rfl, rfl⟩

end TokenDesk.Signing
