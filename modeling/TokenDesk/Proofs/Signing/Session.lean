import Mathlib.Data.List.Induction
import Mathlib.Data.List.Nodup
import TokenDesk.Signing.Session

/-!
What the events of a session do.

One inversion says how an event moves a call (`Session.of_calls_step`), and one how it moves the
requests (`Session.traffic_step`). From them every session keeps its requests in order, each once
(`Session.ordered_run`), a request that is gone stays gone (`Session.Gone.step`), and what a call
has ended with it keeps (`Session.outcome?_run`).
-/

namespace TokenDesk.Signing.Session

variable {s : Session} {e : SessionEvent} {i j : Nat} {c c' : SessionCall}
  {outcome : Except Error Bytes}

theorem run_append (s : Session) (events later : List SessionEvent) :
    s.run (events ++ later) = (s.run events).run later := List.foldl_append

theorem run_concat (s : Session) (events : List SessionEvent) (e : SessionEvent) :
    s.run (events ++ [e]) = (s.run events).step e := List.foldl_append

/-! ## What an event does to a call -/

/-- How an event moves a call that there is already. -/
inductive Moves (s : Session) (i : Nat) : SessionEvent → SessionCall → SessionCall → Prop
  | still {e : SessionEvent} {c : SessionCall} : Moves s i e c c
  | sent {c : SessionCall} : c.stage = .sending → Moves s i (.send i) c { c with stage := .waiting }
  | answered {c : SessionCall} {reply : WalletReply} : c.stage = .waiting → s.holds i →
    Moves s i (.reply i reply) c { c with stage := .answered reply }
  | dropped {c : SessionCall} : c.stage = .waiting → s.holds i →
    Moves s i (.drop i) c { c with stage := .dropped }
  | lost {c : SessionCall} : c.stage = .waiting → s.queues i →
    Moves s i .disconnect c { c with stage := .dropped }
  | cancelled {c : SessionCall} : Moves s i (.cancel i) c { c with cancelled := true }
  | heard {c : SessionCall} {outcome : Except Error Bytes} : c.heard s.connected = some outcome →
    Moves s i (.hear i) c { c with stage := .ended outcome }
  | abandoned {c : SessionCall} : c.cancelled → c.outcome? = none →
    Moves s i (.abandon i) c { c with stage := .ended (.error (.cancelled none)) }

theorem getElem?_update (f : Nat → SessionCall → SessionCall) :
    (s.update f).calls[i]? = s.calls[i]?.map (f i) := List.getElem?_mapIdx

theorem of_updateCall {f : SessionCall → SessionCall}
    (there : (s.updateCall j f).calls[i]? = some c') :
    ∃ c, s.calls[i]? = some c ∧ (c' = c ∨ i = j ∧ c' = f c) := by
  unfold updateCall at there
  rw [getElem?_update] at there
  obtain ⟨c, here, moved⟩ := Option.map_eq_some_iff.mp there
  refine ⟨c, here, ?_⟩
  split at moved
  · rename_i same
    exact Or.inr ⟨same, moved.symm⟩
  · exact Or.inl moved.symm

/-- News reaches a call only while it waits. -/
theorem tell_eq (c : SessionCall) (news : CallStage) :
    c.tell news = c ∨ c.stage = .waiting ∧ c.tell news = { c with stage := news } := by
  unfold SessionCall.tell
  split
  · exact Or.inr ⟨by assumption, rfl⟩
  · exact Or.inl rfl

theorem of_release {news : CallStage} (there : (s.release j news).calls[i]? = some c') :
    ∃ c, s.calls[i]? = some c ∧
      (c' = c ∨ i = j ∧ c.stage = .waiting ∧ s.holds i ∧ c' = { c with stage := news }) := by
  unfold release at there
  split at there
  · rename_i held
    obtain ⟨c, here, rfl | ⟨rfl, rfl⟩⟩ := of_updateCall there
    · exact ⟨_, here, Or.inl rfl⟩
    · rcases tell_eq c news with same | ⟨waits, told⟩
      · exact ⟨c, here, Or.inl same⟩
      · exact ⟨c, here, Or.inr ⟨rfl, waits, held, told⟩⟩
  · exact ⟨c', there, Or.inl rfl⟩

theorem of_send (there : (s.send j).calls[i]? = some c') :
    ∃ c, s.calls[i]? = some c ∧
      (c' = c ∨ i = j ∧ c.stage = .sending ∧ c' = { c with stage := .waiting }) := by
  unfold send at there
  split at there
  · rename_i payload flag sending
    split at there
    · obtain ⟨c, here, rfl | ⟨rfl, rfl⟩⟩ := of_updateCall there
      · exact ⟨_, here, Or.inl rfl⟩
      · cases sending.symm.trans here
        exact ⟨_, here, Or.inr ⟨rfl, rfl, rfl⟩⟩
    · exact ⟨c', there, Or.inl rfl⟩
  · exact ⟨c', there, Or.inl rfl⟩

/-- A call after an event is a new one, or it was there and the event moved it. -/
theorem of_calls_step (there : (s.step e).calls[i]? = some c') :
    (∃ payload, e = .call payload ∧ i = s.calls.length ∧ c' = .start payload) ∨
      ∃ c, s.calls[i]? = some c ∧ Moves s i e c c' := by
  cases e with
  | call payload =>
    have appended : (s.calls ++ [.start payload])[i]? = some c' := there
    rw [List.getElem?_append] at appended
    split at appended
    · exact Or.inr ⟨c', appended, .still⟩
    · rw [List.getElem?_singleton] at appended
      split at appended
      · cases appended
        exact Or.inl ⟨payload, rfl, by omega, rfl⟩
      · cases appended
  | send j =>
    obtain ⟨c, here, rfl | ⟨rfl, sending, rfl⟩⟩ := of_send there
    · exact Or.inr ⟨_, here, .still⟩
    · exact Or.inr ⟨c, here, .sent sending⟩
  | receive =>
    refine Or.inr ⟨c', ?_, .still⟩
    dsimp only [step] at there
    split at there
    · exact there
    · exact there
  | reply j reply =>
    obtain ⟨c, here, rfl | ⟨rfl, waits, held, rfl⟩⟩ := of_release there
    · exact Or.inr ⟨_, here, .still⟩
    · exact Or.inr ⟨c, here, .answered waits held⟩
  | drop j =>
    obtain ⟨c, here, rfl | ⟨rfl, waits, held, rfl⟩⟩ := of_release there
    · exact Or.inr ⟨_, here, .still⟩
    · exact Or.inr ⟨c, here, .dropped waits held⟩
  | disconnect =>
    have updated := getElem?_update (s := s) (i := i) fun i c =>
      if s.queues i then c.tell .dropped else c
    obtain ⟨c, here, moved⟩ := Option.map_eq_some_iff.mp (updated.symm.trans there)
    refine Or.inr ⟨c, here, ?_⟩
    split at moved
    · rename_i queued
      rcases tell_eq c .dropped with same | ⟨waits, told⟩
      · rw [← moved, same]
        exact .still
      · rw [← moved, told]
        exact .lost waits queued
    · rw [← moved]
      exact .still
  | cancel j =>
    obtain ⟨c, here, rfl | ⟨rfl, rfl⟩⟩ := of_updateCall there
    · exact Or.inr ⟨_, here, .still⟩
    · exact Or.inr ⟨c, here, .cancelled⟩
  | hear j =>
    obtain ⟨c, here, rfl | ⟨rfl, rfl⟩⟩ := of_updateCall there
    · exact Or.inr ⟨_, here, .still⟩
    · refine Or.inr ⟨c, here, ?_⟩
      cases known : c.heard s.connected with
      | none => exact .still
      | some outcome => exact .heard known
  | abandon j =>
    obtain ⟨c, here, rfl | ⟨rfl, rfl⟩⟩ := of_updateCall there
    · exact Or.inr ⟨_, here, .still⟩
    · refine Or.inr ⟨c, here, ?_⟩
      unfold SessionCall.abandon
      split
      · rename_i noticed
        obtain ⟨flag, unended⟩ := Bool.and_eq_true_iff.mp noticed
        exact .abandoned flag (Option.isNone_iff_eq_none.mp unended)
      · exact .still

theorem Moves.payload (moves : Moves s i e c c') : c'.payload = c.payload := by
  cases moves <;> rfl

/-- A call that has ended stays as it has ended. -/
theorem Moves.outcome? (moves : Moves s i e c c') (ended : c.outcome? = some outcome) :
    c'.outcome? = some outcome := by
  cases moves with
  | still | cancelled => exact ended
  | sent stage | answered stage | dropped stage | lost stage =>
    rw [SessionCall.outcome?, stage] at ended
    cases ended
  | heard known =>
    unfold SessionCall.outcome? at ended
    unfold SessionCall.heard at known
    split at ended
    · rename_i stage
      rw [stage] at known
      cases known
    · cases ended
  | abandoned _ unended =>
    rw [unended] at ended
    cases ended

theorem length_calls_step (s : Session) (e : SessionEvent) :
    s.calls.length ≤ (s.step e).calls.length := by
  cases e with
  | call payload => exact List.length_append ▸ Nat.le_add_right _ _
  | send i =>
    simp only [step, send, updateCall, update]
    repeat' split
    all_goals simp
  | receive =>
    simp only [step]
    split <;> exact Nat.le_refl _
  | reply i reply | drop i =>
    simp only [step, release, updateCall, update]
    split <;> simp
  | disconnect | cancel i | hear i | abandon i => simp [step, updateCall, update]

/-- No event takes a call away. -/
theorem exists_calls_step (e : SessionEvent) (here : s.calls[i]? = some c) :
    ∃ c', (s.step e).calls[i]? = some c' ∧ Moves s i e c c' := by
  have small := (List.getElem?_eq_some_iff.mp here).1
  have there := List.getElem?_eq_getElem (Nat.lt_of_lt_of_le small (length_calls_step s e))
  refine ⟨_, there, ?_⟩
  rcases of_calls_step there with ⟨_, _, beyond, _⟩ | ⟨before, found, moves⟩
  · omega
  · cases here.symm.trans found
    exact moves

/-! ## What an event does to the requests -/

/-- How an event moves requests; whatever it does to the calls. -/
inductive Traffic (s : Session) : SessionEvent → Session → Prop
  | still {e : SessionEvent} (calls : List SessionCall) : Traffic s e { s with calls }
  | sent {i : Nat} {c : SessionCall} (calls : List SessionCall) : s.calls[i]? = some c →
    c.stage = .sending → s.connected →
    calls[i]? = some { c with stage := .waiting } →
    Traffic s (.send i) { s with
      calls
      queue := s.queue ++ [⟨i, c.payload⟩]
      sent := s.sent ++ [⟨i, c.payload⟩] }
  | received {request : WalletRequest} {rest : List WalletRequest} : s.queue = request :: rest →
    Traffic s .receive { s with
      queue := rest
      held := s.held ++ [request]
      delivered := s.delivered ++ [request] }
  | released {e : SessionEvent} {i : Nat} (calls : List SessionCall) : s.holds i →
    (∃ reply, e = .reply i reply) ∨ e = .drop i →
    Traffic s e { s with calls, held := s.held.filter fun r => r.call ≠ i }
  | disconnected (calls : List SessionCall) :
    Traffic s .disconnect { s with calls, connected := false, queue := [] }

theorem traffic_send (s : Session) (i : Nat) : Traffic s (.send i) (s.send i) := by
  unfold send
  split
  · rename_i payload flag sending
    split
    · rename_i room
      refine .sent _ sending rfl (Bool.and_eq_true_iff.mp room).1 ?_
      rw [updateCall, getElem?_update, sending, Option.map_some, if_pos rfl]
    · exact .still s.calls
  · exact .still s.calls

theorem traffic_release (s : Session) (news : CallStage)
    (cause : (∃ reply, e = .reply i reply) ∨ e = .drop i) : Traffic s e (s.release i news) := by
  unfold release
  split
  · rename_i held
    exact .released _ held cause
  · exact .still s.calls

theorem traffic_step (s : Session) (e : SessionEvent) : Traffic s e (s.step e) := by
  cases e with
  | call payload => exact .still _
  | send i => exact traffic_send s i
  | receive =>
    dsimp only [step]
    split
    · exact .received (by assumption)
    · exact .still s.calls
  | reply i reply => exact traffic_release s _ (Or.inl ⟨reply, rfl⟩)
  | drop i => exact traffic_release s _ (Or.inr rfl)
  | disconnect => exact .disconnected _
  | cancel i => exact .still _
  | hear i => exact .still _
  | abandon i => exact .still _

/-- Whether the request of a call was put in the queue. -/
def HasSent (s : Session) (call : Nat) : Prop := ∃ r ∈ s.sent, r.call = call

/-- A request is sent by a call that has not sent one. -/
theorem sent_step (s : Session) (e : SessionEvent) :
    (s.step e).sent = s.sent ∨ ∃ i c, e = .send i ∧ s.calls[i]? = some c ∧ c.stage = .sending ∧
      (s.step e).calls[i]? = some { c with stage := .waiting } ∧
      (s.step e).sent = s.sent ++ [⟨i, c.payload⟩] := by
  have traffic := traffic_step s e
  generalize s.step e = s' at traffic
  cases traffic with
  | still | received | released | disconnected => exact Or.inl rfl
  | sent calls here stage connected there => exact Or.inr ⟨_, _, rfl, here, stage, there, rfl⟩

theorem HasSent.step (sent : s.HasSent i) (e : SessionEvent) : (s.step e).HasSent i := by
  obtain ⟨r, member, same⟩ := sent
  rcases sent_step s e with kept | ⟨j, c, -, -, -, -, more⟩
  · exact ⟨r, kept ▸ member, same⟩
  · exact ⟨r, more ▸ List.mem_append_left _ member, same⟩

theorem hasSent_of_step (sent : (s.step e).HasSent i) :
    s.HasSent i ∨ ∃ c, s.calls[i]? = some c ∧ c.stage = .sending ∧
      (s.step e).calls[i]? = some { c with stage := .waiting } := by
  obtain ⟨r, member, rfl⟩ := sent
  rcases sent_step s e with kept | ⟨j, c, -, here, stage, there, more⟩
  · exact Or.inl ⟨r, kept ▸ member, rfl⟩
  · rw [more] at member
    rcases List.mem_append.mp member with before | new
    · exact Or.inl ⟨r, before, rfl⟩
    · cases List.mem_singleton.mp new
      exact Or.inr ⟨c, here, stage, there⟩

/-! ## The order of the requests -/

/-- Requests go their way in order, each once. -/
structure Ordered (s : Session) : Prop where
  /-- What was sent was taken or is in the queue; only a wallet that goes away loses requests. -/
  kept : ∃ lost, s.sent = s.delivered ++ (s.queue ++ lost) ∧ (s.connected → lost = [])
  held : s.held.Sublist s.delivered
  once : (s.sent.map WalletRequest.call).Nodup
  /-- A request is that of a call, with its payload. -/
  made : ∀ r ∈ s.sent, ∃ c, s.calls[r.call]? = some c ∧ c.payload = r.payload
  unsent : ∀ i c, s.calls[i]? = some c → c.stage = .sending → ¬ s.HasSent i

namespace Ordered

theorem kept_step (ordered : s.Ordered) (e : SessionEvent) :
    ∃ lost, (s.step e).sent = (s.step e).delivered ++ ((s.step e).queue ++ lost) ∧
      ((s.step e).connected → lost = []) := by
  obtain ⟨lost, kept, none_lost⟩ := ordered.kept
  have traffic := traffic_step s e
  generalize s.step e = s' at traffic
  cases traffic with
  | still | released => exact ⟨lost, kept, none_lost⟩
  | sent calls here stage connected there =>
    refine ⟨[], ?_, fun _ => rfl⟩
    simp [kept, none_lost connected]
  | received queue =>
    refine ⟨lost, ?_, none_lost⟩
    simp [kept, queue]
  | disconnected => exact ⟨s.queue ++ lost, kept, nofun⟩

theorem held_step (ordered : s.Ordered) (e : SessionEvent) :
    (s.step e).held.Sublist (s.step e).delivered := by
  have traffic := traffic_step s e
  generalize s.step e = s' at traffic
  cases traffic with
  | still | sent | disconnected => exact ordered.held
  | received => exact ordered.held.append (List.Sublist.refl _)
  | released => exact List.filter_sublist.trans ordered.held

theorem once_step (ordered : s.Ordered) (e : SessionEvent) :
    ((s.step e).sent.map WalletRequest.call).Nodup := by
  rcases sent_step s e with kept | ⟨i, c, -, here, stage, -, more⟩
  · rw [kept]
    exact ordered.once
  · have unsent := ordered.unsent i c here stage
    rw [more, List.map_append, List.nodup_append]
    refine ⟨ordered.once, List.nodup_singleton _, fun a before b new same => unsent ?_⟩
    obtain ⟨r, member, rfl⟩ := List.mem_map.mp before
    exact ⟨r, member, same.trans (List.mem_singleton.mp new)⟩

theorem made_step (ordered : s.Ordered) (e : SessionEvent) :
    ∀ r ∈ (s.step e).sent, ∃ c, (s.step e).calls[r.call]? = some c ∧ c.payload = r.payload := by
  intro r member
  rcases sent_step s e with kept | ⟨i, c, -, here, stage, there, more⟩
  · obtain ⟨c, here, same⟩ := ordered.made r (kept ▸ member)
    obtain ⟨c', there, moves⟩ := exists_calls_step e here
    exact ⟨c', there, moves.payload.trans same⟩
  · rw [more] at member
    rcases List.mem_append.mp member with before | new
    · obtain ⟨c, here, same⟩ := ordered.made r before
      obtain ⟨c', there, moves⟩ := exists_calls_step e here
      exact ⟨c', there, moves.payload.trans same⟩
    · cases List.mem_singleton.mp new
      exact ⟨_, there, rfl⟩

/-- A request that was sent is that of a call that there is. -/
theorem lt_of_hasSent (ordered : s.Ordered) (sent : s.HasSent i) : i < s.calls.length := by
  obtain ⟨r, member, rfl⟩ := sent
  obtain ⟨c, here, -⟩ := ordered.made r member
  exact (List.getElem?_eq_some_iff.mp here).1

theorem unsent_step (ordered : s.Ordered) (e : SessionEvent) :
    ∀ i c, (s.step e).calls[i]? = some c → c.stage = .sending → ¬ (s.step e).HasSent i := by
  intro i c' there stage sent
  rcases hasSent_of_step sent with before | ⟨c, here, -, waits⟩
  · rcases of_calls_step there with ⟨_, _, rfl, _⟩ | ⟨c, here, moves⟩
    · exact absurd (ordered.lt_of_hasSent before) (Nat.lt_irrefl _)
    · refine ordered.unsent i c here ?_ before
      cases moves with
      | still | cancelled => exact stage
      | _ => cases stage
  · cases there.symm.trans waits
    cases stage

theorem step (ordered : s.Ordered) (e : SessionEvent) : (s.step e).Ordered :=
  ⟨ordered.kept_step e, ordered.held_step e, ordered.once_step e, ordered.made_step e,
    ordered.unsent_step e⟩

end Ordered

theorem ordered_fresh : fresh.Ordered :=
  ⟨⟨[], rfl, fun _ => rfl⟩, .slnil, .nil, nofun, nofun⟩

theorem ordered_run (events : List SessionEvent) : (fresh.run events).Ordered := by
  induction events using List.reverseRecOn with
  | nil => exact ordered_fresh
  | append_singleton events e ih =>
    rw [run_concat]
    exact ih.step e

/-! ## Requests that are gone -/

theorem holds_iff : s.holds i ↔ ∃ r ∈ s.held, r.call = i := by
  simp [holds]

theorem queues_iff : s.queues i ↔ ∃ r ∈ s.queue, r.call = i := by
  simp [queues]

/-- The request of a call was sent, and the wallet neither has it nor will take it. -/
structure Gone (s : Session) (call : Nat) : Prop where
  sent : s.HasSent call
  unqueued : ¬ s.queues call
  unheld : ¬ s.holds call

namespace Ordered

theorem hasSent_of_queues (ordered : s.Ordered) (queued : s.queues i) : s.HasSent i := by
  obtain ⟨lost, kept, -⟩ := ordered.kept
  obtain ⟨r, member, same⟩ := queues_iff.mp queued
  exact ⟨r, kept ▸ List.mem_append_right _ (List.mem_append_left _ member), same⟩

theorem hasSent_of_holds (ordered : s.Ordered) (held : s.holds i) : s.HasSent i := by
  obtain ⟨lost, kept, -⟩ := ordered.kept
  obtain ⟨r, member, same⟩ := holds_iff.mp held
  exact ⟨r, kept ▸ List.mem_append_left _ (ordered.held.subset member), same⟩

/-- A request that the wallet has taken does not stand in the queue any more. -/
theorem not_queues_of_holds (ordered : s.Ordered) (held : s.holds i) : ¬ s.queues i := by
  intro queued
  obtain ⟨lost, kept, -⟩ := ordered.kept
  obtain ⟨r, taken, rfl⟩ := holds_iff.mp held
  obtain ⟨q, waiting, same⟩ := queues_iff.mp queued
  have once := ordered.once
  rw [kept, List.map_append, List.nodup_append] at once
  exact once.2.2 r.call (List.mem_map_of_mem (ordered.held.subset taken)) q.call
    (List.mem_map_of_mem (List.mem_append_left _ waiting)) same.symm

end Ordered

/-- What is gone does not come back. -/
theorem Gone.step (gone : s.Gone i) (ordered : s.Ordered) (e : SessionEvent) :
    (s.step e).Gone i := by
  refine ⟨gone.sent.step e, ?_, ?_⟩
  · intro queued
    have traffic := traffic_step s e
    generalize s.step e = s' at traffic queued
    cases traffic with
    | still | released => exact gone.unqueued queued
    | sent calls here stage connected there =>
      obtain ⟨r, member, rfl⟩ := queues_iff.mp queued
      rcases List.mem_append.mp member with before | new
      · exact gone.unqueued (queues_iff.mpr ⟨r, before, rfl⟩)
      · cases List.mem_singleton.mp new
        exact ordered.unsent _ _ here stage gone.sent
    | received queue =>
      obtain ⟨r, member, rfl⟩ := queues_iff.mp queued
      exact gone.unqueued (queues_iff.mpr ⟨r, queue ▸ List.mem_cons_of_mem _ member, rfl⟩)
    | disconnected => cases queued
  · intro held
    have traffic := traffic_step s e
    generalize s.step e = s' at traffic held
    cases traffic with
    | still | sent | disconnected => exact gone.unheld held
    | received queue =>
      obtain ⟨r, member, rfl⟩ := holds_iff.mp held
      rcases List.mem_append.mp member with before | new
      · exact gone.unheld (holds_iff.mpr ⟨r, before, rfl⟩)
      · cases List.mem_singleton.mp new
        exact gone.unqueued (queues_iff.mpr ⟨_, queue ▸ List.mem_cons_self, rfl⟩)
    | released =>
      obtain ⟨r, member, rfl⟩ := holds_iff.mp held
      exact gone.unheld (holds_iff.mpr ⟨r, List.mem_of_mem_filter member, rfl⟩)

/-- A request that the wallet parts with is gone. -/
theorem gone_of_release (ordered : s.Ordered) (held : s.holds i) (news : CallStage) :
    (s.release i news).Gone i := by
  unfold release
  rw [if_pos held]
  refine ⟨ordered.hasSent_of_holds held, ordered.not_queues_of_holds held, fun still => ?_⟩
  obtain ⟨r, member, same⟩ := holds_iff.mp still
  simpa [same] using (List.mem_filter.mp member).2

theorem gone_of_disconnect (ordered : s.Ordered) (queued : s.queues i) :
    (s.step .disconnect).Gone i :=
  ⟨ordered.hasSent_of_queues queued, nofun, fun held => ordered.not_queues_of_holds held queued⟩

/-! ## Calls that have ended -/

theorem outcome?_step (ended : s.outcome? i = some outcome) (e : SessionEvent) :
    (s.step e).outcome? i = some outcome := by
  obtain ⟨c, here, known⟩ := Option.bind_eq_some_iff.mp ended
  obtain ⟨c', there, moves⟩ := exists_calls_step e here
  exact Option.bind_eq_some_iff.mpr ⟨c', there, moves.outcome? known⟩

/-- What a call has ended with it has ended with for good. -/
theorem outcome?_run (ended : s.outcome? i = some outcome) (later : List SessionEvent) :
    (s.run later).outcome? i = some outcome := by
  induction later generalizing s with
  | nil => exact ended
  | cons e later ih => exact ih (outcome?_step ended e)

/-- Events in which no call ends. -/
def Quiet (events : List SessionEvent) : Prop :=
  ∀ e ∈ events, ∀ i, e ≠ .hear i ∧ e ≠ .abandon i

theorem Moves.unended (moves : Moves s i e c c') (quiet : ∀ i, e ≠ .hear i ∧ e ≠ .abandon i)
    (unended : c.outcome? = none) : c'.outcome? = none := by
  cases moves with
  | still | cancelled => exact unended
  | sent | answered | dropped | lost => rfl
  | heard => exact absurd rfl (quiet i).1
  | abandoned => exact absurd rfl (quiet i).2

theorem unended_run {events : List SessionEvent} (here : s.calls[i]? = some c)
    (unended : c.outcome? = none) (quiet : Quiet events) :
    ∃ c', (s.run events).calls[i]? = some c' ∧ c'.outcome? = none := by
  induction events generalizing s c with
  | nil => exact ⟨c, here, unended⟩
  | cons e events ih =>
    obtain ⟨c', there, moves⟩ := exists_calls_step e here
    obtain ⟨first, others⟩ := List.forall_mem_cons.mp quiet
    exact ih there (moves.unended first unended) others

/-- A call that hears ends with what it hears. -/
theorem outcome?_hear (known : s.heard i = some outcome) :
    (s.step (.hear i)).outcome? i = some outcome := by
  obtain ⟨c, here, heard⟩ := Option.bind_eq_some_iff.mp known
  dsimp only [step, outcome?]
  rw [updateCall, getElem?_update, here, Option.map_some, if_pos rfl, heard]
  rfl

/-- A call that is cancelled before it ends, and notices, ends with that. -/
theorem outcome?_abandon (here : s.calls[i]? = some c) (unended : c.outcome? = none) :
    (s.run [.cancel i, .abandon i]).outcome? i = some (.error (.cancelled none)) := by
  have flagged : (s.step (.cancel i)).calls[i]? = some { c with cancelled := true } := by
    dsimp only [step]
    rw [updateCall, getElem?_update, here, Option.map_some, if_pos rfl]
  have noticed : ({ c with cancelled := true } : SessionCall).abandon.outcome? =
      some (.error (.cancelled none)) := by
    have still : ({ c with cancelled := true } : SessionCall).outcome? = none := unended
    rw [SessionCall.abandon, still]
    rfl
  change ((s.step (.cancel i)).step (.abandon i)).outcome? i = _
  dsimp only [step, outcome?] at flagged ⊢
  rw [updateCall, getElem?_update, flagged, Option.map_some, if_pos rfl, Option.bind_some, noticed]

/-! ## Replies -/

/-- A reply reaches no other call than its own. -/
theorem calls_reply_of_ne (s : Session) (i : Nat) (reply : WalletReply) (other : j ≠ i) :
    (s.step (.reply i reply)).calls[j]? = s.calls[j]? := by
  dsimp only [step, release]
  split
  · rw [updateCall, getElem?_update]
    simp [other]
  · rfl

/-- A reply to a call that has ended reaches nobody. -/
theorem calls_reply_of_ended (ended : s.outcome? i = some outcome) (reply : WalletReply) :
    (s.step (.reply i reply)).calls = s.calls := by
  obtain ⟨c, here, known⟩ := Option.bind_eq_some_iff.mp ended
  refine List.ext_getElem? fun j => ?_
  by_cases same : j = i
  · obtain ⟨c', there, moves⟩ := exists_calls_step (.reply i reply) here
    rw [same, there, here]
    cases moves with
    | still => rfl
    | answered waits =>
      rw [SessionCall.outcome?, waits] at known
      cases known
  · exact calls_reply_of_ne s i reply same

end TokenDesk.Signing.Session
