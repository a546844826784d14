import TokenDesk.Proofs.Signing.FirstDecisive
import TokenDesk.Proofs.Signing.Layouts
import TokenDesk.Proofs.Wire.Record
import TokenDesk.Signing.Dfns

/-!
What a provider's answers over HTTP mean.

An answer reports a state if its status is one of success and its body is the text of a state
(`Reports`); `reports_of_gives` says which objects are such texts. The rules by which an answer to a
status query ends a run are `Decides`, and the answers that only use up an attempt are listed in
`Pends`. Every answer is of one of the two kinds and of no more than one, and the client decides
by these rules (`decides_or_pends`, `decides_iff_not_pends`).
-/

namespace TokenDesk.Signing

namespace Dfns

/-! ## What an answer says -/

/-- A status of the class 2xx. -/
def HttpReply.Succeeds (reply : HttpReply) : Prop := 200 ≤ reply.status ∧ reply.status < 300

/-- A status of the class 4xx that does not ask to try again later. -/
def HttpReply.Refuses (reply : HttpReply) : Prop :=
  (400 ≤ reply.status ∧ reply.status < 500) ∧ reply.status ≠ 408 ∧ reply.status ≠ 429

/-- The error that the status of an answer is. -/
def HttpReply.error (reply : HttpReply) : ProviderError :=
  .api reply.status (String.ofList (Text.readUtf8Lossy reply.body))

/-- An answer with a status of success and a body that is the text of a state. -/
def Reports (answer : Except String HttpReply) (state : SignatureState) : Prop :=
  ∃ reply text, answer = .ok reply ∧ reply.Succeeds ∧ Text.readUtf8? reply.body = some text ∧
    Wire.decodeText signatureState text = .ok state

/-- An answer that names the signature that was asked for. -/
def Names (answer : Except String HttpReply) (id : String) : Prop :=
  ∃ state, Reports answer state ∧ state.id = some id

/-- The 32 bytes that the text of a component stands for. -/
def Half (text : String) (half : Bytes) : Prop :=
  ∃ short, Text.bytesOfDigits (Material.digits text) = some short ∧ short.length ≤ 32 ∧
    half = Bytes.padLeft 32 short

/-- What two components come to: one after the other in 32 bytes each, or no signature. -/
inductive Joins (r s : String) : Except Error Bytes → Prop
  | signature {front back : Bytes} (first : Half r front) (second : Half s back) :
    Joins r s (.ok (front ++ back))
  | malformed (fault : SignatureFault)
    (unreadable : (¬∃ front, Half r front) ∨ ¬∃ back, Half s back) :
    Joins r s (.error (.malformedSignature fault))

/-- The words for the status of a signature. -/
def words : List String := ["Pending", "Executing", "Signed", "Confirmed", "Failed", "Rejected"]

/-- The answers to a GET that end a run, and how they end it. -/
inductive Decides (request : String) : Except String HttpReply → Except Error Bytes → Prop
  | signed {answer state r s outcome} (reports : Reports answer state)
    (word : state.status = "Signed" ∨ state.status = "Confirmed")
    (attached : state.signature = some (r, s)) (joins : Joins r s outcome) :
    Decides request answer outcome
  | failed {answer state} (reports : Reports answer state)
    (word : state.status = "Failed" ∨ state.status = "Rejected") :
    Decides request answer (.error (.rejected request (state.reason.getD state.status)))
  | refused {reply : HttpReply} (refuses : reply.Refuses) :
    Decides request (.ok reply) (.error (.rejected request reply.error.message))

/-- The answers to a GET that only use up an attempt, and what is remembered of them. -/
inductive Pends : Except String HttpReply → Option String → Prop
  | working {answer state} (reports : Reports answer state)
    (word : state.status = "Pending" ∨ state.status = "Executing") : Pends answer none
  | unattached {answer state} (reports : Reports answer state)
    (word : state.status = "Signed" ∨ state.status = "Confirmed")
    (missing : state.signature = none) : Pends answer none
  | unknown {answer state} (reports : Reports answer state) (strange : state.status ∉ words) :
    Pends answer (some (ProviderError.unknownStatus state.status).message)
  | undecodable {reply : HttpReply} (succeeds : reply.Succeeds)
    (mute : ¬∃ state, Reports (.ok reply) state) :
    Pends (.ok reply) (some (ProviderError.http "error decoding response body").message)
  | unsuccessful {reply : HttpReply} (fails : ¬reply.Succeeds) (passes : ¬reply.Refuses) :
    Pends (.ok reply) (some reply.error.message)
  | lost (reason : String) : Pends (.error reason) (some (ProviderError.http reason).message)

theorem Reports.unique {answer : Except String HttpReply} {state state' : SignatureState}
    (reports : Reports answer state) (reports' : Reports answer state') : state = state' := by
  obtain ⟨reply, text, rfl, -, readable, decoded⟩ := reports
  obtain ⟨_, text', ⟨⟩, -, readable', decoded'⟩ := reports'
  cases readable.symm.trans readable'
  exact Except.ok.inj (decoded.symm.trans decoded')

theorem Half.unique {text : String} {half half' : Bytes} (is : Half text half)
    (is' : Half text half') : half = half' := by
  obtain ⟨short, digits, -, rfl⟩ := is
  obtain ⟨short', digits', -, rfl⟩ := is'
  cases digits.symm.trans digits'
  rfl

theorem Joins.eq_of_halves {r s : String} {front back : Bytes} {outcome : Except Error Bytes}
    (joins : Joins r s outcome) (first : Half r front) (second : Half s back) :
    outcome = .ok (front ++ back) := by
  cases joins with
  | signature first' second' => rw [first.unique first', second.unique second']
  | malformed fault unreadable =>
    rcases unreadable with none | none
    · exact (none ⟨front, first⟩).elim
    · exact (none ⟨back, second⟩).elim

theorem HttpReply.isSuccess_iff {reply : HttpReply} :
    isSuccess reply.status = true ↔ reply.Succeeds := by
  simp [isSuccess, Succeeds]

theorem HttpReply.isPermanentStatus_iff {reply : HttpReply} :
    isPermanentStatus reply.status = true ↔ reply.Refuses := by
  simp [isPermanentStatus, Refuses, and_assoc]

theorem HttpReply.Refuses.not_succeeds {reply : HttpReply} (refuses : reply.Refuses) :
    ¬reply.Succeeds := by
  rintro ⟨-, below⟩
  exact absurd refuses.1.1 (by omega)

theorem readState?_eq_some_iff {body : Bytes} {state : SignatureState} :
    readState? body = some state ↔ ∃ text, Text.readUtf8? body = some text ∧
      Wire.decodeText signatureState text = .ok state := by
  simp only [readState?, bind, Option.bind_eq_some_iff, toOption_eq_some_iff]

theorem readReply_eq_ok_iff {reply : HttpReply} {state : SignatureState} :
    readReply reply = .ok state ↔ Reports (.ok reply) state := by
  constructor
  · intro read
    unfold readReply at read
    split at read
    · rename_i success
      split at read
      · rename_i found
        cases read
        obtain ⟨text, readable, decoded⟩ := readState?_eq_some_iff.mp found
        exact ⟨reply, text, rfl, HttpReply.isSuccess_iff.mp success, readable, decoded⟩
      · cases read
    · cases read
  · rintro ⟨_, text, ⟨⟩, succeeds, readable, decoded⟩
    have found := readState?_eq_some_iff.mpr ⟨text, readable, decoded⟩
    rw [readReply, if_pos (HttpReply.isSuccess_iff.mpr succeeds), found]

theorem readReply_of_unsuccessful {reply : HttpReply}
    (fails : ¬reply.Succeeds) :
    readReply reply = .error reply.error := by
  rw [readReply, if_neg (mt HttpReply.isSuccess_iff.mp fails)]
  rfl

theorem readReply_of_undecodable {reply : HttpReply} (succeeds : reply.Succeeds)
    (mute : ¬∃ state, Reports (.ok reply) state) :
    readReply reply = .error (.http "error decoding response body") := by
  have unread : readState? reply.body = none := by
    cases found : readState? reply.body with
    | none => rfl
    | some state =>
      obtain ⟨text, readable, decoded⟩ := readState?_eq_some_iff.mp found
      exact (mute ⟨state, reply, text, rfl, succeeds, readable, decoded⟩).elim
  rw [readReply, if_pos (HttpReply.isSuccess_iff.mpr succeeds), unread]

/-! ## Bodies -/

section

open Json (Document)
open Wire (WellFormed ofNamed)

/-- A text that may be null or missing. -/
def MaybeText (value : Option Document) : Option String → Prop
  | none => value = none ∨ value = some .null
  | some text => value = some (.text (some text.toList))

/-- The components of a signature, which may be null or missing. -/
def MaybeComponents (value : Option Document) : Option (String × String) → Prop
  | none => value = none ∨ value = some .null
  | some (r, s) => ∃ parts, value = some (ofNamed parts) ∧ WellFormed parts ∧
      parts.lookup "r" = some (.text (some r.toList)) ∧
        parts.lookup "s" = some (.text (some s.toList))

/-- The members of an object, in any order and with others among them, that give a state. -/
structure Gives (members : List (String × Document)) (state : SignatureState) : Prop where
  formed : WellFormed members
  id : MaybeText (members.lookup "id") state.id
  status : members.lookup "status" = some (.text (some state.status.toList))
  signature : MaybeComponents (members.lookup "signature") state.signature
  reason : MaybeText (members.lookup "reason") state.reason

variable {r : Wire.Record} {i : Nat} {value : Option Document}

theorem string_text (text : String) : Wire.string (.text (some text.toList)) = .ok text := by
  rw [Wire.string, Wire.characters]
  exact congrArg Except.ok (String.ofList_toList)

theorem field?_of_maybeText {text : Option String}
    (slot : r.slots[i]?.map (Option.map Prod.snd) = some value) (maybe : MaybeText value text) :
    r.field? i Wire.string = .value text := by
  cases text with
  | none =>
    rcases maybe with rfl | rfl
    · exact Wire.field?_of_empty slot
    · exact Wire.field?_of_slot slot rfl
  | some text =>
    cases maybe
    refine Wire.field?_of_slot slot ?_
    rw [Wire.optional, string_text]
    · rfl
    · nofun

theorem components_of_parts {parts : List (String × Document)} {first second : String}
    (formed : WellFormed parts) (r : parts.lookup "r" = some (.text (some first.toList)))
    (s : parts.lookup "s" = some (.text (some second.toList))) :
    components (ofNamed parts) = .ok (first, second) := by
  obtain ⟨opened, read, sound, slots⟩ := Wire.record_ofNamed formed ["r", "s"]
  have front := Wire.field_of_slot ((slots 0 "r" rfl).trans (congrArg some r)) (string_text first)
  have back := Wire.field_of_slot ((slots 1 "s" rfl).trans (congrArg some s)) (string_text second)
  unfold components
  rw [read]
  simp only [bind, Except.bind, front, back, Wire.Reading.map_value, Wire.Reading.seq_value]
  exact Wire.settle_of_sound sound

theorem field?_of_maybeComponents {signature : Option (String × String)}
    (slot : r.slots[i]?.map (Option.map Prod.snd) = some value)
    (maybe : MaybeComponents value signature) : r.field? i components = .value signature := by
  cases signature with
  | none =>
    rcases maybe with rfl | rfl
    · exact Wire.field?_of_empty slot
    · exact Wire.field?_of_slot slot rfl
  | some pair =>
    obtain ⟨parts, rfl, formed, first, second⟩ := maybe
    refine Wire.field?_of_slot slot ?_
    rw [Wire.optional, components_of_parts formed first second]
    · rfl
    · nofun

/-- An object is decoded as the state that its members give. -/
theorem signatureState_of_gives {members : List (String × Document)} {state : SignatureState}
    (gives : Gives members state) : signatureState (ofNamed members) = .ok state := by
  obtain ⟨opened, read, sound, slots⟩ :=
    Wire.record_ofNamed gives.formed ["id", "status", "signature", "reason"]
  have id := field?_of_maybeText (slots 0 "id" rfl) gives.id
  have status := Wire.field_of_slot ((slots 1 "status" rfl).trans (congrArg some gives.status))
    (string_text state.status)
  have signature := field?_of_maybeComponents (slots 2 "signature" rfl) gives.signature
  have reason := field?_of_maybeText (slots 3 "reason" rfl) gives.reason
  unfold signatureState
  rw [read]
  simp only [bind, Except.bind, id, status, signature, reason, Wire.Reading.map_value,
    Wire.Reading.seq_value]
  exact Wire.settle_of_sound sound

/-- A 2xx answer whose body is the text of an object reports the state that its members give. -/
theorem reports_of_gives {reply : HttpReply} {text : List Char}
    {members : List (String × Document)} {state : SignatureState}
    (succeeds : reply.Succeeds)
    (readable : Text.readUtf8? reply.body = some text)
    (parsed : Json.read text = (ofNamed members, true)) (gives : Gives members state) :
    Reports (.ok reply) state := by
  refine ⟨reply, text, rfl, succeeds, readable, ?_⟩
  simp only [Wire.decodeText, parsed, signatureState_of_gives gives]
  rfl

end

/-! ## What the client makes of it -/

/-- A component that is no half is not well-formed. -/
theorem of_component_error {text : String} {e : Error}
    (failed : Material.component text = .error e) :
    (∃ fault, e = .malformedSignature fault) ∧ ¬∃ half, Half text half := by
  constructor
  · unfold Material.component at failed
    rcases of_bind_error failed with unread | ⟨bytes, -, failed⟩
    · obtain ⟨cause, -, rfl⟩ := of_mapError_error unread
      exact ⟨_, rfl⟩
    · split at failed
      · cases failed
        exact ⟨_, rfl⟩
      · cases failed
  · rintro ⟨half, is⟩
    rw [Material.component_eq_ok_iff.mpr is] at failed
    cases failed

/-- Two components come to what they are reconstructed as. -/
theorem joins_reconstruct (r s : String) : Joins r s (Material.components r s).reconstruct := by
  cases first : Material.component r with
  | error e =>
    rw [Material.reconstruct, first]
    obtain ⟨⟨fault, rfl⟩, none⟩ := of_component_error first
    exact .malformed fault (.inl none)
  | ok front =>
    cases second : Material.component s with
    | error e =>
      rw [Material.reconstruct, first]
      change Joins r s ((Material.component s).bind _)
      rw [second]
      obtain ⟨⟨fault, rfl⟩, none⟩ := of_component_error second
      exact .malformed fault (.inr none)
    | ok back =>
      rw [Material.reconstruct, first]
      change Joins r s ((Material.component s).bind _)
      rw [second]
      exact .signature (Material.component_eq_ok_iff.mp first)
        (Material.component_eq_ok_iff.mp second)

/-- What the client makes of an answer to the POST. -/
def creation (answer : Except String HttpReply) : Except ProviderError String :=
  (answer.mapError ProviderError.http).bind createdId

/-- What the client makes of an answer to a GET. -/
def status (answer : Except String HttpReply) : Except ProviderError (RemoteStatus Material) :=
  (answer.mapError ProviderError.http).bind remoteStatus

theorem creation_eq_ok_iff {answer : Except String HttpReply} {id : String} :
    creation answer = .ok id ↔ Names answer id := by
  cases answer with
  | error reason =>
    refine iff_of_false nofun ?_
    rintro ⟨state, ⟨reply, text, ⟨⟩, -⟩, -⟩
  | ok reply =>
    change createdId reply = .ok id ↔ _
    constructor
    · intro created
      obtain ⟨state, read, named⟩ := of_bind_ok created
      refine ⟨state, readReply_eq_ok_iff.mp read, ?_⟩
      split at named
      · rename_i found
        cases named
        exact found
      · cases named
    · rintro ⟨⟨_, word, signature, reason⟩, reports, ⟨⟩⟩
      rw [createdId, readReply_eq_ok_iff.mpr reports]
      rfl

theorem status_of_reports {answer : Except String HttpReply} {state : SignatureState}
    (reports : Reports answer state) : status answer = classify state := by
  obtain ⟨reply, text, rfl, rest⟩ := reports
  change remoteStatus reply = _
  rw [remoteStatus, readReply_eq_ok_iff.mpr ⟨reply, text, rfl, rest⟩]
  rfl

section

variable {state : SignatureState}

theorem classify_of_working (word : state.status = "Pending" ∨ state.status = "Executing") :
    classify state = .ok .pending := if_pos word

theorem idle_of_signed (word : state.status = "Signed" ∨ state.status = "Confirmed") :
    ¬(state.status = "Pending" ∨ state.status = "Executing") := by
  rcases word with word | word <;> rw [word] <;> decide

theorem unfailed_of_signed (word : state.status = "Signed" ∨ state.status = "Confirmed") :
    ¬(state.status = "Failed" ∨ state.status = "Rejected") := by
  rcases word with word | word <;> rw [word] <;> decide

theorem classify_of_signed (word : state.status = "Signed" ∨ state.status = "Confirmed")
    {r s : String} (attached : state.signature = some (r, s)) :
    classify state = .ok (.signed (.components r s)) := by
  rw [classify, if_neg (idle_of_signed word), if_pos word, attached]

theorem classify_of_unattached (word : state.status = "Signed" ∨ state.status = "Confirmed")
    (missing : state.signature = none) : classify state = .ok .pending := by
  rw [classify, if_neg (idle_of_signed word), if_pos word, missing]

theorem classify_of_failed (word : state.status = "Failed" ∨ state.status = "Rejected") :
    classify state = .ok (.failed (state.reason.getD state.status)) := by
  have idle : ¬(state.status = "Pending" ∨ state.status = "Executing") := by
    rcases word with word | word <;> rw [word] <;> decide
  rw [classify, if_neg idle, if_neg fun signed => unfailed_of_signed signed word, if_pos word]

theorem classify_of_unknown (strange : state.status ∉ words) :
    classify state = .error (.unknownStatus state.status) := by
  simp only [words, List.mem_cons, List.not_mem_nil, or_false, not_or] at strange
  obtain ⟨pending, executing, signed, confirmed, failed, rejected⟩ := strange
  rw [classify, if_neg (not_or.mpr ⟨pending, executing⟩), if_neg (not_or.mpr ⟨signed, confirmed⟩),
    if_neg (not_or.mpr ⟨failed, rejected⟩)]

end

theorem status_of_undecodable {reply : HttpReply} (succeeds : reply.Succeeds)
    (mute : ¬∃ state, Reports (.ok reply) state) :
    status (.ok reply) = .error (.http "error decoding response body") := by
  change remoteStatus reply = _
  rw [remoteStatus, readReply_of_undecodable succeeds mute]
  rfl

theorem status_of_unsuccessful {reply : HttpReply} (fails : ¬reply.Succeeds) :
    status (.ok reply) = .error reply.error := by
  change remoteStatus reply = _
  rw [remoteStatus, readReply_of_unsuccessful fails]
  rfl

/-- A state decides a request by its word, or leaves it pending. -/
theorem decides_or_pends_of_reports (request : String) {answer : Except String HttpReply}
    {state : SignatureState} (reports : Reports answer state) :
    (∃ decided, decision? request (status answer) = some decided ∧
      Decides request answer (decided.bind Material.reconstruct)) ∨
    decision? request (status answer) = none ∧ Pends answer (errorText? (status answer)) := by
  rw [status_of_reports reports]
  by_cases working : state.status = "Pending" ∨ state.status = "Executing"
  · rw [classify_of_working working]
    exact .inr ⟨rfl, .working reports working⟩
  · by_cases signed : state.status = "Signed" ∨ state.status = "Confirmed"
    · cases attached : state.signature with
      | none =>
        rw [classify_of_unattached signed attached]
        exact .inr ⟨rfl, .unattached reports signed attached⟩
      | some components =>
        obtain ⟨r, s⟩ := components
        rw [classify_of_signed signed attached]
        exact .inl ⟨_, rfl, .signed reports signed attached (joins_reconstruct r s)⟩
    · by_cases failed : state.status = "Failed" ∨ state.status = "Rejected"
      · rw [classify_of_failed failed]
        exact .inl ⟨_, rfl, .failed reports failed⟩
      · have strange : state.status ∉ words := by
          simp only [words, List.mem_cons, List.not_mem_nil, or_false]
          tauto
        rw [classify_of_unknown strange]
        exact .inr ⟨rfl, .unknown reports strange⟩

/-- An answer to a GET ends the polling by one of the rules, or leaves it pending by one. -/
theorem decides_or_pends (request : String) (answer : Except String HttpReply) :
    (∃ decided, decision? request (status answer) = some decided ∧
      Decides request answer (decided.bind Material.reconstruct)) ∨
    decision? request (status answer) = none ∧ Pends answer (errorText? (status answer)) := by
  by_cases reported : ∃ state, Reports answer state
  · obtain ⟨state, reports⟩ := reported
    exact decides_or_pends_of_reports request reports
  · cases answer with
    | error reason => exact .inr ⟨rfl, .lost reason⟩
    | ok reply =>
      by_cases succeeds : reply.Succeeds
      · rw [status_of_undecodable succeeds reported]
        exact .inr ⟨rfl, .undecodable succeeds reported⟩
      · rw [status_of_unsuccessful succeeds]
        by_cases refuses : reply.Refuses
        · have permanent := HttpReply.isPermanentStatus_iff.mpr refuses
          exact .inl ⟨_, if_pos permanent, .refused refuses⟩
        · have passing := mt HttpReply.isPermanentStatus_iff.mp refuses
          exact .inr ⟨if_neg passing, .unsuccessful succeeds refuses⟩

section

variable {request : String} {answer : Except String HttpReply}

theorem decided_of_decides {outcome : Except Error Bytes}
    (decides : Decides request answer outcome) :
    ∃ decided, decision? request (status answer) = some decided := by
  cases decides with
  | signed reports word attached joins =>
    rw [status_of_reports reports, classify_of_signed word attached]
    exact ⟨_, rfl⟩
  | failed reports word =>
    rw [status_of_reports reports, classify_of_failed word]
    exact ⟨_, rfl⟩
  | refused refuses =>
    rw [status_of_unsuccessful refuses.not_succeeds]
    exact ⟨_, if_pos (HttpReply.isPermanentStatus_iff.mpr refuses)⟩

theorem pending_of_pends {error : Option String} (pends : Pends answer error) :
    decision? request (status answer) = none := by
  cases pends with
  | working reports word => rw [status_of_reports reports, classify_of_working word]; rfl
  | unattached reports word missing =>
    rw [status_of_reports reports, classify_of_unattached word missing]
    rfl
  | unknown reports strange => rw [status_of_reports reports, classify_of_unknown strange]; rfl
  | undecodable succeeds mute => rw [status_of_undecodable succeeds mute]; rfl
  | unsuccessful fails passes =>
    rw [status_of_unsuccessful fails]
    exact if_neg (mt HttpReply.isPermanentStatus_iff.mp passes)
  | lost reason => rfl

/-- An answer with a signature of two whole components ends a run with these. -/
theorem Decides.eq_of_signed {state : SignatureState} {r s : String} {front back : Bytes}
    {outcome : Except Error Bytes} (decides : Decides request answer outcome)
    (reports : Reports answer state) (word : state.status = "Signed" ∨ state.status = "Confirmed")
    (attached : state.signature = some (r, s)) (first : Half r front) (second : Half s back) :
    outcome = .ok (front ++ back) := by
  cases decides with
  | signed reports' word' attached' joins =>
    cases reports.unique reports'
    cases attached.symm.trans attached'
    exact joins.eq_of_halves first second
  | failed reports' word' =>
    cases reports.unique reports'
    exact (unfailed_of_signed word word').elim
  | refused refuses =>
    obtain ⟨_, _, ⟨⟩, succeeds, -⟩ := reports
    exact (refuses.not_succeeds succeeds).elim

/-- No answer both ends a run and leaves it pending. -/
theorem not_pends_of_decides {outcome : Except Error Bytes} {error : Option String}
    (decides : Decides request answer outcome) : ¬Pends answer error := by
  intro pends
  obtain ⟨decided, known⟩ := decided_of_decides decides
  rw [pending_of_pends pends] at known
  cases known

/-- An answer either ends a run or leaves it pending. -/
theorem decides_iff_not_pends : (∃ outcome, Decides request answer outcome) ↔
    ¬∃ error, Pends answer error := by
  constructor
  · rintro ⟨outcome, decides⟩ ⟨error, pends⟩
    exact not_pends_of_decides decides pends
  · intro none
    rcases decides_or_pends request answer with ⟨decided, -, decides⟩ | ⟨-, pends⟩
    · exact ⟨_, decides⟩
    · exact (none ⟨_, pends⟩).elim

/-- What the client decides by an answer that ends a run is what the rule asks. -/
theorem decision_of_decides (decides : ∃ outcome, Decides request answer outcome) :
    ∃ decided, decision? request (status answer) = some decided ∧
      Decides request answer (decided.bind Material.reconstruct) := by
  obtain ⟨outcome, decides⟩ := decides
  rcases decides_or_pends request answer with decision | ⟨-, pends⟩
  · exact decision
  · exact (not_pends_of_decides decides pends).elim

/-- What the client remembers of a pending answer is what the rule asks. -/
theorem errorText_of_pends (pends : ∃ error, Pends answer error) :
    Pends answer (errorText? (status answer)) := by
  obtain ⟨error, pends⟩ := pends
  rcases decides_or_pends "" answer with ⟨decided, -, decides⟩ | ⟨-, known⟩
  · exact (not_pends_of_decides decides pends).elim
  · exact known

end

end Dfns

end TokenDesk.Signing
