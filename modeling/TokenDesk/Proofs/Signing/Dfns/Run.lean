import TokenDesk.Proofs.Signing.Dfns.Replies

/-!
Signing over HTTP from end to end.

A `Server` answers the POST and the GETs in any way, one after the other; it writes down what it is
sent. The client with such a server behaves as a provider that answers what the client makes of the
server's answers (`along_request`), so the first decisive answer counts here, too.
`signCustodial_overHttp` tells which requests are sent and how the call ends, in terms of the
answers themselves.
-/

namespace TokenDesk.Signing

variable {σ τ : Type}

/-! ## Providers on other states -/

/-- A provider that answers as another one does, along a map of the states. -/
structure Provider.Along (f : σ → τ) (p : Provider σ) (q : Provider τ) : Prop where
  name : q.name = p.name
  create : ∀ payload s, q.create payload (f s) = ((p.create payload s).1, f (p.create payload s).2)
  status : ∀ request s, q.status request (f s) = ((p.status request s).1, f (p.status request s).2)

namespace Provider.Along

variable {f : σ → τ} {p : Provider σ} {q : Provider τ}

/-- Both go through the same waits and end in the same way. -/
theorem pollFrom_eq (along : p.Along f q) (interval began left : Nat) (poller : Poller)
    (last : Option String) (t : Timeline) (s : σ) :
    pollFrom q interval began left poller last t (f s) =
      (pollFrom p interval began left poller last t s).mapState f := by
  induction left generalizing poller last t s with
  | zero => rfl
  | succ left ih =>
    have paused : t.race (fun s => (Wait.pause interval, s)) (f s) =
        ((t.race (fun s => (Wait.pause interval, s)) s).1,
          f (t.race (fun s => (Wait.pause interval, s)) s).2) :=
      Timeline.race_along (fun _ => rfl) t s
    rw [pollFrom, pollFrom, paused]
    rcases t.race (fun s => (Wait.pause interval, s)) s with ⟨waited, s⟩
    cases waited with
    | endless t => rfl
    | cancelled t => rfl
    | answered _ t =>
      dsimp only
      rw [Timeline.race_along (along.status poller.request) t s]
      rcases t.race (p.status poller.request) s with ⟨waited, s⟩
      cases waited with
      | endless t => rfl
      | cancelled t => rfl
      | answered answer t =>
        dsimp only
        rcases poller.advance (observe answer).1 with ⟨state, next⟩
        cases state with
        | pending remaining => exact ih next (observe answer).2 t s
        | signed material => rfl
        | failed reason => rfl
        | timedOut attempts => rfl

theorem signCustodial_eq (along : p.Along f q) (config : PollConfig) (payload : Bytes)
    (t : Timeline) (s : σ) : signCustodial q config payload t (f s) =
      (signCustodial p config payload t s).mapState f := by
  unfold signCustodial
  split
  · rfl
  · rw [Timeline.race_along (along.create payload) t s]
    rcases t.race (p.create payload) s with ⟨waited, s⟩
    cases waited with
    | endless t => rfl
    | cancelled t => rfl
    | answered created t =>
      cases created with
      | error e =>
        dsimp only
        rw [along.name]
        rfl
      | ok request =>
        dsimp only [poll]
        rw [along.pollFrom_eq]
        rfl

end Provider.Along

namespace Dfns

/-! ## Servers -/

/-- How a server answers: the POST, the GETs one after the other, and how many nanoseconds each
answer takes. Instead of a reply there may be the reason why none came. -/
structure Server where
  creation : Except String HttpReply
  creationDelay : Nat
  answer : Nat → Except String HttpReply
  delay : Nat → Nat

def HttpRequest.isGet (request : HttpRequest) : Bool := request.method = .get

/-- The exchange with a server that answers like this. Its state is what was sent. -/
def Server.exchange (server : Server) (request : HttpRequest) (sent : List HttpRequest) :
    Wait (Except String HttpReply) × List HttpRequest :=
  match request.method with
  | .post => (⟨server.creationDelay, some server.creation, false⟩, sent ++ [request])
  | .get =>
    let n := sent.countP HttpRequest.isGet
    (⟨server.delay n, some (server.answer n), false⟩, sent ++ [request])

/-- What the client hears from a server. -/
def Server.respondent (server : Server) : Respondent where
  name := "dfns"
  creation := Dfns.creation server.creation
  creationDelay := server.creationDelay
  answer n := status (server.answer n)
  delay := server.delay

/-- The request that asks a question. -/
def Context.request (c : Context) : Question → HttpRequest
  | .create payload => c.createRequest payload
  | .status request => c.statusRequest request

theorem countP_request (c : Context) (asked : List Question) :
    (asked.map c.request).countP HttpRequest.isGet = asked.countP Question.isStatus := by
  rw [List.countP_map]
  congr 1
  funext question
  cases question <;> rfl

/-- The client of a server answers as the respondent does, and sends a request for each question. -/
theorem along_request (c : Context) (server : Server) :
    server.respondent.provider.Along (List.map c.request) (provider c server.exchange) where
  name := rfl
  create payload asked := by
    simp only [Respondent.provider, List.map_append]
    rfl
  status request asked := by
    simp only [Respondent.provider, List.map_append, ← countP_request c]
    rfl

/-! ## Requests -/

/-- A POST that asks for the signature of a payload. -/
structure Posts (c : Context) (payload : Bytes) (post : HttpRequest) : Prop where
  method : post.method = .post
  url : post.url = c.signaturesUrl
  credentials : post.bearer = c.authToken ∧ post.appId = c.appId
  /-- The payload is what the digits of the message say. -/
  body : ∃ digits, post.body = some (.object [("kind", .text "Message"),
      ("message", .text ("0x" ++ digits))]) ∧ Text.bytesOfDigits digits.toList = some payload

/-- A GET below the address that was posted to. -/
structure Gets (post : HttpRequest) (id : String) (get : HttpRequest) : Prop where
  method : get.method = .get
  url : get.url = post.url ++ "/" ++ id
  credentials : get.bearer = post.bearer ∧ get.appId = post.appId
  body : get.body = none

theorem posts_createRequest (c : Context) (payload : Bytes) :
    Posts c payload (c.createRequest payload) := by
  refine ⟨rfl, rfl, ⟨rfl, rfl⟩, String.ofList (Text.hexOfBytes payload), ?_, ?_⟩
  · have message : Text.hexString payload = "0x" ++ String.ofList (Text.hexOfBytes payload) := by
      rw [Text.hexString]
      apply String.toList_injective
      simp
    rw [← message]
    rfl
  · rw [String.toList_ofList]
    exact Text.bytesOfDigits_hexOfBytes payload

theorem gets_statusRequest (c : Context) (payload : Bytes) (id : String) :
    Gets (c.createRequest payload) id (c.statusRequest id) := ⟨rfl, rfl, ⟨rfl, rfl⟩, rfl⟩

/-! ## Signing -/

/-- How signing ends with a server. -/
structure OverHttp (c : Context) (server : Server) (config : PollConfig) (payload : Bytes)
    (run : Run (List HttpRequest) (Except Error Bytes)) : Prop where
  /-- One POST, and then no more GETs than are allowed, all of the created signature. -/
  sent : ∃ post gets, run.state = post :: gets ∧ Posts c payload post ∧
    gets.length ≤ config.maxAttempts.toNat ∧
      ∀ get ∈ gets, ∃ id, Names server.creation id ∧ Gets post id get
  /-- Without an id nothing is asked for. -/
  uncreated : (¬∃ id, Names server.creation id) → run.state.length = 1 ∧
    ∃ reason, run.result = some (.error (.provider "dfns" reason))
  /-- An answer either ends a run or leaves it pending. -/
  kinds : ∀ request answer, (∃ outcome, Decides request answer outcome) ↔
    ¬∃ error, Pends answer error
  /-- The first answer that decides ends the run. -/
  decided : ∀ id, Names server.creation id → ∀ n < config.maxAttempts.toNat,
    (∀ i < n, ∃ error, Pends (server.answer i) error) →
    (∃ outcome, Decides id (server.answer n) outcome) →
      run.state.length = n + 2 ∧
        ∃ outcome, Decides id (server.answer n) outcome ∧ run.result = some outcome
  /-- If every attempt is used up, the run is timed out. -/
  exhausted : ∀ id, Names server.creation id →
    (∀ i < config.maxAttempts.toNat, ∃ error, Pends (server.answer i) error) →
      run.state.length = config.maxAttempts.toNat + 1 ∧
        ∃ last, run.result = some (.error (.timedOut id config.maxAttempts.toNat
            (config.maxAttempts.toNat * config.interval +
              ∑ i ∈ Finset.range config.maxAttempts.toNat, server.delay i) last)) ∧
          (config.maxAttempts.toNat = 0 → last = none) ∧
          ∀ n, config.maxAttempts.toNat = n + 1 → Pends (server.answer n) last

section

variable {c : Context} {server : Server} {config : PollConfig} {payload : Bytes} {id : String}
  {t : Timeline}

/-- The requests that are sent for a creation and some status queries. -/
theorem map_request_questions (c : Context) (payload : Bytes) (id : String) (n : Nat) :
    (questions payload id n).map c.request =
      c.createRequest payload :: List.replicate n (c.statusRequest id) := by
  rw [questions, List.map_cons, List.map_replicate]
  rfl

theorem sign_of_uncreated (uncancelled : t.cancelAt = none) (nonempty : payload ≠ [])
    {e : ProviderError} (refused : creation server.creation = .error e) :
    signCustodial (provider c server.exchange) config payload t [] =
      ⟨some (.error (.provider "dfns" e.message)), t.advance (t.now + server.creationDelay),
        [c.createRequest payload]⟩ := by
  have same := (along_request c server).signCustodial_eq config payload t []
  rw [signCustodial_of_created (.of_uncancelled uncancelled _) config nonempty] at same
  have answered : server.respondent.creation = .error e := refused
  rw [answered] at same
  exact same

theorem sign_of_created (uncancelled : t.cancelAt = none) (nonempty : payload ≠ [])
    (created : Names server.creation id) :
    signCustodial (provider c server.exchange) config payload t [] =
      let run := poll server.respondent.provider config id
        (t.advance (t.now + server.creationDelay)) (questions payload id 0)
      ⟨run.result.map fun r => r.bind Material.reconstruct, run.time,
        run.state.map c.request⟩ := by
  have same := (along_request c server).signCustodial_eq config payload t []
  rw [signCustodial_of_created (.of_uncancelled uncancelled _) config nonempty] at same
  have answered : server.respondent.creation = .ok id := creation_eq_ok_iff.mpr created
  rw [answered] at same
  exact same

theorem pending_of_earlier {n : Nat} (earlier : ∀ i < n, ∃ error, Pends (server.answer i) error) :
    ∀ i < n, decision? id (server.respondent.answer i) = none := by
  intro i before
  obtain ⟨error, pends⟩ := earlier i before
  exact pending_of_pends pends

/-- **Signing over HTTP.** Whatever a server answers, a call that is not cancelled posts the payload
once, asks as often as it takes but no more than it may, and ends as the first decisive answer
asks. -/
theorem signCustodial_overHttp (c : Context) (server : Server) (config : PollConfig)
    (payload : Bytes) (now : Nat) (answerFirst : Nat → Bool) (nonempty : payload ≠ []) :
    OverHttp c server config payload (signCustodial (provider c server.exchange) config payload
      ⟨now, none, answerFirst⟩ []) where
  sent := by
    cases heard : creation server.creation with
    | error e =>
      rw [sign_of_uncreated rfl nonempty heard]
      exact ⟨_, [], rfl, posts_createRequest c payload, Nat.zero_le _, nofun⟩
    | ok id =>
      have created := creation_eq_ok_iff.mp heard
      rw [sign_of_created rfl nonempty created]
      dsimp only
      have uncancelled : ((Timeline.mk now none answerFirst).advance
          (now + server.creationDelay)).cancelAt = none := rfl
      obtain ⟨n, allowed, asked⟩ :=
        exists_poll_state server.respondent config payload id uncancelled
      rw [asked, map_request_questions]
      refine ⟨_, _, rfl, posts_createRequest c payload, ?_, ?_⟩
      · rw [List.length_replicate]
        exact allowed
      · intro get member
        rw [(List.mem_replicate.mp member).2]
        exact ⟨id, created, gets_statusRequest c payload id⟩
  uncreated missing := by
    cases heard : creation server.creation with
    | error e =>
      rw [sign_of_uncreated rfl nonempty heard]
      exact ⟨rfl, _, rfl⟩
    | ok id => exact (missing ⟨id, creation_eq_ok_iff.mp heard⟩).elim
  kinds request answer := decides_iff_not_pends
  decided id created n allowed earlier decides := by
    obtain ⟨decided, known, rule⟩ := decision_of_decides decides
    have decisive : decision? id (server.respondent.answer n) = some decided := known
    rw [sign_of_created rfl nonempty created]
    dsimp only
    rw [poll_decided (.of_uncancelled rfl _) allowed (pending_of_earlier earlier) decisive,
      map_request_questions]
    refine ⟨?_, _, rule, rfl⟩
    rw [List.length_cons, List.length_replicate]
  exhausted id created pends := by
    rw [sign_of_created rfl nonempty created]
    dsimp only
    rw [poll_exhausted (.of_uncancelled rfl _) (pending_of_earlier pends), map_request_questions]
    refine ⟨?_, server.respondent.lastError config.maxAttempts.toNat, rfl, ?_, ?_⟩
    · rw [List.length_cons, List.length_replicate]
    · intro none
      rw [none]
      rfl
    · intro n last
      rw [last]
      exact errorText_of_pends (pends n (by omega))

end

/-- A server that is too busy for the first query, then at work, and then hands out the components
of a signature, one of them without its zeros. -/
theorem signCustodial_overHttp_busy :
    let site : Url := ⟨"https".toList, [], [], some "dfns.io".toList, none, .segments [[]], none,
      none⟩
    let c : Context := ⟨site, "ap-1", "secret", "wa-1"⟩
    let body (members : List (String × Json)) : Bytes := Text.utf8 (Json.object members).chars
    let server : Server :=
      ⟨.ok ⟨201, body [("id", .text "sig-1"), ("status", .text "Pending")]⟩, 7, fun
        | 0 => .ok ⟨429, []⟩
        | 1 => .ok ⟨200, body [("status", .text "Executing"), ("attempt", .int 3)]⟩
        | _ => .ok ⟨200, body [("signature", .object [("s", .text "0x02"), ("r", .text "01")]),
          ("status", .text "Signed")]⟩, fun _ => 5⟩
    let run := signCustodial (provider c server.exchange) ⟨5, 1000⟩ [42]
      ⟨0, none, fun _ => false⟩ []
    [42] ≠ ([] : Bytes) ∧ run.state.length = 4 ∧
      run.result = some (.ok (Bytes.padLeft 32 [1] ++ Bytes.padLeft 32 [2])) := by
  intro site c body server run
  have nonempty : [42] ≠ ([] : Bytes) := nofun
  have ends := signCustodial_overHttp c server ⟨5, 1000⟩ [42] 0 (fun _ => false) nonempty
  have pending : Reports server.creation ⟨some "sig-1", "Pending", none, none⟩ :=
    readReply_eq_ok_iff.mp (by decide +kernel)
  have executing : Reports (server.answer 1) ⟨none, "Executing", none, none⟩ :=
    readReply_eq_ok_iff.mp (by decide +kernel)
  have signed : Reports (server.answer 2) ⟨none, "Signed", some ("01", "0x02"), none⟩ :=
    readReply_eq_ok_iff.mp (by decide +kernel)
  have earlier : ∀ i < 2, ∃ error, Pends (server.answer i) error := by
    intro i before
    cases i with
    | zero =>
      exact ⟨_, .unsuccessful (fun succeeds => absurd succeeds.2 (by decide))
        fun refuses => refuses.2.2 rfl⟩
    | succ i =>
      cases i with
      | zero => exact ⟨_, .working executing (.inr rfl)⟩
      | succ i => omega
  have first : Half "01" (Bytes.padLeft 32 [1]) := ⟨[1], by decide, by decide, rfl⟩
  have second : Half "0x02" (Bytes.padLeft 32 [2]) := ⟨[2], by decide, by decide, rfl⟩
  obtain ⟨asked, outcome, decides, ended⟩ := ends.decided "sig-1" ⟨_, pending, rfl⟩ 2 (by decide)
    earlier ⟨_, .signed signed (.inl rfl) rfl (.signature first second)⟩
  rw [decides.eq_of_signed signed (.inl rfl) rfl first second] at ended
  exact ⟨nonempty, asked, ended⟩

end Dfns

end TokenDesk.Signing
