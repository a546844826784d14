import TokenDesk.Config
import TokenDesk.Proofs.Dispatch.Linkage

/-!
Which failures have a link.

An address leads on to further segments if its path is made of segments (`Url.IsBase`), and for that
its text has to be hierarchical: a scheme of the web, or a slash right after the scheme. A
configuration takes any address for its explorer, `mailto:a@b` as well. So whether the failure of a
submitted transaction has a link depends on the text of that address and on nothing else: not on the
network, the request, the outcome or the transaction (`Config.link_iff_hierarchical`).
-/

namespace TokenDesk

namespace Url

/-! ## Addresses that lead on -/

/-- An address whose path is made of segments. -/
def IsBase (u : Url) : Prop := ∃ parts, u.path = .segments parts

theorem isBase_withPath {u : Url} {text : List Char} : (u.withPath text).IsBase ↔ u.IsBase := by
  unfold withPath
  split
  · rename_i path plain
    refine iff_of_false ?_ ?_
    · rintro ⟨parts, ⟨⟩⟩
    · rintro ⟨parts, segments⟩
      cases plain.symm.trans segments
  · rename_i parts segments
    exact iff_of_true ⟨_, rfl⟩ ⟨parts, segments⟩

theorem isOk_follow (u : Url) (text : List Char) : (u.follow text).isOk = true ↔ u.IsBase := by
  unfold follow
  split
  · rename_i path plain
    refine iff_of_false Bool.false_ne_true ?_
    rintro ⟨parts, segments⟩
    cases plain.symm.trans segments
  · rename_i parts segments
    exact iff_of_true rfl ⟨parts, segments⟩

theorem isBase_of_readAfterSlashes {scheme text : List Char} {u : Url}
    (done : readAfterSlashes scheme text = .ok u) : u.IsBase := by
  obtain ⟨authority, -, done⟩ := of_bind_ok done
  cases done
  exact ⟨_, rfl⟩

theorem isBase_of_readFile {text : List Char} {u : Url} (done : readFile text = .ok u) :
    u.IsBase := by
  unfold readFile at done
  dsimp only at done
  split at done
  · split at done
    · split at done
      · cases done
        exact ⟨_, rfl⟩
      · split at done
        · cases done
          exact ⟨_, rfl⟩
        · obtain ⟨host, -, done⟩ := of_bind_ok done
          cases done
          exact ⟨_, rfl⟩
    · cases done
      exact ⟨_, rfl⟩
  · cases done
    exact ⟨_, rfl⟩

/-- Neither a query nor a fragment begins with a slash. -/
theorem head?_readEnding (special : Bool) (text : List Char) :
    (readEnding special text).1.head? = some '/' ↔ text.head? = some '/' := by
  simp [readEnding, splitBefore, List.head?_takeWhile, Option.filter_eq_some_iff]

theorem isBase_iff_of_readAfterScheme {scheme text : List Char} {u : Url}
    (done : readAfterScheme scheme text = .ok u) :
    u.IsBase ↔ (isSpecial scheme || text.head? = some '/') = true := by
  unfold readAfterScheme at done
  split at done
  · rename_i file
    refine iff_of_true (isBase_of_readFile done) ?_
    rw [isSpecial, file, Bool.or_true, Bool.true_or]
  · split at done
    · rename_i special
      refine iff_of_true (isBase_of_readAfterSlashes done) ?_
      rw [special, Bool.true_or]
    · rename_i special
      rw [eq_false_of_ne_true special, Bool.false_or, decide_eq_true_eq]
      split at done
      · exact iff_of_true (isBase_of_readAfterSlashes done) rfl
      · dsimp only at done
        rw [← head?_readEnding false text]
        cases done
        split
        · rename_i rest begins
          rw [begins]
          exact iff_of_true ⟨_, rfl⟩ rfl
        · rename_i other
          refine iff_of_false ?_ fun slash => ?_
          · rintro ⟨parts, ⟨⟩⟩
          · obtain ⟨rest, begins⟩ := List.head?_eq_some_iff.mp slash
            exact other rest begins

/-- Whether a text has a scheme of the web, or a slash right after its scheme. -/
def isHierarchical (text : List Char) : Bool :=
  match splitScheme (cleaned text) with
  | some (scheme, rest) => isSpecial scheme || rest.head? = some '/'
  | none => false

/-- The address that a text writes leads on exactly if the text is hierarchical. -/
theorem isBase_iff_of_read {text : List Char} {u : Url} (done : read text = .ok u) :
    u.IsBase ↔ isHierarchical text = true := by
  unfold read at done
  unfold isHierarchical
  cases written : splitScheme (cleaned text) with
  | none =>
    rw [written] at done
    cases done
  | some parts =>
    obtain ⟨scheme, rest⟩ := parts
    rw [written] at done
    exact isBase_iff_of_readAfterScheme done

end Url

namespace Explorer

theorem isOk_transactionUrl_ofBase (base : Url) (network : Network) (id : TransactionId) :
    ((ofBase base network).transactionUrl id).isOk = true ↔ base.IsBase := by
  have leads : (ofBase base network).base.IsBase ↔ base.IsBase := by
    unfold ofBase
    dsimp only
    split
    · rfl
    · exact Url.isBase_withPath
  exact (Url.isOk_follow _ _).trans leads

end Explorer

namespace Dispatcher

variable {κ σ τ : Type} {d : Dispatcher} {desk : Desk κ σ τ} {token : Token} {request : Request}
  {id : TransactionId} {t : Timeline} {s : DeskState κ σ τ}

/-! ## Links of failures -/

/-- No result of a call has a link yet. -/
theorem Course.result_unlinked {run : CallReport κ σ τ (Except DispatchError Response)}
    (course : Course d desk token request id t s run) {result : Except DispatchError Response}
    (ended : run.result = some result) :
    ∃ named, (conclude run.submitted result).Names named := by
  cases result with
  | error e => exact ⟨_, conclude_error_names _ e⟩
  | ok response =>
    cases course with
    | unsigned _ failed => cases (failed _ ended).choose_spec
    | unsubmitted _ _ failed => cases (failed _ ended).choose_spec
    | @submitted authorization a _ =>
      have submission := submit_submission desk a.plan ⟨id, a.body id, authorization⟩
        [.sign (a.body id)] (a.signing id).time (a.signedState id)
      generalize submit desk a.plan ⟨id, a.body id, authorization⟩
        [.sign (a.body id)] (a.signing id).time (a.signedState id) = run at submission ended
      cases submission with
      | untaken failed => cases (failed _ ended).choose_spec
      | unsettled _ failed _ => cases (failed _ ended).choose_spec
      | settled _ _ =>
        have answered := of_mapError_ok (Option.some.inj ended)
        exact ⟨_, Settlement.response_names answered⟩

/-- A failure that names a transaction links to it, if the explorer leads there. -/
theorem link_of_execute {failure : Failure} {about : TransactionId}
    (failed : (d.execute desk token request id t s).result = some (.failure failure))
    (named : failure.transaction = some about) :
    failure.link = (d.explorer.transactionUrl about).toOption := by
  obtain ⟨result, ended, linked⟩ := Option.map_eq_some_iff.mp failed
  obtain ⟨transaction, names⟩ := (run_course d desk token request id t s).result_unlinked ended
  obtain ⟨same, link⟩ := (linked_of_names (d := d) names).2 failure (by rw [linked]; rfl)
  rw [link, ← same, named]
  rfl

end Dispatcher

/-! ## Configured explorers -/

namespace Config

open Toml

/-- The text of the explorer's address: the one that the settings give, or the standard one. -/
def explorerText (settings : String) : List Char :=
  match (Toml.read settings.toList).bind (Value.find? "explorer_url") with
  | some (.text characters) => characters
  | _ => Explorer.defaultBase.toList

theorem explorerUrl_of_settings? {document : List (Key × Value)} {s : Settings}
    (read : settings? document = some s) :
    (Parts.named document).optional 3 "explorer_url" url? = some s.explorerUrl := by
  unfold settings? at read
  simp only [bind, Option.bind_eq_some_iff, pure] at read
  obtain ⟨_, -, _, -, _, -, explorerUrl, found, _, -, _, -, made⟩ := read
  cases made
  exact found

theorem settings_of_read {settings credentials : String} {draft : Draft}
    (read : Draft.read settings credentials = .ok draft) :
    ∃ document, Toml.read settings.toList = some document ∧
      settings? document = some draft.settings := by
  unfold Draft.read at read
  dsimp only at read
  split at read
  · rename_i found parsed
    cases read
    simp only [bind, Option.bind_eq_some_iff, pure] at parsed
    obtain ⟨document, written, said, meant, -, -, credentials, -, made⟩ := parsed
    cases made
    exact ⟨document, written, meant⟩
  · cases read

/-- The settings give the address that the text writes, or none if there is no such text. -/
theorem explorerUrl_of_read {settings credentials : String} {draft : Draft}
    (read : Draft.read settings credentials = .ok draft) :
    (∃ base, draft.settings.explorerUrl = some base ∧
      Url.read (explorerText settings) = .ok base) ∨
    (draft.settings.explorerUrl = none ∧ explorerText settings = Explorer.defaultBase.toList) := by
  obtain ⟨document, written, meant⟩ := settings_of_read read
  have given := explorerUrl_of_settings? meant
  unfold explorerText
  rw [written, Option.bind_some]
  simp only [Parts.optional] at given
  split at given
  · rename_i value found
    obtain ⟨base, address, same⟩ := Option.map_eq_some_iff.mp given
    refine Or.inl ⟨base, same.symm, ?_⟩
    obtain ⟨text, written, read⟩ := Option.bind_eq_some_iff.mp address
    cases value with
    | text characters =>
      cases written
      rw [String.toList_ofList] at read
      rw [found]
      exact toOption_eq_some_iff.mp read
    | int | real | bool | moment | array | table => cases written
  · rename_i absent
    refine Or.inr ⟨(Option.some.inj given).symm, ?_⟩
    rw [absent]

/-- The explorer of a configuration is at the address that the text writes. -/
theorem explorer_of_read {settings credentials : String} {file : String → Option Bytes} {c : Config}
    (accepted : Config.read settings credentials file = .ok c) :
    ∃ base network, Url.read (explorerText settings) = .ok base ∧
      c.explorer = .ofBase base network := by
  obtain ⟨draft, drafted, assembled⟩ := of_bind_ok accepted
  obtain ⟨explorer, chosen, assembled⟩ := of_bind_ok assembled
  obtain ⟨signer, -, assembled⟩ := of_bind_ok assembled
  cases assembled
  unfold Draft.explorer at chosen
  rcases explorerUrl_of_read drafted with ⟨base, given, text⟩ | ⟨absent, text⟩
  · rw [given] at chosen
    cases chosen
    exact ⟨base, _, text, rfl⟩
  · rw [absent] at chosen
    obtain ⟨base, standard, made⟩ := of_map_ok (of_mapError_ok chosen)
    exact ⟨base, _, text ▸ standard, made.symm⟩

/-- **Links of submitted failures.** With an accepted configuration, every transaction has a link if
the text of the explorer's address is hierarchical, and no transaction has one else. The failure of
a call that names a transaction carries that link, or none. -/
theorem link_iff_hierarchical {settings credentials : String} {file : String → Option Bytes}
    {c : Config} (accepted : Config.read settings credentials file = .ok c) :
    (∀ id, (c.explorer.transactionUrl id).isOk = Url.isHierarchical (explorerText settings)) ∧
    ∀ {κ σ τ : Type} (desk : Desk κ σ τ) (token : Token) (request : Request) (id : TransactionId)
      (t : Timeline) (s : DeskState κ σ τ) (failure : Failure) (about : TransactionId),
      (c.dispatcher.execute desk token request id t s).result = some (.failure failure) →
      failure.transaction = some about →
      failure.link = (c.explorer.transactionUrl about).toOption ∧
        failure.link.isSome = Url.isHierarchical (explorerText settings) := by
  obtain ⟨base, network, written, located⟩ := explorer_of_read accepted
  have leads : ∀ id, (c.explorer.transactionUrl id).isOk =
      Url.isHierarchical (explorerText settings) := by
    intro id
    rw [located, Bool.eq_iff_iff, Explorer.isOk_transactionUrl_ofBase]
    exact Url.isBase_iff_of_read written
  refine ⟨leads, ?_⟩
  intro κ σ τ desk token request id t s failure about failed named
  have link : failure.link = (c.explorer.transactionUrl about).toOption :=
    Dispatcher.link_of_execute failed named
  exact ⟨link, by rw [← leads about, link, isSome_toOption]⟩

/-- The configuration of a desk with a paired wallet that names no explorer. -/
def standardSettings : String := "network = \"testnet\"\noperator_account = \"0.0.1001\"\n"

/-- The same with a mailbox for its explorer. -/
def mailboxSettings : String := standardSettings ++ "explorer_url = \"mailto:a@b\"\n"

def walletCredentials : String := "[signer]\ntype = \"wallet-session\"\n"

/-- Without an explorer in the settings, the failure of a transaction that settled badly has a
link. -/
theorem link_iff_hierarchical_standard :
    let token : Token := ⟨⟨0, 0, 7⟩, none, ⟨0, 0, 8⟩, 6⟩
    let id : TransactionId := ⟨⟨0, 0, 1001⟩, 1700000000, 5⟩
    let s : DeskState Unit Unit MemoryLedger :=
      ⟨(), (), .ofOutcome (.settlementFailure "TOKEN_IS_PAUSED")⟩
    ∃ c failure, Config.read standardSettings walletCredentials (fun _ => none) = .ok c ∧
      (c.dispatcher.execute Dispatcher.pausingDesk token .pause id (.start none fun _ => true)
        s).result = some (.failure failure) ∧
      failure.transaction = some id ∧ failure.link.isSome = true := by
  intro token id s
  let c : Config := ⟨.info, ⟨0, 0, 1001⟩,
    ⟨⟨"https".toList, [], [], some "hashscan.io".toList, none, .segments [[]], none, none⟩,
      .testnet⟩, defaultMaxFee, .walletSession⟩
  have accepted : Config.read standardSettings walletCredentials (fun _ => none) = .ok c := by
    decide +kernel
  have hierarchical : Url.isHierarchical (explorerText standardSettings) = true := by
    decide +kernel
  have ended : ∃ failure, (c.dispatcher.execute Dispatcher.pausingDesk token .pause id
      (.start none fun _ => true) s).result = some (.failure failure) ∧
      failure.transaction = some id := ⟨_, rfl, rfl⟩
  obtain ⟨failure, failed, named⟩ := ended
  have link := ((link_iff_hierarchical accepted).2 _ _ _ _ _ _ failure id failed named).2
  exact ⟨c, failure, accepted, failed, named, link.trans hierarchical⟩

/-- An accepted configuration can keep every link away. -/
theorem link_missing :
    let token : Token := ⟨⟨0, 0, 7⟩, none, ⟨0, 0, 8⟩, 6⟩
    let id : TransactionId := ⟨⟨0, 0, 1001⟩, 1700000000, 5⟩
    let s : DeskState Unit Unit MemoryLedger :=
      ⟨(), (), .ofOutcome (.settlementFailure "TOKEN_IS_PAUSED")⟩
    ∃ c failure, Config.read mailboxSettings walletCredentials (fun _ => none) = .ok c ∧
      (c.dispatcher.execute Dispatcher.pausingDesk token .pause id (.start none fun _ => true)
        s).result = some (.failure failure) ∧
      failure.transaction = some id ∧ failure.link = none := by
  intro token id s
  let c : Config := ⟨.info, ⟨0, 0, 1001⟩,
    ⟨⟨"mailto".toList, [], [], none, none, .plain "a@b/".toList, none, none⟩, .testnet⟩,
    defaultMaxFee, .walletSession⟩
  have accepted : Config.read mailboxSettings walletCredentials (fun _ => none) = .ok c := by
    decide +kernel
  exact ⟨c, _, accepted, rfl, rfl, rfl⟩

end Config

end TokenDesk
