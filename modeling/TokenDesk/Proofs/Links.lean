import Mathlib.Data.Bool.AllAny
import TokenDesk.Explorer
import TokenDesk.Proofs.Text.WrittenIds
import TokenDesk.Proofs.Url.Paths

/-!
Links append to the address of a site.

The link to a transaction is made by reading paths that have been read before: the path of the site
gets a slash at its end (`Explorer.ofBase_eq`), and the path to the transaction is followed from
there. Both are made of settled segments, so no segment of the site is lost and nothing is encoded
twice. What comes out is the address of the site with its path gone on (`Url.Continues`), and its
last segment tells the transactions of a site apart (`Explorer.links_append`).
-/

namespace TokenDesk

/-! ## The path to a transaction -/

namespace TransactionId

/-- The path form of an id holds digits, points and dashes only. -/
theorem mem_pathSegment {id : TransactionId} {c : Char} (member : c ∈ id.pathSegment) :
    Text.isDigit c = true ∨ c = '.' ∨ c = '-' := by
  unfold pathSegment at member
  simp only [List.mem_append, List.mem_cons] at member
  rcases member with (payer | dash | seconds) | dash | nanos
  · by_contra other
    simp only [not_or, Bool.not_eq_true] at other
    exact EntityId.not_mem_text other.1 other.2.1 id.payer payer
  · exact .inr (.inr dash)
  · unfold Text.intNumeral at seconds
    split at seconds
    · rcases List.mem_cons.mp seconds with minus | digit
      · exact .inr (.inr minus)
      · exact .inl (Text.isDigit_of_mem_numeral digit)
    · exact .inl (Text.isDigit_of_mem_numeral seconds)
  · exact .inr (.inr dash)
  · exact .inl (Text.isDigit_of_mem_paddedNumeral nanos)

end TransactionId

namespace Url

theorem plain_of_isDigit {c : Char} (digit : Text.isDigit c = true) : IsPlain pathMarks c := by
  have code := Text.isDigit_iff.mp digit
  constructor
  · simp only [isControl, Bool.or_eq_false_iff, decide_eq_false_iff_not]
    omega
  · intro mark
    have others : ∀ mark ∈ pathMarks.toList, Text.isDigit mark = false :=
      List.all_iff_forall_prop.mp (by decide)
    exact Text.ne_of_isDigit digit (others c mark) rfl

theorem isSlash_of_isDigit {special : Bool} {c : Char} (digit : Text.isDigit c = true) :
    isSlash special c = false := by
  have slash : c ≠ '/' := Text.ne_of_isDigit digit (by decide)
  have backslash : c ≠ '\\' := Text.ne_of_isDigit digit (by decide)
  rw [isSlash, decide_eq_false slash, decide_eq_false backslash, Bool.and_false]
  rfl

/-! ## The place where a path goes on -/

/-- The segments of a path, without an empty one at the end. -/
def openSegments (parts : List (List Char)) : List (List Char) :=
  if parts.getLast? = some [] then parts.dropLast else parts

theorem segmentText_append (parts more : List (List Char)) :
    segmentText (parts ++ more) = segmentText parts ++ segmentText more :=
  List.flatMap_append

/-- A path ends in a slash exactly if its last segment is empty. -/
theorem getLast?_segmentText {parts : List (List Char)}
    (slashless : ∀ s ∈ parts, ∀ c ∈ s, c ≠ '/') :
    (segmentText parts).getLast? = some '/' ↔ parts.getLast? = some [] := by
  induction parts using List.reverseRecOn with
  | nil => exact iff_of_false nofun nofun
  | append_singleton front s _ =>
    have ended : segmentText [s] = '/' :: s := List.append_nil _
    rw [segmentText_append, ended, List.getLast?_append_of_ne_nil _ (List.cons_ne_nil _ _),
      List.getLast?_concat, Option.some.injEq]
    cases s with
    | nil => exact iff_of_true rfl rfl
    | cons c s =>
      rw [List.getLast?_cons_cons]
      refine iff_of_false (fun slash => ?_) (List.cons_ne_nil c s)
      have inside : '/' ∈ c :: s := List.mem_of_getLast? slash
      exact slashless _ (List.mem_append_right _ (List.mem_singleton_self _)) '/' inside rfl

theorem Normal.slashless {u : Url} (normal : u.Normal) {parts : List (List Char)}
    (path : u.path = .segments parts) : ∀ s ∈ parts, ∀ c ∈ s, c ≠ '/' := by
  rintro s member c inside rfl
  cases (normal.settled parts path s member).slashless '/' inside

/-- With a slash at its end, unless there is one, a path is that of its open segments and an empty
one. -/
theorem segmentText_openSegments {parts : List (List Char)}
    (slashless : ∀ s ∈ parts, ∀ c ∈ s, c ≠ '/') :
    segmentText (openSegments parts ++ [[]]) = segmentText parts ++
      if (segmentText parts).getLast? = some '/' then [] else ['/'] := by
  unfold openSegments
  split
  · rename_i last
    rw [if_pos ((getLast?_segmentText slashless).mpr last), List.append_nil,
      List.dropLast_append_getLast? _ last]
  · rename_i last
    rw [if_neg (mt (getLast?_segmentText slashless).mp last), segmentText_append]
    rfl

/-- An address that goes on where the path of a base ends. -/
structure Continues (base : Url) (further : List Char) (url : Url) : Prop where
  scheme : url.scheme = base.scheme
  user : url.user = base.user
  password : url.password = base.password
  host : url.host = base.host
  port : url.port = base.port
  query : url.query = none
  fragment : url.fragment = none
  path : url.path.text =
    base.path.text ++ (if base.path.text.getLast? = some '/' then [] else ['/']) ++ further
  /-- The base keeps all its segments, but for an empty one at the end. -/
  segments : ∃ parts more, base.path = .segments parts ∧
    url.path = .segments (openSegments parts ++ more)

/-- Such an address has the text of the base up to the path, and the longer path behind it. -/
theorem Continues.text_eq {base url : Url} {further host : List Char}
    (continues : Continues base further url) (named : base.host = some host) :
    url.text = base.scheme ++ ':' :: base.authorityText ++ (base.path.text ++
      (if base.path.text.getLast? = some '/' then [] else ['/']) ++ further) := by
  have authority : url.authorityText = base.authorityText := by
    unfold authorityText userText
    rw [continues.host, named, continues.user, continues.password, continues.port]
  unfold text
  rw [continues.scheme, authority, continues.path, continues.query, continues.fragment]
  simp only [markedText, Option.elim_none, List.append_nil, List.cons_append, List.append_assoc]

end Url

/-! ## Links -/

namespace Explorer

open Url

/-- A transaction's segment is settled: its dashes keep it from being a dot segment. -/
theorem settled_pathSegment (special : Bool) (id : TransactionId) :
    Settled special id.pathSegment := by
  have dash : '-' ∈ plainDots id.pathSegment := by
    refine mem_plainDots ?_ (by decide)
    rw [TransactionId.pathSegment]
    exact List.mem_append_left _ (List.mem_append_right _ List.mem_cons_self)
  refine ⟨fun c member => ?_, fun c member => ?_, fun dot => ?_, fun dots => ?_⟩
  · rcases TransactionId.mem_pathSegment member with digit | rfl | rfl
    · exact plain_of_isDigit digit
    · exact ⟨by decide, by decide⟩
    · exact ⟨by decide, by decide⟩
  · rcases TransactionId.mem_pathSegment member with digit | rfl | rfl
    · exact isSlash_of_isDigit digit
    · exact Bool.and_false special
    · exact Bool.and_false special
  · rw [dot] at dash
    exact absurd dash (by decide)
  · rw [dots] at dash
    exact absurd dash (by decide)

/-- A given text is settled if all its characters pass. -/
theorem settled_of_all {special : Bool} {segment : List Char}
    (plain : segment.all fun c => IsPlain pathMarks c)
    (slashless : segment.all fun c => isSlash special c = false)
    (not_dots : plainDots segment ≠ ['.'] ∧ plainDots segment ≠ ['.', '.']) :
    Settled special segment :=
  ⟨List.all_iff_forall_prop.mp plain, List.all_iff_forall_prop.mp slashless, not_dots.1, not_dots.2⟩

theorem settled_networkName (special : Bool) (network : Network) :
    Settled special network.name.toList := by
  cases network <;> cases special <;> exact settled_of_all (by decide) (by decide) (by decide)

theorem settled_collection (special : Bool) : Settled special "transactionsById".toList := by
  cases special <;> exact settled_of_all (by decide) (by decide) (by decide)

/-- The last two segments of the path to a transaction. -/
def transactionSegments (id : TransactionId) : List (List Char) :=
  ["transactionsById".toList, id.pathSegment]

theorem settled_transactionSegments (special : Bool) (id : TransactionId) :
    ∀ s ∈ transactionSegments id, Settled special s := by
  intro s member
  simp only [transactionSegments, List.mem_cons, List.not_mem_nil, or_false] at member
  rcases member with rfl | rfl
  · exact settled_collection special
  · exact settled_pathSegment special id

theorem transactionPath_eq (network : Network) (id : TransactionId) :
    transactionPath network id =
      network.name.toList ++ segmentText (transactionSegments id) := by
  have front : "/transactionsById/".toList = '/' :: "transactionsById".toList ++ ['/'] := by decide
  rw [transactionPath, front]
  simp [segmentText, transactionSegments]

variable {base : Url} {parts : List (List Char)}

/-- The address of a site, ready to go on: an empty segment ends its path. -/
theorem ofBase_eq (normal : base.Normal) (path : base.path = .segments parts) (network : Network) :
    (ofBase base network).base = { base with path := .segments (openSegments parts ++ [[]]) } := by
  have slashless := normal.slashless path
  have text : base.path.text = segmentText parts := by
    rw [path]
    rfl
  have slashed := segmentText_openSegments slashless
  unfold ofBase
  dsimp only
  rw [text]
  split at slashed
  · rename_i ended
    have last := (getLast?_segmentText slashless).mp ended
    rw [if_pos ended, openSegments, if_pos last, List.dropLast_append_getLast? _ last, ← path]
  · rename_i unended
    have open_all : openSegments parts = parts :=
      if_neg (mt (getLast?_segmentText slashless).mpr unended)
    rw [if_neg unended, ← slashed, open_all]
    refine withPath_of_settled path (List.append_ne_nil_of_right_ne_nil _ (List.cons_ne_nil _ _)) ?_
    intro s member
    rcases List.mem_append.mp member with inside | ended
    · exact normal.settled parts path s inside
    · cases List.mem_singleton.mp ended
      exact settled_nil _

/-- The link to a transaction has the segments of the site and three more. -/
theorem transactionUrl_eq (normal : base.Normal) (path : base.path = .segments parts)
    (network : Network) (id : TransactionId) :
    (ofBase base network).transactionUrl id =
      .ok { base with
        path := .segments (openSegments parts ++ network.name.toList :: transactionSegments id)
        query := none
        fragment := none } := by
  have site : (ofBase base network).network = network := rfl
  rw [transactionUrl, site, transactionPath_eq, ofBase_eq normal path,
    follow_of_settled rfl (settled_networkName _ network) (settled_transactionSegments _ id)]
  dsimp only
  rw [List.dropLast_concat]

theorem continues_of_path (normal : base.Normal) (path : base.path = .segments parts)
    (network : Network) (id : TransactionId) :
    Continues base (transactionPath network id) { base with
      path := .segments (openSegments parts ++ network.name.toList :: transactionSegments id)
      query := none
      fragment := none } := by
  have slashless := normal.slashless path
  refine ⟨rfl, rfl, rfl, rfl, rfl, rfl, rfl, ?_, parts, _, path, rfl⟩
  have text : base.path.text = segmentText parts := by
    rw [path]
    rfl
  rw [text, ← segmentText_openSegments slashless, transactionPath_eq]
  change segmentText (openSegments parts ++ network.name.toList :: transactionSegments id) = _
  rw [segmentText_append, segmentText_append]
  simp [segmentText]

/-- **Links append to the base.** For every address of the web, every transaction has a link, which
is the address with its path gone on and nothing else changed but for a query and a fragment that
are left out. Two transactions never have links of the same text. -/
theorem links_append {text : List Char} {base : Url} (written : Url.read text = .ok base)
    (web : base.scheme = "http".toList ∨ base.scheme = "https".toList) (network : Network) :
    (∀ id, ∃ url, (ofBase base network).transactionUrl id = .ok url ∧
      Continues base (transactionPath network id) url) ∧
    Function.Injective fun id => ((ofBase base network).transactionUrl id).map Url.text := by
  have normal := normal_of_read written
  have special : isSpecial base.scheme = true := by
    rcases web with scheme | scheme
    · rw [scheme]
      decide
    · rw [scheme]
      decide
  obtain ⟨parts, path⟩ := normal.segments special
  obtain ⟨host, named⟩ := normal.host special
  have linked := fun id => transactionUrl_eq normal path network id
  have continues := fun id => continues_of_path normal path network id
  refine ⟨fun id => ⟨_, linked id, continues id⟩, fun id id' same => ?_⟩
  dsimp only at same
  rw [linked id, linked id'] at same
  have texts := Except.ok.inj same
  rw [(continues id).text_eq named, (continues id').text_eq named] at texts
  have paths := List.append_cancel_left (List.append_cancel_left texts)
  exact TransactionId.pathSegment_injective (List.append_cancel_left paths)

/-- A site with a user, a port, a path without a slash at its end, a query and a fragment. The dash
of negative seconds follows the one in front of them. -/
theorem links_append_userAndQuery :
    let id : TransactionId := ⟨⟨0, 0, 2⟩, -5, 42⟩
    ∃ base url, Url.read "https://user:pw@Explorer.example.com:8443/a/../hedera?q=1#f".toList =
        .ok base ∧
      (ofBase base .testnet).transactionUrl id = .ok url ∧
      url.toString = "https://user:pw@explorer.example.com:8443/hedera/testnet/transactionsById/" ++
        "0.0.2--5-000000042" := by
  intro id
  let base : Url := ⟨"https".toList, "user".toList, "pw".toList,
    some "explorer.example.com".toList, some 8443, .segments ["hedera".toList], some "q=1".toList,
    some "f".toList⟩
  have written : Url.read
      "https://user:pw@Explorer.example.com:8443/a/../hedera?q=1#f".toList = .ok base := by
    decide +kernel
  obtain ⟨url, linked, continues⟩ := (links_append written (.inr rfl) .testnet).1 id
  refine ⟨base, url, written, linked, ?_⟩
  have named : base.host = some "explorer.example.com".toList := rfl
  rw [Url.toString, continues.text_eq named]
  decide +kernel

end Explorer

end TokenDesk
