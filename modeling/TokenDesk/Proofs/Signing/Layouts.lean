import TokenDesk.Proofs.Except
import TokenDesk.Proofs.Text.Hex
import TokenDesk.Signing.Local
import TokenDesk.Signing.Material

/-!
The layouts of a signature.

A key at hand gives a signature as 64 bytes, two numbers one after the other. A provider gives the
two numbers as hexadecimal texts, which may be shorter than 32 bytes, or the whole signature as one
text. All of them come to the same bytes (`LocalKey.sign_layouts`), whatever the case of the letters
and with or without a mark of the base. Checking these bytes takes the two numbers apart again
and tries both parities, so what recovers the key from a signature and one of the parities is found.
-/

namespace TokenDesk.Signing

/-- A text writes bytes: two digits for each in either case, behind a mark of the base or without
one. -/
def Writes (text : String) (bytes : Bytes) : Prop :=
  ∃ digits : List Char, digits.map Char.toLower = Text.hexOfBytes bytes ∧
    (text.toList = digits ∨ text.toList = '0' :: 'x' :: digits)

/-- Bytes without some of the zeros in front of them. -/
def Shortens (bytes short : Bytes) : Prop := ∃ count, bytes = List.replicate count 0 ++ short

namespace Material

/-! ## Reading the texts of a provider -/

/-- The digits of a text: what stands behind all marks of the base. -/
def digits (text : String) : List Char := Text.dropHexMark (Text.dropHexMarks text.toList)

theorem readBytes_eq_ok_iff {text : String} {bytes : Bytes} :
    readBytes text = .ok bytes ↔ Text.bytesOfDigits (digits text) = some bytes := by
  rw [← Text.readHexDigits_eq_ok_iff]
  exact mapError_eq_ok_iff

/-- No mark of the base is made of digits. -/
theorem dropHexMarks_of_digits {text : List Char} {bytes : Bytes}
    (read : Text.bytesOfDigits text = some bytes) :
    Text.dropHexMarks text = text ∧ Text.dropHexMark text = text := by
  constructor
  · unfold Text.dropHexMarks
    split
    · obtain ⟨h, l, b, others, -, mark, -⟩ := Text.of_bytesOfDigits_cons read
      cases mark
    · rfl
  · unfold Text.dropHexMark
    split
    · obtain ⟨h, l, b, others, -, mark, -⟩ := Text.of_bytesOfDigits_cons read
      cases mark
    · obtain ⟨h, l, b, others, -, mark, -⟩ := Text.of_bytesOfDigits_cons read
      cases mark
    · rfl

theorem digits_of_writes {text : String} {bytes : Bytes} (writes : Writes text bytes) :
    Text.bytesOfDigits (digits text) = some bytes := by
  obtain ⟨written, lower, plain | marked⟩ := writes
  · have read := Text.bytesOfDigits_eq_some_iff.mpr lower
    obtain ⟨marks, mark⟩ := dropHexMarks_of_digits read
    rw [digits, plain, marks, mark, read]
  · have read := Text.bytesOfDigits_eq_some_iff.mpr lower
    obtain ⟨marks, mark⟩ := dropHexMarks_of_digits read
    rw [digits, marked, Text.dropHexMarks, marks, mark, read]

/-- A component is what its text writes, padded to its size. -/
theorem component_eq_ok_iff {text : String} {half : Bytes} :
    component text = .ok half ↔ ∃ short, Text.bytesOfDigits (digits text) = some short ∧
      short.length ≤ componentSize ∧ half = Bytes.padLeft componentSize short := by
  constructor
  · intro read
    obtain ⟨short, digits, done⟩ := of_bind_ok read
    refine ⟨short, readBytes_eq_ok_iff.mp digits, ?_⟩
    split at done
    · cases done
    · rename_i fits
      cases done
      exact ⟨Nat.le_of_not_lt fits, rfl⟩
  · rintro ⟨short, digits, fits, rfl⟩
    rw [component, readBytes_eq_ok_iff.mpr digits]
    change (if componentSize < short.length then _ else _) = _
    rw [if_neg (Nat.not_lt_of_le fits)]
    rfl

theorem padLeft_of_shortens {bytes short : Bytes} (shortens : Shortens bytes short) :
    short.length ≤ bytes.length ∧ Bytes.padLeft bytes.length short = bytes := by
  obtain ⟨count, rfl⟩ := shortens
  rw [Bytes.padLeft, List.length_append, List.length_replicate, Nat.add_sub_cancel]
  exact ⟨Nat.le_add_left _ _, rfl⟩

/-- However many zeros in front of it a component's text leaves out, they come back. -/
theorem component_of_writes {text : String} {short half : Bytes} (writes : Writes text short)
    (shortens : Shortens half short) (size : half.length = componentSize) :
    component text = .ok half := by
  obtain ⟨fits, padded⟩ := padLeft_of_shortens shortens
  rw [size] at fits padded
  exact component_eq_ok_iff.mpr ⟨short, digits_of_writes writes, fits, padded.symm⟩

/-- A component has its size, and the number that its text writes. -/
theorem value_of_component {text : String} {half : Bytes} (read : component text = .ok half) :
    half.length = componentSize ∧ Text.hexNumber? (digits text) = some (Bytes.toNat half) := by
  obtain ⟨short, digits, fits, rfl⟩ := component_eq_ok_iff.mp read
  refine ⟨Bytes.length_padLeft fits, ?_⟩
  rw [Bytes.padLeft, Bytes.toNat_zeros]
  exact Text.hexNumber?_of_bytesOfDigits digits

/-! ## Reconstruction -/

theorem reconstruct_components_eq_ok_iff {r s : String} {bytes : Bytes} :
    (components r s).reconstruct = .ok bytes ↔
      ∃ front back, component r = .ok front ∧ component s = .ok back ∧ bytes = front ++ back := by
  constructor
  · intro done
    obtain ⟨front, first, done⟩ := of_bind_ok done
    obtain ⟨back, second, done⟩ := of_bind_ok done
    cases done
    exact ⟨front, back, first, second, rfl⟩
  · rintro ⟨front, back, first, second, rfl⟩
    rw [reconstruct, first]
    change (component s).bind _ = _
    rw [second]
    rfl

/-- Reconstructed components are 64 bytes, and the halves are the numbers that the texts write. -/
theorem values_of_reconstruct {r s : String} {bytes : Bytes}
    (done : (components r s).reconstruct = .ok bytes) :
    bytes.length = 64 ∧ Text.hexNumber? (digits r) = some (Bytes.toNat (bytes.take 32)) ∧
      Text.hexNumber? (digits s) = some (Bytes.toNat (bytes.drop 32)) := by
  obtain ⟨front, back, first, second, rfl⟩ := reconstruct_components_eq_ok_iff.mp done
  obtain ⟨size, value⟩ : front.length = 32 ∧ _ := value_of_component first
  obtain ⟨size', value'⟩ : back.length = 32 ∧ _ := value_of_component second
  rw [List.take_left' size, List.drop_left' size, List.length_append, size, size']
  exact ⟨rfl, value, value'⟩

/-- Any two texts that write the halves of 64 bytes, or what is left of them without zeros in front,
reconstruct the bytes. -/
theorem reconstruct_components_of_writes {r s : String} {bytes front back : Bytes}
    (size : bytes.length = 64) (first : Shortens (bytes.take 32) front)
    (second : Shortens (bytes.drop 32) back) (writes : Writes r front) (writes' : Writes s back) :
    (components r s).reconstruct = .ok bytes := by
  have front32 : (bytes.take 32).length = componentSize := by
    rw [List.length_take, size]
    rfl
  have back32 : (bytes.drop 32).length = componentSize := by
    rw [List.length_drop, size]
    rfl
  exact reconstruct_components_eq_ok_iff.mpr ⟨_, _, component_of_writes writes first front32,
    component_of_writes writes' second back32, (List.take_append_drop 32 bytes).symm⟩

theorem reconstruct_whole_of_writes {text : String} {bytes : Bytes} (writes : Writes text bytes)
    (some_byte : bytes ≠ []) : (whole text).reconstruct = .ok bytes := by
  have read := readBytes_eq_ok_iff.mpr (digits_of_writes writes)
  have occupied : ¬ bytes.isEmpty = true := fun empty => some_byte (List.isEmpty_iff.mp empty)
  rw [reconstruct, read]
  change (if bytes.isEmpty then _ else _) = _
  rw [if_neg occupied]
  rfl

end Material

/-! ## Signatures of a key at hand -/

/-- Both numbers of a signature are below the order of the group. -/
theorem lt_order_of_sign {secret : Nat} {hash : Bytes} {signature : Curve.Signature}
    (signed : Curve.sign secret hash = some signature) :
    signature.r < Curve.order ∧ signature.s < Curve.order := by
  have some_number : 0 < Curve.order := by decide
  simp only [Curve.sign, bind, Option.bind_eq_some_iff] at signed
  obtain ⟨nonce, -, point, -, made⟩ := signed
  split at made
  · cases made
  · cases made
    refine ⟨Nat.mod_lt _ some_number, ?_⟩
    dsimp only
    split
    · omega
    · exact Nat.mod_lt _ some_number

namespace LocalKey

theorem halves_signatureBytes {signature : Curve.Signature} (r : signature.r < Curve.order)
    (s : signature.s < Curve.order) :
    (signatureBytes signature).length = 64 ∧
      Bytes.toNat ((signatureBytes signature).take 32) = signature.r ∧
      Bytes.toNat ((signatureBytes signature).drop 32) = signature.s := by
  have fits : Curve.order ≤ Bytes.span 32 := by decide
  have first : (Bytes.ofNat 32 signature.r).length = 32 := Bytes.length_ofNat 32 _
  rw [signatureBytes, List.take_left' first, List.drop_left' first, Bytes.toNat_ofNat,
    Bytes.toNat_ofNat, Nat.mod_eq_of_lt (Nat.lt_of_lt_of_le r fits),
    Nat.mod_eq_of_lt (Nat.lt_of_lt_of_le s fits), List.length_append, first, Bytes.length_ofNat]
  exact ⟨rfl, rfl, rfl⟩

/-- What a key gives for a payload is a signature of its hash, each number in 32 bytes. -/
theorem of_sign {key : LocalKey} {payload bytes : Bytes} (signed : key.sign payload = .ok bytes) :
    ∃ signature, Curve.sign key.secret (Keccak.hash payload) = some signature ∧
      bytes.length = 64 ∧ Bytes.toNat (bytes.take 32) = signature.r ∧
      Bytes.toNat (bytes.drop 32) = signature.s := by
  unfold sign at signed
  split at signed
  · cases signed
  · cases made : Curve.sign key.secret (Keccak.hash payload) with
    | none =>
      rw [made] at signed
      cases signed
    | some signature =>
      rw [made] at signed
      obtain ⟨r, s⟩ := lt_order_of_sign made
      rw [← Except.ok.inj signed]
      exact ⟨signature, rfl, halves_signatureBytes r s⟩

/-- The signature of a payload and one of the parities give the address of the key back. -/
def Recoverable (key : LocalKey) (payload : Bytes) : Prop :=
  ∀ signature, Curve.sign key.secret (Keccak.hash payload) = some signature →
    ∃ odd point, Curve.recover (Keccak.hash payload) signature odd = some point ∧
      Curve.address point = key.address

theorem verify_of_recoverable {key : LocalKey} {payload bytes : Bytes}
    (signed : key.sign payload = .ok bytes) (recoverable : key.Recoverable payload) :
    verify payload bytes key.address = .ok true := by
  obtain ⟨signature, made, size, front, back⟩ := of_sign signed
  obtain ⟨odd, point, recovered, same⟩ := recoverable signature made
  have found : recovers (Keccak.hash payload) signature key.address = true := by
    refine List.any_eq_true.mpr ⟨odd, ?_, ?_⟩
    · cases odd <;> decide
    · rw [recovered, Option.elim_some, same, decide_eq_true_eq]
  rw [verify, if_neg (not_not_intro size), front, back]
  exact congrArg Except.ok found

/-- What holds of the signature that a key gives for a payload. -/
structure Agrees (key : LocalKey) (payload bytes : Bytes) : Prop where
  size : bytes.length = 64
  /-- The halves are the two numbers of the signature. -/
  halves : ∃ signature, Curve.sign key.secret (Keccak.hash payload) = some signature ∧
    Bytes.toNat (bytes.take 32) = signature.r ∧ Bytes.toNat (bytes.drop 32) = signature.s
  /-- Texts of both numbers, with zeros in front left out or not, give the bytes back. -/
  components : ∀ {r s front back}, Shortens (bytes.take 32) front →
    Shortens (bytes.drop 32) back → Writes r front → Writes s back →
    (Material.components r s).reconstruct = .ok bytes
  /-- So does a text of the whole signature. -/
  whole : ∀ {text}, Writes text bytes → (Material.whole text).reconstruct = .ok bytes
  verifies : key.Recoverable payload → verify payload bytes key.address = .ok true

/-- **Agreement of the layouts.** A signature that a key gives comes back from every way in which a
provider may write it, and it is the key's. Any components that are read at all make 64 bytes, whose
halves are the numbers that the two texts write. -/
theorem sign_agrees :
    (∀ {key : LocalKey} {payload bytes}, key.sign payload = .ok bytes →
      Agrees key payload bytes) ∧
    ∀ {r s bytes}, (Material.components r s).reconstruct = .ok bytes →
      bytes.length = 64 ∧
        Text.hexNumber? (Material.digits r) = some (Bytes.toNat (bytes.take 32)) ∧
        Text.hexNumber? (Material.digits s) = some (Bytes.toNat (bytes.drop 32)) := by
  refine ⟨?_, Material.values_of_reconstruct⟩
  intro key payload bytes signed
  obtain ⟨signature, made, size, front, back⟩ := of_sign signed
  have some_byte : bytes ≠ [] := by
    rintro rfl
    cases size
  exact ⟨size, ⟨signature, made, front, back⟩, Material.reconstruct_components_of_writes size,
    fun writes => Material.reconstruct_whole_of_writes writes some_byte,
    verify_of_recoverable signed⟩

/-- A signature whose second number needs 31 bytes only. -/
def shortSignature : Curve.Signature :=
  ⟨0xa0e0370147e241afdc25f95a3c81e25ea25678b38b5b67bc9d52c8ed03e559e4,
    0x00b53e192bd41000fb59c953c1d51c4181cc705381bae5db51a62a0c3ec86eb7⟩

/-- The texts of both numbers, in letters of either case and without the zeros in front, give the
bytes back that the key of the generator makes of a payload, and the bytes are its signature. -/
theorem sign_agrees_shortSignature :
    let key : LocalKey := ⟨1⟩
    let payload : Bytes := [47]
    let bytes := signatureBytes shortSignature
    key.sign payload = .ok bytes ∧ key.Recoverable payload ∧
      (Material.components
        "0xA0e0370147e241aFdc25f95a3c81e25ea25678b38b5b67bc9d52c8Ed03e559e4"
        "B53E192BD41000FB59C953C1D51C4181CC705381BAE5DB51A62A0C3EC86EB7").reconstruct = .ok bytes ∧
      verify payload bytes key.address = .ok true := by
  intro key payload bytes
  have hash : Keccak.hash payload = [251, 169, 113, 94, 71, 126, 104, 149, 45, 63, 29, 247, 161,
      133, 179, 112, 138, 173, 173, 80, 236, 16, 204, 121, 57, 115, 134, 64, 35, 134, 133, 39] := by
    decide +kernel
  have made : Curve.sign key.secret (Keccak.hash payload) = some shortSignature := by
    rw [hash]
    decide +kernel
  have signed : key.sign payload = .ok bytes := by
    rw [sign, made]
    rfl
  have recoverable : key.Recoverable payload := by
    intro signature other
    rw [made] at other
    rw [← Option.some.inj other, hash]
    have point : Curve.publicPoint key.secret = some Curve.generator := by decide +kernel
    refine ⟨true, Curve.generator, by decide +kernel, ?_⟩
    rw [address, point, Option.elim_some]
  have agrees := sign_agrees.1 signed
  have front : Shortens (bytes.take 32) (bytes.take 32) := ⟨0, rfl⟩
  have back : Shortens (bytes.drop 32) (bytes.drop 33) := ⟨1, by decide⟩
  exact ⟨signed, recoverable, agrees.components front back ⟨_, by decide, Or.inr rfl⟩
    ⟨_, by decide, Or.inl rfl⟩, agrees.verifies recoverable⟩

end LocalKey

end TokenDesk.Signing
