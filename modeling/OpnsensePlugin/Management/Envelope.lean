import OpnsensePlugin.Management.Backups
import OpnsensePlugin.Paths.Segments

/-!
# Envelopes

What `create` writes is read back by `_load`, and it is not too large to be read.
-/

namespace OpnsensePlugin

open Python

namespace Backups

variable [Runtime] {readFloat : Str → PyFloat} {depth : Nat} {library : Library} {metadata : Metadata}
  {key nonce payload closed : Bytes} {text associated : Str}

/-! ## Reading -/

theorem reads_str : Reads readFloat depth (Json.str text).dumps (.str text) :=
  @Scalar.reads readFloat depth (.text text) trivial

theorem reads_int {value : Int} (fits : (natText value.natAbs).length ≤ maxStrDigits) :
    Reads readFloat depth (Json.int value).dumps (.int value) :=
  @Scalar.reads readFloat depth (.number value) fits

/-- The names of an object are in order. -/
def InOrder (names : List Str) : Prop :=
  (names.Pairwise fun a b => strLe a b = true) ∧ names.Nodup

omit [Runtime] in
theorem metadata_inOrder : InOrder (metadata.members.map Prod.fst) := by
  have names : InOrder ["date", "format", "host", "id", "sha256", "size", "source"] := by
    constructor <;> decide
  exact names

omit [Runtime] in
theorem envelope_inOrder : InOrder ["ciphertext", "metadata", "nonce", "version"] := by
  constructor <;> decide

theorem Metadata.reads (fits : (natText metadata.size).length ≤ maxStrDigits) :
    Reads readFloat (depth + 1) metadata.json.dumps metadata.json := by
  refine Reads.sortedObject metadata_inOrder.1 metadata_inOrder.2 ?_
  have number : Reads readFloat depth (Json.int metadata.size).dumps (.int metadata.size) :=
    reads_int fits
  simp only [List.forall_mem_cons]
  exact ⟨reads_str, reads_str, reads_str, reads_str, reads_str, number, reads_str, nofun⟩

theorem loads_envelope (fits : (natText metadata.size).length ≤ maxStrDigits) :
    loads readFloat (depth + 2) (envelope metadata.json nonce closed).dumps =
      .ok (envelope metadata.json nonce closed) := by
  have one : (natText (1 : Int).natAbs).length ≤ maxStrDigits := by decide
  refine loads_sorted envelope_inOrder.1 envelope_inOrder.2 ?_
  simp only [List.forall_mem_cons]
  exact ⟨reads_str, metadata.reads fits, reads_str, reads_int one, nofun⟩

omit [Runtime] in
theorem same_str : (Json.str text).same (.str text) = true := by
  simp [Json.same, Json.ordered, Json.agrees]

omit [Runtime] in
theorem same_int {value : Int} : (Json.int value).same (.int value) = true := by
  simp [Json.same, Json.ordered, Json.agrees, Json.sameNumber, Json.number]

/-- The file of a copy is read. -/
theorem parseEnvelope_envelope (fits : (natText metadata.size).length ≤ maxStrDigits)
    (nonce_length : nonce.length = 12)
    (small : byteLength (envelope metadata.json nonce closed).dumps ≤ maxEnvelope) :
    parseEnvelope library metadata.id (envelope metadata.json nonce closed).dumps =
      .ok (metadata.json, nonce, closed) := by
  have whole : member (envelope metadata.json nonce closed) "metadata" = .ok metadata.json := rfl
  have version : member (envelope metadata.json nonce closed) "version" = .ok (.int 1) := rfl
  have first : member (envelope metadata.json nonce closed) "nonce" =
      .ok (.str (Base64.encode nonce)) := rfl
  have second : member (envelope metadata.json nonce closed) "ciphertext" =
      .ok (.str (Base64.encode closed)) := rfl
  have ident : member metadata.json "id" = .ok (.str metadata.id) := rfl
  have fits_size : ¬ maxEnvelope < byteLength (envelope metadata.json nonce closed).dumps :=
    Nat.not_lt.mpr small
  simp only [parseEnvelope, if_neg fits_size, loads_envelope fits, whole, version, ident, first, second,
    decoded, Base64.decode_encode, same_str, same_int, nonce_length, bind, Except.bind, pure, Except.pure]
  rfl

/-- What was encrypted is what is returned. -/
theorem openEnvelope_encrypt (key_length : key.length = 32) (nonce_length : nonce.length = 12)
    (authenticated : canonical metadata.json = .ok associated) (size : metadata.size = payload.length)
    (digest : metadata.sha256 = payloadDigest payload) (valid : checkXml library payload = .ok ()) :
    openEnvelope library key metadata.json nonce
        (library.cipher.encrypt key nonce payload associated) = .ok payload := by
  have opened := @library.cipher.decrypt_encrypt key nonce payload associated key_length nonce_length
  have stored : member metadata.json "size" = .ok (.int payload.length) := by
    rw [← size]
    rfl
  have summed : member metadata.json "sha256" = .ok (.str (payloadDigest payload)) := by
    rw [← digest]
    rfl
  simp only [openEnvelope, authenticated, opened, stored, summed, same_int, same_str, valid, bind,
    Except.bind, pure, Except.pure]
  rfl

/-! ## Sizes -/

omit [Runtime] in
theorem length_padded {width n : Nat} : (padded width n).length = width := by
  induction width generalizing n with
  | zero => rfl
  | succ width ih => rw [padded, List.length_append, ih, List.length_singleton]

omit [Runtime] in
theorem length_isoformat_le {clock : Clock} : clock.isoformat.length ≤ 32 := by
  have offset : ("+00:00" : Str).length = 6 := by decide
  simp only [Clock.isoformat, List.length_append, length_padded, List.length_singleton, offset]
  split
  · exact Nat.le_add_left 25 7
  · rw [List.length_cons, length_padded]

omit [Runtime] in
theorem length_payloadDigest {bytes : Bytes} : (payloadDigest bytes).length = 64 := by
  simp [payloadDigest, Sha256.digest, length_hexDigits]

omit [Runtime] in
theorem length_uuidText_le {value : Nat} : (uuidText value).length ≤ 36 := by
  simp only [uuidText, join, List.length_append, List.length_take, List.length_drop, length_hexDigits]
  exact Nat.le_refl 36

omit [Runtime] in
theorem length_natText_le {n : Nat} (small : n < 10 ^ 8) : (natText n).length ≤ 8 := by
  rw [natText, List.length_map]
  exact (Nat.length_toDigits_le_iff (by decide) (by decide)).mpr small

/-- The metadata that `create` writes -/
structure Metadata.Short (metadata : Metadata) : Prop where
  id : metadata.id.length ≤ 36
  date : metadata.date.length ≤ 32
  host : metadata.host.length ≤ 80
  sha256 : metadata.sha256.length ≤ 64
  size : metadata.size < 10 ^ 8

omit [Runtime] in
theorem Metadata.Short.fits (short : metadata.Short) : (natText metadata.size).length ≤ maxStrDigits := by
  have digits := length_natText_le short.size
  have enough : 8 ≤ maxStrDigits := by decide
  omega

theorem byteLength_str_le : byteLength (Json.str text).dumps ≤ 24 * text.length + 8 :=
  byteLength_quoted_le

theorem Metadata.Short.byteLength_le (short : metadata.Short) : byteLength metadata.json.dumps ≤ 10000 := by
  have date := @byteLength_str_le _ metadata.date
  have format := @byteLength_str_le _ "opnsense-xml"
  have host := @byteLength_str_le _ metadata.host
  have id := @byteLength_str_le _ metadata.id
  have sha256 := @byteLength_str_le _ metadata.sha256
  have source := @byteLength_str_le _ "latest_historical_backup"
  have size : byteLength (Json.int metadata.size).dumps ≤ 32 := by
    have digits := length_natText_le short.size
    have bytes := @Python.byteLength_le (natText metadata.size)
    have same : (Json.int metadata.size).dumps = natText metadata.size := rfl
    rw [same]
    omega
  have formatLength : ("opnsense-xml" : Str).length = 12 := by decide
  have sourceLength : ("latest_historical_backup" : Str).length = 24 := by decide
  have names : byteLength (quoted "date") + byteLength (quoted "format") + byteLength (quoted "host") +
      byteLength (quoted "id") + byteLength (quoted "sha256") + byteLength (quoted "size") +
      byteLength (quoted "source") = 46 := by decide
  have total := byteLength_dumps_obj (@metadata_inOrder metadata).1
  rcases short with ⟨idShort, dateShort, hostShort, shaShort, _⟩
  rw [Metadata.json, Metadata.members]
  simp only [List.map_cons, List.map_nil, List.sum_cons, List.sum_nil] at total
  omega

theorem byteLength_encode {bytes : Bytes} :
    byteLength (Json.str (Base64.encode bytes)).dumps = (bytes.length + 2) / 3 * 4 + 2 := by
  have quotes := byteLength_quoted_plain (Base64.encode_plain bytes)
  rw [Base64.length_encode] at quotes
  exact quotes

/-- An envelope is never too large to be read. -/
theorem byteLength_envelope_le (short : metadata.Short) (nonce_length : nonce.length = 12)
    (closed_length : closed.length ≤ maxXml + 16) :
    byteLength (envelope metadata.json nonce closed).dumps ≤ maxEnvelope := by
  have inner := short.byteLength_le
  have first := @byteLength_encode _ closed
  have second := @byteLength_encode _ nonce
  have version : byteLength (Json.int 1).dumps = 1 := by
    have same : (Json.int 1).dumps = natText 1 := rfl
    rw [same]
    decide
  have names : byteLength (quoted "ciphertext") + byteLength (quoted "metadata") +
      byteLength (quoted "nonce") + byteLength (quoted "version") = 38 := by decide
  have total := @byteLength_dumps_obj _ ("ciphertext", .str (Base64.encode closed))
    [("metadata", metadata.json), ("nonce", .str (Base64.encode nonce)), ("version", .int 1)]
    envelope_inOrder.1
  simp only [List.map_cons, List.map_nil, List.sum_cons, List.sum_nil] at total
  rw [envelope, total]
  rw [maxXml] at closed_length
  rw [maxEnvelope]
  omega

end Backups

end OpnsensePlugin
