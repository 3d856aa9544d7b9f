import ServiceCatalog.Proofs.Call.Polling
import ServiceCatalog.Proofs.Json.RoundTrip
import ServiceCatalog.Proofs.Text.Utf8

/-!
# Payloads survive the wire

A response with a JSON body carries the octets of a printed value.  They are never blank, they are
read as the text that was printed, and that text is read as the value (`decodeBody_json`).  So a
call that is answered by such a response gives the value: as its payload, or in its error, as the
status says (`payloads_survive_the_wire`).

A body that is neither blank nor a JSON text (`IsJsonBody`) is the string of its text.
-/

namespace ServiceCatalog

set_option autoImplicit false

open ServiceCatalog.Json

/-! ## Bodies with a JSON text -/

theorem isBlankOctet_eq_false {octet : UInt8} (visible : 0x20 < octet.toNat) :
    isBlankOctet octet = false := by
  simp only [isBlankOctet, Bool.or_eq_false_iff, beq_eq_false_iff_ne, ne_eq, ← UInt8.toNat_inj,
    UInt8.toNat_ofNat]
  omega

/-- The first octet of a character above the space is above it as well. -/
theorem exists_cons_encodeChar {character : Char} (visible : 0x20 < character.toNat) :
    ∃ octet octets, Text.encodeChar character = octet :: octets ∧ 0x20 < octet.toNat := by
  have scalar := Text.scalar_of_char character
  rw [Text.encodeChar]
  split_ifs <;> refine ⟨_, _, rfl, ?_⟩ <;> rw [Text.toNat_toUInt8 (by omega)] <;> omega

/-- What begins with a mark is not blank. -/
theorem not_blank_of_begins {characters : List Char} (begins : Begins characters) :
    (Text.encode characters).all isBlankOctet = false := by
  obtain ⟨first, rest, rfl, visible, -⟩ := begins
  obtain ⟨octet, octets, same, above⟩ := exists_cons_encodeChar visible
  rw [Text.encode_cons, same, List.cons_append, List.all_cons, isBlankOctet_eq_false above,
    Bool.false_and]

/-- **A value is read back from the body it is sent in.** -/
theorem decodeBody_json {value : Value} (distinct : value.NamesDistinct)
    (whole : value.NumbersWhole) (nested : value.NestedWithin deepestNesting) (status : Nat) :
    decodeBody (Response.json status value).body = value := by
  have back := readBack_of_nestedWithin distinct whole nested
  simp [decodeBody, Response.json, not_blank_of_begins back.begins, Text.decode?_encode,
    parseChars?_printed distinct whole nested]

/-! ## Other bodies -/

/-- A body is the octets of a JSON text. -/
def IsJsonBody (body : List UInt8) : Prop :=
  ∃ text value, body = Text.encode text.toList ∧ parse? text = some value

/-- **A body that is neither blank nor a JSON text is the string of its text.** -/
theorem decodeBody_of_not_isJsonBody {body : List UInt8} (marks : body.all isBlankOctet = false)
    (other : ¬ IsJsonBody body) :
    decodeBody body = .string (String.ofList (Text.decodeLossy body)) := by
  have unread : (Text.decode? body).bind parseChars? = none := by
    rw [Option.eq_none_iff_forall_ne_some]
    intro value read
    obtain ⟨characters, text, parsed⟩ := Option.bind_eq_some_iff.mp read
    refine other ⟨String.ofList characters, value, ?_, ?_⟩
    · rw [String.toList_ofList]
      exact Text.decode?_eq_some.mp text
    · rw [parse?, String.toList_ofList]
      exact parsed
  simp [decodeBody, marks, unread]

/-- A text is a JSON body if it writes a value. -/
theorem isJsonBody_encode {text : String} :
    IsJsonBody (Text.encode text.toList) ↔ ∃ value, parse? text = some value := by
  constructor
  · rintro ⟨other, value, same, parsed⟩
    exact ⟨value, String.toList_inj.mp (Text.encode_injective same) ▸ parsed⟩
  · rintro ⟨value, parsed⟩
    exact ⟨text, value, rfl, parsed⟩

/-! ## Calls -/

/-- **Payloads survive the wire.**

A value with whole numbers that is nested no deeper than texts are read is, whatever the status,
the value of the body that a JSON response carries it in.  A waiting call that is answered by this
response gives, in that very poll, the value as its payload if the status is one of success, and
else the error that has the status and the value.

A body that is neither blank nor a JSON text has the string of its text as its value; and if it is
the octets of a text, that text. -/
theorem payloads_survive_the_wire :
    (∀ (value : Value) (status : Nat), value.NamesDistinct → value.NumbersWhole →
      value.NestedWithin deepestNesting →
        decodeBody (Response.json status value).body = value ∧
        ∀ (transport : Transport) (call : PendingCall) (shared : Shared) (flight : Flight),
          call.outcome = .waiting flight →
          transport (flight.position shared).1 (flight.position shared).2 =
            some (.ok (.json status value)) →
          (call.poll transport shared).1 = some
            (if 200 ≤ status ∧ status ≤ 299 then .ok value
              else .error (.httpStatus status (Response.json status value).headers value))) ∧
    (∀ body : List UInt8, body.all isBlankOctet = false → ¬ IsJsonBody body →
      decodeBody body = .string (String.ofList (Text.decodeLossy body))) ∧
    ∀ text : String, (Text.encode text.toList).all isBlankOctet = false → parse? text = none →
      decodeBody (Text.encode text.toList) = .string text := by
  refine ⟨fun value status distinct whole nested => ?_, fun body marks other => ?_,
    fun text marks unread => ?_⟩
  · have decoded := decodeBody_json distinct whole nested status
    refine ⟨decoded, fun transport call shared flight waiting answered => ?_⟩
    rw [PendingCall.poll_answered waiting answered, PendingCall.resultOf, decoded]
    have success : (Response.json status value).isSuccess = true ↔ 200 ≤ status ∧ status ≤ 299 := by
      rw [Response.isSuccess, Bool.and_eq_true, decide_eq_true_iff, decide_eq_true_iff]
      rfl
    simp only [success]
    rfl
  · exact decodeBody_of_not_isJsonBody marks other
  · have other : ¬ IsJsonBody (Text.encode text.toList) := by
      rw [isJsonBody_encode, unread]
      simp
    rw [decodeBody_of_not_isJsonBody marks other, Text.decodeLossy_encode, String.ofList_toList]

/-! ## A payload with all that is escaped -/

/-- The stock of a shop: texts with marks and with signs of several octets, numbers at both ends of
their range, and lists and objects without items. -/
def stockPayload : Value :=
  .object
    [("z\"\\", .array
        [.number (.whole 18446744073709551615 (by decide)),
          .number (.whole (-9223372036854775808) (by decide)),
          .number (.whole (-10) (by decide))]),
      ("\n\x01é😀", .string "/\t\x7f"),
      ("a", .object [("", .array []), ("b", .object []), ("c", .null), ("d", .bool false)])]

/-- A call on its way. -/
def stockCall : PendingCall :=
  .awaiting "showStock"
    ⟨.bare .get "http://items.test/stock", "http://items.test/stock", none, none, none⟩

/-- The stock comes back from a call with status 200, and in the error of one with status 404; a
text that is no JSON comes back as it is. -/
theorem stock_survives_the_wire :
    stockPayload.NamesDistinct ∧ stockPayload.NumbersWhole ∧
      stockPayload.NestedWithin deepestNesting ∧
      (stockCall.poll (fun _ _ => some (.ok (.json 200 stockPayload))) Shared.initial).1 =
        some (.ok stockPayload) ∧
      (stockCall.poll (fun _ _ => some (.ok (.json 404 stockPayload))) Shared.initial).1 =
        some (.error (.httpStatus 404 [("content-type", "application/json")] stockPayload)) ∧
      parse? "\x7b stock" = none ∧
      decodeBody (Text.encode "\x7b stock".toList) = .string "\x7b stock" := by
  obtain ⟨values, -, texts⟩ := payloads_survive_the_wire
  have distinct : stockPayload.NamesDistinct := by
    simp [stockPayload, Value.namesDistinct_object, Value.namesDistinct_array,
      Value.NamesDistinct.number, Value.NamesDistinct.string, Value.NamesDistinct.null,
      Value.NamesDistinct.bool]
  have whole : stockPayload.NumbersWhole := by
    simp [stockPayload, Value.numbersWhole_object, Value.numbersWhole_array,
      Value.NumbersWhole.whole, Value.NumbersWhole.string, Value.NumbersWhole.null,
      Value.NumbersWhole.bool]
  have nested : stockPayload.NestedWithin deepestNesting := by
    simp [stockPayload, deepestNesting, Value.nestedWithin_object, Value.nestedWithin_array,
      Value.NestedWithin.number, Value.NestedWithin.string, Value.NestedWithin.null,
      Value.NestedWithin.bool]
  have unread : parse? "\x7b stock" = none := by decide +kernel
  exact ⟨distinct, whole, nested,
    (values stockPayload 200 distinct whole nested).2 _ stockCall _ _ rfl rfl,
    (values stockPayload 404 distinct whole nested).2 _ stockCall _ _ rfl rfl,
    unread, texts "\x7b stock" (by decide +kernel) unread⟩

end ServiceCatalog
