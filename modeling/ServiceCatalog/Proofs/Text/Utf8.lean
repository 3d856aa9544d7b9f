import Mathlib.Tactic.SplitIfs
import ServiceCatalog.Text.Utf8

/-!
# Texts are read back from their octets

What is written for a text is read as that text and nothing else (`decode?_encode`), so different
texts have different octets (`encode_injective`).  And nothing but what is written for a text is
read as one (`decode?_eq_some`): there are no other octets for a character.

Reading goes octet by octet.  The first octet of a character says how many follow and how the next
one is bounded (`lead_two`, `lead_three`, `lead_four`), and each octet that follows adds six bits
(`segmentsFrom_last`, `segmentsFrom_further`).
-/

namespace ServiceCatalog.Text

set_option autoImplicit false

/-! ## Single steps of reading -/

/-- A number below 256 is the octet that it is written as. -/
theorem toNat_toUInt8 {code : Nat} (small : code < 256) : code.toUInt8.toNat = code := by
  simp only [Nat.toUInt8, UInt8.toNat_ofNat']
  omega

variable {octets : List UInt8} {code bits low high further : Nat}

/-- An octet that is a character of its own. -/
theorem segmentsFrom_single (small : code < 0x80) :
    segmentsFrom none (code.toUInt8 :: octets) =
      some (Char.ofNat code) :: segmentsFrom none octets := by
  rw [segmentsFrom, advance, beginAt, toNat_toUInt8 (by omega), lead, if_pos small]
  rfl

/-- An octet that begins a character. -/
theorem segmentsFrom_lead (small : code < 256)
    (leads : lead code = .multiple bits low high further) :
    segmentsFrom none (code.toUInt8 :: octets) =
      segmentsFrom (some ⟨bits, low, high, further⟩) octets := by
  rw [segmentsFrom, advance, beginAt, toNat_toUInt8 small, leads]
  rfl

/-- The last octet of a character. -/
theorem segmentsFrom_last (above : low ≤ 0x80 + code) (below : 0x80 + code ≤ high)
    (small : code < 0x40) :
    segmentsFrom (some ⟨bits, low, high, 0⟩) ((0x80 + code).toUInt8 :: octets) =
      some (Char.ofNat (bits * 0x40 + code)) :: segmentsFrom none octets := by
  rw [segmentsFrom, advance, toNat_toUInt8 (by omega), if_pos ⟨above, below⟩,
    Nat.add_sub_cancel_left]
  rfl

/-- An octet within a character. -/
theorem segmentsFrom_further (above : low ≤ 0x80 + code) (below : 0x80 + code ≤ high)
    (small : code < 0x40) :
    segmentsFrom (some ⟨bits, low, high, further + 1⟩) ((0x80 + code).toUInt8 :: octets) =
      segmentsFrom (some ⟨bits * 0x40 + code, 0x80, 0xBF, further⟩) octets := by
  rw [segmentsFrom, advance, toNat_toUInt8 (by omega), if_pos ⟨above, below⟩,
    Nat.add_sub_cancel_left]
  rfl

/-! ## First octets -/

/-- The first octet of two. -/
theorem lead_two (above : 0x80 ≤ code) (below : code < 0x800) :
    lead (0xC0 + code / 0x40) = .multiple (code / 0x40) 0x80 0xBF 0 := by
  rw [lead, if_neg (by omega), if_neg (by omega), if_pos (by omega), Nat.add_sub_cancel_left]

/-- The first octet of three, with bounds that hold of the second. -/
theorem lead_three (above : 0x800 ≤ code) (below : code < 0x10000)
    (scalar : code < 0xD800 ∨ 0xDFFF < code) :
    ∃ low high, lead (0xE0 + code / 0x1000) = .multiple (code / 0x1000) low high 1 ∧
      low ≤ 0x80 + code / 0x40 % 0x40 ∧ 0x80 + code / 0x40 % 0x40 ≤ high := by
  rw [lead, if_neg (by omega), if_neg (by omega), if_neg (by omega)]
  split_ifs with first surrogates general
  · refine ⟨0xA0, 0xBF, ?_, by omega, by omega⟩
    rw [show code / 0x1000 = 0 by omega]
  · refine ⟨0x80, 0x9F, ?_, by omega, by omega⟩
    rw [show code / 0x1000 = 0xD by omega]
  · refine ⟨0x80, 0xBF, ?_, by omega, by omega⟩
    rw [Nat.add_sub_cancel_left]
  all_goals omega

/-- The first octet of four, with bounds that hold of the second. -/
theorem lead_four (above : 0x10000 ≤ code) (below : code < 0x110000) :
    ∃ low high, lead (0xF0 + code / 0x40000) = .multiple (code / 0x40000) low high 2 ∧
      low ≤ 0x80 + code / 0x1000 % 0x40 ∧ 0x80 + code / 0x1000 % 0x40 ≤ high := by
  rw [lead, if_neg (by omega), if_neg (by omega), if_neg (by omega), if_neg (by omega),
    if_neg (by omega), if_neg (by omega)]
  split_ifs with first general last
  · refine ⟨0x90, 0xBF, ?_, by omega, by omega⟩
    rw [show code / 0x40000 = 0 by omega]
  · refine ⟨0x80, 0xBF, ?_, by omega, by omega⟩
    rw [Nat.add_sub_cancel_left]
  · refine ⟨0x80, 0x8F, ?_, by omega, by omega⟩
    rw [show code / 0x40000 = 4 by omega]
  all_goals omega

/-! ## Reading back -/

/-- The code of a character is in the range of codes and no surrogate. -/
theorem scalar_of_char (character : Char) :
    character.toNat < 0xD800 ∨ 0xDFFF < character.toNat ∧ character.toNat < 0x110000 :=
  character.valid

/-- **A character is read back**, whatever follows it. -/
theorem segmentsFrom_encodeChar (character : Char) (octets : List UInt8) :
    segmentsFrom none (encodeChar character ++ octets) =
      some character :: segmentsFrom none octets := by
  have scalar := scalar_of_char character
  rw [encodeChar]
  split_ifs with one two three
  · rw [List.singleton_append, segmentsFrom_single one, Char.ofNat_toNat]
  · simp only [List.cons_append, List.nil_append]
    rw [segmentsFrom_lead (by omega) (lead_two (by omega) two),
      segmentsFrom_last (by omega) (by omega) (by omega), Nat.div_add_mod', Char.ofNat_toNat]
  · obtain ⟨low, high, leads, above, below⟩ := lead_three (by omega) three (by omega)
    simp only [List.cons_append, List.nil_append]
    rw [segmentsFrom_lead (by omega) leads, segmentsFrom_further above below (by omega),
      segmentsFrom_last (by omega) (by omega) (by omega),
      show (character.toNat / 0x1000 * 0x40 + character.toNat / 0x40 % 0x40) * 0x40 +
        character.toNat % 0x40 = character.toNat by omega, Char.ofNat_toNat]
  · have beyond : 0x10000 ≤ character.toNat := by omega
    obtain ⟨low, high, leads, above, below⟩ := lead_four beyond (by omega)
    simp only [List.cons_append, List.nil_append]
    rw [segmentsFrom_lead (by omega) leads, segmentsFrom_further above below (by omega),
      segmentsFrom_further (by omega) (by omega) (by omega),
      segmentsFrom_last (by omega) (by omega) (by omega),
      show ((character.toNat / 0x40000 * 0x40 + character.toNat / 0x1000 % 0x40) * 0x40 +
        character.toNat / 0x40 % 0x40) * 0x40 + character.toNat % 0x40 = character.toNat by omega,
      Char.ofNat_toNat]

/-- A text is read without a fault. -/
theorem segments_encode (characters : List Char) :
    segments (encode characters) = characters.map some := by
  induction characters with
  | nil => rfl
  | cons character rest ih =>
      have step := segmentsFrom_encodeChar character (encode rest)
      rw [List.map_cons, ← ih]
      exact step

/-- **A text is read back from its octets.** -/
theorem decode?_encode (characters : List Char) :
    decode? (encode characters) = some characters := by
  rw [decode?, segments_encode]
  induction characters with
  | nil => rfl
  | cons character rest ih => simp [ih]

/-- **Different texts have different octets.** -/
theorem encode_injective : Function.Injective encode := by
  intro first second same
  have read := decode?_encode first
  rw [same, decode?_encode] at read
  exact (Option.some.inj read).symm

/-! ## Only what is written is read -/

theorem encode_cons (character : Char) (characters : List Char) :
    encode (character :: characters) = encodeChar character ++ encode characters := rfl

/-- The octets of a character that is known by its code. -/
theorem encodeChar_ofNat {code : Nat} (valid : code < 0xD800 ∨ 0xDFFF < code ∧ code < 0x110000) :
    encodeChar (Char.ofNat code) =
      if code < 0x80 then [code.toUInt8]
      else if code < 0x800 then [(0xC0 + code / 0x40).toUInt8, (0x80 + code % 0x40).toUInt8]
      else if code < 0x10000 then
        [(0xE0 + code / 0x1000).toUInt8, (0x80 + code / 0x40 % 0x40).toUInt8,
          (0x80 + code % 0x40).toUInt8]
      else
        [(0xF0 + code / 0x40000).toUInt8, (0x80 + code / 0x1000 % 0x40).toUInt8,
          (0x80 + code / 0x40 % 0x40).toUInt8, (0x80 + code % 0x40).toUInt8] := by
  have same : (Char.ofNat code).toNat = code := by
    rw [Char.ofNat, dif_pos valid]
    rfl
  simp only [encodeChar, same]

/-- An octet is written as its number is. -/
theorem toUInt8_eq (octet : UInt8) {code : Nat} (same : code = octet.toNat) :
    code.toUInt8 = octet := by
  subst same
  exact UInt8.ofNat_toNat

section Octets

variable {first second third fourth : UInt8}

theorem encodeChar_one (small : first.toNat < 0x80) :
    encodeChar (Char.ofNat first.toNat) = [first] := by
  rw [encodeChar_ofNat (.inl (by omega)), if_pos small, toUInt8_eq first rfl]

theorem encodeChar_two (begins : first.toNat = 0xC0 + bits) (above : 2 ≤ bits) (below : bits < 0x20)
    (secondAbove : 0x80 ≤ second.toNat) (secondBelow : second.toNat ≤ 0xBF) :
    encodeChar (Char.ofNat (bits * 0x40 + (second.toNat - 0x80))) = [first, second] := by
  rw [encodeChar_ofNat (.inl (by omega)), if_neg (by omega), if_pos (by omega),
    toUInt8_eq first (by omega), toUInt8_eq second (by omega)]

theorem encodeChar_three (begins : first.toNat = 0xE0 + bits) (small : bits < 0x10)
    (secondAbove : 0x80 ≤ second.toNat) (secondBelow : second.toNat ≤ 0xBF)
    (long : bits = 0 → 0xA0 ≤ second.toNat) (scalar : bits = 0xD → second.toNat ≤ 0x9F)
    (thirdAbove : 0x80 ≤ third.toNat) (thirdBelow : third.toNat ≤ 0xBF) :
    encodeChar (Char.ofNat
        ((bits * 0x40 + (second.toNat - 0x80)) * 0x40 + (third.toNat - 0x80))) =
      [first, second, third] := by
  rw [encodeChar_ofNat (by omega), if_neg (by omega), if_neg (by omega), if_pos (by omega),
    toUInt8_eq first (by omega), toUInt8_eq second (by omega),
    toUInt8_eq third (by omega)]

theorem encodeChar_four (begins : first.toNat = 0xF0 + bits) (small : bits < 5)
    (secondAbove : 0x80 ≤ second.toNat) (secondBelow : second.toNat ≤ 0xBF)
    (long : bits = 0 → 0x90 ≤ second.toNat) (last : bits = 4 → second.toNat ≤ 0x8F)
    (thirdAbove : 0x80 ≤ third.toNat) (thirdBelow : third.toNat ≤ 0xBF)
    (fourthAbove : 0x80 ≤ fourth.toNat) (fourthBelow : fourth.toNat ≤ 0xBF) :
    encodeChar (Char.ofNat (((bits * 0x40 + (second.toNat - 0x80)) * 0x40 +
        (third.toNat - 0x80)) * 0x40 + (fourth.toNat - 0x80))) =
      [first, second, third, fourth] := by
  rw [encodeChar_ofNat (by omega), if_neg (by omega), if_neg (by omega), if_neg (by omega),
    toUInt8_eq first (by omega), toUInt8_eq second (by omega),
    toUInt8_eq third (by omega), toUInt8_eq fourth (by omega)]

end Octets

variable {characters : List Char}

/-- A character that is begun is continued, unless there is a fault. -/
theorem exists_of_segmentsFrom_some {begun : Begun}
    (read : segmentsFrom (some begun) octets = characters.map some) :
    ∃ octet rest, octets = octet :: rest ∧ begun.low ≤ octet.toNat ∧ octet.toNat ≤ begun.high ∧
      match begun.further with
      | 0 => ∃ others, characters =
          Char.ofNat (begun.bits * 0x40 + (octet.toNat - 0x80)) :: others ∧
            segmentsFrom none rest = others.map some
      | further + 1 =>
          segmentsFrom (some ⟨begun.bits * 0x40 + (octet.toNat - 0x80), 0x80, 0xBF, further⟩) rest =
            characters.map some := by
  cases octets with
  | nil => cases characters <;> cases read
  | cons octet rest =>
      refine ⟨octet, rest, rfl, ?_⟩
      rw [segmentsFrom, advance] at read
      split_ifs at read with within
      · refine ⟨within.1, within.2, ?_⟩
        cases more : begun.further with
        | zero =>
            simp only [more] at read
            obtain ⟨_, others, rfl, same, readOthers⟩ := List.map_eq_cons_iff.mp read.symm
            exact ⟨others, congrArg (· :: others) (Option.some.inj same), readOthers.symm⟩
        | succ further => simpa only [more, List.nil_append] using read
      · cases characters <;> cases read

/-- An octet that is a character of its own is below all others. -/
theorem of_lead_single {octet code : Nat} (leads : lead octet = .single code) :
    code = octet ∧ octet < 0x80 := by
  unfold lead at leads
  split_ifs at leads
  cases leads
  omega

/-- The octets that begin a character: with one, two or three further ones. -/
theorem of_lead_multiple {octet bits low high further : Nat}
    (leads : lead octet = .multiple bits low high further) :
    (further = 0 ∧ octet = 0xC0 + bits ∧ 2 ≤ bits ∧ bits < 0x20 ∧ low = 0x80 ∧ high = 0xBF) ∨
      (further = 1 ∧ octet = 0xE0 + bits ∧ bits < 0x10 ∧ 0x80 ≤ low ∧ high ≤ 0xBF ∧
        (bits = 0 → low = 0xA0) ∧ (bits = 0xD → high = 0x9F)) ∨
      (further = 2 ∧ octet = 0xF0 + bits ∧ bits < 5 ∧ 0x80 ≤ low ∧ high ≤ 0xBF ∧
        (bits = 0 → low = 0x90) ∧ (bits = 4 → high = 0x8F)) := by
  unfold lead at leads
  split_ifs at leads <;> simp only [Lead.multiple.injEq] at leads <;> omega

/-- **Only the octets of a text are read as that text.** -/
theorem eq_encode_of_segmentsFrom (octets : List UInt8) (characters : List Char)
    (read : segmentsFrom none octets = characters.map some) : octets = encode characters := by
  match octets with
  | [] =>
      cases characters with
      | nil => rfl
      | cons character others => cases read
  | octet :: rest =>
      rw [segmentsFrom, advance, beginAt] at read
      cases leads : lead octet.toNat with
      | fault => cases characters <;> simp [leads] at read
      | single code =>
          obtain ⟨rfl, small⟩ := of_lead_single leads
          simp only [leads] at read
          obtain ⟨_, others, rfl, same, readOthers⟩ := List.map_eq_cons_iff.mp read.symm
          cases same
          rw [eq_encode_of_segmentsFrom rest others readOthers.symm, encode_cons,
            encodeChar_one small]
          rfl
      | multiple bits low high further =>
          simp only [leads, List.nil_append] at read
          obtain ⟨second, behind, rfl, above, below, more⟩ := exists_of_segmentsFrom_some read
          dsimp only at above below
          rcases of_lead_multiple leads with ⟨rfl, first, two⟩ | ⟨rfl, first, three⟩ | ⟨rfl, first, four⟩
          · obtain ⟨others, rfl, readOthers⟩ := more
            rw [eq_encode_of_segmentsFrom behind others readOthers, encode_cons,
              encodeChar_two first (by omega) (by omega) (by omega) (by omega)]
            rfl
          · obtain ⟨third, behind, rfl, _, _, others, rfl, readOthers⟩ :=
              exists_of_segmentsFrom_some more
            rw [eq_encode_of_segmentsFrom behind others readOthers, encode_cons,
              encodeChar_three first (by omega) (by omega) (by omega) (by omega) (by omega)
                (by omega) (by omega)]
            rfl
          · obtain ⟨third, behind, rfl, _, _, more⟩ := exists_of_segmentsFrom_some more
            obtain ⟨fourth, behind, rfl, _, _, others, rfl, readOthers⟩ :=
              exists_of_segmentsFrom_some more
            rw [eq_encode_of_segmentsFrom behind others readOthers, encode_cons,
              encodeChar_four first (by omega) (by omega) (by omega) (by omega) (by omega)
                (by omega) (by omega) (by omega) (by omega)]
            rfl
  termination_by octets.length

/-- Segments without a fault are characters. -/
theorem mapM_id_eq_some {segments : List (Option Char)} :
    segments.mapM id = some characters ↔ segments = characters.map some := by
  induction segments generalizing characters with
  | nil => cases characters <;> simp
  | cons segment segments ih =>
      cases segment with
      | none => cases characters <;> simp
      | some character =>
          cases characters with
          | nil => simp [Option.bind_eq_some_iff]
          | cons other characters =>
              simpa [Option.bind_eq_some_iff, ih] using and_comm

/-- **Octets are read as the text that they are written for, and only as that.** -/
theorem decode?_eq_some : decode? octets = some characters ↔ octets = encode characters := by
  constructor
  · intro read
    exact eq_encode_of_segmentsFrom octets characters (mapM_id_eq_some.mp read)
  · rintro rfl
    exact decode?_encode characters

/-- The lenient reading of a text is that text. -/
theorem decodeLossy_encode (characters : List Char) :
    decodeLossy (encode characters) = characters := by
  rw [decodeLossy, segments_encode, List.map_map]
  exact List.map_id characters

end ServiceCatalog.Text
