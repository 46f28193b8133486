import Mathlib.Data.Bool.AllAny
import SensorGateway.Proofs.Bytes.Hex

/-!
# What a text of digits says

Identities and frames are typed in, so any text at all may have to be read as bytes. `Reads` is the
rule: what counts are the bytes of the text in UTF-8 once its blanks are gone, and of the three
things that can be wrong with them the first one is named. Decoding follows the rule, and so an
identity is what twelve digits spell, in either case and between any blanks (`text_form`).
-/

namespace SensorGateway

namespace Text

def utf8 (text : List Char) : Bytes :=
  text.flatMap String.utf8EncodeChar

theorem stripBlanks_dropWhile (text : List Char) :
    stripBlanks (text.dropWhile isBlank) = stripBlanks text := by
  induction text with
  | nil => rfl
  | cons c rest ih =>
    by_cases hblank : isBlank c
    · rw [List.dropWhile_cons_of_pos hblank, ih, stripBlanks, stripBlanks,
        List.filter_cons_of_neg (by simp [hblank])]
    · rw [List.dropWhile_cons_of_neg hblank]

/-- The blanks at the ends of a text are blanks like all others. -/
theorem stripBlanks_trim (text : List Char) : stripBlanks (trim text) = stripBlanks text := by
  have hreverse : ∀ other : List Char,
      stripBlanks other.reverse = (stripBlanks other).reverse := fun _ => List.filter_reverse ..
  rw [trim, hreverse, stripBlanks_dropWhile, hreverse, List.reverse_reverse, stripBlanks_dropWhile]

end Text

namespace Hex

open Text (utf8 stripBlanks)

/-- The digits of either case. -/
def asciiDigits : List Char :=
  "0123456789ABCDEFabcdef".toList

/-- What is read of a text without blanks. -/
inductive Reads (text : List Char) : Except Error Bytes → Prop where
  | empty (hnone : text = []) : Reads text (.error .empty)
  | oddLength (hsome : text ≠ []) (hodd : (utf8 text).length % 2 = 1) :
      Reads text (.error (.oddLength (utf8 text).length))
  | badDigit (hsome : text ≠ []) (heven : (utf8 text).length % 2 = 0) (before : Bytes)
      (byte : UInt8) (after : Bytes) (hsplit : utf8 text = before ++ byte :: after)
      (hbefore : ∀ digit ∈ before, digit ∈ utf8 asciiDigits) (hbad : byte ∉ utf8 asciiDigits) :
      Reads text (.error (.badDigit byte before.length))
  | bytes (hsome : text ≠ []) (heven : (utf8 text).length % 2 = 0)
      (hdigits : ∀ digit ∈ utf8 text, digit ∈ utf8 asciiDigits) (bytes : Bytes)
      (hcanonical : encode bytes = String.ofList (text.map Char.toUpper)) : Reads text (.ok bytes)

variable {text : List Char} {result other : Except Error Bytes} {bytes : Bytes} {c : Char}

/-! ### Digits as characters and as bytes -/

/-- A digit of either case says what the upper-case one does. -/
structure SpellsUpper (c : Char) (value : UInt8) : Prop extends Spells c value where
  lt_sixteen : value < 16
  digitChar_eq : digitChar value = c.toUpper

theorem spellsUpper_of_mem (h : c ∈ asciiDigits) : SpellsUpper c ((digitValue? c).getD 0) := by
  have hall : ∀ c ∈ asciiDigits, digitValue? c = some ((digitValue? c).getD 0) ∧
      Text.isBlank c = false ∧ c.utf8Size = 1 ∧ (digitValue? c).getD 0 < 16 ∧
        digitChar ((digitValue? c).getD 0) = c.toUpper :=
    List.all_iff_forall_prop.mp (by decide)
  obtain ⟨hvalue, hblank, hsize, hlt, hupper⟩ := hall c h
  exact ⟨⟨hvalue, hblank, hsize⟩, hlt, hupper⟩

theorem isDigit_iff : isDigit c = true ↔ c ∈ asciiDigits := by
  constructor
  · intro h
    have hsmall : c.toNat < 0x67 := by
      by_contra hlarge
      have hnone : digitValue? c = none := by
        simp only [digitValue?]
        split_ifs <;> simp_all <;> omega
      rw [isDigit, hnone] at h
      cases h
    have hall : ∀ code < 0x67,
        isDigit (Char.ofNat code) = true → Char.ofNat code ∈ asciiDigits := by decide
    have hmem := hall c.toNat hsmall
    rw [Char.ofNat_toNat] at hmem
    exact hmem h
  · intro h
    rw [isDigit, (spellsUpper_of_mem h).digitValue?_eq, Option.isSome_some]

theorem utf8EncodeChar_of_mem (h : c ∈ asciiDigits) :
    String.utf8EncodeChar c = [c.val.toUInt8] :=
  String.utf8EncodeChar_eq_singleton (spellsUpper_of_mem h).utf8Size_eq

theorem utf8_cons (c : Char) (rest : List Char) :
    utf8 (c :: rest) = String.utf8EncodeChar c ++ utf8 rest := rfl

theorem length_utf8_of_forall_mem (h : ∀ c ∈ text, c ∈ asciiDigits) :
    (utf8 text).length = text.length := by
  induction text with
  | nil => rfl
  | cons c rest ih =>
    obtain ⟨hc, hrest⟩ := List.forall_mem_cons.mp h
    rw [utf8_cons, utf8EncodeChar_of_mem hc, List.length_append, ih hrest, List.length_singleton,
      List.length_cons, Nat.add_comm]

theorem mem_utf8_of_forall_mem (h : ∀ c ∈ text, c ∈ asciiDigits) :
    ∀ digit ∈ utf8 text, digit ∈ utf8 asciiDigits := by
  intro digit hdigit
  obtain ⟨c, hc, hbyte⟩ := List.mem_flatMap.mp hdigit
  exact List.mem_flatMap.mpr ⟨c, h c hc, hbyte⟩

theorem leadingByte_of_large (h : ¬ c.toNat ≤ 127) : 192 ≤ (leadingByte c).toNat := by
  have hlt := c.valid
  change ¬ c.val.toNat ≤ 127 at h
  rw [leadingByte, String.utf8EncodeChar]
  split_ifs <;> simp only [List.head?_cons, Option.getD_some, UInt8.toNat_ofNat'] <;> omega

/-- What is no digit does not begin like one either: the byte of a digit stands for nothing else. -/
theorem leadingByte_not_mem (h : c ∉ asciiDigits) : leadingByte c ∉ utf8 asciiDigits := by
  by_cases hsmall : c.toNat ≤ 127
  · have hall : ∀ code ≤ 127, Char.ofNat code ∉ asciiDigits →
        leadingByte (Char.ofNat code) ∉ utf8 asciiDigits := by decide +kernel
    have hcode := hall c.toNat hsmall
    rw [Char.ofNat_toNat] at hcode
    exact hcode h
  · intro hmem
    have hdigits : ∀ byte ∈ utf8 asciiDigits, byte.toNat < 192 :=
      List.all_iff_forall_prop.mp (by decide)
    exact absurd (leadingByte_of_large hsmall) (Nat.not_le.mpr (hdigits _ hmem))

theorem exists_utf8EncodeChar_eq (c : Char) :
    ∃ more, String.utf8EncodeChar c = leadingByte c :: more := by
  cases hbytes : String.utf8EncodeChar c with
  | nil =>
    have hlength := String.length_utf8EncodeChar c
    rw [hbytes] at hlength
    exact absurd hlength (Nat.ne_of_lt c.utf8Size_pos)
  | cons byte more =>
    refine ⟨more, ?_⟩
    rw [leadingByte, hbytes]
    rfl

theorem mem_of_forall_mem_utf8 (h : ∀ digit ∈ utf8 text, digit ∈ utf8 asciiDigits) :
    ∀ c ∈ text, c ∈ asciiDigits := by
  intro c hc
  by_contra hbad
  obtain ⟨more, hmore⟩ := exists_utf8EncodeChar_eq c
  refine leadingByte_not_mem hbad (h _ (List.mem_flatMap.mpr ⟨c, hc, ?_⟩))
  rw [hmore]
  exact List.mem_cons_self

theorem utf8_append (left right : List Char) : utf8 (left ++ right) = utf8 left ++ utf8 right :=
  List.flatMap_append

theorem utf8Length_eq (text : List Char) : utf8Length text = (utf8 text).length := by
  induction text with
  | nil => rfl
  | cons c rest ih =>
    rw [utf8Length, ih, utf8_cons, List.length_append, String.length_utf8EncodeChar]

/-! ### Digits in pairs -/

theorem digits_pair {high low : UInt8} (hhigh : high < 16) (hlow : low < 16) (rest : Bytes) :
    digits ((high * 16 + low) :: rest) = digitChar high :: digitChar low :: digits rest := by
  have hhalves : (high * 16 + low) / 16 = high ∧ (high * 16 + low) % 16 = low := by
    rw [UInt8.lt_iff_toNat_lt] at hhigh hlow
    change high.toNat < 16 at hhigh
    change low.toNat < 16 at hlow
    rw [← UInt8.toNat_inj, ← UInt8.toNat_inj]
    simp
    omega
  rw [digits_cons, hhalves.1, hhalves.2]

/-- Digits of either case are the canonical text of the bytes that they are read as, but for the
case. -/
theorem digits_pairs : ∀ {text : List Char}, (∀ c ∈ text, c ∈ asciiDigits) → text.length % 2 = 0 →
    digits (pairs (text.filterMap digitValue?)) = text.map Char.toUpper
  | [], _, _ => rfl
  | [_], _, heven => absurd heven Nat.one_ne_zero
  | high :: low :: rest, hall, heven => by
    obtain ⟨hmemHigh, hmemLow, hrest⟩ : high ∈ asciiDigits ∧ low ∈ asciiDigits ∧
        ∀ c ∈ rest, c ∈ asciiDigits := by simpa using hall
    have hhigh := spellsUpper_of_mem hmemHigh
    have hlow := spellsUpper_of_mem hmemLow
    have hcut : rest.length % 2 = 0 := by
      rwa [List.length_cons, List.length_cons, Nat.add_assoc, Nat.add_mod_right] at heven
    rw [List.filterMap_cons_some hhigh.digitValue?_eq, List.filterMap_cons_some hlow.digitValue?_eq,
      pairs, digits_pair hhigh.lt_sixteen hlow.lt_sixteen, digits_pairs hrest hcut,
      hhigh.digitChar_eq, hlow.digitChar_eq, List.map_cons, List.map_cons]

theorem length_digits (bytes : Bytes) : (digits bytes).length = 2 * bytes.length := by
  induction bytes with
  | nil => rfl
  | cons byte rest ih =>
    rw [digits_cons, List.length_cons, List.length_cons, ih, List.length_cons]
    omega

theorem length_of_encode_eq (h : encode bytes = String.ofList (text.map Char.toUpper)) :
    text.length = 2 * bytes.length := by
  have hdigits : digits bytes = text.map Char.toUpper := String.ofList_injective h
  rw [← length_digits, hdigits, List.length_map]

theorem exists_encode_eq (hall : ∀ c ∈ text, c ∈ asciiDigits) (heven : text.length % 2 = 0) :
    ∃ bytes, encode bytes = String.ofList (text.map Char.toUpper) :=
  ⟨pairs (text.filterMap digitValue?), by rw [encode, digits_pairs hall heven]⟩

theorem encode_inj {left right : Bytes} (h : encode left = encode right) : left = right := by
  have hdigits : digits left = digits right := String.ofList_injective h
  rw [← pairs_filterMap_digits left, hdigits, pairs_filterMap_digits]

/-! ### The rule and the reader -/

/-- The first byte that is no digit can be told from those before it. -/
theorem split_unique {digits before after before' after' : Bytes} {byte byte' : UInt8}
    (hsplit : before ++ byte :: after = before' ++ byte' :: after')
    (hbefore : ∀ digit ∈ before, digit ∈ digits) (hbefore' : ∀ digit ∈ before', digit ∈ digits)
    (hbad : byte ∉ digits) (hbad' : byte' ∉ digits) : before = before' ∧ byte = byte' := by
  have hcut : ∀ {front tail : Bytes} {first : UInt8}, (∀ digit ∈ front, digit ∈ digits) →
      first ∉ digits → (front ++ first :: tail).takeWhile (· ∈ digits) = front := by
    intro front tail first hfront hfirst
    rw [List.takeWhile_append_of_pos (by simpa using hfront),
      List.takeWhile_cons_of_neg (by simpa using hfirst), List.append_nil]
  have hsame : before = before' := by
    rw [← hcut hbefore hbad, hsplit, hcut hbefore' hbad']
  subst hsame
  exact ⟨rfl, (List.cons.inj (List.append_cancel_left hsplit)).1⟩

theorem mem_utf8_of_split {before after : Bytes} {byte : UInt8}
    (hsplit : utf8 text = before ++ byte :: after) : byte ∈ utf8 text := by
  rw [hsplit]
  exact List.mem_append_right before List.mem_cons_self

theorem Reads.unique (h : Reads text result) (hother : Reads text other) : result = other := by
  cases h with
  | empty hnone =>
    cases hother with
    | empty => rfl
    | _ => contradiction
  | oddLength hsome hodd =>
    cases hother with
    | empty => contradiction
    | oddLength => rfl
    | badDigit _ heven | bytes _ heven => omega
  | badDigit hsome heven before byte after hsplit hbefore hbad =>
    cases hother with
    | empty => contradiction
    | oddLength _ hodd => omega
    | badDigit _ _ before' byte' after' hsplit' hbefore' hbad' =>
      obtain ⟨rfl, rfl⟩ := split_unique (hsplit.symm.trans hsplit') hbefore hbefore' hbad hbad'
      rfl
    | bytes _ _ hdigits => exact absurd (hdigits byte (mem_utf8_of_split hsplit)) hbad
  | bytes hsome heven hdigits bytes hcanonical =>
    cases hother with
    | empty => contradiction
    | oddLength _ hodd => omega
    | badDigit _ _ before byte after hsplit _ hbad =>
      exact absurd (hdigits byte (mem_utf8_of_split hsplit)) hbad
    | bytes _ _ _ bytes' hcanonical' =>
      rw [encode_inj (hcanonical.trans hcanonical'.symm)]

theorem reads_decodeDigits (text : List Char) : Reads text (decodeDigits text) := by
  rw [decodeDigits, utf8Length_eq]
  split_ifs with hnone hodd
  · exact .empty (List.isEmpty_iff.mp hnone)
  · exact .oddLength (mt List.isEmpty_iff.mpr hnone) hodd
  · have hsome : text ≠ [] := mt List.isEmpty_iff.mpr hnone
    have heven : (utf8 text).length % 2 = 0 := (Nat.mod_two_eq_zero_or_one _).resolve_right hodd
    cases hrest : text.dropWhile isDigit with
    | nil =>
      have hall : ∀ c ∈ text, c ∈ asciiDigits := fun c hc =>
        isDigit_iff.mp (List.dropWhile_eq_nil_iff.mp hrest c hc)
      refine .bytes hsome heven (mem_utf8_of_forall_mem hall) _ ?_
      rw [length_utf8_of_forall_mem hall] at heven
      rw [encode, digits_pairs hall heven]
    | cons c rest =>
      have hbefore : ∀ c ∈ text.takeWhile isDigit, c ∈ asciiDigits := fun c hc =>
        isDigit_iff.mp (List.mem_takeWhile_imp hc)
      have hbad : c ∉ asciiDigits := by
        have hhead := List.head?_dropWhile_not isDigit text
        rw [hrest] at hhead
        exact fun hmem => absurd (isDigit_iff.mpr hmem) (Bool.eq_false_iff.mp hhead)
      obtain ⟨more, hmore⟩ := exists_utf8EncodeChar_eq c
      have hsplit : utf8 text =
          utf8 (text.takeWhile isDigit) ++ leadingByte c :: (more ++ utf8 rest) := by
        rw [← List.cons_append, ← hmore, ← utf8_cons, ← utf8_append, ← hrest,
          List.takeWhile_append_dropWhile]
      rw [← length_utf8_of_forall_mem hbefore]
      exact .badDigit hsome heven _ _ _ hsplit (mem_utf8_of_forall_mem hbefore)
        (leadingByte_not_mem hbad)

theorem decode_eq_iff {text : String} {result : Except Error Bytes} :
    decode text = result ↔ Reads (stripBlanks text.toList) result := by
  have hreads := reads_decodeDigits (stripBlanks text.toList)
  constructor
  · rintro rfl
    exact hreads
  · exact hreads.unique

theorem decode_eq_ok_iff {text : String} {bytes : Bytes} :
    decode text = .ok bytes ↔ bytes ≠ [] ∧ (∀ c ∈ stripBlanks text.toList, c ∈ asciiDigits) ∧
      encode bytes = String.ofList ((stripBlanks text.toList).map Char.toUpper) := by
  rw [decode_eq_iff]
  generalize stripBlanks text.toList = stripped
  constructor
  · intro h
    cases h with
    | bytes hsome heven hdigits _ hcanonical =>
      refine ⟨?_, mem_of_forall_mem_utf8 hdigits, hcanonical⟩
      rintro rfl
      exact hsome (List.length_eq_zero_iff.mp (length_of_encode_eq hcanonical))
  · rintro ⟨hbytes, hall, hcanonical⟩
    have hlength := length_of_encode_eq hcanonical
    have hpos := List.length_pos_iff.mpr hbytes
    refine .bytes (List.ne_nil_of_length_pos (by omega)) ?_ (mem_utf8_of_forall_mem hall) bytes
      hcanonical
    rw [length_utf8_of_forall_mem hall, hlength]
    exact Nat.mul_mod_right 2 bytes.length

end Hex

namespace Identity

theorem parse_eq_ok_iff {text : String} {identity : Identity} :
    parse text = .ok identity ↔ Hex.decode text = .ok identity.bytes := by
  rw [parse, Hex.decode, Hex.decodeChars, Hex.decodeChars, Text.stripBlanks_trim]
  cases Hex.decodeDigits (Text.stripBlanks text.toList) with
  | error cause => simp
  | ok bytes => rw [ofBytes_eq_ok_iff, Except.ok.injEq, eq_comm]

theorem exists_parse_eq_ok_iff {text : String} :
    (∃ identity, parse text = .ok identity) ↔ (Text.stripBlanks text.toList).length = 12 ∧
      ∀ c ∈ Text.stripBlanks text.toList, c ∈ Hex.asciiDigits := by
  constructor
  · rintro ⟨identity, hparse⟩
    obtain ⟨_, hall, hcanonical⟩ := Hex.decode_eq_ok_iff.mp (parse_eq_ok_iff.mp hparse)
    refine ⟨?_, hall⟩
    rw [Hex.length_of_encode_eq hcanonical, identity.length_bytes]
  · rintro ⟨hlength, hall⟩
    obtain ⟨bytes, hcanonical⟩ := Hex.exists_encode_eq hall (by rw [hlength])
    have htwelve := Hex.length_of_encode_eq hcanonical
    rw [hlength] at htwelve
    have hsix : bytes.length = 6 := (Nat.eq_of_mul_eq_mul_left Nat.two_pos htwelve).symm
    have hbytes : bytes ≠ [] := List.ne_nil_of_length_pos (by rw [hsix]; decide)
    exact ⟨⟨bytes, hsix⟩,
      parse_eq_ok_iff.mpr (Hex.decode_eq_ok_iff.mpr ⟨hbytes, hall, hcanonical⟩)⟩

/-- **The text form of identities and of bytes.** A text is decoded as the rule says; it spells an
identity if that makes twelve digits, and then its canonical form is the text in upper case. What
has been written is read back. -/
theorem text_form (text : String) :
    (∀ result, Hex.decode text = result ↔ Hex.Reads (Text.stripBlanks text.toList) result) ∧
      ((∃ identity, parse text = .ok identity) ↔
        (Text.stripBlanks text.toList).length = 12 ∧
          ∀ c ∈ Text.stripBlanks text.toList, c ∈ Hex.asciiDigits) ∧
      (∀ identity, parse text = .ok identity →
        identity.toHex = String.ofList ((Text.stripBlanks text.toList).map Char.toUpper)) ∧
      (∀ identity : Identity, parse identity.toHex = .ok identity) ∧
      ∀ bytes, bytes ≠ [] → Hex.decode (Hex.encode bytes) = .ok bytes := by
  refine ⟨fun _ => Hex.decode_eq_iff, exists_parse_eq_ok_iff, ?_, parse_toHex, ?_⟩
  · intro identity hparse
    exact (Hex.decode_eq_ok_iff.mp (parse_eq_ok_iff.mp hparse)).2.2
  · intro bytes hbytes
    rw [Hex.decode, Hex.encode, String.toList_ofList, Hex.decodeChars_digits hbytes]

/-- An identity in lower case, with blanks of three kinds inside and around it. -/
theorem text_form_padded :
    let sensor : Identity := ⟨[0x23, 0x8A, 0x08, 0x26, 0x23, 0x19], rfl⟩
    parse " 238a\u300008 2623\u008519" = .ok sensor ∧ sensor.toHex = "238A08262319" ∧
      Hex.decode sensor.toHex = .ok sensor.bytes := by
  intro sensor
  obtain ⟨_, _, hupper, _, hback⟩ := text_form " 238a\u300008 2623\u008519"
  have hparse : parse " 238a\u300008 2623\u008519" = .ok sensor := by decide +kernel
  exact ⟨hparse, hupper sensor hparse, hback sensor.bytes (by decide)⟩

end Identity

end SensorGateway
