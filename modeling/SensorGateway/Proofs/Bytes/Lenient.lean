import SensorGateway.Proofs.Bytes.Digits

/-!
# Bytes written with separators and markers

A `Listing` is a text in which somebody has written bytes by hand: two digits for each, in either
case, with or without a radix marker, and a separator between neighbours. A blank or a comma ends a
token, and a marker at the beginning of a token is dropped. A hyphen or a colon does not, so that a
marker behind one is not seen as such: its letter is passed over, but its zero counts as a digit and
shifts all that follows. The text is therefore read as the bytes that were written exactly if it has
no such stray marker (`decodeLenient_listing`).
-/

namespace SensorGateway.Hex

/-! ### Listings -/

/-- The radix marker before the digits of a byte. -/
inductive Marker where
  | none
  | lower
  | upper
deriving DecidableEq

def Marker.text : Marker → List Char
  | none => []
  | lower => ['0', 'x']
  | upper => ['0', 'X']

def casedDigit (lower : Bool) (value : UInt8) : Char :=
  if lower then (digitChar value).toLower else digitChar value

structure Spelling where
  byte : UInt8
  marker : Marker
  lowerHigh : Bool
  lowerLow : Bool

def Spelling.digits (spelling : Spelling) : List Char :=
  [casedDigit spelling.lowerHigh (spelling.byte / 16),
    casedDigit spelling.lowerLow (spelling.byte % 16)]

def Spelling.text (spelling : Spelling) : List Char :=
  spelling.marker.text ++ spelling.digits

/-- What is written between neighbouring bytes. -/
inductive Separator where
  | blanks (first : Char) (more : List Char) (h : ∀ c ∈ first :: more, Text.isBlank c = true)
  | comma (padding : List Char) (h : ∀ c ∈ padding, Text.isBlank c = true)
  | hyphen
  | colon

namespace Separator

def text : Separator → List Char
  | blanks first more _ => first :: more
  | comma padding _ => ',' :: padding
  | hyphen => ['-']
  | colon => [':']

/-- Blanks and commas end a token. -/
def endsToken : Separator → Bool
  | blanks .. | comma .. => true
  | hyphen | colon => false

end Separator

/-- A text that lists bytes, at least one. -/
structure Listing where
  first : Spelling
  rest : List (Separator × Spelling)

/-- A marker that is not at the beginning of a token. -/
def isStray (item : Separator × Spelling) : Bool :=
  !item.1.endsToken && item.2.marker ≠ .none

namespace Listing

def bytes (listing : Listing) : Bytes :=
  listing.first.byte :: listing.rest.map fun item => item.2.byte

def text (listing : Listing) : String :=
  String.ofList
    (listing.first.text ++ listing.rest.flatMap fun item => item.1.text ++ item.2.text)

def strayMarkers (listing : Listing) : Nat :=
  listing.rest.countP isStray

end Listing

/-! ### Digits and separators -/

variable {c : Char} {token more : List Char} {spelling : Spelling} {separator : Separator}

theorem casedDigit_spec {value : UInt8} (h : value < 16) (lower : Bool) :
    casedDigit lower value ∈ asciiDigits ∧ (casedDigit lower value).toUpper = digitChar value := by
  have hsixteen : ∀ n < 16, ∀ lower, casedDigit lower (UInt8.ofNat n) ∈ asciiDigits ∧
      (casedDigit lower (UInt8.ofNat n)).toUpper = digitChar (UInt8.ofNat n) := by decide
  have hvalue := hsixteen value.toNat h lower
  rwa [UInt8.ofNat_toNat] at hvalue

theorem Spelling.forall_mem_digits (spelling : Spelling) :
    ∀ c ∈ spelling.digits, c ∈ asciiDigits := by
  rw [digits, List.forall_mem_cons, List.forall_mem_singleton]
  exact ⟨(casedDigit_spec (high_lt _) _).1, (casedDigit_spec (low_lt _) _).1⟩

theorem Spelling.filter_isDigit_digits (spelling : Spelling) :
    spelling.digits.filter isDigit = spelling.digits :=
  List.filter_eq_self.mpr fun c hc => isDigit_iff.mpr (spelling.forall_mem_digits c hc)

def tokenDigits (token : List Char) : List Char :=
  (dropMarkers 'X' (dropMarkers 'x' token)).filter isDigit

theorem tokens_eq (text : List Char) : tokens text = text.splitOnP isSeparator := by
  induction text with
  | nil => rfl
  | cons c rest ih =>
    obtain ⟨first, others, hsplit⟩ :=
      List.exists_cons_of_ne_nil (List.splitOnP_ne_nil isSeparator rest)
    rw [List.splitOnP_cons_eq_if_modifyHead, tokens, List.foldr_cons, ← tokens, ih, hsplit]
    rfl

theorem lenientDigits_eq (text : List Char) :
    lenientDigits text = (text.splitOnP isSeparator).flatMap tokenDigits := by
  rw [lenientDigits, tokens_eq]
  rfl

theorem lenientDigits_token (htoken : ∀ c ∈ token, isSeparator c = false) :
    lenientDigits token = tokenDigits token := by
  rw [lenientDigits_eq, List.splitOnP_eq_singleton htoken, List.flatMap_singleton]

theorem lenientDigits_append_cons (htoken : ∀ c ∈ token, isSeparator c = false)
    (hc : isSeparator c = true) (more : List Char) :
    lenientDigits (token ++ c :: more) = tokenDigits token ++ lenientDigits more := by
  rw [lenientDigits_eq, List.splitOnP_append_cons_of_forall_mem htoken c hc, List.flatMap_cons,
    ← lenientDigits_eq]

theorem lenientDigits_separators {run : List Char} (hrun : ∀ c ∈ run, isSeparator c = true)
    (more : List Char) : lenientDigits (run ++ more) = lenientDigits more := by
  induction run with
  | nil => rfl
  | cons c rest ih =>
    obtain ⟨hc, hrest⟩ := List.forall_mem_cons.mp hrun
    exact (lenientDigits_append_cons (List.forall_mem_nil _) hc _).trans (ih hrest)

/-! ### Markers -/

theorem dropMarkers_marker (letter : Char) (more : List Char) :
    dropMarkers letter ('0' :: letter :: more) = dropMarkers letter more := by
  rw [dropMarkers, if_pos rfl]

theorem dropMarkers_of_ne {letter first second : Char} (hne : second ≠ letter)
    (more : List Char) :
    dropMarkers letter (first :: second :: more) = first :: second :: more := by
  unfold dropMarkers
  split
  · rename_i heq
    cases heq
    rw [if_neg hne]
  · rfl

/-- A marker is dropped at the beginning of a token, and the digits behind it count. -/
theorem tokenDigits_spelling (spelling : Spelling) (tail : List Char) :
    tokenDigits (spelling.text ++ tail) = spelling.digits ++ tail.filter isDigit := by
  have hdigits := spelling.forall_mem_digits
  have hkeep : ∀ {letter : Char}, letter ∉ asciiDigits →
      dropMarkers letter (spelling.digits ++ tail) = spelling.digits ++ tail := by
    intro letter hletter
    have hsecond : casedDigit spelling.lowerLow (spelling.byte % 16) ∈ spelling.digits :=
      List.mem_cons_of_mem _ List.mem_cons_self
    exact dropMarkers_of_ne (ne_of_mem_of_not_mem (hdigits _ hsecond) hletter) tail
  have hfilter : (spelling.digits ++ tail).filter isDigit =
      spelling.digits ++ tail.filter isDigit := by
    rw [List.filter_append, spelling.filter_isDigit_digits]
  have hx : 'x' ∉ asciiDigits := by decide
  have hX : 'X' ∉ asciiDigits := by decide
  rw [tokenDigits, Spelling.text, List.append_assoc]
  cases spelling.marker with
  | none => rw [Marker.text, List.nil_append, hkeep hx, hkeep hX, hfilter]
  | lower =>
    rw [Marker.text, List.cons_append, List.cons_append, List.nil_append, dropMarkers_marker,
      hkeep hx, hkeep hX, hfilter]
  | upper =>
    rw [Marker.text, List.cons_append, List.cons_append, List.nil_append,
      dropMarkers_of_ne (by decide), dropMarkers_marker, hkeep hX, hfilter]

/-! ### Reading a listing -/

theorem isSeparator_of_isBlank (h : Text.isBlank c = true) : isSeparator c = true := by
  rw [isSeparator, h, Bool.true_or]

theorem isSeparator_of_mem (h : c ∈ asciiDigits) : isSeparator c = false := by
  have hcomma : c ≠ ',' := ne_of_mem_of_not_mem h (by decide)
  rw [isSeparator, (spellsUpper_of_mem h).isBlank_eq, Bool.false_or, beq_eq_false_iff_ne]
  exact hcomma

theorem Marker.isSeparator_eq (marker : Marker) : ∀ c ∈ marker.text, isSeparator c = false := by
  cases marker <;> exact List.all_iff_forall_prop.mp (by decide)

theorem Spelling.isSeparator_eq (spelling : Spelling) :
    ∀ c ∈ spelling.text, isSeparator c = false :=
  List.forall_mem_append.mpr ⟨spelling.marker.isSeparator_eq,
    fun c hc => isSeparator_of_mem (spelling.forall_mem_digits c hc)⟩

theorem Separator.exists_text_of_endsToken (h : separator.endsToken = true) :
    ∃ c more, separator.text = c :: more ∧ isSeparator c = true ∧
      ∀ d ∈ more, isSeparator d = true := by
  cases separator with
  | blanks first more hblank =>
    obtain ⟨hfirst, hmore⟩ := List.forall_mem_cons.mp hblank
    exact ⟨first, more, rfl, isSeparator_of_isBlank hfirst,
      fun d hd => isSeparator_of_isBlank (hmore d hd)⟩
  | comma padding hblank =>
    exact ⟨',', padding, rfl, by decide, fun d hd => isSeparator_of_isBlank (hblank d hd)⟩
  | hyphen | colon => cases h

theorem Separator.exists_text_of_not_endsToken (h : separator.endsToken = false) :
    ∃ c, separator.text = [c] ∧ isSeparator c = false ∧ isDigit c = false := by
  cases separator with
  | blanks | comma => cases h
  | hyphen => exact ⟨'-', rfl, by decide, by decide⟩
  | colon => exact ⟨':', rfl, by decide, by decide⟩

/-- The digits that count of a byte behind a separator: a stray marker leaves its zero. -/
def countedItem (item : Separator × Spelling) : List Char :=
  (if isStray item then ['0'] else []) ++ item.2.digits

/-- The digits that count in a listing. -/
def Listing.counted (listing : Listing) : List Char :=
  listing.first.digits ++ listing.rest.flatMap countedItem

theorem filter_isDigit_item {item : Separator × Spelling} (h : item.1.endsToken = false) :
    (item.1.text ++ item.2.text).filter isDigit = countedItem item := by
  obtain ⟨c, htext, _, hc⟩ := Separator.exists_text_of_not_endsToken h
  have hmarker : item.2.marker.text.filter isDigit = if isStray item then ['0'] else [] := by
    rw [isStray, h]
    cases item.2.marker <;> rfl
  rw [htext, Spelling.text, List.singleton_append, List.filter_cons_of_neg (by simp [hc]),
    List.filter_append, hmarker, item.2.filter_isDigit_digits, countedItem]

/-- The token with a spelling goes on until a separator ends it. -/
theorem lenientDigits_append (spelling : Spelling) {tail : List Char}
    (htail : ∀ c ∈ tail, isSeparator c = false) (rest : List (Separator × Spelling)) :
    lenientDigits (spelling.text ++ tail ++ rest.flatMap fun item => item.1.text ++ item.2.text) =
      spelling.digits ++ tail.filter isDigit ++ rest.flatMap countedItem := by
  have hopen : ∀ {spelling : Spelling} {tail : List Char},
      (∀ c ∈ tail, isSeparator c = false) → ∀ c ∈ spelling.text ++ tail, isSeparator c = false :=
    fun hmore => List.forall_mem_append.mpr ⟨Spelling.isSeparator_eq _, hmore⟩
  induction rest generalizing spelling tail with
  | nil =>
    rw [List.flatMap_nil, List.flatMap_nil, List.append_nil, List.append_nil,
      lenientDigits_token (hopen htail), tokenDigits_spelling]
  | cons item rest ih =>
    rw [List.flatMap_cons, List.flatMap_cons]
    cases hends : item.1.endsToken with
    | true =>
      obtain ⟨c, more, htext, hc, hmore⟩ := Separator.exists_text_of_endsToken hends
      have hnext := ih item.2 (List.forall_mem_nil _)
      have hkept : countedItem item = item.2.digits := by
        rw [countedItem, isStray, hends]
        rfl
      rw [List.append_nil, List.filter_nil, List.append_nil] at hnext
      rw [htext, List.cons_append, List.cons_append, lenientDigits_append_cons (hopen htail) hc,
        List.append_assoc, lenientDigits_separators hmore, hnext, tokenDigits_spelling, hkept]
    | false =>
      obtain ⟨c, htext, hc, _⟩ := Separator.exists_text_of_not_endsToken hends
      have hlonger : ∀ d ∈ tail ++ (item.1.text ++ item.2.text), isSeparator d = false := by
        rw [htext]
        exact List.forall_mem_append.mpr ⟨htail, List.forall_mem_append.mpr
          ⟨List.forall_mem_singleton.mpr hc, item.2.isSeparator_eq⟩⟩
      have hnext := ih spelling hlonger
      rw [List.filter_append, filter_isDigit_item hends] at hnext
      simpa only [List.append_assoc] using hnext

theorem lenientDigits_text (listing : Listing) :
    lenientDigits listing.text.toList = listing.counted := by
  have hall := lenientDigits_append listing.first (List.forall_mem_nil _) listing.rest
  rw [List.append_nil, List.filter_nil, List.append_nil] at hall
  rw [Listing.text, String.toList_ofList, hall, Listing.counted]

theorem Listing.mem_asciiDigits_of_mem_counted (listing : Listing) :
    ∀ c ∈ listing.counted, c ∈ asciiDigits := by
  have hitem : ∀ item, ∀ c ∈ countedItem item, c ∈ asciiDigits := by
    intro item
    refine List.forall_mem_append.mpr ⟨?_, item.2.forall_mem_digits⟩
    split_ifs
    · exact List.forall_mem_singleton.mpr (by decide)
    · exact List.forall_mem_nil _
  refine List.forall_mem_append.mpr ⟨listing.first.forall_mem_digits, fun c hc => ?_⟩
  obtain ⟨item, _, hmem⟩ := List.mem_flatMap.mp hc
  exact hitem item c hmem

theorem Listing.length_counted (listing : Listing) :
    listing.counted.length = 2 * listing.bytes.length + listing.strayMarkers := by
  have hrest : ∀ rest : List (Separator × Spelling),
      (rest.flatMap countedItem).length = 2 * rest.length + rest.countP isStray := by
    intro rest
    induction rest with
    | nil => rfl
    | cons item rest ih =>
      rw [List.flatMap_cons, List.length_append, ih, List.length_cons, List.countP_cons,
        countedItem, List.length_append, Spelling.digits]
      split_ifs <;> simp only [List.length_cons, List.length_nil] <;> omega
  rw [counted, List.length_append, hrest, bytes, List.length_cons, List.length_map, strayMarkers,
    Spelling.digits]
  simp only [List.length_cons, List.length_nil]
  omega

theorem map_toUpper_digits (spelling : Spelling) :
    spelling.digits.map Char.toUpper = byteDigits spelling.byte := by
  rw [Spelling.digits, List.map_cons, List.map_cons, List.map_nil,
    (casedDigit_spec (high_lt _) _).2, (casedDigit_spec (low_lt _) _).2, byteDigits]

/-- Without stray markers the digits that count are those of the bytes that were written. -/
theorem map_toUpper_counted {listing : Listing} (h : listing.strayMarkers = 0) :
    listing.counted.map Char.toUpper = digits listing.bytes := by
  have hnone : ∀ item ∈ listing.rest, (countedItem item).map Char.toUpper =
      byteDigits item.2.byte := by
    intro item hmem
    rw [countedItem, if_neg (List.countP_eq_zero.mp h item hmem), List.nil_append,
      map_toUpper_digits]
  rw [Listing.counted, List.map_append, map_toUpper_digits, List.map_flatMap,
    List.flatMap_congr hnone, Listing.bytes, digits, List.flatMap_cons, List.flatMap_map]

/-! ### Bytes as they are printed -/

def Listing.spaced (byte : UInt8) (rest : Bytes) : Listing where
  first := ⟨byte, .none, false, false⟩
  rest := rest.map fun byte =>
    (.blanks ' ' [] (List.forall_mem_singleton.mpr rfl), ⟨byte, .none, false, false⟩)

theorem text_spaced (byte : UInt8) (rest : Bytes) :
    (Listing.spaced byte rest).text = encodeSpaced (byte :: rest) := by
  have hchars : ∀ byte : UInt8, [' '].intercalate ((byte :: rest).map byteDigits) =
      byteDigits byte ++ rest.flatMap fun byte => ' ' :: byteDigits byte := by
    induction rest with
    | nil => exact fun byte => List.append_nil _
    | cons next rest ih =>
      intro byte
      rw [List.map_cons, List.map_cons, List.intercalate_cons_cons, ← List.map_cons, ih,
        List.flatMap_cons, List.append_assoc, List.singleton_append, List.cons_append]
  apply String.toList_injective
  have hdigits : String.toList ∘ (fun byte => String.ofList (byteDigits byte)) = byteDigits :=
    funext fun byte => String.toList_ofList
  rw [encodeSpaced, String.toList_intercalate, List.map_map, hdigits, Listing.text,
    String.toList_ofList, Listing.spaced, List.flatMap_map]
  exact (hchars byte).symm

theorem strayMarkers_spaced (byte : UInt8) (rest : Bytes) :
    (Listing.spaced byte rest).strayMarkers = 0 := by
  apply List.countP_eq_zero.mpr
  intro item hitem
  obtain ⟨next, _, rfl⟩ := List.mem_map.mp hitem
  exact Bool.false_ne_true

theorem bytes_spaced (byte : UInt8) (rest : Bytes) :
    (Listing.spaced byte rest).bytes = byte :: rest := by
  rw [Listing.bytes, Listing.spaced, List.map_map]
  exact congrArg (byte :: ·) (List.map_id rest)

/-! ### What is read -/

theorem decodeLenient_text (listing : Listing) :
    decodeLenient listing.text = decode (String.ofList listing.counted) := by
  rw [decodeLenient, lenientDigits_text, decode, String.toList_ofList]

theorem stripBlanks_counted (listing : Listing) :
    Text.stripBlanks (String.ofList listing.counted).toList = listing.counted := by
  rw [String.toList_ofList]
  apply List.filter_eq_self.mpr
  intro c hc
  rw [(spellsUpper_of_mem (listing.mem_asciiDigits_of_mem_counted c hc)).isBlank_eq, Bool.not_false]

theorem decodeLenient_text_eq_ok_iff {listing : Listing} {bytes : Bytes} :
    decodeLenient listing.text = .ok bytes ↔
      bytes ≠ [] ∧ encode bytes = String.ofList (listing.counted.map Char.toUpper) := by
  rw [decodeLenient_text, decode_eq_ok_iff, stripBlanks_counted]
  exact and_congr_right fun _ => and_iff_right listing.mem_asciiDigits_of_mem_counted

theorem decodeLenient_text_eq_ok_bytes_iff {listing : Listing} :
    decodeLenient listing.text = .ok listing.bytes ↔ listing.strayMarkers = 0 := by
  rw [decodeLenient_text_eq_ok_iff]
  constructor
  · rintro ⟨_, hcanonical⟩
    have hlength := length_of_encode_eq hcanonical
    rw [listing.length_counted] at hlength
    omega
  · intro hnone
    exact ⟨List.cons_ne_nil _ _, by rw [encode, map_toUpper_counted hnone]⟩

/-- **What is read of bytes that somebody has written.** They are read as they were written exactly
if no marker stands behind a hyphen or a colon. A stray marker leaves a digit of its own, and the
text is refused for an odd one or read as more bytes than it lists. -/
theorem decodeLenient_listing (listing : Listing) :
    (decodeLenient listing.text = .ok listing.bytes ↔ listing.strayMarkers = 0) ∧
      (listing.strayMarkers % 2 = 1 → decodeLenient listing.text =
        .error (.oddLength (2 * listing.bytes.length + listing.strayMarkers))) ∧
      (listing.strayMarkers % 2 = 0 → ∃ bytes, decodeLenient listing.text = .ok bytes ∧
        encode bytes = String.ofList (listing.counted.map Char.toUpper) ∧
          2 * bytes.length = 2 * listing.bytes.length + listing.strayMarkers) ∧
      ∀ bytes, bytes ≠ [] → decodeLenient (encodeSpaced bytes) = .ok bytes := by
  refine ⟨decodeLenient_text_eq_ok_bytes_iff, ?_, ?_, ?_⟩
  · intro hodd
    have hlength := length_utf8_of_forall_mem listing.mem_asciiDigits_of_mem_counted
    rw [listing.length_counted] at hlength
    have hsome : listing.counted ≠ [] := List.cons_ne_nil _ _
    rw [decodeLenient_text, decode_eq_iff, stripBlanks_counted, ← hlength]
    exact .oddLength hsome (by omega)
  · intro heven
    have hlength := listing.length_counted
    obtain ⟨bytes, hcanonical⟩ := exists_encode_eq listing.mem_asciiDigits_of_mem_counted
      (by omega)
    have hcount := length_of_encode_eq hcanonical
    have hbytes : bytes ≠ [] := by
      apply List.ne_nil_of_length_pos
      rw [Listing.bytes, List.length_cons] at hlength
      omega
    exact ⟨bytes, decodeLenient_text_eq_ok_iff.mpr ⟨hbytes, hcanonical⟩, hcanonical, by omega⟩
  · intro bytes hbytes
    obtain ⟨byte, rest, rfl⟩ := List.exists_cons_of_ne_nil hbytes
    have hread := decodeLenient_text_eq_ok_bytes_iff.mpr (strayMarkers_spaced byte rest)
    rwa [text_spaced, bytes_spaced] at hread

def Listing.mixed : Listing where
  first := ⟨0xAA, .lower, false, false⟩
  rest := [(.hyphen, ⟨0xBB, .none, true, true⟩),
    (.comma [' '] (List.forall_mem_singleton.mpr rfl), ⟨0xCC, .upper, true, false⟩),
    (.colon, ⟨0xDD, .none, false, true⟩)]

def Listing.hyphenated (rest : Bytes) : Listing where
  first := ⟨0xAA, .none, false, false⟩
  rest := rest.map fun byte => (.hyphen, ⟨byte, .lower, false, false⟩)

/-- Bytes that are read as they were written, an odd number of stray markers and an even one. -/
theorem decodeLenient_listing_mixed :
    decodeLenient "0xAA-bb, 0XcC:Dd" = .ok [0xAA, 0xBB, 0xCC, 0xDD] ∧
      decodeLenient "AA-0xBB" = .error (.oddLength 5) ∧
      (∃ bytes, decodeLenient "AA-0xBB-0xCC" = .ok bytes ∧ 2 * bytes.length = 8) ∧
      decodeLenient (encodeSpaced [0x0A, 0xFF]) = .ok [0x0A, 0xFF] := by
  have hmixed : Listing.mixed.text = "0xAA-bb, 0XcC:Dd" := by decide +kernel
  have hone : (Listing.hyphenated [0xBB]).text = "AA-0xBB" := by decide +kernel
  have htwo : (Listing.hyphenated [0xBB, 0xCC]).text = "AA-0xBB-0xCC" := by decide +kernel
  obtain ⟨hread, _, _, hspaced⟩ := decodeLenient_listing .mixed
  obtain ⟨_, hodd, _⟩ := decodeLenient_listing (.hyphenated [0xBB])
  obtain ⟨_, _, heven, _⟩ := decodeLenient_listing (.hyphenated [0xBB, 0xCC])
  rw [hmixed] at hread
  rw [hone] at hodd
  rw [htwo] at heven
  obtain ⟨bytes, hlonger, _, hlength⟩ := heven (by decide)
  exact ⟨hread.mpr (by decide), hodd (by decide), ⟨bytes, hlonger, hlength⟩,
    hspaced [0x0A, 0xFF] (by decide)⟩

/-- Behind hyphens, two markers leave two digits that nobody has written, and no error tells. -/
theorem exists_listing_misread :
    ∃ listing : Listing, listing.text = "AA-0xBB-0xCC" ∧ listing.bytes = [0xAA, 0xBB, 0xCC] ∧
      decodeLenient listing.text = .ok [0xAA, 0x0B, 0xB0, 0xCC] :=
  ⟨.hyphenated [0xBB, 0xCC], by decide +kernel, rfl, by decide +kernel⟩

end SensorGateway.Hex
