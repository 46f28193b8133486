import Mathlib.Data.List.Induction
import SensorGateway.Proofs.Envelope
import SensorGateway.Proofs.Shard.Table

/-!
# Delivering a shard in any order

A shipment is a payload cut into pieces on its way from one sensor. Its pieces may arrive in any
order and any number of times, among frames that have nothing to do with it. What counts is what
has arrived since the first piece first did: as long as a piece is missing every piece is accepted
and nothing comes out, and with the last missing piece the payload comes out under the header of
the shipment (`process_delivery`).

The reassembly is tied to the deliveries by `Collects`: what it has accepted are exactly the pieces
delivered. So the expected number is the first one not delivered, and since only the last piece
bears an end mark, the reassembly is complete exactly when no number is left.
-/

namespace SensorGateway

def ShardTable.processAll (table : ShardTable) (deliveries : List (Frame × Time)) : ShardTable :=
  deliveries.foldl (fun table delivery => (table.process delivery.1 delivery.2).1) table

theorem ShardTable.processAll_concat (table : ShardTable) (deliveries : List (Frame × Time))
    (delivery : Frame × Time) :
    table.processAll (deliveries ++ [delivery]) =
      ((table.processAll deliveries).process delivery.1 delivery.2).1 := by
  rw [processAll, List.foldl_append]
  rfl

/-- A payload on its way in pieces: its sensor, its header, and how it is cut. -/
structure Shipment where
  identity : Identity
  paramCount : UInt8
  packetType : PacketType
  shard : Nat
  payload : Bytes
  maximum : Nat
  pieces : List ShardPiece
  maximum_le : maximum ≤ ShardPiece.maximumLength
  split_eq : ShardPiece.split shard payload maximum = .ok pieces

namespace Shipment

/-- The header of the payload, had it been sent in one frame. -/
def header (shipment : Shipment) (fragmented : Bool) : Header :=
  Header.make shipment.paramCount fragmented shipment.packetType

def whole (shipment : Shipment) : Frame :=
  Frame.make shipment.identity (shipment.header false) shipment.payload

/-- A frame carries the piece with a number. -/
def Carries (shipment : Shipment) (frame : Frame) (number : Nat) : Prop :=
  ∃ piece bytes, shipment.pieces[number]? = some piece ∧ piece.encode = .ok bytes ∧
    frame = Frame.make shipment.identity (shipment.header true) bytes

def frame (shipment : Shipment) (number : Nat) : Frame :=
  Frame.make shipment.identity (shipment.header true)
    ((shipment.pieces[number]?.bind fun piece => piece.encode.toOption).getD [])

/-- A frame that has nothing to do with the shipment: it comes from another sensor, or is no piece,
or is a piece other than the first one of another shard. -/
def IsUnrelated (shipment : Shipment) (frame : Frame) : Prop :=
  frame.identity = shipment.identity → frame.fragmented = true →
    ∀ piece, ShardPiece.parse frame.payload = .ok piece →
      piece.shard ≠ shipment.shard % 64 ∧ piece.piece ≠ 0

def Delivered (shipment : Shipment) (deliveries : List (Frame × Time)) (number : Nat) : Prop :=
  ∃ delivery ∈ deliveries, shipment.Carries delivery.1 number

def Complete (shipment : Shipment) (deliveries : List (Frame × Time)) : Prop :=
  ∀ number < shipment.pieces.length, shipment.Delivered deliveries number

variable {shipment : Shipment} {deliveries : List (Frame × Time)} {frame : Frame} {number : Nat}
  {now : Time}

theorem delivered_nil : ¬ shipment.Delivered [] number := by
  rintro ⟨_, hmem, _⟩
  cases hmem

theorem delivered_concat :
    shipment.Delivered (deliveries ++ [(frame, now)]) number ↔
      shipment.Delivered deliveries number ∨ shipment.Carries frame number := by
  simp [Delivered, or_and_right, exists_or]

theorem Complete.concat (h : shipment.Complete deliveries) (delivery : Frame × Time) :
    shipment.Complete (deliveries ++ [delivery]) :=
  fun number hlt => delivered_concat.mpr (Or.inl (h number hlt))

/-! ### The frames of a shipment -/

theorem wholeShard (shipment : Shipment) :
    ShardPiece.WholeShard shipment.shard shipment.payload shipment.pieces :=
  ShardPiece.wholeShard_of_split shipment.split_eq

theorem piece_lt {piece : ShardPiece} (hpiece : shipment.pieces[number]? = some piece) :
    piece.piece < 128 := by
  rw [shipment.wholeShard.piece_eq number piece hpiece]
  exact Nat.lt_of_lt_of_le (List.getElem?_eq_some_iff.mp hpiece).1 shipment.wholeShard.length_le

theorem shard_eq {piece : ShardPiece} (hpiece : shipment.pieces[number]? = some piece) :
    piece.shard = shipment.shard % 64 :=
  shipment.wholeShard.shard_eq piece (List.mem_of_getElem? hpiece)

theorem carries_frame (shipment : Shipment) (hlt : number < shipment.pieces.length) :
    shipment.Carries (shipment.frame number) number := by
  have hpiece := List.getElem?_eq_getElem hlt
  obtain ⟨bytes, hencode⟩ := ShardPiece.exists_encode_of_split shipment.split_eq
    shipment.maximum_le (List.mem_of_getElem? hpiece)
  refine ⟨_, bytes, hpiece, hencode, ?_⟩
  rw [frame, hpiece, Option.bind_some, hencode]
  rfl

theorem Carries.lt_length (h : shipment.Carries frame number) :
    number < shipment.pieces.length := by
  obtain ⟨piece, _, hpiece, _⟩ := h
  exact (List.getElem?_eq_some_iff.mp hpiece).1

theorem Carries.identity_eq (h : shipment.Carries frame number) :
    frame.identity = shipment.identity := by
  obtain ⟨_, _, _, _, rfl⟩ := h
  rfl

theorem Carries.fragmented_eq (h : shipment.Carries frame number) : frame.fragmented = true := by
  obtain ⟨_, _, _, _, rfl⟩ := h
  rfl

theorem Carries.header_eq (h : shipment.Carries frame number) :
    frame.header = shipment.header true := by
  obtain ⟨_, _, _, _, rfl⟩ := h
  exact Header.make_paramCount_mod ..

theorem Carries.parse_eq (h : shipment.Carries frame number) :
    ∃ piece, shipment.pieces[number]? = some piece ∧
      ShardPiece.parse frame.payload = .ok piece := by
  obtain ⟨piece, bytes, hpiece, hencode, rfl⟩ := h
  refine ⟨piece, hpiece, ?_⟩
  have hshard : piece.shard < 64 := by
    rw [shard_eq hpiece]
    exact Nat.mod_lt _ (by decide)
  have hparse := ShardPiece.parse_encode hshard (piece_lt hpiece) hencode []
  rwa [List.append_nil] at hparse

theorem Carries.not_isUnrelated (h : shipment.Carries frame number) :
    ¬ shipment.IsUnrelated frame := by
  intro hunrelated
  obtain ⟨piece, hpiece, hparse⟩ := h.parse_eq
  exact (hunrelated h.identity_eq h.fragmented_eq piece hparse).1 (shard_eq hpiece)

theorem Carries.number_unique (h : shipment.Carries frame number) {other : Nat}
    (hother : shipment.Carries frame other) : number = other := by
  obtain ⟨left, hleft, hparse⟩ := h.parse_eq
  obtain ⟨right, hright, hparseRight⟩ := hother.parse_eq
  rw [hparse, Except.ok.injEq] at hparseRight
  rw [← shipment.wholeShard.piece_eq number left hleft, hparseRight,
    shipment.wholeShard.piece_eq other right hright]

/-! ### What the reassembly has collected -/

/-- A reassembly has accepted exactly the pieces delivered, and knows the last one if it is among
them. -/
structure Collects (shipment : Shipment) (deliveries : List (Frame × Time))
    (assembly : Assembly) : Prop where
  shard_eq : assembly.shard = shipment.shard % 64
  paramCount_eq : assembly.paramCount = shipment.paramCount % 16
  packetType_eq : assembly.packetType = shipment.packetType
  settled : assembly.Settled
  received : ∃ received, assembly.Holds received ∧ assembly.Marked received ∧
    (∀ piece, piece ∈ received ↔
      ∃ number, shipment.pieces[number]? = some piece ∧ shipment.Delivered deliveries number) ∧
    ∀ piece ∈ received, piece.final = true → assembly.final ≠ none

variable {assembly : Assembly} {piece : ShardPiece} {deadline : Time}

theorem mem_received_concat {received : List ShardPiece}
    (hreceived : ∀ piece, piece ∈ received ↔
      ∃ number, shipment.pieces[number]? = some piece ∧ shipment.Delivered deliveries number)
    (hcarries : shipment.Carries frame number) (hpiece : shipment.pieces[number]? = some piece)
    (other : ShardPiece) :
    other ∈ received ++ [piece] ↔
      ∃ number, shipment.pieces[number]? = some other ∧
        shipment.Delivered (deliveries ++ [(frame, now)]) number := by
  rw [List.mem_append, List.mem_singleton, hreceived]
  constructor
  · rintro (⟨found, hfound, hdelivered⟩ | rfl)
    · exact ⟨found, hfound, delivered_concat.mpr (Or.inl hdelivered)⟩
    · exact ⟨number, hpiece, delivered_concat.mpr (Or.inr hcarries)⟩
  · rintro ⟨found, hfound, hdelivered⟩
    rcases delivered_concat.mp hdelivered with hdelivered | hcarried
    · exact Or.inl ⟨found, hfound, hdelivered⟩
    · rw [← hcarries.number_unique hcarried, hpiece, Option.some.injEq] at hfound
      exact Or.inr hfound.symm

theorem collects_start {generation : Nat} (hcarries : shipment.Carries frame 0)
    (hpiece : shipment.pieces[0]? = some piece) :
    shipment.Collects [(frame, now)]
      (Assembly.start generation frame.header piece deadline) := by
  have hstart : piece.piece = 0 := shipment.wholeShard.piece_eq 0 piece hpiece
  refine ⟨?_, ?_, ?_, Assembly.settled_start .., [piece], Assembly.holds_start _ _ hstart _,
    Assembly.marked_start _ _ _ _, ?_, ?_⟩
  · rw [Assembly.start_shard, Shipment.shard_eq hpiece]
  · rw [Assembly.start_paramCount, hcarries.header_eq]
    rfl
  · rw [Assembly.start_packetType, hcarries.header_eq]
    rfl
  · intro other
    have hnone : ∀ piece, piece ∈ ([] : List ShardPiece) ↔
        ∃ number, shipment.pieces[number]? = some piece ∧ shipment.Delivered [] number := by
      simp [delivered_nil]
    exact mem_received_concat hnone hcarries hpiece other
  · intro other hmem hfinal
    rw [List.mem_singleton.mp hmem] at hfinal
    simp [hfinal]

theorem Collects.accept (h : shipment.Collects deliveries assembly)
    (hcarries : shipment.Carries frame number) (hpiece : shipment.pieces[number]? = some piece) :
    shipment.Collects (deliveries ++ [(frame, now)]) (assembly.accept piece deadline) := by
  obtain ⟨hshard, hcount, htype, hsettled, received, hholds, hmarked, hreceived, hfinal⟩ := h
  refine ⟨by simpa using hshard, by simpa using hcount, by simpa using htype,
    hsettled.accept deadline, received ++ [piece], ?_, hmarked.accept deadline, ?_, ?_⟩
  · exact hholds.accept hsettled ((Shipment.shard_eq hpiece).trans hshard.symm) deadline
  · exact mem_received_concat hreceived hcarries hpiece
  · intro other hmem hmark
    rw [Assembly.accept_final]
    split_ifs with hnew
    · simp
    · rcases List.mem_append.mp hmem with hmem | hmem
      · exact hfinal other hmem hmark
      · -- the end mark of a piece appended before has been seen before
        rw [List.mem_singleton.mp hmem] at hmark
        have hlow : piece.piece < assembly.expected := by
          by_contra hle
          exact hnew ⟨hmark, by omega⟩
        obtain ⟨earlier, hearlier, hnumber⟩ := hholds.exists_of_lt hlow
        obtain ⟨found, hfound, _⟩ := (hreceived earlier).mp hearlier
        have hsame : found = number := by
          rw [← shipment.wholeShard.piece_eq found earlier hfound, hnumber,
            shipment.wholeShard.piece_eq number piece hpiece]
        rw [hsame, hpiece, Option.some.injEq] at hfound
        exact hfinal earlier hearlier (hfound ▸ hmark)

/-- The end mark, once seen, is that of the last piece. -/
theorem Collects.final_eq (h : shipment.Collects deliveries assembly) {last : Nat}
    (hlast : assembly.final = some last) : last + 1 = shipment.pieces.length := by
  obtain ⟨_, _, _, _, received, _, hmarked, hreceived, _⟩ := h
  obtain ⟨piece, hmem, hfinal, rfl⟩ := hmarked last hlast
  obtain ⟨number, hpiece, _⟩ := (hreceived piece).mp hmem
  rw [shipment.wholeShard.piece_eq number piece hpiece]
  exact (shipment.wholeShard.final_iff number piece hpiece).mp hfinal

theorem Collects.isPastEnd_eq (h : shipment.Collects deliveries assembly)
    (hpiece : shipment.pieces[number]? = some piece) :
    assembly.isPastEnd piece.piece = false := by
  refine Assembly.isPastEnd_eq_false_iff.mpr fun last hlast => ?_
  have hlt := (List.getElem?_eq_some_iff.mp hpiece).1
  have hend := h.final_eq hlast
  rw [shipment.wholeShard.piece_eq number piece hpiece]
  omega

/-- The expected number is the first one that has not been delivered. -/
theorem Collects.delivered_of_lt (h : shipment.Collects deliveries assembly)
    (hlt : number < assembly.expected) :
    number < shipment.pieces.length ∧ shipment.Delivered deliveries number := by
  obtain ⟨_, _, _, _, received, hholds, _, hreceived, _⟩ := h
  obtain ⟨piece, hmem, rfl⟩ := hholds.exists_of_lt hlt
  obtain ⟨number, hpiece, hdelivered⟩ := (hreceived piece).mp hmem
  rw [shipment.wholeShard.piece_eq number piece hpiece]
  exact ⟨(List.getElem?_eq_some_iff.mp hpiece).1, hdelivered⟩

theorem Collects.not_delivered_expected (h : shipment.Collects deliveries assembly) :
    ¬ shipment.Delivered deliveries assembly.expected := by
  obtain ⟨_, _, _, hsettled, received, hholds, _, hreceived, _⟩ := h
  intro hdelivered
  obtain ⟨_, _, hcarries⟩ := id hdelivered
  have hpiece := List.getElem?_eq_getElem hcarries.lt_length
  have hmem := (hreceived _).mpr ⟨_, hpiece, hdelivered⟩
  exact hholds.piece_ne_expected hsettled hmem (shipment.wholeShard.piece_eq _ _ hpiece)

theorem Collects.expected_le (h : shipment.Collects deliveries assembly) :
    assembly.expected ≤ shipment.pieces.length := by
  by_contra hlt
  obtain ⟨hself, _⟩ : shipment.pieces.length < shipment.pieces.length ∧ _ :=
    h.delivered_of_lt (by omega)
  omega

theorem Collects.expected_eq (h : shipment.Collects deliveries assembly)
    (hcomplete : shipment.Complete deliveries) : assembly.expected = shipment.pieces.length := by
  have hle := h.expected_le
  by_contra hne
  exact h.not_delivered_expected (hcomplete assembly.expected (by omega))

/-- A reassembly is complete when every piece has been delivered, and not before. -/
theorem Collects.isComplete_iff (h : shipment.Collects deliveries assembly) :
    assembly.isComplete = true ↔ shipment.Complete deliveries := by
  rw [Assembly.isComplete_eq_true_iff]
  constructor
  · rintro ⟨last, hlast, hlt⟩ number hnumber
    have hend := h.final_eq hlast
    exact (h.delivered_of_lt (by omega)).2
  · intro hcomplete
    have hexpected := h.expected_eq hcomplete
    have hpositive : 0 < shipment.pieces.length :=
      List.length_pos_iff.mpr shipment.wholeShard.ne_nil
    have hlt : shipment.pieces.length - 1 < shipment.pieces.length := by omega
    have hpiece := List.getElem?_eq_getElem hlt
    have hfinal : assembly.final ≠ none := by
      obtain ⟨_, _, _, _, received, _, _, hreceived, hseen⟩ := h
      refine hseen _ ((hreceived _).mpr ⟨_, hpiece, hcomplete _ hlt⟩) ?_
      exact (shipment.wholeShard.final_iff _ _ hpiece).mpr (by omega)
    obtain ⟨last, hlast⟩ := Option.ne_none_iff_exists'.mp hfinal
    have hend := h.final_eq hlast
    exact ⟨last, hlast, by omega⟩

/-- A complete reassembly yields the frame that the payload would have had by itself. -/
theorem Collects.toFrame_eq (h : shipment.Collects deliveries assembly)
    (hcomplete : shipment.Complete deliveries) :
    assembly.toFrame shipment.identity = shipment.whole := by
  have hexpected := h.expected_eq hcomplete
  obtain ⟨_, hcount, htype, _, received, hholds, _, hreceived, _⟩ := h
  obtain ⟨bodies, hlength, hflatten, hbodies⟩ := hholds.joins
  have hsame : bodies = shipment.pieces.map ShardPiece.data := by
    refine List.ext_getElem (by rw [hlength, hexpected, List.length_map]) ?_
    intro number hbody hpiece
    obtain ⟨piece, hmem, hnumber, hdata⟩ :=
      hbodies number _ (List.getElem?_eq_getElem hbody)
    obtain ⟨found, hfound, _⟩ := (hreceived piece).mp hmem
    have heq : found = number := by
      rw [← hnumber, shipment.wholeShard.piece_eq found piece hfound]
    subst heq
    rw [← hdata, List.getElem_map, (List.getElem?_eq_some_iff.mp hfound).2]
  rw [Assembly.toFrame, hcount, htype, ← hflatten, hsame, shipment.wholeShard.flatten_data,
    Header.make_paramCount_mod]
  rfl

/-! ### The table while a shipment arrives -/

/-- What the table holds for the sensor of a shipment whose pieces have been arriving since the
first one: nothing if none has arrived, and else a reassembly that is not complete. -/
def Underway (shipment : Shipment) (table : ShardTable) (deliveries : List (Frame × Time)) : Prop :=
  (deliveries = [] ∧ table.assembly? shipment.identity = none) ∨
    ∃ assembly, table.assembly? shipment.identity = some assembly ∧
      shipment.Collects deliveries assembly ∧ assembly.isComplete = false

variable {table : ShardTable}

theorem Underway.not_complete (h : shipment.Underway table deliveries) :
    ¬ shipment.Complete deliveries := by
  obtain ⟨rfl, _⟩ | ⟨assembly, _, hcollects, hincomplete⟩ := h
  · exact fun hall =>
      delivered_nil (hall 0 (List.length_pos_iff.mpr shipment.wholeShard.ne_nil))
  · intro hall
    rw [hcollects.isComplete_iff.mpr hall] at hincomplete
    cases hincomplete

/-- Whatever a frame leads to depends on whether the reassembly has become complete. -/
theorem Collects.outcome {next : Assembly} {after : ShardTable × PieceOutcome}
    (h : shipment.Collects deliveries next)
    (hdone : next.isComplete = true →
      after.2.completed = some (next.toFrame shipment.identity) ∧
        after.1.assembly? shipment.identity = none)
    (hmore : next.isComplete = false →
      after.2.completed = none ∧ after.1.assembly? shipment.identity = some next) :
    (shipment.Complete deliveries →
        after.2.completed = some shipment.whole ∧
          after.1.assembly? shipment.identity = none) ∧
      (¬ shipment.Complete deliveries →
        after.2.completed = none ∧ shipment.Underway after.1 deliveries) := by
  constructor
  · intro hcomplete
    obtain ⟨hwhole, hnone⟩ := hdone (h.isComplete_iff.mpr hcomplete)
    exact ⟨hwhole.trans (congrArg some (h.toFrame_eq hcomplete)), hnone⟩
  · intro hpending
    have hincomplete : next.isComplete = false := by
      rw [← Bool.not_eq_true, h.isComplete_iff]
      exact hpending
    obtain ⟨hnothing, hfound⟩ := hmore hincomplete
    exact ⟨hnothing, Or.inr ⟨next, hfound, h, hincomplete⟩⟩

/-- What a piece leads to, whether it opens the reassembly or joins it. -/
theorem Underway.process_carries (h : shipment.Underway table deliveries)
    (hcarries : shipment.Carries frame number) (hfirst : deliveries = [] → number = 0)
    (now : Time) :
    (table.process frame now).2.ack = .accept (shipment.shard % 64) number ∧
      (shipment.Complete (deliveries ++ [(frame, now)]) →
        (table.process frame now).2.completed = some shipment.whole ∧
          (table.process frame now).1.assembly? shipment.identity = none) ∧
      (¬ shipment.Complete (deliveries ++ [(frame, now)]) →
        (table.process frame now).2.completed = none ∧
          shipment.Underway (table.process frame now).1 (deliveries ++ [(frame, now)])) := by
  obtain ⟨piece, hpiece, hparse⟩ := hcarries.parse_eq
  have hidentity := hcarries.identity_eq
  have hnumber := shipment.wholeShard.piece_eq number piece hpiece
  have hshard := Shipment.shard_eq hpiece
  rcases h with ⟨rfl, hnone⟩ | ⟨assembly, hfound, hcollects, _⟩
  · -- the first piece opens the reassembly
    obtain rfl := hfirst rfl
    have hopening : table.IsOpening frame.identity piece :=
      ⟨hnumber, fun assembly hfound => by rw [hidentity, hnone] at hfound; cases hfound⟩
    have hnext : shipment.Collects ([] ++ [(frame, now)]) (table.opening frame piece now) :=
      collects_start hcarries hpiece
    have hstart : Assembly.start (table.generation + 1) frame.header piece
        (now + table.timeout) = table.opening frame piece now := rfl
    rw [ShardTable.process_of_isOpening table now hcarries.fragmented_eq hparse hopening]
    refine ⟨?_, hnext.outcome (fun hdone => ?_) fun hmore => ?_⟩
    · rw [ShardTable.openShard]
      split <;> simp [hshard, hnumber]
    · simp [ShardTable.openShard, hstart, hdone, hidentity]
    · simp [ShardTable.openShard, hstart, hmore, hidentity]
  · -- a later piece joins it
    have hcollecting : table.IsCollecting frame.identity piece assembly :=
      ⟨hidentity ▸ hfound, hcollects.shard_eq.trans hshard.symm⟩
    have hnext : shipment.Collects (deliveries ++ [(frame, now)])
        (assembly.accept piece (now + table.timeout)) := hcollects.accept hcarries hpiece
    have hend := hcollects.isPastEnd_eq hpiece
    rw [ShardTable.process_of_isCollecting table now hcarries.fragmented_eq hparse hcollecting]
    refine ⟨?_, hnext.outcome (fun hdone => ?_) fun hmore => ?_⟩
    · rw [ShardTable.continueShard, if_neg (by simp [hend])]
      dsimp only
      split <;> simp [hcollects.shard_eq, hnumber]
    · simp [ShardTable.continueShard, hend, hdone, hidentity]
    · simp [ShardTable.continueShard, hend, hmore, hidentity]

theorem assembly?_process_of_forall_not_admits
    (hrefused : frame.identity = shipment.identity → frame.fragmented = true →
      ∀ piece, ShardPiece.parse frame.payload = .ok piece →
        ¬ table.Admits shipment.identity piece) (now : Time) :
    (table.process frame now).1.assembly? shipment.identity =
      table.assembly? shipment.identity := by
  by_cases hidentity : frame.identity = shipment.identity
  · rw [ShardTable.process_fst_of_not_admits table frame now]
    rw [hidentity]
    exact hrefused hidentity
  · exact ShardTable.assembly?_process_of_ne table frame now fun heq => hidentity heq.symm

theorem Underway.process_isUnrelated (h : shipment.Underway table deliveries)
    (hne : deliveries ≠ []) (hunrelated : shipment.IsUnrelated frame) (now : Time) :
    shipment.Underway (table.process frame now).1 (deliveries ++ [(frame, now)]) := by
  obtain ⟨hnil, _⟩ | ⟨assembly, hfound, hcollects, hincomplete⟩ := h
  · exact absurd hnil hne
  have hkept : (table.process frame now).1.assembly? shipment.identity =
      table.assembly? shipment.identity := by
    refine assembly?_process_of_forall_not_admits
      (fun hidentity hpiece piece hparse hadmits => ?_) now
    obtain ⟨hshard, hlater⟩ := hunrelated hidentity hpiece piece hparse
    rcases hadmits with hopening | ⟨found, ⟨hactive, hcollecting⟩, _⟩
    · exact hlater hopening.1
    · rw [hfound, Option.some.injEq] at hactive
      exact hshard (hcollecting.symm.trans (hactive ▸ hcollects.shard_eq))
  have hsame : ∀ number, shipment.Delivered (deliveries ++ [(frame, now)]) number ↔
      shipment.Delivered deliveries number := fun number =>
    delivered_concat.trans (or_iff_left fun hcarries => hcarries.not_isUnrelated hunrelated)
  refine Or.inr ⟨assembly, hkept.trans hfound, ?_, hincomplete⟩
  obtain ⟨hshard, hcount, htype, hsettled, received, hreceived⟩ := hcollects
  exact ⟨hshard, hcount, htype, hsettled, received, by simpa only [hsame] using hreceived⟩

theorem assembly?_processAll_eq_none (hnone : table.assembly? shipment.identity = none)
    (htraffic : ∀ delivery ∈ deliveries,
      shipment.IsUnrelated delivery.1 ∨ ∃ number, shipment.Carries delivery.1 number)
    (hfirst : ¬ shipment.Delivered deliveries 0) :
    (table.processAll deliveries).assembly? shipment.identity = none := by
  induction deliveries using List.reverseRecOn with
  | nil => exact hnone
  | append_singleton deliveries delivery ih =>
    have hbefore := ih (fun other hmem => htraffic other (List.mem_append_left _ hmem))
      fun h => hfirst (delivered_concat.mpr (Or.inl h))
    rw [ShardTable.processAll_concat, assembly?_process_of_forall_not_admits ?_, hbefore]
    intro hidentity hpiece piece hparse hadmits
    have hstart : piece.piece = 0 := by
      rcases hadmits with hopening | ⟨assembly, ⟨hactive, _⟩, _⟩
      · exact hopening.1
      · rw [hbefore] at hactive
        cases hactive
    rcases htraffic delivery (by simp) with hunrelated | ⟨number, hcarries⟩
    · exact (hunrelated hidentity hpiece piece hparse).2 hstart
    · obtain ⟨carried, hcarried, hcarriedParse⟩ := hcarries.parse_eq
      rw [hparse, Except.ok.injEq] at hcarriedParse
      subst hcarriedParse
      have hzero : number = 0 :=
        (shipment.wholeShard.piece_eq number piece hcarried).symm.trans hstart
      exact hfirst (delivered_concat.mpr (Or.inr (hzero ▸ hcarries)))

/-- From the first piece on, until none is missing, the reassembly holds what has been delivered. -/
theorem underway_processAll (hnone : table.assembly? shipment.identity = none)
    (htraffic : ∀ delivery ∈ deliveries,
      shipment.IsUnrelated delivery.1 ∨ ∃ number, shipment.Carries delivery.1 number)
    (hfirst : ∀ delivery ∈ deliveries.head?, shipment.Carries delivery.1 0)
    (hpending : ¬ shipment.Complete deliveries) :
    shipment.Underway (table.processAll deliveries) deliveries := by
  induction deliveries using List.reverseRecOn with
  | nil => exact Or.inl ⟨rfl, hnone⟩
  | append_singleton deliveries delivery ih =>
    have hbefore : shipment.Underway (table.processAll deliveries) deliveries := by
      refine ih (fun other hmem => htraffic other (List.mem_append_left _ hmem)) ?_
        fun h => hpending (h.concat delivery)
      intro other hmem
      exact hfirst other (by simp [Option.mem_def.mp hmem])
    rw [ShardTable.processAll_concat]
    by_cases hnil : deliveries = []
    · have hcarries : shipment.Carries delivery.1 0 := hfirst delivery (by simp [hnil])
      exact ((hbefore.process_carries hcarries (fun _ => rfl) delivery.2).2.2 hpending).2
    · rcases htraffic delivery (by simp) with hunrelated | ⟨number, hcarries⟩
      · exact hbefore.process_isUnrelated hnil hunrelated delivery.2
      · exact ((hbefore.process_carries hcarries (fun h => absurd h hnil) delivery.2).2.2
          hpending).2

/-- **Any order, any repetitions.** Until every piece has been delivered since the first one first
was, each piece is accepted and completes nothing; the piece that leaves none missing completes the
payload. -/
theorem process_delivery (shipment : Shipment) {table : ShardTable}
    (hnone : table.assembly? shipment.identity = none) {earlier since : List (Frame × Time)}
    {frame : Frame} {number : Nat} {now : Time}
    (htraffic : ∀ delivery ∈ earlier ++ since,
      shipment.IsUnrelated delivery.1 ∨ ∃ number, shipment.Carries delivery.1 number)
    (hearlier : ¬ shipment.Delivered earlier 0)
    (hfirst : ∀ delivery ∈ (since ++ [(frame, now)]).head?, shipment.Carries delivery.1 0)
    (hpending : ¬ shipment.Complete since) (hcarries : shipment.Carries frame number) :
    let outcome := ((table.processAll (earlier ++ since)).process frame now).2
    outcome.ack = .accept (shipment.shard % 64) number ∧
      (shipment.Complete (since ++ [(frame, now)]) → outcome.completed = some shipment.whole) ∧
      (¬ shipment.Complete (since ++ [(frame, now)]) → outcome.completed = none) := by
  have hbefore : (table.processAll earlier).assembly? shipment.identity = none :=
    assembly?_processAll_eq_none hnone
      (fun delivery hmem => htraffic delivery (List.mem_append_left _ hmem)) hearlier
  have hunderway : shipment.Underway (table.processAll (earlier ++ since)) since := by
    rw [ShardTable.processAll, List.foldl_append]
    refine underway_processAll hbefore
      (fun delivery hmem => htraffic delivery (List.mem_append_right _ hmem)) ?_ hpending
    intro delivery hmem
    exact hfirst delivery (by simp [Option.mem_def.mp hmem])
  have hzero : since = [] → number = 0 := by
    rintro rfl
    exact hcarries.number_unique (hfirst (frame, now) (by simp))
  obtain ⟨hack, hlast, hmore⟩ := hunderway.process_carries hcarries hzero now
  exact ⟨hack, fun hall => (hlast hall).1, fun hmissing => (hmore hmissing).1⟩

def threePieces : Shipment where
  identity := ⟨[0xA0, 0, 0, 0, 0, 1], rfl⟩
  paramCount := 2
  packetType := .alarm
  shard := 69
  payload := [7, 8, 9]
  maximum := 1
  pieces := [⟨5, 0, false, [7]⟩, ⟨5, 1, false, [8]⟩, ⟨5, 2, true, [9]⟩]
  maximum_le := by decide
  split_eq := rfl

/-- The last piece comes before the first one and again after it, the first one comes twice, a later
piece of another shard comes in between, and the second piece completes the payload. -/
theorem process_delivery_threePieces :
    let stray := Frame.make threePieces.identity (threePieces.header true) [6, 1, 0, 0]
    let earlier := [(threePieces.frame 2, 3)]
    let since := [(threePieces.frame 0, 5), (stray, 4), (threePieces.frame 2, 9),
      (threePieces.frame 0, 7)]
    let outcome :=
      (((ShardTable.make 20).processAll (earlier ++ since)).process (threePieces.frame 1) 8).2
    outcome.ack = .accept 5 1 ∧ outcome.completed = some threePieces.whole := by
  intro stray earlier since outcome
  have h0 : threePieces.Carries (threePieces.frame 0) 0 := carries_frame _ (by decide)
  have h1 : threePieces.Carries (threePieces.frame 1) 1 := carries_frame _ (by decide)
  have h2 : threePieces.Carries (threePieces.frame 2) 2 := carries_frame _ (by decide)
  have hstray : threePieces.IsUnrelated stray := by
    intro _ _ piece hparse
    have hread : ShardPiece.parse [6, 1, 0, 0] = .ok ⟨6, 1, false, []⟩ := rfl
    obtain rfl := Except.ok.inj (hread.symm.trans hparse)
    decide
  have hmissing : ¬ threePieces.Complete since := by
    intro hall
    obtain ⟨delivery, hmem, hcarries⟩ := hall 1 (by decide)
    simp only [since, List.mem_cons, List.not_mem_nil, or_false] at hmem
    rcases hmem with rfl | rfl | rfl | rfl
    · exact absurd (h0.number_unique hcarries) (by decide)
    · exact hcarries.not_isUnrelated hstray
    · exact absurd (h2.number_unique hcarries) (by decide)
    · exact absurd (h0.number_unique hcarries) (by decide)
  have hall : threePieces.Complete (since ++ [(threePieces.frame 1, 8)]) := by
    intro number hlt
    have hcases : number = 0 ∨ number = 1 ∨ number = 2 := by
      simp only [threePieces, List.length_cons, List.length_nil] at hlt
      omega
    rcases hcases with rfl | rfl | rfl
    · exact ⟨(threePieces.frame 0, 5), by simp [since], h0⟩
    · exact ⟨(threePieces.frame 1, 8), by simp, h1⟩
    · exact ⟨(threePieces.frame 2, 9), by simp [since], h2⟩
  obtain ⟨hack, hdone, _⟩ := @process_delivery threePieces (ShardTable.make 20) rfl earlier since
    (threePieces.frame 1) 1 8
    (by
      intro delivery hmem
      simp only [earlier, since, List.cons_append, List.nil_append, List.mem_cons,
        List.not_mem_nil, or_false] at hmem
      rcases hmem with rfl | rfl | rfl | rfl | rfl
      · exact Or.inr ⟨2, h2⟩
      · exact Or.inr ⟨0, h0⟩
      · exact Or.inl hstray
      · exact Or.inr ⟨2, h2⟩
      · exact Or.inr ⟨0, h0⟩)
    (by
      rintro ⟨delivery, hmem, hcarries⟩
      rw [List.mem_singleton.mp hmem] at hcarries
      exact absurd (h2.number_unique hcarries) (by decide))
    (by
      intro delivery hmem
      simp only [since, List.cons_append, List.head?_cons, Option.mem_def,
        Option.some.injEq] at hmem
      exact hmem ▸ h0)
    hmissing h1
  exact ⟨hack, hdone hall⟩

end Shipment

end SensorGateway
