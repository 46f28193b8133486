import Mathlib.Data.List.Basic
import SensorGateway.Proofs.Keyed
import SensorGateway.Shard.Assembly

/-!
# What a reassembly holds

Whatever pieces arrive, in whatever order and with whatever end marks, a reassembly relates to the
pieces it has accepted in one way, and `Holds` says which: the appended bytes are one accepted body
for each number below the expected one, every waiting body was accepted under its number and is not
behind, and no accepted piece has been lost. `Settled` says that the expected piece is not among
those that wait; together they make the expected number the first one that has not been accepted.
The end mark is kept apart, in `Marked`, because it decides when a reassembly is complete and
nothing about what it holds.
-/

namespace SensorGateway

/-- One body for each piece number below `count`, each of a received piece, one after the other. -/
def Joins (received : List ShardPiece) (count : Nat) (bytes : Bytes) : Prop :=
  ∃ bodies : List Bytes, bodies.length = count ∧ bodies.flatten = bytes ∧
    ∀ (number : Nat) (body : Bytes), bodies[number]? = some body →
      ∃ piece ∈ received, piece.piece = number ∧ piece.data = body

theorem joins_zero (received : List ShardPiece) : Joins received 0 [] :=
  ⟨[], rfl, rfl, by simp⟩

theorem Joins.mono {received more : List ShardPiece} {count : Nat} {bytes : Bytes}
    (h : Joins received count bytes) (hsub : received ⊆ more) : Joins more count bytes := by
  obtain ⟨bodies, hlength, hflatten, hbodies⟩ := h
  refine ⟨bodies, hlength, hflatten, fun number body hbody => ?_⟩
  obtain ⟨piece, hmem, hnumber, hdata⟩ := hbodies number body hbody
  exact ⟨piece, hsub hmem, hnumber, hdata⟩

theorem Joins.concat {received : List ShardPiece} {count : Nat} {bytes : Bytes}
    (h : Joins received count bytes) {piece : ShardPiece} (hmem : piece ∈ received)
    (hnumber : piece.piece = count) : Joins received (count + 1) (bytes ++ piece.data) := by
  obtain ⟨bodies, hlength, hflatten, hbodies⟩ := h
  refine ⟨bodies ++ [piece.data], by simp [hlength], by simp [hflatten], ?_⟩
  intro number body hbody
  by_cases hlt : number < bodies.length
  · rw [List.getElem?_append_left hlt] at hbody
    exact hbodies number body hbody
  · have hlast : number = bodies.length := by
      have := (List.getElem?_eq_some_iff.mp hbody).1
      simp only [List.length_append, List.length_singleton] at this
      omega
    rw [hlast, List.getElem?_concat_length, Option.some.injEq] at hbody
    exact ⟨piece, hmem, by omega, hbody⟩

/-- If the pieces of a number all have the same body and no body is empty, a byte string is joined
from the pieces below one number only. -/
theorem Joins.count_unique {received : List ShardPiece} {left right : Nat} {bytes : Bytes}
    (hleft : Joins received left bytes) (hright : Joins received right bytes)
    (hsame : ∀ piece ∈ received, ∀ other ∈ received, piece.piece = other.piece →
      piece.data = other.data)
    (hnonempty : ∀ piece ∈ received, piece.data ≠ []) : left = right := by
  -- the bodies of the shorter join begin the longer one, and what is left over is empty
  have hle : ∀ {few many : Nat}, Joins received few bytes → Joins received many bytes →
      few ≤ many → few = many := by
    intro few many hfew hmany hle
    obtain ⟨short, hshort, hshortFlatten, hshortBodies⟩ := hfew
    obtain ⟨long, hlong, hlongFlatten, hlongBodies⟩ := hmany
    have hprefix : long.take few = short := by
      refine List.ext_getElem (by simp; omega) fun number htake hnumber => ?_
      obtain ⟨piece, hmem, hpiece, hdata⟩ :=
        hshortBodies number _ (List.getElem?_eq_getElem hnumber)
      have hlt : number < long.length := by omega
      obtain ⟨other, hother, hotherPiece, hotherData⟩ :=
        hlongBodies number _ (List.getElem?_eq_getElem hlt)
      rw [List.getElem_take, ← hdata, ← hotherData]
      exact hsame other hother piece hmem (hotherPiece.trans hpiece.symm)
    have hrest : (long.drop few).flatten = [] := by
      have hsplit : long.flatten = short.flatten ++ (long.drop few).flatten := by
        rw [← hprefix, ← List.flatten_append, List.take_append_drop]
      rw [hlongFlatten, hshortFlatten] at hsplit
      exact List.self_eq_append_right.mp hsplit
    by_contra hne
    have hlt : few < long.length := by omega
    obtain ⟨piece, hmem, _, hdata⟩ := hlongBodies few _ (List.getElem?_eq_getElem hlt)
    apply hnonempty piece hmem
    rw [hdata]
    refine List.flatten_eq_nil_iff.mp hrest _ (List.mem_iff_getElem.mpr ⟨0, ?_, ?_⟩)
    · rw [List.length_drop]
      omega
    · simp
  rcases Nat.le_total left right with h | h
  · exact hle hleft hright h
  · exact (hle hright hleft h).symm

namespace Assembly

/-! ### What merging and appending leave alone -/

theorem exists_merge_eq (count : Nat) (assembly : Assembly) :
    ∃ expected accumulated early,
      merge count assembly = { assembly with expected, accumulated, early } := by
  induction count generalizing assembly with
  | zero => exact ⟨_, _, _, rfl⟩
  | succ count ih =>
    rw [merge]
    split
    · exact ⟨_, _, _, rfl⟩
    · rename_i data _
      obtain ⟨expected, accumulated, early, hnext⟩ := ih
        { assembly with
          accumulated := assembly.accumulated ++ data
          early := assembly.early.erase assembly.expected
          expected := assembly.expected + 1 }
      exact ⟨expected, accumulated, early, hnext⟩

section Append

variable (assembly : Assembly) (data : Bytes)

theorem exists_append_eq :
    ∃ expected accumulated early,
      assembly.append data = { assembly with expected, accumulated, early } := by
  obtain ⟨expected, accumulated, early, h⟩ := exists_merge_eq assembly.early.size
    { assembly with
      accumulated := assembly.accumulated ++ data
      expected := assembly.expected + 1 }
  exact ⟨expected, accumulated, early, h⟩

@[simp]
theorem append_generation : (assembly.append data).generation = assembly.generation := by
  obtain ⟨_, _, _, h⟩ := exists_append_eq assembly data
  rw [h]

@[simp]
theorem append_shard : (assembly.append data).shard = assembly.shard := by
  obtain ⟨_, _, _, h⟩ := exists_append_eq assembly data
  rw [h]

@[simp]
theorem append_final : (assembly.append data).final = assembly.final := by
  obtain ⟨_, _, _, h⟩ := exists_append_eq assembly data
  rw [h]

@[simp]
theorem append_lastPiece : (assembly.append data).lastPiece = assembly.lastPiece := by
  obtain ⟨_, _, _, h⟩ := exists_append_eq assembly data
  rw [h]

@[simp]
theorem append_paramCount : (assembly.append data).paramCount = assembly.paramCount := by
  obtain ⟨_, _, _, h⟩ := exists_append_eq assembly data
  rw [h]

@[simp]
theorem append_packetType : (assembly.append data).packetType = assembly.packetType := by
  obtain ⟨_, _, _, h⟩ := exists_append_eq assembly data
  rw [h]

@[simp]
theorem append_deadline : (assembly.append data).deadline = assembly.deadline := by
  obtain ⟨_, _, _, h⟩ := exists_append_eq assembly data
  rw [h]

end Append

section Accept

variable (assembly : Assembly) (piece : ShardPiece) (deadline : Time)

@[simp]
theorem accept_generation : (assembly.accept piece deadline).generation = assembly.generation := by
  simp only [accept]
  split_ifs <;> simp

@[simp]
theorem accept_shard : (assembly.accept piece deadline).shard = assembly.shard := by
  simp only [accept]
  split_ifs <;> simp

@[simp]
theorem accept_paramCount : (assembly.accept piece deadline).paramCount = assembly.paramCount := by
  simp only [accept]
  split_ifs <;> simp

@[simp]
theorem accept_packetType : (assembly.accept piece deadline).packetType = assembly.packetType := by
  simp only [accept]
  split_ifs <;> simp

@[simp]
theorem accept_lastPiece : (assembly.accept piece deadline).lastPiece = piece.piece := by
  simp only [accept]
  split_ifs <;> rfl

/-- An end mark counts unless the piece that bears it has been appended before. -/
theorem accept_final :
    (assembly.accept piece deadline).final =
      if piece.final = true ∧ assembly.expected ≤ piece.piece then some piece.piece
      else assembly.final := by
  simp only [accept]
  by_cases hlow : piece.piece < assembly.expected
  · rw [if_pos hlow, if_neg (by omega)]
  · have hle : assembly.expected ≤ piece.piece := by omega
    rw [if_neg hlow]
    split_ifs <;> simp_all

end Accept

section Start

variable (generation : Nat) (header : Header) (piece : ShardPiece) (deadline : Time)

@[simp]
theorem start_generation : (start generation header piece deadline).generation = generation := by
  simp [start]

@[simp]
theorem start_shard : (start generation header piece deadline).shard = piece.shard := by
  simp [start]

@[simp]
theorem start_paramCount :
    (start generation header piece deadline).paramCount = header.paramCount := by
  simp [start]

@[simp]
theorem start_packetType :
    (start generation header piece deadline).packetType = header.packetType := by
  simp [start]

@[simp]
theorem start_lastPiece : (start generation header piece deadline).lastPiece = piece.piece := by
  simp [start]

@[simp]
theorem start_final :
    (start generation header piece deadline).final =
      if piece.final then some piece.piece else none := by
  simp [start]

end Start

/-! ### The expected number only rises -/

theorem expected_le_merge (count : Nat) (assembly : Assembly) :
    assembly.expected ≤ (merge count assembly).expected := by
  induction count generalizing assembly with
  | zero => exact Nat.le_refl _
  | succ count ih =>
    rw [merge]
    split
    · exact Nat.le_refl _
    · rename_i data _
      have hrest := ih
        { assembly with
          accumulated := assembly.accumulated ++ data
          early := assembly.early.erase assembly.expected
          expected := assembly.expected + 1 }
      exact Nat.le_of_succ_le hrest

theorem lt_expected_append (assembly : Assembly) (data : Bytes) :
    assembly.expected < (assembly.append data).expected :=
  expected_le_merge assembly.early.size
    { assembly with
      accumulated := assembly.accumulated ++ data
      expected := assembly.expected + 1 }

theorem expected_start_pos (generation : Nat) (header : Header) (piece : ShardPiece)
    (deadline : Time) : 0 < (start generation header piece deadline).expected :=
  Nat.zero_lt_of_lt (lt_expected_append _ piece.data)

/-! ### A piece that comes again -/

section Again

variable (assembly : Assembly) {piece : ShardPiece} (deadline : Time)

theorem accept_of_lt (hlow : piece.piece < assembly.expected) :
    assembly.accept piece deadline = { assembly with lastPiece := piece.piece } := by
  rw [accept, if_pos hlow]

theorem accept_of_eq (hturn : piece.piece = assembly.expected) :
    assembly.accept piece deadline =
      { assembly.append piece.data with
        lastPiece := piece.piece
        final := if piece.final then some piece.piece else assembly.final
        deadline } := by
  have hle := Nat.le_of_eq hturn
  have hge := Nat.le_of_eq hturn.symm
  rw [accept, if_neg (Nat.not_lt.mpr hge), if_neg (Nat.not_lt.mpr hle)]

theorem accept_of_gt (hhigh : assembly.expected < piece.piece) :
    assembly.accept piece deadline =
      { assembly with
        lastPiece := piece.piece
        early := assembly.early.insert piece.piece piece.data
        final := if piece.final then some piece.piece else assembly.final
        deadline :=
          if assembly.early.contains piece.piece then assembly.deadline else deadline } := by
  rw [accept, if_neg (Nat.lt_asymm hhigh), if_pos hhigh]

/-- A piece that is below the expected number, or waits with the data it comes with, leaves no
trace but its number. -/
theorem accept_accept (later : Time) :
    (assembly.accept piece deadline).accept piece later = assembly.accept piece deadline := by
  rcases Nat.lt_trichotomy piece.piece assembly.expected with hlow | hturn | hhigh
  · rw [assembly.accept_of_lt deadline hlow]
    exact accept_of_lt _ later hlow
  · -- once appended, the piece is below the expected number
    have hpast : piece.piece < (assembly.accept piece deadline).expected := by
      rw [assembly.accept_of_eq deadline hturn, hturn]
      exact assembly.lt_expected_append piece.data
    have hlast := assembly.accept_lastPiece piece deadline
    rw [accept_of_lt _ later hpast]
    generalize assembly.accept piece deadline = next at hlast
    rw [← hlast]
  · rw [assembly.accept_of_gt deadline hhigh, accept, if_neg (Nat.lt_asymm hhigh), if_pos hhigh]
    simp only [Keyed.insert_insert, Keyed.contains, Keyed.get?_insert_self, Option.isSome_some,
      if_true]
    congr 1
    split <;> rfl

theorem advancesOn_accept : (assembly.accept piece deadline).advancesOn piece.piece = false := by
  rcases Nat.lt_trichotomy piece.piece assembly.expected with hlow | hturn | hhigh
  · rw [assembly.accept_of_lt deadline hlow]
    simp [advancesOn, Nat.ne_of_lt hlow, Nat.lt_asymm hlow]
  · have hlt := assembly.lt_expected_append piece.data
    rw [assembly.accept_of_eq deadline hturn, hturn]
    simp [advancesOn, Nat.ne_of_lt hlt, Nat.lt_asymm hlt]
  · rw [assembly.accept_of_gt deadline hhigh]
    simp [advancesOn, Nat.ne_of_gt hhigh, Keyed.contains]

end Again

theorem isComplete_eq_true_iff {assembly : Assembly} :
    assembly.isComplete = true ↔ ∃ last, assembly.final = some last ∧ last < assembly.expected := by
  rw [isComplete]
  cases assembly.final <;> simp

theorem isPastEnd_eq_false_iff {assembly : Assembly} {number : Nat} :
    assembly.isPastEnd number = false ↔ ∀ last, assembly.final = some last → number ≤ last := by
  rw [isPastEnd]
  cases assembly.final <;> simp

/-! ### The invariant -/

/-- How a reassembly relates to the pieces it has accepted. -/
structure Holds (assembly : Assembly) (received : List ShardPiece) : Prop where
  shard_eq : ∀ piece ∈ received, piece.shard = assembly.shard
  joins : Joins received assembly.expected assembly.accumulated
  waiting : ∀ number body, assembly.early.get? number = some body →
    assembly.expected ≤ number ∧ ∃ piece ∈ received, piece.piece = number ∧ piece.data = body
  kept : ∀ piece ∈ received,
    piece.piece < assembly.expected ∨ ∃ body, assembly.early.get? piece.piece = some body

/-- The expected piece does not wait. -/
def Settled (assembly : Assembly) : Prop :=
  assembly.early.get? assembly.expected = none

/-- The end mark has come with an accepted piece. -/
def Marked (assembly : Assembly) (received : List ShardPiece) : Prop :=
  ∀ last, assembly.final = some last → ∃ piece ∈ received, piece.final = true ∧ piece.piece = last

variable {assembly : Assembly} {received : List ShardPiece} {piece : ShardPiece}

theorem Holds.congr {other : Assembly} (h : assembly.Holds received)
    (hshard : other.shard = assembly.shard) (hexpected : other.expected = assembly.expected)
    (haccumulated : other.accumulated = assembly.accumulated)
    (hearly : other.early = assembly.early) : other.Holds received := by
  obtain ⟨hshards, hjoins, hwaiting, hkept⟩ := h
  exact ⟨hshard ▸ hshards, by rwa [hexpected, haccumulated], by rwa [hexpected, hearly],
    by rwa [hexpected, hearly]⟩

theorem Holds.advance (h : assembly.Holds received) {body : Bytes}
    (hbody : assembly.early.get? assembly.expected = some body) :
    Holds
      { assembly with
        accumulated := assembly.accumulated ++ body
        early := assembly.early.erase assembly.expected
        expected := assembly.expected + 1 } received := by
  obtain ⟨piece, hmem, hnumber, hdata⟩ := (h.waiting _ _ hbody).2
  refine ⟨h.shard_eq, hdata ▸ h.joins.concat hmem hnumber, ?_, ?_⟩
  · intro number other hother
    have hne : number ≠ assembly.expected := by
      intro heq
      rw [heq, Keyed.get?_erase_self] at hother
      cases hother
    rw [Keyed.get?_erase_of_ne _ hne] at hother
    obtain ⟨hle, hreceived⟩ := h.waiting _ _ hother
    exact ⟨by change assembly.expected + 1 ≤ number; omega, hreceived⟩
  · intro other hother
    change other.piece < assembly.expected + 1 ∨
      ∃ body, (assembly.early.erase assembly.expected).get? other.piece = some body
    by_cases heq : other.piece = assembly.expected
    · exact Or.inl (by omega)
    · rw [Keyed.get?_erase_of_ne _ heq]
      exact (h.kept other hother).imp_left fun hlt => by omega

theorem Holds.merge (h : assembly.Holds received) (count : Nat) :
    (merge count assembly).Holds received := by
  induction count generalizing assembly with
  | zero => exact h
  | succ count ih =>
    rw [Assembly.merge]
    split
    · exact h
    · rename_i body hbody
      exact ih (h.advance hbody)

/-- Merging stops only when the expected piece is not there: there are no more steps than pieces
that wait. -/
theorem settled_merge (count : Nat) (hcount : assembly.early.size ≤ count) :
    (merge count assembly).Settled := by
  induction count generalizing assembly with
  | zero => exact Keyed.get?_eq_none_of_size_eq_zero (Nat.le_zero.mp hcount) _
  | succ count ih =>
    rw [merge]
    split
    · assumption
    · rename_i body hbody
      refine ih ?_
      have hlt := Keyed.size_erase_lt hbody
      change (assembly.early.erase assembly.expected).size ≤ count
      omega

theorem Holds.append (h : assembly.Holds received) (hsettled : assembly.Settled)
    (hshard : piece.shard = assembly.shard) (hturn : piece.piece = assembly.expected) :
    (assembly.append piece.data).Holds (received ++ [piece]) := by
  refine Holds.merge ⟨?_, ?_, ?_, ?_⟩ assembly.early.size
  · intro other hother
    rcases List.mem_append.mp hother with hother | hother
    · exact h.shard_eq other hother
    · rwa [List.mem_singleton.mp hother]
  · exact (h.joins.mono (List.subset_append_left _ _)).concat (by simp) hturn
  · intro number body hbody
    obtain ⟨hle, other, hmem, hnumber, hdata⟩ := h.waiting number body hbody
    refine ⟨?_, other, List.mem_append_left _ hmem, hnumber, hdata⟩
    have hne : number ≠ assembly.expected := by
      intro heq
      rw [heq, hsettled] at hbody
      cases hbody
    change assembly.expected + 1 ≤ number
    omega
  · intro other hother
    change other.piece < assembly.expected + 1 ∨ _
    rcases List.mem_append.mp hother with hother | hother
    · exact (h.kept other hother).imp_left fun hlt => by omega
    · rw [List.mem_singleton.mp hother]
      exact Or.inl (by omega)

theorem settled_append (assembly : Assembly) (data : Bytes) : (assembly.append data).Settled :=
  settled_merge _ (Nat.le_refl _)

theorem Holds.repeat (h : assembly.Holds received) (hshard : piece.shard = assembly.shard)
    (hlow : piece.piece < assembly.expected) : assembly.Holds (received ++ [piece]) := by
  refine ⟨?_, h.joins.mono (List.subset_append_left _ _), ?_, ?_⟩
  · intro other hother
    rcases List.mem_append.mp hother with hother | hother
    · exact h.shard_eq other hother
    · rwa [List.mem_singleton.mp hother]
  · intro number body hbody
    obtain ⟨hle, other, hmem, hother⟩ := h.waiting number body hbody
    exact ⟨hle, other, List.mem_append_left _ hmem, hother⟩
  · intro other hother
    rcases List.mem_append.mp hother with hother | hother
    · exact h.kept other hother
    · rw [List.mem_singleton.mp hother]
      exact Or.inl hlow

/-- A piece that comes too early waits, in place of an earlier one of its number. -/
theorem Holds.insert (h : assembly.Holds received) (hshard : piece.shard = assembly.shard)
    (hhigh : assembly.expected < piece.piece) :
    Holds { assembly with early := assembly.early.insert piece.piece piece.data }
      (received ++ [piece]) := by
  refine ⟨?_, h.joins.mono (List.subset_append_left _ _), ?_, ?_⟩
  · intro other hother
    rcases List.mem_append.mp hother with hother | hother
    · exact h.shard_eq other hother
    · rwa [List.mem_singleton.mp hother]
  · intro number body hbody
    by_cases heq : number = piece.piece
    · rw [heq, Keyed.get?_insert_self, Option.some.injEq] at hbody
      exact ⟨by change assembly.expected ≤ number; omega, piece, by simp, heq.symm, hbody⟩
    · rw [Keyed.get?_insert_of_ne _ _ heq] at hbody
      obtain ⟨hle, other, hmem, hother⟩ := h.waiting number body hbody
      exact ⟨hle, other, List.mem_append_left _ hmem, hother⟩
  · intro other hother
    change other.piece < assembly.expected ∨
      ∃ body, (assembly.early.insert piece.piece piece.data).get? other.piece = some body
    by_cases heq : other.piece = piece.piece
    · exact Or.inr ⟨piece.data, by rw [heq, Keyed.get?_insert_self]⟩
    · rw [Keyed.get?_insert_of_ne _ _ heq]
      rcases List.mem_append.mp hother with hother | hother
      · exact h.kept other hother
      · exact absurd (congrArg ShardPiece.piece (List.mem_singleton.mp hother)) heq

theorem Holds.accept (h : assembly.Holds received) (hsettled : assembly.Settled)
    (hshard : piece.shard = assembly.shard) (deadline : Time) :
    (assembly.accept piece deadline).Holds (received ++ [piece]) := by
  rcases Nat.lt_trichotomy piece.piece assembly.expected with hlow | hturn | hhigh
  · rw [accept_of_lt _ deadline hlow]
    exact (h.repeat hshard hlow).congr rfl rfl rfl rfl
  · rw [accept_of_eq _ deadline hturn]
    exact (h.append hsettled hshard hturn).congr rfl rfl rfl rfl
  · rw [accept_of_gt _ deadline hhigh]
    exact (h.insert hshard hhigh).congr rfl rfl rfl rfl

theorem Settled.accept (hsettled : assembly.Settled) (deadline : Time) :
    (assembly.accept piece deadline).Settled := by
  rcases Nat.lt_trichotomy piece.piece assembly.expected with hlow | hturn | hhigh
  · rw [accept_of_lt _ deadline hlow]
    exact hsettled
  · rw [accept_of_eq _ deadline hturn]
    exact settled_append assembly piece.data
  · rw [accept_of_gt _ deadline hhigh]
    exact (Keyed.get?_insert_of_ne _ _ (Nat.ne_of_lt hhigh)).trans hsettled

theorem Marked.accept (h : assembly.Marked received) (deadline : Time) :
    (assembly.accept piece deadline).Marked (received ++ [piece]) := by
  intro last hlast
  rw [accept_final] at hlast
  split_ifs at hlast with hmark
  · exact ⟨piece, by simp, hmark.1, Option.some.inj hlast⟩
  · obtain ⟨other, hmem, hother⟩ := h last hlast
    exact ⟨other, List.mem_append_left _ hmem, hother⟩

theorem holds_start (generation : Nat) (header : Header) (hstart : piece.piece = 0)
    (deadline : Time) : (start generation header piece deadline).Holds [piece] := by
  have hempty : Holds
      { generation, shard := piece.shard, expected := 0, accumulated := [], early := Keyed.empty,
        final := if piece.final then some piece.piece else none, lastPiece := piece.piece,
        paramCount := header.paramCount, packetType := header.packetType, deadline } [] :=
    ⟨by simp, joins_zero _, by simp, by simp⟩
  exact hempty.append (Keyed.get?_empty _) rfl hstart

theorem settled_start (generation : Nat) (header : Header) (piece : ShardPiece)
    (deadline : Time) : (start generation header piece deadline).Settled :=
  settled_append _ piece.data

theorem marked_start (generation : Nat) (header : Header) (piece : ShardPiece)
    (deadline : Time) : (start generation header piece deadline).Marked [piece] := by
  intro last hlast
  rw [start_final] at hlast
  split_ifs at hlast with hmark
  exact ⟨piece, by simp, hmark, Option.some.inj hlast⟩

/-! ### The expected number is the first one missing -/

theorem Holds.exists_of_lt (h : assembly.Holds received) {number : Nat}
    (hlt : number < assembly.expected) : ∃ piece ∈ received, piece.piece = number := by
  obtain ⟨bodies, hlength, _, hbodies⟩ := h.joins
  obtain ⟨piece, hmem, hnumber, _⟩ :=
    hbodies number _ (List.getElem?_eq_getElem (by omega : number < bodies.length))
  exact ⟨piece, hmem, hnumber⟩

theorem Holds.piece_ne_expected (h : assembly.Holds received) (hsettled : assembly.Settled)
    (hmem : piece ∈ received) : piece.piece ≠ assembly.expected := by
  intro heq
  rcases h.kept piece hmem with hlt | ⟨body, hbody⟩
  · omega
  · rw [heq, hsettled] at hbody
    cases hbody

end Assembly

end SensorGateway
