import Mathlib.Algebra.Group.Nat.Defs
import ScriptedRays.Proofs.Bytes
import ScriptedRays.Resource.Mesh

/-!
# Mesh — where positions and indices are found

A position is read at the byte where unbounded arithmetic puts it, or not at all
(`position_eq_some`): an offset that is no word lies past the end of every buffer.  The offset of an
index comes round after `2 ^ 62` of them (`index_eq_some`), so only as many indices are the words of
their buffer in order (`indexList_eq`).
-/

namespace ScriptedRays

/-! ### Checked words -/

theorem addChecked_eq_some {a b c : UInt64} :
    addChecked a b = some c ↔ c.toNat = a.toNat + b.toNat := by
  have hc : c.toNat < UInt64.size := c.toNat_lt
  unfold addChecked
  split
  next h =>
    have hsum : (a + b).toNat = a.toNat + b.toNat := by
      rw [UInt64.toNat_add]
      exact Nat.mod_eq_of_lt h
    rw [Option.some.injEq, ← UInt64.toNat_inj, hsum]
    exact eq_comm
  next h =>
    refine ⟨nofun, fun he => ?_⟩
    omega

theorem mulChecked_eq_some {a b c : UInt64} :
    mulChecked a b = some c ↔ c.toNat = a.toNat * b.toNat := by
  have hc : c.toNat < UInt64.size := c.toNat_lt
  unfold mulChecked
  split
  next h =>
    have hproduct : (a * b).toNat = a.toNat * b.toNat := by
      rw [UInt64.toNat_mul]
      exact Nat.mod_eq_of_lt h
    rw [Option.some.injEq, ← UInt64.toNat_inj, hproduct]
    exact eq_comm
  next h =>
    refine ⟨nofun, fun he => ?_⟩
    omega

theorem exists_toNat_eq {n : Nat} (h : n < UInt64.size) : ∃ w : UInt64, w.toNat = n :=
  ⟨UInt64.ofNat n, UInt64.toNat_ofNat_of_lt' h⟩

/-! ### Positions -/

namespace Position

theorem read?_of_le {bytes : Bytes} (h : 12 ≤ bytes.length) :
    ∃ p, read? bytes = some p ∧ p.toList = (Bytes.words (bytes.take 12)).map Single.mk := by
  have hlen : (Bytes.words (bytes.take 12)).length = 3 := by
    rw [Bytes.length_words, List.length_take, Nat.min_eq_left h]
  obtain ⟨x, y, z, hwords⟩ := List.length_eq_three.1 hlen
  unfold read?
  rw [hwords]
  exact ⟨_, rfl, rfl⟩

theorem read?_of_lt {bytes : Bytes} (h : bytes.length < 12) : read? bytes = none := by
  have hlen : (Bytes.words (bytes.take 12)).length < 3 := by
    rw [Bytes.length_words, List.length_take]
    omega
  unfold read?
  split
  · next hwords =>
    rw [hwords] at hlen
    exact absurd hlen (Nat.lt_irrefl 3)
  · rfl

/-- The position at the start of some bytes is the one whose numbers these bytes are. -/
theorem read?_eq_some {bytes : Bytes} {p : Position} :
    read? bytes = some p ↔ bytes.take 12 = Bytes.ofWords (p.toList.map Single.bits) := by
  have hlist : Bytes.words (bytes.take 12) = p.toList.map Single.bits ↔
      bytes.take 12 = Bytes.ofWords (p.toList.map Single.bits) := by
    constructor
    · intro h
      have hlen := congrArg List.length h
      rw [Bytes.length_words, List.length_take] at hlen
      have hthree : (p.toList.map Single.bits).length = 3 := rfl
      rw [← h, Bytes.ofWords_words, List.take_take, List.length_take]
      congr 1
      omega
    · intro h
      rw [h, Bytes.words_ofWords]
  rw [← hlist]
  unfold read?
  split
  next x y z hwords =>
    rw [hwords, Option.some.injEq]
    constructor
    · rintro rfl
      rfl
    · intro h
      obtain ⟨rfl, rfl, rfl⟩ : x = p.x.bits ∧ y = p.y.bits ∧ z = p.z.bits := by
        simpa [toList] using h
      rfl
  next hwords => exact ⟨nofun, fun h => absurd h (hwords _ _ _)⟩

/-- The bytes of a position are there only if the buffer does not end before. -/
theorem le_of_take_drop {bytes : Bytes} {place : Nat} {p : Position}
    (h : (bytes.drop place).take 12 = Bytes.ofWords (p.toList.map Single.bits)) :
    place + 12 ≤ bytes.length := by
  have htwelve : (Bytes.ofWords (p.toList.map Single.bits)).length = 12 := rfl
  have hlen := congrArg List.length h
  rw [htwelve, List.length_take, List.length_drop] at hlen
  omega

end Position

namespace Mesh

variable {m : Mesh}

/-- The byte at which the position of a vertex begins, wherever that is. -/
def place (m : Mesh) (vertex : UInt64) : Nat := vertex.toNat * m.stride.toNat + m.offset.toNat

theorem position_eq_some (hsize : m.vertices.length < UInt64.size) {vertex : UInt64} {p : Position} :
    m.position vertex = some p ↔ vertex < m.vertexCount ∧
      (m.vertices.drop (m.place vertex)).take 12 = Bytes.ofWords (p.toList.map Single.bits) := by
  have htwelve : Position.size.toNat = 12 := rfl
  unfold position
  split
  next h => exact ⟨nofun, fun ⟨hlt, _⟩ => absurd h (UInt64.not_le.2 hlt)⟩
  next h =>
    have hlt : vertex < m.vertexCount := UInt64.not_le.1 h
    -- a checked operation gives the result that it has on numbers, or nothing
    simp only [Option.bind_eq_bind, Option.bind_eq_some_iff, mulChecked_eq_some, addChecked_eq_some,
      Bytes.slice_eq_some, Position.read?_eq_some, hlt, true_and]
    constructor
    · rintro ⟨product, hproduct, start, hstart, stop, hstop, part, ⟨-, -, rfl⟩, hp⟩
      have hplace : start.toNat = m.place vertex := by rw [hstart, hproduct]; rfl
      rw [hstop, hplace, Nat.add_sub_cancel_left, htwelve, List.take_take] at hp
      exact hp
    · intro hp
      -- there are twelve bytes at this place, so no intermediate result leaves the range
      have hfit : vertex.toNat * m.stride.toNat + m.offset.toNat + 12 ≤ m.vertices.length :=
        Position.le_of_take_drop hp
      obtain ⟨product, hproduct⟩ := exists_toNat_eq (n := vertex.toNat * m.stride.toNat) (by omega)
      obtain ⟨start, hstart⟩ := exists_toNat_eq (n := m.place vertex) (by unfold place; omega)
      obtain ⟨stop, hstop⟩ := exists_toNat_eq (n := m.place vertex + 12) (by unfold place; omega)
      refine ⟨product, hproduct, start, ?_, stop, ?_, _, ⟨?_, ?_, rfl⟩, ?_⟩
      · rw [hstart, hproduct]
        rfl
      · rw [hstop, hstart, htwelve]
      · omega
      · rw [hstop]
        exact hfit
      · rw [hstop, hstart, Nat.add_sub_cancel_left, List.take_take]
        exact hp

/-- A vertex has a position if twelve bytes are left at its place. -/
theorem isSome_position_iff (hsize : m.vertices.length < UInt64.size) {vertex : UInt64} :
    (m.position vertex).isSome = true ↔
      vertex < m.vertexCount ∧ m.place vertex + 12 ≤ m.vertices.length := by
  rw [Option.isSome_iff_exists]
  constructor
  · rintro ⟨p, hp⟩
    obtain ⟨hlt, hbytes⟩ := (position_eq_some hsize).1 hp
    exact ⟨hlt, Position.le_of_take_drop hbytes⟩
  · rintro ⟨hlt, hfit⟩
    have hlen : 12 ≤ (m.vertices.drop (m.place vertex)).length := by
      rw [List.length_drop]
      omega
    obtain ⟨p, hp, -⟩ := Position.read?_of_le hlen
    exact ⟨p, (position_eq_some hsize).2 ⟨hlt, Position.read?_eq_some.1 hp⟩⟩

/-! ### Vertices with a position -/

/-- How many vertices, from the first on, have their positions inside the buffer, if the stride is
not zero. -/
def readable (m : Mesh) : Nat :=
  if m.offset.toNat + 12 ≤ m.vertices.length then
    min m.vertexCount.toNat
      ((m.vertices.length - m.offset.toNat - 12) / m.stride.toNat + 1)
  else 0

/-- The vertices with a position are the first ones. -/
theorem isSome_position_iff_lt_readable (hsize : m.vertices.length < UInt64.size)
    (hstride : 1 ≤ m.stride) {vertex : UInt64} :
    (m.position vertex).isSome = true ↔ vertex.toNat < m.readable := by
  have hpos : 0 < m.stride.toNat := UInt64.le_iff_toNat_le.1 hstride
  rw [isSome_position_iff hsize, UInt64.lt_iff_toNat_lt]
  unfold readable place
  split
  next hfit =>
    have hdiv := Nat.le_div_iff_mul_le hpos (x := vertex.toNat)
      (y := m.vertices.length - m.offset.toNat - 12)
    omega
  next hshort => omega

/-! ### Indices -/

/-- The offset of an index comes round after `2 ^ 62` of them. -/
theorem index_eq_some (hsize : ∀ bytes, m.indices = some bytes → bytes.length < UInt64.size)
    {i : UInt64} {w : UInt32} :
    m.index i = some w ↔ i < m.indexCount ∧
      ∃ bytes, m.indices = some bytes ∧ (Bytes.words bytes)[i.toNat % 2 ^ 62]? = some w := by
  unfold index
  split
  next h => exact ⟨nofun, fun ⟨hlt, _⟩ => absurd h (UInt64.not_le.2 hlt)⟩
  next h =>
    have hlt : i < m.indexCount := UInt64.not_le.1 h
    -- the place is computed without a check, so it comes round for numbers of `2 ^ 62` and more
    have hstart : (i * 4).toNat = 4 * (i.toNat % 2 ^ 62) := by
      have hfour : (4 : UInt64).toNat = 4 := rfl
      rw [UInt64.toNat_mul, hfour]
      omega
    have hstop : (i * 4 + 4).toNat = (4 * (i.toNat % 2 ^ 62) + 4) % 2 ^ 64 := by
      have hfour : (4 : UInt64).toNat = 4 := rfl
      rw [UInt64.toNat_add, hstart, hfour]
    cases hindices : m.indices with
    | none => simp
    | some bytes =>
      have hshort : bytes.length < 2 ^ 64 := hsize bytes hindices
      simp only [Option.bind_eq_bind, Option.bind_some, Option.bind_eq_some_iff, hlt, true_and,
        Bytes.slice_eq_some, Option.some.injEq, exists_eq_left', Bytes.getElem?_words_eq_some,
        List.head?_eq_getElem?, Nat.mul_zero, List.drop_zero, hstart, hstop]
      constructor
      · rintro ⟨part, ⟨hle, hfit, rfl⟩, hw⟩
        have hfour : (4 * (i.toNat % 2 ^ 62) + 4) % 2 ^ 64 - 4 * (i.toNat % 2 ^ 62) = 4 := by
          omega
        rw [hfour, List.take_take] at hw
        exact hw
      · intro hw
        -- four bytes are there, so the end of the word does not come round
        have hlen := congrArg List.length hw
        rw [Bytes.length_ofWord, List.length_take, List.length_drop] at hlen
        have hfour : (4 * (i.toNat % 2 ^ 62) + 4) % 2 ^ 64 = 4 * (i.toNat % 2 ^ 62) + 4 := by
          omega
        refine ⟨_, ⟨?_, ?_, rfl⟩, ?_⟩
        · omega
        · omega
        · rw [hfour, Nat.add_sub_cancel_left, List.take_take]
          exact hw

theorem indicesFrom_eq (m : Mesh) (first : UInt64) (count : Nat) :
    m.indicesFrom first count =
      (List.range count).filterMap fun k => m.index (first + UInt64.ofNat k) := by
  induction count generalizing first with
  | zero => rfl
  | succ count ih =>
    have hshift : ∀ k, first + UInt64.ofNat (k + 1) = first + 1 + UInt64.ofNat k := fun k => by
      rw [UInt64.ofNat_add, UInt64.add_assoc, UInt64.add_comm (UInt64.ofNat k)]
      rfl
    rw [List.range_succ_eq_map, List.filterMap_cons, List.filterMap_map]
    have hzero : first + UInt64.ofNat 0 = first := UInt64.add_zero first
    simp only [Function.comp_def, Nat.succ_eq_add_one, hshift, hzero, ← ih, indicesFrom]
    cases m.index first <;> rfl

theorem filterMap_getElem?_range {α : Type} (l : List α) (n : Nat) :
    ((List.range n).filterMap fun k => l[k]?) = l.take n := by
  induction n with
  | zero => rfl
  | succ n ih =>
    rw [List.range_succ, List.filterMap_append, ih, List.take_add_one, List.filterMap_cons,
      List.filterMap_nil]
    cases l[n]? <;> rfl

/-- The indices are the words of their buffer, over and over. -/
theorem indexList_eq_filterMap
    (hsize : ∀ bytes, m.indices = some bytes → bytes.length < UInt64.size) :
    m.indexList = (List.range m.indexCount.toNat).filterMap fun k =>
      (Bytes.words (m.indices.getD []))[k % 2 ^ 62]? := by
  unfold indexList
  rw [indicesFrom_eq]
  apply List.filterMap_congr
  intro k hk
  have hlt := List.mem_range.1 hk
  have hword : (0 + UInt64.ofNat k).toNat = k := by
    rw [UInt64.zero_add]
    exact UInt64.toNat_ofNat_of_lt' (Nat.lt_trans hlt m.indexCount.toNat_lt)
  apply Option.ext
  intro w
  rw [index_eq_some hsize, UInt64.lt_iff_toNat_lt, hword]
  cases hindices : m.indices with
  | none => simp
  | some bytes => simp [hlt]

/-- Up to `2 ^ 62` indices are the words of their buffer, in order. -/
theorem indexList_eq (hsize : ∀ bytes, m.indices = some bytes → bytes.length < UInt64.size)
    (hcount : m.indexCount.toNat ≤ 2 ^ 62) :
    m.indexList = (Bytes.words (m.indices.getD [])).take m.indexCount.toNat := by
  rw [indexList_eq_filterMap hsize, ← filterMap_getElem?_range]
  apply List.filterMap_congr
  intro k hk
  have hlt := List.mem_range.1 hk
  rw [Nat.mod_eq_of_lt (by omega)]

end Mesh

end ScriptedRays
