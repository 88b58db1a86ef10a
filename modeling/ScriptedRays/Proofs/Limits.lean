import ScriptedRays.Proofs.Options

/-!
# Limits — what a mesh reads where its buffers end

The numbers of a mesh need not fit its buffers (`Mesh.limits_exact`).  Positions are exact at every
limit: those of the first vertices are read, as many as the stride leaves room for.  Indices are exact
below `2 ^ 62`; from there on their offset comes round, and a count that is larger finds the words of
the buffer again (`Mesh.index_comes_round`).
-/

namespace ScriptedRays

namespace Mesh

variable {m : Mesh}

/-- The buffers of a mesh are no longer than a machine word can tell. -/
structure Stored (m : Mesh) : Prop where
  vertices : m.vertices.length < UInt64.size
  indices : ∀ bytes, m.indices = some bytes → bytes.length < UInt64.size

/-! ### Positions one after another -/

/-- Reading stops where it may: no position is to be found after the first that is missing. -/
theorem readPositions_eq_filterMap (stride count : Nat) (bytes : Bytes) :
    readPositions stride count bytes =
      (List.range count).filterMap fun v => Position.read? (bytes.drop (v * stride)) := by
  induction count generalizing bytes with
  | zero => rfl
  | succ count ih =>
    rw [List.range_succ_eq_map, List.filterMap_cons, List.filterMap_map, Nat.zero_mul,
      List.drop_zero]
    have hshift : ∀ v, (bytes.drop stride).drop (v * stride) = bytes.drop ((v + 1) * stride) := by
      intro v
      rw [List.drop_drop, Nat.add_one_mul, Nat.add_comm]
    cases hp : Position.read? bytes with
    | some p => simp [readPositions, hp, ih, hshift]
    | none =>
      -- nothing is read here, so less than a position is left, and nothing is read further on either
      have hshort : bytes.length < 12 := by
        by_contra hlong
        obtain ⟨p, hp', -⟩ := Position.read?_of_le (Nat.not_lt.1 hlong)
        exact absurd (hp.symm.trans hp') nofun
      have hnone : ∀ v ∈ List.range count,
          ((fun v => Position.read? (bytes.drop (v * stride))) ∘ Nat.succ) v = none := by
        intro v _
        refine Position.read?_of_lt ?_
        rw [List.length_drop]
        omega
      rw [List.filterMap_eq_nil_iff.2 hnone]
      simp [readPositions, hp]

/-- The positions are those that the vertices have one by one. -/
theorem positions_eq_filterMap (hsize : m.vertices.length < UInt64.size) :
    m.positions = (List.range m.vertexCount.toNat).filterMap fun v =>
      m.position (UInt64.ofNat v) := by
  unfold positions
  rw [readPositions_eq_filterMap]
  apply List.filterMap_congr
  intro v hv
  have hlt := List.mem_range.1 hv
  have hword : (UInt64.ofNat v).toNat = v :=
    UInt64.toNat_ofNat_of_lt' (Nat.lt_trans hlt m.vertexCount.toNat_lt)
  apply Option.ext
  intro p
  rw [position_eq_some hsize, Position.read?_eq_some, UInt64.lt_iff_toNat_lt, hword,
    List.drop_drop]
  unfold place
  rw [hword, Nat.add_comm]
  simp [hlt]

/-! ### Indices -/

theorem isSome_index_iff (hsize : ∀ bytes, m.indices = some bytes → bytes.length < UInt64.size)
    {i : UInt64} : (m.index i).isSome = true ↔ i < m.indexCount ∧
      ∃ bytes, m.indices = some bytes ∧ 4 * (i.toNat % 2 ^ 62) + 4 ≤ bytes.length := by
  simp only [Option.isSome_iff_exists, index_eq_some hsize]
  constructor
  · rintro ⟨w, hlt, bytes, hbytes, hw⟩
    obtain ⟨hplace, -⟩ := List.getElem?_eq_some_iff.1 hw
    rw [Bytes.length_words] at hplace
    exact ⟨hlt, bytes, hbytes, by omega⟩
  · rintro ⟨hlt, bytes, hbytes, hfit⟩
    have hplace : i.toNat % 2 ^ 62 < (Bytes.words bytes).length := by
      rw [Bytes.length_words]
      omega
    exact ⟨_, hlt, bytes, hbytes, List.getElem?_eq_getElem hplace⟩

/-! ### Vertices of a mesh that was read -/

/-- Where the positions of a mesh that was read are packed tightly, every vertex has one. -/
theorem readable_of_read {options : Value} (hosted : Hosted options)
    (h : read options = .ok m) (hstride : m.stride = 12) : m.readable = m.vertexCount.toNat := by
  obtain ⟨⟨b, hb, rfl⟩, -⟩ := (checked_read options).ok m h
  have hread := hb.readFrom hosted
  have htwelve : (ofOptions options b).stride.toNat = 12 := by
    rw [hstride]
    rfl
  have hfits : (ofOptions options b).offset.toNat = 0 := by
    have hoffset := hb.offset
    rw [← hread.stride, ← hread.offset, htwelve] at hoffset
    omega
  have hbytes : (ofOptions options b).vertices.length = b.byteLength :=
    congrArg List.length hread.vertices
  have henough := hb.enough
  unfold readable
  rw [hbytes, hfits, htwelve, hread.vertexCount, if_pos (by omega)]
  omega

/-! ### All limits -/

/-- What a mesh reads, with all sums and products in natural numbers. -/
structure Exact (m : Mesh) : Prop where
  position : ∀ vertex p, m.position vertex = some p ↔ vertex < m.vertexCount ∧
    (m.vertices.drop (m.place vertex)).take 12 = Bytes.ofWords (p.toList.map Single.bits)
  isSome_position : ∀ vertex, (m.position vertex).isSome = true ↔ vertex < m.vertexCount ∧
    vertex.toNat * m.stride.toNat + m.offset.toNat + 12 ≤ m.vertices.length
  positions : m.positions = (List.range m.vertexCount.toNat).filterMap fun v =>
    m.position (UInt64.ofNat v)
  readable : 1 ≤ m.stride → ∀ vertex,
    (m.position vertex).isSome = true ↔ vertex.toNat < m.readable
  index : ∀ i w, i.toNat < 2 ^ 62 → (m.index i = some w ↔ i < m.indexCount ∧
    ∃ bytes, m.indices = some bytes ∧ (bytes.drop (4 * i.toNat)).take 4 = Bytes.ofWord w)
  isSome_index : ∀ i, i.toNat < 2 ^ 62 → ((m.index i).isSome = true ↔ i < m.indexCount ∧
    ∃ bytes, m.indices = some bytes ∧ 4 * i.toNat + 4 ≤ bytes.length)
  index_again : ∀ i, i < m.indexCount → m.index i = m.index (i % 0x4000000000000000)
  indexList : m.indexCount.toNat ≤ 2 ^ 62 →
    m.indexList = (Bytes.words (m.indices.getD [])).take m.indexCount.toNat
  length_indexList : m.indexCount.toNat ≤ 2 ^ 62 →
    m.indexList.length = min m.indexCount.toNat ((m.indices.getD []).length / 4)

theorem Stored.exact (stored : m.Stored) : m.Exact where
  position _ _ := position_eq_some stored.vertices
  isSome_position _ := isSome_position_iff stored.vertices
  positions := positions_eq_filterMap stored.vertices
  readable hstride _ := isSome_position_iff_lt_readable stored.vertices hstride
  index i w hi := by
    rw [index_eq_some stored.indices, Nat.mod_eq_of_lt hi]
    simp only [Bytes.getElem?_words_eq_some]
  isSome_index i hi := by
    rw [isSome_index_iff stored.indices, Nat.mod_eq_of_lt hi]
  index_again i hi := by
    have hmod : (i % 0x4000000000000000).toNat = i.toNat % 2 ^ 62 :=
      UInt64.toNat_mod i 0x4000000000000000
    have hle : i % 0x4000000000000000 < m.indexCount := by
      rw [UInt64.lt_iff_toNat_lt] at hi ⊢
      rw [hmod]
      exact Nat.lt_of_le_of_lt (Nat.mod_le _ _) hi
    apply Option.ext
    intro w
    rw [index_eq_some stored.indices, index_eq_some stored.indices, hmod, Nat.mod_mod]
    simp only [hi, hle]
  indexList hcount := indexList_eq stored.indices hcount
  length_indexList hcount := by
    rw [indexList_eq stored.indices hcount, List.length_take, Bytes.length_words]

/-- **A mesh reads exactly what its numbers say**, as far as that lies in its buffers; indices do so
below `2 ^ 62`.  In a mesh that was read and is packed tightly, every vertex has a position, and so
every index is one of a vertex that has one. -/
theorem limits_exact (m : Mesh) (stored : m.Stored) : m.Exact ∧
    ∀ options, Hosted options → read options = .ok m → m.stride = 12 →
      m.readable = m.vertexCount.toNat ∧
      (∀ vertex, vertex < m.vertexCount → (m.position vertex).isSome = true) ∧
      ∀ w ∈ m.indexList, (m.position w.toUInt64).isSome = true := by
  refine ⟨stored.exact, fun options hosted h hstride => ?_⟩
  have hreadable := readable_of_read hosted h hstride
  have hone : 1 ≤ m.stride := by
    rw [hstride]
    decide
  have hall : ∀ vertex, vertex < m.vertexCount → (m.position vertex).isSome = true := by
    intro vertex hlt
    rw [isSome_position_iff_lt_readable stored.vertices hone, hreadable]
    exact UInt64.lt_iff_toNat_lt.1 hlt
  refine ⟨hreadable, hall, fun w hw => hall _ ?_⟩
  obtain ⟨⟨b, hb, rfl⟩, -⟩ := (checked_read options).ok m h
  rw [UInt64.lt_iff_toNat_lt, UInt32.toNat_toUInt64]
  exact (hb.readFrom hosted).index_lt w hw

/-- Three positions and a byte, packed tightly; two indices and a byte. -/
def packed : Mesh where
  vertices := List.replicate 37 1
  vertexCount := 3
  stride := 12
  offset := 0
  indices := some [2, 0, 0, 0, 1, 0, 0, 0]
  indexCount := 2

def packedOptions : Value := .ofPairs
  [("vertices", .buffer (.ofBytes (List.replicate 37 1))),
    ("indices", .buffer (.ofBytes [2, 0, 0, 0, 1, 0, 0, 0, 5]))]

theorem stored_packed : packed.Stored where
  vertices := by decide
  indices bytes h := by
    obtain rfl := Option.some.inj h
    decide

theorem read_packedOptions : read packedOptions = .ok packed := by rfl

theorem hosted_packedOptions : Hosted packedOptions :=
  hosted_of_get rfl rfl (by decide) (by decide)

theorem limits_exact_packed : packed.Stored ∧ Hosted packedOptions ∧
    read packedOptions = .ok packed ∧ packed.readable = 3 ∧ packed.index 1 = some 1 ∧
    (packed.index 2).isSome = false ∧ (packed.position 2).isSome = true := by
  obtain ⟨hexact, hread⟩ := limits_exact packed stored_packed
  obtain ⟨hreadable, hall, -⟩ :=
    hread packedOptions hosted_packedOptions read_packedOptions rfl
  refine ⟨stored_packed, hosted_packedOptions, read_packedOptions, hreadable, ?_, ?_, ?_⟩
  · exact (hexact.index 1 1 (by decide)).2 ⟨by decide, _, rfl, by decide⟩
  · rw [← Bool.not_eq_true, hexact.isSome_index 2 (by decide)]
    exact fun h => absurd h.1 (by decide)
  · exact hall 2 (by decide)

/-- One index, in a mesh that claims to have more than there are offsets. -/
def overcounted : Mesh where
  vertices := []
  vertexCount := 0
  stride := 12
  offset := 0
  indices := some [7, 0, 0, 0]
  indexCount := 0x4000000000000001

/-- The index at `2 ^ 62` is found in a buffer of four bytes, which ends long before its place. -/
theorem index_comes_round : ¬ ∀ (m : Mesh) (i : UInt64), m.Stored →
    ((m.index i).isSome = true ↔ i < m.indexCount ∧
      ∃ bytes, m.indices = some bytes ∧ 4 * i.toNat + 4 ≤ bytes.length) := by
  intro h
  have hstored : overcounted.Stored := ⟨by decide, fun bytes hbytes => by
    obtain rfl := Option.some.inj hbytes
    decide⟩
  have hfound : (overcounted.index 0x4000000000000000).isSome = true := by decide +kernel
  obtain ⟨-, bytes, hbytes, hfit⟩ := (h overcounted 0x4000000000000000 hstored).1 hfound
  obtain rfl := Option.some.inj hbytes
  exact absurd hfit (by decide +kernel)

end Mesh

end ScriptedRays
