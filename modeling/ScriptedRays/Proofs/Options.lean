import ScriptedRays.Proofs.Checks
import ScriptedRays.Proofs.Mesh
import ScriptedRays.Request.Geometry

/-!
# Options — which meshes a script can describe

Options describe a mesh exactly if they pass the checks in `Mesh.faults`, one after another; the
first that they do not pass is what a script is told (`Mesh.read_exact`).  The mesh has all the bytes
of the vertices and the complete words of the indices, and every index names a vertex.
-/

namespace ScriptedRays

namespace Value

/-- The buffer that a value is. -/
def buffer? : Value → Option Buffer
  | buffer b => some b
  | _ => none

theorem buffer?_eq_some {v : Value} {b : Buffer} : v.buffer? = some b ↔ v = .buffer b := by
  cases v with
  | buffer b' => simp [buffer?]
  | _ => simp [buffer?]

end Value

/-! ### What can be wrong -/

/-- All that can be wrong with a field that must hold bytes. -/
def Buffer.faults (v : Value) (field : String) : List (Error → Prop) :=
  [Fault (v.isAbsent = true) (.invalid (.missingField field)),
    Fault (v.buffer? = none) (.invalid (.notTypedArray field v.typeName)),
    Fault (∃ b, v = .buffer b ∧ b.byteLength = 0) (.invalid (.emptyField field))]

namespace Mesh

/-- What is told of indices that are there and are no buffer. -/
def NotBuffer (v : Value) : Error → Prop :=
  Fault (v.isAbsent = false ∧ v.buffer? = none) (.invalid (.notTypedArray "indices" v.typeName))

/-- What is told of the first index that names no vertex. -/
def OutOfRange (vertexCount : Nat) : List UInt32 → Error → Prop :=
  FirstAmong fun place w =>
    Fault (vertexCount ≤ w.toNat) (.invalid (.indexOutOfRange w.toNat place vertexCount))

/-- The words of a buffer, as far as they are complete; of another value none. -/
def wordsOf (v : Value) : List UInt32 := v.buffer?.elim [] Buffer.words

/-- The bytes of these words: none where there are no bytes at all. -/
def wordBytesOf (v : Value) : Option Bytes :=
  v.buffer?.bind fun b =>
    if b.isEmpty then none else some (b.bytes.take (4 * (b.byteLength / 4)))

/-- The number of these words. -/
def wordCountOf (v : Value) : Nat := v.buffer?.elim 0 fun b => b.byteLength / 4

/-- The vertices that the bytes given for them hold, if packed tightly. -/
def vertexCountOf (options : Value) : Nat :=
  (options.get "vertices").buffer?.elim 0 fun b => b.byteLength / 12

/-- The stride given, if it is a number with a word in it, and that of tightly packed positions if
not. -/
def strideOf (options : Value) : Nat :=
  ((options.get "vertexStride").word?.map UInt32.toNat).getD 12

/-- The offset given, if it is a number with a word in it, and zero if not. -/
def offsetOf (options : Value) : Nat :=
  ((options.get "vertexOffset").word?.map UInt32.toNat).getD 0

/-- All that can be wrong with the options of a mesh, in the order in which it is looked for. -/
def faults (options : Value) : List (Error → Prop) :=
  Fault (options.object? = none) (.invalid (.notOptions options.typeName)) ::
  (Buffer.faults (options.get "vertices") "vertices" ++
  [Fault (vertexCountOf options = 0) (.invalid .tooFewVertices),
    Fault (strideOf options < 12) (.invalid (.strideTooSmall (strideOf options))),
    Fault (strideOf options < offsetOf options + 12)
      (.invalid (.offsetTooLarge (offsetOf options) (strideOf options))),
    NotBuffer (options.get "indices"),
    OutOfRange (vertexCountOf options) (wordsOf (options.get "indices"))])

/-- The options describe a mesh that has the bytes of a buffer for its vertices. -/
structure Described (options : Value) (b : Buffer) : Prop where
  isObject : options.object?.isSome = true
  vertices : options.get "vertices" = .buffer b
  enough : 12 ≤ b.byteLength
  offset : offsetOf options + 12 ≤ strideOf options
  indices : (options.get "indices").isAbsent = true ∨ ∃ i, options.get "indices" = .buffer i
  index_lt : ∀ w ∈ wordsOf (options.get "indices"), w.toNat < b.byteLength / 12

/-- The mesh that is made of these bytes and of the other options. -/
def ofOptions (options : Value) (b : Buffer) : Mesh where
  vertices := b.bytes
  vertexCount := UInt64.ofNatClamp (b.byteLength / 12)
  stride := UInt64.ofNat (strideOf options)
  offset := UInt64.ofNat (offsetOf options)
  indices := wordBytesOf (options.get "indices")
  indexCount :=
    UInt64.ofNatClamp (((wordBytesOf (options.get "indices")).getD []).length / 4)

end Mesh

/-! ### The checks, one by one -/

theorem Buffer.checked_ofField (v : Value) (field : String) :
    Checked (Buffer.ofField v field) (Buffer.faults v field) fun b =>
      v = .buffer b ∧ b.byteLength ≠ 0 := by
  unfold Buffer.ofField Buffer.faults
  cases v with
  | undefined => exact Checked.fail ⟨rfl, rfl⟩
  | null => exact Checked.fail ⟨rfl, rfl⟩
  | buffer b =>
    refine Checked.skip (Fault.absent nofun) (Checked.skip (Fault.absent nofun) ?_)
    dsimp only
    split
    next h => exact Checked.fail ⟨⟨b, rfl, Buffer.isEmpty_iff.1 h⟩, rfl⟩
    next h =>
      have hne : b.byteLength ≠ 0 := fun he => h (Buffer.isEmpty_iff.2 he)
      refine Checked.skip (Fault.absent ?_) (Checked.pure ⟨rfl, hne⟩)
      rintro ⟨b', hb, hempty⟩
      obtain rfl := Value.buffer.inj hb
      exact hne hempty
  | _ => exact Checked.skip (Fault.absent nofun) (Checked.fail ⟨rfl, rfl⟩)

namespace Mesh

theorem not_outOfRange {count : Nat} {indices : List UInt32}
    (h : ∀ w ∈ indices, w.toNat < count) : ∀ e, ¬ OutOfRange count indices e :=
  FirstAmong.absent fun _ w hw => Fault.absent (Nat.not_le.2 (h w (List.mem_of_getElem? hw)))

theorem checked_readIndices (count : Nat) (b : Buffer) :
    Checked (readIndices count b) [OutOfRange count b.words] fun bytes =>
      bytes = b.bytes.take (4 * (b.byteLength / 4)) ∧ ∀ w ∈ b.words, w.toNat < count := by
  unfold readIndices
  split
  next index place hfind =>
    obtain ⟨hbad, i, hi, hentry, hbefore⟩ := List.find?_eq_some_iff_getElem.1 hfind
    have hlen : i < b.words.length := by rwa [List.length_zipIdx] at hi
    rw [List.getElem_zipIdx, Nat.zero_add] at hentry
    obtain ⟨rfl, rfl⟩ := Prod.mk.inj hentry
    refine Checked.fail (FirstAmong.found (List.getElem?_eq_getElem hlen) ⟨?_, rfl⟩ ?_)
    · simpa using hbad
    · intro j u hj hu
      obtain ⟨hjlen, rfl⟩ := List.getElem?_eq_some_iff.1 hu
      have hgood := hbefore j hj
      rw [List.getElem_zipIdx] at hgood
      exact Fault.absent (by simpa using hgood)
  next hfind =>
    rw [List.find?_eq_none] at hfind
    have hgood : ∀ w ∈ b.words, w.toNat < count := by
      intro w hw
      obtain ⟨i, hi⟩ := List.getElem?_of_mem hw
      have hmem : (w, i) ∈ b.words.zipIdx := List.mk_mem_zipIdx_iff_getElem?.2 hi
      simpa using hfind _ hmem
    refine Checked.skip (not_outOfRange hgood) (Checked.pure ⟨?_, hgood⟩)
    rw [Buffer.length_words]

theorem checked_readOptionalIndices (count : Nat) (v : Value) :
    Checked (readOptionalIndices count v) [NotBuffer v, OutOfRange count (wordsOf v)] fun bytes =>
      bytes = wordBytesOf v ∧ (v.isAbsent = true ∨ ∃ b, v = .buffer b) ∧
        ∀ w ∈ wordsOf v, w.toNat < count := by
  unfold readOptionalIndices
  cases v with
  | undefined =>
    refine Checked.skip (Fault.absent nofun) (Checked.skip (not_outOfRange nofun) ?_)
    exact Checked.pure ⟨rfl, Or.inl rfl, nofun⟩
  | null =>
    refine Checked.skip (Fault.absent nofun) (Checked.skip (not_outOfRange nofun) ?_)
    exact Checked.pure ⟨rfl, Or.inl rfl, nofun⟩
  | buffer b =>
    refine Checked.skip (Fault.absent nofun) ?_
    have hbytes : wordBytesOf (.buffer b) =
        if b.isEmpty then none else some (b.bytes.take (4 * (b.byteLength / 4))) := rfl
    rw [hbytes]
    dsimp only
    split
    next hempty =>
      -- an empty buffer counts as none; no index in it is out of range
      have hnone : wordsOf (.buffer b) = [] := by
        apply List.eq_nil_of_length_eq_zero
        change b.words.length = 0
        rw [Buffer.length_words, Buffer.isEmpty_iff.1 hempty]
      have hgood : ∀ w ∈ wordsOf (.buffer b), w.toNat < count := by
        intro w hw
        rw [hnone] at hw
        exact absurd hw List.not_mem_nil
      exact Checked.skip (not_outOfRange hgood) (Checked.pure ⟨rfl, Or.inr ⟨b, rfl⟩, hgood⟩)
    next hempty =>
      refine (checked_readIndices count b).map fun bytes hread => ⟨?_, Or.inr ⟨b, rfl⟩, hread.2⟩
      rw [hread.1]
  | _ => exact Checked.fail ⟨⟨rfl, rfl⟩, rfl⟩

theorem checked_read (options : Value) :
    Checked (read options) (faults options) fun m =>
      ∃ b, Described options b ∧ m = ofOptions options b := by
  unfold read faults
  cases ho : options.object? with
  | none => exact Checked.fail ⟨rfl, rfl⟩
  | some o =>
    refine Checked.skip (Fault.absent nofun) ?_
    have hget := Value.get_of_object? ho
    simp only [← hget]
    refine (Buffer.checked_ofField _ _).bind fun b hb => ?_
    have hvertices : options.get "vertices" = .buffer b := hb.1
    have hcount : vertexCountOf options = countVertices b := by
      unfold vertexCountOf countVertices
      rw [hvertices, Nat.div_div_eq_div_mul]
      rfl
    -- the checks are made one after another, each on what those before it found
    rw [hcount]
    refine Checked.guard fun hsome => Checked.guard fun hstride => Checked.guard fun hoffset => ?_
    refine (checked_readOptionalIndices _ _).bind_nil fun indices hindices => ?_
    obtain ⟨rfl, hpresent, hgood⟩ := hindices
    have htwelve : countVertices b = b.byteLength / 12 := by
      unfold countVertices
      rw [Nat.div_div_eq_div_mul]
    rw [htwelve] at hsome hgood ⊢
    refine Checked.pure ⟨b, ⟨?_, hvertices, by omega, Nat.not_lt.1 hoffset, hpresent, hgood⟩, rfl⟩
    rw [ho]
    rfl

end Mesh

/-! ### The mesh described -/

namespace Mesh

theorem length_wordsOf (v : Value) : (wordsOf v).length = wordCountOf v := by
  unfold wordsOf wordCountOf
  cases v.buffer? with
  | none => rfl
  | some b => exact b.length_words

theorem words_wordBytesOf (v : Value) : Bytes.words ((wordBytesOf v).getD []) = wordsOf v := by
  unfold wordBytesOf wordsOf
  cases v.buffer? with
  | none => rfl
  | some b =>
    simp only [Option.bind_some, Option.elim_some]
    split
    next hempty =>
      refine (List.eq_nil_of_length_eq_zero ?_).symm
      rw [Buffer.length_words, Buffer.isEmpty_iff.1 hempty]
    next =>
      rw [Option.getD_some, Bytes.words_take, ← Buffer.length_words]
      exact List.take_length

theorem length_wordBytesOf (v : Value) :
    ((wordBytesOf v).getD []).length = 4 * wordCountOf v := by
  unfold wordBytesOf wordCountOf
  cases v.buffer? with
  | none => rfl
  | some b =>
    simp only [Option.bind_some, Option.elim_some]
    split
    next hempty => rw [Buffer.isEmpty_iff.1 hempty]; rfl
    next =>
      rw [Option.getD_some, List.length_take]
      unfold Buffer.byteLength
      omega

theorem wordBytesOf_eq_none {v : Value} :
    wordBytesOf v = none ↔ ∀ b, v = .buffer b → b.byteLength = 0 := by
  unfold wordBytesOf
  simp only [← Value.buffer?_eq_some]
  cases v.buffer? with
  | none => simp
  | some b => simp [Buffer.isEmpty_iff]

theorem strideOf_lt (options : Value) : strideOf options < UInt64.size := by
  unfold strideOf
  cases (options.get "vertexStride").word? with
  | none => decide
  | some w => exact Nat.lt_trans w.toNat_lt (by decide)

theorem offsetOf_lt (options : Value) : offsetOf options < UInt64.size := by
  unfold offsetOf
  cases (options.get "vertexOffset").word? with
  | none => decide
  | some w => exact Nat.lt_trans w.toNat_lt (by decide)

theorem toNat_ofNatClamp {n : Nat} (h : n < UInt64.size) : (UInt64.ofNatClamp n).toNat = n := by
  rw [UInt64.ofNatClamp_eq_ofNat n h]
  exact UInt64.toNat_ofNat_of_lt' h

/-- The buffers among the options are no longer than a machine word can tell. -/
def Hosted (options : Value) : Prop :=
  ∀ field ∈ ["vertices", "indices"], ∀ b, options.get field = .buffer b →
    b.byteLength < UInt64.size

theorem hosted_of_get {options : Value} {v i : Buffer} (hv : options.get "vertices" = .buffer v)
    (hi : options.get "indices" = .buffer i) (hvsize : v.byteLength < UInt64.size)
    (hisize : i.byteLength < UInt64.size) : Hosted options := by
  intro field hfield b hb
  rcases List.mem_cons.1 hfield with rfl | hfield
  · obtain rfl := Value.buffer.inj (hv.symm.trans hb)
    exact hvsize
  · obtain rfl := List.mem_singleton.1 hfield
    obtain rfl := Value.buffer.inj (hi.symm.trans hb)
    exact hisize

/-- What the mesh holds that is read from options with the given bytes for the vertices. -/
structure ReadFrom (options : Value) (b : Buffer) (m : Mesh) : Prop where
  vertices : m.vertices = b.bytes
  vertexCount : m.vertexCount.toNat = b.byteLength / 12
  stride : m.stride.toNat = strideOf options
  offset : m.offset.toNat = offsetOf options
  indexCount : m.indexCount.toNat = wordCountOf (options.get "indices")
  indices_none : m.indices = none ↔ (options.get "indices").isAbsent = true ∨
    ∃ i, options.get "indices" = .buffer i ∧ i.byteLength = 0
  indices_some : ∀ i, options.get "indices" = .buffer i → i.byteLength ≠ 0 →
    m.indices = some (i.bytes.take (4 * m.indexCount.toNat))
  isIndexed : m.isIndexed = true ↔ 0 < m.indexCount
  indexList : m.indexList = wordsOf (options.get "indices")
  length_indexList : m.indexList.length = m.indexCount.toNat
  index_lt : ∀ w ∈ m.indexList, w.toNat < m.vertexCount.toNat

section OfOptions

variable {options : Value} {b : Buffer}

theorem Hosted.wordCountOf_lt (hosted : Hosted options) :
    4 * wordCountOf (options.get "indices") < UInt64.size := by
  unfold wordCountOf
  cases h : (options.get "indices").buffer? with
  | none => decide
  | some i =>
    have hi := hosted "indices" (by decide) i (Value.buffer?_eq_some.1 h)
    have hdiv := Nat.mul_div_le i.byteLength 4
    exact Nat.lt_of_le_of_lt hdiv hi

theorem toNat_indexCount_ofOptions (hosted : Hosted options) :
    (ofOptions options b).indexCount.toNat = wordCountOf (options.get "indices") := by
  have hlt := hosted.wordCountOf_lt
  change (UInt64.ofNatClamp (((wordBytesOf (options.get "indices")).getD []).length / 4)).toNat = _
  rw [length_wordBytesOf, Nat.mul_div_cancel_left _ (by decide : 0 < 4)]
  exact toNat_ofNatClamp (by omega)

theorem isIndexed_ofOptions : (ofOptions options b).isIndexed = true ↔
    0 < (ofOptions options b).indexCount := by
  have hnone : (ofOptions options b).indices = none → (ofOptions options b).indexCount = 0 := by
    intro h
    change wordBytesOf _ = none at h
    change UInt64.ofNatClamp (((wordBytesOf _).getD []).length / 4) = 0
    rw [h]
    rfl
  unfold isIndexed
  cases h : (ofOptions options b).indices with
  | none => simp [hnone h]
  | some bytes => simp

theorem indexList_ofOptions (hosted : Hosted options) :
    (ofOptions options b).indexList = wordsOf (options.get "indices") := by
  have hlt := hosted.wordCountOf_lt
  have hcount := toNat_indexCount_ofOptions (b := b) hosted
  have hbytes : (ofOptions options b).indices = wordBytesOf (options.get "indices") := rfl
  have hlength := length_wordBytesOf (options.get "indices")
  rw [indexList_eq, hbytes, words_wordBytesOf, hcount, ← length_wordsOf, List.take_length]
  · intro bytes h
    rw [hbytes] at h
    rw [h, Option.getD_some] at hlength
    rwa [hlength]
  · rw [hcount]
    simp only [UInt64.size] at hlt
    omega

theorem Described.readFrom (h : Described options b) (hosted : Hosted options) :
    ReadFrom options b (ofOptions options b) := by
  have hvertices : b.byteLength < UInt64.size := hosted "vertices" (by decide) b h.vertices
  have hcount : (ofOptions options b).vertexCount.toNat = b.byteLength / 12 :=
    toNat_ofNatClamp (by omega)
  have hindexCount := toNat_indexCount_ofOptions (b := b) hosted
  have hlist := indexList_ofOptions (b := b) hosted
  refine
    { vertices := rfl
      vertexCount := hcount
      stride := UInt64.toNat_ofNat_of_lt' (strideOf_lt options)
      offset := UInt64.toNat_ofNat_of_lt' (offsetOf_lt options)
      indexCount := hindexCount
      indices_none := ?_
      indices_some := ?_
      isIndexed := isIndexed_ofOptions
      indexList := hlist
      length_indexList := ?_
      index_lt := ?_ }
  -- index bytes are missing where there is no buffer, and where it is empty
  · change wordBytesOf _ = none ↔ _
    rw [wordBytesOf_eq_none]
    constructor
    · intro hempty
      rcases h.indices with habsent | ⟨i, hi⟩
      · exact Or.inl habsent
      · exact Or.inr ⟨i, hi, hempty i hi⟩
    · rintro (habsent | ⟨i, hi, hempty⟩) j hj
      · rw [hj] at habsent
        exact absurd habsent nofun
      · rw [hj] at hi
        obtain rfl := Value.buffer.inj hi
        exact hempty
  · intro i hi hne
    have hfull : i.isEmpty = false := by
      rw [← Bool.not_eq_true, Buffer.isEmpty_iff]
      exact hne
    rw [hindexCount]
    change wordBytesOf _ = _
    rw [hi]
    unfold wordBytesOf wordCountOf
    simp [Value.buffer?, hfull]
  · rw [hlist, hindexCount, length_wordsOf]
  · intro w hw
    rw [hlist] at hw
    rw [hcount]
    exact h.index_lt w hw

end OfOptions

/-! ### The faults -/

theorem Described.faultless {options : Value} {b : Buffer} (h : Described options b) :
    Faultless (faults options) := by
  have hcount : vertexCountOf options = b.byteLength / 12 := by
    unfold vertexCountOf
    rw [h.vertices]
    rfl
  have henough := h.enough
  have hoffset := h.offset
  simp only [Faultless, faults, Buffer.faults, List.cons_append, List.nil_append,
    List.forall_mem_cons, List.not_mem_nil, false_imp_iff, implies_true, and_true]
  -- one goal for each check, in the order in which they are made
  refine ⟨?_, ?_, ?_, ?_, ?_, ?_, ?_, ?_, ?_⟩
  · refine Fault.absent fun hnone => ?_
    have hobject := h.isObject
    rw [hnone] at hobject
    exact absurd hobject nofun
  · rw [h.vertices]
    exact Fault.absent nofun
  · rw [h.vertices]
    exact Fault.absent nofun
  · refine Fault.absent fun ⟨b', hb, hempty⟩ => ?_
    obtain rfl := Value.buffer.inj (h.vertices.symm.trans hb)
    omega
  · exact Fault.absent (by omega)
  · exact Fault.absent (by omega)
  · exact Fault.absent (by omega)
  · refine Fault.absent fun ⟨hpresent, hnone⟩ => ?_
    rcases h.indices with habsent | ⟨i, hi⟩
    · rw [habsent] at hpresent
      exact absurd hpresent nofun
    · rw [hi] at hnone
      exact absurd hnone nofun
  · rw [hcount]
    exact not_outOfRange h.index_lt

theorem faults_unique (options : Value) : ∀ fault ∈ faults options, ∀ e e',
    fault e → fault e' → e = e' := by
  simp only [faults, Buffer.faults, List.cons_append, List.nil_append, List.forall_mem_cons,
    List.not_mem_nil, false_imp_iff, implies_true, and_true]
  refine ⟨?_, ?_, ?_, ?_, ?_, ?_, ?_, ?_, ?_⟩
  iterate 8 exact fun _ _ => Fault.unique
  exact fun _ _ => FirstAmong.unique fun _ _ _ _ => Fault.unique

theorem faults_invalid (options : Value) : ∀ fault ∈ faults options, ∀ e, fault e →
    ∃ c, e = .invalid c := by
  simp only [faults, Buffer.faults, List.cons_append, List.nil_append, List.forall_mem_cons,
    List.not_mem_nil, false_imp_iff, implies_true, and_true]
  refine ⟨?_, ?_, ?_, ?_, ?_, ?_, ?_, ?_, ?_⟩
  iterate 8 exact fun _ h => ⟨_, h.2⟩
  exact fun _ ⟨_, h, _⟩ => ⟨_, h.2⟩

/-! ### Options and meshes -/

/-- Options are read exactly if they describe a mesh, and then as that mesh; what is told of others is
the first thing that is wrong with them, and that it is the script's mistake. -/
theorem read_exact (options : Value) :
    ((∃ m, read options = .ok m) ↔ ∃ b, Described options b) ∧
    (Hosted options → ∀ m, read options = .ok m →
      ∃ b, options.get "vertices" = .buffer b ∧ ReadFrom options b m) ∧
    (∀ e, read options = .error e ↔ FirstFault (faults options) e) ∧
    ∀ e, read options = .error e → ∃ c, e = .invalid c := by
  have hchecked := checked_read options
  have hunique := faults_unique options
  refine ⟨⟨?_, ?_⟩, ?_, fun e => hchecked.error_iff hunique, ?_⟩
  · rintro ⟨m, hm⟩
    obtain ⟨⟨b, hb, -⟩, -⟩ := hchecked.ok m hm
    exact ⟨b, hb⟩
  · rintro ⟨b, hb⟩
    exact hchecked.exists_ok_iff.2 hb.faultless
  · intro hosted m hm
    obtain ⟨⟨b, hb, rfl⟩, -⟩ := hchecked.ok m hm
    exact ⟨b, hb.vertices, hb.readFrom hosted⟩
  · intro e he
    obtain ⟨fault, hmem, h⟩ := (hchecked.error e he).exists_mem
    exact faults_invalid options fault hmem e h

/-- Two positions and a byte, at a stride of twenty; the offset is minus one half.  The indices are
two words and a byte. -/
def ragged : Value := .ofPairs
  [("vertices", .buffer (.ofBytes (List.replicate 25 7))), ("vertexStride", .ofWord 20),
    ("vertexOffset", .number ⟨0xBFE0000000000000⟩),
    ("indices", .buffer (.ofBytes [1, 0, 0, 0, 0, 0, 0, 0, 9]))]

theorem hosted_ragged : Hosted ragged :=
  hosted_of_get rfl rfl (by decide) (by decide)

theorem read_exact_ragged : Hosted ragged ∧ ∃ m, read ragged = .ok m ∧
    m.vertexCount.toNat = 2 ∧ m.stride.toNat = 20 ∧ m.offset.toNat = 0 ∧ m.indexList = [1, 0] ∧
    m.indices = some [1, 0, 0, 0, 0, 0, 0, 0] := by
  obtain ⟨hok, hread, -⟩ := read_exact ragged
  have hindices : ragged.get "indices" = .buffer (.ofBytes [1, 0, 0, 0, 0, 0, 0, 0, 9]) := by rfl
  have hstride : strideOf ragged = 20 := by decide +kernel
  have hoffset : offsetOf ragged = 0 := by decide +kernel
  have hdescribed : Described ragged (.ofBytes (List.replicate 25 7)) := by
    refine ⟨by rfl, by rfl, by decide, ?_, Or.inr ⟨_, hindices⟩, ?_⟩
    · rw [hstride, hoffset]
      decide
    · have hwords : wordsOf (.buffer (.ofBytes [1, 0, 0, 0, 0, 0, 0, 0, 9])) = [1, 0] := by rfl
      rw [hindices, hwords]
      intro w hw
      rcases List.mem_pair.1 hw with rfl | rfl
      · decide
      · decide
  obtain ⟨m, hm⟩ := hok.2 ⟨_, hdescribed⟩
  obtain ⟨b, hb, h⟩ := hread hosted_ragged m hm
  obtain rfl := Value.buffer.inj (hb.symm.trans hdescribed.vertices)
  have hcount : m.indexCount.toNat = 2 := by
    rw [h.indexCount, hindices]
    rfl
  refine ⟨hosted_ragged, m, hm, h.vertexCount, h.stride.trans hstride, h.offset.trans hoffset, ?_, ?_⟩
  · rw [h.indexList, hindices]
    rfl
  · rw [h.indices_some _ hindices (by decide), hcount]
    rfl

end Mesh

end ScriptedRays
