import ScriptedRays.Proofs.Batch
import ScriptedRays.Proofs.Encoding
import ScriptedRays.Proofs.Single

/-!
# Transform — a matrix is read from bytes, from numbers, or not at all

Bytes give a matrix bit for bit, numbers one that is rounded, and all else ones down the diagonal and
zeros beside it, never a mixture (`GivenBy`, `givenBy_iff`).  So a list of singles gives the same matrix
in a buffer and, made doubles, in an array (`matrices_exact`).
-/

namespace ScriptedRays

/-! ### Numbers of an array -/

theorem numbersOf_cons (v : Value) (rest : List Value) :
    numbersOf (v :: rest) = v.number?.bind fun x => (numbersOf rest).map (x :: ·) := by
  show (v.number?.bind fun x => (numbersOf rest).bind fun xs => some (x :: xs)) = _
  cases numbersOf rest with
  | none => rfl
  | some xs => rfl

theorem numbersOf_map_number (xs : List Double) : numbersOf (xs.map .number) = some xs := by
  induction xs with
  | nil => rfl
  | cons x rest ih =>
    rw [List.map_cons, numbersOf_cons, ih]
    rfl

/-- An array holds nothing but numbers if its numbers are read. -/
theorem eq_map_of_numbersOf {vs : List Value} {xs : List Double} (h : numbersOf vs = some xs) :
    vs = xs.map .number := by
  induction vs generalizing xs with
  | nil =>
    obtain rfl := Option.some.inj h
    rfl
  | cons v rest ih =>
    rw [numbersOf_cons] at h
    obtain ⟨x, hx, h⟩ := Option.bind_eq_some_iff.1 h
    obtain ⟨ys, hys, rfl⟩ := Option.map_eq_some_iff.1 h
    rw [Value.number?_eq_some.1 hx, ih hys, List.map_cons]

/-- A value that is no number, wherever it stands, leaves an array without numbers. -/
theorem numbersOf_eq_none_iff {vs : List Value} :
    numbersOf vs = none ↔ ∃ v ∈ vs, v.number? = none := by
  induction vs with
  | nil => exact ⟨nofun, fun ⟨v, hv, _⟩ => absurd hv List.not_mem_nil⟩
  | cons v rest ih =>
    rw [numbersOf_cons, List.exists_mem_cons_iff, ← ih]
    cases hv : v.number? with
    | none => exact iff_of_true rfl (.inl rfl)
    | some x =>
      rw [Option.bind_some, Option.map_eq_none_iff]
      exact ⟨.inr, fun h => h.resolve_left nofun⟩

/-! ### Matrices -/

namespace Transform

theorem ext_entries {m n : Transform} (h : m.entries = n.entries) : m = n := by
  cases m
  cases n
  cases h
  rfl

theorem ofList?_of_le {xs : List Single} (h : 16 ≤ xs.length) :
    ∃ m, ofList? xs = some m ∧ m.entries = xs.take 16 := by
  unfold ofList?
  rw [dif_pos h]
  exact ⟨_, rfl, rfl⟩

theorem ofList?_of_lt {xs : List Single} (h : xs.length < 16) : ofList? xs = none :=
  dif_neg (Nat.not_le.2 h)

/-- The sixteen entries are the bits of one down the diagonal, every fifth from the first, and those of
zero everywhere else. -/
def IsIdentity (m : Transform) : Prop :=
  ∀ k < 16, m.entries[k]? = some (if k % 5 = 0 then ⟨0x3F800000⟩ else ⟨0x00000000⟩)

theorem isIdentity_identity : identity.IsIdentity := by
  unfold IsIdentity
  decide

/-- The entries leave no choice. -/
theorem IsIdentity.unique {m n : Transform} (hm : m.IsIdentity) (hn : n.IsIdentity) : m = n := by
  refine ext_entries (List.ext_getElem? fun k => ?_)
  rcases Nat.lt_or_ge k 16 with hlt | hge
  · rw [hm k hlt, hn k hlt]
  · rw [List.getElem?_eq_none (m.length_entries.trans_le hge),
      List.getElem?_eq_none (n.length_entries.trans_le hge)]

/-- Which matrix a value gives: sixteen little-endian singles, or sixteen numbers of an array that
holds nothing else, and otherwise the identity. -/
inductive GivenBy : Value → Transform → Prop
  | bytes {b : Buffer} {m : Transform} (hlength : 64 ≤ b.byteLength)
      (hentries : Bytes.ofWords (m.entries.map Single.bits) = b.bytes.take 64) :
      GivenBy (.buffer b) m
  | numbers {xs : List Double} {m : Transform} (hlength : 16 ≤ xs.length)
      (hentries : m.entries = (xs.take 16).map Single.ofDouble) :
      GivenBy (.array (xs.map .number)) m
  | otherwise {v : Value} {m : Transform} (hbuffer : ∀ b, v = .buffer b → b.byteLength < 64)
      (harray : ∀ vs, v = .array vs → vs.length < 16 ∨ ∃ u ∈ vs, u.number? = none)
      (hentries : m.IsIdentity) : GivenBy v m

/-- Sixteen numbers and nothing else are no reason for the identity. -/
theorem not_short_or_mixed {xs : List Double} (h : 16 ≤ xs.length) :
    ¬ ((xs.map Value.number).length < 16 ∨ ∃ u ∈ xs.map Value.number, u.number? = none) := by
  rw [← numbersOf_eq_none_iff, numbersOf_map_number, List.length_map]
  rintro (hlt | hnone)
  · exact absurd h (Nat.not_le.2 hlt)
  · cases hnone

/-- A value gives one matrix. -/
theorem GivenBy.unique {v : Value} {m n : Transform} (hm : GivenBy v m) (hn : GivenBy v n) :
    m = n := by
  cases hm with
  | bytes hlength hentries =>
    cases hn with
    | bytes _ hentries' =>
      have hwords := congrArg Bytes.words (hentries.trans hentries'.symm)
      rw [Bytes.words_ofWords, Bytes.words_ofWords] at hwords
      exact ext_entries (List.map_injective_iff.2 (fun s t h => congrArg Single.mk h) hwords)
    | otherwise hbuffer => exact absurd hlength (Nat.not_le.2 (hbuffer _ rfl))
  | numbers hlength hentries =>
    next xs =>
      generalize hv : Value.array (xs.map .number) = v at hn
      cases hn with
      | bytes => cases hv
      | numbers _ hentries' =>
        have hmap := List.map_injective_iff.2 (fun x y h => Value.number.inj h) (Value.array.inj hv)
        rw [hmap] at hentries
        exact ext_entries (hentries.trans hentries'.symm)
      | otherwise _ harray => exact absurd (harray _ hv.symm) (not_short_or_mixed hlength)
  | otherwise hbuffer harray hentries =>
    cases hn with
    | bytes hlength _ => exact absurd hlength (Nat.not_le.2 (hbuffer _ rfl))
    | numbers hlength _ => exact absurd (harray _ rfl) (not_short_or_mixed hlength)
    | otherwise _ _ hentries' => exact hentries.unique hentries'

/-! ### Reading -/

theorem read_buffer (b : Buffer) : read (.buffer b) = (ofList? b.singles).getD .identity := rfl

theorem read_array (vs : List Value) :
    read (.array vs) =
      ((numbersOf vs).bind fun xs => ofList? (xs.map Single.ofDouble)).getD .identity := by
  show (((numbersOf vs).map _).bind _).getD _ = _
  rw [Option.bind_map]
  rfl

theorem read_numbers (xs : List Double) :
    read (.array (xs.map .number)) = (ofList? (xs.map Single.ofDouble)).getD .identity := by
  rw [read_array, numbersOf_map_number]
  rfl

/-- The first sixteen singles of a buffer are its first 64 bytes. -/
theorem ofWords_take_singles {b : Buffer} (h : 64 ≤ b.byteLength) :
    Bytes.ofWords ((b.singles.take 16).map Single.bits) = b.bytes.take 64 := by
  have hbits : b.singles.map Single.bits = b.bytes.words := b.map_bits_singles
  have hlength : (b.bytes.take 64).length = 64 := by
    rw [List.length_take]
    exact Nat.min_eq_left h
  rw [List.map_take, hbits, ← Bytes.words_take, Bytes.ofWords_words, hlength]
  exact List.take_of_length_le hlength.le

theorem givenBy_read (v : Value) : GivenBy v (read v) := by
  cases v with
  | buffer b =>
    rw [read_buffer]
    rcases Nat.lt_or_ge b.byteLength 64 with hlt | hge
    · rw [ofList?_of_lt (by rw [Buffer.length_singles]; omega)]
      exact .otherwise (fun b' hb => by cases hb; exact hlt) nofun isIdentity_identity
    · have hcount : 16 ≤ b.singles.length := by
        rw [Buffer.length_singles]
        omega
      obtain ⟨m, hm, hentries⟩ := ofList?_of_le hcount
      rw [hm]
      refine .bytes hge ?_
      rw [Option.getD_some, hentries, ofWords_take_singles hge]
  | array vs =>
    cases hnumbers : numbersOf vs with
    | none =>
      rw [read_array, hnumbers]
      refine .otherwise nofun (fun vs' hvs => ?_) isIdentity_identity
      cases hvs
      exact .inr (numbersOf_eq_none_iff.1 hnumbers)
    | some xs =>
      -- every element is a number, also those past the sixteenth
      obtain rfl := eq_map_of_numbersOf hnumbers
      rw [read_numbers]
      rcases Nat.lt_or_ge xs.length 16 with hlt | hge
      · rw [ofList?_of_lt (by rwa [List.length_map])]
        refine .otherwise nofun (fun vs' hvs => ?_) isIdentity_identity
        cases hvs
        exact .inl (by rwa [List.length_map])
      · have hcount : 16 ≤ (xs.map Single.ofDouble).length := by rwa [List.length_map]
        obtain ⟨m, hm, hentries⟩ := ofList?_of_le hcount
        rw [hm]
        exact .numbers hge (hentries.trans List.map_take.symm)
  | _ => exact .otherwise nofun nofun isIdentity_identity

theorem givenBy_iff {v : Value} {m : Transform} : GivenBy v m ↔ m = read v :=
  ⟨fun h => h.unique (givenBy_read v), fun h => h ▸ givenBy_read v⟩

/-- Singles are read alike from a buffer and from an array of the same numbers. -/
theorem read_ofSingles {xs : List Single} (h : ∀ s ∈ xs, s.isNaN = false) :
    read (.buffer (.ofSingles xs)) = read (.array (xs.map fun s => .number s.toDouble)) := by
  have hnarrow : (xs.map Single.toDouble).map Single.ofDouble = xs := by
    rw [List.map_map]
    calc xs.map (Single.ofDouble ∘ Single.toDouble) = xs.map id :=
          List.map_congr_left fun s hs => Single.ofDouble_toDouble (h s hs)
      _ = xs := List.map_id xs
  have hnumbers : (xs.map fun s => Value.number s.toDouble) =
      (xs.map Single.toDouble).map .number := by
    rw [List.map_map]
    rfl
  rw [read_buffer, hnumbers, read_numbers, Buffer.singles_ofSingles, hnarrow]

end Transform

namespace Instance

theorem transform_of_read {g : Registry} {v : Value} {i : Instance} (h : read g v = .ok i) :
    i.transform = .read (v.get "transform") := by
  unfold read at h
  cases ho : v.object? with
  | none =>
    rw [ho] at h
    cases h
  | some o =>
    rw [ho] at h
    simp only [← Value.get_of_object? ho] at h
    cases hblas : g.lookup .blas (v.get "blas") with
    | error e =>
      rw [hblas] at h
      split at h <;> cases h
    | ok blas =>
      rw [hblas] at h
      split at h
      · cases h
      · obtain rfl := Except.ok.inj h
        rfl

/-- Every instance that is read has the matrix that its value gives: sixteen singles of a buffer bit
for bit, sixteen numbers of an array each rounded to nearest, or ones down the diagonal and zeros beside
it.  Singles in a buffer and the same numbers in an array, which widening keeps, give one matrix. -/
theorem matrices_exact :
    (∀ (g : Registry) v i, read g v = .ok i →
      ∀ m, Transform.GivenBy (v.get "transform") m ↔ m = i.transform) ∧
    (∀ x, Single.RoundsTo x (Single.ofDouble x)) ∧
    (∀ s : Single, s.isNaN = false →
      Single.WidensTo s s.toDouble ∧ Single.ofDouble s.toDouble = s) ∧
    ∀ (g h : Registry) v w i j (xs : List Single), read g v = .ok i → read h w = .ok j →
      (∀ s ∈ xs, s.isNaN = false) →
      v.get "transform" = .buffer (.ofSingles xs) →
      w.get "transform" = .array (xs.map fun s => .number s.toDouble) →
      i.transform = j.transform := by
  refine ⟨fun g v i h m => ?_, Single.roundsTo_ofDouble, fun s hs => ?_, ?_⟩
  · rw [transform_of_read h]
    exact Transform.givenBy_iff
  · exact ⟨Single.widensTo_toDouble hs, Single.ofDouble_toDouble hs⟩
  · intro g h v w i j xs hv hw hxs hbuffer harray
    rw [transform_of_read hv, transform_of_read hw, hbuffer, harray]
    exact Transform.read_ofSingles hxs

/-- A subnormal number, a negative zero, an infinity and the largest number of all, seventeen numbers
altogether. -/
def sampleSingles : List Single :=
  [⟨0x00000001⟩, ⟨0x80000000⟩, ⟨0xFF800000⟩, ⟨0x7F7FFFFF⟩] ++ List.replicate 13 ⟨0x3DCCCCCD⟩

/-- An instance of the structure with the id one, placed as told. -/
def placed (transform : Value) : Value :=
  .ofPairs [("blas", Wrapper.make .blas 1), ("transform", transform)]

theorem exists_read_placed (transform : Value) :
    ∃ i, read Registry.stocked (placed transform) = .ok i := by
  have hblas : Registry.stocked.lookup .blas (Wrapper.make .blas 1) =
      .ok ⟨some ⟨0x20, by decide⟩, 1⟩ := Registry.lookup_make_of_some _ (by decide +kernel)
  exact exists_read_of_lookup rfl rfl hblas

/-- The numbers give one matrix in both forms, and with a string behind them the identity, entry by
entry. -/
theorem matrices_exact_placed :
    ∃ i j k, read Registry.stocked (placed (.buffer (.ofSingles sampleSingles))) = .ok i ∧
      read Registry.stocked
        (placed (.array (sampleSingles.map fun s => .number s.toDouble))) = .ok j ∧
      read Registry.stocked (placed (.array
        ((sampleSingles.map fun s => .number s.toDouble) ++ [.string "1"]))) = .ok k ∧
      i.transform = j.transform ∧ i.transform ≠ k.transform ∧ k.transform = .identity ∧
      k.transform.IsIdentity := by
  obtain ⟨i, hi⟩ := exists_read_placed (.buffer (.ofSingles sampleSingles))
  obtain ⟨j, hj⟩ := exists_read_placed (.array (sampleSingles.map fun s => .number s.toDouble))
  obtain ⟨k, hk⟩ := exists_read_placed (.array
    ((sampleSingles.map fun s => .number s.toDouble) ++ [.string "1"]))
  obtain ⟨hgiven, -, -, hsame⟩ := matrices_exact
  have hidentity : Transform.identity = k.transform := by
    refine (hgiven _ _ _ hk _).1 (.otherwise nofun (fun vs hvs => .inr ⟨.string "1", ?_, rfl⟩)
      Transform.isIdentity_identity)
    obtain rfl := Value.array.inj hvs
    exact List.mem_append_right _ List.mem_cons_self
  refine ⟨i, j, k, hi, hj, hk, hsame _ _ _ _ _ _ sampleSingles hi hj (by decide) rfl rfl, ?_,
    hidentity.symm, hidentity ▸ Transform.isIdentity_identity⟩
  rw [← hidentity, transform_of_read hi]
  have hread : Transform.read (.buffer (.ofSingles sampleSingles)) ≠ .identity := by
    decide +kernel
  exact hread

end Instance

end ScriptedRays
