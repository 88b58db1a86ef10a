import ScriptedRays.Proofs.Bytes
import ScriptedRays.Script.Buffer

/-!
# Encoding — a buffer gives back what was written into it

Four bytes in a row stand for a number, the lowest first (`Bytes.number`), and the word at a place is
the one of this number (`Bytes.getElem?_words_iff_number`).  Words and singles come out of a buffer as
they went in, and what is read from any bytes goes back to the same bytes, less a ragged tail; the
element type under which the script sees them plays no part (`Buffer.lossless`).
-/

namespace ScriptedRays

namespace Bytes

/-- The number that bytes stand for, the lowest byte first. -/
def number : Bytes → Nat
  | [] => 0
  | b :: rest => b.toNat + 0x100 * number rest

/-- Bytes of one length are told apart by their number. -/
theorem number_injective {xs ys : Bytes} (hlength : xs.length = ys.length)
    (h : number xs = number ys) : xs = ys := by
  induction xs generalizing ys with
  | nil => exact (List.length_eq_zero_iff.1 hlength.symm).symm
  | cons x xs ih =>
    match ys, hlength with
    | y :: ys, hlength =>
      have hx := x.toNat_lt
      have hy := y.toNat_lt
      simp only [number] at h
      have hfirst : x = y := by
        apply UInt8.toNat_inj.1
        omega
      have hrest : xs = ys := ih (Nat.succ.inj hlength) (by omega)
      rw [hfirst, hrest]

theorem number_ofWord (w : UInt32) : number (ofWord w) = w.toNat := by
  have hw := w.toNat_lt
  simp only [ofWord, number, UInt8.toNat_ofNat']
  omega

/-- The bytes of a word are the four that stand for it. -/
theorem eq_ofWord_iff {bytes : Bytes} {w : UInt32} :
    bytes = ofWord w ↔ bytes.length = 4 ∧ number bytes = w.toNat := by
  constructor
  · rintro rfl
    exact ⟨length_ofWord w, number_ofWord w⟩
  · rintro ⟨hlength, hnumber⟩
    exact number_injective (hlength.trans (length_ofWord w).symm)
      (hnumber.trans (number_ofWord w).symm)

/-- A word is read where its four bytes are. -/
theorem getElem?_words_iff_number {bytes : Bytes} {i : Nat} {w : UInt32} :
    (words bytes)[i]? = some w ↔
      4 * (i + 1) ≤ bytes.length ∧ number ((bytes.drop (4 * i)).take 4) = w.toNat := by
  have hlength : ((bytes.drop (4 * i)).take 4).length = 4 ↔ 4 * (i + 1) ≤ bytes.length := by
    rw [List.length_take, List.length_drop]
    omega
  rw [getElem?_words_eq_some, eq_ofWord_iff, hlength]

theorem length_ofWords (ws : List UInt32) : (ofWords ws).length = 4 * ws.length := by
  induction ws with
  | nil => rfl
  | cons w rest ih =>
    show (ofWord w ++ ofWords rest).length = _
    rw [List.length_append, length_ofWord, ih, List.length_cons]
    omega

end Bytes

namespace Buffer

/-! ### Words and singles -/

theorem words_ofWords (ws : List UInt32) : (ofWords ws).words = ws := Bytes.words_ofWords ws

/-- A word and a single at the same place are the same 32 bits. -/
theorem map_bits_singles (b : Buffer) : b.singles.map Single.bits = b.words := by
  rw [singles, List.map_map]
  exact List.map_id _

theorem singles_ofSingles (xs : List Single) : (ofSingles xs).singles = xs := by
  show (Bytes.words (Bytes.ofWords (xs.map Single.bits))).map Single.mk = xs
  rw [Bytes.words_ofWords, List.map_map]
  exact List.map_id _

theorem length_singles (b : Buffer) : b.singles.length = b.byteLength / 4 := by
  rw [singles, List.length_map, length_words]

theorem getElem?_singles_eq_some {b : Buffer} {i : Nat} {x : Single} :
    b.singles[i]? = some x ↔ b.words[i]? = some x.bits := by
  rw [← map_bits_singles, List.getElem?_map, Option.map_eq_some_iff]
  constructor
  · exact fun h => ⟨x, h, rfl⟩
  · rintro ⟨y, hy, hbits⟩
    have hsame : y = x := congrArg Single.mk hbits
    exact hsame ▸ hy

/-! ### Lengths -/

theorem byteLength_ofWords (ws : List UInt32) : (ofWords ws).byteLength = 4 * ws.length :=
  Bytes.length_ofWords ws

theorem byteLength_ofSingles (xs : List Single) : (ofSingles xs).byteLength = 4 * xs.length := by
  show (Bytes.ofWords (xs.map Single.bits)).length = _
  rw [Bytes.length_ofWords, List.length_map]

/-- As many elements are counted as fit into the bytes. -/
theorem le_elementCount_iff {b : Buffer} {n : Nat} :
    n ≤ b.elementCount ↔ n * b.kind.elementSize ≤ b.byteLength := by
  have hpos : 0 < b.kind.elementSize := by cases b.kind <;> decide
  exact Nat.le_div_iff_mul_le hpos

/-- **Reading undoes writing, and writing undoes reading but for a ragged tail.**  Singles and words
are read as they were written, and there are as many elements.  Of any bytes, under any element type,
the complete words are read in order, each of them the number of its four bytes and as a single the same
32 bits; written again they are the first bytes, all that make up words.  The elements that are counted are
those of the element type's own size. -/
theorem lossless :
    (∀ xs, (ofSingles xs).singles = xs ∧ (ofSingles xs).byteLength = 4 * xs.length ∧
      (ofSingles xs).elementCount = xs.length) ∧
    (∀ ws, (ofWords ws).words = ws ∧ (ofWords ws).byteLength = 4 * ws.length ∧
      (ofWords ws).elementCount = ws.length) ∧
    ∀ b : Buffer,
      b.words.length = b.byteLength / 4 ∧ b.singles.length = b.byteLength / 4 ∧
      (∀ (i : Nat) w, b.words[i]? = some w ↔ 4 * (i + 1) ≤ b.byteLength ∧
        Bytes.number ((b.bytes.drop (4 * i)).take 4) = w.toNat) ∧
      (∀ (i : Nat) x, b.singles[i]? = some x ↔ b.words[i]? = some x.bits) ∧
      (ofWords b.words).bytes = b.bytes.take (4 * (b.byteLength / 4)) ∧
      (ofSingles b.singles).bytes = b.bytes.take (4 * (b.byteLength / 4)) ∧
      (∀ kind, (mk kind b.bytes).words = b.words ∧ (mk kind b.bytes).singles = b.singles) ∧
      ∀ n, n ≤ b.elementCount ↔ n * b.kind.elementSize ≤ b.byteLength := by
  have hquarter : ∀ n, 4 * n / 4 = n := fun n => Nat.mul_div_cancel_left n (by decide)
  refine ⟨fun xs => ⟨singles_ofSingles xs, byteLength_ofSingles xs, ?_⟩,
    fun ws => ⟨words_ofWords ws, byteLength_ofWords ws, ?_⟩, fun b => ⟨b.length_words,
      b.length_singles, fun i w => Bytes.getElem?_words_iff_number,
      fun i x => getElem?_singles_eq_some, Bytes.ofWords_words b.bytes, ?_,
      fun kind => ⟨rfl, rfl⟩, fun n => le_elementCount_iff⟩⟩
  · show (ofSingles xs).byteLength / 4 = xs.length
    rw [byteLength_ofSingles, hquarter]
  · show (ofWords ws).byteLength / 4 = ws.length
    rw [byteLength_ofWords, hquarter]
  · show Bytes.ofWords (b.singles.map Single.bits) = _
    rw [map_bits_singles]
    exact Bytes.ofWords_words b.bytes

/-- Ten bytes hold two words, and two more bytes that no word has. -/
example : (mk .uint32 [1, 0, 0, 0, 2, 1, 0, 0, 9, 9]).words = [1, 0x102] ∧
    (mk .uint32 [1, 0, 0, 0, 2, 1, 0, 0, 9, 9]).elementCount = 2 := by decide

end Buffer

end ScriptedRays
