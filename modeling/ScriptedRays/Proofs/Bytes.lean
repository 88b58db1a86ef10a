import Mathlib.Data.List.Basic
import ScriptedRays.Bytes

/-!
# Bytes — words and the bytes that they stand in

Four bytes are the bytes of the word read from them (`ofWord_word`).  So the words of some bytes, put
back into bytes, are these bytes up to the ragged tail (`ofWords_words`), and each word is found at
four times its place (`getElem?_words_eq_some`).
-/

namespace ScriptedRays.Bytes

/-- The word of four bytes is made of these bytes. -/
theorem ofWord_word (a b c d : UInt8) : ofWord (word a b c d) = [a, b, c, d] := by
  have ha := a.toNat_lt
  have hb := b.toNat_lt
  have hc := c.toNat_lt
  have hd := d.toNat_lt
  have hword : (word a b c d).toNat =
      a.toNat + 0x100 * b.toNat + 0x10000 * c.toNat + 0x1000000 * d.toNat := by
    unfold word
    apply UInt32.toNat_ofNat_of_lt'
    simp only [UInt32.size]
    omega
  have hbyte : ∀ (n : Nat) (x : UInt8), n % 256 = x.toNat → UInt8.ofNat n = x := by
    intro n x h
    apply UInt8.toNat_inj.1
    rw [UInt8.toNat_ofNat', h]
  unfold ofWord
  rw [hword, hbyte _ a (by omega), hbyte _ b (by omega), hbyte _ c (by omega), hbyte _ d (by omega)]

theorem ofWord_injective {w u : UInt32} (h : ofWord w = ofWord u) : w = u := by
  have hw := w.toNat_lt
  have hu := u.toNat_lt
  simp only [ofWord, List.cons.injEq, ← UInt8.toNat_inj, UInt8.toNat_ofNat', and_true] at h
  obtain ⟨h0, h1, h2, h3⟩ := h
  apply UInt32.toNat_inj.1
  omega

/-- Words are read as they were written. -/
theorem words_ofWords (ws : List UInt32) : words (ofWords ws) = ws := by
  induction ws with
  | nil => rfl
  | cons w rest ih =>
    have hfirst : ∃ a b c d, ofWord w = [a, b, c, d] := ⟨_, _, _, _, rfl⟩
    obtain ⟨a, b, c, d, hw⟩ := hfirst
    have hcons : ofWords (w :: rest) = a :: b :: c :: d :: ofWords rest := by
      show ofWord w ++ ofWords rest = _
      rw [hw]
      rfl
    have hword : word a b c d = w := by
      apply ofWord_injective
      rw [ofWord_word, hw]
    rw [hcons, words_cons, ih, hword]

/-- The words of some bytes make up these bytes, but for a ragged tail. -/
theorem ofWords_words (bytes : Bytes) :
    ofWords (words bytes) = bytes.take (4 * (bytes.length / 4)) := by
  fun_induction words bytes with
  | case1 a b c d rest ih =>
    have hcons : ofWords (word a b c d :: words rest) =
        ofWord (word a b c d) ++ ofWords (words rest) := rfl
    have hcount : 4 * ((a :: b :: c :: d :: rest).length / 4) = 4 * (rest.length / 4) + 4 := by
      simp only [List.length_cons]
      omega
    rw [hcons, ofWord_word, ih, hcount]
    rfl
  | case2 bytes h =>
    -- fewer than four bytes are left, and they make no word
    have hshort : bytes.length / 4 = 0 := by
      rcases bytes with _ | ⟨a, _ | ⟨b, _ | ⟨c, _ | ⟨d, rest⟩⟩⟩⟩
      · rfl
      · simp
      · simp
      · simp
      · exact absurd rfl (h a b c d rest)
    rw [hshort]
    rfl

/-- The first words are those of the first bytes. -/
theorem words_take (bytes : Bytes) (n : Nat) : words (bytes.take (4 * n)) = (words bytes).take n := by
  induction n generalizing bytes with
  | zero => rfl
  | succ n ih =>
    match bytes with
    | [] | [_] | [_, _] | [_, _, _] => simp [words, Nat.mul_succ]
    | a :: b :: c :: d :: rest =>
      have htake : (a :: b :: c :: d :: rest).take (4 * (n + 1)) =
          a :: b :: c :: d :: rest.take (4 * n) := rfl
      rw [htake, words_cons, words_cons, ih, List.take_succ_cons]

/-- The later words are those of the later bytes. -/
theorem words_drop (bytes : Bytes) (n : Nat) : words (bytes.drop (4 * n)) = (words bytes).drop n := by
  induction n generalizing bytes with
  | zero => rfl
  | succ n ih =>
    match bytes with
    | [] | [_] | [_, _] | [_, _, _] => simp [words, Nat.mul_succ]
    | a :: b :: c :: d :: rest =>
      have hdrop : (a :: b :: c :: d :: rest).drop (4 * (n + 1)) = rest.drop (4 * n) := rfl
      rw [hdrop, words_cons, ih, List.drop_succ_cons]

/-- A word is found at four times its place. -/
theorem getElem?_words_eq_some {bytes : Bytes} {i : Nat} {w : UInt32} :
    (words bytes)[i]? = some w ↔ (bytes.drop (4 * i)).take 4 = ofWord w := by
  have hfirst : (words bytes)[i]? = (words (bytes.drop (4 * i)))[0]? := by
    rw [words_drop, List.getElem?_drop, Nat.add_zero]
  rw [hfirst]
  match bytes.drop (4 * i) with
  | [] | [_] | [_, _] | [_, _, _] => simp [words, ofWord]
  | a :: b :: c :: d :: rest =>
    show some (word a b c d) = some w ↔ [a, b, c, d] = ofWord w
    rw [← ofWord_word, Option.some.injEq]
    exact ⟨congrArg ofWord, ofWord_injective⟩

theorem slice_eq_some {bytes part : Bytes} {start stop : Nat} :
    slice bytes start stop = some part ↔
      start ≤ stop ∧ stop ≤ bytes.length ∧ (bytes.drop start).take (stop - start) = part := by
  unfold slice
  split
  next h => simp [h.1, h.2]
  next h => exact ⟨nofun, fun ⟨h1, h2, _⟩ => absurd ⟨h1, h2⟩ h⟩

end ScriptedRays.Bytes
