/-!
# Bytes — raw bytes and the words in them

Bytes are read as little-endian 32-bit words; bytes that do not fill a last word are left out.
-/

namespace ScriptedRays

abbrev Bytes := List UInt8

namespace Bytes

/-- The word whose lowest byte comes first. -/
def word (a b c d : UInt8) : UInt32 :=
  UInt32.ofNat (a.toNat + 0x100 * b.toNat + 0x10000 * c.toNat + 0x1000000 * d.toNat)

/-- The four bytes of a word, lowest first. -/
def ofWord (w : UInt32) : Bytes :=
  [UInt8.ofNat w.toNat, UInt8.ofNat (w.toNat / 0x100), UInt8.ofNat (w.toNat / 0x10000),
    UInt8.ofNat (w.toNat / 0x1000000)]

/-- All complete words, in order. -/
def words : Bytes → List UInt32
  | a :: b :: c :: d :: rest => word a b c d :: words rest
  | _ => []

/-- The bytes of some words, in order. -/
def ofWords (ws : List UInt32) : Bytes := ws.flatMap ofWord

/-- The bytes from `start` up to `stop`, if there are that many. -/
def slice (bytes : Bytes) (start stop : Nat) : Option Bytes :=
  if start ≤ stop ∧ stop ≤ bytes.length then some ((bytes.drop start).take (stop - start)) else none

@[simp] theorem words_cons (a b c d : UInt8) (rest : Bytes) :
    words (a :: b :: c :: d :: rest) = word a b c d :: words rest := rfl

@[simp] theorem length_ofWord (w : UInt32) : (ofWord w).length = 4 := rfl

@[simp] theorem length_words (bytes : Bytes) : (words bytes).length = bytes.length / 4 := by
  fun_induction words bytes with
  | case1 a b c d rest ih => simp [ih]; omega
  | case2 bytes h =>
    match bytes, h with
    | [], _ | [_], _ | [_, _], _ | [_, _, _], _ => simp
    | a :: b :: c :: d :: rest, h => exact absurd rfl (h a b c d rest)

end Bytes

end ScriptedRays
