import Mathlib.Data.Nat.Digits.Lemmas

/-!
# Big-endian numbers

16-bit words as two bytes, and the unsigned and the signed number of a list of bytes with the
most significant byte first. Both numbers determine the bytes of a list of known length.
-/

namespace BigEndian

/-! ## Words -/

/-- The bytes of a word, the high one first. -/
def ofWord (w : UInt16) : List UInt8 := [(w >>> 8).toUInt8, w.toUInt8]

/-- The bytes of several words. -/
def ofWords (ws : List UInt16) : List UInt8 := ws.flatMap ofWord

/-- The word with these two bytes. -/
def toWord (high low : UInt8) : UInt16 := high.toUInt16 * 256 + low.toUInt16

/-- A word with its bytes exchanged. -/
def swap (w : UInt16) : UInt16 := toWord w.toUInt8 (w >>> 8).toUInt8

@[simp] theorem length_ofWord (w : UInt16) : (ofWord w).length = 2 := rfl

/-- Two bytes for each word. -/
theorem length_ofWords (ws : List UInt16) : (ofWords ws).length = 2 * ws.length := by
  induction ws with
  | nil => rfl
  | cons w ws ih => simp only [ofWords, List.flatMap_cons, List.length_append, length_ofWord,
      List.length_cons] at ih ⊢; omega

/-- The bytes of a word that is made of two bytes. -/
theorem ofWord_toWord (high low : UInt8) : ofWord (toWord high low) = [high, low] := by
  have hhigh := high.toNat_lt
  have hlow := low.toNat_lt
  have hword : (toWord high low).toNat = 256 * high.toNat + low.toNat := by
    simp only [toWord, UInt16.toNat_add, UInt16.toNat_mul, UInt8.toNat_toUInt16, UInt16.reduceToNat]
    omega
  simp only [ofWord, List.cons.injEq, and_true]
  refine ⟨UInt8.toNat_inj.mp ?_, UInt8.toNat_inj.mp ?_⟩
  · simp only [UInt16.toNat_toUInt8, UInt16.toNat_shiftRight, hword, Nat.shiftRight_eq_div_pow,
      UInt16.reduceToNat, Nat.reduceMod, Nat.reducePow]
    omega
  · simp only [UInt16.toNat_toUInt8, hword]
    omega

/-- The bytes determine the word. -/
theorem ofWord_injective : Function.Injective ofWord := by
  intro v w h
  obtain ⟨hhigh, hlow⟩ : (v >>> 8).toUInt8 = (w >>> 8).toUInt8 ∧ v.toUInt8 = w.toUInt8 := by
    simpa [ofWord] using h
  have hv := v.toNat_lt
  have hw := w.toNat_lt
  have hhigh' := congrArg UInt8.toNat hhigh
  have hlow' := congrArg UInt8.toNat hlow
  simp only [UInt16.toNat_toUInt8, UInt16.toNat_shiftRight, Nat.shiftRight_eq_div_pow,
    UInt16.reduceToNat, Nat.reduceMod, Nat.reducePow] at hhigh' hlow'
  exact UInt16.toNat_inj.mp (by omega)

/-- A swapped word has its bytes the other way round. -/
theorem ofWord_swap (w : UInt16) : ofWord (swap w) = (ofWord w).reverse :=
  ofWord_toWord _ _

/-- No byte is lost. -/
theorem swap_injective : Function.Injective swap := by
  intro v w h
  have hreverse := congrArg ofWord h
  rw [ofWord_swap, ofWord_swap] at hreverse
  exact ofWord_injective (List.reverse_injective hreverse)

/-- Words of the same number are told apart by their bytes. -/
theorem ofWords_injective : Function.Injective ofWords := by
  intro vs ws h
  induction vs generalizing ws with
  | nil =>
    have hlength := congrArg List.length h
    simp only [length_ofWords, List.length_nil] at hlength
    exact (List.length_eq_zero_iff.mp (by omega)).symm
  | cons v vs ih =>
    cases ws with
    | nil =>
      have hlength := congrArg List.length h
      simp only [length_ofWords, List.length_nil, List.length_cons] at hlength
      omega
    | cons w ws =>
      simp only [ofWords, List.flatMap_cons] at h ih
      obtain ⟨hword, hwords⟩ := List.append_inj h rfl
      rw [ofWord_injective hword, ih hwords]

/-! ## Numbers -/

/-- The unsigned number of a list of bytes. -/
def toNat (bytes : List UInt8) : Nat := Nat.ofDigits 256 (bytes.reverse.map UInt8.toNat)

/-- The number in two's complement. -/
def toInt (bytes : List UInt8) : Int := Int.bmod (toNat bytes) (256 ^ bytes.length)

/-- The number has no more digits than bytes. -/
theorem toNat_lt (bytes : List UInt8) : toNat bytes < 256 ^ bytes.length := by
  have hdigits : ∀ d ∈ bytes.reverse.map UInt8.toNat, d < 256 := by
    intro d hd
    obtain ⟨b, -, rfl⟩ := List.mem_map.mp hd
    exact b.toNat_lt
  rw [toNat]
  simpa using Nat.ofDigits_lt_base_pow_length (by decide : 1 < 256) hdigits

/-- Lists of one length with the same unsigned number are equal. -/
theorem toNat_inj {as bs : List UInt8} (hlength : as.length = bs.length)
    (h : toNat as = toNat bs) : as = bs := by
  have hdigit : ∀ cs : List UInt8, ∀ d ∈ cs.reverse.map UInt8.toNat, d < 256 := by
    intro cs d hd
    obtain ⟨b, -, rfl⟩ := List.mem_map.mp hd
    exact b.toNat_lt
  have hmap := Nat.ofDigits_inj_of_len_eq (by decide : 1 < 256) (by simpa using hlength)
    (hdigit as) (hdigit bs) h
  exact List.reverse_injective
    (List.map_injective_iff.mpr (fun _ _ => UInt8.toNat_inj.mp) hmap)

/-- And so are lists with the same signed number. -/
theorem toInt_inj {as bs : List UInt8} (hlength : as.length = bs.length)
    (h : toInt as = toInt bs) : as = bs := by
  refine toNat_inj hlength ?_
  have hmod := congrArg (· % ((256 ^ bs.length : Nat) : Int)) h
  simp only [toInt, hlength, Int.bmod_emod] at hmod
  rw [Int.emod_eq_of_lt (by omega) (by exact_mod_cast hlength ▸ toNat_lt as),
    Int.emod_eq_of_lt (by omega) (by exact_mod_cast toNat_lt bs)] at hmod
  exact_mod_cast hmod

end BigEndian
