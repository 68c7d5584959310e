import Provision.Proofs.Utf8
import Provision.Url.Segments
import Mathlib.Tactic.IntervalCases

/-!
# Percent coding

What is encoded is decoded as it was, if percent signs are encoded (`percentDecode_percentEncode`).
So an encoded text is a dot segment only if the text is one.
-/

namespace Provision.Url

/-! ## Decoding -/

theorem charBytes_eq (c : Char) : charBytes c = String.utf8EncodeChar c := by
  unfold charBytes
  rw [Text.encode_eq, String.toList_singleton, List.flatMap_singleton]

/-- A digit is read as it is written. -/
theorem hexDigitValue?_upperHexDigit (n : Nat) :
    hexDigitValue? (upperHexDigit n) = some (n % 16) := by
  have hn : n % 16 < 16 := Nat.mod_lt n (by decide)
  unfold upperHexDigit
  generalize n % 16 = m at hn
  interval_cases m <;> decide

theorem percentDecode_percentByte (b : UInt8) (rest : List Char) :
    percentDecode (percentByte b ++ rest) = b :: percentDecode rest := by
  have hb : b.toNat < 256 := b.toNat_lt
  have hvalue : b.toNat / 16 % 16 * 16 + b.toNat % 16 = b.toNat := by omega
  show percentDecode ('%' :: upperHexDigit (b.toNat / 16) :: upperHexDigit b.toNat :: rest) = _
  rw [percentDecode, hexDigitValue?_upperHexDigit, hexDigitValue?_upperHexDigit]
  dsimp only
  rw [hvalue, UInt8.ofNat_toNat]

theorem percentDecode_flatMap_percentByte (bs : List UInt8) (rest : List Char) :
    percentDecode (bs.flatMap percentByte ++ rest) = bs ++ percentDecode rest := by
  induction bs with
  | nil => rfl
  | cons b bs ih =>
    rw [List.flatMap_cons, List.append_assoc, percentDecode_percentByte, ih, List.cons_append]

theorem percentDecode_cons {c : Char} (hc : c ≠ '%') (rest : List Char) :
    percentDecode (c :: rest) = charBytes c ++ percentDecode rest := by
  rw [percentDecode]
  rintro h l rest' rfl
  exact absurd rfl hc

/-- What is encoded is decoded as it was. -/
theorem percentDecode_percentEncode {set : Char → Bool} (hset : set '%' = true) (cs : List Char) :
    percentDecode (percentEncode set cs) = cs.flatMap String.utf8EncodeChar := by
  unfold percentEncode
  induction cs with
  | nil => rfl
  | cons c cs ih =>
    rw [List.flatMap_cons, List.flatMap_cons]
    cases hc : set c with
    | true => rw [if_pos rfl, percentDecode_flatMap_percentByte, ih, charBytes_eq]
    | false =>
      have hne : c ≠ '%' := by
        rintro rfl
        rw [hset] at hc
        cases hc
      rw [if_neg Bool.false_ne_true, List.singleton_append, percentDecode_cons hne, ih,
        charBytes_eq]

/-- An encoded text is read as the text. -/
theorem decode?_percentEncode {set : Char → Bool} (hset : set '%' = true) (cs : List Char) :
    Text.decode? (percentDecode (percentEncode set cs)) = some (String.ofList cs) := by
  rw [percentDecode_percentEncode hset, ← Text.decode?_encode, Text.encode_eq, String.toList_ofList]

/-! ## Dots and slashes -/

theorem upperHexDigit_ne_slash (n : Nat) : upperHexDigit n ≠ '/' := by
  intro h
  have hvalue := hexDigitValue?_upperHexDigit n
  rw [h] at hvalue
  cases hvalue

/-- No slash is left where slashes are encoded. -/
theorem slash_notMem_percentEncode {set : Char → Bool} (hset : set '/' = true) (cs : List Char) :
    '/' ∉ percentEncode set cs := by
  intro hmem
  obtain ⟨c, -, hc⟩ := List.mem_flatMap.1 hmem
  split_ifs at hc with hin
  · obtain ⟨b, -, hb⟩ := List.mem_flatMap.1 hc
    rcases List.mem_cons.1 hb with h | hb
    · cases h
    rcases List.mem_cons.1 hb with h | hb
    · exact upperHexDigit_ne_slash _ h.symm
    · exact upperHexDigit_ne_slash _ (List.mem_singleton.1 hb).symm
  · obtain rfl := List.mem_singleton.1 hc
    exact hin hset

theorem percentDecode_dot (rest : List Char) :
    percentDecode ('.' :: rest) = 0x2E :: percentDecode rest := by
  rw [percentDecode_cons (by decide), charBytes_eq]
  rfl

theorem percentDecode_encodedDot {e : Char} (he : e = 'e' ∨ e = 'E') (rest : List Char) :
    percentDecode ('%' :: '2' :: e :: rest) = 0x2E :: percentDecode rest := by
  rcases he with rfl | rfl <;> rw [percentDecode] <;> rfl

theorem percentDecode_of_isSingleDot {cs : List Char} (h : isSingleDot cs = true) :
    percentDecode cs = [0x2E] := by
  unfold isSingleDot at h
  split at h
  · exact percentDecode_dot []
  · exact percentDecode_encodedDot (by simpa using h) []
  · cases h

theorem percentDecode_of_isDoubleDot {cs : List Char} (h : isDoubleDot cs = true) :
    percentDecode cs = [0x2E, 0x2E] := by
  unfold isDoubleDot at h
  split at h
  · rw [percentDecode_dot, percentDecode_of_isSingleDot h]
  · obtain ⟨he, hrest⟩ := Bool.and_eq_true_iff.1 h
    rw [percentDecode_encodedDot (by simpa using he), percentDecode_of_isSingleDot hrest]
  · cases h

section Segments

variable {set : Char → Bool} {cs : List Char} (hset : set '%' = true)

include hset

/-- Of all texts only a dot becomes a single dot segment. -/
theorem eq_of_isSingleDot (h : isSingleDot (percentEncode set cs) = true) : cs = ['.'] := by
  have hdecode := decode?_percentEncode hset cs
  rw [percentDecode_of_isSingleDot h] at hdecode
  have hdot : String.ofList cs = String.ofList ['.'] := Option.some.inj (hdecode.symm.trans rfl)
  exact String.ofList_injective hdot

/-- Of all texts only two dots become a double dot segment. -/
theorem eq_of_isDoubleDot (h : isDoubleDot (percentEncode set cs) = true) : cs = ['.', '.'] := by
  have hdecode := decode?_percentEncode hset cs
  rw [percentDecode_of_isDoubleDot h] at hdecode
  have hdot : String.ofList cs = String.ofList ['.', '.'] :=
    Option.some.inj (hdecode.symm.trans rfl)
  exact String.ofList_injective hdot

/-- Only the empty text becomes an empty segment. -/
theorem eq_nil_of_percentEncode (h : percentEncode set cs = []) : cs = [] := by
  have hdecode := decode?_percentEncode hset cs
  rw [h] at hdecode
  exact String.ofList_injective (Option.some.inj (hdecode.symm.trans rfl))

end Segments

end Provision.Url
