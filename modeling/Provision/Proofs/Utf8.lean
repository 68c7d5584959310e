import Provision.Files.File
import Mathlib.Tactic.SplitIfs

/-!
# Texts and their bytes

The bytes of a text are read as the text (`decode?_encode`): the reader takes the bytes of one
character after the other (`unitsAfter_utf8EncodeChar`). Texts are ordered as their bytes are
(`lt_iff_encode_lt`).
-/

namespace Provision.Text

/-! ## Bytes as lists -/

theorem toList_loop_eq (bs : ByteArray) (i : Nat) (r : List UInt8) :
    ByteArray.toList.loop bs i r = r.reverse ++ bs.data.toList.drop i := by
  fun_induction ByteArray.toList.loop bs i r with
  | case1 i r h ih =>
    have hi : i < bs.data.toList.length := by simpa using h
    rw [ih, List.drop_eq_getElem_cons (l := bs.data.toList) hi]
    simp [ByteArray.get!, h]
  | case2 i r h =>
    rw [List.drop_eq_nil_of_le (by simpa using Nat.le_of_not_lt h)]
    simp

/-- The bytes of a text are those of its characters. -/
theorem encode_eq (s : String) : encode s = s.toList.flatMap String.utf8EncodeChar := by
  rw [← String.ofList_toList (s := s)]
  unfold encode ByteArray.toList
  rw [toList_loop_eq, String.toUTF8_eq_toByteArray, String.toByteArray_ofList, String.toList_ofList]
  exact List.toList_data_toByteArray

/-! ## Reading -/

section Reading

variable {v n : Nat} {p : Partial} (hn : n < 256) (bs : List UInt8)

include hn

theorem toNat_ofNat_of_lt : (UInt8.ofNat n).toNat = n := by
  rw [UInt8.toNat_ofNat']
  exact Nat.mod_eq_of_lt hn

theorem unitsAfter_whole {c : Option Char} (h : lead n = .whole c) :
    unitsAfter none (UInt8.ofNat n :: bs) = c :: unitsAfter none bs := by
  rw [unitsAfter, toNat_ofNat_of_lt hn, h]

theorem unitsAfter_begun (h : lead n = .begun p) :
    unitsAfter none (UInt8.ofNat n :: bs) = unitsAfter (some p) bs := by
  rw [unitsAfter, toNat_ofNat_of_lt hn, h]

/-- The last byte of a character completes it. -/
theorem unitsAfter_last (hlow : p.low ≤ n) (hhigh : n ≤ p.high) (hp : p.missing = 1) :
    unitsAfter (some p) (UInt8.ofNat n :: bs) =
      some (Char.ofNat (p.bits * 64 + (n - 0x80))) :: unitsAfter none bs := by
  rw [unitsAfter, toNat_ofNat_of_lt hn, if_pos (by simp [hlow, hhigh]), if_pos hp]

theorem unitsAfter_more (hlow : p.low ≤ n) (hhigh : n ≤ p.high) (hp : p.missing ≠ 1) :
    unitsAfter (some p) (UInt8.ofNat n :: bs) =
      unitsAfter (some ⟨p.missing - 1, 0x80, 0xBF, p.bits * 64 + (n - 0x80)⟩) bs := by
  rw [unitsAfter, toNat_ofNat_of_lt hn, if_pos (by simp [hlow, hhigh]), if_neg hp]

omit hn

/-- The first byte of a character of two announces one byte more. -/
theorem lead_two (h : 0x80 ≤ v) (h' : v ≤ 0x7FF) :
    lead (v / 64 % 32 + 192) = .begun ⟨1, 0x80, 0xBF, v / 64⟩ := by
  have hbits : v / 64 % 32 + 192 - 0xC0 = v / 64 := by omega
  unfold lead
  rw [if_neg (by omega), if_neg (by omega), if_pos (by omega), hbits]

/-- The first byte of a character of three announces two bytes more, and bounds that the next one
keeps. -/
theorem lead_three (h : 0x800 ≤ v) (h' : v ≤ 0xFFFF) (hv : v < 0xD800 ∨ 0xDFFF < v) :
    ∃ p, lead (v / 4096 % 16 + 224) = .begun p ∧ p.missing = 2 ∧ p.bits = v / 4096 ∧
      p.low ≤ v / 64 % 64 + 128 ∧ v / 64 % 64 + 128 ≤ p.high := by
  unfold lead
  rw [if_neg (by omega), if_neg (by omega), if_neg (by omega)]
  split_ifs with hE0 hED hF0
  · exact ⟨_, rfl, rfl, by dsimp only; omega, by dsimp only; omega, by dsimp only; omega⟩
  · exact ⟨_, rfl, rfl, by dsimp only; omega, by dsimp only; omega, by dsimp only; omega⟩
  · exact ⟨_, rfl, rfl, by dsimp only; omega, by dsimp only; omega, by dsimp only; omega⟩
  all_goals omega

/-- The first byte of a character of four announces three bytes more, and bounds that the next one
keeps. -/
theorem lead_four (h : 0x10000 ≤ v) (h' : v < 0x110000) :
    ∃ p, lead (v / 262144 % 8 + 240) = .begun p ∧ p.missing = 3 ∧ p.bits = v / 262144 ∧
      p.low ≤ v / 4096 % 64 + 128 ∧ v / 4096 % 64 + 128 ≤ p.high := by
  unfold lead
  rw [if_neg (by omega), if_neg (by omega), if_neg (by omega), if_neg (by omega),
    if_neg (by omega), if_neg (by omega)]
  split_ifs with hF0 hF4 hlast
  · exact ⟨_, rfl, rfl, by dsimp only; omega, by dsimp only; omega, by dsimp only; omega⟩
  · exact ⟨_, rfl, rfl, by dsimp only; omega, by dsimp only; omega, by dsimp only; omega⟩
  · exact ⟨_, rfl, rfl, by dsimp only; omega, by dsimp only; omega, by dsimp only; omega⟩
  all_goals omega

/-- The bytes of a character are read as the character. -/
theorem unitsAfter_utf8EncodeChar (c : Char) :
    unitsAfter none (String.utf8EncodeChar c ++ bs) = some c :: unitsAfter none bs := by
  have hc : c.val.toNat < 0xD800 ∨ 0xDFFF < c.val.toNat ∧ c.val.toNat < 0x110000 := c.valid
  have hof : Char.ofNat c.val.toNat = c := Char.ofNat_toNat c
  unfold String.utf8EncodeChar
  generalize c.val.toNat = v at *
  dsimp only
  split_ifs with h₁ h₂ h₃
  · rw [List.singleton_append, unitsAfter_whole (by omega) bs (if_pos (by omega)), hof]
  · have hbits : v / 64 * 64 + (v % 64 + 128 - 0x80) = v := by omega
    rw [List.cons_append, List.singleton_append,
      unitsAfter_begun (by omega) _ (lead_two (by omega) (by omega)),
      unitsAfter_last (by omega) bs (by dsimp only; omega) (by dsimp only; omega) rfl, hbits, hof]
  · obtain ⟨p, hlead, hmissing, hbits, hlow, hhigh⟩ :=
      lead_three (v := v) (by omega) (by omega) (by omega)
    have hv : (p.bits * 64 + (v / 64 % 64 + 128 - 0x80)) * 64 + (v % 64 + 128 - 0x80) = v := by
      omega
    rw [List.cons_append, List.cons_append, List.singleton_append,
      unitsAfter_begun (by omega) _ hlead, unitsAfter_more (by omega) _ hlow hhigh (by omega),
      unitsAfter_last (by omega) bs (by dsimp only; omega) (by dsimp only; omega)
        (by dsimp only; omega), hv, hof]
  · obtain ⟨p, hlead, hmissing, hbits, hlow, hhigh⟩ :=
      lead_four (v := v) (by omega) (by omega)
    have hv : ((p.bits * 64 + (v / 4096 % 64 + 128 - 0x80)) * 64 +
        (v / 64 % 64 + 128 - 0x80)) * 64 + (v % 64 + 128 - 0x80) = v := by
      omega
    rw [List.cons_append, List.cons_append, List.cons_append, List.singleton_append,
      unitsAfter_begun (by omega) _ hlead, unitsAfter_more (by omega) _ hlow hhigh (by omega),
      unitsAfter_more (by omega) _ (by dsimp only; omega) (by dsimp only; omega)
        (by dsimp only; omega),
      unitsAfter_last (by omega) bs (by dsimp only; omega) (by dsimp only; omega)
        (by dsimp only; omega), hv, hof]

/-- The bytes of characters are read as the characters. -/
theorem units_flatMap (cs : List Char) :
    units (cs.flatMap String.utf8EncodeChar) = cs.map some := by
  induction cs with
  | nil => rfl
  | cons c cs ih =>
    rw [List.flatMap_cons, List.map_cons, ← ih]
    exact unitsAfter_utf8EncodeChar _ c

/-- The bytes of a text are read as the text. -/
theorem decode?_encode (s : String) : decode? (encode s) = some s := by
  unfold decode?
  rw [encode_eq, units_flatMap]
  have hall : (s.toList.map some).mapM id = some s.toList := by
    induction s.toList with
    | nil => rfl
    | cons c cs ih =>
      rw [List.map_cons, List.mapM_cons, ih]
      rfl
  rw [hall, Option.map_some, String.ofList_toList]

end Reading

/-- Texts of the same bytes are the same. -/
theorem encode_inj {s t : String} : encode s = encode t ↔ s = t := by
  refine ⟨fun h => ?_, congrArg encode⟩
  have hdecode : some s = some t := by rw [← decode?_encode s, ← decode?_encode t, h]
  exact Option.some.inj hdecode

/-! ## Order -/

theorem cons_ofNat_lt_iff {m n : Nat} (hm : m < 256) (hn : n < 256) {bs bs' : List UInt8} :
    UInt8.ofNat m :: bs < UInt8.ofNat n :: bs' ↔ m < n ∨ m = n ∧ bs < bs' := by
  rw [List.cons_lt_cons_iff, UInt8.lt_iff_toNat_lt, ← UInt8.toNat_inj, toNat_ofNat_of_lt hm,
    toNat_ofNat_of_lt hn]

/-- Of two numbers the lesser one has the lesser digits in base 64. -/
theorem digits_lt {v w : Nat} (h : v < w) :
    v / 262144 < w / 262144 ∨ v / 262144 = w / 262144 ∧
      (v / 4096 % 64 < w / 4096 % 64 ∨ v / 4096 % 64 = w / 4096 % 64 ∧
        (v / 64 % 64 < w / 64 % 64 ∨ v / 64 % 64 = w / 64 % 64 ∧ v % 64 < w % 64)) := by
  have hv₂ : v / 64 / 64 = v / 4096 := Nat.div_div_eq_div_mul ..
  have hw₂ : w / 64 / 64 = w / 4096 := Nat.div_div_eq_div_mul ..
  have hv₃ : v / 4096 / 64 = v / 262144 := Nat.div_div_eq_div_mul ..
  have hw₃ : w / 4096 / 64 = w / 262144 := Nat.div_div_eq_div_mul ..
  omega

/-- A lesser character has lesser bytes, whatever follows. -/
theorem utf8EncodeChar_append_lt {c d : Char} (h : c < d) (bs bs' : List UInt8) :
    String.utf8EncodeChar c ++ bs < String.utf8EncodeChar d ++ bs' := by
  have hlt : c.val.toNat < d.val.toNat := h
  have hd : d.val.toNat < 0x110000 := by
    rcases d.valid with hv | ⟨-, hv⟩
    · exact Nat.lt_trans hv (by decide)
    · exact hv
  have hdigits := digits_lt hlt
  unfold String.utf8EncodeChar
  generalize c.val.toNat = v at *
  generalize d.val.toNat = w at *
  have hv : v / 262144 % 8 = v / 262144 := Nat.mod_eq_of_lt (by omega)
  have hw : w / 262144 % 8 = w / 262144 := Nat.mod_eq_of_lt (by omega)
  dsimp only
  split_ifs
  all_goals
    simp (disch := omega) only [List.cons_append, List.nil_append, cons_ofNat_lt_iff]
    omega

/-- Texts are ordered as their bytes are. -/
theorem encode_lt_encode {s t : String} (h : s < t) : encode s < encode t := by
  have hchars : ∀ cs ds : List Char, cs < ds →
      cs.flatMap String.utf8EncodeChar < ds.flatMap String.utf8EncodeChar := by
    intro cs
    induction cs with
    | nil =>
      intro ds h
      cases ds with
      | nil => exact absurd h (List.lt_irrefl _)
      | cons d ds =>
        obtain ⟨b, bs, hd⟩ := List.exists_cons_of_ne_nil (String.utf8EncodeChar_ne_nil (c := d))
        rw [List.flatMap_cons, hd]
        exact List.nil_lt_cons _ _
    | cons c cs ih =>
      intro ds h
      cases ds with
      | nil => exact absurd h (List.not_lt_nil _)
      | cons d ds =>
        rw [List.flatMap_cons, List.flatMap_cons]
        rcases List.cons_lt_cons_iff.1 h with hlt | ⟨rfl, hlt⟩
        · exact utf8EncodeChar_append_lt hlt _ _
        · exact List.append_left_lt (ih ds hlt)
  rw [encode_eq, encode_eq]
  exact hchars _ _ h

theorem lt_iff_encode_lt {s t : String} : s < t ↔ encode s < encode t := by
  refine ⟨encode_lt_encode, fun h => Decidable.byContradiction fun hlt => ?_⟩
  by_cases hts : t < s
  · exact List.lt_asymm h (encode_lt_encode hts)
  · obtain rfl : s = t := String.le_antisymm (String.not_lt.1 hts) (String.not_lt.1 hlt)
    exact List.lt_irrefl _ h

end Provision.Text

namespace Provision

theorem File.text_ofText (s : String) : (File.ofText s).text = .ok s := by
  unfold File.text File.ofText
  dsimp only
  rw [Text.decode?_encode]

end Provision
