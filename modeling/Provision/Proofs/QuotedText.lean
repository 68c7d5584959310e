import Provision.Text.Quoted
import Mathlib.Data.List.Basic
import Mathlib.Tactic.SplitIfs

/-!
# Quoted texts are told apart

Every character is written in one of three ways between quotes (`Written`), none of which is the
beginning of another, and none of which begins with a quote. So what is written of a text ends at
its closing quote, whatever stands behind it, and it is written of no other text
(`quoted_append_inj`).
-/

namespace Provision.Text

/-! ## Numbers in base sixteen -/

theorem digitChar_inj : ∀ a < 16, ∀ b < 16, Nat.digitChar a = Nat.digitChar b → a = b := by
  decide

theorem exists_digitChar_of_mem_hex {n : Nat} {c : Char} (h : c ∈ hex n) :
    ∃ k < 16, c = Nat.digitChar k := by
  induction n using Nat.strongRecOn with
  | ind n ih =>
    unfold hex at h ih
    rw [Nat.toDigits_eq_if (by omega)] at h
    split_ifs at h with hn
    · exact ⟨n, hn, List.mem_singleton.1 h⟩
    · rcases List.mem_append.1 h with h | h
      · exact ih (n / 16) (by omega) h
      · exact ⟨n % 16, by omega, List.mem_singleton.1 h⟩

theorem brace_notMem_hex (n : Nat) : '}' ∉ hex n := by
  intro h
  obtain ⟨k, hk, heq⟩ := exists_digitChar_of_mem_hex h
  have hno : ∀ k < 16, '}' ≠ Nat.digitChar k := by decide
  exact hno k hk heq

/-- No number holds the brace that ends it. -/
theorem takeWhile_hex (n : Nat) (rest : List Char) :
    (hex n ++ '}' :: rest).takeWhile (· ≠ '}') = hex n := by
  have hno : ∀ c ∈ hex n, decide (c ≠ '}') = true := by
    intro c hc
    refine decide_eq_true ?_
    rintro rfl
    exact brace_notMem_hex n hc
  rw [List.takeWhile_append_of_pos hno]
  simp

theorem hex_injective : Function.Injective hex := by
  intro n
  unfold hex
  induction n using Nat.strongRecOn with
  | ind n ih =>
    intro m h
    have hdigits : ∀ k, Nat.toDigits 16 k =
        if k < 16 then [k.digitChar] else Nat.toDigits 16 (k / 16) ++ [(k % 16).digitChar] :=
      fun k => Nat.toDigits_eq_if (by omega)
    have hne : ∀ k, Nat.toDigits 16 k ≠ [] := fun k => Nat.toDigits_ne_nil
    rw [hdigits n, hdigits m] at h
    split_ifs at h with hn hm hm
    · exact digitChar_inj n hn m hm (List.singleton_inj.1 h)
    · -- two digits or more are not one digit
      rw [← List.nil_append [n.digitChar]] at h
      exact absurd (List.append_inj' h rfl).1.symm (hne _)
    · rw [← List.nil_append [m.digitChar]] at h
      exact absurd (List.append_inj' h rfl).1 (hne _)
    · obtain ⟨hdiv, hmod⟩ := List.append_inj' h rfl
      have hquotient : n / 16 = m / 16 := ih (n / 16) (by omega) hdiv
      have hremainder : n % 16 = m % 16 :=
        digitChar_inj _ (by omega) _ (by omega) (List.singleton_inj.1 hmod)
      omega

/-! ## Characters between quotes -/

/-- The characters with a short name, and their names. -/
def shortNames : List (Char × Char) :=
  [('\x00', '0'), ('\t', 't'), ('\n', 'n'), ('\r', 'r'), ('"', '"'), ('\\', '\\')]

/-- How a character is written between quotes. -/
inductive Written (c : Char) : List Char → Prop
  | plain (hq : c ≠ '"') (hb : c ≠ '\\') : Written c [c]
  | short {name : Char} (h : (c, name) ∈ shortNames) : Written c ['\\', name]
  | number : Written c ('\\' :: 'u' :: '{' :: (hex c.toNat ++ ['}']))

theorem written_quoteChar (c : Char) : Written c (quoteChar c) := by
  unfold quoteChar
  split_ifs with h₀ h₁ h₂ h₃ hq hb hv
  · exact .short (by simp [shortNames, h₀])
  · exact .short (by simp [shortNames, h₁])
  · exact .short (by simp [shortNames, h₂])
  · exact .short (by simp [shortNames, h₃])
  · exact .short (by simp [shortNames, hq])
  · exact .short (by simp [shortNames, hb])
  · exact .plain hq hb
  · exact .number

namespace Written

variable {c d : Char} {cs ds rest rest' : List Char}

theorem head?_ne (h : Written c cs) : cs.head? ≠ some '"' := by
  cases h with
  | plain hq _ => exact fun h => hq (Option.some.inj h)
  | short _ => exact fun h => absurd (Option.some.inj h) (by decide)
  | number => exact fun h => absurd (Option.some.inj h) (by decide)

theorem ne_nil (h : Written c cs) : cs ≠ [] := by
  cases h <;> exact List.cons_ne_nil _ _

/-- Of a character that is written in some way nothing but this is written. -/
theorem append_inj (hc : Written c cs) (hd : Written d ds) (h : cs ++ rest = ds ++ rest') :
    c = d ∧ rest = rest' := by
  cases hc with
  | plain hq hb =>
    cases hd with
    | plain _ _ => exact List.cons.inj h
    | short _ => exact absurd (List.cons.inj h).1 hb
    | number => exact absurd (List.cons.inj h).1 hb
  | @short name hname =>
    cases hd with
    | plain _ hb => exact absurd (List.cons.inj h).1.symm hb
    | @short name' hname' =>
      obtain ⟨hsame, hrest⟩ := List.cons.inj (List.cons.inj h).2
      have hinj : ∀ e ∈ shortNames, ∀ e' ∈ shortNames, e.2 = e'.2 → e.1 = e'.1 := by decide
      exact ⟨hinj _ hname _ hname' hsame, hrest⟩
    | number =>
      have hno : ∀ e ∈ shortNames, e.2 ≠ 'u' := by decide
      exact absurd (List.cons.inj (List.cons.inj h).2).1 (hno _ hname)
  | number =>
    cases hd with
    | plain _ hb => exact absurd (List.cons.inj h).1.symm hb
    | @short name hname =>
      have hno : ∀ e ∈ shortNames, e.2 ≠ 'u' := by decide
      exact absurd (List.cons.inj (List.cons.inj h).2).1.symm (hno _ hname)
    | number =>
      have hdigits : hex c.toNat ++ '}' :: rest = hex d.toNat ++ '}' :: rest' := by
        simpa using h
      have hhex : hex c.toNat = hex d.toNat := by
        rw [← takeWhile_hex c.toNat rest, hdigits, takeWhile_hex]
      rw [hhex] at hdigits
      exact ⟨Char.toNat_inj.1 (hex_injective hhex),
        (List.cons.inj (List.append_cancel_left hdigits)).2⟩

end Written

/-! ## Texts between quotes -/

/-- What is written of a character is not the closing quote. -/
theorem quoteChar_append_ne (c : Char) (rest rest' : List Char) :
    quoteChar c ++ rest ≠ '"' :: rest' := by
  intro h
  have hhead : (quoteChar c).head? = some '"' := by
    rw [← List.head?_append_of_ne_nil _ (written_quoteChar c).ne_nil, h]
    rfl
  exact (written_quoteChar c).head?_ne hhead

theorem flatMap_quoteChar_inj {cs ds rest rest' : List Char}
    (h : cs.flatMap quoteChar ++ '"' :: rest = ds.flatMap quoteChar ++ '"' :: rest') :
    cs = ds ∧ rest = rest' := by
  induction cs generalizing ds with
  | nil =>
    cases ds with
    | nil => exact ⟨rfl, (List.cons.inj h).2⟩
    | cons d ds =>
      rw [List.flatMap_cons, List.append_assoc] at h
      exact absurd h.symm (quoteChar_append_ne d _ _)
  | cons c cs ih =>
    cases ds with
    | nil =>
      rw [List.flatMap_cons, List.append_assoc] at h
      exact absurd h (quoteChar_append_ne c _ _)
    | cons d ds =>
      rw [List.flatMap_cons, List.flatMap_cons, List.append_assoc, List.append_assoc] at h
      obtain ⟨rfl, h'⟩ := (written_quoteChar c).append_inj (written_quoteChar d) h
      obtain ⟨rfl, hrest⟩ := ih h'
      exact ⟨rfl, hrest⟩

/-- A quoted text says where it ends, and what it is the text of. -/
theorem quoted_append_inj {s s' rest rest' : String}
    (h : quoted s ++ rest = quoted s' ++ rest') : s = s' ∧ rest = rest' := by
  have hchars := congrArg String.toList h
  unfold quoted at hchars
  rw [String.toList_append, String.toList_append, String.toList_ofList, String.toList_ofList,
    List.cons_append, List.cons_append, List.append_assoc, List.append_assoc] at hchars
  obtain ⟨hs, hrest⟩ := flatMap_quoteChar_inj (List.cons.inj hchars).2
  exact ⟨String.toList_inj.1 hs, String.toList_inj.1 hrest⟩

end Provision.Text
