import Provision.Json.Printer
import Provision.Proofs.Decoding
import Provision.Proofs.NoJson

/-!
# Reading compact text

The compact text of a value is read as the value, whatever its strings hold (`read_compact`). The
reader of a scalar is followed through its text; the reader of a container goes on as long as there
are items, and after an item it meets a comma or the closing bracket, which end any scalar
(`Ends`). Doubles are left out, whose texts are decimals of another kind, and so are values that
nest deeper than the reader goes.
-/

namespace Provision.Json

/-! ## What may follow a value -/

/-- A text that ends any value before it. -/
def Ends : List Char → Prop
  | [] => True
  | x :: _ => x = ',' ∨ x = ']' ∨ x = '}'

/-! ## Strings -/

section Strings

variable {rest : List Char} {pos : Nat}

theorem hexValue?_hexDigit {n : Nat} (h : n < 0x20) :
    hexValue? (hexDigit (n / 16)) = some (n / 16) ∧ hexValue? (hexDigit n) = some (n % 16) := by
  have hall : ∀ n : Fin 0x20, hexValue? (hexDigit (n.val / 16)) = some (n.val / 16) ∧
      hexValue? (hexDigit n.val) = some (n.val % 16) := by
    decide
  exact hall ⟨n, h⟩

/-- A control is read from its number. -/
theorem unicodeEscape_control {c : Char} (h : c.toNat < 0x20) :
    ∃ pos', unicodeEscape ⟨'0' :: '0' :: hexDigit (c.toNat / 16) :: hexDigit c.toNat :: rest, pos⟩ =
      .ok (c, ⟨rest, pos'⟩) := by
  obtain ⟨h₁, h₂⟩ := hexValue?_hexDigit h
  have hzero : hexValue? '0' = some 0 := by decide
  refine ⟨pos + 4, ?_⟩
  simp only [unicodeEscape, hexFour, hzero, h₁, h₂]
  have hn : ((0 * 16 + 0) * 16 + c.toNat / 16) * 16 + c.toNat % 16 = c.toNat := by omega
  rw [hn]
  show (if 0xDC00 ≤ c.toNat && c.toNat ≤ 0xDFFF then _ else if _ then _ else _) = _
  rw [if_neg (by simp; omega), if_neg (by simp; omega), Char.ofNat_toNat]

/-- A character is itself, or a backslash and what the reader takes for it. -/
theorem escape_cases (c : Char) :
    (escape c = [c] ∧ c ≠ '"' ∧ c ≠ '\\' ∧ ¬ c.toNat < 0x20) ∨
      ∃ cs, escape c = '\\' :: cs ∧
        ∀ rest pos, ∃ pos', escaped ⟨cs ++ rest, pos⟩ = .ok (c, ⟨rest, pos'⟩) := by
  unfold escape
  split_ifs with hquote hslash hb hf hn hr ht hcontrol
  · subst hquote; exact .inr ⟨_, rfl, fun rest pos => ⟨_, rfl⟩⟩
  · subst hslash; exact .inr ⟨_, rfl, fun rest pos => ⟨_, rfl⟩⟩
  · subst hb; exact .inr ⟨_, rfl, fun rest pos => ⟨_, rfl⟩⟩
  · subst hf; exact .inr ⟨_, rfl, fun rest pos => ⟨_, rfl⟩⟩
  · subst hn; exact .inr ⟨_, rfl, fun rest pos => ⟨_, rfl⟩⟩
  · subst hr; exact .inr ⟨_, rfl, fun rest pos => ⟨_, rfl⟩⟩
  · subst ht; exact .inr ⟨_, rfl, fun rest pos => ⟨_, rfl⟩⟩
  · exact .inr ⟨_, rfl, fun rest pos => unicodeEscape_control hcontrol⟩
  · exact .inl ⟨rfl, hquote, hslash, hcontrol⟩

theorem stringBody_plain {c : Char} (hquote : c ≠ '"') (hslash : c ≠ '\\')
    (hcontrol : ¬ c.toNat < 0x20) (fuel : Nat) :
    stringBody (fuel + 1) ⟨c :: rest, pos⟩ =
      (stringBody fuel ⟨rest, pos + c.utf8Size⟩).map fun r => (c :: r.1, r.2) := by
  rw [stringBody]
  dsimp only
  split <;> rename_i heq
  · cases heq
  · cases heq
    exact absurd rfl hquote
  · cases heq
    exact absurd rfl hslash
  · cases heq
    rw [if_neg hcontrol]
    rfl

theorem stringBody_escaped {c : Char} {cs : List Char} {pos' : Nat}
    (h : escaped ⟨cs, pos + 1⟩ = .ok (c, ⟨rest, pos'⟩)) (fuel : Nat) :
    stringBody (fuel + 1) ⟨'\\' :: cs, pos⟩ =
      (stringBody fuel ⟨rest, pos'⟩).map fun r => (c :: r.1, r.2) := by
  have hbody : stringBody (fuel + 1) ⟨'\\' :: cs, pos⟩ =
      escaped ⟨cs, pos + 1⟩ >>= fun e =>
        stringBody fuel e.2 >>= fun r => .ok (e.1 :: r.1, r.2) := rfl
  rw [hbody, h]
  rfl

/-- The characters of a string are read back, given fuel for each. -/
theorem stringBody_escape (rest : List Char) : ∀ (cs : List Char) (pos : Nat) {fuel : Nat},
    cs.length < fuel →
      ∃ pos', stringBody fuel ⟨cs.flatMap escape ++ '"' :: rest, pos⟩ = .ok (cs, ⟨rest, pos'⟩)
  | [], _, _ + 1, _ => ⟨_, rfl⟩
  | c :: cs, pos, fuel + 1, h => by
    have hfuel : cs.length < fuel := by
      rw [List.length_cons] at h
      omega
    rw [List.flatMap_cons, List.append_assoc]
    rcases escape_cases c with ⟨heq, hquote, hslash, hcontrol⟩ | ⟨es, heq, hread⟩
    · obtain ⟨pos', hbody⟩ := stringBody_escape rest cs (pos + c.utf8Size) hfuel
      refine ⟨pos', ?_⟩
      rw [heq, List.singleton_append, stringBody_plain hquote hslash hcontrol, hbody]
      rfl
    · obtain ⟨between, hescaped⟩ := hread (cs.flatMap escape ++ '"' :: rest) (pos + 1)
      obtain ⟨pos', hbody⟩ := stringBody_escape rest cs between hfuel
      refine ⟨pos', ?_⟩
      rw [heq, List.cons_append, stringBody_escaped hescaped, hbody]
      rfl

theorem length_le_length_flatMap_escape (cs : List Char) :
    cs.length ≤ (cs.flatMap escape).length := by
  induction cs with
  | nil => exact Nat.zero_le _
  | cons c cs ih =>
    have hpos : 0 < (escape c).length := by
      rcases escape_cases c with ⟨heq, -⟩ | ⟨es, heq, -⟩ <;> simp [heq]
    rw [List.flatMap_cons, List.length_append, List.length_cons]
    omega

/-- A string is read back from its text. -/
theorem readString_stringChars (s : String) (rest : List Char) (pos : Nat) :
    ∃ pos', readString ⟨stringChars s ++ rest, pos⟩ = .ok (s, ⟨rest, pos'⟩) := by
  have hlen := length_le_length_flatMap_escape s.toList
  have hfuel : s.toList.length < (stringChars s ++ rest).length := by
    rw [stringChars, List.cons_append, List.length_cons, List.length_append, List.length_append]
    omega
  obtain ⟨pos', hbody⟩ := stringBody_escape rest s.toList (pos + 1) hfuel
  have hchars : stringChars s ++ rest = '"' :: (s.toList.flatMap escape ++ '"' :: rest) := by
    simp [stringChars]
  have hnext : Cursor.next ⟨stringChars s ++ rest, pos⟩ =
      ⟨s.toList.flatMap escape ++ '"' :: rest, pos + 1⟩ := by
    rw [hchars]
    rfl
  refine ⟨pos', ?_⟩
  unfold readString
  rw [hnext, hbody]
  show Except.ok (String.ofList s.toList, _) = _
  rw [String.ofList_toList]

end Strings

/-! ## Numbers -/

section Numbers

variable {rest : List Char}

theorem le_ofDigitChars (ds : List Char) : ∀ n : Nat, n ≤ Nat.ofDigitChars 10 ds n := by
  induction ds with
  | nil => exact fun n => Nat.le_refl n
  | cons d ds ih =>
    intro n
    rw [Nat.ofDigitChars_cons]
    have h := ih (10 * n + (d.toNat - '0'.toNat))
    omega

/-- Digits of a number of 64 bits are all taken on. -/
theorem absorb_eq (ds : List Char) : ∀ {n : Nat},
    Nat.ofDigitChars 10 ds n < 0x10000000000000000 →
      absorb n ds = (Nat.ofDigitChars 10 ds n, []) := by
  induction ds with
  | nil => exact fun _ => rfl
  | cons d ds ih =>
    intro n h
    rw [Nat.ofDigitChars_cons, Nat.mul_comm] at h ⊢
    have hle := le_ofDigitChars ds (n * 10 + (d.toNat - '0'.toNat))
    rw [← ih h]
    exact if_pos (Nat.lt_of_le_of_lt hle h)

theorem not_isDigit_of_ends {x : Char} (h : Ends (x :: rest)) : x.isDigit = false := by
  rcases h with rfl | rfl | rfl <;> rfl

/-- A run of digits ends where the number does. -/
theorem digitRun_append {ds : List Char} (hds : ∀ d ∈ ds, d.isDigit = true) (h : Ends rest)
    (pos : Nat) :
    digitRun ⟨ds ++ rest, pos⟩ = (ds, ⟨rest, pos + ds.length⟩) := by
  have hrest : rest.takeWhile Char.isDigit = [] := by
    cases rest with
    | nil => rfl
    | cons x xs => rw [List.takeWhile_cons_of_neg (by simp [not_isDigit_of_ends h])]
  have htake : (ds ++ rest).takeWhile Char.isDigit = ds := by
    rw [List.takeWhile_append_of_pos hds, hrest, List.append_nil]
  unfold digitRun
  simp only [htake, List.drop_left]

/-- Nothing that may follow a value goes on with a number. -/
theorem readTail_toDigits {n : Nat} (hn : n < 0x10000000000000000) (negative : Bool)
    (h : Ends rest) (pos : Nat) :
    readTail negative (Nat.toDigits 10 n) ⟨rest, pos⟩ = .ok (integer negative n, ⟨rest, pos⟩) := by
  have hdigits : Nat.ofDigitChars 10 (Nat.toDigits 10 n) 0 = n :=
    Nat.ofDigitChars_toDigits (by omega) (by omega)
  have habsorb := absorb_eq (Nat.toDigits 10 n) (n := 0) (by rwa [hdigits])
  rw [hdigits] at habsorb
  unfold readTail
  rw [habsorb]
  rcases rest with _ | ⟨x, xs⟩
  · rfl
  · rcases h with rfl | rfl | rfl <;> rfl

/-- Only zero starts with the digit zero. -/
theorem head?_toDigits (n : Nat) (h : (Nat.toDigits 10 n).head? = some '0') : n = 0 := by
  induction n using Nat.strongRecOn with
  | ind n ih =>
    rw [Nat.toDigits_eq_if (by omega)] at h
    by_cases hn : n < 10
    · rw [if_pos hn] at h
      have hall : ∀ n : Fin 10, [n.val.digitChar].head? = some '0' → n.val = 0 := by decide
      exact hall ⟨n, hn⟩ h
    · rw [if_neg hn, List.head?_append_of_ne_nil _ Nat.toDigits_ne_nil] at h
      have hdiv := ih (n / 10) (by omega) h
      omega

/-- A natural number is read from its digits. -/
theorem readDigits_toDigits {n : Nat} (hn : n < 0x10000000000000000) (negative : Bool)
    (h : Ends rest) (pos : Nat) :
    ∃ pos', readDigits negative ⟨Nat.toDigits 10 n ++ rest, pos⟩ =
      .ok (integer negative n, ⟨rest, pos'⟩) := by
  have hds (d : Char) (hd : d ∈ Nat.toDigits 10 n) : d.isDigit = true :=
    Nat.isDigit_of_mem_toDigits (by omega) (by omega) hd
  have hrun := digitRun_append hds h pos
  have htail := readTail_toDigits hn negative h
  have hhead := head?_toDigits n
  have hne : Nat.toDigits 10 n ≠ [] := Nat.toDigits_ne_nil
  unfold readDigits
  dsimp only
  split
  · rename_i heq
    exact absurd (List.append_eq_nil_iff.1 heq).1 hne
  · rename_i d ds heq
    obtain rfl : n = 0 := by
      refine hhead ?_
      rw [← List.head?_append_of_ne_nil _ hne, heq]
      rfl
    obtain ⟨rfl⟩ : rest = d :: ds := (List.cons.inj heq).2
    rw [if_neg (by simp [not_isDigit_of_ends h])]
    exact ⟨_, htail _⟩
  · rw [hrun]
    split
    · rename_i heq
      exact absurd (Prod.mk.inj heq).1 hne
    · rename_i heq
      cases heq
      exact ⟨_, htail _⟩

theorem integer_negative (k : Fin 0x8000000000000000) :
    integer true (k.val + 1) = .negative k := by
  have hk := k.isLt
  have hfits : ¬ (k.val + 1 = 0 || 0x8000000000000000 < k.val + 1) = true := by
    rw [Bool.or_eq_true, decide_eq_true_eq, decide_eq_true_eq]
    omega
  unfold integer
  rw [if_neg (by decide), if_neg hfits, Nat.add_sub_cancel]
  exact congrArg Number.negative (Fin.ext (Nat.mod_eq_of_lt hk))

/-- An integer is read from its text. -/
theorem readNumber_chars {n : Number} (hn : ∀ x, n ≠ .double x) (h : Ends rest) (pos : Nat) :
    ∃ pos', readNumber ⟨n.chars ++ rest, pos⟩ = .ok (n, ⟨rest, pos'⟩) := by
  cases n with
  | natural k =>
    obtain ⟨pos', hread⟩ := readDigits_toDigits k.toNat_lt false h pos
    have hnatural : integer false k.toNat = .natural k := congrArg Number.natural UInt64.ofNat_toNat
    rw [hnatural] at hread
    refine ⟨pos', ?_⟩
    rw [← hread]
    unfold readNumber
    split
    · rename_i heq
      -- no digit is a sign
      have hmem : '-' ∈ Nat.toDigits 10 k.toNat := by
        refine List.mem_of_mem_head? ?_
        rw [← List.head?_append_of_ne_nil _ Nat.toDigits_ne_nil]
        exact congrArg List.head? heq
      have hdigit := Nat.isDigit_of_mem_toDigits (by omega) (by omega) hmem
      exact absurd hdigit (by decide)
    · rfl
  | negative k =>
    have hk : k.val + 1 < 0x10000000000000000 := by omega
    obtain ⟨pos', hread⟩ := readDigits_toDigits hk true h (pos + 1)
    rw [integer_negative] at hread
    exact ⟨pos', hread⟩
  | double x => exact absurd rfl (hn x)

end Numbers

/-! ## Containers -/

/-- The reader takes the text of the value for the value, whatever ends it. -/
def Reads (value : Cursor → Outcome) (j : Json) : Prop :=
  ∀ (rest : List Char) (pos : Nat), Ends rest →
    ∃ n pos', value ⟨j.chars ++ rest, pos⟩ = (n, some ⟨rest, pos'⟩) ∧ n.Holds j

/-- An item may start here. -/
def Opens : List Char → Prop
  | [] => False
  | x :: _ => Cursor.isJsonBlank x = false ∧ x ≠ ']'

section Containers

variable {value : Cursor → Outcome} {rest cs : List Char}

theorem skipBlank_of_opens (h : Opens cs) (pos : Nat) : Cursor.skipBlank ⟨cs, pos⟩ = ⟨cs, pos⟩ := by
  cases cs with
  | nil => exact h.elim
  | cons x xs => exact skipBlank_cons h.1 xs pos

theorem nextItem_first (h : Opens cs) (pos : Nat) :
    nextItem true ⟨cs, pos⟩ = .ok ⟨cs, pos⟩ := by
  unfold nextItem
  rw [skipBlank_of_opens h]
  cases cs with
  | nil => exact h.elim
  | cons x xs =>
    dsimp only
    split <;> rename_i heq
    · cases heq
    · cases heq
      exact absurd rfl h.2
    · rfl

theorem nextItem_comma (h : Opens cs) (pos : Nat) :
    nextItem false ⟨',' :: cs, pos⟩ = .ok ⟨cs, pos + 1⟩ := by
  have hnext : Cursor.next ⟨',' :: cs, pos⟩ = ⟨cs, pos + 1⟩ := rfl
  unfold nextItem
  rw [skipBlank_cons rfl]
  dsimp only
  split <;> rename_i heq
  · cases heq
  · cases heq
  · cases heq
    rw [if_neg Bool.false_ne_true, if_pos rfl, hnext, skipBlank_of_opens h]
    cases cs with
    | nil => exact h.elim
    | cons x xs =>
      dsimp only
      split <;> rename_i heq
      · cases heq
      · cases heq
        exact absurd rfl h.2
      · rfl

theorem ends_itemsChars (js : List Json) (rest : List Char) : Ends (itemsChars js ++ rest) := by
  cases js with
  | nil => exact .inr (.inl rfl)
  | cons j js => exact .inl rfl

theorem length_lt_itemsChars (js : List Json) : js.length < (itemsChars js).length := by
  induction js with
  | nil => exact Nat.zero_lt_one
  | cons j js ih =>
    rw [itemsChars, List.length_cons, List.length_cons, List.length_append]
    omega

/-- The items of an array are read one by one. -/
theorem readItems_cons {first : Bool} {c : Cursor} {j : Json} {js : List Json} {fuel pos : Nat}
    (hnext : nextItem first c = .ok ⟨j.chars ++ (itemsChars js ++ rest), pos⟩)
    (hj : Reads value j)
    (hjs : ∀ pos, ∃ ns stop pos', readItems value fuel false ⟨itemsChars js ++ rest, pos⟩ =
      (ns, .closed stop, some ⟨rest, pos'⟩) ∧ List.Forall₂ Node.Holds ns js) :
    ∃ ns stop pos', readItems value (fuel + 1) first c =
      (ns, .closed stop, some ⟨rest, pos'⟩) ∧ List.Forall₂ Node.Holds ns (j :: js) := by
  obtain ⟨n, between, hn, hholds⟩ := hj _ pos (ends_itemsChars js rest)
  obtain ⟨ns, stop, pos', hns, hall⟩ := hjs between
  refine ⟨n :: ns, stop, pos', ?_, .cons hholds hall⟩
  rw [readItems, hnext]
  dsimp only
  rw [hn]
  dsimp only
  rw [hns]

/-- The items after the first are read up to the closing bracket. -/
theorem readItems_itemsChars : ∀ {js : List Json} {fuel : Nat}, js.length < fuel →
    (∀ j ∈ js, Reads value j ∧ ∀ rest, Opens (j.chars ++ rest)) → ∀ pos,
      ∃ ns stop pos', readItems value fuel false ⟨itemsChars js ++ rest, pos⟩ =
        (ns, .closed stop, some ⟨rest, pos'⟩) ∧ List.Forall₂ Node.Holds ns js
  | [], _ + 1, _, _, pos => ⟨[], pos + 1, pos + 1, rfl, .nil⟩
  | j :: js, fuel + 1, hfuel, hjs, pos => by
    obtain ⟨hread, hopens⟩ := hjs j List.mem_cons_self
    have hnext : nextItem false ⟨itemsChars (j :: js) ++ rest, pos⟩ =
        .ok ⟨j.chars ++ (itemsChars js ++ rest), pos + 1⟩ := by
      rw [itemsChars, List.cons_append, List.append_assoc]
      exact nextItem_comma (hopens _) pos
    exact readItems_cons hnext hread (readItems_itemsChars (Nat.lt_of_succ_lt_succ hfuel)
      fun j hj => hjs j (List.mem_cons_of_mem _ hj))

/-- The items of an array are read up to the closing bracket. -/
theorem readItems_first {j : Json} {js : List Json} {fuel : Nat} (hfuel : js.length < fuel)
    (hjs : ∀ j' ∈ j :: js, Reads value j' ∧ ∀ rest, Opens (j'.chars ++ rest)) (pos : Nat) :
    ∃ ns stop pos', readItems value (fuel + 1) true ⟨j.chars ++ (itemsChars js ++ rest), pos⟩ =
      (ns, .closed stop, some ⟨rest, pos'⟩) ∧ List.Forall₂ Node.Holds ns (j :: js) := by
  obtain ⟨hread, hopens⟩ := hjs j List.mem_cons_self
  exact readItems_cons (nextItem_first (hopens _) pos) hread
    (readItems_itemsChars hfuel fun j hj => hjs j (List.mem_cons_of_mem _ hj))

theorem ends_membersChars (ms : List (String × Json)) (rest : List Char) :
    Ends (membersChars ms ++ rest) := by
  cases ms with
  | nil => exact .inr (.inr rfl)
  | cons m ms => exact .inl rfl

theorem length_lt_membersChars (ms : List (String × Json)) :
    ms.length < (membersChars ms).length := by
  induction ms with
  | nil => exact Nat.zero_lt_one
  | cons m ms ih =>
    rw [membersChars]
    simp only [List.length_cons, List.length_append]
    omega

/-- The members of an object are read one by one. -/
theorem readMembers_cons {first : Bool} {c : Cursor} {k : String} {j : Json}
    {ms : List (String × Json)} {fuel pos : Nat}
    (hnext : nextName first c =
      .ok ⟨stringChars k ++ ':' :: (j.chars ++ (membersChars ms ++ rest)), pos⟩)
    (hj : Reads value j)
    (hms : ∀ pos, ∃ ns stop pos', readMembers value fuel false ⟨membersChars ms ++ rest, pos⟩ =
      (ns, .closed stop, some ⟨rest, pos'⟩) ∧ List.Forall₂ Member.Holds ns ms) :
    ∃ ns stop pos', readMembers value (fuel + 1) first c =
      (ns, .closed stop, some ⟨rest, pos'⟩) ∧ List.Forall₂ Member.Holds ns ((k, j) :: ms) := by
  obtain ⟨colon, hname⟩ :=
    readString_stringChars k (':' :: (j.chars ++ (membersChars ms ++ rest))) pos
  obtain ⟨n, between, hn, hholds⟩ := hj _ (colon + 1) (ends_membersChars ms rest)
  obtain ⟨ns, stop, pos', hns, hall⟩ := hms between
  have hvalue : readMemberValue value ⟨':' :: (j.chars ++ (membersChars ms ++ rest)), colon⟩ =
      (n, none, some ⟨membersChars ms ++ rest, between⟩) := by
    have hcolon : readColon ⟨':' :: (j.chars ++ (membersChars ms ++ rest)), colon⟩ =
        .ok ⟨j.chars ++ (membersChars ms ++ rest), colon + 1⟩ := rfl
    rw [readMemberValue, hcolon]
    dsimp only
    rw [hn]
  let place := namePlace ⟨':' :: (j.chars ++ (membersChars ms ++ rest)), colon⟩
  refine ⟨⟨k, place, n, none⟩ :: ns, stop, pos', ?_, .cons (.mk k place hholds) hall⟩
  rw [readMembers, hnext]
  dsimp only
  rw [hname]
  dsimp only
  rw [hvalue]
  dsimp only
  rw [hns]

/-- The members after the first are read up to the closing brace. -/
theorem readMembers_membersChars : ∀ {ms : List (String × Json)} {fuel : Nat},
    ms.length < fuel → (∀ m ∈ ms, Reads value m.2) → ∀ pos,
      ∃ ns stop pos', readMembers value fuel false ⟨membersChars ms ++ rest, pos⟩ =
        (ns, .closed stop, some ⟨rest, pos'⟩) ∧ List.Forall₂ Member.Holds ns ms
  | [], _ + 1, _, _, pos => ⟨[], pos + 1, pos + 1, rfl, .nil⟩
  | (k, j) :: ms, fuel + 1, hfuel, hms, pos => by
    have hnext : nextName false ⟨membersChars ((k, j) :: ms) ++ rest, pos⟩ =
        .ok ⟨stringChars k ++ ':' :: (j.chars ++ (membersChars ms ++ rest)), pos + 1⟩ := by
      simp only [membersChars, List.cons_append, List.append_assoc]
      rfl
    exact readMembers_cons hnext (hms _ List.mem_cons_self)
      (readMembers_membersChars (Nat.lt_of_succ_lt_succ hfuel)
        fun m hm => hms m (List.mem_cons_of_mem _ hm))

/-- The members of an object are read up to the closing brace. -/
theorem readMembers_first {k : String} {j : Json} {ms : List (String × Json)} {fuel : Nat}
    (hfuel : ms.length < fuel) (hms : ∀ m ∈ (k, j) :: ms, Reads value m.2) (pos : Nat) :
    ∃ ns stop pos', readMembers value (fuel + 1) true
        ⟨stringChars k ++ ':' :: (j.chars ++ (membersChars ms ++ rest)), pos⟩ =
      (ns, .closed stop, some ⟨rest, pos'⟩) ∧ List.Forall₂ Member.Holds ns ((k, j) :: ms) :=
  readMembers_cons rfl (hms _ List.mem_cons_self)
    (readMembers_membersChars hfuel fun m hm => hms m (List.mem_cons_of_mem _ hm))

end Containers

/-! ## Values -/

mutual

/-- No number in the value is a double. -/
def Integral : Json → Prop
  | .number (.double _) => False
  | .array items => IntegralItems items
  | .object members => IntegralMembers members
  | _ => True

/-- `Integral` for every item. -/
def IntegralItems : List Json → Prop
  | [] => True
  | j :: js => Integral j ∧ IntegralItems js

/-- `Integral` for the value of every member. -/
def IntegralMembers : List (String × Json) → Prop
  | [] => True
  | (_, j) :: rest => Integral j ∧ IntegralMembers rest

end

/-- No character of a number is one of another token. -/
theorem ne_of_isDigit {x c : Char} (h : x.isDigit = true) (hc : c.isDigit = false) : x ≠ c := by
  rintro rfl
  rw [h] at hc
  cases hc

theorem opens_of_isDigit {x : Char} (h : x.isDigit = true) (cs : List Char) : Opens (x :: cs) := by
  refine ⟨?_, ne_of_isDigit h rfl⟩
  simp [Cursor.isJsonBlank, ne_of_isDigit h (show ' '.isDigit = false from rfl),
    ne_of_isDigit h (show '\n'.isDigit = false from rfl),
    ne_of_isDigit h (show '\t'.isDigit = false from rfl),
    ne_of_isDigit h (show '\r'.isDigit = false from rfl)]

/-- The text of an integer starts with a sign or a digit. -/
theorem exists_number_chars {n : Number} (hn : ∀ x, n ≠ .double x) :
    ∃ x xs, n.chars = x :: xs ∧ (x = '-' ∨ x.isDigit = true) := by
  cases n with
  | natural k =>
    cases hds : Nat.toDigits 10 k.toNat with
    | nil => exact absurd hds Nat.toDigits_ne_nil
    | cons d ds =>
      have hd : d ∈ Nat.toDigits 10 k.toNat := hds ▸ List.mem_cons_self
      exact ⟨d, ds, hds, .inr (Nat.isDigit_of_mem_toDigits (by omega) (by omega) hd)⟩
  | negative k => exact ⟨'-', _, rfl, .inl rfl⟩
  | double x => exact absurd rfl (hn x)

theorem Integral.ne_double {n : Number} (h : Integral (.number n)) (x : Binary64) :
    n ≠ .double x := by
  rintro rfl
  exact h

/-- The text of a value starts like one. -/
theorem opens_chars {j : Json} (h : Integral j) (rest : List Char) : Opens (j.chars ++ rest) := by
  match j, h with
  | .null, _ | .bool true, _ | .bool false, _ | .string _, _ => exact ⟨rfl, by decide⟩
  | .array [], _ | .array (_ :: _), _ | .object [], _ | .object ((_, _) :: _), _ =>
    exact ⟨rfl, by decide⟩
  | .number n, h =>
    obtain ⟨x, xs, heq, hx⟩ := exists_number_chars h.ne_double
    rw [chars, heq]
    rcases hx with rfl | hx
    · exact ⟨rfl, by decide⟩
    · exact opens_of_isDigit hx _

section Values

variable {nested : Option (Cursor → Outcome)} {value : Cursor → Outcome}

theorem reads_string (s : String) : Reads (readValue nested) (.string s) := by
  intro rest pos _
  obtain ⟨pos', hread⟩ := readString_stringChars s rest pos
  have hvalue : readValue nested ⟨(Json.string s).chars ++ rest, pos⟩ =
      scalar ⟨stringChars s ++ rest, pos⟩ (readString ⟨stringChars s ++ rest, pos⟩) .string := rfl
  rw [hvalue, hread]
  exact ⟨_, _, rfl, .string _ s⟩

/-- What starts with a sign or a digit is read as a number. -/
theorem readValue_of_digit {x : Char} (hx : x = '-' ∨ x.isDigit = true) (xs : List Char)
    (pos : Nat) :
    readValue nested ⟨x :: xs, pos⟩ =
      scalar ⟨x :: xs, pos⟩ (readNumber ⟨x :: xs, pos⟩) .number := by
  rcases hx with rfl | hx
  · rfl
  have hne {c : Char} (hc : c.isDigit = false) : x ≠ c := ne_of_isDigit hx hc
  unfold readValue
  rw [skipBlank_of_opens (opens_of_isDigit hx _)]
  dsimp only
  split <;> rename_i hcs
  · cases hcs
  · cases hcs; exact absurd rfl (hne rfl)
  · cases hcs; exact absurd rfl (hne rfl)
  · cases hcs; exact absurd rfl (hne rfl)
  · cases hcs; exact absurd rfl (hne rfl)
  · cases hcs; exact absurd rfl (hne rfl)
  · cases hcs; exact absurd rfl (hne rfl)
  · cases hcs
    rw [if_pos (by simp [hx])]

theorem reads_number {n : Number} (hn : ∀ x, n ≠ .double x) :
    Reads (readValue nested) (.number n) := by
  intro rest pos hends
  obtain ⟨pos', hread⟩ := readNumber_chars hn hends pos
  obtain ⟨x, xs, heq, hx⟩ := exists_number_chars hn
  refine ⟨.number ⟨pos, pos'⟩ n, pos', ?_, .number _ n⟩
  rw [chars]
  rw [heq, List.cons_append] at hread ⊢
  rw [readValue_of_digit hx, hread]
  rfl

theorem reads_array {js : List Json}
    (hjs : ∀ j ∈ js, Reads value j ∧ ∀ rest, Opens (j.chars ++ rest)) :
    Reads (readValue (some value)) (.array js) := by
  intro rest pos _
  cases js with
  | nil => exact ⟨_, _, rfl, .array pos (pos + 1 + 1) .nil⟩
  | cons j js =>
    have hlen := length_lt_itemsChars js
    have hfuel : js.length < (j.chars ++ (itemsChars js ++ rest)).length := by
      rw [List.length_append, List.length_append]
      omega
    obtain ⟨ns, stop, pos', hread, hall⟩ := readItems_first hfuel hjs (pos + 1)
    refine ⟨.array pos ns (.closed stop), pos', ?_, .array pos stop hall⟩
    have hchars : (Json.array (j :: js)).chars ++ rest =
        '[' :: (j.chars ++ (itemsChars js ++ rest)) := by
      rw [chars, List.cons_append, List.append_assoc]
    have hvalue (cs : List Char) : readValue (some value) ⟨'[' :: cs, pos⟩ =
        (.array pos (readItems value (cs.length + 1) true ⟨cs, pos + 1⟩).1
          (readItems value (cs.length + 1) true ⟨cs, pos + 1⟩).2.1,
          (readItems value (cs.length + 1) true ⟨cs, pos + 1⟩).2.2) := rfl
    rw [hchars, hvalue, hread]

/-- The closing brace ends an object, whatever follows. -/
theorem readValue_object {ms : List (String × Json)} (hms : ∀ m ∈ ms, Reads value m.2)
    (rest : List Char) (pos : Nat) :
    ∃ n pos', readValue (some value) ⟨(Json.object ms).chars ++ rest, pos⟩ =
      (n, some ⟨rest, pos'⟩) ∧ n.Holds (.object ms) := by
  rcases ms with _ | ⟨⟨k, j⟩, ms⟩
  · exact ⟨_, _, rfl, .object pos (pos + 1 + 1) .nil⟩
  · have hlen := length_lt_membersChars ms
    have hfuel : ms.length <
        (stringChars k ++ ':' :: (j.chars ++ (membersChars ms ++ rest))).length := by
      simp only [List.length_append, List.length_cons]
      omega
    obtain ⟨ns, stop, pos', hread, hall⟩ := readMembers_first hfuel hms (pos + 1)
    refine ⟨.object pos ns (.closed stop), pos', ?_, .object pos stop hall⟩
    have hchars : (Json.object ((k, j) :: ms)).chars ++ rest =
        '{' :: (stringChars k ++ ':' :: (j.chars ++ (membersChars ms ++ rest))) := by
      simp only [chars, List.cons_append, List.append_assoc]
    have hvalue (cs : List Char) : readValue (some value) ⟨'{' :: cs, pos⟩ =
        (.object pos (readMembers value (cs.length + 1) true ⟨cs, pos + 1⟩).1
          (readMembers value (cs.length + 1) true ⟨cs, pos + 1⟩).2.1,
          (readMembers value (cs.length + 1) true ⟨cs, pos + 1⟩).2.2) := rfl
    rw [hchars, hvalue, hread]

theorem reads_object {ms : List (String × Json)} (hms : ∀ m ∈ ms, Reads value m.2) :
    Reads (readValue (some value)) (.object ms) :=
  fun rest pos _ => readValue_object hms rest pos

end Values

mutual

/-- A value that nests no deeper than the reader goes is read from its text. -/
theorem reads_readNode : ∀ {j : Json} {d : Nat}, j.depth ≤ d → Integral j → Reads (readNode d) j
  | .null, d, _, _ => by
    cases d <;> exact fun _ _ _ => ⟨_, _, rfl, .null _⟩
  | .bool true, d, _, _ => by
    cases d <;> exact fun _ _ _ => ⟨_, _, rfl, .bool _ _⟩
  | .bool false, d, _, _ => by
    cases d <;> exact fun _ _ _ => ⟨_, _, rfl, .bool _ _⟩
  | .number n, d, _, h => by
    cases d <;> exact reads_number h.ne_double
  | .string s, d, _, _ => by
    cases d <;> exact reads_string s
  | .array js, d + 1, hd, h => reads_array (reads_items (Nat.le_of_succ_le_succ hd) h)
  | .object ms, d + 1, hd, h => reads_object (reads_members (Nat.le_of_succ_le_succ hd) h)

theorem reads_items : ∀ {js : List Json} {d : Nat}, depthItems js ≤ d → IntegralItems js →
    ∀ j ∈ js, Reads (readNode d) j ∧ ∀ rest, Opens (j.chars ++ rest)
  | [], _, _, _ => fun _ hj => absurd hj List.not_mem_nil
  | j :: js, d, hd, h => by
    intro j' hj'
    have hmax : max (depth j) (depthItems js) ≤ d := hd
    have hfirst : Reads (readNode d) j := reads_readNode (by omega) h.1
    rcases List.mem_cons.1 hj' with rfl | hj'
    · exact ⟨hfirst, opens_chars h.1⟩
    · exact reads_items (by omega) h.2 j' hj'

theorem reads_members : ∀ {ms : List (String × Json)} {d : Nat}, depthMembers ms ≤ d →
    IntegralMembers ms → ∀ m ∈ ms, Reads (readNode d) m.2
  | [], _, _, _ => fun _ hm => absurd hm List.not_mem_nil
  | (k, j) :: ms, d, hd, h => by
    intro m hm
    have hmax : max (depth j) (depthMembers ms) ≤ d := hd
    have hfirst : Reads (readNode d) j := reads_readNode (by omega) h.1
    rcases List.mem_cons.1 hm with rfl | hm
    · exact hfirst
    · exact reads_members (by omega) h.2 m hm

end

/-- The compact text of a value without doubles is read to its end as the value. -/
theorem Document.read_compact {j : Json} (hd : j.depth ≤ nesting) (h : Integral j) :
    ∃ n, Document.read j.compact = ⟨n, none⟩ ∧ n.Holds j := by
  obtain ⟨n, pos', hread, hholds⟩ := reads_readNode hd h [] 0 trivial
  refine ⟨n, ?_, hholds⟩
  have hcursor : Cursor.ofString j.compact = ⟨j.chars ++ [], 0⟩ := by
    rw [Cursor.ofString, compact, String.toList_ofList, List.append_nil]
  rw [Document.read, hcursor, hread]
  rfl

/-! ## Blanks around a value -/

/-- A text of blanks only. -/
def Blank (text : String) : Prop := ∀ c ∈ text.toList, c ∈ [' ', '\t', '\n', '\r']

instance (text : String) : Decidable (Blank text) := List.decidableBAll _ text.toList

section Blanks

variable {text before after : String}

theorem blank_empty : Blank "" := by simp [Blank]

theorem Blank.isJsonBlank (h : Blank text) {c : Char} (hc : c ∈ text.toList) :
    Cursor.isJsonBlank c = true := by
  have hmem := h c hc
  simp only [List.mem_cons, List.not_mem_nil, or_false] at hmem
  rcases hmem with rfl | rfl | rfl | rfl <;> rfl

theorem skipBlank_append (rest : List Char) : ∀ {cs : List Char},
    (∀ c ∈ cs, Cursor.isJsonBlank c = true) → ∀ pos,
      Cursor.skipBlank ⟨cs ++ rest, pos⟩ = Cursor.skipBlank ⟨rest, pos + cs.length⟩
  | [], _, _ => rfl
  | x :: xs, h, pos => by
    have ih := skipBlank_append rest (fun c hc => h c (List.mem_cons_of_mem _ hc)) (pos + 1)
    have hskip : Cursor.skipBlank ⟨x :: xs ++ rest, pos⟩ =
        Cursor.skipBlank ⟨xs ++ rest, pos + 1⟩ := if_pos (h x List.mem_cons_self)
    rw [hskip, ih, List.length_cons]
    congr 2
    omega

/-- The reader passes over the blanks before a value. -/
theorem readNode_blank (h : Blank text) (d : Nat) (rest : List Char) (pos : Nat) :
    readNode d ⟨text.toList ++ rest, pos⟩ = readNode d ⟨rest, pos + text.toList.length⟩ := by
  have hskip := skipBlank_append rest (fun _ hc => h.isJsonBlank hc) pos
  cases d <;> rw [readNode, readValue, hskip] <;> rfl

theorem leftover?_blank (h : Blank text) (pos : Nat) : leftover? ⟨text.toList, pos⟩ = none := by
  have hskip := skipBlank_append [] (fun _ hc => h.isJsonBlank hc) pos
  rw [List.append_nil] at hskip
  unfold leftover?
  rw [hskip]
  rfl

/-- The compact text of an object without doubles is read as the object between blanks too. -/
theorem Document.read_object {ms : List (String × Json)} (hb : Blank before) (ha : Blank after)
    (hd : (Json.object ms).depth ≤ nesting) (h : Integral (.object ms)) :
    ∃ n, Document.read (before ++ (Json.object ms).compact ++ after) = ⟨n, none⟩ ∧
      n.Holds (.object ms) := by
  have hcursor : Cursor.ofString (before ++ (Json.object ms).compact ++ after) =
      ⟨before.toList ++ ((Json.object ms).chars ++ after.toList), 0⟩ := by
    rw [Cursor.ofString, compact, String.toList_append, String.toList_append,
      String.toList_ofList, List.append_assoc]
  have hms : ∀ m ∈ ms, Reads (readNode 126) m.2 := reads_members (Nat.le_of_succ_le_succ hd) h
  obtain ⟨n, pos', hread, hholds⟩ :=
    readValue_object hms after.toList (0 + before.toList.length)
  refine ⟨n, ?_, hholds⟩
  have hnode : readNode nesting (Cursor.ofString (before ++ (Json.object ms).compact ++ after)) =
      (n, some ⟨after.toList, pos'⟩) := by
    rw [hcursor, readNode_blank hb]
    exact hread
  rw [Document.read, hnode]
  show Document.mk n (leftover? _) = _
  rw [leftover?_blank ha]

end Blanks

end Provision.Json
