import Jqe.DerivSpecification
/-!
# JsonText — a text of `json.dumps` is read one way

Characters are read back from what they are written as, and with them strings, `null`, arrays and objects: two values
without numbers that continue alike are the same.
-/
namespace Jqe

open List

/-! ### Characters -/

def hexValue (c : Char) : ℕ := if c.toNat < 58 then c.toNat - 48 else c.toNat - 87

def hexValue4 (a b c d : Char) : ℕ := ((hexValue a * 16 + hexValue b) * 16 + hexValue c) * 16 + hexValue d

theorem hexValue_digit : ∀ d < 16, hexValue (Char.ofNat (if d < 10 then 48 + d else 87 + d)) = d := by decide

/-- The character of a code unit and, for the first half of a pair, of the unit after it. -/
def readUnit (n : ℕ) (rest : List Char) : Option (Char × List Char) :=
  if 55296 ≤ n ∧ n < 56320 then
    match rest with
    | _ :: _ :: a :: b :: c :: d :: rest =>
      some (Char.ofNat (65536 + (n - 55296) * 1024 + (hexValue4 a b c d - 56320)), rest)
    | _ => none
  else some (Char.ofNat n, rest)

def readChar : List Char → Option (Char × List Char)
  | '\\' :: 'u' :: a :: b :: c :: d :: rest => readUnit (hexValue4 a b c d) rest
  | '\\' :: 'n' :: rest => some (Char.ofNat 10, rest)
  | '\\' :: 'r' :: rest => some (Char.ofNat 13, rest)
  | '\\' :: 't' :: rest => some (Char.ofNat 9, rest)
  | '\\' :: 'f' :: rest => some (Char.ofNat 12, rest)
  | '\\' :: 'b' :: rest => some (Char.ofNat 8, rest)
  | '\\' :: c :: rest => some (c, rest)
  | c :: rest => some (c, rest)
  | [] => none

theorem hex4_eq {n : ℕ} (h : n < 65536) : ∃ a b c d, hex4 n = [a, b, c, d] ∧ hexValue4 a b c d = n := by
  refine ⟨_, _, _, _, rfl, ?_⟩
  unfold hexValue4
  rw [hexValue_digit _ (Nat.mod_lt _ (by decide)), hexValue_digit _ (Nat.mod_lt _ (by decide)),
    hexValue_digit _ (Nat.mod_lt _ (by decide)), hexValue_digit _ (Nat.mod_lt _ (by decide))]
  omega

theorem readChar_jsonChar (c : Char) (rest : List Char) : readChar (jsonChar c ++ rest) = some (c, rest) := by
  have hvalid : c.toNat < 55296 ∨ 57343 < c.toNat ∧ c.toNat < 1114112 := c.valid
  have hof : ∀ n, c.toNat = n → Char.ofNat n = c := fun n h => h ▸ Char.ofNat_toNat c
  unfold jsonChar
  dsimp only
  split
  · next h => subst h; rfl
  split
  · next h => subst h; rfl
  split
  · next h => rw [← hof _ h]; rfl
  split
  · next h => rw [← hof _ h]; rfl
  split
  · next h => rw [← hof _ h]; rfl
  split
  · next h => rw [← hof _ h]; rfl
  split
  · next h => rw [← hof _ h]; rfl
  split
  · next hslash _ _ _ _ _ _ =>
    rw [singleton_append, readChar.eq_def]
    split <;> simp_all
  split
  · next h =>
    obtain ⟨x, y, z, w, heq, hvalue⟩ := hex4_eq h
    rw [heq]
    show readUnit (hexValue4 x y z w) rest = _
    rw [hvalue]
    unfold readUnit
    rw [if_neg (by omega), Char.ofNat_toNat]
  · obtain ⟨x, y, z, w, heq, hvalue⟩ := hex4_eq (n := 55296 + (c.toNat - 65536) / 1024) (by omega)
    obtain ⟨x', y', z', w', heq', hvalue'⟩ := hex4_eq (n := 56320 + (c.toNat - 65536) % 1024) (by omega)
    rw [heq, heq']
    show readUnit (hexValue4 x y z w) ('\\' :: 'u' :: x' :: y' :: z' :: w' :: rest) = _
    rw [hvalue]
    unfold readUnit
    rw [if_pos (by omega)]
    dsimp only
    rw [hvalue', hof _ (by omega)]

theorem jsonChar_append_inj {c d : Char} {r s : List Char} (h : jsonChar c ++ r = jsonChar d ++ s) : c = d ∧ r = s := by
  have hread := readChar_jsonChar c r
  rw [h, readChar_jsonChar d s] at hread
  cases hread
  exact ⟨rfl, rfl⟩

theorem jsonChar_append_ne_quote (c : Char) (r s : List Char) : jsonChar c ++ r ≠ '"' :: s := by
  intro h
  unfold jsonChar at h
  dsimp only at h
  repeat' split at h
  all_goals simp_all

/-- **A string is read back up to its quote.** -/
theorem jsonChars_append_inj : ∀ {l l' : List Char} {r s : List Char},
    l.flatMap jsonChar ++ '"' :: r = l'.flatMap jsonChar ++ '"' :: s → l = l' ∧ r = s
  | [], [], _, _, h => ⟨rfl, (List.cons.inj h).2⟩
  | [], d :: l', r, s, h => by
    rw [flatMap_cons, append_assoc] at h
    exact absurd h.symm (jsonChar_append_ne_quote d _ _)
  | c :: l, [], r, s, h => by
    rw [flatMap_cons, append_assoc] at h
    exact absurd h (jsonChar_append_ne_quote c _ _)
  | c :: l, d :: l', r, s, h => by
    rw [flatMap_cons, flatMap_cons, append_assoc, append_assoc] at h
    obtain ⟨rfl, hrest⟩ := jsonChar_append_inj h
    obtain ⟨rfl, rfl⟩ := jsonChars_append_inj hrest
    exact ⟨rfl, rfl⟩

/-! ### Values -/

namespace DerivAdmission

mutual

/-- A value without numbers and moments. -/
def Json.textual : Json → Bool
  | .null | .str _ => true
  | .arr items => Json.textualItems items
  | .obj entries => Json.textualEntries entries
  | _ => false

def Json.textualItems : List Json → Bool
  | [] => true
  | j :: items => j.textual && Json.textualItems items

def Json.textualEntries : List (String × Json) → Bool
  | [] => true
  | (_, j) :: entries => j.textual && Json.textualEntries entries

end

@[simp] theorem Json.textual_text (s : Option String) : (Json.text s).textual = true := by
  cases s <;> rfl

def Json.moreItems : List Json → List Char
  | [] => []
  | j :: items => ',' :: Json.charsItems (j :: items)

theorem Json.charsItems_cons (j : Json) (items : List Json) :
    Json.charsItems (j :: items) = j.chars ++ Json.moreItems items := by
  cases items with
  | nil => rw [Json.charsItems, Json.moreItems, append_nil]
  | cons => rfl

def Json.moreEntries : List (String × Json) → List Char
  | [] => []
  | e :: entries => ',' :: Json.charsEntries (e :: entries)

theorem Json.charsEntries_cons (key : String) (j : Json) (entries : List (String × Json)) :
    Json.charsEntries ((key, j) :: entries) =
      '"' :: (key.toList.flatMap jsonChar ++ '"' :: ':' :: (j.chars ++ Json.moreEntries entries)) := by
  cases entries with
  | nil => rw [Json.charsEntries, Json.moreEntries, append_nil]
  | cons => rfl

def Json.head : Json → Char
  | .null => 'n'
  | .str _ => '"'
  | .arr _ => '['
  | _ => '\x7b'

def Json.tail : Json → List Char
  | .null => ['u', 'l', 'l']
  | .str s => s.toList.flatMap jsonChar ++ ['"']
  | .arr items => Json.charsItems items ++ [']']
  | .obj entries => Json.charsEntries entries ++ ['\x7d']
  | _ => []

theorem Json.chars_eq {j : Json} (h : j.textual = true) : j.chars = j.head :: j.tail := by
  cases j with
  | null => decide
  | str s => rfl
  | arr items => rfl
  | obj entries => rfl
  | _ => cases h

theorem Json.head_ne {j : Json} : j.head ≠ ']' := by
  cases j <;> simp [Json.head]

mutual

theorem Json.chars_append_inj : ∀ (j k : Json) {r s : List Char}, j.textual = true → k.textual = true →
    j.chars ++ r = k.chars ++ s → j = k ∧ r = s := by
  intro j k r s hj hk h
  rw [Json.chars_eq hj, Json.chars_eq hk, cons_append, cons_append] at h
  obtain ⟨hhead, htail⟩ := List.cons.inj h
  clear h
  match j, k, hj, hk, hhead, htail with
  | .null, .null, _, _, _, htail => exact ⟨rfl, append_cancel_left htail⟩
  | .str t, .str u, _, _, _, htail =>
    simp only [Json.tail, append_assoc, singleton_append] at htail
    obtain ⟨hchars, hrest⟩ := jsonChars_append_inj htail
    exact ⟨congrArg Json.str (String.toList_inj.1 hchars), hrest⟩
  | .arr items, .arr items', hj, hk, _, htail =>
    simp only [Json.tail, append_assoc, singleton_append] at htail
    obtain ⟨hitems, hrest⟩ := Json.charsItems_inj items items' hj hk htail
    exact ⟨congrArg Json.arr hitems, hrest⟩
  | .obj entries, .obj entries', hj, hk, _, htail =>
    simp only [Json.tail, append_assoc, singleton_append] at htail
    obtain ⟨hentries, hrest⟩ := Json.charsEntries_inj entries entries' hj hk htail
    exact ⟨congrArg Json.obj hentries, hrest⟩

theorem Json.charsItems_inj : ∀ (items items' : List Json) {r s : List Char}, Json.textualItems items = true →
    Json.textualItems items' = true → Json.charsItems items ++ ']' :: r = Json.charsItems items' ++ ']' :: s →
    items = items' ∧ r = s
  | [], [], _, _, _, _, h => ⟨rfl, (List.cons.inj h).2⟩
  | [], k :: items', _, _, _, hk, h => by
    rw [Json.textualItems, Bool.and_eq_true] at hk
    rw [Json.charsItems_cons, Json.chars_eq hk.1] at h
    exact absurd (List.cons.inj h).1.symm Json.head_ne
  | j :: items, [], _, _, hj, _, h => by
    rw [Json.textualItems, Bool.and_eq_true] at hj
    rw [Json.charsItems_cons, Json.chars_eq hj.1] at h
    exact absurd (List.cons.inj h).1 Json.head_ne
  | j :: items, k :: items', r, s, hj, hk, h => by
    rw [Json.textualItems, Bool.and_eq_true] at hj hk
    rw [Json.charsItems_cons, Json.charsItems_cons, append_assoc, append_assoc] at h
    obtain ⟨rfl, hrest⟩ := Json.chars_append_inj j k hj.1 hk.1 h
    cases items with
    | nil =>
      cases items' with
      | nil => exact ⟨rfl, (List.cons.inj hrest).2⟩
      | cons k' items' => cases (List.cons.inj hrest).1
    | cons j' items =>
      cases items' with
      | nil => cases (List.cons.inj hrest).1
      | cons k' items' =>
        obtain ⟨hitems, hend⟩ := Json.charsItems_inj (j' :: items) (k' :: items') hj.2 hk.2 (List.cons.inj hrest).2
        exact ⟨congrArg (j :: ·) hitems, hend⟩

theorem Json.charsEntries_inj : ∀ (entries entries' : List (String × Json)) {r s : List Char},
    Json.textualEntries entries = true → Json.textualEntries entries' = true →
    Json.charsEntries entries ++ '\x7d' :: r = Json.charsEntries entries' ++ '\x7d' :: s → entries = entries' ∧ r = s
  | [], [], _, _, _, _, h => ⟨rfl, (List.cons.inj h).2⟩
  | [], (key, k) :: entries', _, _, _, _, h => by
    rw [Json.charsEntries_cons] at h
    cases (List.cons.inj h).1
  | (key, j) :: entries, [], _, _, _, _, h => by
    rw [Json.charsEntries_cons] at h
    cases (List.cons.inj h).1
  | (key, j) :: entries, (key', k) :: entries', r, s, hj, hk, h => by
    rw [Json.textualEntries, Bool.and_eq_true] at hj hk
    simp only [Json.charsEntries_cons, cons_append, append_assoc] at h
    obtain ⟨hkey, hvalue⟩ := jsonChars_append_inj (List.cons.inj h).2
    obtain ⟨rfl, hrest⟩ := Json.chars_append_inj j k hj.1 hk.1 (List.cons.inj hvalue).2
    cases String.toList_inj.1 hkey
    cases entries with
    | nil =>
      cases entries' with
      | nil => exact ⟨rfl, (List.cons.inj hrest).2⟩
      | cons e' entries' => cases (List.cons.inj hrest).1
    | cons e entries =>
      cases entries' with
      | nil => cases (List.cons.inj hrest).1
      | cons e' entries' =>
        obtain ⟨hentries, hend⟩ := Json.charsEntries_inj (e :: entries) (e' :: entries') hj.2 hk.2 (List.cons.inj hrest).2
        exact ⟨congrArg ((key, j) :: ·) hentries, hend⟩

end

theorem Json.dumps_inj {j k : Json} (hj : j.textual = true) (hk : k.textual = true) (h : j.dumps = k.dumps) : j = k := by
  have hchars : j.chars ++ [] = k.chars ++ [] := by rw [← Json.dumps_toList, ← Json.dumps_toList, h]
  exact (Json.chars_append_inj j k hj hk hchars).1

end DerivAdmission

end Jqe
