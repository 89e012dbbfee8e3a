import Jqe.WeltradeSymbols
/-!
# WeltradeSymbolsSound — when a symbol has one canonical spelling

A text in scope reads as a name: a family, `MAX` or not, and digits.  Its canonical spelling is that of the name, unless
the text holds one of the two letters that match a capital without having one.
-/
namespace Jqe

open Regex Regex.Pattern List

namespace WeltradeSymbols

/-! ### The characters of a symbol -/

/-- The letters that `re.IGNORECASE` takes for a capital and `upper` leaves alone. -/
def lost (c : Char) : Bool := c == dottedCapitalI || c == kelvinSign

def isLetter (c : Char) : Bool := isCapital (foldCase c)

def letters (s : List Char) : List Char := (s.filter isLetter).map foldCase

def asciiDigits (s : List Char) : List Char := s.filter Char.isDigit

variable {c : Char}

theorem toUpper_of_ge (h : 128 ≤ c.toNat) : c.toUpper = c := by
  unfold Char.toUpper
  rw [dif_neg]
  rintro ⟨-, hle⟩
  have hle : c.toNat ≤ 122 := hle
  omega

theorem isCapital_lt (h : isCapital c = true) : c.toNat < 128 := by
  unfold isCapital at h
  rw [Bool.and_eq_true, decide_eq_true_eq, decide_eq_true_eq] at h
  have hle : c.toNat ≤ 90 := h.2
  omega

theorem isKeyChar_lt (h : isKeyChar c = true) : c.toNat < 128 := by
  unfold isKeyChar at h
  rw [Bool.or_eq_true] at h
  rcases h with h | h
  · exact isCapital_lt h
  · unfold Char.isDigit at h
    rw [Bool.and_eq_true, decide_eq_true_eq, decide_eq_true_eq] at h
    have hle : c.toNat ≤ 57 := h.2
    omega

theorem foldCase_ascii (h : c.toNat < 128) : foldCase c = c.toUpper := by
  have hne : ∀ d : Char, 128 ≤ d.toNat → c ≠ d := by
    rintro d hd rfl
    omega
  unfold foldCase
  rw [if_neg (not_or.2 ⟨hne dottedCapitalI (by decide), hne dotlessI (by decide)⟩), if_neg (hne longS (by decide)),
    if_neg (hne kelvinSign (by decide))]

theorem foldCase_of_ge (h : 128 ≤ c.toNat) (hc : c ∉ [dottedCapitalI, dotlessI, longS, kelvinSign]) :
    foldCase c = c := by
  simp only [mem_cons, not_mem_nil, or_false, not_or] at hc
  unfold foldCase
  rw [if_neg (not_or.2 ⟨hc.1, hc.2.1⟩), if_neg hc.2.2.1, if_neg hc.2.2.2, toUpper_of_ge h]

theorem forall_ascii {P : Char → Prop} (h : ∀ n < 128, P (Char.ofNat n)) (hc : c.toNat < 128) : P c := by
  rw [← Char.ofNat_toNat c]
  exact h _ hc

theorem forall_four {P : Char → Prop} (hI : P dottedCapitalI) (hi : P dotlessI) (hs : P longS) (hk : P kelvinSign) :
    ∀ c ∈ [dottedCapitalI, dotlessI, longS, kelvinSign], P c :=
  forall_mem_cons.2 ⟨hI, forall_mem_cons.2 ⟨hi, forall_mem_cons.2 ⟨hs, forall_mem_singleton.2 hk⟩⟩⟩

theorem isLetter_cases (h : isLetter c = true) : c.toNat < 128 ∨ c ∈ [dottedCapitalI, dotlessI, longS, kelvinSign] := by
  by_contra hnot
  rw [not_or, not_lt] at hnot
  unfold isLetter at h
  rw [foldCase_of_ge hnot.1 hnot.2] at h
  exact absurd (isCapital_lt h) (not_lt.2 hnot.1)

theorem isLetter_space (h : isPySpace c = true) : isLetter c = false := by
  rw [Bool.eq_false_iff]
  intro hletter
  rcases isLetter_cases hletter with hc | hc
  · revert h hletter
    exact forall_ascii (P := fun c => isPySpace c = true → isLetter c = true → False) (by decide) hc
  · revert h
    exact forall_four (P := fun c => isPySpace c = true → False) (by decide) (by decide) (by decide) (by decide) c hc

section

variable [PyUnicode]

def digits (s : List Char) : List Char := s.filter PyUnicode.isDecimal

variable {c : Char}

theorem isDecimal_letter (h : isLetter c = true) : PyUnicode.isDecimal c = false := by
  rcases isLetter_cases h with hc | hc
  · rw [PyUnicode.isDecimal_ascii c hc]
    revert h
    exact forall_ascii (P := fun c => isLetter c = true → c.isDigit = false) (by decide) hc
  · exact PyUnicode.isDecimal_letters c hc

theorem isLetter_decimal (h : PyUnicode.isDecimal c = true) : isLetter c = false := by
  rw [Bool.eq_false_iff]
  intro hletter
  rw [isDecimal_letter hletter] at h
  cases h

theorem isDecimal_of_isDigit (h : c.isDigit = true) : PyUnicode.isDecimal c = true := by
  rw [PyUnicode.isDecimal_ascii c (isKeyChar_lt (by rw [isKeyChar, h, Bool.or_true])), h]

theorem isDecimal_of_space (h : isPySpace c = true) : PyUnicode.isDecimal c = false := by
  rw [Bool.eq_false_iff]
  intro hdecimal
  rw [PyUnicode.isDecimal_space c hdecimal] at h
  cases h

def keyPart (c : Char) : List Char := (PyUnicode.upperChar c).filter isKeyChar

theorem symbolKey_eq (s : List Char) : symbolKey s = s.flatMap keyPart := by
  unfold symbolKey upper
  rw [filter_flatMap]
  rfl

theorem keyPart_letter (h : isLetter c = true) : keyPart c = if lost c then [] else [foldCase c] := by
  have hletters := PyUnicode.upperChar_letters
  unfold keyPart
  rcases isLetter_cases h with hc | hc
  · rw [PyUnicode.upperChar_ascii c hc]
    revert h
    rw [foldCase_ascii hc]
    exact forall_ascii (P := fun c => isLetter c = true → List.filter isKeyChar [c.toUpper] =
      if lost c then [] else [c.toUpper]) (by decide) hc
  · refine forall_four (P := fun c => (PyUnicode.upperChar c).filter isKeyChar = if lost c then [] else [foldCase c])
      ?_ ?_ ?_ ?_ c hc
    · rw [hletters.2.2.1]
      decide
    · rw [hletters.1]
      decide
    · rw [hletters.2.1]
      decide
    · rw [hletters.2.2.2]
      decide

theorem keyPart_other (h : PyUnicode.isDecimal c = true ∨ isPySpace c = true ∨ c = '.') :
    keyPart c = if c.isDigit then [c] else [] := by
  unfold keyPart
  by_cases hc : c.toNat < 128
  · rw [PyUnicode.upperChar_ascii c hc]
    rw [PyUnicode.isDecimal_ascii c hc] at h
    revert h
    exact forall_ascii (P := fun c => c.isDigit = true ∨ isPySpace c = true ∨ c = '.' →
      List.filter isKeyChar [c.toUpper] = if c.isDigit then [c] else []) (by decide) hc
  · have hge := not_lt.1 hc
    have hother : PyUnicode.isDecimal c = true ∨ isPySpace c = true := by
      rcases h with h | h | rfl
      · exact .inl h
      · exact .inr h
      · exact absurd (by decide) hc
    have hkey : isKeyChar c = false := Bool.eq_false_iff.2 fun h => hc (isKeyChar_lt h)
    have hdigit : c.isDigit = false := by
      rw [isKeyChar, Bool.or_eq_false_iff] at hkey
      exact hkey.2
    rw [PyUnicode.upperChar_other c hge hother, filter_cons_of_neg (by rw [hkey]; decide), hdigit]
    rfl

end

/-! ### Names -/

inductive Family where
  | fxVol
  | sfxVol
  | painX
  | gainX
  | flipX
  | switchX
  | breakX
  | fiboX
  deriving DecidableEq

def Family.capitals : Family → String
  | fxVol => "FXVOL"
  | sfxVol => "SFXVOL"
  | painX => "PAINX"
  | gainX => "GAINX"
  | flipX => "FLIPX"
  | switchX => "SWITCHX"
  | breakX => "BREAKX"
  | fiboX => "FIBOX"

def Family.title : Family → String
  | fxVol => "FX Vol"
  | sfxVol => "SFX Vol"
  | painX => "PainX"
  | gainX => "GainX"
  | flipX => "FlipX"
  | switchX => "SwitchX"
  | breakX => "BreakX"
  | fiboX => "FiboX"

structure Name where
  max : Bool
  family : Family
  number : List Char

def Name.capitals (n : Name) : List Char := (if n.max then "MAX".toList else []) ++ n.family.capitals.toList

def Name.title (n : Name) : String :=
  if n.family = .fiboX then "FiboX" else (if n.max then "MAX " else "") ++ n.family.title ++ " " ++ String.ofList n.number

def Spells (capitals : String) (u : List Char) : Prop := u.map foldCase = capitals.toList

instance (capitals : String) (u : List Char) : Decidable (Spells capitals u) :=
  inferInstanceAs (Decidable (u.map foldCase = capitals.toList))

def AllSpaces (u : List Char) : Prop := ∀ c ∈ u, isPySpace c = true

def Spaces (u : List Char) : Prop := u ≠ [] ∧ AllSpaces u

def VolText (capitals : String) (u : List Char) : Prop :=
  ∃ a ws b d, u = a ++ (ws ++ (b ++ d)) ∧ Spells capitals a ∧ Spaces ws ∧ Spells "VOL" b ∧ (d = ['.'] ∨ d = [])

def FamilyText : Family → List Char → Prop
  | .fxVol, u => VolText "FX" u
  | .sfxVol, u => VolText "SFX" u
  | f, u => Spells f.capitals u

/-- What stands between a family and its number. -/
def Gap : Family → List Char → Prop
  | .fxVol, u | .sfxVol, u => AllSpaces u
  | .fiboX, u => u = []
  | _, u => Spaces u

def MaxText (max : Bool) (u : List Char) : Prop := if max then ∃ a ws, u = a ++ ws ∧ Spells "MAX" a ∧ Spaces ws else u = []

section

def Decimals [PyUnicode] (u : List Char) : Prop := u ≠ [] ∧ ∀ c ∈ u, PyUnicode.isDecimal c = true

structure Reads [PyUnicode] (s : List Char) (n : Name) : Prop where
  number : if n.family = .fiboX then n.number = [] else Decimals n.number
  max : n.max = true → n.family = .painX ∨ n.family = .gainX
  text : ∃ p f g, s = p ++ (f ++ (g ++ n.number)) ∧ MaxText n.max p ∧ FamilyText n.family f ∧ Gap n.family g

theorem denotes_text (capitals : String) : Denotes (text capitals) (Spells capitals) := by
  have hmap : ∀ ls u : List Char, List.Forall₂ (fun (p : Char → Bool) a => p a = true)
      (ls.map fun l c => foldCase c == l) u ↔ u.map foldCase = ls := by
    intro ls
    induction ls with
    | nil => exact fun u => by rw [map_nil, forall₂_nil_left_iff, map_eq_nil_iff]
    | cons l ls ih =>
      intro u
      cases u with
      | nil => simp
      | cons c u => simp [ih u]
  exact denotes_literal.congr fun u => hmap capitals.toList u

theorem denotes_spaces : Denotes spaces Spaces := denotes_plus

theorem denotes_anySpaces : Denotes anySpaces AllSpaces := denotes_many

theorem denotes_decimals [PyUnicode] : Denotes decimals Decimals := denotes_plus

theorem denotes_dot : Denotes (opt dot) fun u => u = ['.'] ∨ u = [] := by
  refine (denotes_letter (p := (· == '.'))).opt.congr fun u => or_congr_left ?_
  simp

theorem denotes_word [PyUnicode] (capitals : String) : Denotes (seq (text capitals) (seq spaces decimals))
    fun u => ∃ f g num, u = f ++ (g ++ num) ∧ Spells capitals f ∧ Spaces g ∧ Decimals num := by
  refine ((denotes_text capitals).seq (denotes_spaces.seq denotes_decimals)).congr fun u => ?_
  constructor
  · rintro ⟨f, _, rfl, hf, g, num, rfl, hg, hnum⟩
    exact ⟨f, g, num, rfl, hf, hg, hnum⟩
  · rintro ⟨f, g, num, rfl, hf, hg, hnum⟩
    exact ⟨f, g ++ num, rfl, hf, g, num, rfl, hg, hnum⟩

variable {s u : List Char} {c : Char} {n : Name} {t : List Char} {m : Groups Char Part}

theorem reads_word [PyUnicode] {family : Family} (hfamily : ∀ u, FamilyText family u ↔ Spells family.capitals u)
    (hgap : ∀ u, Gap family u ↔ Spaces u) (hfibo : family ≠ .fiboX) :
    (∃ num, Reads s ⟨false, family, num⟩) ↔
      ∃ f g num, s = f ++ (g ++ num) ∧ Spells family.capitals f ∧ Spaces g ∧ Decimals num := by
  constructor
  · rintro ⟨num, hnum, -, p, f, g, rfl, rfl, hf, hg⟩
    exact ⟨f, g, num, rfl, (hfamily f).1 hf, (hgap g).1 hg, (if_neg hfibo).mp hnum⟩
  · rintro ⟨f, g, num, rfl, hf, hg, hnum⟩
    exact ⟨num, (if_neg hfibo).mpr hnum, nofun, [], f, g, rfl, rfl, (hfamily f).2 hf, (hgap g).2 hg⟩

theorem fullmatch_scope [PyUnicode] (s : List Char) : (scopePattern.fullmatch s).isSome = true ↔ ∃ n, Reads s n := by
  have hvol := ((denotes_text "S").opt.seq ((denotes_text "FX").seq (denotes_spaces.seq ((denotes_text "VOL").seq
    (denotes_dot.seq (denotes_anySpaces.seq denotes_decimals))))))
  have hmax := ((denotes_text "MAX").seq denotes_spaces).opt.seq
    (((denotes_text "PAINX").alt (denotes_text "GAINX")).seq (denotes_spaces.seq denotes_decimals))
  have hscope := hvol.alt (hmax.alt ((denotes_word "FLIPX").alt ((denotes_word "SWITCHX").alt
    ((denotes_word "BREAKX").alt (denotes_text "FIBOX")))))
  refine (hscope.fullmatch s).trans ?_
  constructor
  · rintro (⟨x, _, rfl, hx, a, _, rfl, ha, ws, _, rfl, hws, b, _, rfl, hb, d, _, rfl, hd, g, num, rfl, hg, hnum⟩ |
      ⟨x, _, rfl, hx, f, _, rfl, hf, g, num, rfl, hg, hnum⟩ | h | h | h | h)
    · have hvol : ∀ {w : String} {a' : List Char}, Spells w a' → VolText w (a' ++ (ws ++ (b ++ d))) :=
        fun ha' => ⟨_, ws, b, d, rfl, ha', hws, hb, hd⟩
      rcases hx with hx | rfl
      · have ha' : Spells "SFX" (x ++ a) := by
          unfold Spells at hx ha ⊢
          rw [map_append, hx, ha]
          rfl
        refine ⟨⟨false, .sfxVol, num⟩, hnum, nofun, [], _, g, ?_, rfl, hvol ha', hg⟩
        simp
      · refine ⟨⟨false, .fxVol, num⟩, hnum, nofun, [], _, g, ?_, rfl, hvol ha, hg⟩
        simp
    · have hpre : ∃ m, MaxText m x := by
        rcases hx with ⟨a, ws, rfl, ha, hws⟩ | rfl
        · exact ⟨true, a, ws, rfl, ha, hws⟩
        · exact ⟨false, rfl⟩
      obtain ⟨m, hm⟩ := hpre
      rcases hf with hf | hf
      · exact ⟨⟨m, .painX, num⟩, hnum, fun _ => .inl rfl, x, f, g, rfl, hm, hf, hg⟩
      · exact ⟨⟨m, .gainX, num⟩, hnum, fun _ => .inr rfl, x, f, g, rfl, hm, hf, hg⟩
    · obtain ⟨num, hreads⟩ := (@reads_word s _ .flipX (fun _ => .rfl) (fun _ => .rfl) (by decide)).2 h
      exact ⟨_, hreads⟩
    · obtain ⟨num, hreads⟩ := (@reads_word s _ .switchX (fun _ => .rfl) (fun _ => .rfl) (by decide)).2 h
      exact ⟨_, hreads⟩
    · obtain ⟨num, hreads⟩ := (@reads_word s _ .breakX (fun _ => .rfl) (fun _ => .rfl) (by decide)).2 h
      exact ⟨_, hreads⟩
    · refine ⟨⟨false, .fiboX, []⟩, rfl, nofun, [], s, [], ?_, rfl, h, rfl⟩
      simp
  · rintro ⟨⟨m, family, num⟩, hnum, hm, p, f, g, rfl, hp, hf, hg⟩
    cases m with
    | true =>
      obtain ⟨a, ws, rfl, ha, hws⟩ := hp
      rcases hm rfl with rfl | rfl
      · exact .inr (.inl ⟨_, _, rfl, .inl ⟨a, ws, rfl, ha, hws⟩, f, _, rfl, .inl hf, g, num, rfl, hg, hnum⟩)
      · exact .inr (.inl ⟨_, _, rfl, .inl ⟨a, ws, rfl, ha, hws⟩, f, _, rfl, .inr hf, g, num, rfl, hg, hnum⟩)
    | false =>
      have hnil : p = [] := hp
      subst hnil
      cases family with
      | fxVol =>
        obtain ⟨a, ws, b, d, rfl, ha, hws, hb, hd⟩ := hf
        refine .inl ⟨[], _, rfl, .inr rfl, a, _, ?_, ha, ws, _, rfl, hws, b, _, rfl, hb, d, _, rfl, hd, g, num, rfl, hg, hnum⟩
        simp
      | sfxVol =>
        obtain ⟨a, ws, b, d, rfl, ha, hws, hb, hd⟩ := hf
        obtain ⟨x, a, rfl, hx, ha⟩ := map_eq_cons_iff.1 (show a.map foldCase = 'S' :: ['F', 'X'] from ha)
        have hx : Spells "S" [x] := congrArg (· :: []) hx
        refine .inl ⟨[x], _, rfl, .inl hx, a, _, ?_, ha, ws, _, rfl, hws, b, _, rfl, hb, d, _, rfl, hd, g, num, rfl, hg,
          hnum⟩
        simp
      | painX => exact .inr (.inl ⟨[], _, rfl, .inr rfl, f, _, rfl, .inl hf, g, num, rfl, hg, hnum⟩)
      | gainX => exact .inr (.inl ⟨[], _, rfl, .inr rfl, f, _, rfl, .inr hf, g, num, rfl, hg, hnum⟩)
      | flipX => exact .inr (.inr (.inl ⟨f, g, num, rfl, hf, hg, hnum⟩))
      | switchX => exact .inr (.inr (.inr (.inl ⟨f, g, num, rfl, hf, hg, hnum⟩)))
      | breakX => exact .inr (.inr (.inr (.inr (.inl ⟨f, g, num, rfl, hf, hg, hnum⟩))))
      | fiboX =>
        have hnum : num = [] := hnum
        have hg : g = [] := hg
        subst hnum hg
        have hf : Spells "FIBOX" f := hf
        rw [nil_append, nil_append, append_nil]
        exact .inr (.inr (.inr (.inr (.inr hf))))

/-! ### The letters and the digits of a symbol -/

@[simp] theorem letters_append (u v : List Char) : letters (u ++ v) = letters u ++ letters v := by simp [letters]

@[simp] theorem digits_append [PyUnicode] (u v : List Char) : digits (u ++ v) = digits u ++ digits v := by simp [digits]

@[simp] theorem symbolKey_append [PyUnicode] (u v : List Char) : symbolKey (u ++ v) = symbolKey u ++ symbolKey v := by
  simp [symbolKey_eq]

theorem letters_eq_nil (h : ∀ c ∈ u, isLetter c = false) : letters u = [] := by
  unfold letters
  rw [filter_eq_nil_iff.2 fun c hc => by rw [h c hc]; decide, map_nil]

theorem digits_eq_nil [PyUnicode] (h : ∀ c ∈ u, PyUnicode.isDecimal c = false) : digits u = [] :=
  filter_eq_nil_iff.2 fun c hc => by rw [h c hc]; decide

def BodyChar (c : Char) : Prop := isLetter c = true ∨ isPySpace c = true ∨ c = '.'

theorem BodyChar.isDecimal [PyUnicode] (h : BodyChar c) : PyUnicode.isDecimal c = false := by
  rcases h with h | h | rfl
  · exact isDecimal_letter h
  · exact isDecimal_of_space h
  · rw [PyUnicode.isDecimal_ascii '.' (by decide)]
    decide

theorem BodyChar.keyPart [PyUnicode] {c : Char} (h : BodyChar c) :
    keyPart c = if isLetter c && !lost c then [foldCase c] else [] := by
  rcases h with h | h
  · rw [keyPart_letter h, h]
    cases lost c <;> rfl
  · have hletter : isLetter c = false := by
      rcases h with h | rfl
      · exact isLetter_space h
      · decide
    have hdigit : c.isDigit = false := by
      rw [Bool.eq_false_iff]
      intro hdigit
      have hdecimal := isDecimal_of_isDigit hdigit
      rw [BodyChar.isDecimal (.inr h)] at hdecimal
      cases hdecimal
    rw [keyPart_other (.inr h), hletter, hdigit]
    rfl

theorem symbolKey_body [PyUnicode] (h : ∀ c ∈ u, BodyChar c) : symbolKey u = letters (u.filter fun c => !lost c) := by
  rw [symbolKey_eq]
  induction u with
  | nil => rfl
  | cons c u ih =>
    rw [forall_mem_cons] at h
    rw [flatMap_cons, ih h.2, h.1.keyPart]
    cases hlost : lost c with
    | true => rw [Bool.not_true, Bool.and_false, filter_cons_of_neg (by rw [hlost]; decide)]; rfl
    | false =>
      rw [Bool.not_false, Bool.and_true, filter_cons_of_pos (by rw [hlost]; decide)]
      cases hletter : isLetter c with
      | true => simp [letters, filter_cons_of_pos hletter]
      | false => simp [letters, hletter]

theorem symbolKey_decimals [PyUnicode] (h : ∀ c ∈ u, PyUnicode.isDecimal c = true) : symbolKey u = asciiDigits u := by
  rw [symbolKey_eq]
  unfold asciiDigits
  induction u with
  | nil => rfl
  | cons c u ih =>
    rw [forall_mem_cons] at h
    rw [flatMap_cons, ih h.2, keyPart_other (.inl h.1)]
    cases hdigit : c.isDigit with
    | true => rw [filter_cons_of_pos hdigit]; rfl
    | false => rw [filter_cons_of_neg (by rw [hdigit]; decide)]; rfl

theorem AllSpaces.bodyChar (h : AllSpaces u) : ∀ c ∈ u, BodyChar c := fun c hc => .inr (.inl (h c hc))

theorem AllSpaces.letters {u : List Char} (h : AllSpaces u) : letters u = [] :=
  letters_eq_nil fun c hc => isLetter_space (h c hc)

variable {capitals : String}

theorem Spells.isLetter {u : List Char} (h : Spells capitals u)
    (hcapitals : capitals.toList.all isCapital = true) : ∀ c ∈ u, isLetter c = true := by
  intro c hc
  have hmem : foldCase c ∈ capitals.toList := by
    rw [← h]
    exact mem_map_of_mem hc
  exact all_eq_true.1 hcapitals _ hmem

theorem Spells.letters {u : List Char} (h : Spells capitals u)
    (hcapitals : capitals.toList.all isCapital = true) : letters u = capitals.toList := by
  unfold WeltradeSymbols.letters
  rw [filter_eq_self.2 (h.isLetter hcapitals)]
  exact h

/-- The text of a family, the spaces within it not counted. -/
structure FamilyChars (family : Family) (u : List Char) : Prop where
  body : ∀ c ∈ u, BodyChar c
  letters : letters u = family.capitals.toList

variable {family : Family}

theorem Spells.chars (h : Spells family.capitals u) : FamilyChars family u := by
  have hcapitals : family.capitals.toList.all isCapital = true := by cases family <;> decide
  exact ⟨fun c hc => .inl (h.isLetter hcapitals c hc), h.letters hcapitals⟩

theorem volText_chars (hall : capitals.toList.all isCapital = true)
    (hfamily : family.capitals.toList = capitals.toList ++ "VOL".toList) {a ws b d : List Char} (ha : Spells capitals a)
    (hws : AllSpaces ws) (hb : Spells "VOL" b) (hd : d = ['.'] ∨ d = []) : FamilyChars family (a ++ (ws ++ (b ++ d))) := by
  have hdot : (∀ c ∈ d, BodyChar c) ∧ letters d = [] := by
    rcases hd with rfl | rfl
    · exact ⟨fun c hc => .inr (.inr (mem_singleton.1 hc)), by decide⟩
    · exact ⟨nofun, rfl⟩
  constructor
  · intro c hc
    simp only [mem_append] at hc
    rcases hc with hc | hc | hc | hc
    · exact .inl (ha.isLetter hall c hc)
    · exact hws.bodyChar c hc
    · exact .inl (hb.isLetter (by decide) c hc)
    · exact hdot.1 c hc
  · simp only [letters_append, ha.letters hall, hws.letters, hb.letters (by decide), hdot.2, append_nil,
      nil_append, hfamily]

theorem FamilyText.chars : ∀ {family : Family} {u : List Char}, FamilyText family u → FamilyChars family u
  | .fxVol, _, ⟨_, _, _, _, hu, ha, hws, hb, hd⟩ => hu ▸ volText_chars (by decide) rfl ha hws.2 hb hd
  | .sfxVol, _, ⟨_, _, _, _, hu, ha, hws, hb, hd⟩ => hu ▸ volText_chars (by decide) rfl ha hws.2 hb hd
  | .painX, _, h | .gainX, _, h | .flipX, _, h | .switchX, _, h | .breakX, _, h | .fiboX, _, h => Spells.chars h

theorem Gap.spaces : ∀ {family : Family} {u : List Char}, Gap family u → AllSpaces u
  | .fxVol, _, h | .sfxVol, _, h => h
  | .fiboX, _, h => fun c hc => by rw [show _ = [] from h] at hc; cases hc
  | .painX, _, h | .gainX, _, h | .flipX, _, h | .switchX, _, h | .breakX, _, h => And.right h

theorem MaxText.chars {max : Bool} (h : MaxText max u) :
    (∀ c ∈ u, BodyChar c ∧ lost c = false) ∧ letters u = if max then "MAX".toList else [] := by
  cases max with
  | false =>
    cases (show u = [] from h)
    exact ⟨nofun, rfl⟩
  | true =>
    obtain ⟨a, ws, rfl, ha, hws⟩ := h
    constructor
    · intro c hc
      rcases mem_append.1 hc with hc | hc
      · have hmem : foldCase c ∈ "MAX".toList := by
          rw [← ha]
          exact mem_map_of_mem hc
        refine ⟨.inl (ha.isLetter (by decide) c hc), Bool.eq_false_iff.2 fun hlost => ?_⟩
        unfold lost at hlost
        rw [Bool.or_eq_true, beq_iff_eq, beq_iff_eq] at hlost
        rcases hlost with rfl | rfl
        · exact absurd hmem (by decide)
        · exact absurd hmem (by decide)
      · refine ⟨.inr (.inl (hws.2 c hc)), Bool.eq_false_iff.2 fun hlost => ?_⟩
        unfold lost at hlost
        rw [Bool.or_eq_true, beq_iff_eq, beq_iff_eq] at hlost
        have hspace := hws.2 c hc
        rcases hlost with rfl | rfl
        · exact absurd hspace (by decide)
        · exact absurd hspace (by decide)
    · rw [letters_append, ha.letters (by decide), hws.2.letters, append_nil]
      rfl

theorem Reads.body [PyUnicode] (h : Reads s n) : ∃ b, s = b ++ n.number ∧ (∀ c ∈ b, BodyChar c) ∧ letters b = n.capitals := by
  obtain ⟨-, -, p, f, g, rfl, hp, hf, hg⟩ := h
  refine ⟨p ++ (f ++ g), by simp, fun c hc => ?_, ?_⟩
  · rw [mem_append, mem_append] at hc
    rcases hc with hc | hc | hc
    · exact (hp.chars.1 c hc).1
    · exact hf.chars.body c hc
    · exact hg.spaces.bodyChar c hc
  · rw [letters_append, letters_append, hp.chars.2, hf.chars.letters, hg.spaces.letters, append_nil]
    rfl

theorem Reads.decimals [PyUnicode] (h : Reads s n) : ∀ c ∈ n.number, PyUnicode.isDecimal c = true := by
  have hnumber := h.number
  by_cases hfibo : n.family = .fiboX
  · rw [if_pos hfibo] at hnumber
    rw [hnumber]
    exact fun c hc => by cases hc
  · rw [if_neg hfibo] at hnumber
    exact hnumber.2

theorem Reads.letters [PyUnicode] {s : List Char} {n : Name} (h : Reads s n) : letters s = n.capitals := by
  obtain ⟨b, rfl, -, hletters⟩ := h.body
  rw [letters_append, hletters, letters_eq_nil fun c hc => isLetter_decimal (h.decimals c hc), append_nil]

theorem Reads.digits [PyUnicode] {s : List Char} {n : Name} (h : Reads s n) : digits s = n.number := by
  obtain ⟨b, rfl, hb, -⟩ := h.body
  rw [digits_append, digits_eq_nil fun c hc => (hb c hc).isDecimal, nil_append]
  exact filter_eq_self.2 h.decimals

theorem filter_lost_eq (h : ∀ c ∈ u, lost c = false) : (u.filter fun c => !lost c) = u :=
  filter_eq_self.2 fun c hc => by rw [h c hc]; rfl

theorem Reads.symbolKey [PyUnicode] {s : List Char} {n : Name} (h : Reads s n) (hlost : ∀ c ∈ s, lost c = false) :
    symbolKey s = n.capitals ++ asciiDigits n.number := by
  obtain ⟨b, rfl, hb, hletters⟩ := h.body
  rw [symbolKey_append, symbolKey_body hb, filter_lost_eq fun c hc => hlost c (mem_append_left _ hc), hletters,
    symbolKey_decimals h.decimals]

/-! ### Runs of spaces as one -/

theorem collapse_cons_solid (inRun : Bool) (h : isPySpace c = false) (s : List Char) :
    collapse inRun (c :: s) = c :: collapse false s := by
  show (if isPySpace c = true then _ else c :: collapse false s) = _
  rw [h]
  rfl

theorem collapse_cons_space (inRun : Bool) (h : isPySpace c = true) (s : List Char) :
    collapse inRun (c :: s) = if inRun then collapse true s else ' ' :: collapse true s :=
  if_pos h

theorem collapse_solid : ∀ {u : List Char} (t : List Char), (∀ c ∈ u, isPySpace c = false) →
    collapse false (u ++ t) = u ++ collapse false t
  | [], _, _ => rfl
  | c :: u, t, h => by
    rw [forall_mem_cons] at h
    rw [cons_append, collapse_cons_solid false h.1, collapse_solid t h.2, cons_append]

/-- A text that does not start with a space. -/
def SolidHead (t : List Char) : Prop := ∀ c ∈ t.head?, isPySpace c = false

theorem collapse_run {t : List Char} (ht : SolidHead t) : ∀ {ws : List Char}, AllSpaces ws →
    collapse true (ws ++ t) = collapse false t
  | [], _ => by
    cases t with
    | nil => rfl
    | cons c t => rw [nil_append, collapse_cons_solid true (ht c rfl), collapse_cons_solid false (ht c rfl)]
  | c :: ws, h => by
    obtain ⟨hc, hws⟩ := forall_mem_cons.1 h
    rw [cons_append, collapse_cons_space true hc]
    exact collapse_run ht hws

theorem collapse_spaces (ht : SolidHead t) {ws : List Char} (h : Spaces ws) :
    collapse false (ws ++ t) = ' ' :: collapse false t := by
  cases ws with
  | nil => exact absurd rfl h.1
  | cons c ws =>
    obtain ⟨hc, hws⟩ := forall_mem_cons.1 h.2
    rw [cons_append, collapse_cons_space false hc, collapse_run ht hws]
    rfl

theorem spaces_one : Spaces [' '] := ⟨cons_ne_nil _ _, fun c hc => by rw [mem_singleton.1 hc]; decide⟩

theorem isPySpace_letter (h : isLetter c = true) : isPySpace c = false := by
  rw [Bool.eq_false_iff]
  intro hspace
  rw [isLetter_space hspace] at h
  cases h

theorem Spells.solid (h : Spells capitals u) (hcapitals : capitals.toList.all isCapital = true) :
    ∀ c ∈ u, isPySpace c = false :=
  fun c hc => isPySpace_letter (h.isLetter hcapitals c hc)

theorem Spells.solidHead (h : Spells capitals u) (hcapitals : capitals.toList.all isCapital = true)
    (hne : capitals.toList ≠ []) (t : List Char) : SolidHead (u ++ t) := by
  cases u with
  | nil => exact absurd h.symm hne
  | cons c u =>
    intro d hd
    cases hd
    exact h.solid hcapitals c mem_cons_self

theorem MaxText.collapsed {max : Bool} (h : MaxText max u) (ht : SolidHead t) :
    ∃ u', MaxText max u' ∧ collapse false (u ++ t) = u' ++ collapse false t := by
  cases max with
  | false =>
    cases (show u = [] from h)
    exact ⟨[], rfl, rfl⟩
  | true =>
    obtain ⟨a, ws, rfl, ha, hws⟩ := h
    refine ⟨a ++ [' '], ⟨a, [' '], rfl, ha, spaces_one⟩, ?_⟩
    rw [append_assoc, collapse_solid _ (ha.solid (by decide)), collapse_spaces ht hws]
    simp

theorem VolText.collapsed (hall : capitals.toList.all isCapital = true) (h : VolText capitals u)
    (t : List Char) : ∃ u', VolText capitals u' ∧ collapse false (u ++ t) = u' ++ collapse false t := by
  obtain ⟨a, ws, b, d, rfl, ha, hws, hb, hd⟩ := h
  have hdot : ∀ c ∈ d, isPySpace c = false := by
    rcases hd with rfl | rfl
    · exact fun c hc => by rw [mem_singleton.1 hc]; decide
    · exact nofun
  refine ⟨a ++ ([' '] ++ (b ++ d)), ⟨a, [' '], b, d, rfl, ha, spaces_one, hb, hd⟩, ?_⟩
  simp only [append_assoc]
  rw [collapse_solid _ (ha.solid hall), collapse_spaces (hb.solidHead (by decide) (by decide) _) hws,
    collapse_solid _ (hb.solid (by decide)), collapse_solid _ hdot]
  rfl

theorem Spells.collapsed (h : Spells family.capitals u) (t : List Char) :
    ∃ u', Spells family.capitals u' ∧ collapse false (u ++ t) = u' ++ collapse false t :=
  ⟨u, h, collapse_solid t (h.solid (by cases family <;> decide))⟩

theorem FamilyText.collapsed : ∀ {family : Family} {u : List Char}, FamilyText family u → ∀ t : List Char,
    ∃ u', FamilyText family u' ∧ collapse false (u ++ t) = u' ++ collapse false t
  | .fxVol, _, h, t | .sfxVol, _, h, t => VolText.collapsed (by decide) h t
  | .painX, _, h, t | .gainX, _, h, t | .flipX, _, h, t | .switchX, _, h, t | .breakX, _, h, t | .fiboX, _, h, t =>
    Spells.collapsed h t

theorem FamilyText.solidHead : ∀ {family : Family} {u : List Char}, FamilyText family u → ∀ t : List Char, SolidHead (u ++ t)
  | .fxVol, _, ⟨_, _, _, _, hu, ha, _⟩, t | .sfxVol, _, ⟨_, _, _, _, hu, ha, _⟩, t => by
    rw [hu, append_assoc]
    exact ha.solidHead (by decide) (by decide) _
  | .painX, _, h, t | .gainX, _, h, t | .flipX, _, h, t | .switchX, _, h, t | .breakX, _, h, t | .fiboX, _, h, t =>
    Spells.solidHead h (by decide) (by decide) t

theorem Gap.collapsed [PyUnicode] {num : List Char} (h : Gap family u)
    (hnum : if family = .fiboX then num = [] else Decimals num) :
    ∃ u', Gap family u' ∧ collapse false (u ++ num) = u' ++ num := by
  have hsolid : ∀ c ∈ num, isPySpace c = false := by
    split at hnum
    · rw [hnum]
      exact nofun
    · exact fun c hc => PyUnicode.isDecimal_space c (hnum.2 c hc)
  have hcollapse : collapse false num = num := by
    have hall := collapse_solid [] hsolid
    rwa [append_nil, show collapse false [] = [] from rfl, append_nil] at hall
  have hhead : SolidHead num := fun c hc => hsolid c (mem_of_mem_head? hc)
  cases u with
  | nil => exact ⟨[], h, hcollapse⟩
  | cons c u =>
    have hgap : Gap family [' '] := by
      cases family with
      | fiboX => cases (show c :: u = [] from h)
      | fxVol | sfxVol => exact spaces_one.2
      | _ => exact spaces_one
    refine ⟨[' '], hgap, ?_⟩
    rw [collapse_spaces hhead ⟨cons_ne_nil _ _, h.spaces⟩, hcollapse]
    rfl

theorem Reads.collapsed [PyUnicode] (h : Reads s n) : Reads (collapse false s) n := by
  obtain ⟨hnum, hmax, p, f, g, rfl, hp, hf, hg⟩ := h
  obtain ⟨g', hg', hgtext⟩ := hg.collapsed hnum
  obtain ⟨f', hf', hftext⟩ := hf.collapsed (g ++ n.number)
  obtain ⟨p', hp', hptext⟩ := hp.collapsed (hf.solidHead (g ++ n.number))
  exact ⟨hnum, hmax, p', f', g', by rw [hptext, hftext, hgtext], hp', hf', hg'⟩

/-! ### The groups of the canonical pattern -/

theorem denotes_family : Denotes (alt (seq (opt (text "S")) (seq (text "FX") (seq anySpaces (seq (text "VOL") (opt dot)))))
    (alt (text "PAINX") (alt (text "GAINX") (alt (text "FLIPX") (alt (text "SWITCHX") (alt (text "BREAKX") (text "FIBOX")))))))
    fun u => (∃ capitals ∈ ["FX", "SFX"], ∃ a ws b d, u = a ++ (ws ++ (b ++ d)) ∧ Spells capitals a ∧ AllSpaces ws ∧
      Spells "VOL" b ∧ (d = ['.'] ∨ d = [])) ∨
      ∃ family ∈ [Family.painX, .gainX, .flipX, .switchX, .breakX, .fiboX], Spells family.capitals u := by
  refine ((denotes_text "S").opt.seq ((denotes_text "FX").seq (denotes_anySpaces.seq ((denotes_text "VOL").seq denotes_dot)))
    |>.alt ((denotes_text "PAINX").alt ((denotes_text "GAINX").alt ((denotes_text "FLIPX").alt ((denotes_text "SWITCHX").alt
      ((denotes_text "BREAKX").alt (denotes_text "FIBOX"))))))).congr fun u => or_congr ?_ (by simp [Family.capitals])
  constructor
  · rintro ⟨x, _, rfl, hx, a, _, rfl, ha, ws, _, rfl, hws, b, d, rfl, hb, hd⟩
    rcases hx with hx | rfl
    · refine ⟨"SFX", by simp, x ++ a, ws, b, d, by simp, ?_, hws, hb, hd⟩
      unfold Spells at hx ha ⊢
      rw [map_append, hx, ha]
      rfl
    · exact ⟨"FX", by simp, a, ws, b, d, rfl, ha, hws, hb, hd⟩
  · rintro ⟨capitals, hcapitals, a, ws, b, d, rfl, ha, hws, hb, hd⟩
    rcases mem_pair.1 hcapitals with rfl | rfl
    · exact ⟨[], _, rfl, .inr rfl, a, _, rfl, ha, ws, _, rfl, hws, b, d, rfl, hb, hd⟩
    · obtain ⟨x, a, rfl, hx, ha⟩ := map_eq_cons_iff.1 (show a.map foldCase = 'S' :: ['F', 'X'] from ha)
      have hx : Spells "S" [x] := congrArg (· :: []) hx
      exact ⟨[x], _, rfl, .inl hx, a, _, rfl, ha, ws, _, rfl, hws, b, d, rfl, hb, hd⟩

theorem isSome_of_reads [PyUnicode] (h : Reads s n) : (canonicalPattern.matchStart s).isSome = true := by
  obtain ⟨hnum, -, p, f, g, rfl, hp, hf, hg⟩ := h
  have hfamily := denotes_family.takes (u := f) (by
    rcases n with ⟨max, family, num⟩
    cases family with
    | fxVol =>
      obtain ⟨a, ws, b, d, hu, ha, hws, hb, hd⟩ := hf
      exact .inl ⟨"FX", by simp, a, ws, b, d, hu, ha, hws.2, hb, hd⟩
    | sfxVol =>
      obtain ⟨a, ws, b, d, hu, ha, hws, hb, hd⟩ := hf
      exact .inl ⟨"SFX", by simp, a, ws, b, d, hu, ha, hws.2, hb, hd⟩
    | painX => exact .inr ⟨.painX, by simp, hf⟩
    | gainX => exact .inr ⟨.gainX, by simp, hf⟩
    | flipX => exact .inr ⟨.flipX, by simp, hf⟩
    | switchX => exact .inr ⟨.switchX, by simp, hf⟩
    | breakX => exact .inr ⟨.breakX, by simp, hf⟩
    | fiboX => exact .inr ⟨.fiboX, by simp, hf⟩)
  have hnumber : ∀ m : Groups Char Part, ∃ m', Takes (opt (seq anySpaces (group .number decimals))) (g ++ n.number) ([] ++ []) m m' := by
    intro m
    by_cases hfibo : n.family = .fiboX
    · rw [if_pos hfibo] at hnum
      rw [hfibo] at hg
      rw [hnum, show g = [] from hg]
      exact ⟨m, .right .empty⟩
    · rw [if_neg hfibo] at hnum
      exact ⟨_, .left (.seq (denotes_anySpaces.takes hg.spaces _ m) (.group (denotes_decimals.takes hnum _ m)))⟩
  have hmax : ∃ m, Takes (opt (seq (group .maxPrefix (text "MAX")) spaces)) p ((f ++ (g ++ n.number)) ++ []) (fun _ => none) m := by
    cases hm : n.max with
    | false =>
      rw [hm] at hp
      rw [show p = [] from hp]
      exact ⟨_, .right .empty⟩
    | true =>
      rw [hm] at hp
      obtain ⟨a, ws, rfl, ha, hws⟩ := hp
      exact ⟨_, .left (.seq (.group ((denotes_text "MAX").takes ha _ _)) (denotes_spaces.takes hws _ _))⟩
  obtain ⟨m, hm⟩ := hmax
  obtain ⟨m', hm'⟩ := hnumber (Function.update m .family (some f))
  have hend : Takes (atEnd : Pattern Char Part) [] [] m' m' := .look rfl
  have htail := Takes.seq hm' hend
  rw [append_nil] at htail
  exact isSome_matchStart (.seq hm (.seq (.group (hfamily _ m)) htail))

structure GroupsOf [PyUnicode] (s : List Char) (m : Groups Char Part) (max : Bool) (family : Family) (f : List Char) : Prop where
  maxText : ((m .maxPrefix).getD []).isEmpty = !max
  familyText : m .family = some f
  chars : FamilyChars family f
  letters : letters s = (if max then "MAX".toList else []) ++ family.capitals.toList
  digits : digits s = (m .number).getD []
  number_ne : m .number ≠ some []
  lost : ∀ c ∈ s, lost c = true → c ∈ f
  within : ∀ c ∈ f, c ∈ s

theorem isLetter_lost (h : lost c = true) : isLetter c = true := by
  unfold lost at h
  rw [Bool.or_eq_true, beq_iff_eq, beq_iff_eq] at h
  rcases h with rfl | rfl <;> decide

theorem FamilyChars.of_denotes {f : List Char} (h : (∃ capitals ∈ ["FX", "SFX"], ∃ a ws b d, f = a ++ (ws ++ (b ++ d)) ∧
    Spells capitals a ∧ AllSpaces ws ∧ Spells "VOL" b ∧ (d = ['.'] ∨ d = [])) ∨
    ∃ family ∈ [Family.painX, .gainX, .flipX, .switchX, .breakX, .fiboX], Spells family.capitals f) :
    ∃ family, FamilyChars family f := by
  rcases h with ⟨capitals, hcapitals, a, ws, b, d, rfl, ha, hws, hb, hd⟩ | ⟨family, -, h⟩
  · rcases mem_pair.1 hcapitals with rfl | rfl
    · exact ⟨.fxVol, volText_chars (by decide) rfl ha hws hb hd⟩
    · exact ⟨.sfxVol, volText_chars (by decide) rfl ha hws hb hd⟩
  · exact ⟨family, h.chars⟩

theorem maxGroup_of_takes {p : List Char}
    (h : Takes (opt (seq (group .maxPrefix (text "MAX")) spaces)) p t (fun _ => none) m) :
    ∃ max, MaxText max p ∧ ((m .maxPrefix).getD []).isEmpty = !max ∧ m .number = none := by
  rcases takes_opt.1 h with h | ⟨rfl, rfl⟩
  · obtain ⟨a, ws, m₀, rfl, ha, hws⟩ := takes_seq.1 h
    obtain ⟨m₀, hinner, rfl⟩ := takes_group.1 ha
    obtain ⟨hspells, rfl⟩ := (denotes_text _ _ _ _ _).1 hinner
    obtain ⟨hspaces, rfl⟩ := (denotes_spaces _ _ _ _).1 hws
    refine ⟨true, ⟨a, ws, rfl, hspells, hspaces⟩, ?_, rfl⟩
    rw [Function.update_self]
    cases a with
    | nil => exact absurd hspells.symm (by decide)
    | cons c a => rfl
  · exact ⟨false, rfl, rfl, rfl⟩

theorem numberGroup_of_takes [PyUnicode] {num : List Char} {m' : Groups Char Part} (hnone : m .number = none)
    (h : Takes (opt (seq anySpaces (group .number decimals))) num t m m') :
    ∃ g, num = g ++ (m' .number).getD [] ∧ AllSpaces g ∧ (∀ c ∈ (m' .number).getD [], PyUnicode.isDecimal c = true) ∧
      m' .number ≠ some [] ∧ m' .maxPrefix = m .maxPrefix ∧ m' .family = m .family := by
  rcases takes_opt.1 h with h | ⟨rfl, rfl⟩
  · obtain ⟨g, w, m₀, rfl, hg, hw⟩ := takes_seq.1 h
    obtain ⟨hspaces, rfl⟩ := (denotes_anySpaces _ _ _ _).1 hg
    obtain ⟨m₀, hinner, rfl⟩ := takes_group.1 hw
    obtain ⟨hdecimals, rfl⟩ := (denotes_decimals _ _ _ _).1 hinner
    refine ⟨g, rfl, hspaces, hdecimals.2, ?_, rfl, rfl⟩
    rw [Function.update_self]
    exact fun h => hdecimals.1 (Option.some.inj h)
  · rw [hnone]
    exact ⟨[], rfl, nofun, nofun, nofun, rfl, rfl⟩

theorem groupsOf_match [PyUnicode] (h : canonicalPattern.matchStart s = some m) : ∃ max family f, GroupsOf s m max family f := by
  obtain ⟨u, t, rfl, htakes⟩ := takes_of_matchStart h
  unfold canonicalPattern at htakes
  obtain ⟨p, _, m₁, rfl, hmax, htakes⟩ := takes_seq.1 htakes
  obtain ⟨f, _, m₂, rfl, hfamily, htakes⟩ := takes_seq.1 htakes
  obtain ⟨num, e, m₃, rfl, hnum, hend⟩ := takes_seq.1 htakes
  obtain ⟨⟨rfl, ht⟩, rfl⟩ := takes_look.1 hend
  obtain ⟨m', hinner, rfl⟩ := takes_group.1 hfamily
  obtain ⟨hf, rfl⟩ := (denotes_family _ _ _ _).1 hinner
  obtain ⟨family, hchars⟩ := FamilyChars.of_denotes hf
  have hlf : ∀ c ∈ t, c = '\n' := by
    rw [Bool.or_eq_true, List.isEmpty_iff, beq_iff_eq] at ht
    rcases ht with rfl | rfl
    · exact nofun
    · exact fun c hc => mem_singleton.1 hc
  obtain ⟨max, hp, hmaxText, hnone⟩ := maxGroup_of_takes hmax
  obtain ⟨g, rfl, hg, hdecimal, hne, hkept, hf'⟩ := numberGroup_of_takes (m := Function.update m' Part.family (some f)) hnone hnum
  refine ⟨max, family, f, hkept ▸ hmaxText, hf', hchars, ?_, ?_, hne, ?_, fun c hc => by simp [hc]⟩
  · have hrest : letters t = [] := letters_eq_nil fun c hc => by rw [hlf c hc]; decide
    have hnumber : letters ((m .number).getD []) = [] := letters_eq_nil fun c hc => isLetter_decimal (hdecimal c hc)
    simp only [letters_append, hp.chars.2, hchars.letters, hg.letters, hnumber, hrest, append_nil]
  · have hrest : digits t = [] := digits_eq_nil fun c hc => by
      rw [hlf c hc]
      exact isDecimal_of_space (by decide)
    have hbefore : digits p = [] ∧ digits f = [] ∧ digits g = [] :=
      ⟨digits_eq_nil fun c hc => (hp.chars.1 c hc).1.isDecimal, digits_eq_nil fun c hc => (hchars.body c hc).isDecimal,
        digits_eq_nil fun c hc => (hg.bodyChar c hc).isDecimal⟩
    have hnumber : digits ((m .number).getD []) = (m .number).getD [] := filter_eq_self.2 hdecimal
    simp only [digits_append, hbefore.1, hbefore.2.1, hbefore.2.2, hnumber, hrest, append_nil, nil_append]
  · intro c hc hlost
    simp only [append_nil, mem_append] at hc
    rcases hc with (hc | hc | hc | hc) | hc
    · rw [(hp.chars.1 c hc).2] at hlost
      cases hlost
    · exact hc
    · exact absurd (isLetter_lost hlost) (by rw [isLetter_space (hg c hc)]; decide)
    · exact absurd (isLetter_lost hlost) (by rw [isLetter_decimal (hdecimal c hc)]; decide)
    · rw [hlf c hc] at hlost
      exact absurd hlost (by decide)

theorem mem_collapse {c : Char} (hc : isPySpace c = false) : ∀ {inRun : Bool} {s : List Char}, c ∈ collapse inRun s ↔ c ∈ s
  | _, [] => .rfl
  | inRun, d :: s => by
    by_cases hd : isPySpace d = true
    · have hne : c ≠ d := by
        rintro rfl
        rw [hc] at hd
        cases hd
      have hblank : c ≠ ' ' := by
        rintro rfl
        exact absurd hc (by decide)
      rw [collapse_cons_space inRun hd, mem_cons, or_iff_right hne]
      cases inRun with
      | true => exact mem_collapse hc
      | false => exact (mem_cons.trans (or_iff_right hblank)).trans (mem_collapse hc)
    · rw [Bool.not_eq_true] at hd
      rw [collapse_cons_solid inRun hd, mem_cons, mem_cons, mem_collapse hc]

theorem isPySpace_lost (h : lost c = true) : isPySpace c = false := isPySpace_letter (isLetter_lost h)

/-! ### The families -/

def Family.all : List Family := [.fxVol, .sfxVol, .painX, .gainX, .flipX, .switchX, .breakX, .fiboX]

theorem Family.mem_all (family : Family) : family ∈ Family.all := by cases family <;> decide

theorem lookup_capitals (family : Family) : canonicalFamilies.lookup family.capitals = some family.title := by
  cases family <;> decide

theorem title_eq_fiboX (family : Family) : family.title = "FiboX" ↔ family = .fiboX := by
  cases family <;> decide

theorem capitals_inj {max max' : Bool} {family' : Family}
    (h : (if max then "MAX".toList else []) ++ family.capitals.toList =
      (if max' then "MAX".toList else []) ++ family'.capitals.toList) : max = max' ∧ family = family' := by
  have hall : ∀ f ∈ Family.all, ∀ f' ∈ Family.all, ∀ m m' : Bool,
      (if m then "MAX".toList else []) ++ f.capitals.toList = (if m' then "MAX".toList else []) ++ f'.capitals.toList →
        m = m' ∧ f = f' := by
    decide +kernel
  exact hall family family.mem_all family' family'.mem_all max max' h

/-- A capital that only letters with a capital match. -/
def isKept (c : Char) : Bool := c != 'I' && c != 'K'

theorem isKept_lost (h : lost c = true) : isKept (foldCase c) = false := by
  unfold lost at h
  rw [Bool.or_eq_true, beq_iff_eq, beq_iff_eq] at h
  rcases h with rfl | rfl <;> decide

/-- **The text of a family without a letter has no key in the table.** -/
theorem lookup_lost {f : List Char} (h : FamilyChars family f) (hc : c ∈ f) (hlost : lost c = true) :
    canonicalFamilies.lookup (String.ofList (letters (f.filter fun c => !lost c))) = none := by
  rw [lookup_eq_none_iff]
  rintro ⟨key, title⟩ hmem
  rw [bne_iff_ne]
  rintro rfl
  have hkept : (letters (f.filter fun c => !lost c)).filter isKept = family.capitals.toList.filter isKept := by
    rw [← h.letters]
    unfold letters
    rw [filter_map, filter_map, filter_filter, filter_filter, filter_filter]
    congr 1
    refine filter_congr fun d _ => ?_
    cases hd : lost d with
    | false => simp
    | true => simp [isKept_lost hd]
  have hlength : (letters (f.filter fun c => !lost c)).length < family.capitals.toList.length := by
    rw [← h.letters]
    unfold letters
    rw [length_map, length_map, filter_comm]
    refine length_filter_lt_length_iff_exists.2 ⟨c, mem_filter.2 ⟨hc, isLetter_lost hlost⟩, ?_⟩
    rw [hlost]
    decide
  have hall : ∀ entry ∈ canonicalFamilies, ∀ f ∈ Family.all, entry.1.toList.filter isKept = f.capitals.toList.filter isKept →
      f.capitals.toList.length ≤ entry.1.toList.length := by
    decide +kernel
  have hle := hall _ hmem family family.mem_all (by rw [String.toList_ofList, hkept])
  rw [String.toList_ofList] at hle
  exact absurd hlength (not_lt.2 hle)

/-! ### The canonical spelling -/

theorem isWeltradeSynthetic_iff [PyUnicode] {symbol : String} :
    isWeltradeSynthetic symbol = true ↔ ∃ n, Reads (strip symbol).toList n := fullmatch_scope _

theorem isWeltradeSynthetic_strip [PyUnicode] (symbol : String) : isWeltradeSynthetic (strip symbol) = isWeltradeSynthetic symbol := by
  unfold isWeltradeSynthetic
  rw [strip_idem]

theorem canonical_of_not [PyUnicode] {symbol : String} (h : isWeltradeSynthetic symbol = false) :
    canonicalWeltradeSymbol symbol = .error (unsupported symbol) := by
  unfold canonicalWeltradeSymbol
  dsimp only
  rw [isWeltradeSynthetic_strip, h]
  rfl

theorem canonical_groups [PyUnicode] {symbol : String} (h : Reads (strip symbol).toList n) : ∃ m f,
    canonicalPattern.matchStart (collapse false (strip symbol).toList) = some m ∧
    GroupsOf (collapse false (strip symbol).toList) m n.max n.family f ∧
    (m .number).getD [] = n.number ∧ isWeltradeSynthetic (strip symbol) = true := by
  obtain ⟨m, hm⟩ := Option.isSome_iff_exists.1 (isSome_of_reads h.collapsed)
  obtain ⟨max, family, f, hgroups⟩ := groupsOf_match hm
  obtain ⟨rfl, rfl⟩ := capitals_inj (hgroups.letters.symm.trans h.collapsed.letters)
  refine ⟨m, f, hm, hgroups, hgroups.digits.symm.trans h.collapsed.digits, ?_⟩
  rw [isWeltradeSynthetic_strip]
  exact isWeltradeSynthetic_iff.2 ⟨n, h⟩

/-- **An accepted symbol has the spelling of its name.** -/
theorem canonical_of_reads [PyUnicode] {symbol : String} (h : Reads (strip symbol).toList n)
    (hlost : ∀ c ∈ (strip symbol).toList, lost c = false) : canonicalWeltradeSymbol symbol = .ok n.title := by
  obtain ⟨m, f, hm, hgroups, hnumber, hscope⟩ := canonical_groups h
  have hkept : ∀ c ∈ f, lost c = false := by
    intro c hc
    rw [Bool.eq_false_iff]
    intro hclost
    have hmem := (mem_collapse (isPySpace_lost hclost)).1 (hgroups.within c hc)
    rw [hlost c hmem] at hclost
    cases hclost
  have hkey : String.ofList (symbolKey ((m .family).getD [])) = n.family.capitals := by
    rw [hgroups.familyText, Option.getD_some, symbolKey_body hgroups.chars.body, filter_lost_eq hkept,
      hgroups.chars.letters, String.ofList_toList]
  unfold canonicalWeltradeSymbol
  dsimp only
  rw [hscope, if_pos rfl, hm]
  dsimp only
  rw [hkey, lookup_capitals]
  dsimp only
  unfold Name.title
  by_cases hfibo : n.family = .fiboX
  · rw [if_pos ((title_eq_fiboX _).2 hfibo), if_pos hfibo, hfibo]
    rfl
  · have hn := h.number
    rw [if_neg hfibo] at hn
    have hsome : m .number = some n.number := by
      cases hnum : m .number with
      | none =>
        rw [hnum] at hnumber
        exact absurd hnumber.symm hn.1
      | some number =>
        rw [hnum] at hnumber
        exact congrArg some hnumber
    rw [if_neg fun htitle => hfibo ((title_eq_fiboX _).1 htitle), if_neg hfibo, hgroups.maxText, hsome]
    cases n.max <;> rfl

theorem canonical_of_lost [PyUnicode] {symbol : String} (h : Reads (strip symbol).toList n) (hc : c ∈ (strip symbol).toList)
    (hlost : lost c = true) : ∃ key, canonicalWeltradeSymbol symbol = .error (.keyError key) := by
  obtain ⟨m, f, hm, hgroups, -, hscope⟩ := canonical_groups h
  have hf := hgroups.lost c ((mem_collapse (isPySpace_lost hlost)).2 hc) hlost
  have hkey : canonicalFamilies.lookup (String.ofList (symbolKey ((m .family).getD []))) = none := by
    rw [hgroups.familyText, Option.getD_some, symbolKey_body hgroups.chars.body]
    exact lookup_lost hgroups.chars hf hlost
  unfold canonicalWeltradeSymbol
  dsimp only
  rw [hscope, if_pos rfl, hm]
  dsimp only
  rw [hkey]
  exact ⟨_, rfl⟩

end

end WeltradeSymbols
end Jqe
