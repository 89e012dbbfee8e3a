import Jqe.WeltradeSymbolsSound
/-!
# WeltradeCanonical — which symbols are canonicalised

The canonical spelling of a name reads as that name, so it is in scope and its own spelling.
-/
namespace Jqe

open List

namespace WeltradeSymbols

/-! ### Spaces around a symbol -/

theorem stripChars_parts (s : List Char) : ∃ l r, s = l ++ (stripChars s ++ r) ∧ AllSpaces l ∧ AllSpaces r := by
  have hfront := takeWhile_append_dropWhile (p := isPySpace) (l := s.rdropWhile isPySpace)
  refine ⟨(s.rdropWhile isPySpace).takeWhile isPySpace, s.rtakeWhile isPySpace, ?_, fun c hc => mem_takeWhile_imp hc,
    fun c hc => mem_rtakeWhile_imp hc⟩
  unfold stripChars
  rw [← append_assoc, hfront]
  unfold List.rdropWhile List.rtakeWhile
  rw [← reverse_append, takeWhile_append_dropWhile, reverse_reverse]

theorem stripChars_eq_self {s : List Char} (hhead : ∀ c ∈ s.head?, isPySpace c = false)
    (hlast : ∀ c ∈ s.getLast?, isPySpace c = false) : stripChars s = s := by
  unfold stripChars
  rw [rdropWhile_eq_self_iff.2 fun hne => ?_, dropWhile_eq_self_iff.2 fun hpos => ?_]
  · rw [hhead _ (by rw [head?_eq_getElem?, getElem?_eq_getElem hpos]; rfl)]
    exact Bool.false_ne_true
  · rw [hlast _ (getLast_mem_getLast? hne)]
    exact Bool.false_ne_true

theorem letters_strip (s : List Char) : letters (stripChars s) = letters s := by
  obtain ⟨l, r, hs, hl, hr⟩ := stripChars_parts s
  conv_rhs => rw [hs]
  rw [letters_append, letters_append, hl.letters, hr.letters, nil_append, append_nil]

theorem AllSpaces.kept {u : List Char} (h : AllSpaces u) : ∀ c ∈ u, lost c = false := by
  intro c hc
  rw [Bool.eq_false_iff]
  intro hlost
  have hspace := h c hc
  rw [isPySpace_lost hlost] at hspace
  cases hspace

/-- **A symbol without a letter that `upper` loses.** -/
def KeepsLetters (symbol : String) : Prop := ∀ c ∈ symbol.toList, lost c = false

theorem keepsLetters_strip {symbol : String} : KeepsLetters (strip symbol) ↔ KeepsLetters symbol := by
  obtain ⟨l, r, hs, hl, hr⟩ := stripChars_parts symbol.toList
  unfold KeepsLetters strip
  rw [String.toList_ofList]
  refine ⟨fun h c hc => ?_, fun h c hc => h c ?_⟩
  · rw [hs, mem_append, mem_append] at hc
    rcases hc with hc | hc | hc
    · exact hl.kept c hc
    · exact h c hc
    · exact hr.kept c hc
  · rw [hs]
    exact mem_append_right _ (mem_append_left _ hc)

section

variable [PyUnicode]

theorem AllSpaces.isDecimal {u : List Char} (h : AllSpaces u) : ∀ c ∈ u, PyUnicode.isDecimal c = false :=
  fun c hc => isDecimal_of_space (h c hc)

theorem digits_strip (s : List Char) : digits (stripChars s) = digits s := by
  obtain ⟨l, r, hs, hl, hr⟩ := stripChars_parts s
  conv_rhs => rw [hs]
  rw [digits_append, digits_append, digits_eq_nil hl.isDecimal, digits_eq_nil hr.isDecimal, nil_append, append_nil]

theorem AllSpaces.symbolKey {u : List Char} (h : AllSpaces u) : symbolKey u = [] := by
  rw [symbolKey_body h.bodyChar, filter_lost_eq h.kept, h.letters]

theorem symbolKey_strip (s : List Char) : symbolKey (stripChars s) = symbolKey s := by
  obtain ⟨l, r, hs, hl, hr⟩ := stripChars_parts s
  conv_rhs => rw [hs]
  rw [symbolKey_append, symbolKey_append, hl.symbolKey, hr.symbolKey, nil_append, append_nil]

theorem asciiDigits_eq (s : List Char) : asciiDigits s = asciiDigits (digits s) := by
  unfold asciiDigits digits
  rw [filter_filter]
  refine filter_congr fun c _ => ?_
  cases hdigit : c.isDigit with
  | true => rw [isDecimal_of_isDigit hdigit]; rfl
  | false => rfl

/-! ### The spelling of a name -/

omit [PyUnicode] in
theorem Family.title_text {family : Family} : FamilyText family family.title.toList := by
  cases family with
  | fxVol => exact ⟨"FX".toList, [' '], "Vol".toList, [], by decide, by decide, spaces_one, by decide, .inr rfl⟩
  | sfxVol => exact ⟨"SFX".toList, [' '], "Vol".toList, [], by decide, by decide, spaces_one, by decide, .inr rfl⟩
  | painX => show Spells _ _; decide
  | gainX => show Spells _ _; decide
  | flipX => show Spells _ _; decide
  | switchX => show Spells _ _; decide
  | breakX => show Spells _ _; decide
  | fiboX => show Spells _ _; decide

omit [PyUnicode] in
theorem Name.title_toList (n : Name) : n.title.toList = if n.family = .fiboX then "FiboX".toList else
    (if n.max then "MAX ".toList else []) ++ (n.family.title.toList ++ (' ' :: n.number)) := by
  unfold Name.title
  split
  · rfl
  · cases n.max with
    | true => simp
    | false => simp

variable {n : Name} {s : List Char}

/-- **The spelling of a name reads as that name.** -/
theorem reads_title (hnumber : if n.family = .fiboX then n.number = [] else Decimals n.number)
    (hnamed : n.max = true → n.family = .painX ∨ n.family = .gainX) : Reads n.title.toList n := by
  refine ⟨hnumber, hnamed, ?_⟩
  rw [Name.title_toList]
  by_cases hfibo : n.family = .fiboX
  · rw [if_pos hfibo] at hnumber ⊢
    have hmax : n.max = false := by
      rw [Bool.eq_false_iff]
      intro hm
      have hfamily := hnamed hm
      rw [hfibo] at hfamily
      exact absurd hfamily (by decide)
    rw [hnumber, hmax, hfibo]
    exact ⟨[], "FiboX".toList, [], by decide, rfl, (Family.title_text : FamilyText .fiboX _), rfl⟩
  · rw [if_neg hfibo]
    refine ⟨if n.max then "MAX ".toList else [], n.family.title.toList, [' '], rfl, ?_, Family.title_text, ?_⟩
    · cases n.max with
      | true => exact ⟨"MAX".toList, [' '], by decide, by decide, spaces_one⟩
      | false => rfl
    · rcases n with ⟨max, family, number⟩
      cases family with
      | fxVol | sfxVol => exact spaces_one.2
      | fiboX => exact absurd rfl hfibo
      | _ => exact spaces_one

theorem Reads.title (h : Reads s n) : Reads n.title.toList n := reads_title h.number h.max

theorem Reads.solid (h : Reads s n) : ∀ c ∈ n.number, isPySpace c = false :=
  fun c hc => PyUnicode.isDecimal_space c (h.decimals c hc)

theorem Reads.title_strip (h : Reads s n) : strip n.title = n.title := by
  have hself : stripChars n.title.toList = n.title.toList := by
    have hnumber := h.number
    rw [Name.title_toList]
    by_cases hfibo : n.family = .fiboX
    · rw [if_pos hfibo]
      decide
    · rw [if_neg hfibo] at hnumber ⊢
      refine stripChars_eq_self (fun c hc => ?_) (fun c hc => ?_)
      · cases hmax : n.max with
        | true =>
          rw [hmax] at hc
          cases hc
          decide
        | false =>
          rw [hmax] at hc
          have hhead : ∀ c ∈ (n.family.title.toList ++ (' ' :: n.number)).head?, isPySpace c = false :=
            Family.title_text.solidHead _
          exact hhead c hc
      · rw [← append_assoc, getLast?_append, getLast?_cons] at hc
        cases hc
        obtain ⟨number, last, hlast⟩ := eq_nil_or_concat n.number |>.resolve_left hnumber.1
        rw [concat_eq_append] at hlast
        rw [hlast, getLast?_concat]
        exact h.solid last (by rw [hlast]; simp)
  unfold strip
  rw [hself, String.ofList_toList]

theorem Reads.title_kept (h : Reads s n) : KeepsLetters n.title := by
  have hall : (Family.all.all fun family => family.title.toList.all fun c => lost c == false) = true := by decide +kernel
  have hfamily : ∀ family ∈ Family.all, ∀ c ∈ family.title.toList, lost c = false := fun family hf c hc =>
    beq_iff_eq.1 (all_eq_true.1 (all_eq_true.1 hall family hf) c hc)
  have hnumber : ∀ c ∈ n.number, lost c = false := by
    intro c hc
    rw [Bool.eq_false_iff]
    intro hlost
    have hdecimal := h.decimals c hc
    rw [isDecimal_letter (isLetter_lost hlost)] at hdecimal
    cases hdecimal
  unfold KeepsLetters
  rw [Name.title_toList]
  by_cases hfibo : n.family = .fiboX
  · rw [if_pos hfibo]
    exact hfamily .fiboX (Family.mem_all _)
  · rw [if_neg hfibo]
    intro c hc
    rw [mem_append, mem_append, mem_cons] at hc
    rcases hc with hc | hc | rfl | hc
    · cases hmax : n.max with
      | true =>
        rw [hmax] at hc
        have hword : ("MAX ".toList.all fun c => lost c == false) = true := by decide
        exact beq_iff_eq.1 (all_eq_true.1 hword c hc)
      | false =>
        rw [hmax] at hc
        cases hc
    · exact hfamily _ (Family.mem_all _) c hc
    · decide
    · exact hnumber c hc

theorem Reads.title_inj {t : List Char} {n' : Name} (h : Reads s n) (h' : Reads t n') :
    n.title = n'.title ↔ n.capitals = n'.capitals ∧ n.number = n'.number := by
  constructor
  · intro heq
    have hletters := h.title.letters
    have hdigits := h.title.digits
    rw [heq, h'.title.letters] at hletters
    rw [heq, h'.title.digits] at hdigits
    exact ⟨hletters.symm, hdigits.symm⟩
  · rintro ⟨hcapitals, hnumber⟩
    obtain ⟨hmax, hfamily⟩ := capitals_inj hcapitals
    unfold Name.title
    rw [hmax, hfamily, hnumber]

/-! ### Which symbols are canonicalised -/

def Canonicalises (symbol : String) : Prop :=
  (isWeltradeSynthetic symbol = true → ∃ spelling, canonicalWeltradeSymbol symbol = .ok spelling ∧
    isWeltradeSynthetic spelling = true ∧ canonicalWeltradeSymbol spelling = .ok spelling ∧
    weltradeSymbolKey spelling = weltradeSymbolKey symbol) ∧
  (isWeltradeSynthetic symbol = false → ∃ message named,
    canonicalWeltradeSymbol symbol = .error (.marketDataError message named))

/-- **Two symbols in scope are told apart by key as by spelling.** -/
def KeysAgree (symbol other : String) : Prop :=
  isWeltradeSynthetic symbol = true → isWeltradeSynthetic other = true →
    (weltradeSymbolKey symbol = weltradeSymbolKey other ↔
      ∃ spelling, canonicalWeltradeSymbol symbol = .ok spelling ∧ canonicalWeltradeSymbol other = .ok spelling)

/-- **Symbols of the same letters and ASCII digits have the same digits.** -/
def SameDigits (symbol other : String) : Prop :=
  letters symbol.toList = letters other.toList → asciiDigits symbol.toList = asciiDigits other.toList →
    digits symbol.toList = digits other.toList

theorem reads_of_accepted {symbol : String} (h : isWeltradeSynthetic symbol = true) :
    ∃ n, Reads (strip symbol).toList n ∧ letters symbol.toList = n.capitals ∧ digits symbol.toList = n.number := by
  obtain ⟨n, hn⟩ := isWeltradeSynthetic_iff.1 h
  have hletters := hn.letters
  have hdigits := hn.digits
  unfold strip at hletters hdigits
  rw [String.toList_ofList] at hletters hdigits
  rw [letters_strip] at hletters
  rw [digits_strip] at hdigits
  exact ⟨n, hn, hletters, hdigits⟩

theorem Reads.weltradeSymbolKey {symbol : String} {n : Name} (h : Reads (strip symbol).toList n)
    (hkept : KeepsLetters symbol) : weltradeSymbolKey symbol = String.ofList (n.capitals ++ asciiDigits n.number) := by
  have hkey := h.symbolKey (keepsLetters_strip.2 hkept)
  unfold strip at hkey
  rw [String.toList_ofList, symbolKey_strip] at hkey
  unfold WeltradeSymbols.weltradeSymbolKey
  rw [hkey]

theorem Reads.strip_title (h : Reads s n) : Reads (strip n.title).toList n := by
  rw [h.title_strip]
  exact h.title

theorem Reads.title_canonical (h : Reads s n) :
    isWeltradeSynthetic n.title = true ∧ canonicalWeltradeSymbol n.title = .ok n.title :=
  ⟨isWeltradeSynthetic_iff.2 ⟨n, h.strip_title⟩, canonical_of_reads h.strip_title (keepsLetters_strip.2 h.title_kept)⟩

theorem canonicalises_iff {symbol : String} :
    Canonicalises symbol ↔ (isWeltradeSynthetic symbol = true → KeepsLetters symbol) := by
  constructor
  · rintro ⟨haccepted, -⟩ hscope
    obtain ⟨spelling, hspelling, -⟩ := haccepted hscope
    obtain ⟨n, hn, -, -⟩ := reads_of_accepted hscope
    rw [← keepsLetters_strip]
    intro c hc
    rw [Bool.eq_false_iff]
    intro hlost
    obtain ⟨key, hkey⟩ := canonical_of_lost hn hc hlost
    rw [hkey] at hspelling
    cases hspelling
  · intro hkept
    refine ⟨fun hscope => ?_, fun hscope => ⟨_, _, canonical_of_not hscope⟩⟩
    obtain ⟨n, hn, -, -⟩ := reads_of_accepted hscope
    have hspelling := hn.title_canonical
    refine ⟨n.title, canonical_of_reads hn (keepsLetters_strip.2 (hkept hscope)), hspelling.1, hspelling.2, ?_⟩
    rw [hn.strip_title.weltradeSymbolKey hn.title_kept, hn.weltradeSymbolKey (hkept hscope)]

omit [PyUnicode] in
theorem filter_capitals : n.capitals.filter isCapital = n.capitals := by
  refine filter_eq_self.2 fun c hc => ?_
  have hall : ([true, false].all fun max => Family.all.all fun family =>
      ((if max then "MAX".toList else []) ++ family.capitals.toList).all isCapital) = true := by decide +kernel
  have hmax : n.max ∈ [true, false] := by cases n.max <;> simp
  exact all_eq_true.1 (all_eq_true.1 (all_eq_true.1 hall n.max hmax) n.family (Family.mem_all _)) c hc

omit [PyUnicode] in
theorem isCapital_digit {c : Char} (h : c.isDigit = true) : isCapital c = false := by
  have hlt : c.toNat < 128 := isKeyChar_lt (by rw [isKeyChar, h, Bool.or_true])
  revert h
  exact forall_ascii (P := fun c => c.isDigit = true → isCapital c = false) (by decide) hlt

omit [PyUnicode] in
theorem capitals_digits_inj {n' : Name} {u v : List Char} :
    n.capitals ++ asciiDigits u = n'.capitals ++ asciiDigits v ↔ n.capitals = n'.capitals ∧ asciiDigits u = asciiDigits v := by
  have hnone : ∀ u : List Char, (asciiDigits u).filter isCapital = [] := fun u =>
    filter_eq_nil_iff.2 fun c hc => by rw [isCapital_digit (mem_filter.1 hc).2]; decide
  constructor
  · intro heq
    have hcapitals := congrArg (List.filter isCapital) heq
    rw [filter_append, filter_append, filter_capitals, filter_capitals, hnone, hnone, append_nil,
      append_nil] at hcapitals
    rw [hcapitals] at heq
    exact ⟨hcapitals, append_cancel_left heq⟩
  · rintro ⟨hcapitals, hdigits⟩
    rw [hcapitals, hdigits]

theorem keysAgree_iff {symbol other : String} (hsymbol : isWeltradeSynthetic symbol = true → KeepsLetters symbol)
    (hother : isWeltradeSynthetic other = true → KeepsLetters other) :
    KeysAgree symbol other ↔
      (isWeltradeSynthetic symbol = true → isWeltradeSynthetic other = true → SameDigits symbol other) := by
  unfold KeysAgree
  refine forall_congr' fun hs => forall_congr' fun ho => ?_
  obtain ⟨n, hn, hletters, hdigits⟩ := reads_of_accepted hs
  obtain ⟨n', hn', hletters', hdigits'⟩ := reads_of_accepted ho
  have hkey : weltradeSymbolKey symbol = weltradeSymbolKey other ↔
      n.capitals = n'.capitals ∧ asciiDigits n.number = asciiDigits n'.number := by
    rw [hn.weltradeSymbolKey (hsymbol hs), hn'.weltradeSymbolKey (hother ho), String.ofList_inj, capitals_digits_inj]
  have hspelling : (∃ spelling, canonicalWeltradeSymbol symbol = .ok spelling ∧
      canonicalWeltradeSymbol other = .ok spelling) ↔ n.capitals = n'.capitals ∧ n.number = n'.number := by
    rw [canonical_of_reads hn (keepsLetters_strip.2 (hsymbol hs)), canonical_of_reads hn' (keepsLetters_strip.2 (hother ho)),
      ← hn.title_inj hn']
    constructor
    · rintro ⟨spelling, h, h'⟩
      rw [Except.ok.inj h, Except.ok.inj h']
    · exact fun heq => ⟨_, rfl, congrArg _ heq.symm⟩
  have hascii : asciiDigits symbol.toList = asciiDigits n.number ∧ asciiDigits other.toList = asciiDigits n'.number := by
    rw [asciiDigits_eq symbol.toList, hdigits, asciiDigits_eq other.toList, hdigits']
    exact ⟨rfl, rfl⟩
  rw [hkey, hspelling]
  unfold SameDigits
  rw [hletters, hletters', hdigits, hdigits', hascii.1, hascii.2]
  constructor
  · exact fun hiff hcapitals hnumber => (hiff.1 ⟨hcapitals, hnumber⟩).2
  · refine fun hsame => ⟨fun h => ⟨h.1, hsame h.1 h.2⟩, fun h => ⟨h.1, ?_⟩⟩
    rw [h.2]

/-- **Symbols are canonicalised, and told apart by key as by spelling, if and only if those in scope hold no lost letter and
two in scope with the same letters and ASCII digits have the same digits.** -/
theorem canonicalisation_iff (symbol other : String) :
    Canonicalises symbol ∧ Canonicalises other ∧ KeysAgree symbol other ↔
      (isWeltradeSynthetic symbol = true → KeepsLetters symbol) ∧ (isWeltradeSynthetic other = true → KeepsLetters other) ∧
        (isWeltradeSynthetic symbol = true → isWeltradeSynthetic other = true → SameDigits symbol other) := by
  rw [canonicalises_iff, canonicalises_iff]
  constructor
  · rintro ⟨hsymbol, hother, hkeys⟩
    exact ⟨hsymbol, hother, (keysAgree_iff hsymbol hother).1 hkeys⟩
  · rintro ⟨hsymbol, hother, hdigits⟩
    exact ⟨hsymbol, hother, (keysAgree_iff hsymbol hother).2 hdigits⟩

end

/-! ### Latin letters and Arabic digits -/

/-- **What Python says of ASCII, of the four letters and of the Arabic-Indic digits.** -/
@[reducible] def latinUnicode : PyUnicode where
  upperChar c := if c = dotlessI then ['I'] else if c = longS then ['S'] else [c.toUpper]
  upper s := String.ofList (s.toList.flatMap fun c => if c = dotlessI then ['I'] else if c = longS then ['S'] else [c.toUpper])
  upper_eq _ := rfl
  lower s := String.ofList (s.toList.map Char.toLower)
  isDecimal c := c.isDigit || (0x660 ≤ c.toNat && c.toNat ≤ 0x669)
  upperChar_ascii c h := by
    rw [if_neg (by rintro rfl; revert h; decide), if_neg (by rintro rfl; revert h; decide)]
  upperChar_letters := by decide
  upperChar_other c h hc := by
    rw [if_neg (by rintro rfl; revert hc; decide), if_neg (by rintro rfl; revert hc; decide), toUpper_of_ge h]
  upperChar_upper c d hd := by
    by_cases hc : c.toNat < 128
    · rw [if_neg (by rintro rfl; revert hc; decide), if_neg (by rintro rfl; revert hc; decide)] at hd
      rw [List.mem_singleton.1 hd]
      exact forall_ascii (P := fun c => (if c.toUpper = dotlessI then ['I'] else if c.toUpper = longS then ['S'] else
        [c.toUpper.toUpper]) = [c.toUpper]) (by decide) hc
    · by_cases hi : c = dotlessI
      · rw [if_pos hi] at hd
        rw [List.mem_singleton.1 hd]
        decide
      · by_cases hs : c = longS
        · rw [if_neg hi, if_pos hs] at hd
          rw [List.mem_singleton.1 hd]
          decide
        · rw [if_neg hi, if_neg hs, toUpper_of_ge (not_lt.1 hc)] at hd
          rw [List.mem_singleton.1 hd, if_neg hi, if_neg hs, toUpper_of_ge (not_lt.1 hc)]
  lower_ascii _ _ := rfl
  isDecimal_ascii c h := by
    have hbefore : decide (0x660 ≤ c.toNat) = false := decide_eq_false (by omega)
    rw [hbefore, Bool.false_and, Bool.or_false]
  isDecimal_space c h := by
    rw [Bool.or_eq_true] at h
    rcases h with h | h
    · exact isPySpace_of_isDigit h
    · rw [Bool.and_eq_true, decide_eq_true_eq, decide_eq_true_eq] at h
      simp only [isPySpace, Bool.or_eq_false_iff, Bool.and_eq_false_iff, decide_eq_false_iff_not, beq_eq_false_iff_ne]
      omega
  isDecimal_letters c hc := by
    simp only [List.mem_cons, List.not_mem_nil, or_false] at hc
    rcases hc with rfl | rfl | rfl | rfl <;> decide

def arabicPainX : String := String.ofList ("PainX 4".toList ++ [Char.ofNat 0x664])

def kelvinBreakX : String := String.ofList ("Brea".toList ++ kelvinSign :: "X 600".toList)

/-- A Kelvin sign is accepted and raises `KeyError`, an Arabic-Indic digit is in the spelling and not in the key. -/
theorem canonicalisation_fails :
    ¬ @Canonicalises latinUnicode kelvinBreakX ∧ ¬ @KeysAgree latinUnicode "PainX 4" arabicPainX := by
  let _ : PyUnicode := latinUnicode
  have hkelvin : isWeltradeSynthetic kelvinBreakX = true ∧
      canonicalWeltradeSymbol kelvinBreakX = .error (.keyError "BREAX") := by
    decide +kernel
  have harabic : isWeltradeSynthetic "PainX 4" = true ∧ isWeltradeSynthetic arabicPainX = true ∧
      weltradeSymbolKey "PainX 4" = weltradeSymbolKey arabicPainX ∧
      canonicalWeltradeSymbol "PainX 4" = .ok "PainX 4" ∧ canonicalWeltradeSymbol arabicPainX = .ok arabicPainX := by
    decide +kernel
  constructor
  · rintro ⟨haccepted, -⟩
    obtain ⟨spelling, hspelling, -⟩ := haccepted hkelvin.1
    rw [hkelvin.2] at hspelling
    cases hspelling
  · intro hkeys
    obtain ⟨spelling, h, h'⟩ := (hkeys harabic.1 harabic.2.1).1 harabic.2.2.1
    rw [harabic.2.2.2.1] at h
    rw [harabic.2.2.2.2] at h'
    exact absurd ((Except.ok.inj h).trans (Except.ok.inj h').symm) (by decide)

end WeltradeSymbols
end Jqe
