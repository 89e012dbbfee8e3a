import Mathlib.Data.List.TakeWhile
/-!
# Csv — rows of fields as text, over any alphabet

A writer that quotes the fields it must, and a reader that walks the text a symbol at a time: what is written is read
back, where every field is one that the writer quotes or that holds no line end, and is not too long for the reader.
-/
namespace Csv

open List

structure Alphabet (α : Type) where
  comma : α
  quote : α
  lineFeed : α
  carriageReturn : α
  comma_ne_quote : comma ≠ quote
  comma_ne_lineFeed : comma ≠ lineFeed
  comma_ne_carriageReturn : comma ≠ carriageReturn
  quote_ne_lineFeed : quote ≠ lineFeed
  quote_ne_carriageReturn : quote ≠ carriageReturn

variable {α : Type} [DecidableEq α] (A : Alphabet α)

/-- A symbol that makes the writer quote a field; carriage returns do with some writers only. -/
def special (quotesReturn : Bool) (c : α) : Bool :=
  c == A.comma || c == A.quote || c == A.lineFeed || (quotesReturn && c == A.carriageReturn)

/-- The symbols of a quoted field: quotes are doubled. -/
def double (field : List α) : List α := field.flatMap fun c => if c = A.quote then [A.quote, A.quote] else [c]

def writeField (quotesReturn : Bool) (field : List α) : List α :=
  if field.any (special A quotesReturn) then A.quote :: (double A field ++ [A.quote]) else field

def writeRow (quotesReturn : Bool) : List (List α) → List α
  | [] => [A.lineFeed]
  | [field] => writeField A quotesReturn field ++ [A.lineFeed]
  | field :: next :: fields => writeField A quotesReturn field ++ A.comma :: writeRow quotesReturn (next :: fields)

/-- Where the reader stands in a record. -/
inductive State where
  | recordStart
  | fieldStart
  | plain
  | quoted
  | quoteSeen
  deriving DecidableEq

def lineEnd (c : α) : Bool := c == A.lineFeed || c == A.carriageReturn

/-- The rows of a text, from a state with a field and the fields before it; `none` for a field over the limit.  Empty
lines are no rows. -/
def read (limit : ℕ) : State → List α → List (List α) → List α → Option (List (List (List α)))
  | .recordStart, _, _, [] => some []
  | _, field, row, [] => some [row ++ [field]]
  | .recordStart, _, _, c :: cs =>
    if lineEnd A c then read limit .recordStart [] [] cs
    else if c = A.quote then read limit .quoted [] [] cs
    else if c = A.comma then read limit .fieldStart [] [[]] cs
    else if 0 < limit then read limit .plain [c] [] cs else none
  | .fieldStart, _, row, c :: cs =>
    if lineEnd A c then (read limit .recordStart [] [] cs).map ((row ++ [[]]) :: ·)
    else if c = A.quote then read limit .quoted [] row cs
    else if c = A.comma then read limit .fieldStart [] (row ++ [[]]) cs
    else if 0 < limit then read limit .plain [c] row cs else none
  | .plain, field, row, c :: cs =>
    if lineEnd A c then (read limit .recordStart [] [] cs).map ((row ++ [field]) :: ·)
    else if c = A.comma then read limit .fieldStart [] (row ++ [field]) cs
    else if field.length < limit then read limit .plain (field ++ [c]) row cs else none
  | .quoted, field, row, c :: cs =>
    if c = A.quote then read limit .quoteSeen field row cs
    else if field.length < limit then read limit .quoted (field ++ [c]) row cs else none
  | .quoteSeen, field, row, c :: cs =>
    if lineEnd A c then (read limit .recordStart [] [] cs).map ((row ++ [field]) :: ·)
    else if c = A.comma then read limit .fieldStart [] (row ++ [field]) cs
    else if field.length < limit then
      if c = A.quote then read limit .quoted (field ++ [c]) row cs else read limit .plain (field ++ [c]) row cs
    else none

def rows (limit : ℕ) (text : List α) : Option (List (List (List α))) := read A limit .recordStart [] [] text

example (limit : ℕ) : rows A limit [A.lineFeed, A.carriageReturn] = some [] := by simp [rows, read, lineEnd]

structure Readable (quotesReturn : Bool) (limit : ℕ) (field : List α) : Prop where
  fits : field.length ≤ limit
  returns : A.carriageReturn ∈ field → field.any (special A quotesReturn) = true

/-- The states in which a separator ends the field. -/
def FieldRead (s : State) (field : List α) : Prop := s = .plain ∨ s = .quoteSeen ∨ (s = .fieldStart ∧ field = [])

variable {A} {limit : ℕ} {s : State} {field : List α} {row : List (List α)} {quotesReturn : Bool}

@[simp] theorem lineEnd_lineFeed : lineEnd A A.lineFeed = true := by simp [lineEnd]

@[simp] theorem lineEnd_carriageReturn : lineEnd A A.carriageReturn = true := by simp [lineEnd]

@[simp] theorem lineEnd_comma : lineEnd A A.comma = false := by
  simp [lineEnd, A.comma_ne_lineFeed, A.comma_ne_carriageReturn]

@[simp] theorem lineEnd_quote : lineEnd A A.quote = false := by
  simp [lineEnd, A.quote_ne_lineFeed, A.quote_ne_carriageReturn]

theorem read_comma (h : FieldRead s field) (cs : List α) :
    read A limit s field row (A.comma :: cs) = read A limit .fieldStart [] (row ++ [field]) cs := by
  obtain rfl | rfl | ⟨rfl, rfl⟩ := h
  · simp [read]
  · simp [read]
  · simp [read, A.comma_ne_quote]

theorem read_lineEnd (h : FieldRead s field) {c : α} (hc : lineEnd A c = true) (cs : List α) :
    read A limit s field row (c :: cs) = (read A limit .recordStart [] [] cs).map ((row ++ [field]) :: ·) := by
  obtain rfl | rfl | ⟨rfl, rfl⟩ := h <;> simp [read, hc]

omit [DecidableEq α] in
theorem length_snoc (h : field.length < limit) (c : α) : (field ++ [c]).length ≤ limit := by
  rw [length_append]
  exact h

theorem read_plain {run : List α} (hrun : ∀ c ∈ run, lineEnd A c = false ∧ c ≠ A.comma) (cs : List α) :
    ∀ {field : List α}, field.length ≤ limit → read A limit .plain field row (run ++ cs) =
      if (field ++ run).length ≤ limit then read A limit .plain (field ++ run) row cs else none := by
  induction run with
  | nil =>
    intro field hfield
    simp [hfield]
  | cons c run ih =>
    intro field hfield
    obtain ⟨hend, hcomma⟩ := hrun c mem_cons_self
    have hrest := @ih (fun d hd => hrun d (mem_cons_of_mem c hd)) (field ++ [c])
    rw [cons_append, read]
    simp only [hend, hcomma, Bool.false_eq_true, if_false]
    by_cases hlt : field.length < limit
    · rw [if_pos hlt, hrest (length_snoc hlt c), append_assoc, singleton_append]
    · have hover : ¬ (field ++ c :: run).length ≤ limit := by
        rw [length_append, length_cons]
        omega
      rw [if_neg hlt, if_neg hover]

theorem read_quoted (run cs : List α) : ∀ {field : List α}, field.length ≤ limit →
    read A limit .quoted field row (double A run ++ A.quote :: cs) =
      if (field ++ run).length ≤ limit then read A limit .quoteSeen (field ++ run) row cs else none := by
  induction run with
  | nil =>
    intro field hfield
    simp [double, read, hfield]
  | cons c run ih =>
    intro field hfield
    have hrest := @ih (field ++ [c])
    have hover : ¬ field.length < limit → ¬ (field ++ c :: run).length ≤ limit := by
      intro hlt
      rw [length_append, length_cons]
      omega
    have hsplit : double A (c :: run) = (if c = A.quote then [A.quote, A.quote] else [c]) ++ double A run := rfl
    rw [hsplit, append_assoc]
    by_cases hc : c = A.quote
    · -- a doubled quote: the first one may close the field, the second one says that it does not
      subst hc
      rw [if_pos rfl, cons_append, cons_append, nil_append, read, if_pos rfl, read]
      simp only [lineEnd_quote, A.comma_ne_quote.symm, Bool.false_eq_true, if_false, if_true]
      by_cases hlt : field.length < limit
      · rw [if_pos hlt, hrest (length_snoc hlt A.quote), append_assoc, singleton_append]
      · rw [if_neg hlt, if_neg (hover hlt)]
    · rw [if_neg hc, singleton_append, read, if_neg hc]
      by_cases hlt : field.length < limit
      · rw [if_pos hlt, hrest (length_snoc hlt c), append_assoc, singleton_append]
      · rw [if_neg hlt, if_neg (hover hlt)]

theorem not_special (h : ¬ field.any (special A quotesReturn) = true) {c : α} (hc : c ∈ field) :
    c ≠ A.comma ∧ c ≠ A.quote ∧ c ≠ A.lineFeed := by
  have hnot : special A quotesReturn c = false := by
    rw [List.any_eq_true] at h
    exact eq_false_of_ne_true fun hs => h ⟨c, hc, hs⟩
  simp only [special, Bool.or_eq_false_iff, beq_eq_false_iff_ne] at hnot
  exact ⟨hnot.1.1.1, hnot.1.1.2, hnot.1.2⟩

theorem read_unquoted {run : List α}
    (hrun : ∀ c ∈ run, lineEnd A c = false ∧ c ≠ A.comma ∧ c ≠ A.quote) (hfits : run.length ≤ limit) :
    ∃ s, FieldRead s run ∧ ∀ cs, read A limit .fieldStart [] row (run ++ cs) = read A limit s run row cs := by
  cases run with
  | nil => exact ⟨.fieldStart, .inr (.inr ⟨rfl, rfl⟩), fun cs => rfl⟩
  | cons c run =>
    obtain ⟨hend, hcomma, hquote⟩ := hrun c mem_cons_self
    have hlimit : 0 < limit := by
      rw [length_cons] at hfits
      omega
    refine ⟨.plain, .inl rfl, fun cs => ?_⟩
    rw [cons_append, read]
    simp only [hend, hquote, hcomma, hlimit, Bool.false_eq_true, if_false, if_true]
    have hplain := @read_plain α _ A limit row run
      (fun d hd => ⟨(hrun d (mem_cons_of_mem c hd)).1, (hrun d (mem_cons_of_mem c hd)).2.1⟩) cs [c] hlimit
    rwa [singleton_append, if_pos hfits] at hplain

theorem read_unquoted_over {run : List α}
    (hrun : ∀ c ∈ run, lineEnd A c = false ∧ c ≠ A.comma ∧ c ≠ A.quote) (hover : ¬ run.length ≤ limit) (cs : List α) :
    read A limit .fieldStart [] row (run ++ cs) = none := by
  cases run with
  | nil => exact absurd (Nat.zero_le limit) hover
  | cons c run =>
    obtain ⟨hend, hcomma, hquote⟩ := hrun c mem_cons_self
    rw [cons_append, read]
    simp only [hend, hquote, hcomma, Bool.false_eq_true, if_false]
    by_cases hlimit : 0 < limit
    · have hplain := @read_plain α _ A limit row run
        (fun d hd => ⟨(hrun d (mem_cons_of_mem c hd)).1, (hrun d (mem_cons_of_mem c hd)).2.1⟩) cs [c] hlimit
      rw [singleton_append, if_neg hover] at hplain
      rw [if_pos hlimit, hplain]
    · rw [if_neg hlimit]

/-- **A readable field is read back**, whatever comes after it. -/
theorem read_writeField (h : Readable A quotesReturn limit field) : ∃ s, FieldRead s field ∧
    ∀ cs, read A limit .fieldStart [] row (writeField A quotesReturn field ++ cs) = read A limit s field row cs := by
  by_cases hspecial : field.any (special A quotesReturn) = true
  · refine ⟨.quoteSeen, .inr (.inl rfl), fun cs => ?_⟩
    have hquoted := @read_quoted α _ A limit row field cs [] (Nat.zero_le limit)
    rw [nil_append, if_pos h.fits] at hquoted
    rw [writeField, if_pos hspecial, cons_append, append_assoc, singleton_append, read]
    simpa using hquoted
  · have hreturn : A.carriageReturn ∉ field := fun hmem => hspecial (h.returns hmem)
    rw [writeField, if_neg hspecial]
    refine read_unquoted (fun c hc => ?_) h.fits
    obtain ⟨hcomma, hquote, hfeed⟩ := not_special hspecial hc
    have hne : c ≠ A.carriageReturn := fun he => hreturn (he ▸ hc)
    exact ⟨by simp [lineEnd, hfeed, hne], hcomma, hquote⟩

theorem read_writeField_cut (h : ¬ Readable A quotesReturn limit field) (cs : List α) :
    read A limit .fieldStart [] row (writeField A quotesReturn field ++ A.lineFeed :: cs) = none ∨
    ∃ piece rest, piece <+: field ∧ piece.length < field.length ∧
      read A limit .fieldStart [] row (writeField A quotesReturn field ++ A.lineFeed :: cs) =
        (read A limit .recordStart [] [] rest).map ((row ++ [piece]) :: ·) := by
  by_cases hspecial : field.any (special A quotesReturn) = true
  · have hover : ¬ field.length ≤ limit := fun hfits => h ⟨hfits, fun _ => hspecial⟩
    have hquoted := @read_quoted α _ A limit row field (A.lineFeed :: cs) [] (Nat.zero_le limit)
    rw [nil_append, if_neg hover] at hquoted
    left
    rw [writeField, if_pos hspecial, cons_append, append_assoc, singleton_append, read]
    simpa using hquoted
  · rw [writeField, if_neg hspecial]
    -- the symbols before the first carriage return, and the rest
    have hbefore : ∀ c ∈ field.takeWhile (· != A.carriageReturn),
        lineEnd A c = false ∧ c ≠ A.comma ∧ c ≠ A.quote := by
      intro c hc
      have hne : c ≠ A.carriageReturn := by simpa using mem_takeWhile_imp hc
      obtain ⟨hcomma, hquote, hfeed⟩ := not_special hspecial (( takeWhile_prefix _).subset hc)
      exact ⟨by simp [lineEnd, hfeed, hne], hcomma, hquote⟩
    have hsplit : field.takeWhile (· != A.carriageReturn) ++ field.dropWhile (· != A.carriageReturn) = field :=
      takeWhile_append_dropWhile
    by_cases hfits : (field.takeWhile (· != A.carriageReturn)).length ≤ limit
    · right
      obtain ⟨s, hread, hrun⟩ := @read_unquoted α _ A limit row _ hbefore hfits
      cases hrest : field.dropWhile (· != A.carriageReturn) with
      | nil =>
        -- no carriage return: nothing makes the field unreadable
        rw [hrest, append_nil] at hsplit
        refine absurd ⟨hsplit ▸ hfits, fun hmem => ?_⟩ h
        rw [← hsplit] at hmem
        simpa using mem_takeWhile_imp hmem
      | cons c rest =>
        have hc : c = A.carriageReturn := by
          have hne : field.dropWhile (· != A.carriageReturn) ≠ [] := by
            rw [hrest]
            exact cons_ne_nil c rest
          simpa [hrest] using head_dropWhile_not (· != A.carriageReturn) hne
        rw [hrest, hc] at hsplit
        refine ⟨field.takeWhile (· != A.carriageReturn), rest ++ A.lineFeed :: cs, takeWhile_prefix _, ?_, ?_⟩
        · rw [← congrArg List.length hsplit, length_append, length_cons]
          omega
        · have htext : field ++ A.lineFeed :: cs =
              field.takeWhile (· != A.carriageReturn) ++ A.carriageReturn :: (rest ++ A.lineFeed :: cs) := by
            rw [← cons_append, ← append_assoc, hsplit]
          rw [htext, hrun, read_lineEnd hread lineEnd_carriageReturn]
    · left
      have htext : field ++ A.lineFeed :: cs = field.takeWhile (· != A.carriageReturn) ++
          (field.dropWhile (· != A.carriageReturn) ++ A.lineFeed :: cs) := by
        rw [← append_assoc, hsplit]
      rw [htext, read_unquoted_over hbefore hfits]

theorem read_recordStart {c : α} (hc : lineEnd A c = false) (cs : List α) :
    read A limit .recordStart [] [] (c :: cs) = read A limit .fieldStart [] [] (c :: cs) := by
  simp [read, hc]

theorem read_fields {fields : List (List α)} (h : ∀ f ∈ fields, Readable A quotesReturn limit f) (last cs : List α) :
    ∀ row, read A limit .fieldStart [] row (writeRow A quotesReturn (fields ++ [last]) ++ cs) =
      read A limit .fieldStart [] (row ++ fields) (writeField A quotesReturn last ++ A.lineFeed :: cs) := by
  induction fields with
  | nil => simp [writeRow]
  | cons f fields ih =>
    intro row
    have hrow : writeRow A quotesReturn (f :: (fields ++ [last])) =
        writeField A quotesReturn f ++ A.comma :: writeRow A quotesReturn (fields ++ [last]) := by
      cases fields <;> rfl
    obtain ⟨s, hs, hread⟩ := @read_writeField α _ A limit f row quotesReturn (h f mem_cons_self)
    rw [cons_append, hrow, append_assoc, hread, cons_append, read_comma hs,
      ih (fun g hg => h g (mem_cons_of_mem f hg)), append_assoc, singleton_append]

theorem read_writeRow {fields : List (List α)} (h : ∀ f ∈ fields, Readable A quotesReturn limit f) {last : List α}
    (hlast : Readable A quotesReturn limit last) (cs : List α) :
    read A limit .fieldStart [] [] (writeRow A quotesReturn (fields ++ [last]) ++ cs) =
      (read A limit .recordStart [] [] cs).map ((fields ++ [last]) :: ·) := by
  obtain ⟨s, hs, hread⟩ := @read_writeField α _ A limit last fields quotesReturn hlast
  rw [read_fields h, nil_append, hread, read_lineEnd hs lineEnd_lineFeed]

end Csv
