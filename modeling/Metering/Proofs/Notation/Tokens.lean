import Metering.Proofs.Notation.Grammar

/-! # Reading tokens

The readers of names, numbers, scales and operators take a token of the grammar from the front of
a text, and nothing but tokens.

* `readName_append`, `readNumber_append`, `readScale_append`, `readOperator_append` — a token before
  a delimiter is read;
* `of_readName`, `of_readNumber`, `of_readScale`, `of_readOperator` — what is read is a token;
* `cutNumeral` — what is scanned where a number is read, which alone decides how that ends.
-/

namespace Metering.Notation

open Number (isDigit isBlank_of_isDigit minusSign IsDecimal nearestDecimal RoundsTo)
open Number (nearestDecimal_roundsTo takeWhile_append_of_stop dropWhile_append_of_stop)
open Number (any_isDigit_minusSign)
open Text (isBlank skipBlanks)

variable {b cs rest : List Char} {x : Float}

/-! ## Names -/

theorem Delimited.isNameChar (h : Delimited rest) : ∀ c ∈ rest.head?, isNameChar c = false :=
  fun c hc => isNameChar_of_isDelimiter (h c hc)

theorem IsName.skipBlanks {name : List Char} (h : IsName name) :
    skipBlanks (name ++ rest) = name ++ rest := by
  cases h with
  | intro hc _ => exact skipBlanks_cons (isBlank_of_isNameChar (isNameChar_of_isNameStart hc))

theorem readName_append {name : List Char} (hb : IsBlanks b) (hname : IsName name)
    (hrest : Delimited rest) :
    readName (b ++ (name ++ rest)) = .ok (String.ofList name, rest) := by
  rw [readName, skipBlanks_append hb, hname.skipBlanks]
  cases hname with
  | @intro c cs hc hcs =>
    dsimp only [List.cons_append]
    rw [if_pos hc, takeWhile_append_of_stop hcs hrest.isNameChar,
      dropWhile_append_of_stop hcs hrest.isNameChar]

theorem of_readName {name : String} (h : readName cs = .ok (name, rest)) :
    ∃ b word, cs = b ++ (word ++ rest) ∧ IsBlanks b ∧ IsName word ∧ name = String.ofList word := by
  obtain ⟨b, hb, hcs⟩ := exists_blanks cs
  rw [readName] at h
  split at h
  · next c tail hskip =>
    split at h
    · next hc =>
      simp only [Except.ok.injEq, Prod.mk.injEq] at h
      obtain ⟨rfl, rfl⟩ := h
      refine ⟨b, c :: tail.takeWhile isNameChar, ?_, hb, ⟨hc, ?_⟩, rfl⟩
      · rw [List.cons_append, List.takeWhile_append_dropWhile, ← hskip]
        exact hcs
      · intro d hd
        exact List.mem_takeWhile_imp hd
    · cases h
  · cases h

/-! ## Numbers -/

/-- Digits are taken as they come, and what follows them is left to be scanned. -/
theorem scanDigits_append_of_digits (passed : Bool) {ds : List Char}
    (h : ∀ c ∈ ds, isDigit c = true) (rest : List Char) :
    scanDigits passed (ds ++ rest) =
      (ds ++ (scanDigits passed rest).1, (scanDigits passed rest).2) := by
  induction ds with
  | nil => rfl
  | cons c ds ih =>
    have hc : isDigit c = true := h c (List.mem_cons_self ..)
    rw [List.cons_append, scanDigits, if_pos hc, ih fun d hd => h d (List.mem_cons_of_mem c hd)]
    rfl

/-- Neither a digit nor a point begins the text. -/
def StopsDigits (cs : List Char) : Prop :=
  ∀ c ∈ cs.head?, isDigit c = false ∧ c ≠ '.'

theorem Delimited.stopsDigits (h : Delimited rest) : StopsDigits rest := by
  intro c hc
  have hdelimiter := h c hc
  exact ⟨isDigit_of_isDelimiter hdelimiter, ne_point_of_isDelimiter hdelimiter⟩

theorem StopsDigits.scanDigits (h : StopsDigits rest) (passed : Bool) :
    scanDigits passed rest = ([], rest) := by
  cases rest with
  | nil => rfl
  | cons c rest =>
    obtain ⟨hdigit, hpoint⟩ := h c rfl
    simp [Notation.scanDigits, hdigit, hpoint]

theorem scanDigits_append_of_isDecimal {ds : List Char} {digits places : Nat}
    (h : IsDecimal ds digits places) (hrest : StopsDigits rest) :
    scanDigits false (ds ++ rest) = (ds, rest) := by
  cases h with
  | whole _ hds => rw [scanDigits_append_of_digits false hds, hrest.scanDigits, List.append_nil]
  | @pointed whole fraction _ hwhole hfraction =>
    have hpoint : scanDigits false ('.' :: (fraction ++ rest)) = ('.' :: fraction, rest) := by
      rw [scanDigits, if_neg (by decide), if_pos (by decide),
        scanDigits_append_of_digits true hfraction, hrest.scanDigits, List.append_nil]
    rw [List.append_assoc, List.cons_append, scanDigits_append_of_digits false hwhole, hpoint]

theorem any_isDigit_of_isDecimal {ds : List Char} {digits places : Nat}
    (h : IsDecimal ds digits places) : ds.any isDigit = true := by
  rw [List.any_eq_true]
  cases h with
  | whole hne hds =>
    obtain ⟨c, hc⟩ := List.exists_mem_of_ne_nil ds hne
    exact ⟨c, hc, hds c hc⟩
  | @pointed whole fraction hne hwhole hfraction =>
    obtain ⟨c, hc⟩ := List.exists_mem_of_ne_nil _ hne
    rcases List.mem_append.1 hc with hin | hin
    · exact ⟨c, List.mem_append_left _ hin, hwhole c hin⟩
    · exact ⟨c, List.mem_append_right _ (List.mem_cons_of_mem '.' hin), hfraction c hin⟩

theorem all_isDigit_scanDigits (cs : List Char) :
    ∀ c ∈ (scanDigits true cs).1, isDigit c = true := by
  induction cs with
  | nil =>
    intro c hc
    cases hc
  | cons d cs ih =>
    intro c hc
    rw [scanDigits] at hc
    by_cases hd : isDigit d = true
    · rw [if_pos hd] at hc
      rcases List.mem_cons.1 hc with rfl | hc
      · exact hd
      · exact ih c hc
    · rw [if_neg hd, if_neg (by simp)] at hc
      cases hc

theorem scanDigits_cases (cs : List Char) :
    (∀ c ∈ (scanDigits false cs).1, isDigit c = true) ∨
      ∃ ds es, (scanDigits false cs).1 = ds ++ '.' :: es ∧ (∀ c ∈ ds, isDigit c = true) ∧
        ∀ c ∈ es, isDigit c = true := by
  induction cs with
  | nil =>
    refine .inl ?_
    intro c hc
    cases hc
  | cons d cs ih =>
    rw [scanDigits]
    by_cases hd : isDigit d = true
    · rw [if_pos hd]
      rcases ih with hall | ⟨ds, es, heq, hds, hes⟩
      · exact .inl (List.forall_mem_cons.2 ⟨hd, hall⟩)
      · refine .inr ⟨d :: ds, es, ?_, List.forall_mem_cons.2 ⟨hd, hds⟩, hes⟩
        exact congrArg (d :: ·) heq
    · rw [if_neg hd]
      by_cases hpoint : d = '.'
      · -- the first point; a second one would end the number
        subst hpoint
        refine .inr ⟨[], (scanDigits true cs).1, rfl, ?_, all_isDigit_scanDigits cs⟩
        intro c hc
        cases hc
      · simp [hpoint]

/-- What is scanned is a decimal as soon as there is a digit in it. -/
theorem isDecimal_scanDigits (cs : List Char) (h : (scanDigits false cs).1.any isDigit = true) :
    ∃ digits places, IsDecimal (scanDigits false cs).1 digits places := by
  obtain ⟨c, hc, hdigit⟩ := List.any_eq_true.1 h
  rcases scanDigits_cases cs with hall | ⟨ds, es, heq, hds, hes⟩
  · exact ⟨_, _, .whole (List.ne_nil_of_mem hc) hall⟩
  · rw [heq] at hc ⊢
    refine ⟨_, _, .pointed ?_ hds hes⟩
    -- a point alone has no digit
    intro hnil
    obtain ⟨rfl, rfl⟩ := List.append_eq_nil_iff.1 hnil
    obtain rfl : c = '.' := by simpa using hc
    revert hdigit
    decide

theorem scanMinus_append_of_isDecimal {ds : List Char} {digits places : Nat}
    (h : IsDecimal ds digits places) (negative : Bool) :
    scanMinus (minusSign negative ++ (ds ++ rest)) = (minusSign negative, ds ++ rest) := by
  cases negative with
  | true => rfl
  | false =>
    cases hds : ds with
    | nil => exact absurd hds h.ne_nil
    | cons c ds =>
      have hhead := h.head c (by rw [hds]; rfl)
      have hminus : c ≠ '-' := by
        rintro rfl
        revert hhead
        decide
      simp [minusSign, scanMinus, hminus]

theorem exists_scanMinus (cs : List Char) :
    ∃ negative body, scanMinus cs = (minusSign negative, body) := by
  unfold scanMinus
  split
  · exact ⟨true, _, rfl⟩
  · exact ⟨false, _, rfl⟩

theorem isBlank_of_isDecimal {ds : List Char} {digits places : Nat}
    (h : IsDecimal ds digits places) : ∀ c ∈ ds.head?, isBlank c = false := by
  intro c hc
  rcases h.head c hc with hdigit | rfl
  · exact isBlank_of_isDigit hdigit
  · decide

theorem IsNumber.skipBlanks (h : IsNumber cs x) : skipBlanks (cs ++ rest) = cs ++ rest := by
  cases h with
  | @intro negative ds digits places _ hdecimal _ =>
    cases negative with
    | true => exact skipBlanks_cons (by decide)
    | false =>
      cases hds : ds with
      | nil => exact absurd hds hdecimal.ne_nil
      | cons c ds => exact skipBlanks_cons (isBlank_of_isDecimal hdecimal c (by rw [hds]; rfl))

theorem exists_isNumber {ds : List Char} {digits places : Nat} (h : IsDecimal ds digits places)
    (negative : Bool) : ∃ x, IsNumber (minusSign negative ++ ds) x :=
  ⟨_, h, nearestDecimal_roundsTo negative digits _⟩

theorem IsNumber.exists_isDecimal (h : IsNumber cs x) :
    ∃ negative ds digits places, cs = minusSign negative ++ ds ∧ IsDecimal ds digits places := by
  cases h with
  | intro hdecimal _ => exact ⟨_, _, _, _, rfl, hdecimal⟩

theorem IsNumber.read (h : IsNumber cs x) : Number.readNumber cs = some x := by
  cases h with
  | @intro negative ds digits places _ hdecimal hround =>
    rw [hdecimal.read, (nearestDecimal_roundsTo negative digits _).unique hround]

theorem IsNumber.any_isDigit (h : IsNumber cs x) : cs.any isDigit = true := by
  obtain ⟨negative, ds, digits, places, rfl, hdecimal⟩ := h.exists_isDecimal
  rw [List.any_append, any_isDigit_of_isDecimal hdecimal, Bool.or_true]

/-- What is scanned where a number is read, and what follows it. -/
def cutNumeral (cs : List Char) : List Char × List Char :=
  let (minus, body) := scanMinus cs
  let (digits, rest) := scanDigits false body
  (minus ++ digits, rest)

theorem cutNumeral_append (cs : List Char) : (cutNumeral cs).1 ++ (cutNumeral cs).2 = cs := by
  rw [cutNumeral, List.append_assoc, scanDigits_append, scanMinus_append]

theorem IsNumber.cutNumeral_append (h : IsNumber cs x) (hrest : StopsDigits rest) :
    cutNumeral (cs ++ rest) = (cs, rest) := by
  obtain ⟨negative, ds, digits, places, rfl, hdecimal⟩ := h.exists_isDecimal
  rw [cutNumeral, List.append_assoc, scanMinus_append_of_isDecimal hdecimal]
  dsimp only
  rw [scanDigits_append_of_isDecimal hdecimal hrest]

/-- A digit among what is scanned makes it a number. -/
theorem exists_isNumber_cutNumeral (h : (cutNumeral cs).1.any isDigit = true) :
    ∃ x, IsNumber (cutNumeral cs).1 x := by
  obtain ⟨negative, body, hminus⟩ := exists_scanMinus cs
  simp only [cutNumeral, hminus, List.any_append, any_isDigit_minusSign, Bool.false_or] at h ⊢
  obtain ⟨digits, places, hdecimal⟩ := isDecimal_scanDigits body h
  exact exists_isNumber hdecimal negative

theorem readNumber_of_isNumber (h : IsNumber (cutNumeral (skipBlanks cs)).1 x) :
    readNumber cs = .ok (x, (cutNumeral (skipBlanks cs)).2) := by
  have hdigit := h.any_isDigit
  have hread := h.read
  obtain ⟨negative, body, hminus⟩ := exists_scanMinus (skipBlanks cs)
  simp only [cutNumeral, hminus, List.any_append, any_isDigit_minusSign, Bool.false_or]
    at hdigit hread
  simp only [readNumber, cutNumeral, hminus, hdigit, hread, if_true]

theorem readNumber_of_no_digit (h : ¬ (cutNumeral (skipBlanks cs)).1.any isDigit = true) :
    readNumber cs = .error ⟨.numberExpected, skipBlanks cs⟩ := by
  obtain ⟨negative, body, hminus⟩ := exists_scanMinus (skipBlanks cs)
  simp only [cutNumeral, hminus, List.any_append, any_isDigit_minusSign, Bool.false_or] at h
  simp only [readNumber, hminus]
  exact if_neg h

theorem readNumber_append (hb : IsBlanks b) (h : IsNumber cs x) (hrest : Delimited rest) :
    readNumber (b ++ (cs ++ rest)) = .ok (x, rest) := by
  have hcut : cutNumeral (skipBlanks (b ++ (cs ++ rest))) = (cs, rest) := by
    rw [skipBlanks_append hb, h.skipBlanks, h.cutNumeral_append hrest.stopsDigits]
  have hread := @readNumber_of_isNumber (b ++ (cs ++ rest)) x (by rwa [hcut])
  rwa [hcut] at hread

theorem of_readNumber (h : readNumber cs = .ok (x, rest)) :
    ∃ b ds, cs = b ++ (ds ++ rest) ∧ IsBlanks b ∧ IsNumber ds x := by
  obtain ⟨b, hb, hcs⟩ := exists_blanks cs
  by_cases hdigit : (cutNumeral (skipBlanks cs)).1.any isDigit = true
  · obtain ⟨y, hnumber⟩ := exists_isNumber_cutNumeral hdigit
    rw [readNumber_of_isNumber hnumber] at h
    cases h
    refine ⟨b, _, ?_, hb, hnumber⟩
    rw [Notation.cutNumeral_append]
    exact hcs
  · cases (readNumber_of_no_digit hdigit).symm.trans h

/-! ## Scales -/

/-- Nothing but a comma or a closing bracket may follow, after blanks. -/
inductive Closes : List Char → Prop where
  | intro {b cs : List Char} {c : Char} : IsBlanks b → c = ',' ∨ c = ')' → Closes (b ++ c :: cs)

theorem Closes.skipBlanks (h : Closes rest) :
    ∃ c cs, skipBlanks rest = c :: cs ∧ (c = ',' ∨ c = ')') := by
  cases h with
  | @intro b cs c hb hc =>
    refine ⟨c, cs, ?_, hc⟩
    rw [skipBlanks_append hb]
    rcases hc with rfl | rfl <;> exact skipBlanks_cons (by decide)

theorem Closes.delimited (h : Closes rest) : Delimited rest := by
  cases h with
  | @intro b cs c hb hc =>
    intro d hd
    cases b with
    | nil =>
      obtain rfl : c = d := Option.some.inj hd
      rcases hc with rfl | rfl <;> decide
    | cons e b =>
      obtain rfl : e = d := Option.some.inj hd
      simp [isDelimiter, hb e (List.mem_cons_self ..)]

/-- Blanks may be skipped after a scale that is not written. -/
theorem readScale_append (h : IsScale cs x) (hrest : Closes rest) :
    ∃ left, readScale (cs ++ rest) = .ok (x, left) ∧ skipBlanks left = skipBlanks rest := by
  rw [readScale]
  cases h with
  | absent =>
    obtain ⟨c, tail, hskip, hc⟩ := hrest.skipBlanks
    refine ⟨skipBlanks rest, ?_, skipBlanks_skipBlanks rest⟩
    rw [List.nil_append, hskip]
    rcases hc with rfl | rfl <;> rfl
  | @factor b b' ds _ hb hb' hnumber =>
    refine ⟨rest, ?_, rfl⟩
    rw [List.append_assoc, skipBlanks_append hb, List.cons_append, skipBlanks_cons (by decide)]
    rw [List.append_assoc]
    exact readNumber_append hb' hnumber hrest.delimited

theorem of_readScale (h : readScale cs = .ok (x, rest)) :
    ∃ ds b, cs = ds ++ (b ++ rest) ∧ IsScale ds x ∧ IsBlanks b := by
  obtain ⟨b, hb, hcs⟩ := exists_blanks cs
  rw [readScale] at h
  split at h
  · next tail hskip =>
    obtain ⟨b', ds, rfl, hb', hnumber⟩ := of_readNumber h
    refine ⟨b ++ '*' :: (b' ++ ds), [], ?_, .factor hb hb' hnumber, isBlanks_nil⟩
    rw [hcs, hskip]
    simp
  · simp only [Except.ok.injEq, Prod.mk.injEq] at h
    obtain ⟨rfl, rfl⟩ := h
    exact ⟨[], b, hcs, .absent, hb⟩

/-! ## Operators -/

theorem Delimited.isOperatorChar (h : Delimited rest) :
    ∀ c ∈ rest.head?, isOperatorChar c = false :=
  fun c hc => isOperatorChar_of_isDelimiter (h c hc)

theorem isBlank_of_isOperatorChar {c : Char} (h : isOperatorChar c = true) : isBlank c = false := by
  rcases isOperatorChar_cases h with rfl | rfl | rfl | rfl <;> decide

theorem IsOperator.head {symbol : List Char} (h : IsOperator cs symbol) :
    ∃ c tail, cs = c :: tail ∧ beginsOperator c = true ∧ isBlank c = false := by
  cases h with
  | bare hne hsymbol =>
    cases cs with
    | nil => exact absurd rfl hne
    | cons c cs =>
      have hc := hsymbol c (List.mem_cons_self ..)
      exact ⟨c, cs, rfl, by simp [beginsOperator, hc], isBlank_of_isOperatorChar hc⟩
  | quoted hquote _ _ =>
    rcases hquote with rfl | rfl
    · exact ⟨_, _, rfl, by decide, by decide⟩
    · exact ⟨_, _, rfl, by decide, by decide⟩

theorem scanQuote_of_isOperatorChar (h : ∀ c ∈ cs.head?, isOperatorChar c = true) :
    scanQuote cs = (none, cs) := by
  unfold scanQuote
  split
  · exact absurd (h '\'' rfl) (by decide)
  · exact absurd (h '"' rfl) (by decide)
  · rfl

theorem readOperator_append {symbol : List Char} (hb : IsBlanks b) (h : IsOperator cs symbol)
    (hrest : Delimited rest) :
    readOperator (b ++ (cs ++ rest)) = .ok (.operator (String.ofList symbol), rest) := by
  obtain ⟨c, tail, hcs, -, hblank⟩ := h.head
  have hskip : skipBlanks (cs ++ rest) = cs ++ rest := by
    rw [hcs]
    exact skipBlanks_cons hblank
  simp only [readOperator, skipBlanks_append hb, hskip]
  cases h with
  | bare hne hsymbol =>
    have hhead : ∀ d ∈ (cs ++ rest).head?, isOperatorChar d = true := by
      rw [hcs]
      rintro d hd
      obtain rfl : c = d := Option.some.inj hd
      exact hsymbol c (by rw [hcs]; exact List.mem_cons_self ..)
    have hempty : cs.isEmpty = false := by simpa using hne
    rw [scanQuote_of_isOperatorChar hhead, takeWhile_append_of_stop hsymbol hrest.isOperatorChar,
      dropWhile_append_of_stop hsymbol hrest.isOperatorChar, hempty]
    rfl
  | @quoted quote symbol hquote hne hsymbol =>
    have hscan : scanQuote (quote :: (symbol ++ [quote]) ++ rest) =
        (some quote, symbol ++ quote :: rest) := by
      rw [List.cons_append, List.append_assoc, List.singleton_append]
      rcases hquote with rfl | rfl <;> rfl
    have hstop : ∀ d ∈ (quote :: rest).head?, isOperatorChar d = false := by
      intro d hd
      obtain rfl : quote = d := Option.some.inj hd
      rcases hquote with rfl | rfl <;> decide
    have hempty : symbol.isEmpty = false := by simpa using hne
    rw [hscan, takeWhile_append_of_stop hsymbol hstop, dropWhile_append_of_stop hsymbol hstop,
      hempty]
    simp

theorem scanQuote_cases (cs : List Char) :
    ((scanQuote cs).1 = none ∧ (scanQuote cs).2 = cs) ∨
      ∃ quote, (quote = '\'' ∨ quote = '"') ∧ (scanQuote cs).1 = some quote ∧
        cs = quote :: (scanQuote cs).2 := by
  unfold scanQuote
  split
  · exact .inr ⟨_, .inl rfl, rfl, rfl⟩
  · exact .inr ⟨_, .inr rfl, rfl, rfl⟩
  · exact .inl ⟨rfl, rfl⟩

theorem of_readOperator {p : Parameter} (h : readOperator cs = .ok (p, rest)) :
    ∃ b used symbol, cs = b ++ (used ++ rest) ∧ IsBlanks b ∧ IsOperator used symbol ∧
      p = .operator (String.ofList symbol) := by
  obtain ⟨b, hb, hcs⟩ := exists_blanks cs
  have hquote := scanQuote_cases (skipBlanks cs)
  simp only [readOperator] at h
  generalize hscan : scanQuote (skipBlanks cs) = scanned at h hquote
  obtain ⟨quote?, body⟩ := scanned
  have hsymbol : ∀ c ∈ body.takeWhile isOperatorChar, isOperatorChar c = true :=
    fun _ hc => List.mem_takeWhile_imp hc
  have hbody := List.takeWhile_append_dropWhile (p := isOperatorChar) (l := body)
  generalize body.takeWhile isOperatorChar = symbol at h hsymbol hbody
  generalize body.dropWhile isOperatorChar = after at h hbody
  dsimp only at h hquote
  split at h
  · cases h
  next hempty =>
  have hne : symbol ≠ [] := by simpa using hempty
  rcases hquote with ⟨rfl, rfl⟩ | ⟨quote, hq, rfl, hskip⟩
  · simp only [Except.ok.injEq, Prod.mk.injEq] at h
    obtain ⟨rfl, rfl⟩ := h
    exact ⟨b, symbol, symbol, by rw [hbody]; exact hcs, hb, .bare hne hsymbol, rfl⟩
  · dsimp only at h
    split at h
    · next hclose =>
      simp only [Except.ok.injEq, Prod.mk.injEq] at h
      obtain ⟨rfl, rfl⟩ := h
      refine ⟨b, quote :: (symbol ++ [quote]), symbol, ?_, hb, .quoted hq hne hsymbol, rfl⟩
      -- the quote that closes is the one that has opened
      cases after with
      | nil => cases hclose
      | cons d after =>
        obtain rfl : d = quote := Option.some.inj hclose
        rw [hcs, hskip, ← hbody]
        simp
    · cases h

end Metering.Notation
