import Metering.Proofs.Notation.Parameters

/-! # Reading applications

Lists of parameters inherit from their parameters how they are read, and an application from its
list.  So every level of `readExpression` reads the applications of the grammar that are nested no
deeper, by induction on the levels, and a whole text is read as a formula of the grammar or not at
all.

* `readsCalls_readExpression` — the reader of every level;
* `parse_of_isFormula`, `parse_tooDeep`, `isFormula_of_parse` — reading a whole text.
-/

namespace Metering.Notation

open Text (isBlank skipBlanks)

variable {most levels : Nat} {nested : Reader Expression} {b cs rest : List Char}

/-! ## Lists of parameters -/

section Steps

variable {p : Parameter} {left : List Char}

/-- A list of parameters is read as its first one, and what stands behind that decides. -/
theorem readParameters_eq (nested : Reader Expression) (cs : List Char) :
    readParameters nested cs = do
      let (p, left) ← readParameter nested cs
      match skipBlanks left with
      | ')' :: rest => return ([p], rest)
      | _ => do
        let rest ← readChar ',' left
        let (ps, rest) ← readParameters nested rest
        return (p :: ps, rest) := by
  rw [readParameters]
  cases readParameter nested cs with
  | error stop => rfl
  | ok read =>
    dsimp only [bind, Except.bind]
    generalize skipBlanks read.2 = skipped
    split
    · rfl
    · -- the other side looks for the bracket once more, and there is none
      split
      · next comma => simp [comma]
      · next rest comma =>
        cases tail : readParameters nested rest <;> simp [comma, tail, pure, Except.pure]

theorem readParameters_of_error {stop : Stop} (h : readParameter nested cs = .error stop) :
    readParameters nested cs = .error stop := by
  rw [readParameters_eq, h]
  rfl

theorem readParameters_of_bracket (h : readParameter nested cs = .ok (p, left))
    (hleft : skipBlanks left = ')' :: rest) : readParameters nested cs = .ok ([p], rest) := by
  rw [readParameters_eq, h]
  simp [bind, Except.bind, hleft, pure, Except.pure]

theorem readParameters_of_comma (h : readParameter nested cs = .ok (p, left))
    (hleft : skipBlanks left = ',' :: rest) :
    readParameters nested cs =
      (readParameters nested rest).map fun read => (p :: read.1, read.2) := by
  have hcomma : readChar ',' left = .ok rest := by simp [readChar, hleft]
  rw [readParameters_eq, h]
  dsimp only [bind, Except.bind]
  rw [hcomma]
  split
  · next closed => cases hleft.symm.trans closed
  · dsimp only
    cases readParameters nested rest <;> rfl

end Steps

theorem IsBlanks.closes {c : Char} (hb : IsBlanks b) (hc : c = ',' ∨ c = ')') (cs : List Char) :
    Closes (b ++ c :: cs) :=
  .intro hb hc

/-- Parameters up to the closing bracket are read in order. -/
theorem readParameters_append {p : Parameter} {ps : List Parameter} {b' : List Char}
    (hnested : ReadsCalls most levels nested) (hb : IsBlanks b) (h : IsParameters cs (p :: ps))
    (hdepth : deepest (p :: ps) ≤ levels) (hb' : IsBlanks b') (rest : List Char) :
    readParameters nested (b ++ (cs ++ (b' ++ ')' :: rest))) = .ok (p :: ps, rest) := by
  induction ps generalizing p b cs with
  | nil =>
    cases h with
    | one hp =>
      obtain ⟨left, hread, hleft⟩ := readParameter_append hnested hb hp
        (by simpa [deepest] using hdepth) (hb'.closes (.inr rfl) rest)
      rw [skipBlanks_append hb', skipBlanks_cons (by decide)] at hleft
      exact readParameters_of_bracket hread hleft
  | cons q ps ih =>
    cases h with
    | @more cs b₁ b₂ ds _ _ _ hp hb₁ hb₂ hqs =>
      rw [deepest, Nat.max_le] at hdepth
      simp only [List.append_assoc, List.cons_append]
      obtain ⟨left, hread, hleft⟩ := readParameter_append hnested hb hp hdepth.1
        (hb₁.closes (.inl rfl) (b₂ ++ (ds ++ (b' ++ ')' :: rest))))
      rw [skipBlanks_append hb₁, skipBlanks_cons (by decide)] at hleft
      rw [readParameters_of_comma hread hleft, ih hb₂ hqs hdepth.2]
      rfl

/-- The first parameter that is nested too deep is met before anything behind it. -/
theorem readParameters_tooDeep {ps : List Parameter} (hnested : ReadsCalls most levels nested)
    (hb : IsBlanks b) (h : IsParameters cs ps) (hdepth : levels < deepest ps)
    (b' rest : List Char) :
    ∃ stop, readParameters nested (b ++ (cs ++ (b' ++ ')' :: rest))) = .error stop ∧
      stop.fault = .tooDeep most := by
  induction ps generalizing b cs with
  | nil => exact absurd hdepth (Nat.not_lt_zero _)
  | cons p ps ih =>
    -- a failure of the first parameter is one of the list
    have hfirst : ∀ {cs tail : List Char}, IsParameter cs p → levels < p.depth →
        ∃ stop, readParameters nested (b ++ (cs ++ tail)) = .error stop ∧
          stop.fault = .tooDeep most := by
      intro cs tail hp hdeep
      obtain ⟨stop, hread, hfault⟩ := readParameter_tooDeep hnested hb hp hdeep tail
      exact ⟨stop, readParameters_of_error hread, hfault⟩
    cases h with
    | one hp => exact hfirst hp (by simpa [deepest] using hdepth)
    | @more cs b₁ b₂ ds _ q qs hp hb₁ hb₂ hqs =>
      simp only [List.append_assoc, List.cons_append]
      by_cases hdeep : levels < p.depth
      · exact hfirst hp hdeep
      · obtain ⟨left, hread, hleft⟩ := readParameter_append hnested hb hp (Nat.not_lt.1 hdeep)
          (hb₁.closes (.inl rfl) (b₂ ++ (ds ++ (b' ++ ')' :: rest))))
        rw [deepest, lt_max_iff] at hdepth
        obtain ⟨stop, hread', hfault⟩ := ih hb₂ hqs (hdepth.resolve_left hdeep)
        refine ⟨stop, ?_, hfault⟩
        rw [skipBlanks_append hb₁, skipBlanks_cons (by decide)] at hleft
        rw [readParameters_of_comma hread hleft, hread']
        rfl

/-- Whatever is read up to a closing bracket are parameters. -/
theorem of_readParameters {ps : List Parameter} (hnested : ReadsCalls most levels nested)
    (h : readParameters nested cs = .ok (ps, rest)) :
    ∃ b used b', cs = b ++ (used ++ (b' ++ ')' :: rest)) ∧ IsBlanks b ∧ IsParameters used ps ∧
      IsBlanks b' ∧ deepest ps ≤ levels ∧ ps ≠ [] := by
  fun_induction readParameters nested cs generalizing ps rest with
  | case1 => cases h
  | case2 cs p after hp tail hskip =>
    simp only [Except.ok.injEq, Prod.mk.injEq] at h
    obtain ⟨rfl, rfl⟩ := h
    obtain ⟨b, used, b', rfl, hb, hused, hb', hdepth⟩ := of_readParameter hnested hp
    obtain ⟨b₁, hb₁, hafter⟩ := exists_blanks after
    refine ⟨b, used, b' ++ b₁, ?_, hb, .one hused, hb'.append hb₁,
      by simpa [deepest] using hdepth, by simp⟩
    rw [hafter, hskip, List.append_assoc]
  | case3 => cases h
  | case4 => cases h
  | case5 cs p after hp after' hc ps' tail hr _ ih =>
    simp only [Except.ok.injEq, Prod.mk.injEq] at h
    obtain ⟨rfl, rfl⟩ := h
    obtain ⟨b, used, b', rfl, hb, hused, hb', hdepth⟩ := of_readParameter hnested hp
    obtain ⟨b₁, hb₁, rfl⟩ := of_readChar hc
    obtain ⟨b₂, used', b₃, rfl, hb₂, hused', hb₃, hdepth', hne⟩ := ih hr
    -- parameters stand behind every comma
    obtain ⟨q, qs, rfl⟩ := List.exists_cons_of_ne_nil hne
    refine ⟨b, used ++ ((b' ++ b₁) ++ ',' :: (b₂ ++ used')), b₃, ?_, hb,
      .more hused (hb'.append hb₁) hb₂ hused', hb₃, ?_, by simp⟩
    · simp
    · rw [deepest]
      exact Nat.max_le.2 ⟨hdepth, hdepth'⟩

/-! ## Applications -/

section Call

variable {name b' tail : List Char}

theorem readCall_of_bracket (hb : IsBlanks b) (hname : IsName name) (hb' : IsBlanks b')
    (htail : skipBlanks tail = ')' :: rest) :
    readCall nested (b ++ (name ++ (b' ++ '(' :: tail))) =
      .ok (⟨.ofName (String.ofList name), [], none⟩, rest) := by
  rw [readCall, readName_append hb hname (hb'.delimited (by decide) _)]
  dsimp only [bind, Except.bind]
  rw [readChar_append hb' (by decide)]
  dsimp only
  split
  · next hskip =>
    rw [htail] at hskip
    cases hskip
    rfl
  · next hskip => exact absurd htail (hskip rest)

theorem readCall_of_parameters (hb : IsBlanks b) (hname : IsName name) (hb' : IsBlanks b')
    (htail : skipBlanks tail = cs) (hhead : cs.head? ≠ some ')') :
    readCall nested (b ++ (name ++ (b' ++ '(' :: tail))) =
      (readParameters nested cs).map fun read =>
        (⟨.ofName (String.ofList name), read.1, none⟩, read.2) := by
  rw [readCall, readName_append hb hname (hb'.delimited (by decide) _)]
  dsimp only [bind, Except.bind]
  rw [readChar_append hb' (by decide)]
  dsimp only
  rw [htail]
  split
  · exact absurd rfl hhead
  · cases readParameters nested cs <;> rfl

end Call

theorem IsCall.head {e : Expression} (h : IsCall cs e) :
    ∃ c tail, cs = c :: tail ∧ isNameStart c = true := by
  cases h with
  | intro hname =>
    obtain ⟨c, tail, rfl, hc⟩ := hname.head
    exact ⟨c, _, rfl, hc⟩

theorem IsParameter.head {p : Parameter} (h : IsParameter cs p) :
    ∃ c tail, cs = c :: tail ∧ isBlank c = false ∧ c ≠ ')' := by
  have hofName : ∀ {c : Char}, isNameStart c = true → isBlank c = false ∧ c ≠ ')' := by
    intro c hc
    refine ⟨isBlank_of_isNameChar (isNameChar_of_isNameStart hc), ?_⟩
    rintro rfl
    revert hc
    decide
  cases h with
  | operator hoperator =>
    obtain ⟨c, tail, rfl, hc, hblank⟩ := hoperator.head
    refine ⟨c, tail, rfl, hblank, ?_⟩
    rintro rfl
    revert hc
    decide
  | negated => exact ⟨'-', _, rfl, by decide, by decide⟩
  | constant hnumber | multiple hnumber =>
    obtain ⟨c, tail, rfl, -, hc, -, hblank⟩ := hnumber.head []
    refine ⟨c, _, rfl, hblank, ?_⟩
    rintro rfl
    revert hc
    decide
  | series hname =>
    obtain ⟨c, tail, rfl, hc⟩ := hname.head
    exact ⟨c, _, rfl, hofName hc⟩
  | call hcall =>
    obtain ⟨c, tail, rfl, hc⟩ := hcall.head
    exact ⟨c, tail, rfl, hofName hc⟩

theorem IsParameters.head {p : Parameter} {ps : List Parameter} (h : IsParameters cs (p :: ps)) :
    ∃ c tail, cs = c :: tail ∧ isBlank c = false ∧ c ≠ ')' := by
  cases h with
  | one hp => exact hp.head
  | more hp =>
    obtain ⟨c, tail, rfl, hc⟩ := hp.head
    exact ⟨c, _, rfl, hc⟩

/-- The blanks before the first parameter are skipped, and the parameters are read. -/
theorem readCall_of_isParameters {name b₁ b₂ : List Char} {p : Parameter} {ps : List Parameter}
    (hb : IsBlanks b) (hname : IsName name) (hb₁ : IsBlanks b₁) (hb₂ : IsBlanks b₂)
    (h : IsParameters cs (p :: ps)) :
    readCall nested (b ++ (name ++ (b₁ ++ '(' :: (b₂ ++ (cs ++ rest))))) =
      (readParameters nested (cs ++ rest)).map fun read =>
        (⟨.ofName (String.ofList name), read.1, none⟩, read.2) := by
  obtain ⟨c, tail, rfl, hblank, hbracket⟩ := h.head
  refine readCall_of_parameters hb hname hb₁ ?_ (by simpa using hbracket)
  rw [skipBlanks_append hb₂]
  exact skipBlanks_cons hblank

theorem readCall_append {e : Expression} (hnested : ReadsCalls most levels nested)
    (hb : IsBlanks b) (h : IsCall cs e) (hdepth : e.depth ≤ levels + 1) :
    readCall nested (b ++ (cs ++ rest)) = .ok (e, rest) := by
  cases h with
  | @intro name b₁ b₂ ds b₃ ps hname hb₁ hb₂ hps hb₃ =>
    simp only [List.append_assoc, List.cons_append, List.nil_append]
    -- a list of parameters is read only if the bracket does not close at once
    cases ps with
    | nil =>
      cases hps with
      | none =>
        refine readCall_of_bracket hb hname hb₁ ?_
        rw [List.nil_append, skipBlanks_append hb₂, skipBlanks_append hb₃,
          skipBlanks_cons (by decide)]
    | cons p ps =>
      have hdeepest : deepest (p :: ps) ≤ levels := by
        change 1 + deepest (p :: ps) ≤ levels + 1 at hdepth
        omega
      have hread := readParameters_append hnested isBlanks_nil hps hdeepest hb₃ rest
      rw [List.nil_append] at hread
      rw [readCall_of_isParameters hb hname hb₁ hb₂ hps, hread]
      rfl

theorem readCall_tooDeep {e : Expression} (hnested : ReadsCalls most levels nested)
    (hb : IsBlanks b) (h : IsCall cs e) (hdepth : levels + 1 < e.depth) :
    ∃ stop, readCall nested (b ++ (cs ++ rest)) = .error stop ∧ stop.fault = .tooDeep most := by
  cases h with
  | @intro name b₁ b₂ ds b₃ ps hname hb₁ hb₂ hps hb₃ =>
    have hdeepest : levels < deepest ps := by
      change levels + 1 < 1 + deepest ps at hdepth
      omega
    simp only [List.append_assoc, List.cons_append, List.nil_append]
    cases ps with
    | nil => exact absurd hdeepest (Nat.not_lt_zero _)
    | cons p ps =>
      obtain ⟨stop, hread, hfault⟩ :=
        readParameters_tooDeep hnested isBlanks_nil hps hdeepest b₃ rest
      rw [List.nil_append] at hread
      refine ⟨stop, ?_, hfault⟩
      rw [readCall_of_isParameters hb hname hb₁ hb₂ hps, hread]
      rfl

/-- Whatever is read as an application is one, up to blanks before it. -/
theorem of_readCall {e : Expression} (hnested : ReadsCalls most levels nested)
    (h : readCall nested cs = .ok (e, rest)) :
    e.depth ≤ levels + 1 ∧ ∃ b used, cs = b ++ (used ++ rest) ∧ IsBlanks b ∧ IsCall used e := by
  simp only [readCall, bind, Except.bind, pure, Except.pure] at h
  split at h
  · cases h
  next named hn =>
  obtain ⟨b, name, rfl, hb, hname, hnamed⟩ := of_readName hn
  rw [hnamed] at h
  split at h
  · cases h
  next after hc =>
  obtain ⟨b₁, hb₁, hafter⟩ := of_readChar hc
  obtain ⟨b₂, hb₂, hskipped⟩ := exists_blanks after
  rw [hafter]
  split at h
  · next hskip =>
    simp only [Except.ok.injEq, Prod.mk.injEq] at h
    obtain ⟨rfl, rfl⟩ := h
    rw [hskip] at hskipped
    refine ⟨Nat.le_add_left 1 levels, b, _, ?_, hb,
      .intro hname hb₁ hb₂ .none isBlanks_nil⟩
    rw [hskipped]
    simp
  · split at h
    · cases h
    next read hp =>
    simp only [Except.ok.injEq, Prod.mk.injEq] at h
    obtain ⟨rfl, rfl⟩ := h
    obtain ⟨b₃, used, b₄, heq, hb₃, hused, hb₄, hdepth, -⟩ := of_readParameters hnested hp
    refine ⟨?_, b, _, ?_, hb, .intro hname hb₁ (hb₂.append hb₃) hused hb₄⟩
    · change 1 + deepest read.1 ≤ levels + 1
      omega
    · rw [hskipped, heq]
      simp

/-! ## Levels -/

theorem depth_pos (e : Expression) : 0 < e.depth := by
  rw [Expression.depth]
  omega

/-- Every level reads the applications that are nested no deeper. -/
theorem readsCalls_readExpression (most levels : Nat) :
    ReadsCalls most levels (readExpression most levels) := by
  induction levels with
  | zero =>
    -- every application takes a level, so none is read without levels
    refine ⟨fun rest _ _ hdepth => ?_, fun rest _ _ _ => ?_, fun h => ?_⟩
    · exact absurd (depth_pos _) (Nat.not_lt.2 hdepth)
    · exact ⟨_, rfl, rfl⟩
    · cases h
  | succ levels ih =>
    refine ⟨fun rest hb h hdepth => ?_, fun rest hb h hdepth => ?_, fun h => ?_⟩
    · exact readCall_append ih hb h hdepth
    · exact readCall_tooDeep ih hb h hdepth
    · exact of_readCall ih h

/-! ## Whole texts -/

section Whole

variable {text : String} {e : Expression}

theorem parse_of_isFormula (h : IsFormula text.toList e) (hdepth : e.depth ≤ most) :
    parse most text = .ok e := by
  generalize htext : text.toList = cs at h
  cases h with
  | @intro b used b' e hb hcall hb' =>
    have hread := (readsCalls_readExpression most most).complete b' hb hcall hdepth
    -- only blanks are left, so no text trails
    have hend : skipBlanks b' = [] := by
      rw [← List.append_nil b', skipBlanks_append hb']
      rfl
    rw [parse, htext, readWhole, hread]
    dsimp only [bind, Except.bind]
    rw [hend]
    rfl

theorem parse_tooDeep (h : IsFormula text.toList e) (hdepth : most < e.depth) :
    ∃ position, parse most text = .error ⟨.tooDeep most, position⟩ := by
  generalize htext : text.toList = cs at h
  cases h with
  | @intro b used b' e hb hcall hb' =>
    obtain ⟨stop, hread, hfault⟩ :=
      (readsCalls_readExpression most most).tooDeep b' hb hcall hdepth
    refine ⟨byteLength text.toList - byteLength stop.rest, ?_⟩
    rw [parse, htext, readWhole, hread, ← hfault]
    rfl

theorem isFormula_of_parse (h : parse most text = .ok e) :
    IsFormula text.toList e ∧ e.depth ≤ most := by
  rw [parse] at h
  split at h
  · next hwhole =>
    cases h
    rw [readWhole] at hwhole
    cases hread : (readExpression most most).read text.toList with
    | error stop =>
      rw [hread] at hwhole
      cases hwhole
    | ok read =>
      obtain ⟨e', rest⟩ := read
      rw [hread] at hwhole
      dsimp only [bind, Except.bind] at hwhole
      split at hwhole
      · next hskip =>
        cases hwhole
        obtain ⟨hdepth, b, used, htext, hb, hused⟩ :=
          (readsCalls_readExpression most most).sound hread
        -- nothing but blanks has been left
        obtain ⟨b', hb', hrest⟩ := exists_blanks rest
        rw [hskip, List.append_nil] at hrest
        rw [htext, hrest]
        exact ⟨.intro hb hused hb', hdepth⟩
      · cases hwhole
  · cases h

end Whole

/-- A text is parsed just if it is a formula of the grammar that is nested no deeper than the limit,
and it is a formula in at most one way. -/
theorem parse_accepts_grammar (text : String) :
    (∀ (most : Nat) (e : Expression),
      parse most text = .ok e ↔ IsFormula text.toList e ∧ e.depth ≤ most) ∧
    {e | IsFormula text.toList e}.Subsingleton := by
  refine ⟨fun most e => ⟨isFormula_of_parse, fun h => parse_of_isFormula h.1 h.2⟩, ?_⟩
  intro e he e' he'
  -- with levels for both readings, the text is parsed as either
  have hparse := parse_of_isFormula he (Nat.le_max_left e.depth e'.depth)
  have hparse' := parse_of_isFormula he' (Nat.le_max_right e.depth e'.depth)
  rw [hparse] at hparse'
  exact Except.ok.inj hparse'

end Metering.Notation
