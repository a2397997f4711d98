import CalcScript.Proofs.Statement.Refusals

/-!
# Programs one after the other

A program that ends with a semicolon ends whatever follows it: its clauses are read as they stand,
and the tokens after it are read as if they stood alone. Where these are refused, the refusal is the
one they get alone, and only its place moves.
-/
namespace CalcScript

/-- The tokens are none, or end with a semicolon. -/
def Closed (ts : List Token) : Prop :=
  ∀ t ∈ ts.getLast?, t.kind = .semicolon

theorem closed_iff {ts : List Token} :
    Closed ts ↔ ts = [] ∨ ∃ t, ts.getLast? = some t ∧ t.kind = .semicolon := by
  unfold Closed
  cases hlast : ts.getLast? with
  | none => simp [List.getLast?_eq_none_iff.mp hlast]
  | some t =>
    have hne : ts ≠ [] := by
      rintro rfl
      cases hlast
    simp [hne]

theorem Clause.terminator_ne_none {c : Clause} (hc : c.Valid) (hclosed : Closed c.tokens) :
    c.terminator ≠ none := by
  obtain ⟨phrase, terminator⟩ := c
  obtain ⟨hphrase, -⟩ := hc
  rintro rfl
  cases phrase with
  | read keyword name =>
    have hkind := hclosed name rfl
    rw [hphrase.2] at hkind
    cases hkind
  | display keyword name =>
    have hkind := hclosed name rfl
    rw [hphrase.2] at hkind
    cases hkind
  | assign name equal expression =>
    obtain ⟨-, -, hne, hfree⟩ := hphrase
    refine hfree (expression.getLast hne) (List.getLast_mem hne) (hclosed _ ?_)
    simp [tokens, Phrase.tokens, List.getLast?_cons, List.getLast?_eq_some_getLast hne]

theorem getLast?_flatMap_tokens {cs : List Clause} {c : Clause} (h : c ∈ cs.getLast?) :
    (cs.flatMap Clause.tokens).getLast? = c.tokens.getLast? := by
  obtain ⟨init, rfl⟩ := List.getLast?_eq_some_iff.mp h
  obtain ⟨t, ht⟩ := c.exists_getLast?_tokens
  rw [List.flatMap_append, List.flatMap_singleton, List.getLast?_append, ht, Option.some_or]

/-- A clause before others that closes itself, or is no assignment, is read up to its end. -/
theorem IsProgram.endsBefore_append {c : Clause} {cs : List Clause} (h : IsProgram (c :: cs))
    (hclosed : cs = [] → c.terminator ≠ none) (ts : List Token) :
    c.EndsBefore (cs.flatMap Clause.tokens ++ ts) := by
  cases h with
  | cons hc hlast hcs =>
    constructor
    · intro hnone
      cases cs with
      | nil => exact absurd hnone (hclosed rfl)
      | cons d ds =>
        obtain ⟨first, tail, htokens⟩ := d.exists_tokens_eq_cons ds
        have hunclosed := hcs.unclosed
        rw [htokens] at hunclosed ⊢
        exact hunclosed
    · intro hassign hnone
      exact absurd hnone (hclosed (hlast hassign hnone))

theorem IsProgram.takeAll_append {cs : List Clause} (h : IsProgram cs)
    (hclosed : ∀ c ∈ cs.getLast?, c.terminator ≠ none) (ts : List Token) :
    Statement.takeAll (cs.flatMap Clause.tokens ++ ts) =
      (Statement.takeAll ts).map (cs.map Clause.statement ++ ·) := by
  induction cs with
  | nil =>
    cases hts : Statement.takeAll ts <;> simp [hts, Except.map]
  | cons c cs ih =>
    obtain ⟨hc, -, hcs⟩ := h.endsBefore
    have hends := h.endsBefore_append (fun hnil => hclosed c (by rw [hnil]; rfl)) ts
    have hrest : ∀ d ∈ cs.getLast?, d.terminator ≠ none := by
      intro d hd
      exact hclosed d (by rw [List.getLast?_cons, Option.mem_def.mp hd]; rfl)
    rw [List.flatMap_cons, List.append_assoc, c.takeAll_append hc hends, ih hcs hrest]
    cases Statement.takeAll ts <;> rfl

/-- What follows a closed program is read by itself. -/
theorem takeAll_append {ts : List Token} {ss : List Statement}
    (h : Statement.takeAll ts = .ok ss) (hclosed : Closed ts) (more : List Token) :
    Statement.takeAll (ts ++ more) = (Statement.takeAll more).map (ss ++ ·) := by
  obtain ⟨cs, ⟨hcs, rfl⟩, rfl⟩ := exists_derives_of_takeAll h
  refine hcs.takeAll_append (fun c hc => ?_) more
  have hvalid := hcs.valid_of_mem (List.mem_of_getLast? hc)
  refine Clause.terminator_ne_none hvalid ?_
  rwa [Closed, ← getLast?_flatMap_tokens hc]

theorem parse_flatMap {α : Type} {l : List α} {tokens : α → List Token}
    {program : α → List Statement}
    (h : ∀ a ∈ l, parse (tokens a) = .ok (program a) ∧ Closed (tokens a)) :
    parse (l.flatMap tokens) = .ok (l.flatMap program) := by
  rw [parse_eq_ok_iff]
  induction l with
  | nil => exact Statement.takeAll_nil
  | cons a rest ih =>
    obtain ⟨⟨hparse, hclosed⟩, hrest⟩ := List.forall_mem_cons.mp h
    rw [List.flatMap_cons, takeAll_append (parse_eq_ok_iff.mp hparse) hclosed, ih hrest]
    rfl

/-- What follows a closed program is read as if it stood alone: its statements come after those of
the program, and a refusal has the same fault, as many tokens further on as the program has. -/
theorem parse_append_closed {ts us : List Token}
    (h : ts = [] ∨ (∃ ss, parse ts = .ok ss) ∧ ∃ t, ts.getLast? = some t ∧ t.kind = .semicolon) :
    ∃ ss, parse ts = .ok ss ∧
      (∀ more, parse us = .ok more → parse (ts ++ us) = .ok (ss ++ more)) ∧
      ∀ e, parse us = .error e →
        parse (ts ++ us) = .error ⟨e.fault, ts ++ us, ts.length + e.index⟩ := by
  have hclosed : Closed ts := closed_iff.mpr (h.imp_right And.right)
  have hparse : ∃ ss, parse ts = .ok ss := by
    rcases h with rfl | ⟨hparse, -⟩
    · exact ⟨[], parse_eq_ok_iff.mpr Statement.takeAll_nil⟩
    · exact hparse
  obtain ⟨ss, hss⟩ := hparse
  have happend := takeAll_append (parse_eq_ok_iff.mp hss) hclosed us
  refine ⟨ss, hss, fun more hmore => ?_, fun e he => ?_⟩
  · rw [parse_eq_ok_iff] at hmore ⊢
    rw [happend, hmore]
    rfl
  · obtain ⟨r, hr, rfl⟩ := parse_eq_error_iff.mp he
    obtain ⟨done, rfl, -⟩ := takeAll_error_cases hr
    rw [parse_eq_error_iff]
    refine ⟨r, by rw [happend, hr]; rfl, ?_⟩
    -- The tokens from the fault on are the last ones of both lists.
    have hindex : (ts ++ (done ++ r.rest)).length - r.rest.length =
        ts.length + ((done ++ r.rest).length - r.rest.length) := by
      simp only [List.length_append]
      omega
    rw [hindex]

/-- After `x = 1 + 2;` the tokens `Read y; z` are refused at their end, six tokens further on. -/
theorem parse_append_closed_refused :
    let ts : List Token := [⟨.identifier, "x"⟩, ⟨.equal, "="⟩, ⟨.number, "1"⟩, ⟨.plus, "+"⟩,
      ⟨.number, "2"⟩, ⟨.semicolon, ";"⟩]
    let us : List Token := [⟨.read, "Read"⟩, ⟨.identifier, "y"⟩, ⟨.semicolon, ";"⟩,
      ⟨.identifier, "z"⟩]
    parse us = .error ⟨.equalExpected "z", us, 4⟩ ∧
      parse (ts ++ us) = .error ⟨.equalExpected "z", ts ++ us, 10⟩ := by
  intro ts us
  have hts : parse ts = .ok [.assign "x" [⟨.number, "1"⟩, ⟨.plus, "+"⟩, ⟨.number, "2"⟩]] := by
    decide +kernel
  have hus : parse us = .error ⟨.equalExpected "z", us, 4⟩ := by decide +kernel
  obtain ⟨ss, -, -, herror⟩ :=
    @parse_append_closed ts us (.inr ⟨⟨_, hts⟩, ⟨.semicolon, ";"⟩, rfl, rfl⟩)
  exact ⟨hus, herror _ hus⟩

end CalcScript
