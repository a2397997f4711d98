import CalcScript.Proofs.Statement.Grammar

/-!
# Refused programs

Reading stops at a token that fits nowhere. Up to there the tokens are whole clauses and the
beginning of one more, which some tokens would complete; the token itself goes with no beginning of
that kind. So a program is refused at the first token that no program can have in its place, and
what follows that token makes no difference.
-/
namespace CalcScript

/-- The beginning of a clause that the next token, or the end of the tokens, does not go with. -/
inductive Stuck : List Token → Option Token → ParseFault → Prop where
  | start {next : Token} (hkeyword : next.kind ∉ [.read, .display, .print])
      (hnext : next.kind ≠ .identifier) :
      Stuck [] (some next) (.identifierExpected (some next.kind))
  | keyword {keyword : Token} {next : Option Token}
      (hkeyword : keyword.kind ∈ [.read, .display, .print])
      (hnext : ∀ t ∈ next, t.kind ≠ .identifier) :
      Stuck [keyword] next (.identifierExpected (next.map Token.kind))
  | name {name : Token} {next : Option Token} (hname : name.kind = .identifier)
      (hnext : ∀ t ∈ next, t.kind ≠ .equal) : Stuck [name] next (.equalExpected name.lexeme)
  | equal {name equal : Token} {next : Option Token} (hname : name.kind = .identifier)
      (hequal : equal.kind = .equal) (hnext : ∀ t ∈ next, t.kind = .semicolon) :
      Stuck [name, equal] next (.expressionExpected name.lexeme)

/-! ### Refusals of one clause -/

namespace Statement
variable {first : Token} {tail : List Token}

theorem takeNamed_eq_error_iff {make : String → Statement} {ts : List Token} {r : Refusal} :
    takeNamed make ts = .error r ↔
      (∀ t ∈ ts.head?, t.kind ≠ .identifier) ∧
        ⟨.identifierExpected (ts.head?.map Token.kind), ts⟩ = r := by
  cases ts with
  | nil => simp [takeNamed, takeIdentifier]
  | cons t rest =>
    by_cases ht : t.kind = .identifier
    · simp [takeNamed, takeIdentifier, ht]
    · simp [takeNamed, takeIdentifier, ht]

theorem takeExpression_eq_error_iff {name : String} {ts : List Token} {r : Refusal} :
    takeExpression name ts = .error r ↔
      (∀ t ∈ ts.head?, t.kind = .semicolon) ∧ ⟨.expressionExpected name, ts⟩ = r := by
  cases ts with
  | nil => simp [takeExpression]
  | cons t rest =>
    by_cases ht : t.kind = .semicolon
    · simp [takeExpression, continues, ht]
    · simp [takeExpression, continues, ht]

theorem takeAssignment_of_not_identifier (h : first.kind ≠ .identifier) :
    takeAssignment (first :: tail) =
      .error ⟨.identifierExpected (some first.kind), first :: tail⟩ := by
  simp [takeAssignment, takeIdentifier, h]

theorem takeAssignment_of_not_equal (h : first.kind = .identifier)
    (htail : ∀ t ∈ tail.head?, t.kind ≠ .equal) :
    takeAssignment (first :: tail) = .error ⟨.equalExpected first.lexeme, tail⟩ := by
  cases tail with
  | nil => simp [takeAssignment, takeIdentifier, h]
  | cons t rest => simp [takeAssignment, takeIdentifier, h, htail t rfl]

theorem takeAssignment_of_equal (h : first.kind = .identifier) {equal : Token}
    (hequal : equal.kind = .equal) :
    takeAssignment (first :: equal :: tail) = takeExpression first.lexeme tail := by
  simp [takeAssignment, takeIdentifier, h, hequal]

theorem take_of_keyword (h : first.kind ∈ [.read, .display, .print]) :
    ∃ make, ∀ tail, take first tail = takeNamed make tail := by
  simp only [List.mem_cons, List.not_mem_nil, or_false] at h
  unfold take
  rcases h with hkind | hkind | hkind <;> rw [hkind] <;> exact ⟨_, fun _ => rfl⟩

theorem take_of_not_keyword (h : first.kind ∉ [.read, .display, .print]) (tail : List Token) :
    take first tail = takeAssignment (first :: tail) := by
  unfold take
  split
  · next hkind => simp [hkind] at h
  · next hkind => simp [hkind] at h
  · next hkind => simp [hkind] at h
  · rfl

/-- A clause is refused where its beginning is stuck. -/
theorem exists_stuck_of_take {r : Refusal} (h : take first tail = .error r) :
    ∃ opening, Stuck opening r.rest.head? r.fault ∧ opening ++ r.rest = first :: tail := by
  by_cases hkeyword : first.kind ∈ [.read, .display, .print]
  · obtain ⟨make, hmake⟩ := take_of_keyword hkeyword
    rw [hmake, takeNamed_eq_error_iff] at h
    obtain ⟨hnext, rfl⟩ := h
    exact ⟨[first], .keyword hkeyword hnext, rfl⟩
  rw [take_of_not_keyword hkeyword] at h
  by_cases hfirst : first.kind = .identifier
  · by_cases hnext : ∀ t ∈ tail.head?, t.kind ≠ .equal
    · rw [takeAssignment_of_not_equal hfirst hnext] at h
      cases h
      exact ⟨[first], .name hfirst hnext, rfl⟩
    · obtain ⟨equal, hhead, hequal⟩ : ∃ t ∈ tail.head?, t.kind = .equal := by
        simpa using hnext
      obtain ⟨rest, rfl⟩ := List.head?_eq_some_iff.mp hhead
      rw [takeAssignment_of_equal hfirst hequal, takeExpression_eq_error_iff] at h
      obtain ⟨hsemicolon, rfl⟩ := h
      exact ⟨[first, equal], .equal hfirst hequal hsemicolon, rfl⟩
  · rw [takeAssignment_of_not_identifier hfirst] at h
    cases h
    exact ⟨[], .start hkeyword hfirst, rfl⟩

/-- A stuck beginning is refused whatever follows. -/
theorem take_eq_error_of_stuck {opening rest : List Token} {fault : ParseFault}
    (h : Stuck opening rest.head? fault) (hts : opening ++ rest = first :: tail) :
    take first tail = .error ⟨fault, rest⟩ := by
  generalize hnext : rest.head? = next at h
  cases h with
  | @start next hkeyword hidentifier =>
    obtain ⟨more, rfl⟩ := List.head?_eq_some_iff.mp hnext
    obtain ⟨rfl, rfl⟩ := List.cons.inj hts
    rw [take_of_not_keyword hkeyword, takeAssignment_of_not_identifier hidentifier]
  | keyword hkeyword hidentifier =>
    obtain ⟨rfl, rfl⟩ := List.cons.inj hts
    obtain ⟨make, hmake⟩ := take_of_keyword hkeyword
    subst hnext
    rw [hmake]
    exact takeNamed_eq_error_iff.mpr ⟨hidentifier, rfl⟩
  | name hname hequal =>
    obtain ⟨rfl, rfl⟩ := List.cons.inj hts
    subst hnext
    rw [take_of_not_keyword (by simp [hname])]
    exact takeAssignment_of_not_equal hname hequal
  | equal hname hequal hsemicolon =>
    obtain ⟨rfl, rfl⟩ := List.cons.inj hts
    subst hnext
    rw [take_of_not_keyword (by simp [hname])]
    exact (takeAssignment_of_equal hname hequal).trans
      (takeExpression_eq_error_iff.mpr ⟨hsemicolon, rfl⟩)

end Statement

/-! ### What completes a beginning -/

theorem Phrase.Valid.takeAll_tokens {phrase : Phrase} (h : phrase.Valid) :
    Statement.takeAll phrase.tokens = .ok [phrase.statement] := by
  have hprogram : IsProgram [⟨phrase, none⟩] := by
    refine .cons ⟨h, ?_⟩ (fun _ _ => rfl) .nil
    simp
  simpa [Clause.tokens, Clause.statement] using hprogram.takeAll_eq_ok

/-- A stuck beginning is not itself at fault: other tokens would have completed it. -/
theorem Stuck.exists_completion {opening : List Token} {next : Option Token} {fault : ParseFault}
    (h : Stuck opening next fault) :
    ∃ more ss, Statement.takeAll (opening ++ more) = .ok ss := by
  let identifier : Token := ⟨.identifier, "x"⟩
  let number : Token := ⟨.number, "0"⟩
  cases h with
  | start hkeyword hnext => exact ⟨[], [], Statement.takeAll_nil⟩
  | @keyword keyword next hkeyword hnext =>
    have hvalid : (Phrase.read keyword identifier).Valid ∨
        (Phrase.display keyword identifier).Valid := by
      simpa [Phrase.Valid, identifier] using hkeyword
    rcases hvalid with hvalid | hvalid
    · exact ⟨[identifier], _, hvalid.takeAll_tokens⟩
    · exact ⟨[identifier], _, hvalid.takeAll_tokens⟩
  | @name name next hname hnext =>
    have hvalid : (Phrase.assign name ⟨.equal, "="⟩ [number]).Valid := by
      simp [Phrase.Valid, hname, number]
    exact ⟨[⟨.equal, "="⟩, number], _, hvalid.takeAll_tokens⟩
  | @equal name equal next hname hequal hnext =>
    have hvalid : (Phrase.assign name equal [number]).Valid := by
      simp [Phrase.Valid, hname, hequal, number]
    exact ⟨[number], _, hvalid.takeAll_tokens⟩

/-! ### Refusals of a program -/

theorem unclosed_of_takeAll {ts : List Token} {ss : List Statement}
    (h : Statement.takeAll ts = .ok ss) : Unclosed ts := by
  obtain ⟨cs, ⟨hcs, rfl⟩, -⟩ := exists_derives_of_takeAll h
  exact hcs.unclosed

theorem Clause.EndsBefore.of_unclosed {c : Clause} {rest other : List Token}
    (h : c.EndsBefore rest) (hrest : rest ≠ []) (hother : Unclosed rest → Unclosed other) :
    c.EndsBefore other :=
  ⟨fun hnone => hother (h.1 hnone), fun hassign hnone => absurd (h.2 hassign hnone) hrest⟩

/-- What a refusal says: the tokens before it have a completion, and with the token at it every
continuation is refused there. -/
theorem takeAll_error_cases {ts : List Token} {r : Statement.Refusal}
    (h : Statement.takeAll ts = .error r) :
    ∃ done, done ++ r.rest = ts ∧ (∃ more ss, Statement.takeAll (done ++ more) = .ok ss) ∧
      ∀ t ∈ r.rest.head?, ∀ more,
        Statement.takeAll (done ++ t :: more) = .error ⟨r.fault, t :: more⟩ := by
  induction ts using Statement.takeAll.induct with
  | case1 =>
    rw [Statement.takeAll_nil] at h
    cases h
  | case2 first tail refusal hrefusal =>
    rw [Statement.takeAll_error hrefusal] at h
    cases h
    obtain ⟨opening, hstuck, hts⟩ := Statement.exists_stuck_of_take hrefusal
    refine ⟨opening, hts, hstuck.exists_completion, fun t ht more => ?_⟩
    obtain ⟨first', tail', hmore⟩ :=
      List.exists_cons_of_ne_nil (List.append_ne_nil_of_right_ne_nil opening
        (List.cons_ne_nil t more))
    rw [Option.mem_def.mp ht] at hstuck
    rw [hmore]
    exact Statement.takeAll_error (Statement.take_eq_error_of_stuck hstuck hmore)
  | case3 first tail s rest htake ih =>
    rw [Statement.takeAll_ok htake] at h
    cases hrest : Statement.takeAll rest with
    | ok ss =>
      rw [hrest] at h
      cases h
    | error refusal =>
      rw [hrest] at h
      cases h
      obtain ⟨done, hdone, ⟨more, ss, hok⟩, herror⟩ := ih hrest
      obtain ⟨c, hc, hends, -, htokens⟩ := Statement.exists_clause_of_take htake
      have hne : rest ≠ [] := by
        rintro rfl
        rw [Statement.takeAll_nil] at hrest
        cases hrest
      refine ⟨c.tokens ++ done, by rw [List.append_assoc, hdone, htokens],
        ⟨more, c.statement :: ss, ?_⟩, fun t ht others => ?_⟩
      · have hends' := hends.of_unclosed hne fun _ => unclosed_of_takeAll hok
        rw [List.append_assoc, c.takeAll_append hc hends', hok]
        rfl
      · -- The tokens after the clause begin as they did, so the clause stops where it did.
        have hhead : (done ++ t :: others).head? = rest.head? := by
          rw [← hdone, List.head?_append, List.head?_append, Option.mem_def.mp ht]
          rfl
        have hends' : c.EndsBefore (done ++ t :: others) := by
          apply hends.of_unclosed hne
          intro hunclosed
          rwa [Unclosed, hhead]
        rw [List.append_assoc, c.takeAll_append hc hends', herror t ht others]
        rfl

theorem parse_eq_error_iff {ts : List Token} {e : ParseError} :
    parse ts = .error e ↔ ∃ r, Statement.takeAll ts = .error r ∧
      ⟨r.fault, ts, ts.length - r.rest.length⟩ = e := by
  unfold parse
  cases Statement.takeAll ts with
  | ok statements => simp
  | error refusal => simp

/-- A program is refused at the earliest token that can be told to be wrong. The tokens before it
are the beginning of some program, and so are all tokens where the fault is at their end; no
program begins with the tokens up to and with it, and every list that begins with them is refused
with the same fault at the same place. -/
theorem parse_error_earliest {ts : List Token} {e : ParseError} (h : parse ts = .error e) :
    e.index ≤ ts.length ∧
      (∃ us ss, ts.take e.index <+: us ∧ parse us = .ok ss) ∧
      (e.index < ts.length →
        ∀ us, ts.take (e.index + 1) <+: us → parse us = .error ⟨e.fault, us, e.index⟩) ∧
      (e.index = ts.length → ∃ us ss, ts <+: us ∧ parse us = .ok ss) := by
  obtain ⟨r, hr, rfl⟩ := parse_eq_error_iff.mp h
  obtain ⟨done, rfl, ⟨more, ss, hok⟩, herror⟩ := takeAll_error_cases hr
  have hindex : (done ++ r.rest).length - r.rest.length = done.length := by simp
  simp only [hindex, List.take_left]
  refine ⟨by simp, ⟨done ++ more, ss, List.prefix_append done more, parse_eq_ok_iff.mpr hok⟩, ?_,
    ?_⟩
  · rintro hlt us ⟨others, rfl⟩
    cases hrest : r.rest with
    | nil => simp [hrest] at hlt
    | cons t tail =>
      have htaken : (done ++ t :: tail).take (done.length + 1) = done ++ [t] := by
        rw [List.append_cons, List.take_left' (by simp)]
      rw [htaken, List.append_assoc, List.singleton_append, parse_eq_error_iff]
      refine ⟨_, herror t (by rw [hrest]; rfl) others, ?_⟩
      simp
  · intro hend
    have hnil : r.rest = [] := by simpa using hend
    rw [hnil, List.append_nil]
    exact ⟨done ++ more, ss, List.prefix_append done more, parse_eq_ok_iff.mpr hok⟩

/-- The second semicolon of `Read x;; x = 1` is where no program goes on. -/
theorem parse_error_earliest_semicolon :
    let ts : List Token := [⟨.read, "Read"⟩, ⟨.identifier, "x"⟩, ⟨.semicolon, ";"⟩,
      ⟨.semicolon, ";"⟩, ⟨.identifier, "x"⟩, ⟨.equal, "="⟩, ⟨.number, "1"⟩]
    let e : ParseError := ⟨.identifierExpected (some .semicolon), ts, 3⟩
    parse ts = .error e ∧
      (∃ us ss, ts.take 3 <+: us ∧ parse us = .ok ss) ∧
      ∀ us, ts.take 4 <+: us → parse us = .error ⟨e.fault, us, 3⟩ := by
  intro ts e
  have h : parse ts = .error e := by decide +kernel
  obtain ⟨-, hbefore, hat, -⟩ := parse_error_earliest h
  exact ⟨h, hbefore, hat (by decide)⟩

end CalcScript
