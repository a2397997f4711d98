import CalcScript.Statement.Parse
import CalcScript.Proofs.Span

/-!
# Program grammar

A program is a sequence of clauses, each a statement written out in tokens with an optional
semicolon. A declaration or display is a keyword and an identifier; an assignment is an identifier,
an equals sign and an expression without semicolons, and it may drop its own semicolon only at the
end of the program. Reading a token list succeeds exactly on the programs of this grammar, and a
token list is the spelling of at most one of them.
-/
namespace CalcScript

/-- A statement in tokens, without its semicolon. -/
inductive Phrase where
  | read (keyword name : Token)
  | display (keyword name : Token)
  | assign (name equal : Token) (expression : List Token)

namespace Phrase

def tokens : Phrase → List Token
  | .read keyword name => [keyword, name]
  | .display keyword name => [keyword, name]
  | .assign name equal expression => name :: equal :: expression

def statement : Phrase → Statement
  | .read _ name => .read name.lexeme
  | .display keyword name => .display name.lexeme keyword.lexeme
  | .assign name _ expression => .assign name.lexeme expression

/-- Each token has the kind that its place asks for. -/
def Valid : Phrase → Prop
  | .read keyword name => keyword.kind = .read ∧ name.kind = .identifier
  | .display keyword name =>
    (keyword.kind = .display ∨ keyword.kind = .print) ∧ name.kind = .identifier
  | .assign name equal expression =>
    name.kind = .identifier ∧ equal.kind = .equal ∧ expression ≠ [] ∧
      ∀ t ∈ expression, t.kind ≠ .semicolon

/-- Only the expression of an assignment goes on until a semicolon. -/
def IsAssignment : Phrase → Prop
  | .assign _ _ _ => True
  | _ => False

end Phrase

/-- A phrase with its semicolon, if it has one. -/
structure Clause where
  phrase : Phrase
  terminator : Option Token

namespace Clause

def tokens (c : Clause) : List Token :=
  c.phrase.tokens ++ c.terminator.toList

def statement (c : Clause) : Statement :=
  c.phrase.statement

/-- A valid phrase, closed by a semicolon or by nothing. -/
def Valid (c : Clause) : Prop :=
  c.phrase.Valid ∧ ∀ t ∈ c.terminator, t.kind = .semicolon

end Clause

/-- Valid clauses in order; an assignment without semicolon is the last one. -/
inductive IsProgram : List Clause → Prop where
  | nil : IsProgram []
  | cons {c : Clause} {cs : List Clause} (hc : c.Valid)
      (hlast : c.phrase.IsAssignment → c.terminator = none → cs = []) (hcs : IsProgram cs) :
      IsProgram (c :: cs)

/-- The clauses are a program that the tokens spell. -/
def Derives (cs : List Clause) (ts : List Token) : Prop :=
  IsProgram cs ∧ cs.flatMap Clause.tokens = ts

/-! ### Reading one clause -/

def Unclosed (rest : List Token) : Prop :=
  ∀ t ∈ rest.head?, t.kind ≠ .semicolon

/-- The optional semicolon before `rest` is one, and is left out only where none follows. -/
def Closes (terminator : Option Token) (rest : List Token) : Prop :=
  (∀ t ∈ terminator, t.kind = .semicolon) ∧ (terminator = none → Unclosed rest)

/-- Reading a clause stops before `rest`. -/
def Clause.EndsBefore (c : Clause) (rest : List Token) : Prop :=
  (c.terminator = none → Unclosed rest) ∧
    (c.phrase.IsAssignment → c.terminator = none → rest = [])

namespace Statement

theorem continues_iff {t : Token} : continues t = true ↔ t.kind ≠ .semicolon := by
  simp [continues]

theorem dropTerminator_eq_iff {ts rest : List Token} :
    dropTerminator ts = rest ↔
      ∃ terminator, Closes terminator rest ∧ terminator.toList ++ rest = ts := by
  constructor
  · rintro rfl
    cases ts with
    | nil => exact ⟨none, ⟨by simp, fun _ => by simp [dropTerminator, Unclosed]⟩, rfl⟩
    | cons t tail =>
      simp only [dropTerminator]
      split_ifs with ht
      · refine ⟨none, ⟨by simp, fun _ => ?_⟩, rfl⟩
        simpa [Unclosed] using continues_iff.mp ht
      · refine ⟨some t, ⟨?_, by simp⟩, rfl⟩
        rw [continues_iff, not_not] at ht
        simpa using ht
  · rintro ⟨terminator, ⟨hkind, hnone⟩, rfl⟩
    cases terminator with
    | none =>
      cases rest with
      | nil => rfl
      | cons t tail => exact if_pos (continues_iff.mpr (hnone rfl t rfl))
    | some t =>
      have ht : ¬ continues t = true := by
        rw [continues_iff, not_not]
        exact hkind t rfl
      exact if_neg ht

theorem takeIdentifier_eq_ok_iff {ts rest : List Token} {name : String} :
    takeIdentifier ts = .ok (name, rest) ↔
      ∃ t, t.kind = .identifier ∧ t.lexeme = name ∧ t :: rest = ts := by
  constructor
  · intro h
    cases ts with
    | nil => cases h
    | cons t tail =>
      simp only [takeIdentifier] at h
      split_ifs at h with ht
      cases h
      exact ⟨t, ht, rfl, rfl⟩
  · rintro ⟨t, ht, rfl, rfl⟩
    exact if_pos ht

theorem takeNamed_eq_ok_iff {make : String → Statement} {ts rest : List Token} {s : Statement} :
    takeNamed make ts = .ok (s, rest) ↔
      ∃ name terminator, name.kind = .identifier ∧ Closes terminator rest ∧
        make name.lexeme = s ∧ name :: (terminator.toList ++ rest) = ts := by
  unfold takeNamed
  constructor
  · intro h
    split at h
    · cases h
    · next lexeme tail hname =>
      cases h
      obtain ⟨name, hkind, rfl, rfl⟩ := takeIdentifier_eq_ok_iff.mp hname
      obtain ⟨terminator, hcloses, htail⟩ :=
        dropTerminator_eq_iff.mp (Eq.refl (dropTerminator tail))
      exact ⟨name, terminator, hkind, hcloses, rfl, by rw [htail]⟩
  · rintro ⟨name, terminator, hkind, hcloses, rfl, rfl⟩
    rw [takeIdentifier_eq_ok_iff.mpr ⟨name, hkind, rfl, rfl⟩]
    dsimp only
    rw [dropTerminator_eq_iff.mpr ⟨terminator, hcloses, rfl⟩]

theorem eq_nil_of_avoids_continues {ts : List Token} (h : Avoids continues ts)
    (hunclosed : Unclosed ts) : ts = [] := by
  cases ts with
  | nil => rfl
  | cons t tail =>
    have ht := continues_iff.mpr (hunclosed t rfl)
    rw [avoids_cons_iff.mp h] at ht
    exact absurd ht Bool.false_ne_true

theorem avoids_continues {terminator : Option Token} {rest : List Token}
    (hcloses : Closes terminator rest) (hend : terminator = none → rest = []) :
    Avoids continues (terminator.toList ++ rest) := by
  cases terminator with
  | none =>
    rw [hend rfl]
    exact avoids_nil continues
  | some t =>
    refine avoids_cons_iff.mpr ?_
    simpa [continues] using hcloses.1 t rfl

theorem takeExpression_eq_ok_iff {name : String} {ts rest : List Token} {s : Statement} :
    takeExpression name ts = .ok (s, rest) ↔
      ∃ expression terminator, expression ≠ [] ∧ (∀ t ∈ expression, t.kind ≠ .semicolon) ∧
        Closes terminator rest ∧ (terminator = none → rest = []) ∧
        Statement.assign name expression = s ∧
        expression ++ (terminator.toList ++ rest) = ts := by
  unfold takeExpression
  constructor
  · intro h
    split_ifs at h with hempty
    cases h
    obtain ⟨terminator, hcloses, htail⟩ :=
      dropTerminator_eq_iff.mp (Eq.refl (dropTerminator (ts.dropWhile continues)))
    refine ⟨ts.takeWhile continues, terminator, by simpa using hempty, ?_, hcloses, ?_, rfl, ?_⟩
    · intro t ht
      exact continues_iff.mp (List.mem_takeWhile_imp ht)
    · rintro rfl
      have hunclosed := hcloses.2 rfl
      rw [Option.toList_none, List.nil_append] at htail
      rw [htail] at hunclosed ⊢
      exact eq_nil_of_avoids_continues (avoids_dropWhile continues ts) hunclosed
    · rw [htail, List.takeWhile_append_dropWhile]
  · rintro ⟨expression, terminator, hne, hfree, hcloses, hend, rfl, rfl⟩
    have hall : ∀ t ∈ expression, continues t = true := fun t ht => continues_iff.mpr (hfree t ht)
    have havoids := avoids_continues hcloses hend
    rw [havoids.takeWhile_append hall, havoids.dropWhile_append hall, if_neg (by simpa using hne),
      dropTerminator_eq_iff.mpr ⟨terminator, hcloses, rfl⟩]

theorem takeAssignment_eq_ok_iff {ts rest : List Token} {s : Statement} :
    takeAssignment ts = .ok (s, rest) ↔
      ∃ name equal tail, name.kind = .identifier ∧ equal.kind = .equal ∧
        takeExpression name.lexeme tail = .ok (s, rest) ∧ name :: equal :: tail = ts := by
  unfold takeAssignment
  constructor
  · intro h
    split at h
    · cases h
    · cases h
    · next lexeme equal tail hname =>
      split_ifs at h with hequal
      obtain ⟨name, hkind, rfl, rfl⟩ := takeIdentifier_eq_ok_iff.mp hname
      exact ⟨name, equal, tail, hkind, hequal, h, rfl⟩
  · rintro ⟨name, equal, tail, hkind, hequal, h, rfl⟩
    rw [takeIdentifier_eq_ok_iff.mpr ⟨name, hkind, rfl, rfl⟩]
    dsimp only
    rw [if_pos hequal, h]

theorem exists_clause_of_display {first : Token} {tail rest : List Token} {s : Statement}
    (hkind : first.kind = .display ∨ first.kind = .print)
    (h : takeNamed (.display · first.lexeme) tail = .ok (s, rest)) :
    ∃ c : Clause, c.Valid ∧ c.EndsBefore rest ∧ c.statement = s ∧
      c.tokens ++ rest = first :: tail := by
  obtain ⟨name, terminator, hname, hcloses, rfl, rfl⟩ := takeNamed_eq_ok_iff.mp h
  exact ⟨⟨.display first name, terminator⟩, ⟨⟨hkind, hname⟩, hcloses.1⟩,
    ⟨hcloses.2, False.elim⟩, rfl, rfl⟩

/-- A statement that is read is a clause, and the rest starts where the clause ends. -/
theorem exists_clause_of_take {first : Token} {tail rest : List Token} {s : Statement}
    (h : take first tail = .ok (s, rest)) :
    ∃ c : Clause, c.Valid ∧ c.EndsBefore rest ∧ c.statement = s ∧
      c.tokens ++ rest = first :: tail := by
  unfold take at h
  split at h
  · next hkind =>
    obtain ⟨name, terminator, hname, hcloses, rfl, rfl⟩ := takeNamed_eq_ok_iff.mp h
    exact ⟨⟨.read first name, terminator⟩, ⟨⟨hkind, hname⟩, hcloses.1⟩,
      ⟨hcloses.2, False.elim⟩, rfl, rfl⟩
  · next hkind => exact exists_clause_of_display (.inl hkind) h
  · next hkind => exact exists_clause_of_display (.inr hkind) h
  · obtain ⟨name, equal, after, hname, hequal, hexpression, hts⟩ := takeAssignment_eq_ok_iff.mp h
    obtain ⟨expression, terminator, hne, hfree, hcloses, hend, rfl, rfl⟩ :=
      takeExpression_eq_ok_iff.mp hexpression
    refine ⟨⟨.assign name equal expression, terminator⟩,
      ⟨⟨hname, hequal, hne, hfree⟩, hcloses.1⟩, ⟨hcloses.2, fun _ => hend⟩, rfl, ?_⟩
    rw [← hts]
    simp [Clause.tokens, Phrase.tokens]

/-- A clause is read where it stands, up to its end. -/
theorem take_eq_ok_of_clause {c : Clause} {first : Token} {tail rest : List Token}
    (hc : c.Valid) (hends : c.EndsBefore rest) (hts : c.tokens ++ rest = first :: tail) :
    take first tail = .ok (c.statement, rest) := by
  obtain ⟨phrase, terminator⟩ := c
  obtain ⟨hphrase, hkind⟩ := hc
  obtain ⟨hunclosed, hend⟩ := hends
  have hcloses : Closes terminator rest := ⟨hkind, hunclosed⟩
  cases phrase with
  | read keyword name =>
    obtain ⟨rfl, rfl⟩ := List.cons.inj hts
    unfold take
    rw [hphrase.1]
    exact takeNamed_eq_ok_iff.mpr ⟨name, terminator, hphrase.2, hcloses, rfl, rfl⟩
  | display keyword name =>
    obtain ⟨rfl, rfl⟩ := List.cons.inj hts
    have hnamed : takeNamed (.display · keyword.lexeme) (name :: (terminator.toList ++ rest)) =
        .ok (.display name.lexeme keyword.lexeme, rest) :=
      takeNamed_eq_ok_iff.mpr ⟨name, terminator, hphrase.2, hcloses, rfl, rfl⟩
    unfold take
    rcases hphrase.1 with hkeyword | hkeyword
    · rw [hkeyword]
      exact hnamed
    · rw [hkeyword]
      exact hnamed
  | assign name equal expression =>
    obtain ⟨hname, hequal, hne, hfree⟩ := hphrase
    obtain ⟨rfl, rfl⟩ := List.cons.inj hts
    unfold take
    rw [hname]
    refine takeAssignment_eq_ok_iff.mpr ⟨name, equal, _, hname, hequal, ?_, rfl⟩
    refine takeExpression_eq_ok_iff.mpr
      ⟨expression, terminator, hne, hfree, hcloses, hend trivial, rfl, ?_⟩
    exact (List.append_assoc expression terminator.toList rest).symm

end Statement

/-! ### Programs -/

theorem toList_option_inj {s t : Option Token} (h : s.toList = t.toList) : s = t := by
  cases s with
  | none =>
    cases t with
    | none => rfl
    | some t => cases h
  | some s =>
    cases t with
    | none => cases h
    | some t => rw [(List.cons.inj h).1]

/-- Tokens and statement together determine a clause. -/
theorem Clause.eq_of_tokens_eq {c d : Clause} (htokens : c.tokens = d.tokens)
    (hstatement : c.statement = d.statement) : c = d := by
  obtain ⟨phrase, terminator⟩ := c
  obtain ⟨other, last⟩ := d
  have hparts : phrase = other ∧ terminator.toList = last.toList := by
    cases phrase with
    | read keyword name =>
      cases other with
      | read => simpa [Clause.tokens, Phrase.tokens, and_assoc] using htokens
      | display => cases hstatement
      | assign => cases hstatement
    | display keyword name =>
      cases other with
      | read => cases hstatement
      | display => simpa [Clause.tokens, Phrase.tokens, and_assoc] using htokens
      | assign => cases hstatement
    | assign name equal expression =>
      cases other with
      | read => cases hstatement
      | display => cases hstatement
      | assign =>
        obtain ⟨-, rfl⟩ := Statement.assign.inj hstatement
        simpa [Clause.tokens, Phrase.tokens, and_assoc] using htokens
  rw [hparts.1, toList_option_inj hparts.2]

theorem IsProgram.unclosed {cs : List Clause} (h : IsProgram cs) :
    Unclosed (cs.flatMap Clause.tokens) := by
  cases h with
  | nil => exact fun t ht => by cases ht
  | @cons c cs hc hlast hcs =>
    obtain ⟨phrase, terminator⟩ := c
    obtain ⟨hphrase, -⟩ := hc
    intro t ht
    cases phrase with
    | read keyword name =>
      cases ht
      rw [hphrase.1]
      decide
    | display keyword name =>
      cases ht
      rcases hphrase.1 with hkind | hkind
      · rw [hkind]; decide
      · rw [hkind]; decide
    | assign name equal expression =>
      cases ht
      rw [hphrase.1]
      decide

theorem IsProgram.endsBefore {c : Clause} {cs : List Clause} (h : IsProgram (c :: cs)) :
    c.Valid ∧ c.EndsBefore (cs.flatMap Clause.tokens) ∧ IsProgram cs := by
  cases h with
  | cons hc hlast hcs =>
    refine ⟨hc, ⟨fun _ => hcs.unclosed, fun hassign hnone => ?_⟩, hcs⟩
    rw [hlast hassign hnone]
    rfl

theorem IsProgram.valid_of_mem {cs : List Clause} (h : IsProgram cs) {c : Clause} (hc : c ∈ cs) :
    c.Valid := by
  induction h with
  | nil => cases hc
  | cons hfirst hlast hcs ih =>
    rcases List.mem_cons.mp hc with rfl | hc
    · exact hfirst
    · exact ih hc

theorem Clause.exists_tokens_eq_cons (c : Clause) (cs : List Clause) :
    ∃ first tail, (c :: cs).flatMap Clause.tokens = first :: tail := by
  obtain ⟨phrase, terminator⟩ := c
  cases phrase with
  | read keyword name => exact ⟨keyword, _, rfl⟩
  | display keyword name => exact ⟨keyword, _, rfl⟩
  | assign name equal expression => exact ⟨name, _, rfl⟩

theorem Clause.exists_getLast?_tokens (c : Clause) : ∃ t, c.tokens.getLast? = some t := by
  obtain ⟨first, tail, htokens⟩ := c.exists_tokens_eq_cons []
  rw [List.flatMap_singleton] at htokens
  rw [htokens]
  exact ⟨_, List.getLast?_eq_some_getLast (List.cons_ne_nil first tail)⟩

theorem Clause.takeAll_append (c : Clause) {rest : List Token} (hc : c.Valid)
    (hends : c.EndsBefore rest) :
    Statement.takeAll (c.tokens ++ rest) =
      (Statement.takeAll rest).map (c.statement :: ·) := by
  obtain ⟨first, tail, htokens⟩ := c.exists_tokens_eq_cons []
  rw [List.flatMap_singleton] at htokens
  have hts : c.tokens ++ rest = first :: (tail ++ rest) := by
    rw [htokens]
    rfl
  rw [hts]
  exact Statement.takeAll_ok (Statement.take_eq_ok_of_clause hc hends hts)

theorem IsProgram.take_eq_ok {c : Clause} {cs : List Clause} (h : IsProgram (c :: cs))
    {first : Token} {tail : List Token}
    (hts : (c :: cs).flatMap Clause.tokens = first :: tail) :
    Statement.take first tail = .ok (c.statement, cs.flatMap Clause.tokens) := by
  obtain ⟨hc, hends, -⟩ := h.endsBefore
  exact Statement.take_eq_ok_of_clause hc hends hts

theorem IsProgram.takeAll_eq_ok {cs : List Clause} (h : IsProgram cs) :
    Statement.takeAll (cs.flatMap Clause.tokens) = .ok (cs.map Clause.statement) := by
  induction cs with
  | nil => exact Statement.takeAll_nil
  | cons c cs ih =>
    obtain ⟨first, tail, hts⟩ := c.exists_tokens_eq_cons cs
    rw [hts, Statement.takeAll_ok (h.take_eq_ok hts), ih h.endsBefore.2.2]
    rfl

theorem Clause.EndsBefore.isProgram_cons {c : Clause} {cs : List Clause} (hc : c.Valid)
    (hends : c.EndsBefore (cs.flatMap Clause.tokens)) (hcs : IsProgram cs) :
    IsProgram (c :: cs) := by
  refine .cons hc (fun hassign hnone => ?_) hcs
  have hnil := hends.2 hassign hnone
  cases cs with
  | nil => rfl
  | cons d ds =>
    obtain ⟨first, tail, hts⟩ := d.exists_tokens_eq_cons ds
    rw [hts] at hnil
    cases hnil

/-- Statements that are read come from a program. -/
theorem exists_derives_of_takeAll {ts : List Token} {ss : List Statement}
    (h : Statement.takeAll ts = .ok ss) :
    ∃ cs, Derives cs ts ∧ cs.map Clause.statement = ss := by
  induction ts using Statement.takeAll.induct generalizing ss with
  | case1 =>
    rw [Statement.takeAll_nil] at h
    cases h
    exact ⟨[], ⟨.nil, rfl⟩, rfl⟩
  | case2 first tail refusal hrefusal =>
    rw [Statement.takeAll_error hrefusal] at h
    cases h
  | case3 first tail s rest htake ih =>
    rw [Statement.takeAll_ok htake] at h
    cases hrest : Statement.takeAll rest with
    | error refusal => rw [hrest] at h; cases h
    | ok statements =>
      rw [hrest] at h
      cases h
      obtain ⟨cs, ⟨hcs, rfl⟩, rfl⟩ := ih hrest
      obtain ⟨c, hc, hends, rfl, htokens⟩ := Statement.exists_clause_of_take htake
      exact ⟨c :: cs, ⟨hends.isProgram_cons hc hcs, htokens⟩, rfl⟩

/-- A token list spells at most one program. -/
theorem Derives.unique {cs ds : List Clause} {ts : List Token} (hcs : Derives cs ts)
    (hds : Derives ds ts) : cs = ds := by
  induction cs generalizing ds ts with
  | nil =>
    cases ds with
    | nil => rfl
    | cons d ds =>
      obtain ⟨first, tail, hcons⟩ := d.exists_tokens_eq_cons ds
      have hnil := hds.2.trans hcs.2.symm
      rw [hcons] at hnil
      cases hnil
  | cons c cs ih =>
    obtain ⟨first, tail, hcons⟩ := c.exists_tokens_eq_cons cs
    obtain ⟨hc, rfl⟩ := hcs
    obtain ⟨hd, hts⟩ := hds
    cases ds with
    | nil =>
      rw [hcons] at hts
      cases hts
    | cons d ds =>
      -- Both clauses are what is read first, so they leave the same tokens.
      have htake := (hc.take_eq_ok hcons).symm.trans (hd.take_eq_ok (hts.trans hcons))
      obtain ⟨hstatement, hrest⟩ := Prod.mk.inj (Except.ok.inj htake)
      rw [List.flatMap_cons, List.flatMap_cons, ← hrest] at hts
      have hcd := Clause.eq_of_tokens_eq (List.append_cancel_right hts).symm hstatement
      rw [hcd, ih ⟨hc.endsBefore.2.2, rfl⟩ ⟨hd.endsBefore.2.2, hrest.symm⟩]

theorem parse_eq_ok_iff {ts : List Token} {ss : List Statement} :
    parse ts = .ok ss ↔ Statement.takeAll ts = .ok ss := by
  unfold parse
  cases Statement.takeAll ts with
  | ok statements => simp
  | error refusal => simp

/-- Reading a token list gives exactly the statements of the program that it spells. It spells at
most one, and is refused exactly when it spells none. -/
theorem parse_eq_ok_iff_derives (ts : List Token) :
    (∀ ss, parse ts = .ok ss ↔ ∃ cs, Derives cs ts ∧ cs.map Clause.statement = ss) ∧
      (∀ cs ds, Derives cs ts → Derives ds ts → cs = ds) ∧
      ((∃ e, parse ts = .error e) ↔ ¬ ∃ cs, Derives cs ts) := by
  have hiff (ss : List Statement) :
      parse ts = .ok ss ↔ ∃ cs, Derives cs ts ∧ cs.map Clause.statement = ss := by
    rw [parse_eq_ok_iff]
    constructor
    · intro h
      exact exists_derives_of_takeAll h
    · rintro ⟨cs, ⟨hcs, rfl⟩, rfl⟩
      exact hcs.takeAll_eq_ok
  refine ⟨hiff, fun cs ds hcs hds => hcs.unique hds, ?_⟩
  constructor
  · rintro ⟨e, he⟩ ⟨cs, hcs⟩
    have hok := (hiff _).mpr ⟨cs, hcs, rfl⟩
    rw [he] at hok
    cases hok
  · intro hnone
    cases hparse : parse ts with
    | error e => exact ⟨e, rfl⟩
    | ok ss =>
      obtain ⟨cs, hcs, -⟩ := (hiff ss).mp hparse
      exact absurd ⟨cs, hcs⟩ hnone

end CalcScript
