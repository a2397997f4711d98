import CalcScript.Proofs.Statement.Grammar
import CalcScript.Proofs.Token.Spelling

/-!
# Statements of scanned programs

What source text can bring into a program is narrower than what the grammar admits. Variables are
words and never keywords, a display keeps one of its two keywords, and expressions hold spelled
tokens. For a variable this takes both scanner and grammar: a reserved word follows a number
directly, and numbers stand in expressions only, which end with a semicolon or with the program.
-/
namespace CalcScript
open Text

/-- A word that is no keyword. -/
def IsName (name : String) : Prop :=
  isWord name.toList = true ∧ name ∉ keywords.map Prod.fst

/-- The texts of a statement are such as source text has. -/
def Statement.WellSpelled : Statement → Prop
  | .read name => IsName name
  | .display name keyword => IsName name ∧ (keyword = "Display" ∨ keyword = "Print")
  | .assign name expression =>
    IsName name ∧ expression ≠ [] ∧ ∀ t ∈ expression, t.Spelled ∧ t.kind ≠ .semicolon
  | .unknown _ => False

theorem Token.isName_lexeme {t : Token} (h : t.Spelled) (hkind : t.kind = .identifier)
    (hreserved : t.isReserved = false) : IsName t.lexeme := by
  unfold Spelled at h
  rw [hkind, TokenKind.spells_identifier_iff] at h
  exact ⟨h, isReserved_eq_false_iff.mp hreserved hkind⟩

theorem Token.isReserved_eq_false_of_mayPrecede {s t : Token} (h : s.MayPrecede t)
    (hkind : s.kind ≠ .number) : t.isReserved = false := by
  rw [Bool.eq_false_iff]
  exact fun hreserved => hkind (h hreserved)

theorem Token.lexeme_of_display {t : Token} (h : t.Spelled)
    (hkind : t.kind = .display ∨ t.kind = .print) : t.lexeme = "Display" ∨ t.lexeme = "Print" := by
  have hkeyword : t.kind ∈ keywords.map Prod.snd := by
    rcases hkind with hkind | hkind
    · simp [keywords, hkind]
    · simp [keywords, hkind]
  have hmem := h.mem_keywords hkeyword
  rw [String.ofList_toList] at hmem
  rcases hkind with hkind | hkind
  · left
    simpa [keywords, hkind] using hmem
  · right
    simpa [keywords, hkind] using hmem

/-! ### Variables -/

theorem isName_of_isChain {keyword name : Token} {rest : List Token}
    (hkeyword : keyword.kind ≠ .number) (hname : name.kind = .identifier)
    (hspelled : name.Spelled)
    (hchain : (keyword :: name :: rest).IsChain Token.MayPrecede) : IsName name.lexeme := by
  have hprecede := (List.isChain_cons_cons.mp hchain).1
  exact Token.isName_lexeme hspelled hname
    (Token.isReserved_eq_false_of_mayPrecede hprecede hkeyword)

namespace Clause

/-- A clause of spelled tokens is well spelled if reserved words follow numbers only. -/
theorem wellSpelled {c : Clause} (hc : c.Valid) (hspelled : ∀ t ∈ c.tokens, t.Spelled)
    (hchain : c.tokens.IsChain Token.MayPrecede) (hhead : Avoids Token.isReserved c.tokens) :
    c.statement.WellSpelled := by
  obtain ⟨phrase, terminator⟩ := c
  obtain ⟨hphrase, -⟩ := hc
  cases phrase with
  | read keyword name =>
    have hkeyword : keyword.kind ≠ .number := by simp [hphrase.1]
    have hname : name.Spelled := hspelled name (by simp [tokens, Phrase.tokens])
    exact isName_of_isChain hkeyword hphrase.2 hname hchain
  | display keyword name =>
    have hkeyword : keyword.kind ≠ .number := by
      rcases hphrase.1 with hkind | hkind <;> simp [hkind]
    have hname : name.Spelled := hspelled name (by simp [tokens, Phrase.tokens])
    constructor
    · exact isName_of_isChain hkeyword hphrase.2 hname hchain
    · exact Token.lexeme_of_display (hspelled keyword (by simp [tokens, Phrase.tokens])) hphrase.1
  | assign name equal expression =>
    obtain ⟨hkind, -, hne, hfree⟩ := hphrase
    have hname : name.Spelled := hspelled name (by simp [tokens, Phrase.tokens])
    refine ⟨Token.isName_lexeme hname hkind (avoids_cons_iff.mp hhead), hne, fun t ht => ?_⟩
    exact ⟨hspelled t (by simp [tokens, Phrase.tokens, ht]), hfree t ht⟩

theorem kind_ne_number_of_mem_getLast? {c : Clause} (hc : c.Valid)
    (hclosed : c.phrase.IsAssignment → c.terminator ≠ none) :
    ∀ t ∈ c.tokens.getLast?, t.kind ≠ .number := by
  obtain ⟨phrase, terminator⟩ := c
  obtain ⟨hphrase, hkind⟩ := hc
  intro t ht
  cases terminator with
  | some semicolon =>
    simp only [tokens, Option.toList_some, List.getLast?_concat, Option.mem_some_iff] at ht
    rw [← ht, hkind semicolon rfl]
    decide
  | none =>
    cases phrase with
    | read keyword name =>
      cases ht
      simp [hphrase.2]
    | display keyword name =>
      cases ht
      simp [hphrase.2]
    | assign name equal expression => exact absurd rfl (hclosed trivial)

end Clause

/-- The clauses of a program are well spelled, one after the other: none of them but the last ends
with a number, so none of them begins with a reserved word. -/
theorem IsProgram.wellSpelled {cs : List Clause} (h : IsProgram cs)
    (hspelled : ∀ t ∈ cs.flatMap Clause.tokens, t.Spelled)
    (hchain : (cs.flatMap Clause.tokens).IsChain Token.MayPrecede)
    (hhead : Avoids Token.isReserved (cs.flatMap Clause.tokens)) :
    ∀ c ∈ cs, c.statement.WellSpelled := by
  induction h with
  | nil => simp
  | @cons c cs hc hlast hcs ih =>
    rw [List.flatMap_cons] at hspelled hchain hhead
    obtain ⟨hfirst, hrest, hjoin⟩ := List.isChain_append.mp hchain
    have hstart : Avoids Token.isReserved c.tokens := by
      intro t ht
      exact hhead t (by rw [List.head?_append, ht, Option.some_or]; rfl)
    have hnext : Avoids Token.isReserved (cs.flatMap Clause.tokens) := by
      intro t ht
      have hclosed : c.phrase.IsAssignment → c.terminator ≠ none := by
        intro hassign hnone
        rw [hlast hassign hnone] at ht
        cases ht
      obtain ⟨s, hs⟩ := c.exists_getLast?_tokens
      exact Token.isReserved_eq_false_of_mayPrecede (hjoin s hs t ht)
        (Clause.kind_ne_number_of_mem_getLast? hc hclosed s hs)
    refine List.forall_mem_cons.mpr ⟨?_, ?_⟩
    · exact Clause.wellSpelled hc (fun t ht => hspelled t (List.mem_append_left _ ht)) hfirst hstart
    · exact ih (fun t ht => hspelled t (List.mem_append_right _ ht)) hrest hnext

theorem wellSpelled_of_parse_scan {code : String} {ss : List Statement}
    (h : parse (Token.scan code) = .ok ss) : ∀ s ∈ ss, s.WellSpelled := by
  obtain ⟨cs, ⟨hcs, htokens⟩, rfl⟩ := exists_derives_of_takeAll (parse_eq_ok_iff.mp h)
  obtain ⟨hchain, hhead⟩ := Token.isChain_mayPrecede_scan code
  rw [← htokens] at hchain hhead
  have hclauses := hcs.wellSpelled
    (fun t ht => Token.spelled_of_mem_scan (htokens ▸ ht)) hchain hhead
  intro s hs
  obtain ⟨c, hc, rfl⟩ := List.mem_map.mp hs
  exact hclauses c hc

end CalcScript
