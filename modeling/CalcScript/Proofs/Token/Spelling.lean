import CalcScript.Proofs.Token.Decomposition
import Mathlib.Data.List.Chain

/-!
# Spellings

Each kind of token has its own spellings: words for identifiers, digits with an optional fraction
for numbers, and one text for each keyword and symbol. Every scanned token is spelled by its kind.
An identifier may still be spelled like a keyword; such a reserved word is scanned only right after
a number, so it neither begins a token list nor follows any other token.
-/
namespace CalcScript
open Text

inductive IsNumeral : List Char → Prop where
  | whole {l : List Char} (hl : IsDigits l) : IsNumeral l
  | decimal {l places : List Char} (hl : IsDigits l) (hplaces : IsDigits places) :
      IsNumeral (l ++ '.' :: places)

inductive TokenKind.Spells : TokenKind → List Char → Prop where
  | word {l : List Char} (hl : isWord l = true) : Spells .identifier l
  | numeral {l : List Char} (hl : IsNumeral l) : Spells .number l
  | keyword {word : String} {kind : TokenKind} (h : (word, kind) ∈ keywords) :
      Spells kind word.toList
  | symbol {c : Char} {kind : TokenKind} (h : (c, kind) ∈ symbols) : Spells kind [c]

namespace Token

def Spelled (t : Token) : Prop :=
  t.kind.Spells t.lexeme.toList

/-- An identifier that is spelled like a keyword. -/
def isReserved (t : Token) : Bool :=
  t.kind == .identifier && (keywords.map Prod.fst).contains t.lexeme

theorem isReserved_iff {t : Token} :
    t.isReserved = true ↔ t.kind = .identifier ∧ t.lexeme ∈ keywords.map Prod.fst := by
  simp [isReserved]

theorem isReserved_eq_false_iff {t : Token} :
    t.isReserved = false ↔ (t.kind = .identifier → t.lexeme ∉ keywords.map Prod.fst) := by
  rw [← Bool.not_eq_true, isReserved_iff, not_and]

/-- Only a number comes right before a reserved word. -/
def MayPrecede (s t : Token) : Prop :=
  t.isReserved = true → s.kind = .number

end Token

/-! ### The kinds of words and numbers -/

theorem TokenKind.spells_identifier_iff {l : List Char} :
    TokenKind.identifier.Spells l ↔ isWord l = true := by
  refine ⟨fun h => ?_, .word⟩
  cases h with
  | word hl => exact hl
  | keyword h => simp [keywords] at h
  | symbol h => simp [symbols] at h

theorem TokenKind.spells_number_iff {l : List Char} :
    TokenKind.number.Spells l ↔ IsNumeral l := by
  refine ⟨fun h => ?_, .numeral⟩
  cases h with
  | numeral hl => exact hl
  | keyword h => simp [keywords] at h
  | symbol h => simp [symbols] at h

theorem TokenKind.Spells.mem_keywords {kind : TokenKind} {l : List Char} (h : kind.Spells l)
    (hkind : kind ∈ keywords.map Prod.snd) : (String.ofList l, kind) ∈ keywords := by
  cases h with
  | word hl => simp [keywords] at hkind
  | numeral hl => simp [keywords] at hkind
  | keyword h => rwa [String.ofList_toList]
  | symbol h =>
    have hcases : kind = .read ∨ kind = .display ∨ kind = .print := by simpa [keywords] using hkind
    rcases hcases with rfl | rfl | rfl <;> simp [symbols] at h

theorem ofWord_eq_identifier_iff {word : String} :
    TokenKind.ofWord word = .identifier ↔ word ∉ keywords.map Prod.fst := by
  unfold TokenKind.ofWord
  split_ifs <;> simp_all [keywords]

theorem isWord_of_mem_keywords {word : String} (h : word ∈ keywords.map Prod.fst) :
    isWord word.toList = true := by
  have hcases : word = "Read" ∨ word = "Display" ∨ word = "Print" := by simpa [keywords] using h
  rcases hcases with rfl | rfl | rfl <;> decide

theorem mem_keywords_of_ofWord {word : String} (h : TokenKind.ofWord word ≠ .identifier) :
    (word, TokenKind.ofWord word) ∈ keywords := by
  unfold TokenKind.ofWord at h ⊢
  split_ifs at h ⊢ <;> simp_all [keywords]

theorem spells_ofWord {word : String} (h : isWord word.toList = true) :
    (TokenKind.ofWord word).Spells word.toList := by
  by_cases hkind : TokenKind.ofWord word = .identifier
  · rw [hkind]
    exact .word h
  · exact .keyword (mem_keywords_of_ofWord hkind)

theorem spells_wordKind {l : List Char} (hl : isWord l = true) (after : Bool) :
    (Scan.wordKind after l).Spells l := by
  cases after with
  | true => exact .word hl
  | false =>
    have hspells := @spells_ofWord (String.ofList l) (by rwa [String.toList_ofList])
    rwa [String.toList_ofList] at hspells

theorem kindAt_of_isNumeral {l : List Char} (h : IsNumeral l) (before : Option Char) :
    kindAt before l = .number := by
  cases h with
  | whole hl =>
    cases l with
    | nil => exact absurd rfl hl.1
    | cons c rest => exact kindAt_of_isDigit (hl.2 c List.mem_cons_self) before rest
  | @decimal l places hl hplaces =>
    cases l with
    | nil => exact absurd rfl hl.1
    | cons c rest => exact kindAt_of_isDigit (hl.2 c List.mem_cons_self) before _

theorem Lexeme.spells_kindAt {l after : List Char} (h : Lexeme l after) (before : Option Char) :
    (kindAt before l).Spells l := by
  cases h with
  | word hl hafter =>
    rw [kindAt_of_isWord hl]
    exact spells_wordKind hl _
  | whole hl hdigit hpoint =>
    rw [kindAt_of_isNumeral (.whole hl)]
    exact .numeral (.whole hl)
  | decimal hl hplaces hdigit =>
    rw [kindAt_of_isNumeral (.decimal hl hplaces)]
    exact .numeral (.decimal hl hplaces)
  | symbol hc =>
    rw [kindAt_of_mem_symbols hc]
    exact .symbol hc

theorem any_isWordChar_of_isReserved {before : Option Char} {l : List Char}
    (h : Token.isReserved ⟨kindAt before l, String.ofList l⟩ = true) :
    isWord l = true ∧ before.any isWordChar = true := by
  obtain ⟨hkind, hkeyword⟩ := Token.isReserved_iff.mp h
  have hl : isWord l = true := by simpa using isWord_of_mem_keywords hkeyword
  refine ⟨hl, ?_⟩
  by_contra hbefore
  rw [kindAt_of_isWord hl, Scan.wordKind, if_neg hbefore, ofWord_eq_identifier_iff] at hkind
  exact hkind hkeyword

/-! ### Scanned tokens -/

namespace Decomposition

theorem spelled_of_mem_tokensAfter {d : Decomposition} (h : d.Valid) (seen : List Char) :
    ∀ t ∈ d.tokensAfter seen, t.Spelled := by
  induction d generalizing seen with
  | last gap => simp [tokensAfter]
  | piece gap lexeme rest ih =>
    obtain ⟨-, hlexeme, hrest⟩ := h
    refine List.forall_mem_cons.mpr ⟨?_, ih hrest _⟩
    simpa [Token.Spelled] using hlexeme.spells_kindAt _

theorem glued_append_gap {gap : List Char} (hne : gap ≠ []) (h : IsGap gap) (seen : List Char) :
    glued (seen ++ gap) = false := by
  obtain ⟨init, c, rfl⟩ := (List.eq_nil_or_concat' gap).resolve_left hne
  rw [← List.append_assoc, glued_concat]
  exact (h c (by simp)).1

/-- Reserved words follow numbers. The first token is none either, unless a word begins the text
right after a word character. -/
theorem isChain_mayPrecede_tokensAfter {d : Decomposition} (h : d.Valid) (seen : List Char) :
    (d.tokensAfter seen).IsChain Token.MayPrecede ∧
      (glued seen = false ∨ Avoids isWordStart d.text →
        Avoids Token.isReserved (d.tokensAfter seen)) := by
  induction d generalizing seen with
  | last gap => simp [tokensAfter]
  | piece gap lexeme rest ih =>
    obtain ⟨hgap, hlexeme, hrest⟩ := h
    obtain ⟨hchain, hhead⟩ := ih hrest (seen ++ gap ++ lexeme)
    constructor
    · refine List.isChain_cons.mpr ⟨fun t ht hreserved => ?_, hchain⟩
      -- A word ends at the last word character and a symbol is none, so only a number can have a
      -- word right after it.
      cases hlexeme with
      | word hl hafter =>
        have hstart : Avoids isWordStart rest.text := by
          intro c hc
          have hword := hafter c hc
          rw [isWordChar_iff, Bool.or_eq_false_iff] at hword
          exact hword.1
        rw [hhead (.inr hstart) t ht] at hreserved
        exact absurd hreserved Bool.false_ne_true
      | whole hl hdigit hpoint => exact kindAt_of_isNumeral (.whole hl) _
      | decimal hl hplaces hdigit => exact kindAt_of_isNumeral (.decimal hl hplaces) _
      | symbol hc =>
        have hglued := TokenKind.isWordChar_of_ofSymbol? (mem_symbols_iff.mp hc)
        rw [← glued_concat (seen ++ gap)] at hglued
        rw [hhead (.inl hglued) t ht] at hreserved
        exact absurd hreserved Bool.false_ne_true
    · intro hstart
      rw [tokensAfter, avoids_cons_iff, Bool.eq_false_iff]
      intro hreserved
      obtain ⟨hword, hglued⟩ := any_isWordChar_of_isReserved hreserved
      by_cases hempty : gap = []
      · subst hempty
        rw [List.append_nil] at hglued
        cases lexeme with
        | nil => simp [isWord] at hword
        | cons c tail =>
          simp only [isWord, Bool.and_eq_true] at hword
          rcases hstart with hseen | htext
          · exact absurd hglued (by simpa [glued] using hseen)
          · have hc : isWordStart c = false := avoids_cons_iff.mp htext
            exact Bool.false_ne_true (hc.symm.trans hword.1)
      · have hnot := glued_append_gap hempty hgap seen
        exact Bool.false_ne_true (hnot.symm.trans hglued)

end Decomposition

namespace Token

theorem spelled_of_mem_scan {code : String} {t : Token} (h : t ∈ scan code) : t.Spelled := by
  obtain ⟨d, hd⟩ := Decomposition.exists_decomposes code.toList
  rw [hd.scan_eq] at h
  exact Decomposition.spelled_of_mem_tokensAfter hd.2 [] t h

/-- Reserved words are scanned right after numbers only. -/
theorem isChain_mayPrecede_scan (code : String) :
    (scan code).IsChain MayPrecede ∧ Avoids isReserved (scan code) := by
  obtain ⟨d, hd⟩ := Decomposition.exists_decomposes code.toList
  rw [hd.scan_eq]
  obtain ⟨hchain, hhead⟩ := Decomposition.isChain_mayPrecede_tokensAfter hd.2 []
  exact ⟨hchain, hhead (.inl rfl)⟩

end Token
end CalcScript
