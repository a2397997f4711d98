import CalcScript.Proofs.Number.Numeral
import CalcScript.Proofs.Token.Rendering
import Mathlib.Data.List.DropRight

/-!
# Spaces between rendered tokens

Rendering closes up a whole text in three passes. Lexemes hold no blanks, so on spelled tokens each
pass comes down to a choice between two neighbours: a space stands between them unless the left one
is an opening bracket or the right one a semicolon or a closing bracket. The rendering of a list is
therefore the rendering of its beginning, the space after that, and the rendering of what is left.
-/
namespace CalcScript
open Text

namespace Render

/-! ### The closing passes -/

/-- Texts in order, with a space between two neighbours where `apart` says so. -/
def joinWhere (apart : List Char → List Char → Bool) : List (List Char) → List Char
  | [] => []
  | [l] => l
  | l :: m :: rest => l ++ ((if apart l m then [' '] else []) ++ joinWhere apart (m :: rest))

def IsSolid (l : List Char) : Prop :=
  l ≠ [] ∧ ∀ c ∈ l, isBlank c = false

theorem joinSpaced_eq_joinWhere (ls : List (List Char)) :
    joinSpaced ls = joinWhere (fun _ _ => true) ls := by
  induction ls with
  | nil => rfl
  | cons l ls ih =>
    cases ls with
    | nil => rfl
    | cons m rest =>
      change l ++ ' ' :: joinSpaced (m :: rest) = _
      rw [ih]
      rfl

theorem head?_joinWhere {l : List Char} (h : l ≠ []) (apart : List Char → List Char → Bool)
    (ls : List (List Char)) : (joinWhere apart (l :: ls)).head? = l.head? := by
  cases ls with
  | nil => rfl
  | cons m rest => rw [joinWhere, List.head?_append_of_ne_nil _ h]

theorem closeBefore_append {mark : Char} {l : List Char} (h : ∀ c ∈ l, isBlank c = false)
    (cs : List Char) : closeBefore mark (l ++ cs) = l ++ closeBefore mark cs := by
  induction l with
  | nil => rfl
  | cons c rest ih =>
    obtain ⟨hc, hrest⟩ := List.forall_mem_cons.mp h
    rw [List.cons_append, closeBefore, if_neg (by simp [hc]), ih hrest, List.cons_append]

theorem closeBefore_space {mark : Char} {cs : List Char} (h : Avoids isBlank cs) :
    closeBefore mark (' ' :: cs) =
      (if cs.head? = some mark then [] else [' ']) ++ closeBefore mark cs := by
  have hdrop : cs.dropWhile isBlank = cs := h.dropWhile_append (l := []) (by simp)
  have hspace : isBlank ' ' = true := by decide
  by_cases hmark : cs.head? = some mark
  · rw [closeBefore, hdrop, if_pos (by simp [hspace, hmark]), if_pos hmark, List.nil_append]
  · rw [closeBefore, hdrop, if_neg (by simp [hmark]), if_neg hmark, List.singleton_append]

/-- Closing up before a mark parts no two texts of which the second begins with the mark. -/
theorem closeBefore_joinWhere (mark : Char) (apart : List Char → List Char → Bool)
    {ls : List (List Char)} (h : ∀ l ∈ ls, IsSolid l) :
    closeBefore mark (joinWhere apart ls) =
      joinWhere (fun l m => apart l m && m.head? != some mark) ls := by
  induction ls with
  | nil => rfl
  | cons l ls ih =>
    obtain ⟨hl, hls⟩ := List.forall_mem_cons.mp h
    cases ls with
    | nil => simpa [joinWhere, closeBefore] using closeBefore_append hl.2 []
    | cons m rest =>
      have hm : IsSolid m := hls m List.mem_cons_self
      have hhead := head?_joinWhere hm.1 apart rest
      have havoid : Avoids isBlank (joinWhere apart (m :: rest)) := by
        intro c hc
        rw [hhead] at hc
        exact hm.2 c (List.mem_of_head? hc)
      rw [joinWhere, joinWhere, closeBefore_append hl.2, ← ih hls]
      cases apart l m with
      | false => rfl
      | true =>
        change l ++ closeBefore mark (' ' :: joinWhere apart (m :: rest)) = _
        rw [closeBefore_space havoid, hhead]
        by_cases hmark : m.head? = some mark <;> simp [hmark]

theorem closeAfter_append {mark : Char} (behind : Bool) {l : List Char} (h : IsSolid l)
    (cs : List Char) :
    closeAfter mark behind (l ++ cs) =
      l ++ closeAfter mark (l.getLast? == some mark) cs := by
  obtain ⟨hne, hblank⟩ := h
  induction l generalizing behind with
  | nil => exact absurd rfl hne
  | cons c rest ih =>
    obtain ⟨hc, hrest⟩ := List.forall_mem_cons.mp hblank
    rw [List.cons_append, closeAfter, if_neg (by simp [hc])]
    cases rest with
    | nil => simp
    | cons d rest =>
      rw [ih _ (List.cons_ne_nil d rest) hrest, List.getLast?_cons_cons]
      rfl

/-- Closing up after a mark parts no two texts of which the first ends with the mark. -/
theorem closeAfter_joinWhere (mark : Char) (behind : Bool)
    (apart : List Char → List Char → Bool) {ls : List (List Char)} (h : ∀ l ∈ ls, IsSolid l) :
    closeAfter mark behind (joinWhere apart ls) =
      joinWhere (fun l m => apart l m && l.getLast? != some mark) ls := by
  induction ls generalizing behind with
  | nil => rfl
  | cons l ls ih =>
    obtain ⟨hl, hls⟩ := List.forall_mem_cons.mp h
    cases ls with
    | nil => simpa [joinWhere, closeAfter] using closeAfter_append behind hl []
    | cons m rest =>
      have hspace : isBlank ' ' = true := by decide
      have hnext := fun behind => ih behind hls
      rw [joinWhere, joinWhere, closeAfter_append behind hl]
      by_cases hmark : l.getLast? = some mark
      · cases apart l m <;> simp [hmark, closeAfter, hspace, hnext]
      · cases apart l m <;> simp [hmark, closeAfter, hnext]

theorem closeUp_joinSpaced {ls : List (List Char)} (h : ∀ l ∈ ls, IsSolid l) :
    closeUp (joinSpaced ls) =
      joinWhere (fun l m => m.head? != some ';' && l.getLast? != some '(' && m.head? != some ')')
        ls := by
  rw [closeUp, joinSpaced_eq_joinWhere, closeBefore_joinWhere ';' _ h,
    closeAfter_joinWhere '(' false _ h, closeBefore_joinWhere ')' _ h]
  simp

end Render

/-! ### Characters of lexemes -/

namespace TokenKind.Spells
variable {kind other : TokenKind} {l : List Char} {c : Char}

theorem mem_cases (h : kind.Spells l) (hc : c ∈ l) :
    isWordChar c = true ∨ c = '.' ∨ (c, kind) ∈ symbols := by
  cases h with
  | word hl => exact .inl ((isWordChar_of_isWord hl).2 c hc)
  | numeral hl =>
    rcases Number.isDigit_or_eq_point hl c hc with hdigit | hpoint
    · exact .inl (isWordChar_of_isDigit hdigit)
    · exact .inr (.inl hpoint)
  | keyword hkeyword =>
    have hword := isWord_of_mem_keywords (List.mem_map_of_mem hkeyword)
    exact .inl ((isWordChar_of_isWord hword).2 c hc)
  | symbol hsymbol =>
    rw [List.mem_singleton.mp hc]
    exact .inr (.inr hsymbol)

/-- The character of a symbol stands in no lexeme of another kind. -/
theorem eq_of_mem (h : kind.Spells l) (hsymbol : (c, other) ∈ symbols) (hc : c ∈ l) :
    kind = other := by
  have hother := mem_symbols_iff.mp hsymbol
  rcases h.mem_cases hc with hword | rfl | hkind
  · rw [TokenKind.isWordChar_of_ofSymbol? hother] at hword
    exact absurd hword Bool.false_ne_true
  · cases hother
  · exact Option.some.inj ((mem_symbols_iff.mp hkind).symm.trans hother)

theorem eq_singleton (h : kind.Spells l) (hsymbol : (c, kind) ∈ symbols) : l = [c] := by
  have hsymbols : ∀ p ∈ symbols, ∀ q ∈ symbols, p.2 = q.2 → p.1 = q.1 := by decide
  have hkeywords : ∀ p ∈ keywords, ∀ q ∈ symbols, p.2 ≠ q.2 := by decide
  cases h with
  | word hl => simp [symbols] at hsymbol
  | numeral hl => simp [symbols] at hsymbol
  | keyword hkeyword => exact absurd rfl (hkeywords _ hkeyword _ hsymbol)
  | symbol hother => exact congrArg ([·]) (hsymbols _ hother _ hsymbol rfl)

theorem end_eq_iff (h : kind.Spells l) (hsymbol : (c, other) ∈ symbols)
    {e : List Char → Option Char} (hmem : e l = some c → c ∈ l) (hone : e [c] = some c) :
    e l = some c ↔ kind = other := by
  constructor
  · intro hend
    exact h.eq_of_mem hsymbol (hmem hend)
  · rintro rfl
    rw [h.eq_singleton hsymbol, hone]

theorem isSolid (h : kind.Spells l) : Render.IsSolid l := by
  obtain ⟨d, rest, hcons, -⟩ := h.lexeme.exists_eq_cons
  refine ⟨by simp [hcons], fun c hc => ?_⟩
  rcases h.mem_cases hc with hword | rfl | hsymbol
  · exact isBlank_of_isWordChar hword
  · decide
  · exact TokenKind.isBlank_of_ofSymbol? (mem_symbols_iff.mp hsymbol)

end TokenKind.Spells

/-! ### Neighbouring tokens -/

namespace Token

def spaceBetween (s t : Token) : List Char :=
  if s.kind = .bracketOpen ∨ t.kind = .semicolon ∨ t.kind = .bracketClose then [] else [' ']

def spaced : List Token → List Char
  | [] => []
  | [t] => t.lexeme.toList
  | s :: t :: rest => s.lexeme.toList ++ (spaceBetween s t ++ spaced (t :: rest))

/-- Spelled tokens are rendered pair by pair. -/
theorem chars_eq_spaced {ts : List Token} (h : ∀ t ∈ ts, t.Spelled) :
    Render.chars ts = spaced ts := by
  have hsolid : ∀ l ∈ ts.map (·.lexeme.toList), Render.IsSolid l := by
    intro l hl
    obtain ⟨t, ht, rfl⟩ := List.mem_map.mp hl
    exact (h t ht).isSolid
  rw [Render.chars, Render.closeUp_joinSpaced hsolid]
  clear hsolid
  induction ts with
  | nil => rfl
  | cons s ts ih =>
    cases ts with
    | nil => rfl
    | cons t rest =>
      obtain ⟨hs, hrest⟩ := List.forall_mem_cons.mp h
      have ht := hrest t List.mem_cons_self
      have hopen : s.lexeme.toList.getLast? = some '(' ↔ s.kind = .bracketOpen :=
        hs.end_eq_iff (by decide) List.mem_of_getLast? rfl
      have hsemicolon : t.lexeme.toList.head? = some ';' ↔ t.kind = .semicolon :=
        ht.end_eq_iff (by decide) List.mem_of_head? rfl
      have hclose : t.lexeme.toList.head? = some ')' ↔ t.kind = .bracketClose :=
        ht.end_eq_iff (by decide) List.mem_of_head? rfl
      have hjoin := ih hrest
      rw [List.map_cons] at hjoin
      rw [List.map_cons, List.map_cons, Render.joinWhere, hjoin, spaced, spaceBetween]
      congr 2
      simp only [Bool.and_eq_true, bne_iff_ne, ne_eq, hopen, hsemicolon, hclose]
      split_ifs <;> grind

theorem spaced_eq_joinSpaced {ts : List Token}
    (h : ∀ t ∈ ts, t.kind ∉ [TokenKind.bracketOpen, .semicolon, .bracketClose]) :
    spaced ts = Render.joinSpaced (ts.map (·.lexeme.toList)) := by
  induction ts with
  | nil => rfl
  | cons s ts ih =>
    obtain ⟨hs, hts⟩ := List.forall_mem_cons.mp h
    cases ts with
    | nil => rfl
    | cons t rest =>
      have ht := hts t List.mem_cons_self
      simp only [List.mem_cons, List.not_mem_nil, or_false, not_or] at hs ht
      have hspace : spaceBetween s t = [' '] := if_neg (by simp [hs, ht])
      rw [spaced, hspace, ih hts]
      rfl

theorem toList_render {ts : List Token} (h : ∀ t ∈ ts, t.Spelled) :
    (render ts).toList = spaced ts := by
  rw [render, String.toList_ofList, chars_eq_spaced h]

/-! ### Beginnings of a token list -/

/-- What stands before a token that comes after the tokens `ts`. -/
def spaceAfter (ts : List Token) (t : Token) : List Char :=
  (ts.getLast?.map (spaceBetween · t)).getD []

theorem spaceAfter_cases (ts : List Token) (t : Token) :
    spaceAfter ts t = [] ∨ spaceAfter ts t = [' '] := by
  unfold spaceAfter
  cases ts.getLast? with
  | none => exact .inl rfl
  | some s =>
    change spaceBetween s t = [] ∨ spaceBetween s t = [' ']
    unfold spaceBetween
    split <;> simp

theorem spaced_append_cons (ts : List Token) (t : Token) (rest : List Token) :
    spaced (ts ++ t :: rest) = spaced ts ++ spaceAfter ts t ++ spaced (t :: rest) := by
  induction ts with
  | nil => rfl
  | cons s ts ih =>
    cases ts with
    | nil => simp [spaced, spaceAfter]
    | cons u ts =>
      have hafter : spaceAfter (s :: u :: ts) t = spaceAfter (u :: ts) t := by
        rw [spaceAfter, List.getLast?_cons_cons, spaceAfter]
      rw [List.cons_append] at ih
      rw [List.cons_append, List.cons_append, spaced, ih, spaced, hafter]
      simp only [List.append_assoc]

theorem isPrefix_spaced {us ts : List Token} (h : us <+: ts) : spaced us <+: spaced ts := by
  obtain ⟨rest, rfl⟩ := h
  cases rest with
  | nil => simp
  | cons t rest =>
    rw [spaced_append_cons, List.append_assoc]
    exact List.prefix_append _ _

theorem exists_spaced_cons (t : Token) (rest : List Token) :
    ∃ more, spaced (t :: rest) = t.lexeme.toList ++ more := by
  cases rest with
  | nil => exact ⟨[], (List.append_nil _).symm⟩
  | cons u rest => exact ⟨_, rfl⟩

theorem spaced_concat (ts : List Token) (t : Token) :
    spaced (ts ++ [t]) = spaced ts ++ spaceAfter ts t ++ t.lexeme.toList :=
  spaced_append_cons ts t []

theorem mem_spaced {ts : List Token} {c : Char} (h : c ∈ spaced ts) :
    c = ' ' ∨ ∃ t ∈ ts, c ∈ t.lexeme.toList := by
  induction ts using List.reverseRecOn with
  | nil => cases h
  | append_singleton ts t ih =>
    rw [spaced_concat, List.mem_append, List.mem_append] at h
    rcases h with (h | h) | h
    · rcases ih h with hspace | ⟨s, hs, hc⟩
      · exact .inl hspace
      · exact .inr ⟨s, List.mem_append_left _ hs, hc⟩
    · rcases spaceAfter_cases ts t with hnil | hspace
      · rw [hnil] at h
        cases h
      · rw [hspace] at h
        exact .inl (List.mem_singleton.mp h)
    · exact .inr ⟨t, by simp, h⟩

theorem rdropWhile_spaced {ts : List Token} (h : ∀ t ∈ ts, t.Spelled) :
    (spaced ts).rdropWhile (· == ' ') = spaced ts := by
  obtain rfl | ⟨ts, t, rfl⟩ := List.eq_nil_or_concat' ts
  · rfl
  · obtain ⟨hne, hsolid⟩ := (h t (by simp)).isSolid
    obtain ⟨l, c, hl⟩ := (List.eq_nil_or_concat' t.lexeme.toList).resolve_left hne
    have hc : ¬ (c == ' ') = true := by
      rw [beq_iff_eq]
      rintro rfl
      exact absurd (hsolid ' ' (by simp [hl])) (by decide)
    rw [spaced_concat, hl, ← List.append_assoc]
    exact List.rdropWhile_concat_neg (· == ' ') _ c hc

/-- Less the space before the next token, it is the rendering of the tokens so far. -/
theorem rdropWhile_spaced_append {ts : List Token} (h : ∀ t ∈ ts, t.Spelled) (t : Token) :
    (spaced ts ++ spaceAfter ts t).rdropWhile (· == ' ') = spaced ts := by
  rcases spaceAfter_cases ts t with hnil | hspace
  · rw [hnil, List.append_nil, rdropWhile_spaced h]
  · rw [hspace, List.rdropWhile_concat_pos _ _ _ rfl, rdropWhile_spaced h]

/-- Spelled tokens are rendered as their lexemes in order; two neighbours touch if the left one is
an opening bracket or the right one a semicolon or a closing bracket, and stand one space apart if
not. So the rendering of any beginning of the list is a beginning of the rendering. -/
theorem render_pairwise {ts : List Token} (h : ∀ t ∈ ts, t.Spelled) :
    (render ts).toList = spaced ts ∧
      ∀ us, us <+: ts → (render us).toList <+: (render ts).toList := by
  refine ⟨toList_render h, fun us hus => ?_⟩
  have hspelled : ∀ t ∈ us, t.Spelled := fun t ht => h t (hus.subset ht)
  rw [toList_render h, toList_render hspelled]
  exact isPrefix_spaced hus

/-- Runs of brackets and semicolons close up, and a beginning that stops inside such a run is
rendered as far as it goes. -/
theorem render_pairwise_runs :
    let ts := scan "x=( ( 1.5 ) ; ) ; ;y(;)"
    (∀ t ∈ ts, t.Spelled) ∧ render ts = "x = ((1.5););; y (;)" ∧
      (render ts).toList = spaced ts ∧ render (ts.take 6) = "x = ((1.5)" ∧
      (render (ts.take 6)).toList <+: (render ts).toList := by
  intro ts
  have hspelled : ∀ t ∈ ts, t.Spelled := fun t ht => spelled_of_mem_scan ht
  obtain ⟨hpairs, hbegin⟩ := render_pairwise hspelled
  exact ⟨hspelled, by decide +kernel, hpairs, by decide +kernel, hbegin _ (List.take_prefix 6 ts)⟩

end Token
end CalcScript
