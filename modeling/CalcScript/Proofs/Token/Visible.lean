import CalcScript.Proofs.Token.Decomposition
import Mathlib.Data.List.Basic

/-!
# Visible segments

The visible segments of a text are its tokens and stray characters; blanks only keep them apart. A
character that no word or number can go on with separates: the text before it and the text from it
on are scanned independently. Both ways of scanning are read off the visible segments, so laws of
joining texts are stated for these.
-/
namespace CalcScript
open Text

theorem nil_intercalate {α : Type} (ls : List (List α)) :
    ([] : List α).intercalate ls = ls.flatten := by
  induction ls with
  | nil => rfl
  | cons l ls ih =>
    cases ls with
    | nil => simp
    | cons k ls =>
      rw [List.intercalate_cons_cons, ih, List.append_nil]
      rfl

/-- Tokens and stray characters. -/
def Segment.isVisible : Segment → Bool
  | .blank _ => false
  | _ => true

namespace Scan

def visible (cs : List Char) : List Segment :=
  (segmentsFrom false cs).filter Segment.isVisible

@[simp] theorem visible_nil : visible [] = [] := by
  simp [visible]

theorem visible_blank {c : Char} (h : isBlank c = true) (cs : List Char) :
    visible (c :: cs) = visible cs := by
  simp [visible, segmentsFrom_blank h, Segment.isVisible]

theorem visible_space (cs : List Char) : visible (' ' :: cs) = visible cs :=
  visible_blank (by decide) cs

theorem visible_symbol {c : Char} {kind : TokenKind} (h : TokenKind.ofSymbol? c = some kind)
    (cs : List Char) : visible (c :: cs) = .token ⟨kind, String.singleton c⟩ :: visible cs := by
  rw [visible, segmentsFrom_symbol h, List.filter_cons_of_pos rfl]
  rfl

/-! ### Separating characters -/

/-- No word or number goes on with the character. -/
def Separates (c : Char) : Prop :=
  isWordChar c = false ∧ c ≠ '.'

theorem separates_of_isBlank {c : Char} (h : isBlank c = true) : Separates c := by
  constructor
  · rw [Bool.eq_false_iff]
    intro hword
    rw [isBlank_of_isWordChar hword] at h
    exact Bool.false_ne_true h
  · rintro rfl
    exact absurd h (by decide)

theorem separates_of_ofSymbol? {c : Char} {kind : TokenKind}
    (h : TokenKind.ofSymbol? c = some kind) : Separates c := by
  refine ⟨TokenKind.isWordChar_of_ofSymbol? h, ?_⟩
  rintro rfl
  cases h

theorem Separates.isDigit_eq_false {c : Char} (h : Separates c) : isDigit c = false := by
  have hword := h.1
  rw [isWordChar_iff, Bool.or_eq_false_iff] at hword
  exact hword.2

/-- What stands before a separating character does not change how it is scanned. -/
theorem Separates.segmentsFrom_cons {c : Char} (h : Separates c) (glued : Bool)
    (cs : List Char) : segmentsFrom glued (c :: cs) = segmentsFrom false (c :: cs) := by
  have hword := h.1
  rw [isWordChar_iff, Bool.or_eq_false_iff] at hword
  have hstart : ¬ isWordStart c = true := by simp [hword.1]
  have hdigit : ¬ isDigit c = true := by simp [hword.2]
  rw [segmentsFrom, segmentsFrom, if_neg hstart, if_neg hstart, dif_neg hdigit]

end Scan

open Scan

theorem Lexeme.append_separator {l after : List Char} (h : Lexeme l after) {c : Char}
    (hc : Separates c) (more : List Char) : Lexeme l (after ++ c :: more) := by
  cases h with
  | word hl hafter => exact .word hl (hafter.append_cons hc.1)
  | whole hl hdigit hpoint =>
    refine .whole hl (hdigit.append_cons hc.isDigit_eq_false) fun rest hrest => ?_
    cases after with
    | nil => exact absurd (List.cons.inj hrest).1 hc.2
    | cons d tail =>
      obtain ⟨rfl, rfl⟩ := List.cons.inj hrest
      exact (hpoint tail rfl).append_cons hc.isDigit_eq_false
  | decimal hl hplaces hdigit => exact .decimal hl hplaces (hdigit.append_cons hc.isDigit_eq_false)
  | symbol hsymbol => exact .symbol hsymbol

theorem Lexeme.exists_eq_cons {l after : List Char} (h : Lexeme l after) :
    ∃ c rest, l = c :: rest ∧ c ≠ '.' := by
  have hpoint {c : Char} (hc : isWordChar c = true) : c ≠ '.' := by
    rintro rfl
    exact absurd hc (by decide)
  cases h with
  | word hl hafter =>
    obtain ⟨hne, hchars⟩ := isWordChar_of_isWord hl
    obtain ⟨c, rest, rfl⟩ := List.exists_cons_of_ne_nil hne
    exact ⟨c, rest, rfl, hpoint (hchars c List.mem_cons_self)⟩
  | whole hl hdigit hafter =>
    obtain ⟨c, rest, rfl⟩ := List.exists_cons_of_ne_nil hl.1
    exact ⟨c, rest, rfl, hpoint (isWordChar_of_isDigit (hl.2 c List.mem_cons_self))⟩
  | decimal hl hplaces hdigit =>
    obtain ⟨c, rest, rfl⟩ := List.exists_cons_of_ne_nil hl.1
    exact ⟨c, _, rfl, hpoint (isWordChar_of_isDigit (hl.2 c List.mem_cons_self))⟩
  | @symbol c kind after hc =>
    exact ⟨c, [], rfl, (separates_of_ofSymbol? (mem_symbols_iff.mp hc)).2⟩

theorem Decomposition.segmentsFrom_append_separator {d : Decomposition} (h : d.Valid) {c : Char}
    (hc : Separates c) (more seen : List Char) :
    segmentsFrom (glued seen) (d.text ++ c :: more) =
      segmentsFrom (glued seen) d.text ++ segmentsFrom false (c :: more) := by
  induction d generalizing seen with
  | last gap =>
    have hgap := segmentsFrom_append_gap h seen []
    rw [List.append_nil, segmentsFrom_nil, List.append_nil] at hgap
    rw [text, segmentsFrom_append_gap h, hgap, hc.segmentsFrom_cons]
  | piece gap lexeme rest ih =>
    obtain ⟨hgap, hlexeme, hrest⟩ := h
    -- The first lexeme ends where it does without the separator, whatever it is.
    have hlonger := hlexeme.append_separator hc more
    rw [text, List.append_assoc, List.append_assoc, segmentsFrom_append_gap hgap,
      segmentsFrom_append_gap hgap, hlonger.segmentsFrom_append, hlexeme.segmentsFrom_append,
      ih hrest]
    simp

namespace Scan

/-- A text is scanned piece by piece where a character separates the pieces. -/
theorem segmentsFrom_append_separator {c : Char} (hc : Separates c) (cs more : List Char) :
    segmentsFrom false (cs ++ c :: more) =
      segmentsFrom false cs ++ segmentsFrom false (c :: more) := by
  obtain ⟨d, rfl, hd⟩ := Decomposition.exists_decomposes cs
  exact Decomposition.segmentsFrom_append_separator hd hc more []

theorem visible_append {c : Char} (hc : Separates c) (cs more : List Char) :
    visible (cs ++ c :: more) = visible cs ++ visible (c :: more) := by
  rw [visible, segmentsFrom_append_separator hc, List.filter_append]
  rfl

theorem visible_spaced (cs more : List Char) :
    visible (cs ++ ' ' :: more) = visible cs ++ visible more := by
  have hspace : Separates ' ' := separates_of_isBlank (by decide)
  rw [visible_append hspace, visible_space]

/-- The text keeps apart whatever stands on its two sides, and shows `marks` itself. -/
structure IsSeparator (sep : List Char) (marks : List Segment) : Prop where
  starts : ∃ c rest, sep = c :: rest ∧ Separates c
  visible_append : ∀ cs, visible (sep ++ cs) = marks ++ visible cs

theorem isSeparator_blank {c : Char} (h : isBlank c = true) : IsSeparator [c] [] :=
  ⟨⟨c, [], rfl, separates_of_isBlank h⟩, visible_blank h⟩

/-- Joined texts show what the texts show, with the marks of the separator in between. -/
theorem IsSeparator.visible_intercalate {sep : List Char} {marks : List Segment}
    (h : IsSeparator sep marks) (texts : List (List Char)) :
    visible (sep.intercalate texts) = marks.intercalate (texts.map visible) := by
  obtain ⟨c, rest, rfl, hc⟩ := h.starts
  induction texts with
  | nil => simp
  | cons cs texts ih =>
    cases texts with
    | nil => simp
    | cons ds texts =>
      rw [List.map_cons] at ih
      have hjoin := Scan.visible_append hc cs (rest ++ (c :: rest).intercalate (ds :: texts))
      rw [List.intercalate_cons_cons, List.append_assoc, List.cons_append, hjoin,
        ← List.cons_append, h.visible_append, ih]
      simp [List.intercalate_cons_cons]

theorem visible_intercalate_blank {c : Char} (h : isBlank c = true) (texts : List (List Char)) :
    visible ([c].intercalate texts) = texts.flatMap visible := by
  rw [(isSeparator_blank h).visible_intercalate, nil_intercalate, List.flatMap_def]

/-! ### Strays -/

theorem straysFrom_eq_nil_iff {position : Nat} {segments : List Segment} :
    straysFrom position segments = [] ↔ ∀ s ∈ segments, ∀ c, s ≠ .stray c := by
  induction segments generalizing position with
  | nil => simp [straysFrom]
  | cons s rest ih =>
    cases s with
    | token t => simp [straysFrom, ih]
    | blank c => simp [straysFrom, ih]
    | stray c => simp [straysFrom]

theorem filterMap_token?_visible (cs : List Char) :
    (visible cs).filterMap Segment.token? = (segmentsFrom false cs).filterMap Segment.token? := by
  rw [visible, List.filterMap_filter]
  congr 1
  funext s
  cases s <;> rfl

theorem map_token_filterMap_token? {segments : List Segment}
    (hvisible : ∀ s ∈ segments, s.isVisible = true)
    (hstray : ∀ s ∈ segments, ∀ c, s ≠ .stray c) :
    (segments.filterMap Segment.token?).map .token = segments := by
  induction segments with
  | nil => rfl
  | cons s rest ih =>
    obtain ⟨hs, hrest⟩ := List.forall_mem_cons.mp hvisible
    obtain ⟨hs', hrest'⟩ := List.forall_mem_cons.mp hstray
    cases s with
    | token t =>
      simp only [List.filterMap_cons, Segment.token?, List.map_cons, ih hrest hrest']
    | blank c => cases hs
    | stray c => exact absurd rfl (hs' c)

end Scan

namespace Token

theorem scan_eq_visible (code : String) :
    scan code = (visible code.toList).filterMap Segment.token? := by
  rw [scan_eq_segments, segments, filterMap_token?_visible]

theorem scan_of_visible {code : String} {ts : List Token}
    (h : visible code.toList = ts.map .token) : scan code = ts := by
  rw [scan_eq_visible, h, List.filterMap_map]
  exact List.filterMap_some

/-- A strict scan succeeds when all visible segments are tokens. -/
theorem scanStrict_eq_ok_iff {code : String} {ts : List Token} :
    scanStrict code = .ok ts ↔ visible code.toList = ts.map .token := by
  have hstrays : strays code = [] ↔ ∀ s ∈ segmentsFrom false code.toList, ∀ c, s ≠ .stray c :=
    straysFrom_eq_nil_iff
  rw [scanStrict_eq_ok_iff_strays]
  constructor
  · rintro ⟨hnil, rfl⟩
    rw [scan_eq_visible, map_token_filterMap_token?]
    · exact fun s hs => (List.mem_filter.mp hs).2
    · exact fun s hs => hstrays.mp hnil s (List.mem_filter.mp hs).1
  · intro h
    have hnil : strays code = [] := by
      refine hstrays.mpr fun s hs c heq => ?_
      have hmem : s ∈ visible code.toList := List.mem_filter.mpr ⟨hs, by rw [heq]; rfl⟩
      rw [h, heq] at hmem
      simp at hmem
    exact ⟨hnil, scan_of_visible h⟩

theorem visible_joined (lines : List String) :
    visible ("\n".intercalate lines).toList = lines.flatMap fun line => visible line.toList := by
  have hnewline : isBlank '\n' = true := by decide
  rw [String.toList_intercalate]
  exact (visible_intercalate_blank hnewline _).trans (List.flatMap_map _ _ _)

/-- Joined lines are scanned line by line, strictly or leniently. -/
theorem scanAs_joined {strict : Bool} {lines : List String} {tokens : String → List Token}
    (h : ∀ line ∈ lines, scanAs strict line = .ok (tokens line)) :
    scanAs strict ("\n".intercalate lines) = .ok (lines.flatMap tokens) := by
  cases strict with
  | true =>
    refine scanStrict_eq_ok_iff.mpr ?_
    rw [visible_joined, List.map_flatMap]
    exact List.flatMap_congr fun line hline => scanStrict_eq_ok_iff.mp (h line hline)
  | false =>
    rw [scanAs_false, scan_eq_visible, visible_joined, List.filterMap_flatMap]
    refine congrArg Except.ok (List.flatMap_congr fun line hline => ?_)
    rw [← scan_eq_visible, scan_eq_of_scanAs (h line hline)]

end Token
end CalcScript
