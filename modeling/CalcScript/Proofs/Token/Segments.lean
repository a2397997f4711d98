import CalcScript.Token.Scan

/-!
# Segments

Source text can be cut into segments: tokens, single blanks and single stray characters. The cut
loses nothing, so positions are sums of segment lengths. The scanning loop goes from segment to
segment: its tokens are those among them, it notes the stray ones with their positions, and a strict
scan stops at the first of these.
-/
namespace CalcScript

inductive Segment where
  | token (t : Token)
  | blank (c : Char)
  | stray (c : Char)
  deriving DecidableEq, Repr

namespace Segment

def chars : Segment → List Char
  | .token t => t.lexeme.toList
  | .blank c => [c]
  | .stray c => [c]

def token? : Segment → Option Token
  | .token t => some t
  | _ => none

end Segment

namespace Scan
open Text

/-- The segments of a text; `glued` says that a word character stands right before it. -/
def segmentsFrom (glued : Bool) : List Char → List Segment
  | [] => []
  | c :: rest =>
    if isWordStart c then
      let word := c :: rest.takeWhile isWordChar
      .token ⟨wordKind glued word, String.ofList word⟩ ::
        segmentsFrom true (rest.dropWhile isWordChar)
    else if _h : isDigit c = true then
      .token ⟨.number, String.ofList (splitNumber (c :: rest)).1⟩ ::
        segmentsFrom true (splitNumber (c :: rest)).2
    else
      match TokenKind.ofSymbol? c with
      | some kind => .token ⟨kind, String.singleton c⟩ :: segmentsFrom false rest
      | none =>
        if isBlank c then .blank c :: segmentsFrom false rest
        else .stray c :: segmentsFrom false rest
termination_by cs => cs.length
decreasing_by
  · have := (List.dropWhile_sublist isWordChar (l := rest)).length_le
    simp only [List.length_cons]
    omega
  · have := @length_splitNumber_snd c rest _h
    simp only [List.length_cons]
    omega
  all_goals simp

@[simp] theorem segmentsFrom_nil (glued : Bool) : segmentsFrom glued [] = [] := by
  rw [segmentsFrom]

theorem segmentsFrom_word {c : Char} (h : isWordStart c = true) (glued : Bool) (rest : List Char) :
    segmentsFrom glued (c :: rest) =
      .token ⟨wordKind glued (c :: rest.takeWhile isWordChar),
          String.ofList (c :: rest.takeWhile isWordChar)⟩ ::
        segmentsFrom true (rest.dropWhile isWordChar) := by
  rw [segmentsFrom, if_pos h]

theorem segmentsFrom_number {c : Char} (h : isDigit c = true) (glued : Bool) (rest : List Char) :
    segmentsFrom glued (c :: rest) =
      .token ⟨.number, String.ofList (splitNumber (c :: rest)).1⟩ ::
        segmentsFrom true (splitNumber (c :: rest)).2 := by
  have hw : isWordStart c = false := by
    rw [Bool.eq_false_iff]
    intro hw
    rw [isDigit_of_isWordStart hw] at h
    exact Bool.false_ne_true h
  rw [segmentsFrom, if_neg (by simp [hw]), dif_pos h]

theorem segmentsFrom_symbol {c : Char} {kind : TokenKind} (h : TokenKind.ofSymbol? c = some kind)
    (glued : Bool) (rest : List Char) :
    segmentsFrom glued (c :: rest) =
      .token ⟨kind, String.singleton c⟩ :: segmentsFrom false rest := by
  have hc := TokenKind.isWordChar_of_ofSymbol? h
  rw [isWordChar_iff, Bool.or_eq_false_iff] at hc
  rw [segmentsFrom, if_neg (by simp [hc.1]), dif_neg (by simp [hc.2]), h]

theorem segmentsFrom_blank {c : Char} (h : isBlank c = true) (glued : Bool) (rest : List Char) :
    segmentsFrom glued (c :: rest) = .blank c :: segmentsFrom false rest := by
  have hc : isWordChar c = false := by
    rw [Bool.eq_false_iff]
    intro hw
    rw [isBlank_of_isWordChar hw] at h
    exact Bool.false_ne_true h
  have hs : TokenKind.ofSymbol? c = none := by
    cases hs : TokenKind.ofSymbol? c with
    | none => rfl
    | some kind =>
      rw [TokenKind.isBlank_of_ofSymbol? hs] at h
      exact absurd h Bool.false_ne_true
  rw [isWordChar_iff, Bool.or_eq_false_iff] at hc
  rw [segmentsFrom, if_neg (by simp [hc.1]), dif_neg (by simp [hc.2]), hs]
  simp [h]

theorem segmentsFrom_stray {c : Char} (hw : isWordChar c = false)
    (hs : TokenKind.ofSymbol? c = none) (hb : isBlank c = false) (glued : Bool)
    (rest : List Char) :
    segmentsFrom glued (c :: rest) = .stray c :: segmentsFrom false rest := by
  rw [isWordChar_iff, Bool.or_eq_false_iff] at hw
  rw [segmentsFrom, if_neg (by simp [hw.1]), dif_neg (by simp [hw.2]), hs]
  simp [hb]

theorem flatMap_chars_segmentsFrom (glued : Bool) (cs : List Char) :
    (segmentsFrom glued cs).flatMap Segment.chars = cs := by
  fun_induction segmentsFrom glued cs with
  | case1 => rfl
  | case2 glued c rest h word ih =>
    simp [Segment.chars, word, ih]
  | case3 glued c rest hw h ih =>
    simp [Segment.chars, ih, splitNumber_append]
  | case4 glued c rest hw hd kind hk ih =>
    simp [Segment.chars, ih]
  | case5 glued c rest hw hd hk hb ih =>
    simp [Segment.chars, ih]
  | case6 glued c rest hw hd hk hb ih =>
    simp [Segment.chars, ih]

def segments (code : String) : List Segment :=
  segmentsFrom false code.toList

/-- The stray characters among segments that begin at `position`. -/
def straysFrom (position : Nat) : List Segment → List Stray
  | [] => []
  | s :: rest =>
    match s with
    | .stray c => ⟨c, position⟩ :: straysFrom (position + 1) rest
    | s => straysFrom (position + s.chars.length) rest

def strays (code : String) : List Stray :=
  straysFrom 0 (segments code)

/-! ### The loop from segment to segment -/

/-- The scan of segments that begin at `position`. -/
def outcomeFrom (strict : Bool) (position : Nat) : List Segment → Outcome
  | [] => ⟨[], [], none⟩
  | .token t :: rest => (outcomeFrom strict (position + t.lexeme.toList.length) rest).push t
  | .blank _ :: rest => outcomeFrom strict (position + 1) rest
  | .stray c :: rest =>
    if strict then ⟨[], [], some ⟨c, position⟩⟩
    else (outcomeFrom strict (position + 1) rest).skip ⟨c, position⟩

theorem loop_eq_outcomeFrom (strict : Bool) (position : Nat) (glued : Bool) (cs : List Char) :
    loop strict position glued cs = outcomeFrom strict position (segmentsFrom glued cs) := by
  have hword {c : Char} (hw : ¬ isWordStart c = true) (hd : ¬ isDigit c = true) :
      isWordChar c = false := by
    simp [isWordChar_iff, hw, hd]
  fun_induction loop strict position glued cs with
  | case1 position glued => simp [outcomeFrom]
  | case2 position glued c rest h word ih =>
    rw [segmentsFrom_word h, outcomeFrom, ih, String.toList_ofList]
  | case3 position glued c rest hw h number ih =>
    rw [segmentsFrom_number h, outcomeFrom, ih, String.toList_ofList]
  | case4 position glued c rest hw hd kind hk ih =>
    rw [segmentsFrom_symbol hk, outcomeFrom, ih, String.toList_singleton, List.length_singleton]
  | case5 position glued c rest hw hd hk hb ih => rw [segmentsFrom_blank hb, outcomeFrom, ih]
  | case6 position glued c rest hw hd hk hb hs =>
    rw [segmentsFrom_stray (hword hw hd) hk (by simpa using hb), outcomeFrom, if_pos hs]
  | case7 position glued c rest hw hd hk hb hs ih =>
    rw [segmentsFrom_stray (hword hw hd) hk (by simpa using hb), outcomeFrom, if_neg hs, ih]

/-- A lenient scan takes every token and notes every stray character. -/
theorem outcomeFrom_lenient (position : Nat) (segments : List Segment) :
    outcomeFrom false position segments =
      ⟨segments.filterMap Segment.token?, straysFrom position segments, none⟩ := by
  induction segments generalizing position with
  | nil => rfl
  | cons segment rest ih =>
    cases segment with
    | token t => rw [outcomeFrom, ih]; rfl
    | blank c => rw [outcomeFrom, ih]; rfl
    | stray c => rw [outcomeFrom, ih]; rfl

/-- A strict scan notes nothing. It is refused at the first stray character, and takes every token
if there is none. -/
theorem outcomeFrom_strict (position : Nat) (segments : List Segment) :
    (outcomeFrom true position segments).skipped = [] ∧
      (outcomeFrom true position segments).refusal = (straysFrom position segments).head? ∧
      (straysFrom position segments = [] →
        (outcomeFrom true position segments).tokens = segments.filterMap Segment.token?) := by
  induction segments generalizing position with
  | nil => exact ⟨rfl, rfl, fun _ => rfl⟩
  | cons segment rest ih =>
    cases segment with
    | token t =>
      obtain ⟨hskipped, hrefusal, htokens⟩ := ih (position + t.lexeme.toList.length)
      exact ⟨hskipped, hrefusal, fun h => congrArg (t :: ·) (htokens h)⟩
    | blank c => exact ih (position + 1)
    | stray c => exact ⟨rfl, rfl, fun h => absurd h (List.cons_ne_nil _ _)⟩

end Scan

namespace Token
open Scan

theorem scan_eq_segments (code : String) :
    scan code = (segments code).filterMap Segment.token? := by
  rw [scan, outcome, loop_eq_outcomeFrom, outcomeFrom_lenient]
  rfl

theorem scanAs_false (code : String) : scanAs false code = .ok (scan code) := by
  rw [scanAs, scan, outcome, loop_eq_outcomeFrom, outcomeFrom_lenient]

/-- A strict scan finds what a lenient one finds, or is refused at the first stray character. -/
theorem scanStrict_eq (code : String) :
    scanStrict code =
      match strays code with
      | [] => .ok (scan code)
      | s :: _ => .error ⟨code, s⟩ := by
  obtain ⟨-, hrefusal, htokens⟩ := outcomeFrom_strict 0 (segments code)
  rw [scanStrict, scanAs, outcome, loop_eq_outcomeFrom, ← segments, hrefusal, ← strays]
  cases hstrays : strays code with
  | nil => rw [scan_eq_segments, ← htokens hstrays]; rfl
  | cons s rest => rfl

theorem scanStrict_eq_ok_iff_strays {code : String} {ts : List Token} :
    scanStrict code = .ok ts ↔ strays code = [] ∧ scan code = ts := by
  rw [scanStrict_eq]
  cases strays code with
  | nil => simp
  | cons s rest => simp

/-- Where a scan succeeds, its tokens are those of the lenient scan. -/
theorem scan_eq_of_scanAs {strict : Bool} {code : String} {ts : List Token}
    (h : scanAs strict code = .ok ts) : scan code = ts := by
  cases strict with
  | true => exact (scanStrict_eq_ok_iff_strays.mp h).2
  | false => exact Except.ok.inj ((scanAs_false code).symm.trans h)

end Token
end CalcScript
