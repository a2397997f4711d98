import CalcScript.CrossCheck.Sample
import CalcScript.Proofs.CrossCheck.Quantities
import CalcScript.Proofs.Token.Rendering
import CalcScript.Proofs.Token.Spacing

/-!
# The tokens of a sample

The parts of a sample are literals below one hundred with operators between them. A space keeps
parts apart, so scanning a sample gives one token for each part, and these form an infix expression.
There are no brackets and no semicolons among them, so the same spaces come back when the tokens are
rendered.
-/
namespace CalcScript.Sample
open Text Scan

/-! ### Literals -/

theorem toList_toString (n : Nat) : (toString n).toList = Nat.toDigits 10 n := by
  rw [Nat.toString_eq_repr, Nat.toList_repr]

theorem isDigits_toString (n : Nat) : IsDigits (toString n).toList := by
  rw [toList_toString]
  exact ⟨Nat.toDigits_ne_nil, fun c hc => Nat.isDigit_of_mem_toDigits (by decide) (by decide) hc⟩

theorem digitsValue_toString (n : Nat) : Number.digitsValue (toString n).toList = n := by
  rw [toList_toString]
  exact Nat.ofDigitChars_ten_toDigits

theorem Draw.below_lt (d : Draw) {bound : Nat} (h : 0 < bound) : d.below bound < bound := by
  have hlow := Int.emod_nonneg d.index (Int.natCast_ne_zero.mpr h.ne')
  have hhigh := Int.emod_lt_of_pos d.index (Int.natCast_pos.mpr h)
  rw [below]
  omega

theorem digits_spec (draws : List Draw) :
    IsDigits (digits draws).1.toList ∧ (digits draws).1.toList.length ≤ 2 ∧
      Number.digitsValue (digits draws).1.toList ≤ 99 := by
  have hlt : (next draws).1.below 100 < 100 := (next draws).1.below_lt (by decide)
  have hdigits : (digits draws).1 = toString ((next draws).1.below 100) := rfl
  rw [hdigits, digitsValue_toString]
  refine ⟨isDigits_toString _, ?_, Nat.le_of_lt_succ hlt⟩
  rw [toList_toString, Nat.length_toDigits_le_iff (by decide) (by decide)]
  exact hlt

theorem isShortNumeral_number (draws : List Draw) : IsShortNumeral (number draws).1.toList := by
  obtain ⟨hwhole, hlength, hvalue⟩ := digits_spec (next draws).2
  unfold number
  simp only
  split_ifs
  · obtain ⟨hplaces, hlength', -⟩ := digits_spec (digits (next draws).2).2
    have hpoint : ".".toList = ['.'] := rfl
    rw [String.toList_append, String.toList_append, hpoint, List.append_assoc]
    refine ⟨.decimal hwhole hplaces, ?_, fun hdigits => ?_⟩
    · simp only [List.length_append, List.length_singleton]
      omega
    · exact absurd (hdigits.2 '.' (by simp)) (by decide)
  · exact ⟨.whole hwhole, hlength.trans (by decide), fun _ => hvalue⟩

/-! ### Parts and tokens -/

def partKind : String → TokenKind
  | "+" => .plus
  | "-" => .minus
  | "*" => .star
  | "/" => .slash
  | _ => .number

def partToken (part : String) : Token :=
  ⟨partKind part, part⟩

theorem partKind_eq_slash_iff {part : String} : partKind part = .slash ↔ part = "/" := by
  unfold partKind
  split <;> simp_all

theorem partKind_ne_identifier (part : String) : partKind part ≠ .identifier := by
  unfold partKind
  split <;> simp

theorem operator_mem (draws : List Draw) : (operator draws).1 ∈ operators := by
  have hlt : (next draws).1.below operators.length < operators.length :=
    (next draws).1.below_lt (by decide)
  have hop : (operator draws).1 = operators.getD ((next draws).1.below operators.length) "+" := rfl
  rw [hop, List.getD_eq_getElem?_getD, List.getElem?_eq_getElem hlt]
  exact List.getElem_mem hlt

theorem partToken_of_mem_operators {part : String} (h : part ∈ operators) :
    (partToken part).isOperator = true ∧ (partToken part).Spelled := by
  have hcases : part = "+" ∨ part = "-" ∨ part = "*" ∨ part = "/" := by
    simpa [operators] using h
  rcases hcases with rfl | rfl | rfl | rfl
  · exact ⟨rfl, @TokenKind.Spells.symbol '+' _ (by decide)⟩
  · exact ⟨rfl, @TokenKind.Spells.symbol '-' _ (by decide)⟩
  · exact ⟨rfl, @TokenKind.Spells.symbol '*' _ (by decide)⟩
  · exact ⟨rfl, @TokenKind.Spells.symbol '/' _ (by decide)⟩

theorem isShort_partToken {part : String} (h : IsShortNumeral part.toList) :
    (partToken part).IsShort := by
  have hchars := Number.isDigit_or_eq_point h.isNumeral
  refine ⟨?_, h⟩
  unfold partToken partKind
  split
  · exact absurd (hchars '+' (by decide)) (by decide)
  · exact absurd (hchars '-' (by decide)) (by decide)
  · exact absurd (hchars '*' (by decide)) (by decide)
  · exact absurd (hchars '/' (by decide)) (by decide)
  · rfl

/-! ### The expression of a sample -/

def IsPart (part : String) : Prop :=
  part ∈ operators ∨ IsShortNumeral part.toList

theorem IsPart.isShort {part : String} (h : IsPart part)
    (hoperand : (partToken part).isOperand = true) : (partToken part).IsShort := by
  rcases h with h | h
  · have hnot := Token.isOperand_of_isOperator (partToken_of_mem_operators h).1
    exact absurd hoperand (Bool.eq_false_iff.mp hnot)
  · exact isShort_partToken h

theorem IsPart.spelled {part : String} (h : IsPart part) : (partToken part).Spelled := by
  rcases h with h | h
  · exact (partToken_of_mem_operators h).2
  · have hnumber := (isShort_partToken h).isNumber
    rw [Token.Spelled, hnumber]
    exact .numeral h.isNumeral

theorem continuation_spec (count : Nat) (draws : List Draw) :
    (∀ part ∈ continuation count draws, IsPart part) ∧
      isContinuation ((continuation count draws).map partToken) = true ∧
      ((continuation count draws).map partToken).countP Token.isOperand = count := by
  induction count generalizing draws with
  | zero => simp [continuation, isContinuation]
  | succ count ih =>
    obtain ⟨hparts, hcontinuation, hcount⟩ := ih (number (operator draws).2).2
    have hop := operator_mem draws
    have hnumber := isShortNumeral_number (operator draws).2
    have hopToken := (partToken_of_mem_operators hop).1
    have hnumberToken := (isShort_partToken hnumber).isOperand
    have hcons : continuation (count + 1) draws = (operator draws).1 ::
        (number (operator draws).2).1 :: continuation count (number (operator draws).2).2 := rfl
    rw [hcons, List.map_cons, List.map_cons]
    refine ⟨?_, isContinuation_cons_cons hopToken hnumberToken hcontinuation, ?_⟩
    · exact List.forall_mem_cons.mpr ⟨.inl hop, List.forall_mem_cons.mpr ⟨.inr hnumber, hparts⟩⟩
    · rw [List.countP_cons_of_neg (by simp [Token.isOperand_of_isOperator hopToken]),
        List.countP_cons_of_pos hnumberToken, hcount]

theorem parts_spec (operandCount : Nat) (draws : List Draw) :
    (∀ part ∈ parts operandCount draws, IsPart part) ∧
      isInfix ((parts operandCount draws).map partToken) = true ∧
      ((parts operandCount draws).map partToken).countP Token.isOperand =
        operandCount - 1 + 1 := by
  obtain ⟨hparts, hcontinuation, hcount⟩ := continuation_spec (operandCount - 1) (number draws).2
  have hnumber := isShortNumeral_number draws
  have hnumberToken := (isShort_partToken hnumber).isOperand
  have hcons : parts operandCount draws =
      (number draws).1 :: continuation (operandCount - 1) (number draws).2 := rfl
  rw [hcons, List.map_cons]
  refine ⟨?_, isInfix_cons_iff.mpr ⟨hnumberToken, hcontinuation⟩, ?_⟩
  · exact List.forall_mem_cons.mpr ⟨.inr hnumber, hparts⟩
  · rw [List.countP_cons_of_pos hnumberToken, hcount]

theorem visible_part {part : String} (h : IsPart part) :
    visible part.toList = [.token (partToken part)] := by
  have hreread : (partToken part).reread = partToken part := by
    rw [Token.reread_eq_self_iff, Token.isReserved_eq_false_iff]
    exact fun hkind => absurd hkind (partKind_ne_identifier part)
  have hvisible := Token.visible_lexeme h.spelled
  rwa [hreread] at hvisible

theorem visible_generate (operandCount : Nat) (draws : List Draw) :
    visible (generate operandCount draws).toList =
      ((parts operandCount draws).map partToken).map .token := by
  have hspace : isBlank ' ' = true := by decide
  have hjoined : visible (generate operandCount draws).toList =
      (parts operandCount draws).flatMap fun part => visible part.toList := by
    rw [generate, String.toList_intercalate]
    exact (visible_intercalate_blank hspace _).trans (List.flatMap_map _ _ _)
  rw [hjoined, List.map_map, List.map_eq_flatMap]
  apply List.flatMap_congr
  intro part hpart
  exact visible_part ((parts_spec operandCount draws).1 part hpart)

/-- Scanning a sample gives one token for each of its parts. -/
theorem scan_generate (operandCount : Nat) (draws : List Draw) :
    Token.scan (generate operandCount draws) = (parts operandCount draws).map partToken :=
  Token.scan_of_visible (visible_generate operandCount draws)

/-! ### The layout of a sample -/

theorem length_continuation (count : Nat) (draws : List Draw) :
    (continuation count draws).length = 2 * count := by
  induction count generalizing draws with
  | zero => rfl
  | succ count ih =>
    change (continuation count (number (operator draws).2).2).length + 2 = _
    rw [ih]
    omega

theorem length_parts (operandCount : Nat) (draws : List Draw) :
    (parts operandCount draws).length = 2 * (operandCount - 1) + 1 := by
  change (continuation (operandCount - 1) (number draws).2).length + 1 = _
  rw [length_continuation]

theorem partKind_not_mem_brackets (part : String) :
    partKind part ∉ [TokenKind.bracketOpen, .semicolon, .bracketClose] := by
  unfold partKind
  split <;> decide

theorem render_parts (operandCount : Nat) (draws : List Draw) :
    Token.render ((parts operandCount draws).map partToken) = generate operandCount draws := by
  have hspelled : ∀ t ∈ (parts operandCount draws).map partToken, t.Spelled :=
    List.forall_mem_map.mpr fun part hpart => ((parts_spec operandCount draws).1 part hpart).spelled
  have hkinds : ∀ t ∈ (parts operandCount draws).map partToken,
      t.kind ∉ [TokenKind.bracketOpen, .semicolon, .bracketClose] :=
    List.forall_mem_map.mpr fun part _ => partKind_not_mem_brackets part
  apply String.toList_inj.mp
  rw [Token.toList_render hspelled, Token.spaced_eq_joinSpaced hkinds,
    Render.joinSpaced_eq_intercalate, List.map_map, generate, String.toList_intercalate]
  rfl

theorem isShort_of_mem_parts {operandCount : Nat} {draws : List Draw} {t : Token}
    (ht : t ∈ (parts operandCount draws).map partToken) (hoperand : t.isOperand = true) :
    t.IsShort := by
  obtain ⟨part, hpart, rfl⟩ := List.mem_map.mp ht
  exact ((parts_spec operandCount draws).1 part hpart).isShort hoperand

/-- A sample is scanned, strictly and leniently, into one token for each of its parts: numbers at
the even positions and operators at the odd ones, as many numbers as asked for and at least one.
Rendering these tokens gives the sample back, and only a division by zero can keep them from having
a value. -/
theorem generate_well_formed (operandCount : Int) (draws : List Draw) :
    let code := generate operandCount.toNat draws
    ∃ ts, Token.scanStrict code = .ok ts ∧ Token.scan code = ts ∧
      (ts.length : Int) = 2 * max operandCount 1 - 1 ∧
      (∀ i t, ts[i]? = some t →
        (i % 2 = 0 → t.kind = .number) ∧ (i % 2 = 1 → t.isOperator = true)) ∧
      ts.map Token.lexeme = parts operandCount.toNat draws ∧
      Token.render ts = code ∧
      ∀ f, evaluate Store.empty ts = .error f → f = .error .divisionByZero := by
  intro code
  obtain ⟨-, hinfix, -⟩ := parts_spec operandCount.toNat draws
  refine ⟨(parts operandCount.toNat draws).map partToken,
    Token.scanStrict_eq_ok_iff.mpr (visible_generate _ draws), scan_generate _ draws,
    ?_, fun i t ht => ?_, ?_, render_parts _ draws, fun f hf => ?_⟩
  · rw [List.length_map, length_parts]
    omega
  · obtain ⟨heven, hodd⟩ := (isInfix_getElem? _ i ht).1 hinfix
    exact ⟨fun hi => (isShort_of_mem_parts (List.mem_of_getElem? ht) (heven hi)).isNumber, hodd⟩
  · rw [List.map_map]
    exact List.map_id _
  · apply eq_divisionByZero_of_evaluate hinfix _ hf
    intro t ht hoperand
    exact (isShort_of_mem_parts ht hoperand).exists_operand? Store.empty

end CalcScript.Sample
