import CalcScript.Expression.Operator
import CalcScript.Proofs.Span
import Mathlib.Data.List.Chain

/-!
# Infix expressions

An infix expression begins with an operand, goes on with operators that each have an operand after
them, and ends there. Operands are numbers and identifiers. Counting is nearly enough to recognise
one: among the lists of operands and operators with one operand more than operators, the infix
expressions are those in which no two operands are neighbours.
-/
namespace CalcScript

/-- Numbers and identifiers stand for values. -/
def TokenKind.isOperand (k : TokenKind) : Bool :=
  k == .number || k == .identifier

namespace Token

def isOperand (t : Token) : Bool :=
  t.kind.isOperand

def isOperator (t : Token) : Bool :=
  t.kind.operator?.isSome

theorem isOperand_iff {t : Token} :
    t.isOperand = true ↔ t.kind = .number ∨ t.kind = .identifier := by
  simp [isOperand, TokenKind.isOperand]

theorem isOperator_of_operator? {t : Token} {op : Operator} (h : t.kind.operator? = some op) :
    t.isOperator = true := by
  simp [isOperator, h]

theorem isOperator_of_isOperand {t : Token} (h : t.isOperand = true) : t.isOperator = false := by
  rcases isOperand_iff.mp h with h | h <;> simp [isOperator, h, TokenKind.operator?]

theorem isOperand_of_isOperator {t : Token} (h : t.isOperator = true) : t.isOperand = false := by
  rw [Bool.eq_false_iff]
  intro ht
  rw [isOperator_of_isOperand ht] at h
  exact Bool.false_ne_true h

end Token

mutual

/-- An operand, and operators each followed by an operand. -/
def isInfix : List Token → Bool
  | [] => false
  | t :: rest => t.isOperand && isContinuation rest

/-- Operators each followed by an operand; there may be none. -/
def isContinuation : List Token → Bool
  | [] => true
  | t :: rest => t.isOperator && isInfix rest

end

def Parted (t u : Token) : Prop :=
  ¬ (t.isOperand = true ∧ u.isOperand = true)

theorem isInfix_cons_iff {t : Token} {rest : List Token} :
    isInfix (t :: rest) = true ↔ t.isOperand = true ∧ isContinuation rest = true := by
  rw [isInfix, Bool.and_eq_true]

theorem isContinuation_cons_iff {t : Token} {rest : List Token} :
    isContinuation (t :: rest) = true ↔ t.isOperator = true ∧ isInfix rest = true := by
  rw [isContinuation, Bool.and_eq_true]

theorem isContinuation_cons_cons {op t : Token} {rest : List Token} (hop : op.isOperator = true)
    (ht : t.isOperand = true) (hrest : isContinuation rest = true) :
    isContinuation (op :: t :: rest) = true :=
  isContinuation_cons_iff.mpr ⟨hop, isInfix_cons_iff.mpr ⟨ht, hrest⟩⟩

/-- Induction over a continuation, an operator and its operand at a time. -/
theorem isContinuation_induction {motive : (ts : List Token) → isContinuation ts = true → Prop}
    (nil : motive [] rfl)
    (pair : ∀ op t rest (hop : op.isOperator = true) (ht : t.isOperand = true)
      (hrest : isContinuation rest = true), motive rest hrest →
      motive (op :: t :: rest) (isContinuation_cons_cons hop ht hrest)) :
    ∀ ts (h : isContinuation ts = true), motive ts h
  | [], _ => nil
  | [op], h => by simp [isContinuation, isInfix] at h
  | op :: t :: rest, h => by
    obtain ⟨hop, htail⟩ := isContinuation_cons_iff.mp h
    obtain ⟨ht, hrest⟩ := isInfix_cons_iff.mp htail
    exact pair op t rest hop ht hrest (isContinuation_induction nil pair rest hrest)

theorem isChain_parted_of_isInfix (ts : List Token) :
    (isInfix ts = true → ts.IsChain Parted) ∧
      (isContinuation ts = true → ts.IsChain Parted ∧ Avoids Token.isOperand ts) := by
  induction ts with
  | nil => simp [isInfix, avoids_nil]
  | cons t rest ih =>
    constructor
    · intro h
      obtain ⟨-, hrest⟩ := isInfix_cons_iff.mp h
      obtain ⟨hchain, hhead⟩ := ih.2 hrest
      refine List.isChain_cons.mpr ⟨fun u hu => ?_, hchain⟩
      simp [Parted, hhead u hu]
    · intro h
      obtain ⟨ht, hrest⟩ := isContinuation_cons_iff.mp h
      have htop := Token.isOperand_of_isOperator ht
      refine ⟨List.isChain_cons.mpr ⟨fun u _ => ?_, ih.1 hrest⟩, avoids_cons_iff.mpr htop⟩
      simp [Parted, htop]

/-- Operands stand at the even positions of an infix expression and operators at the odd ones; in a
continuation it is the other way round. -/
theorem isInfix_getElem? (ts : List Token) (i : Nat) {t : Token} (ht : ts[i]? = some t) :
    (isInfix ts = true →
      (i % 2 = 0 → t.isOperand = true) ∧ (i % 2 = 1 → t.isOperator = true)) ∧
    (isContinuation ts = true →
      (i % 2 = 0 → t.isOperator = true) ∧ (i % 2 = 1 → t.isOperand = true)) := by
  induction ts generalizing i with
  | nil => cases ht
  | cons u rest ih =>
    rw [isInfix_cons_iff, isContinuation_cons_iff]
    cases i with
    | zero =>
      cases ht
      exact ⟨fun h => ⟨fun _ => h.1, nofun⟩, fun h => ⟨fun _ => h.1, nofun⟩⟩
    | succ i =>
      obtain ⟨hexpression, hcontinuation⟩ := ih i ht
      constructor
      · intro h
        obtain ⟨heven, hodd⟩ := hcontinuation h.2
        exact ⟨fun hi => hodd (by omega), fun hi => heven (by omega)⟩
      · intro h
        obtain ⟨heven, hodd⟩ := hexpression h.2
        exact ⟨fun hi => hodd (by omega), fun hi => heven (by omega)⟩

/-- Where no two operands are neighbours, there is at most one operand more than operators, and at
most as many if an operator comes first. The greatest count is reached by alternation only. -/
theorem countP_isOperand_le {ts : List Token}
    (hkind : ∀ t ∈ ts, t.isOperand = true ∨ t.isOperator = true) (hchain : ts.IsChain Parted) :
    (ts.countP Token.isOperand ≤ ts.countP Token.isOperator + 1 ∧
      (ts.countP Token.isOperand = ts.countP Token.isOperator + 1 → isInfix ts = true)) ∧
    (Avoids Token.isOperand ts →
      ts.countP Token.isOperand ≤ ts.countP Token.isOperator ∧
      (ts.countP Token.isOperand = ts.countP Token.isOperator → isContinuation ts = true)) := by
  induction ts with
  | nil => simp [isContinuation]
  | cons t rest ih =>
    obtain ⟨hhead, hrestChain⟩ := List.isChain_cons.mp hchain
    have ih := ih (fun u hu => hkind u (List.mem_cons_of_mem t hu)) hrestChain
    rcases hkind t List.mem_cons_self with ht | ht
    · -- after an operand the rest begins with no operand
      have hnot := Token.isOperator_of_isOperand ht
      have hrest : Avoids Token.isOperand rest := by
        intro u hu
        have hparted := hhead u hu
        simpa [Parted, ht] using hparted
      obtain ⟨hle, heq⟩ := ih.2 hrest
      rw [List.countP_cons_of_pos ht, List.countP_cons_of_neg (by simp [hnot])]
      refine ⟨⟨by omega, fun h => ?_⟩, fun h => ?_⟩
      · exact isInfix_cons_iff.mpr ⟨ht, heq (by omega)⟩
      · rw [avoids_cons_iff.mp h] at ht
        exact absurd ht Bool.false_ne_true
    · have hnot := Token.isOperand_of_isOperator ht
      obtain ⟨hle, heq⟩ := ih.1
      rw [List.countP_cons_of_pos ht, List.countP_cons_of_neg (by simp [hnot])]
      refine ⟨⟨by omega, fun h => by omega⟩, fun _ => ⟨hle, fun h => ?_⟩⟩
      exact isContinuation_cons_iff.mpr ⟨ht, heq h⟩

/-- Among balanced lists the infix expressions are those without neighbouring operands. -/
theorem isInfix_iff_of_balanced {ts : List Token}
    (hkind : ∀ t ∈ ts, t.isOperand = true ∨ t.isOperator = true)
    (hcount : ts.countP Token.isOperand = ts.countP Token.isOperator + 1) :
    isInfix ts = true ↔ ts.IsChain Parted := by
  constructor
  · exact (isChain_parted_of_isInfix ts).1
  · intro hchain
    exact (countP_isOperand_le hkind hchain).1.2 hcount

end CalcScript
