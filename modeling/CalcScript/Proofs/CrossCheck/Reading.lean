import CalcScript.CrossCheck.Formula
import CalcScript.Proofs.Expression.Infix

/-!
# Reading infix expressions

An infix expression of literals is a sum of products without signs and brackets. The two relations
below give it its formula, one operation at a time from the left, and the reader finds that formula:
a product goes on as far as there are operators of its level, and so does a sum.
-/
namespace CalcScript
open Formula

/-- `product = literal ((* | /) literal)*`, with its formula. -/
inductive ProductFormula : List Token → Formula → Prop where
  | literal {t : Token} {f : Formula} (ht : t.kind = .number) (hf : literal? t = some f) :
      ProductFormula [t] f
  | extend {ts : List Token} {op t : Token} {o : Operator} {f g : Formula}
      (hts : ProductFormula ts f) (hop : operatorAt? 1 op = some o) (ht : t.kind = .number)
      (hg : literal? t = some g) : ProductFormula (ts ++ [op, t]) (.binary o f g)

/-- `sum = product ((+ | -) product)*`, with its formula. -/
inductive SumFormula : List Token → Formula → Prop where
  | product {ts : List Token} {f : Formula} (hts : ProductFormula ts f) : SumFormula ts f
  | extend {ts us : List Token} {op : Token} {o : Operator} {f g : Formula}
      (hts : SumFormula ts f) (hop : operatorAt? 0 op = some o) (hus : ProductFormula us g) :
      SumFormula (ts ++ op :: us) (.binary o f g)

theorem operatorAt?_eq_some_iff {level : Nat} {t : Token} {o : Operator} :
    operatorAt? level t = some o ↔ t.kind.operator? = some o ∧ o.precedence = level := by
  simp [operatorAt?, Option.filter_eq_some_iff]

theorem operatorAt?_of_ne {level other : Nat} {t : Token} {o : Operator}
    (h : operatorAt? level t = some o) (hne : level ≠ other) : operatorAt? other t = none := by
  obtain ⟨hop, rfl⟩ := operatorAt?_eq_some_iff.mp h
  simp [operatorAt?, hop, Option.filter, hne]

/-! ### Every infix expression has a formula -/

theorem SumFormula.extend_product {ts : List Token} {op t : Token} {o : Operator} {f g : Formula}
    (hts : SumFormula ts f) (hop : operatorAt? 1 op = some o) (ht : t.kind = .number)
    (hg : literal? t = some g) : ∃ k, SumFormula (ts ++ [op, t]) k := by
  cases hts with
  | product h => exact ⟨_, .product (h.extend hop ht hg)⟩
  | extend h hplus hus =>
    rw [List.append_assoc]
    exact ⟨_, h.extend hplus (hus.extend hop ht hg)⟩

theorem SumFormula.extend_literal {ts : List Token} {op t : Token} {f g : Formula}
    (hts : SumFormula ts f) (hop : op.isOperator = true) (ht : t.kind = .number)
    (hg : literal? t = some g) : ∃ k, SumFormula (ts ++ [op, t]) k := by
  obtain ⟨o, ho⟩ := Option.isSome_iff_exists.mp hop
  by_cases hlevel : o.precedence = 1
  · exact hts.extend_product (operatorAt?_eq_some_iff.mpr ⟨ho, hlevel⟩) ht hg
  · have hzero : o.precedence = 0 := by cases o <;> simp_all [Operator.precedence]
    exact ⟨_, hts.extend (operatorAt?_eq_some_iff.mpr ⟨ho, hzero⟩) (.literal ht hg)⟩

theorem SumFormula.append_continuation {us : List Token} (hus : isContinuation us = true)
    {ts : List Token} {f : Formula} (hts : SumFormula ts f)
    (hliteral : ∀ t ∈ us, t.isOperand = true → t.kind = .number ∧ ∃ g, literal? t = some g) :
    ∃ k, SumFormula (ts ++ us) k := by
  induction us, hus using isContinuation_induction generalizing ts f with
  | nil => exact ⟨f, by rwa [List.append_nil]⟩
  | pair op t rest hop ht hrest ih =>
    obtain ⟨hkind, g, hg⟩ := hliteral t (by simp) ht
    obtain ⟨k, hk⟩ := hts.extend_literal hop hkind hg
    have hnext := ih hk (fun u hu => hliteral u (by simp [hu]))
    rwa [List.append_assoc] at hnext

theorem exists_sumFormula {ts : List Token} (hts : isInfix ts = true)
    (hliteral : ∀ t ∈ ts, t.isOperand = true → t.kind = .number ∧ ∃ g, literal? t = some g) :
    ∃ f, SumFormula ts f := by
  cases ts with
  | nil => simp [isInfix] at hts
  | cons t rest =>
    obtain ⟨ht, hrest⟩ := isInfix_cons_iff.mp hts
    obtain ⟨hkind, g, hg⟩ := hliteral t List.mem_cons_self ht
    exact SumFormula.append_continuation hrest (.product (.literal hkind hg))
      (fun u hu => hliteral u (List.mem_cons_of_mem t hu))

/-! ### The reader finds the formula -/

namespace Formula

theorem factor?_literal {t : Token} {f : Formula} (ht : t.kind = .number)
    (hf : literal? t = some f) (rest : List Token) :
    factor? (t :: rest) = some (f, ⟨rest, Nat.lt_succ_self rest.length⟩) := by
  rw [factor?]
  simp [ht, hf]

theorem factors_of_loose {rest : List Token} (h : ∀ t ∈ rest.head?, operatorAt? 1 t = none)
    (f : Formula) : factors f rest = (f, ⟨rest, le_rfl⟩) := by
  cases rest with
  | nil => rw [factors]
  | cons t rest =>
    rw [factors]
    simp [h t rfl]

theorem factors_cons {op t : Token} {o : Operator} {f g k : Formula} {rest left : List Token}
    (hop : operatorAt? 1 op = some o) (ht : t.kind = .number) (hg : literal? t = some g)
    {hle : left.length ≤ rest.length} (h : factors (.binary o f g) rest = (k, ⟨left, hle⟩)) :
    ∃ hle, factors f (op :: t :: rest) = (k, ⟨left, hle⟩) := by
  refine ⟨(hle.trans (Nat.le_succ _)).trans (Nat.le_succ _), ?_⟩
  rw [factors]
  simp [hop, factor?_literal ht hg, h]

theorem product?_append {ts : List Token} {f : Formula} (hts : ProductFormula ts f) {k : Formula}
    {rest left : List Token} {hle : left.length ≤ rest.length}
    (h : factors f rest = (k, ⟨left, hle⟩)) :
    ∃ hlt, product? (ts ++ rest) = some (k, ⟨left, hlt⟩) := by
  induction hts generalizing rest k with
  | @literal t f ht hf =>
    rw [List.singleton_append]
    refine ⟨Nat.lt_succ_of_le hle, ?_⟩
    rw [product?]
    simp [factor?_literal ht hf, h]
  | @extend ts op t o f g hts hop ht hg ih =>
    obtain ⟨hle', hfactors⟩ := factors_cons hop ht hg h
    rw [List.append_assoc]
    exact ih hfactors

theorem products_cons {op : Token} {o : Operator} {f g k : Formula} {us rest left : List Token}
    (hop : operatorAt? 0 op = some o) (hus : ProductFormula us g)
    (hrest : ∀ t ∈ rest.head?, operatorAt? 1 t = none) {hle : left.length ≤ rest.length}
    (h : products (.binary o f g) rest = (k, ⟨left, hle⟩)) :
    ∃ hle, products f (op :: (us ++ rest)) = (k, ⟨left, hle⟩) := by
  obtain ⟨hlt, hproduct⟩ := product?_append hus (factors_of_loose hrest g)
  refine ⟨(hle.trans hlt.le).trans (Nat.le_succ _), ?_⟩
  rw [products]
  simp [hop, hproduct, h]

theorem sum?_append {ts : List Token} {f : Formula} (hts : SumFormula ts f) {k : Formula}
    {rest left : List Token} (hrest : ∀ t ∈ rest.head?, operatorAt? 1 t = none)
    {hle : left.length ≤ rest.length} (h : products f rest = (k, ⟨left, hle⟩)) :
    ∃ hlt, sum? (ts ++ rest) = some (k, ⟨left, hlt⟩) := by
  induction hts generalizing rest k with
  | @product ts f hts =>
    obtain ⟨hlt, hproduct⟩ := product?_append hts (factors_of_loose hrest f)
    refine ⟨lt_of_le_of_lt hle hlt, ?_⟩
    rw [sum?]
    simp [hproduct, h]
  | @extend ts us op o f g hts hop hus ih =>
    obtain ⟨hle', hproducts⟩ := products_cons hop hus hrest h
    have hloose : ∀ t ∈ (op :: (us ++ rest)).head?, operatorAt? 1 t = none := by
      intro t ht
      cases ht
      exact operatorAt?_of_ne hop Nat.zero_ne_one
    rw [List.append_assoc]
    exact ih hloose hproducts

/-- The reader finds the formula of a sum. -/
theorem ofTokens?_of_sumFormula {ts : List Token} {f : Formula} (h : SumFormula ts f) :
    ofTokens? ts = some f := by
  have hend : products f [] = (f, ⟨[], le_rfl⟩) := by rw [products]
  have hread := sum?_append h (by simp) hend
  rw [List.append_nil] at hread
  obtain ⟨hlt, hsum⟩ := hread
  rw [ofTokens?]
  simp [hsum]

end Formula
end CalcScript
