import ControlPlane.Database

/-!
# Pricing of usage

`price_usage` in Python's decimal arithmetic, and the cascade of settlements
along the path from an organization to its root.
-/

namespace ControlPlane

open DecimalArithmetic

/-- `GIB`. -/
def gib : Nat := 1024 * 1024 * 1024

/-- Digits of Python's default decimal context. -/
def contextPrecision : Nat := 28

/-- A panel's `usage_coefficient`, a decimal with four places. -/
def coefficientDecimal (tenThousandths : Nat) : Decimal := ⟨tenThousandths, -4⟩

/-- The price of a number of bytes. The result of the division is rounded half up. -/
def priceUsage (deltaBytes rateIrr : Int) (factor : Decimal) : Except Failure Int :=
  if deltaBytes < 0 ∨ rateIrr < 0 then throw (.valueError "negative usage/rate")
  else
    let product := ((Decimal.ofNat deltaBytes.toNat).mul contextPrecision
      (.ofNat rateIrr.toNat)).mul contextPrecision factor
    match (product.div contextPrecision (.ofNat gib)).quantizeUnit contextPrecision with
    | some amount => pure amount
    -- decimal.InvalidOperation is no ValueError
    | none => throw .unexpected

structure Settlement where
  childId : Id
  parentId : Id
  deltaBytes : Int
  rateIrr : Int
  amountIrr : Int
  deriving DecidableEq, Repr

/-- One edge of the hierarchy: child, parent and contract rate. -/
structure Edge where
  childId : Id
  parentId : Id
  rateIrr : Int
  deriving DecidableEq, Repr

/-- The settlement of a usage on one edge. -/
def settlement (deltaBytes : Int) (factor : Decimal) (edge : Edge) : Except Failure Settlement :=
  (priceUsage deltaBytes edge.rateIrr factor).map fun amount =>
    ⟨edge.childId, edge.parentId, deltaBytes, edge.rateIrr, amount⟩

/-- The settlements of a positive usage, one for each edge. -/
def cascade (deltaBytes : Int) (edges : List Edge) (factor : Decimal) :
    Except Failure (List Settlement) :=
  if 0 < deltaBytes then edges.mapM (settlement deltaBytes factor) else pure []

/-- A settlement names its edge and carries its price. -/
theorem settlement_eq_ok {deltaBytes : Int} {factor : Decimal} {edge : Edge}
    {settled : Settlement} (computed : settlement deltaBytes factor edge = .ok settled) :
    settled.childId = edge.childId ∧ settled.parentId = edge.parentId ∧
      priceUsage deltaBytes edge.rateIrr factor = .ok settled.amountIrr := by
  unfold settlement at computed
  cases price : priceUsage deltaBytes edge.rateIrr factor with
  | error exception => simp [price, Except.map] at computed
  | ok amount =>
      simp only [price, Except.map, Except.ok.injEq] at computed
      subst computed
      exact ⟨rfl, rfl, rfl⟩

/-- A cascade settles each edge, in order. -/
theorem cascade_eq_ok {deltaBytes : Int} {edges : List Edge} {factor : Decimal}
    {settlements : List Settlement} (computed : cascade deltaBytes edges factor = .ok settlements)
    (positive : 0 < deltaBytes) :
    List.Forall₂ (fun edge settled => settlement deltaBytes factor edge = .ok settled)
      edges settlements := by
  rw [cascade, if_pos positive] at computed
  induction edges generalizing settlements with
  | nil =>
      cases computed
      exact .nil
  | cons edge edges inductionHypothesis =>
      rw [List.mapM_cons] at computed
      cases head : settlement deltaBytes factor edge with
      | error exception => simp [head, bind, Except.bind] at computed
      | ok first =>
          cases rest : edges.mapM (settlement deltaBytes factor) with
          | error exception => simp [head, rest, bind, Except.bind] at computed
          | ok others =>
              simp only [head, rest, bind, Except.bind, pure, Except.pure,
                Except.ok.injEq] at computed
              subst computed
              exact .cons head (inductionHypothesis rest)

end ControlPlane
