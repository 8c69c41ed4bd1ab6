-- SUMMARY: The ledger rows a succeeded refund adds, by cumulative-target allocation (`refundReversal.ts`).
import HostPlatform.Lib.Double
import HostPlatform.Lib.Outcome
import HostPlatform.Schema

/-!
# Refund reversal

Each event reverses, in every category, the difference between the rounded share
of the cumulative refund and what is reversed already. The share is a rounded quotient of
doubles in the source and of integers here: the same while the product is below `2 ^ 52`.
-/

namespace HostPlatform

open Lib (require roundDiv)

/-- The keys of `PriceComponentsForReversal`, in the order of `CATEGORY_KEYS`. -/
inductive Category where
  | accommodation | cleaning | guestServiceFee | taxes | hostCommission | hostRevenue | hostPayout
  deriving DecidableEq, Repr

def Category.all : List Category :=
  [.accommodation, .cleaning, .guestServiceFee, .taxes, .hostCommission, .hostRevenue, .hostPayout]

def Category.ledgerType : Category → LedgerType
  | .accommodation => .accommodationRevenue
  | .cleaning => .cleaningFee
  | .guestServiceFee => .guestServiceFee
  | .taxes => .taxes
  | .hostCommission => .hostCommission
  | .hostRevenue => .hostRevenue
  | .hostPayout => .hostPayout

def PriceComponents.amountOf (pc : PriceComponents) : Category → Int
  | .accommodation => pc.accommodationMinor
  | .cleaning => pc.cleaningMinor
  | .guestServiceFee => pc.guestServiceFeeMinor
  | .taxes => pc.taxesMinor
  | .hostCommission => pc.hostCommissionMinor
  | .hostRevenue => pc.hostRevenueMinor
  | .hostPayout => pc.hostPayoutMinor

structure LedgerReversalRow where
  type : LedgerType
  amountMinor : Int
  status : LedgerStatus
  deriving DecidableEq, Repr

structure RefundReversalResult where
  rows : List LedgerReversalRow
  hostPayoutReversalMinor : Int
  deriving DecidableEq, Repr

/-- The total reversal of a category once `cumulative` of `charge` is refunded, on exact
integers. -/
def reversalTarget (original cumulative charge : Int) : Int := roundDiv (original * cumulative) charge

/-- What the doubles of the source compute, up to the size where they round a product or lose a half. -/
theorem roundShare_eq_reversalTarget {original cumulative charge : Int} (ho : 0 ≤ original) (hc : 0 ≤ cumulative)
    (hcharge : 0 < charge) (hlt : original * cumulative < 2 ^ 52) :
    Lib.Double.roundShare original cumulative charge = reversalTarget original cumulative charge :=
  Lib.Double.roundShare_eq ho hc hcharge hlt

def computeRefundReversalEntries (original alreadyReversed : Category → Int)
    (refundAmountForThisEvent cumulativeRefundedAmount originalChargeAmount : Int) :
    Except BookingError RefundReversalResult := do
  require (0 < originalChargeAmount)
    ⟨"ERROR", s!"originalChargeAmount must be positive, got {originalChargeAmount}"⟩
  require (0 ≤ cumulativeRefundedAmount ∧ cumulativeRefundedAmount ≤ originalChargeAmount)
    ⟨"ERROR", s!"cumulativeRefundedAmount ({cumulativeRefundedAmount}) must be between 0 and originalChargeAmount ({originalChargeAmount})"⟩
  let increment (c : Category) : Int :=
    reversalTarget (original c) cumulativeRefundedAmount originalChargeAmount - alreadyReversed c
  return {
    rows := ⟨.refund, refundAmountForThisEvent, .paid⟩ ::
      Category.all.map fun c => ⟨c.ledgerType, -increment c, .reversed⟩
    hostPayoutReversalMinor := increment .hostPayout }

theorem computeRefundReversalEntries_eq_ok {original alreadyReversed : Category → Int}
    {amount cumulative charge : Int} {r : RefundReversalResult} :
    computeRefundReversalEntries original alreadyReversed amount cumulative charge = .ok r ↔
      0 < charge ∧ (0 ≤ cumulative ∧ cumulative ≤ charge) ∧
      r = { rows := ⟨.refund, amount, .paid⟩ :: Category.all.map fun c =>
              ⟨c.ledgerType, -(reversalTarget (original c) cumulative charge - alreadyReversed c),
                .reversed⟩
            hostPayoutReversalMinor :=
              reversalTarget (original .hostPayout) cumulative charge - alreadyReversed .hostPayout } := by
  unfold computeRefundReversalEntries
  simp only [Lib.bind_eq_ok, Lib.require_eq_ok, exists_and_left, exists_const]
  constructor
  · rintro ⟨hcharge, hcum, h⟩
    cases h
    exact ⟨hcharge, hcum, rfl⟩
  · rintro ⟨hcharge, hcum, rfl⟩
    exact ⟨hcharge, hcum, rfl⟩

end HostPlatform
