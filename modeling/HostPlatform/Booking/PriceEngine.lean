-- SUMMARY: The price of a stay and the refund owed on cancellation, on integer minor units (`priceEngine.ts`, `cancellationEngine.ts`).
import HostPlatform.Lib.Rounding
import HostPlatform.Schema
import Mathlib.Data.List.MinMax

/-!
# Price and cancellation engines

`Math.round(amount * rate)` is `roundDiv` of the exact quotient: a rate is a
number of ten-thousandths and a percentage a number of hundredths. The source
multiplies doubles, and a decimal rate is not one: `100 * 0.145` is a little
under 14.5 and rounds to 14, where the exact product rounds to 15.
-/

namespace HostPlatform

open Lib (roundDiv)

/-- `NUMERIC(5,4)`: rates are stored in ten-thousandths. -/
def rateScale : Int := 10000

def nightsBetween (checkIn checkOut : Int) : Int := checkOut - checkIn

/-- The columns of a property that pricing reads, in minor units. -/
structure PropertyForPricing where
  nightlyPriceMinor : Int
  cleaningFeeMinor : Int
  currency : String
  accommodationVatRate : Option Int
  cleaningVatRate : Option Int

structure PriceBreakdown where
  currency : String
  nights : Int
  accommodationMinor : Int
  cleaningMinor : Int
  guestServiceFeeMinor : Int
  taxesMinor : Int
  guestTotalMinor : Int
  hostCommissionMinor : Int
  hostPayoutMinor : Int
  hostRevenueMinor : Int
  feeConfigVersion : String
  deriving DecidableEq, Repr

/-- The fee version whose VAT rates are per property. -/
def launchFeeVersion : String := "host-15-inclusive-v1"

/-- The taxes of `calculatePrice`; `none` when the property's VAT treatment is
not configured under the launch fee version. -/
def taxesMinor (property : PropertyForPricing) (accommodationMinor : Int) (feeConfig : FeeConfig) :
    Option Int :=
  if feeConfig.version = launchFeeVersion then
    match property.accommodationVatRate, property.cleaningVatRate with
    | some accommodationVatRate, some cleaningVatRate =>
      some (roundDiv (accommodationMinor * accommodationVatRate) rateScale
        + roundDiv (property.cleaningFeeMinor * cleaningVatRate) rateScale)
    | _, _ => none
  else
    some (roundDiv ((accommodationMinor + property.cleaningFeeMinor) * feeConfig.taxRate) rateScale)

/-- The price with exact products of amounts and decimal rates: a half that the
source's doubles round down is rounded up here. -/
def calculatePrice (property : PropertyForPricing) (nights : Int) (feeConfig : FeeConfig) :
    Except BookingError PriceBreakdown :=
  if nights ≤ 0 then .error ⟨"ERROR", "nights must be positive"⟩ else
  let accommodationMinor := property.nightlyPriceMinor * nights
  let cleaningMinor := property.cleaningFeeMinor
  let guestServiceFeeMinor := roundDiv (accommodationMinor * feeConfig.guestServiceFeeRate) rateScale
  match taxesMinor property accommodationMinor feeConfig with
  | none => .error ⟨"ERROR", "Property VAT treatment is unconfigured"⟩
  | some taxesMinor =>
    let guestTotalMinor := accommodationMinor + cleaningMinor + guestServiceFeeMinor + taxesMinor
    let hostCommissionMinor := roundDiv (accommodationMinor * feeConfig.hostCommissionRate) rateScale
    let hostPayoutMinor := accommodationMinor + cleaningMinor
      + (if feeConfig.version = launchFeeVersion then taxesMinor else 0) - hostCommissionMinor
    let hostRevenueMinor := hostCommissionMinor + guestServiceFeeMinor
    .ok { currency := property.currency
          nights := nights
          accommodationMinor := accommodationMinor
          cleaningMinor := cleaningMinor
          guestServiceFeeMinor := guestServiceFeeMinor
          taxesMinor := taxesMinor
          guestTotalMinor := guestTotalMinor
          hostCommissionMinor := hostCommissionMinor
          hostPayoutMinor := hostPayoutMinor
          hostRevenueMinor := hostRevenueMinor
          feeConfigVersion := feeConfig.version }

/-- `ORDER BY effective_from DESC LIMIT 1`. -/
def latestFeeConfig : List FeeConfig → Option FeeConfig
  | [] => none
  | c :: cs =>
    match latestFeeConfig cs with
    | none => some c
    | some d => if d.effectiveFrom ≤ c.effectiveFrom then some c else some d

/-- The active fee configuration with the latest `effective_from`. -/
def getActiveFeeConfig (db : Db) : Except BookingError FeeConfig :=
  match latestFeeConfig (db.feeConfigs.filter FeeConfig.active) with
  | none => .error ⟨"ERROR", "No active fee_configs row — seed one before creating bookings (see scripts/seedFeeConfig.ts)"⟩
  | some feeConfig => .ok feeConfig

/-! ## Cancellation -/

/-- `hoursUntil`, kept in milliseconds: the time left before check-in. -/
def msUntil (checkIn now : Int) : Int := max 0 (startOfDay checkIn - now)

/-- The first tier whose cutoff is still met wins. -/
def refundPercentFor : List CancellationTier → Int → Int
  | [], _ => 0
  | tier :: tiers, msBeforeCheckin =>
    if tier.cutoffHours * msPerHour ≤ msBeforeCheckin then tier.refundPercent
    else refundPercentFor tiers msBeforeCheckin

structure CancellationOutcome where
  refundPercent : Int
  refundableMinor : Int
  hostRetainedMinor : Int
  deriving DecidableEq, Repr

def calculateCancellation (rules : List CancellationTier) (checkIn : Int) (guestTotalMinor : Int)
    (hostPayoutMinor : Int) (now : Int) : CancellationOutcome :=
  let refundPercent := refundPercentFor rules (msUntil checkIn now)
  { refundPercent := refundPercent
    refundableMinor := roundDiv (guestTotalMinor * refundPercent) 100
    hostRetainedMinor := max 0 (roundDiv (hostPayoutMinor * (100 - refundPercent)) 100) }

end HostPlatform
