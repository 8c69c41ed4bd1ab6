-- SUMMARY: `calculatePrice` at exact rational rates, of which the stored rates are the ten-thousandths.
import HostPlatform.Booking.PriceEngine

/-!
# Prices at exact rates

The columns hold rates of four decimals, `calculatePrice` itself takes any number.
Here a rate is a rational and `Math.round` is `round`, halves up.
-/

namespace HostPlatform.Exact

open Lib (roundDiv)

structure PropertyForPricing where
  nightlyPriceMinor : Int
  cleaningFeeMinor : Int
  currency : String
  accommodationVatRate : Option ℚ
  cleaningVatRate : Option ℚ

structure FeeConfig where
  version : String
  guestServiceFeeRate : ℚ
  hostCommissionRate : ℚ
  taxRate : ℚ

/-- `Math.round(amount * rate)`. -/
def share (amount : Int) (rate : ℚ) : Int := round ((amount : ℚ) * rate)

def taxesMinor (property : PropertyForPricing) (accommodationMinor : Int) (feeConfig : FeeConfig) :
    Option Int :=
  if feeConfig.version = launchFeeVersion then
    match property.accommodationVatRate, property.cleaningVatRate with
    | some accommodationVatRate, some cleaningVatRate =>
      some (share accommodationMinor accommodationVatRate
        + share property.cleaningFeeMinor cleaningVatRate)
    | _, _ => none
  else
    some (share (accommodationMinor + property.cleaningFeeMinor) feeConfig.taxRate)

def calculatePrice (property : PropertyForPricing) (nights : Int) (feeConfig : FeeConfig) :
    Except BookingError PriceBreakdown :=
  if nights ≤ 0 then .error ⟨"ERROR", "nights must be positive"⟩ else
  let accommodationMinor := property.nightlyPriceMinor * nights
  let cleaningMinor := property.cleaningFeeMinor
  let guestServiceFeeMinor := share accommodationMinor feeConfig.guestServiceFeeRate
  match taxesMinor property accommodationMinor feeConfig with
  | none => .error ⟨"ERROR", "Property VAT treatment is unconfigured"⟩
  | some taxesMinor =>
    let guestTotalMinor := accommodationMinor + cleaningMinor + guestServiceFeeMinor + taxesMinor
    let hostCommissionMinor := share accommodationMinor feeConfig.hostCommissionRate
    let hostPayoutMinor := accommodationMinor + cleaningMinor
      + (if feeConfig.version = launchFeeVersion then taxesMinor else 0) - hostCommissionMinor
    let hostRevenueMinor := hostCommissionMinor + guestServiceFeeMinor
    .ok { currency := property.currency
          nights := nights
          accommodationMinor := accommodationMinor
          cleaningMinor := cleaningMinor
          guestServiceFeeMinor := guestServiceFeeMinor
          taxesMinor := taxesMinor
          guestTotalMinor := guestTotalMinor
          hostCommissionMinor := hostCommissionMinor
          hostPayoutMinor := hostPayoutMinor
          hostRevenueMinor := hostRevenueMinor
          feeConfigVersion := feeConfig.version }

/-! ## Shares of an amount -/

section

variable {amount : Int} {rate : ℚ}

theorem share_nonneg (hamount : 0 ≤ amount) (hrate : 0 ≤ rate) : 0 ≤ share amount rate := by
  have hproduct : (0 : ℚ) ≤ amount * rate := mul_nonneg (by exact_mod_cast hamount) hrate
  simp only [share, round_eq]
  exact Int.floor_nonneg.mpr (by linarith)

theorem share_le (hamount : 0 ≤ amount) (hrate : rate ≤ 1) : share amount rate ≤ amount := by
  have hproduct : (amount : ℚ) * rate ≤ amount :=
    mul_le_of_le_one_right (by exact_mod_cast hamount) hrate
  have hfloor : ⌊(amount : ℚ) * rate + 1 / 2⌋ < amount + 1 := by
    refine Int.floor_lt.mpr ?_
    push_cast
    linarith
  simp only [share, round_eq]
  omega

/-- A share of less than half a minor unit is rounded away. -/
theorem share_eq_zero_iff (hamount : 0 ≤ amount) (hrate : 0 ≤ rate) :
    share amount rate = 0 ↔ (amount : ℚ) * rate < 1 / 2 := by
  have hproduct : (0 : ℚ) ≤ amount * rate := mul_nonneg (by exact_mod_cast hamount) hrate
  simp only [share, round_eq, Int.floor_eq_zero_iff, Set.mem_Ico]
  constructor
  · rintro ⟨-, hlt⟩
    linarith
  · intro hlt
    constructor <;> linarith

end

/-! ## The stored rates -/

/-- A `NUMERIC(5,4)` of so many ten-thousandths. -/
def storedRate (rate : Int) : ℚ := (rate : ℚ) / rateScale

def ofStoredProperty (property : HostPlatform.PropertyForPricing) : PropertyForPricing :=
  { nightlyPriceMinor := property.nightlyPriceMinor
    cleaningFeeMinor := property.cleaningFeeMinor
    currency := property.currency
    accommodationVatRate := property.accommodationVatRate.map storedRate
    cleaningVatRate := property.cleaningVatRate.map storedRate }

def ofStoredFeeConfig (feeConfig : HostPlatform.FeeConfig) : FeeConfig :=
  { version := feeConfig.version
    guestServiceFeeRate := storedRate feeConfig.guestServiceFeeRate
    hostCommissionRate := storedRate feeConfig.hostCommissionRate
    taxRate := storedRate feeConfig.taxRate }

theorem share_stored (amount rate : Int) :
    share amount (storedRate rate) = roundDiv (amount * rate) rateScale := by
  rw [Lib.roundDiv_eq_round (by decide)]
  simp only [share, storedRate, Int.cast_mul, mul_div_assoc]

theorem taxesMinor_stored (property : HostPlatform.PropertyForPricing) (accommodationMinor : Int)
    (feeConfig : HostPlatform.FeeConfig) :
    taxesMinor (ofStoredProperty property) accommodationMinor (ofStoredFeeConfig feeConfig) =
      HostPlatform.taxesMinor property accommodationMinor feeConfig := by
  simp only [taxesMinor, HostPlatform.taxesMinor, ofStoredProperty, ofStoredFeeConfig, share_stored]
  cases property.accommodationVatRate with
  | none => simp
  | some accommodationVatRate =>
    cases property.cleaningVatRate with
    | none => simp
    | some cleaningVatRate => simp [share_stored]

/-- On the rates a database can hold, this is the price the bookings are made at. -/
theorem calculatePrice_stored (property : HostPlatform.PropertyForPricing) (nights : Int)
    (feeConfig : HostPlatform.FeeConfig) :
    calculatePrice (ofStoredProperty property) nights (ofStoredFeeConfig feeConfig) =
      HostPlatform.calculatePrice property nights feeConfig := by
  simp only [calculatePrice, HostPlatform.calculatePrice]
  have htaxes := taxesMinor_stored property (property.nightlyPriceMinor * nights) feeConfig
  simp only [ofStoredProperty, ofStoredFeeConfig, share_stored] at htaxes ⊢
  rw [htaxes]
  rfl

end HostPlatform.Exact
