-- SUMMARY: The public property search and the candidates of the AI concierge (`app/api/properties/route.ts`, `guestConcierge.ts`), as the conditions of their queries.
import HostPlatform.Booking.CreateBooking

/-!
# Property search

Both queries are built condition by condition from the same request, each in its own
place. `ILIKE` is a parameter: the two use it alike.
-/

namespace HostPlatform

/-- A parsed `propertySearchQuerySchema`: a guest count in its bounds, and either no
dates or a check-out after the check-in. A text that is given is not empty. -/
structure PropertySearchQuery where
  city : Option String
  district : Option String
  guests : Option Int
  checkIn : Option Int
  checkOut : Option Int
  guestsInBounds : ∀ g, guests = some g → 1 ≤ g ∧ g ≤ 50
  datesTogether : checkIn.isSome = checkOut.isSome
  datesOrdered : ∀ i o, checkIn = some i → checkOut = some o → i < o

/-- A row of `properties`, with the columns that only the searches compare. -/
structure SearchRow where
  property : Property
  city : String
  district : Option String
  slug : Option String

section

variable (ilike : String → String → Bool) (db : Db) (today : Int)

/-- No row that is not `available` among the nights. -/
def noBlockedNight (p : PropertyId) (checkIn checkOut : Int) : Bool :=
  !(enumerateDates checkIn checkOut).any fun d =>
    (db.availability p d).any fun block => decide (block.status ≠ .available)

/-- The conditions of `GET`. -/
def searchConditions (query : PropertySearchQuery) : List (SearchRow → Bool) :=
  [ fun row : SearchRow => decide (row.property.status = .published),
    fun row => decide (row.property.complianceStatus = .approved),
    fun row => !hasExpiredEvidence row.property today ]
  ++ (match query.city with
    | some city => [fun row : SearchRow => ilike row.city city]
    | none => [])
  ++ (match query.district with
    | some district => [fun row : SearchRow => row.district.any fun d => ilike d district]
    | none => [])
  ++ (match query.guests with
    | some guests => [fun row : SearchRow => decide (guests ≤ row.property.maxGuests)]
    | none => [])
  ++ (match query.checkIn, query.checkOut with
    | some checkIn, some checkOut =>
      let nights := nightsBetween checkIn checkOut
      [ fun row : SearchRow => noBlockedNight db row.property.id checkIn checkOut,
        fun row => decide (row.property.minStayNights ≤ nights ∧ nights ≤ row.property.maxStayNights) ]
    | _, _ => [])

/-- The conditions of `listPublicConciergeProperties`. -/
def conciergeConditions (input : PropertySearchQuery) : List (SearchRow → Bool) :=
  [ fun row : SearchRow => decide (row.property.status = .published),
    fun row => decide (row.property.complianceStatus = .approved),
    fun row => row.slug.isSome,
    fun row => !hasExpiredEvidence row.property today ]
  ++ (match input.city with
    | some city => [fun row : SearchRow => ilike row.city city]
    | none => [])
  ++ (match input.district with
    | some district => [fun row : SearchRow => row.district.any fun d => ilike d district]
    | none => [])
  ++ (match input.guests with
    | some guests => [fun row : SearchRow => decide (guests ≤ row.property.maxGuests)]
    | none => [])
  ++ (match input.checkIn, input.checkOut with
    | some checkIn, some checkOut =>
      let nights := nightsBetween checkIn checkOut
      [ fun row : SearchRow => noBlockedNight db row.property.id checkIn checkOut,
        fun row => decide (row.property.minStayNights ≤ nights ∧ nights ≤ row.property.maxStayNights) ]
    | _, _ => [])

/-- The row is in the answer, if the answer is not cut at its limit. -/
def searchAdmits (query : PropertySearchQuery) (row : SearchRow) : Bool :=
  (searchConditions ilike db today query).all fun condition => condition row

def conciergeAdmits (input : PropertySearchQuery) (row : SearchRow) : Bool :=
  (conciergeConditions ilike db today input).all fun condition => condition row

end

section

variable {ilike : String → String → Bool} {db : Db} {today : Int} {query : PropertySearchQuery}
  {row : SearchRow}

/-- The concierge asks for a slug as well, and for nothing else. -/
theorem conciergeAdmits_iff : conciergeAdmits ilike db today query row ↔
    searchAdmits ilike db today query row ∧ row.slug.isSome := by
  simp only [conciergeAdmits, searchAdmits, conciergeConditions, searchConditions, List.all_append,
    List.all_cons, List.all_nil, Bool.and_eq_true]
  tauto

theorem noBlockedNight_iff {p : PropertyId} {checkIn checkOut : Int} :
    noBlockedNight db p checkIn checkOut ↔ firstUnavailable db p checkIn checkOut = none := by
  simp [noBlockedNight, firstUnavailable]

/-- What an admitted row says of a stay. -/
structure SearchRow.Offered (db : Db) (today : Int) (row : SearchRow) (checkIn checkOut guests : Int) :
    Prop where
  published : row.property.status = .published
  approved : row.property.complianceStatus = .approved
  evidence : hasExpiredEvidence row.property today = false
  capacity : guests ≤ row.property.maxGuests
  free : firstUnavailable db row.property.id checkIn checkOut = none
  minStay : row.property.minStayNights ≤ nightsBetween checkIn checkOut
  maxStay : nightsBetween checkIn checkOut ≤ row.property.maxStayNights

theorem offered_of_searchAdmits {checkIn checkOut guests : Int} (hin : query.checkIn = some checkIn)
    (hout : query.checkOut = some checkOut) (hguests : query.guests = some guests)
    (h : searchAdmits ilike db today query row) : row.Offered db today checkIn checkOut guests := by
  simp only [searchAdmits, searchConditions, hin, hout, hguests, List.all_append, List.all_cons,
    List.all_nil, Bool.and_eq_true, Bool.and_true, decide_eq_true_eq, Bool.not_eq_true',
    noBlockedNight_iff] at h
  obtain ⟨⟨⟨⟨⟨hpublished, happroved, hevidence⟩, -⟩, -⟩, hcapacity⟩, hfree, hmin, hmax⟩ := h
  exact ⟨hpublished, happroved, hevidence, hcapacity, hfree, hmin, hmax⟩

end

end HostPlatform
