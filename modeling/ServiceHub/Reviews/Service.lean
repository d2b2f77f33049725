/-
# `Reviews.Service` — reviews, and the rating of a provider

`ReviewService.createReview` and `updateReview`, with the part of the database
that they work on as an instance of `Txn.Database`.  Both write a review in a
transaction, aggregate the provider's reviews in it, and overwrite the
provider's `averageRating` and `totalReviews` with what they got; an update that
leaves the rating alone is one statement.

**Constraints.**  `Review.bookingId` is unique, so that a second review of a
booking waits for the first one.  Inserting a review does not lock its
provider's row against an update of the ratings.

`AVG` is taken as an exact rational, and `toFixed(2)` takes halves up.
-/
import Mathlib
import ServiceHub.Operations

namespace ServiceHub.Reviews

open Data Txn

/-- The table `reviews`; a booking has at most one. -/
structure Review where
  id : Uuid
  bookingId : Uuid
  customerId : Uuid
  providerId : Uuid
  rating : Nat
  comment : Option String
  createdAt : Time

/-- The tables that reviews are about. -/
structure Db where
  users : Table User Uuid User.id
  bookings : Table Booking Uuid Booking.id
  reviews : Table Review Uuid Review.id
  providers : Table ProviderProfile Uuid ProviderProfile.id

/-- What a review writes: itself, and the metrics of the provider. -/
inductive Row where
  | review (r : Review)
  | provider (p : ProviderProfile)

inductive Key where
  | review (id : Uuid)
  | provider (id : Uuid)
  deriving DecidableEq

def Row.key : Row → Key
  | .review r => .review r.id
  | .provider p => .provider p.id

/-- Two rows that a unique index keeps apart. -/
def clash : Row → Row → Bool
  | .review r, .review s => r.bookingId == s.bookingId
  | _, _ => false

/-! ## Aggregates -/

/-- `_avg: { rating: true }, _count: { rating: true }`. -/
structure RatingAggregate where
  avg : Option ℚ
  count : Nat

def mean (xs : List Nat) : ℚ := (xs.sum : ℚ) / xs.length

/-- The average of no ratings is `null`. -/
def aggregate (ratings : List Nat) : RatingAggregate where
  avg := if ratings = [] then none else some (mean ratings)
  count := ratings.length

/-- `x.toFixed(2)`, of a number that is not negative. -/
def toFixed2 (x : ℚ) : ℚ := (x * 100 + 1 / 2).floor / 100

namespace Db

def get (db : Db) : Key → Option Row
  | .review id => (db.reviews.find? id).map .review
  | .provider id => (db.providers.find? id).map .provider

/-- The row in place of that of its key, or as a new one. -/
def put (db : Db) : Row → Db
  | .review r => { db with reviews := db.reviews.put r }
  | .provider p => { db with providers := db.providers.put p }

/-- The ratings of a provider's reviews. -/
def ratings (db : Db) (providerId : Uuid) : List Nat :=
  (db.reviews.rows.filter (·.providerId == providerId)).map (·.rating)

/-- Some row that the review refers to does not exist. -/
def dangling (db : Db) (r : Review) : Bool :=
  (db.bookings.find? r.bookingId).isNone || (db.users.find? r.customerId).isNone ||
    (db.providers.find? r.providerId).isNone

end Db

/-! ## Statements -/

/-- The columns of a review that an update sets. -/
structure ReviewUpdate where
  rating : Option Nat := none
  comment : Option (Option String) := none

/-- The review after the update; what is not set stays. -/
def ReviewUpdate.on (data : ReviewUpdate) (r : Review) : Review :=
  { r with
    rating := data.rating.getD r.rating
    comment := data.comment.getD r.comment }

/-- The metrics are written together. -/
def withStats (averageRating : ℚ) (totalReviews : Nat) (p : ProviderProfile) : ProviderProfile :=
  { p with averageRating := averageRating, totalReviews := totalReviews }

/-- The statements of the review repository. -/
inductive Stmt where
  | findBooking (id : Uuid)
  | findReview (id : Uuid)
  | findReviewByBooking (bookingId : Uuid)
  | createReview (r : Review)
  | updateReview (id : Uuid) (data : ReviewUpdate)
  | aggregateRating (providerId : Uuid)
  | updateStats (providerId : Uuid) (averageRating : ℚ) (totalReviews : Nat)

abbrev Ans : Stmt → Type
  | .findBooking _ => Option Booking
  | .findReview _ => Option Review
  | .findReviewByBooking _ => Option Review
  | .createReview _ => Review
  | .updateReview _ _ => Review
  | .aggregateRating _ => RatingAggregate
  | .updateStats _ _ _ => ProviderProfile

/-- UPDATE of the row under an id. -/
def update {R : Type} (f : R → R) : Option R → Except Exn R
  | none => .error (.knownRequest "P2025" "No record was found for an update")
  | some r => .ok (f r)

def Db.exec : (s : Stmt) → Db → Except Exn (Ans s)
  | .findBooking id, db => .ok (db.bookings.find? id)
  | .findReview id, db => .ok (db.reviews.find? id)
  | .findReviewByBooking bookingId, db =>
      .ok (db.reviews.rows.find? (·.bookingId == bookingId))
  | .createReview r, db =>
      if (db.reviews.find? r.id).isSome then .error (.failure "id already taken")
      else if db.dangling r then .error (.knownRequest "P2003" "Foreign key constraint violated")
      else if db.reviews.rows.any (·.bookingId == r.bookingId) then
        .error (.knownRequest "P2002" "Unique constraint failed")
      else .ok r
  | .updateReview id data, db => update data.on (db.reviews.find? id)
  | .aggregateRating providerId, db => .ok (aggregate (db.ratings providerId))
  | .updateStats providerId averageRating totalReviews, db =>
      -- `Decimal(3, 2)`
      if 10 ≤ averageRating then .error (.driver "22003" "numeric field overflow")
      else update (withStats averageRating totalReviews) (db.providers.find? providerId)

def Stmt.written : (s : Stmt) → Ans s → List Row
  | .createReview _, r => [.review r]
  | .updateReview _ _, r => [.review r]
  | .updateStats _ _ _, p => [.provider p]
  | _, _ => []

/-- The rows that a statement would write. -/
def Stmt.targets (db : Db) : Stmt → List Row
  | .createReview r => [.review r]
  | .updateReview id data => ((db.reviews.find? id).map fun r => Row.review (data.on r)).toList
  | .updateStats providerId averageRating totalReviews =>
      ((db.providers.find? providerId).map fun p =>
        Row.provider (withStats averageRating totalReviews p)).toList
  | _ => []

instance : Txn.Database Db Row Key Stmt Exn Ans where
  key := Row.key
  get := Db.get
  put := Db.put
  exec := Db.exec
  written := Stmt.written
  waits s db others := (s.targets db).any fun r =>
    others.any fun o => decide (o.key = r.key) || clash r o

theorem Db.get_put (db : Db) (r : Row) (k : Key) :
    (db.put r).get k = if r.key = k then some r else db.get k := by
  cases r <;> cases k <;> simp only [Db.put, Db.get, Row.key, reduceCtorEq, if_false,
    Key.review.injEq, Key.provider.injEq, Table.find?_put] <;> split <;> rfl

theorem written_of_update {R : Type} {f : R → R} {old : Option R} {x : R}
    (h : update f old = .ok x) : ∃ y, old = some y ∧ x = f y := by
  cases old with
  | none => cases h
  | some y =>
      cases h
      exact ⟨y, rfl, rfl⟩

instance : Txn.Lawful Db where
  get_put := Db.get_put
  apart := by
    intro s db others a hwait hexec r hr o ho hk
    have htarget : r ∈ s.targets db := by
      cases s with
      | createReview r₀ =>
          simp only [Database.exec, Db.exec] at hexec
          split at hexec
          · cases hexec
          split at hexec
          · cases hexec
          split at hexec
          · cases hexec
          cases hexec
          exact hr
      | updateReview id data =>
          obtain ⟨x, hx, rfl⟩ := written_of_update hexec
          rw [List.mem_singleton.mp hr]
          simp [Stmt.targets, hx]
      | updateStats providerId averageRating totalReviews =>
          simp only [Database.exec, Db.exec] at hexec
          split at hexec
          · cases hexec
          obtain ⟨p, hp, rfl⟩ := written_of_update hexec
          rw [List.mem_singleton.mp hr]
          simp [Stmt.targets, hp]
      | _ => exact absurd hr List.not_mem_nil
    have hany := List.any_eq_false.mp hwait r htarget
    refine hany (List.any_eq_true.mpr ⟨o, ho, ?_⟩)
    rw [show o.key = r.key from hk, decide_eq_true rfl]
    rfl
  alone := by
    intro s db
    simp [Database.waits]

/-! ## The service -/

abbrev Query (α : Type) : Type := Prog Stmt Ans Exn α

abbrev query (s : Stmt) : Query (Ans s) := Prog.perform s

/-- `redisService.del(key)`, which throws nothing. -/
inductive Ext where
  | del (key : String)

abbrev Call (α : Type) : Type := Prog (Instr Stmt Ext) (Instr.Ans Ans) Exn α

namespace ReviewRepository

def create (row : Review) : Query Review := query (.createReview row)

def update (id : Uuid) (data : ReviewUpdate) : Query Review := query (.updateReview id data)

def findById (id : Uuid) : Query (Option Review) := query (.findReview id)

def findByBookingId (bookingId : Uuid) : Query (Option Review) :=
  query (.findReviewByBooking bookingId)

def aggregateProviderRating (providerId : Uuid) : Query RatingAggregate :=
  query (.aggregateRating providerId)

/-- The average is rounded to two digits as it is written. -/
def updateProviderRatingStats (providerId : Uuid) (averageRating : ℚ) (totalReviews : Nat) :
    Query ProviderProfile :=
  query (.updateStats providerId (toFixed2 averageRating) totalReviews)

end ReviewRepository

/-- `CreateReviewDto`; the rating is from 1 to 5. -/
structure CreateReviewDto where
  bookingId : Option Uuid
  rating : Nat
  comment : Option String
  rating_pos : 1 ≤ rating
  rating_le : rating ≤ 5

/-- `UpdateReviewDto`; a rating that is sent is from 1 to 5. -/
structure UpdateReviewDto where
  rating : Option Nat
  comment : Option String
  rating_mem : ∀ r ∈ rating, 1 ≤ r ∧ r ≤ 5

structure ProviderMetrics where
  averageRating : ℚ
  totalReviews : Nat

/-- A review, with the metrics that were recalculated for it. -/
structure Response where
  review : Review
  providerMetrics : Option ProviderMetrics

/-- `"provider:profile:" + providerId`. -/
def profileKey (providerId : Uuid) : String := "provider:profile:" ++ providerId

section
-- `text.trim()`
variable (trim : String → String)

/-- `comment?.trim() || null`. -/
def trimmed (comment : Option String) : Option String :=
  (comment.map trim).filter (· ≠ "")

/-- Recalculate provider metrics. -/
def recalculate (providerId : Uuid) : Query ProviderMetrics := do
  let agg ← ReviewRepository.aggregateProviderRating providerId
  let _ ← ReviewRepository.updateProviderRatingStats providerId (agg.avg.getD 0) agg.count
  pure ⟨toFixed2 (agg.avg.getD 0), agg.count⟩

/-- The transaction: the review, and the metrics with it. -/
def createReviewTx (row : Review) : Query Response := do
  let review ← ReviewRepository.create row
  let metrics ← recalculate row.providerId
  pure ⟨review, some metrics⟩

/-- `id` and `now` are the columns that the database fills in. -/
def createReview (id : Uuid) (now : Time) (customerId : Uuid) (dto : CreateReviewDto)
    (pathBookingId : Option Uuid) : Call Response := do
  let bookingId ← Prog.orThrow ((pathBookingId.filter (· ≠ "")).or (dto.bookingId.filter (· ≠ "")))
    (.badRequest "bookingId must be provided in URL or body")
  let found ← autocommit Ext (query (.findBooking bookingId))
  let booking ← Prog.orThrow found (.notFound s!"Booking \"{bookingId}\" not found")
  Prog.throwIf (booking.customerId ≠ customerId)
    (.forbidden "You are not authorized to review a booking that does not belong to you")
  Prog.throwIf (booking.bookingStatus ≠ .completed)
    (.badRequest s!"Cannot review booking in \"{booking.bookingStatus}\" status. Booking must be COMPLETED.")
  let existingReview ← autocommit Ext (ReviewRepository.findByBookingId bookingId)
  Prog.throwIf existingReview.isSome
    (.conflict "A review has already been submitted for this booking")
  let result ← transaction Ext (createReviewTx
    { id := id, bookingId := bookingId, customerId := customerId, providerId := booking.providerId
      rating := dto.rating, comment := trimmed trim dto.comment, createdAt := now })
  Prog.perform (Instr.call (.del (profileKey booking.providerId)))
  pure result

/-- `comment: dto.comment !== undefined ? … : undefined`. -/
def commentUpdate (comment : Option String) : Option (Option String) :=
  comment.map fun text => trimmed trim (some text)

/-- The transaction of a new rating. -/
def updateReviewTx (reviewId providerId : Uuid) (data : ReviewUpdate) : Query Response := do
  let updated ← ReviewRepository.update reviewId data
  let metrics ← recalculate providerId
  pure ⟨updated, some metrics⟩

/-- The metrics are recalculated only for another rating. -/
def updateReview (customerId reviewId : Uuid) (dto : UpdateReviewDto) : Call Response := do
  let found ← autocommit Ext (ReviewRepository.findById reviewId)
  let review ← Prog.orThrow found (.notFound "Review not found")
  Prog.throwIf (review.customerId ≠ customerId)
    (.forbidden "You are not authorized to update this review")
  if dto.rating.isSome ∧ dto.rating ≠ some review.rating then do
    let result ← transaction Ext (updateReviewTx reviewId review.providerId
      { rating := dto.rating, comment := commentUpdate trim dto.comment })
    Prog.perform (Instr.call (.del (profileKey review.providerId)))
    pure result
  else do
    let updated ← autocommit Ext
      (ReviewRepository.update reviewId { comment := commentUpdate trim dto.comment })
    pure ⟨updated, none⟩

/-- What a customer may ask for. -/
inductive Op where
  | createReview (id : Uuid) (now : Time) (customerId : Uuid) (dto : CreateReviewDto)
      (pathBookingId : Option Uuid)
  | updateReview (customerId reviewId : Uuid) (dto : UpdateReviewDto)

def program : Op → Call Response
  | .createReview id now customerId dto pathBookingId =>
      createReview trim id now customerId dto pathBookingId
  | .updateReview customerId reviewId dto => updateReview trim customerId reviewId dto

end

end ServiceHub.Reviews
