/-
# `Reviews.Genuine` — reviews are earned

`createReview` reads the booking and looks for an earlier review before its
transaction, and nothing of it is read again.  What it checks lasts all the same:
the booking that was COMPLETED is not touched by reviews, and a second review of
it that was not there yet meets the unique index (`reviews_genuine`).  An update
is refused to anybody but the author, and reaches the rating and the comment
only (`review_by_author`).
-/
import ServiceHub.Reviews.Ratings
import ServiceHub.Txn.Origins
import ServiceHub.Txn.Views

namespace ServiceHub.Reviews

open Data Txn

/-- The review is of a completed booking, by its customer and of its provider. -/
structure Genuine (db : Db) (r : Review) : Prop where
  booking : ∃ b, db.bookings.find? r.bookingId = some b ∧ b.customerId = r.customerId ∧
    b.providerId = r.providerId ∧ b.bookingStatus = .completed
  rating : 1 ≤ r.rating ∧ r.rating ≤ 5

/-- No booking has two reviews. -/
def OnePerBooking (db : Db) : Prop :=
  ∀ r ∈ db.reviews.rows, ∀ s ∈ db.reviews.rows, r.bookingId = s.bookingId → r.id = s.id

/-! ## What a call checks -/

/-- The booking was read. -/
def Booked (h : ReviewHist) (id : Uuid) (b : Booking) : Prop :=
  ∃ h', (⟨.stmt (.findBooking id), .ok (some b)⟩ :: h') <:+ h ∧ sinceBegin h' = none

/-- A review is written over a completed booking of its author, and updated by
its author. -/
def Earns (o : Op) (h : ReviewHist) : Instr Stmt Ext → Prop
  | .stmt (.createReview r) => (∃ b, Booked h r.bookingId b ∧ b.customerId = r.customerId ∧
      b.providerId = r.providerId ∧ b.bookingStatus = .completed) ∧ 1 ≤ r.rating ∧ r.rating ≤ 5
  | .stmt (.updateReview id data) => (∀ n ∈ data.rating, 1 ≤ n ∧ n ≤ 5) ∧
      ∃ customerId dto x, o = .updateReview customerId id dto ∧ Loaded h id x ∧
        x.customerId = customerId
  | _ => True

section
variable {trim : String → String} {o : Op} {h : ReviewHist}

theorem recalculate_earns {providerId : Uuid} :
    Obeys (Earns o) (fun _ _ => True) h (autocommit Ext (recalculate providerId)) := by
  unfold recalculate
  simp only [autocommit_bind]
  refine obeys_bind.mpr (obeys_stmt.mpr ⟨trivial, fun agg => ?_, fun _ => trivial⟩)
  exact obeys_bind.mpr (obeys_stmt.mpr ⟨trivial, fun _ => trivial, fun _ => trivial⟩)

/-- A transaction that writes a review and recalculates. -/
theorem write_earns {s : Stmt} {f : Ans s → ProviderMetrics → Response} {providerId : Uuid}
    (hs : Earns o (⟨.begin, .ok ()⟩ :: h) (.stmt s)) :
    Obeys (Earns o) (fun _ _ => True) h (transaction Ext (do
      let review ← query s
      let metrics ← recalculate providerId
      pure (f review metrics))) := by
  refine obeys_transaction.mpr ⟨trivial, fun _ => trivial, ?_⟩
  rw [autocommit_bind]
  refine Obeys.mono (Q := Earns o) (R := fun _ _ => True) (fun _ _ hq => hq) ?_ ?_
  · rintro h' (e | a) _
    · exact ⟨trivial, fun _ => trivial⟩
    · exact ⟨trivial, trivial, fun _ => trivial⟩
  · refine obeys_bind.mpr (obeys_stmt.mpr ⟨hs, fun review => ?_, fun _ => trivial⟩)
    simp only [autocommit_bind]
    exact recalculate_earns.bind (fun _ _ => trivial) fun _ _ => trivial

theorem del_earns {α : Type} {p : Call α} {key : String}
    (hp : Obeys (Earns o) (fun _ _ => True) h p) :
    Obeys (Earns o) (fun _ _ => True) h (do
      let result ← p
      Prog.perform (Instr.call (.del key))
      pure result) := by
  refine hp.bind (fun h a => ?_) fun _ _ => trivial
  exact Obeys.bind (obeys_perform.mpr ⟨trivial, fun _ => trivial, fun _ => trivial⟩)
    (fun _ _ => trivial) fun _ _ => trivial

theorem createReview_earns {id : Uuid} {now : Time} {customerId : Uuid} {dto : CreateReviewDto}
    {pathBookingId : Option Uuid} : Obeys (Earns o) (fun _ _ => True) []
      (createReview trim id now customerId dto pathBookingId) := by
  unfold createReview
  simp only [obeys_bind, obeys_orThrow, obeys_throwIf]
  refine ⟨fun _ => trivial, fun bookingId _ => ?_⟩
  refine obeys_stmt.mpr ⟨trivial, fun found => ?_, fun _ => trivial⟩
  refine ⟨fun _ => trivial, fun booking hfound => ⟨fun _ => trivial, fun howner => ⟨fun _ => trivial,
    fun hcompleted => ?_⟩⟩⟩
  refine obeys_stmt.mpr ⟨trivial, fun existing => ⟨fun _ => trivial, fun _ => ?_⟩, fun _ => trivial⟩
  have hbooked : Booked [⟨.begin, .ok ()⟩, ⟨.stmt (.findReviewByBooking bookingId), .ok existing⟩,
      ⟨.stmt (.findBooking bookingId), .ok found⟩] bookingId booking :=
    ⟨[], hfound ▸ (List.suffix_cons _ _).trans (List.suffix_cons _ _), rfl⟩
  refine Obeys.mono (R := fun _ _ => True) (fun _ _ hq => hq) ?_ (write_earns ?_)
  · rintro h' (e | result) _
    · trivial
    · exact obeys_perform.mpr ⟨trivial, fun _ => trivial, fun _ => trivial⟩
  · exact ⟨⟨booking, hbooked, not_not.mp howner, rfl, not_not.mp hcompleted⟩, dto.rating_pos,
      dto.rating_le⟩

theorem updateReview_earns {customerId reviewId : Uuid} {dto : UpdateReviewDto} :
    Obeys (Earns (.updateReview customerId reviewId dto)) (fun _ _ => True) []
      (updateReview trim customerId reviewId dto) := by
  unfold updateReview
  simp only [obeys_bind, obeys_orThrow, obeys_throwIf]
  refine obeys_stmt.mpr ⟨trivial, fun found => ?_, fun _ => trivial⟩
  refine ⟨fun _ => trivial, fun review hfound => ⟨fun _ => trivial, fun howner => ?_⟩⟩
  have hloaded : Loaded [⟨.stmt (.findReview reviewId), .ok found⟩] reviewId review :=
    ⟨[], hfound ▸ List.suffix_rfl, rfl⟩
  simp only [obeys_ite]
  refine ⟨fun _ => del_earns (write_earns ?_), fun _ => ?_⟩
  · exact ⟨dto.rating_mem, customerId, dto, review, rfl, hloaded.mono (List.suffix_cons _ _),
      not_not.mp howner⟩
  · refine obeys_bind.mpr (obeys_stmt.mpr ⟨?_, fun _ => trivial, fun _ => trivial⟩)
    exact ⟨fun n hn => absurd hn (Option.not_mem_none n), customerId, dto, review, rfl, hloaded,
      not_not.mp howner⟩

theorem program_earns : Obeys (Earns o) (fun _ _ => True) [] (program trim o) := by
  cases o with
  | createReview id now customerId dto pathBookingId => exact createReview_earns
  | updateReview customerId reviewId dto => exact updateReview_earns

end

/-! ## Runs -/

/-- A review with another rating and comment. -/
def Review.revised (r r' : Review) : Review := { r with rating := r'.rating, comment := r'.comment }

/-- What a statement writes of reviews: a new one, or one that was there with
other columns. -/
theorem written_review {s : Stmt} {db : Db} {a : Ans s} (hexec : Db.exec s db = .ok a)
    {r' : Review} (hw : Row.review r' ∈ s.written a) :
    (s = .createReview r' ∧ db.reviews.find? r'.id = none ∧
      ∀ r ∈ db.reviews.rows, r.bookingId ≠ r'.bookingId) ∨
    ∃ r data, s = .updateReview r'.id data ∧ db.reviews.find? r'.id = some r ∧ r' = data.on r := by
  cases s with
  | createReview row =>
      simp only [Db.exec] at hexec
      split at hexec
      · cases hexec
      rename_i hfree
      split at hexec
      · cases hexec
      split at hexec
      · cases hexec
      rename_i hunique
      cases hexec
      obtain rfl := Row.review.inj (List.mem_singleton.mp hw)
      exact Or.inl ⟨rfl, by simpa using hfree, by simpa using hunique⟩
  | updateReview id data =>
      obtain ⟨r, hr, ha⟩ := written_of_update hexec
      obtain rfl : r' = data.on r := (Row.review.inj (List.mem_singleton.mp hw)).trans ha
      have hid : r.id = id := Table.key_of_find? hr
      exact Or.inr ⟨r, data, by rw [← hid]; rfl, hid.symm ▸ hr, rfl⟩
  | updateStats _ _ _ => cases List.mem_singleton.mp hw
  | _ => exact absurd hw List.not_mem_nil

/-- The statement inserts a review. -/
def Inserts : Stmt → Prop
  | .createReview _ => True
  | _ => False

theorem new_of_inserts {s : Stmt} {db : Db} {a : Ans s} (hs : Inserts s)
    (hexec : Db.exec s db = .ok a) : ∀ w ∈ s.written a, db.get w.key = none := by
  intro w hw
  cases s with
  | createReview row =>
      obtain rfl : w = .review a := List.mem_singleton.mp hw
      rcases written_review hexec hw with ⟨_, hnone, _⟩ | ⟨_, _, hupdate, _⟩
      · exact Option.map_eq_none_iff.mpr hnone
      · cases hupdate
  | _ => exact hs.elim

section
variable {trim : String → String} {db : Db} {Ok : Reviewers → Event Op Exn → Prop}
  {c c' : Reviewers} {e : Event Op Exn} {P : Reviewer}

theorem bookings_of_run (hrun : Run (program trim) Ok ⟨db, []⟩ c)
    (hrun' : Run (program trim) Ok c c') : c'.db.bookings = c.db.bookings :=
  hrun.untouched (f := Db.bookings) (fun db r => by cases r <;> rfl) rfl hrun'

/-- The booking that was read is the one that is stored. -/
theorem Booked.booking {h : ReviewHist} (hrun : Run (program trim) Ok ⟨db, []⟩ c) (hP : P ∈ c.procs)
    (hsuffix : h <:+ P.hist) {id : Uuid} {b : Booking} (hbooked : Booked h id b) :
    c.db.bookings.find? id = some b := by
  obtain ⟨h', hmem, hout⟩ := hbooked
  obtain ⟨c₁, hrun₁, hrun₂, hexec⟩ := hrun.seen rfl hP (hmem.trans hsuffix) hout
  rw [bookings_of_run hrun₁ hrun₂]
  exact Except.ok.inj hexec

/-- What a call is about to write, it has earned. -/
theorem earns_of_run (hrun : Run (program trim) Ok ⟨db, []⟩ c) (hP : P ∈ c.procs) {s : Stmt}
    {k : Except Exn (Ans s) → Call Response} (hk : P.prog = .ask (.stmt s) k) :
    Earns P.op P.hist (.stmt s) := by
  have hobeys := hrun.obeys (fun _ _ _ => program_earns) rfl P hP
  rw [hk] at hobeys
  exact hobeys.1

/-- A review that is written over another one has its identity. -/
def Revises : Row → Row → Prop
  | .review r, .review r' => r' = r.revised r'
  | .provider _, .provider _ => True
  | _, _ => False

theorem revises_trans : ∀ r r' r'' : Row, Revises r r' → Revises r' r'' → Revises r r''
  | .review r, .review r', .review r'', h, h' => by
      have h : r' = r.revised r' := h
      have h' : r'' = r'.revised r'' := h'
      show r'' = r.revised r''
      rw [h', h]
      rfl
  | .provider _, .provider _, .provider _, _, _ => trivial

theorem written_revises {s : Stmt} {db : Db} {a : Ans s} (hexec : Db.exec s db = .ok a) {w : Row}
    (hw : w ∈ s.written a) : db.get w.key = none ∨ ∃ r, db.get w.key = some r ∧ Revises r w := by
  cases w with
  | review r' =>
      rcases written_review hexec hw with ⟨_, hnone, _⟩ | ⟨r, data, _, hr, rfl⟩
      · exact Or.inl (Option.map_eq_none_iff.mpr hnone)
      · exact Or.inr ⟨.review r, Option.map_eq_some_iff.mpr ⟨r, hr, rfl⟩, rfl⟩
  | provider p =>
      rcases written_sameProvider hexec hw with hnone | ⟨r, hr, hsame⟩
      · exact Or.inl hnone
      · cases r with
        | provider q => exact Or.inr ⟨.provider q, hr, trivial⟩
        | review r => exact hsame.elim

theorem revises_refl : ∀ r : Row, Revises r r
  | .review _ => rfl
  | .provider _ => trivial

theorem review_revises (hrun : Run (program trim) Ok ⟨db, []⟩ c)
    (hrun' : Run (program trim) Ok c c') {id : Uuid} {r : Review}
    (hr : c.db.reviews.find? id = some r) :
    ∃ r', c'.db.reviews.find? id = some r' ∧ r' = r.revised r' := by
  have hget : Txn.Database.get c.db (Key.review id) = some (Row.review r) :=
    Option.map_eq_some_iff.mpr ⟨r, hr, rfl⟩
  obtain ⟨w, hw, hrevises⟩ := Run.related revises_refl revises_trans rfl
    (fun _ _ _ hver _ => hver.writesIn revises_trans fun _ _ _ hexec _ hw =>
      written_revises hexec hw) hrun hrun' hget
  obtain ⟨r', hr', rfl⟩ := Option.map_eq_some_iff.mp hw
  exact ⟨r', hr', hrevises⟩

/-- The review that was read has the same author still. -/
theorem Loaded.author {h : ReviewHist} (hrun : Run (program trim) Ok ⟨db, []⟩ c) (hP : P ∈ c.procs)
    (hsuffix : h <:+ P.hist) {id : Uuid} {x r : Review} (hloaded : Loaded h id x)
    (hr : c.db.reviews.find? id = some r) : r.customerId = x.customerId := by
  obtain ⟨h', hmem, hout⟩ := hloaded
  obtain ⟨c₁, hrun₁, hrun₂, hexec⟩ := hrun.seen rfl hP (hmem.trans hsuffix) hout
  obtain ⟨r', hr', hrevised⟩ := review_revises hrun₁ hrun₂ (Except.ok.inj hexec)
  obtain rfl := Option.some.inj (hr.symm.trans hr')
  rw [hrevised]
  rfl

/-! ## Whose reviews are stored -/

/-- What a review is to be, wherever it is stored. -/
def Row.Genuine (db : Db) : Row → Prop
  | .review r => Reviews.Genuine db r
  | .provider _ => True

theorem genuine_of_run (hdb : ∀ r ∈ db.reviews.rows, Genuine db r)
    (hrun : Run (program trim) Ok ⟨db, []⟩ c) : Everywhere (Row.Genuine db) c := by
  refine hrun.everywhere (I := fun _ => Row.Genuine db) ?_ rfl (fun _ _ _ _ _ h => h) ?_
  · intro k r hr
    cases k with
    | review id =>
        obtain ⟨r', hr', rfl⟩ := Option.map_eq_some_iff.mp hr
        exact hdb r' (Table.mem_of_find? hr')
    | provider id =>
        obtain ⟨_, _, rfl⟩ := Option.map_eq_some_iff.mp hr
        trivial
  · intro c hrun P hP s k a hk hexec hview w hw
    have hearns := earns_of_run hrun hP hk
    cases w with
    | provider p => trivial
    | review r' =>
        rcases written_review hexec hw with ⟨rfl, _, _⟩ | ⟨r, data, rfl, hr, rfl⟩
        · obtain ⟨⟨b, hbooked, hrest⟩, hrating⟩ := hearns
          have hb := hbooked.booking hrun hP List.suffix_rfl
          rw [bookings_of_run .start hrun] at hb
          exact ⟨⟨b, hb, hrest⟩, hrating⟩
        · obtain ⟨⟨b, hb, hrest⟩, hrating⟩ := (hview (.review (data.on r).id) (.review r)
            (Option.map_eq_some_iff.mpr ⟨r, hr, rfl⟩) : Reviews.Genuine db r)
          refine ⟨⟨b, hb, hrest⟩, ?_⟩
          cases hset : data.rating with
          | none => simpa [ReviewUpdate.on, hset] using hrating
          | some n => simpa [ReviewUpdate.on, hset] using hearns.1 n hset

/-- Two reviews of one booking. -/
def Twice : Row → Row → Prop
  | .review r, .review s => r.bookingId = s.bookingId ∧ r.id ≠ s.id
  | _, _ => False

theorem twice_comm (w w' : Row) (h : Twice w w') : Twice w' w := by
  cases w <;> cases w' <;> try exact h.elim
  exact ⟨h.1.symm, Ne.symm h.2⟩

/-- A second review of a booking is not inserted beside one that is stored, or
about to be. -/
theorem once_of_created {p : Nat} (hP : c.procs[p]? = some P) (hnone : P.pending = []) {r' : Review}
    (hwait : Txn.Database.waits (.createReview r') (view c.db P) (others c.procs p) = false)
    (hunique : ∀ r ∈ (view c.db P).reviews.rows, r.bookingId ≠ r'.bookingId) {r : Review}
    (hr : Present c (.review r)) : r.bookingId ≠ r'.bookingId := by
  rcases hr with ⟨k, hr⟩ | ⟨Q, hQ, hr⟩
  · have hview : view c.db P = c.db := by
      rw [view, hnone]
      rfl
    rw [hview] at hunique
    cases k with
    | review id =>
        obtain ⟨v, hv, heq⟩ := Option.map_eq_some_iff.mp hr
        cases heq
        exact hunique r (Table.mem_of_find? hv)
    | provider id =>
        obtain ⟨_, _, heq⟩ := Option.map_eq_some_iff.mp hr
        cases heq
  · obtain ⟨q, hq⟩ := List.mem_iff_getElem?.mp hQ
    by_cases hpq : q = p
    · obtain rfl : P = Q := Option.some.inj (hP.symm.trans (hpq ▸ hq))
      rw [hnone] at hr
      exact absurd hr List.not_mem_nil
    · intro hsame
      have hfree := List.any_eq_false.mp hwait (.review r') (List.mem_singleton_self _)
      refine hfree (List.any_eq_true.mpr ⟨.review r, mem_others.mpr ⟨q, Q, hpq, hq, hr⟩, ?_⟩)
      simp [clash, hsame]

/-- The insert comes first in its transaction. -/
theorem pending_of_create (hrun : Run (program trim) Ok ⟨db, []⟩ c) (hP : P ∈ c.procs) {r : Review}
    {k : Except Exn Review → Call Response} (hk : P.prog = .ask (.stmt (.createReview r)) k) :
    P.pending = [] := by
  have hobeys := hrun.obeys (R := fun _ _ _ => True) (fun _ o _ => program_recalculates trim o) rfl
    P hP
  rw [hk] at hobeys
  have hopen : sinceBegin P.hist = some [] := hobeys.1
  rw [Proc.pending, hrun.tx_eq rfl P hP, hopen]
  rfl

theorem once_of_run (honce : OnePerBooking db) (hrun : Run (program trim) Ok ⟨db, []⟩ c) :
    ∀ w w', Present c w → Present c w' → ¬ Twice w w' := by
  refine hrun.enabled.pairwise twice_comm ?_ rfl ?_
  · intro k k' w w' hw hw' htwice
    cases w with
    | provider q => exact htwice
    | review r =>
        cases w' with
        | provider q => exact htwice
        | review s =>
            obtain ⟨hsame, hne⟩ := htwice
            have hmem : ∀ k (x : Review), Txn.Database.get db k = some (Row.review x) →
                x ∈ db.reviews.rows := by
              intro k x hx
              cases k with
              | review id =>
                  obtain ⟨v, hv, heq⟩ := Option.map_eq_some_iff.mp hx
                  cases heq
                  exact Table.mem_of_find? hv
              | provider id =>
                  obtain ⟨_, _, heq⟩ := Option.map_eq_some_iff.mp hx
                  cases heq
            exact hne (honce r (hmem k r hw) s (hmem k' s hw') hsame)
  · intro c p P s k a hrun hok hP hk hexec hnone w hw
    have hmem := List.mem_of_getElem? hP
    cases w with
    | provider q => exact ⟨fun r _ h => h, fun w' _ h => h⟩
    | review r' =>
        rcases written_review hexec hw with ⟨rfl, _, hunique⟩ | ⟨r, data, rfl, hr, rfl⟩
        · have hfresh : ∀ r, Present c (.review r) → r.bookingId ≠ r'.bookingId :=
            fun r hr => once_of_created hP (pending_of_create hrun hmem hk)
              (waits_of_enabled hP hk hok.2) hunique hr
          refine ⟨fun w hw htwice => ?_, fun w' hw' htwice => ?_⟩
          · cases w with
            | provider q => exact htwice
            | review r => exact hfresh r hw htwice.1.symm
          · rw [List.mem_singleton.mp hw] at htwice
            rw [List.mem_singleton.mp hw'] at htwice
            exact htwice.2 rfl
        · have hpresent : Present c (.review r) := present_of_view hmem
            (k := Key.review (data.on r).id) (Option.map_eq_some_iff.mpr ⟨r, hr, rfl⟩)
          refine ⟨fun w hw htwice => ?_, fun w' hw' htwice => ?_⟩
          · cases w with
            | provider q => exact htwice
            | review r₁ => exact hnone _ _ hpresent hw htwice
          · rw [List.mem_singleton.mp hw] at htwice
            rw [List.mem_singleton.mp hw'] at htwice
            exact htwice.2 rfl

end

/-- **Reviews are earned**: in every state of every run each review is of a
completed booking, by its customer and of its provider, with one to five stars,
and no booking has two. -/
theorem reviews_genuine (trim : String → String) (db : Db) (c : Reviewers)
    (hdb : ∀ r ∈ db.reviews.rows, Genuine db r) (honce : OnePerBooking db)
    (hrun : Run (program trim) (fun _ _ => True) ⟨db, []⟩ c) :
    (∀ r ∈ c.db.reviews.rows, Genuine c.db r) ∧ OnePerBooking c.db := by
  have hget : ∀ r ∈ c.db.reviews.rows,
      Txn.Database.get c.db (Key.review r.id) = some (Row.review r) :=
    fun r hr => Option.map_eq_some_iff.mpr ⟨r, Table.find?_of_mem hr, rfl⟩
  refine ⟨fun r hr => ?_, fun r hr s hs hsame => ?_⟩
  · obtain ⟨⟨b, hb, hrest⟩, hrating⟩ :=
      ((genuine_of_run hdb hrun).committed _ _ (hget r hr) : Genuine db r)
    exact ⟨⟨b, bookings_of_run .start hrun ▸ hb, hrest⟩, hrating⟩
  · by_contra hne
    exact once_of_run honce hrun _ _ (Or.inl ⟨_, hget r hr⟩) (Or.inl ⟨_, hget s hs⟩) ⟨hsame, hne⟩

/-- **Only its author changes a review**, and only the rating and the
comment. -/
theorem review_by_author (trim : String → String) (db : Db) (c c' : Reviewers) (e : Event Op Exn)
    (id : Uuid) (r r' : Review) (hrun : Run (program trim) (fun _ _ => True) ⟨db, []⟩ c)
    (hn : next (program trim) c e = some c') (hr : c.db.reviews.find? id = some r)
    (hr' : c'.db.reviews.find? id = some r') (hchange : r' ≠ r) :
    r' = r.revised r' ∧ ∃ (p : Nat) (P : Reviewer) (dto : UpdateReviewDto), e = .exec p ∧
      c.procs[p]? = some P ∧ P.op = .updateReview r.customerId id dto := by
  obtain rfl : r.id = id := Table.key_of_find? hr
  have hid : r'.id = r.id := Table.key_of_find? hr'
  have hget : Txn.Database.get c.db (Key.review r.id) = some (Row.review r) :=
    Option.map_eq_some_iff.mpr ⟨r, hr, rfl⟩
  have hget' : Txn.Database.get c'.db (Key.review r.id) = some (Row.review r') :=
    Option.map_eq_some_iff.mpr ⟨r', hr', rfl⟩
  have hnew : Txn.Database.get c.db (Key.review r.id) ≠ some (Row.review r') := by
    intro hsame
    exact hchange (Row.review.inj (Option.some.inj (hsame.symm.trans hget)))
  obtain ⟨p, P, s, a, rfl, hP, hcommits, hw, ⟨db', hexec⟩, h, hsuffix, hearns⟩ :=
    hrun.changed (fun _ => program_earns) rfl hn hget' hnew
  have hmem := List.mem_of_getElem? hP
  obtain ⟨r₁, hr₁, hrevised⟩ := review_revises hrun (.step .start trivial hn) hr
  obtain rfl := Option.some.inj (hr'.symm.trans hr₁)
  refine ⟨hrevised, p, P, ?_⟩
  rcases written_review hexec hw with ⟨rfl, _⟩ | ⟨r₀, data, rfl, _, _⟩
  · have hnone : Txn.Database.get c.db (Key.review r'.id) = none :=
      hrun.new_of_committing Inserts (fun _ _ _ hs hexec => new_of_inserts hs hexec) rfl hmem
        (s := .createReview r') trivial hcommits hw
    rw [hid, hget] at hnone
    cases hnone
  · obtain ⟨_, customerId, dto, x, hop, hloaded, hauthor⟩ := hearns
    rw [hid] at hop hloaded
    have hsame := hloaded.author hrun hmem hsuffix hr
    exact ⟨dto, rfl, hP, by rw [hop, hsame, hauthor]⟩

/-! ## Two runs -/

namespace Sample

/-- Alice reviews her booking in two tabs at once. -/
def twice : List (Event Op Exn) :=
  [.spawn alice, .spawn (.createReview "rb" 0 "alice" (dto 1 (by decide)) (some "a"))] ++
    List.replicate 2 (.exec 0) ++ List.replicate 3 (.exec 1) ++ List.replicate 6 (.exec 0) ++
    List.replicate 2 (.exec 1)

/-- Alice takes two stars away; the transaction is about to be committed. -/
def second : List (Event Op Exn) :=
  .spawn alice :: List.replicate 8 (.exec 0) ++
    .spawn (.updateReview "alice" "ra" ⟨some 3, none, by decide⟩) :: List.replicate 5 (.exec 1)

end Sample

/-- Of two reviews at once, one is stored. -/
theorem reviews_genuine_sample : ∃ c : Reviewers,
    runChecked (program id) (fun _ _ => True) ⟨Sample.db, []⟩ Sample.twice = some c ∧
    (∀ P ∈ c.procs, P.prog.head.isNone) ∧ c.db.reviews.rows.map (·.rating) = [5] ∧
    (∀ r ∈ c.db.reviews.rows, Genuine c.db r) ∧ OnePerBooking c.db := by
  obtain ⟨c, hc⟩ := Option.isSome_iff_exists.mp
    (show (runChecked (program id) (fun _ _ => True) ⟨Sample.db, []⟩ Sample.twice).isSome by
      decide +kernel)
  have hends : ∀ c ∈ runChecked (program id) (fun _ _ => True) ⟨Sample.db, []⟩ Sample.twice,
      (∀ P ∈ c.procs, P.prog.head.isNone) ∧ c.db.reviews.rows.map (·.rating) = [5] := by
    decide +kernel
  have hnone : ∀ r ∈ Sample.db.reviews.rows, False := by
    intro r hr
    exact absurd hr List.not_mem_nil
  exact ⟨c, hc, (hends c hc).1, (hends c hc).2, reviews_genuine id Sample.db c
    (fun r hr => (hnone r hr).elim) (fun r hr => (hnone r hr).elim) (Run.of_runChecked _ _ hc)⟩

/-- The commit of an update. -/
theorem review_by_author_sample : ∃ (c c' : Reviewers) (r r' : Review),
    runChecked (program id) (fun _ _ => True) ⟨Sample.db, []⟩ Sample.second = some c ∧
    next (program id) c (.exec 1) = some c' ∧ r.rating = 5 ∧ r'.rating = 3 ∧
    r' = r.revised r' ∧ ∃ (p : Nat) (P : Reviewer) (dto : UpdateReviewDto),
      (Event.exec 1 : Event Op Exn) = .exec p ∧ c.procs[p]? = some P ∧
      P.op = .updateReview r.customerId "ra" dto := by
  have hbefore : ∀ c ∈ runChecked (program id) (fun _ _ => True) ⟨Sample.db, []⟩ Sample.second,
      ((c.db.reviews.find? "ra").any (·.rating == 5)) = true ∧
      ((next (program id) c (.exec 1)).any fun c' =>
        (c'.db.reviews.find? "ra").any (·.rating == 3)) = true := by decide +kernel
  obtain ⟨c, hc⟩ := Option.isSome_iff_exists.mp
    (show (runChecked (program id) (fun _ _ => True) ⟨Sample.db, []⟩ Sample.second).isSome by
      decide +kernel)
  obtain ⟨hfive, hstep⟩ := hbefore c hc
  obtain ⟨r, hr, hfive⟩ := (Option.any_eq_true _ _).mp hfive
  obtain ⟨c', hn, hthree⟩ := (Option.any_eq_true _ _).mp hstep
  obtain ⟨r', hr', hthree⟩ := (Option.any_eq_true _ _).mp hthree
  have hfive : r.rating = 5 := by simpa using hfive
  have hthree : r'.rating = 3 := by simpa using hthree
  have hchange : r' ≠ r := by
    intro hsame
    rw [hsame, hfive] at hthree
    cases hthree
  exact ⟨c, c', r, r', hc, hn, hfive, hthree, review_by_author id Sample.db c c' (.exec 1) "ra" r r'
    (Run.of_runChecked _ _ hc) hn hr hr' hchange⟩

end ServiceHub.Reviews
