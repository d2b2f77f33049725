/-
# `Reviews.Ratings` — the rating of a provider, and its reviews

A provider's `averageRating` and `totalReviews` are written by the transaction
that writes a review, from what it has aggregated.

**What fails.**  The aggregate sees its own review and the committed ones.  Two
reviews of two bookings of a provider do not wait for each other before the
provider's row is written, and neither sees the other; the second to write
overwrites the first (`not_ratings_exact`).

**What holds.**  `Undisturbed`: no review is committed while another call has
aggregated the same provider in its open transaction.  Then an aggregate stays
true until it is committed (`Fresh.next`), and the columns are exact in every
committed state (`ratings_exact`).
-/
import ServiceHub.Reviews.Service
import ServiceHub.Txn.History

namespace ServiceHub.Reviews

open Data Txn

/-! ## The reviews of a provider -/

/-- Which review of the provider rates what. -/
def scores (db : Db) (providerId : Uuid) : List (Uuid × Nat) :=
  (db.reviews.rows.filter (·.providerId == providerId)).map fun r => (r.id, r.rating)

theorem ratings_eq (db : Db) (providerId : Uuid) :
    db.ratings providerId = (scores db providerId).map Prod.snd := by
  simp [Db.ratings, scores]

/-- Insert a score, or replace the one of the same review. -/
def insertScore (s : List (Uuid × Nat)) (x : Uuid × Nat) : List (Uuid × Nat) :=
  if ∀ y ∈ s, y.1 ≠ x.1 then s ++ [x] else s.map fun y => if y.1 = x.1 then x else y

section
variable {db : Db} {r x : Review} {providerId : Uuid}

theorem scores_put (hr : r.providerId = providerId)
    (hold : ∀ x, db.reviews.find? r.id = some x → x.providerId = providerId) :
    scores (db.put (.review r)) providerId =
      insertScore (scores db providerId) (r.id, r.rating) := by
  cases hfind : db.reviews.find? r.id with
  | none =>
      have hnew : ∀ y ∈ scores db providerId, y.1 ≠ r.id := by
        intro y hy
        obtain ⟨z, hz, rfl⟩ := List.mem_map.mp hy
        exact Table.find?_eq_none.mp hfind z (List.mem_filter.mp hz).1
      rw [insertScore, if_pos hnew]
      simp [scores, Db.put, Table.rows_put_of_new hfind, hr]
  | some x =>
      obtain ⟨l, l', hrows, hput, hne⟩ := Table.rows_put_split hfind
      have hx := hold x hfind
      have hid : x.id = r.id := Table.key_of_find? hfind
      have hmem : (x.id, x.rating) ∈ scores db providerId :=
        List.mem_map.mpr ⟨x, List.mem_filter.mpr ⟨Table.mem_of_find? hfind, by simp [hx]⟩, rfl⟩
      have hsame : ∀ m : List Review, (∀ y ∈ m, y ∈ l ++ l') →
          ((m.filter (·.providerId == providerId)).map fun r => (r.id, r.rating)).map
            (fun y => if y.1 = r.id then (r.id, r.rating) else y) =
          (m.filter (·.providerId == providerId)).map fun r => (r.id, r.rating) := by
        intro m hm
        rw [List.map_map]
        refine List.map_congr_left fun y hy => ?_
        exact if_neg (hne y (hm y (List.mem_filter.mp hy).1))
      rw [insertScore, if_neg fun hall => hall _ hmem hid]
      simp only [scores, Db.put, hrows, hput, List.filter_append, List.filter_cons, hr, hx,
        List.map_append, List.map_cons, if_pos hid, beq_self_eq_true, if_true,
        hsame l fun y hy => List.mem_append_left _ hy,
        hsame l' fun y hy => List.mem_append_right _ hy]

/-- A review of another provider does not count. -/
theorem scores_put_other (hr : r.providerId ≠ providerId)
    (hold : ∀ x, db.reviews.find? r.id = some x → x.providerId ≠ providerId) :
    scores (db.put (.review r)) providerId = scores db providerId := by
  cases hfind : db.reviews.find? r.id with
  | none => simp [scores, Db.put, Table.rows_put_of_new hfind, hr]
  | some x =>
      obtain ⟨l, l', hrows, hput, _⟩ := Table.rows_put_split hfind
      simp [scores, Db.put, hrows, hput, hr, hold x hfind]

/-- Nor does an update that leaves the rating alone. -/
theorem scores_put_rating (hfind : db.reviews.find? r.id = some x)
    (hprovider : x.providerId = r.providerId) (hrating : x.rating = r.rating) :
    scores (db.put (.review r)) providerId = scores db providerId := by
  obtain ⟨l, l', hrows, hput, _⟩ := Table.rows_put_split hfind
  have hid : x.id = r.id := Table.key_of_find? hfind
  simp only [scores, Db.put, hrows, hput, List.filter_append, List.filter_cons, hprovider]
  split <;> simp [hid, hrating]

end

/-! ## What a call issues -/

abbrev ReviewHist : Type := Hist (Instr Stmt Ext) (Instr.Ans Ans) Exn

/-- The review was read before the transaction. -/
def Loaded (h : ReviewHist) (id : Uuid) (x : Review) : Prop :=
  ∃ h', (⟨.stmt (.findReview id), .ok (some x)⟩ :: h') <:+ h ∧ sinceBegin h' = none

/-- The statement writes a review of the provider. -/
def Reviewed (h : ReviewHist) (providerId : Uuid) : (s : Stmt) × Ans s → Prop
  | ⟨.createReview r, _⟩ => r.providerId = providerId
  | ⟨.updateReview id _, _⟩ => ∃ x, Loaded h id x ∧ x.providerId = providerId
  | _ => False

/-- The statements of a transaction: the review, the aggregate, and the columns
of the provider that are set to it. -/
inductive Recalculated (h : ReviewHist) (providerId : Uuid) (agg : RatingAggregate) :
    List ((s : Stmt) × Ans s) → Prop where
  | mk {x : (s : Stmt) × Ans s} (p : ProviderProfile) : Reviewed h providerId x →
      Recalculated h providerId agg
        [⟨.updateStats providerId (toFixed2 (agg.avg.getD 0)) agg.count, p⟩,
          ⟨.aggregateRating providerId, agg⟩, x]

/-- Outside a transaction no rating is written; inside, the three statements
follow each other. -/
def Recalculates (h : ReviewHist) : Instr Stmt Ext → Prop
  | .begin => sinceBegin h = none
  | .commit => ∃ providerId agg l, sinceBegin h = some l ∧ Recalculated h providerId agg l
  | .stmt (.createReview _) => sinceBegin h = some []
  | .stmt (.updateReview _ data) =>
      sinceBegin h = some [] ∨ sinceBegin h = none ∧ data.rating = none
  | .stmt (.aggregateRating providerId) =>
      ∃ x, sinceBegin h = some [x] ∧ Reviewed h providerId x
  | .stmt (.updateStats providerId averageRating totalReviews) =>
      ∃ agg x, sinceBegin h = some [⟨.aggregateRating providerId, agg⟩, x] ∧
        Reviewed h providerId x ∧ averageRating = toFixed2 (agg.avg.getD 0) ∧
        totalReviews = agg.count
  | .stmt _ => sinceBegin h = none
  | _ => True

section
variable {h h' : ReviewHist} {providerId : Uuid}

theorem Loaded.mono {id : Uuid} {x : Review} (hx : Loaded h id x) (hsuffix : h <:+ h') :
    Loaded h' id x := by
  obtain ⟨h₀, hmem, hout⟩ := hx
  exact ⟨h₀, hmem.trans hsuffix, hout⟩

theorem Reviewed.mono {x : (s : Stmt) × Ans s} (hx : Reviewed h providerId x)
    (hsuffix : h <:+ h') : Reviewed h' providerId x := by
  obtain ⟨s, a⟩ := x
  cases s with
  | createReview r => exact hx
  | updateReview id data =>
      obtain ⟨x, hloaded, hprovider⟩ := hx
      exact ⟨x, hloaded.mono hsuffix, hprovider⟩
  | _ => exact hx

/-- After the review is written. -/
theorem recalculate_obeys {x : (s : Stmt) × Ans s} (hopen : sinceBegin h = some [x])
    (hx : Reviewed h providerId x) :
    Obeys Recalculates (fun h' r => r.isOk → ∃ agg l, sinceBegin h' = some l ∧
      Recalculated h' providerId agg l) h (autocommit Ext (recalculate providerId)) := by
  unfold recalculate
  rw [autocommit_bind]
  refine obeys_bind.mpr (obeys_stmt.mpr ⟨⟨x, hopen, hx⟩, fun agg => ?_, fun e => nofun⟩)
  have hopen' : sinceBegin (⟨.stmt (.aggregateRating providerId), .ok agg⟩ :: h) =
      some [⟨.aggregateRating providerId, agg⟩, x] := by simp [sinceBegin, hopen]
  have hx' := hx.mono (List.suffix_cons ⟨.stmt (.aggregateRating providerId), .ok agg⟩ h)
  simp only [autocommit_bind]
  refine obeys_bind.mpr (obeys_stmt.mpr ⟨⟨agg, x, hopen', hx', rfl, rfl⟩, fun p _ => ?_,
    fun e => nofun⟩)
  exact ⟨agg, _, by simp [sinceBegin, hopen], .mk p (hx'.mono (List.suffix_cons _ _))⟩

/-- The body of a transaction that may be committed where it returns. -/
def Commits {α : Type} (h : ReviewHist) : Except Exn α → Prop
  | .ok _ => Recalculates h .commit
  | .error _ => True

/-- A body that has written a review and recalculates. -/
theorem recalculate_commits {α : Type} {f : ProviderMetrics → α} {x : (s : Stmt) × Ans s}
    (hopen : sinceBegin h = some [x]) (hx : Reviewed h providerId x) :
    Obeys Recalculates Commits h
      (autocommit Ext (recalculate providerId >>= fun metrics => pure (f metrics))) := by
  rw [autocommit_bind]
  refine obeys_bind.mpr ((recalculate_obeys hopen hx).mono (fun _ _ hi => hi) ?_)
  rintro h' (e | metrics) hdone
  · trivial
  · obtain ⟨agg, l, hl, hrecalculated⟩ := hdone rfl
    exact ⟨providerId, agg, l, hl, hrecalculated⟩

theorem createReviewTx_obeys {row : Review} (hopen : sinceBegin h = some []) :
    Obeys Recalculates Commits h (autocommit Ext (createReviewTx row)) := by
  unfold createReviewTx
  rw [autocommit_bind]
  refine obeys_bind.mpr (obeys_stmt.mpr ⟨hopen, fun review => ?_, fun e => trivial⟩)
  refine recalculate_commits (x := ⟨.createReview row, review⟩) ?_ rfl
  simp [sinceBegin, hopen]

theorem updateReviewTx_obeys {id : Uuid} {data : ReviewUpdate} {x : Review}
    (hopen : sinceBegin h = some []) (hx : Loaded h id x) (hprovider : x.providerId = providerId) :
    Obeys Recalculates Commits h (autocommit Ext (updateReviewTx id providerId data)) := by
  unfold updateReviewTx
  rw [autocommit_bind]
  refine obeys_bind.mpr (obeys_stmt.mpr ⟨Or.inl hopen, fun review => ?_, fun e => trivial⟩)
  refine recalculate_commits (x := ⟨.updateReview id data, review⟩) ?_
    ⟨x, hx.mono (List.suffix_cons _ _), hprovider⟩
  simp [sinceBegin, hopen]

/-- `$transaction(body)`, where nothing is asked of what follows. -/
theorem transaction_obeys {α : Type} {body : Query α} (hout : sinceBegin h = none)
    (hbody : Obeys Recalculates Commits (⟨.begin, .ok ()⟩ :: h) (autocommit Ext body)) :
    Obeys Recalculates (fun _ _ => True) h (transaction Ext body) := by
  refine obeys_transaction.mpr ⟨hout, fun _ => trivial, hbody.mono (fun _ _ hi => hi) ?_⟩
  rintro h' (e | a) hdone
  · exact ⟨trivial, fun _ => trivial⟩
  · exact ⟨hdone, trivial, fun _ => trivial⟩

/-- What follows the transaction is a call to the outside. -/
theorem del_obeys {α : Type} {p : Call α} {key : String}
    (hp : Obeys Recalculates (fun _ _ => True) h p) :
    Obeys Recalculates (fun _ _ => True) h (do
      let result ← p
      Prog.perform (Instr.call (.del key))
      pure result) := by
  refine Obeys.bind hp (fun h a => ?_) fun _ _ => trivial
  exact Obeys.bind (obeys_perform.mpr ⟨trivial, fun _ => trivial, fun _ => trivial⟩)
    (fun _ _ => trivial) fun _ _ => trivial

end

section
variable (trim : String → String)

theorem createReview_obeys (id : Uuid) (now : Time) (customerId : Uuid) (dto : CreateReviewDto)
    (pathBookingId : Option Uuid) : Obeys Recalculates (fun _ _ => True) []
      (createReview trim id now customerId dto pathBookingId) := by
  unfold createReview
  simp only [obeys_bind, obeys_orThrow, obeys_throwIf]
  refine ⟨fun _ => trivial, fun bookingId _ => ?_⟩
  refine obeys_stmt.mpr ⟨rfl, fun found => ?_, fun _ => trivial⟩
  refine ⟨fun _ => trivial, fun booking _ => ⟨fun _ => trivial, fun _ => ⟨fun _ => trivial,
    fun _ => ?_⟩⟩⟩
  refine obeys_stmt.mpr ⟨rfl, fun existing => ?_, fun _ => trivial⟩
  refine ⟨fun _ => trivial, fun _ => ?_⟩
  have htx : ∀ h : ReviewHist, sinceBegin h = none → ∀ row,
      Obeys Recalculates (fun _ _ => True) h (transaction Ext (createReviewTx row)) :=
    fun h hout row => transaction_obeys hout (createReviewTx_obeys (by simp [sinceBegin, hout]))
  refine (htx _ rfl _).mono (fun _ _ hi => hi) ?_
  rintro h (e | result) _
  · trivial
  · exact obeys_perform.mpr ⟨trivial, fun _ => trivial, fun _ => trivial⟩

theorem updateReview_obeys (customerId reviewId : Uuid) (dto : UpdateReviewDto) :
    Obeys Recalculates (fun _ _ => True) [] (updateReview trim customerId reviewId dto) := by
  unfold updateReview
  simp only [obeys_bind, obeys_orThrow, obeys_throwIf]
  refine obeys_stmt.mpr ⟨rfl, fun found => ?_, fun _ => trivial⟩
  refine ⟨fun _ => trivial, fun review hfound => ⟨fun _ => trivial, fun _ => ?_⟩⟩
  simp only [obeys_ite]
  refine ⟨fun _ => ?_, fun _ => ?_⟩
  · have hloaded : Loaded (⟨.begin, .ok ()⟩ :: [⟨.stmt (.findReview reviewId), .ok found⟩])
        reviewId review := ⟨[], hfound ▸ List.suffix_cons _ _, rfl⟩
    exact del_obeys (transaction_obeys rfl (updateReviewTx_obeys rfl hloaded rfl))
  · refine obeys_bind.mpr (obeys_stmt.mpr ⟨Or.inr ⟨rfl, rfl⟩, fun _ => trivial, fun _ => trivial⟩)

theorem program_recalculates (o : Op) :
    Obeys Recalculates (fun _ _ => True) [] (program trim o) := by
  cases o with
  | createReview id now customerId dto pathBookingId =>
      exact createReview_obeys trim id now customerId dto pathBookingId
  | updateReview customerId reviewId dto => exact updateReview_obeys trim customerId reviewId dto

end

/-! ## Runs -/

abbrev Reviewer : Type := Proc Op Row Stmt Ext Ans Exn Response

abbrev Reviewers : Type := Config Op Db Row Stmt Ext Ans Exn Response

/-- A review keeps its provider. -/
def SameProvider : Row → Row → Prop
  | .review x, .review y => x.providerId = y.providerId
  | .provider _, .provider _ => True
  | _, _ => False

theorem sameProvider_refl : ∀ r : Row, SameProvider r r
  | .review _ => rfl
  | .provider _ => trivial

theorem sameProvider_trans : ∀ r r' r'' : Row, SameProvider r r' → SameProvider r' r'' →
    SameProvider r r''
  | .review _, .review _, .review _, h, h' => h.trans h'
  | .provider _, .provider _, .provider _, _, _ => trivial

/-- What a statement writes: a row under a new key, or what was there with other
columns. -/
theorem written_sameProvider {s : Stmt} {db : Db} {a : Ans s} (hexec : Db.exec s db = .ok a)
    {w : Row} (hw : w ∈ s.written a) :
    db.get w.key = none ∨ ∃ r, db.get w.key = some r ∧ SameProvider r w := by
  cases s with
  | createReview r =>
      simp only [Db.exec] at hexec
      split at hexec
      · cases hexec
      rename_i hfree
      split at hexec
      · cases hexec
      split at hexec
      · cases hexec
      cases hexec
      rw [List.mem_singleton.mp hw]
      exact Or.inl (Option.map_eq_none_iff.mpr (by simpa using hfree))
  | updateReview id data =>
      obtain ⟨x, hx, rfl⟩ := written_of_update hexec
      have hid : id = (data.on x).id := (Table.key_of_find? hx).symm
      rw [List.mem_singleton.mp hw]
      exact Or.inr ⟨.review x, Option.map_eq_some_iff.mpr ⟨x, hid ▸ hx, rfl⟩, rfl⟩
  | updateStats providerId averageRating totalReviews =>
      simp only [Db.exec] at hexec
      split at hexec
      · cases hexec
      obtain ⟨p, hp, rfl⟩ := written_of_update hexec
      have hid : providerId = (withStats averageRating totalReviews p).id :=
        (Table.key_of_find? hp).symm
      rw [List.mem_singleton.mp hw]
      exact Or.inr ⟨.provider p, Option.map_eq_some_iff.mpr ⟨p, hid ▸ hp, rfl⟩, trivial⟩
  | _ => exact absurd hw List.not_mem_nil

section
variable {trim : String → String} {db : Db} {Ok : Reviewers → Event Op Exn → Prop}
  {c c' : Reviewers} {e : Event Op Exn} {P : Reviewer}

theorem writesIn_sameProvider (hver : Versions SameProvider c) : WritesIn SameProvider c e :=
  hver.writesIn sameProvider_trans fun _ _ _ hexec _ hw => written_sameProvider hexec hw

/-- An uncommitted review is of the provider that the committed one is of. -/
theorem provider_of_pending (hrun : Run (program trim) Ok ⟨db, []⟩ c) (hP : P ∈ c.procs)
    {r x : Review} (hr : .review r ∈ P.pending) (hx : c.db.reviews.find? r.id = some x) :
    x.providerId = r.providerId := by
  have hver : Versions SameProvider c :=
    hrun.versions rfl fun _ _ _ hver _ => writesIn_sameProvider hver
  exact hver P hP _ hr (.review x) (Option.map_eq_some_iff.mpr ⟨x, hx, rfl⟩)

/-- A review that was read is still there, of the same provider. -/
theorem review_of_loaded (hrun : Run (program trim) Ok ⟨db, []⟩ c) (hP : P ∈ c.procs) {id : Uuid}
    {x : Review} (hx : Loaded P.hist id x) :
    ∃ y, c.db.reviews.find? id = some y ∧ y.providerId = x.providerId := by
  obtain ⟨h', hmem, hout⟩ := hx
  obtain ⟨c₁, hrun₁, hrun₂, hexec⟩ := Run.seen rfl hrun hP hmem hout
  have hfind : c₁.db.reviews.find? id = some x := Except.ok.inj hexec
  have hget : Database.get c₁.db (Key.review id) = some (Row.review x) :=
    Option.map_eq_some_iff.mpr ⟨x, hfind, rfl⟩
  obtain ⟨r, hr, hsame⟩ := Run.related sameProvider_refl sameProvider_trans rfl
    (fun _ _ _ hver _ => writesIn_sameProvider hver) hrun₁ hrun₂ hget
  obtain ⟨y, hy, rfl⟩ := Option.map_eq_some_iff.mp hr
  exact ⟨y, hy, Eq.symm hsame⟩

/-- The review that a transaction writes is of the provider that it
recalculates. -/
theorem review_of_reviewed (hrun : Run (program trim) Ok ⟨db, []⟩ c) (hP : P ∈ c.procs)
    {x : (s : Stmt) × Ans s} (hmem : x ∈ (sinceBegin P.hist).getD []) {providerId : Uuid}
    (hx : Reviewed P.hist providerId x) :
    ∃ r, x.1.written x.2 = [.review r] ∧ .review r ∈ P.pending ∧ r.providerId = providerId := by
  obtain ⟨s, a⟩ := x
  obtain ⟨db₁, hexec⟩ := Run.executed rfl hrun hP (mem_of_sinceBegin hmem)
  cases s with
  | createReview r =>
      have ha : a = r := by
        simp only [Database.exec, Db.exec] at hexec
        split at hexec
        · cases hexec
        split at hexec
        · cases hexec
        split at hexec
        · cases hexec
        cases hexec
        rfl
      refine ⟨a, rfl, Run.mem_pending rfl hrun hP hmem (List.mem_singleton.mpr rfl), ?_⟩
      rw [ha]
      exact hx
  | updateReview id data =>
      obtain ⟨y, hloaded, hprovider⟩ := hx
      obtain ⟨z, hz, rfl⟩ := written_of_update hexec
      have hpending := Run.mem_pending rfl hrun hP hmem (List.mem_singleton.mpr rfl)
      refine ⟨data.on z, rfl, hpending, ?_⟩
      obtain ⟨y', hy', hsame⟩ := review_of_loaded hrun hP hloaded
      have hid : id = (data.on z).id := (Table.key_of_find? hz).symm
      have hlocked := provider_of_pending hrun hP hpending (hid ▸ hy')
      exact hlocked.symm.trans (hsame.trans hprovider)
  | _ => exact hx.elim

/-- The providers that the call has aggregated in its open transaction. -/
def recalculating (P : Reviewer) : List Uuid :=
  ((sinceBegin P.hist).getD []).filterMap fun
    | ⟨.aggregateRating providerId, _⟩ => some providerId
    | _ => none

def commits (P : Reviewer) : Bool :=
  match P.prog.head with
  | some .commit => true
  | _ => false

/-- No call commits a review while another one has aggregated the same provider
in its open transaction. -/
def Undisturbed (c : Reviewers) : Event Op Exn → Prop
  | .exec p => ∀ P ∈ c.procs[p]?, commits P → ∀ Q ∈ c.procs.eraseIdx p,
      ∀ providerId ∈ recalculating P, providerId ∉ recalculating Q
  | _ => True

instance (c : Reviewers) (e : Event Op Exn) : Decidable (Undisturbed c e) := by
  unfold Undisturbed
  split <;> infer_instance

theorem mem_recalculating {providerId : Uuid} {agg : RatingAggregate}
    (h : ⟨.aggregateRating providerId, agg⟩ ∈ (sinceBegin P.hist).getD []) :
    providerId ∈ recalculating P :=
  List.mem_filterMap.mpr ⟨_, h, rfl⟩

/-- A call commits the review `r` of the provider `providerId`, and `q`, which
carries what it has aggregated. -/
structure Rates (c c' : Reviewers) (P : Reviewer) (providerId : Uuid) (agg : RatingAggregate)
    (r : Review) (q : ProviderProfile) : Prop where
  commits : commits P = true
  aggregated : ⟨.aggregateRating providerId, agg⟩ ∈ (sinceBegin P.hist).getD []
  review : ∀ x, .review x ∈ P.pending → x = r
  provider : q.id = providerId
  totalReviews : q.totalReviews = agg.count
  averageRating : q.averageRating = toFixed2 (agg.avg.getD 0)
  providers : c'.db.providers = c.db.providers.put q
  scores : scores c'.db providerId = insertScore (scores c.db providerId) (r.id, r.rating)
  others : ∀ w, w ≠ providerId → Reviews.scores c'.db w = Reviews.scores c.db w

/-- What a call issues next. -/
theorem recalculates_of_head (hrun : Run (program trim) Ok ⟨db, []⟩ c) (hP : P ∈ c.procs)
    {i : Instr Stmt Ext} {k : Except Exn (i.Ans Ans) → Call Response} (hk : P.prog = .ask i k) :
    Recalculates P.hist i := by
  have hobeys := hrun.obeys (fun _ o _ => program_recalculates trim o) rfl P hP
  rw [hk] at hobeys
  exact hobeys.1

/-- **What a step commits**: nothing that counts, or a review with the columns of
its provider. -/
theorem rates_next (hrun : Run (program trim) Ok ⟨db, []⟩ c)
    (hn : next (program trim) c e = some c') :
    ((∀ v, scores c'.db v = scores c.db v) ∧ c'.db.providers = c.db.providers) ∨
    ∃ p P providerId agg r q, e = .exec p ∧ c.procs[p]? = some P ∧
      Rates c c' P providerId agg r q := by
  rcases Run.db_next rfl hrun hn with hsame | ⟨p, P, hP, rfl, ⟨k, l, hk, hopen, hdb⟩ |
      ⟨s, k, a, hk, hout, hexec, hdb⟩⟩
  · rw [hsame]
    exact Or.inl ⟨fun _ => rfl, rfl⟩
  · have hmem := List.mem_of_getElem? hP
    obtain ⟨providerId, agg, l', hopen', hrecalculated⟩ := recalculates_of_head hrun hmem hk
    obtain rfl := Option.some.inj (hopen.symm.trans hopen')
    cases hrecalculated with
    | @mk x q hx =>
        have hin : ∀ {y}, y ∈ [⟨.updateStats providerId (toFixed2 (agg.avg.getD 0)) agg.count, q⟩,
            ⟨.aggregateRating providerId, agg⟩, x] → y ∈ (sinceBegin P.hist).getD [] := by
          rw [hopen]
          exact id
        obtain ⟨r, hwritten, hpending, hprovider⟩ :=
          review_of_reviewed hrun hmem (hin (by simp)) hx
        obtain ⟨db₁, hstats⟩ := Run.executed rfl hrun hmem (mem_of_sinceBegin
          (hin List.mem_cons_self))
        simp only [Database.exec, Db.exec] at hstats
        split at hstats
        · cases hstats
        obtain ⟨q₀, hq₀, rfl⟩ := written_of_update hstats
        have hrows : rowsOf Db [⟨.updateStats providerId (toFixed2 (agg.avg.getD 0)) agg.count,
            withStats (toFixed2 (agg.avg.getD 0)) agg.count q₀⟩,
            ⟨.aggregateRating providerId, agg⟩, x] =
              [.review r, .provider (withStats (toFixed2 (agg.avg.getD 0)) agg.count q₀)] := by
          have hone : rowsOf Db [x] = [.review r] := by
            simp [rowsOf, show Database.written Db x.1 x.2 = [.review r] from hwritten]
          rw [rowsOf_cons, rowsOf_cons, hone]
          rfl
        have hlocked := fun x hx => provider_of_pending hrun hmem (x := x) hpending hx
        refine Or.inr ⟨p, P, providerId, agg, r, withStats (toFixed2 (agg.avg.getD 0)) agg.count q₀,
          rfl, hP, ?_⟩
        rw [hrows] at hdb
        exact
          { commits := by simp [commits, hk, Prog.head]
            aggregated := hin (by simp)
            review := by
              intro y hy
              rw [Proc.pending, Run.tx_eq rfl hrun P hmem, hopen, Option.map_some, hrows] at hy
              simpa using hy
            provider := show q₀.id = providerId from Table.key_of_find? hq₀
            totalReviews := rfl
            averageRating := rfl
            providers := congrArg Db.providers hdb
            scores := (congrArg (scores · providerId) hdb).trans
              (scores_put hprovider fun x hx => (hlocked x hx).trans hprovider)
            others := fun w hw => (congrArg (Reviews.scores · w) hdb).trans
              (scores_put_other (fun h => hw (h.symm.trans hprovider))
                fun x hx h => hw (h.symm.trans ((hlocked x hx).trans hprovider))) }
  · have hlogic := recalculates_of_head hrun (List.mem_of_getElem? hP) hk
    left
    cases s with
    | createReview r => exact absurd (hout.symm.trans hlogic) (by simp)
    | updateReview id data =>
        rcases hlogic with hopen | ⟨_, hrating⟩
        · exact absurd (hout.symm.trans hopen) (by simp)
        · obtain ⟨x, hx, rfl⟩ := written_of_update hexec
          have hfind : c.db.reviews.find? (data.on x).id = some x := by
            rw [show (data.on x).id = x.id from rfl, Table.key_of_find? hx]
            exact hx
          have hsame : x.rating = (data.on x).rating := by simp [ReviewUpdate.on, hrating]
          rw [hdb]
          exact ⟨fun v => scores_put_rating hfind rfl hsame, rfl⟩
    | aggregateRating v =>
        obtain ⟨_, hopen, _⟩ := hlogic
        exact absurd (hout.symm.trans hopen) (by simp)
    | updateStats v averageRating totalReviews =>
        obtain ⟨_, _, hopen, _⟩ := hlogic
        exact absurd (hout.symm.trans hopen) (by simp)
    | _ =>
        rw [hdb]
        exact ⟨fun _ => rfl, rfl⟩

/-- What a call has aggregated in its open transaction is true of the committed
reviews under its own. -/
def Fresh (c : Reviewers) : Prop :=
  ∀ P ∈ c.procs, ∀ providerId agg,
    ⟨.aggregateRating providerId, agg⟩ ∈ (sinceBegin P.hist).getD [] →
      ∃ r, .review r ∈ P.pending ∧
        agg = aggregate ((insertScore (scores c.db providerId) (r.id, r.rating)).map Prod.snd)

/-- The step lemma. -/
theorem Fresh.next (hrun : Run (program trim) Undisturbed ⟨db, []⟩ c) (hok : Undisturbed c e)
    (hn : next (program trim) c e = some c') (hfresh : Fresh c) : Fresh c' := by
  have hafter : Run (program trim) Undisturbed ⟨db, []⟩ c' := .step hrun hok hn
  have hrates := rates_next hrun hn
  rcases next_cases _ hn with ⟨o, rfl, rfl⟩ | ⟨p, P, i, k, res, tx, db', hP, hk, heff, rfl⟩
  · intro Q hQ
    rcases List.mem_append.mp hQ with hQ | hQ
    · exact hfresh Q hQ
    · rw [List.mem_singleton.mp hQ]
      exact fun _ _ hmem => absurd hmem List.not_mem_nil
  have hmem := List.mem_of_getElem? hP
  intro Q hQ v agg hagg
  obtain ⟨q, hq⟩ := List.mem_iff_getElem?.mp hQ
  by_cases hpq : p = q
  · subst hpq
    simp only [List.getElem?_set_self (List.getElem?_eq_some_iff.mp hP).1, Option.some.injEq] at hq
    subst hq
    rcases mem_sinceBegin_cons hagg with hold | hnew
    · -- the transaction goes on, so nothing is committed
      obtain ⟨r, hr, heq⟩ := hfresh P hmem v agg hold
      obtain ⟨x, hx, hw⟩ := Run.written_of_pending rfl hrun hmem hr
      have hr' := Run.mem_pending rfl hafter hQ (sinceBegin_subset hagg hx) hw
      exact ⟨r, hr', heff.db_of_mem hr' ▸ heq⟩
    · cases hnew
      obtain ⟨x, hopen, hreviewed⟩ := recalculates_of_head hrun hmem hk
      have hx : x ∈ (sinceBegin P.hist).getD [] := by simp [hopen]
      obtain ⟨r, hwritten, hpending, hprovider⟩ := review_of_reviewed hrun hmem hx hreviewed
      have hwrote : Database.written Db x.1 x.2 = [.review r] := hwritten
      have hr' := Run.mem_pending rfl hafter hQ (sinceBegin_subset hagg hx)
        (by rw [hwrote]; exact List.mem_singleton.mpr rfl)
      refine ⟨r, hr', ?_⟩
      obtain ⟨_, hexec⟩ := heff.exec_of_ok
      have htx : P.tx.getD [] = [.review r] := by
        rw [Run.tx_eq rfl hrun P hmem, hopen]
        simp [rowsOf, hwrote]
      rw [htx] at hexec
      have hlocked := fun y hy => provider_of_pending hrun hmem (x := y) hpending hy
      rw [heff.db_of_mem hr', ← scores_put hprovider fun y hy => (hlocked y hy).trans hprovider,
        ← ratings_eq]
      exact (Except.ok.inj hexec).symm
  · rw [List.getElem?_set_ne hpq] at hq
    obtain ⟨r, hr, heq⟩ := hfresh Q (List.mem_of_getElem? hq) v agg hagg
    refine ⟨r, hr, ?_⟩
    rcases hrates with ⟨hsame, _⟩ | ⟨p', P', w, agg', r', q', rfl, hP', hrates⟩
    · rw [hsame]
      exact heq
    · obtain rfl : p = p' := by
        rcases heff.actor with he | ⟨x, he⟩ <;> cases he
        rfl
      have hother := List.mem_eraseIdx_iff_getElem?.mpr ⟨q, Ne.symm hpq, hq⟩
      have hne : v ≠ w := by
        rintro rfl
        exact hok P' hP' hrates.commits Q hother v (mem_recalculating hrates.aggregated)
          (mem_recalculating hagg)
      rw [hrates.others v hne]
      exact heq

theorem fresh_of_run (hrun : Run (program trim) Undisturbed ⟨db, []⟩ c) : Fresh c := by
  induction hrun with
  | start => exact fun P hP => absurd hP List.not_mem_nil
  | step hrun hok hn ih => exact ih.next hrun hok hn

end

/-! ## The columns of a provider -/

/-- `totalReviews` is their number, `averageRating` their mean to two decimals. -/
def Exact (db : Db) (p : ProviderProfile) : Prop :=
  p.totalReviews = (db.ratings p.id).length ∧
    p.averageRating = toFixed2 (mean (db.ratings p.id))

instance (db : Db) (p : ProviderProfile) : Decidable (Exact db p) :=
  inferInstanceAs (Decidable (_ ∧ _))

theorem avg_aggregate (ratings : List Nat) : (aggregate ratings).avg.getD 0 = mean ratings := by
  cases ratings with
  | nil => decide +kernel
  | cons x xs => rfl

/-- **Ratings are exact**, in every committed state. -/
theorem ratings_exact (trim : String → String) (db : Db) (c : Reviewers) (providerId : Uuid)
    (hexact : ∀ p, db.providers.find? providerId = some p → Exact db p)
    (hrun : Run (program trim) Undisturbed ⟨db, []⟩ c) :
    ∀ p, c.db.providers.find? providerId = some p → Exact c.db p := by
  induction hrun with
  | start => exact hexact
  | @step c c' e hrun hok hn ih =>
      intro p hp
      have hid : p.id = providerId := Table.key_of_find? hp
      rcases rates_next hrun hn with ⟨hsame, hproviders⟩ | ⟨i, P, w, agg, r, q, _, hP, hrates⟩
      · have hbefore := ih p (hproviders ▸ hp)
        simp only [Exact, ratings_eq, hsame] at hbefore ⊢
        exact hbefore
      · rw [hrates.providers, Table.find?_put] at hp
        split at hp
        · -- the provider that was recalculated
          rename_i hq
          obtain rfl := Option.some.inj hp
          obtain ⟨r', hr', heq⟩ := fresh_of_run hrun P (List.mem_of_getElem? hP) w agg
            hrates.aggregated
          rw [hrates.review r' hr', ← hrates.scores, ← ratings_eq] at heq
          rw [Exact, hrates.provider, hrates.totalReviews, hrates.averageRating, heq,
            avg_aggregate]
          exact ⟨rfl, rfl⟩
        · rename_i hq
          have hbefore := ih p hp
          have hne : p.id ≠ w := fun h => hq (hrates.provider.trans (h.symm.trans hid))
          simp only [Exact, ratings_eq, hrates.others p.id hne] at hbefore ⊢
          exact hbefore

/-! ## Two reviews of a provider -/

namespace Sample

open ServiceHub.Sample (user)

def booking (id customerId : Uuid) : Booking where
  id := id
  customerId := customerId
  providerId := "provider"
  providerServiceId := "offering"
  bookingDate := 0
  startTime := 0
  endTime := 3600
  bookingStatus := .completed
  bookedPrice := 500
  bookedDuration := 60
  bookedServiceMode := .online
  serviceName := "Cleaning"
  providerBusinessName := "Acme"
  customerNotes := none
  cancellationReason := none
  cancelledAt := none
  completedAt := none
  overdueAt := none
  needsReview := false
  createdAt := 0

/-- Alice and Bob have each completed a booking of the provider. -/
def db : Db where
  users := (Table.empty.put (user "alice" .user)).put (user "bob" .user)
  bookings := (Table.empty.put (booking "a" "alice")).put (booking "b" "bob")
  reviews := .empty
  providers := Table.empty.put ⟨"provider", "owner", "Acme", .verified, 0, 0⟩

def dto (rating : Nat) (h : 1 ≤ rating ∧ rating ≤ 5) : CreateReviewDto :=
  ⟨none, rating, none, h.1, h.2⟩

def alice : Op := .createReview "ra" 0 "alice" (dto 5 (by decide)) (some "a")

def bob : Op := .createReview "rb" 0 "bob" (dto 2 (by decide)) (some "b")

/-- Bob's review is written while Alice's is, and aggregated after it. -/
def inTurn : List (Event Op Exn) :=
  [.spawn alice, .spawn bob] ++ List.replicate 4 (.exec 0) ++ List.replicate 4 (.exec 1) ++
    List.replicate 4 (.exec 0) ++ List.replicate 4 (.exec 1)

/-- Each is aggregated before the other is committed. -/
def bothAggregate : List (Event Op Exn) :=
  [.spawn alice, .spawn bob] ++ List.replicate 5 (.exec 0) ++ List.replicate 5 (.exec 1) ++
    List.replicate 3 (.exec 0) ++ List.replicate 3 (.exec 1)

end Sample

theorem ratings_exact_sample : ∃ c : Reviewers,
    runChecked (program id) Undisturbed ⟨Sample.db, []⟩ Sample.inTurn = some c ∧
    (c.db.ratings "provider" = [5, 2]) ∧
    ∀ p, c.db.providers.find? "provider" = some p → Exact c.db p := by
  obtain ⟨c, hc⟩ := Option.isSome_iff_exists.mp
    (show (runChecked (program id) Undisturbed ⟨Sample.db, []⟩ Sample.inTurn).isSome by
      decide +kernel)
  have hended : ∀ c ∈ runChecked (program id) Undisturbed ⟨Sample.db, []⟩ Sample.inTurn,
      c.db.ratings "provider" = [5, 2] := by decide +kernel
  have hexact : ∀ p ∈ Sample.db.providers.find? "provider", Exact Sample.db p := by
    decide +kernel
  exact ⟨c, hc, hended c hc, ratings_exact id Sample.db c "provider" hexact
    (Run.of_runChecked _ _ hc)⟩

/-- The row of the provider says that it has one review; it has two. -/
theorem not_ratings_exact : ∃ c : Reviewers,
    Run (program id) (fun _ _ => True) ⟨Sample.db, []⟩ c ∧
    (∀ p ∈ Sample.db.providers.find? "provider", Exact Sample.db p) ∧
    (∀ P ∈ c.procs, P.prog.head.isNone) ∧
    ∃ p ∈ c.db.providers.find? "provider", ¬ Exact c.db p := by
  obtain ⟨c, hc⟩ := Option.isSome_iff_exists.mp
    (show (runChecked (program id) (fun _ _ => True) ⟨Sample.db, []⟩
      Sample.bothAggregate).isSome by decide +kernel)
  have hended : ∀ c ∈ runChecked (program id) (fun _ _ => True) ⟨Sample.db, []⟩
      Sample.bothAggregate, (∀ P ∈ c.procs, P.prog.head.isNone) ∧
        ∃ p ∈ c.db.providers.find? "provider", ¬ Exact c.db p := by decide +kernel
  exact ⟨c, Run.of_runChecked _ _ hc, by decide +kernel, hended c hc⟩

end ServiceHub.Reviews
