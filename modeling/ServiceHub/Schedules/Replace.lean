/-
# `Schedules.Replace` — a schedule replaces the one before

**What fails.**  A DELETE removes what was there when it started.  Two calls
that start to delete before either is committed both insert, and the provider
is left with the windows of both (`not_schedule_replaced`).

**What holds.**  `Undisturbed`: no call that has inserted windows is committed
while the DELETE of another one of the same provider has started and its
transaction is open.  Then every window of the provider is deleted by the next
transaction to be committed (`Covered.next`), and what is stored is the
schedule of one call (`schedule_replaced`), which was validated: its windows do
not overlap (`separate_of_validateSchedules`).
-/
import ServiceHub.Schedules.Validation
import ServiceHub.Txn.History

namespace ServiceHub.Schedules

open Data Txn

/-! ## What is stored -/

section
variable {db : Db} {x : Version} {providerId : Uuid}

theorem mem_windows {w : Availability} : w ∈ db.windows providerId ↔
    ∃ x ∈ db.versions.rows, x.shows providerId = true ∧ x.window = w := by
  simp only [Db.windows, List.mem_map, List.mem_filter, and_assoc]

/-- A version that says that a window was deleted takes it away. -/
theorem windows_put_deleted {y : Version} (hdeleted : x.deleted = true)
    (hold : db.versions.find? x.id = some y) (hsame : y.window = x.window) :
    (db.put x).windows providerId = (db.windows providerId).filter fun w => decide (w.id ≠ x.id) := by
  obtain ⟨l, l', hrows, hput, hne⟩ := Table.rows_put_split hold
  have hx : x.shows providerId = false := by simp [Version.shows, hdeleted]
  have hkeep : ∀ m : List Version, (∀ z ∈ m, z ∈ l ++ l') →
      ((m.filter (Version.shows providerId)).map (·.window)).filter
        (fun w => decide (w.id ≠ x.id)) = (m.filter (Version.shows providerId)).map (·.window) := by
    intro m hm
    refine List.filter_eq_self.mpr fun w hw => ?_
    obtain ⟨z, hz, rfl⟩ := List.mem_map.mp hw
    exact decide_eq_true (hne z (hm z (List.mem_filter.mp hz).1))
  simp only [Db.windows, Db.put, hrows, hput, List.filter_append, List.map_append,
    List.filter_cons, hx, hkeep l fun z hz => List.mem_append_left _ hz, Bool.false_eq_true, if_false]
  congr 1
  split
  · rw [List.map_cons, List.filter_cons, if_neg (by simp [hsame, Version.id]),
      hkeep l' fun z hz => List.mem_append_right _ hz]
  · exact (hkeep l' fun z hz => List.mem_append_right _ hz).symm

/-- A window that is inserted comes last. -/
theorem windows_put_new (hnew : db.versions.find? x.id = none) :
    (db.put x).windows providerId =
      db.windows providerId ++ if x.shows providerId then [x.window] else [] := by
  simp only [Db.windows, Db.put, Table.rows_put_of_new hnew, List.filter_append, List.map_append,
    List.filter_cons, List.filter_nil]
  split <;> simp

end

/-- What a list of deletions leaves. -/
theorem windows_puts_deleted {providerId : Uuid} : ∀ {gone : List Version} {db : Db},
    (∀ x ∈ gone, x.deleted = true) → (gone.map Version.id).Nodup →
    (∀ x ∈ gone, ∃ y, db.versions.find? x.id = some y ∧ y.window = x.window) →
      (puts db gone).windows providerId =
        (db.windows providerId).filter fun w => decide (w.id ∉ gone.map Version.id)
  | [], db, _, _, _ => by simp
  | x :: gone, db, hdeleted, hnodup, hold => by
      obtain ⟨y, hy, hsame⟩ := hold x List.mem_cons_self
      obtain ⟨hx, hrest⟩ := List.nodup_cons.mp hnodup
      have hold' : ∀ z ∈ gone, ∃ y, (db.put x).versions.find? z.id = some y ∧
          y.window = z.window := by
        intro z hz
        obtain ⟨y', hy', hsame'⟩ := hold z (List.mem_cons_of_mem _ hz)
        refine ⟨y', ?_, hsame'⟩
        have hne : x.id ≠ z.id := fun h => hx (h ▸ List.mem_map_of_mem hz)
        rw [Db.put, Table.find?_put, if_neg hne]
        exact hy'
      have hput : (Txn.Database.put db x).windows providerId =
          (db.windows providerId).filter fun w => decide (w.id ≠ x.id) :=
        windows_put_deleted (hdeleted x List.mem_cons_self) hy hsame
      have hputs : (puts (Txn.Database.put db x) gone).windows providerId = _ :=
        windows_puts_deleted (fun z hz => hdeleted z (List.mem_cons_of_mem _ hz)) hrest hold'
      rw [puts_cons, hputs, hput, List.filter_filter]
      refine List.filter_congr fun w _ => ?_
      rw [← Bool.decide_and]
      refine decide_eq_decide.mpr ?_
      simp only [List.map_cons, List.mem_cons, not_or]
      exact And.comm

/-- What a list of insertions adds. -/
theorem windows_puts_new {providerId : Uuid} : ∀ {rows : List Availability} {db : Db},
    (rows.map (·.id)).Nodup → (∀ r ∈ rows, db.versions.find? r.id = none) →
      (puts db (rows.map fun r => (⟨r, false⟩ : Version))).windows providerId =
        db.windows providerId ++ rows.filter (·.providerId == providerId)
  | [], db, _, _ => by simp
  | r :: rows, db, hnodup, hnew => by
      obtain ⟨hr, hrest⟩ := List.nodup_cons.mp hnodup
      have hnew' : ∀ z ∈ rows, (db.put ⟨r, false⟩).versions.find? z.id = none := by
        intro z hz
        have hne : r.id ≠ z.id := fun h => hr (List.mem_map.mpr ⟨z, hz, h.symm⟩)
        rw [Db.put, Table.find?_put, if_neg (show Version.id ⟨r, false⟩ ≠ z.id from hne)]
        exact hnew z (List.mem_cons_of_mem _ hz)
      have hput : (Txn.Database.put db (⟨r, false⟩ : Version)).windows providerId =
          db.windows providerId ++ if r.providerId == providerId then [r] else [] :=
        windows_put_new (hnew r List.mem_cons_self)
      have hputs : (puts (Txn.Database.put db (⟨r, false⟩ : Version))
          (rows.map fun r => (⟨r, false⟩ : Version))).windows providerId = _ :=
        windows_puts_new hrest hnew'
      rw [List.map_cons, puts_cons, hputs, hput, List.append_assoc, List.filter_cons]
      split <;> simp

/-! ## What a call issues -/

abbrev ScheduleHist : Type := Hist (Instr Stmt Ext) (Instr.Ans Ans) Exn

/-- The windows that the call inserts. -/
def Op.rows (o : Op) : List Availability := newWindows o.uuid o.providerId o.dto.schedules

def Op.Valid (o : Op) : Prop := ∃ m, validateSchedules o.dto.schedules m = .ok ()

/-- The three statements of the transaction follow each other, and nothing else
writes. -/
def Replaces (o : Op) (h : ScheduleHist) : Instr Stmt Ext → Prop
  | .begin => sinceBegin h = none
  | .stmt (.findProviderServices _) => sinceBegin h = none
  | .stmt (.startDelete providerId) => providerId = o.providerId ∧ sinceBegin h = some []
  | .stmt (.deleteWindows providerId ids) =>
      providerId = o.providerId ∧ sinceBegin h = some [⟨.startDelete o.providerId, ids⟩]
  | .stmt (.createWindows rows) => rows = o.rows ∧ ∃ ids gone, sinceBegin h =
      some [⟨.deleteWindows o.providerId ids, gone⟩, ⟨.startDelete o.providerId, ids⟩]
  | .commit => o.Valid ∧ ∃ ids gone made, sinceBegin h =
      some [⟨.createWindows o.rows, made⟩, ⟨.deleteWindows o.providerId ids, gone⟩,
        ⟨.startDelete o.providerId, ids⟩]
  | _ => True

/-- The body of the transaction may be committed where it returns. -/
theorem replaceAvailibityTransaction_obeys {o : Op} {h : ScheduleHist} (hvalid : o.Valid)
    (hopen : sinceBegin h = some []) :
    Obeys (Replaces o) (fun h' r => r.isOk → Replaces o h' .commit) h (autocommit Ext
      (replaceAvailibityTransaction o.uuid o.providerId o.dto.schedules)) := by
  unfold replaceAvailibityTransaction
  simp only [autocommit_bind, obeys_bind]
  refine obeys_stmt.mpr ⟨⟨rfl, hopen⟩, fun ids => ?_, fun _ => nofun⟩
  refine obeys_stmt.mpr ⟨⟨rfl, by simp [sinceBegin, hopen]⟩, fun gone => ?_, fun _ => nofun⟩
  refine obeys_stmt.mpr ⟨⟨rfl, ids, gone, by simp [sinceBegin, hopen]⟩, fun made => ?_,
    fun _ => nofun⟩
  exact fun _ => ⟨hvalid, ids, gone, made, by simp [sinceBegin, hopen, Op.rows]⟩

theorem setAvailibity_obeys (o : Op) :
    Obeys (Replaces o) (fun _ _ => True) [] (setAvailibity o) := by
  unfold setAvailibity
  rw [obeys_bind]
  refine obeys_stmt.mpr ⟨rfl, fun services => ?_, fun _ => trivial⟩
  simp only []
  split
  · trivial
  · rename_i hvalid
    have hbody : ∀ h : ScheduleHist, sinceBegin h = none →
        Obeys (Replaces o) (fun _ _ => True) h (transaction Ext
          (replaceAvailibityTransaction o.uuid o.providerId o.dto.schedules)) := by
      intro h hout
      refine obeys_transaction.mpr ⟨hout, fun _ => trivial, ?_⟩
      refine (replaceAvailibityTransaction_obeys ⟨_, hvalid⟩ (by simp [sinceBegin, hout])).mono
        (fun _ _ hi => hi) ?_
      rintro h' (e | a) hdone
      · exact ⟨trivial, fun _ => trivial⟩
      · exact ⟨hdone rfl, trivial, fun _ => trivial⟩
    refine Obeys.bind (hbody _ rfl) (fun h result => ?_) fun _ _ => trivial
    exact Obeys.bind (obeys_perform.mpr ⟨trivial, fun _ => trivial, fun _ => trivial⟩)
      (fun _ _ => trivial) fun _ _ => trivial

/-! ## Runs -/

abbrev Scheduler : Type := Proc Op Version Stmt Ext Ans Exn Replaced

abbrev Schedulers : Type := Config Op Db Version Stmt Ext Ans Exn Replaced

/-- The providers whose windows the call has started to delete in its open
transaction. -/
def deleting (P : Scheduler) : List Uuid :=
  ((sinceBegin P.hist).getD []).filterMap fun
    | ⟨.startDelete providerId, _⟩ => some providerId
    | ⟨.deleteWindows providerId _, _⟩ => some providerId
    | _ => none

/-- The providers for which the call has inserted windows in its open
transaction. -/
def inserting (P : Scheduler) : List Uuid :=
  ((sinceBegin P.hist).getD []).flatMap fun
    | ⟨.createWindows rows, _⟩ => rows.map (·.providerId)
    | _ => []

def commits (P : Scheduler) : Bool :=
  match P.prog.head with
  | some .commit => true
  | _ => false

/-- No call that has inserted windows is committed while another one has started
to delete those of the same provider. -/
def Undisturbed (c : Schedulers) : Event Op Exn → Prop
  | .exec p => ∀ P ∈ c.procs[p]?, commits P → ∀ Q ∈ c.procs.eraseIdx p,
      ∀ providerId ∈ inserting P, providerId ∉ deleting Q
  | _ => True

instance (c : Schedulers) (e : Event Op Exn) : Decidable (Undisturbed c e) := by
  unfold Undisturbed
  split <;> infer_instance

/-- The transaction was committed. -/
def replaced (P : Scheduler) : Bool :=
  P.hist.any fun
    | ⟨.commit, .ok _⟩ => true
    | _ => false

theorem replaced_iff {P : Scheduler} : replaced P ↔ ⟨.commit, .ok ()⟩ ∈ P.hist := by
  rw [replaced, List.any_eq_true]
  constructor
  · rintro ⟨⟨i, r⟩, hmem, hmatch⟩
    split at hmatch
    · rename_i heq
      cases heq
      exact hmem
    · cases hmatch
  · exact fun hmem => ⟨_, hmem, rfl⟩

section
variable {db : Db} {Ok : Schedulers → Event Op Exn → Prop} {c c' : Schedulers}
  {e : Event Op Exn} {P : Scheduler}

theorem replaces_of_head (hrun : Run setAvailibity Ok ⟨db, []⟩ c) (hP : P ∈ c.procs)
    {i : Instr Stmt Ext} {k : Except Exn (i.Ans Ans) → Call Replaced} (hk : P.prog = .ask i k) :
    Replaces P.op P.hist i := by
  have hobeys := hrun.obeys (fun _ o _ => setAvailibity_obeys o) rfl P hP
  rw [hk] at hobeys
  exact hobeys.1

/-- What a statement found under the key of what it writes. -/
def Finds (s : Stmt) (x : Version) (o : Option Version) : Prop :=
  match s with
  | .deleteWindows _ _ => ∃ y, o = some y ∧ y.window = x.window
  | _ => o = none

/-- What was found is still there as long as the transaction is open. -/
theorem finds_of_run (hrun : Run setAvailibity Ok ⟨db, []⟩ c) : ∀ P ∈ c.procs,
    ∀ y ∈ (sinceBegin P.hist).getD [], ∀ x ∈ y.1.written y.2,
      Finds y.1 x (c.db.versions.find? x.id) := by
  refine Run.locked (L := fun s _ x o => Finds s x o) rfl ?_ hrun
  intro c p P s k a hrun _ hP hk hexec x hx
  have hmem := List.mem_of_getElem? hP
  have hlogic := replaces_of_head hrun hmem hk
  have htx := Run.tx_eq rfl hrun P hmem
  cases s with
  | deleteWindows providerId ids =>
      obtain ⟨_, hopen⟩ := hlogic
      have hview : view c.db P = c.db := by simp [view, Proc.pending, htx, hopen, rowsOf,
        Database.written, Stmt.written]
      rw [hview] at hexec
      cases hexec
      obtain ⟨y, hy, rfl⟩ := List.mem_map.mp hx
      exact ⟨y, Table.find?_of_mem (List.mem_filter.mp hy).1, rfl⟩
  | createWindows rows =>
      simp only [Database.exec, Db.exec] at hexec
      split at hexec
      · cases hexec
      rename_i hfree
      split at hexec
      · cases hexec
      cases hexec
      obtain ⟨r, hr, rfl⟩ := List.mem_map.mp hx
      have hnone : (view c.db P).get r.id = none := by
        simp only [not_or, List.any_eq_true, not_exists, not_and] at hfree
        simpa using hfree.2 r hr
      rcases get_puts r.id P.pending c.db with ⟨w, _, _, hw⟩ | ⟨_, hsame⟩
      · exact absurd (hw.symm.trans hnone) (by simp)
      · exact hsame.symm.trans hnone
  | _ => exact absurd hx List.not_mem_nil

/-- What a call has deleted were different windows of its provider. -/
theorem gone_of_run (hrun : Run setAvailibity Ok ⟨db, []⟩ c) (hP : P ∈ c.procs)
    {providerId : Uuid} {ids : List Uuid} {gone : List Version}
    (hmem : ⟨.deleteWindows providerId ids, gone⟩ ∈ (sinceBegin P.hist).getD []) :
    (∀ x ∈ gone, x.deleted = true ∧ x.window.providerId = providerId) ∧
      (gone.map Version.id).Nodup := by
  obtain ⟨db₁, hexec⟩ := Run.executed rfl hrun hP (mem_of_sinceBegin hmem)
  cases hexec
  constructor
  · intro x hx
    obtain ⟨y, hy, rfl⟩ := List.mem_map.mp hx
    have hshows := (Bool.and_eq_true_iff.mp (List.mem_filter.mp hy).2).1
    simp only [Version.shows, Bool.and_eq_true, beq_iff_eq] at hshows
    exact ⟨rfl, hshows.2⟩
  · rw [List.map_map]
    exact db₁.versions.nodup.sublist (List.filter_sublist.map _)

/-- What a call has inserted is its schedule. -/
theorem made_of_run (hrun : Run setAvailibity Ok ⟨db, []⟩ c) (hP : P ∈ c.procs)
    {rows : List Availability} {made : List Version}
    (hmem : ⟨.createWindows rows, made⟩ ∈ (sinceBegin P.hist).getD []) :
    made = (rows.map fun r => (⟨r, false⟩ : Version)) ∧ (rows.map (·.id)).Nodup := by
  obtain ⟨db₁, hexec⟩ := Run.executed rfl hrun hP (mem_of_sinceBegin hmem)
  simp only [Database.exec, Db.exec] at hexec
  split at hexec
  · cases hexec
  rename_i hfree
  split at hexec
  · cases hexec
  cases hexec
  exact ⟨rfl, Decidable.not_not.mp (not_or.mp hfree).1⟩

/-- A call commits the deletions `gone` and its own windows. -/
structure Replacement (c c' : Schedulers) (P : Scheduler) (gone : List Version) : Prop where
  commits : commits P = true
  valid : P.op.Valid
  deleted : ∃ ids, ⟨.deleteWindows P.op.providerId ids, gone⟩ ∈ (sinceBegin P.hist).getD []
  inserted : P.op.rows ≠ [] → P.op.providerId ∈ inserting P
  windows : c'.db.windows P.op.providerId =
    ((c.db.windows P.op.providerId).filter fun w => decide (w.id ∉ gone.map Version.id)) ++
      P.op.rows
  others : ∀ u, u ≠ P.op.providerId → c'.db.windows u = c.db.windows u
  after : ∃ P' ∈ c'.procs, P'.op = P.op ∧ replaced P'

theorem providerId_of_rows {o : Op} {r : Availability} (hr : r ∈ o.rows) :
    r.providerId = o.providerId := by
  obtain ⟨n, hn, rfl⟩ := List.mem_mapIdx.mp hr
  rfl

/-- A commit is a replacement. -/
theorem replacement_commit {p : Nat} (hrun : Run setAvailibity Ok ⟨db, []⟩ c)
    (hP : c.procs[p]? = some P) {k : Except Exn Unit → Call Replaced}
    (hk : P.prog = .ask .commit k) (hn : next setAvailibity c (.exec p) = some c') :
    ∃ gone, Replacement c c' P gone := by
  have hmem := List.mem_of_getElem? hP
  obtain ⟨hvalid, ids, gone, made, hopen⟩ := replaces_of_head hrun hmem hk
  have hafter : c' = ⟨puts c.db P.pending, c.procs.set p (P.advance .commit k (.ok ()) none)⟩ := by
    simpa [next, hP, hk, effect, Proc.pending] using hn.symm
  have hdelete : ⟨.deleteWindows P.op.providerId ids, gone⟩ ∈ (sinceBegin P.hist).getD [] := by
    simp [hopen]
  have hcreate : ⟨.createWindows P.op.rows, made⟩ ∈ (sinceBegin P.hist).getD [] := by
    simp [hopen]
  have hpending : P.pending = gone ++ P.op.rows.map fun r => (⟨r, false⟩ : Version) := by
    rw [Proc.pending, Run.tx_eq rfl hrun P hmem, hopen, (made_of_run hrun hmem hcreate).1]
    simp [rowsOf, Database.written, Stmt.written]
  have hdb : c'.db = puts (puts c.db gone) (P.op.rows.map fun r => (⟨r, false⟩ : Version)) := by
    rw [hafter, ← puts_append, ← hpending]
  obtain ⟨hdeleted, hnodup⟩ := gone_of_run hrun hmem hdelete
  have hold := finds_of_run hrun P hmem _ hdelete
  have hnew : ∀ r ∈ P.op.rows, (puts c.db gone).versions.find? r.id = none := by
    intro r hr
    have hnone : c.db.versions.find? r.id = none := by
      refine finds_of_run hrun P hmem _ hcreate ⟨r, false⟩ ?_
      rw [(made_of_run hrun hmem hcreate).1]
      exact List.mem_map_of_mem hr
    rcases get_puts r.id gone c.db with ⟨x, hx, hid, _⟩ | ⟨_, hsame⟩
    · obtain ⟨y, hy, _⟩ := hold x hx
      exact absurd (hy.symm.trans ((congrArg c.db.versions.find? hid).trans hnone)) (by simp)
    · exact hsame.trans hnone
  have hwindows : ∀ u, c'.db.windows u =
      ((c.db.windows u).filter fun w => decide (w.id ∉ gone.map Version.id)) ++
        P.op.rows.filter (·.providerId == u) := by
    intro u
    rw [hdb, windows_puts_new (made_of_run hrun hmem hcreate).2 hnew,
      windows_puts_deleted (fun x hx => (hdeleted x hx).1) hnodup hold]
  refine ⟨gone, ?_⟩
  exact
    { commits := by simp [commits, hk, Prog.head]
      valid := hvalid
      deleted := ⟨ids, hdelete⟩
      inserted := by
        intro hrows
        obtain ⟨r, hr⟩ := List.exists_mem_of_ne_nil _ hrows
        exact List.mem_flatMap.mpr ⟨_, hcreate, List.mem_map.mpr ⟨r, hr, providerId_of_rows hr⟩⟩
      windows := by
        have hall : P.op.rows.filter (·.providerId == P.op.providerId) = P.op.rows :=
          List.filter_eq_self.mpr fun r hr => beq_iff_eq.mpr (providerId_of_rows hr)
        rw [hwindows, hall]
      others := by
        intro u hu
        have hnone : P.op.rows.filter (·.providerId == u) = [] :=
          List.filter_eq_nil_iff.mpr fun r hr => by simp [providerId_of_rows hr, Ne.symm hu]
        rw [hwindows, hnone, List.append_nil]
        refine List.filter_eq_self.mpr fun w hw => decide_eq_true fun hgone => ?_
        -- a window that is deleted is of the provider
        obtain ⟨x, hx, hid⟩ := List.mem_map.mp hgone
        obtain ⟨z, hz, hshows, rfl⟩ := mem_windows.mp hw
        obtain ⟨y, hy, hsame⟩ := hold x hx
        obtain rfl := Option.some.inj (hy.symm.trans
          ((congrArg c.db.versions.find? hid).trans (Table.find?_of_mem hz)))
        simp only [Version.shows, Bool.and_eq_true, beq_iff_eq] at hshows
        exact hu (hshows.2.symm.trans (hsame ▸ (hdeleted x hx).2))
      after := by
        refine ⟨P.advance .commit k (.ok ()) none, ?_, rfl, replaced_iff.mpr List.mem_cons_self⟩
        rw [hafter]
        exact List.mem_of_getElem? (List.getElem?_set_self (List.getElem?_eq_some_iff.mp hP).1) }

/-- **What a step commits**: no window, or the schedule of a call. -/
theorem replacement_next (hrun : Run setAvailibity Ok ⟨db, []⟩ c)
    (hn : next setAvailibity c e = some c') :
    (∀ u, c'.db.windows u = c.db.windows u) ∨
    ∃ p P gone, e = .exec p ∧ c.procs[p]? = some P ∧ Replacement c c' P gone := by
  rcases Run.db_next rfl hrun hn with hsame | ⟨p, P, hP, rfl, ⟨k, _, hk, _, _⟩ |
      ⟨s, k, a, hk, hout, hexec, hdb⟩⟩
  · rw [hsame]
    exact Or.inl fun _ => rfl
  · obtain ⟨gone, hreplacement⟩ := replacement_commit hrun hP hk hn
    exact Or.inr ⟨p, P, gone, rfl, hP, hreplacement⟩
  · have hlogic := replaces_of_head hrun (List.mem_of_getElem? hP) hk
    left
    cases s with
    | deleteWindows providerId ids => exact absurd (hout.symm.trans hlogic.2) (by simp)
    | createWindows rows =>
        obtain ⟨_, _, _, hopen⟩ := hlogic
        exact absurd (hout.symm.trans hopen) (by simp)
    | _ =>
        rw [hdb]
        exact fun _ => rfl

/-- What a call has started to delete, and then deleted, are all windows of the
provider. -/
def Covered (c : Schedulers) : Prop :=
  ∀ P ∈ c.procs,
    (∀ v ids, ⟨.startDelete v, ids⟩ ∈ (sinceBegin P.hist).getD [] →
      ∀ w ∈ c.db.windows v, w.id ∈ ids) ∧
    ∀ v ids gone, ⟨.deleteWindows v ids, gone⟩ ∈ (sinceBegin P.hist).getD [] →
      ∀ w ∈ c.db.windows v, w.id ∈ List.map Version.id gone

/-- The windows that a call sees before it has written any. -/
theorem view_of_open (hrun : Run setAvailibity Ok ⟨db, []⟩ c) (hP : P ∈ c.procs)
    {l : List ((s : Stmt) × Ans s)} (hopen : sinceBegin P.hist = some l)
    (hl : rowsOf Db l = []) : puts c.db (P.tx.getD []) = c.db := by
  rw [Run.tx_eq rfl hrun P hP, hopen, Option.map_some, hl]
  rfl

/-- The step lemma. -/
theorem Covered.next (hrun : Run setAvailibity Undisturbed ⟨db, []⟩ c) (hok : Undisturbed c e)
    (hn : next setAvailibity c e = some c') (hcovered : Covered c) : Covered c' := by
  have hnext := replacement_next hrun hn
  rcases next_cases _ hn with ⟨o, rfl, rfl⟩ | ⟨p, P, i, k, res, tx, db', hP, hk, heff, rfl⟩
  · intro Q hQ
    rcases List.mem_append.mp hQ with hQ | hQ
    · exact hcovered Q hQ
    · rw [List.mem_singleton.mp hQ]
      exact ⟨fun _ _ h => absurd h List.not_mem_nil, fun _ _ _ h => absurd h List.not_mem_nil⟩
  have hmem := List.mem_of_getElem? hP
  intro Q hQ
  obtain ⟨q, hq⟩ := List.mem_iff_getElem?.mp hQ
  by_cases hpq : p = q
  · subst hpq
    simp only [List.getElem?_set_self (List.getElem?_eq_some_iff.mp hP).1, Option.some.injEq] at hq
    subst hq
    -- a call whose transaction is open has committed nothing
    have hsame : sinceBegin (P.advance i k res tx).hist ≠ none →
        ∀ u, Db.windows db' u = c.db.windows u := by
      intro hopen
      rcases hnext with hsame | ⟨p', P', gone, rfl, hP', hreplacement⟩
      · exact hsame
      · obtain rfl : p = p' := by
          rcases heff.actor with he | ⟨x, he⟩ <;> cases he
          rfl
        obtain rfl := Option.some.inj (hP.symm.trans hP')
        have hcommit := hreplacement.commits
        cases i with
        | commit => exact absurd rfl hopen
        | _ => simp [commits, hk, Prog.head] at hcommit
    have hopen : ∀ {y : (s : Stmt) × Ans s},
        y ∈ (sinceBegin (P.advance i k res tx).hist).getD [] →
          sinceBegin (P.advance i k res tx).hist ≠ none := by
      intro y hy hnone
      rw [hnone] at hy
      exact absurd hy List.not_mem_nil
    obtain ⟨hstart, hdelete⟩ := hcovered P hmem
    constructor
    · intro v ids hids w hw
      rw [hsame (hopen hids)] at hw
      rcases mem_sinceBegin_cons hids with hold | hnew
      · exact hstart v ids hold w hw
      · cases hnew
        obtain ⟨_, hopen'⟩ := replaces_of_head hrun hmem hk
        obtain ⟨_, hexec⟩ := heff.exec_of_ok
        rw [view_of_open hrun hmem hopen' rfl] at hexec
        cases hexec
        exact List.mem_map_of_mem hw
    · intro v ids gone hgone w hw
      rw [hsame (hopen hgone)] at hw
      rcases mem_sinceBegin_cons hgone with hold | hnew
      · exact hdelete v ids gone hold w hw
      · cases hnew
        obtain ⟨rfl, hopen'⟩ := replaces_of_head hrun hmem hk
        obtain ⟨_, hexec⟩ := heff.exec_of_ok
        rw [view_of_open hrun hmem hopen' rfl] at hexec
        cases hexec
        have hids := hstart P.op.providerId ids (by simp [hopen']) w hw
        obtain ⟨x, hx, hshows, rfl⟩ := mem_windows.mp hw
        rw [List.map_map]
        refine List.mem_map.mpr ⟨x, List.mem_filter.mpr ⟨hx, ?_⟩, rfl⟩
        rw [hshows, Bool.true_and]
        exact decide_eq_true hids
  · rw [List.getElem?_set_ne hpq] at hq
    obtain ⟨hstart, hdelete⟩ := hcovered Q (List.mem_of_getElem? hq)
    -- the windows that another call has started to delete do not become more
    have hfewer : ∀ v ∈ deleting Q, ∀ w ∈ Db.windows db' v, w ∈ c.db.windows v := by
      intro v hv w hw
      rcases hnext with hsame | ⟨p', P', gone, rfl, hP', hreplacement⟩
      · exact hsame v ▸ hw
      obtain rfl : p = p' := by
        rcases heff.actor with he | ⟨x, he⟩ <;> cases he
        rfl
      have hother := List.mem_eraseIdx_iff_getElem?.mpr ⟨q, Ne.symm hpq, hq⟩
      by_cases hprovider : v = P'.op.providerId
      · subst hprovider
        have hnone : P'.op.rows = [] := by
          by_contra hrows
          exact hok P' hP' hreplacement.commits Q hother _ (hreplacement.inserted hrows) hv
        have hwindows : Db.windows db' P'.op.providerId = _ := hreplacement.windows
        rw [hwindows, hnone, List.append_nil] at hw
        exact (List.mem_filter.mp hw).1
      · exact hreplacement.others v hprovider ▸ hw
    refine ⟨fun v ids hids w hw => hstart v ids hids w (hfewer v ?_ w hw),
      fun v ids gone hgone w hw => hdelete v ids gone hgone w (hfewer v ?_ w hw)⟩
    · exact List.mem_filterMap.mpr ⟨_, hids, rfl⟩
    · exact List.mem_filterMap.mpr ⟨_, hgone, rfl⟩

theorem covered_of_run (hrun : Run setAvailibity Undisturbed ⟨db, []⟩ c) : Covered c := by
  induction hrun with
  | start => exact fun P hP => absurd hP List.not_mem_nil
  | step hrun hok hn ih => exact ih.next hrun hok hn

end

/-! ## The schedule that is stored -/

theorem interval_rows (o : Op) :
    o.rows.map Schedules.interval = o.dto.schedules.map AvailabityIntervalDto.interval := by
  refine List.ext_getElem (by simp [Op.rows, newWindows]) fun n hn hn' => ?_
  simp [Op.rows, newWindows, newWindow, Schedules.interval, AvailabityIntervalDto.interval]

section
variable {db : Db} {c c' : Schedulers} {P : Scheduler} {gone : List Version}

/-- Under the condition a commit leaves the schedule of its call. -/
theorem Replacement.stored (hrun : Run setAvailibity Undisturbed ⟨db, []⟩ c) (hP : P ∈ c.procs)
    (h : Replacement c c' P gone) : c'.db.windows P.op.providerId = P.op.rows := by
  obtain ⟨ids, hids⟩ := h.deleted
  have hgone := (covered_of_run hrun P hP).2 _ _ _ hids
  have hnone : ((c.db.windows P.op.providerId).filter
      fun w => decide (w.id ∉ gone.map Version.id)) = [] :=
    List.filter_eq_nil_iff.mpr fun w hw => by simpa using hgone w hw
  rw [h.windows, hnone, List.nil_append]

/-- The schedule of a call that has committed is stored. -/
def Stored (c : Schedulers) (providerId : Uuid) : Prop :=
  ∃ P ∈ c.procs, P.op.providerId = providerId ∧ replaced P ∧ P.op.Valid ∧
    c.db.windows providerId = P.op.rows

theorem stored_of_run {providerId : Uuid} (hrun : Run setAvailibity Undisturbed ⟨db, []⟩ c)
    (hdone : ∃ P ∈ c.procs, P.op.providerId = providerId ∧ replaced P) : Stored c providerId := by
  induction hrun with
  | start =>
      obtain ⟨P, hP, _⟩ := hdone
      exact absurd hP List.not_mem_nil
  | @step c c' e hrun hok hn ih =>
      have hcommit : ∀ (p : Nat) (P : Scheduler) (gone : List Version), c.procs[p]? = some P → Replacement c c' P gone →
          P.op.providerId = providerId → Stored c' providerId := by
        intro p P gone hP hreplacement hprovider
        obtain ⟨P', hP', hop, hreplaced⟩ := hreplacement.after
        refine ⟨P', hP', hop ▸ hprovider, hreplaced, hop ▸ hreplacement.valid, ?_⟩
        rw [← hprovider, hop]
        exact hreplacement.stored hrun (List.mem_of_getElem? hP)
      have hbefore : (∃ P ∈ c.procs, P.op.providerId = providerId ∧ replaced P) →
          Stored c' providerId := by
        intro hdone
        obtain ⟨P, hP, hprovider, hreplaced, hvalid, hstored⟩ := ih hdone
        have hkept : c'.db.windows providerId = c.db.windows providerId →
            Stored c' providerId := by
          intro hsame
          obtain ⟨P', hP', hop, hsuffix⟩ := hist_of_next hn hP
          refine ⟨P', hP', hop ▸ hprovider, ?_, hop ▸ hvalid, ?_⟩
          · exact replaced_iff.mpr (hsuffix.mem (replaced_iff.mp hreplaced))
          · rw [hsame, hop]
            exact hstored
        rcases replacement_next hrun hn with hsame | ⟨p, Q, gone, _, hQ, hreplacement⟩
        · exact hkept (hsame providerId)
        · by_cases hsame : Q.op.providerId = providerId
          · exact hcommit p Q gone hQ hreplacement hsame
          · exact hkept (hreplacement.others providerId (Ne.symm hsame))
      obtain ⟨P', hP', hprovider, hreplaced⟩ := hdone
      obtain ⟨q, hq⟩ := List.mem_iff_getElem?.mp hP'
      rcases proc_of_next hn hq with hold | ⟨o, _, _, rfl⟩ | ⟨P, i, k, r, tx, hP, hk, heff, rfl⟩
      · exact hbefore ⟨P', List.mem_of_getElem? hold, hprovider, hreplaced⟩
      · exact absurd (replaced_iff.mp hreplaced) List.not_mem_nil
      · rcases List.mem_cons.mp (replaced_iff.mp hreplaced) with hnew | hold
        · -- the commit was just answered
          cases hnew
          obtain rfl : e = .exec q := by
            cases heff
            rfl
          obtain ⟨gone, hreplacement⟩ := replacement_commit hrun hP hk hn
          exact hcommit q P gone hP hreplacement hprovider
        · exact hbefore ⟨P, List.mem_of_getElem? hP, hprovider, replaced_iff.mpr hold⟩

end

/-- **A schedule replaces the one before**: once a call of the provider has
committed, the stored windows are the schedule of one that has. -/
theorem schedule_replaced (db : Db) (c : Schedulers) (providerId : Uuid)
    (hrun : Run setAvailibity Undisturbed ⟨db, []⟩ c)
    (hdone : ∃ P ∈ c.procs, P.op.providerId = providerId ∧ replaced P) :
    ∃ P ∈ c.procs, P.op.providerId = providerId ∧ replaced P ∧
      (c.db.windows providerId).map Schedules.interval =
        P.op.dto.schedules.map AvailabityIntervalDto.interval ∧
      (c.db.windows providerId).Pairwise WindowsSeparate := by
  obtain ⟨P, hP, hprovider, hreplaced, ⟨m, hvalid⟩, hstored⟩ := stored_of_run hrun hdone
  have hinterval : (c.db.windows providerId).map Schedules.interval =
      P.op.dto.schedules.map AvailabityIntervalDto.interval := by
    rw [hstored, interval_rows]
  exact ⟨P, hP, hprovider, hreplaced, hinterval, separate_of_stored hvalid hinterval⟩

/-! ## Two schedules of a provider -/

namespace Sample

/-- A provider with no window. -/
def db : Db where
  providers := Table.empty.put ⟨"provider", "owner", "Acme", .verified, 0, 0⟩
  providerServices := .empty
  versions := .empty

theorem monday_le : 1 ≤ 6 := by decide

theorem nine_valid : isHHmm "09:00" = true := by decide

theorem ten_valid : isHHmm "10:00" = true := by decide

theorem one_valid : isHHmm "13:00" = true := by decide

theorem two_valid : isHHmm "14:00" = true := by decide

def morning : AvailabityIntervalDto := ⟨1, "09:00", "13:00", true, monday_le, nine_valid, one_valid⟩

def midday : AvailabityIntervalDto := ⟨1, "10:00", "14:00", true, monday_le, ten_valid, two_valid⟩

def first : Op := ⟨fun _ => "w1", "provider", ⟨[morning]⟩⟩

def second : Op := ⟨fun _ => "w2", "provider", ⟨[midday]⟩⟩

def inTurn : List (Event Op Exn) :=
  .spawn first :: List.replicate 7 (.exec 0) ++ .spawn second :: List.replicate 7 (.exec 1)

/-- Each starts to delete before the other has committed. -/
def bothDelete : List (Event Op Exn) :=
  [.spawn first, .spawn second] ++ List.replicate 3 (.exec 0) ++ List.replicate 3 (.exec 1) ++
    List.replicate 4 (.exec 0) ++ List.replicate 4 (.exec 1)

end Sample

theorem schedule_replaced_sample : ∃ c : Schedulers,
    runChecked setAvailibity Undisturbed ⟨Sample.db, []⟩ Sample.inTurn = some c ∧
    (c.db.windows "provider").map (·.id) = ["w2"] ∧
    ∃ P ∈ c.procs, P.op.providerId = "provider" ∧ replaced P ∧
      (c.db.windows "provider").map Schedules.interval =
        P.op.dto.schedules.map AvailabityIntervalDto.interval ∧
      (c.db.windows "provider").Pairwise WindowsSeparate := by
  obtain ⟨c, hc⟩ := Option.isSome_iff_exists.mp
    (show (runChecked setAvailibity Undisturbed ⟨Sample.db, []⟩ Sample.inTurn).isSome by
      decide +kernel)
  have hended : ∀ c ∈ runChecked setAvailibity Undisturbed ⟨Sample.db, []⟩ Sample.inTurn,
      (c.db.windows "provider").map (·.id) = ["w2"] ∧
        ∃ P ∈ c.procs, P.op.providerId = "provider" ∧ replaced P := by decide +kernel
  obtain ⟨hwindows, hdone⟩ := hended c hc
  exact ⟨c, hc, hwindows, schedule_replaced Sample.db c "provider" (Run.of_runChecked _ _ hc) hdone⟩

/-- Both schedules are stored, and their windows overlap. -/
theorem not_schedule_replaced : ∃ c : Schedulers,
    Run setAvailibity (fun _ _ => True) ⟨Sample.db, []⟩ c ∧
    (∀ P ∈ c.procs, P.op.providerId = "provider" ∧ replaced P ∧ P.prog.head.isNone) ∧
    (∀ P ∈ c.procs, (c.db.windows "provider").map Schedules.interval ≠
      P.op.dto.schedules.map AvailabityIntervalDto.interval) ∧
    ¬ (c.db.windows "provider").Pairwise WindowsSeparate := by
  obtain ⟨c, hc⟩ := Option.isSome_iff_exists.mp
    (show (runChecked setAvailibity (fun _ _ => True) ⟨Sample.db, []⟩ Sample.bothDelete).isSome by
      decide +kernel)
  have hended : ∀ c ∈ runChecked setAvailibity (fun _ _ => True) ⟨Sample.db, []⟩
      Sample.bothDelete,
      (∀ P ∈ c.procs, P.op.providerId = "provider" ∧ replaced P ∧ P.prog.head.isNone) ∧
      (∀ P ∈ c.procs, (c.db.windows "provider").map Schedules.interval ≠
        P.op.dto.schedules.map AvailabityIntervalDto.interval) ∧
      ¬ (c.db.windows "provider").Pairwise WindowsSeparate := by decide +kernel
  exact ⟨c, Run.of_runChecked _ _ hc, hended c hc⟩

end ServiceHub.Schedules
