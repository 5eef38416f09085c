import MiniOgas.AgentTables
import MiniOgas.Backlog

namespace MiniOgas

open Backlog

variable {db : LocalDatabase} {now : Timestamp} {answers : Int → ReportAnswer}
  {key : Timestamp ×ₗ Int}

def flushes (answers : Int → ReportAnswer) (now : Nat → Timestamp) :
    Nat → LocalDatabase → LocalDatabase
  | 0, db => db
  | n + 1, db =>
    flushPendingCommandResults (flushes answers now n db) (now n) fun id _ _ => answers id

/-- Every unreported result that the centre would accept is reported. -/
def AllReported (answers : Int → ReportAnswer) (db later : LocalDatabase) : Prop :=
  ∀ id row, db.localCommands.get? id = some row → row.resultReported = false →
    (answers id).accepted = true →
    ∃ row', later.localCommands.get? id = some row' ∧ row'.resultReported = true

def reportViews (db : LocalDatabase) : List ((Timestamp ×ₗ Int) × Bool) :=
  db.localCommands.items.map fun item => (reportKey item, item.2.resultReported)

def unreportedKeys (db : LocalDatabase) : List (Timestamp ×ₗ Int) :=
  (unreportedCommands db).map reportKey

def refusesKey (answers : Int → ReportAnswer) (key : Timestamp ×ₗ Int) : Bool :=
  !(answers (ofLex key).2).accepted

theorem unreportedKeys_eq (db : LocalDatabase) : unreportedKeys db =
    (((reportViews db).filter fun view => !view.2).map Prod.fst).insertionSort (· ≤ ·) := by
  have keys : ((reportViews db).filter fun view => !view.2).map Prod.fst =
      (db.localCommands.items.filter fun item => !item.2.resultReported).map reportKey := by
    unfold reportViews
    rw [List.filter_map, List.map_map]
    rfl
  rw [keys]
  exact List.map_insertionSort _ _ reportKey _ fun _ _ _ _ => Iff.rfl

theorem nodup_reportKeys (db : LocalDatabase) :
    ((reportViews db).map fun view => (ofLex view.1).2).Nodup := by
  have ids : (reportViews db).map (fun view => (ofLex view.1).2) =
      db.localCommands.items.map Prod.fst := by
    unfold reportViews
    rw [List.map_map]
    rfl
  rw [ids]
  exact db.localCommands.distinct

theorem nodup_unreportedKeys (db : LocalDatabase) : (unreportedKeys db).Nodup := by
  rw [unreportedKeys_eq, (List.perm_insertionSort _ _).nodup_iff]
  refine List.Nodup.of_map (fun key => (ofLex key).2) ?_
  rw [List.map_map]
  exact (nodup_reportKeys db).sublist (List.filter_sublist.map _)

theorem reportViews_answer (id : Int) (answer : ReportAnswer) :
    reportViews (answerCommandResult db now id answer) =
      (reportViews db).map fun view =>
        (view.1, view.2 || (decide ((ofLex view.1).2 = id) && answer.accepted)) := by
  unfold answerCommandResult
  split
  next accepted =>
    unfold reportViews markCommandResultReported Dictionary.modify Dictionary.mapValues
    rw [List.map_map, List.map_map]
    refine List.map_congr_left fun item _ => ?_
    by_cases own : item.1 = id <;> simp [own, accepted, reportKey]
  next refused =>
    unfold reportViews markCommandResultFailed Dictionary.modify Dictionary.mapValues
    rw [List.map_map, List.map_map]
    refine List.map_congr_left fun item _ => ?_
    by_cases own : item.1 = id <;> simp [own, refused, reportKey]

theorem reportViews_answers (items : List (Int × LocalCommand)) (db : LocalDatabase) :
    reportViews (items.foldl (fun db item => answerCommandResult db now item.1 (answers item.1))
      db) = (reportViews db).map fun view =>
        (view.1, view.2 || (decide ((ofLex view.1).2 ∈ items.map Prod.fst) &&
          (answers (ofLex view.1).2).accepted)) := by
  induction items generalizing db with
  | nil => simp
  | cons item items ih =>
    rw [List.foldl_cons, ih, reportViews_answer, List.map_map]
    refine List.map_congr_left fun view _ => ?_
    by_cases own : (ofLex view.1).2 = item.1 <;>
      by_cases later : (ofLex view.1).2 ∈ items.map Prod.fst <;> simp_all

theorem insertionSort_filter {α : Type} [LinearOrder α] (xs : List α) (p : α → Bool) :
    (xs.filter p).insertionSort (· ≤ ·) = (xs.insertionSort (· ≤ ·)).filter p := by
  have same : ((xs.filter p).insertionSort (· ≤ ·)).Perm ((xs.insertionSort (· ≤ ·)).filter p) :=
    (List.perm_insertionSort _ _).trans ((List.perm_insertionSort _ xs).filter p).symm
  refine same.eq_of_pairwise' (r := (· ≤ ·)) (List.pairwise_insertionSort _ _) ?_
  exact (List.pairwise_insertionSort _ _).sublist List.filter_sublist

theorem mem_unreportedKeys :
    key ∈ unreportedKeys db ↔ (key, false) ∈ reportViews db := by
  rw [unreportedKeys_eq, List.mem_insertionSort, List.mem_map]
  constructor
  · rintro ⟨view, there, rfl⟩
    obtain ⟨there, waits⟩ := List.mem_filter.mp there
    rw [Bool.not_eq_true'] at waits
    rwa [← waits]
  · intro there
    exact ⟨_, List.mem_filter.mpr ⟨there, rfl⟩, rfl⟩

theorem taken_iff {view : (Timestamp ×ₗ Int) × Bool} (there : view ∈ reportViews db) :
    (ofLex view.1).2 ∈ (pendingCommandResults db).map Prod.fst ↔
      view.1 ∈ (unreportedKeys db).take reportLimit := by
  have keys : (unreportedKeys db).take reportLimit = (pendingCommandResults db).map reportKey := by
    unfold unreportedKeys pendingCommandResults
    rw [List.map_take]
  rw [keys]
  constructor
  · intro taken
    obtain ⟨item, pending, same⟩ := List.mem_map.mp taken
    have member : reportKey item ∈ unreportedKeys db :=
      List.mem_map_of_mem ((List.take_subset _ _) pending)
    have own := List.inj_on_of_nodup_map (nodup_reportKeys db) there
      (mem_unreportedKeys.mp member) same.symm
    rw [own]
    exact List.mem_map_of_mem pending
  · intro taken
    obtain ⟨item, pending, same⟩ := List.mem_map.mp taken
    rw [← same]
    exact List.mem_map_of_mem pending

theorem unreportedKeys_flush (db : LocalDatabase) :
    unreportedKeys (flushPendingCommandResults db now fun id _ _ => answers id) =
      sweep (refusesKey answers) reportLimit (unreportedKeys db) := by
  rw [← filter_eq_sweep (nodup_unreportedKeys db)]
  unfold flushPendingCommandResults
  rw [unreportedKeys_eq, reportViews_answers]
  conv => rhs; arg 2; rw [unreportedKeys_eq]
  rw [← insertionSort_filter]
  congr 1
  rw [List.filter_map, List.map_map, List.filter_map, List.filter_filter]
  refine congrArg (List.map Prod.fst) (List.filter_congr fun view there => ?_)
  have taken := taken_iff there
  unfold refusesKey
  by_cases first : view.1 ∈ (unreportedKeys db).take reportLimit <;>
    by_cases reported : view.2 = true <;> simp_all

theorem unreportedKeys_flushes (now : Nat → Timestamp) (n : Nat) (db : LocalDatabase) :
    unreportedKeys (flushes answers now n db) =
      (sweep (refusesKey answers) reportLimit)^[n] (unreportedKeys db) := by
  induction n with
  | zero => rfl
  | succ n ih => rw [Function.iterate_succ_apply', ← ih, flushes, unreportedKeys_flush]

theorem mem_reportViews {reported : Bool} :
    (key, reported) ∈ reportViews db ↔ ∃ row, db.localCommands.get? (ofLex key).2 = some row ∧
      row.appliedAt = (ofLex key).1 ∧ row.resultReported = reported := by
  unfold reportViews
  rw [List.mem_map]
  constructor
  · rintro ⟨item, there, same⟩
    obtain ⟨rfl, rfl⟩ := Prod.mk.inj same
    exact ⟨item.2, Dictionary.get?_eq_some_iff.mpr there, rfl, rfl⟩
  · rintro ⟨row, there, time, rfl⟩
    refine ⟨_, Dictionary.get?_eq_some_iff.mp there, ?_⟩
    unfold reportKey
    rw [time]
    rfl

theorem mem_reportViews_flushes (now : Nat → Timestamp) (n : Nat) {key : Timestamp ×ₗ Int}
    {reported : Bool} (there : (key, reported) ∈ reportViews db) :
    ∃ reported', (key, reported') ∈ reportViews (flushes answers now n db) := by
  induction n with
  | zero => exact ⟨reported, there⟩
  | succ n ih =>
    obtain ⟨before, there⟩ := ih
    unfold flushes flushPendingCommandResults
    rw [reportViews_answers]
    exact ⟨_, List.mem_map.mpr ⟨_, there, rfl⟩⟩

theorem allReported_flushes_iff (now : Nat → Timestamp) (n : Nat) :
    AllReported answers db (flushes answers now n db) ↔
      ∀ key ∈ (sweep (refusesKey answers) reportLimit)^[n] (unreportedKeys db),
        refusesKey answers key = true := by
  constructor
  · intro all key left
    by_contra accepted
    have accepted : (answers (ofLex key).2).accepted = true := by
      simpa [refusesKey] using accepted
    have first := iterate_subset (fun _ => sweep_subset) (Nat.zero_le n) left
    obtain ⟨row, there, -, waits⟩ := mem_reportViews.mp (mem_unreportedKeys.mp first)
    obtain ⟨row', there', reported⟩ := all _ row there waits accepted
    rw [← unreportedKeys_flushes now] at left
    obtain ⟨row'', there'', -, waits'⟩ := mem_reportViews.mp (mem_unreportedKeys.mp left)
    rw [Option.some.inj (there'.symm.trans there''), waits'] at reported
    cases reported
  · intro refused id row there waits accepted
    have view : (reportKey (id, row), false) ∈ reportViews db :=
      mem_reportViews.mpr ⟨row, there, rfl, waits⟩
    obtain ⟨reported, later⟩ := @mem_reportViews_flushes _ answers now n _ _ view
    obtain ⟨row', there', -, state⟩ := mem_reportViews.mp later
    refine ⟨row', there', ?_⟩
    by_contra left
    have left : reported = false := by rw [← state]; exact Bool.not_eq_true _ ▸ left
    rw [left] at later
    have key := refused (reportKey (id, row)) (by
      rw [← unreportedKeys_flushes now]
      exact mem_unreportedKeys.mpr later)
    simp [refusesKey, reportKey, accepted] at key

/-- In finitely many flushes every result that the centre would accept is reported, if and only
if fewer than a hundred results that it refuses are older than any of them. -/
theorem allReported_iff (answers : Int → ReportAnswer) (now : Nat → Timestamp)
    (db : LocalDatabase) :
    (∃ n, AllReported answers db (flushes answers now n db)) ↔
      ∀ older item newer, unreportedCommands db = older ++ item :: newer →
        (answers item.1).accepted = true →
        older.countP (fun earlier => !(answers earlier.1).accepted) < 100 := by
  have reachable : Reachable (refusesKey answers) reportLimit (unreportedKeys db) ↔
      ∀ older item newer, unreportedCommands db = older ++ item :: newer →
        (answers item.1).accepted = true →
        older.countP (fun earlier => !(answers earlier.1).accepted) < 100 := by
    unfold unreportedKeys
    rw [reachable_map]
    unfold Reachable refusesKey reportKey reportLimit
    simp only [Bool.not_eq_false']
    rfl
  rw [← reachable, ← sweep_iff]
  exact exists_congr fun n => allReported_flushes_iff now n

def sampleResultRow (n : Nat) : Int × LocalCommand :=
  (n, { idempotencyKey := s!"command-{n}", version := 1, commandType := "set_target_rate",
        parameters := .obj [], status := "failed", resultMessage := "command expired",
        appliedAt := n })

theorem sampleResultRow_distinct (n : Nat) :
    (((List.range n).map sampleResultRow).map Prod.fst).Nodup := by
  rw [List.map_map]
  exact List.nodup_range.map fun _ _ same => Int.ofNat_inj.mp same

def sampleResults : LocalDatabase :=
  { LocalDatabase.empty with
    localCommands := ⟨(List.range 101).map sampleResultRow, sampleResultRow_distinct 101⟩ }

def sampleAnswers (id : Int) : ReportAnswer := ⟨id = 100, 400, "not executable"⟩

theorem unreportedCommands_sampleResults :
    unreportedCommands sampleResults = (List.range 101).map sampleResultRow := by
  have all : ((List.range 101).map sampleResultRow).filter (fun item => !item.2.resultReported) =
      (List.range 101).map sampleResultRow := by
    rw [List.filter_eq_self]
    intro item there
    obtain ⟨n, -, rfl⟩ := List.mem_map.mp there
    rfl
  unfold unreportedCommands sampleResults
  rw [all]
  refine List.Pairwise.insertionSort_eq ?_
  rw [List.pairwise_map]
  refine List.pairwise_lt_range.imp fun {m n} lt => ?_
  exact Prod.Lex.toLex_le_toLex.mpr (.inl (Int.ofNat_lt.mpr lt))

/-- A hundred refused results keep a later one from being reported. -/
theorem refused_results_block : ¬∀ (answers : Int → ReportAnswer) (now : Nat → Timestamp)
    (db : LocalDatabase), ∃ n, AllReported answers db (flushes answers now n db) := by
  intro h
  obtain ⟨n, all⟩ := h sampleAnswers (fun n => n) sampleResults
  have swept := sweep_iff.mp ⟨n, (allReported_flushes_iff _ n).mp all⟩
  unfold unreportedKeys at swept
  rw [reachable_map, unreportedCommands_sampleResults, List.range_succ, List.map_append,
    List.map_singleton] at swept
  have few := swept _ (sampleResultRow 100) [] rfl (by decide)
  have refused : ∀ item ∈ (List.range 100).map sampleResultRow,
      refusesKey sampleAnswers (reportKey item) = true := by
    intro item there
    obtain ⟨m, lt, rfl⟩ := List.mem_map.mp there
    have other : (m : Int) ≠ 100 := by
      have := List.mem_range.mp lt
      omega
    simp [refusesKey, sampleAnswers, reportKey, sampleResultRow, other]
  rw [List.countP_eq_length.mpr refused, List.length_map, List.length_range] at few
  exact absurd few (by decide)

end MiniOgas
