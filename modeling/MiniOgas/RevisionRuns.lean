import MiniOgas.RevisionStore

namespace MiniOgas

open Interleaving

variable {S : Type} [DecidableEq S]
  {call : RevisionCall} {data data' table table' : RevisionTable}
  {writes before after : List RevisionWrite} {write : RevisionWrite} {phase next : RevisionPhase}
  {id k object : Nat} {row revision : Revision} {change : RevisionChange}

theorem get?_put_change : (table.put (.change id change)).rows.get? k =
    if k = id then (table.rows.get? k).map (·.change change) else table.rows.get? k :=
  Dictionary.get?_modify

theorem get?_put_of_ne (ne : ∀ c, write ≠ .change k c) :
    (table.put write).rows.get? k = table.rows.get? k := by
  cases write with
  | change id c => rw [get?_put_change, if_neg fun same => ne c (by rw [same])]
  | audit row => rfl

theorem get?_foldl_of_ne (ne : ∀ w ∈ writes, ∀ c, w ≠ .change k c) :
    (writes.foldl RevisionTable.put table).rows.get? k = table.rows.get? k := by
  induction writes generalizing table with
  | nil => rfl
  | cons write rest ih =>
    rw [List.foldl_cons, ih fun w member => ne w (List.mem_cons_of_mem _ member)]
    exact get?_put_of_ne (ne write List.mem_cons_self)

theorem object_foldl (found : table.rows.get? k = some row) (writes : List RevisionWrite) :
    ∃ row', (writes.foldl RevisionTable.put table).rows.get? k = some row' ∧
      row'.object = row.object := by
  induction writes generalizing table row with
  | nil => exact ⟨row, found, rfl⟩
  | cons write rest ih =>
    rw [List.foldl_cons]
    have step : ∃ row', (table.put write).rows.get? k = some row' ∧ row'.object = row.object := by
      cases write with
      | change id c =>
        rw [get?_put_change, found]
        split
        next => exact ⟨_, rfl, by cases c <;> rfl⟩
        next => exact ⟨row, rfl, rfl⟩
      | audit _ => exact ⟨row, found, rfl⟩
    obtain ⟨row', found', same⟩ := step
    obtain ⟨last, found'', same'⟩ := ih found'
    exact ⟨last, found'', same'.trans same⟩

theorem isEffective_iff : table.isEffective object id = true ↔
    ∃ row, table.rows.get? id = some row ∧ row.object = object ∧ row.status = .effective := by
  unfold RevisionTable.isEffective
  cases table.rows.get? id with
  | none => simp
  | some row => simp

theorem isEffective_congr (same : table.rows.get? id = table'.rows.get? id) :
    table.isEffective object id = table'.isEffective object id := by
  unfold RevisionTable.isEffective
  rw [same]

theorem object_of_isEffective (effective : table.isEffective object id = true)
    (found : table.rows.get? id = some row) : row.object = object := by
  obtain ⟨row', found', same, -⟩ := isEffective_iff.mp effective
  rw [found] at found'
  cases found'
  exact same

theorem isEffective_of_status (found : table.rows.get? id = some row)
    (status : row.status ≠ .effective) : table.isEffective object id = false := by
  rw [Bool.eq_false_iff]
  intro effective
  obtain ⟨row', found', -, is⟩ := isEffective_iff.mp effective
  rw [found] at found'
  cases found'
  exact status is

theorem mem_toSupersede_iff : id ∈ table.toSupersede object k ↔
    table.isEffective object id = true ∧ id ≠ k := by
  unfold RevisionTable.toSupersede
  rw [List.mem_filter, Bool.and_eq_true, decide_eq_true_eq]
  refine and_iff_right_of_imp fun ⟨effective, _⟩ => ?_
  obtain ⟨row, found, -⟩ := isEffective_iff.mp effective
  exact List.mem_map.mpr ⟨_, Dictionary.get?_eq_some_iff.mp found, rfl⟩

/-- The writes supersede effective revisions of the object, other than the one of the call. -/
def Superseding (data : RevisionTable) (object revisionId : Nat) (writes : List RevisionWrite) :
    Prop :=
  ∀ w ∈ writes, ∃ id, w = .change id .supersede ∧ id ≠ revisionId ∧
    data.isEffective object id = true

def Quiet (data : RevisionTable) (writes : List RevisionWrite) : Prop :=
  ∀ w ∈ writes, (∃ row, w = .audit row) ∨
    ∃ id actor now, w = .change id (.approve actor now) ∧
      ∀ object, data.isEffective object id = false

theorem isEffective_put_quiet (quiet : (∃ row, write = .audit row) ∨
    ∃ id actor now, write = .change id (.approve actor now) ∧
      ∀ object, data.isEffective object id = false) :
    (data.put write).isEffective object k = data.isEffective object k := by
  rcases quiet with ⟨row, rfl⟩ | ⟨id, actor, now, rfl, idle⟩
  · rfl
  · by_cases same : k = id
    · subst same
      rw [idle object, Bool.eq_false_iff]
      intro effective
      obtain ⟨row, found, -, is⟩ := isEffective_iff.mp effective
      rw [get?_put_change, if_pos rfl] at found
      obtain ⟨old, -, rfl⟩ := Option.map_eq_some_iff.mp found
      cases is
    · exact isEffective_congr (get?_put_of_ne fun c eq => same (by cases eq; rfl))

theorem isEffective_foldl_quiet (quiet : Quiet data writes) :
    (writes.foldl RevisionTable.put data).isEffective object k = data.isEffective object k := by
  induction writes generalizing data with
  | nil => rfl
  | cons write rest ih =>
    have first := quiet write List.mem_cons_self
    rw [List.foldl_cons, ih, isEffective_put_quiet first]
    intro w member
    rcases quiet w (List.mem_cons_of_mem _ member) with audit | ⟨id, actor, now, is, idle⟩
    · exact .inl audit
    · refine .inr ⟨id, actor, now, is, fun object => ?_⟩
      rw [isEffective_put_quiet first]
      exact idle object

theorem get?_foldl_supersede (each : ∀ w ∈ writes, ∃ id, w = .change id .supersede) :
    (writes.foldl RevisionTable.put table).rows.get? k =
      if .change k .supersede ∈ writes then (table.rows.get? k).map (·.change .supersede)
      else table.rows.get? k := by
  induction writes generalizing table with
  | nil => rfl
  | cons write rest ih =>
    obtain ⟨id, rfl⟩ := each write List.mem_cons_self
    rw [List.foldl_cons, ih fun w member => each w (List.mem_cons_of_mem _ member), get?_put_change]
    by_cases same : k = id
    · subst same
      rw [if_pos rfl, if_pos List.mem_cons_self]
      split
      next =>
        rw [Option.map_map]
        rfl
      next => rfl
    · have tail : RevisionWrite.change k .supersede ∈ .change id .supersede :: rest ↔
          RevisionWrite.change k .supersede ∈ rest := by
        simp [same]
      simp only [tail, if_neg same]

theorem Superseding.isEffective (superseding : Superseding data object id writes) {other : Nat}
    (effective : (writes.foldl RevisionTable.put data).isEffective other k = true) :
    data.isEffective other k = true ∧ .change k .supersede ∉ writes := by
  have row := @get?_foldl_supersede data _ k fun w member =>
    (superseding w member).imp fun _ is => is.1
  obtain ⟨found, there, same, is⟩ := isEffective_iff.mp effective
  rw [row] at there
  split at there
  next =>
    obtain ⟨old, -, rfl⟩ := Option.map_eq_some_iff.mp there
    cases is
  next out => exact ⟨isEffective_iff.mpr ⟨found, there, same, is⟩, out⟩

def RevisionCall.promotion (call : RevisionCall) : RevisionWrite :=
  .change call.revisionId (.promote call.actor call.now)

structure Promoting (data : RevisionTable) (call : RevisionCall) (object : Nat)
    (before after : List RevisionWrite) : Prop where
  superseding : Superseding data object call.revisionId before
  audits : ∀ w ∈ after, ∃ row, w = .audit row
  approved : ∃ row, data.rows.get? call.revisionId = some row ∧ row.object = object ∧
    row.status = .approved

def Clear (data : RevisionTable) (object : Nat) (before : List RevisionWrite) : Prop :=
  ∀ id, data.isEffective object id = true → .change id .supersede ∈ before

theorem Promoting.get? (promoting : Promoting data call object before after)
    (ne : k ≠ call.revisionId) :
    ((before ++ call.promotion :: after).foldl RevisionTable.put data).rows.get? k =
      (before.foldl RevisionTable.put data).rows.get? k := by
  rw [List.foldl_append, List.foldl_cons, get?_foldl_of_ne, get?_put_of_ne]
  · intro c eq
    cases eq
    exact ne rfl
  · intro w member c eq
    obtain ⟨row, is⟩ := promoting.audits w member
    rw [is] at eq
    cases eq

theorem Promoting.get?_self (promoting : Promoting data call object before after) :
    ∃ row, ((before ++ call.promotion :: after).foldl RevisionTable.put data).rows.get?
      call.revisionId = some row ∧ row.object = object ∧ row.status = .effective := by
  obtain ⟨row, found, same, -⟩ := promoting.approved
  refine ⟨row.change (.promote call.actor call.now), ?_, same, rfl⟩
  rw [List.foldl_append, List.foldl_cons, get?_foldl_of_ne, RevisionCall.promotion,
    get?_put_change, if_pos rfl, get?_foldl_of_ne, found]
  · rfl
  · intro w member c eq
    obtain ⟨id, is, ne, -⟩ := promoting.superseding w member
    rw [is] at eq
    cases eq
    exact ne rfl
  · intro w member c eq
    obtain ⟨row, is⟩ := promoting.audits w member
    rw [is] at eq
    cases eq

theorem Promoting.isEffective_iff (promoting : Promoting data call object before after)
    (clear : Clear data object before) {other : Nat} :
    ((before ++ call.promotion :: after).foldl RevisionTable.put data).isEffective other k = true ↔
      (other = object ∧ k = call.revisionId) ∨
        other ≠ object ∧ data.isEffective other k = true := by
  by_cases own : k = call.revisionId
  · subst own
    obtain ⟨row, found, same, is⟩ := promoting.get?_self
    have idle : data.isEffective other call.revisionId = false := by
      obtain ⟨row, found, -, status⟩ := promoting.approved
      exact isEffective_of_status found (by rw [status]; decide)
    rw [MiniOgas.isEffective_iff, idle]
    constructor
    · rintro ⟨row', found', same', -⟩
      rw [found] at found'
      cases found'
      exact .inl ⟨same'.symm.trans same, rfl⟩
    · rintro (⟨rfl, -⟩ | ⟨-, none⟩)
      · exact ⟨row, found, same, is⟩
      · cases none
  · rw [isEffective_congr (promoting.get? own)]
    constructor
    · intro effective
      obtain ⟨old, kept⟩ := promoting.superseding.isEffective effective
      refine .inr ⟨?_, old⟩
      rintro rfl
      exact kept (clear k old)
    · rintro (⟨-, rfl⟩ | ⟨ne, old⟩)
      · exact absurd rfl own
      · have kept : ∀ w ∈ before, ∀ c, w ≠ .change k c := by
          intro w member c eq
          obtain ⟨id, is, -, effective⟩ := promoting.superseding w member
          rw [is] at eq
          cases eq
          obtain ⟨row, found, same, -⟩ := MiniOgas.isEffective_iff.mp effective
          exact ne ((object_of_isEffective old found).symm.trans same)
        rw [isEffective_congr (get?_foldl_of_ne kept)]
        exact old

def Read (data : RevisionTable) (call : RevisionCall) (object : Nat) : Prop :=
  ∃ row, data.rows.get? call.revisionId = some row ∧ row.object = object

/-- The uncommitted writes of a transaction before each statement; `holds` has the locks of its
session. -/
def RevisionStage (data : RevisionTable) (holds : RevisionLock → Prop) (call : RevisionCall)
    (log : List RevisionWrite) : RevisionPhase → Prop
  | .select | .approve => log = []
  | .supersede revision => log = [] ∧ Read data call revision.object
  | .supersedeRows revision _ | .promote revision =>
    Read data call revision.object ∧ Superseding data revision.object call.revisionId log ∧
      (log ≠ [] → holds (.entry revision.object))
  | .enterIndex revision => ∃ before, log = before ++ [call.promotion] ∧
      Promoting data call revision.object before [] ∧
      (before ≠ [] → holds (.entry revision.object))
  | .checkIndex revision => ∃ before, log = before ++ [call.promotion] ∧
      Promoting data call revision.object before [] ∧ holds (.entry revision.object)
  | .audit | .reread | .commit _ => Quiet data log ∨ ∃ object before after,
      log = before ++ call.promotion :: after ∧ Promoting data call object before after ∧
        Clear data object before ∧ holds (.entry object)

structure Undisturbed (data data' : RevisionTable) (holds holds' : RevisionLock → Prop)
    (log : List RevisionWrite) : Prop where
  held : ∀ l, holds l → holds' l
  objects : ∀ id row, data.rows.get? id = some row →
    ∃ row', data'.rows.get? id = some row' ∧ row'.object = row.object
  written : ∀ id c, .change id c ∈ log → data'.rows.get? id = data.rows.get? id
  entered : ∀ object id, holds (.entry object) → data'.isEffective object id = true →
    data.isEffective object id = true

section Undisturbed

variable {holds holds' : RevisionLock → Prop} {log : List RevisionWrite}

theorem Undisturbed.read (undisturbed : Undisturbed data data' holds holds' log)
    (read : Read data call object) : Read data' call object := by
  obtain ⟨row, found, same⟩ := read
  obtain ⟨row', found', same'⟩ := undisturbed.objects _ row found
  exact ⟨row', found', same'.trans same⟩

theorem Undisturbed.superseding (undisturbed : Undisturbed data data' holds holds' log)
    (sub : ∀ w ∈ before, w ∈ log) (superseding : Superseding data object id before) :
    Superseding data' object id before := by
  intro w member
  obtain ⟨k, rfl, ne, effective⟩ := superseding w member
  refine ⟨k, rfl, ne, ?_⟩
  rw [isEffective_congr (undisturbed.written k _ (sub _ member))]
  exact effective

theorem Undisturbed.promoting (undisturbed : Undisturbed data data' holds holds' log)
    (is : log = before ++ call.promotion :: after)
    (promoting : Promoting data call object before after) :
    Promoting data' call object before after := by
  refine ⟨undisturbed.superseding (fun w member => ?_) promoting.superseding, promoting.audits, ?_⟩
  · rw [is]
    exact List.mem_append_left _ member
  · have kept : data'.rows.get? call.revisionId = data.rows.get? call.revisionId := by
      refine undisturbed.written _ (.promote call.actor call.now) ?_
      rw [is]
      exact List.mem_append_right _ List.mem_cons_self
    rw [kept]
    exact promoting.approved

theorem RevisionStage.mono (stage : RevisionStage data holds call log phase)
    (undisturbed : Undisturbed data data' holds holds' log) :
    RevisionStage data' holds' call log phase := by
  have superseded (object : Nat) (facts : Read data call object ∧
      Superseding data object call.revisionId log ∧ (log ≠ [] → holds (.entry object))) :
      Read data' call object ∧ Superseding data' object call.revisionId log ∧
        (log ≠ [] → holds' (.entry object)) :=
    ⟨undisturbed.read facts.1, undisturbed.superseding (fun _ member => member) facts.2.1,
      fun some => undisturbed.held _ (facts.2.2 some)⟩
  have late (facts : Quiet data log ∨ ∃ object before after,
      log = before ++ call.promotion :: after ∧ Promoting data call object before after ∧
        Clear data object before ∧ holds (.entry object)) :
      Quiet data' log ∨ ∃ object before after,
        log = before ++ call.promotion :: after ∧ Promoting data' call object before after ∧
          Clear data' object before ∧ holds' (.entry object) := by
    rcases facts with quiet | ⟨object, before, after, is, promoting, clear, entry⟩
    · refine .inl fun w member => (quiet w member).imp_right ?_
      rintro ⟨id, actor, now, rfl, idle⟩
      refine ⟨id, actor, now, rfl, fun object => ?_⟩
      rw [isEffective_congr (undisturbed.written id _ member)]
      exact idle object
    · exact .inr ⟨object, before, after, is, undisturbed.promoting is promoting,
        fun id effective => clear id (undisturbed.entered object id entry effective),
        undisturbed.held _ entry⟩
  cases phase with
  | select => exact stage
  | approve => exact stage
  | supersede revision => exact ⟨stage.1, undisturbed.read stage.2⟩
  | supersedeRows revision found => exact superseded _ stage
  | promote revision => exact superseded _ stage
  | enterIndex revision =>
    obtain ⟨before, is, promoting, entry⟩ := stage
    exact ⟨before, is, undisturbed.promoting is promoting,
      fun some => undisturbed.held _ (entry some)⟩
  | checkIndex revision =>
    obtain ⟨before, is, promoting, entry⟩ := stage
    exact ⟨before, is, undisturbed.promoting is promoting, undisturbed.held _ entry⟩
  | audit => exact late stage
  | reread => exact late stage
  | commit revision => exact late stage

end Undisturbed

section Statements

variable {holds holds' : RevisionLock → Prop} {log : List RevisionWrite}
  {locks : List RevisionLock}

theorem quiet_audit (row : RevisionAudit) : Quiet data [.audit row] :=
  fun _ member => .inl ⟨row, List.mem_singleton.mp member⟩

theorem approve_stage {revision : Revision}
    (acts : call.begin revision = .go locks writes next)
    (found : data.rows.get? call.revisionId = some revision) :
    writes = [] ∧ RevisionStage data holds call [] next := by
  unfold RevisionCall.begin at acts
  split at acts
  next =>
    split at acts
    next => cases acts
    next =>
      split at acts
      next => cases acts
      next =>
        cases acts
        exact ⟨rfl, rfl⟩
  next =>
    split at acts
    next => cases acts
    next =>
      split at acts
      next => cases acts
      next =>
        cases acts
        exact ⟨rfl, rfl, revision, found, rfl⟩

theorem stage_next (stage : RevisionStage data holds call log phase)
    (current : ∀ revision, phase = .promote revision → log ≠ [] →
      ∃ row, data.rows.get? call.revisionId = some row ∧ row.status = .approved)
    (acts : revisionStatement call phase (log.foldl RevisionTable.put data) =
      .go locks writes next)
    (held : ∀ l, holds l → holds' l) (taken : ∀ l ∈ locks, holds' l) :
    RevisionStage data holds' call (log ++ writes) next ∧
      ∀ id c, .change id c ∈ writes → .row id ∈ locks := by
  cases phase with
  | select =>
    have unwritten : log = [] := stage
    subst unwritten
    rw [revisionStatement] at acts
    split at acts
    next => cases acts
    next revision found =>
      obtain ⟨rfl, next⟩ := approve_stage acts found
      exact ⟨next, fun _ _ none => absurd none List.not_mem_nil⟩
  | approve =>
    have unwritten : log = [] := stage
    subst unwritten
    rw [revisionStatement] at acts
    split at acts
    next row found =>
      split at acts
      next draft =>
        cases acts
        refine ⟨.inl fun w member => .inr ⟨_, _, _, List.mem_singleton.mp member, fun object => ?_⟩,
          fun id c member => ?_⟩
        · exact isEffective_of_status found (by rw [draft]; decide)
        · cases List.mem_singleton.mp member
          exact List.mem_singleton.mpr rfl
      next =>
        cases acts
        exact ⟨.inl (List.forall_mem_nil _),
          fun _ _ none => absurd none List.not_mem_nil⟩
    next =>
      cases acts
      exact ⟨.inl (List.forall_mem_nil _),
        fun _ _ none => absurd none List.not_mem_nil⟩
  | supersede revision =>
    obtain ⟨unwritten, read⟩ := stage
    subst unwritten
    cases acts
    exact ⟨⟨read, List.forall_mem_nil _, fun some => absurd rfl some⟩,
      fun _ _ none => absurd none List.not_mem_nil⟩
  | supersedeRows revision found =>
    obtain ⟨read, superseding, entry⟩ := stage
    cases found with
    | nil =>
      cases acts
      rw [List.append_nil]
      exact ⟨⟨read, superseding, fun some => held _ (entry some)⟩,
        fun _ _ none => absurd none List.not_mem_nil⟩
    | cons id found =>
      rw [revisionStatement] at acts
      split at acts
      next again =>
        cases acts
        rw [Bool.and_eq_true, decide_eq_true_eq] at again
        obtain ⟨effective, ne⟩ := again
        refine ⟨⟨read, fun w member => ?_, fun _ => taken _ (by simp)⟩, fun k c member => ?_⟩
        · rcases Serial.of_mem_concat member with old | rfl
          · exact superseding w old
          · exact ⟨id, rfl, ne, (superseding.isEffective effective).1⟩
        · cases List.mem_singleton.mp member
          exact List.mem_cons_self
      next =>
        cases acts
        rw [List.append_nil]
        exact ⟨⟨read, superseding, fun some => held _ (entry some)⟩,
          fun _ _ none => absurd none List.not_mem_nil⟩
  | promote revision =>
    obtain ⟨⟨row, found, object⟩, superseding, entry⟩ := stage
    have unchanged : (log.foldl RevisionTable.put data).rows.get? call.revisionId = some row := by
      rw [get?_foldl_of_ne, found]
      intro w member c is
      obtain ⟨id, is', ne, -⟩ := superseding w member
      rw [is] at is'
      cases is'
      exact ne rfl
    rw [revisionStatement, unchanged] at acts
    dsimp only at acts
    split at acts
    next approved =>
      cases acts
      refine ⟨⟨log, rfl, ⟨superseding, List.forall_mem_nil _,
        row, found, object, approved⟩, fun some => held _ (entry some)⟩, fun id c member => ?_⟩
      cases List.mem_singleton.mp member
      exact List.mem_singleton.mpr rfl
    next other =>
      cases acts
      rw [List.append_nil]
      have unwritten : log = [] := by
        by_contra some
        obtain ⟨row', found', approved⟩ := current revision rfl some
        rw [found] at found'
        cases found'
        exact other approved
      subst unwritten
      exact ⟨.inl (List.forall_mem_nil _),
        fun _ _ none => absurd none List.not_mem_nil⟩
  | enterIndex revision =>
    obtain ⟨before, is, promoting, entry⟩ := stage
    cases acts
    rw [List.append_nil]
    exact ⟨⟨before, is, promoting, taken _ List.mem_cons_self⟩,
      fun _ _ none => absurd none List.not_mem_nil⟩
  | checkIndex revision =>
    obtain ⟨before, is, promoting, entry⟩ := stage
    rw [revisionStatement] at acts
    split at acts
    next alone =>
      cases acts
      rw [List.append_nil]
      refine ⟨.inr ⟨_, before, [], is, promoting, fun id effective => ?_, held _ entry⟩,
        fun _ _ none => absurd none List.not_mem_nil⟩
      have ne : id ≠ call.revisionId := by
        rintro rfl
        obtain ⟨row, found, -, approved⟩ := promoting.approved
        rw [isEffective_of_status found (by rw [approved]; decide)] at effective
        cases effective
      by_contra kept
      have row := @get?_foldl_supersede data _ id fun w member =>
        (promoting.superseding w member).imp fun _ is => is.1
      rw [if_neg kept] at row
      have listed : id ∈ (log.foldl RevisionTable.put data).toSupersede revision.object
          call.revisionId := by
        refine mem_toSupersede_iff.mpr ⟨?_, ne⟩
        rw [is, isEffective_congr ((promoting.get? ne).trans row)]
        exact effective
      rw [List.isEmpty_iff.mp alone] at listed
      cases listed
    next => cases acts
  | audit =>
    cases acts
    refine ⟨?_, fun id c member => by cases List.mem_singleton.mp member⟩
    rcases stage with quiet | ⟨object, before, after, rfl, promoting, clear, entry⟩
    · exact .inl fun w member => (List.mem_append.mp member).elim (quiet w) (quiet_audit _ w)
    · refine .inr ⟨object, before, after ++ [.audit call.audit], by simp, ?_, clear, held _ entry⟩
      refine ⟨promoting.superseding, fun w member => ?_, promoting.approved⟩
      rcases Serial.of_mem_concat member with old | rfl
      · exact promoting.audits w old
      · exact ⟨_, rfl⟩
  | reread =>
    rw [revisionStatement] at acts
    split at acts
    next => cases acts
    next =>
      cases acts
      rw [List.append_nil]
      refine ⟨?_, fun _ _ none => absurd none List.not_mem_nil⟩
      exact stage.imp_right fun ⟨object, before, after, is, promoting, clear, entry⟩ =>
        ⟨object, before, after, is, promoting, clear, held _ entry⟩
  | commit revision => cases acts

end Statements

variable {calls : S → RevisionCall} {σ σ' : RevisionServer S} {s r : S} {locks : List RevisionLock}
  {status : Session RevisionPhase Revision RevisionFault}

/-- Each object has at most one effective revision: the unique index. -/
def RevisionTable.Indexed (table : RevisionTable) : Prop :=
  ∀ object j k, table.isEffective object j = true → table.isEffective object k = true → j = k

structure RevisionsSound (calls : S → RevisionCall) (σ : RevisionServer S) : Prop where
  indexed : σ.data.Indexed
  locked : ∀ s id c, .change id c ∈ σ.log s → σ.holder (.row id) = some s
  stage : ∀ s phase, σ.session s = .running phase →
    RevisionStage σ.data (fun l => σ.holder l = some s) (calls s) (σ.log s) phase

def atPromote : Session RevisionPhase Revision RevisionFault → Bool
  | .running (.promote _) => true
  | _ => false

/-- A transaction that has superseded a revision and comes to promote its own one finds it
approved. -/
def PromotesApproved (calls : S → RevisionCall) (σ : RevisionServer S) : Event S → Prop
  | .run s => atPromote (σ.session s) = true → σ.log s ≠ [] →
      (σ.data.rows.get? (calls s).revisionId).any (·.status = .approved) = true
  | .kill _ => True

instance (σ : RevisionServer S) : (event : Event S) → Decidable (PromotesApproved calls σ event)
  | .run _ => inferInstanceAs (Decidable (_ → _ → _))
  | .kill _ => inferInstanceAs (Decidable True)

theorem RevisionsSound.finish (sound : RevisionsSound calls σ) (indexed : data.Indexed)
    (ended : ∀ phase, status ≠ .running phase)
    (objects : ∀ id row, σ.data.rows.get? id = some row →
      ∃ row', data.rows.get? id = some row' ∧ row'.object = row.object)
    (written : ∀ id, σ.holder (.row id) ≠ some s → data.rows.get? id = σ.data.rows.get? id)
    (entered : ∀ object id, σ.holder (.entry object) ≠ some s →
      data.isEffective object id = true → σ.data.isEffective object id = true) :
    RevisionsSound calls (σ.finish s data status) := by
  refine ⟨indexed, fun r id c member => ?_, fun r phase running => ?_⟩
  · by_cases same : r = s
    · rw [same, finish_log_self] at member
      cases member
    · rw [finish_log_ne _ _ _ _ same] at member
      exact (finish_holder_iff _ _ _ _ same).mpr (sound.locked r id c member)
  · obtain ⟨same, running⟩ := running_of_finish _ _ _ _ ended running
    rw [finish_log_ne _ _ _ _ same]
    have others {l : RevisionLock} (held : σ.holder l = some r) : σ.holder l ≠ some s := by
      rw [held]
      exact fun eq => same (Option.some.inj eq)
    refine (sound.stage r phase running).mono ⟨fun l held => ?_, objects, fun id c member => ?_,
      fun object id held => entered object id (others held)⟩
    · exact (finish_holder_iff _ _ _ _ same).mpr held
    · exact written id (others (sound.locked r id c member))

theorem RevisionsSound.abort (sound : RevisionsSound calls σ)
    (ended : ∀ phase, status ≠ .running phase) :
    RevisionsSound calls (σ.finish s σ.data status) :=
  sound.finish sound.indexed ended (fun _ row found => ⟨row, found, rfl⟩) (fun _ _ => rfl)
    fun _ _ _ effective => effective

omit [DecidableEq S] in
theorem RevisionsSound.commits (sound : RevisionsSound calls σ)
    (running : σ.session s = .running phase) {reply : Revision}
    (acts : revisionStatement (calls s) phase ((revisionProtocol calls).view σ s) =
      .commit reply) :
    (∀ object k, ((revisionProtocol calls).view σ s).isEffective object k =
        σ.data.isEffective object k) ∨
      ∃ object id, σ.holder (.entry object) = some s ∧ ∀ other k,
        ((revisionProtocol calls).view σ s).isEffective other k = true ↔
          (other = object ∧ k = id) ∨ other ≠ object ∧ σ.data.isEffective other k = true := by
  have stage := sound.stage s phase running
  have view : (revisionProtocol calls).view σ s = (σ.log s).foldl RevisionTable.put σ.data := rfl
  cases phase with
  | select =>
    have unwritten : σ.log s = [] := stage
    rw [view, unwritten]
    exact .inl fun _ _ => rfl
  | commit revision =>
    rw [view]
    rcases stage with quiet | ⟨object, before, after, is, promoting, clear, entry⟩
    · exact .inl fun object k => isEffective_foldl_quiet quiet
    · rw [is]
      exact .inr ⟨object, (calls s).revisionId, entry,
        fun other k => promoting.isEffective_iff clear⟩
  | approve | promote revision =>
    rw [revisionStatement] at acts
    split at acts
    next => split at acts <;> cases acts
    next => cases acts
  | supersede revision => cases acts
  | enterIndex revision => cases acts
  | audit => cases acts
  | supersedeRows revision found =>
    cases found with
    | nil => cases acts
    | cons id found =>
      rw [revisionStatement] at acts
      split at acts <;> cases acts
  | checkIndex revision | reread =>
    rw [revisionStatement] at acts
    split at acts <;> cases acts

theorem RevisionsSound.commit (sound : RevisionsSound calls σ)
    (running : σ.session s = .running phase) {reply : Revision}
    (acts : revisionStatement (calls s) phase ((revisionProtocol calls).view σ s) =
      .commit reply) :
    RevisionsSound calls
      (σ.finish s ((revisionProtocol calls).view σ s) (.committed reply)) := by
  have effective := sound.commits running acts
  refine sound.finish ?_ (nofun) (fun id row found => ?_)
    (fun id unlocked => ?_) fun object id unheld is => ?_
  · intro object j k first second
    rcases effective with same | ⟨owner, id, -, replaced⟩
    · rw [same] at first second
      exact sound.indexed object j k first second
    · rcases (replaced object j).mp first with ⟨rfl, rfl⟩ | ⟨ne, first⟩
      · rcases (replaced object k).mp second with ⟨-, rfl⟩ | ⟨ne, -⟩
        · rfl
        · exact absurd rfl ne
      · rcases (replaced object k).mp second with ⟨rfl, -⟩ | ⟨-, second⟩
        · exact absurd rfl ne
        · exact sound.indexed object j k first second
  · exact object_foldl found (σ.log s)
  · refine get?_foldl_of_ne fun w member c is => unlocked ?_
    rw [is] at member
    exact sound.locked s id c member
  · rcases effective with same | ⟨owner, k, entry, replaced⟩
    · rw [same] at is
      exact is
    · rcases (replaced object id).mp is with ⟨rfl, -⟩ | ⟨-, old⟩
      · exact absurd entry unheld
      · exact old

theorem revisionsSound_moves {event : Event S} (sound : RevisionsSound calls σ)
    (promotes : PromotesApproved calls σ event)
    (moves : (revisionProtocol calls).MovesBy σ event σ') : RevisionsSound calls σ' := by
  cases moves with
  | same => exact sound
  | advanced s phase next locks writes running acts free =>
    have held {r : S} {l : RevisionLock} (held : σ.holder l = some r) :
        (σ.advance s locks writes next).holder l = some r := by
      by_cases same : r = s
      · rw [same] at held ⊢
        exact advance_holder_self σ s locks writes next (.inr held)
      · exact advance_holder_ne σ s locks writes next free same held
    have current : ∀ revision, phase = .promote revision → σ.log s ≠ [] → ∃ row,
        σ.data.rows.get? (calls s).revisionId = some row ∧ row.status = .approved := by
      rintro revision rfl some
      have approved := promotes (by rw [running]; rfl) some
      simpa [Option.any_eq_true] using approved
    obtain ⟨own, rows⟩ := stage_next (sound.stage s phase running) current acts
      (fun l => held) fun l taken => advance_holder_self σ s locks writes next (.inl taken)
    refine ⟨sound.indexed, fun r id c member => ?_, fun r phase' running' => ?_⟩
    · by_cases same : r = s
      · rw [same, advance_log_self] at member
        rw [same]
        rcases List.mem_append.mp member with old | new
        · exact held (sound.locked s id c old)
        · exact advance_holder_self σ s locks writes next (.inl (rows id c new))
      · rw [advance_log_ne _ _ _ _ _ same] at member
        exact held (sound.locked r id c member)
    · by_cases same : r = s
      · rw [same, advance_session_self] at running'
        cases running'
        rw [same, advance_log_self]
        exact own
      · rw [advance_session_ne _ _ _ _ _ same] at running'
        rw [advance_log_ne _ _ _ _ _ same]
        exact (sound.stage r phase' running').mono ⟨fun l => held,
          fun _ row found => ⟨row, found, rfl⟩, fun _ _ _ => rfl,
          fun _ _ _ effective => effective⟩
  | committed s phase reply running acts => exact sound.commit running acts
  | raised s phase fault running acts | killed s phase running =>
    exact sound.abort fun _ same => by cases same

omit [DecidableEq S] in
theorem revisionsSound_init {table : RevisionTable} (indexed : table.Indexed) :
    RevisionsSound calls ((revisionProtocol calls).init table) := by
  refine ⟨indexed, fun s id c none => absurd none List.not_mem_nil, fun s phase running => ?_⟩
  cases running
  rfl

theorem effective_moves {event : Event S} (sound : RevisionsSound calls σ)
    (moves : (revisionProtocol calls).MovesBy σ event σ')
    (had : ∃ id, σ.data.isEffective object id = true) :
    ∃ id, σ'.data.isEffective object id = true := by
  obtain ⟨k, effective⟩ := had
  cases moves with
  | committed s phase reply running acts =>
    rcases sound.commits running acts with same | ⟨owner, id, -, replaced⟩
    · exact ⟨k, (same object k).trans effective⟩
    · by_cases own : object = owner
      · exact ⟨id, (replaced object id).mpr (.inl ⟨own, rfl⟩)⟩
      · exact ⟨k, (replaced object k).mpr (.inr ⟨own, effective⟩)⟩
  | _ => exact ⟨k, effective⟩

/-- In a run whose promotions find what they have read, an object that has had an effective
revision has one in every committed state, and only one. -/
theorem effective_revision_kept {table : RevisionTable} (indexed : table.Indexed)
    {before after : List (Event S)} (object : Nat)
    (promotes : (revisionProtocol calls).Meets (PromotesApproved calls)
      ((revisionProtocol calls).init table) (before ++ after))
    (had : ∃ id, ((revisionProtocol calls).exec ((revisionProtocol calls).init table)
      before).data.isEffective object id = true) :
    ∃! id, ((revisionProtocol calls).exec ((revisionProtocol calls).init table)
      (before ++ after)).data.isEffective object id = true := by
  obtain ⟨first, later⟩ := meets_append promotes
  have start : RevisionsSound calls ((revisionProtocol calls).exec
      ((revisionProtocol calls).init table) before) :=
    exec_invariant_of_meets revisionsSound_moves (revisionsSound_init indexed) first
  rw [exec_append]
  obtain ⟨sound, id, effective⟩ := exec_invariant_of_meets
    (I := fun σ : RevisionServer S => RevisionsSound calls σ ∧
      ∃ id, σ.data.isEffective object id = true)
    (fun ⟨sound, had⟩ promotes moves =>
      ⟨revisionsSound_moves sound promotes moves, effective_moves sound moves had⟩)
    ⟨start, had⟩ later
  exact ⟨id, effective, fun k other => sound.indexed object k id other effective⟩

def sampleRevisions : RevisionTable where
  rows :=
    { items := [(1, { object := 7, status := .effective }),
        (2, { object := 7, revision := "2", status := .approved }),
        (3, { object := 7, revision := "3", status := .approved })]
      distinct := by decide }
  audits := []

theorem sampleRevisions_indexed : sampleRevisions.Indexed := by
  have only (object id : Nat) (effective : sampleRevisions.isEffective object id = true) :
      id = 1 := by
    obtain ⟨row, found, -, is⟩ := isEffective_iff.mp effective
    have member := Dictionary.get?_eq_some_iff.mp found
    simp only [sampleRevisions, List.mem_cons, Prod.mk.injEq, List.not_mem_nil, or_false] at member
    rcases member with ⟨rfl, -⟩ | ⟨-, rfl⟩ | ⟨-, rfl⟩
    · rfl
    · cases is
    · cases is
  exact fun object j k first second => (only object j first).trans (only object k second).symm

def sampleActivations (s : Fin 3) : RevisionCall where
  kind := .bom
  revisionId := if s = 2 then 3 else 2
  transition := .effective
  actor := "admin"
  now := 0

/-- The second activation of revision 2 waits for the first one. -/
theorem effective_revision_sample :
    ∃! id, ((revisionProtocol sampleActivations).exec
      ((revisionProtocol sampleActivations).init sampleRevisions)
      ([] ++ ([.run 0, .run 0, .run 0, .run 1, .run 1, .run 1] ++
        List.replicate 7 (.run 0) ++ List.replicate 6 (.run 1)))).data.isEffective 7 id =
          true := by
  exact effective_revision_kept sampleRevisions_indexed 7 (by decide +kernel) ⟨1, by decide⟩

/-- The first activation goes on when another one has made its revision effective, and a third one
has superseded it. -/
theorem effective_revision_lost :
    sampleRevisions.isEffective 7 1 = true ∧
      ¬ ∃ id, ((revisionProtocol sampleActivations).exec
        ((revisionProtocol sampleActivations).init sampleRevisions)
        (.run 0 :: List.replicate 10 (.run 1) ++ List.replicate 10 (.run 2) ++
          List.replicate 9 (.run 0))).data.isEffective 7 id = true := by
  refine ⟨by decide, fun ⟨id, effective⟩ => ?_⟩
  obtain ⟨row, found, -, is⟩ := isEffective_iff.mp effective
  have member := Dictionary.get?_eq_some_iff.mp found
  have none : (((revisionProtocol sampleActivations).exec
      ((revisionProtocol sampleActivations).init sampleRevisions)
      (.run 0 :: List.replicate 10 (.run 1) ++ List.replicate 10 (.run 2) ++
        List.replicate 9 (.run 0))).data.rows.items.all fun item =>
          item.2.status ≠ .effective) = true := by
    decide +kernel
  exact of_decide_eq_true (List.all_eq_true.mp none _ member) is

end MiniOgas
