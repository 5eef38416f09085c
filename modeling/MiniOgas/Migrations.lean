import MiniOgas.Payload
import MiniOgas.TwoRuns

namespace MiniOgas

open Serial TwoRuns

/-- The action of a migration for PostgreSQL, on the schema and the rows `S` of its connection. -/
structure Migration (S : Type) where
  version : String
  description : String
  checksumMaterial : String
  postgresAction : S → Except Fault S

structure LedgerRow where
  version : String
  description : String
  checksum : String

structure MigratedDatabase (S : Type) where
  ledger : List LedgerRow
  data : S

/-- A start of a version of the service, with the statements of its schema; when it dies, at
whatever point, PostgreSQL rolls its transaction back. -/
structure Startup (S : Type) where
  schema : S → Except Fault S
  schemaVersion : String
  description : String
  migrations : List (Migration S)
  dies : Bool

variable {S : Type} (sha256 : String → String)

def Migration.checksum (migration : Migration S) : String :=
  sha256 ("\n".intercalate
    [migration.version, migration.description, migration.checksumMaterial])

def Migration.row (migration : Migration S) : LedgerRow :=
  ⟨migration.version, migration.description, migration.checksum sha256⟩

/-- `INSERT .. ON CONFLICT (version) DO NOTHING`. -/
def recordSchemaVersion (version description : String) (ledger : List LedgerRow) :
    List LedgerRow :=
  if ledger.any (·.version = version) then ledger else ledger ++ [⟨version, description, ""⟩]

def applyMigrations : List (Migration S) → MigratedDatabase S →
    Except Fault (List String × MigratedDatabase S)
  | [], db => .ok ([], db)
  | migration :: migrations, db =>
    match db.ledger.find? (·.version = migration.version) with
    | some row => do
      check (row.checksum = "" ∨ row.checksum = migration.checksum sha256) (.runtime
        (s!"migration checksum mismatch for {migration.version}: " ++
          s!"database={row.checksum} code={migration.checksum sha256}"))
      applyMigrations migrations db
    | none => do
      let data ← migration.postgresAction db.data
      let (applied, db') ← applyMigrations migrations ⟨db.ledger ++ [migration.row sha256], data⟩
      return (migration.version :: applied, db')

def initDb : Authority (Startup S) (MigratedDatabase S) (List String) Fault :=
  ⟨fun startup db => do
    let data ← startup.schema db.data
    let result ← applyMigrations sha256 startup.migrations
      ⟨recordSchemaVersion startup.schemaVersion startup.description db.ledger, data⟩
    check (startup.dies = false) (.runtime "the process died")
    return result⟩

/-- What a start does to the data. -/
inductive StartupAct (S : Type) where
  | schema (statements : S → Except Fault S)
  | applied (migration : Migration S)

def StartupAct.row? : StartupAct S → Option LedgerRow
  | .schema _ => none
  | .applied migration => some (migration.row sha256)

def StartupAct.perform : StartupAct S → S → Except Fault S
  | .schema statements => statements
  | .applied migration => migration.postgresAction

/-- Data with the history of what the starts that completed have done to them. -/
abbrev Noted (S : Type) := S × List (StartupAct S)

/-- An act that is also entered in the history. -/
def StartupAct.note (act : StartupAct S) (traced : Noted S) : Except Fault (Noted S) := do
  let data ← act.perform traced.1
  return (data, traced.2 ++ [act])

def Migration.traced (migration : Migration S) : Migration (Noted S) :=
  ⟨migration.version, migration.description, migration.checksumMaterial,
    (StartupAct.applied migration).note⟩

/-- The same start on data with a history. -/
def Startup.traced (startup : Startup S) : Startup (Noted S) :=
  ⟨(StartupAct.schema startup.schema).note, startup.schemaVersion, startup.description,
    startup.migrations.map (·.traced), startup.dies⟩

/-- The run of the starts from an empty ledger, with its history. -/
def tracedRun (data : S) (startups : List (Startup S)) : MigratedDatabase (Noted S) :=
  (initDb sha256).run ⟨[], data, []⟩ (startups.map (·.traced))

def MigratedDatabase.plain (db : MigratedDatabase (Noted S)) : MigratedDatabase S :=
  ⟨db.ledger, db.data.1⟩

/-- The ledger has each version once, the migrations of the history in its order and else what the
starts have recorded, and the data are what the history has made of the first ones. -/
structure Migrated (data : S) (startups : List (Startup S)) (db : MigratedDatabase (Noted S)) :
    Prop where
  distinct : (db.ledger.map (·.version)).Nodup
  applied : (db.data.2.filterMap (·.row? sha256)).Sublist db.ledger
  recorded : ∀ row ∈ db.ledger, row ∈ db.data.2.filterMap (·.row? sha256) ∨
    ∃ startup ∈ startups, row = ⟨startup.schemaVersion, startup.description, ""⟩
  replayed : db.data.2.foldlM (fun data act => act.perform data) data = .ok db.data.1

variable {sha256} {migrations : List (Migration S)} {migration : Migration S} {startup : Startup S}
  {startups : List (Startup S)} {db db' : MigratedDatabase (Noted S)} {data data' : S}
  {traced : Noted S} {applied : List String} {row : LedgerRow}

theorem alike_note (act : StartupAct S) :
    Alike (fun traced data => traced.1 = data) (act.note traced) (act.perform traced.1) := by
  unfold StartupAct.note
  cases act.perform traced.1 with
  | ok data => exact .ok rfl
  | error fault => exact .error fault

theorem alike_applyMigrations : Alike (fun x y => x.1 = y.1 ∧ x.2.plain = y.2)
    (applyMigrations sha256 (migrations.map (·.traced)) db)
    (applyMigrations sha256 migrations db.plain) := by
  induction migrations generalizing db with
  | nil => exact .ok ⟨rfl, rfl⟩
  | cons migration migrations ih =>
    rw [List.map_cons, applyMigrations, applyMigrations]
    have same : db.ledger.find? (·.version = migration.traced.version) =
        db.ledger.find? (·.version = migration.version) := rfl
    rw [same, MigratedDatabase.plain]
    cases db.ledger.find? (·.version = migration.version) with
    | some row => exact (alike_eq _).bind fun _ _ _ => ih
    | none =>
      refine (alike_note (.applied migration)).bind fun traced data same => ?_
      subst same
      exact ih.bind fun x y both => .ok ⟨congrArg _ both.1, both.2⟩

theorem alike_attempt : Alike (fun x y => x.1 = y.1 ∧ x.2.plain = y.2)
    ((initDb sha256).attempt startup.traced db) ((initDb sha256).attempt startup db.plain) := by
  refine (alike_note (.schema startup.schema)).bind fun traced data same => ?_
  subst same
  exact alike_applyMigrations.bind fun _ _ both => (alike_eq _).bind fun _ _ _ => .ok both

theorem run_plain : ((initDb sha256).run db (startups.map (·.traced))).plain =
    (initDb sha256).run db.plain startups := by
  induction startups generalizing db with
  | nil => rfl
  | cons startup startups ih =>
    rw [List.map_cons, Authority.run_cons, Authority.run_cons, ih]
    congr 1
    have alike := @alike_attempt _ sha256 startup db
    unfold Authority.serve
    generalize (initDb sha256).attempt startup.traced db = x at alike
    generalize (initDb sha256).attempt startup db.plain = y at alike
    cases alike with
    | ok both => exact both.2
    | error fault => rfl

theorem Migrated.note (migrated : Migrated sha256 data startups db) (act : StartupAct S)
    (absent : ∀ row ∈ act.row? sha256, ∀ other ∈ db.ledger, other.version ≠ row.version)
    (acts : act.note db.data = .ok traced) :
    Migrated sha256 data startups ⟨db.ledger ++ (act.row? sha256).toList, traced⟩ := by
  obtain ⟨data', performed, ends⟩ := of_bind acts
  cases ends
  have filed : (db.data.2 ++ [act]).filterMap (·.row? sha256) =
      db.data.2.filterMap (·.row? sha256) ++ (act.row? sha256).toList := by
    rw [List.filterMap_append]
    cases act <;> rfl
  refine ⟨?_, ?_, fun row member => ?_, ?_⟩
  · rw [List.map_append]
    refine List.Nodup.append migrated.distinct ?_ ?_
    · cases act.row? sha256 <;> simp
    · simpa [List.disjoint_left] using fun other member row recorded same =>
        absent row recorded other member same.symm
  · rw [filed]
    exact migrated.applied.append (List.Sublist.refl _)
  · rw [filed, List.mem_append]
    rcases List.mem_append.mp member with known | new
    · exact (migrated.recorded row known).imp_left .inl
    · exact .inl (.inr new)
  · rw [List.foldlM_append, migrated.replayed]
    simp [performed, ok_bind]

theorem Migrated.schemaVersion (migrated : Migrated sha256 data startups db)
    (called : startup ∈ startups) : Migrated sha256 data startups
      ⟨recordSchemaVersion startup.schemaVersion startup.description db.ledger, db.data⟩ := by
  unfold recordSchemaVersion
  split
  next => exact migrated
  next absent =>
    have absent : ∀ row ∈ db.ledger, row.version ≠ startup.schemaVersion := by simpa using absent
    refine ⟨?_, migrated.applied.trans (List.sublist_append_left ..), fun row member => ?_,
      migrated.replayed⟩
    · rw [List.map_append]
      refine List.Nodup.append migrated.distinct (List.nodup_singleton _) ?_
      simpa [List.disjoint_left] using absent
    · rcases of_mem_concat member with known | rfl
      · exact migrated.recorded row known
      · exact .inr ⟨startup, called, rfl⟩

theorem applyMigrations_present {T : Type} {migrations : List (Migration T)}
    {migration : Migration T} {ledger : List LedgerRow} {data : T}
    (found : ledger.find? (·.version = migration.version) = some row)
    (same : row.checksum = "" ∨ row.checksum = migration.checksum sha256) :
    applyMigrations sha256 (migration :: migrations) ⟨ledger, data⟩ =
      applyMigrations sha256 migrations ⟨ledger, data⟩ := by
  rw [applyMigrations, found]
  dsimp only
  rw [(check_eq_ok (u := ())).mpr same, ok_bind]

/-- A list that has been applied leaves the ledger longer and nothing to apply. -/
theorem applyMigrations_again {T : Type} {migrations : List (Migration T)}
    {db db' : MigratedDatabase T} (h : applyMigrations sha256 migrations db = .ok (applied, db')) :
    db.ledger <+: db'.ledger ∧ ∀ data',
      applyMigrations sha256 migrations ⟨db'.ledger, data'⟩ = .ok ([], ⟨db'.ledger, data'⟩) := by
  induction migrations generalizing db applied with
  | nil =>
    cases h
    exact ⟨List.prefix_refl _, fun _ => rfl⟩
  | cons migration migrations ih =>
    unfold applyMigrations at h
    split at h
    next row found =>
      obtain ⟨_, same, h⟩ := of_bind h
      obtain ⟨extends', again⟩ := ih h
      refine ⟨extends', fun data' => (applyMigrations_present ?_ (check_eq_ok.mp same)).trans
        (again data')⟩
      obtain ⟨more, ledger⟩ := extends'
      rw [← ledger, List.find?_append, found, Option.some_or]
    next absent =>
      obtain ⟨data', acted, h⟩ := of_bind h
      obtain ⟨⟨rest, _⟩, h, ends⟩ := of_bind h
      cases ends
      obtain ⟨⟨more, ledger⟩, again⟩ := ih h
      rw [List.append_assoc] at ledger
      have found : db'.ledger.find? (·.version = migration.version) =
          some (migration.row sha256) := by
        rw [← ledger, List.find?_append, absent]
        simp [Migration.row]
      refine ⟨⟨_, ledger⟩, fun data' => ?_⟩
      rw [applyMigrations_present found (.inr rfl)]
      exact again data'

theorem Migrated.applyMigrations (migrated : Migrated sha256 data startups db)
    (h : MiniOgas.applyMigrations sha256 (migrations.map (·.traced)) db = .ok (applied, db')) :
    Migrated sha256 data startups db' := by
  induction migrations generalizing db applied with
  | nil =>
    cases h
    exact migrated
  | cons migration migrations ih =>
    rw [List.map_cons] at h
    unfold MiniOgas.applyMigrations at h
    split at h
    next =>
      obtain ⟨_, -, h⟩ := of_bind h
      exact ih migrated h
    next absent =>
      obtain ⟨traced, acted, h⟩ := of_bind h
      obtain ⟨⟨rest, _⟩, h, ends⟩ := of_bind h
      cases ends
      refine ih (migrated.note (.applied migration) ?_ acted) h
      rintro _ ⟨⟩ other member same
      exact List.find?_eq_none.mp absent other member (decide_eq_true same)

theorem recordSchemaVersion_prefix {version description : String} {ledger ledger' : List LedgerRow}
    (extends' : recordSchemaVersion version description ledger <+: ledger') :
    ledger <+: ledger' ∧ recordSchemaVersion version description ledger' = ledger' := by
  obtain ⟨more, rfl⟩ := extends'
  unfold recordSchemaVersion
  split
  next found =>
    exact ⟨List.prefix_append _ _, if_pos (by rw [List.any_append, found, Bool.true_or])⟩
  next => exact ⟨⟨_, (List.append_assoc ..).symm⟩, if_pos (by simp)⟩

theorem Migrated.serve (migrated : Migrated sha256 data startups db) (called : startup ∈ startups) :
    Migrated sha256 data startups ((initDb sha256).serve db startup.traced) := by
  rcases (initDb sha256).serve_cases db startup.traced with same | ⟨applied, h⟩
  · rw [same]
    exact migrated
  · obtain ⟨traced, acted, h⟩ := of_bind h
    obtain ⟨result, ran, h⟩ := of_bind h
    obtain ⟨_, -, ends⟩ := of_bind h
    have prepared := migrated.note (.schema startup.schema) (fun _ none => by cases none) acted
    rw [StartupAct.row?, Option.toList_none, List.append_nil] at prepared
    have done := (prepared.schemaVersion called).applyMigrations ran
    rwa [Except.ok.inj ends] at done

theorem Migrated.run (migrated : Migrated sha256 data startups db) {called : List (Startup S)}
    (within : ∀ startup ∈ called, startup ∈ startups) :
    Migrated sha256 data startups ((initDb sha256).run db (called.map (·.traced))) := by
  induction called generalizing db with
  | nil => exact migrated
  | cons startup called ih =>
    exact ih (migrated.serve (within startup List.mem_cons_self))
      fun other member => within other (List.mem_cons_of_mem startup member)

end MiniOgas
