import MiniOgas.Dictionary
import MiniOgas.Interleaving
import MiniOgas.Payload

namespace MiniOgas

open Interleaving

inductive RevisionKind where
  | document
  | bom
  | routing

def RevisionKind.text : RevisionKind → String
  | .document => "document"
  | .bom => "bom"
  | .routing => "routing"

inductive RevisionStatus where
  | draft
  | approved
  | effective
  | superseded
deriving DecidableEq

def RevisionStatus.text : RevisionStatus → String
  | .draft => "draft"
  | .approved => "approved"
  | .effective => "effective"
  | .superseded => "superseded"

/-- A row of a revision table; `object` is the document, BOM or routing. -/
structure Revision where
  object : Nat
  revision : String := "1"
  status : RevisionStatus := .draft
  approvedBy : Option String := none
  approvedAt : Option Timestamp := none
  effectiveBy : Option String := none
  effectiveAt : Option Timestamp := none

structure RevisionAudit where
  actor : String
  action : String
  resourceType : String
  resourceId : Nat
  transition : String
  createdAt : Timestamp
deriving DecidableEq

structure RevisionTable where
  rows : Dictionary Nat Revision
  audits : List RevisionAudit

inductive RevisionChange where
  | approve (actor : String) (now : Timestamp)
  | supersede
  | promote (actor : String) (now : Timestamp)
deriving DecidableEq

def Revision.change (row : Revision) : RevisionChange → Revision
  | .approve actor now =>
    { row with status := .approved, approvedBy := some actor, approvedAt := some now }
  | .supersede => { row with status := .superseded }
  | .promote actor now =>
    { row with status := .effective, effectiveBy := some actor, effectiveAt := some now }

inductive RevisionWrite where
  | change (id : Nat) (change : RevisionChange)
  | audit (row : RevisionAudit)
deriving DecidableEq

def RevisionTable.put (table : RevisionTable) : RevisionWrite → RevisionTable
  | .change id change => { table with rows := table.rows.modify id (·.change change) }
  | .audit row => { table with audits := table.audits ++ [row] }

inductive RevisionTransition where
  | approve
  | effective

def RevisionTransition.text : RevisionTransition → String
  | .approve => "approve"
  | .effective => "effective"

/-- The arguments of `transition_revision`. -/
structure RevisionCall where
  kind : RevisionKind
  revisionId : Nat
  transition : RevisionTransition
  actor : String
  now : Timestamp

inductive RevisionFault where
  | referenceNotFound (resourceType : String) (resourceId : Nat)
  | invalidTransition (message : String) (revisionId : Nat)
  | uniqueViolation

inductive RevisionLock where
  | row (id : Nat)
  | entry (object : Nat)
deriving DecidableEq

inductive RevisionPhase where
  | select
  | approve
  | supersede (revision : Revision)
  | supersedeRows (revision : Revision) (found : List Nat)
  | promote (revision : Revision)
  | enterIndex (revision : Revision)
  | checkIndex (revision : Revision)
  | audit
  | reread
  | commit (revision : Revision)

def RevisionTable.isEffective (table : RevisionTable) (object id : Nat) : Bool :=
  match table.rows.get? id with
  | some row => row.object = object && row.status = .effective
  | none => false

def RevisionTable.toSupersede (table : RevisionTable) (object revisionId : Nat) : List Nat :=
  (table.rows.items.map Prod.fst).filter fun id =>
    table.isEffective object id && id ≠ revisionId

def RevisionCall.audit (call : RevisionCall) : RevisionAudit where
  actor := call.actor
  action := match call.transition with
    | .approve => "master-data:revision-approved"
    | .effective => "master-data:revision-effective"
  resourceType := call.kind.text ++ "_revision"
  resourceId := call.revisionId
  transition := call.transition.text
  createdAt := call.now

/-- `_require_by_id`. -/
def RevisionCall.notFound (call : RevisionCall) : RevisionFault :=
  .referenceNotFound (call.kind.text ++ "_revision") call.revisionId

abbrev RevisionAction :=
  Action RevisionPhase RevisionWrite RevisionLock Revision RevisionFault

def RevisionCall.begin (call : RevisionCall) (revision : Revision) : RevisionAction :=
  match call.transition with
  | .approve =>
    if revision.status = .approved then .commit revision
    else if revision.status ≠ .draft then
      .raise (.invalidTransition s!"cannot approve a revision in status {revision.status.text}"
        call.revisionId)
    else .go [] [] .approve
  | .effective =>
    if revision.status = .effective then .commit revision
    else if revision.status ≠ .approved then
      .raise (.invalidTransition
        s!"cannot make a revision effective from status {revision.status.text}" call.revisionId)
    else .go [] [] (.supersede revision)

/-- `transition_revision`, statement by statement. -/
def revisionStatement (call : RevisionCall) :
    RevisionPhase → RevisionTable → RevisionAction
  | .select, table =>
    match table.rows.get? call.revisionId with
    | none => .raise call.notFound
    | some revision => call.begin revision
  | .approve, table =>
    match table.rows.get? call.revisionId with
    | some row =>
      if row.status = .draft then
        .go [.row call.revisionId] [.change call.revisionId (.approve call.actor call.now)] .audit
      else .go [] [] .audit
    | none => .go [] [] .audit
  | .supersede revision, table =>
    .go [] [] (.supersedeRows revision (table.toSupersede revision.object call.revisionId))
  | .supersedeRows revision [], _ => .go [] [] (.promote revision)
  | .supersedeRows revision (id :: found), table =>
    -- a row that has changed while the update waited for it is looked at again
    if table.isEffective revision.object id && id ≠ call.revisionId then
      .go [.row id, .entry revision.object] [.change id .supersede] (.supersedeRows revision found)
    else .go [] [] (.supersedeRows revision found)
  | .promote revision, table =>
    match table.rows.get? call.revisionId with
    | some row =>
      if row.status = .approved then
        .go [.row call.revisionId] [.change call.revisionId (.promote call.actor call.now)]
          (.enterIndex revision)
      else .go [] [] .audit
    | none => .go [] [] .audit
  | .enterIndex revision, _ => .go [.entry revision.object] [] (.checkIndex revision)
  | .checkIndex revision, table =>
    if (table.toSupersede revision.object call.revisionId).isEmpty then .go [] [] .audit
    else .raise .uniqueViolation
  | .audit, _ => .go [] [.audit call.audit] .reread
  | .reread, table =>
    match table.rows.get? call.revisionId with
    | none => .raise call.notFound
    | some revision => .go [] [] (.commit revision)
  | .commit revision, _ => .commit revision

abbrev RevisionServer (S : Type) :=
  Server S RevisionPhase RevisionTable RevisionWrite RevisionLock Revision RevisionFault

def revisionProtocol {S : Type} (calls : S → RevisionCall) :
    Protocol S RevisionPhase RevisionTable RevisionWrite RevisionLock Revision RevisionFault where
  start _ := .select
  statement s := revisionStatement (calls s)
  apply := RevisionTable.put

end MiniOgas
