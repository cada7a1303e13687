import SightMesh.Delivery.Client
import Mathlib.Data.List.Sort

/-! `updates.migrate_native_state`: what the old queue still held is handed to the executor, and the
old databases are put away. -/
namespace SightMesh.Delivery

open Concurrency Python

variable (py : Library)

def pendingDeliveries (rows : List LegacyDelivery) : List LegacyDelivery :=
  (rows.filter fun row => row.status = "pending" ∨ row.status = "inflight").insertionSort
    fun a b => a.createdAt ≤ b.createdAt

def legacyKey (row : LegacyDelivery) : String := "legacy:" ++ row.idempotencyKey

def readable : Net Unit := do
  match ← ask .refusal with
  | none => return ()
  | some fault => throw fault

def setParent (edge : Edge) : Net Unit := do
  if edge.child = edge.parent then
    throw (.other ("Session " ++ edge.child ++ " cannot be its own parent"))
  request (.setParent edge.child edge.parent)

def setParents : List Edge → Net Unit
  | [] => return ()
  | edge :: edges => do
    setParent edge
    setParents edges

def sendDeliveries : List LegacyDelivery → Net Unit
  | [] => return ()
  | row :: rows => do
    match present row.prompt with
    | none =>
      throw (.runtime ("Legacy delivery " ++ row.idempotencyKey ++ " has no retained prompt"))
    | some prompt =>
      let _ ← send py row.sessionId prompt none (some (legacyKey row)) "continue"
      sendDeliveries rows

def archiveRelationships : Net Unit := do
  readable
  Prog.run .backupRelationships
  Prog.run .unlinkRelationships

def archiveDelivery : Net Unit := do
  readable
  Prog.run .backupDelivery
  Prog.run .unlinkDelivery

def migrateRelationships : Net ℕ := do
  let disk ← Prog.commit' .disk
  match disk.relationships with
  | none => return 0
  | some rows =>
    readable
    setParents rows
    archiveRelationships
    return rows.length

def migrateDeliveries : Net ℕ := do
  let disk ← Prog.commit' .disk
  match disk.delivery with
  | none => return 0
  | some rows =>
    readable
    sendDeliveries py (pendingDeliveries rows)
    archiveDelivery
    return (pendingDeliveries rows).length

def migrateNativeState : Net (ℕ × ℕ) := do
  let parents ← migrateRelationships
  let commands ← migrateDeliveries py
  return (parents, commands)

end SightMesh.Delivery
