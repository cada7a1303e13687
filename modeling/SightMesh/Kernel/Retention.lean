import SightMesh.Kernel.Transactions

/-! The receipts of native checkpoint occurrences. -/
namespace SightMesh

open Python

def Receipt.toJson (receipt : Receipt) : Json :=
  let optional := fun (text : Option String) => text.elim Json.null Json.str
  .obj [("id", .str receipt.id), ("execution_id", .str receipt.executionId),
    ("attachment_id", .str receipt.attachmentId), ("original_path", .str receipt.originalPath),
    ("original_name", optional receipt.originalName), ("producer_ref", optional receipt.producerRef),
    ("publication_key", optional receipt.publicationKey), ("captured_at", .str receipt.capturedAt),
    ("sha256", .str receipt.sha256), ("size_bytes", .num (.int receipt.sizeBytes)),
    ("durability", .str receipt.durability)]

def CheckpointOperation.expects (operation : CheckpointOperation) (receipt : Receipt) : Bool :=
  receipt.executionId = operation.facts.executionId &&
    receipt.publicationKey = some ("checkpoint:" ++ operation.operationId) &&
    receipt.producerRef = some (operation.taskId ++ ":" ++ toString operation.epoch) &&
    receipt.originalPath = operation.facts.originalPath &&
    receipt.originalName = some operation.facts.originalName &&
    receipt.sha256 = operation.facts.sha256 && receipt.sizeBytes = operation.facts.sizeBytes &&
    receipt.durability = "confirmed"

def verifiedReceipt (py : Library) (operation : CheckpointOperation) (receipt : Receipt) :
    Answer Receipt :=
  if receipt.durability ≠ "confirmed" ∨ receipt.executionId ≠ operation.facts.executionId then
    .error (.evidence "unconfirmed artifact occurrence identity")
  else if ¬ operation.expects receipt then
    .error (.evidence "checkpoint receipt is not a confirmed immutable fact match")
  else if ¬ (canonicalUuid receipt.id && canonicalUuid receipt.attachmentId &&
      canonicalUuid receipt.executionId) then
    .error (.evidence "invalid native checkpoint identity")
  else if (py.dumps receipt.toJson).utf8ByteSize > 8192 then
    .error (.evidence "checkpoint receipt exceeds metadata bound")
  else if operation.receipt.isSome ∧ operation.receipt ≠ some receipt then
    .error (.evidence "checkpoint occurrence changed during replay")
  else .ok receipt

/-- A verified receipt is the one that was to be verified. -/
theorem verifiedReceipt_ok {py : Library} {operation : CheckpointOperation} {receipt r : Receipt}
    (verified : verifiedReceipt py operation receipt = .ok r) : r = receipt := by
  unfold verifiedReceipt at verified
  split_ifs at verified
  cases verified
  rfl

theorem verifiedReceipt_again {py : Library} {stored seen : CheckpointOperation} {receipt : Receipt}
    (named : stored.operationId = seen.operationId) (task : stored.taskId = seen.taskId)
    (epoch : stored.epoch = seen.epoch) (facts : stored.facts = seen.facts)
    (verified : verifiedReceipt py seen receipt = .ok receipt) :
    verifiedReceipt py { stored with receipt := some receipt } receipt = .ok receipt := by
  unfold verifiedReceipt at verified ⊢
  split_ifs at verified with confirmed expected canonical bounded
  have expected : CheckpointOperation.expects { stored with receipt := some receipt } receipt =
      true := by
    simp only [CheckpointOperation.expects, named, task, epoch, facts]
    exact expected
  rw [← facts] at confirmed
  rw [if_neg confirmed, if_neg (not_not.mpr expected), if_neg (not_not.mpr canonical), if_neg bounded]
  simp

end SightMesh
