import SightMesh.Accounts.Selection
import SightMesh.Python.Slots
import SightMesh.Python.Value

/-! The pool as its file holds it: one list of accounts, in which those of one provider stand among
those of the others and their order is their priority. -/
namespace SightMesh

open Python Concurrency

structure PoolEntry where
  id : AccountId
  /-- `account.get("provider")`. -/
  provider : Option String
  /-- What no reordering reads. -/
  fields : Dict

/-- `none` where the pool has no accounts at all. -/
structure Pool where
  accounts : Option (List PoolEntry)

namespace Pool

def listed (pool : Pool) : List PoolEntry := pool.accounts.getD []

def counts (provider : String) (entry : PoolEntry) : Bool :=
  provider = "" || entry.provider = some provider

def accountsFor (pool : Pool) (provider : String) : List PoolEntry :=
  pool.listed.filter (counts provider)

def find (pool : Pool) (id : AccountId) : Option PoolEntry :=
  pool.listed.find? fun entry => entry.id = id

def holds (provider : String) (entry : PoolEntry) : Bool := entry.provider = some provider

/-- `reorder`: the pool it leaves and the message it returns, or the `KeyError` it raises. -/
def reorder (pool : Pool) (provider : String) (wanted : List AccountId) :
    Except String (Pool × Option String) :=
  let current := (pool.accountsFor provider).map PoolEntry.id
  if sorted wanted ≠ sorted current then
    .ok (pool, some ("must list every " ++ provider ++ " account exactly once (have: " ++
      String.intercalate " " current ++ ")"))
  else
    -- every wanted id is a current one, so none of them goes missing here
    let ordered := wanted.filterMap pool.find
    match pool.accounts with
    | none => .error "'accounts'"
    | some accounts =>
      .ok (⟨some (assign accounts (slots (holds provider) accounts 0) ordered)⟩, none)

/-! ### Selection -/

def account (entry : PoolEntry) : Account := ⟨entry.id, entry.provider.getD ""⟩

def selectFrom (accounts : List Account) (provider : String) (verify : Bool) :
    PoolProg (Option Account × List String) := do
  let state ← loadState
  selectAmong verify (SightMesh.accountsFor accounts provider) state []

def selects (pool : Pool) (provider : String) (verify : Bool) :
    PoolProg (Option Account × List String) :=
  selectFrom (pool.listed.map account) provider verify

/-- Of the pool, a selection reads the accounts of its provider, in order. -/
theorem selects_congr {pool pool' : Pool} {provider : String} (named : provider ≠ "")
    (same : pool'.accountsFor provider = pool.accountsFor provider) (verify : Bool) :
    pool'.selects provider verify = pool.selects provider verify := by
  have reads : ∀ pool : Pool, SightMesh.accountsFor (pool.listed.map account) provider =
      (pool.accountsFor provider).map account := by
    intro pool
    rw [SightMesh.accountsFor, Pool.accountsFor, List.filter_map]
    congr 1
    apply List.filter_congr
    rintro ⟨id, given, fields⟩ _
    rw [Bool.eq_iff_iff]
    simp only [Function.comp_apply, counts, Bool.or_eq_true, decide_eq_true_eq, named, false_or]
    cases given <;> simp [account, Ne.symm named]
  simp only [selects, selectFrom, reads, same]

end Pool
end SightMesh
