import Mathlib.Algebra.Order.Floor.Ring
import Mathlib.Data.Rat.Floor
import SightMesh.Accounts.StateFile
import SightMesh.Concurrency.Pool

/-! The callers of the state file, and account selection. -/
namespace SightMesh

open Concurrency

structure Account where
  id : AccountId
  provider : String
  deriving DecidableEq

inductive PoolQuery : Type → Type 1 where
  | clock : PoolQuery Time
  | loadPool : PoolQuery (List Account)
  /-- Whether `env_for` has a credential for the account. -/
  | envFor (account : Account) : PoolQuery Bool
  | quota (account : Account) : PoolQuery Usage
  | probe (account : Account) : PoolQuery (Bool × String)

abbrev PoolProg := Prog PoolError FileTx PoolQuery Empty

def loadState : PoolProg PoolState := Prog.commit' .load

def saveState (loaded : PoolState) (update : PoolUpdate) : PoolProg Unit := do
  Prog.commit' (.writeTmp loaded update)
  Prog.run (.rename loaded update)

def poolTime : PoolProg Time := Prog.ask .clock

def defaultCooldown : Time := 5 * 3600
def probeTtl : Time := 60
def quotaTtl : Time := 120

/-- `cool_until_timestamp`; `none` is a moment that is not finite. -/
def coolUntilTimestamp (accountId : AccountId) (moment : Option Time) : PoolProg Time := do
  let state ← loadState
  let requested ← match moment with
    | some moment => pure moment
    | none => do
      let moment ← poolTime
      pure (moment + defaultCooldown)
  saveState state (.cool accountId requested)
  return state.extended accountId requested

def setCooldown (accountId : AccountId) (seconds : Time) : PoolProg Time := do
  coolUntilTimestamp accountId (some ((← poolTime) + seconds))

def clearCooldown (accountId : AccountId) : PoolProg Unit := do
  let state ← loadState
  saveState state (.clear accountId)

def quotaCached (account : Account) (force : Bool) : PoolProg Usage := do
  let state ← loadState
  let fresh ← match if force then none else state.quota.lookup account.id with
    | none => pure none
    | some entry => do
      let moment ← poolTime
      pure (if moment - entry.recordedAt < quotaTtl then some entry.data else none)
  match fresh with
  | some data => return data
  | none =>
    let data ← Prog.ask (.quota account)
    let state ← loadState
    let recordedAt ← poolTime
    saveState state (.quota account.id ⟨recordedAt, data⟩)
    return data

def probeCached (account : Account) : PoolProg (Bool × String) := do
  let state ← loadState
  let fresh ← match state.probes.lookup account.id with
    | none => pure false
    | some entry => do
      let moment ← poolTime
      pure (decide (moment - entry.recordedAt < probeTtl) && entry.ok)
  if fresh then return (true, "ok (cached)")
  else
    let (ok, reason) ← Prog.ask (.probe account)
    let state ← loadState
    let recordedAt ← poolTime
    saveState state (.probe account.id ⟨recordedAt, ok, reason⟩)
    return (ok, reason)

/-! ### Selection -/

def accountsFor (pool : List Account) (provider : String) : List Account :=
  pool.filter fun account => provider = "" ∨ account.provider = provider

def coolingUntil (state : PoolState) (accountId : AccountId) : PoolProg Time := do
  let deadline := (state.cooldowns.lookup accountId).getD 0
  return if deadline > (← poolTime) then deadline else 0

def twoDigits (n : ℕ) : String := if n < 10 then "0" ++ toString n else toString n

def fmtDelta (seconds : Time) : String :=
  let seconds := ⌊max 0 seconds⌋.toNat
  if seconds ≥ 86400 then
    toString (seconds / 86400) ++ "d" ++ twoDigits (seconds % 86400 / 3600) ++ "h"
  else if seconds ≥ 3600 then
    toString (seconds / 3600) ++ "h" ++ twoDigits (seconds % 3600 / 60) ++ "m"
  else if seconds ≥ 60 then toString (seconds / 60) ++ "m"
  else toString seconds ++ "s"

def timeLeft (deadline : Time) : PoolProg String := do return fmtDelta (deadline - (← poolTime))

def selectAmong (verify : Bool) :
    List Account → PoolState → List String → PoolProg (Option Account × List String)
  | [], _, notes => return (none, notes)
  | account :: rest, state, notes => do
    let deadline ← coolingUntil state account.id
    if deadline ≠ 0 then
      let left ← timeLeft deadline
      selectAmong verify rest state (notes ++ ["skip " ++ account.id ++ ": cooling " ++ left])
    else if ¬ (← Prog.ask (.envFor account)) then
      selectAmong verify rest state (notes ++ ["skip " ++ account.id ++ ": no credential stored"])
    else
      let usage ← quotaCached account false
      if usage.known ∧ usage.remaining = some 0 then
        let note ← match usage.resetsAt.filter (· ≠ 0) with
          | some reset => do
            let _ ← coolUntilTimestamp account.id (some reset)
            let left ← timeLeft reset
            pure ("skip " ++ account.id ++ ": out of quota, resets in " ++ left)
          | none => do
            let _ ← setCooldown account.id defaultCooldown
            pure ("skip " ++ account.id ++ ": out of quota")
        let state ← loadState
        selectAmong verify rest state (notes ++ [note])
      else if ¬ verify then return (some account, notes)
      else
        let (ok, reason) ← probeCached account
        if ok then return (some account, notes)
        else
          let state ← loadState
          selectAmong verify rest state (notes ++ ["skip " ++ account.id ++ ": " ++ reason])

def select (provider : String) (verify : Bool) : PoolProg (Option Account × List String) := do
  let pool ← Prog.ask .loadPool
  let state ← loadState
  selectAmong verify (accountsFor pool provider) state []

/-! ### The system -/

inductive PoolOp : PoolProg Unit → Prop where
  | coolUntilTimestamp (accountId : AccountId) (moment : Option Time) :
      PoolOp (do let _ ← coolUntilTimestamp accountId moment)
  | clearCooldown (accountId : AccountId) : PoolOp (clearCooldown accountId)
  | quotaCached (account : Account) (force : Bool) :
      PoolOp (do let _ ← quotaCached account force)
  | probeCached (account : Account) : PoolOp (do let _ ← probeCached account)
  | select (provider : String) (verify : Bool) : PoolOp (do let _ ← select provider verify)

structure PoolWorld (γ : Type) where
  answer : {β : Type} → γ → PoolQuery β → β → γ → Prop

/-- Any number of processes over one directory, which opens with the given state file. -/
def poolSystem {γ : Type} (x : PoolWorld γ) (opened : StateFile) :
    System PoolError FileTx PoolQuery Empty PoolDir γ where
  exec := FileTx.exec
  answer := x.answer
  ops := PoolOp
  start dir _ := dir = ⟨opened, none⟩

end SightMesh
