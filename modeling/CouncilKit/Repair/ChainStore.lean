import CouncilKit.Data.Json
import CouncilKit.Data.Transition
import CouncilKit.Data.Unicode

namespace CouncilKit.Repair

open Data

structure RepairBudget where
  sourceFixUsed : Nat
  sourceFixMax : Nat
  planRetryUsed : Nat
  planRetryMax : Nat
  verifyRetryUsed : Nat
  verifyRetryMax : Nat
  formatRetryUsed : Nat
  formatRetryMax : Nat
  diagnoseRetryUsed : Nat
  diagnoseRetryMax : Nat
  diagnoseMs : Nat
  deadlineMs : Nat
  reservedFinalMs : Nat
  startedAtMs : Nat
  tokenUsed : Option Nat

structure RepairChain where
  chainId : JsString
  repo : JsString
  prUrl : JsString
  goalFingerprint : JsString
  parentRunIds : List JsString
  budget : RepairBudget
  casVersion : Nat
  supersededBy : Option JsString

inductive RetryKind where
  | plan | verify | format | diagnose
deriving DecidableEq

inductive Counter where
  | sourceFix
  | retry (kind : RetryKind)
deriving DecidableEq

namespace RepairBudget

variable (budget : RepairBudget)

def used : Counter → Nat
  | .sourceFix => budget.sourceFixUsed
  | .retry .plan => budget.planRetryUsed
  | .retry .verify => budget.verifyRetryUsed
  | .retry .format => budget.formatRetryUsed
  | .retry .diagnose => budget.diagnoseRetryUsed

def max : Counter → Nat
  | .sourceFix => budget.sourceFixMax
  | .retry .plan => budget.planRetryMax
  | .retry .verify => budget.verifyRetryMax
  | .retry .format => budget.formatRetryMax
  | .retry .diagnose => budget.diagnoseRetryMax

/-- `{ ...budget, [usedKey]: budget[usedKey] + 1 }` -/
def spend : Counter → RepairBudget
  | .sourceFix => { budget with sourceFixUsed := budget.sourceFixUsed + 1 }
  | .retry .plan => { budget with planRetryUsed := budget.planRetryUsed + 1 }
  | .retry .verify => { budget with verifyRetryUsed := budget.verifyRetryUsed + 1 }
  | .retry .format => { budget with formatRetryUsed := budget.formatRetryUsed + 1 }
  | .retry .diagnose => { budget with diagnoseRetryUsed := budget.diagnoseRetryUsed + 1 }

@[simp] theorem max_spend (spent counter : Counter) :
    (budget.spend spent).max counter = budget.max counter := by
  rcases spent with _ | kind
  · rcases counter with _ | other
    · rfl
    · cases other <;> rfl
  · rcases counter with _ | other
    · cases kind <;> rfl
    · cases kind <;> cases other <;> rfl

theorem used_spend (spent counter : Counter) :
    (budget.spend spent).used counter = budget.used counter + if counter = spent then 1 else 0 := by
  rcases spent with _ | kind
  · rcases counter with _ | other
    · rfl
    · cases other <;> rfl
  · rcases counter with _ | other
    · cases kind <;> rfl
    · cases kind <;> cases other <;> rfl

/-- `repairBudgetSchema`: every allowance and time limit is positive. -/
def accept : Bool :=
  0 < budget.sourceFixMax && 0 < budget.planRetryMax && 0 < budget.verifyRetryMax &&
    0 < budget.formatRetryMax && 0 < budget.diagnoseRetryMax && 0 < budget.diagnoseMs &&
    0 < budget.deadlineMs

/-- `newRepairBudget({}, nowMs)` -/
def newRepairBudget (nowMs : Nat) : RepairBudget where
  sourceFixUsed := 0
  sourceFixMax := 3
  planRetryUsed := 0
  planRetryMax := 3
  verifyRetryUsed := 0
  verifyRetryMax := 5
  formatRetryUsed := 0
  formatRetryMax := 3
  diagnoseRetryUsed := 0
  diagnoseRetryMax := 2
  diagnoseMs := 15 * 60 * 1000
  deadlineMs := 2 * 60 * 60 * 1000
  reservedFinalMs := 40 * 60 * 1000
  startedAtMs := nowMs
  tokenUsed := none

def writeCutoffMs : Int :=
  (budget.startedAtMs : Int) + budget.deadlineMs - budget.reservedFinalMs

/-- `none` is `{ ok: true }`. -/
def sourceFixRefusal (nowMs : Nat) : Option JsString :=
  if nowMs ≥ budget.startedAtMs + budget.deadlineMs then some (js "deadline")
  else if (nowMs : Int) ≥ budget.writeCutoffMs then some (js "write_cutoff")
  else if budget.sourceFixUsed ≥ budget.sourceFixMax then some (js "source_fix_exhausted")
  else none

def RetryKind.text : RetryKind → JsString
  | .plan => js "plan"
  | .verify => js "verify"
  | .format => js "format"
  | .diagnose => js "diagnose"

def retryRefusal (kind : RetryKind) : Option JsString :=
  if budget.used (.retry kind) ≥ budget.max (.retry kind) then
    some (RetryKind.text kind ++ js " retry budget exhausted")
  else none

end RepairBudget

namespace RepairChain

/-- `z.string().min(1).max(most)` -/
def named (most : Nat) (text : JsString) : Bool := 1 ≤ text.length && text.length ≤ most

def isFingerprint (text : JsString) : Bool :=
  text.length = 64 && text.all fun unit =>
    (0x30 ≤ unit && unit ≤ 0x39) || (0x61 ≤ unit && unit ≤ 0x66)

/-- `repairChainSchema`. -/
def accept (chain : RepairChain) : Bool :=
  named 80 chain.chainId && named 400 chain.repo && named 500 chain.prUrl &&
    isFingerprint chain.goalFingerprint && chain.parentRunIds.all (named 80) &&
    chain.parentRunIds.length ≤ 64 && chain.budget.accept && chain.supersededBy.all (named 80)

variable (existing : RepairChain) (parentRunId : JsString)

def inheritChain : RepairChain :=
  if existing.parentRunIds.contains parentRunId then existing
  else { existing with
    parentRunIds := existing.parentRunIds ++ [parentRunId]
    casVersion := existing.casVersion + 1 }

@[simp] theorem budget_inheritChain :
    (existing.inheritChain parentRunId).budget = existing.budget := by
  simp only [inheritChain]
  split <;> rfl

@[simp] theorem chainId_inheritChain :
    (existing.inheritChain parentRunId).chainId = existing.chainId := by
  simp only [inheritChain]
  split <;> rfl

/-- The arguments of `loadOrCreateChain`. -/
structure LoadInput where
  repo : JsString
  prUrl : JsString
  goalFingerprint : JsString
  parentRunId : JsString
  budget : Option RepairBudget := none
  nowMs : Nat := 0
  forceNewGoal : Bool := false

variable [Unicode] [Digest]

def normalizedRepo (input : LoadInput) : JsString := toLowerCase input.repo.trim

/-- The hash of the repository, the pull request and the goal. -/
@[irreducible] def chainKey (input : LoadInput) : Option JsString :=
  digestOf (.object [
    (js "repo", .string (normalizedRepo input)),
    (js "prUrl", .string input.prUrl.trim),
    (js "goalFingerprint", .string input.goalFingerprint)])

def bootstrapChain (input : LoadInput) : Option RepairChain := do
  let key ← chainKey input
  let chain : RepairChain := {
    chainId := js "ck-chain-" ++ key.take 32
    repo := normalizedRepo input
    prUrl := input.prUrl.trim
    goalFingerprint := input.goalFingerprint
    parentRunIds := [input.parentRunId]
    budget := input.budget.getD (.newRepairBudget input.nowMs)
    casVersion := 0
    supersededBy := none }
  if chain.accept then some chain else none

end RepairChain

open RepairChain Function

/-! Every repair run is a process.  One file read, one atomic file replacement and
one lock operation are one step; a process may stop after any of them, and the
operating system then drops its locks.
-/

abbrev ProcessId := Nat

inductive ConsumeRequest where
  | sourceFix (nowMs : Nat)
  | retry (kind : RetryKind)

namespace ConsumeRequest

def counter : ConsumeRequest → Counter
  | .sourceFix _ => .sourceFix
  | .retry kind => .retry kind

def refusal (budget : RepairBudget) : ConsumeRequest → Option JsString
  | .sourceFix nowMs => budget.sourceFixRefusal nowMs
  | .retry kind => budget.retryRefusal kind

theorem refusal_none {budget : RepairBudget} {request : ConsumeRequest}
    (allowed : request.refusal budget = none) :
    budget.used request.counter < budget.max request.counter := by
  cases request with
  | sourceFix nowMs =>
    simp only [refusal, RepairBudget.sourceFixRefusal] at allowed
    split at allowed
    · contradiction
    · split at allowed
      · contradiction
      · split at allowed
        · contradiction
        · rename_i unspent
          exact Nat.lt_of_not_le unspent
  | retry kind =>
    simp only [refusal, RepairBudget.retryRefusal] at allowed
    split at allowed
    · contradiction
    · rename_i unspent
      exact Nat.lt_of_not_le unspent

end ConsumeRequest

inductive ChainPhase where
  | idle
  /-- `findChainForRepoPr`: the names still to be read. -/
  | scanning (input : LoadInput) (names : List JsString)
  /-- No chain of the pull request was found. -/
  | opening (input : LoadInput)
  /-- About to write `chain`, having read `read` where it goes. -/
  | storing (read : Option RepairChain) (chain : RepairChain)
  | locked (chainId : JsString) (request : ConsumeRequest)
  | spending (chainId : JsString) (request : ConsumeRequest) (current : RepairChain)
  | releasing (chainId : JsString)

/-- `spent` counts the successful consume calls; the code does not store it. -/
structure ChainStore where
  files : JsString → Option RepairChain
  lock : JsString → Option ProcessId
  phase : ProcessId → ChainPhase
  spent : JsString → Counter → Nat

inductive ChainAction where
  /-- `loadOrCreateChain`, with the listing of the chain directory. -/
  | load (process : ProcessId) (input : LoadInput) (names : List JsString)
  | scan (process : ProcessId)
  | open (process : ProcessId)
  | store (process : ProcessId)
  /-- `consumeLockedSourceFix` and `consumeLockedRetry`. -/
  | lock (process : ProcessId) (chainId : JsString) (request : ConsumeRequest)
  | read (process : ProcessId)
  | spend (process : ProcessId)
  | release (process : ProcessId)
  | die (process : ProcessId)

namespace ChainStore

def goto (store : ChainStore) (process : ProcessId) (phase : ChainPhase) : ChainStore :=
  { store with phase := update store.phase process phase }

def writeRepairChain (store : ChainStore) (chain : RepairChain) : ChainStore :=
  { store with files := update store.files chain.chainId (some chain) }

def unlock (store : ChainStore) (chainId : JsString) : ChainStore :=
  { store with lock := update store.lock chainId none }

def readRepairChain (store : ChainStore) (chainId : JsString) : Option RepairChain :=
  (store.files chainId).filter accept

variable [Unicode] [Digest]

variable (store : ChainStore) (process : ProcessId)

/-- One name of `findChainForRepoPr`. -/
def scanName (input : LoadInput) (name : JsString)
    (rest : List JsString) : ChainStore :=
  match store.readRepairChain name with
  | some found =>
    if found.supersededBy = none ∧ found.repo = normalizedRepo input ∧
        found.prUrl = input.prUrl.trim then
      store.goto process (.storing (some found) (found.inheritChain input.parentRunId))
    else store.goto process (.scanning input rest)
  | none => store.goto process (.scanning input rest)

/-- The chain's own file: absent is created, unreadable or another goal's throws. -/
def openOwn (input : LoadInput) : ChainStore :=
  match bootstrapChain input with
  | none => store.goto process .idle
  | some created =>
    match store.files created.chainId with
    | none => store.goto process (.storing none created)
    | some existing =>
      if existing.accept ∧ existing.goalFingerprint = input.goalFingerprint then
        store.goto process (.storing (some existing) (existing.inheritChain input.parentRunId))
      else store.goto process .idle

def readLocked (chainId : JsString)
    (request : ConsumeRequest) : ChainStore :=
  match store.readRepairChain chainId with
  | none => store.goto process (.releasing chainId)
  | some current =>
    match request.refusal current.budget with
    | some _ => store.goto process (.releasing chainId)
    | none => store.goto process (.spending chainId request current)

def spendLocked (chainId : JsString)
    (request : ConsumeRequest) (current : RepairChain) : ChainStore :=
  let written := store.writeRepairChain { current with
    budget := current.budget.spend request.counter
    casVersion := current.casVersion + 1 }
  { written.goto process (.releasing chainId) with
    spent := fun id counter => store.spent id counter +
      if id = current.chainId ∧ counter = request.counter then 1 else 0 }

def step (store : ChainStore) : ChainAction → Option ChainStore
  | .load process input names =>
    match store.phase process with
    | .idle => some (store.goto process
        (if input.forceNewGoal then .opening input else .scanning input names))
    | _ => none
  | .scan process =>
    match store.phase process with
    | .scanning input (name :: rest) => some (store.scanName process input name rest)
    | .scanning input [] => some (store.goto process (.opening input))
    | _ => none
  | .open process =>
    match store.phase process with
    | .opening input => some (store.openOwn process input)
    | _ => none
  | .store process =>
    match store.phase process with
    | .storing _ chain => some ((store.writeRepairChain chain).goto process .idle)
    | _ => none
  | .lock process chainId request =>
    match store.phase process, store.lock chainId with
    | .idle, none => some { store.goto process (.locked chainId request) with
        lock := update store.lock chainId (some process) }
    | _, _ => none
  | .read process =>
    match store.phase process with
    | .locked chainId request => some (store.readLocked process chainId request)
    | _ => none
  | .spend process =>
    match store.phase process with
    | .spending chainId request current =>
      some (store.spendLocked process chainId request current)
    | _ => none
  | .release process =>
    match store.phase process with
    | .releasing chainId => some ((store.unlock chainId).goto process .idle)
    | _ => none
  | .die process => some { store.goto process .idle with
      lock := fun chainId => (store.lock chainId).filter (· ≠ process) }

end ChainStore

end CouncilKit.Repair
