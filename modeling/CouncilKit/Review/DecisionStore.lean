import CouncilKit.Data.Fallible
import CouncilKit.Data.LockedCell
import CouncilKit.Data.Table
import CouncilKit.Review.PrDecisions

namespace CouncilKit.Review

open Data LockedCell Option Except List

/-! One JSON file, replaced whole under an exclusive lock.  A writer names the
revision it has seen; the next revision is one more.
-/

inductive FindingDecision where
  | undecided | will_fix | wont_fix
deriving DecidableEq

def FindingDecision.text : FindingDecision → JsString
  | .undecided => js "undecided"
  | .will_fix => js "will_fix"
  | .wont_fix => js "wont_fix"

structure StoredItem where
  findingId : JsString
  decision : FindingDecision
  /-- The value of the stable id. -/
  identity : Option JsString := none
  /-- The ids of the explicit aliases. -/
  aliases : Option (List JsString) := none
  originalAssertion : Option JsString := none
  assertionVersion : Option Nat := none
  assertionHash : Option JsString := none
  sourceRunId : Option JsString := none
  decidedAt : Option JsString := none
  /-- The reason of the audit entry, whose event is a click. -/
  audit : Option JsString := none

/-- `Partial<DecisionItem>`: a field that is not given leaves the stored one, and
one given as `undefined` removes it. -/
structure ItemPatch where
  identity : Option (Option JsString) := none
  aliases : Option (Option (List JsString)) := none
  originalAssertion : Option (Option JsString) := none
  assertionVersion : Option (Option Nat) := none
  assertionHash : Option (Option JsString) := none
  sourceRunId : Option (Option JsString) := none
  decidedAt : Option (Option JsString) := none
  audit : Option (Option JsString) := none
deriving DecidableEq

structure StoredEntry where
  key : JsString
  item : StoredItem

structure DecisionStore where
  /-- `kind` is given. -/
  tagged : Bool
  prUrl : Option JsString
  revision : Nat
  items : Table StoredEntry.key

structure ExplainerError where
  message : JsString
  status : Nat := 400

structure DecisionRequest where
  findingId : JsString
  decision : FindingDecision
  expectedRevision : Int
  item : ItemPatch := {}
  prUrl : Option JsString := none
deriving DecidableEq

def StoredItem.accepted (item : StoredItem) : Bool :=
  item.findingId ≠ [] && item.findingId.length ≤ 160 &&
  item.identity.all (·.length ≤ 160) &&
  item.aliases.all (fun ids => ids.length ≤ 100 && ids.all fun id => id ≠ [] && id.length ≤ 160) &&
  item.originalAssertion.all (·.length ≤ 8000) &&
  item.assertionVersion.all (0 < ·) &&
  item.assertionHash.all (fun hash => hash.length = 64 && hash.all isHex) &&
  item.sourceRunId.all (·.length ≤ 160) &&
  item.decidedAt.all (·.length ≤ 100) &&
  item.audit.all (·.length ≤ 2000)

def MAX_SAFE_INTEGER : Nat := 9007199254740991

def DecisionStore.accepted (store : DecisionStore) : Bool :=
  store.prUrl.all (·.length ≤ 2048) && store.revision ≤ MAX_SAFE_INTEGER &&
    store.items.rows.all (·.item.accepted)

def member (key : String) (value : Option Json) : List (JsString × Json) :=
  value.toList.map fun value => (js key, value)

def StoredItem.json (item : StoredItem) : Json :=
  .object ([(js "findingId", .string item.findingId), (js "decision", .string item.decision.text)] ++
    member "identity" (item.identity.map fun value =>
      .object [(js "kind", .string (js "stable-id")), (js "value", .string value)]) ++
    member "aliases" (item.aliases.map fun ids => .array (ids.map fun id =>
      .object [(js "id", .string id), (js "basis", .string (js "explicit"))])) ++
    member "originalAssertion" (item.originalAssertion.map .string) ++
    member "assertionVersion" (item.assertionVersion.map fun version => .number version) ++
    member "assertionHash" (item.assertionHash.map .string) ++
    member "sourceRunId" (item.sourceRunId.map .string) ++
    member "decidedAt" (item.decidedAt.map .string) ++
    member "audit" (item.audit.map fun reason =>
      .object [(js "event", .string (js "user_clicked")), (js "reason", .string reason)]))

namespace DecisionStore

def json (store : DecisionStore) : Json :=
  .object ([(js "version", .number 1)] ++
    member "kind" (if store.tagged then some (.string (js "councilkit-pr-decisions")) else none) ++
    member "prUrl" (store.prUrl.map .string) ++
    [(js "revision", .number store.revision),
      (js "items", .object (store.items.rows.map fun entry => (entry.key, entry.item.json)))])

/-- `Buffer.byteLength(JSON.stringify(next))` -/
def byteLength (store : DecisionStore) : Nat := Json.utf8Length store.json.stringify

def maxBytes : Nat := 4 * 1024 * 1024

def empty : DecisionStore := ⟨false, none, 0, .empty⟩

end DecisionStore

/-- The file as `atomicJson` wrote it, with a line feed at the end. -/
def readFindingDecisions (file : Option DecisionStore) : Except ExplainerError DecisionStore :=
  match file with
  | none => .ok .empty
  | some store =>
    if DecisionStore.maxBytes < store.byteLength + 1 then
      .error ⟨js "Invalid or oversized stored artifact", 400⟩
    else if store.accepted then .ok store
    else .error ⟨js "Corrupt decision storage; refusing to reset history", 500⟩

def ItemPatch.onto (patch : ItemPatch) (findingId : JsString) (decision : FindingDecision)
    (prior : Option StoredItem) : StoredItem where
  findingId
  decision
  identity := patch.identity.getD (prior.bind (·.identity))
  aliases := patch.aliases.getD (prior.bind (·.aliases))
  originalAssertion := patch.originalAssertion.getD (prior.bind (·.originalAssertion))
  assertionVersion := patch.assertionVersion.getD (prior.bind (·.assertionVersion))
  assertionHash := patch.assertionHash.getD (prior.bind (·.assertionHash))
  sourceRunId := patch.sourceRunId.getD (prior.bind (·.sourceRunId))
  decidedAt := patch.decidedAt.getD (prior.bind (·.decidedAt))
  audit := patch.audit.getD (prior.bind (·.audit))

/-- Assigned as a key, this name sets the prototype and leaves no property: the
record schema passes it over. -/
def PROTOTYPE : JsString := js "__proto__"

namespace DecisionRequest

variable (request : DecisionRequest)

def admitted : Bool :=
  0 ≤ request.expectedRevision && request.expectedRevision ≤ MAX_SAFE_INTEGER &&
    request.findingId ≠ [] && request.findingId.length ≤ 160

def settle (prior : Option StoredItem) : StoredItem :=
  request.item.onto request.findingId request.decision prior

def nextStore (prior : DecisionStore) : DecisionStore :=
  let named := request.prUrl.any (· ≠ [])
  { tagged := prior.tagged || named
    prUrl := if named then request.prUrl else prior.prUrl
    revision := prior.revision + 1
    items := (prior.items.put ⟨request.findingId,
      request.settle ((prior.items.get request.findingId).map (·.item))⟩).filter (·.key ≠ PROTOTYPE) }

end DecisionRequest

def replaceDecisions (prior : DecisionStore) (request : DecisionRequest) :
    Except ExplainerError DecisionStore := do
  require ((prior.revision : Int) = request.expectedRevision)
    ⟨js "Stale decision revision conflict; reload and retry", 409⟩
  let next := request.nextStore prior
  require (next.accepted = true) ⟨js "Cannot persist decision: storage write failure", 500⟩
  require (next.byteLength ≤ DecisionStore.maxBytes) ⟨js "Decision storage size limit reached", 413⟩
  return next

def applyFindingDecision (file : Option DecisionStore) (request : DecisionRequest) :
    Except ExplainerError DecisionStore := do
  require (request.admitted = true) ⟨js "Invalid decision request", 400⟩
  let prior ← readFindingDecisions file
  replaceDecisions prior request

/-! A busy lock and a failed file operation are steps of their own: the call fails
wherever it stands, before the rename.
-/

def decisionEditing : Editing (Option DecisionStore) DecisionStore DecisionRequest where
  load file := (readFindingDecisions file).toOption
  change prior request :=
    if request.admitted then (replaceDecisions prior request).toOption.map some else none

abbrev DecisionSystem (ω : Type) := LockedCell (Option DecisionStore) DecisionStore DecisionRequest ω

variable {file after : Option DecisionStore} {prior next : DecisionStore}
  {request : DecisionRequest} {log : List DecisionRequest}

def storedRevision (file : Option DecisionStore) : Nat := file.elim 0 (·.revision)

def storedItem (file : Option DecisionStore) (id : JsString) : Option StoredItem :=
  file.bind fun store => (store.items.get id).map (·.item)

def itemOf (log : List DecisionRequest) (id : JsString) : Option StoredItem :=
  (log.filter (·.findingId = id)).foldl (fun prior request => some (request.settle prior)) none

/-- The revision counts the calls that succeeded, each of which expected the
revision it was applied to, and none of them is lost. -/
structure Accounts (log : List DecisionRequest) (file : Option DecisionStore) : Prop where
  revision : storedRevision file = log.length
  expected : ∀ (index : Nat) (request : DecisionRequest), log[index]? = some request →
    request.expectedRevision = index
  kept : ∀ id, storedItem file id = itemOf log id

theorem read_ok (read : readFindingDecisions file = .ok prior) : prior = file.getD .empty := by
  cases file with
  | none => exact (ok.inj read).symm
  | some store =>
    simp only [readFindingDecisions] at read
    split at read
    · contradiction
    · split at read
      · exact (ok.inj read).symm
      · contradiction

theorem storedItem_getD (file : Option DecisionStore) (id : JsString) :
    ((file.getD .empty).items.get id).map (·.item) = storedItem file id := by
  cases file with
  | none => rfl
  | some store => rfl

theorem replaceDecisions_ok :
    replaceDecisions prior request = .ok next ↔
      (prior.revision : Int) = request.expectedRevision ∧ next = request.nextStore prior ∧
        next.accepted = true ∧ next.byteLength ≤ DecisionStore.maxBytes := by
  simp only [replaceDecisions, require_ok, except_bind_ok, pure, Except.pure, Except.ok.injEq]
  constructor
  · intro replaced
    obtain ⟨_, current, _, accepted, _, fits, rfl⟩ := replaced
    exact ⟨current, rfl, accepted, fits⟩
  · intro facts
    obtain ⟨current, rfl, accepted, fits⟩ := facts
    exact ⟨(), current, (), accepted, (), fits, rfl⟩

theorem apply_iff : decisionEditing.apply file request = some after ↔
    ∃ next, applyFindingDecision file request = .ok next ∧ after = some next := by
  have change (prior : DecisionStore) : decisionEditing.change prior request = some after ↔
      request.admitted = true ∧ ∃ next, replaceDecisions prior request = .ok next ∧ after = some next := by
    simp only [decisionEditing]
    by_cases admitted : request.admitted = true
    · rw [if_pos admitted]
      cases replaceDecisions prior request with
      | error reason => simp [Except.toOption]
      | ok next =>
        simp only [Except.toOption, map_some, some.injEq, admitted, true_and,
          ok.injEq, exists_eq_left']
        exact eq_comm
    · simp [admitted]
  have load (prior : DecisionStore) : decisionEditing.load file = some prior ↔
      readFindingDecisions file = .ok prior := by
    simp only [decisionEditing]
    cases readFindingDecisions file with
    | error reason => simp [Except.toOption]
    | ok found => simp [Except.toOption]
  simp only [Editing.apply, bind_eq_some_iff, change, load, applyFindingDecision,
    except_bind_ok, require_ok]
  constructor
  · intro applied
    obtain ⟨prior, read, admitted, next, replaced, wrote⟩ := applied
    exact ⟨next, ⟨(), admitted, prior, read, replaced⟩, wrote⟩
  · intro called
    obtain ⟨next, ⟨_, admitted, prior, read, replaced⟩, wrote⟩ := called
    exact ⟨prior, read, admitted, next, replaced, wrote⟩

theorem applied_cases (applied : decisionEditing.apply file request = some after) :
    after = some (request.nextStore (file.getD .empty)) ∧
      (storedRevision file : Int) = request.expectedRevision := by
  obtain ⟨next, called, rfl⟩ := apply_iff.mp applied
  simp only [applyFindingDecision, except_bind_ok] at called
  obtain ⟨_, -, prior, read, replaced⟩ := called
  obtain ⟨current, rfl, -, -⟩ := replaceDecisions_ok.mp replaced
  have same := read_ok read
  subst same
  refine ⟨rfl, ?_⟩
  rw [← current]
  cases file with
  | none => rfl
  | some store => rfl

theorem storedItem_nextStore (prior : DecisionStore) (request : DecisionRequest) (id : JsString) :
    storedItem (some (request.nextStore prior)) id =
      if id = PROTOTYPE then none
      else if id = request.findingId then
        some (request.settle ((prior.items.get request.findingId).map (·.item)))
      else (prior.items.get id).map (·.item) := by
  simp only [storedItem, bind_some, DecisionRequest.nextStore, Table.get_filter, Table.get_put]
  by_cases proto : id = PROTOTYPE
  · rw [if_pos proto]
    split
    · rename_i same
      rw [same] at proto
      simp [Option.filter, proto]
    · cases found : prior.items.get id with
      | none => rfl
      | some entry =>
        have key := (Table.get_mem found).2
        simp [Option.filter, key, proto]
  · rw [if_neg proto]
    split
    · rename_i same
      have apart : request.findingId ≠ PROTOTYPE := same ▸ proto
      simp [Option.filter, apart]
    · cases found : prior.items.get id with
      | none => rfl
      | some entry =>
        have key := (Table.get_mem found).2
        simp [Option.filter, key, proto]

theorem itemOf_append (log : List DecisionRequest) (request : DecisionRequest) (id : JsString) :
    itemOf (log ++ [request]) id =
      if id = request.findingId then some (request.settle (itemOf log id)) else itemOf log id := by
  simp only [itemOf, filter_append]
  by_cases same : id = request.findingId
  · have here : [request].filter (fun other => other.findingId = id) = [request] := by simp [same]
    rw [if_pos same, here, foldl_append]
    rfl
  · have apart : ¬ request.findingId = id := fun equal => same equal.symm
    have here : [request].filter (fun other => other.findingId = id) = [] := by simp [apart]
    rw [if_neg same, here, append_nil]

/-- What holds of every log, the calls about the prototype included. -/
structure Counts (log : List DecisionRequest) (file : Option DecisionStore) : Prop where
  revision : storedRevision file = log.length
  expected : ∀ (index : Nat) (request : DecisionRequest), log[index]? = some request →
    request.expectedRevision = index
  kept : ∀ id, storedItem file id = if id = PROTOTYPE then none else itemOf log id

namespace Counts

theorem empty : Counts [] none := by
  refine ⟨rfl, ?_, ?_⟩
  · intro index request found
    simp at found
  · intro id
    split
    · rfl
    · rfl

theorem apply (counts : Counts log file)
    (applied : decisionEditing.apply file request = some after) : Counts (log ++ [request]) after := by
  obtain ⟨rfl, current⟩ := applied_cases applied
  have count : (file.getD .empty).revision = log.length := by
    rw [← counts.revision]
    cases file with
    | none => rfl
    | some store => rfl
  refine ⟨?_, ?_, ?_⟩
  · simp [storedRevision, DecisionRequest.nextStore, count]
  · intro index other found
    rw [getElem?_append] at found
    split at found
    · exact counts.expected index other found
    · rename_i later
      have last : index = log.length := by
        have bound := (List.getElem?_eq_some_iff.mp found).1
        simp only [length_singleton] at bound
        omega
      subst last
      simp only [Nat.sub_self, getElem?_cons_zero, some.injEq] at found
      rw [← found, ← current, counts.revision]
  · intro id
    rw [storedItem_nextStore, itemOf_append, storedItem_getD, storedItem_getD, counts.kept, counts.kept]
    by_cases proto : id = PROTOTYPE
    · rw [if_pos proto, if_pos proto]
    · rw [if_neg proto, if_neg proto, if_neg proto]
      split
      · rename_i same
        rw [← same, if_neg proto]
      · rfl

theorem run (counts : Counts log file) {calls : List DecisionRequest}
    (ran : Run decisionEditing.apply anyStep file calls after) : Counts (log ++ calls) after := by
  induction ran generalizing log with
  | done =>
    rw [append_nil]
    exact counts
  | @next state middle final request rest _ applied _ ih =>
    have later := ih (counts.apply applied)
    rw [append_assoc] at later
    exact later

end Counts

theorem foldl_settle_none {prior : Option StoredItem} (calls : List DecisionRequest) :
    calls.foldl (fun prior request => some (request.settle prior)) prior = none ↔
      prior = none ∧ calls = [] := by
  induction calls generalizing prior with
  | nil => simp
  | cons request rest ih => simp [ih]

theorem itemOf_none {id : JsString} : itemOf log id = none ↔ ∀ request ∈ log, request.findingId ≠ id := by
  simp [itemOf, foldl_settle_none, filter_eq_nil_iff]

theorem Counts.accounts_iff (counts : Counts log file) :
    Accounts log file ↔ ∀ request ∈ log, request.findingId ≠ PROTOTYPE := by
  rw [← itemOf_none]
  constructor
  · intro accounts
    rw [← accounts.kept, counts.kept, if_pos rfl]
  · intro none
    refine ⟨counts.revision, counts.expected, fun id => ?_⟩
    rw [counts.kept]
    split
    · rename_i proto
      rw [proto, none]
    · rfl

/-- In every interleaving of calls about other names, the file accounts for every
call that succeeded, and only the write of one changes it. -/
theorem decisions_account {ω : Type} [DecidableEq ω] {actions : List (EditAction DecisionRequest ω)}
    {final : DecisionSystem ω}
    (run : Run (step decisionEditing)
      (fun _ action => action.Asks fun request => request.findingId ≠ PROTOTYPE)
      (.start none) actions final) :
    Accounts final.log final.cell ∧
      ∀ action next, final.step decisionEditing action = some next →
        (∀ writer, action ≠ .store writer) → next.cell = final.cell ∧ next.log = final.log := by
  have serial := run_serial run
  have counts : Counts ([] ++ final.log) final.cell := Counts.empty.run serial.ran
  refine ⟨counts.accounts_iff.mpr (run_asked run), ?_⟩
  intro action next stepped quiet
  exact step_quiet stepped quiet

def sampleRequest (findingId : JsString) : DecisionRequest := ⟨findingId, .wont_fix, 0, {}, none⟩

def sampleCall (findingId : JsString) : List (EditAction DecisionRequest Nat) :=
  [.call 0 (sampleRequest findingId), .call 1 (sampleRequest findingId), .acquire 0, .load 0,
    .store 0, .acquire 1, .load 1, .fail 1]

theorem runs_sample_call :
    ((execute (step decisionEditing) (.start none) (sampleCall (js "F1"))).any
      fun final => final.log = [sampleRequest (js "F1")]) = true ∧
    ((execute (step decisionEditing) (.start none) (sampleCall PROTOTYPE)).any
      fun final => final.log = [sampleRequest PROTOTYPE] ∧ storedItem final.cell PROTOTYPE = none) =
        true := by
  decide +kernel

theorem decisions_account_sample : ∃ final : DecisionSystem Nat,
    final.log = [sampleRequest (js "F1")] ∧ Accounts final.log final.cell := by
  obtain ⟨final, ended, logged⟩ := (any_eq_true _ _).mp runs_sample_call.1
  refine ⟨final, of_decide_eq_true logged, ?_⟩
  have named : js "F1" ≠ PROTOTYPE := by decide
  have run : Run (step decisionEditing)
      (fun _ action => action.Asks fun request => request.findingId ≠ PROTOTYPE)
      (.start none) (sampleCall (js "F1")) final := by
    refine execute_run ended ?_
    intro _ action member
    simp only [sampleCall, mem_cons, not_mem_nil, or_false] at member
    rcases member with rfl | rfl | rfl | rfl | rfl | rfl | rfl | rfl
    · exact named
    · exact named
    all_goals exact trivial
  exact (decisions_account run).1

/-- The write for this name counts as a revision, and no decision is kept. -/
theorem decision_lost : ¬ ∀ (actions : List (EditAction DecisionRequest Nat)) (final : DecisionSystem Nat),
    Run (step decisionEditing) anyStep (.start none) actions final → Accounts final.log final.cell := by
  intro claimed
  obtain ⟨final, ended, found⟩ := (any_eq_true _ _).mp runs_sample_call.2
  obtain ⟨logged, none⟩ := of_decide_eq_true found
  have accounts := claimed _ _ (execute_run ended fun _ _ _ => trivial)
  have kept := accounts.kept PROTOTYPE
  rw [none, logged] at kept
  cases kept

end CouncilKit.Review
