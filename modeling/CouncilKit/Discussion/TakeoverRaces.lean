import CouncilKit.Discussion.LiveExecutions
import CouncilKit.Host.Dispatches

namespace CouncilKit.Discussion

open Data Table Option Host Nat

/-- One call of `takeOverBinding` that has the Host's answer. -/
structure PageTakeover where
  page : JsString
  pair : Controller
  written : Bool

structure TakeoverRace where
  host : ScopeManager
  db : Database
  pages : Table PageTakeover.page

inductive TakeoverAction where
  | takeoverScope (page controllerId : JsString)
  | takeoverRuntimeBinding (page now : JsString)

namespace TakeoverRace

variable (scopeId bindingId : JsString) (race : TakeoverRace)

def takeoverScope (page controllerId : JsString) : Option TakeoverRace :=
  match race.host.takeover scopeId controllerId with
  | (_, .error _) => none
  | (host, .ok (_, pair)) =>
    (race.pages.add ⟨page, pair, false⟩).map fun pages => { race with host, pages }

def takeoverRuntimeBinding (page now : JsString) : Option TakeoverRace := do
  let own ← (race.pages.get page).filter (·.written = false)
  match race.db.takeoverRuntimeBinding bindingId ⟨own.pair.controllerId, own.pair.leaseEpoch⟩
      now with
  | .error _ => return race
  | .ok db => return { race with db, pages := race.pages.put { own with written := true } }

def step : TakeoverAction → Option TakeoverRace
  | .takeoverScope page controllerId => race.takeoverScope scopeId page controllerId
  | .takeoverRuntimeBinding page now => race.takeoverRuntimeBinding bindingId page now

/-- The scope is open, the binding is active with an epoch the Host gave, and no
page is on its way. -/
structure Opened : Prop where
  scope : ∃ scope, race.host.scopes.get scopeId = some scope ∧
    scope.state ≠ .closed ∧ scope.state ≠ .closing ∧
    ∃ binding, race.db.runtimeBindings.get bindingId = some binding ∧ binding.state = .active ∧
      ∃ epoch, binding.leaseEpoch = some epoch ∧ epoch ≤ scope.leaseEpoch
  pages : race.pages = .empty

def storedEpoch : Nat :=
  ((race.db.runtimeBindings.get bindingId).bind (·.leaseEpoch)).getD 0

def Grows (action : TakeoverAction) : Prop :=
  ∀ next, race.step scopeId bindingId action = some next →
    race.storedEpoch bindingId ≤ next.storedEpoch bindingId

def Finished : Prop := race.pages.rows ≠ [] ∧ ∀ own ∈ race.pages.rows, own.written = true

def HostAccepts : Prop :=
  ∃ binding scope pair, race.db.runtimeBindings.get bindingId = some binding ∧
    race.host.scopes.get scopeId = some scope ∧
    binding.controllerId = some pair.controllerId ∧ binding.leaseEpoch = some pair.leaseEpoch ∧
    scope.fenced pair = .ok ()

/-- A page writes only while no page that took the Host over later has written. -/
def NoNewerWritten : TakeoverAction → Prop
  | .takeoverScope .. => True
  | .takeoverRuntimeBinding page _ => ∀ own, race.pages.get page = some own →
      ∀ other ∈ race.pages.rows, own.pair.leaseEpoch < other.pair.leaseEpoch →
        other.written = false

instance (action : TakeoverAction) : Decidable (race.NoNewerWritten action) :=
  match action with
  | .takeoverScope .. => inferInstanceAs (Decidable True)
  | .takeoverRuntimeBinding page _ =>
    decidable_of_iff ((race.pages.get page).all fun own => decide (∀ other ∈ race.pages.rows,
      own.pair.leaseEpoch < other.pair.leaseEpoch → other.written = false)) (by
        cases found : race.pages.get page <;> simp [NoNewerWritten, found])

/-- The state of a race in which no page wrote over a newer one, with the Host's
scope and the stored binding. -/
structure InOrder (scope : Scope) (binding : RuntimeBinding) (epoch : Nat) : Prop where
  found : race.host.scopes.get scopeId = some scope
  running : scope.state ≠ .closed ∧ scope.state ≠ .closing
  stored : race.db.runtimeBindings.get bindingId = some binding
  active : binding.state = .active
  holds : binding.leaseEpoch = some epoch
  granted : epoch ≤ scope.leaseEpoch
  bounded : ∀ own ∈ race.pages.rows, own.pair.leaseEpoch ≤ scope.leaseEpoch
  newest : race.pages.rows ≠ [] → ∃ own ∈ race.pages.rows, own.pair = ⟨scope.controllerId, scope.leaseEpoch⟩
  apart : ∀ own ∈ race.pages.rows, ∀ other ∈ race.pages.rows,
    own.pair.leaseEpoch = other.pair.leaseEpoch → own = other
  written : ∀ own ∈ race.pages.rows, own.written = true → own.pair.leaseEpoch ≤ epoch ∧
    (own.pair.leaseEpoch = epoch → binding.controllerId = some own.pair.controllerId)
  passed : ∀ own ∈ race.pages.rows, own.written = false → own.pair.leaseEpoch ≤ epoch →
    ∃ other ∈ race.pages.rows, other.written = true ∧ own.pair.leaseEpoch < other.pair.leaseEpoch

def Ordered : Prop := ∃ scope binding epoch, race.InOrder scopeId bindingId scope binding epoch

variable {scopeId bindingId : JsString} {race next : TakeoverRace} {page controllerId now : JsString}
  {scope : Scope} {binding : RuntimeBinding} {epoch : Nat} {own : PageTakeover}

section

variable (order : race.InOrder scopeId bindingId scope binding epoch)

include order

theorem takeoverScope_ok (stepped : race.takeoverScope scopeId page controllerId = some next) :
    race.pages.get page = none ∧ next = { race with
      host := race.host.withScope { scope with
        controllerId := controllerId, leaseEpoch := scope.leaseEpoch + 1 }
      pages := race.pages.put ⟨page, ⟨controllerId, scope.leaseEpoch + 1⟩, false⟩ } := by
  have looked : race.host.getScope scopeId = .ok scope := by
    rw [ScopeManager.getScope, order.found]
  have running : ¬ (scope.state = .closed ∨ scope.state = .closing) := by
    have := order.running
    simp [this]
  simp only [takeoverScope, ScopeManager.takeover, looked, if_neg running,
    map_eq_some_iff, add_eq_some] at stepped
  obtain ⟨pages, ⟨absent, rfl⟩, rfl⟩ := stepped
  exact ⟨absent, rfl⟩

theorem takeoverRuntimeBinding_ok
    (stepped : race.takeoverRuntimeBinding bindingId page now = some next) :
    ∃ own, race.pages.get page = some own ∧ own.written = false ∧ next = { race with
      db := race.db.putBinding { binding with
        controllerId := some own.pair.controllerId
        leaseEpoch := some own.pair.leaseEpoch
        updatedAt := now }
      pages := race.pages.put { own with written := true } } := by
  have writes : ∀ token, race.db.takeoverRuntimeBinding bindingId token now =
      .ok (race.db.putBinding { binding with
        controllerId := some token.controllerId
        leaseEpoch := some token.leaseEpoch
        updatedAt := now }) := by
    intro token
    simp [Database.takeoverRuntimeBinding, Database.getBinding, order.stored, order.active, fetch,
      require, bind, Except.bind, pure, Except.pure]
  simp only [takeoverRuntimeBinding, writes, bind_eq_bind, bind_eq_some_iff,
    filter_eq_some_iff, decide_eq_true_eq] at stepped
  obtain ⟨own, ⟨found, waiting⟩, rest⟩ := stepped
  cases rest
  exact ⟨own, found, waiting, rfl⟩

theorem storedEpoch_eq : race.storedEpoch bindingId = epoch := by
  simp [storedEpoch, order.stored, order.holds]

theorem InOrder.takeoverScope (stepped : race.takeoverScope scopeId page controllerId = some next) :
    next.InOrder scopeId bindingId
      { scope with controllerId, leaseEpoch := scope.leaseEpoch + 1 } binding epoch := by
  obtain ⟨absent, rfl⟩ := takeoverScope_ok order stepped
  have name : scope.scopeId = scopeId := (get_eq_some.mp order.found).2
  have rows : (race.pages.put ⟨page, ⟨controllerId, scope.leaseEpoch + 1⟩, false⟩).rows =
      race.pages.rows ++ [⟨page, ⟨controllerId, scope.leaseEpoch + 1⟩, false⟩] :=
    rows_put absent
  refine ⟨?_, order.running, order.stored, order.active, order.holds,
    le_succ_of_le order.granted, ?_, ?_, ?_, ?_, ?_⟩
  · simp only [ScopeManager.withScope]
    rw [get_put, if_pos name.symm]
  all_goals simp only [rows, List.mem_append, List.mem_singleton]
  · intro own member
    rcases member with member | rfl
    · exact le_succ_of_le (order.bounded own member)
    · exact le_refl _
  · intro _
    exact ⟨_, .inr rfl, rfl⟩
  · intro own member other otherMember same
    rcases member with member | rfl <;> rcases otherMember with otherMember | rfl
    · exact order.apart own member other otherMember same
    · have bound := order.bounded own member
      simp only at same
      omega
    · have bound := order.bounded other otherMember
      simp only at same
      omega
    · rfl
  · intro own member wrote
    rcases member with member | rfl
    · exact order.written own member wrote
    · contradiction
  · intro own member waiting low
    rcases member with member | rfl
    · obtain ⟨other, otherMember, facts⟩ := order.passed own member waiting low
      exact ⟨other, .inl otherMember, facts⟩
    · have bound := order.granted
      simp only at low
      omega

theorem InOrder.waiting (member : own ∈ race.pages.rows) (waiting : own.written = false)
    (first : ∀ other ∈ race.pages.rows, own.pair.leaseEpoch < other.pair.leaseEpoch → other.written = false) :
    epoch < own.pair.leaseEpoch := by
  by_contra low
  obtain ⟨other, otherMember, wrote, newer⟩ :=
    order.passed own member waiting (Nat.le_of_not_lt low)
  rw [first other otherMember newer] at wrote
  contradiction

theorem InOrder.write (found : race.pages.get page = some own) (waiting : own.written = false)
    (first : ∀ other ∈ race.pages.rows, own.pair.leaseEpoch < other.pair.leaseEpoch → other.written = false) :
    TakeoverRace.InOrder scopeId bindingId
      { race with
        db := race.db.putBinding { binding with
          controllerId := some own.pair.controllerId
          leaseEpoch := some own.pair.leaseEpoch
          updatedAt := now }
        pages := race.pages.put { own with written := true } }
      scope
      { binding with
        controllerId := some own.pair.controllerId
        leaseEpoch := some own.pair.leaseEpoch
        updatedAt := now } own.pair.leaseEpoch := by
  have member := (get_mem found).1
  have newer := order.waiting member waiting first
  have name : binding.id = bindingId := (get_eq_some.mp order.stored).2
  -- Every page keeps the pair it has; only the page that writes is marked.
  have kept : ∀ {other}, other ∈ (race.pages.put { own with written := true }).rows →
      other = { own with written := true } ∨ other ∈ race.pages.rows ∧ other.page ≠ own.page :=
    fun marked => mem_put.mp marked
  have marked : ({ own with written := true } : PageTakeover) ∈
      (race.pages.put { own with written := true }).rows := mem_put.mpr (.inl rfl)
  have others : ∀ {other}, other ∈ race.pages.rows → other.page ≠ own.page →
      other ∈ (race.pages.put { own with written := true }).rows :=
    fun stored different => mem_put.mpr (.inr ⟨stored, different⟩)
  refine ⟨order.found, order.running, ?_, order.active, rfl, order.bounded own member, ?_, ?_, ?_, ?_, ?_⟩
  · simp only [Database.putBinding]
    rw [get_put, if_pos name.symm]
  · intro other stored
    rcases kept stored with rfl | ⟨stored, -⟩
    · exact order.bounded own member
    · exact order.bounded other stored
  · intro _
    obtain ⟨newest, stored, pair⟩ := order.newest (List.ne_nil_of_mem member)
    by_cases same : newest.page = own.page
    · rw [eq_of_key stored member same] at pair
      exact ⟨_, marked, pair⟩
    · exact ⟨newest, others stored same, pair⟩
  · intro left leftStored right rightStored same
    rcases kept leftStored with rfl | ⟨leftMember, leftOther⟩ <;>
      rcases kept rightStored with rfl | ⟨rightMember, rightOther⟩
    · rfl
    · exact absurd (congrArg _ (order.apart own member right rightMember same).symm) rightOther
    · exact absurd (congrArg _ (order.apart left leftMember own member same)) leftOther
    · exact order.apart left leftMember right rightMember same
  · intro other stored wrote
    rcases kept stored with rfl | ⟨stored, different⟩
    · exact ⟨le_refl _, fun _ => rfl⟩
    · have low := (order.written other stored wrote).1
      exact ⟨by omega, fun same => by omega⟩
  · intro other stored idle low
    rcases kept stored with rfl | ⟨stored, different⟩
    · contradiction
    · refine ⟨_, marked, rfl, lt_of_le_of_ne low fun same => different ?_⟩
      exact congrArg _ (order.apart other stored own member same)

theorem storedEpoch_write {pages : Table PageTakeover.page} {pair : Controller} :
    TakeoverRace.storedEpoch bindingId { race with
      db := race.db.putBinding { binding with
        controllerId := some pair.controllerId
        leaseEpoch := some pair.leaseEpoch
        updatedAt := now }
      pages } = pair.leaseEpoch := by
  have name : binding.id = bindingId := (get_eq_some.mp order.stored).2
  simp only [storedEpoch, Database.putBinding]
  rw [get_put, if_pos name.symm]
  rfl

end

theorem Ordered.step {action : TakeoverAction} (ordered : race.Ordered scopeId bindingId)
    (stepped : race.step scopeId bindingId action = some next) :
    (race.Grows scopeId bindingId action ↔ race.NoNewerWritten action) ∧
      (race.NoNewerWritten action → next.Ordered scopeId bindingId) := by
  obtain ⟨scope, binding, epoch, order⟩ := ordered
  cases action with
  | takeoverScope page controllerId =>
    have taken := order.takeoverScope stepped
    refine ⟨⟨fun _ => trivial, fun _ other again => ?_⟩, fun _ => ⟨_, _, _, taken⟩⟩
    obtain rfl := Option.some.inj (again.symm.trans stepped)
    rw [storedEpoch_eq order, storedEpoch_eq taken]
  | takeoverRuntimeBinding page now =>
    obtain ⟨own, found, waiting, ended⟩ := takeoverRuntimeBinding_ok order stepped
    subst ended
    constructor
    · constructor
      · intro grows mine looked later laterMember newer
        obtain rfl := Option.some.inj (looked.symm.trans found)
        have grown := grows _ stepped
        rw [storedEpoch_eq order, storedEpoch_write order] at grown
        by_contra wrote
        have low := (order.written later laterMember (by simpa using wrote)).1
        omega
      · intro first other again
        obtain rfl := Option.some.inj (again.symm.trans stepped)
        rw [storedEpoch_eq order, storedEpoch_write order]
        exact le_of_lt (order.waiting (get_mem found).1 waiting (first own found))
    · intro first
      exact ⟨_, _, _, order.write found waiting (first own found)⟩

theorem Opened.ordered (opened : race.Opened scopeId bindingId) : race.Ordered scopeId bindingId := by
  obtain ⟨⟨scope, found, notClosed, notClosing, binding, stored, active, epoch, holds, granted⟩,
    pages⟩ := opened
  refine ⟨scope, binding, epoch, found, ⟨notClosed, notClosing⟩, stored, active, holds, granted,
    ?_, ?_, ?_, ?_, ?_⟩
  all_goals simp [pages, empty]

theorem Ordered.accepts (ordered : race.Ordered scopeId bindingId) (finished : race.Finished) :
    race.HostAccepts scopeId bindingId := by
  obtain ⟨scope, binding, epoch, order⟩ := ordered
  obtain ⟨some_, all⟩ := finished
  obtain ⟨newest, member, pair⟩ := order.newest some_
  obtain ⟨low, holder⟩ := order.written newest member (all newest member)
  have granted := order.granted
  have same : newest.pair.leaseEpoch = epoch := by
    rw [pair] at low ⊢
    exact le_antisymm low granted
  refine ⟨binding, scope, newest.pair, order.stored, order.found, holder same, ?_, ?_⟩
  · rw [order.holds, same]
  · have running : ¬ (scope.state = .closed ∨ scope.state = .closing) := by
      have := order.running
      simp [this]
    rw [Scope.fenced, if_neg running, pair]
    simp

variable {actions : List TakeoverAction} {final : TakeoverRace}

/-- However many pages take the scope over, in any order of their steps: the stored
epoch never decreases, and in the end the binding holds the pair that the Host
accepts, exactly when no page writes the binding after a newer one has. -/
theorem takeovers_iff (opened : race.Opened scopeId bindingId) :
    (Run (TakeoverRace.step scopeId bindingId) (TakeoverRace.Grows scopeId bindingId) race actions
        final ∧ (final.Finished → final.HostAccepts scopeId bindingId)) ↔
      Run (TakeoverRace.step scopeId bindingId) TakeoverRace.NoNewerWritten race actions final := by
  constructor
  · intro claimed
    exact claimed.1.transfer (fun ordered grows stepped =>
      ⟨(ordered.step stepped).1.mp grows,
        (ordered.step stepped).2 ((ordered.step stepped).1.mp grows)⟩) opened.ordered
  · intro run
    have grows := run.transfer (fun ordered first stepped =>
      ⟨(Ordered.step ordered stepped).1.mpr first, (ordered.step stepped).2 first⟩) opened.ordered
    exact ⟨grows, (run.invariant (fun ordered first stepped => (ordered.step stepped).2 first)
      opened.ordered).accepts⟩

end TakeoverRace

def hostActions : List HostAction :=
  [.createScope ⟨js "request", [⟨js "p", js "codex-app-server"⟩]⟩ (js "scope") (js "controller") 0]

def raceStart : Option TakeoverRace := do
  let host ← execute (ScopeManager.step sampleConfig) .empty hostActions
  let db ← execute (@Database.step sampleDigest) .empty seedActions
  return ⟨host, db, .empty⟩

theorem raceStart_opened {race : TakeoverRace} (started : raceStart = some race) :
    race.Opened (js "scope") (js "binding") := by
  have facts : raceStart.all (fun race => race.pages.rows.length = 0 ∧
      (race.host.scopes.get (js "scope")).any (fun scope => scope.state ≠ .closed ∧
        scope.state ≠ .closing ∧ (race.db.runtimeBindings.get (js "binding")).any fun binding =>
          binding.state = .active ∧ binding.leaseEpoch.any (· ≤ scope.leaseEpoch))) = true := by
    decide +kernel
  rw [started] at facts
  simp only [all_some, decide_eq_true_eq, any_eq_true] at facts
  obtain ⟨idle, scope, found, notClosed, notClosing, binding, stored, active, epoch, holds,
    granted⟩ := facts
  exact ⟨⟨scope, found, notClosed, notClosing, binding, stored, active, epoch, holds, granted⟩,
    ext_rows (List.length_eq_zero_iff.mp idle)⟩

def takeScope : List TakeoverAction :=
  [.takeoverScope (js "first") (js "c1"), .takeoverScope (js "second") (js "c2")]

def writeFirst : TakeoverAction := .takeoverRuntimeBinding (js "first") (js "t")

def writeSecond : TakeoverAction := .takeoverRuntimeBinding (js "second") (js "t")

theorem finished_of_marks {race : TakeoverRace}
    (marks : race.pages.rows.map (·.written) = [true, true]) : race.Finished := by
  constructor
  · intro idle
    simp [idle] at marks
  · intro own member
    have mark : own.written ∈ [true, true] := marks ▸ List.mem_map_of_mem member
    simpa using mark

theorem takeovers_in_order :
    ∃ race final, raceStart = some race ∧
      Run (TakeoverRace.step (js "scope") (js "binding"))
        (TakeoverRace.Grows (js "scope") (js "binding")) race
        (takeScope ++ [writeFirst, writeSecond]) final ∧
      final.Finished ∧ final.HostAccepts (js "scope") (js "binding") := by
  have facts : (raceStart.bind fun race =>
      execute (guarded (TakeoverRace.step (js "scope") (js "binding")) TakeoverRace.NoNewerWritten)
        race (takeScope ++ [writeFirst, writeSecond])).map (fun final =>
          final.pages.rows.map (·.written)) = some [true, true] := by decide +kernel
  obtain ⟨final, ended, marks⟩ := map_eq_some_iff.mp facts
  obtain ⟨race, started, ran⟩ := bind_eq_some_iff.mp ended
  obtain ⟨grows, accepts⟩ :=
    (TakeoverRace.takeovers_iff (raceStart_opened started)).mpr (execute_guarded ran)
  have finished := finished_of_marks marks
  exact ⟨race, final, started, grows, finished, accepts finished⟩

/-- The page that took the Host over first writes the binding last. -/
theorem late_write_lowers_epoch :
    ∃ race middle final, raceStart = some race ∧
      Run (TakeoverRace.step (js "scope") (js "binding")) anyStep race (takeScope ++ [writeSecond]) middle ∧
      middle.step (js "scope") (js "binding") writeFirst = some final ∧
      middle.storedEpoch (js "binding") = 3 ∧ final.storedEpoch (js "binding") = 2 ∧
      final.Finished ∧ ¬ final.HostAccepts (js "scope") (js "binding") := by
  have facts : (raceStart.bind fun race =>
      (execute (TakeoverRace.step (js "scope") (js "binding")) race
        (takeScope ++ [writeSecond])).bind fun middle =>
          (middle.step (js "scope") (js "binding") writeFirst).map fun final =>
            (middle.storedEpoch (js "binding"), final.storedEpoch (js "binding"),
              final.pages.rows.map (·.written),
              (final.host.scopes.get (js "scope")).map (·.leaseEpoch))) =
        some (3, 2, [true, true], some 3) := by decide +kernel
  obtain ⟨race, started, raced⟩ := bind_eq_some_iff.mp facts
  obtain ⟨middle, ran, written⟩ := bind_eq_some_iff.mp raced
  obtain ⟨final, stepped, found⟩ := map_eq_some_iff.mp written
  simp only [Prod.mk.injEq] at found
  obtain ⟨before, after, marks, hostEpoch⟩ := found
  refine ⟨race, middle, final, started, execute_run ran fun _ _ _ => trivial, stepped, before,
    after, finished_of_marks marks, fun accepts => ?_⟩
  obtain ⟨binding, scope, pair, stored, found, -, holds, current⟩ := accepts
  have stale : pair.leaseEpoch = 2 := by
    simpa [TakeoverRace.storedEpoch, stored, holds] using after
  rw [found, map_some] at hostEpoch
  have fresh := Option.some.inj hostEpoch
  simp only [Scope.fenced] at current
  split at current
  · contradiction
  · split at current
    · contradiction
    · rename_i matching
      apply matching
      right
      omega

end CouncilKit.Discussion
