import CouncilKit.Repair.ChainStore

namespace CouncilKit.Repair

open Data RepairChain RepairBudget Option Function

namespace ChainPhase

def holding : ChainPhase → Option JsString
  | .locked chainId _ | .spending chainId _ _ | .releasing chainId => some chainId
  | _ => none

def Informed (files : JsString → Option RepairChain) : ChainPhase → Prop
  | .storing (some read) chain => chain.budget = read.budget ∧ chain.chainId = read.chainId
  | .spending chainId request current =>
    current.chainId = chainId ∧ current.budget.used request.counter < current.budget.max request.counter ∧
      ∃ chain, files chainId = some chain ∧ chain.budget = current.budget
  | _ => True

end ChainPhase

namespace ChainStore

/-- What the file of a chain says was used; nothing when there is no file. -/
def usedAt (files : JsString → Option RepairChain) (chainId : JsString) (counter : Counter) : Nat :=
  (files chainId).elim 0 fun chain => chain.budget.used counter

theorem usedAt_file {files : JsString → Option RepairChain} {chainId : JsString}
    {chain : RepairChain} {counter : Counter} (found : files chainId = some chain) :
    usedAt files chainId counter = chain.budget.used counter := by
  rw [usedAt, found, elim_some]

/-- Every file is under its own name and within its maxima, and accounts for all
successful consume calls on top of what was used before the run. -/
structure Accounts (base spent : JsString → Counter → Nat)
    (files : JsString → Option RepairChain) : Prop where
  named : ∀ chainId chain, files chainId = some chain → chain.chainId = chainId
  within : ∀ chainId chain, files chainId = some chain → ∀ counter,
    chain.budget.used counter ≤ chain.budget.max counter
  recorded : ∀ chainId counter, spent chainId counter + base chainId counter ≤ usedAt files chainId counter

/-- The invariant: the files are accounted for, locks are held by whom they say,
and a process about to write knows the budget it replaces. -/
structure Sound (base : JsString → Counter → Nat) (store : ChainStore) : Prop where
  accounts : Accounts base store.spent store.files
  held : ∀ process chainId, (store.phase process).holding = some chainId → store.lock chainId = some process
  informed : ∀ process, (store.phase process).Informed store.files

def Keeps (store next : ChainStore) : Prop :=
  ∀ chainId chain, store.files chainId = some chain →
    ∃ later, next.files chainId = some later ∧ ∀ counter,
      chain.budget.used counter ≤ later.budget.used counter ∧
        later.budget.max counter = chain.budget.max counter

theorem Keeps.refl (store : ChainStore) : store.Keeps store :=
  fun _ chain found => ⟨chain, found, fun _ => ⟨le_rfl, rfl⟩⟩

theorem Keeps.trans {first second third : ChainStore} (left : first.Keeps second)
    (right : second.Keeps third) : first.Keeps third := by
  intro chainId chain found
  obtain ⟨middle, middleFound, grown⟩ := left chainId chain found
  obtain ⟨later, laterFound, grownAgain⟩ := right chainId middle middleFound
  refine ⟨later, laterFound, fun counter => ⟨?_, ?_⟩⟩
  · exact (grown counter).1.trans (grownAgain counter).1
  · exact (grownAgain counter).2.trans (grown counter).2

theorem Keeps.of_files {store next : ChainStore} (same : next.files = store.files) : store.Keeps next :=
  fun _ chain found => ⟨chain, same ▸ found, fun _ => ⟨le_rfl, rfl⟩⟩

/-- A write of a chain that was just loaded or created finds the budget that was
read, and a created budget starts within its maxima. -/
def Undisturbed (store : ChainStore) : ChainAction → Prop
  | .store process => ∀ read chain, store.phase process = .storing read chain →
      (store.files chain.chainId).map (·.budget) = read.map (·.budget) ∧
        (read = none → ∀ counter, chain.budget.used counter ≤ chain.budget.max counter)
  | _ => True

variable {base : JsString → Counter → Nat} {store : ChainStore} {process : ProcessId}
  {chainId : JsString} {phase : ChainPhase} {chain : RepairChain}

@[simp] theorem phase_goto_self : (store.goto process phase).phase process = phase := by
  simp [goto]

theorem phase_goto_other {other : ProcessId} (different : other ≠ process) :
    (store.goto process phase).phase other = store.phase other := by
  simp [goto, different]

theorem Sound.goto (sound : Sound base store)
    (holds : ∀ chainId, phase.holding = some chainId → store.lock chainId = some process)
    (informed : phase.Informed store.files) : Sound base (store.goto process phase) := by
  refine ⟨sound.accounts, fun other chainId holding => ?_, fun other => ?_⟩
  · by_cases same : other = process
    · subst same
      rw [phase_goto_self] at holding
      exact holds chainId holding
    · rw [phase_goto_other same] at holding
      exact sound.held other chainId holding
  · by_cases same : other = process
    · subst same
      rwa [phase_goto_self]
    · rw [phase_goto_other same]
      exact sound.informed other

theorem informed_replaced {old : RepairChain} (found : store.files chain.chainId = some old)
    (budget : chain.budget = old.budget) (informed : phase.Informed store.files) :
    phase.Informed (store.writeRepairChain chain).files := by
  cases phase with
  | spending target request current =>
    obtain ⟨named, unspent, there, present, same⟩ := informed
    refine ⟨named, unspent, ?_⟩
    by_cases here : target = chain.chainId
    · subst here
      rw [found, some.injEq] at present
      subst present
      exact ⟨chain, by simp [writeRepairChain], budget.trans same⟩
    · exact ⟨there, by simpa [writeRepairChain, here] using present, same⟩
  | storing read chain => cases read <;> exact informed
  | idle => trivial
  | scanning => trivial
  | opening => trivial
  | locked => trivial
  | releasing => trivial

theorem informed_created (absent : store.files chain.chainId = none)
    (informed : phase.Informed store.files) :
    phase.Informed (store.writeRepairChain chain).files := by
  cases phase with
  | spending target request current =>
    obtain ⟨named, unspent, there, present, same⟩ := informed
    have elsewhere : target ≠ chain.chainId := by
      rintro rfl
      rw [absent] at present
      contradiction
    exact ⟨named, unspent, there, by simpa [writeRepairChain, elsewhere] using present, same⟩
  | storing read chain => cases read <;> exact informed
  | idle => trivial
  | scanning => trivial
  | opening => trivial
  | locked => trivial
  | releasing => trivial

theorem files_write {target : JsString} : (store.writeRepairChain chain).files target =
    if target = chain.chainId then some chain else store.files target := by
  simp only [writeRepairChain, update_apply]

theorem Accounts.write {spent : JsString → Counter → Nat} (accounts : Accounts base store.spent store.files)
    (capped : ∀ counter, chain.budget.used counter ≤ chain.budget.max counter)
    (covers : ∀ counter,
      spent chain.chainId counter + base chain.chainId counter ≤ chain.budget.used counter)
    (others : ∀ target, target ≠ chain.chainId → spent target = store.spent target) :
    Accounts base spent (store.writeRepairChain chain).files := by
  refine ⟨fun target other found => ?_, fun target other found => ?_, fun target counter => ?_⟩
  · rw [files_write] at found
    split at found
    · rename_i here
      rw [← some.inj found, here]
    · exact accounts.named target other found
  · rw [files_write] at found
    split at found
    · rw [← some.inj found]
      exact capped
    · exact accounts.within target other found
  · simp only [usedAt, files_write]
    split
    · rename_i here
      rw [here]
      exact covers counter
    · rename_i elsewhere
      rw [others target elsewhere]
      exact accounts.recorded target counter

theorem Keeps.write (grown : ∀ old, store.files chain.chainId = some old → ∀ counter,
      old.budget.used counter ≤ chain.budget.used counter ∧
        chain.budget.max counter = old.budget.max counter) :
    store.Keeps (store.writeRepairChain chain) := by
  intro target other found
  by_cases here : target = chain.chainId
  · subst here
    exact ⟨chain, by rw [files_write, if_pos rfl], grown other found⟩
  · exact ⟨other, by rw [files_write, if_neg here]; exact found, fun _ => ⟨le_rfl, rfl⟩⟩

theorem Sound.rewrite {read : Option RepairChain} (sound : Sound base store)
    (fresh : (store.files chain.chainId).map (·.budget) = read.map (·.budget))
    (capped : read = none → ∀ counter, chain.budget.used counter ≤ chain.budget.max counter)
    (informed : ChainPhase.Informed store.files (.storing read chain)) :
    Sound base (store.writeRepairChain chain) ∧ store.Keeps (store.writeRepairChain chain) := by
  cases read with
  | none =>
    have absent : store.files chain.chainId = none := by simpa using fresh
    have covers : ∀ counter, store.spent chain.chainId counter + base chain.chainId counter ≤
        chain.budget.used counter := by
      intro counter
      have recorded := sound.accounts.recorded chain.chainId counter
      rw [usedAt, absent, elim_none] at recorded
      omega
    refine ⟨⟨sound.accounts.write (capped rfl) covers fun _ _ => rfl, sound.held,
      fun other => informed_created absent (sound.informed other)⟩, Keeps.write ?_⟩
    intro old found
    rw [absent] at found
    contradiction
  | some seen =>
    obtain ⟨old, present, sameBudget⟩ := map_eq_some_iff.mp fresh
    have budget : chain.budget = old.budget := informed.1.trans sameBudget.symm
    have covers : ∀ counter, store.spent chain.chainId counter + base chain.chainId counter ≤
        chain.budget.used counter := by
      intro counter
      have recorded := sound.accounts.recorded chain.chainId counter
      rwa [usedAt_file present, ← budget] at recorded
    refine ⟨⟨sound.accounts.write ?_ covers fun _ _ => rfl, sound.held,
      fun other => informed_replaced present budget (sound.informed other)⟩, Keeps.write ?_⟩
    · rw [budget]
      exact sound.accounts.within _ old present
    · intro there found counter
      rw [present, some.injEq] at found
      subst found
      rw [budget]
      exact ⟨le_rfl, rfl⟩

theorem readRepairChain_file {found : RepairChain}
    (read : store.readRepairChain chainId = some found) : store.files chainId = some found := by
  rw [readRepairChain, filter_eq_some_iff] at read
  exact read.1

variable {request : ConsumeRequest}

section

variable (sound : Sound base store)

include sound

theorem Sound.spendLocked {current : RepairChain}
    (here : store.phase process = .spending chainId request current) :
    Sound base (store.spendLocked process chainId request current) ∧
      store.Keeps (store.spendLocked process chainId request current) := by
  have informed := sound.informed process
  rw [here] at informed
  obtain ⟨rfl, unspent, chain, found, same⟩ := informed
  have lock := sound.held process current.chainId (by rw [here]; rfl)
  have recorded := sound.accounts.recorded current.chainId
  simp only [usedAt_file found, same] at recorded
  have capped := sound.accounts.within _ chain found
  rw [same] at capped
  let next : RepairChain := { current with
    budget := current.budget.spend request.counter
    casVersion := current.casVersion + 1 }
  have accounts : Accounts base (store.spendLocked process current.chainId request current).spent
      (store.writeRepairChain next).files := by
    refine sound.accounts.write (fun counter => ?_) (fun counter => ?_) fun target elsewhere => ?_
    · have cap := capped counter
      simp only [next, used_spend, max_spend]
      split
      · rename_i counted
        rw [counted]
        exact unspent
      · exact cap
    · have old := recorded counter
      simp only [next, ChainStore.spendLocked, used_spend, true_and]
      split <;> omega
    · funext counter
      have other : target ≠ current.chainId := elsewhere
      simp [ChainStore.spendLocked, other]
  have others : ∀ other, other ≠ process →
      (store.phase other).Informed (store.writeRepairChain next).files := by
    intro other different
    have informed := sound.informed other
    cases phase : store.phase other with
    | spending target wanted seen =>
      rw [phase] at informed
      obtain ⟨named, left, there, present, budget⟩ := informed
      have elsewhere : target ≠ next.chainId := by
        rintro rfl
        have taken := sound.held other next.chainId (by rw [phase]; rfl)
        rw [show store.lock next.chainId = some process from lock] at taken
        exact different (some.inj taken).symm
      exact ⟨named, left, there, by rw [files_write, if_neg elsewhere]; exact present, budget⟩
    | storing read chain =>
      rw [phase] at informed
      cases read <;> exact informed
    | idle => trivial
    | scanning => trivial
    | opening => trivial
    | locked => trivial
    | releasing => trivial
  refine ⟨⟨accounts, fun other target holding => ?_, fun other => ?_⟩, ?_⟩
  · by_cases same : other = process
    · subst same
      simp only [ChainStore.spendLocked, phase_goto_self, ChainPhase.holding, some.injEq] at holding
      exact holding ▸ lock
    · simp only [ChainStore.spendLocked, phase_goto_other same] at holding
      exact sound.held other target holding
  · by_cases same : other = process
    · subst same
      simp only [ChainStore.spendLocked, phase_goto_self]
      trivial
    · simp only [ChainStore.spendLocked, phase_goto_other same]
      exact others other same
  · refine Keeps.trans (Keeps.write ?_ : store.Keeps (store.writeRepairChain next)) (Keeps.of_files rfl)
    intro old present counter
    rw [show store.files next.chainId = some chain from found, some.injEq] at present
    subst present
    simp only [next, used_spend, max_spend, same, and_true]
    exact Nat.le_add_right _ _

theorem Sound.readLocked (here : store.phase process = .locked chainId request) :
    Sound base (store.readLocked process chainId request) := by
  have lock := sound.held process chainId (by rw [here]; rfl)
  have holds : ∀ phase : ChainPhase, phase.holding = some chainId →
      ∀ target, phase.holding = some target → store.lock target = some process := by
    intro phase holding target again
    rw [holding, some.injEq] at again
    exact again ▸ lock
  simp only [ChainStore.readLocked]
  split
  · exact sound.goto (holds (.releasing chainId) rfl) trivial
  · rename_i current read
    have found := readRepairChain_file read
    split
    · exact sound.goto (holds (.releasing chainId) rfl) trivial
    · rename_i allowed
      exact sound.goto (holds (.spending chainId request current) rfl)
        ⟨sound.accounts.named chainId current found, ConsumeRequest.refusal_none allowed,
          current, found, rfl⟩

theorem Sound.relock {lock : JsString → Option ProcessId}
    (kept : ∀ process chainId, (store.phase process).holding = some chainId → lock chainId = some process) :
    Sound base { store with lock } :=
  ⟨sound.accounts, kept, sound.informed⟩

theorem Sound.lock (free : store.lock chainId = none) :
    Sound base { store.goto process (.locked chainId request) with
      lock := update store.lock chainId (some process) } := by
  have others : ∀ other target, (store.phase other).holding = some target → target ≠ chainId := by
    rintro other target holding rfl
    rw [sound.held other target holding] at free
    contradiction
  have relocked : Sound base { store with lock := update store.lock chainId (some process) } :=
    sound.relock fun other target holding => by
      rw [update_of_ne (others other target holding)]
      exact sound.held other target holding
  refine relocked.goto (fun target holding => ?_) trivial
  obtain rfl := some.inj holding
  exact update_self ..

theorem Sound.release (here : store.phase process = .releasing chainId) :
    Sound base ((store.unlock chainId).goto process .idle) := by
  have lock := sound.held process chainId (by rw [here]; rfl)
  refine ⟨sound.accounts, fun other target holding => ?_, fun other => ?_⟩
  · by_cases same : other = process
    · subst same
      rw [phase_goto_self] at holding
      contradiction
    · rw [phase_goto_other same] at holding
      have taken := sound.held other target holding
      have elsewhere : target ≠ chainId := by
        rintro rfl
        rw [lock] at taken
        exact same (some.inj taken).symm
      simpa [ChainStore.goto, unlock, elsewhere] using taken
  · by_cases same : other = process
    · subst same
      rw [phase_goto_self]
      trivial
    · rw [phase_goto_other same]
      exact sound.informed other

theorem Sound.die : Sound base { store.goto process .idle with
      lock := fun chainId => (store.lock chainId).filter (· ≠ process) } := by
  have idle : Sound base (store.goto process .idle) := sound.goto (fun _ => nofun) trivial
  refine idle.relock fun other target holding => ?_
  have different : other ≠ process := by
    rintro rfl
    rw [phase_goto_self] at holding
    contradiction
  have taken : store.lock target = some other := idle.held other target holding
  simp [taken, different]

end

/-- No process runs yet, and the files are chains within their maxima. -/
structure Resting (store : ChainStore) : Prop where
  named : ∀ chainId chain, store.files chainId = some chain → chain.chainId = chainId
  within : ∀ chainId chain, store.files chainId = some chain → ∀ counter,
    chain.budget.used counter ≤ chain.budget.max counter
  idle : ∀ process, store.phase process = .idle
  unspent : ∀ chainId counter, store.spent chainId counter = 0

theorem Resting.sound (resting : store.Resting) : Sound (usedAt store.files) store := by
  refine ⟨⟨resting.named, resting.within, fun chainId counter => ?_⟩, fun process chainId holding => ?_,
    fun process => ?_⟩
  · rw [resting.unspent, Nat.zero_add]
  · rw [resting.idle] at holding
    contradiction
  · rw [resting.idle]
    trivial

section

variable [Unicode] [Digest]

omit [Digest] in
theorem Sound.scanName {input : LoadInput} {name : JsString} {rest : List JsString}
    (sound : Sound base store) : Sound base (store.scanName process input name rest) := by
  simp only [ChainStore.scanName]
  split
  · split
    · exact sound.goto (fun _ => nofun) ⟨budget_inheritChain .., chainId_inheritChain ..⟩
    · exact sound.goto (fun _ => nofun) trivial
  · exact sound.goto (fun _ => nofun) trivial

theorem Sound.openOwn {input : LoadInput} (sound : Sound base store) :
    Sound base (store.openOwn process input) := by
  simp only [ChainStore.openOwn]
  split
  · exact sound.goto (fun _ => nofun) trivial
  · split
    · exact sound.goto (fun _ => nofun) trivial
    · split
      · exact sound.goto (fun _ => nofun) ⟨budget_inheritChain .., chainId_inheritChain ..⟩
      · exact sound.goto (fun _ => nofun) trivial

theorem Sound.step {action : ChainAction} {next : ChainStore} (sound : Sound base store)
    (undisturbed : store.Undisturbed action) (stepped : store.step action = some next) :
    Sound base next ∧ store.Keeps next := by
  cases action with
  | load process input names =>
    simp only [ChainStore.step] at stepped
    split at stepped
    · cases stepped
      refine ⟨sound.goto ?_ ?_, Keeps.of_files rfl⟩
      · split <;> exact fun _ => nofun
      · split <;> trivial
    · contradiction
  | scan process =>
    simp only [ChainStore.step] at stepped
    split at stepped
    · cases stepped
      refine ⟨sound.scanName, Keeps.of_files ?_⟩
      simp only [ChainStore.scanName]
      split
      · split <;> rfl
      · rfl
    · cases stepped
      exact ⟨sound.goto (fun _ => nofun) trivial, Keeps.of_files rfl⟩
    · contradiction
  | «open» process =>
    simp only [ChainStore.step] at stepped
    split at stepped
    · cases stepped
      refine ⟨sound.openOwn, Keeps.of_files ?_⟩
      simp only [ChainStore.openOwn]
      split
      · rfl
      · split
        · rfl
        · split <;> rfl
    · contradiction
  | store process =>
    simp only [ChainStore.step] at stepped
    split at stepped
    · rename_i read chain here
      cases stepped
      obtain ⟨fresh, capped⟩ := undisturbed read chain here
      have informed := sound.informed process
      rw [here] at informed
      obtain ⟨written, kept⟩ := sound.rewrite fresh capped informed
      exact ⟨written.goto (fun _ => nofun) trivial, kept.trans (Keeps.of_files rfl)⟩
    · contradiction
  | lock process chainId request =>
    simp only [ChainStore.step] at stepped
    split at stepped
    · rename_i free
      cases stepped
      exact ⟨sound.lock free, Keeps.of_files rfl⟩
    · contradiction
  | read process =>
    simp only [ChainStore.step] at stepped
    split at stepped
    · rename_i here
      cases stepped
      refine ⟨sound.readLocked here, Keeps.of_files ?_⟩
      simp only [ChainStore.readLocked]
      split
      · rfl
      · split <;> rfl
    · contradiction
  | spend process =>
    simp only [ChainStore.step] at stepped
    split at stepped
    · rename_i here
      cases stepped
      exact sound.spendLocked here
    · contradiction
  | release process =>
    simp only [ChainStore.step] at stepped
    split at stepped
    · rename_i here
      cases stepped
      exact ⟨sound.release here, Keeps.of_files rfl⟩
    · contradiction
  | die process =>
    cases stepped
    exact ⟨sound.die, Keeps.of_files rfl⟩

/-- In a run whose writes find the budgets their processes read, the counters on
disk never decrease, never exceed their maxima, and the successful consume calls
fit in what the budget had left. -/
theorem chainBudget_kept {start middle final : ChainStore} {before after : List ChainAction}
    (resting : start.Resting)
    (reached : Run ChainStore.step Undisturbed start before middle)
    (continued : Run ChainStore.step Undisturbed middle after final) :
    middle.Keeps final ∧
      ∀ chainId chain, final.files chainId = some chain → ∀ counter,
        chain.budget.used counter ≤ chain.budget.max counter ∧
          final.spent chainId counter + usedAt start.files chainId counter ≤ chain.budget.max counter := by
  have middleSound : Sound (usedAt start.files) middle :=
    reached.invariant (fun sound met stepped => (sound.step met stepped).1) resting.sound
  have finalSound : Sound (usedAt start.files) final :=
    continued.invariant (fun sound met stepped => (sound.step met stepped).1) middleSound
  refine ⟨continued.relates Keeps.refl Keeps.trans
    (fun sound met stepped => sound.step met stepped) middleSound, ?_⟩
  intro chainId chain found counter
  have within := finalSound.accounts.within chainId chain found counter
  have recorded := finalSound.accounts.recorded chainId counter
  rw [usedAt_file found] at recorded
  exact ⟨within, recorded.trans within⟩

end

def sampleChain : RepairChain where
  chainId := js "ck-chain-1"
  repo := js "owner/repo"
  prUrl := js "https://host/pull/1"
  goalFingerprint := List.replicate 64 0x61
  parentRunIds := [js "ck-repair-1"]
  budget := .newRepairBudget 0
  casVersion := 0
  supersededBy := none

def sampleStore : ChainStore where
  files chainId := if chainId = js "ck-chain-1" then some sampleChain else none
  lock _ := none
  phase _ := .idle
  spent _ _ := 0

@[reducible] def digestLess : Digest := ⟨id⟩

def sampleInput : LoadInput where
  repo := js "owner/repo"
  prUrl := js "https://host/pull/1"
  goalFingerprint := List.replicate 64 0x61
  parentRunId := js "ck-repair-2"

def consumeActions : List ChainAction :=
  [.lock 0 (js "ck-chain-1") (.sourceFix 0), .read 0, .spend 0, .release 0]

theorem sampleStore_resting : sampleStore.Resting := by
  have only : ∀ chainId chain, sampleStore.files chainId = some chain →
      chainId = js "ck-chain-1" ∧ chain = sampleChain := by
    intro chainId chain found
    simp only [sampleStore] at found
    split at found
    · rename_i here
      exact ⟨here, (some.inj found).symm⟩
    · contradiction
  refine ⟨fun chainId chain found => ?_, fun chainId chain found counter => ?_, fun _ => rfl,
    fun _ _ => rfl⟩
  · obtain ⟨rfl, rfl⟩ := only chainId chain found
    rfl
  · obtain ⟨rfl, rfl⟩ := only chainId chain found
    rcases counter with _ | kind
    · decide
    · cases kind <;> decide

theorem chainBudget_kept_consume :
    ∃ final, execute (@ChainStore.step .ascii digestLess) sampleStore consumeActions = some final ∧
      sampleStore.Keeps final ∧
      ∀ chainId chain, final.files chainId = some chain → ∀ counter,
        chain.budget.used counter ≤ chain.budget.max counter ∧
          final.spent chainId counter + usedAt sampleStore.files chainId counter ≤
            chain.budget.max counter := by
  have enabled : (execute (@ChainStore.step .ascii digestLess) sampleStore
      consumeActions).isSome = true := by decide
  obtain ⟨final, ended⟩ := isSome_iff_exists.mp enabled
  have run : Run (@ChainStore.step .ascii digestLess) Undisturbed sampleStore consumeActions final := by
    refine execute_run ended fun state action member => ?_
    simp only [consumeActions, List.mem_cons, List.not_mem_nil, or_false] at member
    rcases member with rfl | rfl | rfl | rfl <;> trivial
  exact ⟨final, ended, @chainBudget_kept .ascii digestLess _ _ _ _ _ sampleStore_resting (.done _) run⟩

/-- A run that loaded the chain before a fix was consumed writes it back as it was. -/
def staleLoad : List ChainAction :=
  [.load 1 sampleInput [js "ck-chain-1"], .scan 1] ++ consumeActions

theorem chainBudget_refunded :
    ∃ middle final,
      Run (@ChainStore.step .ascii digestLess) anyStep sampleStore staleLoad middle ∧
      Run (@ChainStore.step .ascii digestLess) anyStep middle [.store 1] final ∧
      usedAt middle.files (js "ck-chain-1") .sourceFix = 1 ∧
      final.spent (js "ck-chain-1") .sourceFix = 1 ∧
      usedAt final.files (js "ck-chain-1") .sourceFix = 0 := by
  have consumed : ∃ middle, execute (@ChainStore.step .ascii digestLess) sampleStore staleLoad =
      some middle ∧ usedAt middle.files (js "ck-chain-1") .sourceFix = 1 ∧
      ∃ final, execute (@ChainStore.step .ascii digestLess) middle [.store 1] = some final ∧
        final.spent (js "ck-chain-1") .sourceFix = 1 ∧
        usedAt final.files (js "ck-chain-1") .sourceFix = 0 :=
    ⟨_, rfl, by decide, _, rfl, by decide, by decide⟩
  obtain ⟨middle, toMiddle, spent, final, toFinal, kept, refunded⟩ := consumed
  exact ⟨middle, final, execute_run toMiddle fun _ _ _ => trivial,
    execute_run toFinal fun _ _ _ => trivial, spent, kept, refunded⟩

end ChainStore

end CouncilKit.Repair
