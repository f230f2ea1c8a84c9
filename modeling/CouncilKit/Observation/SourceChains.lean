import CouncilKit.Data.Transition
import CouncilKit.Observation.SourcePages

namespace CouncilKit.Observation

open Data List Sealed Nat

/-- The source and what a client has read of it: the earlier pages, the last one
read first, and the forward pages. -/
structure Chain where
  file : Bytes
  generation : JsString
  next : Nat
  /-- The last forward read was exhausted, or held back an incomplete tail. -/
  drained : Bool
  earlier : Option Nat
  before : List (List RawSourceRecord)
  after : List (List RawSourceRecord)

def Chain.pages (chain : Chain) : List (List RawSourceRecord) := chain.before ++ chain.after

inductive ChainAction where
  | grow (more : Bytes)
  | forward (limit : Nat) (receivedAt : JsString)
  | earlier (limit : Nat) (receivedAt : JsString)

def ChainAction.isEarlier : ChainAction → Bool
  | .earlier _ _ => true
  | _ => false

def ChainAction.isForward : ChainAction → Bool
  | .forward _ _ => true
  | _ => false

def Chain.opened (file : Bytes) (read : SourceReadResult) : Chain where
  file
  generation := read.generation
  next := read.nextOffset
  drained := read.exhausted || read.incompleteTail
  earlier := read.earlierOffset
  before := []
  after := [read.records]

section

variable [Unicode] [SourceText] [Digest] (source : SourceMeta) (ino : Nat)

def Chain.cold (file : Bytes) (limit : Nat) (receivedAt : JsString) : Chain :=
  .opened file (readSourceWindow source receivedAt (some ⟨ino, file, none⟩) ⟨none, none⟩ limit .forward)

def Chain.step (chain : Chain) : ChainAction → Option Chain
  | .grow more =>
    some { chain with file := chain.file ++ more, drained := chain.drained && more.isEmpty }
  | .forward limit receivedAt =>
    if limit = 0 then none
    else
      let read := readSourceWindow source receivedAt (some ⟨ino, chain.file, none⟩)
        ⟨some chain.generation, some chain.next⟩ limit .forward
      some { chain with
        generation := read.generation
        next := read.nextOffset
        drained := read.exhausted || read.incompleteTail
        after := chain.after ++ [read.records] }
  | .earlier limit receivedAt =>
    match chain.earlier with
    | none => none
    | some offset =>
      if limit = 0 then none
      else
        let read := readSourceWindow source receivedAt (some ⟨ino, chain.file, none⟩)
          ⟨some chain.generation, some offset⟩ limit .earlier
        some { chain with
          earlier := read.earlierOffset
          before := read.records :: chain.before }

variable {source ino} {cold file : Bytes} {first chain next : Chain}

/-- A line that the cold read leaves to nobody: it lies over the place where the
read opened the file, and no record follows there. -/
structure Lost (source : SourceMeta) (cold file : Bytes) (start stop : Nat) : Prop where
  line : IsLine NEWLINE file start stop
  given : ∃ record, Gives source record start (slice file start stop)
  inner : 0 < coldStart cold
  opened : start ≤ coldStart cold
  upTo : coldStart cold ≤ stop
  edge : start = coldStart cold → stop < cold.length
  silent : ∀ start stop, IsLine NEWLINE cold start stop → coldStart cold < start →
    ¬ ∃ record, Gives source record start (slice cold start stop)

/-- The pages are what lies between the ends of the two chains. -/
structure Covered (source : SourceMeta) (file : Bytes) (chain : Chain) : Prop where
  page : Page source file (chain.earlier.getD 0) chain.next chain.pages.flatten
  early : SeamFree (Gives source) NEWLINE file 0 (chain.earlier.getD 0)
  late : SeamFree (Gives source) NEWLINE file 0 chain.next
  order : chain.earlier.getD 0 ≤ chain.next

structure Kept (source : SourceMeta) (ino : Nat) (cold : Bytes) (first chain : Chain) : Prop where
  grown : ∃ more, chain.file = cold ++ more
  generation : chain.generation = fingerprintSource ino
  upTo : chain.next ≤ chain.file.length
  from_ : first.next ≤ chain.next
  earlier : ∀ offset, chain.earlier = some offset → 0 < offset ∧ offset ≤ chain.file.length ∧
    offset ≤ first.earlier.getD 0
  drained : chain.drained = true → Clear NEWLINE chain.file chain.next chain.file.length
  ordered : ∀ page ∈ chain.pages, page.Pairwise fun left right => left.byteOffset < right.byteOffset
  old : ∀ record ∈ chain.before.flatten, ∃ stop < first.earlier.getD 0,
    EndsLine NEWLINE chain.file record.byteOffset stop
  new : ∀ record ∈ chain.after.flatten, record ∈ first.after.flatten ∨ first.next ≤ record.byteOffset
  covered : ∀ more, (∀ start stop, ¬ Lost source cold (chain.file ++ more) start stop) →
    Covered source (chain.file ++ more) chain

theorem read_generation {origin : ReadFrom} {limit : Nat} {direction : Direction}
    {receivedAt : JsString} : (readSourceWindow source receivedAt (some ⟨ino, file, none⟩) origin
      limit direction).generation = fingerprintSource ino := by
  cases direction with
  | forward => rfl
  | earlier => rfl

variable {more : Bytes}

omit [Digest] in
theorem lost_over {start stop : Nat} (inner : 0 < coldStart cold)
    (silent : ∀ start stop, IsLine NEWLINE cold start stop → coldStart cold < start →
      ¬ ∃ record, Gives source record start (slice cold start stop))
    (clean : ∀ start stop, ¬ Lost source cold (cold ++ more) start stop)
    (line : IsLine NEWLINE (cold ++ more) start stop) (opened : start ≤ coldStart cold)
    (upTo : coldStart cold ≤ stop) (edge : start = coldStart cold → stop < cold.length) :
    ¬ ∃ record, Gives source record start (slice (cold ++ more) start stop) := by
  intro given
  exact clean start stop ⟨line, given, inner, opened, upTo, edge, silent⟩

variable {read : SourceReadResult}

omit [Digest] in
theorem Covered.init
    (opened : Opened source cold (coldStart cold) read) (upTo : read.nextOffset ≤ cold.length)
    (clean : ∀ start stop, ¬ Lost source cold (cold ++ more) start stop) :
    Covered source (cold ++ more) (.opened cold read) := by
  have tail : coldStart cold ≤ cold.length := sub_le _ _
  have flat : (Chain.opened cold read).pages.flatten = read.records := append_nil _
  have earlier : (Chain.opened cold read).earlier = read.earlierOffset := rfl
  have next : (Chain.opened cold read).next = read.nextOffset := rfl
  cases opened with
  | whole zero none_ page opens =>
    constructor
    · rw [earlier, none_, flat, next]
      exact page.grow upTo
    · rw [earlier, none_]
      exact SeamFree.self
    · rw [next]
      exact free ⟨upTo, .inl opens⟩
    · rw [earlier, none_]
      exact zero_le _
  | tail offset late some_ first order given page opens =>
    constructor
    · rw [earlier, some_, flat, next]
      exact page.grow upTo
    · rw [earlier, some_]
      exact free ⟨le_trans order upTo, .inl first⟩
    · rw [next]
      exact free ⟨upTo, .inl opens⟩
    · rw [earlier, some_, next]
      exact order
  | silent inner some_ records stop ends order page opens clear =>
    have quiet : ∀ start stop, IsLine NEWLINE cold start stop → coldStart cold < start →
        ¬ ∃ record, Gives source record start (slice cold start stop) := by
      intro start last line later given
      have begun := line.order
      have after : stop < start := by
        by_contra early
        exact ends.clear (start - 1) (by omega) (by omega) (line.opens (start - 1) (by omega))
      have inside : last < read.nextOffset := by
        by_contra beyond
        exact clear last (by omega) line.inside line.closes
      obtain ⟨record, member, -⟩ := page.all start last line (by omega) inside given
      cases member
    have reached {start last : Nat} := @lost_over _ _ source cold more start last inner quiet clean
    have order' := ends.order
    constructor
    · rw [earlier, some_, flat, next, records, Option.getD_some]
      apply Delivers.grow _ upTo
      apply page.lower (by omega)
      intro start last line above below _ given
      have within : last ≤ stop := line.not_across ends.closes (by omega)
      obtain ⟨same, ended⟩ := line.first ends above within
      have inside := line.inside
      apply reached line.grow (by omega) (by omega) (fun _ => inside)
      rw [slice_grow (by omega)]
      exact given
    · rw [earlier, some_, Option.getD_some]
      intro start last line _ before beyond
      exact reached line (by omega) beyond (by omega)
    · rw [next]
      exact free ⟨upTo, .inl opens⟩
    · rw [earlier, some_, next, Option.getD_some]
      omega
  | inside inner some_ records at_ clear =>
    have quiet : ∀ start stop, IsLine NEWLINE cold start stop → coldStart cold < start →
        ¬ ∃ record, Gives source record start (slice cold start stop) := by
      intro start last line later _
      have begun := line.order
      exact clear last (by omega) line.inside line.closes
    have free : SeamFree (Gives source) NEWLINE (cold ++ more) 0 (coldStart cold) := by
      intro start last line _ before beyond
      exact lost_over inner quiet clean line (by omega) beyond (by omega)
    constructor
    · rw [earlier, some_, flat, next, at_, records, Option.getD_some]
      apply Delivers.nil
      intro place above below
      omega
    · rw [earlier, some_, Option.getD_some]
      exact free
    · rw [next, at_]
      exact free
    · rw [earlier, some_, next, at_, Option.getD_some]

theorem Kept.init {result : SourceReadResult}
    (read : ColdRead source cold (coldStart cold) result)
    (generation : result.generation = fingerprintSource ino) :
    Kept source ino cold (.opened cold result) (.opened cold result) := by
  have tail : coldStart cold ≤ cold.length := sub_le _ _
  refine ⟨⟨[], (append_nil _).symm⟩, generation, read.upTo, le_refl _, ?_, read.done,
    ?_, forall_mem_nil _, fun record member => .inl member, ?_⟩
  · intro offset same
    change result.earlierOffset = some offset at same
    have held : (Chain.opened cold result).earlier.getD 0 = offset := by
      rw [show (Chain.opened cold result).earlier = some offset from same, Option.getD_some]
    refine ⟨?_, ?_, le_of_eq held.symm⟩
    · cases read.opened with
      | whole zero none_ => cases none_.symm.trans same
      | tail other late some_ =>
        cases some_.symm.trans same
        omega
      | silent inner some_ =>
        cases some_.symm.trans same
        exact inner
      | inside inner some_ =>
        cases some_.symm.trans same
        exact inner
    · have upTo := read.upTo
      cases read.opened with
      | whole zero none_ => cases none_.symm.trans same
      | tail other late some_ first order =>
        cases some_.symm.trans same
        exact le_trans order upTo
      | silent inner some_ =>
        cases some_.symm.trans same
        exact tail
      | inside inner some_ =>
        cases some_.symm.trans same
        exact tail
  · intro page member
    cases mem_singleton.mp member
    cases read.opened with
    | whole _ _ page _ => exact page.ordered
    | tail _ _ _ _ _ _ page _ => exact page.ordered
    | silent _ _ records _ _ _ _ _ _ =>
      rw [records]
      exact List.Pairwise.nil
    | inside _ _ records _ _ =>
      rw [records]
      exact List.Pairwise.nil
  · intro more clean
    exact Covered.init read.opened read.upTo clean

theorem step_grow (kept : Kept source ino cold first chain) :
    Kept source ino cold first
      { chain with file := chain.file ++ more, drained := chain.drained && more.isEmpty } := by
  obtain ⟨grown, whole⟩ := kept.grown
  have upTo := kept.upTo
  refine ⟨⟨grown ++ more, ?_⟩, kept.generation, ?_, kept.from_, ?_, ?_, kept.ordered, ?_, kept.new, ?_⟩
  · rw [whole, append_assoc]
  · change chain.next ≤ (chain.file ++ more).length
    rw [length_append]
    omega
  · intro offset same
    obtain ⟨positive, inside, below⟩ := kept.earlier offset same
    refine ⟨positive, ?_, below⟩
    change offset ≤ (chain.file ++ more).length
    rw [length_append]
    omega
  · intro done
    obtain ⟨drained, empty⟩ := Bool.and_eq_true_iff.mp done
    change Clear NEWLINE (chain.file ++ more) chain.next (chain.file ++ more).length
    rw [isEmpty_iff.mp empty, append_nil]
    exact kept.drained drained
  · intro record member
    obtain ⟨stop, below, ends⟩ := kept.old record member
    exact ⟨stop, below, ends.grow⟩
  · intro rest clean
    change ∀ start stop, ¬ Lost source cold (chain.file ++ more ++ rest) start stop at clean
    rw [append_assoc] at clean
    have covered := kept.covered (more ++ rest) clean
    rw [← append_assoc] at covered
    exact ⟨covered.page, covered.early, covered.late, covered.order⟩

def Chain.forward (chain : Chain) (read : SourceReadResult) : Chain :=
  { chain with
    generation := read.generation
    next := read.nextOffset
    drained := read.exhausted || read.incompleteTail
    after := chain.after ++ [read.records] }

theorem step_forward (kept : Kept source ino cold first chain)
    (stopped : Stopped source chain.file chain.next read)
    (generation : read.generation = fingerprintSource ino) :
    Kept source ino cold first (chain.forward read) := by
  have from_ := kept.from_
  have order := stopped.order
  have flat : (chain.forward read).pages.flatten = chain.pages.flatten ++ read.records := by
    simp [Chain.pages, Chain.forward]
  refine ⟨kept.grown, generation, stopped.upTo, le_trans from_ order, kept.earlier,
    stopped.done, ?_, kept.old, ?_, ?_⟩
  · intro page member
    have either : page ∈ chain.pages ∨ page = read.records := by
      simpa [Chain.pages, Chain.forward, or_assoc] using member
    rcases either with old | new
    · exact kept.ordered page old
    · rw [new]
      exact stopped.page.ordered
  · intro record member
    have either : record ∈ chain.after.flatten ∨ record ∈ read.records := by
      simpa [Chain.forward] using member
    rcases either with old | new
    · exact kept.new record old
    · right
      have above := (stopped.page.real record new).1
      omega
  · intro more clean
    have covered := kept.covered more clean
    have early := covered.order
    constructor
    · rw [flat]
      exact covered.page.append (stopped.page.grow stopped.upTo)
        (covered.late.above (zero_le _)) early order
    · exact covered.early
    · change SeamFree _ _ _ _ read.nextOffset
      by_cases still : read.nextOffset = chain.next
      · rw [still]
        exact covered.late
      · apply free ⟨stopped.upTo, .inl _⟩
        intro before here
        exact stopped.seam before (by omega) here
    · exact le_trans early order

def Chain.earlierPage (chain : Chain) (read : SourceReadResult) : Chain :=
  { chain with earlier := read.earlierOffset, before := read.records :: chain.before }

theorem step_earlier {offset : Nat}
    (kept : Kept source ino cold first chain) (some_ : chain.earlier = some offset) (window : EarlierRead source chain.file offset read) :
    Kept source ino cold first (chain.earlierPage read) := by
  obtain ⟨positive, inside, below⟩ := kept.earlier offset some_
  have flat : (chain.earlierPage read).pages.flatten = read.records ++ chain.pages.flatten := rfl
  have least : read.earlierOffset.getD 0 ≤ offset := by
    cases earlier : read.earlierOffset with
    | none => exact zero_le _
    | some other => exact le_of_lt (window.before other earlier).2
  refine ⟨kept.grown, kept.generation, kept.upTo, kept.from_, ?_, kept.drained, ?_, ?_, kept.new, ?_⟩
  · intro other same
    obtain ⟨inner, before⟩ := window.before other same
    exact ⟨inner, by change other ≤ chain.file.length; omega, by omega⟩
  · intro page member
    rcases mem_cons.mp member with new | old
    · rw [new]
      exact window.page.ordered
    · exact kept.ordered page old
  · intro record member
    rcases mem_append.mp member with new | old
    · obtain ⟨-, stop, before, ends, -⟩ := window.page.real record new
      exact ⟨stop, by omega, ends⟩
    · exact kept.old record old
  · intro more clean
    have covered := kept.covered more clean
    have page := covered.page
    have early := covered.early
    have order := covered.order
    rw [some_, Option.getD_some] at page early order
    constructor
    · rw [flat]
      exact (window.page.grow inside).append page (early.above (zero_le _)) least order
    · exact free window.sealed_
    · exact covered.late
    · exact le_trans least order

theorem Kept.step {action : ChainAction} (kept : Kept source ino cold first chain)
    (stepped : Chain.step source ino chain action = some next) :
    Kept source ino cold first next := by
  have generation := kept.generation
  cases action with
  | grow more =>
    cases stepped
    exact step_grow kept
  | forward limit receivedAt =>
    rw [Chain.step] at stepped
    split at stepped
    · cases stepped
    rename_i positive
    cases stepped
    rw [generation]
    exact step_forward kept (forward_read (by omega) kept.upTo) read_generation
  | earlier limit receivedAt =>
    rw [Chain.step] at stepped
    split at stepped
    · cases stepped
    rename_i offset some_
    split at stepped
    · cases stepped
    rename_i positive
    cases stepped
    obtain ⟨inner, inside, -⟩ := kept.earlier offset some_
    exact step_earlier kept some_ (earlier_read inner inside (by omega))

theorem kept_cold {limit : Nat} {receivedAt : JsString} (positive : 1 ≤ limit) :
    Kept source ino cold (.cold source ino cold limit receivedAt)
      (.cold source ino cold limit receivedAt) :=
  Kept.init (cold_read positive) read_generation

variable {meets : Chain → ChainAction → Prop} {actions : List ChainAction}

section

variable (kept : Kept source ino cold first chain)

include kept

theorem Kept.run (run : Run (Chain.step source ino) meets chain actions next) :
    Kept source ino cold first next :=
  run.invariant (fun held _ stepped => held.step stepped) kept

theorem step_earlier_below {action : ChainAction}
    (stepped : Chain.step source ino chain action = some next) :
    next.earlier.getD 0 + (if action.isEarlier then 1 else 0) ≤ chain.earlier.getD 0 := by
  cases action with
  | grow more =>
    cases stepped
    exact le_refl _
  | forward limit receivedAt =>
    rw [Chain.step] at stepped
    split at stepped
    · cases stepped
    cases stepped
    exact le_refl _
  | earlier limit receivedAt =>
    rw [Chain.step] at stepped
    split at stepped
    · cases stepped
    rename_i offset some_
    split at stepped
    · cases stepped
    rename_i positive
    cases stepped
    obtain ⟨inner, inside, -⟩ := kept.earlier offset some_
    have window := @earlier_read _ _ source receivedAt chain.file offset _ ino limit
      (some chain.generation) inner inside (by omega)
    rw [some_, Option.getD_some]
    change _ + 1 ≤ offset
    dsimp only
    cases earlier : (readSourceWindow source receivedAt (some ⟨ino, chain.file, none⟩)
        ⟨some chain.generation, some offset⟩ limit .earlier).earlierOffset with
    | none =>
      rw [Option.getD_none]
      omega
    | some other => exact (window.before other earlier).2

theorem earlier_ends (run : Run (Chain.step source ino) meets chain actions next) :
    next.earlier.getD 0 + actions.countP (·.isEarlier) ≤ chain.earlier.getD 0 := by
  induction run with
  | done => exact le_refl _
  | next met stepped remaining ih =>
    have here := step_earlier_below kept stepped
    have later := ih (kept.step stepped)
    rw [countP_cons]
    omega

theorem forward_ends {reads : List ChainAction}
    (run : Run (Chain.step source ino) (fun chain action => chain.drained = false ∧ action.isForward = true) chain reads next) :
    reads.length ≤ chain.file.length - chain.next + 1 := by
  induction run with
  | done => exact zero_le _
  | next met stepped remaining ih =>
    rename_i chain middle final action rest
    have later := ih (kept.step stepped)
    cases action with
    | grow more => cases met.2
    | earlier limit receivedAt => cases met.2
    | forward limit receivedAt =>
      rw [Chain.step] at stepped
      split at stepped
      · cases stepped
      rename_i positive
      have stopped := @forward_read _ _ source receivedAt chain.file _ ino limit chain.next
        (by omega) kept.upTo
      rw [kept.generation] at stepped
      cases stepped
      cases remaining with
      | done =>
        rw [length_singleton]
        omega
      | next again _ _ =>
        have moved := stopped.more again.1
        have inside := stopped.upTo
        dsimp only at later
        rw [length_cons] at later ⊢
        rw [length_cons]
        omega

end

def Chain.Delivered (source : SourceMeta) (chain : Chain) (start stop : Nat) : Prop :=
  ∃ record, Gives source record start (slice chain.file start stop) ∧
    chain.pages.flatten.filter (fun record => record.byteOffset = start) = [record]

theorem delivered_of_clean {start stop : Nat} (kept : Kept source ino cold first chain)
    (clean : ∀ start stop, ¬ Lost source cold chain.file start stop)
    (earlier : chain.earlier = none) (drained : chain.drained = true)
    (line : IsLine NEWLINE chain.file start stop)
    (given : ∃ record, Gives source record start (slice chain.file start stop)) :
    chain.Delivered source start stop := by
  have covered := kept.covered [] (by rwa [append_nil])
  have page := covered.page
  rw [append_nil, earlier, Option.getD_none] at page
  have inside : stop < chain.next := by
    by_contra beyond
    exact kept.drained drained stop (by omega) line.inside line.closes
  exact page.once (fun _ _ _ gives => gives.placed) line (zero_le _) inside given

theorem lost_not_delivered {start stop : Nat} (kept : Kept source ino cold (.opened cold read) chain)
    (opened : Opened source cold (coldStart cold) read)
    (lost : Lost source cold chain.file start stop) : ¬ chain.Delivered source start stop := by
  intro delivered
  obtain ⟨record, gives, found⟩ := delivered
  obtain ⟨member, here⟩ := mem_filter.mp (found ▸ mem_singleton_self record)
  rw [decide_eq_true_eq] at here
  have opens := lost.opened
  have upTo := lost.upTo
  have inBefore (offset : Nat) (earlier : read.earlierOffset = some offset)
      (below : offset ≤ coldStart cold) (old : record ∈ chain.before.flatten) : False := by
    obtain ⟨last, early, ends⟩ := kept.old record old
    rw [show (Chain.opened cold read).earlier = some offset from earlier, Option.getD_some] at early
    have same := ends.unique (here ▸ lost.line.toEndsLine)
    omega
  have inAfter (none_ : read.records = []) (new : record ∈ chain.after.flatten) :
      read.nextOffset ≤ start := by
    rcases kept.new record new with cold_ | later
    · have empty : (Chain.opened cold read).after.flatten = [] := by simp [Chain.opened, none_]
      rw [empty] at cold_
      cases cold_
    · exact here ▸ later
  rw [Chain.pages, flatten_append] at member
  cases opened with
  | whole zero =>
    have inner := lost.inner
    omega
  | tail offset late _ first _ given =>
    obtain ⟨last, other, ends, gives⟩ := given
    exact lost.silent offset last ⟨ends, first⟩ late ⟨other, gives⟩
  | silent inner earlier none_ last ends order =>
    have begun := ends.order
    rcases mem_append.mp member with old | new
    · exact inBefore _ earlier (le_refl _) old
    · have above := inAfter none_ new
      omega
  | inside inner earlier none_ next clear =>
    rcases mem_append.mp member with old | new
    · exact inBefore _ earlier (le_refl _) old
    · have above := inAfter none_ new
      have edge : start = coldStart cold := by omega
      have within := lost.edge edge
      obtain ⟨more, whole⟩ := kept.grown
      have closes := lost.line.closes
      rw [whole, getElem?_grow within] at closes
      exact clear stop upTo within closes

/-- In every run of reads of a source that only grows, once both chains have come
to their end every complete line that gives a record is in exactly one page, just
when no such line lies over a cold start with no record behind it.  A page is in
the order of the file, and both chains come to their end. -/
theorem chains_deliver {limit : Nat} {receivedAt : JsString} {actions : List ChainAction}
    (positive : 1 ≤ limit)
    (run : Run (Chain.step source ino) anyStep (.cold source ino cold limit receivedAt) actions chain) :
    (chain.earlier = none → chain.drained = true →
      ((∀ start stop, IsLine NEWLINE chain.file start stop →
        (∃ record, Gives source record start (slice chain.file start stop)) →
        chain.Delivered source start stop) ↔
      ∀ start stop, ¬ Lost source cold chain.file start stop)) ∧
    (∀ page ∈ chain.pages, page.Pairwise fun left right => left.byteOffset < right.byteOffset) ∧
    actions.countP (·.isEarlier) ≤ cold.length ∧
    ∀ reads final, Run (Chain.step source ino)
      (fun chain action => chain.drained = false ∧ action.isForward = true) chain reads final →
      reads.length ≤ chain.file.length - chain.next + 1 := by
  have base := @kept_cold _ _ _ source ino cold limit receivedAt positive
  have kept := base.run run
  refine ⟨?_, kept.ordered, ?_, fun reads final more => forward_ends kept more⟩
  · intro earlier drained
    constructor
    · intro all start stop lost
      exact lost_not_delivered kept (cold_read positive).opened lost (all start stop lost.line lost.given)
    · intro clean start stop line given
      exact delivered_of_clean kept clean earlier drained line given
  · have below := earlier_ends base run
    cases earlier : (Chain.cold source ino cold limit receivedAt).earlier with
    | none =>
      rw [earlier, Option.getD_none] at below
      omega
    | some offset =>
      have inside := (base.earlier offset earlier).2.1
      rw [earlier, Option.getD_some] at below
      change offset ≤ cold.length at inside
      omega

end

def eventText : JsString := js "\x7b\"type\":\"text\",\"text\":\"a\"\x7d"

def eventLine : Bytes := eventText.map (·.toNat.toUInt8)

@[reducible] def asciiText : SourceText where
  decode := List.map (·.toNat.toUInt16)
  parse text := if text = eventText then
      some (.object [(js "type", .string (js "text")), (js "text", .string (js "a"))])
    else none
  redactObservationText text := text

@[reducible] def constantDigest : Digest := ⟨fun _ => js "digest"⟩

def sampleSource : SourceMeta := ⟨js "source", js "execution", 1, js "reviewer"⟩

theorem eventLine_gives :
    (@lineRecord .ascii asciiText sampleSource (js "t") 0 eventLine).isSome = true := by
  decide +kernel

theorem blank_gives_nothing {record : RawSourceRecord} {start : Nat} :
    ¬ @Gives .ascii asciiText sampleSource record start [] := by
  intro given
  obtain ⟨time, read⟩ := given
  cases read

/-- One event and as many blank lines as fill a cold read from its second byte on. -/
def blankTail : Bytes :=
  eventLine ++ List.replicate (1 + INITIAL_TAIL_BYTES - eventLine.length) NEWLINE

theorem eventLine_length : eventLine.length = 26 := by decide +kernel

theorem tail_large : eventLine.length ≤ INITIAL_TAIL_BYTES := by
  rw [eventLine_length, INITIAL_TAIL_BYTES]
  omega

theorem coldStart_blankTail : coldStart blankTail = 1 ∧ blankTail.length = 1 + INITIAL_TAIL_BYTES := by
  have large := tail_large
  have size : blankTail.length = 1 + INITIAL_TAIL_BYTES := by
    rw [blankTail, length_append, length_replicate]
    omega
  refine ⟨?_, size⟩
  rw [coldStart, size]
  omega

theorem blank_at {place : Nat} (above : eventLine.length ≤ place) (below : place < blankTail.length) :
    blankTail[place]? = some NEWLINE := by
  rw [blankTail, length_append, length_replicate] at below
  rw [blankTail, List.getElem?_append_right above, List.getElem?_replicate, if_pos (by omega)]

theorem eventLine_is : IsLine NEWLINE blankTail 0 eventLine.length := by
  have size := coldStart_blankTail.2
  have large := tail_large
  refine ⟨⟨zero_le _, ?_, blank_at (le_refl _) (by omega)⟩, ?_⟩
  · intro place _ below marked
    rw [blankTail, getElem?_grow below] at marked
    have absent : NEWLINE ∉ eventLine := by decide +kernel
    exact absent (mem_of_getElem? marked)
  · intro place here
    omega

theorem eventLine_lost : @Lost .ascii asciiText sampleSource blankTail blankTail 0 eventLine.length := by
  let _ := Unicode.ascii
  let _ := asciiText
  obtain ⟨start, size⟩ := coldStart_blankTail
  have large := tail_large
  have length_ := eventLine_length
  have event : slice blankTail 0 eventLine.length = eventLine := by
    rw [slice, blankTail, drop_zero, Nat.sub_zero, take_left]
  refine ⟨eventLine_is, ?_, ?_, ?_, ?_, ?_, ?_⟩
  · obtain ⟨record, read⟩ := Option.isSome_iff_exists.mp eventLine_gives
    exact ⟨record, js "t", event ▸ read⟩
  · omega
  · omega
  · omega
  · omega
  · -- Every later line is blank.
    intro first last line later given
    have order := line.order
    have inside := line.inside
    have opened : eventLine.length ≤ first - 1 := by
      by_contra early
      have upTo := line.opens (first - 1) (by omega)
      exact eventLine_is.clear (first - 1) (zero_le _) (by omega) upTo
    have empty : first = last := by
      by_contra apart
      exact line.clear first (le_refl _) (by omega) (blank_at (by omega) (by omega))
    obtain ⟨record, gives⟩ := given
    rw [← empty, slice, Nat.sub_self, take_zero] at gives
    exact blank_gives_nothing gives

theorem lost_quiet [Unicode] [SourceText] {source : SourceMeta} {cold file : Bytes}
    {start stop : Nat} {read : SourceReadResult} (lost : Lost source cold file start stop)
    (opens : ColdRead source cold (coldStart cold) read) :
    read.earlierOffset = some (coldStart cold) ∧ (read.exhausted || read.incompleteTail) = true := by
  cases opens.opened with
  | whole zero =>
    have inner := lost.inner
    omega
  | tail offset late _ first _ given =>
    obtain ⟨last, record, ends, gives⟩ := given
    exact absurd ⟨record, gives⟩ (lost.silent offset last ⟨ends, first⟩ late)
  | silent _ earlier none_ => exact ⟨earlier, opens.quiet none_⟩
  | inside _ earlier none_ => exact ⟨earlier, opens.quiet none_⟩

/-- After the cold read and one earlier read both chains have ended. -/
theorem event_not_delivered :
    letI := Unicode.ascii
    letI := asciiText
    letI := constantDigest
    ∃ actions chain, Run (Chain.step sampleSource 1) anyStep
        (.cold sampleSource 1 blankTail 200 (js "t")) actions chain ∧
      chain.earlier = none ∧ chain.drained = true ∧
      IsLine NEWLINE chain.file 0 eventLine.length ∧
      (∃ record, Gives sampleSource record 0 (slice chain.file 0 eventLine.length)) ∧
      ¬ chain.Delivered sampleSource 0 eventLine.length := by
  let _ := Unicode.ascii
  let _ := asciiText
  let _ := constantDigest
  have opens := @cold_read _ _ sampleSource (js "t") blankTail _ 1 200 (by decide)
  have base := Kept.init opens (@read_generation _ _ _ sampleSource 1 blankTail _ _ _ _)
  rw [Chain.cold]
  revert opens base
  generalize readSourceWindow sampleSource (js "t") (some ⟨1, blankTail, none⟩) ⟨none, none⟩ 200
    .forward = read
  intro opens base
  obtain ⟨earlier, done⟩ := lost_quiet eventLine_lost opens
  rw [coldStart_blankTail.1] at earlier
  have inside : 1 ≤ blankTail.length := by
    rw [coldStart_blankTail.2]
    omega
  have window := @earlier_read _ _ sampleSource (js "t") blankTail 1 _ 1 1
    (some read.generation) (by decide) inside (by decide)
  have kept := step_earlier base earlier window
  refine ⟨[.earlier 1 (js "t")], _, .next trivial ?_ (.done _), ?_, done, eventLine_is,
    eventLine_lost.given, lost_not_delivered kept opens.opened eventLine_lost⟩
  · rw [Chain.step, show (Chain.opened blankTail read).earlier = some 1 from earlier]
    rfl
  · cases left : (readSourceWindow sampleSource (js "t") (some ⟨1, blankTail, none⟩)
        ⟨some read.generation, some 1⟩ 1 .earlier).earlierOffset with
    | none => exact left
    | some other =>
      have between := window.before other left
      omega
/-- An event that is appended to an empty file is delivered. -/
theorem event_delivered :
    letI := Unicode.ascii
    letI := asciiText
    letI := constantDigest
    ∃ chain, Run (Chain.step sampleSource 1) anyStep (.cold sampleSource 1 [] 200 (js "t"))
        [.grow (eventLine ++ [NEWLINE]), .forward 200 (js "t")] chain ∧
      chain.earlier = none ∧ chain.drained = true ∧
      chain.Delivered sampleSource 0 eventLine.length := by
  let _ := Unicode.ascii
  let _ := asciiText
  let _ := constantDigest
  have ended : (execute (Chain.step sampleSource 1) (.cold sampleSource 1 [] 200 (js "t"))
      [.grow (eventLine ++ [NEWLINE]), .forward 200 (js "t")]).map
        (fun chain => (chain.earlier, chain.drained, chain.file)) =
      some (none, true, eventLine ++ [NEWLINE]) := by decide +kernel
  obtain ⟨chain, ran, found⟩ := Option.map_eq_some_iff.mp ended
  obtain ⟨earlier, rest⟩ := Prod.mk.inj found
  obtain ⟨drained, file⟩ := Prod.mk.inj rest
  have run := execute_run ran fun _ _ _ => trivial
  have line : IsLine NEWLINE chain.file 0 eventLine.length := by
    have whole := @IsLine.shrink _ NEWLINE (eventLine ++ [NEWLINE])
      (List.replicate (INITIAL_TAIL_BYTES - eventLine.length) NEWLINE) 0 eventLine.length
    rw [file]
    apply whole _ (by simp)
    have tail : [NEWLINE] ++ List.replicate (INITIAL_TAIL_BYTES - eventLine.length) NEWLINE =
        List.replicate (1 + INITIAL_TAIL_BYTES - eventLine.length) NEWLINE := by
      rw [Nat.add_sub_assoc tail_large, replicate_add]
      rfl
    rw [append_assoc, tail]
    exact eventLine_is
  refine ⟨chain, run, earlier, drained, ((chains_deliver (by decide) run).1 earlier drained).mpr ?_
    0 eventLine.length line ?_⟩
  · intro start stop lost
    have inner := lost.inner
    rw [coldStart, length_nil, Nat.zero_sub] at inner
    omega
  · obtain ⟨record, read⟩ := Option.isSome_iff_exists.mp eventLine_gives
    refine ⟨record, js "t", ?_⟩
    rw [file, slice, drop_zero, Nat.sub_zero, take_left]
    exact read

end CouncilKit.Observation
