import CouncilKit.Data.JsonText
import CouncilKit.Data.Transition
import CouncilKit.Host.SessionReconciler

namespace CouncilKit.Host

open Data Json List JsString
open Discussion

/-- A member that is left out when it has no value, before the rest of the text. -/
def optionalMember (key : JsString) (value : Option JsString) (rest : JsString) : JsString :=
  match value with
  | none => rest
  | some text => js "," ++ (quote key ++ (js ":" ++ (quote text ++ rest)))

/-- What `hashItem` hashes. -/
def itemText (item : SnapshotItem) : JsString :=
  js "\x7b" ++ (quote (js "content") ++ (js ":" ++ (quote item.content ++
    (js "," ++ (quote (js "id") ++ (js ":" ++ (quote item.id ++
      optionalMember (js "participantId") item.participantId
        (js "," ++ (quote (js "role") ++ (js ":" ++ (quote item.role.text ++
          optionalMember (js "sourceExecutionId") item.sourceExecutionId (js "\x7d"))))))))))))

theorem keyOrder_iff {key other value otherValue : JsString} :
    KeyOrder (key, value) (other, otherValue) ↔ ¬ other.Before key := Iff.rfl

theorem canonicalJson_item (item : SnapshotItem) : item.json.canonicalJson = some (itemText item) := by
  have content : ¬ (js "id").Before (js "content") ∧ ¬ (js "participantId").Before (js "content") ∧
      ¬ (js "role").Before (js "content") ∧ ¬ (js "sourceExecutionId").Before (js "content") := by
    decide
  have id : ¬ (js "participantId").Before (js "id") ∧ ¬ (js "role").Before (js "id") ∧
      ¬ (js "sourceExecutionId").Before (js "id") ∧ (js "content").Before (js "id") := by decide
  have role : (js "participantId").Before (js "role") ∧ (js "content").Before (js "role") ∧
      ¬ (js "sourceExecutionId").Before (js "role") := by decide
  have participant : (js "content").Before (js "participantId") ∧
      ¬ (js "sourceExecutionId").Before (js "participantId") := by decide
  obtain ⟨_, _, participantId, _, source⟩ := item
  cases participantId <;> cases source <;>
    simp [canonicalJson, SnapshotItem.json, serialize, serializeMembers,
      MAX_DEPTH, keyOrder_iff, content, id, role, participant, join, itemText,
      optionalMember]

theorem optionalMember_inj {key : JsString} {value other : Option JsString} {rest otherRest : JsString}
    (same : optionalMember key value rest = optionalMember key other otherRest)
    (ends : ∀ text more, rest ≠ js "," ++ (quote key ++ (js ":" ++ (quote text ++ more))))
    (otherEnds : ∀ text more, otherRest ≠ js "," ++ (quote key ++ (js ":" ++ (quote text ++ more)))) :
    value = other ∧ rest = otherRest := by
  cases value with
  | none =>
    cases other with
    | none => exact ⟨rfl, same⟩
    | some text => exact absurd same (ends text otherRest)
  | some text =>
    cases other with
    | none => exact absurd same.symm (otherEnds text rest)
    | some otherText =>
      have members := (quote_append_inj (append_cancel_left same)).2
      obtain ⟨texts, rests⟩ := quote_append_inj (append_cancel_left members)
      exact ⟨congrArg some texts, rests⟩

theorem itemText_injective {item other : SnapshotItem} (same : itemText item = itemText other) :
    item = other := by
  have content := (quote_append_inj (append_cancel_left same)).2
  obtain ⟨contents, afterContent⟩ := quote_append_inj (append_cancel_left content)
  have id := (quote_append_inj (append_cancel_left afterContent)).2
  obtain ⟨ids, afterId⟩ := quote_append_inj (append_cancel_left id)
  have notParticipant (rest text more : JsString) : js "," ++ (quote (js "role") ++ rest) ≠
      js "," ++ (quote (js "participantId") ++ (js ":" ++ (quote text ++ more))) := by
    intro clash
    have keys := (quote_append_inj (append_cancel_left clash)).1
    revert keys
    decide
  obtain ⟨participants, afterParticipant⟩ := optionalMember_inj afterId
    (fun text more => notParticipant _ text more) (fun text more => notParticipant _ text more)
  have role := (quote_append_inj (append_cancel_left afterParticipant)).2
  obtain ⟨roles, afterRole⟩ := quote_append_inj (append_cancel_left role)
  have notSource (text more : JsString) : js "\x7d" ≠
      js "," ++ (quote (js "sourceExecutionId") ++ (js ":" ++ (quote text ++ more))) := by
    intro clash
    have head : (0x7D : CodeUnit) = 0x2C := (List.cons.inj clash).1
    revert head
    decide
  obtain ⟨sources, -⟩ := optionalMember_inj afterRole notSource notSource
  have sameRole : item.role = other.role := by
    revert roles
    cases item.role <;> cases other.role <;> decide
  cases item
  cases other
  simp_all

def promptHeader (snapshot : ContextSnapshot) : JsString :=
  join (js "\n")
    ([js "# Discussion context (revision " ++ ofNat snapshot.contextRevision ++ js ")"] ++
      (snapshot.topic.filter (· ≠ [])).toList.map (js "Topic: " ++ ·) ++
      (snapshot.background.filter (· ≠ [])).toList.map (js "Background:\n" ++ ·))

/-- The text of a turn, with or without the header, for some of the items. -/
def promptOf (snapshot : ContextSnapshot) (headed : Bool) (share : List SnapshotItem) : JsString :=
  join (js "\n\n") ((if headed then [promptHeader snapshot] else []) ++
    (if share = [] then [] else [renderItems share]) ++
    [js "# Instruction (" ++ snapshot.instruction.kind.text ++ js ")\n" ++ snapshot.instruction.text])

theorem renderTurn_eq (snapshot : ContextSnapshot) (fromIndex : Nat) :
    (renderTurn snapshot fromIndex).1 =
      promptOf snapshot (decide (fromIndex = 0)) (snapshot.items.drop fromIndex) := by
  by_cases start : fromIndex = 0 <;> simp [renderTurn, promptOf, promptHeader, start]

theorem join_starts (separator first : JsString) (rest : List JsString) :
    first <+: join separator (first :: rest) := by
  cases rest with
  | nil => exact prefix_refl first
  | cons second others =>
    simp only [join, append_assoc]
    exact prefix_append first _

theorem take_of_leading {text whole : JsString} {count : Nat} (starts : text <+: whole)
    (long : count ≤ text.length) : whole.take count = text.take count := by
  obtain ⟨rest, rfl⟩ := starts
  exact take_append_of_le_length long

theorem headed_ne_plain (snapshot other : ContextSnapshot) (items share : List SnapshotItem) :
    promptOf snapshot true items ≠ promptOf other false share := by
  intro same
  have heads := congrArg (List.take 3) same
  have headed : (promptOf snapshot true items).take 3 = js "# D" := by
    have starts : js "# Discussion context (revision " <+: promptOf snapshot true items := by
      have header : js "# Discussion context (revision " <+: promptHeader snapshot := by
        refine List.IsPrefix.trans ?_ (join_starts _ _ _)
        rw [append_assoc]
        exact prefix_append _ _
      exact header.trans (join_starts _ _ _)
    rw [take_of_leading starts (by decide)]
    decide
  rw [headed] at heads
  cases share with
  | nil =>
    have starts : js "# Instruction (" <+: promptOf other false [] := by
      refine List.IsPrefix.trans ?_ (join_starts _ _ _)
      rw [append_assoc, append_assoc]
      exact prefix_append _ _
    rw [take_of_leading starts (by decide)] at heads
    revert heads
    decide
  | cons item rest =>
    have starts : renderItem item <+: promptOf other false (item :: rest) :=
      (join_starts (js "\n\n") (renderItem item) (rest.map renderItem)).trans (join_starts _ _ _)
    have bracket : js "[" <+: renderItem item := by
      rw [renderItem]
      split
      · exact (by decide : js "[" <+: js "[user]\n").trans (prefix_append _ _)
      · exact (by decide : js "[" <+: js "[summary]\n").trans (prefix_append _ _)
      · rw [append_assoc, append_assoc]
        exact (by decide : js "[" <+: js "[participant ").trans (prefix_append _ _)
    have first := congrArg (List.take 1) heads
    rw [take_take, Nat.min_eq_left (by decide),
      take_of_leading (bracket.trans starts) (by decide)] at first
    revert first
    decide

/-- A turn whose prompt was sent, for the snapshot it rendered. -/
structure Turn where
  snapshot : ContextSnapshot
  prompt : JsString

/-- The records, the turn the driver runs, and the turns that were applied. -/
structure Session where
  records : SessionRecords
  pending : Option Turn
  applied : List Turn

inductive SessionAction where
  | reconcile (snapshot : ContextSnapshot) (contextWindowTokens : Option Nat)
  /-- The driver's turn ends without a `completed` event. -/
  | failed
  | recordApplied (executionId : JsString) (inputTokens : Option Nat)

/-- A participant with a running execution is busy, so no turn begins before the
last one ended. -/
def Session.step [Digest] (participantId : JsString) (epoch : Nat) (session : Session) :
    SessionAction → Option Session
  | .reconcile snapshot contextWindowTokens =>
    if session.pending.isSome then none
    else match reconcile session.records participantId snapshot epoch contextWindowTokens with
      | .ok _ prompt _ => some { session with pending := some ⟨snapshot, prompt⟩ }
      | .needs_rebase _ => some session
  | .failed => session.pending.map fun _ => { session with pending := none }
  | .recordApplied executionId inputTokens => session.pending.map fun turn =>
    { records := Host.recordApplied session.records participantId turn.snapshot executionId epoch
        inputTokens
      pending := none
      applied := session.applied ++ [turn] }

def lastItems (previous : List SnapshotItem) : List Turn → List SnapshotItem
  | [] => previous
  | last :: rest => lastItems last.snapshot.items rest

theorem lastItems_append (previous : List SnapshotItem) (turns : List Turn) (turn : Turn) :
    lastItems previous (turns ++ [turn]) = turn.snapshot.items := by
  induction turns generalizing previous with
  | nil => rfl
  | cons first rest ih => exact ih first.snapshot.items

/-- The prompts bring these items, each once and in order, and only the first of
them has the header, if any should. -/
inductive Delivers : Bool → List Turn → List SnapshotItem → Prop where
  | none {headed : Bool} : Delivers headed [] []
  | turn {headed : Bool} {turn : Turn} {rest : List Turn} {share others : List SnapshotItem}
      (prompt : turn.prompt = promptOf turn.snapshot headed share)
      (later : Delivers false rest others) : Delivers headed (turn :: rest) (share ++ others)

/-- Each prompt renders what follows the items that were applied before it. -/
inductive Continues [Digest] : List SnapshotItem → List Turn → Prop where
  | none {previous : List SnapshotItem} : Continues previous []
  | turn {previous : List SnapshotItem} {turn : Turn} {rest : List Turn}
      (grown : previous.map hashItem <+: turn.snapshot.items.map hashItem)
      (prompt : turn.prompt = (renderTurn turn.snapshot previous.length).1)
      (later : Continues turn.snapshot.items rest) : Continues previous (turn :: rest)

section Runs

variable [Digest] {participantId : JsString} {epoch : Nat} {previous : List SnapshotItem}
  {turns : List Turn} {session next : Session}

theorem hashItem_eq (item : SnapshotItem) : hashItem item = Digest.sha256 (itemText item) := by
  simp [hashItem, digestOf, canonicalJson_item]

def HashesApart (items : List SnapshotItem) : Prop :=
  ∀ item ∈ items, ∀ other ∈ items,
    Digest.sha256 (itemText item) = Digest.sha256 (itemText other) → itemText item = itemText other

theorem prefix_of_hashes {items later : List SnapshotItem} (apart : HashesApart (items ++ later))
    (grown : items.map hashItem <+: later.map hashItem) : items <+: later := by
  induction items generalizing later with
  | nil => exact nil_prefix
  | cons item rest ih =>
    cases later with
    | nil => exact absurd (prefix_nil.mp grown) (by simp)
    | cons other others =>
      rw [map_cons, map_cons, cons_prefix_cons] at grown
      have same : item = other := by
        refine itemText_injective (apart item (by simp) other (by simp) ?_)
        rw [← hashItem_eq, ← hashItem_eq]
        exact grown.1
      have narrower : HashesApart (rest ++ others) := by
        intro left leftMember right rightMember
        refine apart left ?_ right ?_
        · rcases mem_append.mp leftMember with here | there
          · simp [here]
          · simp [there]
        · rcases mem_append.mp rightMember with here | there
          · simp [here]
          · simp [there]
      exact cons_prefix_cons.mpr ⟨same, ih narrower grown.2⟩

theorem Continues.append (continues : Continues previous turns) {turn : Turn}
    (grown : (lastItems previous turns).map hashItem <+: turn.snapshot.items.map hashItem)
    (prompt : turn.prompt = (renderTurn turn.snapshot (lastItems previous turns).length).1) :
    Continues previous (turns ++ [turn]) := by
  induction continues with
  | none => exact .turn grown prompt .none
  | turn first firstPrompt _ ih => exact .turn first firstPrompt (ih grown prompt)

theorem Continues.delivers (continues : Continues previous turns) (some : previous ≠ [])
    (apart : HashesApart (previous ++ turns.flatMap (·.snapshot.items))) :
    previous <+: lastItems previous turns ∧
      Delivers false turns ((lastItems previous turns).drop previous.length) := by
  induction continues with
  | @none previous =>
    refine ⟨prefix_refl _, ?_⟩
    rw [lastItems, drop_length]
    exact .none
  | @turn previous turn rest grown prompt later ih =>
    have pair : HashesApart (previous ++ turn.snapshot.items) := by
      intro item member other otherMember
      refine apart item ?_ other ?_
      · rcases mem_append.mp member with here | there
        · simp [here]
        · simp [there]
      · rcases mem_append.mp otherMember with here | there
        · simp [here]
        · simp [there]
    obtain ⟨share, whole⟩ := prefix_of_hashes pair grown
    have more : turn.snapshot.items ≠ [] := by
      rw [← whole]
      simp [some]
    obtain ⟨kept, delivered⟩ := ih more fun item member other otherMember =>
      apart item (mem_append_right _ (by simpa using member)) other
        (mem_append_right _ (by simpa using otherMember))
    refine ⟨List.IsPrefix.trans ⟨share, whole⟩ kept, ?_⟩
    have count : previous.length ≠ 0 := by simp [some]
    have first : turn.prompt = promptOf turn.snapshot false share := by
      rw [prompt, renderTurn_eq, decide_eq_false count, ← whole, drop_left]
    obtain ⟨others, last⟩ := kept
    have split : (lastItems previous (turn :: rest)).drop previous.length =
        share ++ (lastItems turn.snapshot.items rest).drop turn.snapshot.items.length := by
      rw [lastItems, ← last, drop_left, ← whole, append_assoc, drop_left]
    rw [split]
    exact .turn first delivered

theorem Continues.delivers_first {first : Turn} {rest : List Turn}
    (continues : Continues [] (first :: rest))
    (apart : HashesApart ((first :: rest).flatMap (·.snapshot.items)))
    (splits : rest = [] ∨ first.snapshot.items ≠ []) :
    Delivers true (first :: rest) (lastItems [] (first :: rest)) := by
  cases continues with
  | turn grown prompt later =>
    have headed : first.prompt = promptOf first.snapshot true first.snapshot.items := by
      rw [prompt, renderTurn_eq]
      rfl
    rcases splits with alone | some
    · subst alone
      rw [← append_nil (lastItems [] [first])]
      exact .turn headed .none
    · obtain ⟨⟨others, last⟩, delivered⟩ := later.delivers some (by simpa using apart)
      have split : lastItems [] (first :: rest) = first.snapshot.items ++
          (lastItems first.snapshot.items rest).drop first.snapshot.items.length := by
        rw [lastItems, ← last, drop_left]
      rw [split]
      exact .turn headed delivered

theorem Continues.header_again {first second : Turn} {others : List Turn}
    (continues : Continues [] (first :: second :: others)) (empty : first.snapshot.items = [])
    (items : List SnapshotItem) : ¬ Delivers true (first :: second :: others) items := by
  intro delivered
  cases continues with
  | turn _ _ later =>
    cases later with
    | turn _ prompt _ =>
      rw [empty, renderTurn_eq] at prompt
      cases delivered with
      | turn _ more =>
        cases more with
        | turn plain _ => exact headed_ne_plain _ _ _ _ (prompt.symm.trans plain)

/-- What a session's records and its pending turn say of the applied turns. -/
structure Follows (participantId : JsString) (epoch : Nat) (session : Session) : Prop where
  continues : Continues [] session.applied
  record : (session.applied = [] ∧
      (session.records.get participantId).filter (·.sessionEpoch = epoch) = none) ∨
    ∃ record, (session.records.get participantId).filter (·.sessionEpoch = epoch) = some record ∧
      record.appliedItemCount = (lastItems [] session.applied).length ∧
      record.itemDigests = (lastItems [] session.applied).map hashItem
  pending : ∀ turn, session.pending = some turn →
    (lastItems [] session.applied).map hashItem <+: turn.snapshot.items.map hashItem ∧
      turn.prompt = (renderTurn turn.snapshot (lastItems [] session.applied).length).1

variable {records : SessionRecords}

theorem reconcile_ok {snapshot : ContextSnapshot} {window : Option Nat}
    {basis : PromptBasis} {prompt : JsString} {count : Nat}
    (answered : reconcile records participantId snapshot epoch window = .ok basis prompt count) :
    ((records.get participantId).filter (·.sessionEpoch = epoch) = none ∧
        prompt = (renderTurn snapshot 0).1) ∨
      ∃ record, (records.get participantId).filter (·.sessionEpoch = epoch) = some record ∧
        ¬ HistoryReplaced record snapshot.items ∧
        prompt = (renderTurn snapshot record.appliedItemCount).1 := by
  simp only [reconcile] at answered
  split at answered
  · rename_i cold
    cases answered
    exact .inl ⟨cold, rfl⟩
  · rename_i record found
    refine .inr ⟨record, found, ?_⟩
    by_cases replaced : HistoryReplaced record snapshot.items
    · simp only [replaced, if_true] at answered
      repeat' split at answered
      all_goals contradiction
    · simp only [replaced, if_false] at answered
      repeat' split at answered
      all_goals first
        | contradiction
        | (cases answered
           exact ⟨replaced, rfl⟩)

theorem prefix_of_not_replaced {record : SessionRecord} {applied items : List SnapshotItem}
    (count : record.appliedItemCount = applied.length)
    (digests : record.itemDigests = applied.map hashItem) (kept : ¬ HistoryReplaced record items) :
    applied.map hashItem <+: items.map hashItem := by
  refine prefix_iff_getElem?.mpr fun index inside => ?_
  rw [length_map] at inside
  by_contra differs
  refine kept (.inr ⟨index, count ▸ inside, fun same => differs ?_⟩)
  rw [List.getElem?_map, same, digests, List.getElem?_eq_getElem (by simpa using inside)]

theorem Follows.step {action : SessionAction} (held : Follows participantId epoch session)
    (stepped : session.step participantId epoch action = some next) :
    Follows participantId epoch next := by
  cases action with
  | reconcile snapshot window =>
    simp only [Session.step] at stepped
    split at stepped
    · contradiction
    · split at stepped
      · rename_i basis prompt count answered
        cases stepped
        refine ⟨held.continues, held.record, fun turn same => ?_⟩
        cases same
        rcases reconcile_ok answered with ⟨cold, rendered⟩ | ⟨record, found, kept, rendered⟩
        · rcases held.record with ⟨empty, -⟩ | ⟨other, known, -⟩
          · rw [empty]
            exact ⟨ nil_prefix, rendered⟩
          · rw [cold] at known
            contradiction
        · rcases held.record with ⟨-, absent⟩ | ⟨other, known, count, digests⟩
          · rw [absent] at found
            contradiction
          · rw [known] at found
            cases found
            exact ⟨prefix_of_not_replaced count digests kept, count ▸ rendered⟩
      · cases stepped
        exact held
  | failed =>
    simp only [Session.step, Option.map_eq_some_iff] at stepped
    obtain ⟨turn, -, rfl⟩ := stepped
    exact ⟨held.continues, held.record, fun _ same => by simp at same⟩
  | recordApplied executionId inputTokens =>
    simp only [Session.step, Option.map_eq_some_iff] at stepped
    obtain ⟨turn, pending, rfl⟩ := stepped
    obtain ⟨grown, prompt⟩ := held.pending turn pending
    refine ⟨held.continues.append grown prompt, .inr ?_, fun _ same => by simp at same⟩
    simp only [Host.recordApplied, Table.get_put, if_true, lastItems_append]
    exact ⟨_, Option.filter_eq_some_iff.mpr ⟨rfl, decide_eq_true rfl⟩, rfl, rfl⟩

theorem follows_run {actions : List SessionAction}
    (run : Run (Session.step participantId epoch) anyStep ⟨records, none, []⟩ actions session)
    (cold : (records.get participantId).filter (·.sessionEpoch = epoch) = none) :
    Follows participantId epoch session :=
  run.invariant (fun held _ stepped => held.step stepped)
    ⟨.none, .inl ⟨rfl, cold⟩, fun _ same => by simp at same⟩

/-- The applied turns of an epoch bring the last snapshot's items once and in
order under one header, unless the first of several had no items to bring. -/
theorem session_delivers_iff {records : SessionRecords} {actions : List SessionAction}
    (run : Run (Session.step participantId epoch) anyStep ⟨records, none, []⟩ actions session)
    (cold : (records.get participantId).filter (·.sessionEpoch = epoch) = none)
    (apart : HashesApart (session.applied.flatMap (·.snapshot.items))) :
    Delivers true session.applied (lastItems [] session.applied) ↔
      session.applied.length ≤ 1 ∨
        ∃ first rest, session.applied = first :: rest ∧ first.snapshot.items ≠ [] := by
  have continues := (follows_run run cold).continues
  cases applied : session.applied with
  | nil => simp [lastItems, Delivers.none]
  | cons first rest =>
    rw [applied] at continues apart
    constructor
    · intro delivered
      cases rest with
      | nil => exact .inl (by simp)
      | cons second others =>
        exact .inr ⟨first, second :: others, rfl, fun empty =>
          continues.header_again empty _ delivered⟩
    · intro splits
      refine continues.delivers_first apart ?_
      rcases splits with short | ⟨_, _, same, some⟩
      · left
        simpa using short
      · right
        cases same
        exact some

end Runs

@[reducible] def constantDigest : Digest := ⟨fun _ => js "digest"⟩

def sampleSnapshot (items : List SnapshotItem) : ContextSnapshot where
  digestVersion := 1
  contextRevision := 1
  contextDigest := js "c"
  topic := none
  background := none
  items
  participantId := js "p"
  participantSnapshotDigest := js "d"
  instruction := ⟨.message, js "go"⟩
  instructionDigest := js "i"

def twoTurns (first second : List SnapshotItem) : List SessionAction :=
  [.reconcile (sampleSnapshot first) none, .recordApplied (js "e1") none,
    .reconcile (sampleSnapshot second) none, .recordApplied (js "e2") none]

def opening : SnapshotItem := { id := js "m1", role := .user, content := js "hello" }

theorem apart_of_eq {items : List SnapshotItem} {item : SnapshotItem}
    (same : ∀ other ∈ items, other = item) : @HashesApart constantDigest items := by
  intro left leftMember right rightMember _
  rw [same left leftMember, same right rightMember]

def coldSession : Session := ⟨.empty, none, []⟩

theorem two_turns_run (first second : List SnapshotItem)
    (ends : ((execute (@Session.step constantDigest (js "p") 1) coldSession
      (twoTurns first second)).map fun session => session.applied.map (·.snapshot)) =
        some [sampleSnapshot first, sampleSnapshot second]) :
    ∃ session one two, Run (@Session.step constantDigest (js "p") 1) anyStep coldSession
        (twoTurns first second) session ∧ session.applied = [one, two] ∧
      one.snapshot = sampleSnapshot first ∧ two.snapshot = sampleSnapshot second := by
  obtain ⟨session, ended, turns⟩ := Option.map_eq_some_iff.mp ends
  obtain ⟨one, rest, applied, same, others⟩ := map_eq_cons_iff.mp turns
  obtain ⟨two, none, pair, sameTwo, empty⟩ := map_eq_cons_iff.mp others
  rw [map_eq_nil_iff.mp empty] at pair
  exact ⟨session, one, two, execute_run ended fun _ _ _ => trivial, by rw [applied, pair], same,
    sameTwo⟩

theorem session_delivers_opening : ∃ session,
    Run (@Session.step constantDigest (js "p") 1) anyStep coldSession
      (twoTurns [opening] [opening]) session ∧
    Delivers true session.applied [opening] := by
  obtain ⟨session, one, two, run, applied, same, sameTwo⟩ :=
    two_turns_run [opening] [opening] (by decide +kernel)
  have apart : @HashesApart constantDigest (session.applied.flatMap (·.snapshot.items)) := by
    refine @apart_of_eq _ opening fun other member => ?_
    rw [applied] at member
    simpa [same, sameTwo, sampleSnapshot] using member
  have delivered := (@session_delivers_iff constantDigest (js "p") 1 session .empty _ run rfl apart).mpr
    (.inr ⟨one, [two], applied, by simp [same, sampleSnapshot]⟩)
  rw [applied] at delivered
  refine ⟨session, run, ?_⟩
  rw [applied]
  simpa [lastItems, sameTwo, sampleSnapshot] using delivered

/-- The first applied snapshot is empty, and the second turn has the header again. -/
theorem header_rendered_twice : ¬ ∀ (participantId : JsString) (epoch : Nat)
    (actions : List SessionAction) (session : Session),
    Run (@Session.step constantDigest participantId epoch) anyStep coldSession actions session →
      @HashesApart constantDigest (session.applied.flatMap (·.snapshot.items)) →
      Delivers true session.applied (lastItems [] session.applied) := by
  intro claimed
  obtain ⟨session, one, two, run, applied, same, sameTwo⟩ :=
    two_turns_run [] [opening] (by decide +kernel)
  have apart : @HashesApart constantDigest (session.applied.flatMap (·.snapshot.items)) := by
    refine @apart_of_eq _ opening fun other member => ?_
    rw [applied] at member
    simpa [same, sameTwo, sampleSnapshot] using member
  have delivered := claimed (js "p") 1 _ session run apart
  have follows := @follows_run constantDigest (js "p") 1 session .empty _ run rfl
  have continues := @Follows.continues constantDigest (js "p") 1 session follows
  rw [applied] at delivered continues
  exact @Continues.header_again constantDigest one two [] continues (by rw [same]; rfl) _ delivered

end CouncilKit.Host
