import CouncilKit.Discussion.Entities

namespace CouncilKit.Discussion

open Data Json

inductive SnapshotRole where
  | user | participant | summary
deriving DecidableEq

def SnapshotRole.text : SnapshotRole → JsString
  | .user => js "user"
  | .participant => js "participant"
  | .summary => js "summary"

structure SnapshotItem where
  id : JsString
  role : SnapshotRole
  participantId : Option JsString := none
  content : JsString
  sourceExecutionId : Option JsString := none
deriving DecidableEq

structure SharedProjection where
  topic : JsString
  background : JsString
  items : List SnapshotItem
deriving DecidableEq

structure TimedItem where
  «at» : JsString
  item : SnapshotItem

def messageToItem (message : DiscussionMessage) : SnapshotItem where
  id := message.id
  role := match message.role with
    | .user => .user
    | .participant => .participant
  participantId := message.participantId
  content := message.content
  sourceExecutionId := message.sourceExecutionId

def summaryToItem (summary : DiscussionSummary) : SnapshotItem where
  id := summary.id
  role := .summary
  content := summary.content
  sourceExecutionId := some summary.sourceExecutionId

def TimedItem.Before (left right : TimedItem) : Prop :=
  if left.at = right.at then left.item.id.Before right.item.id else left.at.Before right.at

instance : DecidableRel TimedItem.Before := fun left right =>
  inferInstanceAs (Decidable
    (if left.at = right.at then left.item.id.Before right.item.id else left.at.Before right.at))

def TimedItem.Order (left right : TimedItem) : Prop := ¬ right.Before left

instance : DecidableRel TimedItem.Order := fun _ _ => inferInstanceAs (Decidable (¬ _))

def timedItems (messages : List DiscussionMessage) (summaries : List DiscussionSummary) : List TimedItem :=
  (messages.map fun message => ⟨message.createdAt, messageToItem message⟩) ++
    summaries.map fun summary => ⟨summary.generatedAt, summaryToItem summary⟩

def projectSharedContext (topic background : JsString) (messages : List DiscussionMessage)
    (summaries : List DiscussionSummary) : SharedProjection where
  topic
  background
  items := ((timedItems messages summaries).insertionSort TimedItem.Order).map (·.item)

def SnapshotItem.json (item : SnapshotItem) : Json :=
  .object ([(js "id", .string item.id), (js "role", .string item.role.text)] ++
    (item.participantId.toList.map fun id => (js "participantId", .string id)) ++
    [(js "content", .string item.content)] ++
    (item.sourceExecutionId.toList.map fun id => (js "sourceExecutionId", .string id)))

def SNAPSHOT_DIGEST_VERSION : Int := 1

def contextDigestMaterial (projection : SharedProjection) : Json :=
  .object [(js "digestVersion", .number SNAPSHOT_DIGEST_VERSION),
    (js "topic", .string projection.topic), (js "background", .string projection.background),
    (js "items", .array (projection.items.map SnapshotItem.json))]

theorem serialize_item (item : SnapshotItem) : ∃ text, serialize item.json 2 = some text := by
  cases participant : item.participantId <;> cases source : item.sourceExecutionId <;>
    simp [SnapshotItem.json, participant, source, serialize, serializeMembers,
      MAX_DEPTH]

theorem serialize_items (items : List SnapshotItem) :
    ∃ texts, serializeItems (items.map SnapshotItem.json) 2 = some texts := by
  induction items with
  | nil => exact ⟨[], rfl⟩
  | cons item rest ih =>
    obtain ⟨texts, serialized⟩ := ih
    obtain ⟨text, first⟩ := serialize_item item
    exact ⟨text :: texts, by simp [serializeItems, first, serialized]⟩

inductive WireKind where
  | message | summary
deriving DecidableEq

def WireKind.text : WireKind → JsString
  | .message => js "message"
  | .summary => js "summary"

def wireKindOf : ResultKind → WireKind
  | .message | .focus => .message
  | .summary | .report => .summary

structure Instruction where
  kind : WireKind
  text : JsString
deriving DecidableEq

structure ContextSnapshot where
  digestVersion : Int
  contextRevision : Nat
  contextDigest : JsString
  topic : Option JsString
  background : Option JsString
  items : List SnapshotItem
  participantId : JsString
  participantSnapshotDigest : JsString
  instruction : Instruction
  instructionDigest : JsString
deriving DecidableEq

/-- What `contextSnapshotSchema` asks of the members that can fail it. -/
def ContextSnapshot.Parses (snapshot : ContextSnapshot) : Prop :=
  snapshot.digestVersion = 1 ∧ snapshot.contextDigest ≠ [] ∧
    (∀ item ∈ snapshot.items, item.id ≠ []) ∧ snapshot.participantId ≠ [] ∧
    snapshot.participantSnapshotDigest ≠ [] ∧ snapshot.instructionDigest ≠ []

instance (snapshot : ContextSnapshot) : Decidable snapshot.Parses :=
  inferInstanceAs (Decidable (_ ∧ _))

variable [Digest]

theorem digestOf_material (projection : SharedProjection) :
    (digestOf (contextDigestMaterial projection)).isSome = true := by
  obtain ⟨texts, serialized⟩ := serialize_items projection.items
  simp [digestOf, canonicalJson, contextDigestMaterial, serialize, serializeMembers, serialized, MAX_DEPTH]

def computeContextDigest (projection : SharedProjection) : JsString :=
  (digestOf (contextDigestMaterial projection)).get (digestOf_material projection)

/-- `digestOf({ digestVersion: 1, content })` -/
def contentDigestOf (content : JsString) : JsString :=
  (digestOf (.object [(js "digestVersion", .number 1), (js "content", .string content)])).get (by
    simp [digestOf, canonicalJson, serialize, serializeMembers, MAX_DEPTH])

def computeInstructionDigest (instruction : Instruction) : JsString :=
  (digestOf (.object [(js "digestVersion", .number SNAPSHOT_DIGEST_VERSION),
    (js "kind", .string instruction.kind.text), (js "text", .string instruction.text)])).get (by
    simp [digestOf, canonicalJson, serialize, serializeMembers, MAX_DEPTH])

def buildContextSnapshot (room : DiscussionRoom) (participant : Participant)
    (instruction : Instruction) (items : List SnapshotItem) : Option ContextSnapshot :=
  let snapshot : ContextSnapshot := {
    digestVersion := SNAPSHOT_DIGEST_VERSION
    contextRevision := room.contextRevision
    contextDigest := room.contextDigest
    topic := if room.topic ≠ [] then some room.topic else none
    background := if room.background.trim ≠ [] then some room.background else none
    items
    participantId := participant.id
    participantSnapshotDigest := participant.participantSnapshotDigest
    instruction
    instructionDigest := computeInstructionDigest instruction }
  if snapshot.Parses then some snapshot else none

theorem buildContextSnapshot_items {room : DiscussionRoom} {participant : Participant}
    {instruction : Instruction} {items : List SnapshotItem} {snapshot : ContextSnapshot}
    (built : buildContextSnapshot room participant instruction items = some snapshot) :
    snapshot.items = items := by
  simp only [buildContextSnapshot, Option.ite_none_right_eq_some, Option.some.injEq] at built
  obtain ⟨-, rfl⟩ := built
  rfl

end CouncilKit.Discussion
