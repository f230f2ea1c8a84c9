import CouncilKit.Auto.DriverLines
import CouncilKit.Host.EventSplits
import CouncilKit.Host.NdjsonSplitter

namespace CouncilKit.Auto

open Data Json JsString Utf8 Auto.LiveEvents Host List LiveCollector Decoder
open Host.EventReader LineCollector

def Activity.shown (activity : Activity) : Option (Nat × List JsString × Bool) × Option JsString :=
  (activity.summary, activity.liveActivity)

variable (driverId : JsString)

/-- The activity of some lines, and of what stands behind them when it is within the cap. -/
def activityOf (lines : List (List UInt8)) (left : List UInt8) : Activity :=
  (outcomeOf (ε := Empty) ACTIVITY_LINE_CAP
    (fun activity line => { state := Activity.consider driverId activity line }) {} lines left).2.state

theorem driverActivity_alike (bytes : List UInt8) :
    (∀ chunks : List (List UInt8), chunks.flatten = bytes →
      (driverActivity driverId chunks).shown = (driverActivity driverId [bytes]).shown) ↔
    ∀ kept, LeavesOut ACTIVITY_LINE_CAP (cut 0xA bytes).1 kept →
      (activityOf driverId kept (cut 0xA bytes).2).shown =
        (activityOf driverId (cut 0xA bytes).1 (cut 0xA bytes).2).shown := by
  exact @collect_alike Activity Empty ACTIVITY_LINE_CAP
    (fun activity line => { state := Activity.consider driverId activity line }) _
    (fun collected => collected.2.state.shown) {} bytes (fun _ _ _ => rfl)

def throwsText (line : JsString) : Bool :=
  (consider driverId none line).thrown

theorem thrown_consider (driverId line : JsString) (pending : Pending) :
    (consider driverId pending line).thrown = throwsText driverId line := by
  unfold throwsText consider
  cases parseJsonLine line with
  | none => rfl
  | some obj =>
    dsimp only
    split
    · rfl
    split
    · rfl
    split
    · unfold liveKimi
      split
      · rfl
      · cases asText (memberOf obj (js "content")) with
        | none => rfl
        | some content => rfl
    split
    · cases liveCodex obj with
      | none => rfl
      | some events => rfl
    · rfl

def liveOf (lines : List (List UInt8)) (left : List UInt8) : List RawLiveEvent :=
  let outcome := outcomeOf LINE_CAP (consider driverId) none lines left
  outcome.1 ++ ended outcome.2

theorem liveEvents_alike {bytes : List UInt8}
    (calm : ∀ line ∈ (cut 0xA bytes).1, throwsText driverId (decode line) = false) :
    (∀ chunks : List (List UInt8), chunks.flatten = bytes →
      liveEvents driverId chunks = liveEvents driverId [bytes]) ↔
    ∀ kept, LeavesOut LINE_CAP (cut 0xA bytes).1 kept →
      liveOf driverId kept (cut 0xA bytes).2 = liveOf driverId (cut 0xA bytes).1 (cut 0xA bytes).2 := by
  refine @collect_alike _ RawLiveEvent LINE_CAP (consider driverId) _
    (fun collected => collected.1 ++ ended collected.2) none bytes ?_
  intro line member state
  rw [thrown_consider]
  exact calm line member

/-- The splitter does not see how its stream is cut. The others do not exactly when nothing
comes behind the end of the execution, and when the lines past the cap tell nothing. -/
theorem readers_alike (driverId : JsString) (bytes : List UInt8) :
    (∀ chunks : List (List UInt8), chunks.flatten = bytes →
      attachNdjsonSplitter chunks = attachNdjsonSplitter [bytes]) ∧
    (∀ (ε : Type) [EventSchema ε] (afterSeq : Nat) (ends : StreamEnd) (aborted : Bool),
      (∀ chunks : List (List UInt8), chunks.flatten = bytes →
        (followExecutionEvents (ε := ε) afterSeq (.stream chunks ends) aborted).1 =
          (followExecutionEvents (ε := ε) afterSeq (.stream [bytes] ends) aborted).1) ↔
      QuietBehind ε (streamBlocks bytes)) ∧
    ((∀ chunks : List (List UInt8), chunks.flatten = bytes →
        (driverActivity driverId chunks).shown = (driverActivity driverId [bytes]).shown) ↔
      ∀ kept, LeavesOut ACTIVITY_LINE_CAP (cut 0xA bytes).1 kept →
        (activityOf driverId kept (cut 0xA bytes).2).shown =
          (activityOf driverId (cut 0xA bytes).1 (cut 0xA bytes).2).shown) ∧
    ((∀ line ∈ (cut 0xA bytes).1, throwsText driverId (decode line) = false) →
      ((∀ chunks : List (List UInt8), chunks.flatten = bytes →
          liveEvents driverId chunks = liveEvents driverId [bytes]) ↔
        ∀ kept, LeavesOut LINE_CAP (cut 0xA bytes).1 kept →
          liveOf driverId kept (cut 0xA bytes).2 =
            liveOf driverId (cut 0xA bytes).1 (cut 0xA bytes).2)) := by
  refine ⟨?_, ?_, driverActivity_alike driverId bytes, ?_⟩
  · intro chunks whole
    rw [attachNdjsonSplitter_flatten, whole]
  · intro ε _ afterSeq ends aborted
    exact readChunks_alike bytes (requestedAfterSeq afterSeq)
  · intro calm
    exact liveEvents_alike driverId calm

def paddedResult : List UInt8 :=
  encode (js "\x7b\"type\":\"result\"\x7d") ++ List.replicate ACTIVITY_LINE_CAP 0x20

theorem write_spaces (count : Nat) :
    write {} (List.replicate count 0x20) = (List.replicate count 0x20, {}) := by
  induction count with
  | zero => rfl
  | succ count ih =>
    rw [replicate_succ, write]
    have here : push {} 0x20 = ([0x20], {}) := rfl
    rw [here]
    dsimp only
    rw [ih]
    rfl

theorem write_paddedResult :
    write {} paddedResult =
      (js "\x7b\"type\":\"result\"\x7d" ++ List.replicate ACTIVITY_LINE_CAP 0x20, {}) := by
  have front : write {} (encode (js "\x7b\"type\":\"result\"\x7d")) =
      (js "\x7b\"type\":\"result\"\x7d", {}) := by rfl
  rw [paddedResult, write_append, front]
  dsimp only
  rw [write_spaces]

theorem parseJsonLine_spaces (line : JsString) (count : Nat) :
    parseJsonLine (line ++ List.replicate count 0x20) = parseJsonLine line := by
  have blank : ∀ unit ∈ List.replicate count (0x20 : CodeUnit), isJsonSpace unit = true := by
    intro unit member
    rw [eq_of_mem_replicate member]
    rfl
  unfold parseJsonLine jsonParse
  rw [parse_append_spaces blank]

theorem driverActivity_line {line : List UInt8} (clean : 0xA ∉ line) :
    driverActivity driverId [line ++ [0xA]] = Activity.consider driverId {} (decode line) := by
  have lines : cut 0xA (line ++ [0xA]) = ([line], []) := cut_line clean []
  have collected := @collect_single Activity Empty ACTIVITY_LINE_CAP
    (fun activity line => { state := Activity.consider driverId activity line }) {} (line ++ [0xA])
    (fun _ _ _ => rfl)
  unfold driverActivity
  rw [collected, lines]
  rfl

theorem driverActivity_dropped {line : List UInt8} (clean : 0xA ∉ line)
    (long : ACTIVITY_LINE_CAP < (write {} line).1.length) :
    driverActivity driverId [line, [0xA]] = {} := by
  obtain ⟨first, second⟩ := @feed_dropped Activity Empty ACTIVITY_LINE_CAP
    (fun activity line => { state := Activity.consider driverId activity line }) {} line clean long
  have fresh_ : ({ state := {} } : LineCollector Activity) = fresh {} := rfl
  unfold driverActivity LineCollector.collect feeds
  rw [foldl_cons, foldl_cons, foldl_nil, fresh_, first]
  dsimp only
  rw [second]
  rfl

theorem clean_paddedResult : 0xA ∉ paddedResult := by
  have front : 0xA ∉ encode (js "\x7b\"type\":\"result\"\x7d") := by decide +kernel
  have back (count : Nat) : 0xA ∉ List.replicate count (0x20 : UInt8) := by
    intro member
    cases eq_of_mem_replicate member
  unfold paddedResult
  generalize ACTIVITY_LINE_CAP = count
  rw [mem_append, not_or]
  exact ⟨front, back count⟩

theorem decode_paddedResult :
    decode paddedResult = js "\x7b\"type\":\"result\"\x7d" ++ List.replicate ACTIVITY_LINE_CAP 0x20 := by
  rw [decode, run_write, write_paddedResult]
  generalize ACTIVITY_LINE_CAP = count
  exact append_nil _

theorem long_paddedResult : ACTIVITY_LINE_CAP < (write {} paddedResult).1.length := by
  have some_ : 0 < (js "\x7b\"type\":\"result\"\x7d").length := by decide +kernel
  rw [write_paddedResult]
  generalize ACTIVITY_LINE_CAP = count
  rw [length_append, length_replicate]
  omega

theorem consider_spaces (driverId line : JsString) (count : Nat) :
    Activity.consider driverId {} (line ++ List.replicate count 0x20) = Activity.consider driverId {} line := by
  unfold Activity.consider
  rw [parseJsonLine_spaces]

theorem consider_result :
    (Activity.consider (js "claude-stream-json") {} (js "\x7b\"type\":\"result\"\x7d")).summary =
      some (0, [], false) := by decide +kernel

theorem flatten_line (line : List UInt8) : [line, [0xA]].flatten = line ++ [0xA] := by
  rw [flatten_cons, flatten_singleton]

/-- The line counts when it comes with its end, and is dropped when it comes before it. -/
theorem paddedResult_differs :
    [paddedResult, [0xA]].flatten = paddedResult ++ [0xA] ∧
      (driverActivity (js "claude-stream-json") [paddedResult ++ [0xA]]).summary = some (0, [], false) ∧
      (driverActivity (js "claude-stream-json") [paddedResult, [0xA]]).summary = none := by
  refine ⟨flatten_line _, ?_, ?_⟩
  · rw [driverActivity_line _ clean_paddedResult, decode_paddedResult, consider_spaces]
    exact consider_result
  · rw [driverActivity_dropped _ clean_paddedResult long_paddedResult]
    rfl

def shortResult : List UInt8 := encode (js "\x7b\"type\":\"result\"\x7d\n")

theorem shortResult_alike :
    liveEvents (js "claude-stream-json") [shortResult.take 4, shortResult.drop 4] =
      liveEvents (js "claude-stream-json") [shortResult] := by
  have lines : (cut 0xA shortResult).1 = [encode (js "\x7b\"type\":\"result\"\x7d")] := by decide +kernel
  have calm : ∀ line ∈ (cut 0xA shortResult).1, throwsText (js "claude-stream-json") (decode line) = false := by
    rw [lines, forall_mem_singleton]
    decide +kernel
  have short : ∀ line ∈ (cut 0xA shortResult).1, (decode line).length ≤ LINE_CAP := by
    rw [lines, forall_mem_singleton]
    decide +kernel
  have whole : [shortResult.take 4, shortResult.drop 4].flatten = shortResult := by decide +kernel
  refine ((readers_alike (js "claude-stream-json") shortResult).2.2.2 calm).mpr ?_ _ whole
  intro kept left
  rw [left.eq_of_short short]

end CouncilKit.Auto
