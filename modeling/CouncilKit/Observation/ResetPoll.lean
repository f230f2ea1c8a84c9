import CouncilKit.Observation.Service
import CouncilKit.Observation.PageMerge
import CouncilKit.Observation.SourceChains

namespace CouncilKit.Observation

open Data Repair List RepairOperation

section

variable [Digest] [SourceText] [Unicode] [Dates] {request : PollRequest}

variable {source : TrustedSource}

variable [CursorText] {reasons : List JsString} {sources : List TrustedSource}
  {source : TrustedSource} {poll next final : Poll}

def PollRequest.room (request : PollRequest) (poll : Poll) : Nat :=
  request.limit - poll.upserts.length

omit [SourceText] [Dates] [Unicode] in
theorem pollFull_upserts (polled : pollFull request poll source = some next) :
    next.upserts = poll.upserts := by
  unfold pollFull at polled
  dsimp only at polled
  split at polled
  · obtain ⟨mark, -, given⟩ := Option.bind_eq_some_iff.mp polled
    cases given
    rfl
  · cases polled
    rfl

theorem pollSource_upserts (polled : pollSource request poll source = some next) :
    next.upserts = poll.upserts ∨ next.upserts = poll.upserts ++
      (readOps request (pollRead request poll source)).take (request.room poll) := by
  unfold pollSource at polled
  split at polled
  · cases polled
    exact Or.inl rfl
  split at polled
  · exact Or.inl (pollFull_upserts polled)
  split at polled
  · cases polled
    exact Or.inl rfl
  · obtain ⟨mark, -, given⟩ := Option.bind_eq_some_iff.mp polled
    cases given
    exact Or.inr rfl

theorem pollSource_read (read : source.isRead = true) (free : poll.upserts.length < request.limit)
    (forward : request.direction poll.reset = .forward)
    (polled : pollSource request poll source = some next) :
    next.upserts = poll.upserts ++
      (readOps request (pollRead request poll source)).take (request.room poll) := by
  unfold pollSource at polled
  rw [if_neg (by simp [read]), if_neg (by omega), if_neg (by simp [forward])] at polled
  obtain ⟨mark, -, given⟩ := Option.bind_eq_some_iff.mp polled
  cases given
  rfl

theorem pollSources_upserts (polled : pollSources request poll sources = some final) :
    poll.upserts <+: final.upserts := by
  unfold pollSources at polled
  induction sources generalizing poll with
  | nil =>
    cases polled
    exact prefix_refl _
  | cons source rest ih =>
    rw [foldlM_cons] at polled
    obtain ⟨next, first, others⟩ := Option.bind_eq_some_iff.mp polled
    apply List.IsPrefix.trans _ (ih others)
    cases pollSource_upserts first with
    | inl same => exact same ▸ prefix_refl _
    | inr added =>
      rw [added]
      exact prefix_append _ _

/-- The state before and after the read of a source for which the page has room. -/
structure Turn (request : PollRequest) (reasons : List JsString) (sources : List TrustedSource)
    (poll : Poll) (source : TrustedSource) (next : Poll) : Prop where
  reached : ∃ before after, sources = before ++ source :: after ∧
    pollSources request (request.start reasons) before = some poll
  read : source.isRead = true
  free : poll.upserts.length < request.limit
  polled : pollSource request poll source = some next

theorem Turn.remains (turn : Turn request reasons sources poll source next)
    (answered : pollSources request (request.start reasons) sources = some final) :
    next.upserts <+: final.upserts := by
  obtain ⟨before, after, rfl, reached⟩ := turn.reached
  rw [pollSources, foldlM_append] at answered
  obtain ⟨middle, first, others⟩ := Option.bind_eq_some_iff.mp answered
  rw [← pollSources, reached, Option.some.injEq] at first
  subst middle
  rw [foldlM_cons] at others
  obtain ⟨after, second, rest⟩ := Option.bind_eq_some_iff.mp others
  rw [turn.polled, Option.some.injEq] at second
  subst after
  exact pollSources_upserts rest

def turnPart (page : ObservationPage) (poll next : Poll) : List RepairOperation :=
  (page.upserts.take next.upserts.length).drop poll.upserts.length

theorem Turn.part (turn : Turn request reasons sources poll source next)
    (forward : request.direction poll.reset = .forward)
    (answered : pollSources request (request.start reasons) sources = some final)
    {page : ObservationPage} (shown : page.upserts = final.upserts.map redacted) :
    turnPart page poll next = ((readOps request (pollRead request poll source)).take
      (request.room poll)).map redacted := by
  obtain ⟨later, rest⟩ := turn.remains answered
  have added := pollSource_read turn.read turn.free forward turn.polled
  rw [turnPart, shown, ← rest, ← map_take, ← map_drop, take_left, added,
    drop_left]

variable {runId now : JsString} {round limit : Nat} {cursorRaw : Option JsString} {nowMs : Int}
  {page : ObservationPage}

end

end CouncilKit.Observation
