import CouncilKit.Data.Fallible
import CouncilKit.Data.Grouping
import CouncilKit.Data.Utf8Encode

namespace CouncilKit.Auto.SpawnFingerprint

open Data Data.JsString Utf8 List

/-- `createHash("sha256").update(bytes).digest("hex")` -/
class FileDigest where
  sha256 : List UInt8 → JsString

/-- What the two calls on files give, or the message of what they throw. -/
structure FileSystem where
  realpathSync : JsString → Except JsString JsString
  readFileSync : JsString → Except JsString (List UInt8)

structure SpawnSpec where
  driverId : JsString
  executable : JsString
deriving DecidableEq

structure ToolFingerprint where
  name : JsString
  realpath : JsString
  sha256 : JsString
  version : Option JsString
  capabilityHash : Option JsString

structure ExecutionRevision where
  runId : JsString
  acceptedTools : List ToolFingerprint

/-- A refusal has the code `DRIVER_DRIFT`. -/
inductive FingerprintVerdict where
  | ok
  | drift (message : JsString)
deriving DecidableEq

section Model

variable [FileDigest] (files : FileSystem)

def hashFileBytes (path : JsString) : Except JsString JsString :=
  (files.readFileSync path).map FileDigest.sha256

def capabilityHashFor (name realpath sha256 : JsString) : JsString :=
  FileDigest.sha256 (encode (name ++ [0] ++ realpath ++ [0] ++ sha256))

def fingerprintExecutable (name path : JsString) : Except JsString ToolFingerprint := do
  let real ← files.realpathSync path
  let sha256 ← hashFileBytes files real
  return ⟨name, real, sha256, none, some (capabilityHashFor name real sha256)⟩

def truthy : Option JsString → Bool
  | none => false
  | some text => !text.isEmpty

def expectedTool (acceptedRevision : Option ExecutionRevision) (frozen : ToolFingerprint)
    (driverId : JsString) : Option ToolFingerprint :=
  match acceptedRevision with
  | some revision => revision.acceptedTools.find? (·.name = driverId)
  | none => some frozen

def verifySpawnFingerprint (spec : SpawnSpec) (frozenTools : List ToolFingerprint)
    (acceptedRevision : Option ExecutionRevision) (expectedRunId : Option JsString) :
    FingerprintVerdict :=
  if acceptedRevision.isSome && truthy expectedRunId &&
      acceptedRevision.map (·.runId) != expectedRunId then
    .drift (js "execution revision does not belong to this run")
  else match frozenTools.find? (·.name = spec.driverId) with
  | none => .ok
  | some frozen =>
    match fingerprintExecutable files spec.driverId spec.executable with
    | .error message => .drift (js "cannot fingerprint " ++ spec.driverId ++ js ": " ++ message)
    | .ok live =>
      match expectedTool acceptedRevision frozen spec.driverId with
      | none => .drift (js "execution revision does not cover " ++ spec.driverId)
      | some expected =>
        if live.realpath != expected.realpath || live.sha256 != expected.sha256 then
          .drift (js "executable drift for " ++ spec.driverId ++
            js ": frozen realpath/hash does not match live binary")
        else if truthy expected.capabilityHash &&
            live.capabilityHash != expected.capabilityHash then
          .drift (js "capability hash drift for " ++ spec.driverId)
        else if truthy expected.version && live.version != expected.version then
          .drift (js "version drift for " ++ spec.driverId)
        else .ok

/-- The loop of `fingerprintsFromSpecs`, with the executables seen so far. -/
def fingerprintsAfter (seen : List JsString) : List SpawnSpec → List ToolFingerprint
  | [] => []
  | spec :: rest =>
    if spec.executable ∈ seen then fingerprintsAfter seen rest
    else match fingerprintExecutable files spec.driverId spec.executable with
      | .ok tool => tool :: fingerprintsAfter (spec.executable :: seen) rest
      | .error _ => fingerprintsAfter (spec.executable :: seen) rest

def fingerprintsFromSpecs (specs : List SpawnSpec) : List ToolFingerprint :=
  fingerprintsAfter files [] specs

end Model

section Checks

variable [FileDigest] {files before later : FileSystem} {name path real : JsString}
  {bytes : List UInt8} {spec : SpawnSpec} {specs : List SpawnSpec}

def Resolves (files : FileSystem) (path real : JsString) (bytes : List UInt8) : Prop :=
  files.realpathSync path = .ok real ∧ files.readFileSync real = .ok bytes

def Readable (files : FileSystem) (path : JsString) : Prop := ∃ real bytes, Resolves files path real bytes

def Unchanged (before later : FileSystem) (path : JsString) : Prop :=
  ∃ real bytes, Resolves before path real bytes ∧ Resolves later path real bytes

/-- The hash tells the bytes each executable has later from those it had before. -/
def Distinguished (before later : FileSystem) (specs : List SpawnSpec) : Prop :=
  ∀ spec ∈ specs, ∀ real bytes liveReal liveBytes, Resolves before spec.executable real bytes →
    Resolves later spec.executable liveReal liveBytes →
    FileDigest.sha256 bytes = FileDigest.sha256 liveBytes → bytes = liveBytes

/-- For each spec, the first one of its driver, among those that no earlier one shares its
executable with, has an executable with the same real path. -/
def Keyed (files : FileSystem) (specs : List SpawnSpec) : Prop :=
  ∀ spec ∈ specs, ∃ lead, (firsts (·.executable) specs).find? (·.driverId = spec.driverId) = some lead ∧
    files.realpathSync lead.executable = files.realpathSync spec.executable

def toolOf (name real : JsString) (bytes : List UInt8) : ToolFingerprint :=
  let sha256 := FileDigest.sha256 bytes
  ⟨name, real, sha256, none, some (capabilityHashFor name real sha256)⟩

theorem fingerprintExecutable_of_resolves (resolves : Resolves files path real bytes) :
    fingerprintExecutable files name path = .ok (toolOf name real bytes) := by
  obtain ⟨found, content⟩ := resolves
  rw [fingerprintExecutable, found]
  change (do
    let sha256 ← hashFileBytes files real
    return ToolFingerprint.mk name real sha256 none (some (capabilityHashFor name real sha256))) = _
  rw [hashFileBytes, content]
  rfl

theorem resolves_of_fingerprint {tool : ToolFingerprint}
    (printed : fingerprintExecutable files name path = .ok tool) :
    ∃ real bytes, Resolves files path real bytes ∧ tool = toolOf name real bytes := by
  obtain ⟨real, found, rest⟩ := except_bind_ok.mp printed
  obtain ⟨sha256, hashed, made⟩ := except_bind_ok.mp rest
  cases content : files.readFileSync real with
  | error message =>
    rw [hashFileBytes, content] at hashed
    cases hashed
  | ok bytes =>
    rw [hashFileBytes, content] at hashed
    cases hashed
    cases made
    exact ⟨real, bytes, ⟨found, content⟩, rfl⟩

omit [FileDigest] in
theorem resolves_unique {otherReal : JsString} {otherBytes : List UInt8}
    (first : Resolves files path real bytes) (second : Resolves files path otherReal otherBytes) :
    real = otherReal ∧ bytes = otherBytes := by
  have sameReal : real = otherReal := Except.ok.inj (first.1.symm.trans second.1)
  subst sameReal
  exact ⟨rfl, Except.ok.inj (first.2.symm.trans second.2)⟩

theorem fingerprintsAfter_eq (seen : List JsString) (specs : List SpawnSpec) :
    fingerprintsAfter files seen specs = (firstsAfter (·.executable) seen specs).filterMap fun spec =>
      (fingerprintExecutable files spec.driverId spec.executable).toOption := by
  induction specs generalizing seen with
  | nil => rfl
  | cons spec rest ih =>
    rw [fingerprintsAfter, firstsAfter]
    split
    · exact ih seen
    · rw [filterMap_cons]
      cases fingerprintExecutable files spec.driverId spec.executable with
      | error message => exact ih _
      | ok tool => exact congrArg (tool :: ·) (ih _)

theorem find_frozen (readable : ∀ spec ∈ specs, Readable files spec.executable) (driver : JsString) :
    (fingerprintsFromSpecs files specs).find? (·.name = driver) =
      ((firsts (·.executable) specs).find? (·.driverId = driver)).bind fun lead =>
        (fingerprintExecutable files lead.driverId lead.executable).toOption := by
  rw [fingerprintsFromSpecs, fingerprintsAfter_eq]
  have all : ∀ lead ∈ firsts (·.executable) specs, Readable files lead.executable :=
    fun lead member => readable lead (mem_of_mem_firstsAfter member)
  change find? _ ((firsts (·.executable) specs).filterMap _) = _
  generalize firsts (·.executable) specs = leads at all
  induction leads with
  | nil => rfl
  | cons lead rest ih =>
    obtain ⟨real, bytes, resolves⟩ := all lead mem_cons_self
    have printed : (fingerprintExecutable files lead.driverId lead.executable).toOption =
        some (toolOf lead.driverId real bytes) := by
      rw [fingerprintExecutable_of_resolves resolves]
      rfl
    rw [filterMap_cons, printed]
    dsimp only
    rw [find?_cons, find?_cons]
    by_cases same : lead.driverId = driver
    · simp only [toolOf, same, decide_true, Option.bind_some]
      rw [← same, printed]
      rfl
    · simp only [toolOf, same, decide_false]
      exact ih fun other member => all other (mem_cons_of_mem _ member)

variable {tools : List ToolFingerprint}

theorem verify_unlisted
    (absent : tools.find? (·.name = spec.driverId) = none) :
    verifySpawnFingerprint files spec tools none none = .ok := by
  rw [verifySpawnFingerprint, absent]
  rfl

theorem verify_listed
    (listed : tools.find? (·.name = spec.driverId) = some (toolOf spec.driverId real bytes)) :
    verifySpawnFingerprint files spec tools none none = .ok ↔
      ∃ liveBytes, Resolves files spec.executable real liveBytes ∧
        FileDigest.sha256 liveBytes = FileDigest.sha256 bytes := by
  rw [verifySpawnFingerprint, listed]
  cases printed : fingerprintExecutable files spec.driverId spec.executable with
  | error message =>
    constructor
    · intro accepted
      cases accepted
    · rintro ⟨liveBytes, resolves, -⟩
      rw [fingerprintExecutable_of_resolves resolves] at printed
      cases printed
  | ok live =>
    obtain ⟨liveReal, liveBytes, resolves, rfl⟩ := resolves_of_fingerprint printed
    by_cases same : liveReal = real ∧ FileDigest.sha256 liveBytes = FileDigest.sha256 bytes
    · obtain ⟨rfl, hashes⟩ := same
      have agrees : toolOf spec.driverId liveReal liveBytes = toolOf spec.driverId liveReal bytes := by
        simp only [toolOf, hashes]
      simp only [expectedTool, agrees]
      simp [toolOf, truthy]
      exact ⟨liveBytes, resolves, hashes⟩
    · have differ : ((toolOf spec.driverId liveReal liveBytes).realpath !=
          (toolOf spec.driverId real bytes).realpath ||
          (toolOf spec.driverId liveReal liveBytes).sha256 !=
            (toolOf spec.driverId real bytes).sha256) = true := by
        simp only [toolOf, Bool.or_eq_true, bne_iff_ne]
        by_contra both
        exact same ⟨by_contra fun apart => both (.inl apart), by_contra fun apart => both (.inr apart)⟩
      simp only [expectedTool, differ, if_true]
      constructor
      · intro accepted
        cases accepted
      · rintro ⟨otherBytes, other, hashes⟩
        obtain ⟨sameReal, sameBytes⟩ := resolves_unique resolves other
        exact absurd ⟨sameReal, sameBytes ▸ hashes⟩ same

theorem find_lead {driver : JsString} {lead : SpawnSpec}
    (readable : ∀ spec ∈ specs, Readable files spec.executable)
    (found : (firsts (·.executable) specs).find? (·.driverId = driver) = some lead)
    (resolves : Resolves files lead.executable real bytes) :
    (fingerprintsFromSpecs files specs).find? (·.name = driver) = some (toolOf driver real bytes) := by
  have named : decide (lead.driverId = driver) = true := by
    simpa using find?_some found
  rw [find_frozen readable, found, Option.bind_some, fingerprintExecutable_of_resolves resolves,
    of_decide_eq_true named]
  rfl

def FileSystem.gone : FileSystem where
  realpathSync _ := .error (js "ENOENT")
  readFileSync _ := .error (js "ENOENT")

section

variable (readable : ∀ spec ∈ specs, Readable before spec.executable)

include readable

theorem keyed_checks (keyed : Keyed before specs) (distinguished : Distinguished before later specs)
    (member : spec ∈ specs) :
    verifySpawnFingerprint later spec (fingerprintsFromSpecs before specs) none none = .ok ↔
      Unchanged before later spec.executable := by
  obtain ⟨lead, found, samePath⟩ := keyed spec member
  obtain ⟨real, bytes, resolves⟩ := readable spec member
  have leads : Resolves before lead.executable real bytes := ⟨samePath.trans resolves.1, resolves.2⟩
  rw [verify_listed (find_lead readable found leads)]
  constructor
  · rintro ⟨liveBytes, live, hashes⟩
    have same := distinguished spec member real bytes real liveBytes resolves live hashes.symm
    exact ⟨real, bytes, resolves, same ▸ live⟩
  · rintro ⟨liveReal, liveBytes, first, live⟩
    obtain ⟨rfl, rfl⟩ := resolves_unique resolves first
    exact ⟨bytes, live, rfl⟩

theorem keyed_of_checks
    (checks : ∀ later, Distinguished before later specs → ∀ spec ∈ specs, verifySpawnFingerprint later spec (fingerprintsFromSpecs before specs) none none = .ok ↔ Unchanged before later spec.executable) :
    Keyed before specs := by
  intro spec member
  cases found : (firsts (·.executable) specs).find? (·.driverId = spec.driverId) with
  | none =>
    -- no fingerprint has the driver's name, so nothing is compared
    have absent : (fingerprintsFromSpecs before specs).find? (·.name = spec.driverId) = none := by
      rw [find_frozen readable, found]
      rfl
    have apart : Distinguished before .gone specs := by
      intro other _ _ _ _ _ _ live
      cases live.1
    obtain ⟨real, bytes, _, live⟩ := (checks .gone apart spec member).mp (verify_unlisted absent)
    cases live.1
  | some lead =>
    refine ⟨lead, rfl, ?_⟩
    obtain ⟨real, bytes, resolves⟩ := readable spec member
    obtain ⟨leadReal, leadBytes, leads⟩ :=
      readable lead (mem_of_mem_firstsAfter (mem_of_find?_eq_some found))
    have apart : Distinguished before before specs := by
      intro other _ _ _ _ _ first second _
      exact (resolves_unique first second).2
    have accepted := (checks before apart spec member).mpr ⟨real, bytes, resolves, resolves⟩
    obtain ⟨liveBytes, live, _⟩ := (verify_listed (find_lead readable found leads)).mp accepted
    rw [leads.1, live.1]

end

/-- Exactly when the lists of specs are such that each driver's entry is about the executable of
every spec of it, a later check tells a changed executable from an unchanged one. -/
theorem spawn_checks (readable : ∀ spec ∈ specs, Readable before spec.executable) :
    (∀ later, Distinguished before later specs → ∀ spec ∈ specs,
      verifySpawnFingerprint later spec (fingerprintsFromSpecs before specs) none none = .ok ↔
        Unchanged before later spec.executable) ↔ Keyed before specs := by
  constructor
  · exact keyed_of_checks readable
  · intro keyed later distinguished spec member
    exact keyed_checks readable keyed distinguished member

end Checks

@[reducible] def sampleDigest : FileDigest where
  sha256 bytes :=
    if bytes = ascii "cfuse 1\n" then
      js "1ce6f3811e4bdadd40979d865161073a471b9cbe21260e3dccd753749711b1e7"
    else if bytes = ascii "cfuse 2\n" then
      js "e4262db8859575f458651e81c54e082b54368f99c1dfcda8984658ef7c44c964"
    else if bytes = ascii "kimi 1\n" then
      js "29f97167b4d61c005e0c114d3b3f76286214ef86e52dbdf8f86e0ff6b8bc91f2"
    else if bytes = encode (js "claude-stream-json" ++ [0] ++ js "/opt/cfuse/bin/cfuse" ++ [0] ++
        js "1ce6f3811e4bdadd40979d865161073a471b9cbe21260e3dccd753749711b1e7") then
      js "d52fd752a1f885cd457aa75f4b43f9f44a99641e32b1d0c6a002de3cb5362cfd"
    else js "0f7e5b83d7765ba963145eeb81de65910015d5112dddd31fd74c0fd92064868c"

/-- Two commands on the path, `cfuse` with these bytes. -/
def installed (cfuse : String) : FileSystem where
  realpathSync path :=
    if path = js "/usr/bin/cfuse" then .ok (js "/opt/cfuse/bin/cfuse")
    else if path = js "/usr/bin/kimi" then .ok (js "/opt/kimi/bin/kimi")
    else .error (js "ENOENT")
  readFileSync path :=
    if path = js "/opt/cfuse/bin/cfuse" then .ok (ascii cfuse)
    else if path = js "/opt/kimi/bin/kimi" then .ok (ascii "kimi 1\n")
    else .error (js "ENOENT")

def cfuseSpec : SpawnSpec := ⟨js "claude-stream-json", js "/usr/bin/cfuse"⟩

def kimiSpec : SpawnSpec := ⟨js "kimi-stream-json", js "/usr/bin/kimi"⟩

theorem resolves_cfuse (cfuse : String) :
    Resolves (installed cfuse) (js "/usr/bin/cfuse") (js "/opt/cfuse/bin/cfuse") (ascii cfuse) :=
  ⟨rfl, rfl⟩

theorem resolves_kimi (cfuse : String) :
    Resolves (installed cfuse) (js "/usr/bin/kimi") (js "/opt/kimi/bin/kimi") (ascii "kimi 1\n") := by
  constructor
  · rfl
  · rfl

/-- Two seats of one driver and one of another are all checked against their own binaries. -/
theorem spawn_checks_seats :
    Keyed (installed "cfuse 1\n") [cfuseSpec, kimiSpec, cfuseSpec] ∧
      ∀ later, @Distinguished sampleDigest (installed "cfuse 1\n") later [cfuseSpec, kimiSpec, cfuseSpec] →
        ∀ spec ∈ [cfuseSpec, kimiSpec, cfuseSpec],
          @verifySpawnFingerprint sampleDigest later spec
            (@fingerprintsFromSpecs sampleDigest (installed "cfuse 1\n") [cfuseSpec, kimiSpec, cfuseSpec])
            none none = .ok ↔ Unchanged (installed "cfuse 1\n") later spec.executable := by
  have keyed : Keyed (installed "cfuse 1\n") [cfuseSpec, kimiSpec, cfuseSpec] := by
    intro spec member
    have own : (firsts (·.executable) [cfuseSpec, kimiSpec, cfuseSpec]).find?
        (·.driverId = spec.driverId) = some spec := by
      revert spec
      decide +kernel
    exact ⟨spec, own, rfl⟩
  have readable : ∀ spec ∈ [cfuseSpec, kimiSpec, cfuseSpec],
      Readable (installed "cfuse 1\n") spec.executable := by
    intro spec member
    simp only [mem_cons, not_mem_nil, or_false] at member
    obtain rfl | rfl | rfl := member
    · exact ⟨_, _, resolves_cfuse _⟩
    · exact ⟨_, _, resolves_kimi _⟩
    · exact ⟨_, _, resolves_cfuse _⟩
  exact ⟨keyed, (@spawn_checks sampleDigest _ _ readable).mpr keyed⟩

/-- A second driver of one executable is not checked, and a second executable of one driver is
compared with the first. -/
theorem shared_keys :
    (@verifySpawnFingerprint sampleDigest (installed "cfuse 2\n") ⟨js "cursor-stream-json", js "/usr/bin/cfuse"⟩
        (@fingerprintsFromSpecs sampleDigest (installed "cfuse 1\n")
          [cfuseSpec, ⟨js "cursor-stream-json", js "/usr/bin/cfuse"⟩]) none none = .ok ∧
      ¬ Unchanged (installed "cfuse 1\n") (installed "cfuse 2\n") (js "/usr/bin/cfuse")) ∧
    @verifySpawnFingerprint sampleDigest (installed "cfuse 1\n") ⟨js "claude-stream-json", js "/usr/bin/kimi"⟩
        (@fingerprintsFromSpecs sampleDigest (installed "cfuse 1\n")
          [cfuseSpec, ⟨js "claude-stream-json", js "/usr/bin/kimi"⟩]) none none =
        .drift (js "executable drift for claude-stream-json: frozen realpath/hash does not match live binary") ∧
      Unchanged (installed "cfuse 1\n") (installed "cfuse 1\n") (js "/usr/bin/kimi") := by
  refine ⟨⟨?_, ?_⟩, ?_, ?_⟩
  · decide +kernel
  · rintro ⟨real, bytes, first, later⟩
    obtain ⟨rfl, rfl⟩ := resolves_unique (resolves_cfuse _) first
    obtain ⟨-, same⟩ := resolves_unique (resolves_cfuse _) later
    revert same
    decide +kernel
  · decide +kernel
  · exact ⟨_, _, resolves_kimi _, resolves_kimi _⟩

end CouncilKit.Auto.SpawnFingerprint
