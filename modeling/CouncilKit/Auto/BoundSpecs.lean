import CouncilKit.Auto.SpecDetect

namespace CouncilKit.Auto.SpecDetect

open Data JsString Regex FileTree Utf8 Option
open List hiding splitOn any all

variable {tree : FileTree} {cwd : Directory tree} {repoRoot : Option (Directory tree)}
  {searchText path raw : JsString} {spec : DetectedSpec} {file : SpecFile}

theorem lowerAscii_pathUnit (unit : CodeUnit) : isPathUnit (lowerAscii unit) = isPathUnit unit := by
  rw [lowerAscii]
  split
  · rename_i upper
    have letters : isAlpha (unit + 32) = true ∧ isAlpha unit = true := by
      simp only [isAlpha, Bool.or_eq_true, Bool.and_eq_true, decide_eq_true_eq] at upper ⊢
      grind
    simp [isPathUnit, isWord, letters]
  · rfl

theorem takes_caseless {text : JsString} (each : text.all isPathUnit = true) :
    (caseless text).Takes isPathUnit := by
  refine takes_all fun pattern member => ?_
  obtain ⟨wanted, inText, rfl⟩ := mem_map.mp member
  intro unit same
  rw [← lowerAscii_pathUnit, eq_of_beq same, lowerAscii_pathUnit]
  exact all_eq_true.mp each wanted inText

theorem takes_words {words : List JsString} (each : words.all (·.all isPathUnit) = true) :
    (any (words.map caseless)).Takes isPathUnit := by
  refine takes_any fun pattern member => ?_
  obtain ⟨word, listed, rfl⟩ := mem_map.mp member
  exact takes_caseless (all_eq_true.mp each word listed)

theorem takes_pathRef : PATH_REF.Takes isPathUnit :=
  have units : (Regex.unitWhere isPathUnit).Takes isPathUnit := fun _ accepted => accepted
  ⟨⟨takes_caseless (by decide), takes_words (by decide), takes_caseless (by decide), units,
    takes_caseless (by decide), takes_words (by decide)⟩,
    units, takes_words (by decide), units, takes_caseless (by decide)⟩

theorem pathRef_run {behind ahead : List CodeUnit} {final : Cursor}
    (ran : PATH_REF_RE.run ⟨behind, ahead, []⟩ some = some final) :
    final.ahead <:+ ahead ∧ ∃ raw, final.captures = [(1, raw)] ∧ raw <:+: ahead ∧
      raw.all isPathUnit = true := by
  have lead : PATH_REF_LEAD.Takes fun _ => true := ⟨trivial, fun _ _ => rfl⟩
  have tail : PATH_REF_TAIL.Takes fun _ => true := ⟨trivial, fun _ _ => rfl⟩
  obtain ⟨middle, ⟨fresh, before, split, -⟩, ran⟩ := run_passed lead ran
  obtain ⟨after, ⟨kept, taken, rest, each⟩, ran⟩ := run_passed takes_pathRef ran
  have ended := some.inj (lookahead_passed tail ran)
  have size : middle.ahead.take (middle.ahead.length - after.ahead.length) = taken := by
    rw [rest, length_append, Nat.add_sub_cancel, take_left]
  have whole : ahead = before ++ taken ++ after.ahead := by
    rw [append_assoc, ← rest]
    exact split
  rw [← ended]
  refine ⟨⟨_, whole.symm⟩, taken, ?_, ⟨before, after.ahead, whole.symm⟩, all_eq_true.mpr each⟩
  rw [size, kept, fresh]

theorem mem_splitOn {separator : CodeUnit} {segment text : JsString}
    (member : segment ∈ splitOn separator text) : segment <:+: text := by
  suffices along : ∀ first rest, splitOn separator text = first :: rest →
      first <+: text ∧ ∀ segment ∈ rest, segment <:+: text by
    cases parts : splitOn separator text with
    | nil => exact absurd parts (splitOn_ne_nil separator)
    | cons first rest =>
      obtain ⟨begins, inside⟩ := along first rest parts
      rw [parts] at member
      exact (mem_cons.mp member).elim (fun same => same ▸ begins.isInfix) (inside segment)
  clear member
  induction text with
  | nil =>
    intro first rest parts
    cases parts
    exact ⟨prefix_rfl, by simp⟩
  | cons unit text ih =>
    intro first rest parts
    rw [splitOn] at parts
    cases more : splitOn separator text with
    | nil => exact absurd more (splitOn_ne_nil separator)
    | cons next others =>
      obtain ⟨begins, inside⟩ := ih next others more
      rw [more] at parts
      split at parts
      · cases parts
        refine ⟨ nil_prefix, fun segment member => ?_⟩
        obtain rfl | member := mem_cons.mp member
        · exact infix_cons begins.isInfix
        · exact infix_cons (inside segment member)
      · cases parts
        exact ⟨cons_prefix_cons.mpr ⟨rfl, begins⟩, fun segment member => infix_cons (inside segment member)⟩

/-- A relative path without `..`. -/
def Level (path : JsString) : Prop := isAbsolute path = false ∧ js ".." ∉ splitOn 0x2F path

theorem solid_of_units (units : raw.all isPathUnit = true) : trim raw = raw ∧ slashes raw = raw := by
  have each {unit : CodeUnit} (member : unit ∈ raw) : isSpace unit = false ∧ unit ≠ 0x5C := by
    have allowed := all_eq_true.mp units unit member
    constructor
    · have marks : js "./@+-" = [0x2E, 0x2F, 0x40, 0x2B, 0x2D] := rfl
      have above : 0x2B ≤ unit ∧ unit ≤ 0x7A := by
        simp only [isPathUnit, isWord, isDigit, isAlpha, marks, contains_eq_mem, mem_cons, not_mem_nil,
          Bool.or_eq_true, Bool.and_eq_true, decide_eq_true_eq, beq_iff_eq] at allowed
        grind
      rw [Bool.eq_false_iff, isSpace]
      simp only [ne_eq, Bool.or_eq_true, Bool.and_eq_true, decide_eq_true_eq, beq_iff_eq, not_or]
      and_intros <;> grind
    · rintro rfl
      revert allowed
      decide
  refine ⟨trim_of_ends ?_ ?_, (map_congr_left fun unit member => if_neg (each member).2).trans (map_id' _)⟩
  · exact fun unit first => (each (mem_of_head? first)).1
  · exact fun unit last => (each (mem_of_getLast? last)).1

theorem normalizeSpecRef_units (units : raw.all isPathUnit = true)
    (found : normalizeSpecRef raw = some path) : path <:+ raw ∧ Level path := by
  obtain ⟨trimmed, straight⟩ := solid_of_units units
  rw [normalizeSpecRef, trimmed, straight] at found
  split at found
  · cases found
  · dsimp only at found
    have plain {value : JsString} (suffix : value <:+ raw)
        (kept : (if isAbsolute value ∨ js ".." <:+: value then none else some value) = some path) :
        path <:+ raw ∧ Level path := by
      split at kept
      · cases kept
      · rename_i level
        cases kept
        rw [not_or] at level
        exact ⟨suffix, Bool.eq_false_iff.mpr level.1, fun member => level.2 (mem_splitOn member)⟩
    split at found
    · exact plain (drop_suffix 2 raw) found
    · exact plain (suffix_refl raw) found

/-- The file at a path below a directory, unless a link stands on the way. -/
def SpecAt (tree : FileTree) (base : List JsString) (path : JsString) (spec : SpecFile) : Prop :=
  tree.LinkOn base (named (splitOn 0x2F path)) ∨
    ∃ bytes, tree.get (base ++ named (splitOn 0x2F path)) = some (.file bytes) ∧
      spec = ⟨absolute (base ++ named (splitOn 0x2F path)),
        truncateSpecBody (decode bytes) MAX_SPEC_TEXT_IN_PROMPT⟩

theorem readSpec_some {candidate : SpecTry} (read : readSpec tree candidate = some file) :
    ∃ bytes, tree.readFile candidate.place candidate.segments = some bytes ∧
      file = ⟨recordedSpecSource tree candidate,
        truncateSpecBody (decode bytes) MAX_SPEC_TEXT_IN_PROMPT⟩ := by
  rw [readSpec] at read
  split at read
  · rename_i bytes _ _ stored
    dsimp only at read
    split at read
    · cases read
    · exact ⟨bytes, stored, (some.inj read).symm⟩
  · cases read

theorem readSpec_at {dir : Directory tree} {place segments : List JsString} (level : Level path)
    (read : readSpec tree ⟨place, segments, resolvePath dir.place path⟩ = some file)
    (same : ∀ bytes, tree.readFile place segments = some bytes →
      ¬ tree.LinkOn dir.place (named (splitOn 0x2F path)) →
        tree.get (dir.place ++ named (splitOn 0x2F path)) = some (.file bytes)) :
    SpecAt tree dir.place path file := by
  obtain ⟨bytes, stored, rfl⟩ := readSpec_some read
  by_cases plain : tree.LinkOn dir.place (named (splitOn 0x2F path))
  · exact .inl plain
  · refine .inr ⟨bytes, same bytes stored plain, ?_⟩
    rw [recordedSpecSource, resolvePath_level level.2, realpath_level dir level.2 plain]

theorem resolved_at {label : JsString} (found : resolveReadableSpecFile cwd repoRoot label = some file) :
    ∃ base, (base = cwd.place ∨ ∃ root, repoRoot = some root ∧ base = root.place) ∧
      (Level (slashes (trim label)) → SpecAt tree base (slashes (trim label)) file) := by
  rw [resolveReadableSpecFile] at found
  generalize slashes (trim label) = path at found
  split at found
  · cases found
  · obtain ⟨candidate, listed, read⟩ := exists_of_findSome?_eq_some found
    obtain rfl | listed := mem_cons.mp listed
    · refine ⟨cwd.place, .inl rfl, fun level => ?_⟩
      rw [if_neg (Bool.eq_false_iff.mp level.1)] at read
      exact readSpec_at level read fun bytes => readFile_level level.2
    · obtain ⟨root, given, rfl⟩ := mem_map.mp listed
      refine ⟨root.place, .inr ⟨root, mem_toList.mp given, rfl⟩, fun level => ?_⟩
      refine readSpec_at level read fun bytes stored plain => ?_
      rw [resolvePath_level level.2] at stored
      exact readFile_below root level.2 stored plain

section Detection

variable [Unicode]

theorem candidate_named (member : path ∈ (extractConventionalSpecRefs searchText).filterMap specRef) :
    path <:+: searchText ∧ path.all isPathUnit = true ∧ isConventionalSpecPath path = true ∧
      Level path := by
  have suffixed {raw path : JsString} (units : raw.all isPathUnit = true)
      (found : specRef raw = some path) : path <:+ raw ∧ path.all isPathUnit = true ∧
        isConventionalSpecPath path = true ∧ Level path := by
    obtain ⟨normal, counts⟩ := filter_eq_some_iff.mp found
    obtain ⟨suffix, level⟩ := normalizeSpecRef_units units normal
    refine ⟨suffix, ?_, (of_decide_eq_true counts).2, level⟩
    exact all_eq_true.mpr fun unit member => all_eq_true.mp units unit (suffix.subset member)
  obtain ⟨ref, listed, second⟩ := mem_filterMap.mp member
  obtain ⟨hit, found, first⟩ := mem_filterMap.mp (mem_unique.mp listed)
  obtain ⟨raw, captured, infix_, units⟩ := mem_matchAll
    (P := fun groups => ∃ raw, groups = [(1, raw)] ∧ raw <:+: searchText ∧ raw.all isPathUnit = true)
    (fun inside ran => by
      obtain ⟨shrinks, raw, captured, part, units⟩ := pathRef_run ran
      exact ⟨shrinks, raw, captured, part.trans inside.isInfix, units⟩) found
  have whole : (hit.group 1).getD [] = raw := by rw [Match.group, captured]; rfl
  rw [whole, (solid_of_units units).1] at first
  obtain ⟨suffix, units, -⟩ := suffixed units first
  obtain ⟨again, named_⟩ := suffixed units second
  exact ⟨(again.trans suffix).isInfix.trans infix_, named_⟩

/-- A file below a conventional directory of the root that answers what the text asks for. -/
def Listed (root : Directory tree) (searchText path : JsString) : Prop :=
  (wantedNames searchText ≠ [] ∨ CONVENTIONAL_DIRECTORY.test searchText = true) ∧
    ∃ folder ∈ SPEC_CONVENTIONAL_PREFIXES,
      ∃ file ∈ listMarkdownFiles tree (resolvePath root.place folder) 40,
        asksFor root searchText file = true ∧
          path = slashes (trim (join (js "/") (relativePath root.place file)))

theorem scanned_listed {root : Directory tree}
    (found : scanRepoForReferencedContract cwd root searchText = some file) :
    ∃ label, resolveReadableSpecFile cwd (some root) label = some file ∧
      Listed root searchText (slashes (trim label)) := by
  rw [scanRepoForReferencedContract] at found
  split at found
  · cases found
  · rename_i asked
    obtain ⟨folder, conventional, found⟩ := exists_of_findSome?_eq_some found
    dsimp only at found
    split at found
    · cases found
    · obtain ⟨listed, member, found⟩ := exists_of_findSome?_eq_some found
      split at found
      · rename_i answers
        refine ⟨_, found, ?_, folder, conventional, listed, member, answers, rfl⟩
        rw [not_and_or, Bool.not_eq_false] at asked
        exact asked
      · cases found

/-- A file of the working directory or of the root, at a path that the text has or that a
listing of the root has. -/
def BoundWithin (cwd : Directory tree) (repoRoot : Option (Directory tree)) (searchText : JsString)
    (spec : DetectedSpec) : Prop :=
  ∃ base path, (base = cwd.place ∨ ∃ root, repoRoot = some root ∧ base = root.place) ∧
    (path <:+: searchText ∧ path.all isPathUnit = true ∧ isConventionalSpecPath path = true ∧ Level path ∨
      (∀ ref ∈ (extractConventionalSpecRefs searchText).filterMap specRef, 0x2F ∉ ref) ∧
        ∃ root, repoRoot = some root ∧ Listed root searchText path) ∧
    (Level path → SpecAt tree base path ⟨spec.source, spec.text⟩)

theorem autoDetectSpec_within (bound : autoDetectSpec cwd repoRoot searchText = some spec) :
    BoundWithin cwd repoRoot searchText spec := by
  unfold autoDetectSpec at bound
  dsimp only at bound
  split at bound
  · rename_i file found
    cases bound
    obtain ⟨path, member, found⟩ := exists_of_findSome?_eq_some found
    obtain ⟨part, units, conventional, level⟩ := candidate_named member
    obtain ⟨base, inside, at_⟩ := resolved_at found
    obtain ⟨trimmed, straight⟩ := solid_of_units units
    rw [trimmed, straight] at at_
    exact ⟨base, path, inside, .inl ⟨part, units, conventional, level⟩, at_⟩
  · rename_i root _
    split at bound
    · rename_i plain
      obtain ⟨file, found, rfl⟩ := map_eq_some_iff.mp bound
      obtain ⟨label, found, listed⟩ := scanned_listed found
      obtain ⟨base, inside, at_⟩ := resolved_at found
      refine ⟨base, _, inside, .inr ⟨fun ref member => ?_, root, rfl, listed⟩, at_⟩
      simpa using all_eq_true.mp plain ref member
    · cases bound
  · cases bound

end Detection

attribute [local instance] Unicode.ascii

def fileName (text : JsString)
    (proper : text ≠ [] ∧ text ≠ js "." ∧ text ≠ js ".." ∧ 0x2F ∉ text := by decide) : FileName :=
  ⟨text, proper⟩

/-- A plan stands in `home`, and nothing in `repo`. -/
def planTree : FileTree :=
  .dir [(fileName (js "home"), .dir [(fileName (js "docs"),
      .dir [(fileName (js "plans"), .dir [(fileName (js "a.md"), .file [0x41, 0x31])])])]),
    (fileName (js "repo"), .dir [])]

def planHome : Directory planTree := ⟨[js "home"], _, rfl⟩

def planRepo : Directory planTree := ⟨[js "repo"], _, rfl⟩

def planSpec : DetectedSpec :=
  ⟨js "/home/docs/plans/a.md", js "A1", .autoDetect, [js "docs/plans/a.md"]⟩

theorem plan_within : BoundWithin planHome none (js "see docs/plans/a.md") planSpec :=
  autoDetectSpec_within (by decide +kernel)

theorem plan_beside_root : ¬ ∀ (tree : FileTree) (cwd root : Directory tree) (searchText : JsString)
    (spec : DetectedSpec), autoDetectSpec cwd (some root) searchText = some spec →
      ∃ names, spec.source = absolute (root.place ++ names) := by
  intro every
  obtain ⟨names, same⟩ := every planTree planHome planRepo (js "see docs/plans/a.md") planSpec
    (by decide +kernel)
  have second := congrArg (·[1]?) same
  cases names <;> cases second

end CouncilKit.Auto.SpecDetect
