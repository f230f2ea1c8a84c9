import CouncilKit.Data.FileTree
import CouncilKit.Data.NumberText
import CouncilKit.Data.RegexSpans
import CouncilKit.Data.Utf8Encode

namespace CouncilKit.Auto.SpecDetect

open Data JsString Regex FileTree Utf8

/-! A contract for a review is looked for at the paths that the text of the pull request names. -/

def SPEC_CONVENTIONAL_PREFIXES : List JsString :=
  [js "docs/plans/", js "docs/design/", js "docs/vibespec/", js "docs/verification/"]

def SPEC_CONTRACT_BASENAMES : List JsString :=
  [js "prd.md", js "design.md", js "tech.md", js "tasks.md", js "verify.md", js "acceptance.md",
    js "contract.md"]

/-- `[\w./@+-]` -/
def isPathUnit (unit : CodeUnit) : Bool := isWord unit || (js "./@+-").contains unit

def PATH_REF_LEAD : Regex :=
  any [.lineStart, .unitWhere fun unit => isSpace unit || (js "`\"'([\x7b").contains unit]

/-- `docs\/(?:plans|design|vibespec|verification)\/[\w./@+-]+\.(?:md|mjs|json|txt)` or
`[\w./@+-]*(?:acceptance|contract|VERIFY|PRD|DESIGN|TECH)[\w./@+-]*\.md` -/
def PATH_REF : Regex :=
  any [
    all [caseless (js "docs/"),
      any ([js "plans", js "design", js "vibespec", js "verification"].map caseless),
      caseless (js "/"), plus (.unitWhere isPathUnit), caseless (js "."),
      any ([js "md", js "mjs", js "json", js "txt"].map caseless)],
    all [star (.unitWhere isPathUnit),
      any ([js "acceptance", js "contract", js "VERIFY", js "PRD", js "DESIGN", js "TECH"].map caseless),
      star (.unitWhere isPathUnit), caseless (js ".md")]]

def PATH_REF_TAIL : Regex :=
  any [.lineStop, .unitWhere fun unit => isSpace unit || (js "`\"' )],.:;").contains unit]

def PATH_REF_RE : Regex :=
  .seq PATH_REF_LEAD (.seq (.capture 1 PATH_REF) (.lookahead true PATH_REF_TAIL))

/-- `/(?:^|\/)[^/]*(?:acceptance|contract)[^/]*\.md$/i` -/
def CONTRACT_NAME : Regex :=
  all [any [.start, lit (js "/")], star (noneOf (js "/")),
    any [caseless (js "acceptance"), caseless (js "contract")], star (noneOf (js "/")),
    caseless (js ".md"), .stop]

/-- `/(vibespec|docs\/plans|docs\/design|docs\/verification)/i` -/
def CONVENTIONAL_DIRECTORY : Regex :=
  any ([js "vibespec", js "docs/plans", js "docs/design", js "docs/verification"].map caseless)

/-- `/\.(md|mjs|json)$/i` -/
def MARKDOWN_NAME : Regex :=
  all [lit (js "."), any ([js "md", js "mjs", js "json"].map caseless), .stop]

def slashes (text : JsString) : JsString := text.map fun unit => if unit = 0x5C then 0x2F else unit

def normalizeSpecRef (raw : JsString) : Option JsString :=
  let value := slashes (trim raw)
  if value = [] then none
  else
    let value := if (js "./").isPrefixOf value then value.drop 2 else value
    if isAbsolute value ∨ js ".." <:+: value then none else some value

def basename (path : JsString) : JsString :=
  ((splitOn 0x2F path).reverse.dropWhile (· = [])).headD []

section Paths

variable [Unicode]

def isConventionalSpecPath (pathLike : JsString) : Bool :=
  match normalizeSpecRef pathLike with
  | none | some [] => false
  | some normalized =>
    SPEC_CONVENTIONAL_PREFIXES.any (·.isPrefixOf normalized) ||
      SPEC_CONTRACT_BASENAMES.contains (toLowerCase (basename normalized)) || CONTRACT_NAME.test normalized

/-- The path a reference stands for, when it is one that counts. -/
def specRef (raw : JsString) : Option JsString :=
  (normalizeSpecRef raw).filter fun path => path ≠ [] ∧ isConventionalSpecPath path

def extractConventionalSpecRefs (text : JsString) : List JsString :=
  unique ((matchAll PATH_REF_RE text).filterMap fun found => specRef (trim ((found.group 1).getD [])))

end Paths

def AGGREGATE_PROMPT_BUDGET := 200 * 1024

def AGGREGATE_PROMPT_RESERVED_OVERHEAD := 48 * 1024

def MAX_SPEC_TEXT_IN_PROMPT := AGGREGATE_PROMPT_BUDGET - AGGREGATE_PROMPT_RESERVED_OVERHEAD

def cutBefore (buf : List UInt8) : Nat → Nat
  | 0 => 0
  | cut + 1 => if buf.getD (cut + 1) 0 &&& 0xC0 = 0x80 then cutBefore buf cut else cut + 1

def truncateSpecBody (text : JsString) (cap : Nat) : JsString :=
  let buf := encode text
  if buf.length ≤ cap then text
  else decode (buf.take (cutBefore buf cap)) ++ js "\n[truncated at " ++ ofNat cap ++ js " bytes]"

/-- A path as it is tried, and the absolute one that is recorded for it. -/
structure SpecTry where
  place : List JsString
  segments : List JsString
  recorded : List JsString

structure SpecFile where
  source : JsString
  text : JsString

variable {tree : FileTree}

def specTries (cwd : Directory tree) (repoRoot : Option (Directory tree)) (normalized : JsString) :
    List SpecTry :=
  (if isAbsolute normalized then
    ⟨[], splitOn 0x2F normalized.tail, splitOn 0x2F normalized.tail⟩
  else ⟨cwd.place, splitOn 0x2F normalized, resolvePath cwd.place normalized⟩) ::
    repoRoot.toList.map fun root =>
      ⟨[], resolvePath root.place normalized, resolvePath root.place normalized⟩

def recordedSpecSource (tree : FileTree) (candidate : SpecTry) : JsString :=
  absolute ((tree.realpath [] candidate.recorded).getD candidate.recorded)

def readSpec (tree : FileTree) (candidate : SpecTry) : Option SpecFile :=
  match tree.stat candidate.place candidate.segments,
    tree.lstat candidate.place candidate.segments,
    tree.readFile candidate.place candidate.segments with
  | some _, some (.file _), some bytes =>
    let body := decode bytes
    if AGGREGATE_PROMPT_BUDGET < (encode body).length then none
    else some ⟨recordedSpecSource tree candidate, truncateSpecBody body MAX_SPEC_TEXT_IN_PROMPT⟩
  | _, _, _ => none

def resolveReadableSpecFile (cwd : Directory tree) (repoRoot : Option (Directory tree))
    (pathOrLabel : JsString) : Option SpecFile :=
  let normalized := slashes (trim pathOrLabel)
  if normalized = [] then none else (specTries cwd repoRoot normalized).findSome? (readSpec tree)

/-- `walk` of `listMarkdownFiles`, which goes `levels` deep. -/
def walkMarkdown (tree : FileTree) (limit : Nat) : (levels : Nat) → (current : List JsString) →
    (out : List (List JsString)) → List (List JsString)
  | 0, _, out => out
  | levels + 1, current, out =>
    if limit ≤ out.length then out
    else match tree.readDir [] current with
      | none => out
      | some entries => entries.foldl (fun out (name, node) =>
          let full := current ++ [name.text]
          if limit ≤ out.length then out
          else match node with
            | .dir _ =>
              if name.text = js "node_modules" ∨ name.text = js ".git" then out
              else walkMarkdown tree limit levels full out
            | .file _ =>
              match MARKDOWN_NAME.test name.text, tree.stat [] full with
              | true, some (.file _) => out ++ [full]
              | _, _ => out
            | .link _ => out) out

def listMarkdownFiles (tree : FileTree) (dir : List JsString) (limit : Nat) : List (List JsString) :=
  walkMarkdown tree limit 7 dir []

inductive SpecOrigin where
  | explicitFlag | autoDetect
  deriving DecidableEq

structure DetectedSpec where
  source : JsString
  text : JsString
  origin : SpecOrigin
  candidates : List JsString
  deriving DecidableEq

section Detection

variable [Unicode]

def wantedNames (searchText : JsString) : List JsString :=
  SPEC_CONTRACT_BASENAMES.filter (· <:+: toLowerCase searchText)

/-- What the text asks a listed file to be. -/
def asksFor (root : Directory tree) (searchText : JsString) (file : List JsString) : Bool :=
  if wantedNames searchText = [] then
    isConventionalSpecPath (join (js "/") (relativePath root.place file))
  else (wantedNames searchText).contains (toLowerCase (file.getLastD []))

def scanRepoForReferencedContract (cwd root : Directory tree) (searchText : JsString) : Option SpecFile :=
  if wantedNames searchText = [] ∧ CONVENTIONAL_DIRECTORY.test searchText = false then none
  else SPEC_CONVENTIONAL_PREFIXES.findSome? fun folder =>
    let dir := resolvePath root.place folder
    if (tree.stat [] dir).isNone then none
    else (listMarkdownFiles tree dir 40).findSome? fun file =>
      if asksFor root searchText file then
        resolveReadableSpecFile cwd (some root) (join (js "/") (relativePath root.place file))
      else none

/-- The root is `null` or the real path of a directory: `resolveGitDir` gives no other. -/
def autoDetectSpec (cwd : Directory tree) (repoRoot : Option (Directory tree))
    (searchText : JsString) : Option DetectedSpec :=
  let candidates := (extractConventionalSpecRefs searchText).filterMap specRef
  match candidates.findSome? (resolveReadableSpecFile cwd repoRoot), repoRoot with
  | some found, _ => some ⟨found.source, found.text, .autoDetect, candidates⟩
  | none, some root =>
    if candidates.all (!·.contains 0x2F) then
      (scanRepoForReferencedContract cwd root searchText).map fun found =>
        ⟨found.source, found.text, .autoDetect, [found.source]⟩
    else none
  | none, none => none

end Detection

end CouncilKit.Auto.SpecDetect
