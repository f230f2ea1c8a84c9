import CouncilKit.Auto.CandidateRef

namespace CouncilKit.Auto

open Data Repair Review Dialogue List Except

inductive RefValue where
  | object (sha : JsString)
  | symbolic (target : JsString)

structure Repository where
  refs : JsString → Option RefValue
  typeOf : JsString → Option JsString
  ancestor : JsString → JsString → Prop

def Repository.setRef (repository : Repository) (ref : JsString) (value : RefValue) : Repository :=
  { repository with refs := fun name => if name = ref then some value else repository.refs name }

/-- One line of the listing: four plain fields, about a ref that there is. -/
def Repository.lists (repository : Repository) (line : JsString) : Prop :=
  ∃ sha type symref name, JsString.splitOn 0 line = [sha, type, symref, name] ∧
    FULL_COMMIT_SHA sha ∧ sha.trim = sha ∧ symref.trim = symref ∧ name.trim = name ∧
    repository.refs name = some (if symref = [] then .object sha else .symbolic symref)

/-- What the output of a command that exits with 0 says of the repository. -/
structure Documented (repository : Repository) (argv : List JsString) (stdout : JsString) : Prop where
  typed : ∀ sha, argv = catFile sha → repository.typeOf sha = some stdout.trim
  descends : ∀ old new, argv = isAncestor old new → repository.ancestor old new
  listed : ∀ ref, argv = forEachRef ref →
    ∀ line ∈ JsString.splitOn 0x0A stdout, line ≠ [] → repository.lists line

inductive Reads : List JsString → Prop where
  | checkRefFormat (ref : JsString) : Reads (checkRefFormat ref)
  | revParse (sha : JsString) : Reads (revParse sha)
  | catFile (sha : JsString) : Reads (catFile sha)
  | isAncestor (old new : JsString) : Reads (isAncestor old new)
  | symbolicRef (ref : JsString) : Reads (symbolicRef ref)
  | forEachRef (ref : JsString) : Reads (forEachRef ref)

/-- What a command may do to the repository it runs in.  The old value given to
`update-ref` is the one the ref must have; forty zeros ask that there is none. -/
inductive Effect : List JsString → Repository → Repository → Prop where
  | read {argv : List JsString} {repository : Repository} (reads : Reads argv) :
      Effect argv repository repository
  | refused {ref new old : JsString} {repository : Repository} :
      Effect (updateRef ref new old) repository repository
  | created {ref new : JsString} {repository : Repository} (free : repository.refs ref = none) :
      Effect (updateRef ref new ZERO_OID) repository (repository.setRef ref (.object new))
  | moved {ref new old : JsString} {repository : Repository} (asked : old ≠ ZERO_OID)
      (held : repository.refs ref = some (.object old)) :
      Effect (updateRef ref new old) repository (repository.setRef ref (.object new))
  | other {argv : List JsString} {before after : Repository} (unread : ¬ Reads argv)
      (noUpdate : ∀ ref new old, argv ≠ updateRef ref new old) : Effect argv before after

/-- An answer of git in the trace says this of the repository it was given for. -/
def Established (trace : BridgeTrace) (cwd : JsString) (fact : Repository → Prop) : Prop :=
  ∃ argv output, ⟨.git cwd argv, .ok output⟩ ∈ trace ∧ output.succeeded = true ∧
    ∀ repository, Documented repository argv output.stdout → fact repository

variable {trace before after : BridgeTrace} {repo ref sha type taskId candidate expectedOld : JsString}
  {fact : Repository → Prop}

theorem Established.left (known : Established before repo fact) :
    Established (before ++ after) repo fact := by
  obtain ⟨argv, output, member, succeeded, told⟩ := known
  exact ⟨argv, output, mem_append_left _ member, succeeded, told⟩

theorem Established.right (known : Established after repo fact) :
    Established (before ++ after) repo fact := by
  obtain ⟨argv, output, member, succeeded, told⟩ := known
  exact ⟨argv, output, mem_append_right _ member, succeeded, told⟩

variable {cwd : JsString} {argv : List JsString}

theorem Established.answer {output : Output} (succeeded : output.succeeded = true)
    (told : ∀ repository, Documented repository argv output.stdout → fact repository) :
    Established [⟨.git repo argv, .ok output⟩] repo fact :=
  ⟨argv, output, mem_singleton_self _, succeeded, told⟩

variable [Unicode]

/-- The answers in the trace confirm the ref, its commit and its ancestor. -/
structure Confirmed (trace : BridgeTrace) (repo ref candidateSha expectedOldSha : JsString) :
    Prop where
  names : Established trace repo fun repository => repository.refs ref = some (.object candidateSha)
  commit : Established trace repo fun repository =>
    repository.typeOf candidateSha = some (js "commit")
  descends : Established trace repo fun repository =>
    repository.ancestor expectedOldSha candidateSha

variable {candidateSha : JsString} {expectedOldSha : JsString}

omit [Unicode] in
theorem Confirmed.left
    (confirmed : Confirmed before repo ref candidateSha expectedOldSha) :
    Confirmed (before ++ after) repo ref candidateSha expectedOldSha :=
  ⟨confirmed.names.left, confirmed.commit.left, confirmed.descends.left⟩

omit [Unicode] in
theorem Confirmed.right
    (confirmed : Confirmed after repo ref candidateSha expectedOldSha) :
    Confirmed (before ++ after) repo ref candidateSha expectedOldSha :=
  ⟨confirmed.names.right, confirmed.commit.right, confirmed.descends.right⟩

variable {pinnedRef : JsString}

def PinCommand (question : Question) : Prop :=
  ∃ cwd argv, question = .git cwd argv ∧
    (Reads argv ∨ ∃ ref new, argv = updateRef ref new ZERO_OID)

omit [Unicode] in
theorem updateRef_unread {new old : JsString} : ¬ Reads (updateRef ref new old) := by
  intro reads
  have apart (name : JsString) (rest : List JsString) (other : name ≠ js "update-ref")
      (same : name :: rest = updateRef ref new old) : False :=
    other (cons.inj same).1
  generalize same : updateRef ref new old = argv at reads
  cases reads with
  | checkRefFormat => exact apart _ _ (by decide) same.symm
  | revParse => exact apart _ _ (by decide) same.symm
  | catFile => exact apart _ _ (by decide) same.symm
  | isAncestor => exact apart _ _ (by decide) same.symm
  | symbolicRef => exact apart _ _ (by decide) same.symm
  | forEachRef => exact apart _ _ (by decide) same.symm

variable {before after : Repository}

omit [Unicode] in
theorem PinCommand.keeps
    (command : PinCommand (.git cwd argv)) (effect : Effect argv before after) {name : JsString}
    {value : RefValue} (held : before.refs name = some value) : after.refs name = some value := by
  obtain ⟨_, _, same, kind⟩ := command
  cases same
  cases effect with
  | read => exact held
  | refused => exact held
  | created free =>
    rename_i ref new
    have apart : name ≠ ref := by
      intro same
      rw [same, free] at held
      cases held
    simp [Repository.setRef, apart, held]
  | moved asked =>
    rcases kind with reads | creates
    · exact absurd reads updateRef_unread
    · obtain ⟨_, _, same⟩ := creates
      simp only [updateRef, cons.injEq, and_true, true_and] at same
      exact absurd same.2.2 asked
  | other unread noUpdate =>
    rcases kind with reads | creates
    · exact absurd reads unread
    · obtain ⟨_, _, same⟩ := creates
      exact absurd same (noUpdate _ _ _)

end CouncilKit.Auto
