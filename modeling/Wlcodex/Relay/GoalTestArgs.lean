import Mathlib.Data.List.Infix
import Wlcodex.Claude.StreamParser
import Wlcodex.Relay.EnvelopeParsing

namespace Wlcodex.Relay.GoalTest

open Wlcodex.Lib
open Wlcodex.Claude (startsWith behind)
open Wlcodex.Relay.Parsing (givenText)

/-! `ControlledGoalTestExecutor._build_argv`. -/

/-- A `PosixPath`: its root, and the parts behind it. -/
structure PosixPath where
  root : String
  parts : List String
  deriving DecidableEq

namespace PosixPath

def ofText (text : String) : PosixPath where
  root :=
    if startsWith text "//" ∧ ¬startsWith text "///" then "//"
    else if startsWith text "/" then "/"
    else ""
  parts := ((text.toList.splitOnP (· = '/')).map String.ofList).filter fun part => part ≠ "" ∧ part ≠ "."

def IsAbsolute (path : PosixPath) : Prop := path.root ≠ ""

instance (path : PosixPath) : Decidable path.IsAbsolute := inferInstanceAs (Decidable (_ ≠ _))

def join (first second : PosixPath) : PosixPath :=
  if second.IsAbsolute then second else ⟨first.root, first.parts ++ second.parts⟩

/-- `path.relative_to(base)` does not raise. -/
def IsWithin (path base : PosixPath) : Prop := path.root = base.root ∧ base.parts.isPrefixOf path.parts

instance (path base : PosixPath) : Decidable (path.IsWithin base) := inferInstanceAs (Decidable (_ ∧ _))

end PosixPath

/-- A `ValueError` with its text, or another exception. -/
inductive Failure where
  | valueError (text : String)
  | other
  deriving DecidableEq

structure FileSystem where
  expanduser : PosixPath → Except Failure PosixPath
  resolve : PosixPath → Except Failure PosixPath
  isDir : PosixPath → Bool
  isFile : PosixPath → Bool

structure Numerals where
  isdigit : Char → Bool
  int : String → Except Failure Nat

def shellControlChars : List Char := ";|&><`$".toList

def pytestFlags : List String :=
  ["-q", "-v", "-vv", "-x", "-s", "--disable-warnings", "--no-header", "--no-summary"]

def pytestValueFlags : List String := ["-k"]

def assertShellFree (value : String) : Except Failure Unit :=
  if value = "" ∨ '\x00' ∈ value.toList ∨ '\r' ∈ value.toList ∨ '\n' ∈ value.toList then
    .error (.valueError "test declaration contains a control character")
  else if value.toList.any (· ∈ shellControlChars) then
    .error (.valueError "test declaration contains shell or redirection syntax")
  else .ok ()

def beforeColons : List Char → List Char
  | ':' :: ':' :: _ => []
  | c :: text => c :: beforeColons text
  | [] => []

def targetPath (rawTarget : String) : String := String.ofList (beforeColons (strip rawTarget).toList)

section Validation

variable (files : FileSystem) (numerals : Numerals) (cwd : PosixPath)

def assertWorkspaceTarget (rawTarget : String) : Except Failure Unit := do
  assertShellFree (strip rawTarget)
  if targetPath rawTarget = "" then throw (.valueError "test target is missing")
  let path := PosixPath.ofText (targetPath rawTarget)
  if path.IsAbsolute ∨ ".." ∈ path.parts then
    throw (.valueError "test target must remain inside the task workspace")
  let candidate ← files.resolve (cwd.join path)
  if ¬candidate.IsWithin cwd then throw (.valueError "test target escapes the task workspace")

/-- `value.isdigit() and int(value) >= 1`. -/
def assertMaxfail (value : String) : Except Failure Unit := do
  if value = "" ∨ ¬value.toList.all numerals.isdigit then
    throw (.valueError "pytest --maxfail must be a positive integer")
  let count ← numerals.int value
  if count < 1 then throw (.valueError "pytest --maxfail must be a positive integer")

def validatePytestArgs : List String → Except Failure Unit
  | [] => .ok ()
  | arg :: rest =>
      if arg ∈ pytestFlags then validatePytestArgs rest
      else if arg ∈ pytestValueFlags then
        match rest with
        | [] => .error (.valueError s!"pytest option {arg} requires a value")
        | value :: rest => (assertShellFree value).bind fun _ => validatePytestArgs rest
      else if startsWith arg "--maxfail=" then
        (assertMaxfail numerals (behind 10 arg)).bind fun _ => validatePytestArgs rest
      else if startsWith arg "-" then .error (.valueError s!"pytest option is not approved: {arg}")
      else (assertWorkspaceTarget files cwd arg).bind fun _ => validatePytestArgs rest

/-- The pattern of `-p`. -/
def assertPattern (pattern : String) : Except Failure Unit := do
  assertShellFree pattern
  if '/' ∈ pattern.toList ∨ '\\' ∈ pattern.toList ∨ "..".toList <:+: pattern.toList then
    throw (.valueError "unittest discovery pattern may not escape the workspace")

/-- The loop of `_validate_unittest_args`. -/
def validateDiscoveryArgs : List String → Except Failure Unit
  | [] => .ok ()
  | arg :: rest =>
      if arg ∈ ["-v", "-q"] then validateDiscoveryArgs rest
      else if arg ∈ ["-s", "-t"] then
        match rest with
        | [] => .error (.valueError s!"unittest option {arg} requires a workspace path")
        | value :: rest => (assertWorkspaceTarget files cwd value).bind fun _ => validateDiscoveryArgs rest
      else if arg = "-p" then
        match rest with
        | [] => .error (.valueError "unittest option -p requires a pattern")
        | value :: rest => (assertPattern value).bind fun _ => validateDiscoveryArgs rest
      else .error (.valueError s!"unittest argument is not approved: {arg}")

def validateUnittestArgs : List String → Except Failure Unit
  | [] => .ok ()
  | arg :: rest =>
      if arg ≠ "discover" then .error (.valueError "unittest goal tests only allow discovery mode")
      else validateDiscoveryArgs files cwd rest

end Validation

def rawTest? : Json → Option Dict
  | .object declaration =>
      match declaration.lookup "test" with
      | some (.object test) => some test
      | _ => none
  | _ => none

def textOf? : Json → Option String
  | .string text => some text
  | _ => none

def args? (test : Dict) : Option (List String) :=
  match test.lookup "args" with
  | some (.array args) => args.mapM textOf?
  | _ => none

section Build

variable (repr : Json → String) (files : FileSystem) (numerals : Numerals) (executable : String)

def argvOf (cwd : PosixPath) (test : Dict) (cleanArgs : List String) : Except Failure (List String) :=
  let kind := givenText repr test "kind"
  if kind = "pytest" then do
    validatePytestArgs files numerals cwd cleanArgs
    return [executable, "-m", "pytest"] ++ cleanArgs
  else if kind = "unittest" then do
    validateUnittestArgs files cwd cleanArgs
    return [executable, "-m", "unittest"] ++ cleanArgs
  else if kind = "npm_test" ∨ kind = "pnpm_test" then do
    if cleanArgs ≠ [] then throw (.valueError "package-manager goal tests do not accept free-form args")
    let script := givenText repr test "script"
    if script ∉ ["test", "test:e2e"] then
      throw (.valueError "package-manager goal tests require an approved script")
    if ¬files.isFile (cwd.join (.ofText "package.json")) then
      throw (.valueError "package-manager test requires package.json in the task workspace")
    return [if kind = "npm_test" then "npm" else "pnpm", "run", script]
  else throw (.valueError "goal acceptance test kind is not approved")

def buildArgv (workspace : String) (declaration : Json) : Except Failure (PosixPath × List String) := do
  let rawWorkspace := strip workspace
  if rawWorkspace = "" then throw (.valueError "goal acceptance workspace is missing")
  let expanded ← files.expanduser (.ofText rawWorkspace)
  let cwd ← files.resolve expanded
  if ¬files.isDir cwd then throw (.valueError "goal acceptance workspace is not an existing directory")
  match rawTest? declaration with
  | none => throw (.valueError "goal acceptance test declaration is missing")
  | some test =>
      match args? test with
      | none => throw (.valueError "goal acceptance test args are invalid")
      | some args =>
          let cleanArgs := args.map strip
          cleanArgs.forM assertShellFree
          let argv ← argvOf repr files numerals executable cwd test cleanArgs
          return (cwd, argv)

end Build

inductive Use where
  | word
  | value
  deriving DecidableEq

def uses (takesValue : String → Bool) : List String → List (Use × String)
  | [] => []
  | arg :: rest =>
      if takesValue arg then
        match rest with
        | [] => [(.word, arg)]
        | value :: rest => (.word, arg) :: (.value, value) :: uses takesValue rest
      else (.word, arg) :: uses takesValue rest

variable {arg : String}

theorem uses_word {takesValue : String → Bool} (plain : takesValue arg = false) (rest : List String) :
    uses takesValue (arg :: rest) = (.word, arg) :: uses takesValue rest := by
  rw [uses.eq_def]
  dsimp only
  rw [plain]
  rfl

theorem uses_flag {takesValue : String → Bool} (takes : takesValue arg = true) (value : String)
    (rest : List String) :
    uses takesValue (arg :: value :: rest) = (.word, arg) :: (.value, value) :: uses takesValue rest := by
  rw [uses.eq_def]
  dsimp only
  rw [takes]
  rfl

def takesValue (kind arg : String) : Bool :=
  if kind = "pytest" then arg ∈ pytestValueFlags
  else kind = "unittest" ∧ arg ∈ ["-s", "-t", "-p"]

section Confinement

variable (files : FileSystem) (numerals : Numerals)

def IsApproved (kind arg : String) : Prop :=
  if kind = "pytest" then
    arg ∈ pytestFlags ∨ arg ∈ pytestValueFlags ∨
      (startsWith arg "--maxfail=" ∧ assertMaxfail numerals (behind 10 arg) = .ok ())
  else kind = "unittest" ∧ arg ∈ ["-v", "-q", "-s", "-t", "-p"]

def ResolvesWithin (cwd : PosixPath) (target : String) : Prop :=
  ∃ candidate, files.resolve (cwd.join (.ofText (targetPath target))) = .ok candidate ∧ candidate.IsWithin cwd

/-- What follows the module; the one command of `unittest` is its `discover`. -/
def afterModule (kind : String) (argv : List String) : List String :=
  argv.drop (if kind = "unittest" then 4 else 3)

def Confined (cwd : PosixPath) (kind : String) (arguments : List String) : Prop :=
  ∀ use ∈ uses (takesValue kind) arguments,
    (startsWith use.2 "-" → IsApproved numerals kind use.2) ∧
      (¬startsWith use.2 "-" → use.1 = .value ∨ ResolvesWithin files cwd use.2)

def ValuesPlain (kind : String) (arguments : List String) : Prop :=
  ∀ value, (Use.value, value) ∈ uses (takesValue kind) arguments → startsWith value "-" → IsApproved numerals kind value

def WordsChecked (cwd : PosixPath) (kind : String) (arguments : List String) : Prop :=
  ∀ word, (Use.word, word) ∈ uses (takesValue kind) arguments →
    IsApproved numerals kind word ∨ ¬startsWith word "-" ∧ ResolvesWithin files cwd word

end Confinement

section Words

variable {files : FileSystem} {numerals : Numerals} {cwd : PosixPath} {kind : String}

theorem ok_of_bind {α β : Type} {first : Except Failure α} {next : α → Except Failure β} {result : β}
    (accepted : first.bind next = .ok result) : ∃ value, first = .ok value ∧ next value = .ok result := by
  cases first with
  | error failure => cases accepted
  | ok value => exact ⟨value, rfl, accepted⟩

theorem ok_of_unless {α : Type} {refused : Prop} [Decidable refused] {failure : Failure} {next : Except Failure α}
    {result : α} (accepted : (if refused then throw failure else next) = .ok result) : ¬refused ∧ next = .ok result := by
  split at accepted
  · cases accepted
  · exact ⟨‹_›, accepted⟩

theorem resolvesWithin_of_assert {target : String} (accepted : assertWorkspaceTarget files cwd target = .ok ()) :
    ResolvesWithin files cwd target := by
  unfold assertWorkspaceTarget at accepted
  obtain ⟨-, -, accepted⟩ := ok_of_bind accepted
  obtain ⟨-, accepted⟩ := ok_of_unless accepted
  obtain ⟨-, accepted⟩ := ok_of_unless accepted
  obtain ⟨candidate, resolved, accepted⟩ := ok_of_bind accepted
  exact ⟨candidate, resolved, not_not.mp (ok_of_unless accepted).1⟩

theorem WordsChecked.nil : WordsChecked files numerals cwd kind [] := nofun

theorem WordsChecked.word {rest : List String} (plain : takesValue kind arg = false)
    (checked : IsApproved numerals kind arg ∨ ¬startsWith arg "-" ∧ ResolvesWithin files cwd arg)
    (later : WordsChecked files numerals cwd kind rest) : WordsChecked files numerals cwd kind (arg :: rest) := by
  intro word listed
  rw [uses_word plain] at listed
  rcases List.mem_cons.mp listed with first | listed
  · cases first
    exact checked
  · exact later word listed

theorem WordsChecked.flag {arg value : String} {rest : List String} (takes : takesValue kind arg = true)
    (approved : IsApproved numerals kind arg) (later : WordsChecked files numerals cwd kind rest) :
    WordsChecked files numerals cwd kind (arg :: value :: rest) := by
  intro word listed
  rw [uses_flag takes] at listed
  simp only [List.mem_cons, Prod.mk.injEq, reduceCtorEq, false_and, false_or] at listed
  rcases listed with ⟨-, rfl⟩ | listed
  · exact .inl approved
  · exact later word listed

theorem words_of_validatePytestArgs (args : List String) (accepted : validatePytestArgs files numerals cwd args = .ok ()) :
    WordsChecked files numerals cwd "pytest" args := by
  have plain : ∀ arg, arg ∉ pytestValueFlags → takesValue "pytest" arg = false := fun arg other => decide_eq_false other
  fun_induction validatePytestArgs files numerals cwd args with
  | case1 => exact .nil
  | case2 arg rest flag ih =>
      exact .word (plain arg fun value => by simp_all [pytestFlags, pytestValueFlags]) (.inl (.inl flag)) (ih accepted)
  | case3 arg => cases accepted
  | case4 arg flag value given rest ih =>
      obtain ⟨-, -, accepted⟩ := ok_of_bind accepted
      exact .flag (decide_eq_true value) (.inr (.inl value)) (ih accepted)
  | case5 arg rest flag value maxfail ih =>
      obtain ⟨⟨⟩, counted, accepted⟩ := ok_of_bind accepted
      exact .word (plain arg value) (.inl (.inr (.inr ⟨maxfail, counted⟩))) (ih accepted)
  | case6 arg => cases accepted
  | case7 arg rest flag value maxfail dash ih =>
      obtain ⟨⟨⟩, within, accepted⟩ := ok_of_bind accepted
      exact .word (plain arg value) (.inr ⟨dash, resolvesWithin_of_assert within⟩) (ih accepted)

theorem words_of_validateDiscoveryArgs (args : List String)
    (accepted : validateDiscoveryArgs files cwd args = .ok ()) : WordsChecked files numerals cwd "unittest" args := by
  have plain : ∀ arg, arg ∈ ["-v", "-q"] → takesValue "unittest" arg = false := by decide
  have takes : ∀ arg, arg ∈ ["-s", "-t", "-p"] → takesValue "unittest" arg = true := by decide
  have approved : ∀ arg, arg ∈ ["-v", "-q", "-s", "-t", "-p"] → IsApproved numerals "unittest" arg :=
    fun _ flag => ⟨rfl, flag⟩
  fun_induction validateDiscoveryArgs files cwd args with
  | case1 => exact .nil
  | case2 arg rest flag ih =>
      exact .word (plain arg flag) (.inl (approved arg (List.mem_append_left ["-s", "-t", "-p"] flag))) (ih accepted)
  | case3 arg => cases accepted
  | case4 arg flag target value rest ih =>
      obtain ⟨-, -, accepted⟩ := ok_of_bind accepted
      have listed : arg ∈ ["-s", "-t"] ++ ["-p"] := List.mem_append_left _ target
      exact .flag (takes arg listed) (approved arg (List.mem_append_right ["-v", "-q"] listed)) (ih accepted)
  | case5 => cases accepted
  | case6 flag target value rest ih =>
      obtain ⟨-, -, accepted⟩ := ok_of_bind accepted
      exact .flag (takes "-p" (by decide)) (approved "-p" (by decide)) (ih accepted)
  | case7 => cases accepted

theorem dash_of_approved (approved : IsApproved numerals kind arg) : startsWith arg "-" := by
  unfold IsApproved at approved
  split at approved
  · have flags : ∀ flag ∈ pytestFlags ++ pytestValueFlags, startsWith flag "-" := by decide
    rcases approved with flag | flag | ⟨maxfail, -⟩
    · exact flags arg (List.mem_append_left _ flag)
    · exact flags arg (List.mem_append_right _ flag)
    · have longer := List.isPrefixOf_iff_prefix.mp maxfail
      exact List.isPrefixOf_iff_prefix.mpr (List.IsPrefix.trans (by decide) longer)
  · have flags : ∀ flag ∈ ["-v", "-q", "-s", "-t", "-p"], startsWith flag "-" := by decide
    exact flags arg approved.2

theorem confined_iff {arguments : List String} (checked : WordsChecked files numerals cwd kind arguments) :
    Confined files numerals cwd kind arguments ↔ ValuesPlain numerals kind arguments := by
  constructor
  · intro confined value listed dash
    exact (confined (.value, value) listed).1 dash
  · rintro plain ⟨use, arg⟩ listed
    cases use with
    | value => exact ⟨plain arg listed, fun _ => .inl rfl⟩
    | word =>
        rcases checked arg listed with approved | ⟨free, within⟩
        · exact ⟨fun _ => approved, fun free => absurd (dash_of_approved approved) free⟩
        · exact ⟨fun dash => absurd dash free, fun _ => .inr within⟩

end Words

section Argv

variable {repr : Json → String} {files : FileSystem} {numerals : Numerals} {executable : String} {cwd : PosixPath}

def optionArgs (kind : String) (cleanArgs : List String) : List String :=
  if kind = "unittest" then cleanArgs.drop 1 else cleanArgs

theorem argvOf_spec {test : Dict} {cleanArgs argv : List String}
    (accepted : argvOf repr files numerals executable cwd test cleanArgs = .ok argv) :
    afterModule (givenText repr test "kind") argv = optionArgs (givenText repr test "kind") cleanArgs ∧
      WordsChecked files numerals cwd (givenText repr test "kind") (optionArgs (givenText repr test "kind") cleanArgs) := by
  unfold argvOf at accepted
  dsimp only at accepted
  split at accepted
  · rename_i pytest
    rw [pytest]
    obtain ⟨⟨⟩, valid, accepted⟩ := ok_of_bind accepted
    cases accepted
    exact ⟨rfl, words_of_validatePytestArgs cleanArgs valid⟩
  · split at accepted
    · rename_i unittest
      rw [unittest]
      obtain ⟨⟨⟩, valid, accepted⟩ := ok_of_bind accepted
      cases accepted
      refine ⟨rfl, ?_⟩
      cases cleanArgs with
      | nil => exact .nil
      | cons first rest =>
          rw [validateUnittestArgs] at valid
          split at valid
          · cases valid
          · exact words_of_validateDiscoveryArgs rest valid
    · split at accepted
      · rename_i pytest unittest package
        obtain ⟨none_, accepted⟩ := ok_of_unless accepted
        obtain ⟨-, accepted⟩ := ok_of_unless accepted
        obtain ⟨-, accepted⟩ := ok_of_unless accepted
        cases accepted
        rw [not_not.mp none_]
        unfold afterModule optionArgs
        rw [if_neg unittest, if_neg unittest]
        exact ⟨rfl, .nil⟩
      · cases accepted

def testKind (repr : Json → String) (declaration : Json) : String :=
  ((rawTest? declaration).map fun test => givenText repr test "kind").getD ""

def testArgs (repr : Json → String) (declaration : Json) : List String :=
  optionArgs (testKind repr declaration) ((((rawTest? declaration).bind args?).getD []).map strip)

end Argv

/-- An accepted argv is confined exactly where every value that begins with a dash is an approved flag. -/
theorem argv_confined_iff (repr : Json → String) (files : FileSystem) (numerals : Numerals) (executable : String)
    {workspace : String} {declaration : Json} {cwd : PosixPath} {argv : List String}
    (accepted : buildArgv repr files numerals executable workspace declaration = .ok (cwd, argv)) :
    Confined files numerals cwd (testKind repr declaration) (afterModule (testKind repr declaration) argv) ↔
      ValuesPlain numerals (testKind repr declaration) (testArgs repr declaration) := by
  unfold buildArgv at accepted
  obtain ⟨-, accepted⟩ := ok_of_unless accepted
  obtain ⟨expanded, -, accepted⟩ := ok_of_bind accepted
  obtain ⟨resolved, -, accepted⟩ := ok_of_bind accepted
  obtain ⟨-, accepted⟩ := ok_of_unless accepted
  split at accepted
  · cases accepted
  · rename_i test declared
    split at accepted
    · cases accepted
    · rename_i args given
      obtain ⟨-, -, accepted⟩ := ok_of_bind accepted
      obtain ⟨built, isBuilt, accepted⟩ := ok_of_bind accepted
      cases accepted
      have kind : testKind repr declaration = givenText repr test "kind" := by
        unfold testKind
        rw [declared]
        rfl
      have arguments : testArgs repr declaration = optionArgs (givenText repr test "kind") (args.map strip) := by
        unfold testArgs
        rw [kind, declared, Option.bind_some, given]
        rfl
      obtain ⟨after, checked⟩ := argvOf_spec isBuilt
      rw [kind, arguments, after]
      exact confined_iff checked

def plainFiles : FileSystem where
  expanduser := .ok
  resolve := .ok
  isDir := fun _ => true
  isFile := fun _ => true

def asciiNumerals : Numerals where
  isdigit := Char.isDigit
  int := fun text => .ok (text.toList.foldl (fun count digit => 10 * count + (digit.toNat - '0'.toNat)) 0)

def pytestDeclaration (args : List String) : Json :=
  .object [("test", .object [("kind", .string "pytest"), ("args", .array (args.map .string))])]

theorem selected_tests_confined :
    Confined plainFiles asciiNumerals (.ofText "/work") (testKind (fun _ => "") (pytestDeclaration ["-k", "slow", "tests"]))
        (afterModule (testKind (fun _ => "") (pytestDeclaration ["-k", "slow", "tests"]))
          ["python", "-m", "pytest", "-k", "slow", "tests"]) ↔
      ValuesPlain asciiNumerals (testKind (fun _ => "") (pytestDeclaration ["-k", "slow", "tests"]))
        (testArgs (fun _ => "") (pytestDeclaration ["-k", "slow", "tests"])) :=
  argv_confined_iff (fun _ => "") plainFiles asciiNumerals "python"
    (rfl : buildArgv _ _ _ _ "/work" _ = _)

theorem option_taken_as_a_value :
    ¬∀ (workspace : String) (declaration : Json) (cwd : PosixPath) (argv : List String),
      buildArgv (fun _ => "") plainFiles asciiNumerals "python" workspace declaration = .ok (cwd, argv) →
        Confined plainFiles asciiNumerals cwd (testKind (fun _ => "") declaration)
          (afterModule (testKind (fun _ => "") declaration) argv) := by
  intro always
  have confined := always "/work" (pytestDeclaration ["-k", "--pdb"]) (.ofText "/work")
    ["python", "-m", "pytest", "-k", "--pdb"] rfl
  have approved : "--pdb" ∈ pytestFlags ∨ "--pdb" ∈ pytestValueFlags ∨ startsWith "--pdb" "--maxfail=" ∧ _ :=
    (confined (.value, "--pdb") (by decide)).1 (by decide)
  rcases approved with flag | flag | ⟨maxfail, -⟩
  · exact absurd flag (by decide)
  · exact absurd flag (by decide)
  · exact absurd maxfail (by decide)

end Wlcodex.Relay.GoalTest
