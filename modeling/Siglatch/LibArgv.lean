import Siglatch.LibStr

set_option autoImplicit false

namespace Siglatch.LibArgv
open MuxTypes

def ARGV_MAX_OPTIONS : ℕ := 32
def ARGV_MAX_OPTION_ARGS : ℕ := 10
def ARGV_MAX_POSITIONALS : ℕ := 8
def KEY_BUF_SIZE : ℕ := 256

inductive ErrorCode where
  | invalidInput
  | unknownOption
  | notEnoughOptionArgs
  | tooManyOptions
  | tooManyPositionals
  | tooManyOptionArgs
  | equalsFormNotAllowed
  | duplicateOption
  | requiredOptionMissing
  deriving DecidableEq

structure ArgvError where
  code : ErrorCode
  argIndex : ℤ
  argValue : Option CString
  optionId : ℤ
  optionName : Option CString
  deriving DecidableEq

structure OptionSpec where
  name : CString
  id : ℤ
  numArgs : ℤ
  required : Bool
  allowRepeat : Bool
  lastWins : Bool
  deriving DecidableEq

/-- The first of the arguments is the spelling. The others can be null pointers. -/
structure ParsedOption where
  spec : OptionSpec
  args : List (Option CString)
  sourceIndex : ℕ
  deriving DecidableEq

structure Parsed where
  options : List ParsedOption
  positionals : List CString
  positionalIndices : List ℕ
  deriving DecidableEq

def findSpecExact (name : CString) (table : List OptionSpec) : Option OptionSpec :=
  table.find? (·.name = name)

def findOptionIndexById (parsed : Parsed) (id : ℤ) : Option ℕ :=
  parsed.options.findIdx? (·.spec.id = id)

def appendPositional (parsed : Parsed) (value : CString) (index : ℕ) : Except ArgvError Parsed :=
  if ARGV_MAX_POSITIONALS ≤ parsed.positionals.length then
    .error ⟨.tooManyPositionals, index, some value, 0, none⟩
  else
    .ok { parsed with
      positionals := parsed.positionals ++ [value]
      positionalIndices := parsed.positionalIndices ++ [index] }

def storeOption (parsed : Parsed) (opt : OptionSpec) (spelling : CString) (sourceIndex : ℕ)
    (values : List (Option CString)) : Except ArgvError Parsed :=
  let stored : ParsedOption := ⟨opt, some spelling :: values, sourceIndex⟩
  let existing := findOptionIndexById parsed opt.id
  if ARGV_MAX_OPTION_ARGS < 1 + values.length then
    .error ⟨.tooManyOptionArgs, sourceIndex, some spelling, opt.id, some opt.name⟩
  else if existing.isSome ∧ opt.allowRepeat = false then
    if opt.lastWins then
      .ok { parsed with options := parsed.options.set (existing.getD 0) stored }
    else .error ⟨.duplicateOption, sourceIndex, some spelling, opt.id, some opt.name⟩
  else if ARGV_MAX_OPTIONS ≤ parsed.options.length then
    .error ⟨.tooManyOptions, sourceIndex, some spelling, opt.id, some opt.name⟩
  else .ok { parsed with options := parsed.options ++ [stored] }

/-- Nothing comes back where the argument is left to the other forms. -/
def parseLongWithEquals (strict : Bool) (table : List OptionSpec) (arg : CString) (index : ℕ)
    (parsed : Parsed) : Option (Except ArgvError Parsed) :=
  let key := arg.takeWhile (· ≠ 61)
  if 61 ∉ arg then none
  else if key.length = 0 ∨ KEY_BUF_SIZE ≤ key.length then
    if strict then some (.error ⟨.unknownOption, index, some arg, 0, none⟩) else none
  else
    match findSpecExact key table with
    | none => if strict then some (.error ⟨.unknownOption, index, some arg, 0, none⟩) else none
    | some opt =>
      if opt.numArgs ≠ 1 then
        some (.error ⟨.equalsFormNotAllowed, index, some arg, opt.id, some opt.name⟩)
      else some (storeOption parsed opt opt.name index [some (arg.dropWhile (· ≠ 61)).tail])

def enforceRequired (table : List OptionSpec) (parsed : Parsed) : Except ArgvError Parsed :=
  match table.find? fun spec => spec.required ∧ findOptionIndexById parsed spec.id = none with
  | some spec =>
    .error ⟨.requiredOptionMissing, -1, some spec.name, spec.id, some spec.name⟩
  | none => .ok parsed

/-- The loop of `argv_parse`: the index, the arguments from there on, and what was parsed. -/
structure Cursor where
  index : ℕ
  rest : List (Option CString)
  positionalOnly : Bool
  parsed : Parsed

section step

variable (strict : Bool) (table : List OptionSpec)

def stepPositional (arg : CString) (cur : Cursor) : Except ArgvError Cursor :=
  (appendPositional cur.parsed arg cur.index).map fun parsed =>
    { cur with index := cur.index + 1, parsed := parsed }

def stepExact (arg : CString) (cur : Cursor) : Except ArgvError Cursor :=
  match findSpecExact arg table with
  | none =>
    if strict then .error ⟨.unknownOption, cur.index, some arg, 0, none⟩
    else stepPositional arg cur
  | some opt =>
    if opt.numArgs < 0 then
      .error ⟨.invalidInput, cur.index, some arg, opt.id, some opt.name⟩
    else if cur.rest.length < opt.numArgs then
      .error ⟨.notEnoughOptionArgs, cur.index, some arg, opt.id, some opt.name⟩
    else
      (storeOption cur.parsed opt arg cur.index (cur.rest.take opt.numArgs.toNat)).map fun parsed =>
        { cur with
          index := cur.index + (1 + opt.numArgs.toNat)
          rest := cur.rest.drop opt.numArgs.toNat
          parsed := parsed }

/-- One round, on an argument that is already taken off the others. -/
def step (arg : Option CString) (cur : Cursor) : Except ArgvError Cursor :=
  match arg with
  | none => .error ⟨.invalidInput, cur.index, none, 0, none⟩
  | some arg =>
    if cur.positionalOnly then stepPositional arg cur
    else if arg = [45, 45] then .ok { cur with index := cur.index + 1, positionalOnly := true }
    else
      match if [45, 45] <+: arg then
        parseLongWithEquals strict table arg cur.index cur.parsed else none with
      | some outcome =>
        outcome.map fun parsed => { cur with index := cur.index + 1, parsed := parsed }
      | none => if arg.head? = some 45 then stepExact strict table arg cur
        else stepPositional arg cur

/-- Each round takes an argument at least, so there are no more rounds than arguments. -/
def loop : ℕ → Cursor → Except ArgvError Cursor
  | 0, cur => .ok cur
  | fuel + 1, cur =>
    match cur.rest with
    | [] => .ok cur
    | arg :: rest =>
      match step strict table arg { cur with rest := rest } with
      | .error error => .error error
      | .ok next => loop fuel next

def start (args : List (Option CString)) : Cursor := ⟨1, args, false, ⟨[], [], []⟩⟩

def parse (argv : List (Option CString)) : Except ArgvError Parsed :=
  match loop strict table argv.length (start argv.tail) with
  | .error error => .error error
  | .ok cur => enforceRequired table cur.parsed

end step

end Siglatch.LibArgv
