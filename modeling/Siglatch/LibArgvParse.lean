import Siglatch.LibArgv
import Mathlib.Data.List.TakeWhile

set_option autoImplicit false

namespace Siglatch.LibArgvParse
open MuxTypes LibArgv

section loop

variable {strict : Bool} {table : List OptionSpec} {cur next : Cursor} {arg : CString}

theorem stepPositional_cases (taken : stepPositional arg cur = .ok next) :
    ∃ parsed, appendPositional cur.parsed arg cur.index = .ok parsed ∧
      next = { cur with index := cur.index + 1, parsed := parsed } := by
  unfold stepPositional at taken
  cases appended : appendPositional cur.parsed arg cur.index with
  | error error => rw [appended] at taken; cases taken
  | ok parsed => rw [appended] at taken; cases taken; exact ⟨parsed, rfl, rfl⟩

theorem stepExact_cases (taken : stepExact strict table arg cur = .ok next) :
    (∃ opt parsed, findSpecExact arg table = some opt ∧ 0 ≤ opt.numArgs ∧
      opt.numArgs.toNat ≤ cur.rest.length ∧
      storeOption cur.parsed opt arg cur.index (cur.rest.take opt.numArgs.toNat) = .ok parsed ∧
      next = { cur with
        index := cur.index + (1 + opt.numArgs.toNat)
        rest := cur.rest.drop opt.numArgs.toNat
        parsed := parsed }) ∨
    (strict = false ∧ stepPositional arg cur = .ok next) := by
  unfold stepExact at taken
  split at taken
  · split at taken
    · cases taken
    · rename_i lenient
      exact .inr ⟨Bool.eq_false_iff.mpr lenient, taken⟩
  · rename_i opt found
    split at taken
    · cases taken
    split at taken
    · cases taken
    rename_i nonneg enough
    have count : opt.numArgs.toNat ≤ cur.rest.length := by omega
    cases stored : storeOption cur.parsed opt arg cur.index
        (cur.rest.take opt.numArgs.toNat) with
    | error error => rw [stored] at taken; cases taken
    | ok parsed =>
      rw [stored] at taken
      cases taken
      exact .inl ⟨opt, parsed, found, by omega, count, stored, rfl⟩

/-- All that one round can do. -/
theorem step_cases {given : Option CString} (taken : step strict table given cur = .ok next) :
    ∃ text, given = some text ∧
      ((cur.positionalOnly = false ∧ text = [45, 45] ∧
          next = { cur with index := cur.index + 1, positionalOnly := true }) ∨
        (cur.positionalOnly = false ∧ text ≠ [45, 45] ∧ [45, 45] <+: text ∧
          ∃ parsed, parseLongWithEquals strict table text cur.index cur.parsed = some (.ok parsed) ∧
            next = { cur with index := cur.index + 1, parsed := parsed }) ∨
        (cur.positionalOnly = false ∧ text.head? = some 45 ∧ ∃ opt parsed,
          findSpecExact text table = some opt ∧ 0 ≤ opt.numArgs ∧
          opt.numArgs.toNat ≤ cur.rest.length ∧
          storeOption cur.parsed opt text cur.index (cur.rest.take opt.numArgs.toNat) = .ok parsed ∧
          next = { cur with
            index := cur.index + (1 + opt.numArgs.toNat)
            rest := cur.rest.drop opt.numArgs.toNat
            parsed := parsed }) ∨
        ((cur.positionalOnly = true ∨ text ≠ [45, 45] ∧ (strict = true → text.head? ≠ some 45)) ∧
          ∃ parsed, appendPositional cur.parsed text cur.index = .ok parsed ∧
            next = { cur with index := cur.index + 1, parsed := parsed })) := by
  unfold step at taken
  split at taken
  · cases taken
  rename_i text
  refine ⟨text, rfl, ?_⟩
  split at taken
  · rename_i only
    exact .inr (.inr (.inr ⟨.inl only, stepPositional_cases taken⟩))
  rename_i options
  have reading : cur.positionalOnly = false := Bool.eq_false_iff.mpr options
  split at taken
  · rename_i separator
    cases taken
    exact .inl ⟨reading, separator, rfl⟩
  rename_i other
  split at taken
  · rename_i outcome long
    split at long
    · rename_i dashes
      cases outcome with
      | error error => cases taken
      | ok parsed => cases taken; exact .inr (.inl ⟨reading, other, dashes, parsed, long, rfl⟩)
    · cases long
  split at taken
  · rename_i dash
    rcases stepExact_cases taken with ⟨opt, parsed, stored⟩ | ⟨lenient, positional⟩
    · exact .inr (.inr (.inl ⟨reading, dash, opt, parsed, stored⟩))
    · have free : strict = true → text.head? ≠ some 45 := fun h => by
        rw [lenient] at h
        cases h
      exact .inr (.inr (.inr ⟨.inr ⟨other, free⟩, stepPositional_cases positional⟩))
  · rename_i plain
    exact .inr (.inr (.inr ⟨.inr ⟨other, fun _ => plain⟩, stepPositional_cases taken⟩))

theorem step_rest {given : Option CString} (taken : step strict table given cur = .ok next) :
    next.rest.length ≤ cur.rest.length := by
  obtain ⟨text, -, h⟩ := step_cases taken
  rcases h with ⟨-, -, rfl⟩ | ⟨-, -, -, parsed, -, rfl⟩ | ⟨-, -, opt, parsed, -, -, -, -, rfl⟩ |
    ⟨-, parsed, -, rfl⟩
  · exact Nat.le_refl _
  · exact Nat.le_refl _
  · rw [List.length_drop]
    exact Nat.sub_le _ _
  · exact Nat.le_refl _

theorem loop_enough (fuel fuel' : ℕ) (cur : Cursor) (enough : cur.rest.length ≤ fuel)
    (enough' : cur.rest.length ≤ fuel') :
    loop strict table fuel cur = loop strict table fuel' cur := by
  induction fuel generalizing fuel' cur with
  | zero =>
    have done : cur.rest = [] := List.length_eq_zero_iff.mp (Nat.le_zero.mp enough)
    cases fuel' with
    | zero => rfl
    | succ fuel' =>
      unfold loop
      rw [done]
  | succ fuel ih =>
    cases fuel' with
    | zero =>
      have done : cur.rest = [] := List.length_eq_zero_iff.mp (Nat.le_zero.mp enough')
      unfold loop
      rw [done]
    | succ fuel' =>
      unfold loop
      split
      · rfl
      rename_i given rest shape
      rw [shape, List.length_cons] at enough enough'
      split
      · rfl
      rename_i next taken
      have shorter := step_rest taken
      dsimp only at shorter
      exact ih fuel' next (by omega) (by omega)

def finish (strict : Bool) (table : List OptionSpec) (cur : Cursor) : Except ArgvError Cursor :=
  loop strict table cur.rest.length cur

theorem finish_nil (done : cur.rest = []) : finish strict table cur = .ok cur := by
  unfold finish
  rw [done]
  rfl

theorem finish_cons {given : Option CString} {rest : List (Option CString)}
    (shape : cur.rest = given :: rest) :
    finish strict table cur =
      match step strict table given { cur with rest := rest } with
      | .error error => .error error
      | .ok next => finish strict table next := by
  unfold finish
  rw [shape, List.length_cons, loop, shape]
  dsimp only
  cases taken : step strict table given { cur with rest := rest } with
  | error error => rfl
  | ok next =>
    have shorter := step_rest taken
    exact loop_enough rest.length next.rest.length next shorter (Nat.le_refl _)

theorem parse_eq (argv : List (Option CString)) : parse strict table argv =
    match finish strict table (start argv.tail) with
    | .error error => .error error
    | .ok cur => enforceRequired table cur.parsed := by
  have enough : (start argv.tail).rest.length ≤ argv.length := by
    change argv.tail.length ≤ argv.length
    rw [List.length_tail]
    exact Nat.sub_le _ _
  have ended : loop strict table argv.length (start argv.tail) = _ :=
    loop_enough argv.length _ _ enough (Nat.le_refl _)
  unfold parse finish
  exact ended ▸ rfl

end loop

section account

inductive Piece where
  | option (spec : OptionSpec) (values : List (Option CString))
  | pair (spec : OptionSpec) (value : CString)
  | separator
  | positional (text : CString)

def Piece.args : Piece → List (Option CString)
  | .option spec values => some spec.name :: values
  | .pair spec value => [some (spec.name ++ 61 :: value)]
  | .separator => [some [45, 45]]
  | .positional text => [some text]

def optionsAt : ℕ → List Piece → List ParsedOption
  | _, [] => []
  | index, .option spec values :: more =>
    ⟨spec, some spec.name :: values, index⟩ :: optionsAt (index + (1 + values.length)) more
  | index, .pair spec value :: more =>
    ⟨spec, [some spec.name, some value], index⟩ :: optionsAt (index + 1) more
  | index, .separator :: more => optionsAt (index + 1) more
  | index, .positional _ :: more => optionsAt (index + 1) more

def positionalsAt : ℕ → List Piece → List (CString × ℕ)
  | _, [] => []
  | index, .option _ values :: more => positionalsAt (index + (1 + values.length)) more
  | index, .pair _ _ :: more => positionalsAt (index + 1) more
  | index, .separator :: more => positionalsAt (index + 1) more
  | index, .positional text :: more => (text, index) :: positionalsAt (index + 1) more

def Piece.Fits (strict : Bool) (table : List OptionSpec) : Piece → Prop
  | .option spec values => findSpecExact spec.name table = some spec ∧
      spec.name.head? = some 45 ∧ (values.length : ℤ) = spec.numArgs
  | .pair spec _ => findSpecExact spec.name table = some spec ∧ [45, 45] <+: spec.name ∧
      61 ∉ spec.name ∧ spec.numArgs = 1
  | .separator => False
  | .positional text => text ≠ [45, 45] ∧ (strict = true → text.head? ≠ some 45)

/-- Pieces as they can follow one another: behind the first separator all are positional. -/
inductive Ordered (strict : Bool) (table : List OptionSpec) : Bool → List Piece → Prop
  | nil (only : Bool) : Ordered strict table only []
  | fits {piece : Piece} {more : List Piece} (fits : piece.Fits strict table)
    (rest : Ordered strict table false more) : Ordered strict table false (piece :: more)
  | separator {more : List Piece} (rest : Ordered strict table true more) :
    Ordered strict table false (.separator :: more)
  | positional (text : CString) {more : List Piece} (rest : Ordered strict table true more) :
    Ordered strict table true (.positional text :: more)

/-- The pieces account for the vector and for what came out of it. -/
structure Accounts (strict : Bool) (table : List OptionSpec) (argv : List (Option CString))
    (parsed : Parsed) (pieces : List Piece) : Prop where
  args : pieces.flatMap Piece.args = argv.tail
  ordered : Ordered strict table false pieces
  options : parsed.options = optionsAt 1 pieces
  positionals : parsed.positionals.zip parsed.positionalIndices = positionalsAt 1 pieces
  aligned : parsed.positionals.length = parsed.positionalIndices.length
  required : ∀ spec ∈ table, spec.required = true →
    ∃ option ∈ parsed.options, option.spec.id = spec.id

section parts

variable {strict : Bool} {table : List OptionSpec} {parsed parsed' : Parsed} {opt : OptionSpec}
  {text : CString} {index : ℕ}

theorem findSpecExact_name (found : findSpecExact text table = some opt) : opt.name = text := by
  simpa using List.find?_some found

theorem storeOption_appends {values : List (Option CString)} (keeps : opt.lastWins = false)
    (stored : storeOption parsed opt text index values = .ok parsed') :
    parsed' = { parsed with
      options := parsed.options ++ [⟨opt, some text :: values, index⟩] } := by
  unfold storeOption at stored
  dsimp only at stored
  split at stored
  · cases stored
  split at stored
  · rw [keeps, if_neg Bool.false_ne_true] at stored
    cases stored
  split at stored
  · cases stored
  · cases stored
    rfl

theorem takeWhile_key (text : CString) (some_equals : 61 ∈ text) :
    text = text.takeWhile (· ≠ 61) ++ 61 :: (text.dropWhile (· ≠ 61)).tail ∧
      61 ∉ text.takeWhile (· ≠ 61) := by
  have clean : (61 : UInt8) ∉ text.takeWhile (· ≠ 61) := fun inside => by
    simpa using List.mem_takeWhile_imp inside
  refine ⟨?_, clean⟩
  have whole := @List.takeWhile_append_dropWhile _ (fun c : UInt8 => decide (c ≠ 61)) text
  cases behind : text.dropWhile (fun c : UInt8 => decide (c ≠ 61)) with
  | nil =>
    rw [behind, List.append_nil] at whole
    rw [whole] at clean
    exact absurd some_equals clean
  | cons c rest =>
    have stops := List.head?_dropWhile_not (fun c : UInt8 => decide (c ≠ 61)) text
    rw [behind] at stops
    have equals : c = 61 := by simpa using stops
    rw [behind, equals] at whole
    exact whole.symm

theorem parseLong_pair
    (read : parseLongWithEquals strict table text index parsed = some (.ok parsed')) :
    ∃ spec value, text = spec.name ++ 61 :: value ∧ 61 ∉ spec.name ∧
      findSpecExact spec.name table = some spec ∧ spec.numArgs = 1 ∧
      storeOption parsed spec spec.name index [some value] = .ok parsed' := by
  unfold parseLongWithEquals at read
  dsimp only at read
  split at read
  · cases read
  rename_i equals
  obtain ⟨whole, clean⟩ := takeWhile_key text (not_not.mp equals)
  split at read
  · split at read <;> cases read
  split at read
  · split at read <;> cases read
  rename_i spec found
  have name := findSpecExact_name found
  split at read
  · cases read
  rename_i one
  refine ⟨spec, _, ?_, ?_, ?_, not_not.mp one, Option.some.inj read⟩
  · rw [name]
    exact whole
  · rw [name]
    exact clean
  · rw [name]
    exact found

theorem dashes_name {name value : CString} (dashes : [45, 45] <+: name ++ 61 :: value) :
    [45, 45] <+: name := by
  obtain ⟨tail, whole⟩ := dashes
  cases name with
  | nil => simp at whole
  | cons b more =>
    cases more with
    | nil => simp at whole
    | cons c more =>
      obtain ⟨rfl, rest⟩ := List.cons_eq_cons.mp whole
      obtain ⟨rfl, -⟩ := List.cons_eq_cons.mp rest
      exact ⟨more, rfl⟩

theorem appendPositional_appends (appended : appendPositional parsed text index = .ok parsed') :
    parsed' = { parsed with
      positionals := parsed.positionals ++ [text]
      positionalIndices := parsed.positionalIndices ++ [index] } := by
  unfold appendPositional at appended
  split at appended
  · cases appended
  · cases appended
    rfl

theorem enforceRequired_required (enforced : enforceRequired table parsed = .ok parsed') :
    parsed' = parsed ∧ ∀ spec ∈ table, spec.required = true →
      ∃ option ∈ parsed.options, option.spec.id = spec.id := by
  unfold enforceRequired at enforced
  split at enforced
  · cases enforced
  rename_i complete
  cases enforced
  refine ⟨rfl, fun spec member required => ?_⟩
  have present := List.find?_eq_none.mp complete spec member
  have index : findOptionIndexById parsed spec.id ≠ none := by simpa [required] using present
  unfold findOptionIndexById at index
  rw [ne_eq, List.findIdx?_eq_none_iff] at index
  push Not at index
  obtain ⟨option, inside, same⟩ := index
  exact ⟨option, inside, by simpa using same⟩

end parts

/-- One round takes a piece off the arguments and puts it in front of whatever comes next. -/
structure Takes (strict : Bool) (table : List OptionSpec) (cur next : Cursor) (piece : Piece) :
    Prop where
  args : piece.args ++ next.rest = cur.rest
  ordered : ∀ more, Ordered strict table next.positionalOnly more →
    Ordered strict table cur.positionalOnly (piece :: more)
  options : ∀ more, next.parsed.options ++ optionsAt next.index more =
    cur.parsed.options ++ optionsAt cur.index (piece :: more)
  positionals : ∀ more,
    next.parsed.positionals ++ (positionalsAt next.index more).map Prod.fst =
      cur.parsed.positionals ++ (positionalsAt cur.index (piece :: more)).map Prod.fst
  indices : ∀ more,
    next.parsed.positionalIndices ++ (positionalsAt next.index more).map Prod.snd =
      cur.parsed.positionalIndices ++ (positionalsAt cur.index (piece :: more)).map Prod.snd

section takes

variable {strict : Bool} {table : List OptionSpec} {cur : Cursor} {parsed : Parsed}
  {rest : List (Option CString)} {spec : OptionSpec} {text value : CString}

theorem takes_separator (shape : cur.rest = some [45, 45] :: rest)
    (reading : cur.positionalOnly = false) :
    Takes strict table cur
      { cur with rest := rest, index := cur.index + 1, positionalOnly := true } .separator where
  args := shape.symm
  ordered := fun more ordered => by
    rw [reading]
    exact .separator ordered
  options := fun _ => rfl
  positionals := fun _ => rfl
  indices := fun _ => rfl

theorem takes_pair (shape : cur.rest = some (spec.name ++ 61 :: value) :: rest)
    (reading : cur.positionalOnly = false) (keeps : spec.lastWins = false)
    (fits : (Piece.pair spec value).Fits strict table)
    (stored : storeOption cur.parsed spec spec.name cur.index [some value] = .ok parsed) :
    Takes strict table cur { cur with rest := rest, index := cur.index + 1, parsed := parsed }
      (.pair spec value) := by
  have grown := storeOption_appends keeps stored
  subst grown
  refine ⟨shape.symm, ?_, fun more => ?_, fun _ => rfl, fun _ => rfl⟩
  · rw [reading]
    exact fun more ordered => .fits fits ordered
  · exact List.append_assoc _ _ _

theorem takes_option (shape : cur.rest = some spec.name :: rest)
    (reading : cur.positionalOnly = false) (keeps : spec.lastWins = false)
    (fits : (Piece.option spec (rest.take spec.numArgs.toNat)).Fits strict table)
    (count : spec.numArgs.toNat ≤ rest.length)
    (stored : storeOption cur.parsed spec spec.name cur.index (rest.take spec.numArgs.toNat) =
      .ok parsed) :
    Takes strict table cur
      { cur with
        index := cur.index + (1 + spec.numArgs.toNat)
        rest := rest.drop spec.numArgs.toNat
        parsed := parsed }
      (.option spec (rest.take spec.numArgs.toNat)) := by
  have values : (rest.take spec.numArgs.toNat).length = spec.numArgs.toNat :=
    List.length_take_of_le count
  have grown := storeOption_appends keeps stored
  subst grown
  refine ⟨?_, ?_, fun more => ?_, fun more => ?_, fun more => ?_⟩
  · rw [shape, Piece.args, List.cons_append, List.take_append_drop]
  · rw [reading]
    exact fun more ordered => .fits fits ordered
  · rw [optionsAt, values]
    exact List.append_assoc _ _ _
  · rw [positionalsAt, values]
  · rw [positionalsAt, values]

theorem takes_positional (shape : cur.rest = some text :: rest)
    (mode : cur.positionalOnly = true ∨
      text ≠ [45, 45] ∧ (strict = true → text.head? ≠ some 45))
    (appended : appendPositional cur.parsed text cur.index = .ok parsed) :
    Takes strict table cur { cur with rest := rest, index := cur.index + 1, parsed := parsed }
      (.positional text) := by
  have grown := appendPositional_appends appended
  subst grown
  refine ⟨shape.symm, fun more ordered => ?_, fun _ => rfl, fun more => ?_, fun more => ?_⟩
  · cases only : cur.positionalOnly with
    | true =>
      rw [only] at ordered
      exact .positional text ordered
    | false =>
      rw [only] at ordered mode
      exact .fits (mode.resolve_left Bool.false_ne_true) ordered
  · exact List.append_assoc _ _ _
  · exact List.append_assoc _ _ _

theorem step_takes {given : Option CString} {next : Cursor}
    (keeps : ∀ spec ∈ table, spec.lastWins = false) (shape : cur.rest = given :: rest)
    (taken : step strict table given { cur with rest := rest } = .ok next) :
    ∃ piece, Takes strict table cur next piece := by
  obtain ⟨text, rfl, which⟩ := step_cases taken
  dsimp only at which
  rcases which with ⟨reading, rfl, rfl⟩ | ⟨reading, -, dashes, parsed, long, rfl⟩ |
    ⟨reading, dash, spec, parsed, found, nonneg, count, stored, rfl⟩ |
    ⟨mode, parsed, appended, rfl⟩
  · exact ⟨.separator, takes_separator shape reading⟩
  · obtain ⟨spec, value, rfl, clean, found, one, stored⟩ := parseLong_pair long
    have member := List.mem_of_find?_eq_some found
    have fits : (Piece.pair spec value).Fits strict table :=
      ⟨found, dashes_name dashes, clean, one⟩
    exact ⟨.pair spec value, takes_pair shape reading (keeps spec member) fits stored⟩
  · obtain rfl := findSpecExact_name found
    have member := List.mem_of_find?_eq_some found
    have values : ((rest.take spec.numArgs.toNat).length : ℤ) = spec.numArgs := by
      rw [List.length_take_of_le count]
      exact Int.toNat_of_nonneg nonneg
    exact ⟨.option spec (rest.take spec.numArgs.toNat),
      takes_option shape reading (keeps spec member) ⟨found, dash, values⟩ count stored⟩
  · exact ⟨.positional text, takes_positional shape mode appended⟩

end takes

theorem finish_pieces {strict : Bool} {table : List OptionSpec} {cur last : Cursor}
    (keeps : ∀ spec ∈ table, spec.lastWins = false)
    (done : finish strict table cur = .ok last) :
    ∃ pieces, pieces.flatMap Piece.args = cur.rest ∧
      Ordered strict table cur.positionalOnly pieces ∧
      last.parsed.options = cur.parsed.options ++ optionsAt cur.index pieces ∧
      last.parsed.positionals =
        cur.parsed.positionals ++ (positionalsAt cur.index pieces).map Prod.fst ∧
      last.parsed.positionalIndices =
        cur.parsed.positionalIndices ++ (positionalsAt cur.index pieces).map Prod.snd := by
  induction size : cur.rest.length using Nat.strongRecOn generalizing cur with
  | ind size ih =>
    cases shape : cur.rest with
    | nil =>
      rw [finish_nil shape] at done
      cases done
      refine ⟨[], rfl, .nil _, ?_, ?_, ?_⟩ <;> simp [optionsAt, positionalsAt]
    | cons given rest =>
      rw [finish_cons shape] at done
      cases taken : step strict table given { cur with rest := rest } with
      | error error =>
        rw [taken] at done
        cases done
      | ok next =>
        rw [taken] at done
        have shorter : next.rest.length ≤ rest.length := step_rest taken
        rw [shape, List.length_cons] at size
        obtain ⟨pieces, args, ordered, options, texts, indices⟩ :=
          ih next.rest.length (by omega) done rfl
        obtain ⟨piece, takes⟩ := step_takes keeps shape taken
        refine ⟨piece :: pieces, ?_, takes.ordered pieces ordered,
          options.trans (takes.options pieces), texts.trans (takes.positionals pieces),
          indices.trans (takes.indices pieces)⟩
        rw [List.flatMap_cons, args, takes.args, shape]

theorem parse_pieces {strict : Bool} {table : List OptionSpec} {argv : List (Option CString)}
    {parsed : Parsed} (keeps : ∀ spec ∈ table, spec.lastWins = false)
    (done : parse strict table argv = .ok parsed) :
    ∃ pieces, Accounts strict table argv parsed pieces := by
  rw [parse_eq] at done
  cases read : finish strict table (start argv.tail) with
  | error error =>
    rw [read] at done
    cases done
  | ok last =>
    rw [read] at done
    obtain ⟨rfl, required⟩ := enforceRequired_required done
    obtain ⟨pieces, args, ordered, options, texts, indices⟩ := finish_pieces keeps read
    have texts' : last.parsed.positionals = (positionalsAt 1 pieces).map Prod.fst := texts
    have indices' : last.parsed.positionalIndices = (positionalsAt 1 pieces).map Prod.snd := indices
    refine ⟨pieces, args, ordered, options, ?_, ?_, required⟩
    · have zipped := List.zip_unzip (positionalsAt 1 pieces)
      rw [List.unzip_eq_map] at zipped
      rw [texts', indices']
      exact zipped
    · rw [texts', indices', List.length_map, List.length_map]

end account

end Siglatch.LibArgvParse
