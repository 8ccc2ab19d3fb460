import Siglatch.LibArgvParse

set_option autoImplicit false

namespace Siglatch.LibArgvEquals
open MuxTypes LibArgv LibArgvParse

/-! Two vectors whose arguments stand at other places can be parsed to the same options. -/

def unplaced (option : ParsedOption) : ParsedOption := { option with sourceIndex := 0 }

def parsedView (parsed : Parsed) : Parsed :=
  ⟨parsed.options.map unplaced, parsed.positionals, parsed.positionalIndices.map fun _ => 0⟩

def view : Except ArgvError Parsed → Except ArgvError Parsed
  | .error error => .error { error with argIndex := 0 }
  | .ok parsed => .ok (parsedView parsed)

def cursorView : Except ArgvError Cursor → Except ArgvError Cursor
  | .error error => .error { error with argIndex := 0 }
  | .ok cur => .ok { cur with index := 0, parsed := parsedView cur.parsed }

structure Alike (cur cur' : Cursor) : Prop where
  rest : cur.rest = cur'.rest
  positionalOnly : cur.positionalOnly = cur'.positionalOnly
  parsed : parsedView cur.parsed = parsedView cur'.parsed

section view

variable {strict : Bool} {table : List OptionSpec} {parsed parsed' : Parsed}

theorem findIndex_view (parsed : Parsed) (id : ℤ) :
    findOptionIndexById (parsedView parsed) id = findOptionIndexById parsed id := by
  unfold findOptionIndexById parsedView
  rw [List.findIdx?_map]
  rfl

theorem findIndex_alike (alike : parsedView parsed = parsedView parsed') (id : ℤ) :
    findOptionIndexById parsed id = findOptionIndexById parsed' id := by
  rw [← findIndex_view, alike, findIndex_view]

theorem options_alike (alike : parsedView parsed = parsedView parsed') :
    parsed.options.map unplaced = parsed'.options.map unplaced := congrArg Parsed.options alike

theorem length_alike (alike : parsedView parsed = parsedView parsed') :
    parsed.options.length = parsed'.options.length := by
  have lengths := congrArg List.length (options_alike alike)
  rwa [List.length_map, List.length_map] at lengths

theorem storeOption_alike (alike : parsedView parsed = parsedView parsed') (opt : OptionSpec)
    (spelling : CString) (index index' : ℕ) (values : List (Option CString)) :
    view (storeOption parsed opt spelling index values) =
      view (storeOption parsed' opt spelling index' values) := by
  have options := options_alike alike
  have positionals := congrArg Parsed.positionals alike
  have indices := congrArg Parsed.positionalIndices alike
  unfold storeOption
  dsimp only
  rw [findIndex_alike alike, length_alike alike]
  split
  · rfl
  split
  · split
    · unfold view parsedView
      dsimp only
      rw [List.map_set, List.map_set, options]
      exact congrArg Except.ok (congrArg₂ _ positionals indices)
    · rfl
  split
  · rfl
  · unfold view parsedView
    dsimp only
    rw [List.map_append, List.map_append, options]
    exact congrArg Except.ok (congrArg₂ _ positionals indices)

theorem appendPositional_alike (alike : parsedView parsed = parsedView parsed')
    (value : CString) (index index' : ℕ) :
    view (appendPositional parsed value index) = view (appendPositional parsed' value index') := by
  have options := options_alike alike
  have positionals := congrArg Parsed.positionals alike
  have indices := congrArg Parsed.positionalIndices alike
  unfold parsedView at positionals indices
  dsimp only at positionals indices
  unfold appendPositional
  rw [positionals]
  split
  · rfl
  · unfold view parsedView
    dsimp only
    rw [List.map_append, List.map_append, options, indices]
    rfl

theorem parseLong_alike (alike : parsedView parsed = parsedView parsed') (text : CString)
    (index index' : ℕ) :
    (parseLongWithEquals strict table text index parsed).map view =
      (parseLongWithEquals strict table text index' parsed').map view := by
  unfold parseLongWithEquals
  dsimp only
  split
  · rfl
  split
  · split <;> rfl
  split
  · split <;> rfl
  split
  · rfl
  · exact congrArg some (storeOption_alike alike _ _ index index' _)

theorem enforceRequired_alike (alike : parsedView parsed = parsedView parsed') :
    view (enforceRequired table parsed) = view (enforceRequired table parsed') := by
  have same : (fun spec : OptionSpec => decide (spec.required = true ∧
      findOptionIndexById parsed spec.id = none)) =
      fun spec => decide (spec.required = true ∧ findOptionIndexById parsed' spec.id = none) := by
    funext spec
    rw [findIndex_alike alike]
  unfold enforceRequired
  rw [same]
  split
  · rfl
  · exact congrArg Except.ok alike

end view

section loop

variable {strict : Bool} {table : List OptionSpec} {cur cur' : Cursor}

theorem view_map {outcome outcome' : Except ArgvError Parsed} {make make' : Parsed → Cursor}
    (same : view outcome = view outcome')
    (made : ∀ parsed parsed', parsedView parsed = parsedView parsed' →
      cursorView (.ok (make parsed)) = cursorView (.ok (make' parsed'))) :
    cursorView (outcome.map make) = cursorView (outcome'.map make') := by
  cases outcome with
  | error error =>
    cases outcome' with
    | error error' =>
      exact congrArg Except.error (Except.error.inj same)
    | ok parsed' => cases same
  | ok parsed =>
    cases outcome' with
    | error error' => cases same
    | ok parsed' => exact made parsed parsed' (Except.ok.inj same)

theorem cursorView_ok (alike : Alike cur cur') :
    cursorView (.ok cur) = cursorView (.ok cur') := by
  unfold cursorView
  dsimp only
  rw [alike.rest, alike.positionalOnly, alike.parsed]

theorem cursorView_alike (same : cursorView (.ok cur) = cursorView (.ok cur')) :
    Alike cur cur' := by
  obtain ⟨-, rest, only, parsed⟩ := Cursor.mk.inj (Except.ok.inj same)
  exact ⟨rest, only, parsed⟩

theorem stepPositional_alike (alike : Alike cur cur') (text : CString) :
    cursorView (stepPositional text cur) = cursorView (stepPositional text cur') := by
  unfold stepPositional
  refine view_map (appendPositional_alike alike.parsed text _ _) fun parsed parsed' same => ?_
  exact cursorView_ok ⟨alike.rest, alike.positionalOnly, same⟩

theorem stepExact_alike (alike : Alike cur cur') (text : CString) :
    cursorView (stepExact strict table text cur) =
      cursorView (stepExact strict table text cur') := by
  unfold stepExact
  rw [alike.rest]
  split
  · split
    · rfl
    · exact stepPositional_alike alike text
  split
  · rfl
  split
  · rfl
  · refine view_map (storeOption_alike alike.parsed _ text _ _ _) fun parsed parsed' same => ?_
    exact cursorView_ok ⟨rfl, alike.positionalOnly, same⟩

theorem step_alike (alike : Alike cur cur') (given : Option CString) :
    cursorView (step strict table given cur) = cursorView (step strict table given cur') := by
  unfold step
  rw [alike.positionalOnly]
  split
  · rfl
  rename_i text
  split
  · exact stepPositional_alike alike text
  split
  · exact cursorView_ok ⟨alike.rest, rfl, alike.parsed⟩
  by_cases dashes : [45, 45] <+: text
  · rw [if_pos dashes, if_pos dashes]
    have long := @parseLong_alike strict table _ _ alike.parsed text cur.index cur'.index
    cases read : parseLongWithEquals strict table text cur.index cur.parsed with
    | none =>
      cases read' : parseLongWithEquals strict table text cur'.index cur'.parsed with
      | none =>
        dsimp only
        split
        · exact stepExact_alike alike text
        · exact stepPositional_alike alike text
      | some outcome' =>
        rw [read, read'] at long
        cases long
    | some outcome =>
      cases read' : parseLongWithEquals strict table text cur'.index cur'.parsed with
      | none =>
        rw [read, read'] at long
        cases long
      | some outcome' =>
        rw [read, read'] at long
        refine view_map (Option.some.inj long) fun parsed parsed' same => ?_
        exact cursorView_ok ⟨alike.rest, rfl, same⟩
  · rw [if_neg dashes, if_neg dashes]
    dsimp only
    split
    · exact stepExact_alike alike text
    · exact stepPositional_alike alike text

theorem loop_alike (fuel : ℕ) (alike : Alike cur cur') :
    cursorView (loop strict table fuel cur) = cursorView (loop strict table fuel cur') := by
  induction fuel generalizing cur cur' with
  | zero => exact cursorView_ok alike
  | succ fuel ih =>
    unfold loop
    rw [alike.rest]
    split
    · exact cursorView_ok alike
    rename_i given rest shape
    have less : Alike { cur with rest := rest } { cur' with rest := rest } :=
      ⟨rfl, alike.positionalOnly, alike.parsed⟩
    have one := @step_alike strict table _ _ less given
    cases taken : step strict table given { cur with rest := rest } with
    | error error =>
      cases taken' : step strict table given { cur' with rest := rest } with
      | error error' =>
        rw [taken, taken'] at one
        exact one
      | ok next' =>
        rw [taken, taken'] at one
        cases one
    | ok next =>
      cases taken' : step strict table given { cur' with rest := rest } with
      | error error' =>
        rw [taken, taken'] at one
        cases one
      | ok next' =>
        rw [taken, taken'] at one
        exact ih (cursorView_alike one)

theorem finish_alike (alike : Alike cur cur') :
    cursorView (finish strict table cur) = cursorView (finish strict table cur') := by
  unfold finish
  rw [alike.rest]
  exact loop_alike _ alike

end loop

section front

variable {strict : Bool} {table : List OptionSpec} {cur last next : Cursor}
  {more : List (Option CString)}

def extend (more : List (Option CString)) (cur : Cursor) : Cursor :=
  { cur with rest := cur.rest ++ more }

theorem map_extend {outcome : Except ArgvError Parsed} {make : Parsed → Cursor} :
    (outcome.map fun parsed => extend more (make parsed)) =
      (outcome.map make).map (extend more) := by
  cases outcome <;> rfl

theorem stepPositional_extend (text : CString) :
    stepPositional text (extend more cur) = (stepPositional text cur).map (extend more) := by
  unfold stepPositional
  rw [← map_extend]
  rfl

theorem stepExact_extend (text : CString)
    (enough : ∀ error, stepExact strict table text cur = .error error →
      error.code ≠ .notEnoughOptionArgs) :
    stepExact strict table text (extend more cur) =
      (stepExact strict table text cur).map (extend more) := by
  unfold stepExact at enough ⊢
  cases found : findSpecExact text table with
  | none =>
    dsimp only
    split
    · rfl
    · exact stepPositional_extend text
  | some opt =>
    rw [found] at enough
    dsimp only at enough ⊢
    split
    · rfl
    rename_i nonneg
    have there : ¬ (cur.rest.length : ℤ) < opt.numArgs := by
      intro short
      rw [if_neg nonneg, if_pos short] at enough
      exact enough _ rfl rfl
    have there' : ¬ ((cur.rest ++ more).length : ℤ) < opt.numArgs := by
      rw [List.length_append]
      omega
    have count : opt.numArgs.toNat ≤ cur.rest.length := by omega
    rw [if_neg there, ← map_extend]
    unfold extend
    dsimp only
    rw [if_neg there', List.take_append_of_le_length count, List.drop_append_of_le_length count]

theorem step_extend (given : Option CString)
    (enough : ∀ error, step strict table given cur = .error error →
      error.code ≠ .notEnoughOptionArgs) :
    step strict table given (extend more cur) =
      (step strict table given cur).map (extend more) := by
  cases given with
  | none => rfl
  | some text =>
    unfold step at enough ⊢
    have only : (extend more cur).positionalOnly = cur.positionalOnly := rfl
    have parsed : (extend more cur).parsed = cur.parsed := rfl
    have index : (extend more cur).index = cur.index := rfl
    rw [only, parsed, index]
    dsimp only at enough ⊢
    split
    · exact stepPositional_extend text
    rename_i reading
    rw [if_neg reading] at enough
    split
    · rfl
    rename_i other
    rw [if_neg other] at enough
    split
    · rw [← map_extend]
      rfl
    rename_i none
    rw [none] at enough
    dsimp only at enough
    split
    · rename_i dash
      rw [if_pos dash] at enough
      exact stepExact_extend text enough
    · exact stepPositional_extend text

theorem finish_extend (enough : ∀ error, finish strict table cur = .error error →
      error.code ≠ .notEnoughOptionArgs) :
    finish strict table (extend more cur) =
      match finish strict table cur with
      | .error error => .error error
      | .ok last => finish strict table { last with rest := more } := by
  induction size : cur.rest.length using Nat.strongRecOn generalizing cur with
  | ind size ih =>
    cases shape : cur.rest with
    | nil =>
      rw [finish_nil shape]
      unfold extend
      rw [shape, List.nil_append]
    | cons given rest =>
      have shape' : (extend more cur).rest = given :: (rest ++ more) := by
        unfold extend
        rw [shape, List.cons_append]
      have one : ∀ error, step strict table given { cur with rest := rest } = .error error →
          error.code ≠ .notEnoughOptionArgs := by
        intro error failed
        refine enough error ?_
        rw [finish_cons shape, failed]
      have stepped : step strict table given { extend more cur with rest := rest ++ more } =
          (step strict table given { cur with rest := rest }).map (extend more) :=
        @step_extend strict table { cur with rest := rest } more given one
      rw [finish_cons shape] at enough
      rw [finish_cons shape, finish_cons shape', stepped]
      cases taken : step strict table given { cur with rest := rest } with
      | error error => rfl
      | ok next =>
        rw [taken] at enough
        have shorter := step_rest taken
        rw [shape, List.length_cons] at size
        dsimp only at shorter
        exact ih next.rest.length (by omega) enough rfl

end front

section equals

variable {strict : Bool} {table : List OptionSpec} {front back : List (Option CString)}
  {first : Option CString} {key value : CString} {opt : OptionSpec} {cur : Cursor}

/-- Behind these arguments the next one is read as an option or a positional, and not as a value
    of an option or behind the separator. -/
def AtOption (strict : Bool) (table : List OptionSpec) (front : List (Option CString)) : Prop :=
  match finish strict table (start front) with
  | .ok last => last.positionalOnly = false
  | .error error => error.code ≠ .notEnoughOptionArgs

/-- An option that has one argument and a name that both spellings can give. -/
structure OneArgument (table : List OptionSpec) (key : CString) (opt : OptionSpec) : Prop where
  found : findSpecExact key table = some opt
  one : opt.numArgs = 1
  dashes : [45, 45] <+: key
  named : key ≠ [45, 45]
  noEquals : 61 ∉ key
  short : key.length < KEY_BUF_SIZE

theorem step_spaced (option : OneArgument table key opt) (reading : cur.positionalOnly = false)
    (rest : cur.rest = some value :: back) :
    step strict table (some key) cur =
      (storeOption cur.parsed opt key cur.index [some value]).map fun parsed =>
        { cur with index := cur.index + 2, rest := back, parsed := parsed } := by
  have dash : key.head? = some 45 := by
    obtain ⟨tail, rfl⟩ := option.dashes
    rfl
  have short : parseLongWithEquals strict table key cur.index cur.parsed = none :=
    if_pos option.noEquals
  unfold step
  dsimp only
  rw [reading, if_neg Bool.false_ne_true, if_neg option.named, if_pos option.dashes, short]
  dsimp only
  rw [if_pos dash]
  unfold stepExact
  rw [option.found]
  dsimp only
  rw [option.one, if_neg (by decide), rest, if_neg (by rw [List.length_cons]; omega)]
  have one : (1 : ℤ).toNat = 1 := rfl
  rw [one, List.take_succ_cons, List.take_zero, reading]
  rfl

theorem key_split (noEquals : 61 ∉ key) :
    (key ++ 61 :: value).takeWhile (· ≠ 61) = key ∧
      ((key ++ 61 :: value).dropWhile (· ≠ 61)).tail = value := by
  have plain : ∀ c ∈ key, decide (c ≠ 61) = true := fun c member =>
    decide_eq_true fun same => noEquals (same ▸ member)
  constructor
  · rw [List.takeWhile_append_of_pos plain, List.takeWhile_cons_of_neg (by decide),
      List.append_nil]
  · rw [List.dropWhile_append_of_pos plain, List.dropWhile_cons_of_neg (by decide),
      List.tail_cons]

theorem step_joined (option : OneArgument table key opt) (reading : cur.positionalOnly = false) :
    step strict table (some (key ++ 61 :: value)) cur =
      (storeOption cur.parsed opt key cur.index [some value]).map fun parsed =>
        { cur with index := cur.index + 1, parsed := parsed } := by
  have name := findSpecExact_name option.found
  have dashes : [45, 45] <+: key ++ 61 :: value := option.dashes.trans (List.prefix_append _ _)
  have nonempty : ¬ (key.length = 0 ∨ KEY_BUF_SIZE ≤ key.length) := by
    have two := option.dashes.length_le
    have short := option.short
    rw [List.length_cons, List.length_singleton] at two
    omega
  have named : key ++ 61 :: value ≠ [45, 45] := by
    intro same
    have inside : (61 : UInt8) ∈ key ++ 61 :: value :=
      List.mem_append_right _ List.mem_cons_self
    rw [same] at inside
    revert inside
    decide
  obtain ⟨before, behind⟩ := @key_split key value option.noEquals
  have long : parseLongWithEquals strict table (key ++ 61 :: value) cur.index cur.parsed =
      some (storeOption cur.parsed opt key cur.index [some value]) := by
    unfold parseLongWithEquals
    dsimp only
    rw [if_neg (not_not.mpr (List.mem_append_right _ List.mem_cons_self)), before,
      if_neg nonempty, option.found]
    dsimp only
    rw [if_neg (not_not.mpr option.one), behind, name]
  unfold step
  dsimp only
  rw [reading, if_neg Bool.false_ne_true, if_neg named, if_pos dashes, long]

theorem finish_spellings (option : OneArgument table key opt)
    (reading : cur.positionalOnly = false) :
    cursorView (finish strict table { cur with rest := some key :: some value :: back }) =
      cursorView (finish strict table { cur with rest := some (key ++ 61 :: value) :: back }) := by
  have spaced := @step_spaced strict table back key value opt
    { cur with rest := some value :: back } option reading rfl
  have joined := @step_joined strict table key value opt { cur with rest := back } option reading
  rw [finish_cons rfl, finish_cons rfl]
  dsimp only at spaced joined ⊢
  rw [spaced, joined]
  cases stored : storeOption cur.parsed opt key cur.index [some value] with
  | error error => rfl
  | ok parsed => exact finish_alike ⟨rfl, rfl, rfl⟩

theorem parse_view {argv argv' : List (Option CString)}
    (same : cursorView (finish strict table (start argv.tail)) =
      cursorView (finish strict table (start argv'.tail))) :
    view (parse strict table argv) = view (parse strict table argv') := by
  rw [parse_eq, parse_eq]
  cases read : finish strict table (start argv.tail) with
  | error error =>
    cases read' : finish strict table (start argv'.tail) with
    | error error' =>
      rw [read, read'] at same
      exact congrArg Except.error (Except.error.inj same)
    | ok last' =>
      rw [read, read'] at same
      cases same
  | ok last =>
    cases read' : finish strict table (start argv'.tail) with
    | error error' =>
      rw [read, read'] at same
      cases same
    | ok last' =>
      rw [read, read'] at same
      exact enforceRequired_alike (cursorView_alike same).parsed

theorem parse_spellings (option : OneArgument table key opt)
    (at_option : AtOption strict table front) :
    view (parse strict table (first :: (front ++ some key :: some value :: back))) =
      view (parse strict table (first :: (front ++ some (key ++ 61 :: value) :: back))) := by
  have enough : ∀ error, finish strict table (start front) = .error error →
      error.code ≠ .notEnoughOptionArgs := by
    intro error failed
    unfold AtOption at at_option
    rw [failed] at at_option
    exact at_option
  have reached (more : List (Option CString)) :
      finish strict table (start (front ++ more)) =
        match finish strict table (start front) with
        | .error error => .error error
        | .ok last => finish strict table { last with rest := more } :=
    @finish_extend strict table (start front) more enough
  apply parse_view
  rw [List.tail_cons, List.tail_cons, reached, reached]
  unfold AtOption at at_option
  cases read : finish strict table (start front) with
  | error error => rfl
  | ok last =>
    rw [read] at at_option
    exact finish_spellings option at_option

/-- What is parsed accounts for each argument, and an option with one argument can be given in
    either spelling, whatever stands around it and whatever the policy on duplicates. -/
theorem parse_accounts (strict : Bool) (table : List OptionSpec) :
    ((∀ spec ∈ table, spec.lastWins = false) → ∀ argv parsed,
      parse strict table argv = .ok parsed → ∃ pieces, Accounts strict table argv parsed pieces) ∧
    ∀ first front key value back opt, OneArgument table key opt → AtOption strict table front →
      view (parse strict table (first :: (front ++ some key :: some value :: back))) =
        view (parse strict table (first :: (front ++ some (key ++ 61 :: value) :: back))) :=
  ⟨fun keeps _ _ done => parse_pieces keeps done,
    fun _ _ _ _ _ _ option at_option => parse_spellings option at_option⟩

def sampleTable : List OptionSpec :=
  [⟨[45, 45, 112], 1, 1, true, false, false⟩, ⟨[45, 118], 2, 0, false, true, false⟩]

theorem parse_accounts_sample :
    (∃ pieces, Accounts true sampleTable
      [none, some [45, 118], some [45, 45, 112], some [45, 45], some [45, 45], some [45, 118]]
      ⟨[⟨⟨[45, 118], 2, 0, false, true, false⟩, [some [45, 118]], 1⟩,
        ⟨⟨[45, 45, 112], 1, 1, true, false, false⟩, [some [45, 45, 112], some [45, 45]], 2⟩],
        [[45, 118]], [5]⟩ pieces) ∧
    view (parse true sampleTable [none, some [45, 118], some [45, 45, 112], some [45, 45]]) =
      view (parse true sampleTable [none, some [45, 118], some [45, 45, 112, 61, 45, 45]]) :=
  ⟨(parse_accounts true sampleTable).1 (by decide) _ _ rfl,
    (parse_accounts true sampleTable).2 none [some [45, 118]] [45, 45, 112] [45, 45] []
      ⟨[45, 45, 112], 1, 1, true, false, false⟩
      ⟨by decide, rfl, by decide, by decide, by decide, by decide⟩ rfl⟩

/-- An option whose name has an equals sign in it is found by its name alone only. -/
theorem equalsName_spellings :
    parse false [⟨[45, 45, 97, 61, 98], 1, 1, false, false, false⟩]
        [none, some [45, 45, 97, 61, 98], some [118]] =
      .ok ⟨[⟨⟨[45, 45, 97, 61, 98], 1, 1, false, false, false⟩,
        [some [45, 45, 97, 61, 98], some [118]], 1⟩], [], []⟩ ∧
    parse false [⟨[45, 45, 97, 61, 98], 1, 1, false, false, false⟩]
        [none, some [45, 45, 97, 61, 98, 61, 118]] =
      .ok ⟨[], [[45, 45, 97, 61, 98, 61, 118]], [1]⟩ := ⟨rfl, rfl⟩

end equals

end Siglatch.LibArgvEquals
