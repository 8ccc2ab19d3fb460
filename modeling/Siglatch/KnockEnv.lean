import Siglatch.AppAllowlists
import Siglatch.ParseIniRender

set_option autoImplicit false

namespace Siglatch.KnockEnv
open MuxTypes NetIpRange LibStr TextLines ParseIni ParseIniRender

def PATH_MAX : ℕ := 4096

def enter (place : List CString) (name : CString) : List CString :=
  if name = [] ∨ name = [46] then place
  else if name = [46, 46] then place.dropLast
  else place ++ [name]

/-- The place that a path leads to, where no link stands in the way. -/
def locate (path : CString) : List CString := (path.splitOn 47).foldl enter []

abbrev Files := List CString → Option Bytes

/-- What the system lets a command do. Of a text that is not written whole a front part stays. -/
structure Io where
  home : Option CString
  ensureDir : Bool
  opens : Bool
  unlinks : Bool
  written : Option ℕ

section Paths

def isAlnum (c : UInt8) : Bool :=
  isDigit c || (65 ≤ c && c ≤ 90) || (97 ≤ c && c ≤ 122)

def userTokenValid (user : CString) : Bool :=
  user ≠ [] && user.all fun c => isAlnum c || c == 95 || c == 45 || c == 46

def configRoot (home : CString) : CString := home ++ ascii "/.config/siglatch".toList

def userConfigName (user : CString) : CString :=
  ascii "client.".toList ++ (user ++ ascii ".conf".toList)

def buildConfigRootPath (io : Io) : Option CString := do
  let home ← io.home
  if home = [] ∨ PATH_MAX ≤ (configRoot home).length then none else some (configRoot home)

def buildHostConfigPath (io : Io) (host filename : CString) : Option CString := do
  if host = [] then none
  else
    let root ← buildConfigRootPath io
    let path := root ++ 47 :: (host ++ 47 :: filename)
    if PATH_MAX ≤ path.length then none else some path

def buildHostUserConfigFilename (user : CString) : Option CString :=
  if userTokenValid user = false then none
  else if PATH_MAX ≤ (userConfigName user).length then none
  else some (userConfigName user)

/-- The path of a user's settings for a host. -/
def hostUserConfigPath (io : Io) (host user : CString) : Option CString := do
  let filename ← buildHostUserConfigFilename user
  buildHostConfigPath io host filename

end Paths

section Settings

def SEND_FROM_KEY : CString := ascii "send_from_ip".toList

inductive SendFrom where
  | absent
  | invalid
  | found (ip : CString)
  deriving DecidableEq

/-- The first line that sets the address decides. -/
def scanSettings (outSize : ℕ) : List CString → SendFrom
  | [] => .absent
  | line :: rest =>
    let entry := trim (cString line)
    if entry.head? = none ∨ entry.head? = some 35 ∨ entry.head? = some 59 then
      scanSettings outSize rest
    else
      match splitKv entry with
      | none => scanSettings outSize rest
      | some (key, value) =>
        if key ≠ SEND_FROM_KEY then scanSettings outSize rest
        else if isSingleIpv4 value = false then .invalid
        else .found (lcpy value outSize)

def loadHostUserSendFromIp (io : Io) (files : Files) (host user : CString) (outSize : ℕ) :
    SendFrom :=
  match hostUserConfigPath io host user with
  | none => .invalid
  | some path =>
    if io.opens = false then .invalid
    else
      match files (locate path) with
      | none => .absent
      | some text => scanSettings outSize (readLines 10 256 [] text)

def settingText (ip : CString) : Bytes := (Line.entry SEND_FROM_KEY ip).text ++ [10]

def saveHostUserSendFromIp (io : Io) (files : Files) (host user ip : CString) : Bool × Files :=
  if isSingleIpv4 ip = false ∨ io.ensureDir = false then (false, files)
  else
    match hostUserConfigPath io host user with
    | none => (false, files)
    | some path =>
      if io.opens = false then (false, files)
      else
        match io.written with
        | some size => (false, Function.update files (locate path) ((settingText ip).take size))
        | none => (true, Function.update files (locate path) (settingText ip))

def clearHostUserSendFromIp (io : Io) (files : Files) (host user : CString) : Bool × Files :=
  match hostUserConfigPath io host user with
  | none => (false, files)
  | some path =>
    if io.unlinks = false then (false, files)
    else (true, Function.update files (locate path) none)

end Settings

section Places

structure Component (host : CString) : Prop where
  nonempty : host ≠ []
  noSlash : 47 ∉ host
  notHere : host ≠ [46]
  notUp : host ≠ [46, 46]

def placeOf (home host user : CString) : List CString :=
  locate (configRoot home) ++ [host, userConfigName user]

theorem locate_below (path name : CString) (noSlash : 47 ∉ name) :
    locate (path ++ 47 :: name) = enter (locate path) name := by
  unfold locate
  rw [List.splitOn_append_cons_self, List.splitOn_eq_singleton noSlash, List.foldl_append]
  rfl

theorem enter_component {name : CString} (component : Component name) (place : List CString) :
    enter place name = place ++ [name] := by
  unfold enter
  rw [if_neg (not_or.mpr ⟨component.nonempty, component.notHere⟩), if_neg component.notUp]

theorem userConfigName_component {user : CString} (valid : userTokenValid user = true) :
    Component (userConfigName user) := by
  have long : 12 ≤ (userConfigName user).length := by
    unfold userConfigName
    rw [List.length_append, List.length_append]
    change 12 ≤ 7 + (user.length + 5)
    omega
  refine ⟨?_, ?_, ?_, ?_⟩
  · intro empty
    rw [empty] at long
    exact absurd long (by decide)
  · unfold userConfigName
    rw [List.mem_append, List.mem_append]
    rintro (front | inside | back)
    · exact absurd front (by decide)
    · unfold userTokenValid at valid
      have tokens := List.all_eq_true.mp (Bool.and_eq_true_iff.mp valid).2 47 inside
      exact absurd tokens (by decide)
    · exact absurd back (by decide)
  · intro short
    rw [short] at long
    exact absurd long (by decide)
  · intro short
    rw [short] at long
    exact absurd long (by decide)

theorem buildHostConfigPath_some {io : Io} {host filename path : CString}
    (built : buildHostConfigPath io host filename = some path) :
    host ≠ [] ∧ ∃ home, io.home = some home ∧
      path = configRoot home ++ 47 :: (host ++ 47 :: filename) := by
  unfold buildHostConfigPath at built
  split at built
  · cases built
  rename_i nonempty
  obtain ⟨root, rooted, built⟩ := Option.bind_eq_some_iff.mp built
  obtain ⟨home, known, rooted⟩ := Option.bind_eq_some_iff.mp rooted
  split at rooted
  · cases rooted
  obtain rfl := Option.some.inj rooted
  dsimp only at built
  split at built
  · cases built
  obtain rfl := Option.some.inj built
  exact ⟨nonempty, home, known, rfl⟩

theorem hostUserConfigPath_some {io : Io} {host user path : CString}
    (built : hostUserConfigPath io host user = some path) :
    userTokenValid user = true ∧ host ≠ [] ∧ ∃ home, io.home = some home ∧
      path = configRoot home ++ 47 :: (host ++ 47 :: userConfigName user) := by
  obtain ⟨filename, named, built⟩ := Option.bind_eq_some_iff.mp built
  unfold buildHostUserConfigFilename at named
  split at named
  · cases named
  rename_i valid
  split at named
  · cases named
  obtain rfl := Option.some.inj named
  exact ⟨by simpa using valid, buildHostConfigPath_some built⟩

theorem locate_file {home host filename : CString} (component : Component host)
    (named : Component filename) :
    locate (configRoot home ++ 47 :: (host ++ 47 :: filename)) =
      locate (configRoot home) ++ [host, filename] := by
  have below := locate_below (configRoot home ++ 47 :: host) filename named.noSlash
  rw [List.append_assoc, List.cons_append] at below
  rw [below, locate_below _ _ component.noSlash, enter_component component, enter_component named,
    List.append_assoc]
  rfl

theorem locate_placeOf {home host user : CString} (component : Component host)
    (valid : userTokenValid user = true) :
    locate (configRoot home ++ 47 :: (host ++ 47 :: userConfigName user)) =
      placeOf home host user :=
  locate_file component (userConfigName_component valid)

theorem placeOf_inj {home host user host' user' : CString}
    (same : placeOf home host user = placeOf home host' user') : host = host' ∧ user = user' := by
  have tails := List.cons.inj (List.append_cancel_left same)
  have names := (List.cons.inj tails.2).1
  exact ⟨tails.1, List.append_cancel_right (List.append_cancel_left names)⟩

end Places

section RoundTrip

variable {ip : CString}

theorem isSpace_clean {c : UInt8} (blank : isSpace c = true) : c ≠ 0 ∧ c ≠ 47 := by
  constructor
  · rintro rfl
    exact absurd blank (by decide)
  · rintro rfl
    exact absurd blank (by decide)

theorem trim_parts (text : CString) : ∃ front back, text = front ++ (trim text ++ back) ∧
    front = text.takeWhile isSpace ∧ (∀ c ∈ back, isSpace c = true) := by
  have split := List.takeWhile_append_dropWhile (p := isSpace) (l := text)
  have back := List.rdropWhile_append_rtakeWhile (p := isSpace) (l := text.dropWhile isSpace)
  refine ⟨text.takeWhile isSpace, (text.dropWhile isSpace).rtakeWhile isSpace, ?_, rfl, ?_⟩
  · change text = _ ++ ((text.dropWhile isSpace).rdropWhile isSpace ++ _)
    rw [back, split]
  · intro c member
    exact List.mem_rtakeWhile_imp member

theorem single_trim (single : isSingleIpv4 ip = true) :
    ∃ addr, NetIpSpec.Quad (trim ip) addr := by
  unfold isSingleIpv4 at single
  split at single
  · cases single
  rename_i text trimmed
  obtain ⟨rfl, -, -⟩ := NetIpSpec.trimCopy_trim.mp trimmed
  have literal := (Bool.and_eq_true_iff.mp single).2
  obtain ⟨addr, parsed⟩ := Option.isSome_iff_exists.mp literal
  exact ⟨addr, NetIpSpec.parseIpv4Literal_iff.mp parsed⟩

theorem single_literal (single : isSingleIpv4 ip = true) :
    isSingleIpv4 (trim ip) = true ∧ (trim ip).length ≤ 15 ∧ trim ip ≠ [] := by
  obtain ⟨addr, quad⟩ := single_trim single
  have parsed := NetIpSpec.parseIpv4Literal_iff.mpr quad
  have literal := parseIpv4Literal_single (by rw [parsed]; rfl)
  exact ⟨literal.2, literal.1, (NetIpSpec.quad_length quad).2⟩

theorem single_clean (single : isSingleIpv4 ip = true) : 0 ∉ ip ∧ 10 ∉ trim ip := by
  obtain ⟨addr, quad⟩ := single_trim single
  have chars := NetIpSpec.quad_chars quad
  have core {c : UInt8} (member : c ∈ trim ip) : c ≠ 0 ∧ c ≠ 10 := by
    constructor
    · rintro rfl
      exact absurd (chars 0 member) (by decide)
    · rintro rfl
      exact absurd (chars 10 member) (by decide)
  refine ⟨fun zero => ?_, fun member => (core member).2 rfl⟩
  obtain ⟨front, back, cut, leading, trailing⟩ := trim_parts ip
  rw [cut, List.mem_append, List.mem_append] at zero
  rcases zero with before | inside | behind
  · rw [leading] at before
    exact (isSpace_clean (List.mem_takeWhile_imp before)).1 rfl
  · exact (core inside).1 rfl
  · exact (isSpace_clean (trailing 0 behind)).1 rfl

theorem trim_blanks {front back : CString} (leading : ∀ c ∈ front, isSpace c = true)
    (trailing : ∀ c ∈ back, isSpace c = true) (text : CString) :
    trim (front ++ (text ++ back)) = trim text := by
  induction front with
  | cons c front ih =>
    rw [List.cons_append, trim_cons_blank (leading c List.mem_cons_self)]
    exact ih fun d member => leading d (List.mem_cons_of_mem c member)
  | nil =>
    rw [List.nil_append]
    induction back using List.reverseRecOn with
    | nil => rw [List.append_nil]
    | append_singleton back c ih =>
      rw [← List.append_assoc, trim_concat_blank (trailing c (by simp))]
      exact ih fun d member => trailing d (List.mem_append_left _ member)

theorem takeWhile_broken {front : CString} (broken : 10 ∈ front) (more : CString) :
    (front ++ more).takeWhile (· ≠ 10) = front.takeWhile (· ≠ 10) := by
  rw [List.takeWhile_append, if_neg]
  intro whole
  have all := (List.takeWhile_prefix (p := fun c => decide (c ≠ 10))).eq_of_length whole
  have kept := List.mem_takeWhile_imp (all.symm ▸ broken)
  exact absurd kept (by decide)

theorem scan_line {value : CString} (clean : 0 ∉ value) (outSize : ℕ) (rest : List CString) :
    scanSettings outSize (((Line.entry SEND_FROM_KEY value).text ++ [10]) :: rest) =
      if isSingleIpv4 (trim value) = false then .invalid
      else .found (lcpy (trim value) outSize) := by
  have whole : (Line.entry SEND_FROM_KEY value).text ++ [10] =
      (Line.entry SEND_FROM_KEY (value ++ [10])).text := by
    unfold Line.text
    dsimp only
    rw [List.append_assoc]
    rfl
  have text_clean : 0 ∉ (Line.entry SEND_FROM_KEY (value ++ [10])).text := by
    unfold Line.text
    dsimp only
    rw [List.mem_append]
    rintro (key | behind)
    · exact absurd key (by decide)
    · simp [clean] at behind
  have read_back : trim ((32 :: (value ++ [10])).rdropWhile isSpace) = trim value := by
    rw [trim_rdropWhile, trim_cons_blank rfl, trim_concat_blank rfl]
  have trimmed : trim SEND_FROM_KEY = SEND_FROM_KEY := by decide
  have entry := @trim_entry SEND_FROM_KEY (value ++ [10]) trimmed (by decide)
  have kv := @splitKv_entry SEND_FROM_KEY ((32 :: (value ++ [10])).rdropWhile isSpace) trimmed
    (by decide)
  rw [read_back] at kv
  have first : ((SEND_FROM_KEY ++ [32]) ++ 61 ::
      (32 :: (value ++ [10])).rdropWhile isSpace).head? = some 115 := rfl
  unfold scanSettings
  dsimp only
  rw [whole, cString_clean text_clean, entry, first, if_neg (by decide), kv]
  dsimp only
  rw [if_neg (not_not_intro rfl)]

/-- The first line of what was saved goes to the first line break of the address. -/
theorem settingText_lines (short : ip.length ≤ 63) :
    ∃ rest, readLines 10 256 [] (settingText ip) =
      ((Line.entry SEND_FROM_KEY (ip.takeWhile (· ≠ 10))).text ++ [10]) :: rest := by
  have body_clean {value : CString} (clean : 10 ∉ value) :
      10 ∉ (Line.entry SEND_FROM_KEY value).text := by
    unfold Line.text
    dsimp only
    rw [List.mem_append]
    rintro (key | behind)
    · exact absurd key (by decide)
    · simp [clean] at behind
  have body_fits {value : CString} (few : value.length ≤ 63) :
      (Line.entry SEND_FROM_KEY value).text.length + 1 < 256 := by
    unfold Line.text
    dsimp only
    rw [List.length_append, List.length_cons, List.length_cons, List.length_cons]
    change 12 + _ + 1 < 256
    omega
  have head_clean : 10 ∉ ip.takeWhile (· ≠ 10) := fun member => by
    simpa using List.mem_takeWhile_imp member
  have head_short : (ip.takeWhile (· ≠ 10)).length ≤ 63 :=
    (List.takeWhile_prefix _).length_le.trans short
  have line := @readLines_line _ _ 10 256 _ (body_clean head_clean) []
  have cut := List.takeWhile_append_dropWhile (p := fun c => decide (c ≠ 10)) (l := ip)
  cases behind : ip.dropWhile (· ≠ 10) with
  | nil =>
    rw [behind, List.append_nil] at cut
    refine ⟨readLines 10 256 [] [], ?_⟩
    have text : settingText ip =
        (Line.entry SEND_FROM_KEY (ip.takeWhile (· ≠ 10))).text ++ 10 :: [] := by
      rw [cut]
      rfl
    rw [text, line [] (by simpa using body_fits head_short)]
    rfl
  | cons c more =>
    have stop : c = 10 := by
      have bare := List.head?_dropWhile_not (fun c => decide (c ≠ 10)) ip
      rw [behind] at bare
      simpa using bare
    subst stop
    rw [behind] at cut
    refine ⟨readLines 10 256 [] (more ++ [10]), ?_⟩
    have text : settingText ip =
        (Line.entry SEND_FROM_KEY (ip.takeWhile (· ≠ 10))).text ++ 10 :: (more ++ [10]) := by
      conv_lhs => rw [← cut]
      unfold settingText Line.text
      simp
    rw [text, line (more ++ [10]) (by simpa using body_fits head_short)]
    rfl

def readBack (ip : CString) : SendFrom :=
  if 10 ∈ ip.takeWhile isSpace then .invalid else .found (trim ip)

theorem scan_settingText (single : isSingleIpv4 ip = true) (short : ip.length ≤ 63) :
    scanSettings 64 (readLines 10 256 [] (settingText ip)) = readBack ip := by
  obtain ⟨rest, lines⟩ := settingText_lines short
  obtain ⟨zeroes, breaks⟩ := single_clean single
  obtain ⟨literal, small, -⟩ := single_literal single
  have head_clean : 0 ∉ ip.takeWhile (· ≠ 10) :=
    fun member => zeroes ((List.takeWhile_prefix _).subset member)
  rw [lines, scan_line head_clean]
  obtain ⟨front, back, cut, leading, trailing⟩ := trim_parts ip
  have blank : ∀ c ∈ front, isSpace c = true := by
    intro c member
    rw [leading] at member
    exact List.mem_takeWhile_imp member
  unfold readBack
  rw [← leading]
  by_cases broken : 10 ∈ front
  · -- nothing but blanks stands in front of the line break
    have empty : trim (ip.takeWhile (· ≠ 10)) = [] := by
      have inside : ∀ c ∈ ip.takeWhile (· ≠ 10), isSpace c = true := by
        intro c member
        rw [cut, takeWhile_broken broken] at member
        exact blank c ((List.takeWhile_prefix _).subset member)
      have all := @trim_blanks _ [] inside (by simp) []
      rwa [List.append_nil, List.append_nil] at all
    rw [empty, if_pos broken, if_pos (by decide)]
  · have value : trim (ip.takeWhile (· ≠ 10)) = trim ip := by
      have kept : ip.takeWhile (· ≠ 10) = front ++ (trim ip ++ back.takeWhile (· ≠ 10)) := by
        have before : ∀ c ∈ front, decide (c ≠ 10) = true :=
          fun c member => decide_eq_true fun same => broken (same ▸ member)
        have core : ∀ c ∈ trim ip, decide (c ≠ 10) = true :=
          fun c member => decide_eq_true fun same => breaks (same ▸ member)
        conv_lhs => rw [cut]
        rw [List.takeWhile_append_of_pos before, List.takeWhile_append_of_pos core]
      rw [kept, trim_blanks blank fun c member =>
        trailing c ((List.takeWhile_prefix _).subset member), AppAllowlists.trim_trim]
    have whole : lcpy (trim ip) 64 = trim ip := List.take_of_length_le (by omega)
    rw [value, if_neg broken, if_neg (by rw [literal]; exact Bool.noConfusion), whole]

end RoundTrip

end Siglatch.KnockEnv
