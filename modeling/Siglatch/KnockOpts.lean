import Siglatch.KnockAliasOps
import Siglatch.KnockDefaults
import Siglatch.KnockTransmit

set_option autoImplicit false

namespace Siglatch.KnockOpts
open MuxTypes NetIpRange LibStr LibArgv KnockEnv KnockDefaults KnockTransmit

def MAX_PAYLOAD_SIZE : ℕ := 513
def DEFAULT_PORT : ℕ := 50000

structure TransmitOpts where
  hmacKeyPath : CString
  serverPubkeyPath : CString
  clientPrivkeyPath : CString
  logFile : CString
  host : CString
  userSelector : CString
  sendFromIp : CString
  port : ℕ
  hmacMode : HmacMode
  protocol : KnockProtocol
  encrypt : Bool
  deadDrop : Bool
  outputMode : ℕ
  stdinRequested : Bool
  userId : ℕ
  actionId : ℕ
  fragmentCount : ℕ
  payload : Bytes
  verbose : ℕ

section Getters

/-- `strtol` in base ten, with the text behind the number. Nothing comes back on an overflow. -/
def strtolRange (text : CString) : Option (ℤ × CString) :=
  let body := text.dropWhile isSpace
  let negative := body.head? = some 45
  let digits := if negative ∨ body.head? = some 43 then body.tail else body
  let run := digits.takeWhile isDigit
  let magnitude : ℤ := run.foldl (fun n c => n * 10 + (c.toNat - 48)) 0
  if run = [] then some (0, text)
  else if negative then
    if LONG_MAX + 1 < magnitude then none else some (-magnitude, digits.dropWhile isDigit)
  else if LONG_MAX < magnitude then none
  else some (magnitude, digits.dropWhile isDigit)

inductive LongParse where
  | bad
  | outOfRange
  | value (number : ℤ)
  deriving DecidableEq

def parseLongRange (text : CString) (minValue maxValue : ℤ) : LongParse :=
  if text = [] then .bad
  else
    match strtolRange text with
    | none => .bad
    | some (number, rest) =>
      if rest ≠ [] then .bad
      else if number < minValue ∨ maxValue < number then .outOfRange
      else .value number

def optionValue (option : ParsedOption) : CString := (option.args.getD 1 none).getD []

/-- A message that does not fit its buffer gives way to a shorter one. -/
def shapeTyped (text : String) (option : ParsedOption) : CString :=
  let message :=
    ascii text.toList ++ (option.spec.name ++ (ascii ": ".toList ++ optionValue option))
  if 256 ≤ message.length then ascii "Invalid option value".toList else message

def message (front : String) (value : CString) (back : String) : CString :=
  (ascii front.toList ++ (value ++ ascii back.toList)).take 255

def getI32 (option : ParsedOption) (minValue maxValue : ℕ) : Except CString ℕ :=
  match parseLongRange (optionValue option) minValue maxValue with
  | .bad => .error (shapeTyped "Invalid numeric value for " option)
  | .outOfRange => .error (shapeTyped "Out-of-range value for " option)
  | .value number => .ok number.toNat

def getU16 (option : ParsedOption) : Except CString ℕ := getI32 option 0 65535

def getEnum {α : Type*} (option : ParsedOption) (map : List (CString × α)) : Option α :=
  (map.find? (·.1 = optionValue option)).map (·.2)

end Getters

section Apply

def protocolMap : List (CString × KnockProtocol) :=
  [(ascii "v1".toList, .v1), (ascii "v2".toList, .v2), (ascii "v3".toList, .v3),
    (ascii "v4".toList, .v4)]

def outputModeMap : List (CString × ℕ) :=
  [(ascii "unicode".toList, 1), (ascii "ascii".toList, 2)]

def keyed (name : String) (id : ℤ) : OptionSpec := ⟨ascii name.toList, id, 1, false, false, true⟩
def flag (name : String) (id : ℤ) : OptionSpec := ⟨ascii name.toList, id, 0, false, false, true⟩

def transmitSpecs : List OptionSpec :=
  [keyed "--port" 3, keyed "--hmac-key" 1, keyed "--protocol" 2, keyed "--server-key" 4,
    keyed "--client-key" 5, flag "--no-hmac" 6, flag "--stdin" 14, flag "--opts-dump" 0,
    flag "--dummy-hmac" 7, flag "--no-encrypt" 8, flag "--dead-drop" 9, keyed "--fragment" 10,
    keyed "--send-from" 11, keyed "--verbose" 12, keyed "--log" 13, keyed "--output-mode" 15]

def applyOption (opts : TransmitOpts) (option : ParsedOption) : Except CString TransmitOpts :=
  let value := optionValue option
  match option.spec.id with
  | 1 => .ok { opts with hmacKeyPath := value.take (KnockEnv.PATH_MAX - 1) }
  | 2 =>
    match getEnum option protocolMap with
    | none => .error (message "Invalid protocol: " value " (expected 'v1', 'v2', 'v3', or 'v4')")
    | some protocol => .ok { opts with protocol := protocol }
  | 3 => (getU16 option).map fun port => { opts with port := port }
  | 4 => .ok { opts with serverPubkeyPath := value.take (KnockEnv.PATH_MAX - 1) }
  | 5 => .ok { opts with clientPrivkeyPath := value.take (KnockEnv.PATH_MAX - 1) }
  | 6 => .ok { opts with hmacMode := .none }
  | 7 => .ok { opts with hmacMode := .dummy }
  | 8 => .ok { opts with encrypt := false }
  | 9 => .ok { opts with deadDrop := true }
  | 10 =>
    match KnockAliasOps.parseId value 1 KnockAliasMap.UINT32_MAX with
    | none =>
      .error (ascii "Invalid --fragment count (expected positive integer)".toList)
    | some count => .ok { opts with fragmentCount := count }
  | 11 => .ok { opts with sendFromIp := value.take 63 }
  | 12 => (getI32 option 0 5).map fun verbose => { opts with verbose := verbose }
  | 13 => .ok { opts with logFile := value.take (KnockEnv.PATH_MAX - 1) }
  | 14 => .ok { opts with stdinRequested := true }
  | 15 =>
    match getEnum option outputModeMap with
    | none => .error (message "Invalid output mode: " value " (expected 'unicode' or 'ascii')")
    | some mode => .ok { opts with outputMode := mode }
  | _ => .ok opts

def applyOptions (opts : TransmitOpts) (options : List ParsedOption) :
    Except CString TransmitOpts :=
  options.foldlM applyOption opts

def mapName : KnockAliasOps.AliasKind → CString
  | .user => ascii "user.map".toList
  | .action => ascii "action.map".toList

def mapIo (io : Io) (maps : KnockAliasMap.Io) (host : CString) (kind : KnockAliasOps.AliasKind) :
    KnockAliasMap.Io :=
  { maps with buildPath := (buildHostConfigPath io host (mapName kind)).isSome }

def mapFile (io : Io) (files : Files) (host : CString) (kind : KnockAliasOps.AliasKind) :
    Option Bytes :=
  (buildHostConfigPath io host (mapName kind)).bind fun path => files (locate path)

def resolve (io : Io) (maps : KnockAliasMap.Io) (files : Files) (kind : KnockAliasOps.AliasKind)
    (host name : CString) : ℕ :=
  KnockAliasOps.resolveKind kind (mapIo io maps host kind) (mapFile io files host kind) host name

def idOf (resolved maxId : ℕ) (text : CString) : Option ℕ :=
  if resolved ≠ 0 then some resolved else KnockAliasOps.parseId text 1 maxId

def applyPositionals (io : Io) (maps : KnockAliasMap.Io) (files : Files) (opts : TransmitOpts)
    (positionals : List CString) : Except CString TransmitOpts :=
  match positionals with
  | host :: user :: action :: more =>
    match idOf (resolve io maps files .user host user) 65535 user with
    | none => .error (message "Unknown user alias or invalid user ID: " user
        " (expected alias or numeric range 1-65535)")
    | some userId =>
      match idOf (resolve io maps files .action host action) 255 action with
      | none => .error (message "Unknown action alias or invalid action ID: " action
          " (expected alias or numeric range 1-255)")
      | some actionId => .ok { opts with
          host := host.take 255
          userSelector := user.take 127
          userId := userId
          actionId := actionId
          payload := (more.headD []).take (MAX_PAYLOAD_SIZE - 1) }
  | _ => .error (ascii "Missing required positional arguments: host, user, action".toList)

end Apply

section Validate

/-- Each check that fails writes its message over the one before. -/
def check (failed : Bool) (text : CString) (error : Option CString) : Option CString :=
  if failed then some text else error

/-- A key path that was not given is the host's own. -/
def keyPath (io : Io) (host given : CString) (filename : String) : Option CString :=
  if host ≠ [] ∧ given = [] then buildHostConfigPath io host (ascii filename.toList)
  else some given

def effectiveMode (opts : TransmitOpts) : HmacMode := if opts.deadDrop then .none else opts.hmacMode

def sealedProtocol (protocol : KnockProtocol) : Bool := protocol = .v3 || protocol = .v4

def sendFrom (io : Io) (files : Files) (opts : TransmitOpts) : SendFrom :=
  if opts.host ≠ [] ∧ opts.userSelector ≠ [] ∧ opts.sendFromIp = [] then
    loadHostUserSendFromIp io files opts.host opts.userSelector 64
  else .found opts.sendFromIp

def SendFrom.ip : SendFrom → CString
  | .found ip => ip
  | _ => []

def validate (io : Io) (files : Files) (opts : TransmitOpts) : Except CString TransmitOpts :=
  let hmacKey := keyPath io opts.host opts.hmacKeyPath "hmac.key"
  let serverKey := keyPath io opts.host opts.serverPubkeyPath "server.pub.pem"
  let clientKey := keyPath io opts.host opts.clientPrivkeyPath "user.pri.pem"
  let source := sendFrom io files opts
  let mode := effectiveMode opts
  let tight := sealedProtocol opts.protocol
  let error := check (opts.host = []) (ascii "Host not specified!".toList) none
  let error := check (opts.userId = 0) (ascii "Invalid or missing user ID".toList) error
  let error := check (65535 < opts.userId)
    (ascii "Resolved user ID exceeds packet range (max 65535)".toList) error
  let error := check (opts.actionId = 0) (ascii "Invalid or missing action ID".toList) error
  let error := check (255 < opts.actionId)
    (ascii "Resolved action ID exceeds packet range (max 255)".toList) error
  let error := check hmacKey.isNone
    (message "Failed to resolve hmac key path for host: " opts.host "") error
  let error := check serverKey.isNone
    (message "Failed to resolve server key path for host: " opts.host "") error
  let error := check clientKey.isNone
    (message "Failed to resolve client key path for host: " opts.host "") error
  let error := check (source = .invalid) (invalidSetting opts.host opts.userSelector) error
  let error := check (SendFrom.ip source ≠ [] && !isSingleIpv4 (SendFrom.ip source))
    invalidSendFrom error
  let error := check (opts.fragmentCount = 0) (ascii "Invalid fragment count".toList) error
  let error := check (tight && !opts.encrypt)
    (ascii "Protocol v3/v4 requires encryption".toList) error
  let error := check (tight && mode ≠ .normal)
    (ascii "Protocol v3/v4 requires normal HMAC signing".toList) error
  let error := check (tight && opts.deadDrop)
    (ascii "Protocol v3/v4 does not support dead-drop mode".toList) error
  match error with
  | some text => .error text
  | none => .ok { opts with
      hmacKeyPath := hmacKey.getD []
      serverPubkeyPath := serverKey.getD []
      clientPrivkeyPath := clientKey.getD []
      sendFromIp := SendFrom.ip source
      port := if opts.port = 0 then DEFAULT_PORT else opts.port
      verbose := if 5 < opts.verbose then 3 else opts.verbose
      hmacMode := mode }

end Validate

section Parse

def defaults : TransmitOpts where
  hmacKeyPath := []
  serverPubkeyPath := []
  clientPrivkeyPath := []
  logFile := []
  host := []
  userSelector := []
  sendFromIp := []
  port := 0
  hmacMode := .normal
  protocol := .v1
  encrypt := true
  deadDrop := false
  outputMode := 0
  stdinRequested := false
  userId := 0
  actionId := 0
  fragmentCount := 1
  payload := []
  verbose := 3

def parseTransmit (io : Io) (maps : KnockAliasMap.Io) (files : Files) (parsed : Parsed) :
    Except CString TransmitOpts := do
  let opts ← applyOptions defaults parsed.options
  let opts ← applyPositionals io maps files opts parsed.positionals
  validate io files opts

end Parse

section Accepted

variable {io : Io} {maps : KnockAliasMap.Io} {files : Files} {opts opts' : TransmitOpts}

structure Ranged (opts : TransmitOpts) : Prop where
  port : opts.port ≤ 65535
  fragments : opts.fragmentCount ≤ KnockAliasMap.UINT32_MAX
  verbose : opts.verbose ≤ 5

structure WellFormed (opts : TransmitOpts) : Prop extends Ranged opts where
  host : opts.host ≠ [] ∧ opts.host.length ≤ 255
  user : 1 ≤ opts.userId ∧ opts.userId ≤ 65535
  action : 1 ≤ opts.actionId ∧ opts.actionId ≤ 255
  payload : opts.payload.length ≤ 512
  bound : 1 ≤ opts.port
  counted : 1 ≤ opts.fragmentCount
  keys : opts.hmacKeyPath ≠ [] ∧ opts.serverPubkeyPath ≠ [] ∧ opts.clientPrivkeyPath ≠ []
  source : opts.sendFromIp = [] ∨ isSingleIpv4 opts.sendFromIp = true
  tight : sealedProtocol opts.protocol = true →
    opts.encrypt = true ∧ opts.hmacMode = .normal ∧ opts.deadDrop = false
  dropped : opts.deadDrop = true → opts.hmacMode = .none

theorem getI32_range {option : ParsedOption} {minValue maxValue number : ℕ}
    (got : getI32 option minValue maxValue = .ok number) : number ≤ maxValue := by
  unfold getI32 parseLongRange at got
  split at got
  · cases got
  · cases got
  · rename_i value parsed
    obtain rfl := Except.ok.inj got
    split at parsed
    · cases parsed
    split at parsed
    · cases parsed
    split at parsed
    · cases parsed
    split at parsed
    · cases parsed
    · obtain rfl := LongParse.value.inj parsed
      omega

theorem applyOption_ranged {option : ParsedOption} (h : Ranged opts)
    (applied : applyOption opts option = .ok opts') : Ranged opts' := by
  unfold applyOption at applied
  dsimp only at applied
  split at applied
  all_goals try (obtain rfl := Except.ok.inj applied; exact ⟨h.port, h.fragments, h.verbose⟩)
  · split at applied
    · cases applied
    · obtain rfl := Except.ok.inj applied
      exact ⟨h.port, h.fragments, h.verbose⟩
  · cases got : getU16 option with
    | error text => rw [got] at applied; cases applied
    | ok port =>
      rw [got] at applied
      obtain rfl := Except.ok.inj applied
      exact ⟨getI32_range got, h.fragments, h.verbose⟩
  · split at applied
    · cases applied
    · rename_i count parsed
      obtain rfl := Except.ok.inj applied
      exact ⟨h.port, (KnockAliasOps.parseId_some parsed).2, h.verbose⟩
  · cases got : getI32 option 0 5 with
    | error text => rw [got] at applied; cases applied
    | ok verbose =>
      rw [got] at applied
      obtain rfl := Except.ok.inj applied
      exact ⟨h.port, h.fragments, getI32_range got⟩
  · split at applied
    · cases applied
    · obtain rfl := Except.ok.inj applied
      exact ⟨h.port, h.fragments, h.verbose⟩

theorem applyOptions_ranged {options : List ParsedOption} (h : Ranged opts)
    (applied : applyOptions opts options = .ok opts') : Ranged opts' := by
  induction options generalizing opts with
  | nil =>
    obtain rfl := Except.ok.inj applied
    exact h
  | cons option options ih =>
    unfold applyOptions at applied
    rw [List.foldlM_cons] at applied
    obtain ⟨next, first, rest⟩ := KnockAliasOps.bind_ok applied
    exact ih (applyOption_ranged h first) rest

/-- What the positional arguments add to the options. -/
theorem applyPositionals_some {positionals : List CString}
    (applied : applyPositionals io maps files opts positionals = .ok opts') :
    ∃ host user action more userId actionId, positionals = host :: user :: action :: more ∧
      idOf (resolve io maps files .user host user) 65535 user = some userId ∧
      idOf (resolve io maps files .action host action) 255 action = some actionId ∧
      opts' = { opts with
        host := host.take 255
        userSelector := user.take 127
        userId := userId
        actionId := actionId
        payload := (more.headD []).take (MAX_PAYLOAD_SIZE - 1) } := by
  unfold applyPositionals at applied
  split at applied
  · rename_i host user action more
    split at applied
    · cases applied
    rename_i userId resolvedUser
    split at applied
    · cases applied
    rename_i actionId resolvedAction
    exact ⟨host, user, action, more, userId, actionId, rfl, resolvedUser, resolvedAction,
      (Except.ok.inj applied).symm⟩
  · cases applied

theorem check_none {failed : Bool} {text : CString} {error : Option CString}
    (passed : check failed text error = none) : failed = false ∧ error = none := by
  unfold check at passed
  cases failed with
  | false => exact ⟨rfl, passed⟩
  | true => cases passed

theorem keyPath_taken {host given : CString} {filename : String} (host_ne : host ≠ [])
    (there : (keyPath io host given filename).isNone = false) :
    (keyPath io host given filename).getD [] ≠ [] := by
  unfold keyPath at there ⊢
  split
  · rename_i absent
    rw [if_pos absent] at there
    obtain ⟨path, built⟩ := Option.isSome_iff_exists.mp (by simpa using there)
    obtain ⟨-, home, -, rfl⟩ := buildHostConfigPath_some built
    rw [built, Option.getD_some]
    simp
  · rename_i given_ne
    exact fun empty => given_ne ⟨host_ne, empty⟩

theorem effectiveMode_dropped (dropped : opts.deadDrop = true) : effectiveMode opts = .none := by
  unfold effectiveMode
  rw [dropped, if_pos rfl]

structure Checked (io : Io) (files : Files) (opts opts' : TransmitOpts) : Prop where
  wellFormed : WellFormed opts'
  host : opts'.host = opts.host
  userId : opts'.userId = opts.userId
  actionId : opts'.actionId = opts.actionId
  valid : sendFrom io files opts ≠ .invalid
  source : opts'.sendFromIp = SendFrom.ip (sendFrom io files opts)

theorem validate_checked (ranged : Ranged opts) (host : opts.host.length ≤ 255)
    (payload : opts.payload.length ≤ 512) (accepted : validate io files opts = .ok opts') :
    Checked io files opts opts' := by
  unfold validate at accepted
  dsimp only at accepted
  split at accepted
  · cases accepted
  rename_i passed
  obtain ⟨undropped, passed⟩ := check_none passed
  obtain ⟨signed, passed⟩ := check_none passed
  obtain ⟨encrypted, passed⟩ := check_none passed
  obtain ⟨counted, passed⟩ := check_none passed
  obtain ⟨single, passed⟩ := check_none passed
  obtain ⟨valid, passed⟩ := check_none passed
  obtain ⟨clientKey, passed⟩ := check_none passed
  obtain ⟨serverKey, passed⟩ := check_none passed
  obtain ⟨hmacKey, passed⟩ := check_none passed
  obtain ⟨smallAction, passed⟩ := check_none passed
  obtain ⟨someAction, passed⟩ := check_none passed
  obtain ⟨smallUser, passed⟩ := check_none passed
  obtain ⟨someUser, passed⟩ := check_none passed
  obtain ⟨named, -⟩ := check_none passed
  obtain rfl := Except.ok.inj accepted
  have host_ne : opts.host ≠ [] := by simpa using named
  have keys : (keyPath io opts.host opts.hmacKeyPath "hmac.key").getD [] ≠ [] ∧
      (keyPath io opts.host opts.serverPubkeyPath "server.pub.pem").getD [] ≠ [] ∧
      (keyPath io opts.host opts.clientPrivkeyPath "user.pri.pem").getD [] ≠ [] :=
    ⟨keyPath_taken host_ne hmacKey, keyPath_taken host_ne serverKey,
      keyPath_taken host_ne clientKey⟩
  simp only [decide_eq_false_iff_not, not_lt] at smallAction someAction smallUser someUser counted
  have user : 1 ≤ opts.userId := Nat.pos_of_ne_zero someUser
  have action : 1 ≤ opts.actionId := Nat.pos_of_ne_zero someAction
  have fragments : 1 ≤ opts.fragmentCount := Nat.pos_of_ne_zero counted
  refine ⟨⟨⟨?_, ranged.fragments, ?_⟩, ⟨host_ne, host⟩, ⟨user, smallUser⟩,
    ⟨action, smallAction⟩, payload, ?_, fragments, keys, ?_, ?_,
    fun dropped => @effectiveMode_dropped opts dropped⟩, rfl, rfl,
    rfl, by simpa using valid, rfl⟩
  · have port := ranged.port
    dsimp only
    split
    · decide
    · exact port
  · have verbose := ranged.verbose
    dsimp only
    split <;> omega
  · dsimp only
    split
    · decide
    · omega
  · by_cases empty : SendFrom.ip (sendFrom io files opts) = []
    · exact .inl empty
    · refine .inr ?_
      simpa [empty] using single
  · intro tight
    dsimp only at tight ⊢
    rw [tight] at undropped signed encrypted
    exact ⟨by simpa using encrypted, by simpa using signed, by simpa using undropped⟩

theorem outcome_valid {host user : CString} {setting : SendFrom} (valid : setting ≠ .invalid) :
    outcome host user setting = .ok (SendFrom.ip setting) := by
  cases setting with
  | absent => rfl
  | invalid => exact absurd rfl valid
  | found ip => rfl

theorem checked_resolves (checked : Checked io files opts opts')
    (hostFits : opts.host.length ≤ 255) (userFits : opts.userSelector.length ≤ 127)
    (unstated : opts.sendFromIp = []) :
    resolveSendFrom io files opts.host opts.userSelector [] = .ok opts'.sendFromIp := by
  have host_ne : opts.host ≠ [] := checked.host ▸ checked.wellFormed.host.1
  have valid := checked.valid
  have source := checked.source
  unfold sendFrom at valid source
  by_cases empty : opts.userSelector = []
  · rw [if_neg fun all => all.2.1 empty, unstated] at source
    unfold resolveSendFrom
    dsimp only
    rw [empty, List.take_nil, if_neg fun all => all.2.1 rfl, if_neg fun refused => refused.1 rfl,
      source]
    rfl
  · rw [if_pos ⟨host_ne, empty, unstated⟩] at valid source
    rw [resolve_outcome host_ne empty hostFits userFits, outcome_valid valid, source]

theorem parseTransmit_some {parsed : Parsed}
    (accepted : parseTransmit io maps files parsed = .ok opts) :
    ∃ stated placed, applyOptions defaults parsed.options = .ok stated ∧
      applyPositionals io maps files stated parsed.positionals = .ok placed ∧
      Checked io files placed opts := by
  obtain ⟨stated, applied, accepted⟩ := KnockAliasOps.bind_ok accepted
  obtain ⟨placed, addressed, accepted⟩ := KnockAliasOps.bind_ok accepted
  have ranged := applyOptions_ranged ⟨by decide, by decide, by decide⟩ applied
  obtain ⟨host, user, action, more, userId, actionId, -, -, -, rfl⟩ :=
    applyPositionals_some addressed
  exact ⟨stated, _, applied, addressed, validate_checked
    ⟨ranged.port, ranged.fragments, ranged.verbose⟩ (List.length_take_le 255 _)
    (List.length_take_le 512 _) accepted⟩

section Request

/-- What the request of a knock is built of. The payload can come from the standard input. -/
def request (opts : TransmitOpts) (payload : Bytes) : KnockTransmit.Opts where
  hmacMode := opts.hmacMode
  encrypt := opts.encrypt
  userId := UInt32.ofNat opts.userId
  actionId := UInt32.ofNat opts.actionId
  fragmentCount := UInt32.ofNat opts.fragmentCount
  payload := payload

structure Carries (opts : TransmitOpts) (packet : SendPacket) : Prop where
  fragments : packet.fragmentCount.toNat = opts.fragmentCount
  user : ∃ user, packet.user = some user ∧ user.userId.toNat = opts.userId ∧
    user.actionId.toNat = opts.actionId

theorem request_carries (wellFormed : WellFormed opts) (payload : Bytes) (targetIp : CString)
    (targetPort : UInt16) (moment : Moment) : Carries opts
      (buildM7muxSendPacket (request opts payload) opts.protocol targetIp targetPort moment) := by
  have fragments := wellFormed.fragments
  have user := wellFormed.user.2
  have action := wellFormed.action.2
  have counted : opts.fragmentCount < 2 ^ 32 := by
    unfold KnockAliasMap.UINT32_MAX at fragments
    omega
  refine ⟨?_, _, rfl, ?_, ?_⟩
  · change (UInt32.ofNat opts.fragmentCount).toNat = _
    rw [UInt32.toNat_ofNat']
    omega
  · change (UInt32.ofNat opts.userId).toUInt16.toNat = _
    rw [UInt32.toNat_toUInt16, UInt32.toNat_ofNat']
    omega
  · change (UInt32.ofNat opts.actionId).toUInt8.toNat = _
    rw [UInt32.toNat_toUInt8, UInt32.toNat_ofNat']
    omega

end Request

end Accepted

end Siglatch.KnockOpts
